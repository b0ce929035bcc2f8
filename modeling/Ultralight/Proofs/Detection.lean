/-
  Ultralight.Proofs.Detection
  ───────────────────────────
  **When a detected variant is the variant of the tag.**

  Detection ends in one of four ways, whatever the reader
  (`hold_detectVariant_failed` and the three after it): raw mode is not
  entered, an answer is classified, or without an answer the tag is selected
  again, in vain or not.

  On a simulated tag the version answer decides, unless the reader refuses to
  leave raw mode: then the answer is thrown away, the tag counts as a plain
  Ultralight whatever it is, and the reader stays in raw mode
  (`detectVariant_told`).  `detectVariant_deceived` is such a tag.
-/
import Ultralight.Proofs.OpenTag
import Ultralight.Proofs.RawScope

namespace Ultralight

/-! ## §1. The ways detection ends. -/

namespace Session

open Dialogue (Event Outcome)

/-- The end of a detection that classified an answer: the session takes over
the variant, if there is one. -/
def concluded (session : Session) : Except Error Variant → Except Error Variant × Session
  | .ok variant => (.ok variant, adopt variant session)
  | .error error => (.error error, session)

/-- What counts as a version: an answer that reaches the place of the storage
byte, if raw mode was left. -/
def versionOf : Except Error Bytes → Except Error Unit → Option Bytes
  | .ok bytes, .ok () => if versionStorageIndex < bytes.length then some bytes else none
  | _, _ => none

theorem versionOf_eq_some {answer : Except Error Bytes} {left : Except Error Unit}
    {bytes : Bytes} :
    versionOf answer left = some bytes ↔
      answer = .ok bytes ∧ left = .ok () ∧ versionStorageIndex < bytes.length := by
  rcases left with error | ⟨⟩
  · simp [versionOf]
  rcases answer with error | whole
  · simp [versionOf]
  · by_cases long : versionStorageIndex < whole.length
    · simp only [versionOf, if_pos long, Option.some.injEq, Except.ok.injEq, true_and]
      exact ⟨fun same => ⟨same, same ▸ long⟩, fun same => same.1⟩
    · simp only [versionOf, if_neg long, Except.ok.injEq, true_and]
      exact ⟨nofun, fun same => absurd (same.1 ▸ same.2) long⟩

section

variable {σ : Type} [Reader σ] {reader between after : σ} {events : List Event}

/-- **A version is one answer**, as it came. -/
theorem hold_getVersion (reader : σ) :
    RawMode.Exchanged Frame.getVersion (fun answer left => .ok (versionOf answer left))
      (getVersion.hold reader) := by
  unfold getVersion
  apply RawMode.hold_exchange
  intro answer left after
  rcases left with error | ⟨⟩
  · cases answer <;> exact ⟨[.notice (.versionKeptRawMode error)], rfl, rfl⟩
  rcases answer with error | bytes
  · exact ⟨[.notice (.versionUnanswered error)], rfl, rfl⟩
  · unfold versionOf
    by_cases long : versionStorageIndex < bytes.length
    · simp only [if_pos long]
      exact ⟨[], rfl, rfl⟩
    · simp only [if_neg long]
      exact ⟨[.notice (.versionShort bytes.length)], rfl, rfl⟩

/-- What comes after the classification asks nothing. -/
theorem hold_conclusion (answer : Option Bytes) (session : Session) (reader : σ) :
    ∃ notices, Event.exchanges notices = [] ∧
      Action.hold (do
          let variant ← Talk.ofExcept (Variant.classify answer)
          modify (adopt variant)
          Talk.report (.variantDetected variant)
          if variant.secretLayout.isSome && !(← get).credentials.isKnown then
            Talk.report .passwordAdvised
          pure variant : Action Session Variant) session reader =
        ⟨session.concluded (Variant.classify answer), reader, notices⟩ := by
  rcases Variant.classify answer with error | variant
  · exact ⟨[], rfl, rfl⟩
  · rw [Action.hold_bind_ok (Action.hold_lift_of (Talk.hold_ofExcept _ reader) session),
      Action.hold_bind_ok (Action.hold_modify _ session reader),
      Action.hold_bind_ok (Action.hold_lift_of (Talk.hold_report _ reader) _),
      Action.hold_get_bind]
    cases variant.secretLayout.isSome && !(adopt variant session).credentials.isKnown with
    | false => exact ⟨[.notice (.variantDetected variant)], rfl, rfl⟩
    | true =>
        exact ⟨[.notice (.variantDetected variant), .notice .passwordAdvised], rfl, rfl⟩

theorem hold_detectVariant_failed {error : Error}
    (asked : getVersion.hold reader = ⟨.error error, after, events⟩) (session : Session) :
    detectVariant.hold session reader = ⟨(.error error, session), after, events⟩ := by
  unfold detectVariant
  exact Action.hold_bind_error (Action.hold_lift_of asked session) _

theorem hold_detectVariant_answered {bytes : Bytes}
    (asked : getVersion.hold reader = ⟨.ok (some bytes), after, events⟩) (session : Session) :
    ∃ notices, Event.exchanges notices = [] ∧
      detectVariant.hold session reader =
        ⟨session.concluded (Variant.classify (some bytes)), after, events ++ notices⟩ := by
  obtain ⟨notices, silent, held⟩ := hold_conclusion (some bytes) session after
  refine ⟨notices, silent, ?_⟩
  unfold detectVariant
  rw [Action.hold_bind_ok (Action.hold_lift_of asked session)]
  exact congrArg (fun outcome => outcome.precededBy events) held

/-- Without an answer the tag counts as a plain Ultralight once it is found
again. -/
theorem hold_detectVariant_unanswered {reply : Except Error (Option Target)}
    (asked : getVersion.hold reader = ⟨.ok none, between, events⟩) {session : Session}
    (selected : Reader.answer (.select session.wantedUid) between = (reply, after)) :
    let made : Exchange := ⟨.select session.wantedUid, reply⟩
    (∃ target more, reply = .ok (some target) ∧ Event.exchanges more = [made] ∧
      detectVariant.hold session reader =
        ⟨(.ok .ultralight, adopt .ultralight { session with target := some target }), after,
          events ++ more⟩) ∨
    (made.found? = none ∧ ∃ error,
      detectVariant.hold session reader =
        ⟨(.error error, session), after, events ++ [.exchange made]⟩) := by
  have discarded := Action.hold_discard reselect session between
  rw [hold_reselect] at discarded
  unfold detectVariant
  rw [Action.hold_bind_ok (Action.hold_lift_of asked session)]
  rcases hold_mustSelect selected session with ⟨target, rfl, held⟩ | ⟨missing, error, held⟩
  · obtain ⟨notices, silent, concluded⟩ :=
      hold_conclusion none { session with target := some target } after
    rw [held] at discarded
    refine .inl ⟨target, .exchange ⟨.select session.wantedUid, .ok (some target)⟩ ::
      .notice (.targetSelected target) :: notices, rfl, by simp [silent], ?_⟩
    show ((discard reselect >>= _ : Action Session Variant).hold session between).precededBy
      events = _
    rw [Action.hold_bind_ok discarded]
    exact congrArg (fun outcome => (Outcome.precededBy outcome _).precededBy events) concluded
  · rw [held] at discarded
    refine .inr ⟨missing, error, ?_⟩
    show ((discard reselect >>= _ : Action Session Variant).hold session between).precededBy
      events = _
    rw [Action.hold_bind_error discarded]
    rfl

end

end Session

/-! ## §2. The version of a simulated tag. -/

namespace SimulatedTag

variable {tag : SimulatedTag}

/-- The tag and its reader after a version request, raw mode left again: a
tag that does not know the command sleeps. -/
def versionAsked (tag : SimulatedTag) : SimulatedTag :=
  { tag with
    handleCrc := true
    easyFraming := true
    closedFrames := tag.closedFrames + 1
    halted := tag.version.isNone }

/-- In raw mode a version comes with its checksum; a tag without one falls
asleep. -/
theorem obey_getVersion (awake : tag.halted = false) (raw : tag.handleCrc = false) :
    tag.obey Frame.getVersion =
      (tag.version.elim (.error .noAnswer) fun version => .ok (Crc.append version.toList),
        { tag with halted := tag.version.isNone }) := by
  unfold Frame.getVersion obey
  dsimp only
  rw [if_pos rfl]
  split
  · next version known =>
    have stays : tag.version.isNone = tag.halted := by rw [known, awake]; rfl
    unfold respond
    rw [if_neg (by rw [raw]; exact Bool.false_ne_true), stays]
    exact Prod.ext (by rw [known]; rfl) rfl
  · next known =>
    have sleeps : tag.version.isNone = true := by rw [known]; rfl
    rw [sleeps]
    exact Prod.ext (by rw [known]; rfl) rfl

/-- A selection that found the tag woke it. -/
theorem selected_of_found {wanted : Option Uid} {found : Target} {after : SimulatedTag}
    (h : Reader.answer (.select wanted) tag = (.ok (some found), after)) :
    tag.present = true ∧ after = tag.selected := by
  change tag.select wanted = (.ok (some found), after) at h
  unfold select at h
  split at h
  · cases h
  · split at h
    · cases h
    · next here =>
      split at h
      · cases h
      · split at h
        · exact ⟨by simpa using here, (Prod.mk.inj h).2.symm⟩
        · cases h

end SimulatedTag

open SimulatedTag

variable {tag : SimulatedTag}

/-! ## §3. A reader that refuses a switch. -/

theorem SimulatedTag.answer_switch_refused {property : Property} {enable : Bool}
    (h : tag.faults.property = some (property, enable)) :
    Reader.answer (.setProperty property enable) tag =
      (.error (.driver (.propertyRefused property)), tag) := by
  show tag.setProperty property enable = _
  unfold setProperty
  rw [if_pos h]

namespace RawMode

theorem fails_enter (h : tag.faults.property = some (.handleCrc, false) ∨
    tag.faults.property = some (.easyFraming, false)) :
    ∃ error after, enter.Ends tag (.error error) after := by
  rcases h with h | h
  · exact ⟨_, _, _, hold_enter_refused (answer_switch_refused h)⟩
  · exact ⟨_, _, _, hold_enter_undone (answer_handleCrc tag (by simp [h]))
      (answer_switch_refused h) rfl⟩

/-- If switching on again is refused, the reader stays in raw mode. -/
theorem fails_leave (raw : tag.switches = (false, false)) (h : ¬ tag.Restorable) :
    ∃ error after, leave.Ends tag (.error error) after ∧ after.inRawMode = true := by
  obtain ⟨crcOff, framingOff⟩ : tag.handleCrc = false ∧ tag.easyFraming = false :=
    Prod.mk.inj raw
  by_cases crc : tag.faults.property = some (.handleCrc, true)
  · -- the second switch is turned all the same
    refine ⟨_, { tag with easyFraming := true }, ⟨_, hold_leave (answer_switch_refused crc)
      (answer_easyFraming tag (by simp [crc]))⟩, ?_⟩
    simp [inRawMode, crcOff]
  · have framing : tag.faults.property = some (.easyFraming, true) :=
      Decidable.byContradiction fun accepted => h ⟨crc, accepted⟩
    refine ⟨_, { tag with handleCrc := true }, ⟨_, hold_leave (answer_handleCrc tag crc)
      (answer_switch_refused framing)⟩, ?_⟩
    simp [inRawMode, framingOff]

end RawMode

namespace Session

/-! ## §4. Detecting a simulated tag. -/

/-- In raw mode the version is asked for in one frame. -/
theorem ends_askVersion (present : tag.present = true) (awake : tag.halted = false) :
    let raw : SimulatedTag := { tag with handleCrc := false, easyFraming := false }
    (RawMode.sendFrame Frame.getVersion).Ends raw
      (tag.version.elim (.error .noAnswer) fun version => .ok (Crc.append version.toList))
      { raw with closedFrames := tag.closedFrames + 1, halted := tag.version.isNone } :=
  RawMode.ends_sendFrame present awake rfl (obey_getVersion awake rfl)

/-- **The version of a tag that is awake is found out**, if the reader lets
raw mode be left. -/
theorem ends_getVersion (present : tag.present = true) (awake : tag.halted = false)
    (crc : tag.faults.property ≠ some (.handleCrc, false))
    (framing : tag.faults.property ≠ some (.easyFraming, false)) (restorable : tag.Restorable) :
    getVersion.Ends tag (.ok (tag.version.map fun version => Crc.append version.toList))
      tag.versionAsked := by
  let raw : SimulatedTag := { tag with handleCrc := false, easyFraming := false }
  let asked : SimulatedTag :=
    { raw with closedFrames := tag.closedFrames + 1, halted := tag.version.isNone }
  have left : RawMode.leave.Ends asked (.ok ()) tag.versionAsked :=
    RawMode.ends_leave restorable.crc restorable.framing
  refine .bind (RawMode.ends_enter crc framing) ?_
  refine .bind (ends_askVersion present awake).attempt (.bind left.attempt ?_)
  dsimp only [raw]
  rcases tag.version with _ | version
  · exact .bind (Talk.ends_report _ _) (Talk.ends_pure none _)
  · -- eight bytes and a checksum are enough
    dsimp only [Option.elim_some, Option.map_some]
    rw [if_pos (by rw [Crc.length_append, Vector.length_toList]; decide)]
    exact Talk.ends_pure _ _

/-- A reader that does not leave raw mode keeps the version from being
known. -/
theorem ends_getVersion_kept (present : tag.present = true) (awake : tag.halted = false)
    (crc : tag.faults.property ≠ some (.handleCrc, false))
    (framing : tag.faults.property ≠ some (.easyFraming, false)) (h : ¬ tag.Restorable) :
    ∃ after, getVersion.Ends tag (.ok none) after ∧ after.inRawMode = true := by
  let raw : SimulatedTag := { tag with handleCrc := false, easyFraming := false }
  let asked : SimulatedTag :=
    { raw with closedFrames := tag.closedFrames + 1, halted := tag.version.isNone }
  have unrestorable : ¬ asked.Restorable := fun restorable =>
    h ⟨restorable.crc, restorable.framing⟩
  obtain ⟨error, after, left, kept⟩ := RawMode.fails_leave rfl unrestorable
  refine ⟨after, .bind (RawMode.ends_enter crc framing) ?_, kept⟩
  refine .bind (ends_askVersion present awake).attempt (.bind left.attempt ?_)
  exact .bind (Talk.ends_report _ _) (Talk.ends_pure none _)

end Session

/-- No storage byte is that of a plain Ultralight. -/
theorem Variant.ofStorageByte?_ne_ultralight (byte : UInt8) :
    Variant.ofStorageByte? byte ≠ some .ultralight := by
  unfold Variant.ofStorageByte?
  grind

/-- The variant that a tag tells: that of the storage byte of its version
answer, and without an answer a plain Ultralight. -/
def SimulatedTag.told? (tag : SimulatedTag) : Option Variant :=
  match tag.version with
  | some version => Variant.ofStorageByte? (version.get ⟨versionStorageIndex, by decide⟩)
  | none => some .ultralight

namespace SimulatedTag

/-- Classifying the answer of a tag finds what it tells. -/
theorem classify_eq_ok_iff {variant : Variant} :
    Variant.classify (tag.version.map fun version => Crc.append version.toList) = .ok variant ↔
      tag.told? = some variant := by
  unfold told?
  rcases tag.version with _ | version
  · exact ⟨fun h => congrArg some (Except.ok.inj h),
      fun h => congrArg Except.ok (Option.some.inj h)⟩
  · have storage : (Crc.append version.toList)[versionStorageIndex]? =
        some (version.get ⟨versionStorageIndex, by decide⟩) := by
      have within : versionStorageIndex < version.toList.length := by
        rw [Vector.length_toList]
        decide
      unfold Crc.append
      rw [List.getElem?_append_left within, List.getElem?_eq_getElem within, Vector.getElem_toList]
      rfl
    unfold Variant.classify
    rw [Option.map_some, Option.bind_some, storage]
    dsimp only
    rcases Variant.ofStorageByte? _ with _ | found
    · exact ⟨nofun, nofun⟩
    · exact ⟨fun h => congrArg some (Except.ok.inj h),
        fun h => congrArg Except.ok (Option.some.inj h)⟩

/-- A plain Ultralight is told by the missing answer alone. -/
theorem ultralight_iff_of_told {variant : Variant} (h : tag.told? = some variant) :
    variant = .ultralight ↔ tag.version = none := by
  unfold told? at h
  rcases known : tag.version with _ | version <;> rw [known] at h
  · exact ⟨fun _ => rfl, fun _ => (Option.some.inj h).symm⟩
  · refine ⟨?_, nofun⟩
    rintro rfl
    exact absurd h (Variant.ofStorageByte?_ne_ultralight _)

end SimulatedTag

namespace Session

/-- A detection that succeeds without an answer found the tag again. -/
theorem detectVariant_unanswered {between : SimulatedTag}
    (asked : getVersion.Ends tag (.ok none) between) {session : Session} {variant : Variant}
    (detected : (detectVariant.hold session tag).value.1 = .ok variant) :
    let outcome := detectVariant.hold session tag
    variant = .ultralight ∧ outcome.reader = between.selected ∧
      ∃ target, outcome.value.2 = adopt variant { session with target := some target } := by
  obtain ⟨events, asked⟩ := asked
  rcases selected : Reader.answer (.select session.wantedUid) between with ⟨reply, after⟩
  rcases hold_detectVariant_unanswered asked selected with
    ⟨target, more, rfl, -, held⟩ | ⟨-, error, held⟩
  · rw [held] at detected ⊢
    cases detected
    exact ⟨rfl, (selected_of_found selected).2, target, rfl⟩
  · rw [held] at detected
    cases detected

/-- **What a detection that succeeds has found.**  The session takes over the
variant with a blank image of its size.  If the reader lets raw mode be left,
it is the variant that the tag tells, and READ reaches the tag; if not, it is
a plain Ultralight whatever the tag tells, and the reader stays in raw
mode. -/
theorem detectVariant_told (present : tag.present = true) (awake : tag.halted = false)
    {session : Session} {variant : Variant}
    (detected : (detectVariant.hold session tag).value.1 = .ok variant) :
    let outcome := detectVariant.hold session tag
    outcome.value.2.variant = variant ∧ outcome.value.2.image = .blank variant ∧
      (tag.Restorable → tag.told? = some variant ∧ (variant = .ultralight ↔ tag.version = none) ∧
        outcome.reader.ready = .ok ()) ∧
      (¬ tag.Restorable → variant = .ultralight ∧ outcome.reader.inRawMode = true) := by
  by_cases refused : tag.faults.property = some (.handleCrc, false) ∨
      tag.faults.property = some (.easyFraming, false)
  · -- raw mode is not even entered
    obtain ⟨error, after, events, entered⟩ := RawMode.fails_enter refused
    rw [hold_detectVariant_failed (Talk.hold_bind_error entered _) session] at detected
    cases detected
  obtain ⟨crc, framing⟩ := not_or.mp refused
  by_cases restorable : tag.Restorable
  · have asked := ends_getVersion present awake crc framing restorable
    rcases known : tag.version with _ | version <;> rw [known] at asked
    · -- the tag is asleep until it is selected again
      obtain ⟨rfl, woken, target, adopted⟩ := detectVariant_unanswered asked detected
      have told : tag.told? = some .ultralight := by
        unfold told?
        rw [known]
      refine ⟨by rw [adopted]; rfl, by rw [adopted]; rfl, fun _ => ⟨told, by simp, ?_⟩,
        fun kept => absurd restorable kept⟩
      rw [woken]
      exact ready_of_awake present rfl rfl
    · obtain ⟨events, asked⟩ := asked
      obtain ⟨notices, -, held⟩ := hold_detectVariant_answered asked session
      rw [held] at detected ⊢
      rcases classified : Variant.classify (some (Crc.append version.toList)) with error | found <;>
        rw [classified] at detected
      · cases detected
      · cases detected
        have told : tag.told? = some variant :=
          classify_eq_ok_iff.mp (by rw [known]; exact classified)
        have stays : tag.versionAsked.halted = false := by
          unfold versionAsked
          rw [known]
          rfl
        exact ⟨rfl, rfl, fun _ => ⟨told, known ▸ ultralight_iff_of_told told,
          ready_of_awake present rfl stays⟩, fun kept => absurd restorable kept⟩
  · obtain ⟨after, asked, kept⟩ := ends_getVersion_kept present awake crc framing restorable
    obtain ⟨rfl, woken, target, adopted⟩ := detectVariant_unanswered asked detected
    refine ⟨by rw [adopted]; rfl, by rw [adopted]; rfl, fun h => absurd h restorable,
      fun _ => ⟨rfl, ?_⟩⟩
    -- a selection is made in raw mode too, and leaves it on
    rw [woken]
    exact kept

/-- An NTAG213 whose reader refuses nothing is told from its version. -/
theorem detectVariant_told_ntag213 :
    let tag := { SimulatedTag.fresh .ntag213 with halted := false }
    let outcome := detectVariant.hold (fresh .default) tag
    tag.present = true ∧ tag.halted = false ∧ outcome.value.1 = .ok .ntag213 ∧
      tag.Restorable ∧ tag.told? = some .ntag213 ∧ outcome.value.2.image = .blank .ntag213 ∧
      outcome.reader.ready = .ok () := by
  intro tag outcome
  have present : tag.present = true := rfl
  have awake : tag.halted = false := rfl
  have detected : (detectVariant.hold (fresh .default) tag).value.1 = .ok .ntag213 := rfl
  have restorable : tag.Restorable := ⟨nofun, nofun⟩
  obtain ⟨-, image, told, -⟩ := detectVariant_told present awake detected
  obtain ⟨own, -, ready⟩ := told restorable
  exact ⟨present, awake, detected, restorable, own, image, ready⟩

/-- An NTAG213 that answers as one, but whose reader refuses to switch framing
on again: detection succeeds and takes it for a plain Ultralight, and the
reader is left in raw mode. -/
theorem detectVariant_deceived :
    let tag := { SimulatedTag.fresh .ntag213 with
      halted := false
      faults := { Faults.none with property := some (.easyFraming, true) } }
    let outcome := detectVariant.hold (fresh .default) tag
    tag.present = true ∧ tag.halted = false ∧ tag.inRawMode = false ∧
      tag.told? = some .ntag213 ∧ outcome.value.1 = .ok .ultralight ∧
      outcome.value.2.image = .blank .ultralight ∧ outcome.reader.inRawMode = true :=
  ⟨rfl, rfl, rfl, rfl, rfl, rfl, rfl⟩

end Session

end Ultralight
