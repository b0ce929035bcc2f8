/-
  Ultralight.Proofs.SoundTag
  ──────────────────────────
  **How a session gets at a tag that shows no faults.**

  A `Sound` tag is an Ultralight in the field that tells its variant and
  shows no faults.  Nothing that a session asks of it before it writes leaves
  a trace but on the reader: detecting it, presenting its password and reading
  it all end well, and leave it `reached`.

  Reading gets every page as READ shows it (`ends_readAll`).  That it hides
  the secrets of a protected tag makes no difference if its memory holds them
  and its password was presented: then the image has every page of the tag
  (`SimulatedTag.HoldsSecrets.putInto_shown`).  A clone that takes plain
  writes takes every page of an image (`ends_writeAll_plain`).
-/
import Ultralight.Proofs.Authentication
import Ultralight.Proofs.ReadBack

namespace Ultralight

/-! ## §1. Sound tags. -/

namespace SimulatedTag

/-- An Ultralight in the field that tells its variant and shows no faults. -/
structure Sound (tag : SimulatedTag) : Prop where
  present : tag.present = true
  atqa : tag.atqa1 = ultralightAtqa1
  told : tag.told? = some tag.variant
  faultless : tag.faults = .none

/-- The tag once it was selected and detected: awake, its back door shut, and
its reader out of raw mode. -/
def reached (tag : SimulatedTag) (closedFrames : Nat) : SimulatedTag :=
  { tag.selected with handleCrc := true, easyFraming := true, closedFrames := closedFrames }

variable {tag : SimulatedTag}

/-- A tag as made tells its variant. -/
theorem told?_of_default (h : tag.version = defaultVersion tag.variant) :
    tag.told? = some tag.variant := by
  unfold told?
  rw [h]
  cases tag.variant <;> rfl

theorem ready_reached (present : tag.present = true) (closedFrames : Nat) :
    (tag.reached closedFrames).ready = .ok () :=
  ready_of_awake present rfl rfl

namespace Sound

variable (sound : tag.Sound)

include sound

theorem steady : tag.Steady := .of_faultless sound.present sound.faultless

/-- The reader refuses no switch. -/
theorem switches (change : Property × Bool) : tag.faults.property ≠ some change := by
  rw [sound.faultless]
  exact nofun

/-- A tag that is not a plain Ultralight has a version. -/
theorem version_ne_none (h : tag.variant ≠ .ultralight) : tag.version ≠ none :=
  fun none => h ((ultralight_iff_of_told sound.told).mpr none)

theorem selected : tag.selected.Sound :=
  ⟨sound.present, sound.atqa, sound.told, sound.faultless⟩

theorem reached (closedFrames : Nat) : (tag.reached closedFrames).Sound :=
  ⟨sound.present, sound.atqa, sound.told, sound.faultless⟩

/-- A selection of any tag finds it. -/
theorem answer_select_none :
    Reader.answer (.select none) tag = (.ok (some tag.target), tag.selected) := by
  rw [answer_select_of sound.steady.toSelectable rfl, if_pos sound.present]

/-- A listing finds it too, by a selection. -/
theorem answer_list {most : Nat} (some : most ≠ 0) :
    Reader.answer (.list most) tag = (.ok [tag.target], tag.selected) := by
  show listBySelecting (fun wanted tag => tag.select wanted) most tag = _
  have found : tag.select none = (.ok _, tag.selected) := sound.answer_select_none
  unfold listBySelecting
  dsimp only
  rw [if_neg some, found]
  rfl

end Sound

end SimulatedTag

namespace Session

open SimulatedTag

variable {tag : SimulatedTag} {session : Session}

/-! ## §2. Detecting it and presenting its password. -/

theorem ends_mustSelect {σ : Type} [Reader σ] {uid : Option Uid} {reader after : σ}
    {target : Target} (answered : Reader.answer (.select uid) reader = (.ok (some target), after))
    (session : Session) :
    (mustSelect uid).Ends session reader (.ok target) { session with target := some target }
      after :=
  .bind ⟨_, hold_selectUid answered session⟩ (Action.ends_pure _ _ _)

/-- **A sound tag is detected as what it is**, whether it answers at once or
has to be selected again. -/
theorem ends_detectVariant (sound : tag.Sound) (selected : session.target = some tag.target) :
    detectVariant.Ends session tag.selected (.ok tag.variant) (adopt tag.variant session)
      (tag.reached (tag.closedFrames + 1)) := by
  have asked : getVersion.Ends tag.selected
      (.ok (tag.version.map fun version => Crc.append version.toList))
      { tag.reached (tag.closedFrames + 1) with halted := tag.version.isNone } :=
    ends_getVersion sound.present rfl (sound.switches _) (sound.switches _)
      ⟨sound.switches _, sound.switches _⟩
  have classified := classify_eq_ok_iff.mpr sound.told
  rcases known : tag.version with _ | version <;> rw [known] at asked classified
  · -- a tag that does not answer sleeps, and is the one that is selected again
    obtain ⟨events, asked⟩ := asked
    have plain : tag.variant = .ultralight := (Except.ok.inj classified).symm
    have wanted : session.wantedUid = some tag.uid := by
      unfold wantedUid
      rw [selected]
      rfl
    let asleep : SimulatedTag := { tag.reached (tag.closedFrames + 1) with halted := true }
    have selectable : asleep.Selectable := ⟨sound.steady.found, sound.steady.heard⟩
    have answered : Reader.answer (.select session.wantedUid) asleep =
        (.ok (some tag.target), tag.reached (tag.closedFrames + 1)) := by
      rw [wanted]
      exact (answer_select selectable).trans (if_pos sound.present)
    rcases hold_detectVariant_unanswered asked answered with
      ⟨target, more, found, -, held⟩ | ⟨missing, -⟩
    · cases found
      exact ⟨events ++ more, by rw [held, plain, ← selected]⟩
    · cases missing
  · obtain ⟨events, asked⟩ := asked
    obtain ⟨notices, -, held⟩ := hold_detectVariant_answered asked session
    rw [show Variant.classify (some (Crc.append version.toList)) = .ok tag.variant from classified]
      at held
    exact ⟨events ++ notices, held⟩

/-- **The password of a sound tag is acknowledged.** -/
theorem ends_authenticate {password : Password} (sound : tag.Sound)
    (versioned : tag.version ≠ none) (own : tag.password = some password) (closedFrames : Nat) :
    (authenticate password).Ends session (tag.reached closedFrames) (.ok tag.pack)
      { session with credentials := .of password tag.pack } (tag.reached (closedFrames + 1)) := by
  have atHand : (tag.reached closedFrames).AtHand :=
    ⟨sound.present, rfl, rfl, fun _ => sound.switches _, fun _ => sound.switches _⟩
  have accepts : (tag.reached closedFrames).Accepts password tag.pack := .own versioned own
  obtain ⟨value, reader, -⟩ := authenticate_of_accepts session atHand accepts
  exact ⟨_, congrArg₂ (Dialogue.Outcome.mk · · _) value reader⟩

/-! ## §3. Reading it. -/

/-- A pass over a tag in reach that refuses no block leaves the tag as it is,
and changes the image alone. -/
theorem ReadCourse.undisturbed {pages : Nat} {final : Session} {plan : List Nat} {asleep : Bool}
    {last : SimulatedTag} {exchanges : List Exchange} {markers : List Marker}
    (course : ReadCourse pages session plan asleep tag exchanges markers final last)
    (awake : asleep = false) (ready : tag.ready = .ok ()) (reads : tag.faults.reads = [])
    (within : ∀ first ∈ plan, first < tag.variant.pages) :
    last = tag ∧ ∃ image, final = { session with image := image } := by
  induction course with
  | finished session asleep tag => exact ⟨rfl, session.image, rfl⟩
  | shown answered rest ih =>
      rw [answer_read_shown ready (within _ List.mem_cons_self) (by rw [reads]; rfl)] at answered
      obtain ⟨-, rfl⟩ := Prod.mk.inj answered
      exact ih rfl ready reads fun first hfirst => within first (List.mem_cons_of_mem _ hfirst)
  | refused answered rest ih =>
      rw [answer_read_shown ready (within _ List.mem_cons_self) (by rw [reads]; rfl)] at answered
      cases (Prod.mk.inj answered).1
  | woken answered rest ih => cases awake
  | lost answered missing => cases awake

/-- **Reading a sound tag in reach gets every page as READ shows it**; then
the known secrets are put in. -/
theorem ends_readAll (sound : tag.Sound) (attached : session.Attached tag)
    (ready : tag.ready = .ok ()) :
    ∃ image, image.pages = tag.variant.pages ∧
      (∀ p, p < tag.variant.pages →
        image.pageAt p = session.credentials.putInto tag.variant p (tag.shown p)) ∧
      readAll.Ends session tag
        (.ok { pages := tag.variant.pages, read := tag.variant.pages, failed := 0 })
        { session with image := image } tag := by
  obtain ⟨framed, awake⟩ := awake_of_ready ready
  have effect := readAll_effect attached sound.present awake framed sound.steady.toSelectable
  obtain ⟨markers, final, course, value⟩ := readAll_takesCourse session tag attached.fits
  obtain ⟨same, image, rfl⟩ := course.undisturbed rfl ready (by rw [sound.faultless]; rfl)
    fun first hfirst => by rw [← attached.detected]; exact lt_pages_of_mem_blockStarts hfirst
  have every : ∀ p, tag.yieldsFrom 0 p = true := by
    intro p
    unfold yieldsFrom refusesRead
    rw [sound.faultless]
    rfl
  rcases held : readAll.hold session tag with ⟨⟨result, changed⟩, after, events⟩
  rw [held] at effect same value
  obtain ⟨-, rfl⟩ := Prod.mk.inj value
  refine ⟨_, effect.fits, fun p hp => ?_, events, ?_⟩
  · exact (effect.page p hp).trans (by rw [every p, if_pos rfl])
  · rw [held, show result = _ from effect.report, show after = tag from same,
      List.countP_eq_length.mpr fun p _ => every p,
      List.countP_eq_zero.mpr fun p _ => by rw [every p]; exact Bool.false_ne_true,
      List.length_range]

/-! ## §4. Writing everything to it. -/

/-- **A sound clone in reach that takes plain writes takes every page.** -/
theorem ends_writeAll_plain (sound : tag.Sound) (attached : session.Attached tag)
    (ready : tag.ready = .ok ()) (plain : tag.magic = .directWrite) :
    ∃ final last, (writeAll .all).Ends session tag
        (.ok { pages := tag.variant.pages, written := tag.variant.pages, skipped := 0,
               failed := 0 })
        final last ∧
      last.variant = tag.variant ∧
      ∀ p, p < tag.variant.pages → last.page p = session.image.pageAt p := by
  obtain ⟨framed, awake⟩ := awake_of_ready ready
  have writes : tag.faults.writes = [] := by rw [sound.faultless]; rfl
  have opens : ∀ p, tag.opensAt (List.range tag.variant.pages) p = true := by
    intro p
    unfold opensAt uidWritable
    rw [plain]
    rfl
  have accepts : ∀ p, tag.refusesAt (List.range tag.variant.pages) p = false := by
    intro p
    unfold refusesAt refuses
    rw [opens p, framed, writes]
    rfl
  have fails : ∀ p ∈ plannedPages .all tag.variant,
      tag.refusesAt (plannedPages .all tag.variant) p = (fun _ => false) p := fun p _ => by
    rw [plannedPages_all]
    exact accepts p
  obtain ⟨effect, -, value⟩ := writePages_passEffect attached sound.steady awake .all fails
  rw [plannedPages_all] at effect value
  rw [Bool.not_false, List.countP_true, List.countP_false, countP_skips_all, List.length_range]
    at value
  obtain ⟨events, opened⟩ := ends_openUidPages_plain (show WritePolicy.all.uid = true from rfl)
    sound.steady ready plain (by rw [sound.faultless]; rfl) writes
  have whole := hold_writeAll_opened opened session
  rcases held : (writePages .all 0 session.variant.pages).hold session tag with
    ⟨⟨result, final⟩, last, more⟩
  rw [held] at whole effect value
  obtain rfl : result = .ok
    { pages := tag.variant.pages, written := tag.variant.pages, skipped := 0, failed := 0 } := value
  refine ⟨final, last, ⟨events ++ more, whole.trans rfl⟩,
    variant_eq_of_setup effect.setup, fun p hp => ?_⟩
  rw [effect.page p, if_pos ⟨List.mem_range.mpr hp, accepts p⟩]
  unfold storedAt storing
  rw [opens p, if_pos rfl]

end Session

/-! ## §5. The secrets of a protected tag. -/

/-- The memory of a protected tag holds its password and the acknowledgement
of it, where its variant stores them. -/
def SimulatedTag.HoldsSecrets (tag : SimulatedTag) : Prop :=
  ∀ password, tag.password = some password → ∃ layout, tag.variant.secretLayout = some layout ∧
    tag.page layout.pwdPage = password.page ∧
    (tag.page layout.packPage).b0 = tag.pack.b0 ∧ (tag.page layout.packPage).b1 = tag.pack.b1

/-- What a session knows that presented this password, or none. -/
def SimulatedTag.granted (tag : SimulatedTag) (given : Option Password) : Credentials :=
  given.elim .unknown fun password => .of password tag.pack

namespace SimulatedTag.HoldsSecrets

variable {tag : SimulatedTag} (holds : tag.HoldsSecrets)

include holds

/-- Secrets that the memory holds make no difference to it. -/
theorem putInto_page (p : Nat) :
    (tag.granted tag.password).putInto tag.variant p (tag.page p) = tag.page p := by
  rcases own : tag.password with _ | password
  · unfold Credentials.putInto
    cases tag.variant.secretLayout <;> rfl
  · obtain ⟨layout, hlayout, pwd, b0, b1⟩ := holds password own
    exact Credentials.putInto_eq_self hlayout rfl (fun hp => hp ▸ pwd)
      (fun hp => hp ▸ ⟨b0, b1⟩)

/-- **With its own password, the secrets that READ hides are put back.** -/
theorem putInto_shown (p : Nat) :
    (tag.granted tag.password).putInto tag.variant p (tag.shown p) = tag.page p := by
  rw [Credentials.putInto_shown, holds.putInto_page]
  intro isProtected
  obtain ⟨password, own⟩ := Option.isSome_iff_exists.mp isProtected
  rw [own]
  rfl

end SimulatedTag.HoldsSecrets

end Ultralight
