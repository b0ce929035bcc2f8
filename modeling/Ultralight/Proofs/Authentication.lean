/-
  Ultralight.Proofs.Authentication
  ────────────────────────────────
  **Which passwords a tag accepts.**

  A tag that does not answer GET_VERSION knows no passwords.  Any other one
  accepts its own password, and if it has none the one it left the factory
  with (`SimulatedTag.Accepts`).

  Presenting a password is one visit to raw mode for one frame.  On a tag that
  is at hand nothing of it can fail but the password itself, so the outcome is
  the tag's judgement (`Session.hold_acknowledgement_of`): an acknowledgement,
  which the reader hands on with its checksum, or a refusal, after which the
  tag sleeps.  `Session.authenticate_accepted_iff` is what a session makes of
  it.
-/
import Ultralight.Proofs.IntactSession

namespace Ultralight

/-! ## §1. The judgement of a tag. -/

/-- The four bytes of a password tell it. -/
theorem Password.bytes_inj {a b : Password} : a.bytes = b.bytes ↔ a = b := by
  constructor
  · intro same
    have pages := congrArg Page.ofList? same
    unfold Password.bytes at pages
    rw [Page.ofList?_toList, Page.ofList?_toList] at pages
    cases a
    exact congrArg Password.mk (Option.some.inj pages)
  · exact congrArg Password.bytes

namespace SimulatedTag

/-- A password that a tag accepts, and its acknowledgement. -/
inductive Accepts (tag : SimulatedTag) (password : Password) : Pack → Prop where
  /-- Its own, acknowledged as the tag was set up to. -/
  | own (versioned : tag.version ≠ none) (protecting : tag.password = some password) :
      Accepts tag password tag.pack
  /-- The one from the factory, acknowledged by zeros. -/
  | factory (versioned : tag.version ≠ none) (unprotected : tag.password = none)
      (given : password = ⟨⟨0xff, 0xff, 0xff, 0xff⟩⟩) : Accepts tag password ⟨0, 0⟩

/-- A tag that hears frames, with a reader that turns its two switches of raw
mode: in the field, selected, out of raw mode, and no change refused. -/
structure AtHand (tag : SimulatedTag) : Prop where
  present : tag.present = true
  selected : tag.halted = false
  framed : tag.inRawMode = false
  crc : ∀ enable, tag.faults.property ≠ some (.handleCrc, enable)
  framing : ∀ enable, tag.faults.property ≠ some (.easyFraming, enable)

variable {tag : SimulatedTag} {password : Password} {pack : Pack}

/-- The tag as the frame of a password meets it: the reader is in raw mode, and
has closed the frame by its checksum. -/
def heard (tag : SimulatedTag) : SimulatedTag :=
  { tag with handleCrc := false, easyFraming := false, closedFrames := tag.closedFrames + 1 }

theorem Accepts.heard (accepts : tag.Accepts password pack) : tag.heard.Accepts password pack := by
  cases accepts with
  | own versioned protecting => exact .own versioned protecting
  | factory versioned unprotected given => exact .factory versioned unprotected given

theorem Accepts.of_heard (accepts : tag.heard.Accepts password pack) :
    tag.Accepts password pack := by
  cases accepts with
  | own versioned protecting => exact .own versioned protecting
  | factory versioned unprotected given => exact .factory versioned unprotected given

/-- A password has one acknowledgement. -/
theorem Accepts.unique {other : Pack} (accepts : tag.Accepts password pack)
    (also : tag.Accepts password other) : pack = other := by
  cases accepts with
  | own _ protecting =>
      cases also with
      | own => rfl
      | factory _ unprotected => rw [unprotected] at protecting; cases protecting
  | factory _ unprotected =>
      cases also with
      | own _ protecting => rw [unprotected] at protecting; cases protecting
      | factory => rfl

theorem checkPassword_of_accepts (accepts : tag.Accepts password pack) :
    tag.checkPassword password.bytes = (.ok (tag.respond pack.bytes), tag) := by
  unfold checkPassword
  cases accepts with
  | own versioned protecting =>
      obtain ⟨version, known⟩ := Option.ne_none_iff_exists'.mp versioned
      rw [known, protecting]
      exact if_pos rfl
  | factory versioned unprotected given =>
      obtain ⟨version, known⟩ := Option.ne_none_iff_exists'.mp versioned
      rw [known, unprotected, given]
      exact if_pos rfl

theorem checkPassword_of_not_accepts (refuses : ∀ pack, ¬ tag.Accepts password pack) :
    tag.checkPassword password.bytes = tag.refuse := by
  unfold checkPassword
  cases known : tag.version with
  | none => rfl
  | some version =>
      have versioned : tag.version ≠ none := by simp [known]
      cases protecting : tag.password with
      | none =>
          refine if_neg fun same => refuses _ (.factory versioned protecting ?_)
          exact (Password.bytes_inj.mp same).symm
      | some own =>
          refine if_neg fun same => refuses _ (.own versioned ?_)
          rw [protecting, Password.bytes_inj.mp same]

end SimulatedTag

open SimulatedTag

namespace Session

open Dialogue (Event)

variable {tag : SimulatedTag} {password : Password} {pack : Pack}

/-! ## §2. Presenting a password. -/

/-- The exchanges of a password whose frame is answered so: raw mode entered,
the frame, raw mode left. -/
def presented (frame : Bytes) (reply : Except Error Bytes) : List Exchange :=
  RawMode.switchedOff ++ ⟨.bytes frame, reply⟩ :: RawMode.askedBack (.ok ()) (.ok ())

/-- An answer that was waited for in raw mode is judged at once. -/
theorem hold_acknowledgement_presented {σ : Type} [Reader σ] {reader after : σ}
    {answer : Except Error Bytes} {left : Except Error Unit} {events : List Event}
    (held : (presentPassword password).hold reader = ⟨.ok (answer, left), after, events⟩) :
    ∃ notices, Event.exchanges notices = [] ∧
      (acknowledgement password).hold reader = ⟨packOf answer left, after, events ++ notices⟩ := by
  unfold acknowledgement
  rw [Talk.hold_bind_ok held]
  rcases answer with error | _ | ⟨b0, _ | ⟨b1, rest⟩⟩
  · exact ⟨[.notice (.authUnanswered error)], rfl, rfl⟩
  · exact ⟨[], rfl, rfl⟩
  · exact ⟨[], rfl, rfl⟩
  · rcases left with error | ⟨⟩
    · exact ⟨[.notice (.authKeptRawMode error)], rfl, rfl⟩
    · exact ⟨[], rfl, rfl⟩

/-- **The outcome is the judgement of the tag**, which leaves the tag as it was
but for its sleep. -/
theorem hold_acknowledgement_of (atHand : tag.AtHand) {reply : Except Error Bytes} {asleep : Bool}
    (obeyed : tag.heard.obey (Frame.authenticate password) =
      (reply, { tag.heard with halted := asleep })) :
    ∃ events, (acknowledgement password).hold tag =
        ⟨packOf reply (.ok ()),
          { tag with halted := asleep, closedFrames := tag.closedFrames + 1 }, events⟩ ∧
      Event.exchanges events = presented (Crc.append (Frame.authenticate password)) reply := by
  let raw : SimulatedTag := { tag with handleCrc := false, easyFraming := false }
  have entered := RawMode.hold_enter (answer_handleCrc tag (atHand.crc false))
    (answer_easyFraming _ (atHand.framing false))
  have sent : Reader.answer (.bytes (Reader.close (Frame.authenticate password) raw).1)
      (Reader.close (Frame.authenticate password) raw).2 =
        (reply, { tag.heard with halted := asleep }) := by
    have present : tag.heard.present = true := atHand.present
    refine (answer_command present rfl _).trans ?_
    rw [show tag.heard.halted = false from atHand.selected, if_neg Bool.false_ne_true]
    exact obeyed
  have left := RawMode.hold_leave
    (answer_handleCrc { tag.heard with halted := asleep } (atHand.crc true))
    (answer_easyFraming _ (atHand.framing true))
  -- out of raw mode is where the reader was before
  have back : ({ tag.heard with halted := asleep, handleCrc := true, easyFraming := true } :
      SimulatedTag) = { tag with halted := asleep, closedFrames := tag.closedFrames + 1 } := by
    obtain ⟨crc, framing⟩ : tag.handleCrc = true ∧ tag.easyFraming = true := by
      simpa [inRawMode] using atHand.framed
    unfold heard
    rw [crc, framing]
  have held : ∃ events, (presentPassword password).hold tag =
        ⟨.ok (reply, .ok ()),
          { tag with halted := asleep, closedFrames := tag.closedFrames + 1 }, events⟩ ∧
      Event.exchanges events = presented (Crc.append (Frame.authenticate password)) reply := by
    unfold presentPassword
    rw [Talk.hold_bind_ok entered,
      Talk.hold_bind_ok (Talk.hold_attempt_of (RawMode.hold_sendFrame sent)),
      Talk.hold_bind_ok (Talk.hold_attempt_of left), ← back]
    exact ⟨_, rfl, rfl⟩
  obtain ⟨events, held, made⟩ := held
  obtain ⟨notices, silent, judged⟩ := hold_acknowledgement_presented held
  refine ⟨events ++ notices, judged, ?_⟩
  rw [Event.exchanges_append, silent, List.append_nil, made]

/-! ## §3. What a session makes of it. -/

/-- The session keeps an acknowledgement together with the password, and
nothing of a refusal. -/
theorem authenticate_of (session : Session) (atHand : tag.AtHand) {reply : Except Error Bytes}
    {asleep : Bool}
    (obeyed : tag.heard.obey (Frame.authenticate password) =
      (reply, { tag.heard with halted := asleep })) :
    let outcome := (authenticate password).hold session tag
    outcome.value = session.acknowledged password (packOf reply (.ok ())) ∧
      outcome.reader = { tag with halted := asleep, closedFrames := tag.closedFrames + 1 } ∧
      outcome.exchanges = presented (Crc.append (Frame.authenticate password)) reply := by
  obtain ⟨events, held, made⟩ := hold_acknowledgement_of atHand obeyed
  obtain ⟨notices, silent, whole⟩ := hold_authenticate held session
  rw [whole]
  refine ⟨rfl, rfl, ?_⟩
  rw [Dialogue.Outcome.exchanges_mk, Event.exchanges_append, silent, List.append_nil]
  exact made

theorem authenticate_of_accepts (session : Session) (atHand : tag.AtHand)
    (accepts : tag.Accepts password pack) :
    let outcome := (authenticate password).hold session tag
    outcome.value = (.ok pack, { session with credentials := .of password pack }) ∧
      outcome.reader = { tag with halted := false, closedFrames := tag.closedFrames + 1 } ∧
      outcome.exchanges = presented (Crc.append (Frame.authenticate password))
        (.ok (Crc.append pack.bytes)) := by
  have obeyed : tag.heard.obey (Frame.authenticate password) =
      (.ok (Crc.append pack.bytes), { tag.heard with halted := false }) := by
    rw [← atHand.selected]
    exact checkPassword_of_accepts accepts.heard
  exact authenticate_of session atHand obeyed

theorem authenticate_of_not_accepts (session : Session) (atHand : tag.AtHand)
    (refuses : ∀ pack, ¬ tag.Accepts password pack) :
    let outcome := (authenticate password).hold session tag
    outcome.value = (.error .authFailed, session) ∧
      outcome.reader = { tag with halted := true, closedFrames := tag.closedFrames + 1 } ∧
      outcome.exchanges = presented (Crc.append (Frame.authenticate password))
        (.error .refused) := by
  have obeyed : tag.heard.obey (Frame.authenticate password) =
      (.error .refused, { tag.heard with halted := true }) :=
    checkPassword_of_not_accepts fun pack accepts => refuses pack accepts.of_heard
  exact authenticate_of session atHand obeyed

/-- **An authentication succeeds exactly if the tag accepts the password.**
Then its acknowledgement is the outcome, it becomes the credentials of the
session together with the password, and the tag stays selected.  Otherwise
nothing of the session changes.  In both cases all that becomes of the tag is
that one more frame was closed for it, and that it may sleep; its memory is as
it was.  The frame is `1b`, the password, and a checksum that passes the
check. -/
theorem authenticate_accepted_iff (session : Session) (atHand : tag.AtHand)
    (password : Password) :
    let outcome := (authenticate password).hold session tag
    let frame := Crc.append (0x1b :: password.bytes)
    (∀ pack, outcome.value.1 = .ok pack ↔ tag.Accepts password pack) ∧
      (∀ pack, tag.Accepts password pack →
        outcome.value.2 = { session with credentials := .of password pack } ∧
          outcome.reader.halted = false) ∧
      ((∀ pack, ¬ tag.Accepts password pack) → outcome.value = (.error .authFailed, session)) ∧
      outcome.reader = { tag with
        halted := outcome.reader.halted, closedFrames := tag.closedFrames + 1 } ∧
      outcome.reader.dump = tag.dump ∧
      Crc.check frame = true ∧ ∃ reply, outcome.exchanges = presented frame reply := by
  intro outcome frame
  by_cases accepted : ∃ pack, tag.Accepts password pack
  · obtain ⟨pack, accepts⟩ := accepted
    obtain ⟨value, reader, made⟩ := authenticate_of_accepts session atHand accepts
    refine ⟨fun other => ⟨fun ok => ?_, fun also => ?_⟩, fun other also => ?_,
      fun refuses => absurd accepts (refuses pack), ?_, ?_, Crc.check_append _, _, made⟩
    · rw [show outcome.value = _ from value] at ok
      exact Except.ok.inj ok ▸ accepts
    · rw [show outcome.value = _ from value, accepts.unique also]
    · rw [show outcome.value = _ from value, show outcome.reader = _ from reader,
        accepts.unique also]
      exact ⟨rfl, rfl⟩
    · rw [show outcome.reader = _ from reader]
    · rw [show outcome.reader = _ from reader]
      rfl
  · have refuses : ∀ pack, ¬ tag.Accepts password pack := fun pack accepts =>
      accepted ⟨pack, accepts⟩
    obtain ⟨value, reader, made⟩ := authenticate_of_not_accepts session atHand refuses
    refine ⟨fun pack => ⟨fun ok => ?_, fun accepts => absurd accepts (refuses pack)⟩,
      fun pack accepts => absurd accepts (refuses pack), fun _ => value, ?_, ?_,
      Crc.check_append _, _, made⟩
    · rw [show outcome.value = _ from value] at ok
      cases ok
    · rw [show outcome.reader = _ from reader]
    · rw [show outcome.reader = _ from reader]
      rfl

/-- An NTAG213 with a password of its own, which was selected. -/
def guardedTag : SimulatedTag :=
  ((SimulatedTag.fresh .ntag213).withPassword ⟨⟨0x12, 0x34, 0x56, 0x78⟩⟩ ⟨0xaa, 0x55⟩).selected

/-- That tag acknowledges its password, and does not accept the one from the
factory. -/
theorem authenticate_accepted_iff_guarded :
    guardedTag.AtHand ∧
      ((authenticate ⟨⟨0x12, 0x34, 0x56, 0x78⟩⟩).hold (fresh .default) guardedTag).value =
        (.ok ⟨0xaa, 0x55⟩, { fresh .default with
          credentials := .of ⟨⟨0x12, 0x34, 0x56, 0x78⟩⟩ ⟨0xaa, 0x55⟩ }) ∧
      ((authenticate .factory).hold (fresh .default) guardedTag).value =
        (.error .authFailed, fresh .default) := by
  have atHand : guardedTag.AtHand := ⟨rfl, rfl, rfl, nofun, nofun⟩
  have accepts : guardedTag.Accepts ⟨⟨0x12, 0x34, 0x56, 0x78⟩⟩ ⟨0xaa, 0x55⟩ := .own nofun rfl
  have refuses : ∀ pack, ¬ guardedTag.Accepts .factory pack := by
    intro pack accepts
    cases accepts with
    | own _ protecting => cases protecting
    | factory _ unprotected => cases unprotected
  obtain ⟨outcome, stored, -⟩ := authenticate_accepted_iff (fresh .default) atHand
    ⟨⟨0x12, 0x34, 0x56, 0x78⟩⟩
  obtain ⟨-, -, failed, -⟩ := authenticate_accepted_iff (fresh .default) atHand .factory
  exact ⟨atHand, Prod.ext ((outcome _).mpr accepts) (stored _ accepts).1, failed refuses⟩

end Session

end Ultralight
