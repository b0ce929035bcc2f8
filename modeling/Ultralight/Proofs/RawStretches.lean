/-
  Ultralight.Proofs.RawStretches
  ──────────────────────────────
  **Raw mode comes in stretches.**

  `Scoped` is the rule of raw mode for a traffic: what is switched off is
  switched on again before anything that needs the framing of the reader, and
  raw mode is left through both of its switches, whatever becomes of the
  first.

  A traffic can be told to keep the rule from its shape.  A `Stretch` is what
  one visit to raw mode makes: it is refused, or undone half way, or held and
  left.  Outside of stretches nothing touches the switches (`InStretches`),
  so traffics of this shape can be put one after the other (`append`), and
  each of them is scoped (`toScoped`).

  A visit for one frame is `Exchanged`: its value is a judgement of one answer
  and of how leaving went.
-/
import Ultralight.Proofs.Traffic

namespace Ultralight

/-! ## §1. The rule. -/

namespace Request

/-- READ, WRITE, selections and listings, for which the reader has to frame
and to add checksums. -/
def isFramed : Request → Bool
  | select _ | list _ | read _ | write _ _ => true
  | _ => false

/-- A frame that is sent as it is. -/
def isFrame : Request → Bool
  | bits _ _ | bytes _ => true
  | _ => false

/-- One of the two switches of raw mode, turned either way. -/
def turnsSwitch : Request → Bool
  | setProperty .handleCrc _ | setProperty .easyFraming _ => true
  | _ => false

/-- Frames need no framing by the reader, and turn no switch. -/
theorem plain_of_isFrame {request : Request} (h : request.isFrame = true) :
    request.isFramed = false ∧ request.turnsSwitch = false := by
  cases request with
  | bits frame count => exact ⟨rfl, rfl⟩
  | bytes frame => exact ⟨rfl, rfl⟩
  | _ => cases h

end Request

/-- The switch of raw mode that was switched off, if the reader did so. -/
def Exchange.switchedOff? : Exchange → Option Property
  | ⟨.setProperty .handleCrc false, .ok _⟩ => some .handleCrc
  | ⟨.setProperty .easyFraming false, .ok _⟩ => some .easyFraming
  | _ => none

theorem Exchange.switchedOff?_of_other {made : Exchange} (h : made.request.turnsSwitch = false) :
    made.switchedOff? = none := by
  rcases made with ⟨request, reply⟩
  cases request with
  | setProperty property enable =>
      cases property with
      | infiniteSelect => rfl
      | handleCrc => cases h
      | easyFraming => cases h
  | _ => rfl

/-- The reader is asked to switch a property on again, and to do nothing
before that for which it has to frame. -/
def SwitchedBack (property : Property) (trace : List Exchange) : Prop :=
  ∃ between reply after, trace = between ++ ⟨.setProperty property true, reply⟩ :: after ∧
    ∀ made ∈ between, made.request.isFramed = false

/-- After some frames both switches are asked for, one after the other,
whatever the reader makes of the first. -/
def LeftByBoth (trace : List Exchange) : Prop :=
  ∃ frames crc framing after,
    trace = frames ++ ⟨.setProperty .handleCrc true, crc⟩ ::
      ⟨.setProperty .easyFraming true, framing⟩ :: after ∧
    ∀ made ∈ frames, made.request.isFrame = true

/-- **Raw mode is scoped**: what was switched off is switched back in time,
and raw mode, once entered, is left by both switches. -/
structure Scoped (trace : List Exchange) : Prop where
  restored : ∀ before off after property, trace = before ++ off :: after →
    off.switchedOff? = some property → SwitchedBack property after
  left : ∀ before off after, trace = before ++ off :: after →
    off.switchedOff? = some .easyFraming → LeftByBoth after

variable {made : Exchange} {trace more : List Exchange}

theorem scoped_nil : Scoped [] where
  restored before off after property split := by simp at split
  left before off after split := by simp at split

/-- One more exchange in front has to be made good by what follows it. -/
theorem Scoped.cons (restored : ∀ property, made.switchedOff? = some property →
      SwitchedBack property trace)
    (left : made.switchedOff? = some .easyFraming → LeftByBoth trace) (rest : Scoped trace) :
    Scoped (made :: trace) where
  restored before off after property split switched := by
    rcases before with _ | ⟨first, before⟩
    · obtain ⟨rfl, rfl⟩ := List.cons.inj split
      exact restored property switched
    · exact rest.restored before off after property (List.cons.inj split).2 switched
  left before off after split switched := by
    rcases before with _ | ⟨first, before⟩
    · obtain ⟨rfl, rfl⟩ := List.cons.inj split
      exact left switched
    · exact rest.left before off after (List.cons.inj split).2 switched

theorem Scoped.cons_of_none (h : made.switchedOff? = none) (rest : Scoped trace) :
    Scoped (made :: trace) :=
  rest.cons (fun _ switched => by simp [h] at switched) (fun switched => by simp [h] at switched)

/-- Frames in front have nothing to make good. -/
theorem Scoped.after_frames (frames : ∀ made ∈ more, made.request.isFrame = true)
    (rest : Scoped trace) : Scoped (more ++ trace) := by
  induction more with
  | nil => exact rest
  | cons made more ih =>
      obtain ⟨frame, frames⟩ := List.forall_mem_cons.mp frames
      have other := Exchange.switchedOff?_of_other (Request.plain_of_isFrame frame).2
      exact (ih frames).cons_of_none other

/-! ## §2. The shape. -/

/-- What one visit to raw mode makes of exchanges. -/
inductive Stretch : List Exchange → Prop where
  /-- The reader refuses to switch off anything. -/
  | refused (error : Error) : Stretch [⟨.setProperty .handleCrc false, .error error⟩]
  /-- The reader refuses the second switch, so the first one is undone. -/
  | undone (error : Error) (reply : Except Error Unit) :
      Stretch [⟨.setProperty .handleCrc false, .ok ()⟩,
        ⟨.setProperty .easyFraming false, .error error⟩, ⟨.setProperty .handleCrc true, reply⟩]
  /-- Frames are sent, and then both switches are asked for. -/
  | held {frames : List Exchange} (sent : ∀ made ∈ frames, made.request.isFrame = true)
      (crc framing : Except Error Unit) :
      Stretch (⟨.setProperty .handleCrc false, .ok ()⟩ ::
        ⟨.setProperty .easyFraming false, .ok ()⟩ ::
          (frames ++ [⟨.setProperty .handleCrc true, crc⟩,
            ⟨.setProperty .easyFraming true, framing⟩]))

/-- A traffic that turns the switches of raw mode in stretches only. -/
inductive InStretches : List Exchange → Prop where
  | nil : InStretches []
  | outside {made : Exchange} {more : List Exchange} (h : made.request.turnsSwitch = false)
      (rest : InStretches more) : InStretches (made :: more)
  | stretch {visit more : List Exchange} (h : Stretch visit) (rest : InStretches more) :
      InStretches (visit ++ more)

namespace InStretches

theorem of_forall (h : ∀ made ∈ trace, made.request.turnsSwitch = false) : InStretches trace := by
  induction trace with
  | nil => exact .nil
  | cons made trace ih =>
      obtain ⟨here, rest⟩ := List.forall_mem_cons.mp h
      exact .outside here (ih rest)

theorem of_stretch {visit : List Exchange} (h : Stretch visit) : InStretches visit := by
  rw [← List.append_nil visit]
  exact .stretch h .nil

theorem append (first : InStretches trace) (second : InStretches more) :
    InStretches (trace ++ more) := by
  induction first with
  | nil => exact second
  | outside h _ ih => exact .outside h ih
  | stretch h _ ih =>
      rw [List.append_assoc]
      exact .stretch h ih

/-- **A traffic in stretches is scoped.** -/
theorem toScoped (h : InStretches trace) : Scoped trace := by
  induction h with
  | nil => exact scoped_nil
  | outside other _ ih => exact ih.cons_of_none (Exchange.switchedOff?_of_other other)
  | @stretch _ more visit _ ih =>
      cases visit with
      | refused error => exact ih.cons_of_none rfl
      | undone error reply =>
          -- the first switch was off while the second was asked for
          refine Scoped.cons (fun property switched => ?_) nofun
            ((ih.cons_of_none rfl).cons_of_none rfl)
          cases switched
          exact ⟨[_], reply, _, rfl, by simp [Request.isFramed]⟩
      | @held frames sent crc framing =>
          have unframed : ∀ made ∈ frames, made.request.isFramed = false :=
            fun made h => (Request.plain_of_isFrame (sent made h)).1
          let crcOn : Exchange := ⟨.setProperty .handleCrc true, crc⟩
          let framingOn : Exchange := ⟨.setProperty .easyFraming true, framing⟩
          have rest : Scoped (frames ++ crcOn :: framingOn :: more) :=
            ((ih.cons_of_none rfl).cons_of_none rfl).after_frames sent
          rw [List.cons_append, List.cons_append, List.append_assoc]
          refine Scoped.cons (fun property switched => ?_) nofun
            (Scoped.cons (fun property switched => ?_) (fun _ => ?_) rest)
          · -- checksums are off while the frames are sent
            cases switched
            exact ⟨_ :: frames, crc, _, rfl, List.forall_mem_cons.mpr ⟨rfl, unframed⟩⟩
          · -- and so is framing, for one request longer
            cases switched
            refine ⟨frames ++ [crcOn], framing, more, by simp [crcOn], ?_⟩
            exact List.forall_mem_append.mpr ⟨unframed, by simp [crcOn, Request.isFramed]⟩
          · exact ⟨frames, crc, framing, _, rfl, sent⟩

end InStretches

/-! ## §3. Traffic in stretches, whatever the answers. -/

/-- No answer makes the talk turn a switch of raw mode outside of a
stretch. -/
def Talk.KeepsScope {α : Type} (talk : Talk α) : Prop :=
  ∀ (σ : Type) [Reader σ] (reader : σ), InStretches (talk.hold reader).exchanges

/-- No state and no answer makes the action do so. -/
abbrev Action.KeepsScope {s α : Type} (action : Action s α) : Prop :=
  action.HasEffect fun _ trace _ => InStretches trace

theorem InStretches.composes {s : Type} :
    Action.Composes fun (_ : s) trace (_ : s) => InStretches trace where
  nothing _ := .nil
  append before after := before.append after

/-- Requests that turn neither switch of raw mode. -/
def Outside (request : Request) : Prop := request.turnsSwitch = false

namespace Talk

variable {α β : Type}

theorem keepsScope_of_asks {talk : Talk α} (asks : talk.Asks Outside) : talk.KeepsScope :=
  fun _ _ reader => .of_forall (Dialogue.asks_exchanges asks reader)

theorem KeepsScope.bind {talk : Talk α} {next : α → Talk β} (first : talk.KeepsScope)
    (rest : ∀ value, (next value).KeepsScope) : (talk >>= next).KeepsScope := by
  intro σ _ reader
  have before := first σ reader
  rcases held : talk.hold reader with ⟨error | value, after, events⟩ <;> rw [held] at before
  · rw [hold_bind_error held]
    exact before
  · rw [hold_bind_ok held, Dialogue.Outcome.exchanges_precededBy]
    exact before.append (rest value σ after)

end Talk

theorem Action.keepsScope_lift {s α : Type} {talk : Talk α} (h : talk.KeepsScope) :
    (liftM talk : Action s α).KeepsScope := hasEffect_lift fun σ _ reader _ => h σ reader

/-! ## §4. One stretch. -/

namespace Talk

variable {α β : Type}

/-- The talk ends well, whatever the answers. -/
def Succeeds (talk : Talk α) : Prop :=
  ∀ (σ : Type) [Reader σ] (reader : σ), ∃ value, (talk.hold reader).value = .ok value

theorem succeeds_pure (value : α) : (pure value : Talk α).Succeeds := fun _ _ _ => ⟨value, rfl⟩

theorem succeeds_report (notice : Notice) : (report notice).Succeeds := fun _ _ _ => ⟨(), rfl⟩

theorem succeeds_attempt (talk : Talk α) : (attempt talk).Succeeds := by
  intro σ _ reader
  exact ⟨_, by rw [hold_attempt]⟩

theorem Succeeds.bind {talk : Talk α} {next : α → Talk β} (first : talk.Succeeds)
    (rest : ∀ value, (next value).Succeeds) : (talk >>= next).Succeeds := by
  intro σ _ reader
  obtain ⟨value, succeeded⟩ := first σ reader
  rcases held : talk.hold reader with ⟨result, after, events⟩
  obtain rfl : result = .ok value := by rw [← succeeded, held]
  rw [hold_bind_ok held, Dialogue.Outcome.value_precededBy]
  exact rest value σ after

/-- Frames are sent, and then both switches of raw mode are asked for,
whatever the answers. -/
def Leaves (talk : Talk α) : Prop :=
  ∀ (σ : Type) [Reader σ] (reader : σ), ∃ frames crc framing,
    (talk.hold reader).exchanges =
      frames ++ [⟨.setProperty .handleCrc true, crc⟩, ⟨.setProperty .easyFraming true, framing⟩] ∧
    ∀ made ∈ frames, made.request.isFrame = true

/-- Frames may be sent before raw mode is left, if sending them cannot fail. -/
theorem Leaves.after_frames {talk : Talk α} {next : α → Talk β}
    (sends : talk.Asks fun request => request.isFrame = true) (succeeds : talk.Succeeds)
    (rest : ∀ value, (next value).Leaves) : (talk >>= next).Leaves := by
  intro σ _ reader
  have sent := Dialogue.asks_exchanges sends reader
  obtain ⟨value, succeeded⟩ := succeeds σ reader
  rcases held : talk.hold reader with ⟨result, after, events⟩
  obtain rfl : result = .ok value := by rw [← succeeded, held]
  obtain ⟨frames, crc, framing, made, all⟩ := rest value σ after
  refine ⟨Dialogue.Event.exchanges events ++ frames, crc, framing, ?_, ?_⟩
  · rw [hold_bind_ok held, Dialogue.Outcome.exchanges_precededBy, made, List.append_assoc]
  · rw [show talk.run.run reader = ⟨.ok value, after, events⟩ from held] at sent
    exact List.forall_mem_append.mpr ⟨sent, all⟩

/-- Nothing is asked any more after raw mode is left. -/
theorem Leaves.before_silence {talk : Talk α} {next : α → Talk β} (leaves : talk.Leaves)
    (silent : ∀ value, (next value).Asks fun _ => False) : (talk >>= next).Leaves := by
  intro σ _ reader
  obtain ⟨frames, crc, framing, made, all⟩ := leaves σ reader
  refine ⟨frames, crc, framing, ?_, all⟩
  rcases held : talk.hold reader with ⟨error | value, after, events⟩ <;> rw [held] at made
  · rw [hold_bind_error held]
    exact made
  · have nothing : ((next value).hold after).exchanges = [] :=
      List.eq_nil_iff_forall_not_mem.mpr (Dialogue.asks_exchanges (silent value) after)
    rw [hold_bind_ok held, Dialogue.Outcome.exchanges_precededBy, nothing, List.append_nil]
    exact made

theorem Leaves.attempt {talk : Talk α} (leaves : talk.Leaves) : (attempt talk).Leaves := by
  intro σ _ reader
  rw [hold_attempt]
  exact leaves σ reader

end Talk

namespace RawMode

open Talk (Leaves)

/-- Both switches, switched off. -/
def switchedOff : List Exchange :=
  [⟨.setProperty .handleCrc false, .ok ()⟩, ⟨.setProperty .easyFraming false, .ok ()⟩]

/-- Both switches, asked for again. -/
def askedBack (crc framing : Except Error Unit) : List Exchange :=
  [⟨.setProperty .handleCrc true, crc⟩, ⟨.setProperty .easyFraming true, framing⟩]

/-- Raw mode is left by both switches. -/
theorem leave_eq_ok {crc framing : Except Error Unit} :
    (do crc; framing) = .ok () ↔ crc = .ok () ∧ framing = .ok () := by
  cases crc with
  | error error => simp [bind, Except.bind]
  | ok value => simp [bind, Except.bind]

/-- What a visit to raw mode for one frame comes to: the reader is not to be
put in raw mode, and nothing is sent; or the frame is answered, both switches
are asked for again, and the value is a judgement of the answer and of how
leaving went. -/
inductive Exchanged {σ α : Type} [Reader σ] (payload : Bytes)
    (judge : Except Error Bytes → Except Error Unit → Except Error α)
    (outcome : Dialogue.Outcome σ (Except Error α)) : Prop where
  | refused (error : Error) (value : outcome.value = .error error)
      (switches : ∀ made ∈ outcome.exchanges, made.request.turnsSwitch = true)
  | sent (inside : σ) (answer : Except Error Bytes) (crc framing : Except Error Unit)
      (value : outcome.value = judge answer (do crc; framing))
      (made : outcome.exchanges = switchedOff ++
        ⟨.bytes (Reader.close payload inside).1, answer⟩ :: askedBack crc framing)

section

variable {σ : Type} [Reader σ] {reader between inside after : σ}

/-- Nothing is to be undone if the first switch is refused. -/
theorem hold_enter_refused {error : Error}
    (first : Reader.answer (.setProperty .handleCrc false) reader = (.error error, after)) :
    enter.hold reader =
      ⟨.error error, after, [.exchange ⟨.setProperty .handleCrc false, .error error⟩]⟩ := by
  unfold enter
  exact Talk.hold_bind_error (Talk.hold_ask_of first) _

/-- If the second switch is refused the first is switched on again. -/
theorem hold_enter_undone {error : Error} {reply : Except Error Unit}
    (first : Reader.answer (.setProperty .handleCrc false) reader = (.ok (), between))
    (second : Reader.answer (.setProperty .easyFraming false) between = (.error error, inside))
    (back : Reader.answer (.setProperty .handleCrc true) inside = (reply, after)) :
    enter.hold reader =
      ⟨.error error, after,
        [.exchange ⟨.setProperty .handleCrc false, .ok ()⟩,
          .exchange ⟨.setProperty .easyFraming false, .error error⟩,
          .exchange ⟨.setProperty .handleCrc true, reply⟩]⟩ := by
  unfold enter
  rw [Talk.hold_bind_ok (Talk.hold_ask_of first),
    Talk.hold_bind_ok (Talk.hold_attempt_of (Talk.hold_ask_of second)),
    Talk.hold_bind_ok (Talk.hold_attempt_of (Talk.hold_ask_of back))]
  rfl

theorem hold_enter
    (first : Reader.answer (.setProperty .handleCrc false) reader = (.ok (), between))
    (second : Reader.answer (.setProperty .easyFraming false) between = (.ok (), inside)) :
    enter.hold reader =
      ⟨.ok (), inside,
        [.exchange ⟨.setProperty .handleCrc false, .ok ()⟩,
          .exchange ⟨.setProperty .easyFraming false, .ok ()⟩]⟩ := by
  unfold enter
  rw [Talk.hold_bind_ok (Talk.hold_ask_of first),
    Talk.hold_bind_ok (Talk.hold_attempt_of (Talk.hold_ask_of second))]
  rfl

/-- Both switches are asked for, also when the first is refused. -/
theorem hold_leave {crc framing : Except Error Unit}
    (first : Reader.answer (.setProperty .handleCrc true) reader = (crc, between))
    (second : Reader.answer (.setProperty .easyFraming true) between = (framing, after)) :
    leave.hold reader =
      ⟨do crc; framing, after,
        [.exchange ⟨.setProperty .handleCrc true, crc⟩,
          .exchange ⟨.setProperty .easyFraming true, framing⟩]⟩ := by
  unfold leave
  rw [Talk.hold_bind_ok (Talk.hold_attempt_of (Talk.hold_ask_of first)),
    Talk.hold_bind_ok (Talk.hold_attempt_of (Talk.hold_ask_of second))]
  rcases crc with error | ⟨⟩ <;> rfl

/-- A frame is sent as it is, and its answer is the outcome. -/
theorem hold_sendBytes {frame : Bytes} {reply : Except Error Bytes}
    (h : Reader.answer (.bytes frame) reader = (reply, after)) :
    (sendBytes frame).hold reader =
      ⟨reply, after, [.notice (.rawBytes frame), .exchange ⟨.bytes frame, reply⟩]⟩ := by
  unfold sendBytes
  rw [Talk.hold_bind_ok (Talk.hold_report _ _), Talk.hold_ask_of h]
  rfl

theorem hold_sendBits {frame : Bytes} {count : Nat} {reply : Except Error Bytes}
    (h : Reader.answer (.bits frame count) reader = (reply, after)) :
    (sendBits frame count).hold reader =
      ⟨reply, after, [.notice (.rawBits frame count), .exchange ⟨.bits frame count, reply⟩]⟩ := by
  unfold sendBits
  rw [Talk.hold_bind_ok (Talk.hold_report _ _), Talk.hold_ask_of h]
  rfl

/-- A frame is closed by the reader and sent, and its answer is the outcome. -/
theorem hold_sendFrame {payload : Bytes} {reply : Except Error Bytes}
    (h : Reader.answer (.bytes (Reader.close payload reader).1) (Reader.close payload reader).2 =
      (reply, after)) :
    (sendFrame payload).hold reader =
      ⟨reply, after, [.notice (.rawBytes (Reader.close payload reader).1),
        .exchange ⟨.bytes (Reader.close payload reader).1, reply⟩]⟩ := by
  unfold sendFrame
  rw [Talk.hold_bind_ok (Talk.hold_close payload reader), hold_sendBytes h]
  rfl

/-- **One frame in raw mode.**  If what follows only judges the answer and how
leaving went, so does the whole visit, unless the reader was not to be put
in raw mode. -/
theorem hold_exchange {α : Type} {next : Except Error Bytes → Except Error Unit → Talk α}
    {judge : Except Error Bytes → Except Error Unit → Except Error α}
    (judges : ∀ (answer : Except Error Bytes) (left : Except Error Unit) (after : σ),
      ∃ notices, Dialogue.Event.exchanges notices = [] ∧
        (next answer left).hold after = ⟨judge answer left, after, notices⟩)
    (payload : Bytes) (reader : σ) :
    let visit : Talk α := do
      enter
      let answer ← Talk.attempt (sendFrame payload)
      let left ← Talk.attempt leave
      next answer left
    Exchanged payload judge (visit.hold reader) := by
  intro visit
  rcases first : Reader.answer (.setProperty .handleCrc false) reader with ⟨error | _, between⟩
  · rw [Talk.hold_bind_error (hold_enter_refused first)]
    exact .refused error rfl (List.forall_mem_singleton.mpr rfl)
  rcases second : Reader.answer (.setProperty .easyFraming false) between with ⟨error | _, inside⟩
  · rw [Talk.hold_bind_error (hold_enter_undone first second rfl)]
    exact .refused error rfl (by simp [Request.turnsSwitch])
  · rcases sent : Reader.answer (.bytes (Reader.close payload inside).1)
      (Reader.close payload inside).2 with ⟨reply, answered⟩
    rcases third : Reader.answer (.setProperty .handleCrc true) answered with ⟨crc, framed⟩
    rcases fourth : Reader.answer (.setProperty .easyFraming true) framed with ⟨framing, after⟩
    obtain ⟨notices, silent, judged⟩ := judges reply (do crc; framing) after
    rw [Talk.hold_bind_ok (hold_enter first second),
      Talk.hold_bind_ok (Talk.hold_attempt_of (hold_sendFrame sent)),
      Talk.hold_bind_ok (Talk.hold_attempt_of (hold_leave third fourth)), judged]
    refine .sent inside reply crc framing rfl ?_
    simp [switchedOff, askedBack, silent]

end

theorem leaves_leave : leave.Leaves := by
  intro σ _ reader
  exact ⟨[], _, _, by rw [hold_leave rfl rfl]; rfl, by simp⟩

theorem leaves_abandon : abandon.Leaves := by
  refine leaves_leave.attempt.before_silence fun left => ?_
  rcases left with error | ⟨⟩
  · exact Talk.asks_report _
  · exact Talk.asks_pure ()

/-- **What is entered and then left is a stretch.** -/
theorem keepsScope_of_leaves {α : Type} {next : Unit → Talk α} (leaves : (next ()).Leaves) :
    (enter >>= next).KeepsScope := by
  intro σ _ reader
  refine .of_stretch ?_
  rcases first : Reader.answer (.setProperty .handleCrc false) reader with ⟨error | _, between⟩
  · rw [Talk.hold_bind_error (hold_enter_refused first)]
    exact .refused error
  · rcases second : Reader.answer (.setProperty .easyFraming false) between
      with ⟨error | _, inside⟩
    · rw [Talk.hold_bind_error (hold_enter_undone first second rfl)]
      exact .undone error _
    · obtain ⟨frames, crc, framing, made, sent⟩ := leaves σ inside
      rw [Talk.hold_bind_ok (hold_enter first second), Dialogue.Outcome.exchanges_precededBy,
        made]
      exact .held sent crc framing

end RawMode

end Ultralight
