/-
  Ultralight.Dialogue
  ───────────────────
  **Programs that talk to a reader, apart from any reader.**

  A `Dialogue` says what to ask next, given every answer so far.  It is a
  tree, so it always ends; which path is taken depends on the reader that it
  is held with.  `Dialogue.run` holds it with a reader and yields its value,
  the state of the reader and the events in order: exchanges, log notices and
  pauses.

    • `run_pure`, `run_bind` — running one dialogue after another appends
      their events,
    • an `Action` is a dialogue that may fail and that reads and changes a
      state; `Talk` is one without a state.
-/
import Ultralight.Notice
import Ultralight.Reader

namespace Ultralight

/-! ## §1. Dialogues. -/

/-- What to ask a reader next, given the answers so far. -/
inductive Dialogue (α : Type) where
  /-- Nothing more to ask. -/
  | done (value : α)
  /-- Ask the reader and go on with its answer. -/
  | ask (request : Request) (next : request.Reply → Dialogue α)
  /-- Have the reader close a frame by its checksum. -/
  | close (frame : Bytes) (next : Bytes → Dialogue α)
  /-- Log something. -/
  | report (notice : Notice) (next : Dialogue α)
  /-- Let so many milliseconds pass. -/
  | pause (milliseconds : Nat) (next : Dialogue α)

namespace Dialogue

/-- One dialogue after another. -/
def bind {α β : Type} : Dialogue α → (α → Dialogue β) → Dialogue β
  | done value, next => next value
  | ask request answer, next => ask request fun reply => bind (answer reply) next
  | close frame answer, next => close frame fun closed => bind (answer closed) next
  | report notice rest, next => report notice (bind rest next)
  | pause milliseconds rest, next => pause milliseconds (bind rest next)

instance : Monad Dialogue where
  pure := done
  bind := bind

theorem bind_done {α : Type} (dialogue : Dialogue α) : bind dialogue done = dialogue := by
  induction dialogue with
  | done value => rfl
  | ask request answer ih => exact congrArg (ask request) (funext ih)
  | close frame answer ih => exact congrArg (close frame) (funext ih)
  | report notice rest ih => exact congrArg (report notice) ih
  | pause milliseconds rest ih => exact congrArg (pause milliseconds) ih

theorem bind_bind {α β γ : Type} (dialogue : Dialogue α) (f : α → Dialogue β)
    (g : β → Dialogue γ) : bind (bind dialogue f) g = bind dialogue fun a => bind (f a) g := by
  induction dialogue with
  | done value => rfl
  | ask request answer ih => exact congrArg (ask request) (funext ih)
  | close frame answer ih => exact congrArg (close frame) (funext ih)
  | report notice rest ih => exact congrArg (report notice) ih
  | pause milliseconds rest ih => exact congrArg (pause milliseconds) ih

instance : LawfulMonad Dialogue :=
  LawfulMonad.mk' Dialogue (fun dialogue => bind_done dialogue) (fun _ _ => rfl) bind_bind

/-! ## §2. Holding a dialogue with a reader. -/

/-- Something that happened while a dialogue was held. -/
inductive Event where
  /-- The reader was asked and answered. -/
  | exchange (exchange : Exchange)
  /-- Something was logged. -/
  | notice (notice : Notice)
  /-- So many milliseconds passed. -/
  | pause (milliseconds : Nat)

/-- The value of a dialogue, the reader after it, and what happened. -/
structure Outcome (σ α : Type) where
  value : α
  reader : σ
  events : List Event

/-- Hold a dialogue with a reader. -/
def run {σ α : Type} [Reader σ] : Dialogue α → σ → Outcome σ α
  | done value, reader => ⟨value, reader, []⟩
  | ask request next, reader =>
      let (reply, reader) := Reader.answer request reader
      let rest := run (next reply) reader
      { rest with events := .exchange ⟨request, reply⟩ :: rest.events }
  | close frame next, reader =>
      let (closed, reader) := Reader.close frame reader
      run (next closed) reader
  | report notice next, reader =>
      let rest := run next reader
      { rest with events := .notice notice :: rest.events }
  | pause milliseconds next, reader =>
      let rest := run next reader
      { rest with events := .pause milliseconds :: rest.events }

variable {σ α β : Type} [Reader σ]

@[simp] theorem run_pure (value : α) (reader : σ) :
    run (pure value : Dialogue α) reader = ⟨value, reader, []⟩ := rfl

/-- The second dialogue meets the reader as the first one left it, and its
events follow those of the first. -/
theorem run_bind (dialogue : Dialogue α) (next : α → Dialogue β) (reader : σ) :
    run (dialogue >>= next) reader =
      let first := run dialogue reader
      let second := run (next first.value) first.reader
      ⟨second.value, second.reader, first.events ++ second.events⟩ := by
  show run (bind dialogue next) reader = _
  induction dialogue generalizing reader with
  | done value => rfl
  | ask request answer ih => simp only [bind, run, ih, List.cons_append]
  | close frame answer ih => simp only [bind, run, ih]
  | report notice rest ih => simp only [bind, run, ih, List.cons_append]
  | pause milliseconds rest ih => simp only [bind, run, ih, List.cons_append]

/-- The exchanges among some events, in order. -/
def Event.exchanges (events : List Event) : List Exchange :=
  events.filterMap fun
    | .exchange made => some made
    | _ => none

/-- The notices among some events, in order. -/
def Event.notices (events : List Event) : List Notice :=
  events.filterMap fun
    | .notice logged => some logged
    | _ => none

end Dialogue

/-! ## §3. Dialogues that may fail and that have a state. -/

/-- A dialogue that may fail. -/
abbrev Talk (α : Type) := ExceptT Error Dialogue α

/-- A dialogue that may fail and that reads and changes a state.  A failure
keeps the changes made before it. -/
abbrev Action (s α : Type) := ExceptT Error (StateT s Dialogue) α

namespace Talk

/-- Ask the reader; its failure is the failure of the talk. -/
def ask (request : Request) : Talk request.Value := ExceptT.mk (.ask request .done)

/-- Have the reader close a frame by its checksum. -/
def close (frame : Bytes) : Talk Bytes := ExceptT.mk (.close frame fun closed => .done (.ok closed))

/-- Log something. -/
def report (notice : Notice) : Talk Unit := ExceptT.mk (.report notice (.done (.ok ())))

/-- Let so many milliseconds pass. -/
def pause (milliseconds : Nat) : Talk Unit := ExceptT.mk (.pause milliseconds (.done (.ok ())))

/-- The outcome of a talk as a value; the talk that results never fails. -/
def attempt {α : Type} (talk : Talk α) : Talk (Except Error α) := ExceptT.lift talk.run

/-- A computed result as a talk without any exchange. -/
def ofExcept {α : Type} (result : Except Error α) : Talk α := ExceptT.mk (.done result)

end Talk

namespace Action

variable {s α : Type}

/-- A talk as an action that leaves the state alone. -/
def ofTalk (talk : Talk α) : Action s α :=
  ExceptT.mk fun state => (fun result => (result, state)) <$> talk.run

instance : MonadLift (ExceptT Error Dialogue) (ExceptT Error (StateT s Dialogue)) where
  monadLift := ofTalk

/-- The outcome of an action as a value; the action that results never
fails. -/
def attempt (action : Action s α) : Action s (Except Error α) := ExceptT.lift action.run

/-- An action on a part of a state, done on the whole of it. -/
def on {t : Type} (part : s → t) (replace : t → s → s) (action : Action t α) : Action s α :=
  ExceptT.mk fun state =>
    (fun (result, changed) => (result, replace changed state)) <$> action.run (part state)

/-- The dialogue of an action from a given state on. -/
def dialogue (action : Action s α) (state : s) : Dialogue (Except Error α × s) :=
  action.run state

end Action

/-! ## §4. Holding talks and actions with a reader. -/

open Dialogue (Outcome)

namespace Talk

variable {σ α β : Type} [Reader σ]

/-- Hold a talk with a reader. -/
def hold (talk : Talk α) (reader : σ) : Outcome σ (Except Error α) := Dialogue.run talk.run reader

@[simp] theorem hold_pure (value : α) (reader : σ) :
    hold (pure value) reader = ⟨.ok value, reader, []⟩ := rfl

@[simp] theorem hold_throw (error : Error) (reader : σ) :
    hold (throw error : Talk α) reader = ⟨.error error, reader, []⟩ := rfl

@[simp] theorem hold_ofExcept (result : Except Error α) (reader : σ) :
    hold (ofExcept result) reader = ⟨result, reader, []⟩ := rfl

@[simp] theorem hold_report (notice : Notice) (reader : σ) :
    hold (report notice) reader = ⟨.ok (), reader, [.notice notice]⟩ := rfl

@[simp] theorem hold_pause (milliseconds : Nat) (reader : σ) :
    hold (pause milliseconds) reader = ⟨.ok (), reader, [.pause milliseconds]⟩ := rfl

/-- The answer to a request is the reader's, and the exchange is all that
happens. -/
theorem hold_ask (request : Request) (reader : σ) :
    hold (ask request) reader =
      ⟨(Reader.answer request reader).1, (Reader.answer request reader).2,
        [.exchange ⟨request, (Reader.answer request reader).1⟩]⟩ := rfl

theorem hold_close (frame : Bytes) (reader : σ) :
    hold (close frame) reader =
      ⟨.ok (Reader.close frame reader).1, (Reader.close frame reader).2, []⟩ := rfl

/-- A failure ends a talk; otherwise the second part meets the reader as the
first one left it. -/
theorem hold_bind (talk : Talk α) (next : α → Talk β) (reader : σ) :
    hold (talk >>= next) reader =
      let first := hold talk reader
      match first.value with
      | .ok value =>
          let second := hold (next value) first.reader
          ⟨second.value, second.reader, first.events ++ second.events⟩
      | .error error => ⟨.error error, first.reader, first.events⟩ := by
  show Dialogue.run (talk.run >>= _) reader = _
  rw [Dialogue.run_bind]
  simp only [hold]
  cases (Dialogue.run talk.run reader).value with
  | ok value => rfl
  | error error => simp [ExceptT.bindCont, Dialogue.run_pure]

/-- An attempt does what the talk does, and its outcome is the value. -/
@[simp] theorem hold_attempt (talk : Talk α) (reader : σ) :
    hold (attempt talk) reader =
      let first := hold talk reader
      ⟨.ok first.value, first.reader, first.events⟩ := by
  show Dialogue.run (Except.ok <$> talk.run) reader = _
  rw [map_eq_pure_bind, Dialogue.run_bind]
  simp [hold]

end Talk

namespace Action

variable {σ s α β : Type} [Reader σ]

/-- Hold an action with a reader, from a given state on. -/
def hold (action : Action s α) (state : s) (reader : σ) : Outcome σ (Except Error α × s) :=
  Dialogue.run (action.dialogue state) reader

@[simp] theorem hold_pure (value : α) (state : s) (reader : σ) :
    hold (pure value) state reader = ⟨(.ok value, state), reader, []⟩ := rfl

@[simp] theorem hold_throw (error : Error) (state : s) (reader : σ) :
    hold (throw error : Action s α) state reader = ⟨(.error error, state), reader, []⟩ := rfl

@[simp] theorem hold_get (state : s) (reader : σ) :
    hold (get : Action s s) state reader = ⟨(.ok state, state), reader, []⟩ := rfl

@[simp] theorem hold_set (changed state : s) (reader : σ) :
    hold (set changed : Action s PUnit) state reader = ⟨(.ok ⟨⟩, changed), reader, []⟩ := rfl

@[simp] theorem hold_modify (change : s → s) (state : s) (reader : σ) :
    hold (modify change : Action s PUnit) state reader =
      ⟨(.ok ⟨⟩, change state), reader, []⟩ := rfl

/-- A failure ends an action and keeps the state it was met in. -/
theorem hold_bind (action : Action s α) (next : α → Action s β) (state : s) (reader : σ) :
    hold (action >>= next) state reader =
      let first := hold action state reader
      match first.value.1 with
      | .ok value =>
          let second := hold (next value) first.value.2 first.reader
          ⟨second.value, second.reader, first.events ++ second.events⟩
      | .error error => ⟨(.error error, first.value.2), first.reader, first.events⟩ := by
  show Dialogue.run (action.run state >>= _) reader = _
  rw [Dialogue.run_bind]
  simp only [hold, dialogue]
  generalize Dialogue.run (action.run state) reader = first
  obtain ⟨⟨result, after⟩, left, events⟩ := first
  cases result with
  | ok value => rfl
  | error error =>
      show Outcome.mk (Except.error error, after) left (events ++ []) = _
      rw [List.append_nil]

/-- A talk leaves the state alone. -/
@[simp] theorem hold_ofTalk (talk : Talk α) (state : s) (reader : σ) :
    hold (ofTalk talk) state reader =
      let first := Talk.hold talk reader
      ⟨(first.value, state), first.reader, first.events⟩ := by
  show Dialogue.run ((fun result => (result, state)) <$> talk.run) reader = _
  rw [map_eq_pure_bind, Dialogue.run_bind]
  simp [Talk.hold]

/-- A talk in the place of an action is that talk. -/
@[simp] theorem monadLift_eq_ofTalk (talk : Talk α) :
    (monadLift talk : Action s α) = ofTalk talk := rfl

/-- An attempt does what the action does, and its outcome is the value. -/
@[simp] theorem hold_attempt (action : Action s α) (state : s) (reader : σ) :
    hold (attempt action) state reader =
      let first := hold action state reader
      ⟨(.ok first.value.1, first.value.2), first.reader, first.events⟩ := by
  show Dialogue.run (action.run state >>= fun found =>
    pure (Except.ok found.1, found.2)) reader = _
  rw [Dialogue.run_bind]
  simp only [hold, dialogue]
  generalize Dialogue.run (action.run state) reader = first
  obtain ⟨⟨result, after⟩, left, events⟩ := first
  show Outcome.mk (Except.ok result, after) left (events ++ []) = _
  rw [List.append_nil]

/-- An action on a part of a state changes that part alone. -/
@[simp] theorem hold_on {t : Type} (part : s → t) (replace : t → s → s) (action : Action t α)
    (state : s) (reader : σ) :
    hold (on part replace action) state reader =
      let first := hold action (part state) reader
      ⟨(first.value.1, replace first.value.2 state), first.reader, first.events⟩ := by
  show Dialogue.run (action.run (part state) >>= fun (result, changed) =>
    pure (result, replace changed state)) reader = _
  rw [Dialogue.run_bind]
  simp only [hold, dialogue]
  generalize Dialogue.run (action.run (part state)) reader = first
  obtain ⟨⟨result, after⟩, left, events⟩ := first
  show Outcome.mk (result, replace after state) left (events ++ []) = _
  rw [List.append_nil]

end Action

end Ultralight
