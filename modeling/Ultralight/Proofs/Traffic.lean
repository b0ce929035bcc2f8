/-
  Ultralight.Proofs.Traffic
  ─────────────────────────
  **What passes between a dialogue and a reader.**

  The traffic of an outcome is its list of exchanges; notices and pauses are
  no part of it.  Three ways of reasoning about it:

    • step by step — `hold_bind_ok`, `hold_bind_error` and one equation for
      each kind of request let a talk or an action be followed along the
      answers it gets; `Ends` leaves out what passes on the way,
    • all answers at once — `Asks allowed` says that no answer can make a
      dialogue ask anything but allowed requests; whatever every request made
      keeps, the whole dialogue keeps (`run_keeps`),
    • part by part — `HasEffect rel` says how the state before an action, its
      traffic and the state after it are related; if the relation `Composes`
      it only has to be shown of the parts of an action.
-/
import Ultralight.RawMode

namespace Ultralight

/-! ## §1. Exchanges of an outcome. -/

namespace Dialogue

namespace Event

@[simp] theorem exchanges_nil : exchanges [] = [] := rfl

@[simp] theorem exchanges_cons_exchange (made : Exchange) (events : List Event) :
    exchanges (.exchange made :: events) = made :: exchanges events := rfl

@[simp] theorem exchanges_cons_notice (logged : Notice) (events : List Event) :
    exchanges (.notice logged :: events) = exchanges events := rfl

@[simp] theorem exchanges_cons_pause (milliseconds : Nat) (events : List Event) :
    exchanges (.pause milliseconds :: events) = exchanges events := rfl

@[simp] theorem exchanges_append (events more : List Event) :
    exchanges (events ++ more) = exchanges events ++ exchanges more :=
  List.filterMap_append

@[simp] theorem notices_nil : notices [] = [] := rfl

@[simp] theorem notices_cons_exchange (made : Exchange) (events : List Event) :
    notices (.exchange made :: events) = notices events := rfl

@[simp] theorem notices_cons_notice (logged : Notice) (events : List Event) :
    notices (.notice logged :: events) = logged :: notices events := rfl

@[simp] theorem notices_append (events more : List Event) :
    notices (events ++ more) = notices events ++ notices more :=
  List.filterMap_append

end Event

/-- The exchanges of a dialogue, each with the reader that met it. -/
def encounters {σ α : Type} [Reader σ] : Dialogue α → σ → List (σ × Exchange)
  | done _, _ => []
  | ask request next, reader =>
      let (reply, after) := Reader.answer request reader
      (reader, ⟨request, reply⟩) :: encounters (next reply) after
  | close frame next, reader =>
      let (closed, after) := Reader.close frame reader
      encounters (next closed) after
  | report _ rest, reader => encounters rest reader
  | pause _ rest, reader => encounters rest reader

namespace Outcome

variable {σ α : Type}

/-- The exchanges made, in order. -/
def exchanges (outcome : Outcome σ α) : List Exchange := Event.exchanges outcome.events

/-- The same outcome with more events before it. -/
def precededBy (outcome : Outcome σ α) (events : List Event) : Outcome σ α :=
  { outcome with events := events ++ outcome.events }

@[simp] theorem exchanges_mk (value : α) (reader : σ) (events : List Event) :
    exchanges ⟨value, reader, events⟩ = Event.exchanges events := rfl

@[simp] theorem value_precededBy (outcome : Outcome σ α) (events : List Event) :
    (outcome.precededBy events).value = outcome.value := rfl

@[simp] theorem reader_precededBy (outcome : Outcome σ α) (events : List Event) :
    (outcome.precededBy events).reader = outcome.reader := rfl

@[simp] theorem exchanges_precededBy (outcome : Outcome σ α) (events : List Event) :
    (outcome.precededBy events).exchanges = Event.exchanges events ++ outcome.exchanges :=
  Event.exchanges_append events outcome.events

@[simp] theorem precededBy_nil (outcome : Outcome σ α) : outcome.precededBy [] = outcome := rfl

@[simp] theorem precededBy_precededBy (outcome : Outcome σ α) (events before : List Event) :
    (outcome.precededBy events).precededBy before = outcome.precededBy (before ++ events) := by
  simp [precededBy]

end Outcome

end Dialogue

open Dialogue (Outcome)

/-! ## §2. Following a talk or an action along its answers. -/

namespace Talk

variable {σ α β : Type} [Reader σ]

theorem hold_bind_ok {talk : Talk α} {reader after : σ} {value : α} {events : List Dialogue.Event}
    (h : talk.hold reader = ⟨.ok value, after, events⟩) (next : α → Talk β) :
    (talk >>= next).hold reader = ((next value).hold after).precededBy events := by
  rw [hold_bind, h]
  rfl

theorem hold_bind_error {talk : Talk α} {reader after : σ} {error : Error}
    {events : List Dialogue.Event} (h : talk.hold reader = ⟨.error error, after, events⟩)
    (next : α → Talk β) : (talk >>= next).hold reader = ⟨.error error, after, events⟩ := by
  rw [hold_bind, h]

/-- What a request is answered with is the outcome of asking it. -/
theorem hold_ask_of {request : Request} {reader after : σ} {reply : request.Reply}
    (h : Reader.answer request reader = (reply, after)) :
    (ask request).hold reader = ⟨reply, after, [.exchange ⟨request, reply⟩]⟩ := by
  rw [hold_ask, h]

/-- An attempt that ends in an error is a value like any other. -/
theorem hold_attempt_of {talk : Talk α} {reader after : σ} {result : Except Error α}
    {events : List Dialogue.Event} (h : talk.hold reader = ⟨result, after, events⟩) :
    (attempt talk).hold reader = ⟨.ok result, after, events⟩ := by
  rw [hold_attempt, h]

/-- How a talk ends, and with which reader, whatever passes on the way. -/
def Ends (talk : Talk α) (reader : σ) (result : Except Error α) (after : σ) : Prop :=
  ∃ events, talk.hold reader = ⟨result, after, events⟩

theorem ends_pure (value : α) (reader : σ) : Ends (pure value) reader (.ok value) reader := ⟨_, rfl⟩

theorem ends_report (notice : Notice) (reader : σ) : Ends (report notice) reader (.ok ()) reader :=
  ⟨_, rfl⟩

theorem ends_ofExcept (result : Except Error α) (reader : σ) :
    Ends (ofExcept result) reader result reader := ⟨_, rfl⟩

theorem ends_ask {request : Request} {reader after : σ} {reply : request.Reply}
    (h : Reader.answer request reader = (reply, after)) : Ends (ask request) reader reply after :=
  ⟨_, hold_ask_of h⟩

theorem Ends.attempt {talk : Talk α} {reader after : σ} {result : Except Error α}
    (h : talk.Ends reader result after) : Ends (attempt talk) reader (.ok result) after := by
  obtain ⟨events, held⟩ := h
  exact ⟨events, hold_attempt_of held⟩

theorem Ends.bind {talk : Talk α} {next : α → Talk β} {reader between after : σ} {value : α}
    {result : Except Error β} (first : talk.Ends reader (.ok value) between)
    (rest : (next value).Ends between result after) : (talk >>= next).Ends reader result after := by
  obtain ⟨events, held⟩ := first
  obtain ⟨more, heldRest⟩ := rest
  exact ⟨events ++ more, by rw [hold_bind_ok held, heldRest]; rfl⟩

end Talk

namespace Action

variable {σ s α β : Type} [Reader σ]

theorem hold_bind_ok {action : Action s α} {state changed : s} {reader after : σ} {value : α}
    {events : List Dialogue.Event}
    (h : action.hold state reader = ⟨(.ok value, changed), after, events⟩)
    (next : α → Action s β) :
    (action >>= next).hold state reader = ((next value).hold changed after).precededBy events := by
  rw [hold_bind, h]
  rfl

theorem hold_bind_error {action : Action s α} {state changed : s} {reader after : σ}
    {error : Error} {events : List Dialogue.Event}
    (h : action.hold state reader = ⟨(.error error, changed), after, events⟩)
    (next : α → Action s β) :
    (action >>= next).hold state reader = ⟨(.error error, changed), after, events⟩ := by
  rw [hold_bind, h]

/-- What follows a look at the state is given that state. -/
theorem hold_get_bind (next : s → Action s β) (state : s) (reader : σ) :
    (get >>= next).hold state reader = (next state).hold state reader :=
  hold_bind_ok (hold_get state reader) next

/-- A talk in the place of an action answers as it does on its own. -/
theorem hold_lift_of {talk : Talk α} {reader after : σ} {result : Except Error α}
    {events : List Dialogue.Event} (h : talk.hold reader = ⟨result, after, events⟩) (state : s) :
    (liftM talk : Action s α).hold state reader = ⟨(result, state), after, events⟩ := by
  rw [show (liftM talk : Action s α) = ofTalk talk from rfl, hold_ofTalk, h]

/-- A function of the value changes nothing else. -/
theorem hold_map (f : α → β) (action : Action s α) (state : s) (reader : σ) :
    (f <$> action).hold state reader =
      let first := action.hold state reader
      ⟨(first.value.1.map f, first.value.2), first.reader, first.events⟩ := by
  rw [map_eq_pure_bind, hold_bind]
  rcases action.hold state reader with ⟨⟨result, changed⟩, after, events⟩
  cases result with
  | ok value => simp [Except.map]
  | error error => rfl

/-- Throwing the value away changes nothing else. -/
theorem hold_discard (action : Action s α) (state : s) (reader : σ) :
    (discard action).hold state reader =
      let first := action.hold state reader
      ⟨(first.value.1.map fun _ => ⟨⟩, first.value.2), first.reader, first.events⟩ :=
  hold_map (fun _ => PUnit.unit) action state reader

theorem hold_attempt_of {action : Action s α} {state changed : s} {reader after : σ}
    {result : Except Error α} {events : List Dialogue.Event}
    (h : action.hold state reader = ⟨(result, changed), after, events⟩) :
    (attempt action).hold state reader = ⟨(.ok result, changed), after, events⟩ := by
  rw [hold_attempt, h]

/-- How an action ends, and with which state and reader, whatever passes on
the way. -/
def Ends (action : Action s α) (state : s) (reader : σ) (result : Except Error α) (changed : s)
    (after : σ) : Prop :=
  ∃ events, action.hold state reader = ⟨(result, changed), after, events⟩

theorem ends_pure (value : α) (state : s) (reader : σ) :
    Ends (pure value) state reader (.ok value) state reader := ⟨_, rfl⟩

theorem ends_set (changed state : s) (reader : σ) :
    Ends (set changed : Action s PUnit) state reader (.ok ⟨⟩) changed reader := ⟨_, rfl⟩

theorem ends_lift {talk : Talk α} {reader after : σ} {result : Except Error α}
    (h : talk.Ends reader result after) (state : s) :
    Ends (liftM talk : Action s α) state reader result state after := by
  obtain ⟨events, held⟩ := h
  exact ⟨events, hold_lift_of held state⟩

theorem ends_report (notice : Notice) (state : s) (reader : σ) :
    Ends (liftM (Talk.report notice) : Action s Unit) state reader (.ok ()) state reader :=
  ends_lift (Talk.ends_report notice reader) state

theorem ends_ofExcept (result : Except Error α) (state : s) (reader : σ) :
    Ends (liftM (Talk.ofExcept result) : Action s α) state reader result state reader :=
  ends_lift (Talk.ends_ofExcept result reader) state

/-- What follows a look at the state is given that state. -/
theorem ends_get_bind {next : s → Action s β} {state changed : s} {reader after : σ}
    {result : Except Error β} (h : (next state).Ends state reader result changed after) :
    Ends (get >>= next) state reader result changed after := by
  obtain ⟨events, held⟩ := h
  exact ⟨events, (hold_get_bind next state reader).trans held⟩

namespace Ends

variable {action : Action s α} {state changed : s} {reader after : σ}

theorem bind {next : α → Action s β} {value : α} {last : s} {final : σ} {result : Except Error β}
    (first : action.Ends state reader (.ok value) changed after)
    (rest : (next value).Ends changed after result last final) :
    (action >>= next).Ends state reader result last final := by
  obtain ⟨events, held⟩ := first
  obtain ⟨more, heldRest⟩ := rest
  exact ⟨events ++ more, by rw [hold_bind_ok held, heldRest]; rfl⟩

/-- What succeeds as a whole succeeds in its first part, and the rest goes on
from there. -/
theorem of_bind {next : α → Action s β} {result : β} {last : s} {final : σ}
    (h : (action >>= next).Ends state reader (.ok result) last final) :
    ∃ value changed after, action.Ends state reader (.ok value) changed after ∧
      (next value).Ends changed after (.ok result) last final := by
  obtain ⟨events, whole⟩ := h
  rcases held : action.hold state reader with ⟨⟨error | value, changed⟩, after, first⟩
  · rw [hold_bind_error held] at whole
    cases whole
  · rw [hold_bind_ok held] at whole
    refine ⟨value, changed, after, ⟨_, held⟩, ((next value).hold changed after).events, ?_⟩
    rcases rest : (next value).hold changed after with ⟨⟨ended, left⟩, reader, more⟩
    rw [rest] at whole
    cases whole
    rfl

theorem of_get_bind {next : s → Action s β} {result : Except Error β}
    (h : (get >>= next).Ends state reader result changed after) :
    (next state).Ends state reader result changed after := by
  obtain ⟨events, whole⟩ := h
  exact ⟨events, (hold_get_bind next state reader).symm.trans whole⟩

theorem of_lift {talk : Talk α} {result : Except Error α}
    (h : (liftM talk : Action s α).Ends state reader result changed after) :
    talk.Ends reader result after ∧ changed = state := by
  obtain ⟨events, whole⟩ := h
  rw [hold_lift_of rfl] at whole
  cases whole
  exact ⟨⟨_, rfl⟩, rfl⟩

theorem of_ofExcept {computed result : Except Error α}
    (h : (liftM (Talk.ofExcept computed) : Action s α).Ends state reader result changed after) :
    result = computed ∧ changed = state ∧ after = reader := by
  obtain ⟨events, whole⟩ := h
  cases whole
  exact ⟨rfl, rfl, rfl⟩

theorem of_discard {value : PUnit} (h : (Functor.discard action).Ends state reader (.ok value)
    changed after) : ∃ result, action.Ends state reader (.ok result) changed after := by
  obtain ⟨events, whole⟩ := h
  rw [hold_discard] at whole
  rcases held : action.hold state reader with ⟨⟨error | result, left⟩, last, made⟩ <;>
    rw [held] at whole <;> cases whole
  exact ⟨result, _, held⟩

theorem of_on {t : Type} {part : t → s} {replace : s → t → t} {whole last : t}
    {result : Except Error α}
    (h : (Action.on part replace action).Ends whole reader result last after) :
    ∃ changed, action.Ends (part whole) reader result changed after ∧
      last = replace changed whole := by
  obtain ⟨events, ended⟩ := h
  rw [hold_on] at ended
  cases ended
  exact ⟨_, ⟨_, rfl⟩, rfl⟩

theorem attempt {result : Except Error α} (h : action.Ends state reader result changed after) :
    (attempt action).Ends state reader (.ok result) changed after := by
  obtain ⟨events, held⟩ := h
  exact ⟨events, hold_attempt_of held⟩

theorem discard {value : α} (h : action.Ends state reader (.ok value) changed after) :
    (discard action).Ends state reader (.ok ⟨⟩) changed after := by
  obtain ⟨events, held⟩ := h
  exact ⟨events, by rw [hold_discard, held]; rfl⟩

theorem on {t : Type} {part : t → s} {replace : s → t → t} {whole : t} {result : Except Error α}
    (h : action.Ends (part whole) reader result changed after) :
    (Action.on part replace action).Ends whole reader result (replace changed whole) after := by
  obtain ⟨events, held⟩ := h
  exact ⟨events, by rw [hold_on, held]⟩

end Ends

end Action

/-! ## §3. What a dialogue may ask, whatever the answers. -/

namespace Dialogue

variable {α β : Type} {allowed : Request → Prop}

/-- No answer makes the dialogue ask anything but allowed requests. -/
def Asks (allowed : Request → Prop) : Dialogue α → Prop
  | done _ => True
  | ask request next => allowed request ∧ ∀ reply, Asks allowed (next reply)
  | close _ next => ∀ closed, Asks allowed (next closed)
  | report _ rest => Asks allowed rest
  | pause _ rest => Asks allowed rest

theorem asks_bind {dialogue : Dialogue α} {next : α → Dialogue β} (first : dialogue.Asks allowed)
    (rest : ∀ value, (next value).Asks allowed) : (dialogue >>= next).Asks allowed := by
  show (bind dialogue next).Asks allowed
  -- the second dialogue stands at the leaves of the first one
  induction dialogue with
  | done value => exact rest value
  | ask request answer ih => exact ⟨first.1, fun reply => ih reply (first.2 reply)⟩
  | close frame answer ih => exact fun closed => ih closed (first closed)
  | report notice tail ih => exact ih first
  | pause milliseconds tail ih => exact ih first

theorem asks_map {dialogue : Dialogue α} (f : α → β) (first : dialogue.Asks allowed) :
    (f <$> dialogue).Asks allowed := by
  rw [map_eq_pure_bind]
  exact asks_bind first fun _ => trivial

variable {σ : Type} [Reader σ]

/-- Every exchange made is one of an allowed request. -/
theorem asks_exchanges {dialogue : Dialogue α} (asks : dialogue.Asks allowed) (reader : σ) :
    ∀ made ∈ (dialogue.run reader).exchanges, allowed made.request := by
  induction dialogue generalizing reader with
  | done value => intro made hmade; cases hmade
  | ask request next ih => exact List.forall_mem_cons.mpr ⟨asks.1, ih _ (asks.2 _) _⟩
  | close frame next ih => exact ih _ (asks _) _
  | report notice rest ih => exact ih asks reader
  | pause milliseconds rest ih => exact ih asks reader

/-- Whatever the requests that are made keep, and closing a frame keeps, the
whole dialogue keeps. -/
theorem run_keeps (Inv : σ → Prop)
    (answered : ∀ request reader, allowed request → Inv reader →
      Inv (Reader.answer request reader).2)
    (closed : ∀ frame reader, Inv reader → Inv (Reader.close frame reader).2)
    {dialogue : Dialogue α} {reader : σ}
    (asked : ∀ made ∈ (dialogue.run reader).exchanges, allowed made.request)
    (start : Inv reader) : Inv (dialogue.run reader).reader := by
  -- along the tree, with the reader that each answer leaves behind
  induction dialogue generalizing reader with
  | done value => exact start
  | ask request next ih =>
      obtain ⟨first, rest⟩ := List.forall_mem_cons.mp asked
      exact ih _ rest (answered request reader first start)
  | close frame next ih => exact ih _ asked (closed frame reader start)
  | report notice rest ih => exact ih asked start
  | pause milliseconds rest ih => exact ih asked start

end Dialogue

namespace Talk

variable {α β : Type} {allowed : Request → Prop}

/-- No answer makes the talk ask anything but allowed requests. -/
def Asks (allowed : Request → Prop) (talk : Talk α) : Prop := Dialogue.Asks allowed talk.run

theorem asks_pure (value : α) : Asks allowed (pure value : Talk α) := trivial

theorem asks_throw (error : Error) : Asks allowed (throw error : Talk α) := trivial

theorem asks_ask {request : Request} (h : allowed request) : Asks allowed (ask request) :=
  ⟨h, fun _ => trivial⟩

theorem asks_close (frame : Bytes) : Asks allowed (close frame) := fun _ => trivial

theorem asks_report (notice : Notice) : Asks allowed (report notice) := trivial

theorem asks_pause (milliseconds : Nat) : Asks allowed (pause milliseconds) := trivial

theorem asks_ofExcept (result : Except Error α) : Asks allowed (ofExcept result) := trivial

theorem asks_attempt {talk : Talk α} (h : talk.Asks allowed) : Asks allowed (attempt talk) :=
  Dialogue.asks_map Except.ok h

theorem asks_bind {talk : Talk α} {next : α → Talk β} (first : talk.Asks allowed)
    (rest : ∀ value, (next value).Asks allowed) : (talk >>= next).Asks allowed := by
  refine Dialogue.asks_bind first fun result => ?_
  cases result with
  | ok value => exact rest value
  | error error => exact trivial

end Talk

/-! ## §4. What an action does, whatever the answers. -/

namespace Action

variable {s α β : Type} {rel : s → List Exchange → s → Prop}

/-- What is done when nothing is done, and when one thing is done after the
other. -/
structure Composes (rel : s → List Exchange → s → Prop) : Prop where
  nothing : ∀ state, rel state [] state
  append : ∀ {first between last before after}, rel first before between →
    rel between after last → rel first (before ++ after) last

/-- Whatever the reader answers, the state before an action, its traffic and
the state after it are so related. -/
def HasEffect (rel : s → List Exchange → s → Prop) (action : Action s α) : Prop :=
  ∀ (σ : Type) [Reader σ] (state : s) (reader : σ),
    rel state (action.hold state reader).exchanges (action.hold state reader).value.2

/-- What holds of every exchange made composes. -/
theorem composes_forall (P : Exchange → Prop) :
    Composes fun (_ : s) trace (_ : s) => ∀ made ∈ trace, P made where
  nothing _ := nofun
  append before after := List.forall_mem_append.mpr ⟨before, after⟩

theorem hasEffect_modify {change : s → s} (h : ∀ state, rel state [] (change state)) :
    (modify change : Action s PUnit).HasEffect rel := fun _ _ state _ => h state

/-- A talk leaves the state alone, so its traffic decides. -/
theorem hasEffect_lift {talk : Talk α}
    (h : ∀ (σ : Type) [Reader σ] (reader : σ) state, rel state (talk.hold reader).exchanges state) :
    (liftM talk : Action s α).HasEffect rel := by
  intro σ _ state reader
  rw [hold_lift_of rfl state]
  exact h σ reader state

namespace HasEffect

variable {action : Action s α}

theorem map (f : α → β) (h : action.HasEffect rel) : (f <$> action).HasEffect rel := by
  intro σ _ state reader
  rw [hold_map]
  exact h σ state reader

theorem discard (h : action.HasEffect rel) : (discard action).HasEffect rel := h.map _

theorem attempt (h : action.HasEffect rel) : (attempt action).HasEffect rel := by
  intro σ _ state reader
  rw [hold_attempt]
  exact h σ state reader

end HasEffect

namespace Composes

variable (composes : Composes rel)

include composes

theorem pure (value : α) : (pure value : Action s α).HasEffect rel :=
  fun _ _ state _ => composes.nothing state

theorem throw (error : Error) : (throw error : Action s α).HasEffect rel :=
  fun _ _ state _ => composes.nothing state

theorem get : (get : Action s s).HasEffect rel :=
  fun _ _ state _ => composes.nothing state

/-- An action whose first part fails has done what that part did. -/
theorem bind {action : Action s α} {next : α → Action s β} (first : action.HasEffect rel)
    (rest : ∀ value, (next value).HasEffect rel) : (action >>= next).HasEffect rel := by
  intro σ _ state reader
  have before := first σ state reader
  rcases held : action.hold state reader with ⟨⟨error | value, changed⟩, after, events⟩ <;>
    rw [held] at before
  · rw [hold_bind_error held]
    exact before
  · rw [hold_bind_ok held, Dialogue.Outcome.exchanges_precededBy]
    exact composes.append before (rest value σ changed after)

/-- What two talks do one after the other, the talk of both does. -/
theorem lift_bind {talk : Talk α} {next : α → Talk β}
    (first : (liftM talk : Action s α).HasEffect rel)
    (rest : ∀ value, (liftM (next value) : Action s β).HasEffect rel) :
    (liftM (talk >>= next) : Action s β).HasEffect rel := by
  intro σ _ state reader
  have before := first σ state reader
  rcases held : talk.hold reader with ⟨error | value, after, events⟩ <;>
    rw [hold_lift_of held] at before
  · rw [hold_lift_of (Talk.hold_bind_error held next)]
    exact before
  · have later := rest value σ state after
    rw [hold_lift_of rfl] at later
    rw [hold_lift_of (Talk.hold_bind_ok held next)]
    show rel state (Dialogue.Event.exchanges (events ++ _)) state
    rw [Dialogue.Event.exchanges_append]
    exact composes.append before later

/-- A talk that asks nothing does nothing. -/
theorem silent {talk : Talk α} (asks : talk.Asks fun _ => False) :
    (liftM talk : Action s α).HasEffect rel := by
  refine hasEffect_lift fun σ _ reader state => ?_
  have nothing : (talk.hold reader).exchanges = [] :=
    List.eq_nil_iff_forall_not_mem.mpr (Dialogue.asks_exchanges asks reader)
  rw [nothing]
  exact composes.nothing state

/-- What each of its exchanges does, a talk does. -/
theorem lift {allowed : Request → Prop} {talk : Talk α} (asks : talk.Asks allowed)
    (one : ∀ made state, allowed made.request → rel state [made] state) :
    (liftM talk : Action s α).HasEffect rel := by
  refine hasEffect_lift fun σ _ reader state => ?_
  have all := Dialogue.asks_exchanges asks reader
  show rel state (talk.run.run reader).exchanges state
  generalize (talk.run.run reader).exchanges = trace at all
  induction trace with
  | nil => exact composes.nothing state
  | cons made rest ih =>
      obtain ⟨first, later⟩ := List.forall_mem_cons.mp all
      exact composes.append (one made state first) (ih later)

end Composes

end Action

/-! ## §5. What raw mode asks. -/

namespace RawMode

variable {allowed : Request → Prop}

/-- Entering raw mode switches properties and asks nothing else. -/
theorem asks_enter (h : ∀ property enable, allowed (.setProperty property enable)) :
    enter.Asks allowed := by
  refine Talk.asks_bind (Talk.asks_ask (h _ _)) fun _ => ?_
  refine Talk.asks_bind (Talk.asks_attempt (Talk.asks_ask (h _ _))) fun switched => ?_
  rcases switched with error | ⟨⟩
  · -- what was switched is switched back
    exact Talk.asks_bind (Talk.asks_attempt (Talk.asks_ask (h _ _))) fun _ => Talk.asks_throw error
  · exact Talk.asks_pure ()

/-- Leaving raw mode switches properties and asks nothing else. -/
theorem asks_leave (h : ∀ property enable, allowed (.setProperty property enable)) :
    leave.Asks allowed := by
  refine Talk.asks_bind (Talk.asks_attempt (Talk.asks_ask (h _ _))) fun crc => ?_
  refine Talk.asks_bind (Talk.asks_attempt (Talk.asks_ask (h _ _))) fun framing => ?_
  exact Talk.asks_bind (Talk.asks_ofExcept crc) fun _ => Talk.asks_ofExcept framing

theorem asks_sendBytes {frame : Bytes} (h : allowed (.bytes frame)) :
    (sendBytes frame).Asks allowed :=
  Talk.asks_bind (Talk.asks_report _) fun _ => Talk.asks_ask h

theorem asks_sendFrame {payload : Bytes} (h : ∀ closed, allowed (.bytes closed)) :
    (sendFrame payload).Asks allowed :=
  Talk.asks_bind (Talk.asks_close _) fun closed => asks_sendBytes (h closed)

theorem asks_sendBits {frame : Bytes} {bits : Nat} (h : allowed (.bits frame bits)) :
    (sendBits frame bits).Asks allowed :=
  Talk.asks_bind (Talk.asks_report _) fun _ => Talk.asks_ask h

end RawMode

/-! ## §6. Answers that are the reader's. -/

/-- A reader gave just these answers, one after the other, and was asked
nothing else. -/
def Conversed {σ : Type} [Reader σ] : σ → List Exchange → σ → Prop
  | reader, [], after => after = reader
  | reader, made :: more, after =>
      (Reader.answer made.request reader).1 = made.reply ∧
        Conversed (Reader.answer made.request reader).2 more after

section

variable {σ : Type} [Reader σ] {reader after : σ} {made : Exchange} {first more : List Exchange}

/-- One more answer of the reader in front. -/
theorem conversed_cons :
    Conversed reader (made :: more) after ↔
      (Reader.answer made.request reader).1 = made.reply ∧
        Conversed (Reader.answer made.request reader).2 more after := Iff.rfl

theorem conversed_append :
    Conversed reader (first ++ more) after ↔
      ∃ between, Conversed reader first between ∧ Conversed between more after := by
  induction first generalizing reader with
  | nil => simp [Conversed]
  | cons made first ih =>
      rw [List.cons_append, conversed_cons, ih]
      simp only [conversed_cons, and_assoc, exists_and_left]

/-- What one request is answered with is a conversation of one exchange. -/
theorem conversed_one {request : Request} {reply : request.Reply}
    (h : Reader.answer request reader = (reply, after)) :
    Conversed reader [⟨request, reply⟩] after :=
  ⟨congrArg Prod.fst h, (congrArg Prod.snd h).symm⟩

end

end Ultralight
