/-
  Ultralight.Proofs.Waiting
  ─────────────────────────
  **How long a wait for a tag lasts, and what happens meanwhile.**

  A selection is `Fruitless` if it finds nothing or fails in the exchange;
  any other selection ends the wait.  `selectionAt n` is the outcome of
  selection `n`, counted from 0, of a reader that is asked for nothing but
  selections.

    • `hold_waitFrom_fruitless` — what one fruitless selection makes of the
      rest of the wait,
    • `hold_waitFrom_retries` — the same for a row of them, by induction on
      its length,
    • `waitForTag_ends` — a wait makes one selection after the other up to
      the first that is not fruitless, and ends as that one does; for a
      simulated tag the number is that of its pending faults and one.
-/
import Ultralight.Proofs.SteadyTag
import Ultralight.ScriptedReader

namespace Ultralight

open Dialogue (Event Outcome)

/-- The pauses among some events, in order. -/
def Dialogue.Event.pauses (events : List Event) : List Nat :=
  events.filterMap fun
    | .pause milliseconds => some milliseconds
    | _ => none

namespace Session

/-! ## §1. Selections in a row. -/

/-- Selections that are made again: an empty one, and one that failed in the
exchange or in the reader. -/
inductive Fruitless : Except Error (Option Target) → Prop where
  | empty : Fruitless (.ok none)
  | transport (code : Int) : Fruitless (.error (.transport code))
  | driver (fault : ReaderFault) : Fruitless (.error (.driver fault))

theorem fruitless_error_iff {error : Error} :
    Fruitless (.error error) ↔ error.isTransport = true := by
  constructor
  · rintro (_ | _) <;> rfl
  · intro h
    cases error with
    | transport code => exact .transport code
    | driver fault => exact .driver fault
    | _ => cases h

theorem not_fruitless_found (target : Target) : ¬ Fruitless (.ok (some target)) := nofun

section

variable {σ : Type} [Reader σ]

/-- A reader after so many selections in a row. -/
def afterSelections (filter : Option Uid) : Nat → σ → σ
  | 0, reader => reader
  | n + 1, reader => afterSelections filter n (Reader.answer (.select filter) reader).2

/-- The outcome of selection `n`, counted from 0, of selections in a row. -/
def selectionAt (filter : Option Uid) (n : Nat) (reader : σ) : Except Error (Option Target) :=
  (Reader.answer (.select filter) (afterSelections filter n reader)).1

/-- One selection after a row of them. -/
theorem answer_afterSelections (filter : Option Uid) (n : Nat) (reader : σ) :
    Reader.answer (.select filter) (afterSelections filter n reader) =
      (selectionAt filter n reader, afterSelections filter (n + 1) reader) := by
  have last : ∀ (n : Nat) (reader : σ), afterSelections filter (n + 1) reader =
      (Reader.answer (.select filter) (afterSelections filter n reader)).2 := by
    intro n
    induction n with
    | zero => intro reader; rfl
    | succ n ih => intro reader; exact ih _
  rw [last]
  rfl

/-! ## §2. What happens during a wait. -/

/-- What a selection logs: a tag that is found, and a failure of the
exchange, which will be mended by the next selection. -/
def selectionNotices : Except Error (Option Target) → List Notice
  | .ok none => []
  | .ok (some target) => [.targetSelected target]
  | .error error => if error.isTransport then [.selectionFailed error] else []

/-- A selection and what it logs. -/
def attemptEvents (filter : Option Uid) (outcome : Except Error (Option Target)) : List Event :=
  .exchange ⟨.select filter, outcome⟩ :: (selectionNotices outcome).map .notice

/-- What stands between two selections: the first time the announcement, and
always one pause. -/
def betweenEvents (pollMs : Nat) (announced : Bool) : List Event :=
  if announced then [.pause pollMs] else [.notice .waiting, .pause pollMs]

/-- So many fruitless selections, each followed by a pause; the wait is
announced after the first of them unless it was before. -/
def retryEvents (filter : Option Uid) (pollMs n : Nat) (announced : Bool) (reader : σ) :
    List Event :=
  (List.range n).flatMap fun i =>
    attemptEvents filter (selectionAt filter i reader) ++ betweenEvents pollMs (announced || 0 < i)

theorem retryEvents_succ (filter : Option Uid) (pollMs n : Nat) (announced : Bool) (reader : σ) :
    retryEvents filter pollMs (n + 1) announced reader =
      attemptEvents filter (selectionAt filter 0 reader) ++ betweenEvents pollMs announced ++
        retryEvents filter pollMs n true (Reader.answer (.select filter) reader).2 := by
  unfold retryEvents
  rw [List.range_succ_eq_map, List.flatMap_cons, List.flatMap_map]
  simp only [Bool.true_or, Nat.succ_pos, decide_true, Bool.or_true, Nat.lt_irrefl, decide_false,
    Bool.or_false]
  rfl

/-! ## §3. One selection of a wait. -/

variable {filter : Option Uid} {pollMs : Nat} {session : Session} {reader after : σ}

/-- The wait as it goes on after a fruitless selection. -/
def waitOn (filter : Option Uid) (pollMs attempts : Nat) (announced : Bool) :
    Action Session (Option Target) := do
  unless announced do
    Talk.report .waiting
  Talk.pause pollMs
  waitFrom filter pollMs attempts true

theorem hold_waitOn (attempts : Nat) (announced : Bool) (session : Session) (reader : σ) :
    (waitOn filter pollMs attempts announced).hold session reader =
      ((waitFrom filter pollMs attempts true).hold session reader).precededBy
        (betweenEvents pollMs announced) := by
  have paused : ∀ next : Action Session (Option Target),
      (liftM (Talk.pause pollMs) >>= fun _ => next).hold session reader =
        (next.hold session reader).precededBy [.pause pollMs] := fun next =>
    Action.hold_bind_ok (Action.hold_lift_of (Talk.hold_pause pollMs reader) session) _
  cases announced with
  | true => exact paused _
  | false =>
      show (liftM (Talk.report .waiting) >>= fun _ => waitOn filter pollMs attempts true).hold
        session reader = _
      rw [Action.hold_bind_ok (Action.hold_lift_of (Talk.hold_report .waiting reader) session) _]
      show (Action.hold (liftM (Talk.pause pollMs) >>= fun _ => _) session reader).precededBy _ = _
      rw [paused, Outcome.precededBy_precededBy]
      rfl

/-- A fruitless selection is followed by a pause, and by the rest of the
wait. -/
theorem hold_waitFrom_fruitless {outcome : Except Error (Option Target)}
    (fruitless : Fruitless outcome)
    (answered : Reader.answer (.select filter) reader = (outcome, after))
    (attempts : Nat) (announced : Bool) :
    (waitFrom filter pollMs (attempts + 1) announced).hold session reader =
      ((waitOn filter pollMs attempts announced).hold session after).precededBy
        (attemptEvents filter outcome) := by
  have selected := hold_selectUid answered session
  rcases outcome with error | found | target
  · -- a failure is logged before the wait goes on
    have mended : error.isTransport = true := fruitless_error_iff.mp fruitless
    refine (Action.hold_bind_ok (Action.hold_attempt_of selected) _).trans ?_
    simp only [mended, if_true]
    show (Action.hold (liftM (Talk.report (.selectionFailed error)) >>= fun _ =>
      waitOn filter pollMs attempts announced) session after).precededBy _ = _
    rw [Action.hold_bind_ok (Action.hold_lift_of (Talk.hold_report _ after) session),
      Outcome.precededBy_precededBy]
    simp [attemptEvents, selectionNotices, mended]
  · exact Action.hold_bind_ok (Action.hold_attempt_of selected) _
  · exact absurd fruitless (not_fruitless_found target)

/-- A tag that is found ends the wait and becomes the target. -/
theorem hold_waitFrom_found {target : Target}
    (answered : Reader.answer (.select filter) reader = (.ok (some target), after))
    (attempts : Nat) (announced : Bool) :
    (waitFrom filter pollMs (attempts + 1) announced).hold session reader =
      ⟨(.ok (some target), { session with target := some target }), after,
        attemptEvents filter (.ok (some target))⟩ :=
  Action.hold_bind_ok (Action.hold_attempt_of (hold_selectUid answered session)) _

/-- An error that no repetition would mend ends the wait. -/
theorem hold_waitFrom_failed {error : Error} (final : ¬ Fruitless (.error error))
    (answered : Reader.answer (.select filter) reader = (.error error, after))
    (attempts : Nat) (announced : Bool) :
    (waitFrom filter pollMs (attempts + 1) announced).hold session reader =
      ⟨(.error error, session), after, attemptEvents filter (.error error)⟩ := by
  have last : error.isTransport = false := by
    rw [← Bool.not_eq_true]
    exact fun mended => final (fruitless_error_iff.mpr mended)
  refine (Action.hold_bind_ok (Action.hold_attempt_of (hold_selectUid answered session)) _).trans ?_
  simp only [last, attemptEvents, selectionNotices]
  rfl

/-! ## §4. A row of fruitless selections. -/

/-- A wait outlasts a row of fruitless selections: what is left of it meets
the reader after them. -/
theorem hold_waitFrom_retries (n rest : Nat) :
    ∀ (announced : Bool) (reader : σ), (∀ i < n, Fruitless (selectionAt filter i reader)) →
      (waitFrom filter pollMs (rest + n) announced).hold session reader =
        ((waitFrom filter pollMs rest (announced || 0 < n)).hold session
          (afterSelections filter n reader)).precededBy
            (retryEvents filter pollMs n announced reader) := by
  induction n with
  | zero =>
      intro announced reader _
      simp [retryEvents, afterSelections]
  | succ n ih =>
      intro announced reader fruitless
      -- the first selection is followed by a wait that is announced
      rcases answered : Reader.answer (.select filter) reader with ⟨outcome, after⟩
      have here : selectionAt filter 0 reader = outcome := congrArg Prod.fst answered
      have there : (Reader.answer (.select filter) reader).2 = after := congrArg Prod.snd answered
      have first : Fruitless outcome := here ▸ fruitless 0 (Nat.succ_pos n)
      have others : ∀ i < n, Fruitless (selectionAt filter i after) := by
        intro i hi
        rw [← there]
        exact fruitless (i + 1) (Nat.succ_lt_succ hi)
      rw [← Nat.add_assoc, hold_waitFrom_fruitless first answered, hold_waitOn, ih true after others,
        Outcome.precededBy_precededBy, Outcome.precededBy_precededBy, retryEvents_succ, here, there]
      simp [afterSelections, there]

/-! ## §5. A row of fruitless selections, event by event. -/

theorem exchanges_attemptEvents (outcome : Except Error (Option Target)) :
    Event.exchanges (attemptEvents filter outcome) = [⟨.select filter, outcome⟩] := by
  have quiet : ∀ logged : List Notice, Event.exchanges (logged.map .notice) = [] := by
    intro logged
    induction logged with
    | nil => rfl
    | cons notice logged ih => exact ih
  simp [attemptEvents, quiet]

theorem exchanges_betweenEvents (announced : Bool) :
    Event.exchanges (betweenEvents pollMs announced) = [] := by
  cases announced <;> rfl

/-- Nothing but selections is asked in a row of them. -/
theorem exchanges_retryEvents (n : Nat) (announced : Bool) (reader : σ) :
    Event.exchanges (retryEvents filter pollMs n announced reader) =
      (List.range n).map fun i => ⟨.select filter, selectionAt filter i reader⟩ := by
  have attempt : ∀ i, Event.exchanges (attemptEvents filter (selectionAt filter i reader) ++
      betweenEvents pollMs (announced || 0 < i)) =
        [⟨.select filter, selectionAt filter i reader⟩] := by
    intro i
    rw [Event.exchanges_append, exchanges_attemptEvents, exchanges_betweenEvents, List.append_nil]
  show (List.flatMap _ (List.range n)).filterMap _ = _
  rw [List.filterMap_flatMap, List.map_eq_flatMap]
  exact congrArg (List.flatMap · (List.range n)) (funext attempt)

theorem pauses_append (events more : List Event) :
    Event.pauses (events ++ more) = Event.pauses events ++ Event.pauses more :=
  List.filterMap_append

theorem pauses_attemptEvents (outcome : Except Error (Option Target)) :
    Event.pauses (attemptEvents filter outcome) = [] := by
  have steady : ∀ logged : List Notice, Event.pauses (logged.map .notice) = [] := by
    intro logged
    induction logged with
    | nil => rfl
    | cons notice logged ih => exact ih
  exact steady _

/-- A row of selections is as many pauses long. -/
theorem pauses_retryEvents (n : Nat) :
    ∀ (announced : Bool) (reader : σ),
      Event.pauses (retryEvents filter pollMs n announced reader) = List.replicate n pollMs := by
  have between : ∀ announced, Event.pauses (betweenEvents pollMs announced) = [pollMs] := by
    intro announced
    cases announced <;> rfl
  induction n with
  | zero => intro _ _; rfl
  | succ n ih =>
      intro announced reader
      rw [retryEvents_succ, pauses_append, pauses_append, pauses_attemptEvents, between, ih]
      rfl

theorem count_waiting_attemptEvents (outcome : Except Error (Option Target)) :
    (Event.notices (attemptEvents filter outcome)).count .waiting = 0 := by
  rcases outcome with error | found | target
  · cases mended : error.isTransport <;> simp [attemptEvents, selectionNotices, mended]
  · rfl
  · rfl

/-- A row of selections is announced once, unless it is empty or the wait was
announced before. -/
theorem count_waiting_retryEvents (n : Nat) :
    ∀ (announced : Bool) (reader : σ),
      (Event.notices (retryEvents filter pollMs n announced reader)).count .waiting =
        if announced || n = 0 then 0 else 1 := by
  have between : ∀ announced, (Event.notices (betweenEvents pollMs announced)).count .waiting =
      if announced then 0 else 1 := by
    intro announced
    cases announced <;> rfl
  induction n with
  | zero =>
      intro announced _
      cases announced <;> rfl
  | succ n ih =>
      intro announced reader
      rw [retryEvents_succ, Event.notices_append, Event.notices_append, List.count_append,
        List.count_append, count_waiting_attemptEvents, between, ih]
      cases announced <;> rfl

/-! ## §6. A wait as a whole. -/

/-- What there is to say of a wait that ends with selection `n`, counted from
0: it made the selections up to that one and no other, with one pause between
each two of them, and announced itself once if there was more than one. -/
structure WaitedFor (session : Session) (start : σ) (n : Nat) (result : Except Error Target)
    (last : Session) (outcome : Outcome σ (Except Error (Option Target) × Session)) : Prop where
  value : outcome.value = (result.map some, last)
  reader : outcome.reader = afterSelections session.config.uidFilter (n + 1) start
  events : outcome.events =
    retryEvents session.config.uidFilter session.config.pollMs n false start ++
      attemptEvents session.config.uidFilter (selectionAt session.config.uidFilter n start)
  selections : outcome.exchanges = (List.range (n + 1)).map fun i =>
    ⟨.select session.config.uidFilter, selectionAt session.config.uidFilter i start⟩
  pauses : Event.pauses outcome.events = List.replicate n session.config.pollMs
  announced : (Event.notices outcome.events).count .waiting = if n = 0 then 0 else 1

theorem hold_waitForTag (attempts : Nat) (session : Session) (reader : σ) :
    (waitForTag attempts).hold session reader =
      (waitFrom session.config.uidFilter session.config.pollMs attempts false).hold session
        reader := by
  unfold waitForTag
  rw [Action.hold_get_bind]

/-- Once a row of fruitless selections is over, the next selection ends the
wait. -/
theorem waitedFor_of_last {n : Nat} {result : Except Error Target} {last : Session}
    (fruitless : ∀ i < n, Fruitless (selectionAt session.config.uidFilter i reader))
    (ends : ∀ rest announced,
      (waitFrom session.config.uidFilter session.config.pollMs (rest + 1) announced).hold session
        (afterSelections session.config.uidFilter n reader) =
          ⟨(result.map some, last), afterSelections session.config.uidFilter (n + 1) reader,
            attemptEvents session.config.uidFilter
              (selectionAt session.config.uidFilter n reader)⟩)
    {attempts : Nat} (more : n < attempts) :
    WaitedFor session reader n result last ((waitForTag attempts).hold session reader) := by
  obtain ⟨rest, rfl⟩ : ∃ rest, attempts = rest + 1 + n := ⟨attempts - 1 - n, by omega⟩
  rw [hold_waitForTag, hold_waitFrom_retries n (rest + 1) false reader fruitless, ends]
  refine ⟨rfl, rfl, rfl, ?_, ?_, ?_⟩
  · show Event.exchanges (_ ++ _) = _
    rw [Event.exchanges_append, exchanges_retryEvents, exchanges_attemptEvents, List.range_succ,
      List.map_append]
    rfl
  · show Event.pauses (_ ++ _) = _
    rw [pauses_append, pauses_retryEvents, pauses_attemptEvents, List.append_nil]
  · show (Event.notices (_ ++ _)).count .waiting = _
    rw [Event.notices_append, List.count_append, count_waiting_retryEvents,
      count_waiting_attemptEvents]
    simp

theorem waitedFor_of_found {n : Nat} {target : Target}
    (fruitless : ∀ i < n, Fruitless (selectionAt session.config.uidFilter i reader))
    (found : selectionAt session.config.uidFilter n reader = .ok (some target))
    {attempts : Nat} (more : n < attempts) :
    WaitedFor session reader n (.ok target) { session with target := some target }
      ((waitForTag attempts).hold session reader) := by
  have answered := answer_afterSelections session.config.uidFilter n reader
  rw [found] at answered
  refine waitedFor_of_last fruitless (fun rest announced => ?_) more
  rw [hold_waitFrom_found answered, found]
  rfl

theorem waitedFor_of_failed {n : Nat} {error : Error}
    (fruitless : ∀ i < n, Fruitless (selectionAt session.config.uidFilter i reader))
    (failed : selectionAt session.config.uidFilter n reader = .error error)
    (final : ¬ Fruitless (.error error)) {attempts : Nat} (more : n < attempts) :
    WaitedFor session reader n (.error error) session
      ((waitForTag attempts).hold session reader) := by
  have answered := answer_afterSelections session.config.uidFilter n reader
  rw [failed] at answered
  refine waitedFor_of_last fruitless (fun rest announced => ?_) more
  rw [hold_waitFrom_failed final answered, failed]
  rfl

/-- As long as every selection is fruitless, the wait goes on. -/
theorem hold_waitForTag_fruitless {n : Nat}
    (fruitless : ∀ i < n, Fruitless (selectionAt session.config.uidFilter i reader)) :
    (waitForTag n).hold session reader =
      ⟨(.ok none, session), afterSelections session.config.uidFilter n reader,
        retryEvents session.config.uidFilter session.config.pollMs n false reader⟩ := by
  have retried : (waitFrom session.config.uidFilter session.config.pollMs (0 + n) false).hold session
      reader = _ := hold_waitFrom_retries n 0 false reader fruitless
  rw [Nat.zero_add] at retried
  rw [hold_waitForTag, retried]
  show Outcome.mk _ _ (_ ++ []) = _
  rw [List.append_nil]
  rfl

end

end Session

/-! ## §7. Waiting for a simulated tag. -/

namespace SimulatedTag

open Session (Fruitless selectionAt)

/-- A pending fault makes one selection fruitless and is then used up. -/
theorem answer_select_pending {tag : SimulatedTag} (present : tag.present = true) {n : Nat}
    (pending : tag.faults.failedSelections + tag.faults.emptySelections = n + 1)
    (wanted : Option Uid) :
    ∃ outcome faults, Reader.answer (.select wanted) tag = (outcome, { tag with faults := faults }) ∧
      Fruitless outcome ∧ faults.failedSelections + faults.emptySelections = n := by
  show ∃ outcome faults, tag.select wanted = _ ∧ _
  unfold select
  rcases failed : tag.faults.failedSelections with _ | left
  · rcases empty : tag.faults.emptySelections with _ | left
    · omega
    · refine ⟨_, _, by simp only [present]; rfl, .empty, ?_⟩
      simp only [failed]
      omega
  · refine ⟨_, _, rfl, .transport (-6), ?_⟩
    simp only
    omega

/-- The pending faults of a tag make as many selections fruitless, and the
next one finds the tag. -/
theorem selections_pending (wanted : Option Uid) (n : Nat) :
    ∀ tag : SimulatedTag, tag.present = true → wanted.all (· == tag.uid) = true →
      tag.faults.failedSelections + tag.faults.emptySelections = n →
      (∀ i < n, Fruitless (selectionAt wanted i tag)) ∧
        selectionAt wanted n tag = .ok (some tag.target) := by
  induction n with
  | zero =>
      intro tag present own pending
      have selectable : tag.Selectable := ⟨by omega, by omega⟩
      refine ⟨nofun, ?_⟩
      show (Reader.answer (.select wanted) tag).1 = _
      rw [answer_select_of selectable own, if_pos present]
  | succ n ih =>
      intro tag present own pending
      -- the first fault is used up, and the tag is otherwise the same
      obtain ⟨outcome, faults, answered, first, left⟩ := answer_select_pending present pending wanted
      obtain ⟨others, last⟩ := ih { tag with faults := faults } present own left
      refine ⟨fun i hi => ?_, ?_⟩
      · cases i with
        | zero =>
            show Fruitless (Reader.answer (.select wanted) tag).1
            rw [answered]
            exact first
        | succ i =>
            show Fruitless (selectionAt wanted i (Reader.answer (.select wanted) tag).2)
            rw [answered]
            exact others i (by omega)
      · show selectionAt wanted n (Reader.answer (.select wanted) tag).2 = _
        rw [answered]
        exact last

end SimulatedTag

namespace Session

/-! ## §8. Main statement. -/

/-- **A wait goes on exactly as long as its selections are fruitless.**  For
every reader: while all of them are, the wait is not over; the first that is
not ends it, with the tag that was found, which becomes the target of the
session, or with the error, which leaves the session alone.  A simulated tag
in the field that passes the filter ends the wait with the selection after its
pending faults. -/
theorem waitForTag_ends :
    (∀ {σ : Type} [Reader σ] (session : Session) (reader : σ) (n : Nat),
      (∀ i < n, Fruitless (selectionAt session.config.uidFilter i reader)) →
        (waitForTag n).hold session reader =
          ⟨(.ok none, session), afterSelections session.config.uidFilter n reader,
            retryEvents session.config.uidFilter session.config.pollMs n false reader⟩ ∧
        ∀ attempts, n < attempts →
          let outcome := (waitForTag attempts).hold session reader
          (∀ target, selectionAt session.config.uidFilter n reader = .ok (some target) →
            WaitedFor session reader n (.ok target) { session with target := some target } outcome) ∧
          (∀ error, selectionAt session.config.uidFilter n reader = .error error →
            (∀ code, error ≠ .transport code) → (∀ fault, error ≠ .driver fault) →
            WaitedFor session reader n (.error error) session outcome)) ∧
    ∀ (session : Session) (tag : SimulatedTag) (attempts : Nat),
      tag.present = true → session.config.uidFilter.all (· == tag.uid) = true →
        tag.faults.failedSelections + tag.faults.emptySelections < attempts →
        WaitedFor session tag (tag.faults.failedSelections + tag.faults.emptySelections)
          (.ok tag.target) { session with target := some tag.target }
          ((waitForTag attempts).hold session tag) := by
  refine ⟨fun {σ} _ session reader n fruitless => ⟨?_, fun attempts more => ⟨?_, ?_⟩⟩, ?_⟩
  · exact hold_waitForTag_fruitless fruitless
  · intro target found
    exact waitedFor_of_found fruitless found more
  · intro error failed untransported undriven
    refine waitedFor_of_failed fruitless failed ?_ more
    rintro (_ | code | fault)
    · exact untransported code rfl
    · exact undriven fault rfl
  · intro session tag attempts present own more
    obtain ⟨fruitless, found⟩ :=
      SimulatedTag.selections_pending session.config.uidFilter _ tag present own rfl
    exact waitedFor_of_found fruitless found more

/-- A failed exchange, an empty field and a failed reader are waited out
before a tag is found; an error of another kind ends a wait at once; and a tag
with two failing selections and an empty one is found by the fourth. -/
theorem waitForTag_ends_mixed :
    let session := fresh .default
    let target : Target := ⟨0x00, 0x44, 0x00, SimulatedTag.defaultUid⟩
    let reader := { ScriptedReader.silent with
      select := [.error .noAnswer, .ok none, .error (.driver (.reported "rf off")),
        .ok (some target)] }
    let tag := { SimulatedTag.fresh .ntag213 with
      faults := { Faults.none with failedSelections := 2, emptySelections := 1 } }
    (∀ i < 3, Fruitless (selectionAt none i reader)) ∧
      selectionAt none 3 reader = .ok (some target) ∧
      WaitedFor session reader 3 (.ok target) { session with target := some target }
        ((waitForTag 9).hold session reader) ∧
      WaitedFor session ScriptedReader.silent 0 (.error .noTag) session
        ((waitForTag 9).hold session ScriptedReader.silent) ∧
      WaitedFor session tag 3 (.ok tag.target) { session with target := some tag.target }
        ((waitForTag 9).hold session tag) := by
  intro session target reader tag
  have fruitless : ∀ i < 3, Fruitless (selectionAt none i reader)
    | 0, _ => .transport (-6)
    | 1, _ => .empty
    | 2, _ => .driver (.reported "rf off")
  refine ⟨fruitless, rfl, ?_, ?_, ?_⟩
  · exact ((waitForTag_ends.1 session reader 3 fruitless).2 9 (by decide)).1 target rfl
  · exact ((waitForTag_ends.1 session ScriptedReader.silent 0 nofun).2 9 (by decide)).2 .noTag rfl
      nofun nofun
  · exact waitForTag_ends.2 session tag 9 rfl rfl (by decide)

end Session

end Ultralight
