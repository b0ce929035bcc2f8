/-
  Ultralight.Proofs.WriteSequence
  ───────────────────────────────
  **The order of a write pass, whatever the reader answers.**

  `WriteCourse` is one course that a write pass can take: a relation between
  the pages still to be written, whether the tag sleeps, the answers of the
  reader, and how the pass ends.  The pass follows a course
  (`writeEach_follows_course`), and each rule of its order is an induction
  over courses:

    • a refused WRITE is followed by a selection, an accepted WRITE and a
      selection with a find by a WRITE (`WriteCourse.order`),
    • the WRITEs carry the planned pages in order (`WriteCourse.writes`),
    • every selection asks for the tag of the session at that time
      (`WriteCourse.asks`).

  `writePages_sequence` puts them together with the report.
-/
import Mathlib.Data.List.Chain
import Ultralight.Proofs.Selection
import Ultralight.ScriptedReader
import Ultralight.Session.WritePass

namespace Ultralight

/-! ## §1. Exchanges of a write pass. -/

namespace Exchange

/-- Where a WRITE goes, and what it carries. -/
def write? : Exchange → Option (UInt8 × Block)
  | ⟨.write page data, _⟩ => some (page, data)
  | _ => none

/-- Whether the exchange is a WRITE that was accepted. -/
def isAccepted : Exchange → Bool
  | ⟨.write _ _, .ok ()⟩ => true
  | _ => false

/-- Whether the exchange is a WRITE that was refused. -/
def isRefused : Exchange → Bool
  | ⟨.write _ _, .error _⟩ => true
  | _ => false

end Exchange

/-- What may open the rest of a write pass, by whether the tag sleeps. -/
inductive Opens : Bool → Exchange → Prop where
  /-- A tag that is awake is written to. -/
  | awake (page : UInt8) (data : Block) (reply : Except Error Unit) :
      Opens false ⟨.write page data, reply⟩
  /-- A tag that sleeps is selected. -/
  | asleep (uid : Option Uid) (reply : Except Error (Option Target)) :
      Opens true ⟨.select uid, reply⟩

/-- What may follow what in a write pass. -/
inductive Follows : Exchange → Exchange → Prop where
  /-- After an accepted WRITE, the next one. -/
  | accepted {page : UInt8} {data : Block} {next : Exchange} :
      Opens false next → Follows ⟨.write page data, .ok ()⟩ next
  /-- After a refused WRITE, a selection. -/
  | refused {page : UInt8} {data : Block} {error : Error} {next : Exchange} :
      Opens true next → Follows ⟨.write page data, .error error⟩ next
  /-- After a selection that found a tag, a WRITE. -/
  | found {uid : Option Uid} {target : Target} {next : Exchange} :
      Opens false next → Follows ⟨.select uid, .ok (some target)⟩ next

/-- A pass lost the tag if a selection that found none is the last thing it
did. -/
def TagLost (exchanges : List Exchange) : Prop :=
  ∃ made, exchanges.getLast? = some made ∧ made.isSelection = true ∧ made.found? = none

/-- Only the last exchange tells that a tag was lost. -/
theorem tagLost_cons {first : Exchange} (h : first.isSelection = false ∨ first.found?.isSome = true)
    (exchanges : List Exchange) : TagLost (first :: exchanges) ↔ TagLost exchanges := by
  rcases exchanges with _ | ⟨next, exchanges⟩
  · rcases h with h | h
    · simp [TagLost, h]
    · simp [TagLost, Option.isSome_iff_ne_none.mp h]
  · simp [TagLost]

namespace Session

/-- The WRITE of a page of the session's image. -/
def writeOf (session : Session) (number : Nat) : UInt8 × Block :=
  (UInt8.ofNat number, (session.image.pageAt number).padded)

/-- The pages that a policy lets a pass attempt, among some pages. -/
def planned (policy : WritePolicy) (variant : Variant) (numbers : List Nat) : List Nat :=
  numbers.filter fun number => !policy.skips variant number

variable {σ : Type} [Reader σ]

/-! ## §2. Courses of a write pass. -/

/-- One course of a write pass: from a session, the planned pages, whether
the tag sleeps and a reader, by these exchanges to a session and a reader.
The last index tells whether all pages were attempted. -/
inductive WriteCourse :
    Session → List Nat → Bool → σ → List Exchange → Session → σ → Bool → Prop where
  /-- Nothing is left to be written. -/
  | finished (session : Session) (asleep : Bool) (reader : σ) :
      WriteCourse session [] asleep reader [] session reader true
  /-- A tag that is awake takes a WRITE, or refuses it and falls asleep. -/
  | attempted {session final : Session} {number : Nat} {plan : List Nat} {reader after last : σ}
      {reply : Except Error Unit} {exchanges : List Exchange} {complete : Bool}
      (answered : Reader.answer
        (.write (UInt8.ofNat number) (session.image.pageAt number).padded) reader = (reply, after))
      (rest : WriteCourse session plan (!reply.isOk) after exchanges final last complete) :
      WriteCourse session (number :: plan) false reader
        (⟨.write (UInt8.ofNat number) (session.image.pageAt number).padded, reply⟩ :: exchanges)
        final last complete
  /-- A tag that sleeps is found again. -/
  | woken {session final : Session} {number : Nat} {plan : List Nat} {reader after last : σ}
      {target : Target} {exchanges : List Exchange} {complete : Bool}
      (answered : Reader.answer (.select session.wantedUid) reader = (.ok (some target), after))
      (rest : WriteCourse { session with target := some target } (number :: plan) false after
        exchanges final last complete) :
      WriteCourse session (number :: plan) true reader
        (⟨.select session.wantedUid, .ok (some target)⟩ :: exchanges) final last complete
  /-- A tag that sleeps is not found again. -/
  | lost {session : Session} {number : Nat} {plan : List Nat} {reader after : σ}
      {reply : Except Error (Option Target)}
      (answered : Reader.answer (.select session.wantedUid) reader = (reply, after))
      (missing : Exchange.found? ⟨.select session.wantedUid, reply⟩ = none) :
      WriteCourse session (number :: plan) true reader [⟨.select session.wantedUid, reply⟩]
        session after false

namespace WriteCourse

variable {session final : Session} {plan : List Nat} {asleep complete : Bool} {reader last : σ}
  {exchanges : List Exchange}

/-- Only the target of the session changes, to the last tag found. -/
theorem session_eq (course : WriteCourse session plan asleep reader exchanges final last complete) :
    final = session.tracking exchanges := by
  induction course with
  | finished => rfl
  | attempted answered rest ih => rw [ih, tracking_cons, tracking_of_not_found rfl]
  | woken answered rest ih => rw [ih, tracking_cons, tracking_of_found rfl]
  | lost answered missing => rw [tracking_of_not_found missing]

/-- The answers are those of the reader, which was asked nothing else. -/
theorem conversed (course : WriteCourse session plan asleep reader exchanges final last complete) :
    Conversed reader exchanges last := by
  induction course with
  | finished => rfl
  | attempted answered rest ih => exact ⟨by rw [answered], by rw [answered]; exact ih⟩
  | woken answered rest ih => exact ⟨by rw [answered], by rw [answered]; exact ih⟩
  | lost answered missing => exact ⟨by rw [answered], by rw [answered]; rfl⟩

/-- A tag that is awake is written to first, one that sleeps is selected. -/
theorem opens (course : WriteCourse session plan asleep reader exchanges final last complete) :
    ∀ made ∈ exchanges.head?, Opens asleep made := by
  cases course with
  | finished => intro made hmade; cases hmade
  | attempted answered rest => rintro made ⟨⟩; exact .awake _ _ _
  | woken answered rest => rintro made ⟨⟩; exact .asleep _ _
  | lost answered missing => rintro made ⟨⟩; exact .asleep _ _

/-- Each exchange calls for the next one. -/
theorem order (course : WriteCourse session plan asleep reader exchanges final last complete) :
    exchanges.IsChain Follows := by
  induction course with
  | finished => exact .nil
  | @attempted _ _ _ _ _ _ _ reply _ _ answered rest ih =>
      refine List.isChain_cons.mpr ⟨fun next hnext => ?_, ih⟩
      rcases reply with error | ⟨⟩
      · exact .refused (rest.opens next hnext)
      · exact .accepted (rest.opens next hnext)
  | woken answered rest ih =>
      exact List.isChain_cons.mpr ⟨fun next hnext => .found (rest.opens next hnext), ih⟩
  | lost answered missing => exact .singleton _

/-- The WRITEs carry the planned pages, in order, as far as they go. -/
theorem writes (course : WriteCourse session plan asleep reader exchanges final last complete) :
    exchanges.filterMap Exchange.write? <+: plan.map session.writeOf := by
  induction course with
  | finished => exact List.prefix_rfl
  | attempted answered rest ih => exact List.prefix_cons_inj _ |>.mpr ih
  | woken answered rest ih => exact ih -- a selection leaves the image alone
  | lost answered missing => exact List.nil_prefix

/-- A complete pass attempts every planned page. -/
theorem writes_of_complete
    (course : WriteCourse session plan asleep reader exchanges final last true) :
    exchanges.filterMap Exchange.write? = plan.map session.writeOf := by
  -- the index is a variable for the induction
  generalize hcomplete : true = complete at course
  induction course with
  | finished => rfl
  | attempted answered rest ih => exact congrArg _ (ih hcomplete)
  | woken answered rest ih => exact ih hcomplete
  | lost answered missing => cases hcomplete

/-- An incomplete pass leaves a planned page unattempted. -/
theorem length_writes_lt
    (course : WriteCourse session plan asleep reader exchanges final last false) :
    (exchanges.filterMap Exchange.write?).length < plan.length := by
  generalize hcomplete : false = complete at course
  induction course with
  | finished => cases hcomplete
  | attempted answered rest ih => exact Nat.succ_lt_succ (ih hcomplete)
  | woken answered rest ih => exact ih hcomplete
  | lost answered missing => exact Nat.succ_pos _

/-- Every selection asks for the tag that the session wants at that time. -/
theorem asks (course : WriteCourse session plan asleep reader exchanges final last complete)
    {before more : List Exchange} {uid : Option Uid} {reply : Except Error (Option Target)}
    (h : exchanges = before ++ ⟨.select uid, reply⟩ :: more) :
    uid = (session.tracking before).wantedUid := by
  induction course generalizing before with
  | finished => exact absurd h.symm (List.append_ne_nil_of_right_ne_nil _ (List.cons_ne_nil _ _))
  | attempted answered rest ih =>
      rcases before with _ | ⟨first, before⟩
      · cases h
      · obtain ⟨rfl, later⟩ := List.cons.inj h
        rw [tracking_cons, tracking_of_not_found rfl]
        exact ih later
  | woken answered rest ih =>
      rcases before with _ | ⟨first, before⟩
      · cases h
        rfl
      · obtain ⟨rfl, later⟩ := List.cons.inj h
        rw [tracking_cons, tracking_of_found rfl]
        exact ih later
  | lost answered missing =>
      rcases before with _ | ⟨first, before⟩
      · cases h
        rfl
      · exact absurd (List.cons.inj h).2.symm
          (List.append_ne_nil_of_right_ne_nil _ (List.cons_ne_nil _ _))

/-- A tag that was found again is written to: its selection is never the
last exchange. -/
theorem presses_on (course : WriteCourse session plan asleep reader exchanges final last complete) :
    ∀ made ∈ exchanges.getLast?, made.found? = none := by
  induction course with
  | finished => intro made hmade; cases hmade
  | @attempted _ _ _ _ _ _ _ _ exchanges _ answered rest ih =>
      rcases exchanges with _ | ⟨next, exchanges⟩
      · rintro made ⟨⟩
        rfl
      · exact ih
  | woken answered rest ih =>
      -- a page is still planned, so a WRITE follows
      cases rest with
      | attempted answered rest => exact ih
  | lost answered missing =>
      rintro made ⟨⟩
      exact missing

/-- The tag is lost exactly if not every page was attempted. -/
theorem tagLost_iff
    (course : WriteCourse session plan asleep reader exchanges final last complete) :
    TagLost exchanges ↔ complete = false := by
  induction course with
  | finished => simp [TagLost]
  | attempted answered rest ih => rw [← ih, tagLost_cons]; simp [Exchange.isSelection]
  | woken answered rest ih => rw [← ih, tagLost_cons]; simp [Exchange.found?]
  | lost answered missing => simp [TagLost, missing, Exchange.isSelection]

end WriteCourse

/-! ## §3. The pass takes one of these courses. -/

open Dialogue

variable {policy : WritePolicy} {variant : Variant} {number : Nat} {session : Session}
  {reader after : σ}

theorem page_eq_ok {image : Image} {p : Nat} (h : p < image.pages) :
    image.page p = .ok (image.pageAt p) := by
  unfold Image.page Image.onPage
  rw [if_pos h]

/-- Nothing is asked of a tag that is awake. -/
theorem hold_wakeOrLose_awake (markers : List Marker) (session : Session) (reader : σ) :
    (wakeOrLose false markers).hold session reader = ⟨(.ok (), session), reader, []⟩ := rfl

/-- A tag that sleeps is found again, or the pass is over. -/
theorem hold_wakeOrLose_asleep (markers : List Marker) {reply : Except Error (Option Target)}
    (answered : Reader.answer (.select session.wantedUid) reader = (reply, after)) :
    let made : Exchange := ⟨.select session.wantedUid, reply⟩
    (∃ target, reply = .ok (some target) ∧
      (wakeOrLose true markers).hold session reader =
        ⟨(.ok (), { session with target := some target }), after,
          [.exchange made, .notice (.targetSelected target)]⟩) ∨
    (made.found? = none ∧ ∃ error,
      (wakeOrLose true markers).hold session reader =
        ⟨(.error .tagRemoved, session), after,
          [.exchange made, .notice (.markers markers), .notice (.tagLost error)]⟩) := by
  unfold wakeOrLose
  rcases hold_wake_true answered with ⟨target, rfl, held⟩ | ⟨missing, error, held⟩
  · exact .inl ⟨target, rfl, Action.hold_bind_ok (Action.hold_attempt_of held) _⟩
  · exact .inr ⟨missing, error, Action.hold_bind_ok (Action.hold_attempt_of held) _⟩

/-- A protected page is left alone. -/
theorem hold_writeEach_skipped (h : policy.skips variant number = true) (rest : List Nat)
    (asleep : Bool) (markers : List Marker) (session : Session) (reader : σ) :
    (writeEach policy variant (number :: rest) asleep markers).hold session reader =
      (writeEach policy variant rest asleep (markers ++ [.skipped])).hold session reader := by
  rw [writeEach, if_pos h]

/-- A page of a tag that is awake is written, and the answer tells how the
pass goes on. -/
theorem hold_writeEach_awake (h : policy.skips variant number = false)
    (fits : number < session.image.pages) {reply : Except Error Unit}
    (answered : Reader.answer (.write (UInt8.ofNat number) (session.image.pageAt number).padded)
      reader = (reply, after)) (rest : List Nat) (markers : List Marker) :
    (writeEach policy variant (number :: rest) false markers).hold session reader =
      Outcome.precededBy
        ((match reply with
          | .ok () => writeEach policy variant rest false (markers ++ [.done])
          | .error error => do
              Talk.report (.pageRefused number error)
              writeEach policy variant rest true (markers ++ [.failed]) :
            Action Session (List Marker)).hold session after)
        [.exchange ⟨.write (UInt8.ofNat number) (session.image.pageAt number).padded, reply⟩] := by
  rw [writeEach, if_neg (by rw [h]; exact Bool.false_ne_true)]
  -- nothing is asked before the WRITE: the tag is awake and the image has the page
  rw [Action.hold_bind_ok (hold_wakeOrLose_awake markers session reader), Outcome.precededBy_nil,
    Action.hold_get_bind, page_eq_ok fits,
    Action.hold_bind_ok (Action.hold_lift_of (Talk.hold_ofExcept _ reader) session),
    Outcome.precededBy_nil]
  rw [Action.hold_bind_ok
    (Action.hold_lift_of (Talk.hold_attempt_of (Talk.hold_ask_of answered)) session)]
  rcases reply with error | ⟨⟩ <;> rfl

/-- An accepted WRITE leaves the tag awake. -/
theorem hold_writeEach_accepted (h : policy.skips variant number = false)
    (fits : number < session.image.pages)
    (answered : Reader.answer (.write (UInt8.ofNat number) (session.image.pageAt number).padded)
      reader = (.ok (), after)) (rest : List Nat) (markers : List Marker) :
    (writeEach policy variant (number :: rest) false markers).hold session reader =
      ((writeEach policy variant rest false (markers ++ [.done])).hold session after).precededBy
        [.exchange ⟨.write (UInt8.ofNat number) (session.image.pageAt number).padded, .ok ()⟩] :=
  hold_writeEach_awake h fits answered rest markers

/-- A refused WRITE puts the tag to sleep. -/
theorem hold_writeEach_refused (h : policy.skips variant number = false)
    (fits : number < session.image.pages) {error : Error}
    (answered : Reader.answer (.write (UInt8.ofNat number) (session.image.pageAt number).padded)
      reader = (.error error, after)) (rest : List Nat) (markers : List Marker) :
    (writeEach policy variant (number :: rest) false markers).hold session reader =
      ((writeEach policy variant rest true (markers ++ [.failed])).hold session after).precededBy
        [.exchange ⟨.write (UInt8.ofNat number) (session.image.pageAt number).padded,
            .error error⟩, .notice (.pageRefused number error)] := by
  rw [hold_writeEach_awake h fits answered rest markers]
  show ((liftM _ >>= _ : Action Session _).hold session after).precededBy _ = _
  rw [Action.hold_bind_ok (Action.hold_lift_of (Talk.hold_report _ after) session),
    Outcome.precededBy_precededBy]
  rfl

/-- A tag that sleeps is selected before the next page; if it is not found
the pass ends there. -/
theorem hold_writeEach_asleep (h : policy.skips variant number = false)
    {reply : Except Error (Option Target)}
    (answered : Reader.answer (.select session.wantedUid) reader = (reply, after))
    (rest : List Nat) (markers : List Marker) :
    let made : Exchange := ⟨.select session.wantedUid, reply⟩
    (∃ target, reply = .ok (some target) ∧
      (writeEach policy variant (number :: rest) true markers).hold session reader =
        ((writeEach policy variant (number :: rest) false markers).hold
          { session with target := some target } after).precededBy
            [.exchange made, .notice (.targetSelected target)]) ∨
    (made.found? = none ∧ ∃ error,
      (writeEach policy variant (number :: rest) true markers).hold session reader =
        ⟨(.error .tagRemoved, session), after,
          [.exchange made, .notice (.markers markers), .notice (.tagLost error)]⟩) := by
  simp only [writeEach, h, Bool.false_eq_true, if_false]
  rcases hold_wakeOrLose_asleep markers answered with ⟨target, rfl, held⟩ | ⟨missing, error, held⟩
  · refine .inl ⟨target, rfl, ?_⟩
    rw [Action.hold_bind_ok held, Action.hold_bind_ok (hold_wakeOrLose_awake markers _ after),
      Outcome.precededBy_nil]
  · exact .inr ⟨missing, error, Action.hold_bind_error held _⟩

/-- What the markers of a pass count: accepted WRITEs, refused WRITEs and
protected pages. -/
structure Tallies (policy : WritePolicy) (variant : Variant) (numbers : List Nat)
    (exchanges : List Exchange) (markers : List Marker) : Prop where
  done : markers.count .done = exchanges.countP Exchange.isAccepted
  failed : markers.count .failed = exchanges.countP Exchange.isRefused
  skipped : markers.count .skipped = numbers.countP (policy.skips variant)

/-- The outcome of a pass is that of a course: with every page attempted the
value is the markers, else the tag was removed. -/
def TakesCourse (policy : WritePolicy) (variant : Variant) (numbers : List Nat) (asleep : Bool)
    (markers : List Marker) (session : Session) (reader : σ)
    (outcome : Outcome σ (Except Error (List Marker) × Session)) : Prop :=
  ∃ complete, WriteCourse session (planned policy variant numbers) asleep reader
      outcome.exchanges outcome.value.2 outcome.reader complete ∧
    if complete then ∃ new, outcome.value.1 = .ok (markers ++ new) ∧
      Tallies policy variant numbers outcome.exchanges new
    else outcome.value.1 = .error .tagRemoved

namespace TakesCourse

variable {rest : List Nat} {asleep : Bool} {markers : List Marker}
  {outcome : Outcome σ (Except Error (List Marker) × Session)} {events : List Event}

theorem skipped (h : policy.skips variant number = true)
    (course : TakesCourse policy variant rest asleep (markers ++ [.skipped]) session reader
      outcome) :
    TakesCourse policy variant (number :: rest) asleep markers session reader outcome := by
  obtain ⟨complete, course, result⟩ := course
  have plan : planned policy variant (number :: rest) = planned policy variant rest := by
    simp [planned, h]
  refine ⟨complete, plan ▸ course, ?_⟩
  cases complete with
  | false => exact result
  | true =>
      obtain ⟨new, value, tallies⟩ := result
      -- one marker more, and nothing was asked for it
      refine ⟨.skipped :: new, by rw [value, List.append_assoc]; rfl, ?_, ?_, ?_⟩
      · rw [List.count_cons_of_ne (by decide), tallies.done]
      · rw [List.count_cons_of_ne (by decide), tallies.failed]
      · rw [List.count_cons_self, tallies.skipped, List.countP_cons_of_pos h]

theorem attempted (h : policy.skips variant number = false) {reply : Except Error Unit}
    (answered : Reader.answer (.write (UInt8.ofNat number) (session.image.pageAt number).padded)
      reader = (reply, after))
    (made : Event.exchanges events =
      [⟨.write (UInt8.ofNat number) (session.image.pageAt number).padded, reply⟩])
    (course : TakesCourse policy variant rest (!reply.isOk)
      (markers ++ [if reply.isOk then .done else .failed]) session after outcome) :
    TakesCourse policy variant (number :: rest) false markers session reader
      (outcome.precededBy events) := by
  obtain ⟨complete, course, result⟩ := course
  have plan : planned policy variant (number :: rest) = number :: planned policy variant rest := by
    simp [planned, h]
  refine ⟨complete, ?_, ?_⟩
  · rw [plan, Outcome.exchanges_precededBy, made]
    exact .attempted answered course
  · cases complete with
    | false => exact result
    | true =>
        obtain ⟨new, value, tallies⟩ := result
        -- the marker and the exchange that are new count for the same thing
        refine ⟨(if reply.isOk then .done else .failed) :: new,
          by rw [Outcome.value_precededBy, value, List.append_assoc]; rfl, ?_, ?_, ?_⟩ <;>
          rw [List.count_cons]
        · rw [Outcome.exchanges_precededBy, made, List.countP_append, tallies.done]
          rcases reply with error | ⟨⟩ <;> simp [Exchange.isAccepted, Except.isOk, Except.toBool]
          omega
        · rw [Outcome.exchanges_precededBy, made, List.countP_append, tallies.failed]
          rcases reply with error | ⟨⟩ <;> simp [Exchange.isRefused, Except.isOk, Except.toBool]
          omega
        · rw [tallies.skipped, List.countP_cons_of_neg (by rw [h]; exact Bool.false_ne_true)]
          rcases reply with error | ⟨⟩ <;> rfl

theorem woken (h : policy.skips variant number = false) {target : Target}
    (answered : Reader.answer (.select session.wantedUid) reader = (.ok (some target), after))
    (made : Event.exchanges events = [⟨.select session.wantedUid, .ok (some target)⟩])
    (course : TakesCourse policy variant (number :: rest) false markers
      { session with target := some target } after outcome) :
    TakesCourse policy variant (number :: rest) true markers session reader
      (outcome.precededBy events) := by
  obtain ⟨complete, course, result⟩ := course
  have plan : planned policy variant (number :: rest) = number :: planned policy variant rest := by
    simp [planned, h]
  refine ⟨complete, ?_, ?_⟩
  · rw [plan] at course ⊢
    rw [Outcome.exchanges_precededBy, made]
    exact .woken answered course
  · cases complete with
    | false => exact result
    | true =>
        obtain ⟨new, value, tallies⟩ := result
        -- a selection is no WRITE, so it counts for nothing
        refine ⟨new, value, ?_, ?_, tallies.skipped⟩
        · rw [tallies.done, Outcome.exchanges_precededBy, made]
          rfl
        · rw [tallies.failed, Outcome.exchanges_precededBy, made]
          rfl

end TakesCourse

/-- **The pass takes one of the courses**, and its markers count what became
of the pages. -/
theorem writeEach_takesCourse (policy : WritePolicy) (variant : Variant) (numbers : List Nat) :
    ∀ (asleep : Bool) (markers : List Marker) (session : Session) (reader : σ),
      (∀ number ∈ numbers, number < session.image.pages) →
      TakesCourse policy variant numbers asleep markers session reader
        ((writeEach policy variant numbers asleep markers).hold session reader) := by
  induction numbers with
  | nil =>
      intro asleep markers session reader _
      exact ⟨true, .finished session asleep reader, [], by simp [writeEach], ⟨rfl, rfl, rfl⟩⟩
  | cons number rest ih =>
      intro asleep markers session reader fits
      have fitsRest : ∀ n ∈ rest, n < session.image.pages :=
        fun n hn => fits n (List.mem_cons_of_mem _ hn)
      cases h : policy.skips variant number with
      | true =>
          rw [hold_writeEach_skipped h]
          exact .skipped h (ih asleep _ session reader fitsRest)
      | false =>
          -- a tag found again is a tag awake, so the step of the one comes before the other
          have awake : ∀ (session : Session) (reader : σ),
              (∀ n ∈ number :: rest, n < session.image.pages) →
              TakesCourse policy variant (number :: rest) false markers session reader
                ((writeEach policy variant (number :: rest) false markers).hold session
                  reader) := by
            intro session reader fits
            have fitsRest : ∀ n ∈ rest, n < session.image.pages :=
              fun n hn => fits n (List.mem_cons_of_mem _ hn)
            rcases answered : Reader.answer (.write (UInt8.ofNat number)
              (session.image.pageAt number).padded) reader with ⟨error | ⟨⟩, after⟩
            · rw [hold_writeEach_refused h (fits number List.mem_cons_self) answered]
              exact .attempted h answered rfl (ih true _ session after fitsRest)
            · rw [hold_writeEach_accepted h (fits number List.mem_cons_self) answered]
              exact .attempted h answered rfl (ih false _ session after fitsRest)
          cases asleep with
          | false => exact awake session reader fits
          | true =>
              rcases answered : Reader.answer (.select session.wantedUid) reader with ⟨reply, after⟩
              rcases hold_writeEach_asleep h answered rest markers with
                ⟨target, rfl, held⟩ | ⟨missing, error, held⟩
              · rw [held]
                exact .woken h answered rfl (awake _ after fits)
              · rw [held]
                refine ⟨false, ?_, rfl⟩
                rw [show planned policy variant (number :: rest) =
                  number :: planned policy variant rest by simp [planned, h]]
                exact .lost answered missing

/-! ## §4. The whole pass. -/

/-- A write pass over the pages from `start` up to `stop`, as a sequence of
exchanges and what it reports. -/
structure Sequenced (policy : WritePolicy) (start stop : Nat) (session : Session) (reader : σ)
    (outcome : Outcome σ (Except Error WriteReport × Session)) : Prop where
  /-- The answers are the reader's, and nothing else was asked of it. -/
  conversed : Conversed reader outcome.exchanges outcome.reader
  /-- The pass opens with a WRITE, if it asks anything. -/
  opens : ∀ made ∈ outcome.exchanges.head?, Opens false made
  /-- A selection follows each refused WRITE, a WRITE anything else. -/
  order : outcome.exchanges.IsChain Follows
  /-- A tag that was found again is written to. -/
  presses_on : ∀ made ∈ outcome.exchanges.getLast?, made.found? = none
  /-- The WRITEs carry the pages that the policy opens, in order. -/
  writes : outcome.exchanges.filterMap Exchange.write? <+:
    (planned policy session.variant (List.range' start (stop - start))).map session.writeOf
  /-- A selection asks for the tag of the session at that time. -/
  asks : ∀ before uid reply more, outcome.exchanges = before ++ ⟨.select uid, reply⟩ :: more →
    uid = (session.tracking before).wantedUid
  /-- The session keeps all but its target, which is the last tag found. -/
  session_eq : outcome.value.2 = session.tracking outcome.exchanges
  /-- A selection in vain ends the pass before its last page. -/
  lost : TagLost outcome.exchanges →
    outcome.value.1 = .error .tagRemoved ∧
      (outcome.exchanges.filterMap Exchange.write?).length <
        (planned policy session.variant (List.range' start (stop - start))).length
  /-- Otherwise every page was attempted, and the report counts the answers. -/
  complete : ¬ TagLost outcome.exchanges →
    outcome.exchanges.filterMap Exchange.write? =
        (planned policy session.variant (List.range' start (stop - start))).map session.writeOf ∧
      outcome.value.1 = .ok
        { pages := session.variant.pages
          written := outcome.exchanges.countP Exchange.isAccepted
          skipped := (List.range' start (stop - start)).countP (policy.skips session.variant)
          failed := outcome.exchanges.countP Exchange.isRefused } ∧
      outcome.exchanges.countP Exchange.isAccepted +
          (List.range' start (stop - start)).countP (policy.skips session.variant) +
          outcome.exchanges.countP Exchange.isRefused = stop - start

/-- Every WRITE was accepted or refused. -/
theorem countP_isAccepted_add_isRefused (exchanges : List Exchange) :
    exchanges.countP Exchange.isAccepted + exchanges.countP Exchange.isRefused =
      (exchanges.filterMap Exchange.write?).length := by
  induction exchanges with
  | nil => rfl
  | cons made more ih =>
      rcases made with ⟨request, reply⟩
      cases request <;>
        simp only [List.countP_cons, List.filterMap_cons, Exchange.isAccepted, Exchange.isRefused,
          Exchange.write?] <;>
        try simpa using ih
      rcases reply with error | ⟨⟩ <;> simp <;> omega

/-- Protected and planned pages are all pages. -/
theorem countP_skips_add_length_planned (policy : WritePolicy) (variant : Variant)
    (numbers : List Nat) :
    numbers.countP (policy.skips variant) + (planned policy variant numbers).length =
      numbers.length := by
  rw [planned, ← List.countP_eq_length_filter,
    List.length_eq_countP_add_countP (policy.skips variant)]
  simp

/-- What is beyond the tag is refused before anything is asked. -/
theorem hold_writePages_beyond {start stop : Nat} (policy : WritePolicy) (session : Session)
    (reader : σ) (h : session.variant.pages < stop) :
    (writePages policy start stop).hold session reader =
      ⟨(.error (.pageOutOfRange (stop - 1) session.variant.pages), session), reader, []⟩ := by
  unfold writePages
  rw [Action.hold_get_bind, if_pos h]
  rfl

/-- The pass over a range is the pass over its pages, between notices that
are no exchanges, and its report counts the markers. -/
theorem hold_writePages_within {stop : Nat} (policy : WritePolicy) (start : Nat) (session : Session)
    (reader : σ) (h : stop ≤ session.variant.pages) :
    let pass := (writeEach policy session.variant (List.range' start (stop - start)) false []).hold
      session reader
    let whole := (writePages policy start stop).hold session reader
    whole.value = (pass.value.1.map (WriteReport.ofMarkers session.variant.pages), pass.value.2) ∧
      whole.reader = pass.reader ∧ whole.exchanges = pass.exchanges := by
  intro pass whole
  rcases held : pass with ⟨⟨result, last⟩, after, events⟩
  have opened : whole = Outcome.precededBy
      ((do
        let markers ← writeEach policy session.variant (List.range' start (stop - start)) false []
        Talk.report (.markers markers)
        Talk.report (.writeDone (WriteReport.ofMarkers session.variant.pages markers))
        pure (WriteReport.ofMarkers session.variant.pages markers) :
          Action Session WriteReport).hold session reader)
      [.notice (.writing session.variant.pages)] := by
    show (writePages policy start stop).hold session reader = _
    unfold writePages
    rw [Action.hold_get_bind, if_neg (by omega)]
    exact Action.hold_bind_ok (Action.hold_lift_of (Talk.hold_report _ reader) session) _
  rcases result with error | markers
  · rw [opened, Action.hold_bind_error held]
    exact ⟨rfl, rfl, by simp⟩
  · rw [opened, Action.hold_bind_ok held,
      Action.hold_bind_ok (Action.hold_lift_of (Talk.hold_report _ after) last),
      Action.hold_bind_ok (Action.hold_lift_of (Talk.hold_report _ after) last)]
    exact ⟨rfl, rfl, by simp⟩

/-- **A whole pass takes one of the courses**, and its report counts the
answers. -/
theorem writePages_takesCourse {stop : Nat} (policy : WritePolicy) (start : Nat)
    (session : Session) (reader : σ) (within : stop ≤ session.variant.pages)
    (fits : stop ≤ session.image.pages) :
    let numbers := List.range' start (stop - start)
    let outcome := (writePages policy start stop).hold session reader
    ∃ complete, WriteCourse session (planned policy session.variant numbers) false reader
        outcome.exchanges outcome.value.2 outcome.reader complete ∧
      outcome.value.1 =
        if complete then .ok
          { pages := session.variant.pages
            written := outcome.exchanges.countP Exchange.isAccepted
            skipped := numbers.countP (policy.skips session.variant)
            failed := outcome.exchanges.countP Exchange.isRefused }
        else .error .tagRemoved := by
  intro numbers outcome
  have pages : ∀ number ∈ numbers, number < session.image.pages := by
    intro number hnumber
    have := List.mem_range'_1.mp hnumber
    omega
  obtain ⟨value, left, made⟩ := hold_writePages_within policy start session reader within
  obtain ⟨complete, course, result⟩ :=
    writeEach_takesCourse policy session.variant numbers false [] session reader pages
  refine ⟨complete, ?_, ?_⟩
  · show WriteCourse _ _ _ _ outcome.exchanges outcome.value.2 outcome.reader _
    rw [made, left, value]
    exact course
  · show outcome.value.1 = _
    rw [value, made]
    cases complete with
    | false => exact congrArg (Except.map (WriteReport.ofMarkers session.variant.pages)) result
    | true =>
        obtain ⟨markers, marked, tallies⟩ := result
        rw [marked]
        show Except.ok (WriteReport.ofMarkers _ ([] ++ markers)) = _
        unfold WriteReport.ofMarkers
        rw [List.nil_append, tallies.done, tallies.failed, tallies.skipped]
        rfl

/-- **The order of a write pass.**  Whatever the reader answers: a range that
leaves the tag is refused without asking anything, and any other is a
sequence as `Sequenced` says. -/
theorem writePages_sequence (policy : WritePolicy) (start stop : Nat) (session : Session)
    (reader : σ) (fits : session.image.pages = session.variant.pages) :
    (session.variant.pages < stop →
      (writePages policy start stop).hold session reader =
        ⟨(.error (.pageOutOfRange (stop - 1) session.variant.pages), session), reader, []⟩) ∧
    (stop ≤ session.variant.pages →
      Sequenced policy start stop session reader
        ((writePages policy start stop).hold session reader)) := by
  refine ⟨hold_writePages_beyond policy session reader, fun within => ?_⟩
  obtain ⟨complete, course, value⟩ :=
    writePages_takesCourse policy start session reader within (by omega)
  refine
    { conversed := course.conversed
      opens := course.opens
      order := course.order
      presses_on := course.presses_on
      writes := course.writes
      asks := fun before uid reply more h => course.asks h
      session_eq := course.session_eq
      lost := fun hlost => ?_
      complete := fun hkept => ?_ }
  · -- the tag was lost, so the course is an incomplete one
    obtain rfl := course.tagLost_iff.mp hlost
    exact ⟨value, course.length_writes_lt⟩
  · obtain rfl : complete = true := by
      cases complete with
      | true => rfl
      | false => exact absurd (course.tagLost_iff.mpr rfl) hkept
    have attempted := course.writes_of_complete
    refine ⟨attempted, value, ?_⟩
    -- every planned page is accepted or refused, every other page is protected
    have counted := congrArg List.length attempted
    rw [← countP_isAccepted_add_isRefused, List.length_map] at counted
    have total := countP_skips_add_length_planned policy session.variant
      (List.range' start (stop - start))
    rw [List.length_range'] at total
    omega

/-- A pass over pages 3 to 5, of which the policy protects the first; the
WRITE of page 4 is refused and the tag is found again. -/
theorem writePages_sequence_found_again :
    let tag : Target := ⟨0x00, 0x44, 0x00, ⟨[0x04], by decide⟩⟩
    let reader : ScriptedReader :=
      { ScriptedReader.silent with write := [.error .refused], select := [.ok (some tag)] }
    let session := fresh .default
    let outcome := (writePages .none 3 6).hold session reader
    session.image.pages = session.variant.pages ∧ 6 ≤ session.variant.pages ∧
      Sequenced .none 3 6 session reader outcome ∧
      outcome.value.1 = .ok { pages := 16, written := 1, skipped := 1, failed := 1 } ∧
      outcome.exchanges =
        [⟨.write 4 Page.zero.padded, .error .refused⟩, ⟨.select none, .ok (some tag)⟩,
          ⟨.write 5 Page.zero.padded, .ok ()⟩] :=
  ⟨rfl, by decide, (writePages_sequence .none 3 6 (fresh .default) _ rfl).2 (by decide), rfl, rfl⟩

end Session

end Ultralight
