/-
  Ultralight.Proofs.ExcludedTag
  ─────────────────────────────
  **What a UID filter keeps from other tags.**

  A session with a filter selects no other tag, so a tag that was never
  selected stays asleep, and a tag that sleeps does not answer.  There are two
  other ways to wake it: a listing selects whatever is in the field, and the
  back door of a clone opens without a selection.  `Exchange.wakes` is either
  of them.

    • `keepsToFilter_performAll` — until a tag is found, every selection asks
      for the filter,
    • `Dialogue.run_asleep` — a tag that sleeps does nothing before it is
      woken,
    • `Dialogue.run_unwoken` — without a listing and a knock at the back door
      it is never woken.

  `filter_excludes` is what becomes of a fresh tag that the filter excludes.
-/
import Ultralight.Proofs.IntactSession
import Ultralight.Proofs.TagMemory

namespace Ultralight

/-! ## §1. Exchanges that reach a tag. -/

namespace Request

/-- Whether a request lists the tags in the field. -/
def isList : Request → Bool
  | list _ => true
  | _ => false

/-- Whether a request sends a short frame. -/
def isBits : Request → Bool
  | bits _ _ => true
  | _ => false

end Request

namespace Exchange

/-- A READ or WRITE was done, or a byte frame such as GET_VERSION or PWD_AUTH
was answered. -/
def succeeds : Exchange → Bool
  | ⟨.read _, .ok _⟩ => true
  | ⟨.write _ _, .ok _⟩ => true
  | ⟨.bytes _, .ok _⟩ => true
  | _ => false

/-- A listing showed a tag, or the second knock at a back door was answered:
either way the tag is awake without having been selected. -/
def wakes : Exchange → Bool
  | ⟨.list _, .ok (_ :: _)⟩ => true
  | ⟨.bytes frame, .ok _⟩ => frame == Frame.unlock2
  | _ => false

end Exchange

/-- Until a tag is found, every selection asks for this UID. -/
def AsksOnly (uid : Uid) : List Exchange → Prop
  | [] => True
  | made :: more => (∀ asked, made.request = .select asked → asked = some uid) ∧
      (made.found? = none → AsksOnly uid more)

/-- Nothing succeeds before the tag is woken. -/
def WokenFirst : List Exchange → Prop
  | [] => True
  | made :: more => made.wakes = false → made.succeeds = false ∧ WokenFirst more

variable {uid : Uid} {trace more : List Exchange}

theorem asksOnly_append (early : AsksOnly uid trace)
    (late : (∀ made ∈ trace, made.found? = none) → AsksOnly uid more) :
    AsksOnly uid (trace ++ more) := by
  induction trace with
  | nil => exact late nofun
  | cons made trace ih =>
      refine ⟨early.1, fun missing => ih (early.2 missing) fun rest => late ?_⟩
      exact List.forall_mem_cons.mpr ⟨missing, rest⟩

/-- If no tag is found at all, every selection asks for the UID. -/
theorem AsksOnly.asked (h : AsksOnly uid trace) (missing : ∀ made ∈ trace, made.found? = none) :
    ∀ made ∈ trace, ∀ asked, made.request = .select asked → asked = some uid := by
  induction trace with
  | nil => nofun
  | cons made trace ih =>
      obtain ⟨here, rest⟩ := List.forall_mem_cons.mp missing
      exact List.forall_mem_cons.mpr ⟨h.1, ih (h.2 here) rest⟩

/-- What succeeds, succeeds after an exchange that woke the tag. -/
theorem WokenFirst.exists_wakes (h : WokenFirst trace) {before : List Exchange} {made : Exchange}
    (split : trace = before ++ made :: more) (succeeds : made.succeeds = true) :
    ∃ woke ∈ before ++ [made], woke.wakes = true := by
  induction before generalizing trace with
  | nil =>
      subst split
      refine ⟨made, List.mem_singleton_self made, ?_⟩
      cases woke : made.wakes with
      | true => rfl
      | false => rw [(h woke).1] at succeeds; cases succeeds
  | cons first before ih =>
      subst split
      cases woke : first.wakes with
      | true => exact ⟨first, List.mem_cons_self, woke⟩
      | false =>
          obtain ⟨later, listed, wakes⟩ := ih (h woke).2 rfl
          exact ⟨later, List.mem_cons_of_mem _ listed, wakes⟩

/-! ## §2. Answers of a tag that is not selected. -/

namespace SimulatedTag

/-- What no request changes. -/
def nature (tag : SimulatedTag) : Uid × Magic := (tag.uid, tag.magic)

/-- Finding none, a selection leaves the tag as it was but for its faults. -/
theorem nature_select (tag : SimulatedTag) (wanted : Option Uid) :
    (tag.select wanted).2.nature = tag.nature := by
  rcases tag.select_cases wanted with ⟨_, _, held, -⟩ | ⟨-, held⟩ <;> rw [held] <;> rfl

theorem nature_answer (request : Request) (tag : SimulatedTag) :
    (Reader.answer request tag).2.nature = tag.nature := by
  cases request with
  | init => rfl
  | setProperty property enable =>
      show (tag.setProperty property enable).2.nature = _
      obtain ⟨_, _, _, held⟩ := tag.setProperty_cases property enable
      rw [held]
      rfl
  | select wanted => exact nature_select tag wanted
  | list most =>
      show (listBySelecting (fun wanted tag => tag.select wanted) most tag).2.nature = _
      rcases tag.list_cases most with held | held <;> rw [held]
      exact nature_select tag none
  | bits frame count =>
      show (tag.exchangeBits frame count).2.nature = _
      rcases tag.exchangeBits_cases frame count with ⟨-, held⟩ | held <;> rw [held] <;> rfl
  | bytes frame =>
      show (tag.exchangeBytes frame).2.nature = _
      rcases tag.exchangeBytes_cases frame with ⟨-, -, held⟩ | ⟨_, _, held, -⟩ <;> rw [held] <;> rfl
  | read page =>
      show (tag.readBlock page).2.nature = _
      obtain ⟨_, _, _, held⟩ := tag.readBlock_cases page
      rw [held]
      rfl
  | write page data =>
      show (tag.writePage page data.p0).2.nature = _
      rcases tag.writePage_cases page data.p0 with ⟨_, _, _, held⟩ | held | held <;>
        rw [held] <;> rfl

variable {tag : SimulatedTag} {filter : Uid}

/-- A tag is not found by the UID of another one, and sleeps on. -/
theorem select_other (other : filter ≠ tag.uid) :
    Exchange.found? ⟨.select (some filter), (tag.select (some filter)).1⟩ = none ∧
      (tag.select (some filter)).2.halted = tag.halted := by
  rcases tag.select_cases (some filter) with ⟨reply, _, held, -, missing⟩ | ⟨asked, -⟩
  · rw [held]
    refine ⟨?_, rfl⟩
    rcases reply with error | _ | target
    · rfl
    · rfl
    · exact absurd rfl (missing target)
  · exact absurd (by simpa using asked) other

theorem ready_asleep (asleep : tag.halted = true) : ∃ error, tag.ready = .error error := by
  unfold ready
  split
  · exact ⟨_, rfl⟩
  · rw [asleep, Bool.or_true]
    exact ⟨_, rfl⟩

/-- **A tag that sleeps does nothing**, and sleeps on unless it is woken. -/
theorem answer_asleep (asleep : tag.halted = true) (other : filter ≠ tag.uid) (request : Request)
    (asks : ∀ asked, request = .select asked → asked = some filter)
    (unwoken : Exchange.wakes ⟨request, (Reader.answer request tag).1⟩ = false) :
    Exchange.succeeds ⟨request, (Reader.answer request tag).1⟩ = false ∧
      (Reader.answer request tag).2.halted = true ∧
      (Reader.answer request tag).2.contents = tag.contents := by
  cases request with
  | init => exact ⟨rfl, asleep, rfl⟩
  | setProperty property enable =>
      refine ⟨rfl, ?_, contents_setProperty tag property enable⟩
      show (tag.setProperty property enable).2.halted = true
      obtain ⟨_, _, _, held⟩ := tag.setProperty_cases property enable
      rw [held]
      exact asleep
  | select asked =>
      obtain rfl := asks asked rfl
      exact ⟨rfl, (select_other other).2.trans asleep, contents_select tag _⟩
  | list most =>
      refine ⟨rfl, ?_, contents_list tag most⟩
      change Exchange.wakes
        ⟨.list most, (listBySelecting (fun wanted tag => tag.select wanted) most tag).1⟩ = false
        at unwoken
      show (listBySelecting (fun wanted tag => tag.select wanted) most tag).2.halted = true
      rcases tag.list_cases most with held | held <;> rw [held] at unwoken ⊢
      · exact asleep
      · rcases tag.select_cases none with ⟨_, _, selected, -⟩ | ⟨-, selected⟩ <;>
          rw [selected] at unwoken ⊢
        · exact asleep
        · -- a tag that was found is in the list
          cases unwoken
  | bits frame count =>
      refine ⟨rfl, ?_, contents_exchangeBits tag frame count⟩
      show (tag.exchangeBits frame count).2.halted = true
      rcases tag.exchangeBits_cases frame count with ⟨-, held⟩ | held <;> rw [held]
      · exact asleep
      · rfl
  | bytes frame =>
      change Exchange.wakes ⟨.bytes frame, (tag.exchangeBytes frame).1⟩ = false at unwoken
      show Exchange.succeeds ⟨.bytes frame, (tag.exchangeBytes frame).1⟩ = false ∧
        (tag.exchangeBytes frame).2.halted = true ∧ (tag.exchangeBytes frame).2.contents = _
      rcases tag.exchangeBytes_cases frame with ⟨rfl, -, held⟩ | ⟨_, _, held, sleeps, refused⟩ <;>
        rw [held] at unwoken ⊢
      · cases unwoken
      · obtain ⟨error, rfl⟩ := refused (.inr asleep)
        exact ⟨rfl, sleeps asleep, rfl⟩
  | read page =>
      obtain ⟨error, refused⟩ := ready_asleep asleep
      have answered : tag.readBlock page = (.error error, tag) := by
        unfold readBlock
        rw [refused]
      show Exchange.succeeds ⟨.read page, (tag.readBlock page).1⟩ = false ∧
        (tag.readBlock page).2.halted = true ∧ (tag.readBlock page).2.contents = _
      rw [answered]
      exact ⟨rfl, asleep, rfl⟩
  | write page data =>
      obtain ⟨error, refused⟩ := ready_asleep asleep
      have answered : tag.writePage page data.p0 = (.error error, tag) := by
        unfold writePage
        rw [refused]
      show Exchange.succeeds ⟨.write page data, (tag.writePage page data.p0).1⟩ = false ∧
        (tag.writePage page data.p0).2.halted = true ∧ (tag.writePage page data.p0).2.contents = _
      rw [answered]
      exact ⟨rfl, asleep, rfl⟩

/-- A back door that was not knocked at, or that is not there, stays shut, and
no byte frame wakes the tag. -/
theorem answer_unarmed (unarmed : tag.armed = false) {request : Request}
    (unlisted : request.isList = false)
    (unknocked : tag.magic = .backdoor → request.isBits = false) :
    Exchange.wakes ⟨request, (Reader.answer request tag).1⟩ = false ∧
      (Reader.answer request tag).2.armed = false := by
  cases request with
  | init => exact ⟨rfl, unarmed⟩
  | setProperty property enable =>
      refine ⟨rfl, ?_⟩
      show (tag.setProperty property enable).2.armed = false
      obtain ⟨_, _, _, held⟩ := tag.setProperty_cases property enable
      rw [held]
      exact unarmed
  | select wanted =>
      refine ⟨rfl, ?_⟩
      show (tag.select wanted).2.armed = false
      rcases tag.select_cases wanted with ⟨_, _, held, -⟩ | ⟨-, held⟩ <;> rw [held]
      exact unarmed
  | list most => cases unlisted
  | bits frame count =>
      refine ⟨rfl, ?_⟩
      show (tag.exchangeBits frame count).2.armed = false
      rcases tag.exchangeBits_cases frame count with ⟨door, -⟩ | held
      · cases unknocked door
      · rw [held]
        exact unarmed
  | bytes frame =>
      show Exchange.wakes ⟨.bytes frame, (tag.exchangeBytes frame).1⟩ = false ∧
        (tag.exchangeBytes frame).2.armed = false
      rcases tag.exchangeBytes_cases frame with ⟨-, armed, -⟩ | ⟨reply, _, held, -, refused⟩
      · rw [unarmed] at armed
        cases armed
      · rw [held]
        refine ⟨?_, unarmed⟩
        by_cases knock : frame = Frame.unlock2
        · obtain ⟨error, rfl⟩ := refused (.inl knock)
          rfl
        · rcases reply with error | answer
          · rfl
          · exact beq_false_of_ne knock
  | read page =>
      refine ⟨rfl, ?_⟩
      show (tag.readBlock page).2.armed = false
      obtain ⟨_, _, _, held⟩ := tag.readBlock_cases page
      rw [held]
      exact unarmed
  | write page data =>
      refine ⟨rfl, ?_⟩
      show (tag.writePage page data.p0).2.armed = false
      rcases tag.writePage_cases page data.p0 with ⟨_, _, _, held⟩ | held | held <;> rw [held] <;>
        exact unarmed

end SimulatedTag

/-! ## §3. Dialogues with a tag that is not selected. -/

namespace Dialogue

variable {α : Type} {tag : SimulatedTag} {filter : Uid}

theorem other_answer (request : Request) (other : filter ≠ tag.uid) :
    filter ≠ (Reader.answer request tag).2.uid :=
  fun same => other (same.trans (congrArg Prod.fst (SimulatedTag.nature_answer request tag)))

/-- A dialogue that asks for another tag finds none, whatever else it does. -/
theorem run_unfound (dialogue : Dialogue α) (other : filter ≠ tag.uid)
    (asks : AsksOnly filter (dialogue.run tag).exchanges) :
    ∀ made ∈ (dialogue.run tag).exchanges, made.found? = none := by
  induction dialogue generalizing tag with
  | done value => nofun
  | ask request next ih =>
      have missing : Exchange.found? ⟨request, (Reader.answer request tag).1⟩ = none := by
        cases request with
        | select asked =>
            obtain rfl := asks.1 asked rfl
            exact (SimulatedTag.select_other other).1
        | _ => rfl
      exact List.forall_mem_cons.mpr
        ⟨missing, ih _ (other_answer request other) (asks.2 missing)⟩
  | close frame next ih => exact ih _ other asks
  | report notice rest ih => exact ih other asks
  | pause milliseconds rest ih => exact ih other asks

/-- **A tag that sleeps does nothing before it is woken**, and keeps its memory
until then. -/
theorem run_asleep (dialogue : Dialogue α) (asleep : tag.halted = true) (other : filter ≠ tag.uid)
    (asks : ∀ made ∈ (dialogue.run tag).exchanges,
      ∀ asked, made.request = .select asked → asked = some filter) :
    WokenFirst (dialogue.run tag).exchanges ∧
      ((∀ made ∈ (dialogue.run tag).exchanges, made.wakes = false) →
        (dialogue.run tag).reader.contents = tag.contents) := by
  induction dialogue generalizing tag with
  | done value => exact ⟨trivial, fun _ => rfl⟩
  | ask request next ih =>
      obtain ⟨here, later⟩ := List.forall_mem_cons.mp asks
      have step := SimulatedTag.answer_asleep asleep other request here
      constructor
      · intro unwoken
        obtain ⟨failed, still, -⟩ := step unwoken
        exact ⟨failed, (ih _ still (other_answer request other) later).1⟩
      · intro unwoken
        obtain ⟨quiet, unwokenLater⟩ := List.forall_mem_cons.mp unwoken
        obtain ⟨-, still, kept⟩ := step quiet
        exact ((ih _ still (other_answer request other) later).2 unwokenLater).trans kept
  | close frame next ih => exact ih _ asleep other asks
  | report notice rest ih => exact ih asleep other asks
  | pause milliseconds rest ih => exact ih asleep other asks

/-- **Nothing wakes a tag** in a dialogue without a listing, unless its back
door is knocked at. -/
theorem run_unwoken (dialogue : Dialogue α) (unarmed : tag.armed = false)
    (unlisted : ∀ made ∈ (dialogue.run tag).exchanges, made.request.isList = false)
    (unknocked : tag.magic = .backdoor →
      ∀ made ∈ (dialogue.run tag).exchanges, made.request.isBits = false) :
    ∀ made ∈ (dialogue.run tag).exchanges, made.wakes = false := by
  induction dialogue generalizing tag with
  | done value => nofun
  | ask request next ih =>
      obtain ⟨here, later⟩ := List.forall_mem_cons.mp unlisted
      have kind : (Reader.answer request tag).2.magic = tag.magic :=
        congrArg Prod.snd (SimulatedTag.nature_answer request tag)
      obtain ⟨unwoken, still⟩ := SimulatedTag.answer_unarmed unarmed here
        fun door => (List.forall_mem_cons.mp (unknocked door)).1
      refine List.forall_mem_cons.mpr ⟨unwoken, ih _ still later fun door => ?_⟩
      exact (List.forall_mem_cons.mp (unknocked (kind.symm.trans door))).2
  | close frame next ih => exact ih _ unarmed unlisted unknocked
  | report notice rest ih => exact ih unarmed unlisted unknocked
  | pause milliseconds rest ih => exact ih unarmed unlisted unknocked

end Dialogue

/-! ## §4. Sessions with a filter. -/

namespace Session

open Dialogue (Event Outcome)

variable {filter : Uid}

/-- A session that selects by this filter, and has not found a tag yet. -/
def Awaits (filter : Uid) (session : Session) : Prop :=
  session.config.uidFilter = some filter ∧ session.target = none

/-- A session that waits for a tag asks for no other one, and waits on as long
as none is found. -/
def KeepsToFilter (filter : Uid) (session : Session) (trace : List Exchange)
    (after : Session) : Prop :=
  session.Awaits filter → AsksOnly filter trace ∧
    ((∀ made ∈ trace, made.found? = none) → after.Awaits filter)

theorem composes_keepsToFilter : Action.Composes (KeepsToFilter filter) where
  nothing _ awaits := ⟨trivial, fun _ => awaits⟩
  append := by
    intro first between last before after early late awaits
    obtain ⟨asksEarly, still⟩ := early awaits
    refine ⟨asksOnly_append asksEarly fun missing => (late (still missing)).1, fun missing => ?_⟩
    obtain ⟨missingEarly, missingLate⟩ := List.forall_mem_append.mp missing
    exact (late (still missingEarly)).2 missingLate

/-- What selects nothing keeps to the filter if the session waits on. -/
theorem keepsToFilter_elsewhere {session after : Session} {made : Exchange}
    (elsewhere : Elsewhere made.request) (still : session.Awaits filter → after.Awaits filter) :
    KeepsToFilter filter session [made] after := by
  refine fun awaits => ⟨⟨fun asked selection => ?_, fun _ => trivial⟩, fun _ => still awaits⟩
  rw [selection] at elsewhere
  exact elsewhere.elim

theorem keepsToFilter_select {session : Session} {uid : Option Uid}
    (asks : session.Awaits filter → uid = some filter) (reply : Except Error (Option Target)) :
    KeepsToFilter filter session [⟨.select uid, reply⟩]
      (session.tracking [⟨.select uid, reply⟩]) := by
  refine fun awaits => ⟨⟨fun asked same => ?_, fun _ => trivial⟩, fun missing => ?_⟩
  · cases same
    exact asks awaits
  · rw [tracking_of_not_found (missing _ (List.mem_singleton_self _))]
    exact awaits

theorem keepsToFilter_lift {α : Type} {talk : Talk α} (asks : talk.Asks Elsewhere) :
    (liftM talk : Action Session α).HasEffect (KeepsToFilter filter) :=
  composes_keepsToFilter.lift asks fun _ _ elsewhere => keepsToFilter_elsewhere elsewhere id

theorem Awaits.wantedUid {session : Session} (awaits : session.Awaits filter) :
    session.wantedUid = some filter := by
  unfold Session.wantedUid
  rw [awaits.2]
  exact awaits.1

theorem Operation.parts_keepsToFilter (operation : Operation) :
    operation.Parts (KeepsToFilter filter) where
  composes := composes_keepsToFilter
  select _ := keepsToFilter_select fun awaits => awaits.1
  reselect _ := keepsToFilter_select Awaits.wantedUid
  list _ _ _ _ := keepsToFilter_elsewhere trivial id
  write _ _ _ _ := keepsToFilter_elsewhere trivial id
  writable _ := keepsToFilter_lift asks_ensureWritable_elsewhere
  detect := hasEffect_detectVariant composes_keepsToFilter
    (fun _ => keepsToFilter_select Awaits.wantedUid) (keepsToFilter_lift asks_getVersion_elsewhere)
    fun _ _ awaits => ⟨trivial, fun _ => awaits⟩
  authenticate password _ := hasEffect_authenticate composes_keepsToFilter
    (keepsToFilter_lift (asks_acknowledgement_elsewhere password))
    fun _ _ awaits => ⟨trivial, fun _ => awaits⟩
  read := hasEffect_readAll composes_keepsToFilter
    (fun _ => keepsToFilter_select Awaits.wantedUid)
    (fun _ _ _ => keepsToFilter_elsewhere trivial id)
    (fun _ _ _ _ _ => keepsToFilter_elsewhere trivial id)
    fun _ _ _ _ awaits => ⟨trivial, fun _ => awaits⟩
  load _ _ _ _ awaits := ⟨trivial, fun _ => awaits⟩
  edit _ _ _ awaits := ⟨trivial, fun _ => awaits⟩

/-- **Until a tag is found, every selection asks for the filter**, whatever is
done and whatever the reader answers. -/
theorem keepsToFilter_performAll (operations : List Operation) :
    (performAll operations).HasEffect (KeepsToFilter filter) :=
  hasEffect_performAll composes_keepsToFilter fun operation _ =>
    operation.parts_keepsToFilter.hasEffect

/-! ## §5. What is learned without an answer. -/

/-- The image is changed by hand, not by what a tag shows. -/
def Operation.changesImage : Operation → Bool
  | loadImage _ => true
  | edit _ => true
  | _ => false

/-- Without credentials, and without a tag that is found or does anything, a
session stays as it is. -/
def LearnsNothing (session : Session) (trace : List Exchange) (after : Session) : Prop :=
  session.credentials = .unknown →
    (∀ made ∈ trace, made.found? = none ∧ made.succeeds = false) → after = session

theorem composes_learnsNothing : Action.Composes LearnsNothing where
  nothing _ _ _ := rfl
  append := by
    intro first between last before after early late unknown silent
    obtain ⟨silentEarly, silentLate⟩ := List.forall_mem_append.mp silent
    have same := early unknown silentEarly
    exact (late (same ▸ unknown) silentLate).trans same

theorem learnsNothing_select {session : Session} (made : Exchange) :
    LearnsNothing session [made] (session.tracking [made]) := fun _ silent =>
  tracking_of_not_found (silent made (List.mem_singleton_self made)).1 session

section

variable {σ : Type} [Reader σ] {reader : σ} {session : Session}

/-- A version is the answer to a byte frame. -/
theorem getVersion_answered {answer : Bytes} {after : σ} {events : List Event}
    (asked : getVersion.hold reader = ⟨.ok (some answer), after, events⟩) :
    ∃ frame, ⟨.bytes frame, .ok answer⟩ ∈ Event.exchanges events := by
  have exchanged := hold_getVersion reader
  rw [asked] at exchanged
  cases exchanged with
  | refused error value => cases value
  | sent inside reply crc framing value made =>
      have same : versionOf reply (do crc; framing) = some answer := (Except.ok.inj value).symm
      obtain ⟨rfl, -⟩ := versionOf_eq_some.mp same
      refine ⟨(Reader.close Frame.getVersion inside).1, ?_⟩
      rw [show Event.exchanges events = _ from made]
      simp

/-- A detection that succeeds had an answer or found a tag. -/
theorem learnsNothing_detectVariant : detectVariant.HasEffect LearnsNothing := by
  intro σ _ session reader unknown silent
  rcases asked : getVersion.hold reader with ⟨error | _ | answer, between, events⟩
  · rw [hold_detectVariant_failed asked]
  · rcases selected : Reader.answer (.select session.wantedUid) between with ⟨reply, after⟩
    rcases hold_detectVariant_unanswered asked selected with
      ⟨target, more, rfl, made, held⟩ | ⟨-, error, held⟩
    · rw [held] at silent
      have missing := (silent ⟨.select session.wantedUid, .ok (some target)⟩
        (by rw [Outcome.exchanges_mk, Event.exchanges_append, made]; simp)).1
      cases missing
    · rw [held]
  · obtain ⟨notices, -, held⟩ := hold_detectVariant_answered asked session
    obtain ⟨frame, listed⟩ := getVersion_answered asked
    rw [held, Outcome.exchanges_mk, Event.exchanges_append] at silent
    have failed := (silent _ (List.mem_append_left _ listed)).2
    cases failed

/-- So had an authentication that succeeds. -/
theorem learnsNothing_authenticate (password : Password) :
    (authenticate password).HasEffect LearnsNothing := by
  intro σ _ session reader unknown silent
  rcases result : ((authenticate password).hold session reader).value.1 with error | pack
  · exact (authenticate_failed result).1
  · obtain ⟨-, inside, answer, -, made⟩ := authenticate_ok result
    rw [made] at silent
    have failed := (silent
      ⟨.bytes (Reader.close (Frame.authenticate password) inside).1, .ok answer⟩
      (by simp [authExchanges])).2
    cases failed

end

theorem Operation.parts_learnsNothing (operation : Operation)
    (keeps : operation.changesImage = false) : operation.Parts LearnsNothing where
  composes := composes_learnsNothing
  select _ _ := learnsNothing_select _
  reselect _ _ := learnsNothing_select _
  list _ _ _ _ _ _ := rfl
  write _ _ _ _ _ _ := rfl
  writable _ := composes_learnsNothing.lift asks_ensureWritable_elsewhere fun _ _ _ _ _ => rfl
  detect := learnsNothing_detectVariant
  authenticate password _ := learnsNothing_authenticate password
  read := hasEffect_readAll composes_learnsNothing (fun _ _ => learnsNothing_select _)
    (fun _ _ _ _ _ => rfl)
    (fun _ _ _ _ _ _ silent => by cases (silent _ (List.mem_singleton_self _)).2)
    (fun _ _ _ known unknown _ => by rw [unknown] at known; cases known)
  load _ _ own := by rw [own] at keeps; cases keeps
  edit _ _ own := by rw [own] at keeps; cases keeps

/-! ## §6. A tag that the filter excludes. -/

/-- Only a listing asks for a listing. -/
theorem unlisted_performAll {operations : List Operation} (never : .listTargets ∉ operations) :
    (performAll operations).HasEffect (MakesOnly fun request => request.isList = false) :=
  hasEffect_performAll (composes_makesOnly _) fun operation listed =>
    (operation.parts_makesOnly (fun _ => rfl) (fun _ _ => rfl) (fun _ => rfl) (fun _ => rfl)
      (fun _ _ => rfl) (fun own => absurd (own ▸ listed) never) fun _ _ _ => rfl).hasEffect

/-- Short frames only go out to open the UID pages. -/
theorem unknocked_performAll {operations : List Operation}
    (never : ∀ operation ∈ operations, operation.opensUidPages = false) :
    (performAll operations).HasEffect (MakesOnly fun request => request.isBits = false) :=
  hasEffect_performAll (composes_makesOnly _) fun operation listed =>
    (operation.parts_makesOnly (fun _ => rfl) (fun _ _ => rfl) (fun _ => rfl) (fun _ => rfl)
      (fun _ _ => rfl) (fun _ _ => rfl) fun opens => by
        rw [never operation listed] at opens
        cases opens).hasEffect

/-- **A tag that the filter excludes is never selected, and does nothing until
it is woken without a selection.**  If that does not happen its memory stays,
and so does the session but for an image loaded or changed by hand; and it
does not happen without a listing and, at a clone with a back door, without
opening the UID pages. -/
theorem filter_excludes (tag : SimulatedTag) (asleep : tag.halted = true)
    (shut : tag.armed = false) (config : SessionConfig) (filter : Uid)
    (filtered : config.uidFilter = some filter) (other : filter ≠ tag.uid)
    (operations : List Operation) :
    let outcome := (performAll operations).hold (fresh config) tag
    (∀ made ∈ outcome.exchanges, made.found? = none) ∧ outcome.value.2.target = none ∧
    (∀ before made more, outcome.exchanges = before ++ made :: more → made.succeeds = true →
      ∃ woke ∈ before ++ [made], woke.wakes = true) ∧
    ((∀ made ∈ outcome.exchanges, made.wakes = false) →
      (∀ made ∈ outcome.exchanges, made.succeeds = false) ∧
      outcome.reader.contents = tag.contents ∧
      ((∀ operation ∈ operations, operation.changesImage = false) →
        outcome.value.2 = fresh config)) ∧
    (.listTargets ∉ operations →
      (tag.magic = .backdoor → ∀ operation ∈ operations, operation.opensUidPages = false) →
        ∀ made ∈ outcome.exchanges, made.wakes = false) := by
  intro outcome
  obtain ⟨asks, waits⟩ := keepsToFilter_performAll operations SimulatedTag (fresh config) tag
    ⟨filtered, rfl⟩
  have missing : ∀ made ∈ outcome.exchanges, made.found? = none :=
    Dialogue.run_unfound _ other asks
  obtain ⟨first, kept⟩ : WokenFirst outcome.exchanges ∧
      ((∀ made ∈ outcome.exchanges, made.wakes = false) →
        outcome.reader.contents = tag.contents) :=
    Dialogue.run_asleep _ asleep other (asks.asked missing)
  have woken : ∀ before made more, outcome.exchanges = before ++ made :: more →
      made.succeeds = true → ∃ woke ∈ before ++ [made], woke.wakes = true :=
    fun before made more split => first.exists_wakes split
  refine ⟨missing, (waits missing).2, woken, fun unwoken => ?_, fun unlisted unknocked => ?_⟩
  · have failed : ∀ made ∈ outcome.exchanges, made.succeeds = false := by
      intro made listed
      obtain ⟨before, more, split⟩ := List.append_of_mem listed
      refine Bool.eq_false_iff.mpr fun succeeds => ?_
      obtain ⟨woke, early, wakes⟩ := woken before made more split succeeds
      have never : woke.wakes = false := unwoken woke (by rw [split]; grind)
      rw [wakes] at never
      cases never
    refine ⟨failed, kept unwoken, fun keeps => ?_⟩
    exact hasEffect_performAll composes_learnsNothing
      (fun operation listed => (operation.parts_learnsNothing (keeps operation listed)).hasEffect)
      SimulatedTag (fresh config) tag rfl
      fun made listed => ⟨missing made listed, failed made listed⟩
  · exact Dialogue.run_unwoken _ shut (unlisted_performAll unlisted SimulatedTag (fresh config) tag)
      fun door => unknocked_performAll (unknocked door) SimulatedTag (fresh config) tag

/-- Another tag than the one that is made by default. -/
def otherUid : Uid := ⟨[0x04, 0x0a, 0x0b, 0x0c, 0x0d, 0x0e, 0x0f], by decide⟩

/-- A fresh tag is asleep and unarmed, and a filter for another tag leaves it
so through selections, a detection, an authentication, a read and a write. -/
theorem filter_excludes_fresh :
    let tag := SimulatedTag.fresh .ultralight
    let config : SessionConfig := { SessionConfig.default with uidFilter := some otherUid }
    let operations := [.select, .detectVariant, .authenticate .factory, .readAll,
      .writeAll .none]
    let outcome := (performAll operations).hold (fresh config) tag
    tag.halted = true ∧ tag.armed = false ∧ config.uidFilter = some otherUid ∧
      otherUid ≠ tag.uid ∧ outcome.reader.contents = tag.contents ∧
      outcome.value.2 = fresh config := by
  intro tag config operations outcome
  have other : otherUid ≠ tag.uid := by decide
  obtain ⟨-, -, -, quiet, unwoken⟩ :=
    filter_excludes tag rfl rfl config otherUid rfl other operations
  obtain ⟨-, contents, session⟩ := quiet (unwoken (by simp [operations]) nofun)
  exact ⟨rfl, rfl, rfl, other, contents, session (by simp [operations, Operation.changesImage])⟩

/-- **A filter does not exclude a tag that is woken**: after a listing the tag
shows its memory to a session that asks for another one, and a clone takes
the pages of such a session through its back door. -/
theorem excluded_tag_woken :
    let config : SessionConfig := { SessionConfig.default with uidFilter := some otherUid }
    let tag := SimulatedTag.fresh .ultralight
    let clone := { SimulatedTag.fresh .ultralight with magic := .backdoor }
    let listed := (performAll [.listTargets, .readAll]).hold (fresh config) tag
    let opened := (performAll [.writeAll .all]).hold (fresh config) clone
    otherUid ≠ tag.uid ∧ otherUid ≠ clone.uid ∧
      (∃ made ∈ listed.exchanges, made.succeeds = true) ∧
      listed.value.2.target = none ∧
      opened.value.2.target = none ∧ opened.reader.contents ≠ clone.contents := by
  intro config tag clone listed opened
  have succeeded : listed.exchanges.any Exchange.succeeds = true := by decide +kernel
  have missing : listed.value.2.target = none := by decide +kernel
  have unselected : opened.value.2.target = none := by decide +kernel
  have stored : opened.reader.page 0 ≠ clone.page 0 := by decide +kernel
  exact ⟨by decide, by decide, List.any_eq_true.mp succeeded, missing, unselected,
    fun same => stored (SimulatedTag.page_eq_of_contents same 0)⟩

end Session

end Ultralight
