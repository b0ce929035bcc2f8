/-
  Ultralight.Proofs.RewrittenUid
  ──────────────────────────────
  **Which tag is selected while its UID is being rewritten.**

  Writing an image may change the UID that the tag stores, and a page refused
  after that makes the pass select the tag again.  It selects the target that
  the session holds, as everywhere else: what was written to pages 0 and 1 is
  not looked at.

    • `asksHeld_writeAll` — whatever the reader answers, a selection asks for
      the last tag found, else for the target from before,
    • `asksSame_writeAll` — so as long as a reader only finds what it is asked
      for, every selection asks for the UID from before,
    • `endsInVain_writeAll` — a selection in vain ends it all.

  `writeAll_selects_held` is the three together.
-/
import Ultralight.Proofs.IntactSession
import Ultralight.Proofs.WriteSequence
import Ultralight.SimulatedTag

namespace Ultralight

/-- A selection that asks for a UID finds a tag with that UID, if it finds
any. -/
def Exchange.FindsAsked (made : Exchange) : Prop :=
  ∀ uid target, made = ⟨.select (some uid), .ok (some target)⟩ → target.uid = uid

namespace Session

open Dialogue (Event Outcome)
open SimulatedTag (defaultUid)

/-! ## §1. What every selection asks for. -/

/-- The session follows its traffic, and each selection asks for the tag that
the session wants at that time. -/
def AsksHeld (session : Session) (trace : List Exchange) (after : Session) : Prop :=
  after = session.tracking trace ∧
    ∀ before uid reply more, trace = before ++ ⟨.select uid, reply⟩ :: more →
      uid = (session.tracking before).wantedUid

theorem composes_asksHeld : Action.Composes AsksHeld where
  nothing _ := ⟨rfl, fun before _ _ _ split => by simp at split⟩
  append := by
    rintro first _ _ early late ⟨rfl, here⟩ ⟨rfl, later⟩
    refine ⟨(tracking_append first early late).symm, fun before uid reply more split => ?_⟩
    -- the selection stands in one of the two parts
    rcases List.append_eq_append_iff.mp split with ⟨between, rfl, rest⟩ | ⟨between, whole, rest⟩
    · rw [tracking_append]
      exact later between uid reply more rest
    · rcases between with _ | ⟨made, between⟩
      · rw [List.append_nil] at whole
        rw [← whole, ← tracking_nil (first.tracking early)]
        exact later [] uid reply more rest.symm
      · obtain ⟨rfl, -⟩ := List.cons.inj rest
        exact here before uid reply between whole

/-- Whatever is no selection asks for no tag. -/
theorem asksHeld_elsewhere {made : Exchange} (h : Elsewhere made.request) (session : Session) :
    AsksHeld session [made] session := by
  refine ⟨(tracking_of_elsewhere session (List.forall_mem_singleton.mpr h)).symm,
    fun before uid reply more split => ?_⟩
  obtain rfl : made = ⟨.select uid, reply⟩ := by
    rcases before with _ | ⟨first, before⟩
    · exact (List.cons.inj split).1
    · simp at split
  exact h.elim

theorem asksHeld_wanted (session : Session) (reply : Except Error (Option Target)) :
    AsksHeld session [⟨.select session.wantedUid, reply⟩]
      (session.tracking [⟨.select session.wantedUid, reply⟩]) := by
  refine ⟨rfl, fun before uid reply more split => ?_⟩
  rcases before with _ | ⟨first, before⟩
  · cases split
    rfl
  · simp at split

/-- **Writing everything selects the tag that the session holds**, whatever
the reader answers and whatever was written. -/
theorem asksHeld_writeAll (policy : WritePolicy) : (writeAll policy).HasEffect AsksHeld :=
  hasEffect_writeAll composes_asksHeld asksHeld_wanted policy
    (fun _ => composes_asksHeld.lift asks_ensureWritable_elsewhere
      fun _ session elsewhere => asksHeld_elsewhere elsewhere session)
    fun _ _ _ session => asksHeld_elsewhere (by trivial) session

/-- As long as selections find what they ask for, they all ask for the same
UID. -/
def AsksSame (uid : Uid) (session : Session) (trace : List Exchange) (after : Session) : Prop :=
  session.wantedUid = some uid → (∀ made ∈ trace, made.FindsAsked) →
    after.wantedUid = some uid ∧ ∀ asked reply, ⟨.select asked, reply⟩ ∈ trace → asked = some uid

variable {uid : Uid}

theorem composes_asksSame : Action.Composes (AsksSame uid) where
  nothing _ wanted _ := ⟨wanted, nofun⟩
  append := by
    intro first between last early late here later wanted honest
    obtain ⟨honestEarly, honestLate⟩ := List.forall_mem_append.mp honest
    obtain ⟨wantedBetween, askedEarly⟩ := here wanted honestEarly
    obtain ⟨wantedLast, askedLate⟩ := later wantedBetween honestLate
    refine ⟨wantedLast, fun asked reply listed => ?_⟩
    rcases List.mem_append.mp listed with listed | listed
    · exact askedEarly asked reply listed
    · exact askedLate asked reply listed

theorem asksSame_elsewhere {made : Exchange} (h : Elsewhere made.request) (session : Session) :
    AsksSame uid session [made] session := by
  refine fun wanted _ => ⟨wanted, fun asked reply listed => ?_⟩
  obtain rfl := List.mem_singleton.mp listed
  exact h.elim

theorem asksSame_wanted (session : Session) (reply : Except Error (Option Target)) :
    AsksSame uid session [⟨.select session.wantedUid, reply⟩]
      (session.tracking [⟨.select session.wantedUid, reply⟩]) := by
  intro wanted honest
  have own := List.forall_mem_singleton.mp honest
  refine ⟨?_, fun asked _ listed => ?_⟩
  · rcases reply with error | _ | target
    · rwa [tracking_of_not_found rfl]
    · rwa [tracking_of_not_found rfl]
    · rw [tracking_of_found rfl]
      rw [wanted] at own
      exact congrArg some (own uid target rfl)
  · cases List.mem_singleton.mp listed
    exact wanted

theorem asksSame_writeAll (policy : WritePolicy) :
    (writeAll policy).HasEffect (AsksSame uid) :=
  hasEffect_writeAll composes_asksSame asksSame_wanted policy
    (fun _ => composes_asksSame.lift asks_ensureWritable_elsewhere
      fun _ session elsewhere => asksSame_elsewhere elsewhere session)
    fun _ _ _ session => asksSame_elsewhere (by trivial) session

/-! ## §2. Selections in vain. -/

/-- Whatever the reader answers, a selection in vain is the last exchange of an
action, and the tag counts as removed. -/
def EndsInVain {α : Type} (action : Action Session α) : Prop :=
  ∀ (σ : Type) [Reader σ] (session : Session) (reader : σ),
    ∀ made ∈ (action.hold session reader).exchanges, made.isSelection = true →
      made.found? = none → (action.hold session reader).exchanges.getLast? = some made ∧
        (action.hold session reader).value.1 = .error .tagRemoved

namespace EndsInVain

variable {α β : Type} {action : Action Session α} {next : α → Action Session β}

/-- The error ends whatever the action is a part of. -/
theorem bind (first : EndsInVain action) (rest : ∀ value, EndsInVain (next value)) :
    EndsInVain (action >>= next) := by
  intro σ _ session reader made listed selection missing
  have here := first σ session reader made
  rcases held : action.hold session reader with ⟨⟨error | value, changed⟩, after, events⟩ <;>
    rw [held] at here
  · rw [Action.hold_bind_error held] at listed ⊢
    obtain ⟨last, removed⟩ := here listed selection missing
    cases removed
    exact ⟨last, rfl⟩
  · rw [Action.hold_bind_ok held, Outcome.exchanges_precededBy] at listed ⊢
    rcases List.mem_append.mp listed with early | late
    · -- an action that went well selected nothing in vain
      cases (here early selection missing).2
    · obtain ⟨last, removed⟩ := rest value σ changed after made late selection missing
      exact ⟨by rw [List.getLast?_append, last]; rfl, removed⟩

/-- An action that selects nothing selects nothing in vain. -/
theorem of_elsewhere (h : action.HasEffect (MakesOnly Elsewhere)) : EndsInVain action := by
  intro σ _ session reader made listed selection
  have other := h σ session reader made listed
  rcases made with ⟨request, reply⟩
  cases request with
  | select uid => exact other.elim
  | _ => cases selection

/-- A talk that asks nothing. -/
theorem of_silent {talk : Talk α} (h : talk.Asks fun _ => False) :
    EndsInVain (liftM talk : Action Session α) :=
  of_elsewhere ((composes_makesOnly Elsewhere).silent h)

theorem pure (value : α) : EndsInVain (pure value : Action Session α) :=
  of_elsewhere ((composes_makesOnly Elsewhere).pure value)

theorem get : EndsInVain (get : Action Session Session) :=
  of_elsewhere (composes_makesOnly Elsewhere).get

end EndsInVain

theorem endsInVain_wakeOrLose (asleep : Bool) (markers : List Marker) :
    EndsInVain (wakeOrLose asleep markers) := by
  intro σ _ session reader made listed selection missing
  cases asleep with
  | false =>
      rw [hold_wakeOrLose_awake] at listed
      cases listed
  | true =>
      rcases answered : Reader.answer (.select session.wantedUid) reader with ⟨reply, after⟩
      rcases hold_wakeOrLose_asleep markers answered with ⟨target, rfl, held⟩ | ⟨-, error, held⟩ <;>
        rw [held] at listed ⊢ <;> cases List.mem_singleton.mp listed
      · cases missing
      · exact ⟨rfl, rfl⟩

/-- **A pass ends with a selection in vain**, whatever pages it is to write and
whatever pages the image has. -/
theorem endsInVain_writeEach (policy : WritePolicy) (variant : Variant) (numbers : List Nat) :
    ∀ (asleep : Bool) (markers : List Marker),
      EndsInVain (writeEach policy variant numbers asleep markers) := by
  induction numbers with
  | nil => intro asleep markers; exact .pure markers
  | cons number rest ih =>
      intro asleep markers
      unfold writeEach
      split
      · exact ih asleep _
      · refine (endsInVain_wakeOrLose asleep markers).bind fun _ => ?_
        refine EndsInVain.get.bind fun session => ?_
        refine (EndsInVain.of_silent (Talk.asks_ofExcept _)).bind fun page => ?_
        have asked : (Talk.attempt (Talk.ask (.write (UInt8.ofNat number) page.padded))).Asks
            Elsewhere := Talk.asks_attempt (Talk.asks_ask trivial)
        refine (EndsInVain.of_elsewhere (makesOnly_lift asked)).bind fun reply => ?_
        rcases reply with error | ⟨⟩
        · exact (EndsInVain.of_silent (Talk.asks_report _)).bind fun _ => ih true _
        · exact ih false _

theorem endsInVain_writePages (policy : WritePolicy) (start stop : Nat) :
    EndsInVain (writePages policy start stop) := by
  refine EndsInVain.get.bind fun session => ?_
  have pass : EndsInVain (do
      Talk.report (.writing session.variant.pages)
      let markers ← writeEach policy session.variant (List.range' start (stop - start)) false []
      Talk.report (.markers markers)
      let report := WriteReport.ofMarkers session.variant.pages markers
      Talk.report (.writeDone report)
      pure report : Action Session WriteReport) := by
    refine (EndsInVain.of_silent (Talk.asks_report _)).bind fun _ => ?_
    refine (endsInVain_writeEach policy _ _ _ _).bind fun markers => ?_
    refine (EndsInVain.of_silent (Talk.asks_report _)).bind fun _ => ?_
    exact (EndsInVain.of_silent (Talk.asks_report _)).bind fun _ => .pure _
  dsimp only
  split
  · exact (EndsInVain.of_elsewhere ((composes_makesOnly Elsewhere).throw _)).bind fun _ => pass
  · exact pass

theorem endsInVain_writeAll (policy : WritePolicy) : EndsInVain (writeAll policy) :=
  -- opening the UID pages selects nothing
  (EndsInVain.of_elsewhere (makesOnly_lift
    (asks_openUidPages fun _ => asks_ensureWritable_elsewhere))).bind fun _ =>
      EndsInVain.get.bind fun _ => endsInVain_writePages policy _ _

/-! ## §3. Writing over a UID. -/

/-- **While everything is written the tag of the session is selected.**
Whatever is in the image and whatever pages were accepted before: each
selection asks for the last tag found, else for the target from before.  So
with a reader that finds no tag but the one asked for, each of them asks for
the UID from before, also after pages 0 and 1 were given another one; and a
selection in vain ends the writing there, with the tag removed. -/
theorem writeAll_selects_held {σ : Type} [Reader σ] (policy : WritePolicy) (session : Session)
    (reader : σ) :
    let outcome := (writeAll policy).hold session reader
    (∀ before uid reply more, outcome.exchanges = before ++ ⟨.select uid, reply⟩ :: more →
      uid = (session.tracking before).wantedUid) ∧
    (∀ target, session.target = some target →
      (∀ made ∈ outcome.exchanges, made.FindsAsked) →
        ∀ uid reply, ⟨.select uid, reply⟩ ∈ outcome.exchanges → uid = some target.uid) ∧
    (∀ made ∈ outcome.exchanges, made.isSelection = true → made.found? = none →
      outcome.exchanges.getLast? = some made ∧ outcome.value.1 = .error .tagRemoved) := by
  refine ⟨(asksHeld_writeAll policy σ session reader).2, fun target held honest => ?_,
    endsInVain_writeAll policy σ session reader⟩
  have wanted : session.wantedUid = some target.uid := by
    unfold wantedUid
    rw [held]
    rfl
  exact (asksSame_writeAll policy σ session reader wanted honest).2

/-- A session that selected a clone with the UID it was made with, and holds an
image with another UID. -/
def renamingSession : Session where
  config := .default
  target := some ⟨0x00, 0x44, 0x00, defaultUid⟩
  variant := .ultralight
  credentials := .unknown
  image := (Image.blank .ultralight).overlay 0 [0x04, 0x0a, 0x0b, 0x8d, 0x0c, 0x0d, 0x0e, 0x0f]

/-- The reader of the clone, which takes pages 0 and 1, refuses page 4, and
does not answer to its old UID then. -/
def renamingReader : ScriptedReader :=
  { ScriptedReader.silent with
    read := [.ok Page.zero.padded]
    write := [.ok (), .ok (), .ok (), .ok (), .ok (), .error .refused]
    select := [.ok none] }

/-- What passes while the clone is written: pages 0 to 2 are probed, pages 0
and 1 take what the image holds, and page 4 does not. -/
def renamingTrace : List Exchange :=
  [⟨.read 0, .ok Page.zero.padded⟩, ⟨.write 0 Page.zero.padded, .ok ()⟩,
    ⟨.write 1 Page.zero.padded, .ok ()⟩, ⟨.write 2 Page.zero.padded, .ok ()⟩,
    ⟨.write 0 (renamingSession.image.pageAt 0).padded, .ok ()⟩,
    ⟨.write 1 (renamingSession.image.pageAt 1).padded, .ok ()⟩,
    ⟨.write 4 (renamingSession.image.pageAt 4).padded, .error .refused⟩,
    ⟨.select (some defaultUid), .ok none⟩]

/-- The clone is asked for by its old UID, in vain. -/
theorem writeAll_selects_held_renamed :
    let outcome := (writeAll ⟨false, false, false, true⟩).hold renamingSession renamingReader
    let made : Exchange := ⟨.select (some defaultUid), .ok none⟩
    outcome.exchanges = renamingTrace ∧ (∀ made ∈ outcome.exchanges, made.FindsAsked) ∧
      (∀ uid reply, ⟨.select uid, reply⟩ ∈ outcome.exchanges → uid = some defaultUid) ∧
      made ∈ outcome.exchanges ∧ made.isSelection = true ∧ made.found? = none ∧
      outcome.exchanges.getLast? = some made ∧ outcome.value.1 = .error .tagRemoved := by
  intro outcome made
  have trace : outcome.exchanges = renamingTrace := rfl
  have listed : made ∈ outcome.exchanges := by
    rw [trace]
    exact List.mem_of_getLast? rfl
  have honest : ∀ made ∈ outcome.exchanges, made.FindsAsked := by
    rw [trace]
    rintro _ listed uid target rfl
    simp [renamingTrace] at listed
  obtain ⟨-, same, lost⟩ :=
    writeAll_selects_held ⟨false, false, false, true⟩ renamingSession renamingReader
  exact ⟨trace, honest, same _ rfl honest, listed, rfl, rfl, lost made listed rfl rfl⟩

/-- **The UID that was just written is not the one that is asked for**: pages
0 and 1 were accepted with another UID, and the page refused after them ends
in the removal of the tag. -/
theorem rewritten_uid_not_selected :
    let outcome := (writeAll ⟨false, false, false, true⟩).hold renamingSession renamingReader
    outcome.exchanges = renamingTrace ∧
      renamingSession.image.uid = [0x04, 0x0a, 0x0b, 0x0c, 0x0d, 0x0e, 0x0f] ∧
      ¬ (∀ reply, ⟨.select (some defaultUid), reply⟩ ∈ outcome.exchanges →
        defaultUid.bytes = renamingSession.image.uid) ∧
      outcome.value.1 = .error .tagRemoved := by
  intro outcome
  have written : renamingSession.image.uid = [0x04, 0x0a, 0x0b, 0x0c, 0x0d, 0x0e, 0x0f] := by
    simp [Image.uid, renamingSession, Image.byteAt_overlay, maxDumpSize]
  refine ⟨rfl, written, fun followed => ?_, rfl⟩
  have same := followed (.ok none) (List.mem_of_getLast? rfl)
  rw [written] at same
  revert same
  decide

end Session

end Ultralight
