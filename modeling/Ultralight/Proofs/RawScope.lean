/-
  Ultralight.Proofs.RawScope
  ──────────────────────────
  **No operation goes astray in raw mode.**

  Whatever the reader answers, the traffic of every operation turns the
  switches of raw mode in stretches only: a stretch is entered by
  `RawMode.enter`, and what stands behind it in each of its uses sends
  frames, cannot fail, and then leaves (`Talk.Leaves`).

  On a simulated tag the switches are what the traffic made of them
  (`run_switches`).  So if nothing refuses to switch them on again, no
  operation of any run ends in raw mode, and none meets a READ or a WRITE
  there (`rawMode_scoped`).
-/
import Ultralight.Proofs.OperationEffects
import Ultralight.Proofs.RawStretches
import Ultralight.Proofs.TagSteps

namespace Ultralight

namespace RawMode

/-! ## §1. The stretches of the operations. -/

/-- Frames are sent one after the other, whatever becomes of each. -/
theorem asks_steps (steps : List Step) :
    (steps.mapM fun step => Talk.attempt step.send).Asks fun request => request.isFrame = true := by
  have asks_send : ∀ step : Step, step.send.Asks fun request => request.isFrame = true := by
    intro step
    cases step with
    | frame payload => exact asks_sendFrame fun _ => rfl
    | bytes whole => exact asks_sendBytes rfl
    | bits short count => exact asks_sendBits rfl
  induction steps with
  | nil => exact Talk.asks_pure []
  | cons step rest ih =>
      rw [List.mapM_cons]
      refine Talk.asks_bind (Talk.asks_attempt (asks_send step)) fun answer => ?_
      exact Talk.asks_bind ih fun answers => Talk.asks_pure _

theorem succeeds_steps (steps : List Step) :
    (steps.mapM fun step => Talk.attempt step.send).Succeeds := by
  induction steps with
  | nil => exact Talk.succeeds_pure []
  | cons step rest ih =>
      rw [List.mapM_cons]
      refine (Talk.succeeds_attempt _).bind fun answer => ?_
      exact ih.bind fun answers => Talk.succeeds_pure _

theorem keepsScope_converse (steps : List Step) (ending : Ending) :
    (converse steps ending).KeepsScope := by
  refine keepsScope_of_leaves (.after_frames (asks_steps steps) (succeeds_steps steps)
    fun answers => ?_)
  have left : ending.perform.Leaves := by
    cases ending with
    | finish => exact leaves_leave
    | abandon => exact leaves_abandon
  exact left.attempt.before_silence fun _ => Talk.asks_pure _

end RawMode

namespace Session

open RawMode (leaves_leave keepsScope_of_leaves)

theorem keepsScope_getVersion : getVersion.KeepsScope := by
  refine keepsScope_of_leaves (.after_frames (Talk.asks_attempt (RawMode.asks_sendFrame
    fun _ => rfl)) (Talk.succeeds_attempt _) fun answer => ?_)
  refine leaves_leave.attempt.before_silence fun left => ?_
  rcases left with error | ⟨⟩
  · exact Talk.asks_bind (Talk.asks_report _) fun _ => Talk.asks_pure none
  · rcases answer with error | bytes
    · exact Talk.asks_bind (Talk.asks_report _) fun _ => Talk.asks_pure none
    · dsimp only
      split
      · exact Talk.asks_pure (some bytes)
      · exact Talk.asks_bind (Talk.asks_report _) fun _ => Talk.asks_pure none

theorem keepsScope_acknowledgement (password : Password) :
    (acknowledgement password).KeepsScope := by
  have presented : (presentPassword password).KeepsScope := by
    refine keepsScope_of_leaves (.after_frames (Talk.asks_attempt (RawMode.asks_sendFrame
      fun _ => rfl)) (Talk.succeeds_attempt _) fun answer => ?_)
    exact leaves_leave.attempt.before_silence fun left => Talk.asks_pure _
  refine presented.bind fun (answer, left) => Talk.keepsScope_of_asks ?_
  rcases answer with error | bytes
  · exact Talk.asks_bind (Talk.asks_report _) fun _ => Talk.asks_throw _
  · dsimp only
    split
    · exact Talk.asks_throw _
    · exact Talk.asks_bind (Talk.asks_report _) fun _ => Talk.asks_throw _
    · exact Talk.asks_pure _

/-- Knocking never fails, so raw mode is left after it. -/
theorem keepsScope_unlockBackdoor : unlockBackdoor.KeepsScope := by
  have succeeds : knock.Succeeds := by
    refine (Talk.succeeds_attempt _).bind fun _ => (Talk.succeeds_attempt _).bind fun first => ?_
    rcases first with error | answer
    · exact (Talk.succeeds_report _).bind fun _ => Talk.succeeds_pure false
    · refine (Talk.succeeds_attempt _).bind fun second => ?_
      rcases second with error | answer
      · exact Talk.succeeds_pure false
      · exact Talk.succeeds_pure true
  refine keepsScope_of_leaves (.after_frames (asks_knock (fun _ _ => rfl) fun _ => rfl) succeeds
    fun unlocked => ?_)
  exact leaves_leave.before_silence fun _ => Talk.asks_pure unlocked

theorem keepsScope_ensureWritable : ensureWritable.KeepsScope := by
  have outside : probeDirectWrite.Asks Outside :=
    asks_probeDirectWrite (fun _ _ => rfl) fun _ => rfl
  refine (Talk.keepsScope_of_asks outside).bind fun direct => ?_
  cases direct with
  | true =>
      exact Talk.keepsScope_of_asks (Talk.asks_bind (Talk.asks_report _) fun _ => Talk.asks_pure _)
  | false =>
      exact (Talk.keepsScope_of_asks (Talk.asks_report _)).bind fun _ => keepsScope_unlockBackdoor

/-- Selections, READs, WRITEs and listings are no matter of raw mode. -/
theorem inStretches_single {made : Exchange} (h : Outside made.request) : InStretches [made] :=
  .of_forall (List.forall_mem_singleton.mpr h)

section

open InStretches (composes)

/-- The parts of every operation keep to stretches. -/
theorem Operation.inStretches (operation : Operation) :
    operation.Parts fun _ trace _ => InStretches trace where
  composes := composes
  select _ _ := inStretches_single rfl
  reselect _ _ := inStretches_single rfl
  list _ _ _ _ := inStretches_single rfl
  write _ _ _ _ := inStretches_single rfl
  writable _ := Action.keepsScope_lift keepsScope_ensureWritable
  detect := hasEffect_detectVariant composes (fun _ _ => inStretches_single rfl)
    (Action.keepsScope_lift keepsScope_getVersion) fun _ _ => .nil
  authenticate password _ := hasEffect_authenticate composes
    (Action.keepsScope_lift (keepsScope_acknowledgement password)) fun _ _ => .nil
  read := hasEffect_readAll composes (fun _ _ => inStretches_single rfl)
    (fun _ _ _ => inStretches_single rfl) (fun _ _ _ _ _ => inStretches_single rfl)
    fun _ _ _ _ => .nil
  load _ _ _ _ := .nil
  edit _ _ _ := .nil

/-- **Every operation keeps to stretches**, whatever the reader answers. -/
theorem Operation.keepsScope (operation : Operation) : operation.perform.KeepsScope :=
  operation.inStretches.hasEffect

theorem keepsScope_performAll (operations : List Operation) :
    (performAll operations).KeepsScope :=
  hasEffect_performAll composes fun operation _ => operation.keepsScope

end

end Session

/-! ## §2. The switches of a simulated tag. -/

/-- The two switches of raw mode after one more exchange. -/
def Exchange.turned (on : Bool × Bool) : Exchange → Bool × Bool
  | ⟨.setProperty .handleCrc enable, .ok _⟩ => (enable, on.2)
  | ⟨.setProperty .easyFraming enable, .ok _⟩ => (on.1, enable)
  | _ => on

/-- The reader refuses to switch one of the two on. -/
def Exchange.keepsOff : Exchange → Bool
  | ⟨.setProperty .handleCrc true, .error _⟩ => true
  | ⟨.setProperty .easyFraming true, .error _⟩ => true
  | _ => false

theorem Exchange.turned_of_other {made : Exchange} (h : made.request.turnsSwitch = false)
    (on : Bool × Bool) : made.turned on = on := by
  rcases made with ⟨request, reply⟩
  cases request with
  | setProperty property enable =>
      cases property with
      | infiniteSelect => rfl
      | handleCrc => cases h
      | easyFraming => cases h
  | _ => rfl

/-- From these switches on, whatever needs framing meets both of them on. -/
def FramedOn : Bool × Bool → List Exchange → Prop
  | _, [] => True
  | on, made :: more =>
      (made.request.isFramed = true → on = (true, true)) ∧ FramedOn (made.turned on) more

variable {trace more : List Exchange}

theorem framedOn_append (on : Bool × Bool) :
    FramedOn on (trace ++ more) ↔
      FramedOn on trace ∧ FramedOn (trace.foldl Exchange.turned on) more := by
  induction trace generalizing on with
  | nil => simp [FramedOn]
  | cons made trace ih =>
      rw [List.cons_append, FramedOn, FramedOn, List.foldl_cons, ih, and_assoc]

/-- Frames turn no switch, and meet the switches as they like. -/
theorem framedOn_frames (sent : ∀ made ∈ trace, made.request.isFrame = true) (on : Bool × Bool) :
    FramedOn on trace ∧ trace.foldl Exchange.turned on = on := by
  induction trace with
  | nil => exact ⟨trivial, rfl⟩
  | cons made trace ih =>
      obtain ⟨frame, rest⟩ := List.forall_mem_cons.mp sent
      obtain ⟨unframed, other⟩ := Request.plain_of_isFrame frame
      rw [FramedOn, List.foldl_cons, Exchange.turned_of_other other]
      exact ⟨⟨fun framed => by simp [unframed] at framed, (ih rest).1⟩, (ih rest).2⟩

/-- A stretch that is not kept from switching on again ends as it began, and
nothing in it needs framing. -/
theorem Stretch.framedOn {visit : List Exchange} (h : Stretch visit)
    (restored : ∀ made ∈ visit, made.keepsOff = false) :
    FramedOn (true, true) visit ∧ visit.foldl Exchange.turned (true, true) = (true, true) := by
  cases h with
  | refused error => exact ⟨⟨nofun, trivial⟩, rfl⟩
  | undone error reply =>
      rcases reply with error | ⟨⟩
      · simp [Exchange.keepsOff] at restored
      · exact ⟨⟨nofun, nofun, nofun, trivial⟩, rfl⟩
  | @held frames sent crc framing =>
      obtain ⟨framedOn, unturned⟩ := framedOn_frames sent (false, false)
      rcases crc with error | ⟨⟩
      · simp [Exchange.keepsOff, or_imp, forall_and] at restored
      · rcases framing with error | ⟨⟩
        · simp [Exchange.keepsOff, or_imp, forall_and] at restored
        · refine ⟨⟨nofun, nofun, ?_⟩, ?_⟩
          · refine (framedOn_append (false, false)).mpr ⟨framedOn, ?_⟩
            exact ⟨nofun, nofun, trivial⟩
          · show (frames ++ _).foldl Exchange.turned (false, false) = _
            rw [List.foldl_append, unturned]
            rfl

/-- So does a traffic in stretches. -/
theorem InStretches.framedOn (h : InStretches trace)
    (restored : ∀ made ∈ trace, made.keepsOff = false) :
    FramedOn (true, true) trace ∧ trace.foldl Exchange.turned (true, true) = (true, true) := by
  induction h with
  | nil => exact ⟨trivial, rfl⟩
  | outside other _ ih =>
      obtain ⟨-, restored⟩ := List.forall_mem_cons.mp restored
      rw [FramedOn, List.foldl_cons, Exchange.turned_of_other other]
      exact ⟨⟨fun _ => rfl, (ih restored).1⟩, (ih restored).2⟩
  | stretch visit _ ih =>
      obtain ⟨within, restored⟩ := List.forall_mem_append.mp restored
      obtain ⟨framedOn, ended⟩ := visit.framedOn within
      rw [framedOn_append, List.foldl_append, ended]
      exact ⟨⟨framedOn, (ih restored).1⟩, (ih restored).2⟩

namespace SimulatedTag

/-- The switches for checksums and for framing. -/
def switches (tag : SimulatedTag) : Bool × Bool := (tag.handleCrc, tag.easyFraming)

theorem inRawMode_iff (tag : SimulatedTag) :
    tag.inRawMode = false ↔ tag.switches = (true, true) := by
  simp [inRawMode, switches]

/-- The reader lets both switches of raw mode be switched on again. -/
structure Restorable (tag : SimulatedTag) : Prop where
  crc : tag.faults.property ≠ some (.handleCrc, true)
  framing : tag.faults.property ≠ some (.easyFraming, true)

/-- What only a switch can change: the switches, and which of their changes
is refused. -/
def wiring (tag : SimulatedTag) : (Bool × Bool) × Option (Property × Bool) :=
  (tag.switches, tag.faults.property)

theorem wiring_select (tag : SimulatedTag) (wanted : Option Uid) :
    (tag.select wanted).2.wiring = tag.wiring := by
  rcases tag.select_cases wanted with ⟨_, _, held, same, -⟩ | ⟨-, held⟩ <;> rw [held]
  · exact congrArg (Prod.mk tag.switches) same
  · rfl

/-- Whatever is not a switch leaves the wiring alone. -/
theorem wiring_answer {request : Request} (h : request.turnsSwitch = false) (tag : SimulatedTag) :
    (Reader.answer request tag).2.wiring = tag.wiring := by
  cases request with
  | init => rfl
  | setProperty property enable =>
      cases property with
      | infiniteSelect =>
          show (tag.setProperty .infiniteSelect enable).2.wiring = _
          unfold setProperty
          split <;> rfl
      | handleCrc => cases h
      | easyFraming => cases h
  | select wanted => exact wiring_select tag wanted
  | list most =>
      show (listBySelecting (fun wanted tag => tag.select wanted) most tag).2.wiring = _
      rcases tag.list_cases most with held | held <;> rw [held]
      exact wiring_select tag none
  | bits frame count =>
      show (tag.exchangeBits frame count).2.wiring = _
      rcases tag.exchangeBits_cases frame count with ⟨-, held⟩ | held <;> rw [held] <;> rfl
  | bytes frame =>
      show (tag.exchangeBytes frame).2.wiring = _
      rcases tag.exchangeBytes_cases frame with ⟨-, -, held⟩ | ⟨_, _, held, -⟩ <;> rw [held] <;> rfl
  | read page =>
      show (tag.readBlock page).2.wiring = _
      obtain ⟨_, _, _, held⟩ := tag.readBlock_cases page
      rw [held]
      rfl
  | write page data =>
      show (tag.writePage page data.p0).2.wiring = _
      rcases tag.writePage_cases page data.p0 with ⟨_, _, _, held⟩ | held | held <;>
        rw [held] <;> rfl

/-- The switches are what the answer says, and which changes are refused stays
the same. -/
theorem wiring_answer_turned (request : Request) (tag : SimulatedTag) :
    (Reader.answer request tag).2.wiring =
      (Exchange.turned tag.switches ⟨request, (Reader.answer request tag).1⟩,
        tag.faults.property) := by
  by_cases h : request.turnsSwitch = false
  · rw [wiring_answer h, Exchange.turned_of_other h]
    rfl
  · cases request with
    | setProperty property enable =>
        show (tag.setProperty property enable).2.wiring =
          (Exchange.turned tag.switches
            ⟨.setProperty property enable, (tag.setProperty property enable).1⟩, _)
        unfold setProperty
        split
        · cases property <;> rfl
        · cases property <;> rfl
    | _ => exact absurd rfl h

/-- A restorable reader never refuses to switch on again. -/
theorem Restorable.keepsOff {tag : SimulatedTag} (restorable : tag.Restorable) (request : Request) :
    Exchange.keepsOff ⟨request, (Reader.answer request tag).1⟩ = false := by
  cases request with
  | setProperty property enable =>
      show Exchange.keepsOff
        ⟨.setProperty property enable, (tag.setProperty property enable).1⟩ = false
      unfold setProperty
      split
      · next refused =>
        cases property with
        | infiniteSelect => rfl
        | handleCrc =>
            cases enable with
            | false => rfl
            | true => exact absurd refused restorable.crc
        | easyFraming =>
            cases enable with
            | false => rfl
            | true => exact absurd refused restorable.framing
      · cases property <;> cases enable <;> rfl
  | _ => rfl

theorem switches_answer (request : Request) (tag : SimulatedTag) :
    (Reader.answer request tag).2.switches =
      Exchange.turned tag.switches ⟨request, (Reader.answer request tag).1⟩ :=
  congrArg Prod.fst (wiring_answer_turned request tag)

theorem Restorable.answer {tag : SimulatedTag} (restorable : tag.Restorable) (request : Request) :
    (Reader.answer request tag).2.Restorable := by
  have same : (Reader.answer request tag).2.faults.property = tag.faults.property :=
    congrArg Prod.snd (wiring_answer_turned request tag)
  exact ⟨same ▸ restorable.crc, same ▸ restorable.framing⟩

end SimulatedTag

/-! ## §3. Runs at a simulated tag. -/

open SimulatedTag (Restorable)

namespace Dialogue

variable {α : Type}

/-- A restorable reader never refuses a dialogue to switch on again. -/
theorem run_restored {tag : SimulatedTag} (restorable : tag.Restorable) (dialogue : Dialogue α) :
    ∀ made ∈ (dialogue.run tag).exchanges, made.keepsOff = false := by
  induction dialogue generalizing tag with
  | done value => intro made hmade; cases hmade
  | ask request next ih =>
      exact List.forall_mem_cons.mpr ⟨restorable.keepsOff request, ih _ (restorable.answer request)⟩
  | close frame next ih => exact ih _ ⟨restorable.crc, restorable.framing⟩
  | report notice rest ih => exact ih restorable
  | pause milliseconds rest ih => exact ih restorable

/-- After a dialogue the switches are what its traffic made of them. -/
theorem run_switches (dialogue : Dialogue α) (tag : SimulatedTag) :
    (dialogue.run tag).reader.switches =
      (dialogue.run tag).exchanges.foldl Exchange.turned tag.switches := by
  induction dialogue generalizing tag with
  | done value => rfl
  | ask request next ih =>
      refine (ih (Reader.answer request tag).1 (Reader.answer request tag).2).trans ?_
      rw [SimulatedTag.switches_answer]
      rfl
  | close frame next ih => exact ih _ _
  | report notice rest ih => exact ih tag
  | pause milliseconds rest ih => exact ih tag

/-- What needs framing is met with the switches that its traffic says. -/
theorem encounters_framed (dialogue : Dialogue α) (tag : SimulatedTag)
    (framed : FramedOn tag.switches (dialogue.run tag).exchanges) :
    ∀ met made, (met, made) ∈ dialogue.encounters tag → made.request.isFramed = true →
      met.inRawMode = false := by
  induction dialogue generalizing tag with
  | done value => intro met made hmade; cases hmade
  | ask request next ih =>
      intro met made hmade framing
      rcases List.mem_cons.mp hmade with first | later
      · obtain ⟨rfl, rfl⟩ := Prod.mk.inj first
        exact (SimulatedTag.inRawMode_iff met).mpr (framed.1 framing)
      · refine ih (Reader.answer request tag).1 (Reader.answer request tag).2
          ?_ met made later framing
        rw [SimulatedTag.switches_answer]
        exact framed.2
  | close frame next ih => exact ih _ _ framed
  | report notice rest ih => exact ih tag framed
  | pause milliseconds rest ih => exact ih tag framed

/-- Out of raw mode at the end, and whenever something needs framing. -/
structure AvoidsRawMode (dialogue : Dialogue α) (tag : SimulatedTag) : Prop where
  ended : (dialogue.run tag).reader.inRawMode = false
  framed : ∀ met made, (met, made) ∈ dialogue.encounters tag → made.request.isFramed = true →
    met.inRawMode = false

/-- A traffic in stretches leads out of raw mode, unless switching on again is
refused. -/
theorem avoidsRawMode_of_inStretches {dialogue : Dialogue α} {tag : SimulatedTag}
    (out : tag.inRawMode = false) (restorable : tag.Restorable)
    (h : InStretches (dialogue.run tag).exchanges) : dialogue.AvoidsRawMode tag := by
  have on := (SimulatedTag.inRawMode_iff tag).mp out
  obtain ⟨framed, ended⟩ := h.framedOn (run_restored restorable dialogue)
  refine ⟨(SimulatedTag.inRawMode_iff _).mpr ?_, encounters_framed dialogue tag (on ▸ framed)⟩
  rw [run_switches, on, ended]

end Dialogue

namespace Session

/-- **Raw mode is scoped.**  Whatever the reader answers, every operation, and
each use of raw mode by itself, switches back in time what it switched off,
and leaves raw mode by both switches.  So unless a simulated tag refuses to
switch on again, no operation of any run, whatever becomes of it, ends in raw
mode, and no READ, WRITE or selection is made there. -/
theorem rawMode_scoped :
    (∀ (σ : Type) [Reader σ] (reader : σ),
      (∀ (operation : Operation) session,
        Scoped (operation.perform.hold session reader).exchanges) ∧
      Scoped (getVersion.hold reader).exchanges ∧
      Scoped (unlockBackdoor.hold reader).exchanges ∧
      ∀ steps ending, Scoped ((RawMode.converse steps ending).hold reader).exchanges) ∧
    ∀ tag : SimulatedTag, tag.inRawMode = false → tag.Restorable →
      (∀ operations session, ((performAll operations).dialogue session).AvoidsRawMode tag) ∧
      getVersion.run.AvoidsRawMode tag ∧
      unlockBackdoor.run.AvoidsRawMode tag ∧
      ∀ steps ending, (RawMode.converse steps ending).run.AvoidsRawMode tag := by
  refine ⟨fun σ _ reader => ⟨fun operation session => ?_, ?_, ?_, fun steps ending => ?_⟩,
    fun tag out restorable => ⟨fun operations session => ?_, ?_, ?_, fun steps ending => ?_⟩⟩
  · exact (operation.keepsScope σ session reader).toScoped
  · exact (keepsScope_getVersion σ reader).toScoped
  · exact (keepsScope_unlockBackdoor σ reader).toScoped
  · exact (RawMode.keepsScope_converse steps ending σ reader).toScoped
  · exact Dialogue.avoidsRawMode_of_inStretches out restorable
      (keepsScope_performAll operations SimulatedTag session tag)
  · exact Dialogue.avoidsRawMode_of_inStretches out restorable
      (keepsScope_getVersion SimulatedTag tag)
  · exact Dialogue.avoidsRawMode_of_inStretches out restorable
      (keepsScope_unlockBackdoor SimulatedTag tag)
  · exact Dialogue.avoidsRawMode_of_inStretches out restorable
      (RawMode.keepsScope_converse steps ending SimulatedTag tag)

/-- A tag whose reader refuses the second switch: detection fails with the
first one off, which is switched back. -/
theorem rawMode_scoped_undone :
    let tag := { SimulatedTag.fresh .ultralight with
      faults := { Faults.none with property := some (.easyFraming, false) } }
    let operations := [.select, .detectVariant]
    let outcome := (performAll operations).hold (fresh .default) tag
    tag.inRawMode = false ∧ tag.Restorable ∧
      ((performAll operations).dialogue (fresh .default)).AvoidsRawMode tag ∧
      outcome.exchanges.filterMap Exchange.switchedOff? = [.handleCrc] ∧
      outcome.reader.switches = (true, true) ∧
      outcome.value.1.toOption.map (List.map Except.isOk) = some [true, false] :=
  have restorable : SimulatedTag.Restorable { SimulatedTag.fresh .ultralight with
      faults := { Faults.none with property := some (.easyFraming, false) } } :=
    ⟨by decide, by decide⟩
  ⟨rfl, restorable, (rawMode_scoped.2 _ rfl restorable).1 _ _, rfl, rfl, rfl⟩

end Session

end Ultralight
