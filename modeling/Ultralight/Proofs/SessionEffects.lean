/-
  Ultralight.Proofs.SessionEffects
  ────────────────────────────────
  **What the actions of a session are made of.**

  Selecting and writing are made of selections, WRITEs and listings, and only
  a selection changes the session.  So a relation between a session, a traffic
  and the session after it that composes, and that holds of each of these
  exchanges, holds of the actions as a whole.  They are walked through here
  once, for any such relation.

  The talks that open the UID pages have no session; for them it is said
  which requests they consist of.
-/
import Ultralight.Proofs.Selection
import Ultralight.Session.WritePass

namespace Ultralight.Session

open Ultralight.Action (HasEffect Composes)

variable {rel : Session → List Exchange → Session → Prop} (composes : Composes rel)

/-! ## §1. Selecting. -/

/-- The same relation between sessions with these settings, which stay. -/
def WithConfig (config : SessionConfig) (rel : Session → List Exchange → Session → Prop) :
    Session → List Exchange → Session → Prop := fun session trace after =>
  session.config = config → rel session trace after ∧ after.config = config

theorem effect_mustSelect {σ : Type} [Reader σ] {uid : Option Uid} {session : Session}
    (select : ∀ reply, rel session [⟨.select uid, reply⟩] (session.tracking [⟨.select uid, reply⟩]))
    (reader : σ) :
    rel session ((mustSelect uid).hold session reader).exchanges
      ((mustSelect uid).hold session reader).value.2 := by
  rcases answered : Reader.answer (.select uid) reader with ⟨reply, after⟩
  have effect := select reply
  rcases hold_mustSelect answered session with ⟨target, rfl, held⟩ | ⟨missing, error, held⟩ <;>
    rw [held]
  · rwa [tracking_of_found rfl] at effect
  · rwa [tracking_of_not_found missing] at effect

section

variable (select : ∀ session reply, rel session [⟨.select session.config.uidFilter, reply⟩]
  (session.tracking [⟨.select session.config.uidFilter, reply⟩]))

include select in
theorem hasEffect_select : Session.select.HasEffect rel := by
  intro σ _ session reader
  unfold Session.select
  rw [Action.hold_get_bind]
  exact effect_mustSelect (select session) reader

include composes in
theorem composes_withConfig (config : SessionConfig) : Composes (WithConfig config rel) where
  nothing session settings := ⟨composes.nothing session, settings⟩
  append before after settings := by
    obtain ⟨first, between⟩ := before settings
    obtain ⟨second, last⟩ := after between
    exact ⟨composes.append first second, last⟩

include composes in
theorem hasEffect_waitFrom {filter : Option Uid}
    (select : ∀ reply session,
      rel session [⟨.select filter, reply⟩] (session.tracking [⟨.select filter, reply⟩]))
    (pollMs attempts : Nat) :
    ∀ announced, (waitFrom filter pollMs attempts announced).HasEffect rel := by
  induction attempts with
  | zero => intro announced; exact composes.pure none
  | succ attempts ih =>
      intro announced
      -- a fruitless selection, empty or failed, goes on in the same way
      have again : HasEffect rel (do
          unless announced do
            Talk.report .waiting
          Talk.pause pollMs
          waitFrom filter pollMs attempts true : Action Session (Option Target)) := by
        have goOn : HasEffect rel (do
            Talk.pause pollMs
            waitFrom filter pollMs attempts true : Action Session (Option Target)) :=
          composes.bind (composes.silent (Talk.asks_pause _)) fun _ => ih true
        cases announced with
        | true => exact goOn
        | false => exact composes.bind (composes.silent (Talk.asks_report _)) fun _ => goOn
      unfold waitFrom
      refine composes.bind (hasEffect_selectUid select).attempt fun found => ?_
      rcases found with error | _ | target
      · dsimp only
        split
        · exact composes.bind (composes.silent (Talk.asks_report _)) fun _ => again
        · exact composes.throw error
      · exact again
      · exact composes.pure _

include composes select in
/-- A wait asks for the filter that the session has, which stays. -/
theorem hasEffect_waitForTag (attempts : Nat) : (waitForTag attempts).HasEffect rel := by
  intro σ _ session reader
  unfold waitForTag
  rw [Action.hold_get_bind]
  refine (hasEffect_waitFrom (composes_withConfig composes session.config) ?_ _ attempts false σ
    session reader rfl).1
  rintro reply held settings
  rw [← settings]
  exact ⟨select held reply, rfl⟩

end

include composes in
theorem hasEffect_listTargets
    (list : ∀ most reply session, rel session [⟨.list most, reply⟩] session) :
    listTargets.HasEffect rel := by
  have listed : ∀ targets : List Target,
      (targets.forM fun target =>
        (Action.ofTalk (Talk.report (.targetListed target.uid)) : Action Session Unit)).HasEffect
          rel := by
    intro targets
    induction targets with
    | nil => exact composes.pure _
    | cons target rest ih =>
        exact composes.bind (composes.silent (Talk.asks_report _)) fun _ => ih
  refine composes.bind composes.get fun session => ?_
  refine composes.bind (Action.hasEffect_lift fun _ _ _ _ => list _ _ _) fun targets => ?_
  have rest := composes.bind (listed targets) fun _ => composes.pure targets
  dsimp only
  split
  · exact rest
  · exact composes.bind (composes.silent (Talk.asks_report _)) fun _ => rest

/-! ## §2. Selecting again. -/

variable (reselect : ∀ session reply, rel session [⟨.select session.wantedUid, reply⟩]
  (session.tracking [⟨.select session.wantedUid, reply⟩]))

include reselect

theorem hasEffect_reselect : Session.reselect.HasEffect rel := by
  intro σ _ session reader
  rw [hold_reselect]
  exact effect_mustSelect (reselect session) reader

include composes

theorem hasEffect_wake (asleep : Bool) : (wake asleep).HasEffect rel := by
  cases asleep with
  | false => exact composes.pure ()
  | true => exact (hasEffect_reselect reselect).discard

/-! ## §3. Writing. -/

theorem hasEffect_wakeOrLose (asleep : Bool) (markers : List Marker) :
    (wakeOrLose asleep markers).HasEffect rel := by
  refine composes.bind (hasEffect_wake composes reselect asleep).attempt fun woken => ?_
  rcases woken with error | ⟨⟩
  · refine composes.bind (composes.silent (Talk.asks_report _)) fun _ => ?_
    exact composes.bind (composes.silent (Talk.asks_report _)) fun _ => composes.throw _
  · exact composes.pure ()

/-- A pass asks for WRITEs of those of its pages that the policy does not
skip. -/
theorem hasEffect_writeEach {policy : WritePolicy} {variant : Variant} (numbers : List Nat) :
    ∀ (asleep : Bool) (markers : List Marker),
      (∀ number ∈ numbers, policy.skips variant number = false → ∀ data reply session,
        rel session [⟨.write (UInt8.ofNat number) data, reply⟩] session) →
      (writeEach policy variant numbers asleep markers).HasEffect rel := by
  induction numbers with
  | nil => intro asleep markers _; exact composes.pure markers
  | cons number rest ih =>
      intro asleep markers write
      have writeRest := (List.forall_mem_cons.mp write).2
      unfold writeEach
      split
      · exact ih asleep _ writeRest
      · next opened =>
        have write := (List.forall_mem_cons.mp write).1 (by simpa using opened)
        refine composes.bind (hasEffect_wakeOrLose composes reselect asleep markers) fun _ => ?_
        refine composes.bind composes.get fun session => ?_
        refine composes.bind (composes.silent (Talk.asks_ofExcept _)) fun page => ?_
        refine composes.bind (Action.hasEffect_lift fun _ _ _ _ => ?_) fun reply => ?_
        · rw [Talk.hold_attempt]
          exact write _ _ _
        · rcases reply with error | ⟨⟩
          · exact composes.bind (composes.silent (Talk.asks_report _)) fun _ => ih true _ writeRest
          · exact ih false _ writeRest

theorem hasEffect_writePages (policy : WritePolicy) (start stop : Nat)
    (write : ∀ page data reply session, rel session [⟨.write page data, reply⟩] session) :
    (writePages policy start stop).HasEffect rel := by
  refine composes.bind composes.get fun session => ?_
  have pass : HasEffect rel (do
      Talk.report (.writing session.variant.pages)
      let markers ← writeEach policy session.variant (List.range' start (stop - start)) false []
      Talk.report (.markers markers)
      let report := WriteReport.ofMarkers session.variant.pages markers
      Talk.report (.writeDone report)
      pure report : Action Session WriteReport) := by
    refine composes.bind (composes.silent (Talk.asks_report _)) fun _ => ?_
    refine composes.bind (hasEffect_writeEach composes reselect _ _ _ fun _ _ _ => write _)
      fun markers => ?_
    refine composes.bind (composes.silent (Talk.asks_report _)) fun _ => ?_
    exact composes.bind (composes.silent (Talk.asks_report _)) fun _ => composes.pure _
  dsimp only
  split
  · exact composes.bind (composes.throw _) fun _ => pass
  · exact pass

omit reselect in
/-- Only a policy that opens the UID pages makes anything of them. -/
theorem hasEffect_openUidPages {policy : WritePolicy}
    (writable : policy.uid = true → (liftM ensureWritable : Action Session Bool).HasEffect rel) :
    (liftM (openUidPages policy) : Action Session Unit).HasEffect rel := by
  unfold openUidPages
  split
  · next opened =>
    refine composes.lift_bind (writable opened) fun writable => ?_
    cases writable with
    | true => exact composes.silent (Talk.asks_pure ())
    | false =>
        exact composes.silent (Talk.asks_bind (Talk.asks_report _) fun _ => Talk.asks_throw _)
  · exact composes.silent (Talk.asks_pure ())

theorem hasEffect_writeAll (policy : WritePolicy)
    (writable : policy.uid = true → (liftM ensureWritable : Action Session Bool).HasEffect rel)
    (write : ∀ page data reply session, rel session [⟨.write page data, reply⟩] session) :
    (writeAll policy).HasEffect rel :=
  composes.bind (hasEffect_openUidPages composes writable) fun _ =>
    composes.bind composes.get fun _ =>
      hasEffect_writePages composes reselect policy _ _ write

omit composes reselect

/-! ## §4. Opening the UID pages. -/

variable {allowed : Request → Prop}

section

variable (write : ∀ page data, allowed (.write page data))

include write

theorem asks_writeBack (pages : List Page) :
    ∀ number, (writeBack number pages).Asks allowed := by
  induction pages with
  | nil => intro number; exact Talk.asks_pure true
  | cons page rest ih =>
      intro number
      refine Talk.asks_bind (Talk.asks_attempt (Talk.asks_ask (write _ _))) fun reply => ?_
      rcases reply with error | ⟨⟩
      · exact Talk.asks_bind (Talk.asks_report _) fun _ => Talk.asks_pure false
      · exact ih _

theorem asks_probeDirectWrite (read : ∀ page, allowed (.read page)) :
    probeDirectWrite.Asks allowed := by
  refine Talk.asks_bind (Talk.asks_report _) fun _ => ?_
  refine Talk.asks_bind (Talk.asks_attempt (Talk.asks_ask (read _))) fun shown => ?_
  rcases shown with error | block
  · exact Talk.asks_bind (Talk.asks_report _) fun _ => Talk.asks_pure false
  · refine Talk.asks_bind (Talk.asks_report _) fun _ => ?_
    exact Talk.asks_bind (Talk.asks_report _) fun _ => asks_writeBack write _ _

end

section

variable (bits : ∀ frame count, allowed (.bits frame count))
  (bytes : ∀ frame, allowed (.bytes frame))

include bits bytes

/-- Knocking sends frames. -/
theorem asks_knock : knock.Asks allowed := by
  refine Talk.asks_bind (Talk.asks_attempt (RawMode.asks_sendFrame bytes)) fun _ => ?_
  refine Talk.asks_bind (Talk.asks_attempt (RawMode.asks_sendBits (bits _ _))) fun first => ?_
  rcases first with error | answer
  · exact Talk.asks_bind (Talk.asks_report _) fun _ => Talk.asks_pure false
  · refine Talk.asks_bind (Talk.asks_attempt (RawMode.asks_sendBytes (bytes _))) fun second => ?_
    rcases second with error | answer
    · exact Talk.asks_pure false
    · exact Talk.asks_pure true

variable (switch : ∀ property enable, allowed (.setProperty property enable))

include switch

/-- The back door is opened by switches and frames alone. -/
theorem asks_unlockBackdoor : unlockBackdoor.Asks allowed := by
  refine Talk.asks_bind (RawMode.asks_enter switch) fun _ => ?_
  refine Talk.asks_bind (asks_knock bits bytes) fun unlocked => ?_
  exact Talk.asks_bind (RawMode.asks_leave switch) fun _ => Talk.asks_pure unlocked

theorem asks_ensureWritable (read : ∀ page, allowed (.read page))
    (write : ∀ page data, allowed (.write page data)) : ensureWritable.Asks allowed := by
  refine Talk.asks_bind (asks_probeDirectWrite write read) fun direct => ?_
  cases direct with
  | true => exact Talk.asks_bind (Talk.asks_report _) fun _ => Talk.asks_pure true
  | false =>
      exact Talk.asks_bind (Talk.asks_report _) fun _ => asks_unlockBackdoor bits bytes switch

omit bits bytes switch in
/-- Only a policy that opens the UID pages makes anything of them. -/
theorem asks_openUidPages {policy : WritePolicy}
    (writable : policy.uid = true → ensureWritable.Asks allowed) :
    (openUidPages policy).Asks allowed := by
  unfold openUidPages
  split
  · next opened =>
    refine Talk.asks_bind (writable opened) fun writable => ?_
    cases writable with
    | true => exact Talk.asks_pure ()
    | false => exact Talk.asks_bind (Talk.asks_report _) fun _ => Talk.asks_throw _
  · exact Talk.asks_pure ()

end

end Ultralight.Session
