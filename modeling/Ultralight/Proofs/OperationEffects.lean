/-
  Ultralight.Proofs.OperationEffects
  ──────────────────────────────────
  **What every operation of a session is made of.**

  Besides selecting and writing there are detecting, authenticating, reading
  and the changes of the image by hand.  Each is made of a few parts, and
  `Operation.Parts` lists what a relation has to hold of so that it holds of
  an operation (`Operation.Parts.hasEffect`) and of operations one after the
  other (`hasEffect_performAll`).  Where only some operations have a part, it
  is asked for of those.
-/
import Ultralight.Proofs.ImagePages
import Ultralight.Proofs.SessionEffects
import Ultralight.Session.Operation

namespace Ultralight.Session

open Ultralight.Action (HasEffect Composes)

/-! ## §1. Talks in raw mode. -/

section

variable {allowed : Request → Prop} (bytes : ∀ frame, allowed (.bytes frame))
  (switch : ∀ property enable, allowed (.setProperty property enable))

include bytes switch

theorem asks_getVersion : getVersion.Asks allowed := by
  refine Talk.asks_bind (RawMode.asks_enter switch) fun _ => ?_
  refine Talk.asks_bind (Talk.asks_attempt (RawMode.asks_sendFrame bytes)) fun answer => ?_
  refine Talk.asks_bind (Talk.asks_attempt (RawMode.asks_leave switch)) fun left => ?_
  rcases left with error | ⟨⟩
  · exact Talk.asks_bind (Talk.asks_report _) fun _ => Talk.asks_pure none
  · rcases answer with error | answer
    · exact Talk.asks_bind (Talk.asks_report _) fun _ => Talk.asks_pure none
    · dsimp only
      split
      · exact Talk.asks_pure (some answer)
      · exact Talk.asks_bind (Talk.asks_report _) fun _ => Talk.asks_pure none

theorem asks_acknowledgement (password : Password) : (acknowledgement password).Asks allowed := by
  have presented : (presentPassword password).Asks allowed := by
    refine Talk.asks_bind (RawMode.asks_enter switch) fun _ => ?_
    refine Talk.asks_bind (Talk.asks_attempt (RawMode.asks_sendFrame bytes)) fun answer => ?_
    exact Talk.asks_bind (Talk.asks_attempt (RawMode.asks_leave switch)) fun left =>
      Talk.asks_pure _
  refine Talk.asks_bind presented fun (answer, left) => ?_
  rcases answer with error | answer
  · exact Talk.asks_bind (Talk.asks_report _) fun _ => Talk.asks_throw _
  · dsimp only
    split
    · exact Talk.asks_throw _
    · exact Talk.asks_bind (Talk.asks_report _) fun _ => Talk.asks_throw _
    · exact Talk.asks_pure _

end

/-! ## §2. Detecting, authenticating and reading. -/

section

variable {rel : Session → List Exchange → Session → Prop} (composes : Composes rel)

include composes

theorem hasEffect_authenticate {password : Password}
    (asked : (liftM (acknowledgement password) : Action Session Pack).HasEffect rel)
    (accepted : ∀ pack session, rel session [] { session with credentials := .of password pack }) :
    (authenticate password).HasEffect rel := by
  refine composes.bind (composes.silent (Talk.asks_report _)) fun _ => ?_
  refine composes.bind asked fun pack => ?_
  refine composes.bind (Action.hasEffect_modify (accepted pack)) fun _ => ?_
  exact composes.bind (composes.silent (Talk.asks_report _)) fun _ => composes.pure _

variable (reselect : ∀ session reply, rel session [⟨.select session.wantedUid, reply⟩]
  (session.tracking [⟨.select session.wantedUid, reply⟩]))

include reselect

/-- What comes after a version request asks at most for a selection. -/
theorem hasEffect_detectVariant
    (asked : (liftM getVersion : Action Session (Option Bytes)).HasEffect rel)
    (adopted : ∀ variant session, rel session [] (adopt variant session)) :
    detectVariant.HasEffect rel := by
  have rest : ∀ answer : Option Bytes, HasEffect rel (do
      let variant ← Talk.ofExcept (Variant.classify answer)
      modify (adopt variant)
      Talk.report (.variantDetected variant)
      if variant.secretLayout.isSome && !(← get).credentials.isKnown then
        Talk.report .passwordAdvised
      pure variant : Action Session Variant) := by
    intro answer
    refine composes.bind (composes.silent (Talk.asks_ofExcept _)) fun variant => ?_
    refine composes.bind (Action.hasEffect_modify (adopted variant)) fun _ => ?_
    refine composes.bind (composes.silent (Talk.asks_report _)) fun _ => ?_
    refine composes.bind composes.get fun session => ?_
    dsimp only
    split
    · exact composes.bind (composes.silent (Talk.asks_report _)) fun _ => composes.pure _
    · exact composes.pure _
  refine composes.bind asked fun answer => ?_
  dsimp only
  split
  · exact composes.bind (hasEffect_reselect reselect).discard fun _ => rest answer
  · exact rest answer

/-- A read pass puts blocks that are shown into the image, and at the end the
secrets if they are known. -/
theorem hasEffect_readAll
    (read : ∀ page session reply, rel session [⟨.read page, reply⟩] session)
    (shown : ∀ page block session image, image.pages = session.image.pages →
      rel session [⟨.read page, .ok block⟩] { session with image := image })
    (placed : ∀ session image, image.pages = session.image.pages →
      session.credentials.isKnown = true → rel session [] { session with image := image }) :
    readAll.HasEffect rel := by
  have block : ∀ first, (readBlock first).HasEffect rel := by
    intro first σ _ session reader
    unfold readBlock
    rcases answered : Reader.answer (.read (UInt8.ofNat first)) reader with
      ⟨error | block, after⟩
    · rw [Action.hold_bind_error (Action.hold_lift_of (Talk.hold_ask_of answered) session)]
      exact read _ session _
    · rw [Action.hold_bind_ok (Action.hold_lift_of (Talk.hold_ask_of answered) session),
        Action.hold_get_bind]
      rcases copying : session.image.copyBlock first block with error | ⟨image, copied⟩
      · exact read _ session _
      · exact shown _ block session image (Image.pages_of_copyBlock copying)
  have blocks : ∀ pages plan asleep markers,
      (readBlocks pages plan asleep markers).HasEffect rel := by
    intro pages plan
    induction plan with
    | nil => intro asleep markers; exact composes.pure markers
    | cons first rest ih =>
        intro asleep markers
        unfold readBlocks
        refine composes.bind (hasEffect_wake composes reselect asleep).attempt fun woken => ?_
        rcases woken with error | ⟨⟩
        · exact composes.bind (composes.silent (Talk.asks_report _)) fun _ => composes.pure _
        · refine composes.bind (block first).attempt fun copied => ?_
          rcases copied with error | copied
          · exact composes.bind (composes.silent (Talk.asks_report _)) fun _ => ih _ _
          · exact ih _ _
  have secrets : placeSecrets.HasEffect rel := by
    intro σ _ session reader
    unfold placeSecrets
    rw [Action.hold_get_bind]
    rcases placing : session.image.placeSecrets? session.variant session.credentials
      with _ | image
    · exact composes.nothing session
    · obtain ⟨known, size⟩ := Image.of_placeSecrets? placing
      exact placed session image size known
  refine composes.bind composes.get fun session => ?_
  refine composes.bind (composes.silent (Talk.asks_report _)) fun _ => ?_
  refine composes.bind (blocks _ _ _ _) fun markers => ?_
  refine composes.bind (composes.silent (Talk.asks_report _)) fun _ => ?_
  refine composes.bind secrets fun _ => ?_
  exact composes.bind (composes.silent (Talk.asks_report _)) fun _ => composes.pure _

end

/-! ## §3. Operations. -/

/-- Whether an operation makes the UID pages writable. -/
def Operation.opensUidPages : Operation → Bool
  | writeAll policy => policy.uid
  | ensureWritable => true
  | _ => false

/-- What the parts of an operation do. -/
structure Operation.Parts (operation : Operation) (rel : Session → List Exchange → Session → Prop) :
    Prop where
  composes : Composes rel
  /-- A selection with the filter. -/
  select : ∀ session reply, rel session [⟨.select session.config.uidFilter, reply⟩]
    (session.tracking [⟨.select session.config.uidFilter, reply⟩])
  /-- A selection of the tag of the session. -/
  reselect : ∀ session reply, rel session [⟨.select session.wantedUid, reply⟩]
    (session.tracking [⟨.select session.wantedUid, reply⟩])
  /-- A listing. -/
  list : operation = .listTargets → ∀ most reply session,
    rel session [⟨.list most, reply⟩] session
  /-- A WRITE. -/
  write : ∀ page data reply session, rel session [⟨.write page data, reply⟩] session
  /-- Opening the UID pages. -/
  writable : operation.opensUidPages = true →
    (liftM Session.ensureWritable : Action Session Bool).HasEffect rel
  /-- Detecting the variant. -/
  detect : Session.detectVariant.HasEffect rel
  /-- Presenting a password. -/
  authenticate : ∀ password, operation = .authenticate password →
    (Session.authenticate password).HasEffect rel
  /-- A read pass. -/
  read : Session.readAll.HasEffect rel
  /-- Taking over an image that fits. -/
  load : ∀ image session, operation = .loadImage image → image.pages = session.variant.pages →
    rel session [] { session with image := image }
  /-- A change of the image by hand. -/
  edit : ∀ change session, operation = .edit change →
    rel session [] { session with image := (change.apply session.image).2 }

variable {rel : Session → List Exchange → Session → Prop}

/-- **What its parts do, an operation does**, whatever becomes of it. -/
theorem Operation.Parts.hasEffect {operation : Operation} (parts : operation.Parts rel) :
    operation.perform.HasEffect rel := by
  have composes := parts.composes
  cases operation with
  | select => exact (hasEffect_select parts.select).map _
  | reselect => exact (hasEffect_reselect parts.reselect).map _
  | waitForTag attempts =>
      refine composes.bind (hasEffect_waitForTag composes parts.select attempts) fun found => ?_
      cases found <;> exact composes.pure _
  | listTargets => exact (hasEffect_listTargets composes (parts.list rfl)).map _
  | checkUltralight =>
      refine composes.bind composes.get fun session => ?_
      exact composes.bind (composes.silent (Talk.asks_ofExcept _)) fun _ => composes.pure _
  | detectVariant => exact parts.detect.map _
  | authenticate password => exact (parts.authenticate password rfl).map _
  | readAll => exact parts.read.map _
  | writeAll policy =>
      exact (hasEffect_writeAll composes parts.reselect policy parts.writable parts.write).map _
  | writePages policy start stop =>
      exact (hasEffect_writePages composes parts.reselect policy start stop parts.write).map _
  | ensureWritable => exact composes.bind (parts.writable rfl) fun _ => composes.pure _
  | loadImage image =>
      refine composes.bind ?_ fun _ => composes.pure _
      intro σ _ session reader
      unfold Session.loadImage
      rw [Action.hold_get_bind]
      split
      · next fits => exact parts.load image session rfl fits
      · exact composes.nothing session
  | edit change =>
      intro σ _ session reader
      unfold Operation.perform
      rw [Action.hold_get_bind]
      dsimp only
      rw [Action.hold_bind_ok (Action.hold_set _ session reader), Action.hold_map,
        Action.hold_lift_of (Talk.hold_ofExcept _ reader)]
      exact parts.edit change session rfl

/-- No request is made but allowed ones. -/
def MakesOnly (allowed : Request → Prop) (_ : Session) (trace : List Exchange) (_ : Session) :
    Prop := ∀ made ∈ trace, allowed made.request

theorem composes_makesOnly (allowed : Request → Prop) : Composes (MakesOnly allowed) :=
  Action.composes_forall _

theorem makesOnly_nil (allowed : Request → Prop) (session after : Session) :
    MakesOnly allowed session [] after := List.forall_mem_nil _

theorem makesOnly_single {allowed : Request → Prop} {session after : Session} {made : Exchange}
    (h : allowed made.request) : MakesOnly allowed session [made] after :=
  List.forall_mem_singleton.mpr h

theorem makesOnly_lift {α : Type} {allowed : Request → Prop} {talk : Talk α}
    (asks : talk.Asks allowed) : (liftM talk : Action Session α).HasEffect (MakesOnly allowed) :=
  Action.hasEffect_lift fun _ _ reader _ => Dialogue.asks_exchanges asks reader

/-- Listing and short frames are for some operations only; any other request
may be made by any of them. -/
theorem Operation.parts_makesOnly {allowed : Request → Prop} (operation : Operation)
    (select : ∀ uid, allowed (.select uid))
    (switch : ∀ property enable, allowed (.setProperty property enable))
    (bytes : ∀ frame, allowed (.bytes frame)) (read : ∀ page, allowed (.read page))
    (write : ∀ page data, allowed (.write page data))
    (list : operation = .listTargets → ∀ most, allowed (.list most))
    (bits : operation.opensUidPages = true → ∀ frame count, allowed (.bits frame count)) :
    operation.Parts (MakesOnly allowed) where
  composes := composes_makesOnly allowed
  select _ _ := makesOnly_single (select _)
  reselect _ _ := makesOnly_single (select _)
  list own most _ _ := makesOnly_single (list own most)
  write page data _ _ := makesOnly_single (write page data)
  writable opens := makesOnly_lift (asks_ensureWritable (bits opens) bytes switch read write)
  detect := hasEffect_detectVariant (composes_makesOnly allowed)
    (fun _ _ => makesOnly_single (select _)) (makesOnly_lift (asks_getVersion bytes switch))
    fun _ _ => makesOnly_nil _ _ _
  authenticate password _ := hasEffect_authenticate (composes_makesOnly allowed)
    (makesOnly_lift (asks_acknowledgement bytes switch password)) fun _ _ => makesOnly_nil _ _ _
  read := hasEffect_readAll (composes_makesOnly allowed) (fun _ _ => makesOnly_single (select _))
    (fun page _ _ => makesOnly_single (read page))
    (fun page _ _ _ _ => makesOnly_single (read page)) fun _ _ _ _ => makesOnly_nil _ _ _
  load _ _ _ _ := makesOnly_nil _ _ _
  edit _ _ _ := makesOnly_nil _ _ _

variable {σ : Type} [Reader σ]

/-- The rest of some operations starts from where the first one left off,
whatever became of it. -/
theorem hold_performAll_cons (operation : Operation) (operations : List Operation)
    (session : Session) (reader : σ) :
    let first := operation.perform.hold session reader
    let rest := (performAll operations).hold first.value.2 first.reader
    (performAll (operation :: operations)).hold session reader =
      ⟨(rest.value.1.map (first.value.1 :: ·), rest.value.2), rest.reader,
        first.events ++ rest.events⟩ := by
  intro first rest
  have unfolded : performAll (operation :: operations) =
      Action.attempt operation.perform >>= fun answer =>
        (fun answers => answer :: answers) <$> performAll operations := by
    simp only [map_eq_pure_bind]
    exact List.mapM_cons
  rw [unfolded, Action.hold_bind_ok (Action.hold_attempt operation.perform session reader),
    Action.hold_map]
  rfl

/-- Every operation is answered. -/
theorem performAll_succeeds (operations : List Operation) :
    ∀ (session : Session) (reader : σ),
      ∃ answers, ((performAll operations).hold session reader).value.1 = .ok answers := by
  induction operations with
  | nil => intro session reader; exact ⟨[], rfl⟩
  | cons operation rest ih =>
      intro session reader
      obtain ⟨answers, answered⟩ := ih _ _
      rw [hold_performAll_cons]
      exact ⟨_, congrArg (Except.map _) answered⟩

/-- What each of some operations does, all of them do one after the other. -/
theorem hasEffect_performAll (composes : Composes rel) {operations : List Operation}
    (each : ∀ operation ∈ operations, operation.perform.HasEffect rel) :
    (performAll operations).HasEffect rel := by
  unfold performAll
  induction operations with
  | nil => exact composes.pure []
  | cons operation rest ih =>
      obtain ⟨first, later⟩ := List.forall_mem_cons.mp each
      rw [List.mapM_cons]
      refine composes.bind first.attempt fun answer => ?_
      exact composes.bind (ih later) fun answers => composes.pure _

end Ultralight.Session
