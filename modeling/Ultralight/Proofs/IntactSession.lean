/-
  Ultralight.Proofs.IntactSession
  ───────────────────────────────
  **An operation that fails leaves the session intact.**

  Whatever the reader answers, a failed operation leaves the session as it
  met it but for the target, which follows the selections of its traffic
  (`Follows`).  There are three reasons for it:

    • selecting and writing never change anything but the target, whether
      they fail or not (`hasEffect_writePages` and its kin),
    • detecting and authenticating change the session as the last thing they
      do, after which nothing can fail,
    • a read pass never fails at all (`readAll_succeeds`).

  `session_intact` says so of every operation, and adds what a success may
  change where that is less than everything.
-/
import Ultralight.Proofs.Detection
import Ultralight.Proofs.OperationEffects

namespace Ultralight.Session

open Dialogue (Event Outcome)

/-! ## §1. Sessions that follow the traffic. -/

/-- The session after a traffic is the one before it, but for the target,
which is the last tag that a selection found. -/
def Follows (session : Session) (trace : List Exchange) (after : Session) : Prop :=
  after = session.tracking trace

theorem composes_follows : Action.Composes Follows where
  nothing _ := rfl
  append := by
    rintro first _ _ before after rfl rfl
    exact (tracking_append first before after).symm

/-- A request other than a selection. -/
def Elsewhere : Request → Prop
  | .select _ => False
  | _ => True

/-- Without a selection the session is the same. -/
theorem tracking_of_elsewhere (session : Session) {trace : List Exchange}
    (h : ∀ made ∈ trace, Elsewhere made.request) : session.tracking trace = session := by
  induction trace with
  | nil => rfl
  | cons made trace ih =>
      obtain ⟨here, rest⟩ := List.forall_mem_cons.mp h
      have missing : made.found? = none := by
        rcases made with ⟨request, reply⟩
        cases request with
        | select uid => exact here.elim
        | _ => rfl
      rw [tracking_cons, tracking_of_not_found missing, ih rest]

theorem follows_lift {α : Type} {talk : Talk α} (asks : talk.Asks Elsewhere) :
    (liftM talk : Action Session α).HasEffect Follows :=
  Action.hasEffect_lift fun _ _ reader session =>
    (tracking_of_elsewhere session (Dialogue.asks_exchanges asks reader)).symm

theorem asks_ensureWritable_elsewhere : ensureWritable.Asks Elsewhere :=
  asks_ensureWritable (fun _ _ => trivial) (fun _ => trivial) (fun _ _ => trivial)
    (fun _ => trivial) fun _ _ => trivial

theorem follows_writePages (policy : WritePolicy) (start stop : Nat) :
    (writePages policy start stop).HasEffect Follows :=
  hasEffect_writePages composes_follows (fun _ _ => rfl) policy start stop fun _ _ _ session =>
    (tracking_of_not_found rfl session).symm

theorem follows_writeAll (policy : WritePolicy) : (writeAll policy).HasEffect Follows :=
  hasEffect_writeAll composes_follows (fun _ _ => rfl) policy
    (fun _ => follows_lift asks_ensureWritable_elsewhere) fun _ _ _ session =>
    (tracking_of_not_found rfl session).symm

/-! ## §2. Reading never fails. -/

section

variable {σ : Type} [Reader σ]

/-- A block that cannot be read counts as failed, and so do all blocks of a
tag that is gone. -/
theorem readBlocks_succeeds (pages : Nat) (plan : List Nat) :
    ∀ (asleep : Bool) (markers : List Marker) (session : Session) (reader : σ),
      ∃ final,
        ((readBlocks pages plan asleep markers).hold session reader).value.1 = .ok final := by
  induction plan with
  | nil => intro asleep markers session reader; exact ⟨markers, rfl⟩
  | cons first rest ih =>
      intro asleep markers session reader
      rw [readBlocks]
      rcases woken : (wake asleep).hold session reader with ⟨⟨error | ⟨⟩, changed⟩, after, events⟩
      · rw [Action.hold_bind_ok (Action.hold_attempt_of woken)]
        exact ⟨_, rfl⟩
      · rw [Action.hold_bind_ok (Action.hold_attempt_of woken)]
        rcases read : (readBlock first).hold changed after
          with ⟨⟨error | copied, kept⟩, last, more⟩
        · dsimp only
          rw [Action.hold_bind_ok (Action.hold_attempt_of read),
            Action.hold_bind_ok (Action.hold_lift_of (Talk.hold_report _ last) kept)]
          exact ih _ _ kept last
        · dsimp only
          rw [Action.hold_bind_ok (Action.hold_attempt_of read)]
          exact ih _ _ kept last

theorem readAll_succeeds (session : Session) (reader : σ) :
    ∃ report, (readAll.hold session reader).value.1 = .ok report := by
  obtain ⟨markers, finished⟩ := readBlocks_succeeds session.variant.pages
    (blockStarts session.variant.pages) false [] session reader
  rcases held : (readBlocks session.variant.pages (blockStarts session.variant.pages) false
    []).hold session reader with ⟨⟨result, final⟩, after, events⟩
  obtain rfl : result = .ok markers := by rw [← finished, held]
  have placed : ∃ changed more,
      placeSecrets.hold final after = ⟨(.ok (), changed), after, more⟩ := by
    unfold placeSecrets
    rw [Action.hold_get_bind]
    split
    · exact ⟨_, _, rfl⟩
    · exact ⟨_, _, rfl⟩
  obtain ⟨changed, more, placed⟩ := placed
  unfold readAll
  rw [Action.hold_get_bind,
    Action.hold_bind_ok (Action.hold_lift_of (Talk.hold_report _ reader) session),
    Action.hold_bind_ok held,
    Action.hold_bind_ok (Action.hold_lift_of (Talk.hold_report _ after) final),
    Action.hold_bind_ok placed]
  exact ⟨_, rfl⟩

/-! ## §3. Detecting and authenticating. -/

variable {session : Session} {reader : σ} {error : Error} {password : Password} {pack : Pack}

theorem asks_getVersion_elsewhere : getVersion.Asks Elsewhere :=
  asks_getVersion (fun _ => trivial) fun _ _ => trivial

/-- **A failed detection changes nothing**, and found no tag: what it selects
again is selected before anything else can fail. -/
theorem detectVariant_failed (failed : (detectVariant.hold session reader).value.1 = .error error) :
    let outcome := detectVariant.hold session reader
    outcome.value.2 = session ∧ session.tracking outcome.exchanges = session := by
  have elsewhere := Dialogue.asks_exchanges asks_getVersion_elsewhere reader
  rcases asked : getVersion.hold reader with ⟨refusal | _ | bytes, between, events⟩ <;>
    rw [show getVersion.run.run reader = _ from asked] at elsewhere
  · rw [hold_detectVariant_failed asked]
    exact ⟨rfl, tracking_of_elsewhere session elsewhere⟩
  · rcases selected : Reader.answer (.select session.wantedUid) between with ⟨reply, after⟩
    rcases hold_detectVariant_unanswered asked selected with
      ⟨target, more, -, -, held⟩ | ⟨missing, refusal, held⟩
    · rw [held] at failed
      cases failed
    · rw [held]
      refine ⟨rfl, ?_⟩
      rw [Outcome.exchanges_mk, Event.exchanges_append, tracking_append,
        show session.tracking (Event.exchanges events) = session from
          tracking_of_elsewhere session elsewhere]
      exact tracking_of_not_found missing session
  · obtain ⟨notices, silent, held⟩ := hold_detectVariant_answered asked session
    rw [held] at failed ⊢
    rcases classified : Variant.classify (some bytes) with refusal | variant <;>
      rw [classified] at failed
    · refine ⟨rfl, ?_⟩
      rw [Outcome.exchanges_mk, Event.exchanges_append, silent, List.append_nil]
      exact tracking_of_elsewhere session elsewhere
    · cases failed

/-- The end of an authentication: an acknowledgement is stored together with
the password. -/
def acknowledged (session : Session) (password : Password) :
    Except Error Pack → Except Error Pack × Session
  | .ok pack => (.ok pack, { session with credentials := .of password pack })
  | .error error => (.error error, session)

/-- The credentials change after everything that can fail. -/
theorem hold_authenticate {result : Except Error Pack} {after : σ} {events : List Event}
    (held : (acknowledgement password).hold reader = ⟨result, after, events⟩)
    (session : Session) :
    ∃ notices, Event.exchanges notices = [] ∧
      (authenticate password).hold session reader =
        ⟨session.acknowledged password result, after,
          .notice (.authenticating password) :: events ++ notices⟩ := by
  unfold authenticate
  rw [Action.hold_bind_ok (Action.hold_lift_of (Talk.hold_report _ reader) session)]
  rcases result with error | pack
  · rw [Action.hold_bind_error (Action.hold_lift_of held session)]
    exact ⟨[], rfl, by simp [Outcome.precededBy, acknowledged]⟩
  · rw [Action.hold_bind_ok (Action.hold_lift_of held session)]
    exact ⟨[.notice (.authenticated pack)], rfl, by rfl⟩

/-- What counts as an acknowledgement: the first two bytes of an answer, if raw
mode was left. -/
def packOf : Except Error Bytes → Except Error Unit → Except Error Pack
  | .ok (b0 :: b1 :: _), .ok () => .ok ⟨b0, b1⟩
  | _, _ => .error .authFailed

theorem packOf_eq_ok {answer : Except Error Bytes} {left : Except Error Unit} :
    packOf answer left = .ok pack ↔
      (∃ rest, answer = .ok (pack.b0 :: pack.b1 :: rest)) ∧ left = .ok () := by
  rcases answer with error | _ | ⟨b0, _ | ⟨b1, rest⟩⟩
  · simp [packOf]
  · simp [packOf]
  · simp [packOf]
  · cases left with
    | error error => simp [packOf]
    | ok value => cases pack; simp [packOf]

/-- **An acknowledgement is the opening of one answer.** -/
theorem hold_acknowledgement (password : Password) (reader : σ) :
    RawMode.Exchanged (Frame.authenticate password) packOf
      ((acknowledgement password).hold reader) := by
  unfold acknowledgement presentPassword
  simp only [bind_assoc, pure_bind]
  apply RawMode.hold_exchange
  intro answer left after
  rcases answer with error | _ | ⟨b0, _ | ⟨b1, rest⟩⟩
  · exact ⟨[.notice (.authUnanswered error)], rfl, rfl⟩
  · exact ⟨[], rfl, rfl⟩
  · exact ⟨[], rfl, rfl⟩
  · rcases left with error | ⟨⟩
    · exact ⟨[.notice (.authKeptRawMode error)], rfl, rfl⟩
    · exact ⟨[], rfl, rfl⟩

/-- The exchanges of an authentication that succeeds: raw mode entered, one
frame answered, raw mode left. -/
def authExchanges (frame answer : Bytes) : List Exchange :=
  [⟨.setProperty .handleCrc false, .ok ()⟩, ⟨.setProperty .easyFraming false, .ok ()⟩,
    ⟨.bytes frame, .ok answer⟩, ⟨.setProperty .handleCrc true, .ok ()⟩,
    ⟨.setProperty .easyFraming true, .ok ()⟩]

/-- A password that is acknowledged was answered, and the answer opens with
the acknowledgement. -/
theorem acknowledgement_ok (h : ((acknowledgement password).hold reader).value = .ok pack) :
    ∃ (inside : σ) (answer : Bytes), answer.take 2 = pack.bytes ∧
      ((acknowledgement password).hold reader).exchanges =
        authExchanges (Reader.close (Frame.authenticate password) inside).1 answer := by
  cases hold_acknowledgement password reader with
  | refused error value =>
      rw [value] at h
      cases h
  | sent inside answer crc framing value made =>
      rw [value] at h
      obtain ⟨⟨rest, rfl⟩, left⟩ := packOf_eq_ok.mp h
      obtain ⟨rfl, rfl⟩ := RawMode.leave_eq_ok.mp left
      refine ⟨inside, pack.b0 :: pack.b1 :: rest, rfl, ?_⟩
      rw [made]
      rfl

/-- **What an authentication that succeeds changes**: the credentials, which
become the password and the first two bytes of the only answer. -/
theorem authenticate_ok (h : ((authenticate password).hold session reader).value.1 = .ok pack) :
    let outcome := (authenticate password).hold session reader
    outcome.value.2 = { session with credentials := .of password pack } ∧
      ∃ (inside : σ) (answer : Bytes), answer.take 2 = pack.bytes ∧
        outcome.exchanges =
          authExchanges (Reader.close (Frame.authenticate password) inside).1 answer := by
  rcases held : (acknowledgement password).hold reader with ⟨result, after, events⟩
  obtain ⟨notices, silent, whole⟩ := hold_authenticate held session
  rw [whole] at h ⊢
  rcases result with error | found
  · cases h
  · cases h
    obtain ⟨inside, answer, opens, made⟩ := acknowledgement_ok (by rw [held])
    rw [held] at made
    refine ⟨rfl, inside, answer, opens, ?_⟩
    rw [Outcome.exchanges_mk, Event.exchanges_append, silent, List.append_nil]
    exact made

theorem asks_acknowledgement_elsewhere (password : Password) :
    (acknowledgement password).Asks Elsewhere :=
  asks_acknowledgement (fun _ => trivial) (fun _ _ => trivial) password

/-- A failed authentication changes nothing, and selects nothing. -/
theorem authenticate_failed
    (failed : ((authenticate password).hold session reader).value.1 = .error error) :
    let outcome := (authenticate password).hold session reader
    outcome.value.2 = session ∧ session.tracking outcome.exchanges = session := by
  have elsewhere := Dialogue.asks_exchanges (asks_acknowledgement_elsewhere password) reader
  rcases held : (acknowledgement password).hold reader with ⟨result, after, events⟩
  obtain ⟨notices, silent, whole⟩ := hold_authenticate held session
  rw [show (acknowledgement password).run.run reader = _ from held] at elsewhere
  rw [whole] at failed ⊢
  rcases result with refusal | pack
  · refine ⟨rfl, ?_⟩
    rw [Outcome.exchanges_mk, Event.exchanges_append, silent, List.append_nil]
    exact tracking_of_elsewhere session elsewhere
  · cases failed

/-! ## §4. Every operation. -/

/-- Taking over an image asks nothing, and only its size can be wrong. -/
theorem hold_loadImage (image : Image) (session : Session) (reader : σ) :
    (loadImage image).hold session reader =
      if image.pages = session.variant.pages then
        ⟨(.ok (), { session with image := image }), reader, []⟩
      else
        ⟨(.error (.invalidLength (session.variant.pages * pageSize) image.activeLength), session),
          reader, []⟩ := by
  unfold loadImage
  rw [Action.hold_get_bind]
  split <;> rfl

/-- A change of the image by hand asks nothing either. -/
theorem hold_edit (change : Image.Edit) (session : Session) (reader : σ) :
    (Operation.edit change).perform.hold session reader =
      ⟨((change.apply session.image).1.map Answer.edited,
        { session with image := (change.apply session.image).2 }), reader, []⟩ := by
  unfold Operation.perform
  rw [Action.hold_get_bind]
  dsimp only
  rw [Action.hold_bind_ok (Action.hold_set _ session reader), Action.hold_map,
    Action.hold_lift_of (Talk.hold_ofExcept _ reader)]
  rfl

/-- A function of the answer fails as the answer does. -/
theorem follows_of_map_error {α β : Type} {action : Action Session α} (f : α → β)
    (h : ∀ error, (action.hold session reader).value.1 = .error error →
      Follows session (action.hold session reader).exchanges (action.hold session reader).value.2)
    (failed : ((f <$> action).hold session reader).value.1 = .error error) :
    Follows session ((f <$> action).hold session reader).exchanges
      ((f <$> action).hold session reader).value.2 := by
  rw [Action.hold_map] at failed ⊢
  rcases held : (action.hold session reader).value.1 with refusal | value
  · exact h refusal held
  · dsimp only at failed
    rw [held] at failed
    cases failed

/-- **An operation that fails leaves the session as it was**, but for the
target, which is the last tag that a selection of the operation found. -/
theorem Operation.follows_of_error (operation : Operation)
    (failed : (operation.perform.hold session reader).value.1 = .error error) :
    Follows session (operation.perform.hold session reader).exchanges
      (operation.perform.hold session reader).value.2 := by
  cases operation with
  | select => exact (hasEffect_select fun _ _ => rfl).map _ σ session reader
  | reselect => exact (hasEffect_reselect fun _ _ => rfl).map _ σ session reader
  | waitForTag attempts =>
      refine composes_follows.bind (hasEffect_waitForTag composes_follows (fun _ _ => rfl) attempts)
        (fun found => ?_) σ session reader
      cases found <;> exact composes_follows.pure _
  | listTargets =>
      exact (hasEffect_listTargets composes_follows fun _ _ session =>
        (tracking_of_not_found rfl session).symm).map _ σ session reader
  | checkUltralight =>
      refine composes_follows.bind composes_follows.get (fun held => ?_) σ session reader
      exact composes_follows.bind (composes_follows.silent (Talk.asks_ofExcept _)) fun _ =>
        composes_follows.pure _
  | detectVariant =>
      refine follows_of_map_error _ (fun refusal failed => ?_) failed
      obtain ⟨same, tracked⟩ := detectVariant_failed failed
      exact same.trans tracked.symm
  | authenticate password =>
      refine follows_of_map_error _ (fun refusal failed => ?_) failed
      obtain ⟨same, tracked⟩ := authenticate_failed failed
      exact same.trans tracked.symm
  | readAll =>
      refine follows_of_map_error _ (fun refusal failed => ?_) failed
      obtain ⟨report, read⟩ := readAll_succeeds session reader
      rw [read] at failed
      cases failed
  | writeAll policy => exact (follows_writeAll policy).map _ σ session reader
  | writePages policy start stop =>
      exact (follows_writePages policy start stop).map _ σ session reader
  | ensureWritable =>
      exact composes_follows.bind (follows_lift asks_ensureWritable_elsewhere)
        (fun _ => composes_follows.pure _) σ session reader
  | loadImage image =>
      have held := hold_loadImage image session reader
      by_cases fits : image.pages = session.variant.pages
      · rw [if_pos fits] at held
        have performed := Action.hold_bind_ok held fun _ => (pure .done : Action Session Answer)
        rw [show (Operation.loadImage image).perform.hold session reader = _ from performed]
          at failed
        cases failed
      · rw [if_neg fits] at held
        have performed := Action.hold_bind_error held fun _ => (pure .done : Action Session Answer)
        rw [show (Operation.loadImage image).perform.hold session reader = _ from performed]
        rfl
  | edit change =>
      rw [hold_edit] at failed ⊢
      rcases applied : (change.apply session.image).1 with refusal | answer
      · show { session with image := (change.apply session.image).2 } = session.tracking []
        rw [Image.Edit.apply_of_error applied]
        rfl
      · rw [applied] at failed
        cases failed

/-- **What is left of the session**, whatever the reader answers.  After an
error it is the session before, but for the target, which is the last tag
that a selection found; a failed detection or authentication leaves the
target, too.  Writing changes no more when it succeeds, opening the UID pages
nothing at all, and authenticating only the credentials: to the password and
the first two bytes of the answer. -/
theorem session_intact (session : Session) (reader : σ) :
    (∀ (operation : Operation) error,
      (operation.perform.hold session reader).value.1 = .error error →
        Follows session (operation.perform.hold session reader).exchanges
          (operation.perform.hold session reader).value.2) ∧
    (∀ error, (detectVariant.hold session reader).value.1 = .error error →
      (detectVariant.hold session reader).value.2 = session) ∧
    (∀ password error, ((authenticate password).hold session reader).value.1 = .error error →
      ((authenticate password).hold session reader).value.2 = session) ∧
    (∀ policy start stop,
      Follows session ((writePages policy start stop).hold session reader).exchanges
        ((writePages policy start stop).hold session reader).value.2) ∧
    (∀ policy, Follows session ((writeAll policy).hold session reader).exchanges
      ((writeAll policy).hold session reader).value.2) ∧
    (Operation.ensureWritable.perform.hold session reader).value.2 = session ∧
    ∀ password pack, ((authenticate password).hold session reader).value.1 = .ok pack →
      ((authenticate password).hold session reader).value.2 =
        { session with credentials := .of password pack } ∧
      ∃ (inside : σ) (answer : Bytes), answer.take 2 = pack.bytes ∧
        ((authenticate password).hold session reader).exchanges =
          authExchanges (Reader.close (Frame.authenticate password) inside).1 answer := by
  refine ⟨fun operation error failed => operation.follows_of_error failed,
    fun error failed => (detectVariant_failed failed).1,
    fun password error failed => (authenticate_failed failed).1,
    fun policy start stop => follows_writePages policy start stop σ session reader,
    fun policy => follows_writeAll policy σ session reader, ?_,
    fun password pack accepted => authenticate_ok accepted⟩
  -- the session is not even at hand while the UID pages are opened
  unfold Operation.perform
  rcases held : ensureWritable.hold reader with ⟨error | writable, after, events⟩
  · rw [Action.hold_bind_error (Action.hold_lift_of held session)]
  · rw [Action.hold_bind_ok (Action.hold_lift_of held session)]
    rfl

end

/-- A tag with a storage byte that no variant has: detection fails and leaves
the session; authenticating to it with the factory's password succeeds and
changes the credentials. -/
theorem session_intact_unknown :
    let tag := { SimulatedTag.fresh .ev1Ul11 with
      halted := false
      version := some #v[0x00, 0x04, 0x03, 0x01, 0x01, 0x00, 0x42, 0x03] }
    let detected := Operation.detectVariant.perform.hold (fresh .default) tag
    let accepted := (authenticate .factory).hold (fresh .default) tag
    detected.value.1 = .error (.unknownVersion 0x42) ∧
      Follows (fresh .default) detected.exchanges detected.value.2 ∧
      accepted.value.1 = .ok .zero ∧
      accepted.value.2 = { fresh .default with credentials := .of .factory .zero } :=
  ⟨rfl, (session_intact _ _).1 _ _ rfl, rfl, ((session_intact _ _).2.2.2.2.2.2 _ _ rfl).1⟩

end Ultralight.Session
