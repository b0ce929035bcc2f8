/-
  Ultralight.Proofs.KnownCredentials
  ──────────────────────────────────
  **Whose credentials a session knows.**

  A session knows the credentials of the last password that was accepted.
  Nothing but another accepted password changes them
  (`remembers_performAll_unaccepted`): not a selection, not even one that
  finds another tag.  So they are those of the tag at hand exactly as long as
  every tag found is the one that accepted the password, and a read pass puts
  them into the image in any case (`readAll_places`).

  `performAll_credentials` says all this of every session and reader, and
  `credentials_of_other_tag` shows the password of one tag in the image of
  another one.
-/
import Ultralight.Proofs.IntactSession
import Ultralight.Proofs.ReadSequence
import Ultralight.ScriptedReader

namespace Ultralight.Session

open Dialogue (Outcome Event)

/-! ## §1. What every operation remembers. -/

/-- What is left of a session, whatever becomes of its image: the target is
the last tag found, the image still has the pages of the variant, and the
credentials are the same unless a password may be accepted. -/
structure Remembers (accepts : Prop) (session : Session) (trace : List Exchange)
    (after : Session) : Prop where
  target : after.target = (session.tracking trace).target
  fits : session.image.pages = session.variant.pages → after.image.pages = after.variant.pages
  credentials : ¬ accepts → after.credentials = session.credentials

variable {accepts : Prop}

theorem composes_remembers : Action.Composes (Remembers accepts) where
  nothing _ := ⟨rfl, id, fun _ => rfl⟩
  append := by
    intro first between last before after early late
    refine ⟨?_, late.fits ∘ early.fits, fun never =>
      (late.credentials never).trans (early.credentials never)⟩
    rw [tracking_append, late.target]
    -- of the session before only the target counts
    unfold tracking
    dsimp only
    rw [early.target]
    rfl

/-- Following the traffic is remembering everything else. -/
theorem Follows.remembers {session after : Session} {trace : List Exchange}
    (h : Follows session trace after) : Remembers accepts session trace after := by
  cases h
  exact ⟨rfl, id, fun _ => rfl⟩

theorem remembers_lift {α : Type} {talk : Talk α} (asks : talk.Asks Elsewhere) :
    (liftM talk : Action Session α).HasEffect (Remembers accepts) :=
  fun σ _ session reader => (follows_lift asks σ session reader).remembers

theorem remembers_elsewhere {session : Session} {made : Exchange} (h : Elsewhere made.request) :
    Remembers accepts session [made] session :=
  Follows.remembers (tracking_of_elsewhere session (List.forall_mem_singleton.mpr h)).symm

theorem remembers_image {session : Session} {image : Image} {trace : List Exchange}
    (h : session.tracking trace = session) (size : image.pages = session.image.pages) :
    Remembers accepts session trace { session with image := image } :=
  ⟨(congrArg Session.target h).symm, size.trans, fun _ => rfl⟩

theorem Operation.parts_remembers (operation : Operation)
    (accepted : ∀ password, operation = .authenticate password → accepts) :
    operation.Parts (Remembers accepts) where
  composes := composes_remembers
  select _ _ := Follows.remembers rfl
  reselect _ _ := Follows.remembers rfl
  list _ _ _ _ := remembers_elsewhere trivial
  write _ _ _ _ := remembers_elsewhere trivial
  writable _ := remembers_lift asks_ensureWritable_elsewhere
  detect := hasEffect_detectVariant composes_remembers (fun _ _ => Follows.remembers rfl)
    (remembers_lift asks_getVersion_elsewhere) fun _ _ => ⟨rfl, fun _ => rfl, fun _ => rfl⟩
  authenticate password own := hasEffect_authenticate composes_remembers
    (remembers_lift (asks_acknowledgement_elsewhere password))
    fun _ _ => ⟨rfl, id, fun never => absurd (accepted password own) never⟩
  read := hasEffect_readAll composes_remembers (fun _ _ => Follows.remembers rfl)
    (fun _ _ _ => remembers_elsewhere trivial)
    (fun _ _ session _ size => remembers_image (tracking_of_not_found rfl session) size)
    fun _ _ size _ => remembers_image rfl size
  load _ _ _ size := ⟨rfl, fun _ => size, fun _ => rfl⟩
  edit change session _ := remembers_image rfl (Image.Edit.pages_apply session.image change)

variable {σ : Type} [Reader σ]

theorem remembers_performAll (operations : List Operation) :
    (performAll operations).HasEffect (Remembers True) :=
  hasEffect_performAll composes_remembers fun operation _ =>
    (operation.parts_remembers fun _ _ => trivial).hasEffect

theorem remembers_readAll : readAll.HasEffect (Remembers False) :=
  (Operation.readAll.parts_remembers nofun).read

/-- An operation keeps the credentials unless it answers with the
acknowledgement of a password. -/
theorem Operation.remembers_unaccepted (operation : Operation) (session : Session) (reader : σ)
    (unaccepted : ∀ pack, (operation.perform.hold session reader).value.1 ≠ .ok (.pack pack)) :
    Remembers False session (operation.perform.hold session reader).exchanges
      (operation.perform.hold session reader).value.2 := by
  by_cases presents : ∃ password, operation = .authenticate password
  · obtain ⟨password, rfl⟩ := presents
    -- an authentication that is not accepted fails, and a failure changes nothing
    have answer : ((Operation.authenticate password).perform.hold session reader).value.1 =
        ((Session.authenticate password).hold session reader).value.1.map .pack := by
      unfold Operation.perform
      rw [Action.hold_map]
    rcases result : ((Session.authenticate password).hold session reader).value.1
      with error | pack
    · rw [result] at answer
      exact (Operation.follows_of_error _ answer).remembers
    · rw [result] at answer
      exact absurd answer (unaccepted pack)
  · exact (operation.parts_remembers fun password own => presents ⟨password, own⟩).hasEffect
      σ session reader

/-- No password was accepted, by what the operations answered. -/
def NoneAccepted (answers : List (Except Error Answer)) : Prop :=
  ∀ pack, .ok (.pack pack) ∉ answers

/-- **Only an accepted password changes the credentials**, whatever is done and
whatever tags are found. -/
theorem remembers_performAll_unaccepted (operations : List Operation) :
    ∀ (session : Session) (reader : σ) {answers : List (Except Error Answer)},
      ((performAll operations).hold session reader).value.1 = .ok answers →
      NoneAccepted answers →
      Remembers False session ((performAll operations).hold session reader).exchanges
        ((performAll operations).hold session reader).value.2 := by
  induction operations with
  | nil => intro session reader answers _ _; exact composes_remembers.nothing session
  | cons operation rest ih =>
      intro session reader answers answered none
      obtain ⟨later, answeredLater⟩ := performAll_succeeds rest
        (operation.perform.hold session reader).value.2
        (operation.perform.hold session reader).reader
      rw [hold_performAll_cons] at answered ⊢
      dsimp only at answered ⊢
      rw [answeredLater] at answered
      cases answered
      rw [Outcome.exchanges_mk, Event.exchanges_append]
      refine composes_remembers.append (operation.remembers_unaccepted session reader ?_)
        (ih _ _ answeredLater ?_)
      · exact fun pack own => none pack (own ▸ List.mem_cons_self)
      · exact fun pack listed => none pack (List.mem_cons_of_mem _ listed)

/-! ## §2. What a read pass makes of them. -/

/-- **A read pass puts the known secrets into the image**, whatever tag was
read, and none at all. -/
theorem readAll_places {session : Session} {password : Password} {pack : Pack}
    (fits : session.image.pages = session.variant.pages)
    (known : session.credentials = .of password pack) (reader : σ) :
    let after := (readAll.hold session reader).value.2
    ∀ layout, after.variant.secretLayout = some layout →
      after.image.pageAt layout.pwdPage = password.page ∧
        ∃ b2 b3, after.image.pageAt layout.packPage = ⟨pack.b0, pack.b1, b2, b3⟩ := by
  intro after layout place
  have kept := remembers_readAll σ session reader
  obtain ⟨markers, final, -, value⟩ := readAll_takesCourse session reader fits
  have ended : after = { final with
      image := final.image.withSecrets final.variant final.credentials } := congrArg Prod.snd value
  rw [show (readAll.hold session reader).value.2 = _ from ended] at kept
  rw [ended] at place ⊢
  have credentials : final.credentials = .of password pack :=
    (kept.credentials not_false).trans known
  have size : final.image.pages = final.variant.pages := by
    have whole := kept.fits fits
    rwa [Image.pages_withSecrets] at whole
  have placed := Image.pageAt_withSecrets size final.credentials
  dsimp only at place ⊢
  rw [placed, placed, credentials]
  unfold Credentials.putInto
  rw [place]
  refine ⟨if_pos rfl, _, _, (if_neg ?_).trans (if_pos rfl)⟩
  obtain ⟨hpwd, hpack⟩ := Variant.secrets_at_end place
  omega

/-! ## §3. Whose credentials they are. -/

/-- The tags that an outcome found are the one selected before. -/
def FoundNoOther {α : Type} (selected : Option Target) (outcome : Outcome σ α) : Prop :=
  ∀ found ∈ outcome.exchanges.filterMap Exchange.found?, selected.map Target.uid = some found.uid

/-- A session forgets the credentials once it found another tag than the one
selected before. -/
def ForgetsOther {α : Type} (selected : Option Target)
    (outcome : Outcome σ (Except Error α × Session)) : Prop :=
  ¬ FoundNoOther selected outcome → outcome.value.2.credentials = .unknown

omit [Reader σ] in
/-- As long as no other tag is found the target has the same UID. -/
theorem FoundNoOther.uid_eq {α : Type} {session : Session}
    {outcome : Outcome σ (Except Error α × Session)} (h : FoundNoOther session.target outcome)
    (target : outcome.value.2.target = (session.tracking outcome.exchanges).target) :
    outcome.value.2.target.map Target.uid = session.target.map Target.uid := by
  rw [target]
  unfold tracking
  dsimp only
  rcases last : (outcome.exchanges.filterMap Exchange.found?).getLast? with _ | found
  · rfl
  · exact (h found (List.mem_of_getLast? last)).symm

/-- **The credentials are those of the last password that was accepted**,
whatever tag the session holds by then.  So a session that finds another tag
keeps them, and it forgets the credentials of other tags exactly if it finds
none.  A read pass puts them into the image in any case; they are those of the
tag that was read if none of the tags found since was another one. -/
theorem performAll_credentials (config : SessionConfig) (reader : σ) :
    (∀ operations answers,
      let outcome := (performAll operations).hold (fresh config) reader
      outcome.value.1 = .ok answers → NoneAccepted answers →
        outcome.value.2.credentials = .unknown) ∧
    ∀ before password pack after answers,
      let first := (performAll before).hold (fresh config) reader
      let accepted := (authenticate password).hold first.value.2 first.reader
      let since := (performAll after).hold accepted.value.2 accepted.reader
      let read := readAll.hold since.value.2 since.reader
      let selected := first.value.2.target
      accepted.value.1 = .ok pack → since.value.1 = .ok answers → NoneAccepted answers →
        since.value.2.credentials = .of password pack ∧
        (ForgetsOther selected since ↔ FoundNoOther selected since) ∧
        (∀ layout, read.value.2.variant.secretLayout = some layout →
          read.value.2.image.pageAt layout.pwdPage = password.page ∧
            ∃ b2 b3, read.value.2.image.pageAt layout.packPage = ⟨pack.b0, pack.b1, b2, b3⟩) ∧
        (FoundNoOther selected since → FoundNoOther selected read →
          read.value.2.target.map Target.uid = selected.map Target.uid) := by
  constructor
  · intro operations answers outcome answered none
    exact (remembers_performAll_unaccepted operations (fresh config) reader answered
      none).credentials not_false
  · intro before password pack after answers first accepted since read selected acknowledged
      answered none
    have early := remembers_performAll before σ (fresh config) reader
    have presented : accepted.value.2 =
        { first.value.2 with credentials := .of password pack } := (authenticate_ok acknowledged).1
    have late := remembers_performAll_unaccepted after accepted.value.2 accepted.reader answered
      none
    have reading := remembers_readAll σ since.value.2 since.reader
    have known : since.value.2.credentials = .of password pack :=
      (late.credentials not_false).trans (congrArg Session.credentials presented)
    have same : accepted.value.2.target = selected := by rw [presented]
    have fits : since.value.2.image.pages = since.value.2.variant.pages :=
      late.fits (by rw [presented]; exact early.fits rfl)
    refine ⟨known, ⟨fun forgets => ?_, fun own other => absurd own other⟩,
      readAll_places fits known since.reader, fun own ownRead => ?_⟩
    · -- credentials that are known were not forgotten
      refine Classical.byContradiction fun other => ?_
      have forgotten := forgets other
      rw [known] at forgotten
      cases forgotten
    · rw [← same] at own
      have held := own.uid_eq late.target
      have still : FoundNoOther since.value.2.target read := by
        intro found listed
        rw [held, same]
        exact ownRead found listed
      rw [still.uid_eq reading.target, held, same]

/-- Two tags of one kind that are laid down one after the other. -/
def exchangedTags : List Target :=
  [⟨0x00, 0x44, 0x00, ⟨[0x04, 0x0a, 0, 0, 0, 0, 0], by decide⟩⟩,
    ⟨0x00, 0x44, 0x00, ⟨[0x04, 0x0b, 0, 0, 0, 0, 0], by decide⟩⟩]

/-- A reader that meets the two tags.  The first one accepts a password; the
second one is detected and shows its memory, which is blank. -/
def exchangingReader : ScriptedReader where
  init := []
  property := []
  select := exchangedTags.map fun target => .ok (some target)
  list := []
  bits := []
  bytes := [.ok [0x00, 0x04, 0x03, 0x01, 0x01, 0x00, 0x0b, 0x03], .ok [0xaa, 0x55],
    .ok [0x00, 0x04, 0x03, 0x01, 0x01, 0x00, 0x0b, 0x03]]
  read := List.replicate 5 (.ok Page.zero.padded)
  write := []
  customs := none

/-- Between the two tags a password is accepted, after them none. -/
theorem performAll_credentials_exchanged :
    let operations := [.select, .detectVariant]
    let password : Password := ⟨⟨0x12, 0x34, 0x56, 0x78⟩⟩
    let first := (performAll operations).hold (fresh .default) exchangingReader
    let accepted := (authenticate password).hold first.value.2 first.reader
    let since := (performAll operations).hold accepted.value.2 accepted.reader
    let answers := [.ok (.target exchangedTags[1]), .ok (.variant .ev1Ul11)]
    accepted.value.1 = .ok ⟨0xaa, 0x55⟩ ∧ since.value.1 = .ok answers ∧ NoneAccepted answers ∧
      since.value.2.credentials = .of password ⟨0xaa, 0x55⟩ :=
  have none : NoneAccepted [.ok (.target exchangedTags[1]), .ok (.variant .ev1Ul11)] := by
    simp [NoneAccepted]
  ⟨rfl, rfl, none,
    ((performAll_credentials .default exchangingReader).2 [.select, .detectVariant]
      ⟨⟨0x12, 0x34, 0x56, 0x78⟩⟩ ⟨0xaa, 0x55⟩ [.select, .detectVariant] _ rfl rfl none).1⟩

/-- **A session does not forget the credentials of another tag**: the second
tag is the target, and the image of its blank memory shows the password and
the acknowledgement of the first one. -/
theorem credentials_of_other_tag :
    let operations := [.select, .detectVariant]
    let first := (performAll operations).hold (fresh .default) exchangingReader
    let accepted := (authenticate ⟨⟨0x12, 0x34, 0x56, 0x78⟩⟩).hold first.value.2 first.reader
    let since := (performAll operations).hold accepted.value.2 accepted.reader
    let read := readAll.hold since.value.2 since.reader
    first.value.2.target = some exchangedTags[0] ∧ accepted.value.1 = .ok ⟨0xaa, 0x55⟩ ∧
      ¬ ForgetsOther first.value.2.target since ∧
      read.value.2.target = some exchangedTags[1] ∧
      read.value.1.toOption = some ⟨20, 20, 0⟩ ∧
      read.value.2.image.pageAt 18 = ⟨0x12, 0x34, 0x56, 0x78⟩ ∧
      ∃ b2 b3, read.value.2.image.pageAt 19 = ⟨0xaa, 0x55, b2, b3⟩ := by
  intro operations first accepted since read
  have other : ¬ FoundNoOther first.value.2.target since := by
    intro own
    have same := own exchangedTags[1] List.mem_cons_self
    cases same
  have fits : since.value.2.image.pages = since.value.2.variant.pages := by decide +kernel
  have known : since.value.2.credentials = .of ⟨⟨0x12, 0x34, 0x56, 0x78⟩⟩ ⟨0xaa, 0x55⟩ := by
    decide +kernel
  -- the image is not looked into: reading places what is known
  have placed := readAll_places fits known since.reader ⟨18, 19⟩ (by decide +kernel)
  refine ⟨rfl, rfl, fun forgets => ?_, by decide +kernel, by decide +kernel, placed⟩
  have forgotten := forgets other
  rw [known] at forgotten
  cases forgotten

end Ultralight.Session
