/-
  Ultralight.Proofs.ReadBack
  ──────────────────────────
  **An image that is written and read back.**

  On a tag without faults a write pass stores every page that is not
  protected, and a read pass gets every page.  What comes back is what was
  loaded (`pageAt_readBack`), with one exception by design: a protected tag
  shows zeros for PWD and PACK, so the session puts the credentials that it
  knows there, whatever the image held before.

  `readAll_writeAll` says so page by page, and that the exception shows
  exactly if the image carries other secrets than the session knows.
-/
import Ultralight.Proofs.ReadEffect
import Ultralight.Proofs.StoredPages

namespace Ultralight

/-! ## §1. Secrets that are put over what a tag shows. -/

namespace Credentials

variable {credentials : Credentials} {variant : Variant} {layout : SecretLayout}
  {password : Password}

theorem putInto_pwdPage (hlayout : variant.secretLayout = some layout)
    (hpassword : credentials.password = some password) (page : Page) :
    credentials.putInto variant layout.pwdPage page = password.page := by
  unfold putInto
  rw [hlayout, hpassword]
  exact if_pos rfl

theorem putInto_packPage (hlayout : variant.secretLayout = some layout)
    (hpassword : credentials.password = some password) (page : Page) :
    credentials.putInto variant layout.packPage page =
      ⟨(credentials.pack.getD .zero).b0, (credentials.pack.getD .zero).b1, page.b2, page.b3⟩ := by
  obtain ⟨hpwd, hpack⟩ := Variant.secrets_at_end hlayout
  unfold putInto
  rw [hlayout, hpassword]
  dsimp only
  rw [if_neg (by omega), if_pos rfl]

/-- Putting in secrets that are there already changes nothing. -/
theorem putInto_eq_self (hlayout : variant.secretLayout = some layout)
    (hpassword : credentials.password = some password) {p : Nat} {page : Page}
    (pwd : p = layout.pwdPage → page = password.page)
    (pack : p = layout.packPage →
      page.b0 = (credentials.pack.getD .zero).b0 ∧ page.b1 = (credentials.pack.getD .zero).b1) :
    credentials.putInto variant p page = page := by
  by_cases hpwd : p = layout.pwdPage
  · rw [hpwd, putInto_pwdPage hlayout hpassword, pwd hpwd]
  · by_cases hpack : p = layout.packPage
    · obtain ⟨b0, b1⟩ := pack hpack
      rw [hpack, putInto_packPage hlayout hpassword, ← b0, ← b1]
    · unfold putInto
      rw [hlayout, hpassword]
      dsimp only
      rw [if_neg hpwd, if_neg hpack]

/-- Once secrets are put in, it makes no difference that READ hid what the tag
stores there. -/
theorem putInto_shown {tag : SimulatedTag}
    (known : tag.password.isSome = true → credentials.isKnown = true) (p : Nat) :
    credentials.putInto tag.variant p (tag.shown p) =
      credentials.putInto tag.variant p (tag.page p) := by
  unfold SimulatedTag.shown
  cases hlayout : tag.variant.secretLayout with
  | none => rfl
  | some layout =>
      cases hprotected : tag.password with
      | none => rfl
      | some secret =>
          obtain ⟨password, hpassword⟩ : ∃ password, credentials.password = some password :=
            Option.isSome_iff_exists.mp (known (by rw [hprotected]; rfl))
          unfold putInto
          rw [hlayout, hpassword]
          dsimp only
          by_cases hpwd : p = layout.pwdPage
          · rw [if_pos hpwd, if_pos hpwd]
          · rw [if_neg hpwd, if_neg hpwd, if_neg hpwd]
            by_cases hpack : p = layout.packPage
            · rw [if_pos hpack, if_pos hpack, if_pos hpack]
            · rw [if_neg hpack, if_neg hpack, if_neg hpack]

end Credentials

/-- No policy protects the pages of PWD and PACK. -/
theorem Variant.skips_secrets {variant : Variant} {layout : SecretLayout}
    (h : variant.secretLayout = some layout) :
    WritePolicy.none.skips variant layout.pwdPage = false ∧
      WritePolicy.none.skips variant layout.packPage = false := by
  cases variant <;> simp [secretLayout] at h <;> subst h <;> decide

/-- The image carries the secrets that are known, where the variant stores
them. -/
def Image.Carries (image : Image) (variant : Variant) (credentials : Credentials) : Prop :=
  ∀ layout password, variant.secretLayout = some layout → credentials.password = some password →
    let pack := credentials.pack.getD .zero
    image.pageAt layout.pwdPage = password.page ∧
      (image.pageAt layout.packPage).b0 = pack.b0 ∧ (image.pageAt layout.packPage).b1 = pack.b1

/-- Putting in secrets that are there already changes nothing. -/
theorem Image.Carries.putInto_eq {image : Image} {variant : Variant} {credentials : Credentials}
    (carries : image.Carries variant credentials) (p : Nat) :
    credentials.putInto variant p (image.pageAt p) = image.pageAt p := by
  cases hlayout : variant.secretLayout with
  | none =>
      unfold Credentials.putInto
      rw [hlayout]
  | some layout =>
      cases hpassword : credentials.password with
      | none =>
          unfold Credentials.putInto
          rw [hlayout, hpassword]
      | some password =>
          obtain ⟨pwd, b0, b1⟩ := carries layout password hlayout hpassword
          exact Credentials.putInto_eq_self hlayout hpassword (fun hp => hp ▸ pwd)
            (fun hp => hp ▸ ⟨b0, b1⟩)

namespace Session

open Dialogue (Outcome)

/-! ## §2. The write pass. -/

/-- How writing whatever is never protected leaves a tag without faults, and
the session. -/
structure Written (session : Session) (tag : SimulatedTag)
    (outcome : Outcome SimulatedTag (Except Error WriteReport × Session)) : Prop where
  attached : outcome.value.2.Attached outcome.reader
  image : outcome.value.2.image = session.image
  credentials : outcome.value.2.credentials = session.credentials
  setup : outcome.reader.setup = tag.setup
  awake : outcome.reader.halted = false
  /-- Each page that is never protected is the image's. -/
  page : ∀ p, p < tag.variant.pages → WritePolicy.none.skips tag.variant p = false →
    outcome.reader.page p = session.image.pageAt p
  /-- Nothing fails. -/
  report : outcome.value.1 = .ok
    { pages := tag.variant.pages
      written := (plannedPages .none tag.variant).length
      skipped := (List.range tag.variant.pages).countP (WritePolicy.none.skips tag.variant)
      failed := 0 }

section

variable {session : Session} {tag : SimulatedTag} (attached : session.Attached tag)
  (present : tag.present = true) (awake : tag.halted = false) (framed : tag.inRawMode = false)
  (faultless : tag.faults = .none)

include attached present awake framed faultless

theorem written_writeAll : Written session tag ((writeAll .none).hold session tag) := by
  have steady := SimulatedTag.Steady.of_faultless present faultless
  have accepted : ∀ p, WritePolicy.none.skips tag.variant p = false →
      tag.refusesAt (plannedPages .none tag.variant) p = false := by
    intro p unprotected
    rw [refusesAt_of_not_skips unprotected, framed, faultless]
    rfl
  obtain ⟨effect, _, value⟩ := writePages_passEffect attached steady awake .none
    fun p hp => accepted p (mem_plannedPages.mp hp).2
  rw [← hold_writeAll_closed rfl] at effect value
  obtain ⟨target, huid, kept⟩ := effect.kept
  refine ⟨effect.attached attached, by rw [kept], by rw [kept], effect.setup, ?_, ?_, ?_⟩
  · -- the last page of the pass was accepted
    obtain ⟨rest, plan, last⟩ := plannedPages_none tag.variant
    rw [← plan] at last
    rw [effect.halted _ last, accepted _ (mem_plannedPages.mp (List.mem_of_getLast? last)).2]
    rfl
  · intro p hp unprotected
    rw [effect.page p, if_pos ⟨mem_plannedPages.mpr ⟨hp, unprotected⟩, accepted p unprotected⟩,
      storedAt_of_not_skips unprotected]
  · rw [value, Bool.not_false, List.countP_true, List.countP_false]
    rfl

/-! ## §3. The round trip. -/

/-- The tag that was written can be read: it is there and awake, and no block
of it is refused. -/
theorem yieldsFrom_written (p : Nat) :
    ((writeAll .none).hold session tag).reader.yieldsFrom 0 p = true := by
  have written := written_writeAll attached present awake framed faultless
  unfold SimulatedTag.yieldsFrom SimulatedTag.refusesRead
  rw [SimulatedTag.faults_eq_of_setup written.setup, faultless]
  rfl

/-- **What comes back** of a page that is never protected is what was loaded,
with the known secrets put in. -/
theorem pageAt_readBack (known : tag.password.isSome = true → session.credentials.isKnown = true)
    {p : Nat} (hp : p < tag.variant.pages)
    (unprotected : WritePolicy.none.skips tag.variant p = false) :
    let written := (writeAll .none).hold session tag
    (readAll.hold written.value.2 written.reader).value.2.image.pageAt p =
      session.credentials.putInto tag.variant p (session.image.pageAt p) := by
  intro written
  have pass : Written session tag written :=
    written_writeAll attached present awake framed faultless
  have variant := SimulatedTag.variant_eq_of_setup pass.setup
  have steady := SimulatedTag.Steady.of_setup pass.setup (.of_faultless present faultless)
  rw [pageAt_readAll pass.attached steady.present pass.awake
    ((SimulatedTag.inRawMode_eq_of_setup pass.setup).trans framed) steady.toSelectable
    (by rw [variant]; exact hp), yieldsFrom_written attached present awake framed faultless,
    if_pos rfl, Credentials.putInto_shown, pass.page p hp unprotected, pass.credentials, variant]
  rw [SimulatedTag.password_eq_of_setup pass.setup, pass.credentials]
  exact known

end

/-- What an image that is written and read back comes to. -/
structure ReadBack (session : Session) (tag : SimulatedTag)
    (written : Outcome SimulatedTag (Except Error WriteReport × Session))
    (back : Outcome SimulatedTag (Except Error ReadReport × Session)) : Prop where
  /-- Every page that is never protected is written. -/
  written : written.value.1 = .ok
    { pages := tag.variant.pages
      written := (plannedPages .none tag.variant).length
      skipped := (List.range tag.variant.pages).countP (WritePolicy.none.skips tag.variant)
      failed := 0 }
  /-- Every page is read. -/
  read : back.value.1 = .ok { pages := tag.variant.pages, read := tag.variant.pages, failed := 0 }
  /-- A page that is never protected comes back as it was loaded, except that
  known secrets stand where the variant stores them. -/
  page : ∀ p, p < tag.variant.pages → WritePolicy.none.skips tag.variant p = false →
    back.value.2.image.pageAt p =
      session.credentials.putInto tag.variant p (session.image.pageAt p)
  /-- All of them come back as they were loaded exactly if the image carries
  the secrets that are known. -/
  exact_iff : (∀ p, p < tag.variant.pages → WritePolicy.none.skips tag.variant p = false →
      back.value.2.image.pageAt p = session.image.pageAt p) ↔
    session.image.Carries tag.variant session.credentials

/-- **Writing and reading back.**  On a tag without faults that is there, awake
and out of raw mode, by a session that knows the password if there is one,
everything that is never protected is written and comes back, with the known
secrets in their places. -/
theorem readAll_writeAll {session : Session} {tag : SimulatedTag}
    (attached : session.Attached tag) (present : tag.present = true) (awake : tag.halted = false)
    (framed : tag.inRawMode = false) (faultless : tag.faults = .none)
    (known : tag.password.isSome = true → session.credentials.isKnown = true) :
    let written := (writeAll .none).hold session tag
    ReadBack session tag written (readAll.hold written.value.2 written.reader) := by
  intro written
  have pass : Written session tag written :=
    written_writeAll attached present awake framed faultless
  have back := fun p => pageAt_readBack attached present awake framed faultless known (p := p)
  have variant := SimulatedTag.variant_eq_of_setup pass.setup
  have steady := SimulatedTag.Steady.of_setup pass.setup (.of_faultless present faultless)
  refine ⟨pass.report, ?_, fun p => back p, ?_, ?_⟩
  · have every := yieldsFrom_written attached present awake framed faultless
    rw [report_readAll pass.attached steady.present pass.awake
      ((SimulatedTag.inRawMode_eq_of_setup pass.setup).trans framed) steady.toSelectable,
      List.countP_eq_length.mpr fun p _ => every p,
      List.countP_eq_zero.mpr fun p _ => by rw [every p]; exact Bool.false_ne_true,
      List.length_range, variant]
  · -- the two pages that store secrets are never protected
    intro exactly layout password hlayout hpassword pack
    obtain ⟨hpwd, hpack⟩ := Variant.secrets_at_end hlayout
    obtain ⟨pwdOpen, packOpen⟩ := Variant.skips_secrets hlayout
    have pwd := (back _ (by omega) pwdOpen).symm.trans (exactly _ (by omega) pwdOpen)
    have packed := (back _ (by omega) packOpen).symm.trans (exactly _ (by omega) packOpen)
    rw [Credentials.putInto_pwdPage hlayout hpassword] at pwd
    rw [Credentials.putInto_packPage hlayout hpassword] at packed
    exact ⟨pwd.symm, (congrArg Page.b0 packed).symm, (congrArg Page.b1 packed).symm⟩
  · intro carries p hp unprotected
    exact (back p hp unprotected).trans (carries.putInto_eq p)

/-- A protected tag, written with one byte throughout: page 4 comes back as it
was loaded, the pages of PWD and PACK with the secrets. -/
theorem readAll_writeAll_protected :
    let password : Password := ⟨⟨0x12, 0x34, 0x56, 0x78⟩⟩
    let tag := { (SimulatedTag.fresh .ev1Ul11).withPassword password ⟨0xaa, 0x55⟩ with
      halted := false }
    let session : Session :=
      { fresh .default with
        target := some tag.target
        variant := .ev1Ul11
        credentials := .of password ⟨0xaa, 0x55⟩
        image := (Image.blank .ev1Ul11).overlay 0 (List.replicate 80 0xf0) }
    let written := (writeAll .none).hold session tag
    let back := readAll.hold written.value.2 written.reader
    session.Attached tag ∧ tag.present = true ∧ tag.halted = false ∧ tag.inRawMode = false ∧
      tag.faults = .none ∧ tag.password.isSome = true ∧ session.credentials.isKnown = true ∧
      ReadBack session tag written back ∧
      written.value.1 = .ok { pages := 20, written := 16, skipped := 4, failed := 0 } ∧
      back.value.2.image.pageAt 4 = ⟨0xf0, 0xf0, 0xf0, 0xf0⟩ ∧
      back.value.2.image.pageAt 0x12 = ⟨0x12, 0x34, 0x56, 0x78⟩ ∧
      back.value.2.image.pageAt 0x13 = ⟨0xaa, 0x55, 0xf0, 0xf0⟩ := by
  intro password tag session written back
  have attached : session.Attached tag := ⟨rfl, rfl, rfl⟩
  have known : tag.password.isSome = true → session.credentials.isKnown = true := fun _ => rfl
  have trip : ReadBack session tag written back :=
    readAll_writeAll attached rfl rfl rfl rfl known
  refine ⟨attached, rfl, rfl, rfl, rfl, rfl, rfl, trip, ?_, ?_, ?_, ?_⟩
  · exact trip.written.trans (congrArg Except.ok (by decide))
  · exact (trip.page 4 (by decide) (by decide)).trans (by decide +kernel)
  · exact (trip.page 0x12 (by decide) (by decide)).trans (by decide +kernel)
  · exact (trip.page 0x13 (by decide) (by decide)).trans (by decide +kernel)

/-- Not everything that is loaded comes back, whether the tag has a password
of its own or took the factory's: the page of PWD is loaded with zeros, is not
protected, and comes back as the password. -/
theorem secrets_not_read_back :
    let factory : Password := .factory
    let own : Password := ⟨⟨0x12, 0x34, 0x56, 0x78⟩⟩
    let bare := { SimulatedTag.fresh .ev1Ul11 with halted := false }
    let guarded := { (SimulatedTag.fresh .ev1Ul11).withPassword own ⟨0xaa, 0x55⟩ with
      halted := false }
    let session (password : Password) (pack : Pack) : Session :=
      { fresh .default with
        target := some bare.target
        variant := .ev1Ul11
        credentials := .of password pack
        image := .blank .ev1Ul11 }
    let back (session : Session) (tag : SimulatedTag) : Image :=
      let written := (writeAll .none).hold session tag
      (readAll.hold written.value.2 written.reader).value.2.image
    WritePolicy.none.skips .ev1Ul11 0x12 = false ∧
      (Image.blank .ev1Ul11).pageAt 0x12 = .zero ∧
      (session own ⟨0xaa, 0x55⟩).Attached guarded ∧ guarded.faults = .none ∧
      (back (session own ⟨0xaa, 0x55⟩) guarded).pageAt 0x12 = own.page ∧
      (session factory .zero).Attached bare ∧ bare.faults = .none ∧
      (back (session factory .zero) bare).pageAt 0x12 = factory.page := by
  intro factory own bare guarded session back
  have toGuarded : (session own ⟨0xaa, 0x55⟩).Attached guarded := ⟨rfl, rfl, rfl⟩
  have toBare : (session factory .zero).Attached bare := ⟨rfl, rfl, rfl⟩
  have places : Variant.secretLayout .ev1Ul11 = some ⟨0x12, 0x13⟩ := rfl
  refine ⟨by decide, by decide +kernel, toGuarded, rfl, ?_, toBare, rfl, ?_⟩
  · exact (pageAt_readBack toGuarded rfl rfl rfl rfl (fun _ => rfl) (by decide) (by decide)).trans
      (Credentials.putInto_pwdPage places rfl _)
  · exact (pageAt_readBack toBare rfl rfl rfl rfl (fun _ => rfl) (by decide) (by decide)).trans
      (Credentials.putInto_pwdPage places rfl _)

end Session

end Ultralight
