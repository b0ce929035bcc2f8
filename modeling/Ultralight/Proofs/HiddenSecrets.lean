/-
  Ultralight.Proofs.HiddenSecrets
  ───────────────────────────────
  **A protected tag never shows its secrets.**

  Two protected tags are `Twins` if they are the same but for the bytes of
  PWD and PACK in their memory.  Whatever is asked of both, they answer the
  same and stay twins (`Twins.answer`): READ blots out these bytes, and no
  other answer depends on the memory.  By induction over a dialogue the
  whole of it goes the same way with both (`Twins.run`), and with it every
  sequence of operations of a session.

  The password that a tag accepts and the acknowledgement it gives are fields
  of their own, the same for both; what no answer tells is what the memory
  holds in their place.
-/
import Ultralight.Proofs.TagMemory
import Ultralight.Session.Operation

namespace Ultralight

/-- A page that a variant stores at `p`, without the bytes of PWD and PACK. -/
def Variant.blotted (variant : Variant) (p : Nat) (page : Page) : Page :=
  match variant.secretLayout with
  | some layout =>
      if p = layout.pwdPage then .zero
      else if p = layout.packPage then ⟨0, 0, page.b2, page.b3⟩
      else page
  | none => page

/-- The first pages of a tag store no secrets. -/
theorem Variant.blotted_of_lt {variant : Variant} {p : Nat} (h : p + 2 < variant.pages)
    (page : Page) : variant.blotted p page = page := by
  unfold blotted
  split
  · next layout hlayout =>
    obtain ⟨hpwd, hpack⟩ := secrets_at_end hlayout
    rw [if_neg (by omega), if_neg (by omega)]
  · rfl

namespace SimulatedTag

/-! ## §1. Twins. -/

/-- Two protected tags that differ at most in the bytes of PWD and PACK in
their memory. -/
structure Twins (tag other : SimulatedTag) : Prop where
  /-- A password is set. -/
  locked : tag.password.isSome = true
  /-- Nothing but the memory differs, … -/
  apart : ∃ memory, other = { tag with memory := memory }
  /-- … and only in these bytes. -/
  blotted : ∀ p, tag.variant.blotted p (other.page p) = tag.variant.blotted p (tag.page p)

/-- Only pages of the memory have to be compared. -/
theorem twins_of_pages {tag other : SimulatedTag} (locked : tag.password.isSome = true)
    (apart : ∃ memory, other = { tag with memory := memory })
    (blotted : ∀ p, p < tag.variant.pages →
      tag.variant.blotted p (other.page p) = tag.variant.blotted p (tag.page p)) :
    Twins tag other := by
  refine ⟨locked, apart, fun p => ?_⟩
  by_cases within : p < tag.variant.pages
  · exact blotted p within
  · obtain ⟨memory, rfl⟩ := apart
    have past := Nat.le_of_not_lt within
    have bare : ({ tag with memory := memory } : SimulatedTag).page p = .zero :=
      page_of_beyond past
    rw [bare, page_of_beyond past]

/-- Two answers of twins: the same reply, by twins. -/
def TwinAnswers {α : Type} (one other : α × SimulatedTag) : Prop :=
  other.1 = one.1 ∧ Twins one.2 other.2

/-- READ shows a protected tag without its secrets. -/
theorem shown_eq_blotted (tag : SimulatedTag) (locked : tag.password.isSome = true) (p : Nat) :
    tag.shown p = tag.variant.blotted p (tag.page p) := by
  obtain ⟨password, hpassword⟩ := Option.isSome_iff_exists.mp locked
  unfold shown Variant.blotted
  rw [hpassword]
  cases hlayout : tag.variant.secretLayout with
  | none => rfl
  | some layout =>
      obtain ⟨hpwd, hpack⟩ := Variant.secrets_at_end hlayout
      dsimp only
      by_cases atPwd : p = layout.pwdPage
      · rw [if_pos atPwd, if_pos atPwd, if_neg (by omega)]
      · rw [if_neg atPwd, if_neg atPwd]

namespace Twins

variable {tag other : SimulatedTag}

theorem shown (twins : Twins tag other) (p : Nat) : other.shown p = tag.shown p := by
  have blotted := twins.blotted p
  obtain ⟨memory, rfl⟩ := twins.apart
  rw [shown_eq_blotted tag twins.locked,
    shown_eq_blotted { tag with memory := memory } twins.locked]
  exact blotted

/-- Storing the same page in both keeps them twins. -/
theorem setPage (twins : Twins tag other) (p : Nat) (data : Page) :
    Twins (tag.setPage p data) (other.setPage p data) := by
  have blotted := twins.blotted
  obtain ⟨memory, rfl⟩ := twins.apart
  refine ⟨twins.locked, ⟨_, rfl⟩, fun q => ?_⟩
  rw [page_setPage, page_setPage]
  by_cases stored : p = q ∧ p < tag.variant.pages
  · rw [if_pos stored, if_pos stored]
  · rw [if_neg stored, if_neg stored]
    exact blotted q

/-- What a WRITE makes of a page is the same for both: the pages it depends on
store no secrets. -/
theorem merged (twins : Twins tag other) (p : Nat) (data : Page) :
    SimulatedTag.merged p (other.page p) data = SimulatedTag.merged p (tag.page p) data := by
  have least := tag.variant.le_pages
  have same := twins.blotted p
  unfold SimulatedTag.merged
  split
  · next lock =>
    subst lock
    rw [Variant.blotted_of_lt (by unfold lockPage; omega),
      Variant.blotted_of_lt (by unfold lockPage; omega)] at same
    rw [same]
  · split
    · next otp =>
      subst otp
      rw [Variant.blotted_of_lt (by unfold otpPage; omega),
        Variant.blotted_of_lt (by unfold otpPage; omega)] at same
      rw [same]
    · rfl

/-! ## §2. Answers of twins. -/

theorem setProperty (twins : Twins tag other) (property : Property) (enable : Bool) :
    TwinAnswers (tag.setProperty property enable) (other.setProperty property enable) := by
  obtain ⟨locked, ⟨memory, rfl⟩, blotted⟩ := twins
  unfold SimulatedTag.setProperty
  dsimp only
  split
  · exact ⟨rfl, locked, ⟨_, rfl⟩, blotted⟩
  · cases property <;> exact ⟨rfl, locked, ⟨_, rfl⟩, blotted⟩

theorem select (twins : Twins tag other) (wanted : Option Uid) :
    TwinAnswers (tag.select wanted) (other.select wanted) := by
  obtain ⟨locked, ⟨memory, rfl⟩, blotted⟩ := twins
  unfold SimulatedTag.select
  dsimp only
  split
  · exact ⟨rfl, locked, ⟨_, rfl⟩, blotted⟩
  · split
    · exact ⟨rfl, locked, ⟨_, rfl⟩, blotted⟩
    · split
      · exact ⟨rfl, locked, ⟨_, rfl⟩, blotted⟩
      · split <;> exact ⟨rfl, locked, ⟨_, rfl⟩, blotted⟩

theorem list (twins : Twins tag other) (most : Nat) :
    TwinAnswers (listBySelecting (fun wanted tag => tag.select wanted) most tag)
      (listBySelecting (fun wanted tag => tag.select wanted) most other) := by
  unfold listBySelecting
  split
  · exact ⟨rfl, twins⟩
  · obtain ⟨same, after⟩ := twins.select none
    exact ⟨congrArg (Except.map Option.toList) same, after⟩

theorem exchangeBits (twins : Twins tag other) (frame : Bytes) (count : Nat) :
    TwinAnswers (tag.exchangeBits frame count) (other.exchangeBits frame count) := by
  obtain ⟨locked, ⟨memory, rfl⟩, blotted⟩ := twins
  unfold SimulatedTag.exchangeBits
  dsimp only
  split <;> exact ⟨rfl, locked, ⟨_, rfl⟩, blotted⟩

theorem checkPassword (twins : Twins tag other) (given : Bytes) :
    TwinAnswers (tag.checkPassword given) (other.checkPassword given) := by
  obtain ⟨locked, ⟨memory, rfl⟩, blotted⟩ := twins
  unfold SimulatedTag.checkPassword
  dsimp only
  split
  · split <;> exact ⟨rfl, locked, ⟨_, rfl⟩, blotted⟩
  · split <;> exact ⟨rfl, locked, ⟨_, rfl⟩, blotted⟩
  · exact ⟨rfl, locked, ⟨_, rfl⟩, blotted⟩

theorem obey (twins : Twins tag other) (command : Bytes) :
    TwinAnswers (tag.obey command) (other.obey command) := by
  have checked := twins.checkPassword
  obtain ⟨locked, ⟨memory, rfl⟩, blotted⟩ := twins
  unfold SimulatedTag.obey
  dsimp only
  split
  · exact ⟨rfl, locked, ⟨_, rfl⟩, blotted⟩
  · split
    · split <;> exact ⟨rfl, locked, ⟨_, rfl⟩, blotted⟩
    · split
      · exact checked _
      · split <;> exact ⟨rfl, locked, ⟨_, rfl⟩, blotted⟩

theorem exchangeBytes (twins : Twins tag other) (frame : Bytes) :
    TwinAnswers (tag.exchangeBytes frame) (other.exchangeBytes frame) := by
  have obeyed := twins.obey
  obtain ⟨locked, ⟨memory, rfl⟩, blotted⟩ := twins
  have told : ({ tag with memory := memory } : SimulatedTag).command? frame =
      tag.command? frame := rfl
  unfold SimulatedTag.exchangeBytes
  rw [told]
  dsimp only
  split
  · exact ⟨rfl, locked, ⟨_, rfl⟩, blotted⟩
  · split
    · split <;> exact ⟨rfl, locked, ⟨_, rfl⟩, blotted⟩
    · split
      · exact ⟨rfl, locked, ⟨_, rfl⟩, blotted⟩
      · split
        · exact ⟨rfl, locked, ⟨_, rfl⟩, blotted⟩
        · exact obeyed _

/-- **READ of any block shows the same of both**, also where the block meets
the secrets or goes on with page 0. -/
theorem readBlock (twins : Twins tag other) (first : UInt8) :
    TwinAnswers (tag.readBlock first) (other.readBlock first) := by
  have shown := twins.shown
  obtain ⟨locked, ⟨memory, rfl⟩, blotted⟩ := twins
  have heard : ({ tag with memory := memory } : SimulatedTag).ready = tag.ready := rfl
  unfold SimulatedTag.readBlock
  rw [heard]
  simp only [shown]
  split
  · exact ⟨rfl, locked, ⟨_, rfl⟩, blotted⟩
  · split
    · exact ⟨rfl, locked, ⟨_, rfl⟩, blotted⟩
    · split <;> exact ⟨rfl, locked, ⟨_, rfl⟩, blotted⟩

theorem writePage (twins : Twins tag other) (number : UInt8) (data : Page) :
    TwinAnswers (tag.writePage number data) (other.writePage number data) := by
  have stored := twins.setPage number.toNat
  have merged := twins.merged number.toNat data
  obtain ⟨locked, ⟨memory, rfl⟩, blotted⟩ := twins
  have heard : ({ tag with memory := memory } : SimulatedTag).ready = tag.ready := rfl
  have opened : ({ tag with memory := memory } : SimulatedTag).uidWritable = tag.uidWritable := rfl
  unfold SimulatedTag.writePage
  rw [heard, opened]
  dsimp only
  rw [merged]
  split
  · exact ⟨rfl, locked, ⟨_, rfl⟩, blotted⟩
  · split
    · exact ⟨rfl, locked, ⟨_, rfl⟩, blotted⟩
    · split
      · exact ⟨rfl, locked, ⟨_, rfl⟩, blotted⟩
      · split
        · exact ⟨rfl, stored data⟩
        · split
          · exact ⟨rfl, locked, ⟨_, rfl⟩, blotted⟩
          · exact ⟨rfl, stored _⟩

/-- **Whatever is asked, twins answer the same and stay twins.** -/
theorem answer (twins : Twins tag other) (request : Request) :
    TwinAnswers (Reader.answer request tag) (Reader.answer request other) := by
  cases request with
  | init => exact ⟨rfl, twins⟩
  | setProperty property enable => exact twins.setProperty property enable
  | select wanted => exact twins.select wanted
  | list most => exact twins.list most
  | bits frame count => exact twins.exchangeBits frame count
  | bytes frame => exact twins.exchangeBytes frame
  | read page => exact twins.readBlock page
  | write page data => exact twins.writePage page data.p0

theorem close (twins : Twins tag other) (frame : Bytes) :
    TwinAnswers (Reader.close frame tag) (Reader.close frame other) := by
  obtain ⟨locked, ⟨memory, rfl⟩, blotted⟩ := twins
  exact ⟨rfl, locked, ⟨_, rfl⟩, blotted⟩

end Twins

/-! ## §3. Dialogues with twins. -/

open Dialogue (Outcome)

/-- Two outcomes of one dialogue that only twins of each other tell apart:
the same value, the same events, and twins as readers. -/
structure TwinOutcomes {α : Type} (one other : Outcome SimulatedTag α) : Prop where
  value : other.value = one.value
  events : other.events = one.events
  readers : Twins one.reader other.reader

/-- The whole of a dialogue goes the same way with both. -/
theorem Twins.run {α : Type} {tag other : SimulatedTag} (twins : Twins tag other)
    (dialogue : Dialogue α) : TwinOutcomes (dialogue.run tag) (dialogue.run other) := by
  -- the next question depends on the answers so far, which are the same
  induction dialogue generalizing tag other with
  | done value => exact ⟨rfl, rfl, twins⟩
  | ask request next ih =>
      obtain ⟨same, after⟩ := twins.answer request
      unfold Dialogue.run
      dsimp only
      rw [same]
      have rest := ih (Reader.answer request tag).1 after
      exact ⟨rest.value, congrArg (List.cons _) rest.events, rest.readers⟩
  | close frame next ih =>
      obtain ⟨same, after⟩ := twins.close frame
      unfold Dialogue.run
      dsimp only
      rw [same]
      exact ih _ after
  | report notice rest ih =>
      have later := ih twins
      exact ⟨later.value, congrArg (List.cons _) later.events, later.readers⟩
  | pause milliseconds rest ih =>
      have later := ih twins
      exact ⟨later.value, congrArg (List.cons _) later.events, later.readers⟩

/-- **A tag never reveals its secrets by reading.**  Any dialogue, whatever it
asks and however that depends on the answers, goes the same way with two
protected tags that differ in the bytes of PWD and PACK alone: each request
gets the same answer, and in the end they differ in no other bytes.  So do
all operations of a session: their results, their reports and the images they
leave are the same. -/
theorem secrets_hidden {tag other : SimulatedTag} (twins : Twins tag other) :
    (∀ (α : Type) (dialogue : Dialogue α),
      TwinOutcomes (dialogue.run tag) (dialogue.run other)) ∧
    ∀ (operations : List Session.Operation) (session : Session),
      TwinOutcomes ((Session.performAll operations).hold session tag)
        ((Session.performAll operations).hold session other) :=
  ⟨fun _ dialogue => twins.run dialogue, fun _ _ => twins.run _⟩

/-- Two tags that were given one password and then hold different bytes in the
place of it: a session that is told neither reads both the same. -/
theorem secrets_hidden_overwritten :
    let tag := (fresh .ev1Ul11).withPassword ⟨⟨0x12, 0x34, 0x56, 0x78⟩⟩ ⟨0xaa, 0x55⟩
    let other := (tag.setPage 0x12 ⟨0xde, 0xad, 0xbe, 0xef⟩).setPage 0x13 ⟨0xca, 0xfe, 0, 0⟩
    Twins tag other ∧ tag.page 0x12 ≠ other.page 0x12 ∧ tag.page 0x13 ≠ other.page 0x13 ∧
      TwinOutcomes
        ((Session.performAll [.select, .detectVariant, .readAll]).hold (Session.fresh .default) tag)
        ((Session.performAll [.select, .detectVariant, .readAll]).hold (Session.fresh .default)
          other) := by
  intro tag other
  have twins : Twins tag other := twins_of_pages rfl ⟨_, rfl⟩ (by decide +kernel)
  exact ⟨twins, by decide +kernel, by decide +kernel,
    (secrets_hidden twins).2 [.select, .detectVariant, .readAll] (Session.fresh .default)⟩

end SimulatedTag

end Ultralight
