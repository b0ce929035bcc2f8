/-
  Ultralight.Proofs.TagMemory
  ───────────────────────────
  **What each answer of a simulated tag does to its memory.**

  `contents` is the memory of a tag together with the variant that sizes it.
  Only a WRITE touches it (`contents_answer`), and a WRITE touches no page
  but its own (`page_writePage_of_ne`).  Writing a page back as it is changes
  nothing, whatever the rules for lock and OTP bytes
  (`contents_writePage_own`), and the first three pages are shown as they are
  (`readBlock_first`).
-/
import Ultralight.Proofs.TagSteps

namespace Ultralight

/-- Whether a request is a WRITE. -/
def Request.isWrite : Request → Bool
  | write _ _ => true
  | _ => false

namespace SimulatedTag

/-- The memory of a tag, with the variant that it is the memory of. -/
def contents (tag : SimulatedTag) : (variant : Variant) × Vector Page variant.pages :=
  ⟨tag.variant, tag.memory⟩

variable {tag after : SimulatedTag}

theorem variant_eq_of_contents (h : after.contents = tag.contents) : after.variant = tag.variant :=
  congrArg Sigma.fst h

theorem page_eq_of_contents (h : after.contents = tag.contents) (p : Nat) :
    after.page p = tag.page p :=
  congrArg (fun held : (variant : Variant) × Vector Page variant.pages => held.2[p]?.getD .zero) h

/-- Past the last page there are zeros. -/
theorem page_of_beyond {p : Nat} (h : tag.variant.pages ≤ p) : tag.page p = .zero := by
  unfold page
  rw [Vector.getElem?_eq_none h]
  rfl

/-- A memory is the pages that it holds. -/
theorem contents_eq_of_pages (variant : after.variant = tag.variant)
    (pages : ∀ p, after.page p = tag.page p) : after.contents = tag.contents := by
  obtain ⟨kind, memory⟩ := tag
  obtain ⟨kind', memory'⟩ := after
  obtain rfl : kind' = kind := variant
  refine congrArg (Sigma.mk kind') (Vector.ext fun i hi => ?_)
  have same := pages i
  simpa [page, hi] using same

/-- The tag is the same one, and page `p` holds what it held. -/
def KeepsPage (p : Nat) (tag after : SimulatedTag) : Prop :=
  after.variant = tag.variant ∧ after.page p = tag.page p

theorem keepsPage_of_contents (h : after.contents = tag.contents) (p : Nat) :
    KeepsPage p tag after :=
  ⟨variant_eq_of_contents h, page_eq_of_contents h p⟩

theorem KeepsPage.trans {p : Nat} {last : SimulatedTag} (first : KeepsPage p tag after)
    (second : KeepsPage p after last) : KeepsPage p tag last :=
  ⟨second.1.trans first.1, second.2.trans first.2⟩

/-! ## §1. Requests that leave the memory alone. -/

theorem contents_setProperty (tag : SimulatedTag) (property : Property) (enable : Bool) :
    (tag.setProperty property enable).2.contents = tag.contents := by
  obtain ⟨_, _, _, held⟩ := tag.setProperty_cases property enable
  rw [held]
  rfl

theorem contents_select (tag : SimulatedTag) (wanted : Option Uid) :
    (tag.select wanted).2.contents = tag.contents := by
  rcases tag.select_cases wanted with ⟨_, _, held, -⟩ | ⟨-, held⟩ <;>
    rw [held] <;> rfl

theorem contents_list (tag : SimulatedTag) (most : Nat) :
    (listBySelecting (fun wanted tag => tag.select wanted) most tag).2.contents = tag.contents := by
  rcases tag.list_cases most with held | held <;> rw [held]
  exact contents_select tag none

theorem contents_exchangeBits (tag : SimulatedTag) (frame : Bytes) (count : Nat) :
    (tag.exchangeBits frame count).2.contents = tag.contents := by
  rcases tag.exchangeBits_cases frame count with ⟨-, held⟩ | held <;> rw [held] <;> rfl

theorem contents_exchangeBytes (tag : SimulatedTag) (frame : Bytes) :
    (tag.exchangeBytes frame).2.contents = tag.contents := by
  rcases tag.exchangeBytes_cases frame with ⟨-, -, held⟩ | ⟨_, _, held, -⟩ <;> rw [held] <;> rfl

theorem contents_readBlock (tag : SimulatedTag) (first : UInt8) :
    (tag.readBlock first).2.contents = tag.contents := by
  obtain ⟨_, _, _, held⟩ := tag.readBlock_cases first
  rw [held]
  rfl

/-- Nothing but a WRITE touches the memory. -/
theorem contents_answer {request : Request} (h : request.isWrite = false) (tag : SimulatedTag) :
    (Reader.answer request tag).2.contents = tag.contents := by
  cases request with
  | init => rfl
  | setProperty property enable => exact contents_setProperty tag property enable
  | select wanted => exact contents_select tag wanted
  | list most => exact contents_list tag most
  | bits frame count => exact contents_exchangeBits tag frame count
  | bytes frame => exact contents_exchangeBytes tag frame
  | read page => exact contents_readBlock tag page
  | write page data => cases h

/-- Closing a frame does not reach the tag. -/
theorem contents_close (frame : Bytes) (tag : SimulatedTag) :
    (Reader.close frame tag).2.contents = tag.contents := rfl

/-! ## §2. What a WRITE does. -/

theorem variant_writePage (tag : SimulatedTag) (number : UInt8) (data : Page) :
    (tag.writePage number data).2.variant = tag.variant := by
  rcases tag.writePage_cases number data with ⟨_, _, _, h⟩ | h | h <;> rw [h] <;> rfl

/-- A WRITE of one page keeps every other page. -/
theorem page_writePage_of_ne (tag : SimulatedTag) {number : UInt8} {q : Nat}
    (h : number.toNat ≠ q) (data : Page) :
    (tag.writePage number data).2.page q = tag.page q := by
  rcases tag.writePage_cases number data with ⟨_, _, _, hcase⟩ | hcase | hcase
  · rw [hcase]
    rfl
  · rw [hcase, page_setPage, if_neg fun hq => h hq.1]
  · rw [hcase, page_setPage, if_neg fun hq => h hq.1]

/-- Storing what a page holds changes nothing. -/
theorem setPage_page (tag : SimulatedTag) (p : Nat) : tag.setPage p (tag.page p) = tag := by
  have same : tag.memory.setIfInBounds p (tag.page p) = tag.memory := by
    -- the memory has to be compared page by page, since only page `p` is set
    apply Vector.ext
    intro i hi
    rw [Vector.getElem_setIfInBounds hi]
    by_cases hp : p = i
    · subst hp
      rw [if_pos rfl]
      simp [page, hi]
    · rw [if_neg hp]
  unfold setPage
  rw [same]

/-- Setting bits that are set changes nothing. -/
theorem merged_self (p : Nat) (old : Page) : merged p old old = old := by
  unfold merged
  split
  · simp
  · split <;> simp

/-- **Writing a page back changes nothing**, whatever the tag makes of it. -/
theorem contents_writePage_own (tag : SimulatedTag) (number : UInt8) :
    (tag.writePage number (tag.page number.toNat)).2.contents = tag.contents := by
  rcases tag.writePage_cases number (tag.page number.toNat) with ⟨_, _, _, h⟩ | h | h
  · rw [h]
    rfl
  · rw [h, setPage_page]
  · rw [h, merged_self, setPage_page]

/-! ## §3. What READ shows. -/

/-- The pages that READ hides are the last two. -/
theorem shown_of_lt {p : Nat} (h : p + 2 < tag.variant.pages) : tag.shown p = tag.page p := by
  unfold shown
  split
  · next layout _ hlayout _ =>
    obtain ⟨hpwd, hpack⟩ := Variant.secrets_at_end hlayout
    rw [if_neg (by omega), if_neg (by omega)]
  · rfl

/-- A first block that is shown holds pages 0 to 2 as they are, and showing
it leaves the tag as it was. -/
theorem readBlock_first {block : Block} (h : tag.readBlock 0 = (.ok block, after)) :
    after = tag ∧ block.p0 = tag.page 0 ∧ block.p1 = tag.page 1 ∧ block.p2 = tag.page 2 := by
  have hpages := tag.variant.le_pages
  -- no tag is so small that a first block rolls over or meets the secrets
  have shown_first : ∀ p, p < 3 → tag.shown (p % tag.variant.pages) = tag.page p := by
    intro p hp
    rw [Nat.mod_eq_of_lt (by omega)]
    exact shown_of_lt (by omega)
  unfold readBlock at h
  split at h
  · cases h
  · dsimp only at h
    split at h
    · cases h
    · split at h
      · cases h
      · obtain ⟨hblock, htag⟩ := Prod.mk.inj h
        cases hblock
        exact ⟨htag.symm, shown_first 0 (by decide), shown_first 1 (by decide),
          shown_first 2 (by decide)⟩

end SimulatedTag

end Ultralight
