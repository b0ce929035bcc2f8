/-
  Ultralight.Image.Edit
  ─────────────────────
  **Changes of an image, as values.**

  An image changes in three ways: a page is stored, a block is laid over it,
  or secrets are put in their places.  An edit that fails changes nothing.
-/
import Ultralight.Image

namespace Ultralight.Image

/-- A change of an image. -/
inductive Edit where
  /-- Store a page. -/
  | setPage (number : Nat) (page : Page)
  /-- Lay a block over the pages from a first one on. -/
  | copyBlock (first : Nat) (block : Block)
  /-- Put known secrets where a variant stores them. -/
  | placeSecrets (variant : Variant) (credentials : Credentials)
  deriving DecidableEq, Repr

namespace Edit

/-- What an edit that does not fail tells. -/
inductive Answer where
  /-- The page was stored. -/
  | stored
  /-- So many pages of the block were copied. -/
  | copied (pages : Nat)
  /-- Whether there were secrets to place. -/
  | placed (done : Bool)
  deriving DecidableEq, Repr

/-- Make an edit: what it tells, and the image after it. -/
def apply (image : Image) : Edit → Except Error Answer × Image
  | setPage number page =>
      match image.setPage number page with
      | .ok changed => (.ok .stored, changed)
      | .error error => (.error error, image)
  | copyBlock first block =>
      match image.copyBlock first block with
      | .ok (changed, pages) => (.ok (.copied pages), changed)
      | .error error => (.error error, image)
  | placeSecrets variant credentials =>
      match image.placeSecrets? variant credentials with
      | some changed => (.ok (.placed true), changed)
      | none => (.ok (.placed false), image)

/-- An edit never changes the number of pages. -/
theorem pages_apply (image : Image) (edit : Edit) : (edit.apply image).2.pages = image.pages := by
  cases edit with
  | setPage number page =>
      simp only [apply, Image.setPage, onPage]
      split <;> rename_i h <;> split at h <;> cases h <;> rfl
  | copyBlock first block =>
      simp only [apply, Image.copyBlock, onPage]
      split <;> rename_i h <;> split at h <;> cases h <;> rfl
  | placeSecrets variant credentials =>
      simp only [apply, placeSecrets?]
      split <;> rename_i h
      · split at h
        · split at h <;> cases h
          rfl
        · cases h
      · rfl

/-- An edit that fails changes nothing. -/
theorem apply_of_error {image : Image} {edit : Edit} {error : Error}
    (h : (edit.apply image).1 = .error error) : (edit.apply image).2 = image := by
  cases edit with
  | setPage number page =>
      simp only [apply] at h ⊢
      split at h
      · cases h
      · rfl
  | copyBlock first block =>
      simp only [apply] at h ⊢
      split at h
      · cases h
      · rfl
  | placeSecrets variant credentials =>
      simp only [apply] at h
      split at h <;> cases h

end Edit

end Ultralight.Image
