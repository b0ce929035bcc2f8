/-
  Ultralight.Image
  ────────────────
  **The memory of a tag, as one linear buffer.**

  An image always owns a buffer large enough for the largest tag, 924 bytes,
  of which the first `4 * pages` belong to the tag at hand: byte `n` of page
  `p` is byte `4 * p + n` of the buffer.  Pages are read and written through
  bounds of the tag, byte ranges through the bounds of the buffer.

  Every operation keeps the length of the buffer, by the type.
-/
import Ultralight.Credentials
import Ultralight.Variant

namespace Ultralight

/-- A linear copy of tag memory. -/
structure Image where
  /-- Pages of the tag. -/
  pages : Nat
  /-- The whole buffer. -/
  bytes : Bytes
  /-- No tag is larger than the largest. -/
  pages_le : pages ≤ maxPages
  /-- The buffer spans the largest tag. -/
  length_bytes : bytes.length = maxDumpSize
  deriving DecidableEq, Repr

namespace Image

/-! ## §1. Making an image. -/

/-- The image of zeros for a variant. -/
def blank (variant : Variant) : Image where
  pages := variant.pages
  bytes := List.replicate maxDumpSize 0
  pages_le := variant.pages_le
  length_bytes := List.length_replicate

/-- Bytes of the tag's pages. -/
def activeLength (image : Image) : Nat := image.pages * pageSize

/-- The same image with `data` laid over its buffer from offset `start` on. -/
def overlay (image : Image) (start : Nat) (data : Bytes) : Image where
  pages := image.pages
  bytes := image.bytes.splice start data
  pages_le := image.pages_le
  length_bytes := by simp [image.length_bytes]

/-- The image of a dump.  A short dump is filled up with zeros, one longer
than the tag is refused. -/
def ofDump (variant : Variant) (dump : Bytes) : Except Error Image :=
  let image := blank variant
  if image.activeLength < dump.length then
    .error (.invalidLength image.activeLength dump.length)
  else .ok (image.overlay 0 dump)

/-! ## §2. Pages. -/

/-- Byte `i` of the buffer. -/
def byteAt (image : Image) (i : Nat) : UInt8 := image.bytes.getD i 0

/-- Page `p` of the buffer, whether or not it belongs to the tag. -/
def pageAt (image : Image) (p : Nat) : Page :=
  ⟨image.byteAt (p * pageSize), image.byteAt (p * pageSize + 1),
    image.byteAt (p * pageSize + 2), image.byteAt (p * pageSize + 3)⟩

/-- Run on a page of the tag, or refuse one beyond its end. -/
def onPage {α : Type} (image : Image) (p : Nat) (value : α) : Except Error α :=
  if p < image.pages then .ok value else .error (.pageOutOfRange p image.pages)

/-- Page `p` of the tag. -/
def page (image : Image) (p : Nat) : Except Error Page :=
  image.onPage p (image.pageAt p)

/-- The image with page `p` replaced. -/
def setPage (image : Image) (p : Nat) (data : Page) : Except Error Image :=
  image.onPage p (image.overlay (p * pageSize) data.toList)

/-- How many pages of a block that starts at page `p` are on the tag. -/
def blockCount (image : Image) (p : Nat) : Nat := min (image.pages - p) blockPages

/-- The image with a block laid over it from page `p` on, and the number of
pages copied.  The part of the block past the end of the tag is dropped. -/
def copyBlock (image : Image) (p : Nat) (block : Block) : Except Error (Image × Nat) :=
  image.onPage p
    (image.overlay (p * pageSize) (block.toList.take (image.blockCount p * pageSize)),
      image.blockCount p)

/-! ## §3. Views. -/

/-- The bytes of the tag's pages, as a dump holds them. -/
def active (image : Image) : Bytes := image.bytes.take image.activeLength

/-- Bytes `start` up to `stop` of the buffer, both cut at its end. -/
def byteRange (image : Image) (start stop : Nat) : Bytes := (image.bytes.take stop).drop start

/-- The seven UID bytes of pages 0 and 1; the check byte at offset 3 is not
one of them. -/
def uid (image : Image) : Bytes := [0, 1, 2, 4, 5, 6, 7].map image.byteAt

/-! ## §4. Secrets. -/

/-- The image with the known password and its acknowledgement (zeros where
that is unknown) put where a variant stores them.  `none` when the variant has
no place for them, no password is known, or the image is too small. -/
def placeSecrets? (image : Image) (variant : Variant) (credentials : Credentials) :
    Option Image :=
  match variant.secretLayout, credentials.password with
  | some layout, some password =>
      if layout.packPage < image.pages then
        let pack := credentials.pack.getD .zero
        some ((image.overlay layout.pwdByte password.bytes).overlay layout.packByte pack.bytes)
      else none
  | _, _ => none

/-! ## §5. What an overlay changes. -/

@[simp] theorem pages_overlay (image : Image) (start : Nat) (data : Bytes) :
    (image.overlay start data).pages = image.pages := rfl

@[simp] theorem bytes_overlay (image : Image) (start : Nat) (data : Bytes) :
    (image.overlay start data).bytes = image.bytes.splice start data := rfl

end Image

end Ultralight
