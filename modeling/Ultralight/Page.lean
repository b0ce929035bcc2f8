/-
  Ultralight.Page
  ───────────────
  **Pages of four bytes and blocks of four pages.**

  A page is the unit of writing, a block of four pages the unit of reading.
  A write still sends a whole block: the page followed by twelve zero bytes
  (`Page.padded`), of which the tag stores the first page only.
-/
import Ultralight.Bytes

namespace Ultralight

/-- Bytes in a page. -/
def pageSize : Nat := 4

/-- Pages in a block. -/
def blockPages : Nat := 4

/-- Bytes in a block. -/
def blockSize : Nat := 16

/-- Four bytes of tag memory. -/
structure Page where
  b0 : UInt8
  b1 : UInt8
  b2 : UInt8
  b3 : UInt8
  deriving DecidableEq, Repr

namespace Page

/-- The page of zeros. -/
def zero : Page := ⟨0, 0, 0, 0⟩

/-- The bytes of a page in order. -/
def toList (page : Page) : Bytes := [page.b0, page.b1, page.b2, page.b3]

/-- The page holding exactly these bytes. -/
def ofList? : Bytes → Option Page
  | [b0, b1, b2, b3] => some ⟨b0, b1, b2, b3⟩
  | _ => none

@[simp] theorem length_toList (page : Page) : page.toList.length = 4 := rfl

theorem ofList?_toList (page : Page) : ofList? page.toList = some page := rfl

end Page

/-- The four pages answered to a READ, or sent by a WRITE. -/
structure Block where
  p0 : Page
  p1 : Page
  p2 : Page
  p3 : Page
  deriving DecidableEq, Repr

namespace Block

/-- The pages of a block in order. -/
def pages (block : Block) : List Page := [block.p0, block.p1, block.p2, block.p3]

/-- The sixteen bytes of a block in order. -/
def toList (block : Block) : Bytes := block.pages.flatMap Page.toList

/-- The block holding exactly these sixteen bytes. -/
def ofList? (bytes : Bytes) : Option Block := do
  let p0 ← Page.ofList? (bytes.take 4)
  let p1 ← Page.ofList? ((bytes.drop 4).take 4)
  let p2 ← Page.ofList? ((bytes.drop 8).take 4)
  let p3 ← Page.ofList? (bytes.drop 12)
  pure ⟨p0, p1, p2, p3⟩

/-- The seven UID bytes a first block holds; the check byte that closes page
0 is not one of them. -/
def uidBytes (block : Block) : Bytes :=
  [block.p0.b0, block.p0.b1, block.p0.b2, block.p1.b0, block.p1.b1, block.p1.b2, block.p1.b3]

@[simp] theorem length_toList (block : Block) : block.toList.length = 16 := rfl

theorem ofList?_toList (block : Block) : ofList? block.toList = some block := rfl

end Block

/-- A page as a WRITE sends it: twelve zero bytes follow. -/
def Page.padded (page : Page) : Block := ⟨page, .zero, .zero, .zero⟩

end Ultralight
