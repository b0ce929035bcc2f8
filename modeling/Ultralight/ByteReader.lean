/-
  Ultralight.ByteReader
  ─────────────────────
  **A reader whose READs and WRITEs are frames of bytes.**

  A device may exchange frames and have no commands for memory of its own.  It
  makes a reader all the same: a READ is a frame, and the first sixteen bytes
  of its answer are the block; a WRITE is a frame, and any answer to it will
  do.  Everything else is up to the device.

    • `answer_read_ok_iff` — a READ yields a block exactly if the answer begins
      with its bytes,
    • `answer_read_short`  — fewer than sixteen bytes are an error, which says
      how many there were.
-/
import Ultralight.Frame
import Ultralight.Reader

namespace Ultralight

/-! ## §1. Blocks from answers. -/

namespace Page

theorem ofList?_eq_some {bytes : Bytes} {page : Page} :
    ofList? bytes = some page ↔ bytes = page.toList := by
  constructor
  · intro h
    unfold ofList? at h
    split at h <;> cases h
    rfl
  · rintro rfl
    exact ofList?_toList page

end Page

namespace Block

/-- Sixteen bytes are four times four. -/
theorem ofList?_eq_some {bytes : Bytes} {block : Block} :
    ofList? bytes = some block ↔ bytes = block.toList := by
  constructor
  · intro h
    simp only [ofList?, Option.bind_eq_bind, Option.bind_eq_some_iff, Page.ofList?_eq_some] at h
    obtain ⟨p0, h0, p1, h1, p2, h2, p3, h3, made⟩ := h
    cases made
    -- the four pieces one after the other are the bytes again
    have parts : bytes.take 4 ++ ((bytes.drop 4).take 4 ++ ((bytes.drop 8).take 4 ++
        bytes.drop 12)) = bytes := by
      rw [show bytes.drop 12 = (bytes.drop 8).drop 4 by simp, List.take_append_drop,
        show bytes.drop 8 = (bytes.drop 4).drop 4 by simp, List.take_append_drop,
        List.take_append_drop]
    rw [← parts, h0, h1, h2, h3]
    rfl
  · rintro rfl
    exact ofList?_toList block

/-- The block that an answer begins with. -/
def ofAnswer (answer : Bytes) : Except Error Block :=
  match ofList? (answer.take blockSize) with
  | some block => .ok block
  | none => .error (.invalidLength blockSize answer.length)

theorem ofAnswer_eq_ok_iff {answer : Bytes} {block : Block} :
    ofAnswer answer = .ok block ↔ ∃ rest, answer = block.toList ++ rest := by
  constructor
  · intro h
    unfold ofAnswer at h
    split at h
    · next found =>
      cases h
      refine ⟨answer.drop blockSize, ?_⟩
      rw [← ofList?_eq_some.mp found, List.take_append_drop]
    · cases h
  · rintro ⟨rest, rfl⟩
    unfold ofAnswer
    rw [List.take_left' (show block.toList.length = blockSize from rfl), ofList?_toList]

theorem ofAnswer_of_short {answer : Bytes} (short : answer.length < blockSize) :
    ofAnswer answer = .error (.invalidLength blockSize answer.length) := by
  rcases made : ofAnswer answer with error | block
  · unfold ofAnswer at made
    split at made <;> cases made
    rfl
  · obtain ⟨rest, rfl⟩ := ofAnswer_eq_ok_iff.mp made
    rw [List.length_append] at short
    exact absurd short (Nat.not_lt.mpr (Nat.le_add_right blockSize rest.length))

end Block

/-! ## §2. The reader. -/

/-- A device that READs and WRITEs by frames of bytes. -/
structure ByteReader (σ : Type) where
  device : σ

namespace ByteReader

variable {σ : Type} [Reader σ]

/-- The answer to a request. -/
def answer : (request : Request) → ByteReader σ → request.Reply × ByteReader σ
  | .read page, reader =>
      let (reply, device) := Reader.answer (.bytes (Frame.read page)) reader.device
      (reply.bind Block.ofAnswer, ⟨device⟩)
  | .write page data, reader =>
      let (reply, device) := Reader.answer (.bytes (Frame.write page data)) reader.device
      (reply.map fun _ => (), ⟨device⟩)
  | request, reader =>
      let (reply, device) := Reader.answer request reader.device
      (reply, ⟨device⟩)

instance : Reader (ByteReader σ) where
  answer := answer
  name := fun reader => Reader.name reader.device
  close := fun frame reader =>
    let (closed, device) := Reader.close frame reader.device
    (closed, ⟨device⟩)

variable {reader : ByteReader σ} {page : UInt8}

/-- **A READ yields the block that the answer to its frame begins with**, and
nothing else. -/
theorem answer_read_ok_iff {block : Block} :
    (Reader.answer (.read page) reader).1 = .ok block ↔
      ∃ rest, (Reader.answer (.bytes (Frame.read page)) reader.device).1 =
        .ok (block.toList ++ rest) := by
  show (Reader.answer (.bytes (Frame.read page)) reader.device).1.bind Block.ofAnswer = _ ↔ _
  rcases (Reader.answer (.bytes (Frame.read page)) reader.device).1 with error | answer
  · exact ⟨nofun, nofun⟩
  · refine Block.ofAnswer_eq_ok_iff.trans (exists_congr fun rest => ⟨congrArg _, ?_⟩)
    exact Except.ok.inj

theorem answer_read_short {answer : Bytes} (short : answer.length < blockSize)
    (answered : (Reader.answer (.bytes (Frame.read page)) reader.device).1 = .ok answer) :
    (Reader.answer (.read page) reader).1 = .error (.invalidLength blockSize answer.length) := by
  show (Reader.answer (.bytes (Frame.read page)) reader.device).1.bind Block.ofAnswer = _
  rw [answered]
  exact Block.ofAnswer_of_short short

end ByteReader

end Ultralight
