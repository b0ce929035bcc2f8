/-
  Ultralight.Bytes
  ────────────────
  **Byte strings and overwriting a stretch of one in place.**

  A byte string is a list of bytes.  The one operation that lists do not
  already have is `splice`: lay `data` over a buffer from a given offset on,
  leaving the length of the buffer as it is.

    • `length_splice`   — a splice never changes the length,
    • `getElem?_splice` — which byte stands where afterwards.
-/

namespace Ultralight

/-- A byte string. -/
abbrev Bytes := List UInt8

namespace Bytes

/-- `buffer` with `data` laid over it from offset `start` on.  What would
stand past the end of the buffer is dropped. -/
def splice (buffer : Bytes) (start : Nat) (data : Bytes) : Bytes :=
  buffer.mapIdx fun i byte => if i < start then byte else data.getD (i - start) byte

/-- A splice keeps the length of the buffer. -/
@[simp] theorem length_splice (buffer : Bytes) (start : Nat) (data : Bytes) :
    (splice buffer start data).length = buffer.length := by
  simp [splice]

/-- Byte `i` comes from the data exactly where the data reaches. -/
theorem getElem?_splice (buffer : Bytes) (start : Nat) (data : Bytes) (i : Nat) :
    (splice buffer start data)[i]? =
      if start ≤ i ∧ i < start + data.length ∧ i < buffer.length then data[i - start]?
      else buffer[i]? := by
  simp only [splice, List.getElem?_mapIdx, List.getD_eq_getElem?_getD]
  by_cases hb : i < buffer.length
  · by_cases hs : i < start
    · simp [hs, hb, Nat.not_le.2 hs]
    · by_cases hd : i < start + data.length
      · have : i - start < data.length := by omega
        simp [hs, hb, hd, this, Nat.le_of_not_lt hs]
      · have : data.length ≤ i - start := by omega
        simp [hs, hb, hd, List.getElem?_eq_none this]
  · simp [hb]

end Bytes

end Ultralight
