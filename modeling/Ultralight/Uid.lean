/-
  Ultralight.Uid
  ──────────────
  **Identifiers of tags.**

  A UID is at most ten bytes; real tags have four, seven or ten.  Any shorter
  string is accepted, the empty one included.
-/
import Ultralight.Error

namespace Ultralight

/-- Most bytes a UID has. -/
def maxUidLength : Nat := 10

/-- A UID as received or typed. -/
structure Uid where
  /-- The bytes in the order of anticollision. -/
  bytes : Bytes
  /-- No UID is longer than ten bytes. -/
  length_le : bytes.length ≤ maxUidLength
  deriving DecidableEq, Repr

namespace Uid

/-- The UID made of these bytes, unless they are too many. -/
def ofBytes (bytes : Bytes) : Except Error Uid :=
  if h : bytes.length ≤ maxUidLength then .ok ⟨bytes, h⟩
  else .error (.invalidLength maxUidLength bytes.length)

/-- The UID that a text spells. -/
def parse (text : String) : Except Error Uid :=
  match Hex.decode text with
  | .ok bytes => ofBytes bytes
  | .error fault => .error (.invalidHex fault)

/-- A UID as shown: its digits without separators. -/
def text (uid : Uid) : String := Hex.encode uid.bytes

end Uid

end Ultralight
