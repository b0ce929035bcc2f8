/-
  Ultralight.CommandLine.ByteRange
  ────────────────────────────────
  **Which bytes of the image a run prints.**

  Up to two positive numbers on the command line are the first byte and the
  byte after the last.  Values that are not positive numbers are passed over
  wherever they stand.
-/
import Ultralight.Dialogue
import Ultralight.Text.Decimal

namespace Ultralight.CommandLine

/-- The first byte printed unless told otherwise. -/
def defaultStart : Nat := 28

/-- The byte after the last one printed unless told otherwise. -/
def defaultStop : Nat := 45

/-- A stretch of the image. -/
structure ByteRange where
  /-- The first byte. -/
  start : Nat
  /-- The byte after the last. -/
  stop : Nat
  deriving DecidableEq, Repr

namespace ByteRange

/-- Whether a value counts as a bound. -/
def isBound (value : String) : Bool := 0 < Text.Decimal.leading value

/-- The bound that a value is. -/
def bound (value : String) : Nat := (Text.Decimal.leading value).toNat

/-- The byte range that some values ask for; a third bound is a mistake. -/
def ofValues (values : List String) : Except Error ByteRange :=
  match values.filter isBound with
  | [] => .ok ⟨defaultStart, defaultStop⟩
  | [start] => .ok ⟨bound start, defaultStop⟩
  | [start, stop] => .ok ⟨bound start, bound stop⟩
  | _ :: _ :: extra :: _ => .error (.usage (.extraByte extra))

/-- The byte range that some values ask for.  A range that holds no byte is
logged but kept. -/
def request (values : List String) : Talk ByteRange := do
  let range ← Talk.ofExcept (ofValues values)
  if range.stop ≤ range.start then
    Talk.report (.rangeReversed range.start range.stop)
  pure range

end ByteRange

end Ultralight.CommandLine
