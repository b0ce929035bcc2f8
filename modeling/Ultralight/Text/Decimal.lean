/-
  Ultralight.Text.Decimal
  ───────────────────────
  **The number a text begins with.**

  White space in front is passed over, one sign is taken, and the decimal
  digits that follow are the number; what comes after them is ignored.  A
  text without such digits counts as zero.  Numbers grow no larger than
  `2^63 - 1`, however many digits follow.
-/
import Ultralight.Text.Blank

namespace Ultralight.Text.Decimal

/-- The largest magnitude that is told from a larger one. -/
def largest : Nat := 0x7fffffffffffffff

/-- The value of an ASCII digit. -/
def digit? (c : Char) : Option Nat :=
  if '0' ≤ c ∧ c ≤ '9' then some (c.toNat - 0x30) else none

/-- The number that the digits at the front of a text continue, held at the
largest magnitude at every digit. -/
def magnitude : Nat → List Char → Nat
  | value, [] => value
  | value, c :: rest =>
      match digit? c with
      | some digit => magnitude (min (value * 10 + digit) largest) rest
      | none => value

/-- The number after white space and at most one sign. -/
def signed : List Char → Int
  | '-' :: rest => -(magnitude 0 rest : Int)
  | '+' :: rest => magnitude 0 rest
  | rest => magnitude 0 rest

/-- The number a text begins with. -/
def leading (text : String) : Int := signed (text.toList.dropWhile isBlank)

/-- One sign is taken, a second one is no digit. -/
example : signed ['-', '1', '2', 'x'] = -12 ∧ signed ['+', '-', '5'] = 0 := by decide

end Ultralight.Text.Decimal
