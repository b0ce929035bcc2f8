/-
  Ultralight.Hex
  ──────────────
  **Hexadecimal text.**

  Bytes are written as two lowercase digits each, compactly or with one
  space between bytes.  Reading takes digits of either case and ignores
  ASCII whitespace wherever it stands, so `04 a1b2` and `04A1 B2` are the
  same bytes.  `Hex.number` writes a number behind `0x` with at least two
  digits, as pages and single bytes appear in messages.

  Reading works on the bytes of the text's UTF-8 form: a character outside
  ASCII is two or more bytes, none of which is a digit.
-/
import Ultralight.Bytes

namespace Ultralight.Hex

/-! ## §1. Writing. -/

/-- The lowercase digit of a value below sixteen. -/
def digit (value : Nat) : Char :=
  if value < 10 then Char.ofNat (0x30 + value) else Char.ofNat (0x57 + value)

/-- The two digits of a byte, high half first. -/
def pair (byte : UInt8) : List Char :=
  [digit (byte.toNat / 16), digit (byte.toNat % 16)]

/-- Bytes as digits without separators: `dead`. -/
def encode (bytes : Bytes) : String :=
  String.ofList (bytes.flatMap pair)

/-- Bytes with one space between each two: `de ad`. -/
def encodeSpaced (bytes : Bytes) : String :=
  String.ofList (List.intercalate [' '] (bytes.map pair))

/-- A number behind `0x`, padded to two digits: `0x04`, `0x1ff`. -/
def number (n : Nat) : String :=
  let digits := Nat.toDigits 16 n
  String.ofList ('0' :: 'x' :: (List.replicate (2 - digits.length) '0' ++ digits))

/-! ## §2. Reading. -/

/-- Why a text is no hexadecimal byte string. -/
inductive Fault where
  /-- The digits do not pair up. -/
  | oddLength (text : String)
  /-- The first pair, as bytes of the text, that is not two digits. -/
  | badPair (high low : UInt8)
  /-- The bytes are fine but are not the four bytes of a password. -/
  | notAPassword (text : String)
  /-- A fault described by someone else. -/
  | reported (text : String)
  deriving DecidableEq, Repr

namespace Fault

/-- The wording of a fault.  The bytes of a bad pair are shown as the
characters with those codes. -/
def message : Fault → String
  | oddLength text => "odd length in '" ++ text ++ "'"
  | badPair high low =>
      "invalid hex pair '" ++ String.ofList [Char.ofNat high.toNat, Char.ofNat low.toNat] ++ "'"
  | notAPassword text => "password needs 8 hex digits, got '" ++ text ++ "'"
  | reported text => text

end Fault

/-- Space, tab, newline, form feed and carriage return. -/
def isBlank (byte : UInt8) : Bool :=
  byte == 0x20 || byte == 0x09 || byte == 0x0a || byte == 0x0c || byte == 0x0d

/-- The value of a digit of either case. -/
def digit? (byte : UInt8) : Option UInt8 :=
  if 0x30 ≤ byte ∧ byte ≤ 0x39 then some (byte - 0x30)
  else if 0x61 ≤ byte ∧ byte ≤ 0x66 then some (byte - 0x57)
  else if 0x41 ≤ byte ∧ byte ≤ 0x46 then some (byte - 0x37)
  else none

/-- A list cut into pairs, if its length is even. -/
def pairs? {α : Type} : List α → Option (List (α × α))
  | [] => some []
  | [_] => none
  | a :: b :: rest => (pairs? rest).map ((a, b) :: ·)

/-- The byte that two digits spell. -/
def decodePair (digits : UInt8 × UInt8) : Except Fault UInt8 :=
  match digit? digits.1, digit? digits.2 with
  | some high, some low => .ok (high <<< 4 ||| low)
  | _, _ => .error (.badPair digits.1 digits.2)

/-- The bytes of a text in UTF-8. -/
def textBytes (text : String) : Bytes :=
  text.toUTF8.data.toList

/-- The bytes that a text spells, blanks ignored.  An odd number of digits
is reported before a pair that is none. -/
def decode (text : String) : Except Fault Bytes :=
  match pairs? ((textBytes text).filter (!isBlank ·)) with
  | none => .error (.oddLength text)
  | some digits => digits.mapM decodePair

/-- Cutting into pairs succeeds exactly on even lengths. -/
theorem pairs?_isSome_iff {α : Type} : ∀ items : List α,
    (pairs? items).isSome ↔ items.length % 2 = 0
  | [] => by simp [pairs?]
  | [_] => by simp [pairs?]
  | _ :: _ :: rest => by
      rw [pairs?, Option.isSome_map, pairs?_isSome_iff rest]
      simp only [List.length_cons]
      omega

end Ultralight.Hex
