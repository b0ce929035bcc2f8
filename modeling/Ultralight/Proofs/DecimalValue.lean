/-
  Ultralight.Proofs.DecimalValue
  ──────────────────────────────
  **Which number a text begins with, and that 64 bits are enough for it.**

  `value` reads all digits first and caps the number once, at the end; the
  reading holds it at the cap after every digit.  `leading?` carries the
  reading out on the bytes of the text and on machine words, and yields
  nothing if an operation leaves its word.

    • `magnitude_eq`     — a number held at the cap at every digit is the whole
      number, capped; by induction on what is still to be read,
    • `leading_eq_value` — so what is read is the value,
    • `leading?_eq`      — and no operation on words leaves its word.
-/
import Mathlib.Data.Nat.Digits.Defs
import Ultralight.Proofs.TextBytes
import Ultralight.Text.Decimal

namespace Ultralight.Text.Decimal

open Hex (IsAscii codeOf)

/-! ## §1. The value of a text. -/

/-- The number that some decimal digits spell. -/
def spelled (digits : List Char) : Nat :=
  Nat.ofDigits 10 (digits.reverse.map fun c => c.toNat - '0'.toNat)

/-- What follows one sign, if there is one. -/
def unsigned (cs : List Char) : List Char :=
  if cs.head? = some '-' ∨ cs.head? = some '+' then cs.tail else cs

/-- The value of a text: what the digits after white space and at most one sign
spell, capped, and negative after a minus sign. -/
def value (text : String) : Int :=
  let body := text.toList.dropWhile isBlank
  let size := min (spelled ((unsigned body).takeWhile Char.isDigit)) (2 ^ 63 - 1)
  if body.head? = some '-' then -(size : Int) else size

/-- One more digit after a number. -/
def pushed (number : Nat) (c : Char) : Nat := 10 * number + (c.toNat - 0x30)

theorem spelled_eq_foldl (digits : List Char) : spelled digits = digits.foldl pushed 0 := by
  unfold spelled
  rw [Nat.ofDigits_eq_foldr, List.foldr_map, List.foldr_reverse]
  refine congrArg (fun step => List.foldl step 0 digits) (funext fun number => funext fun c => ?_)
  exact Nat.add_comm _ _

theorem digit?_eq (c : Char) : digit? c = if c.isDigit then some (c.toNat - 0x30) else none := by
  have same : ('0' ≤ c ∧ c ≤ '9') ↔ c.isDigit = true := by
    unfold Char.isDigit
    rw [Bool.and_eq_true, decide_eq_true_eq, decide_eq_true_eq]
    exact Iff.rfl
  unfold digit?
  simp only [same]

/-- A number held at the cap at every digit is the whole number, capped. -/
theorem magnitude_eq (number : Nat) (cs : List Char) :
    magnitude (min number largest) cs =
      min ((cs.takeWhile Char.isDigit).foldl pushed number) largest := by
  induction cs generalizing number with
  | nil => rfl
  | cons c rest ih =>
      unfold magnitude
      rw [digit?_eq, List.takeWhile_cons]
      by_cases digit : c.isDigit
      · rw [if_pos digit, if_pos digit, List.foldl_cons, ← ih]
        -- what the cap cut off the number does not bring it below the cap again
        have held : min (min number largest * 10 + (c.toNat - 0x30)) largest =
            min (pushed number c) largest := by
          unfold pushed largest
          omega
        dsimp only
        rw [held]
      · rw [if_neg digit, if_neg digit]
        rfl

/-- What is read is the value. -/
theorem leading_eq_value (text : String) : leading text = value text := by
  have capped : ∀ cs, magnitude 0 cs =
      min (spelled (cs.takeWhile Char.isDigit)) (2 ^ 63 - 1) := by
    intro cs
    rw [spelled_eq_foldl]
    exact magnitude_eq 0 cs
  unfold leading value
  generalize text.toList.dropWhile isBlank = body
  unfold signed
  split
  · next rest =>
    rw [capped]
    rfl
  · next rest =>
    rw [capped]
    rfl
  · next minus plus =>
    have noMinus : body.head? ≠ some '-' := by
      intro first
      obtain ⟨rest, rfl⟩ := List.head?_eq_some_iff.mp first
      exact minus rest rfl
    have noPlus : body.head? ≠ some '+' := by
      intro first
      obtain ⟨rest, rfl⟩ := List.head?_eq_some_iff.mp first
      exact plus rest rfl
    dsimp only
    unfold unsigned
    rw [capped, if_neg noMinus, if_neg (by simp [noMinus, noPlus])]

/-! ## §2. Operations on machine words. -/

/-- A byte less another, unless it falls below zero. -/
def sub? (a b : UInt8) : Option UInt8 := if b ≤ a then some (a - b) else none

/-- A number with the other sign, unless there is none. -/
def neg? (n : Int64) : Option Int64 := if n = Int64.minValue then none else some (-n)

/-- A number as a size, unless it is below zero. -/
def size? (n : Int64) : Option UInt64 := if 0 ≤ n then some n.toUInt64 else none

/-- A product, held at the ends of the word. -/
def saturatingMul (a b : Int64) : Int64 := Int64.ofIntClamp (a.toInt * b.toInt)

/-- A sum, held at the ends of the word. -/
def saturatingAdd (a b : Int64) : Int64 := Int64.ofIntClamp (a.toInt + b.toInt)

theorem toInt_ofIntClamp_natCast (n : Nat) :
    (Int64.ofIntClamp n).toInt = (min n largest : Nat) := by
  have low : Int64.minValue.toInt = -2 ^ 63 := Int64.toInt_minValue
  have high : Int64.maxValue.toInt = 2 ^ 63 - 1 := Int64.toInt_maxValue
  unfold largest
  by_cases fits : (n : Int) ≤ Int64.maxValue.toInt
  · rw [Int64.toInt_ofIntClamp (by omega) fits]
    omega
  · unfold Int64.ofIntClamp
    rw [dif_pos (by omega), dif_neg fits]
    omega

/-- A number that is not the least of all has one with the other sign. -/
theorem neg?_eq {n : Int64} (low : 0 ≤ n.toInt) :
    ∃ negated, neg? n = some negated ∧ negated.toInt = -n.toInt := by
  have high := n.toInt_lt
  refine ⟨-n, if_neg ?_, ?_⟩
  · rintro rfl
    rw [Int64.toInt_minValue] at low
    omega
  · rw [Int64.toInt_neg, Int.bmod_eq_of_le] <;> omega

theorem size?_eq {n : Int64} (low : 0 ≤ n.toInt) :
    ∃ size, size? n = some size ∧ size.toNat = n.toInt.toNat := by
  have low : (0 : Int64) ≤ n := Int64.le_iff_toInt_le.mpr low
  exact ⟨n.toUInt64, if_pos low, Int64.toNat_toUInt64_of_le low⟩

/-! ## §3. Reading on machine words. -/

/-- Whether a byte of a text is a digit. -/
def isDigitByte (byte : UInt8) : Bool := 0x30 ≤ byte && byte ≤ 0x39

/-- One more digit after a number. -/
def push? (number : Int64) (byte : UInt8) : Option Int64 := do
  let digit ← sub? byte 0x30
  pure (saturatingAdd (saturatingMul number 10) (Int64.ofNat digit.toNat))

/-- What follows one sign, if there is one. -/
def unsignedBytes (bytes : Bytes) : Bytes :=
  if bytes.head? = some 0x2d ∨ bytes.head? = some 0x2b then bytes.tail else bytes

/-- The number a text begins with, read byte by byte on machine words. -/
def leading? (text : String) : Option Int64 := do
  let body := (text.toList.dropWhile isBlank).flatMap String.utf8EncodeChar
  let size ← ((unsignedBytes body).takeWhile isDigitByte).foldlM push? 0
  if body.head? = some 0x2d then neg? size else pure size

theorem ascii_of_isDigit {c : Char} (h : c.isDigit = true) : IsAscii c ∧ 0x30 ≤ c.toNat := by
  unfold Char.isDigit at h
  rw [Bool.and_eq_true, decide_eq_true_eq, decide_eq_true_eq] at h
  have low : 0x30 ≤ c.toNat := UInt32.le_iff_toNat_le.mp h.1
  have high : c.toNat ≤ 0x39 := UInt32.le_iff_toNat_le.mp h.2
  unfold IsAscii
  omega

/-- One digit leaves no word: the code of a digit is not below that of zero,
and where the product or the sum is held the number stays at the cap. -/
theorem push?_eq {word : Int64} {number : Nat} (held : word.toInt = (min number largest : Nat))
    {c : Char} (digit : c.isDigit = true) :
    ∃ next, push? word (codeOf c) = some next ∧
      next.toInt = (min (pushed number c) largest : Nat) := by
  obtain ⟨ascii, low⟩ := ascii_of_isDigit digit
  have code := Hex.toNat_codeOf ascii
  have above : 0x30 ≤ codeOf c := UInt8.le_iff_toNat_le.mpr (by rw [code]; exact low)
  have units : (codeOf c - 0x30).toNat = c.toNat - 0x30 := by
    rw [UInt8.toNat_sub_of_le _ _ above, code]
    rfl
  have small : c.toNat - 0x30 < 2 ^ 63 := by
    unfold IsAscii at ascii
    omega
  refine ⟨saturatingAdd (saturatingMul word 10) (Int64.ofNat (codeOf c - 0x30).toNat), ?_, ?_⟩
  · unfold push? sub?
    rw [if_pos above]
    rfl
  · have product : (saturatingMul word 10).toInt =
        (min (min number largest * 10) largest : Nat) := by
      unfold saturatingMul
      rw [held, show Int64.toInt 10 = ((10 : Nat) : Int) from rfl, ← Int.natCast_mul,
        toInt_ofIntClamp_natCast]
    unfold saturatingAdd
    rw [product, units, Int64.toInt_ofNat_of_lt small, ← Int.natCast_add, toInt_ofIntClamp_natCast]
    unfold pushed largest
    omega

/-- A row of digits leaves no word either. -/
theorem foldlM_push?_eq {digits : List Char} (all : ∀ c ∈ digits, c.isDigit = true) {word : Int64}
    {number : Nat} (held : word.toInt = (min number largest : Nat)) :
    ∃ last, (digits.map codeOf).foldlM push? word = some last ∧
      last.toInt = (min (digits.foldl pushed number) largest : Nat) := by
  induction digits generalizing word number with
  | nil => exact ⟨word, rfl, held⟩
  | cons c rest ih =>
      obtain ⟨next, one, held'⟩ := push?_eq held (all c (by simp))
      obtain ⟨last, more, whole⟩ := ih (fun d hd => all d (by simp [hd])) held'
      refine ⟨last, ?_, whole⟩
      rw [List.map_cons, List.foldlM_cons, one]
      exact more

/-! ## §4. Characters and their bytes. -/

theorem isDigitByte_codeOf {c : Char} (ascii : IsAscii c) : isDigitByte (codeOf c) = c.isDigit := by
  unfold isDigitByte Char.isDigit
  have code := Hex.toNat_codeOf ascii
  rw [Bool.eq_iff_iff, Bool.and_eq_true, Bool.and_eq_true, decide_eq_true_eq, decide_eq_true_eq,
    decide_eq_true_eq, decide_eq_true_eq, UInt8.le_iff_toNat_le, UInt8.le_iff_toNat_le, code]
  exact Iff.rfl

/-- The digits at the front of a text are the digits at the front of its
bytes. -/
theorem takeWhile_isDigitByte (cs : List Char) :
    (cs.flatMap String.utf8EncodeChar).takeWhile isDigitByte =
      (cs.takeWhile Char.isDigit).map codeOf := by
  induction cs with
  | nil => rfl
  | cons c rest ih =>
      rw [List.flatMap_cons]
      by_cases narrow : IsAscii c
      · rw [Hex.utf8EncodeChar_of_ascii narrow, List.singleton_append, List.takeWhile_cons,
          List.takeWhile_cons, isDigitByte_codeOf narrow, ih]
        split <;> rfl
      · -- the first byte of a wider character is no digit
        obtain ⟨byte, more, bytes, large⟩ := Hex.exists_utf8EncodeChar_eq_cons narrow
        have other : isDigitByte byte = false := by
          unfold isDigitByte
          rw [Bool.and_eq_false_iff, decide_eq_false_iff_not, decide_eq_false_iff_not,
            UInt8.le_iff_toNat_le, UInt8.le_iff_toNat_le]
          right
          show ¬ byte.toNat ≤ 0x39
          omega
        have wide : c.isDigit = false :=
          Bool.eq_false_iff.mpr fun digit => narrow (ascii_of_isDigit digit).1
        rw [bytes, List.cons_append, List.takeWhile_cons, List.takeWhile_cons, other, wide]
        rfl

/-- A sign is one byte. -/
theorem unsignedBytes_flatMap (cs : List Char) :
    unsignedBytes (cs.flatMap String.utf8EncodeChar) =
      (unsigned cs).flatMap String.utf8EncodeChar := by
  have minus : (cs.flatMap String.utf8EncodeChar).head? = some 0x2d ↔ cs.head? = some '-' :=
    Hex.head?_flatMap_utf8EncodeChar (d := '-') cs (by decide)
  have plus : (cs.flatMap String.utf8EncodeChar).head? = some 0x2b ↔ cs.head? = some '+' :=
    Hex.head?_flatMap_utf8EncodeChar (d := '+') cs (by decide)
  unfold unsignedBytes unsigned
  by_cases sign : cs.head? = some '-' ∨ cs.head? = some '+'
  · rw [if_pos sign, if_pos (sign.imp minus.mpr plus.mpr)]
    rcases sign with first | first <;> obtain ⟨rest, rfl⟩ := List.head?_eq_some_iff.mp first <;> rfl
  · rw [if_neg sign, if_neg fun sign' => sign (sign'.imp minus.mp plus.mp)]

/-- **No operation leaves its word**, and what is read on words is the value. -/
theorem leading?_eq (text : String) :
    ∃ word, leading? text = some word ∧ word.toInt = value text := by
  unfold leading? value
  generalize text.toList.dropWhile isBlank = body
  have digits : ∀ c ∈ (unsigned body).takeWhile Char.isDigit, c.isDigit = true :=
    List.all_eq_true.mp List.all_takeWhile
  have nothing : Int64.toInt 0 = (min 0 largest : Nat) := rfl
  obtain ⟨size, read, held⟩ := foldlM_push?_eq digits nothing
  rw [← spelled_eq_foldl] at held
  have minus : (body.flatMap String.utf8EncodeChar).head? = some 0x2d ↔ body.head? = some '-' :=
    Hex.head?_flatMap_utf8EncodeChar (d := '-') body (by decide)
  dsimp only
  rw [unsignedBytes_flatMap, takeWhile_isDigitByte, read]
  by_cases negative : body.head? = some '-'
  · obtain ⟨negated, exact, less⟩ := neg?_eq (n := size) (by omega)
    refine ⟨negated, ?_, ?_⟩
    · show (if _ then neg? size else pure size) = _
      rw [if_pos (minus.mpr negative), exact]
    · rw [if_pos negative, less, held]
      rfl
  · refine ⟨size, ?_, ?_⟩
    · show (if _ then neg? size else pure size) = _
      rw [if_neg fun first => negative (minus.mp first)]
      rfl
    · rw [if_neg negative, held]
      rfl

end Ultralight.Text.Decimal
