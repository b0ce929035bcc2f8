/-
  Ultralight.Proofs.ShiftRegister
  ───────────────────────────────
  **The checksum, one bit at a time.**

  CRC_A is defined by a register of sixteen bits.  It takes the bits of a
  frame in the order in which they are sent, the least significant bit of each
  byte first; with every bit it moves right by one, and where the bit that
  leaves it differs from the bit that comes, `0x8408` is added to it
  (`Crc.shift`).

  `Crc.step` takes eight bits at once.  That it comes to the same in every
  state (`Crc.step_eq_shifts`) rests on one law: the register is linear
  (`Crc.shifts_xor`).  A byte can therefore be added to the register before
  eight shifts without data, and the high half of the register can be told
  apart from the low one: it only moves down.  What is left is a table of 256
  entries.

  `Crc.checksum_serial` lifts this to byte strings, and says what passes the
  check.
-/
import Ultralight.Crc

namespace Ultralight

/-! ## §1. The register. -/

namespace Bytes

/-- The bits of a byte in the order in which they are sent. -/
def bitsOfByte (byte : UInt8) : List Bool := (List.range 8).map byte.toNat.testBit

/-- The bits of a byte string in the order in which they are sent. -/
def bits (data : Bytes) : List Bool := data.flatMap bitsOfByte

@[simp] theorem length_bitsOfByte (byte : UInt8) : (bitsOfByte byte).length = 8 := by
  simp [bitsOfByte]

theorem bits_cons (byte : UInt8) (data : Bytes) :
    bits (byte :: data) = bitsOfByte byte ++ bits data := List.flatMap_cons

theorem length_bits (data : Bytes) : data.bits.length = 8 * data.length := by
  induction data with
  | nil => rfl
  | cons byte data ih =>
      rw [bits_cons, List.length_append, length_bitsOfByte, ih, List.length_cons]
      omega

end Bytes

namespace Crc

/-- What is added to the register: the polynomial `x¹⁶ + x¹² + x⁵ + 1` without
its leading term, its lowest power in the highest bit. -/
def feedback : UInt16 := 0x8408

/-- The bit that leaves the register next. -/
def lowBit (register : UInt16) : Bool := register.toNat.testBit 0

/-- The register after one more bit. -/
def shift (register : UInt16) (bit : Bool) : UInt16 :=
  if lowBit register ≠ bit then (register >>> 1) ^^^ feedback else register >>> 1

/-- The register after more bits. -/
def shifts (register : UInt16) (bits : List Bool) : UInt16 := bits.foldl shift register

/-- The checksum as it is defined: a register that starts at `0x6363`, and
that nothing is done to after the last bit. -/
def serial (data : Bytes) : UInt16 := shifts 0x6363 data.bits

@[simp] theorem shifts_nil (register : UInt16) : shifts register [] = register := rfl

theorem shifts_cons (register : UInt16) (bit : Bool) (bits : List Bool) :
    shifts register (bit :: bits) = shifts (shift register bit) bits := rfl

theorem shifts_append (register : UInt16) (bits more : List Bool) :
    shifts register (bits ++ more) = shifts (shifts register bits) more := List.foldl_append

/-! ## §2. The register is linear. -/

theorem lowBit_xor (a b : UInt16) : lowBit (a ^^^ b) = (lowBit a ^^ lowBit b) := by
  unfold lowBit
  rw [UInt16.toNat_xor, Nat.testBit_xor]

/-- What is added to the register when it moves. -/
def fed (differs : Bool) : UInt16 := if differs then feedback else 0

theorem fed_xor (x y : Bool) : fed (x ^^ y) = fed x ^^^ fed y := by
  cases x <;> cases y <;> rfl

theorem shift_eq (register : UInt16) (bit : Bool) :
    shift register bit = (register >>> 1) ^^^ fed (lowBit register ^^ bit) := by
  unfold shift
  cases lowBit register <;> cases bit <;> simp [fed]

theorem shift_xor (a b : UInt16) (x y : Bool) :
    shift (a ^^^ b) (x ^^ y) = shift a x ^^^ shift b y := by
  have differs : ((lowBit a ^^ lowBit b) ^^ (x ^^ y)) = ((lowBit a ^^ x) ^^ (lowBit b ^^ y)) := by
    rw [Bool.xor_assoc, Bool.xor_assoc, Bool.xor_left_comm (lowBit b)]
  rw [shift_eq, shift_eq, shift_eq, lowBit_xor, differs, fed_xor, UInt16.shiftRight_xor]
  ac_rfl

/-- **The register is linear**: bits and states can be added before or
after. -/
theorem shifts_xor (bits more : List Bool) (length : bits.length = more.length) :
    ∀ a b : UInt16,
      shifts (a ^^^ b) (List.zipWith (· ^^ ·) bits more) = shifts a bits ^^^ shifts b more := by
  induction bits generalizing more with
  | nil =>
      intro a b
      obtain rfl : more = [] := List.length_eq_zero_iff.mp length.symm
      rfl
  | cons bit bits ih =>
      intro a b
      obtain _ | ⟨other, more⟩ := more
      · cases length
      · rw [List.zipWith_cons_cons, shifts_cons, shifts_cons, shifts_cons, shift_xor]
        exact ih more (Nat.succ.inj length) _ _

/-- A register that starts empty and one that is given no data add up. -/
theorem shifts_split (register : UInt16) (bits : List Bool) :
    shifts register bits =
      shifts register (List.replicate bits.length false) ^^^ shifts 0 bits := by
  have linear := shifts_xor (List.replicate bits.length false) bits List.length_replicate register 0
  rw [UInt16.xor_zero] at linear
  rw [← linear]
  congr 1
  -- bits that are not set change none of the others
  refine List.ext_getElem (by simp) fun i _ _ => ?_
  simp

/-! ## §3. Eight bits at once. -/

/-- Eight bits without data. -/
def idle : List Bool := List.replicate 8 false

/-- What a byte in the low half of the register leaves after eight bits: the
feedback of all of them. -/
def folded (byte : UInt8) : UInt16 :=
  let mixed := (byte ^^^ (byte <<< 4)).toUInt16
  (mixed <<< 8) ^^^ (mixed <<< 3) ^^^ (mixed >>> 4)

theorem step_eq (register : UInt16) (byte : UInt8) :
    step register byte = (register >>> 8) ^^^ folded (register.toUInt8 ^^^ byte) := by
  unfold step folded
  rw [UInt8.xor_comm]
  dsimp only
  ac_rfl

/-- What is true of each of 256 numbers is true of every byte. -/
theorem forall_byte {P : UInt8 → Prop} (h : ∀ n < 256, P (UInt8.ofNat n)) (byte : UInt8) :
    P byte := by
  have small := h byte.toNat byte.toNat_lt
  rwa [UInt8.ofNat_toNat] at small

/-- Eight bits of data may as well be added to the low half of the register
before. -/
theorem shifts_zero_bitsOfByte (byte : UInt8) :
    shifts 0 (Bytes.bitsOfByte byte) = shifts byte.toUInt16 idle := by
  revert byte
  refine forall_byte ?_
  decide +kernel

theorem shifts_low (byte : UInt8) : shifts byte.toUInt16 idle = folded byte := by
  revert byte
  refine forall_byte ?_
  decide +kernel

/-- The high half only moves down. -/
theorem shifts_high (byte : UInt8) : shifts (byte.toUInt16 <<< 8) idle = byte.toUInt16 := by
  revert byte
  refine forall_byte ?_
  decide +kernel

/-- The high half of a register, moved down. -/
theorem toUInt16_high (register : UInt16) :
    (register >>> 8).toUInt8.toUInt16 = register >>> 8 := by
  apply UInt16.toNat_inj.mp
  have bound := register.toNat_lt
  have moved : (register >>> 8).toNat = register.toNat / 256 := by
    simp [Nat.shiftRight_eq_div_pow]
  rw [UInt8.toNat_toUInt16, UInt16.toNat_toUInt8, moved]
  omega

/-- The two halves of a register. -/
theorem halves (register : UInt16) :
    register = ((register >>> 8).toUInt8.toUInt16 <<< 8) ^^^ register.toUInt8.toUInt16 := by
  rw [toUInt16_high]
  apply UInt16.toNat_inj.mp
  have value : ((register >>> 8 <<< 8) ^^^ register.toUInt8.toUInt16).toNat =
      (register.toNat >>> 8 <<< 8 % 2 ^ 16) ^^^ (register.toNat % 2 ^ 8) := by
    simp
  rw [value]
  refine Nat.eq_of_testBit_eq fun i => ?_
  rw [Nat.testBit_xor, Nat.testBit_mod_two_pow, Nat.testBit_mod_two_pow, Nat.testBit_shiftLeft,
    Nat.testBit_shiftRight]
  -- each bit stands in one of the halves, and past the sixteenth there is none
  rcases Nat.lt_or_ge i 8 with low | high
  · simp [low, Nat.not_le.mpr low]
  · rcases Nat.lt_or_ge i 16 with inside | outside
    · simp [high, inside, Nat.not_lt.mpr high]
    · have none : register.toNat.testBit i = false :=
        Nat.testBit_lt_two_pow (Nat.lt_of_lt_of_le register.toNat_lt
          (Nat.pow_le_pow_right (by decide) outside))
      simp [none, Nat.not_lt.mpr outside, Nat.not_lt.mpr high]

/-! ## §4. The checksum. -/

/-- **A byte is eight bits**, in every state of the register. -/
theorem step_eq_shifts (register : UInt16) (byte : UInt8) :
    step register byte = shifts register (Bytes.bitsOfByte byte) := by
  have linear := fun a b : UInt16 => shifts_xor idle idle rfl a b
  -- the sum of no data and no data is no data
  have still : List.zipWith (· ^^ ·) idle idle = idle := rfl
  rw [still] at linear
  calc step register byte
      = (register >>> 8) ^^^ folded (register.toUInt8 ^^^ byte) := step_eq register byte
    _ = (register >>> 8) ^^^ shifts (register.toUInt8.toUInt16 ^^^ byte.toUInt16) idle := by
        rw [← shifts_low, UInt8.toUInt16_xor]
    _ = shifts ((register >>> 8).toUInt8.toUInt16 <<< 8) idle ^^^
          shifts register.toUInt8.toUInt16 idle ^^^ shifts byte.toUInt16 idle := by
        rw [linear, shifts_high, toUInt16_high, UInt16.xor_assoc]
    _ = shifts register idle ^^^ shifts 0 (Bytes.bitsOfByte byte) := by
        rw [← linear, ← halves, shifts_zero_bitsOfByte]
    _ = shifts register (Bytes.bitsOfByte byte) := by
        rw [shifts_split register (Bytes.bitsOfByte byte), Bytes.length_bitsOfByte]
        rfl

theorem foldl_step (data : Bytes) :
    ∀ register : UInt16, data.foldl step register = shifts register data.bits := by
  induction data with
  | nil => intro register; rfl
  | cons byte data ih =>
      intro register
      rw [List.foldl_cons, ih, step_eq_shifts, Bytes.bits_cons, shifts_append]

/-- What passes the check is closed by the checksum of the bytes before. -/
theorem eq_append_of_check {frame : Bytes} (h : check frame = true) :
    frame = append (frame.take (frame.length - 2)) := by
  have closed := (Bool.and_eq_true_iff.mp h).2
  unfold append
  rw [beq_iff_eq.mp closed, List.take_append_drop]

/-- **The checksum is the register run bit by bit** over every byte string, and
exactly the closed frames pass the check. -/
theorem checksum_serial (data frame : Bytes) :
    checksum data = serial data ∧ (check frame = true ↔ ∃ payload, frame = append payload) := by
  constructor
  · exact foldl_step data preset
  · constructor
    · intro passes
      exact ⟨_, eq_append_of_check passes⟩
    · rintro ⟨payload, rfl⟩
      exact check_append payload

end Crc

end Ultralight
