/-
  Ultralight.Proofs.ErrorDetection
  ────────────────────────────────
  **Which errors on the air the checksum notices.**

  The register that made the checksum of a frame is empty once it has taken
  the checksum too (`Crc.checksum_append`).  As it is linear, an error leaves
  in it what the error alone would leave in a register that starts empty
  (`Crc.shifts_of_check_corrupt`), and goes unnoticed only if that is nothing.

  Two kinds of errors always leave something:

    • a burst of at most sixteen bits — the first wrong bit sets the highest
      bit of the register, which each further bit moves down by one at most,
      and a register that is not empty is never emptied by correct bits
      (`Crc.shifts_burst_ne_zero`),
    • an odd number of wrong bits — the feedback has an odd number of bits, so
      the register keeps the parity of what it has taken
      (`Crc.parityOf_shifts`).

  `Crc.check_corrupt_eq_false` puts the two together.
-/
import Mathlib.Algebra.Group.Nat.Defs
import Ultralight.Proofs.ShiftRegister

namespace Ultralight

/-! ## §1. Errors. -/

namespace Bytes

/-- A frame with the bits flipped that are set in an error of its length. -/
def corrupt (frame error : Bytes) : Bytes := List.zipWith (· ^^^ ·) frame error

/-- The bits that are set all stand among so many in a row. -/
def Burst (width : Nat) (bits : List Bool) : Prop :=
  ∃ start, ∀ i, bits[i]? = some true → start ≤ i ∧ i < start + width

theorem bitsOfByte_xor (a b : UInt8) :
    bitsOfByte (a ^^^ b) = List.zipWith (· ^^ ·) (bitsOfByte a) (bitsOfByte b) := by
  unfold bitsOfByte
  rw [List.zipWith_map, List.zipWith_self]
  refine List.map_congr_left fun i _ => ?_
  rw [UInt8.toNat_xor, Nat.testBit_xor]

/-- An error flips the bits that it has on the air. -/
theorem bits_corrupt {frame : Bytes} :
    ∀ {error : Bytes}, error.length = frame.length →
      (corrupt frame error).bits = List.zipWith (· ^^ ·) frame.bits error.bits := by
  induction frame with
  | nil => intro error _; rfl
  | cons byte frame ih =>
      intro error length
      obtain _ | ⟨wrong, error⟩ := error
      · cases length
      · have rest := ih (Nat.succ.inj length)
        show bits ((byte ^^^ wrong) :: corrupt frame error) = _
        rw [bits_cons, bits_cons, bits_cons, rest, bitsOfByte_xor,
          List.zipWith_append (by simp)]

/-- An error that is not zero has a bit that is set. -/
theorem exists_bit {error : Bytes} (nonzero : ∃ byte ∈ error, byte ≠ 0) : true ∈ error.bits := by
  obtain ⟨byte, listed, wrong⟩ := nonzero
  have value : byte.toNat ≠ 0 := fun none => wrong (UInt8.toNat_inj.mp none)
  obtain ⟨i, set⟩ := Nat.exists_testBit_of_ne_zero value
  refine List.mem_flatMap.mpr ⟨byte, listed, List.mem_map.mpr ⟨i, List.mem_range.mpr ?_, set⟩⟩
  apply Nat.lt_of_not_le
  intro high
  have bound : byte.toNat < 2 ^ i :=
    Nat.lt_of_lt_of_le byte.toNat_lt (Nat.pow_le_pow_right (by decide) high)
  rw [Nat.testBit_lt_two_pow bound] at set
  cases set

end Bytes

namespace Crc

open Bytes (corrupt Burst)

/-! ## §2. What a closed frame leaves. -/

/-- The low half of the register as the next byte adds nothing to it. -/
theorem step_own (register : UInt16) : step register register.toUInt8 = register >>> 8 := by
  rw [step_eq, UInt8.xor_self, show folded 0 = 0 from rfl, UInt16.xor_zero]

theorem shiftRight_whole (register : UInt16) : register >>> 8 >>> 8 = 0 := by
  apply UInt16.toNat_inj.mp
  have value : (register >>> 8 >>> 8).toNat = register.toNat / 256 / 256 := by
    simp [Nat.shiftRight_eq_div_pow]
  have bound := register.toNat_lt
  rw [value, UInt16.toNat_zero]
  omega

/-- **A closed frame leaves the register empty.** -/
theorem checksum_append (data : Bytes) : checksum (append data) = 0 := by
  have taken : ∀ register : UInt16, (tail register).foldl step register = 0 := by
    intro register
    show step (step register register.toUInt8) (register >>> 8).toUInt8 = 0
    rw [step_own, step_own, shiftRight_whole]
  show (data ++ tail (checksum data)).foldl step preset = 0
  rw [List.foldl_append]
  exact taken (checksum data)

/-- An error that passes the check leaves nothing in a register that starts
empty. -/
theorem shifts_of_check_corrupt {data error : Bytes}
    (length : error.length = (append data).length)
    (passes : check (corrupt (append data) error) = true) : shifts 0 error.bits = 0 := by
  have same : (append data).bits.length = error.bits.length := by
    rw [Bytes.length_bits, Bytes.length_bits, length]
  have closed : checksum (corrupt (append data) error) = 0 := by
    rw [eq_append_of_check passes, checksum_append]
  -- the frame was sent with a checksum that empties the register
  have sent : shifts preset (append data).bits = 0 := by
    rw [← foldl_step]
    exact checksum_append data
  calc shifts 0 error.bits
      = shifts preset (append data).bits ^^^ shifts 0 error.bits := by
        rw [sent, UInt16.zero_xor]
    _ = shifts (preset ^^^ 0) (List.zipWith (· ^^ ·) (append data).bits error.bits) :=
        (shifts_xor _ _ same preset 0).symm
    _ = shifts preset (corrupt (append data) error).bits := by
        rw [UInt16.xor_zero, Bytes.bits_corrupt length]
    _ = 0 := by
        rw [← foldl_step]
        exact closed

/-! ## §3. Bursts. -/

/-- Feedback sets the highest bit. -/
theorem le_shift_of_fed {register : UInt16} {bit : Bool} (differs : lowBit register ≠ bit) :
    2 ^ 15 ≤ (shift register bit).toNat := by
  apply Nat.ge_two_pow_of_testBit
  have empty : (register >>> 1).toNat.testBit 15 = false := by
    apply Nat.testBit_lt_two_pow
    have value : (register >>> 1).toNat = register.toNat / 2 := by
      simp [Nat.shiftRight_eq_div_pow]
    have bound := register.toNat_lt
    rw [value]
    omega
  unfold shift
  rw [if_pos differs, UInt16.toNat_xor, Nat.testBit_xor, empty]
  decide

/-- The highest bit of the register moves down by one, if it does not become
the highest again.  It stays in the register if there is no wrong bit when it
is the lowest. -/
theorem le_shift {register : UInt16} {bit : Bool} {height : Nat}
    (high : 2 ^ height ≤ register.toNat) (lowest : bit = true → 0 < height) :
    2 ^ (height - 1) ≤ (shift register bit).toNat := by
  have bound := register.toNat_lt
  by_cases differs : lowBit register ≠ bit
  · have small : height < 16 :=
      (Nat.pow_lt_pow_iff_right (by decide)).mp (Nat.lt_of_le_of_lt high bound)
    exact Nat.le_trans (Nat.pow_le_pow_right (by decide) (by omega)) (le_shift_of_fed differs)
  · have moved : (shift register bit).toNat = register.toNat / 2 := by
      unfold shift
      rw [if_neg differs]
      simp [Nat.shiftRight_eq_div_pow]
    rw [moved]
    cases height with
    | zero =>
        -- the bit that leaves is not set, so another one is
        have even : register.toNat % 2 = 0 := by
          cases bit with
          | true => cases lowest rfl
          | false =>
              have low : lowBit register = false := Decidable.not_not.mp differs
              simpa [lowBit] using low
        omega
    | succ height =>
        rw [Nat.pow_succ] at high
        rw [Nat.add_sub_cancel]
        omega

/-- As long as all wrong bits come before the highest bit has reached the end,
the register is not emptied. -/
theorem shifts_ne_zero (bits : List Bool) :
    ∀ (height : Nat) (register : UInt16), 2 ^ height ≤ register.toNat →
      (∀ i, bits[i]? = some true → i < height) → shifts register bits ≠ 0 := by
  induction bits with
  | nil =>
      intro height register high _ empty
      rw [shifts_nil] at empty
      rw [empty] at high
      exact Nat.not_lt.mpr high (Nat.two_pow_pos height)
  | cons bit bits ih =>
      intro height register high early
      -- the bit that is certainly set and the last wrong one come down together
      rw [shifts_cons]
      refine ih (height - 1) _ (le_shift high fun set => early 0 (by rw [set]; rfl)) fun i set => ?_
      have next := early (i + 1) set
      omega

/-- **A burst of at most sixteen bits leaves something.** -/
theorem shifts_burst_ne_zero (bits : List Bool) (burst : Burst 16 bits) (some : true ∈ bits) :
    shifts 0 bits ≠ 0 := by
  induction bits with
  | nil => cases some
  | cons bit bits ih =>
      obtain ⟨start, within⟩ := burst
      rw [shifts_cons]
      cases bit with
      | false =>
          -- a correct bit before the burst
          refine ih ⟨start - 1, fun i set => ?_⟩ (by simpa using some)
          have next := within (i + 1) set
          omega
      | true =>
          -- the burst begins here, so fifteen bits are left of it
          have first := (within 0 rfl).1
          refine shifts_ne_zero bits 15 _ (by decide) fun i set => ?_
          have next := within (i + 1) set
          omega

/-! ## §4. Parity. -/

/-- Whether an odd number of bits are set. -/
def parity (bits : List Bool) : Bool := bits.foldr (· ^^ ·) false

/-- Whether an odd number of bits of the register are set. -/
def parityOf (register : UInt16) : Bool := parity ((List.range 16).map register.toNat.testBit)

theorem parity_append (bits more : List Bool) :
    parity (bits ++ more) = (parity bits ^^ parity more) := by
  induction bits with
  | nil => exact (Bool.false_xor _).symm
  | cons bit bits ih =>
      show (bit ^^ parity (bits ++ more)) = ((bit ^^ parity bits) ^^ parity more)
      rw [ih, Bool.xor_assoc]

theorem parity_eq_decide (bits : List Bool) : parity bits = decide (bits.count true % 2 = 1) := by
  induction bits with
  | nil => rfl
  | cons bit bits ih =>
      show (bit ^^ parity bits) = _
      rw [ih]
      cases bit with
      | false => simp
      | true =>
          rw [List.count_cons_self]
          rcases Nat.mod_two_eq_zero_or_one (bits.count true) with even | odd
          · simp [even, Nat.add_mod]
          · simp [odd, Nat.add_mod]

theorem parityOf_xor (a b : UInt16) : parityOf (a ^^^ b) = (parityOf a ^^ parityOf b) := by
  have sums : ∀ places : List Nat, parity (places.map (a ^^^ b).toNat.testBit) =
      (parity (places.map a.toNat.testBit) ^^ parity (places.map b.toNat.testBit)) := by
    intro places
    induction places with
    | nil => rfl
    | cons place places ih =>
        show ((a ^^^ b).toNat.testBit place ^^ parity _) =
          ((a.toNat.testBit place ^^ parity _) ^^ (b.toNat.testBit place ^^ parity _))
        rw [ih, UInt16.toNat_xor, Nat.testBit_xor, Bool.xor_assoc, Bool.xor_assoc,
          Bool.xor_left_comm (b.toNat.testBit place)]
  exact sums _

/-- Moving the register right loses its lowest bit. -/
theorem parityOf_shiftRight (register : UInt16) :
    parityOf (register >>> 1) = (parityOf register ^^ lowBit register) := by
  have moved : ∀ i, (register >>> 1).toNat.testBit i = register.toNat.testBit (i + 1) := by
    intro i
    have value : (register >>> 1).toNat = register.toNat >>> 1 := by simp
    rw [value, Nat.testBit_shiftRight, Nat.add_comm]
  have last : register.toNat.testBit 16 = false := Nat.testBit_lt_two_pow register.toNat_lt
  -- the bits that stay
  let upper := (List.range 15).map fun i => register.toNat.testBit (i + 1)
  have before : parityOf register = (lowBit register ^^ parity upper) := by
    unfold parityOf
    rw [List.range_succ_eq_map, List.map_cons, List.map_map]
    rfl
  have after : parityOf (register >>> 1) = parity upper := by
    unfold parityOf
    rw [List.range_succ, List.map_append, parity_append, List.map_singleton, moved 15, last,
      List.map_congr_left fun i _ => moved i]
    exact Bool.xor_false _
  rw [after, before, Bool.xor_comm (lowBit register), Bool.xor_assoc, Bool.xor_self,
    Bool.xor_false]

theorem parityOf_fed (differs : Bool) : parityOf (fed differs) = differs := by
  cases differs <;> decide

theorem parityOf_shift (register : UInt16) (bit : Bool) :
    parityOf (shift register bit) = (parityOf register ^^ bit) := by
  rw [shift_eq, parityOf_xor, parityOf_shiftRight, parityOf_fed, Bool.xor_assoc,
    ← Bool.xor_assoc (lowBit register), Bool.xor_self, Bool.false_xor]

/-- **The register keeps the parity of what it has taken.** -/
theorem parityOf_shifts (bits : List Bool) :
    ∀ register : UInt16, parityOf (shifts register bits) = (parityOf register ^^ parity bits) := by
  induction bits with
  | nil => intro register; exact (Bool.xor_false _).symm
  | cons bit bits ih =>
      intro register
      show _ = (parityOf register ^^ (bit ^^ parity bits))
      rw [shifts_cons, ih, parityOf_shift, Bool.xor_assoc]

theorem shifts_odd_ne_zero {bits : List Bool} (odd : bits.count true % 2 = 1) :
    shifts 0 bits ≠ 0 := by
  intro empty
  have kept := parityOf_shifts bits 0
  rw [empty, parity_eq_decide, decide_eq_true odd] at kept
  cases kept

/-! ## §5. Both. -/

/-- **An error that is a burst of at most sixteen bits, or of an odd number of
bits, is noticed**, wherever in the frame it is: the bits count in the order
in which they are sent, those of the checksum included. -/
theorem check_corrupt_eq_false {data error : Bytes}
    (length : error.length = (append data).length) (nonzero : ∃ byte ∈ error, byte ≠ 0)
    (kind : Burst 16 error.bits ∨ error.bits.count true % 2 = 1) :
    check (corrupt (append data) error) = false := by
  cases passes : check (corrupt (append data) error) with
  | false => rfl
  | true =>
      have unnoticed := shifts_of_check_corrupt length passes
      rcases kind with burst | odd
      · exact absurd unnoticed (shifts_burst_ne_zero _ burst (Bytes.exists_bit nonzero))
      · exact absurd unnoticed (shifts_odd_ne_zero odd)

/-- A burst that begins with the last bit of GET_VERSION and takes the first
fifteen of its checksum; an even number of bits, so parity does not tell. -/
theorem check_corrupt_eq_false_straddling :
    let error : Bytes := [0x80, 0xff, 0x7f]
    error.length = (append [0x60]).length ∧ (∃ byte ∈ error, byte ≠ 0) ∧ Burst 16 error.bits ∧
      error.bits.count true % 2 = 0 ∧ check (corrupt (append [0x60]) error) = false := by
  intro error
  have nonzero : ∃ byte ∈ error, byte ≠ 0 := ⟨0x80, List.mem_cons_self, by decide⟩
  have burst : Burst 16 error.bits := by
    have within : ∀ i < 24, error.bits[i]? = some true → 7 ≤ i ∧ i < 7 + 16 := by decide
    exact ⟨7, fun i set => within i (List.getElem?_eq_some_iff.mp set).1 set⟩
  exact ⟨rfl, nonzero, burst, by decide, check_corrupt_eq_false rfl nonzero (.inl burst)⟩

end Crc

end Ultralight
