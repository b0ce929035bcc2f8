/-
  Ultralight.Proofs.HexText
  ─────────────────────────
  **Which texts spell byte strings, and which byte strings they spell.**

  `Denotes` says which byte is the digit of which value, in either case, and
  `Spells` how pairs of digits follow each other.  Reading accepts exactly
  what spells, and fails with the first fault otherwise; so a text that is
  read is, blanks and case apart, the text that is written.
-/
import Ultralight.Credentials
import Ultralight.Proofs.TextBytes
import Ultralight.Uid

namespace Ultralight

namespace Hex

/-! ## §1. Digits. -/

/-- A byte of a text is the digit of a value, in either case. -/
inductive Denotes : UInt8 → Nat → Prop where
  | decimal {v : Nat} : v < 10 → Denotes (UInt8.ofNat (0x30 + v)) v
  | lower {v : Nat} : v < 6 → Denotes (UInt8.ofNat (0x61 + v)) (10 + v)
  | upper {v : Nat} : v < 6 → Denotes (UInt8.ofNat (0x41 + v)) (10 + v)

/-- Whether a byte of a text is a digit. -/
def IsDigit (byte : UInt8) : Prop := ∃ v, Denotes byte v

theorem Denotes.lt {byte : UInt8} {v : Nat} (h : Denotes byte v) : v < 16 := by
  cases h <;> omega

theorem Denotes.ascii {byte : UInt8} {v : Nat} (h : Denotes byte v) : byte.toNat < 0x80 := by
  have byteOf : ∀ n, n < 256 → (UInt8.ofNat n).toNat = n := fun n hn => UInt8.toNat_ofNat_of_lt' hn
  cases h <;> rw [byteOf _ (by omega)] <;> omega

/-- A byte in a stretch of so many digits, by its place there. -/
theorem exists_place {byte first last : UInt8} (count : Nat) (low : first ≤ byte)
    (high : byte ≤ last) (full : last.toNat < first.toNat + count) :
    ∃ v, v < count ∧ byte = UInt8.ofNat (first.toNat + v) := by
  have low := UInt8.le_iff_toNat_le.mp low
  have high := UInt8.le_iff_toNat_le.mp high
  refine ⟨byte.toNat - first.toNat, by omega, ?_⟩
  rw [show first.toNat + (byte.toNat - first.toNat) = byte.toNat by omega, UInt8.ofNat_toNat]

/-- A byte that is read as a value denotes it. -/
theorem denotes_of_digit? {byte value : UInt8} (h : digit? byte = some value) :
    ∃ v, Denotes byte v ∧ value = UInt8.ofNat v := by
  unfold digit? at h
  split at h
  · next range =>
    obtain ⟨v, small, rfl⟩ := exists_place 10 range.1 range.2 (by decide)
    refine ⟨v, .decimal small, (Option.some.inj h).symm.trans ?_⟩
    exact (by decide : ∀ v < 10, UInt8.ofNat (0x30 + v) - 0x30 = UInt8.ofNat v) v small
  · split at h
    · next range =>
      obtain ⟨v, small, rfl⟩ := exists_place 6 range.1 range.2 (by decide)
      refine ⟨10 + v, .lower small, (Option.some.inj h).symm.trans ?_⟩
      exact (by decide : ∀ v < 6, UInt8.ofNat (0x61 + v) - 0x57 = UInt8.ofNat (10 + v)) v small
    · split at h
      · next range =>
        obtain ⟨v, small, rfl⟩ := exists_place 6 range.1 range.2 (by decide)
        refine ⟨10 + v, .upper small, (Option.some.inj h).symm.trans ?_⟩
        exact (by decide : ∀ v < 6, UInt8.ofNat (0x41 + v) - 0x37 = UInt8.ofNat (10 + v)) v small
      · cases h

/-- A byte is read as the value that it denotes. -/
theorem digit?_of_denotes {byte : UInt8} {v : Nat} (h : Denotes byte v) :
    digit? byte = some (UInt8.ofNat v) := by
  cases h with
  | decimal small =>
      exact (by decide : ∀ v < 10, digit? (UInt8.ofNat (0x30 + v)) = some (UInt8.ofNat v)) _ small
  | lower small =>
      exact (by decide : ∀ v < 6, digit? (UInt8.ofNat (0x61 + v)) = some (UInt8.ofNat (10 + v)))
        _ small
  | upper small =>
      exact (by decide : ∀ v < 6, digit? (UInt8.ofNat (0x41 + v)) = some (UInt8.ofNat (10 + v)))
        _ small

/-- A pair is read as the byte that its digits spell. -/
theorem decodePair_of_denotes {high low : UInt8} {h l : Nat} (upper : Denotes high h)
    (lower : Denotes low l) : decodePair (high, low) = .ok (UInt8.ofNat (16 * h + l)) := by
  unfold decodePair
  simp only [digit?_of_denotes upper, digit?_of_denotes lower]
  exact congrArg Except.ok ((by decide +kernel : ∀ h < 16, ∀ l < 16,
    UInt8.ofNat h <<< 4 ||| UInt8.ofNat l = UInt8.ofNat (16 * h + l)) h upper.lt l lower.lt)

/-- Any other pair is a fault. -/
theorem decodePair_of_not_digit {high low : UInt8} (h : ¬ (IsDigit high ∧ IsDigit low)) :
    decodePair (high, low) = .error (.badPair high low) := by
  unfold decodePair
  split
  · next value value' upper lower =>
    obtain ⟨v, denotes, -⟩ := denotes_of_digit? upper
    obtain ⟨v', denotes', -⟩ := denotes_of_digit? lower
    exact absurd ⟨⟨v, denotes⟩, ⟨v', denotes'⟩⟩ h
  · rfl

/-! ## §2. Rows of digits. -/

/-- Digits spell bytes, two digits each, the high half first. -/
inductive Spells : Bytes → Bytes → Prop where
  | nil : Spells [] []
  | cons {high low : UInt8} {h l : Nat} {digits bytes : Bytes} :
      Denotes high h → Denotes low l → Spells digits bytes →
        Spells (high :: low :: digits) (UInt8.ofNat (16 * h + l) :: bytes)

/-- The first fault in a row of bytes of even length: the first pair that is
not two digits. -/
def FaultAt (digits : Bytes) (high low : UInt8) : Prop :=
  ∃ before rest bytes, digits = before ++ high :: low :: rest ∧ Spells before bytes ∧
    ¬ (IsDigit high ∧ IsDigit low)

/-- Digits of an even number are read, or have a first fault. -/
theorem decode_pairs (digits : Bytes) (even : digits.length % 2 = 0) :
    ∃ pairs, pairs? digits = some pairs ∧
      ((∃ bytes, Spells digits bytes ∧ pairs.mapM decodePair = .ok bytes) ∨
        ∃ high low, FaultAt digits high low ∧ pairs.mapM decodePair = .error (.badPair high low)) := by
  fun_induction pairs? digits with
  | case1 => exact ⟨[], rfl, .inl ⟨[], .nil, rfl⟩⟩
  | case2 => cases even
  | case3 high low rest ih =>
      obtain ⟨pairs, cut, outcome⟩ := ih (by simp only [List.length_cons] at even; omega)
      refine ⟨(high, low) :: pairs, by rw [cut]; rfl, ?_⟩
      rw [List.mapM_cons]
      by_cases good : IsDigit high ∧ IsDigit low
      · obtain ⟨⟨h, upper⟩, l, lower⟩ := good
        rw [decodePair_of_denotes upper lower]
        rcases outcome with ⟨bytes, spells, read⟩ | ⟨bad, bad', fault, read⟩
        · refine .inl ⟨_, .cons upper lower spells, ?_⟩
          rw [read]
          rfl
        · obtain ⟨before, after, bytes, rfl, spells, wrong⟩ := fault
          refine .inr ⟨bad, bad', ⟨high :: low :: before, after, _, rfl, .cons upper lower spells,
            wrong⟩, ?_⟩
          rw [read]
          rfl
      · refine .inr ⟨high, low, ⟨[], rest, [], rfl, .nil, good⟩, ?_⟩
        rw [decodePair_of_not_digit good]
        rfl

/-- No row of digits spells two byte strings. -/
theorem Spells.unique {digits bytes bytes' : Bytes} (h : Spells digits bytes)
    (h' : Spells digits bytes') : bytes = bytes' := by
  have value : ∀ {byte v v'}, Denotes byte v → Denotes byte v' → v = v' := by
    intro byte v v' denotes denotes'
    have same := (digit?_of_denotes denotes).symm.trans (digit?_of_denotes denotes')
    have small := denotes.lt
    have small' := denotes'.lt
    have codes := congrArg UInt8.toNat (Option.some.inj same)
    rwa [UInt8.toNat_ofNat_of_lt' (by show v < 256; omega),
      UInt8.toNat_ofNat_of_lt' (by show v' < 256; omega)] at codes
  induction h generalizing bytes' with
  | nil =>
      cases h'
      rfl
  | cons upper lower _ ih =>
      cases h' with
      | cons upper' lower' rest => rw [value upper upper', value lower lower', ih rest]

theorem Spells.isDigit {digits bytes : Bytes} (h : Spells digits bytes) :
    ∀ byte ∈ digits, IsDigit byte := by
  induction h with
  | nil => nofun
  | cons upper lower _ ih =>
      intro byte member
      rcases List.mem_cons.mp member with rfl | member
      · exact ⟨_, upper⟩
      · rcases List.mem_cons.mp member with rfl | member
        · exact ⟨_, lower⟩
        · exact ih byte member

theorem Spells.length_eq {digits bytes : Bytes} (h : Spells digits bytes) :
    digits.length = 2 * bytes.length := by
  induction h with
  | nil => rfl
  | cons _ _ _ ih =>
      simp only [List.length_cons, ih]
      omega

theorem FaultAt.not_spells {digits : Bytes} {high low : UInt8} (h : FaultAt digits high low) :
    ¬ ∀ byte ∈ digits, IsDigit byte := by
  obtain ⟨before, rest, bytes, rfl, -, wrong⟩ := h
  exact fun good => wrong ⟨good high (by simp), good low (by simp)⟩

/-! ## §3. Reading. -/

/-- The bytes of a text that are no blanks. -/
def unblanked (text : String) : Bytes := (textBytes text).filter (!isBlank ·)

/-- The fault that a text is refused for. -/
inductive Refused (text : String) : Fault → Prop where
  | odd : (unblanked text).length % 2 = 1 → Refused text (.oddLength text)
  | badPair {high low : UInt8} :
      (unblanked text).length % 2 = 0 → FaultAt (unblanked text) high low →
        Refused text (.badPair high low)

/-- A text is read, or refused for a fault. -/
theorem decode_cases (text : String) :
    (∃ bytes, Spells (unblanked text) bytes ∧ decode text = .ok bytes) ∨
      ∃ fault, Refused text fault ∧ decode text = .error fault := by
  have cut : decode text =
      (pairs? (unblanked text)).elim (.error (.oddLength text)) (·.mapM decodePair) := by
    unfold decode unblanked
    cases pairs? ((textBytes text).filter (!isBlank ·)) <;> rfl
  by_cases even : (unblanked text).length % 2 = 0
  · obtain ⟨pairs, some, outcome⟩ := decode_pairs (unblanked text) even
    rw [some] at cut
    rcases outcome with ⟨bytes, spells, read⟩ | ⟨high, low, fault, read⟩
    · exact .inl ⟨bytes, spells, cut.trans read⟩
    · exact .inr ⟨_, .badPair even fault, cut.trans read⟩
  · have none : pairs? (unblanked text) = none := by
      rw [← Option.not_isSome_iff_eq_none, pairs?_isSome_iff]
      exact even
    rw [none] at cut
    exact .inr ⟨_, .odd (by omega), cut⟩

/-- What is refused is not an even number of digits. -/
theorem Refused.not_digits {text : String} {fault : Fault} (h : Refused text fault) :
    ¬ ((unblanked text).length % 2 = 0 ∧ ∀ byte ∈ unblanked text, IsDigit byte) := by
  rintro ⟨even, digits⟩
  cases h with
  | odd odd => omega
  | badPair _ fault => exact fault.not_spells digits

/-- Reading yields what the text spells. -/
theorem decode_eq_ok_iff {text : String} {bytes : Bytes} :
    decode text = .ok bytes ↔ Spells (unblanked text) bytes := by
  constructor
  · intro h
    rcases decode_cases text with ⟨bytes', spells, read⟩ | ⟨fault, -, failed⟩
    · rw [h] at read
      cases read
      exact spells
    · rw [h] at failed
      cases failed
  · intro spells
    rcases decode_cases text with ⟨bytes', spells', read⟩ | ⟨fault, refused, -⟩
    · rw [read, spells.unique spells']
    · have even := spells.length_eq
      exact absurd ⟨by omega, spells.isDigit⟩ refused.not_digits

/-- Exactly an even number of digits is read. -/
theorem exists_decode_iff {text : String} :
    (∃ bytes, decode text = .ok bytes) ↔
      (unblanked text).length % 2 = 0 ∧ ∀ byte ∈ unblanked text, IsDigit byte := by
  constructor
  · rintro ⟨bytes, read⟩
    have spells := decode_eq_ok_iff.mp read
    have even := spells.length_eq
    exact ⟨by omega, spells.isDigit⟩
  · intro digits
    rcases decode_cases text with ⟨bytes, -, read⟩ | ⟨fault, refused, -⟩
    · exact ⟨bytes, read⟩
    · exact absurd digits refused.not_digits

theorem refused_of_decode {text : String} {fault : Fault} (h : decode text = .error fault) :
    Refused text fault := by
  rcases decode_cases text with ⟨bytes, -, read⟩ | ⟨fault', refused, failed⟩
  · rw [h] at read
    cases read
  · rw [h] at failed
    cases failed
    exact refused

/-! ## §4. Texts and their characters. -/

/-- Whether a character is a blank. -/
def isBlankChar (c : Char) : Bool :=
  c == ' ' || c == '\t' || c == '\n' || c == '\x0c' || c == '\r'

theorem isBlank_codeOf {c : Char} (ascii : IsAscii c) : isBlank (codeOf c) = isBlankChar c := by
  have told : ∀ d : Char, IsAscii d → (codeOf c == codeOf d) = (c == d) := by
    intro d wide
    rw [Bool.eq_iff_iff, beq_iff_eq, beq_iff_eq]
    exact ⟨codeOf_inj ascii wide, congrArg codeOf⟩
  unfold isBlankChar
  rw [← told ' ' (by decide), ← told '\t' (by decide), ← told '\n' (by decide),
    ← told '\x0c' (by decide), ← told '\r' (by decide)]
  rfl

/-- The characters of a text that are no blanks, in lower case. -/
def lowered (text : String) : List Char := (text.toList.filter (!isBlankChar ·)).map Char.toLower

/-- Of characters below 0x80, those that are no blanks. -/
theorem unblanked_of_ascii {text : String} (ascii : ∀ c ∈ text.toList, IsAscii c) :
    unblanked text = (text.toList.filter (!isBlankChar ·)).map codeOf := by
  unfold unblanked
  rw [textBytes_eq, flatMap_utf8EncodeChar_of_ascii ascii, List.filter_map]
  refine congrArg _ (List.filter_congr fun c member => ?_)
  show (!isBlank (codeOf c)) = _
  rw [isBlank_codeOf (ascii c member)]

theorem not_blank_of_le {byte : UInt8} (large : 0x80 ≤ byte.toNat) : isBlank byte = false := by
  have other : ∀ blank : UInt8, blank.toNat < 0x80 → (byte == blank) = false := by
    intro blank small
    rw [beq_eq_false_iff_ne]
    rintro rfl
    omega
  unfold isBlank
  rw [other 0x20 (by decide), other 0x09 (by decide), other 0x0a (by decide),
    other 0x0c (by decide), other 0x0d (by decide)]
  rfl

/-- A text with another character holds a byte that is no digit. -/
theorem not_digits_of_wide {text : String} {c : Char} (member : c ∈ text.toList)
    (wide : ¬ IsAscii c) : ¬ ∀ byte ∈ unblanked text, IsDigit byte := by
  intro digits
  obtain ⟨byte, first⟩ := List.exists_mem_of_ne_nil _ (String.utf8EncodeChar_ne_nil (c := c))
  have large := le_of_mem_utf8EncodeChar wide first
  have kept : byte ∈ unblanked text := by
    unfold unblanked
    rw [textBytes_eq, List.mem_filter, not_blank_of_le large]
    exact ⟨List.mem_flatMap.mpr ⟨c, member, first⟩, rfl⟩
  obtain ⟨v, denotes⟩ := digits byte kept
  have small := denotes.ascii
  omega

/-! ## §5. Writing. -/

/-- The digit that is written for a value denotes it. -/
theorem denotes_digit {v : Nat} (small : v < 16) : Denotes (codeOf (digit v)) v := by
  by_cases decimal : v < 10
  · rw [(by decide : ∀ v < 10, codeOf (digit v) = UInt8.ofNat (0x30 + v)) v decimal]
    exact .decimal decimal
  · obtain ⟨u, rfl⟩ : ∃ u, v = 10 + u := ⟨v - 10, by omega⟩
    rw [(by decide : ∀ u < 6, codeOf (digit (10 + u)) = UInt8.ofNat (0x61 + u)) u (by omega)]
    exact .lower (by omega)

theorem ascii_digit {v : Nat} (small : v < 16) : IsAscii (digit v) :=
  (by decide : ∀ v < 16, IsAscii (digit v)) v small

theorem not_blank_digit {v : Nat} (small : v < 16) : isBlankChar (digit v) = false :=
  (by decide : ∀ v < 16, isBlankChar (digit v) = false) v small

/-- A digit that denotes a value is, in lower case, the one that is written for
it. -/
theorem digit_of_denotes {c : Char} (ascii : IsAscii c) {v : Nat} (h : Denotes (codeOf c) v) :
    digit v = c.toLower := by
  generalize read : codeOf c = byte at h
  cases h with
  | decimal small =>
      rw [eq_ofNat_of_codeOf ascii (by omega) read]
      exact (by decide : ∀ v < 10, digit v = (Char.ofNat (0x30 + v)).toLower) _ small
  | lower small =>
      rw [eq_ofNat_of_codeOf ascii (by omega) read]
      exact (by decide : ∀ v < 6, digit (10 + v) = (Char.ofNat (0x61 + v)).toLower) _ small
  | upper small =>
      rw [eq_ofNat_of_codeOf ascii (by omega) read]
      exact (by decide : ∀ v < 6, digit (10 + v) = (Char.ofNat (0x41 + v)).toLower) _ small

theorem pair_eq {h l : Nat} (upper : h < 16) (lower : l < 16) :
    pair (UInt8.ofNat (16 * h + l)) = [digit h, digit l] := by
  unfold pair
  rw [UInt8.toNat_ofNat_of_lt' (by show 16 * h + l < 256; omega),
    show (16 * h + l) / 16 = h by omega, show (16 * h + l) % 16 = l by omega]

/-- Digits that spell bytes are, in lower case, the ones written for them. -/
theorem flatMap_pair_of_spells {digits bytes : Bytes} (h : Spells digits bytes) :
    ∀ cs : List Char, (∀ c ∈ cs, IsAscii c) → cs.map codeOf = digits →
      bytes.flatMap pair = cs.map Char.toLower := by
  induction h with
  | nil =>
      intro cs _ read
      rw [List.map_eq_nil_iff.mp read]
      rfl
  | cons upper lower _ ih =>
      intro cs ascii read
      obtain ⟨c, more, rfl, rfl, readMore⟩ := List.map_eq_cons_iff.mp read
      obtain ⟨d, rest, rfl, rfl, readRest⟩ := List.map_eq_cons_iff.mp readMore
      rw [List.flatMap_cons, pair_eq upper.lt lower.lt,
        ih rest (fun e he => ascii e (by simp [he])) readRest,
        digit_of_denotes (ascii c (by simp)) upper, digit_of_denotes (ascii d (by simp)) lower]
      rfl

/-- The digits written for bytes spell them. -/
theorem spells_pairs (bytes : Bytes) : Spells ((bytes.flatMap pair).map codeOf) bytes := by
  induction bytes with
  | nil => exact .nil
  | cons byte bytes ih =>
      have bound := byte.toNat_lt
      have own : UInt8.ofNat (16 * (byte.toNat / 16) + byte.toNat % 16) = byte := by
        rw [show 16 * (byte.toNat / 16) + byte.toNat % 16 = byte.toNat by omega, UInt8.ofNat_toNat]
      have cons := Spells.cons (denotes_digit (by omega : byte.toNat / 16 < 16))
        (denotes_digit (by omega : byte.toNat % 16 < 16)) ih
      rw [own] at cons
      exact cons

/-- Written digits are neither wide nor blanks. -/
theorem of_mem_pairs {bytes : Bytes} {c : Char} (member : c ∈ bytes.flatMap pair) :
    IsAscii c ∧ isBlankChar c = false := by
  obtain ⟨byte, -, member⟩ := List.mem_flatMap.mp member
  have bound := byte.toNat_lt
  have upper : byte.toNat / 16 < 16 := by omega
  have lower : byte.toNat % 16 < 16 := by omega
  simp only [pair, List.mem_cons, List.not_mem_nil, or_false] at member
  rcases member with rfl | rfl
  · exact ⟨ascii_digit upper, not_blank_digit upper⟩
  · exact ⟨ascii_digit lower, not_blank_digit lower⟩

theorem filter_pairs (bytes : Bytes) :
    (bytes.flatMap pair).filter (!isBlankChar ·) = bytes.flatMap pair := by
  rw [List.filter_eq_self]
  intro c member
  rw [(of_mem_pairs member).2]
  rfl

/-- Spaces between the pairs are all that spacing adds. -/
theorem spaced_pairs (bytes : Bytes) :
    (∀ c ∈ List.intercalate [' '] (bytes.map pair), IsAscii c) ∧
      (List.intercalate [' '] (bytes.map pair)).filter (!isBlankChar ·) = bytes.flatMap pair := by
  induction bytes with
  | nil => exact ⟨nofun, rfl⟩
  | cons byte bytes ih =>
      have first : ∀ c ∈ pair byte, IsAscii c := fun c member =>
        (of_mem_pairs (List.mem_flatMap.mpr ⟨byte, List.mem_singleton_self byte, member⟩)).1
      have kept : (pair byte).filter (!isBlankChar ·) = pair byte := by
        have alone := filter_pairs [byte]
        rwa [List.flatMap_singleton] at alone
      cases bytes with
      | nil =>
          have alone : List.intercalate [' '] ([byte].map pair) = pair byte := List.append_nil _
          rw [alone, List.flatMap_singleton]
          exact ⟨first, kept⟩
      | cons next bytes =>
          obtain ⟨ascii, filtered⟩ := ih
          have parts : List.intercalate [' '] ((byte :: next :: bytes).map pair) =
              pair byte ++ ' ' :: List.intercalate [' '] ((next :: bytes).map pair) := rfl
          rw [parts]
          refine ⟨fun c member => ?_, ?_⟩
          · rcases List.mem_append.mp member with member | member
            · exact first c member
            · rcases List.mem_cons.mp member with rfl | member
              · decide
              · exact ascii c member
          · rw [List.filter_append, kept, List.filter_cons_of_neg (by decide), filtered,
              ← List.flatMap_cons]

/-- A text whose characters, blanks apart, are the digits of bytes is read as
them. -/
theorem decode_of_pairs {cs : List Char} {bytes : Bytes} (ascii : ∀ c ∈ cs, IsAscii c)
    (pairs : cs.filter (!isBlankChar ·) = bytes.flatMap pair) :
    decode (String.ofList cs) = .ok bytes := by
  rw [decode_eq_ok_iff, unblanked_of_ascii (by rwa [String.toList_ofList]), String.toList_ofList,
    pairs]
  exact spells_pairs bytes

/-- Reading undoes writing, … -/
theorem decode_encode (bytes : Bytes) : decode (encode bytes) = .ok bytes := by
  exact decode_of_pairs (fun c member => (of_mem_pairs member).1) (filter_pairs bytes)

/-- … with or without spaces. -/
theorem decode_encodeSpaced (bytes : Bytes) : decode (encodeSpaced bytes) = .ok bytes := by
  obtain ⟨ascii, kept⟩ := spaced_pairs bytes
  exact decode_of_pairs ascii kept

/-- Writing what was read yields the text again, in lower case and without its
blanks. -/
theorem encode_of_decode {text : String} {bytes : Bytes} (h : decode text = .ok bytes) :
    encode bytes = String.ofList (lowered text) := by
  have spells := decode_eq_ok_iff.mp h
  have ascii : ∀ c ∈ text.toList, IsAscii c := by
    intro c member
    refine Decidable.byContradiction fun wide => ?_
    exact not_digits_of_wide member wide spells.isDigit
  rw [unblanked_of_ascii ascii] at spells
  have written := flatMap_pair_of_spells spells _
    (fun c member => ascii c (List.mem_filter.mp member).1) rfl
  unfold encode lowered
  rw [written]

end Hex

/-! ## §6. UIDs and passwords. -/

namespace Uid

theorem ofBytes_of_le {bytes : Bytes} (fits : bytes.length ≤ maxUidLength) :
    ofBytes bytes = .ok ⟨bytes, fits⟩ := dif_pos fits

theorem ofBytes_of_gt {bytes : Bytes} (long : maxUidLength < bytes.length) :
    ofBytes bytes = .error (.invalidLength maxUidLength bytes.length) :=
  dif_neg (Nat.not_le.mpr long)

/-- A text is read as a UID if the bytes that it spells are not too many. -/
theorem parse_of_decode {text : String} {bytes : Bytes} (h : Hex.decode text = .ok bytes) :
    parse text = ofBytes bytes := by
  unfold parse
  rw [h]

end Uid

namespace Password

theorem ofBytes?_eq_none {bytes : Bytes} (h : bytes.length ≠ 4) : ofBytes? bytes = none := by
  unfold ofBytes? Page.ofList?
  split
  · exact absurd rfl h
  · rfl

/-- A text is read as a password if it spells the four bytes of one. -/
theorem parse_of_decode {text : String} {bytes : Bytes} (h : Hex.decode text = .ok bytes) :
    parse text = (ofBytes? bytes).elim (.error (.invalidHex (.notAPassword text))) .ok := by
  unfold parse
  rw [h]
  dsimp only
  cases ofBytes? bytes <;> rfl

end Password

/-! ## §7. Main statement. -/

namespace Hex

/-- **Reading accepts exactly its grammar and undoes writing.**  A text is read
if its bytes, blanks apart, are an even number of digits; then it is read as
what they spell, and written again it is the text in lower case without its
blanks.  Any other text is refused for its first fault, so is every text with a
character from 0x80 on.  Reading undoes writing with and without spaces; and so
do the readings of UIDs and passwords, which accept no other number of
bytes. -/
theorem reading_undoes_writing :
    (∀ text : String,
      ((∃ bytes, decode text = .ok bytes) ↔
        (unblanked text).length % 2 = 0 ∧ ∀ byte ∈ unblanked text, IsDigit byte) ∧
      (∀ bytes, decode text = .ok bytes ↔ Spells (unblanked text) bytes) ∧
      (∀ bytes, decode text = .ok bytes → encode bytes = String.ofList (lowered text)) ∧
      (∀ fault, decode text = .error fault → Refused text fault ∧
        Uid.parse text = .error (.invalidHex fault) ∧
        Password.parse text = .error (.invalidHex fault)) ∧
      ((∃ c ∈ text.toList, ¬ IsAscii c) → ∃ fault, decode text = .error fault)) ∧
    (∀ bytes, decode (encode bytes) = .ok bytes ∧ decode (encodeSpaced bytes) = .ok bytes) ∧
    (∀ uid : Uid, Uid.parse uid.text = .ok uid) ∧
    (∀ password : Password, Password.parse password.text = .ok password) ∧
    ∀ text bytes, decode text = .ok bytes →
      (maxUidLength < bytes.length →
        Uid.parse text = .error (.invalidLength maxUidLength bytes.length)) ∧
      (bytes.length ≠ 4 → Password.parse text = .error (.invalidHex (.notAPassword text))) := by
  refine ⟨fun text => ⟨exists_decode_iff, fun bytes => decode_eq_ok_iff,
    fun bytes => encode_of_decode, fun fault failed => ⟨refused_of_decode failed, ?_, ?_⟩, ?_⟩,
    fun bytes => ⟨decode_encode bytes, decode_encodeSpaced bytes⟩, fun uid => ?_, fun password => ?_,
    fun text bytes read => ⟨fun long => ?_, fun other => ?_⟩⟩
  · unfold Uid.parse
    rw [failed]
  · unfold Password.parse
    rw [failed]
  · rintro ⟨c, member, wide⟩
    rcases decode_cases text with ⟨bytes, spells, -⟩ | ⟨fault, -, failed⟩
    · exact absurd spells.isDigit (not_digits_of_wide member wide)
    · exact ⟨fault, failed⟩
  · exact (Uid.parse_of_decode (decode_encode uid.bytes)).trans (Uid.ofBytes_of_le uid.length_le)
  · exact Password.parse_of_decode (decode_encode password.bytes)
  · rw [Uid.parse_of_decode read, Uid.ofBytes_of_gt long]
  · exact (Password.parse_of_decode read).trans
      (congrArg (fun found => Option.elim found _ _) (Password.ofBytes?_eq_none other))

/-- Blanks may part a pair and cases may be mixed; two letters with an accent
are four bytes that are no digits; eleven bytes are no UID, and two are no
password. -/
theorem reading_undoes_writing_parted :
    decode "D e\ta d" = .ok [0xde, 0xad] ∧
      encode [0xde, 0xad] = String.ofList (lowered "D e\ta d") ∧
      Password.parse "D e\ta d" = .error (.invalidHex (.notAPassword "D e\ta d")) ∧
      ('é' ∈ "éé".toList ∧ ¬ IsAscii 'é') ∧ (∃ fault, decode "éé" = .error fault) ∧
      decode "0011223344556677889900" =
        .ok [0x00, 0x11, 0x22, 0x33, 0x44, 0x55, 0x66, 0x77, 0x88, 0x99, 0x00] ∧
      Uid.parse "0011223344556677889900" = .error (.invalidLength maxUidLength 11) := by
  have parted : decode "D e\ta d" = .ok [0xde, 0xad] := rfl
  have long : decode "0011223344556677889900" =
      .ok [0x00, 0x11, 0x22, 0x33, 0x44, 0x55, 0x66, 0x77, 0x88, 0x99, 0x00] := rfl
  have accented : 'é' ∈ "éé".toList ∧ ¬ IsAscii 'é' := by decide +kernel
  refine ⟨parted, ?_, ?_, accented, ?_, long, ?_⟩
  · exact (reading_undoes_writing.1 "D e\ta d").2.2.1 _ parted
  · exact (reading_undoes_writing.2.2.2.2 "D e\ta d" _ parted).2 (by decide)
  · exact (reading_undoes_writing.1 "éé").2.2.2.2 ⟨'é', accented⟩
  · exact (reading_undoes_writing.2.2.2.2 "0011223344556677889900" _ long).1 (by decide)

end Hex

end Ultralight
