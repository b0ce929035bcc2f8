/-
  Ultralight.Proofs.TextBytes
  ───────────────────────────
  **The bytes of a text, character by character.**

  In UTF-8 a character below 0x80 is one byte, its own code, and any other is
  made of bytes from 0x80 on.  So whatever looks for characters below 0x80
  may look at the bytes of a text instead.

    • `textBytes_eq` — the bytes of a text are those of its characters,
    • `flatMap_utf8EncodeChar_of_ascii` — of characters below 0x80, their codes,
    • `head?_flatMap_utf8EncodeChar` — which character below 0x80 comes first.
-/
import Ultralight.Hex

namespace Ultralight.Hex

/-- The byte that a character below 0x80 is. -/
def codeOf (c : Char) : UInt8 := UInt8.ofNat c.toNat

/-- Characters that are one byte. -/
def IsAscii (c : Char) : Prop := c.toNat < 0x80

instance (c : Char) : Decidable (IsAscii c) := inferInstanceAs (Decidable (c.toNat < 0x80))

theorem toNat_codeOf {c : Char} (ascii : IsAscii c) : (codeOf c).toNat = c.toNat := by
  unfold IsAscii at ascii
  exact UInt8.toNat_ofNat_of_lt' (by show c.toNat < 256; omega)

/-- Characters below 0x80 are told by their bytes. -/
theorem codeOf_inj {c d : Char} (hc : IsAscii c) (hd : IsAscii d) (h : codeOf c = codeOf d) :
    c = d := by
  have codes := congrArg UInt8.toNat h
  rw [toNat_codeOf hc, toNat_codeOf hd] at codes
  exact Char.ext (UInt32.toNat_inj.mp codes)

theorem eq_ofNat_of_codeOf {c : Char} (ascii : IsAscii c) {n : Nat} (small : n < 0x80)
    (h : codeOf c = UInt8.ofNat n) : c = Char.ofNat n := by
  have code := congrArg UInt8.toNat h
  rw [toNat_codeOf ascii, UInt8.toNat_ofNat_of_lt' (by show n < 256; omega)] at code
  rw [← code, Char.ofNat_toNat]

theorem utf8EncodeChar_of_ascii {c : Char} (ascii : IsAscii c) :
    String.utf8EncodeChar c = [codeOf c] := by
  unfold IsAscii at ascii
  unfold String.utf8EncodeChar
  exact if_pos (by show c.toNat ≤ 0x7f; omega)

/-- No byte of any other character is below 0x80. -/
theorem le_of_mem_utf8EncodeChar {c : Char} (wide : ¬ IsAscii c) {byte : UInt8}
    (h : byte ∈ String.utf8EncodeChar c) : 0x80 ≤ byte.toNat := by
  have large : ¬ c.val.toNat ≤ 0x7f := by
    unfold IsAscii Char.toNat at wide
    omega
  unfold String.utf8EncodeChar at h
  simp only [large, if_false] at h
  have byteOf : ∀ n, n < 256 → (UInt8.ofNat n).toNat = n := fun n hn => UInt8.toNat_ofNat_of_lt' hn
  split at h
  · simp only [List.mem_cons, List.not_mem_nil, or_false] at h
    rcases h with rfl | rfl <;> rw [byteOf _ (by omega)] <;> omega
  · split at h
    · simp only [List.mem_cons, List.not_mem_nil, or_false] at h
      rcases h with rfl | rfl | rfl <;> rw [byteOf _ (by omega)] <;> omega
    · simp only [List.mem_cons, List.not_mem_nil, or_false] at h
      rcases h with rfl | rfl | rfl | rfl <;> rw [byteOf _ (by omega)] <;> omega

/-- Such a character begins with a byte from 0x80 on. -/
theorem exists_utf8EncodeChar_eq_cons {c : Char} (wide : ¬ IsAscii c) :
    ∃ byte more, String.utf8EncodeChar c = byte :: more ∧ 0x80 ≤ byte.toNat := by
  obtain ⟨byte, more, bytes⟩ := List.exists_cons_of_ne_nil (String.utf8EncodeChar_ne_nil (c := c))
  exact ⟨byte, more, bytes, le_of_mem_utf8EncodeChar wide (bytes ▸ List.mem_cons_self)⟩

/-- The bytes of a text are those of its characters, in order. -/
theorem textBytes_eq (text : String) :
    textBytes text = text.toList.flatMap String.utf8EncodeChar := by
  unfold textBytes
  rw [String.toUTF8_eq_toByteArray, ← String.utf8Encode_toList]
  simp [List.utf8Encode]

/-- Characters below 0x80 are as many bytes. -/
theorem flatMap_utf8EncodeChar_of_ascii {cs : List Char} (ascii : ∀ c ∈ cs, IsAscii c) :
    cs.flatMap String.utf8EncodeChar = cs.map codeOf := by
  induction cs with
  | nil => rfl
  | cons c cs ih =>
      rw [List.flatMap_cons, utf8EncodeChar_of_ascii (ascii c (by simp)),
        ih fun d hd => ascii d (by simp [hd])]
      rfl

/-- A text begins with a character below 0x80 exactly if its bytes begin with
the code of it. -/
theorem head?_flatMap_utf8EncodeChar (cs : List Char) {d : Char} (ascii : IsAscii d) :
    (cs.flatMap String.utf8EncodeChar).head? = some (codeOf d) ↔ cs.head? = some d := by
  cases cs with
  | nil => exact ⟨nofun, nofun⟩
  | cons c rest =>
      rw [List.flatMap_cons, List.head?_cons, Option.some_inj]
      by_cases narrow : IsAscii c
      · rw [utf8EncodeChar_of_ascii narrow, List.singleton_append, List.head?_cons, Option.some_inj]
        exact ⟨codeOf_inj narrow ascii, congrArg codeOf⟩
      · constructor
        · intro first
          obtain ⟨byte, more, bytes, large⟩ := exists_utf8EncodeChar_eq_cons narrow
          rw [bytes, List.cons_append, List.head?_cons, Option.some_inj] at first
          rw [first, toNat_codeOf ascii] at large
          unfold IsAscii at ascii
          omega
        · rintro rfl
          exact absurd ascii narrow

end Ultralight.Hex
