/-
  Ultralight.Variant
  ──────────────────
  **The members of the Ultralight family and their fixed memory layouts.**

  A variant is told from the storage byte of the answer to GET_VERSION; a tag
  without that answer is a plain Ultralight.  Each variant fixes the
  number of pages, the page of the dynamic lock bytes and the pages that hold
  PWD and PACK.

    • `Variant.pages_le`        — no variant has more than 231 pages,
    • `Variant.secrets_at_end`  — PWD and PACK close the memory.
-/
import Ultralight.Error
import Ultralight.Page

namespace Ultralight

/-- Pages of the largest tag. -/
def maxPages : Nat := 231

/-- Bytes of the largest tag's memory. -/
def maxDumpSize : Nat := 924

/-- Pages of a plain Ultralight. -/
def ultralightPages : Nat := 16

/-- Bytes of a full answer to GET_VERSION. -/
def versionLength : Nat := 8

/-- Where the storage byte stands in the answer to GET_VERSION. -/
def versionStorageIndex : Nat := 6

/-- The page that holds the static lock bytes. -/
def lockPage : Nat := 2

/-- The page of one-time-programmable or capability bytes. -/
def otpPage : Nat := 3

/-- The first page that is not a UID page. -/
def firstDataPage : Nat := 2

/-! ## §1. Variants. -/

/-- A supported kind of tag. -/
inductive Variant where
  /-- The first of the family; it does not answer GET_VERSION. -/
  | ultralight
  /-- EV1 with 48 bytes of user memory. -/
  | ev1Ul11
  /-- EV1 with 128 bytes of user memory. -/
  | ev1Ul21
  /-- NTAG with 144 bytes of user memory. -/
  | ntag213
  /-- NTAG with 504 bytes of user memory. -/
  | ntag215
  /-- NTAG with 888 bytes of user memory. -/
  | ntag216
  deriving DecidableEq, Repr

/-- Where a variant stores PWD and PACK, each from the first byte of its page
on. -/
structure SecretLayout where
  /-- The page that is PWD. -/
  pwdPage : Nat
  /-- The page that PACK opens. -/
  packPage : Nat
  deriving DecidableEq, Repr

namespace SecretLayout

/-- Offset of PWD in the memory. -/
def pwdByte (layout : SecretLayout) : Nat := layout.pwdPage * pageSize

/-- Offset of PACK in the memory. -/
def packByte (layout : SecretLayout) : Nat := layout.packPage * pageSize

end SecretLayout

namespace Variant

/-- Every variant, smallest first. -/
def all : List Variant := [ultralight, ev1Ul11, ev1Ul21, ntag213, ntag215, ntag216]

/-- The name a variant is shown with. -/
def displayName : Variant → String
  | ultralight => "MIFARE Ultralight"
  | ev1Ul11 => "MF0UL11"
  | ev1Ul21 => "MF0UL21"
  | ntag213 => "NTAG213"
  | ntag215 => "NTAG215"
  | ntag216 => "NTAG216"

/-- Number of pages. -/
def pages : Variant → Nat
  | ultralight => ultralightPages
  | ev1Ul11 => 20
  | ev1Ul21 => 41
  | ntag213 => 45
  | ntag215 => 135
  | ntag216 => maxPages

/-- Bytes of user memory, as in the data sheets. -/
def userBytes : Variant → Nat
  | ultralight => 48
  | ev1Ul11 => 48
  | ev1Ul21 => 128
  | ntag213 => 144
  | ntag215 => 504
  | ntag216 => 888

/-- The storage byte that a variant answers GET_VERSION with. -/
def storageByte : Variant → Option UInt8
  | ultralight => none
  | ev1Ul11 => some 0x0b
  | ev1Ul21 => some 0x0e
  | ntag213 => some 0x0f
  | ntag215 => some 0x11
  | ntag216 => some 0x13

/-- The variant of a storage byte; the smaller EV1 has two. -/
def ofStorageByte? (byte : UInt8) : Option Variant :=
  if byte = 0x0b ∨ byte = 0x00 then some ev1Ul11
  else if byte = 0x0e then some ev1Ul21
  else if byte = 0x0f then some ntag213
  else if byte = 0x11 then some ntag215
  else if byte = 0x13 then some ntag216
  else none

/-- The page of the dynamic lock bytes. -/
def dynamicLockPage : Variant → Option Nat
  | ultralight | ev1Ul11 => none
  | ev1Ul21 => some 0x24
  | ntag213 => some 0x28
  | ntag215 => some 0x82
  | ntag216 => some 0xe2

/-- Where PWD and PACK are, for the variants that have them. -/
def secretLayout : Variant → Option SecretLayout
  | ultralight => none
  | ev1Ul11 => some ⟨0x12, 0x13⟩
  | ev1Ul21 => some ⟨0x27, 0x28⟩
  | ntag213 => some ⟨0x2b, 0x2c⟩
  | ntag215 => some ⟨0x85, 0x86⟩
  | ntag216 => some ⟨0xe5, 0xe6⟩

/-- Whether a variant is one of the two EV1 tags. -/
def isEv1 : Variant → Bool
  | ev1Ul11 | ev1Ul21 => true
  | _ => false

/-- Whether a variant is one of the NTAG tags. -/
def isNtag : Variant → Bool
  | ntag213 | ntag215 | ntag216 => true
  | _ => false

/-- The variant that an answer to GET_VERSION tells, by its storage byte
alone.  No answer, or one too short to hold that byte, is a plain
Ultralight. -/
def classify (answer : Option Bytes) : Except Error Variant :=
  match answer.bind (·[versionStorageIndex]?) with
  | none => .ok ultralight
  | some byte =>
      match ofStorageByte? byte with
      | some variant => .ok variant
      | none => .error (.unknownVersion byte)

/-! ## §2. Facts of the table. -/

/-- No variant is larger than the largest. -/
theorem pages_le (variant : Variant) : variant.pages ≤ maxPages := by
  cases variant <;> decide

/-- Every variant has the UID, lock and OTP pages and more. -/
theorem le_pages (variant : Variant) : 16 ≤ variant.pages := by
  cases variant <;> decide

/-- PWD and PACK are the last two pages. -/
theorem secrets_at_end {variant : Variant} {layout : SecretLayout}
    (h : variant.secretLayout = some layout) :
    layout.pwdPage + 2 = variant.pages ∧ layout.packPage + 1 = variant.pages := by
  cases variant <;> simp [secretLayout] at h <;> subst h <;> decide

end Variant

end Ultralight
