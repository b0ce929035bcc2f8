/-
  Ultralight.Crc
  ──────────────
  **The checksum CRC_A that closes every frame on the air.**

  The register starts at `0x6363` and takes a byte at a time; there is no
  final inversion.  The step below does eight shifts of the register at
  once: folding a nibble onto the other replaces the feedback of the
  reflected polynomial `0x8408`.
-/
import Ultralight.Bytes

namespace Ultralight.Crc

/-- The register before the first byte. -/
def preset : UInt16 := 0x6363

/-- The register after one more byte. -/
def step (register : UInt16) (byte : UInt8) : UInt16 :=
  let mixed := byte ^^^ register.toUInt8
  let folded := (mixed ^^^ (mixed <<< 4)).toUInt16
  (register >>> 8) ^^^ (folded <<< 8) ^^^ (folded <<< 3) ^^^ (folded >>> 4)

/-- The checksum of a byte string. -/
def checksum (data : Bytes) : UInt16 := data.foldl step preset

/-- The two bytes of a checksum as sent, low byte first. -/
def tail (register : UInt16) : Bytes := [register.toUInt8, (register >>> 8).toUInt8]

/-- A frame closed by its checksum. -/
def append (frame : Bytes) : Bytes := frame ++ tail (checksum frame)

/-- Whether the last two bytes are the checksum of those before them. -/
def check (frame : Bytes) : Bool :=
  2 ≤ frame.length &&
    tail (checksum (frame.take (frame.length - 2))) == frame.drop (frame.length - 2)

@[simp] theorem length_append (frame : Bytes) : (append frame).length = frame.length + 2 := by
  simp [append, tail]

/-- A closed frame passes the check. -/
theorem check_append (frame : Bytes) : check (append frame) = true := by
  simp [check, append, tail]

/-- The closed frames of GET_VERSION and HLTA. -/
example : append [0x60] = [0x60, 0xf8, 0x32] ∧ append [0x50, 0x00] = [0x50, 0x00, 0x57, 0xcd] := by
  decide

end Ultralight.Crc
