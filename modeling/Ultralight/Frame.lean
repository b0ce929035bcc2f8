/-
  Ultralight.Frame
  ────────────────
  **The commands a tag understands, as bytes before the checksum.**
-/
import Ultralight.Credentials

namespace Ultralight.Frame

/-! ## §1. Command codes. -/

/-- READ of four pages. -/
def readCode : UInt8 := 0x30

/-- COMPATIBILITY_WRITE of one page. -/
def writeCode : UInt8 := 0xa0

/-- GET_VERSION. -/
def versionCode : UInt8 := 0x60

/-- PWD_AUTH. -/
def authCode : UInt8 := 0x1b

/-- HLTA. -/
def haltCode : UInt8 := 0x50

/-- The first frame of the back door of clones. -/
def unlockCode1 : UInt8 := 0x40

/-- How many bits of the first back door frame are sent. -/
def unlockBits1 : Nat := 7

/-- The second frame of the back door. -/
def unlockCode2 : UInt8 := 0x43

/-- A positive acknowledgement. -/
def ack : UInt8 := 0x0a

/-! ## §2. Frames. -/

/-- Ask a tag for its version. -/
def getVersion : Bytes := [versionCode]

/-- Present a password. -/
def authenticate (password : Password) : Bytes := authCode :: password.bytes

/-- Put a tag to sleep. -/
def halt : Bytes := [haltCode, 0x00]

/-- Knock at the back door; a short frame of `unlockBits1` bits. -/
def unlock1 : Bytes := [unlockCode1]

/-- Open the back door; a single byte without checksum. -/
def unlock2 : Bytes := [unlockCode2]

/-- Read the block that starts at a page. -/
def read (page : UInt8) : Bytes := [readCode, page]

/-- Write a page; of the block only the first page is stored. -/
def write (page : UInt8) (data : Block) : Bytes := writeCode :: page :: data.toList

end Ultralight.Frame
