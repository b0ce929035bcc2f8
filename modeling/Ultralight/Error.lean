/-
  Ultralight.Error
  ────────────────
  **What can go wrong, as causes, and the wording of each.**

  An error is a cause with the data that its message shows.  Faults of
  readers, of files and terminals and of the command line are inductive
  types of their own; each keeps a constructor for a fault that the outside
  world describes in its own words.  `Error.message` is the only place where
  an error becomes text.
-/
import Ultralight.Hex
import Ultralight.Property

namespace Ultralight

/-! ## §1. Faults of the surroundings. -/

/-- A failure of the reader itself, outside an exchange with a tag. -/
inductive ReaderFault where
  /-- The reader would not change a property. -/
  | propertyRefused (property : Property)
  /-- READ and WRITE need the properties that raw mode switches off. -/
  | commandInRawMode
  /-- A failure in the reader's own words. -/
  | reported (text : String)
  deriving DecidableEq, Repr

/-- The wording of a reader fault. -/
def ReaderFault.message : ReaderFault → String
  | propertyRefused property => "unable to set " ++ property.name
  | commandInRawMode => "mifare command while in raw mode"
  | reported text => text

/-- A failure of a file, of the terminal or of the output. -/
inductive StreamFault where
  /-- A file, or the directory it should be in, does not exist. -/
  | notFound
  /-- The name is that of a directory. -/
  | isDirectory
  /-- The path leads through something that is no directory. -/
  | notDirectory
  /-- A name or a path has too many bytes. -/
  | nameTooLong
  /-- A path holds a NUL character. -/
  | nulInName
  /-- The input is not text in UTF-8. -/
  | invalidText
  /-- The output takes no more bytes. -/
  | outputFull
  /-- A failure in the system's own words. -/
  | reported (text : String)
  deriving DecidableEq, Repr

/-- The wording of a stream fault. -/
def StreamFault.message : StreamFault → String
  | notFound => "No such file or directory (os error 2)"
  | isDirectory => "Is a directory (os error 21)"
  | notDirectory => "Not a directory (os error 20)"
  | nameTooLong => "File name too long (os error 36)"
  | nulInName => "file name contained an unexpected NUL byte"
  | invalidText => "stream did not contain valid UTF-8"
  | outputFull => "failed to write whole buffer"
  | reported text => text

/-- A command line that parses but asks for something impossible. -/
inductive UsageFault where
  /-- A third positive number where a byte range takes two. -/
  | extraByte (argument : String)
  /-- A fault in someone else's words. -/
  | reported (text : String)
  deriving DecidableEq, Repr

/-- The wording of a usage fault. -/
def UsageFault.message : UsageFault → String
  | extraByte argument => "unexpected byte argument '" ++ argument ++ "'"
  | reported text => text

/-! ## §2. Errors. -/

/-- The causes an operation can fail for. -/
inductive Error where
  /-- No reader could be opened. -/
  | deviceNotFound
  /-- The reader failed outside an exchange with a tag. -/
  | driver (fault : ReaderFault)
  /-- An exchange with a tag ended with this negative status. -/
  | transport (code : Int)
  /-- Selection found no tag. -/
  | noTag
  /-- The tag vanished and could not be selected again. -/
  | tagRemoved
  /-- The answer to request is not that of an Ultralight. -/
  | notUltralight (atqa0 atqa1 : UInt8)
  /-- The storage byte of the version answer belongs to no known tag. -/
  | unknownVersion (storage : UInt8)
  /-- The password was rejected or not answered. -/
  | authFailed
  /-- The UID pages stayed read-only. -/
  | notMagic
  /-- A byte string of the wrong length. -/
  | invalidLength (expected actual : Nat)
  /-- A text that is not the hexadecimal text asked for. -/
  | invalidHex (fault : Hex.Fault)
  /-- A page beyond the end of the tag. -/
  | pageOutOfRange (page pages : Nat)
  /-- A command line that cannot be followed. -/
  | usage (fault : UsageFault)
  /-- A file, the terminal or the output failed. -/
  | stream (fault : StreamFault)
  deriving DecidableEq, Repr

namespace Error

/-- The wording of an error. -/
def message : Error → String
  | deviceNotFound => "device not found"
  | driver fault => "driver error: " ++ fault.message
  | transport code => "transport error: code " ++ toString code
  | noTag => "no tag was found"
  | tagRemoved => "tag was removed"
  | notUltralight atqa0 atqa1 =>
      "tag is not a MIFARE Ultralight card: atqa=(" ++ Hex.number atqa0.toNat ++ ", " ++
        Hex.number atqa1.toNat ++ ")"
  | unknownVersion storage => "unknown tag version: " ++ Hex.number storage.toNat
  | authFailed => "password authentication failed"
  | notMagic => "unable to unlock card: not a magic tag"
  | invalidLength expected actual =>
      "invalid length: expected " ++ toString expected ++ ", got " ++ toString actual
  | invalidHex fault => "invalid hex: " ++ fault.message
  | pageOutOfRange page pages =>
      "page " ++ Hex.number page ++ " out of range (tag has " ++ toString pages ++ " pages)"
  | usage fault => "usage: " ++ fault.message
  | stream fault => "io error: " ++ fault.message

/-- Errors that come from a single failed exchange and are worth another
attempt, as opposed to those that repeating would not mend. -/
def isTransport : Error → Bool
  | transport _ | driver _ => true
  | _ => false

end Error

/-- Status of an exchange that the tag did not answer. -/
def Error.noAnswer : Error := .transport (-6)

/-- Status of an exchange that the tag refused. -/
def Error.refused : Error := .transport (-20)

end Ultralight
