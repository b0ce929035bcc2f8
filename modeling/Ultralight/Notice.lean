/-
  Ultralight.Notice
  ─────────────────
  **What is logged, as values.**

  Every log line of the library is a constructor with the data it shows.
  `Notice.level` and `Notice.text` are the only places where a notice becomes
  text.
-/
import Ultralight.Report
import Ultralight.Target
import Ultralight.Credentials

namespace Ultralight

/-- How much a notice matters. -/
inductive Level where
  | error
  | warn
  | info
  | debug
  | trace
  deriving DecidableEq, Repr

/-- The name of a level. -/
def Level.name : Level → String
  | error => "ERROR"
  | warn => "WARN"
  | info => "INFO"
  | debug => "DEBUG"
  | trace => "TRACE"

/-- Something worth logging. -/
inductive Notice where
  /-- A dump was shorter than the tag. -/
  | dumpPadded (length : Nat) (variant : Variant)
  /-- So many targets are in the field. -/
  | targetsFound (count : Nat)
  /-- One of the targets in the field. -/
  | targetListed (uid : Uid)
  /-- A target was selected. -/
  | targetSelected (target : Target)
  /-- A selection failed and will be repeated. -/
  | selectionFailed (error : Error)
  /-- No tag has come yet. -/
  | waiting
  /-- A byte frame goes out in raw mode. -/
  | rawBytes (frame : Bytes)
  /-- A short frame goes out in raw mode. -/
  | rawBits (frame : Bytes) (bits : Nat)
  /-- The reader would not leave raw mode. -/
  | rawModeKept (error : Error)
  /-- The reader would not leave raw mode after GET_VERSION. -/
  | versionKeptRawMode (error : Error)
  /-- The version answer does not reach the storage byte. -/
  | versionShort (length : Nat)
  /-- No version answer came. -/
  | versionUnanswered (error : Error)
  /-- The variant is known. -/
  | variantDetected (variant : Variant)
  /-- The variant may be protected and no password is known. -/
  | passwordAdvised
  /-- A password is about to be presented. -/
  | authenticating (password : Password)
  /-- The password was rejected or not answered. -/
  | authUnanswered (error : Error)
  /-- The reader would not leave raw mode after PWD_AUTH. -/
  | authKeptRawMode (error : Error)
  /-- The password was acknowledged. -/
  | authenticated (pack : Pack)
  /-- The tag is probed for plain writes to its UID pages. -/
  | probing
  /-- The first block could not be read for the probe. -/
  | probeUnreadable (error : Error)
  /-- The first three pages before the probe. -/
  | probeBlock (block : Block)
  /-- The UID before the probe. -/
  | probeUid (block : Block)
  /-- A page of the probe was refused. -/
  | probeRefused (page : Nat) (error : Error)
  /-- Whether plain writes to the UID pages work. -/
  | directWrite (works : Bool)
  /-- The first back door frame was not answered. -/
  | unlockUnanswered (error : Error)
  /-- Neither way to write the UID pages works. -/
  | unlockFailed
  /-- A read pass begins. -/
  | reading (pages : Nat)
  /-- A block could not be read. -/
  | blockUnreadable (page : Nat) (error : Error)
  /-- The tag could not be selected again. -/
  | tagLost (error : Error)
  /-- The markers of a pass. -/
  | markers (line : List Marker)
  /-- Known secrets were put into the image. -/
  | secretsPlaced
  /-- A read pass ends. -/
  | readDone (report : ReadReport)
  /-- A write pass begins. -/
  | writing (pages : Nat)
  /-- A page was refused. -/
  | pageRefused (page : Nat) (error : Error)
  /-- A write pass ends. -/
  | writeDone (report : WriteReport)
  /-- The byte range to print is empty or reversed. -/
  | rangeReversed (start stop : Nat)
  /-- The targets in the field could not be listed. -/
  | listingFailed (error : Error)
  /-- The tag that a run works on. -/
  | usingTarget (uid : Uid)
  /-- Some pages of the image were not read. -/
  | readPartial
  /-- A dump was written to a file. -/
  | dumpSaved (length : Nat) (path : String)
  /-- A run is over. -/
  | runDone
  deriving DecidableEq, Repr

namespace Notice

/-- The level of a notice. -/
def level : Notice → Level
  | rawBytes _ | rawBits _ _ => .trace
  | dumpPadded _ _ | rawModeKept _ | passwordAdvised | unlockFailed | tagLost _
  | rangeReversed _ _ | readPartial => .warn
  | targetsFound _ | targetListed _ | waiting | variantDetected _ | authenticating _
  | authenticated _ | probeUid _ | directWrite _ | readDone _ | writeDone _ | usingTarget _
  | dumpSaved _ _ | runDone => .info
  | targetSelected _ | selectionFailed _ | versionKeptRawMode _ | versionShort _
  | versionUnanswered _ | authUnanswered _ | authKeptRawMode _ | probing | probeUnreadable _
  | probeBlock _ | probeRefused _ _ | unlockUnanswered _ | reading _ | blockUnreadable _ _
  | markers _ | secretsPlaced | writing _ | pageRefused _ _ | listingFailed _ => .debug

/-- How a detected variant is announced. -/
def variantText (variant : Variant) : String :=
  let user := variant.displayName ++ " (" ++ toString variant.userBytes ++ " user bytes)"
  if variant.isEv1 then "EV1 type: " ++ user
  else if variant.isNtag then "NTAG type: " ++ user
  else variant.displayName ++ " (" ++ toString variant.pages ++ " pages)"

/-- The wording of a notice. -/
def text : Notice → String
  | dumpPadded length variant =>
      "dump holds " ++ toString length ++ " bytes, " ++ toString (variant.pages * pageSize) ++
        " expected for " ++ variant.displayName ++ "; remaining pages are zero"
  | targetsFound count => toString count ++ " ISO14443A passive target(s) found:"
  | targetListed uid => "\t" ++ uid.text
  | targetSelected target =>
      "selected target " ++ target.uid.text ++ " (atqa " ++
        Hex.encode [target.atqa0, target.atqa1] ++ ")"
  | selectionFailed error => "selection failed: " ++ error.message
  | waiting => "waiting for tag..."
  | rawBytes frame => "raw tx: " ++ Hex.encodeSpaced frame
  | rawBits frame bits => "raw tx (" ++ toString bits ++ " bits): " ++ Hex.encodeSpaced frame
  | rawModeKept error => "unable to leave raw mode: " ++ error.message
  | versionKeptRawMode error => "unable to leave raw mode after GET_VERSION: " ++ error.message
  | versionShort length => "short version response (" ++ toString length ++ " bytes)"
  | versionUnanswered error => "no version response: " ++ error.message
  | variantDetected variant => variantText variant
  | passwordAdvised => "tag is EV1 or NTAG - password may be required"
  | authenticating password => "Authing with PWD: " ++ password.text
  | authUnanswered error => "PWD_AUTH: " ++ error.message
  | authKeptRawMode error => "unable to leave raw mode after PWD_AUTH: " ++ error.message
  | authenticated pack => "Success - PACK: " ++ pack.text
  | probing => "Checking if UL badge is DirectWrite..."
  | probeUnreadable error => "unable to read block 0x00: " ++ error.message
  | probeBlock block => "Original block 0 (pages 0-2): " ++ Hex.encode (block.toList.take 12)
  | probeUid block => "Original UID: " ++ Hex.encode block.uidBytes
  | probeRefused page error => "failure writing page " ++ toString page ++ ": " ++ error.message
  | directWrite true => "Card is DirectWrite"
  | directWrite false => "Card is not DirectWrite"
  | unlockUnanswered error => "unlock frame 1 not answered: " ++ error.message
  | unlockFailed => "unable to unlock card - are you sure the card is magic?"
  | reading pages => "Reading " ++ toString pages ++ " pages"
  | blockUnreadable page error =>
      "unable to read block " ++ Hex.number page ++ ": " ++ error.message
  | tagLost error => "tag was removed: " ++ error.message
  | markers line => "|" ++ String.ofList (line.map Marker.char) ++ "|"
  | secretsPlaced => "password and pack copied to image"
  | readDone report =>
      "Done, " ++ toString report.read ++ " of " ++ toString report.pages ++ " pages read (" ++
        toString report.failed ++ " pages failed)."
  | writing pages => "Writing " ++ toString pages ++ " pages"
  | pageRefused page error => "unable to write page " ++ Hex.number page ++ ": " ++ error.message
  | writeDone report =>
      "Done, " ++ toString report.written ++ " of " ++ toString report.pages ++
        " pages written (" ++ toString report.skipped ++ " pages skipped, " ++
        toString report.failed ++ " pages failed)."
  | rangeReversed start stop =>
      "start/stop messed up: " ++ toString stop ++ " <= " ++ toString start ++ " == bad"
  | listingFailed error => "unable to list targets: " ++ error.message
  | usingTarget uid => "Using MIFARE Ultralight card with UID: " ++ uid.text
  | readPartial => "read failed - partial data in image"
  | dumpSaved length path => toString length ++ " bytes written to " ++ path
  | runDone => "Done."

/-- A notice as a line of the log. -/
def line (notice : Notice) : String := notice.level.name ++ " " ++ notice.text

end Notice

end Ultralight
