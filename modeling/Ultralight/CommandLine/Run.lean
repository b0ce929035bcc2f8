/-
  Ultralight.CommandLine.Run
  ──────────────────────────
  **A whole run, from the arguments to the last notice.**

  Select a tag, tell its variant, authenticate if a password is given, read
  it, print the byte range; then save a dump and write one back, as asked
  for.  The byte range is checked before anything else.  The files are those
  of any file system.
-/
import Ultralight.CommandLine.ByteRange
import Ultralight.CommandLine.Desk

namespace Ultralight.CommandLine

open Session (start listTargets select waitForTag detectVariant authenticate readAll loadImage
  imageOfDump writeAll)

/-- How a run that met no error ends. -/
inductive Ending where
  /-- Everything asked for is done. -/
  | finished
  /-- No tag came within the attempts of a wait; nothing was done with one. -/
  | stillWaiting
  deriving DecidableEq, Repr

/-- List the targets in the field; a failure to do so is only logged. -/
def tryListing : Action Session Unit := do
  match ← Action.attempt listTargets with
  | .ok _ => pure ()
  | .error error => Talk.report (.listingFailed error)

/-- Get hold of a tag: by waiting for it, at most so many selections, or by
one selection.  Whether there is one. -/
def findTag (arguments : Arguments) (attempts : Nat) : Action Session Bool := do
  if arguments.wait then
    let found ← waitForTag attempts
    pure found.isSome
  else
    discard select
    pure true

/-- Learn what the tag is and, if a password is given, authenticate. -/
def identify (arguments : Arguments) : Action Session Unit := do
  let target ← Talk.ofExcept (← get).checkUltralight
  Talk.report (.usingTarget target.uid)
  discard detectVariant
  match arguments.password with
  | some password => discard (authenticate password)
  | none => pure ()

/-- Read the tag; pages that are missing are logged. -/
def readTag : Action Session Unit := do
  let report ← readAll
  unless report.isComplete do
    Talk.report .readPartial

variable {φ : Type}

/-- Print a byte range of the image and end the line. -/
def printRange (range : ByteRange) : Action (Desk φ) Unit := do
  let image := (← get).session.image
  Desk.print (image.byteRange range.start range.stop)
  Desk.print [newline]
  Desk.flush

variable [FileSystem φ]

/-- Save the image to a file. -/
def saveDump (path : String) : Action (Desk φ) Unit := do
  let image := (← get).session.image
  Desk.saveFile path image.active
  Talk.report (.dumpSaved image.activeLength path)

/-- Write a file to the tag. -/
def restoreDump (arguments : Arguments) (path : String) : Action (Desk φ) Unit := do
  let dump ← Desk.loadFile path
  let image ← imageOfDump (← get).session.variant dump
  Desk.inSession (loadImage image)
  let policy ← Desk.resolvePolicy arguments
  discard (Desk.inSession (writeAll policy))

/-- What is done with a tag once it is there. -/
def handleTag (arguments : Arguments) (range : ByteRange) : Action (Desk φ) Unit := do
  Desk.inSession (identify arguments)
  Desk.inSession readTag
  printRange range
  match arguments.dump with
  | some path => saveDump path
  | none => pure ()
  match arguments.restore with
  | some path => restoreDump arguments path
  | none => pure ()
  Talk.report .runDone

/-- A whole run, waiting for a tag at most so many selections. -/
def run (arguments : Arguments) (attempts : Nat) : Action (Desk φ) Ending := do
  let range ← ByteRange.request arguments.range
  start
  Desk.inSession tryListing
  if ← Desk.inSession (findTag arguments attempts) then
    handleTag arguments range
    pure .finished
  else
    pure .stillWaiting

end Ultralight.CommandLine
