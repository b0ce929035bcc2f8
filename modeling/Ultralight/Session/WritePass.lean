/-
  Ultralight.Session.WritePass
  ────────────────────────────
  **Writing the image to the tag.**

  Pages are written one by one; those that the policy protects are left
  alone.  A refused page does not end the pass: the tag is selected again
  before the next write.  If it is gone the pass ends.
-/
import Ultralight.Session.ReadPass
import Ultralight.Session.Unlock
import Ultralight.WritePolicy

namespace Ultralight.Session

/-- Select the tag again if the last command put it to sleep; a tag that is
gone ends the pass, whose markers so far are logged. -/
def wakeOrLose (asleep : Bool) (markers : List Marker) : Action Session Unit := do
  match ← Action.attempt (wake asleep) with
  | .ok () => pure ()
  | .error error =>
      Talk.report (.markers markers)
      Talk.report (.tagLost error)
      throw .tagRemoved

/-- Write these pages of the image, going on from the markers so far.
`asleep` says that the command before failed. -/
def writeEach (policy : WritePolicy) (variant : Variant) :
    List Nat → Bool → List Marker → Action Session (List Marker)
  | [], _, markers => pure markers
  | number :: rest, asleep, markers =>
      if policy.skips variant number then
        writeEach policy variant rest asleep (markers ++ [.skipped])
      else do
        wakeOrLose asleep markers
        let page ← Talk.ofExcept ((← get).image.page number)
        match ← Talk.attempt (Talk.ask (.write (UInt8.ofNat number) page.padded)) with
        | .ok () => writeEach policy variant rest false (markers ++ [.done])
        | .error error =>
            Talk.report (.pageRefused number error)
            writeEach policy variant rest true (markers ++ [.failed])

/-- Write the pages from `start` up to `stop` of the image. -/
def writePages (policy : WritePolicy) (start stop : Nat) : Action Session WriteReport := do
  let variant := (← get).variant
  if variant.pages < stop then
    throw (.pageOutOfRange (stop - 1) variant.pages)
  Talk.report (.writing variant.pages)
  let markers ← writeEach policy variant (List.range' start (stop - start)) false []
  Talk.report (.markers markers)
  let report := WriteReport.ofMarkers variant.pages markers
  Talk.report (.writeDone report)
  pure report

/-- Open the UID pages if the policy lets them be written. -/
def openUidPages (policy : WritePolicy) : Talk Unit := do
  if policy.uid then
    unless ← ensureWritable do
      Talk.report .unlockFailed
      throw .notMagic

/-- Write the whole image.  If the UID pages are to be written the tag is
made writable first. -/
def writeAll (policy : WritePolicy) : Action Session WriteReport := do
  openUidPages policy
  writePages policy 0 (← get).variant.pages

end Ultralight.Session
