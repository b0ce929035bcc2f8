/-
  Ultralight.Session.ReadPass
  ───────────────────────────
  **Reading a whole tag into the image.**

  Blocks of four pages are read in order.  A block that cannot be read keeps
  its contents in the image, and the tag, which a failure puts to sleep, is
  selected again before the next block; if it is gone the rest of the pages
  count as failed.  Since a tag never shows its secrets, known ones are put
  into the image at the end.
-/
import Ultralight.Session.Selection

namespace Ultralight.Session

/-- The first pages of the blocks that cover so many pages. -/
def blockStarts (pages : Nat) : List Nat :=
  (List.range ((pages + (blockPages - 1)) / blockPages)).map (· * blockPages)

/-- Read one block into the image: the number of pages copied. -/
def readBlock (first : Nat) : Action Session Nat := do
  let block ← Talk.ask (.read (UInt8.ofNat first))
  let session ← get
  let (image, copied) ← Talk.ofExcept (session.image.copyBlock first block)
  set { session with image := image }
  pure copied

/-- Select the tag again if the last command put it to sleep. -/
def wake (asleep : Bool) : Action Session Unit :=
  if asleep then discard reselect else pure ()

/-- Read the blocks with these first pages, going on from the markers so far.
`asleep` says that the command before failed. -/
def readBlocks (pages : Nat) :
    List Nat → Bool → List Marker → Action Session (List Marker)
  | [], _, markers => pure markers
  | first :: rest, asleep, markers => do
      match ← Action.attempt (wake asleep) with
      | .error error =>
          Talk.report (.tagLost error)
          pure (markers ++ List.replicate (pages - first) .failed)
      | .ok () =>
          match ← Action.attempt (readBlock first) with
          | .ok copied => readBlocks pages rest false (markers ++ List.replicate copied .done)
          | .error error =>
              Talk.report (.blockUnreadable first error)
              readBlocks pages rest true
                (markers ++ List.replicate (min (pages - first) blockPages) .failed)

/-- Put the known secrets into the image. -/
def placeSecrets : Action Session Unit := do
  let session ← get
  match session.image.placeSecrets? session.variant session.credentials with
  | some image =>
      set { session with image := image }
      Talk.report .secretsPlaced
  | none => pure ()

/-- Read every page of the detected variant. -/
def readAll : Action Session ReadReport := do
  let pages := (← get).variant.pages
  Talk.report (.reading pages)
  let markers ← readBlocks pages (blockStarts pages) false []
  Talk.report (.markers markers)
  placeSecrets
  let report := ReadReport.ofMarkers pages markers
  Talk.report (.readDone report)
  pure report

end Ultralight.Session
