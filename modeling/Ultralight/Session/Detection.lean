/-
  Ultralight.Session.Detection
  ────────────────────────────
  **Finding out which variant the selected tag is.**

  GET_VERSION goes out in raw mode.  A tag that does not know the command
  falls asleep over it, so after a missing answer the tag is selected again
  before it counts as a plain Ultralight.
-/
import Ultralight.Frame
import Ultralight.RawMode
import Ultralight.Session.Selection

namespace Ultralight.Session

/-- The answer to GET_VERSION.  `none` when none came, when it is too short to
hold the storage byte, or when the reader would not leave raw mode. -/
def getVersion : Talk (Option Bytes) := do
  RawMode.enter
  let answer ← Talk.attempt (RawMode.sendFrame Frame.getVersion)
  match ← Talk.attempt RawMode.leave with
  | .error error =>
      Talk.report (.versionKeptRawMode error)
      pure none
  | .ok () =>
      match answer with
      | .ok bytes =>
          if versionStorageIndex < bytes.length then
            pure (some bytes)
          else
            Talk.report (.versionShort bytes.length)
            pure none
      | .error error =>
          Talk.report (.versionUnanswered error)
          pure none

/-- Take over a variant: the image becomes a blank one of its size. -/
def adopt (variant : Variant) (session : Session) : Session :=
  { session with variant := variant, image := .blank variant }

/-- Tell the variant of the selected tag and make the image fit it. -/
def detectVariant : Action Session Variant := do
  let answer ← getVersion
  if answer.isNone then
    discard reselect
  let variant ← Talk.ofExcept (Variant.classify answer)
  modify (adopt variant)
  Talk.report (.variantDetected variant)
  if variant.secretLayout.isSome && !(← get).credentials.isKnown then
    Talk.report .passwordAdvised
  pure variant

end Ultralight.Session
