/-
  Ultralight.Session.Basic
  ────────────────────────
  **What is known of the tag at hand.**

  A session keeps the selected target, the variant it was found to be, the
  credentials that were accepted, and an image of its memory.  The reader is
  no part of it: every operation is an action on the session whose dialogue
  is held with a reader.
-/
import Ultralight.Dialogue
import Ultralight.Image

namespace Ultralight

/-- How many targets are listed at most, unless told otherwise. -/
def defaultMaxTargets : Nat := 16

/-- Milliseconds between two selections of a wait, unless told otherwise. -/
def defaultPollMs : Nat := 200

/-- The settings of a session. -/
structure SessionConfig where
  /-- Only select the tag with this UID. -/
  uidFilter : Option Uid
  /-- Milliseconds between two selections of a wait. -/
  pollMs : Nat
  /-- How many targets are listed at most. -/
  maxTargets : Nat
  deriving DecidableEq, Repr

/-- Any tag, at the usual pace. -/
def SessionConfig.default : SessionConfig := ⟨none, defaultPollMs, defaultMaxTargets⟩

/-- What is known of the tag at hand. -/
structure Session where
  /-- The settings, fixed when the session is opened. -/
  config : SessionConfig
  /-- The selected tag. -/
  target : Option Target
  /-- The variant of the tag, a plain Ultralight until it is detected. -/
  variant : Variant
  /-- The secrets of the last accepted password. -/
  credentials : Credentials
  /-- A copy of the memory, to be read into or to be written. -/
  image : Image
  deriving DecidableEq, Repr

namespace Session

/-- Nothing is known yet. -/
def fresh (config : SessionConfig) : Session where
  config := config
  target := none
  variant := .ultralight
  credentials := .unknown
  image := .blank .ultralight

/-- Make the reader the initiator and let selection try only once. -/
def start : Talk Unit := do
  Talk.ask .init
  Talk.ask (.setProperty .infiniteSelect false)

/-- The selected target, if it is one of the Ultralight family. -/
def checkUltralight (session : Session) : Except Error Target :=
  match session.target with
  | none => .error .noTag
  | some target =>
      if target.isUltralight then .ok target
      else .error (.notUltralight target.atqa0 target.atqa1)

/-- The image of a dump; that it was filled up is logged. -/
def imageOfDump (variant : Variant) (dump : Bytes) : Talk Image := do
  let image ← Talk.ofExcept (Image.ofDump variant dump)
  if dump.length < image.activeLength then
    Talk.report (.dumpPadded dump.length variant)
  pure image

/-- Take over an image, which must have the pages of the detected variant. -/
def loadImage (image : Image) : Action Session Unit := do
  let session ← get
  if image.pages = session.variant.pages then
    set { session with image := image }
  else
    throw (.invalidLength (session.variant.pages * pageSize) image.activeLength)

end Session

end Ultralight
