/-
  Ultralight.Session.Operation
  ────────────────────────────
  **The operations of a session, as values.**

  What can be done in a session is a list of operations, each a value; a
  statement about everything that can be done is a statement about such
  lists.  Operations go on after errors: an error is the answer of the
  operation that met it.
-/
import Ultralight.Image.Edit
import Ultralight.Session.Authentication
import Ultralight.Session.Detection
import Ultralight.Session.WritePass

namespace Ultralight.Session

/-- Something to do in a session. -/
inductive Operation where
  /-- Select a tag. -/
  | select
  /-- Select the tag of the session again. -/
  | reselect
  /-- Wait for a tag, for at most so many selections. -/
  | waitForTag (attempts : Nat)
  /-- List the targets in the field. -/
  | listTargets
  /-- Check that the target is an Ultralight. -/
  | checkUltralight
  /-- Tell the variant of the tag. -/
  | detectVariant
  /-- Present a password. -/
  | authenticate (password : Password)
  /-- Read the whole tag into the image. -/
  | readAll
  /-- Write the whole image. -/
  | writeAll (policy : WritePolicy)
  /-- Write the pages from `start` up to `stop`. -/
  | writePages (policy : WritePolicy) (start stop : Nat)
  /-- Make the UID pages writable. -/
  | ensureWritable
  /-- Take over an image of the right size. -/
  | loadImage (image : Image)
  /-- Change the image by hand. -/
  | edit (edit : Image.Edit)

/-- What an operation that succeeds answers with. -/
inductive Answer where
  /-- Done, and nothing to tell. -/
  | done
  /-- A selected target. -/
  | target (target : Target)
  /-- No tag came within the attempts of a wait. -/
  | stillWaiting
  /-- Listed targets. -/
  | targets (targets : List Target)
  /-- A detected variant. -/
  | variant (variant : Variant)
  /-- An acknowledged password. -/
  | pack (pack : Pack)
  /-- Yes or no. -/
  | flag (value : Bool)
  /-- What an edit of the image tells. -/
  | edited (answer : Image.Edit.Answer)
  /-- The report of a read pass. -/
  | read (report : ReadReport)
  /-- The report of a write pass. -/
  | written (report : WriteReport)
  deriving DecidableEq, Repr

/-- Do one operation. -/
def Operation.perform : Operation → Action Session Answer
  | select => .target <$> Session.select
  | reselect => .target <$> Session.reselect
  | waitForTag attempts => do
      match ← Session.waitForTag attempts with
      | some target => pure (.target target)
      | none => pure .stillWaiting
  | listTargets => .targets <$> Session.listTargets
  | checkUltralight => do
      let target ← Talk.ofExcept (← get).checkUltralight
      pure (.target target)
  | detectVariant => .variant <$> Session.detectVariant
  | authenticate password => .pack <$> Session.authenticate password
  | readAll => .read <$> Session.readAll
  | writeAll policy => .written <$> Session.writeAll policy
  | writePages policy start stop => .written <$> Session.writePages policy start stop
  | ensureWritable => do
      let writable ← Session.ensureWritable
      pure (.flag writable)
  | loadImage image => do
      Session.loadImage image
      pure .done
  | edit change => do
      let session ← get
      let (answer, image) := change.apply session.image
      set { session with image := image }
      .edited <$> Talk.ofExcept answer

/-- Do operations one after the other, whatever becomes of each. -/
def performAll (operations : List Operation) : Action Session (List (Except Error Answer)) :=
  operations.mapM fun operation => Action.attempt operation.perform

end Ultralight.Session
