/-
  Ultralight.Session.Selection
  ────────────────────────────
  **Listing, selecting and waiting for tags.**

  A found target becomes the target of the session; a selection that finds
  nothing leaves the session as it was.  Selecting again asks for the tag of
  the session, not for any tag.
-/
import Ultralight.Session.Basic

namespace Ultralight.Session

/-- The targets in the field, logged one by one. -/
def listTargets : Action Session (List Target) := do
  let targets ← Talk.ask (.list (← get).config.maxTargets)
  unless targets.isEmpty do
    Talk.report (.targetsFound targets.length)
  targets.forM fun target => Action.ofTalk (Talk.report (.targetListed target.uid))
  pure targets

/-- One selection; a found target becomes that of the session. -/
def selectUid (uid : Option Uid) : Action Session (Option Target) := do
  match ← Talk.ask (.select uid) with
  | none => pure none
  | some target =>
      Talk.report (.targetSelected target)
      modify fun session => { session with target := some target }
      pure (some target)

/-- One selection that has to find a tag. -/
def mustSelect (uid : Option Uid) : Action Session Target := do
  match ← selectUid uid with
  | some target => pure target
  | none => throw .noTag

/-- Select a tag, if a filter is set the one with that UID. -/
def select : Action Session Target := do
  mustSelect (← get).config.uidFilter

/-- The UID that selecting again asks for: that of the target, else that of
the filter. -/
def wantedUid (session : Session) : Option Uid :=
  (session.target.map Target.uid).or session.config.uidFilter

/-- Select the tag of the session again, after a failed exchange put it to
sleep. -/
def reselect : Action Session Target := do
  mustSelect (← get).wantedUid

/-- Select again and again, at most so many times, until a tag answers.  A
failure of the exchange counts as a selection that found nothing, any other
error ends the wait.  The first fruitless selection is announced.  `none`
means that no tag came within these attempts. -/
def waitFrom (filter : Option Uid) (pollMs : Nat) : Nat → Bool → Action Session (Option Target)
  | 0, _ => pure none
  | attempts + 1, announced => do
      let again : Action Session (Option Target) := do
        unless announced do
          Talk.report .waiting
        Talk.pause pollMs
        waitFrom filter pollMs attempts true
      match ← Action.attempt (selectUid filter) with
      | .ok (some target) => pure (some target)
      | .ok none => again
      | .error error =>
          if error.isTransport then
            Talk.report (.selectionFailed error)
            again
          else
            throw error

/-- Wait for a tag, for at most so many selections. -/
def waitForTag (attempts : Nat) : Action Session (Option Target) := do
  let config := (← get).config
  waitFrom config.uidFilter config.pollMs attempts false

end Ultralight.Session
