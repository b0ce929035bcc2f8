/-
  Ultralight.Session.Unlock
  ─────────────────────────
  **Making the UID pages of a clone writable.**

  A clone of the first kind takes plain writes: the first three pages are
  written back as they were read, and if all three writes are accepted the
  tag is writable.  Otherwise the back door is tried: halt the tag, knock
  with a frame of seven bits and then with a byte.
-/
import Ultralight.Frame
import Ultralight.RawMode

namespace Ultralight.Session

/-- Write pages back one after the other, from the given number on, until one
is refused.  Whether all were accepted. -/
def writeBack : Nat → List Page → Talk Bool
  | _, [] => pure true
  | number, page :: rest => do
      match ← Talk.attempt (Talk.ask (.write (UInt8.ofNat number) page.padded)) with
      | .ok () => writeBack (number + 1) rest
      | .error error =>
          Talk.report (.probeRefused number error)
          pure false

/-- Whether the tag takes plain writes to pages 0 to 2. -/
def probeDirectWrite : Talk Bool := do
  Talk.report .probing
  match ← Talk.attempt (Talk.ask (.read 0)) with
  | .error error =>
      Talk.report (.probeUnreadable error)
      pure false
  | .ok block =>
      Talk.report (.probeBlock block)
      Talk.report (.probeUid block)
      writeBack 0 [block.p0, block.p1, block.p2]

/-- Knock at the back door of a tag: whether both frames were answered.  A
halted tag is never heard of again, so the outcome of halting is ignored. -/
def knock : Talk Bool := do
  let _ ← Talk.attempt (RawMode.sendFrame Frame.halt)
  match ← Talk.attempt (RawMode.sendBits Frame.unlock1 Frame.unlockBits1) with
  | .ok _ =>
      match ← Talk.attempt (RawMode.sendBytes Frame.unlock2) with
      | .ok _ => pure true
      | .error _ => pure false
  | .error error =>
      Talk.report (.unlockUnanswered error)
      pure false

/-- Open the back door.  It is open exactly if both frames were answered; an
error means that the reader refused to enter or to leave raw mode. -/
def unlockBackdoor : Talk Bool := do
  RawMode.enter
  let unlocked ← knock
  RawMode.leave
  pure unlocked

/-- Make the UID pages writable, by plain writes or by the back door. -/
def ensureWritable : Talk Bool := do
  if ← probeDirectWrite then
    Talk.report (.directWrite true)
    pure true
  else
    Talk.report (.directWrite false)
    unlockBackdoor

end Ultralight.Session
