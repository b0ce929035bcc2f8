/-
  Ultralight.RawMode
  ──────────────────
  **Raw mode: frames as they are, without the reader's help.**

  In raw mode the reader neither appends and checks CRC_A nor wraps frames.
  Entering switches both properties off; leaving switches both on again, the
  second also when the first is refused.
-/
import Ultralight.Dialogue

namespace Ultralight.RawMode

/-- Switch checksum handling and framing off.  If only the first can be
switched off it is switched on again. -/
def enter : Talk Unit := do
  Talk.ask (.setProperty .handleCrc false)
  match ← Talk.attempt (Talk.ask (.setProperty .easyFraming false)) with
  | .ok () => pure ()
  | .error error =>
      let _ ← Talk.attempt (Talk.ask (.setProperty .handleCrc true))
      throw error

/-- Switch checksum handling and framing on.  Both are attempted; of two
failures the first is reported. -/
def leave : Talk Unit := do
  let crc ← Talk.attempt (Talk.ask (.setProperty .handleCrc true))
  let framing ← Talk.attempt (Talk.ask (.setProperty .easyFraming true))
  Talk.ofExcept crc
  Talk.ofExcept framing

/-- Leave raw mode; a refusal is only logged. -/
def abandon : Talk Unit := do
  match ← Talk.attempt leave with
  | .ok () => pure ()
  | .error error => Talk.report (.rawModeKept error)

/-- Send a complete frame as it is. -/
def sendBytes (frame : Bytes) : Talk Bytes := do
  Talk.report (.rawBytes frame)
  Talk.ask (.bytes frame)

/-- Send a frame closed by its checksum. -/
def sendFrame (payload : Bytes) : Talk Bytes := do
  let frame ← Talk.close payload
  sendBytes frame

/-- Send so many bits of a short frame. -/
def sendBits (frame : Bytes) (bits : Nat) : Talk Bytes := do
  Talk.report (.rawBits frame bits)
  Talk.ask (.bits frame bits)

/-! ## §1. Raw mode by hand. -/

/-- One frame of a stretch of raw mode. -/
inductive Step where
  /-- A payload to close by its checksum. -/
  | frame (payload : Bytes)
  /-- A complete frame. -/
  | bytes (whole : Bytes)
  /-- A short frame. -/
  | bits (short : Bytes) (count : Nat)
  deriving DecidableEq, Repr

/-- Send one frame. -/
def Step.send : Step → Talk Bytes
  | frame payload => sendFrame payload
  | bytes whole => sendBytes whole
  | bits short count => sendBits short count

/-- How a stretch of raw mode ends. -/
inductive Ending where
  /-- Leave and report a refusal. -/
  | finish
  /-- Leave and only log a refusal. -/
  | abandon
  deriving DecidableEq, Repr

/-- End a stretch of raw mode. -/
def Ending.perform : Ending → Talk Unit
  | finish => leave
  | abandon => RawMode.abandon

/-- A stretch of raw mode: enter, send every frame whatever becomes of the
others, and end.  The value is the answer to each frame and how leaving
went. -/
def converse (steps : List Step) (ending : Ending) :
    Talk (List (Except Error Bytes) × Except Error Unit) := do
  enter
  let answers ← steps.mapM fun step => Talk.attempt step.send
  let left ← Talk.attempt ending.perform
  pure (answers, left)

end Ultralight.RawMode
