/-
  Ultralight.CommandLine.Desk
  ───────────────────────────
  **What a run works on, apart from the reader.**

  A desk holds the session, the operator who is asked, the disk, and the
  output.  The disk is any file system; the output may be full at some point,
  or it may fail to be flushed.
-/
import Ultralight.CommandLine.Disk
import Ultralight.CommandLine.Prompt
import Ultralight.Session.Operation

namespace Ultralight.CommandLine

/-! ## §1. Output. -/

/-- What was written to the output, how much more it takes, and how it may
fail. -/
structure Output where
  written : Bytes
  /-- Bytes left; `none` if there is no end to them. -/
  room : Option Nat
  /-- How it fails to take more bytes than that. -/
  refusal : StreamFault
  /-- How it fails to be flushed; `none` if it does not. -/
  unflushed : Option StreamFault
  deriving DecidableEq, Repr

namespace Output

/-- Write bytes; what does not fit is lost, and is an error. -/
def write (output : Output) (data : Bytes) : Except Error Unit × Output :=
  match output.room with
  | none => (.ok (), { output with written := output.written ++ data })
  | some room =>
      if data.length ≤ room then
        (.ok (), { output with
          written := output.written ++ data
          room := some (room - data.length) })
      else
        (.error (.stream output.refusal), { output with
          written := output.written ++ data.take room
          room := some 0 })

/-- Have everything that was written delivered. -/
def flush (output : Output) : Except Error Unit :=
  match output.unflushed with
  | none => .ok ()
  | some fault => .error (.stream fault)

end Output

/-! ## §2. Desks. -/

/-- What a run works on, with files in a file system of this type. -/
structure Desk (φ : Type) where
  session : Session
  prompter : Prompter
  disk : φ
  output : Output

namespace Desk

variable {φ : Type}

/-- The desk at which a run with these arguments starts. -/
def withDisk (arguments : Arguments) (operator : Operator) (disk : φ) (room : Option Nat) :
    Desk φ where
  session := .fresh { SessionConfig.default with uidFilter := arguments.uid }
  prompter := ⟨operator, []⟩
  disk := disk
  output := ⟨[], room, .outputFull, none⟩

/-- The same with these files in the working directory. -/
def ready (arguments : Arguments) (operator : Operator) (files : List (String × Bytes))
    (room : Option Nat) : Desk Disk :=
  withDisk arguments operator (.ofFiles files) room

/-- An action on the session of a desk. -/
def inSession {α : Type} (action : Action Session α) : Action (Desk φ) α :=
  Action.on session (fun session desk => { desk with session := session }) action

/-- Write to the output. -/
def print (data : Bytes) : Action (Desk φ) Unit := do
  let desk ← get
  let (result, output) := desk.output.write data
  set { desk with output := output }
  Talk.ofExcept result

/-- Flush the output. -/
def flush : Action (Desk φ) Unit := do
  let desk ← get
  Talk.ofExcept desk.output.flush

/-- Write a file. -/
def saveFile [FileSystem φ] (path : String) (contents : Bytes) : Action (Desk φ) Unit := do
  let desk ← get
  let (result, disk) := FileSystem.write desk.disk path contents
  set { desk with disk := disk }
  Talk.ofExcept (result.mapError .stream)

/-- Read a file. -/
def loadFile [FileSystem φ] (path : String) : Action (Desk φ) Bytes := do
  let desk ← get
  Talk.ofExcept ((FileSystem.read desk.disk path).mapError .stream)

/-- Find out the policy of a write, asking where the arguments leave it
open. -/
def resolvePolicy (arguments : Arguments) : Action (Desk φ) WritePolicy := do
  let desk ← get
  let (result, prompter) := desk.prompter.resolve arguments desk.session.variant
  set { desk with prompter := prompter }
  Talk.ofExcept result

end Desk

end Ultralight.CommandLine
