/-
  Ultralight.CommandLine.Arguments
  ────────────────────────────────
  **The command line and its grammar.**

  Arguments are taken from left to right.  An argument that starts with two
  dashes is an option by name, one that starts with a single dash a cluster
  of one-letter flags; a lone dash, and everything after a lone double dash,
  is a value.

  An option that takes a value has it attached behind `=` or takes the next
  argument if that is a value.  An attached value is checked at once; one
  taken from the next argument is checked when something else is taken, or
  at the end of the line.  The first fault ends the reading.
-/
import Ultralight.Credentials
import Ultralight.Notice
import Ultralight.Text.Terminal

namespace Ultralight.CommandLine

open Text.Terminal (emphasize plain)

/-! ## §1. Arguments. -/

/-- The arguments of a run. -/
structure Arguments where
  /-- Log diagnostics. -/
  debug : Bool
  /-- Wait until a tag enters the field. -/
  wait : Bool
  /-- Present this password before reading. -/
  password : Option Password
  /-- Only use the tag with this UID. -/
  uid : Option Uid
  /-- Save the memory to this file. -/
  dump : Option String
  /-- Write this file to the tag. -/
  restore : Option String
  /-- Write OTP or capability bytes without asking. -/
  otp : Bool
  /-- Write lock bytes without asking. -/
  lock : Bool
  /-- Write dynamic lock bytes without asking. -/
  dynlock : Bool
  /-- Write UID pages without asking. -/
  writeUid : Bool
  /-- The byte range to print. -/
  range : List String
  deriving DecidableEq, Repr

namespace Arguments

/-- The empty command line. -/
def none : Arguments where
  debug := false
  wait := false
  password := .none
  uid := .none
  dump := .none
  restore := .none
  otp := false
  lock := false
  dynlock := false
  writeUid := false
  range := []

/-- Diagnostics are shown only when asked for. -/
def logLevel (arguments : Arguments) : Level :=
  if arguments.debug then .debug else .error

end Arguments

/-- An option without a value. -/
inductive Flag where
  | debug
  | wait
  | otp
  | lock
  | dynlock
  | writeUid
  | help
  | version
  deriving DecidableEq, Repr

/-- An option with a value. -/
inductive Setting where
  | password
  | uid
  | dump
  | restore
  deriving DecidableEq, Repr

/-- How a flag is shown. -/
def Flag.shown : Flag → String
  | debug => "-d"
  | wait => "-w"
  | otp => "--otp"
  | lock => "--lock"
  | dynlock => "--dynlock"
  | writeUid => "--write-uid"
  | help => "--help"
  | version => "--version"

/-- The flag of a letter. -/
def Flag.ofLetter? : Char → Option Flag
  | 'd' => some debug
  | 'w' => some wait
  | 'h' => some help
  | 'V' => some version
  | _ => none

/-- The flag of a name. -/
def Flag.ofName? : String → Option Flag
  | "otp" => some otp
  | "lock" => some lock
  | "dynlock" => some dynlock
  | "write-uid" => some writeUid
  | "help" => some help
  | "version" => some version
  | _ => none

/-- How a setting is shown. -/
def Setting.shown : Setting → String
  | password => "--pw <PWD>"
  | uid => "--uid <UID>"
  | dump => "--dump <FILE>"
  | restore => "--restore <FILE>"

/-- The setting of a name. -/
def Setting.ofName? : String → Option Setting
  | "pw" => some password
  | "uid" => some uid
  | "dump" => some dump
  | "restore" => some restore
  | _ => none

/-! ## §2. Faults. -/

/-- Why reading the command line ended early. -/
inductive ArgumentFault where
  /-- No option has this name or letter. -/
  | unknown (argument : String)
  /-- An option is given twice. -/
  | repeated (option : String)
  /-- An option lacks its value. -/
  | missingValue (option : String)
  /-- A flag has a value attached. -/
  | unneededValue (value option : String)
  /-- The value of an option is not what it takes. -/
  | invalidValue (value option : String) (error : Error)
  /-- Help is asked for. -/
  | help
  /-- The version is asked for. -/
  | version
  deriving DecidableEq, Repr

/-- What the program is for. -/
def about : String := "Dump and restore MIFARE Ultralight, Ultralight EV1 and NTAG21x tags"

/-- The program and its version. -/
def programVersion : String := "nfc-mfultralight 0.1.0"

/-- The first line of a text, without its line end. -/
def firstLine (text : String) : String :=
  let (line, rest) := text.toList.span (· != '\n')
  if !rest.isEmpty && line.getLast? == some '\r' then String.ofList line.dropLast
  else String.ofList line

/-- A report of a failure: what it is, and where help is to be found. -/
def failureReport (failure : String) : String :=
  emphasize "error:" ++ " " ++ failure ++ "\n\nFor more information, try '" ++
    emphasize "--help" ++ "'.\n"

/-- The report of a fault, as text for a terminal.  What was typed is
emphasized, save where the error of a value repeats it. -/
def ArgumentFault.report : ArgumentFault → String
  | unknown argument => failureReport ("unexpected argument '" ++ emphasize argument ++ "' found")
  | repeated option =>
      failureReport ("the argument '" ++ emphasize option ++ "' cannot be used multiple times")
  | missingValue option =>
      failureReport ("a value is required for '" ++ emphasize option ++ "' but none was supplied")
  | unneededValue value option =>
      failureReport ("unexpected value '" ++ emphasize value ++ "' for '" ++ emphasize option ++
        "' found; no more were expected")
  | invalidValue value option error =>
      failureReport ("invalid value '" ++ emphasize value ++ "' for '" ++ emphasize option ++
        "': " ++ error.message)
  | help => about
  | version => programVersion

/-- The first line of the report of a fault, as plain text. -/
def ArgumentFault.message (fault : ArgumentFault) : String :=
  firstLine (plain fault.report)

/-! ## §3. Reading. -/

namespace Arguments

/-- Whether a flag is given. -/
def given (arguments : Arguments) : Flag → Bool
  | .debug => arguments.debug
  | .wait => arguments.wait
  | .otp => arguments.otp
  | .lock => arguments.lock
  | .dynlock => arguments.dynlock
  | .writeUid => arguments.writeUid
  | .help | .version => false

/-- Take a flag, which must not be given yet. -/
def takeFlag (arguments : Arguments) (flag : Flag) : Except ArgumentFault Arguments :=
  if arguments.given flag then .error (.repeated flag.shown)
  else
    match flag with
    | .debug => .ok { arguments with debug := true }
    | .wait => .ok { arguments with wait := true }
    | .otp => .ok { arguments with otp := true }
    | .lock => .ok { arguments with lock := true }
    | .dynlock => .ok { arguments with dynlock := true }
    | .writeUid => .ok { arguments with writeUid := true }
    | .help => .error .help
    | .version => .error .version

/-- Whether a setting is given. -/
def isSet (arguments : Arguments) : Setting → Bool
  | .password => arguments.password.isSome
  | .uid => arguments.uid.isSome
  | .dump => arguments.dump.isSome
  | .restore => arguments.restore.isSome

/-- The value of an option, or the fault of it. -/
def parsed {α : Type} (setting : Setting) (value : String) (result : Except Error α) :
    Except ArgumentFault α :=
  result.mapError (.invalidValue value setting.shown)

/-- A file name, which is never empty. -/
def fileName (setting : Setting) (value : String) : Except ArgumentFault String :=
  if value.isEmpty then .error (.missingValue setting.shown) else .ok value

/-- Take a setting with its value.  It must not be given yet, which is
checked before the value. -/
def takeSetting (arguments : Arguments) (setting : Setting) (value : String) :
    Except ArgumentFault Arguments :=
  if arguments.isSet setting then .error (.repeated setting.shown)
  else
    match setting with
    | .password =>
        (parsed setting value (Password.parse value)).map fun password =>
          { arguments with password := some password }
    | .uid =>
        (parsed setting value (Uid.parse value)).map fun uid => { arguments with uid := some uid }
    | .dump => (fileName setting value).map fun path => { arguments with dump := some path }
    | .restore => (fileName setting value).map fun path => { arguments with restore := some path }

end Arguments

/-- What is read so far: the arguments, and an option whose value, if it has
come, is not yet checked. -/
structure Reading where
  arguments : Arguments
  pending : Option (Setting × Option String)
  deriving DecidableEq, Repr

namespace Reading

/-- Nothing is read. -/
def start : Reading := ⟨.none, none⟩

/-- The arguments once the pending option is taken. -/
def settle (reading : Reading) : Except ArgumentFault Arguments :=
  match reading.pending with
  | none => .ok reading.arguments
  | some (setting, none) => .error (.missingValue setting.shown)
  | some (setting, some value) => reading.arguments.takeSetting setting value

/-- Take a flag. -/
def takeFlag (reading : Reading) (flag : Flag) : Except ArgumentFault Reading := do
  let arguments ← reading.settle
  let arguments ← arguments.takeFlag flag
  pure ⟨arguments, none⟩

/-- Take a cluster of one-letter flags. -/
def takeLetters : Reading → List Char → Except ArgumentFault Reading
  | reading, [] => .ok reading
  | reading, letter :: rest =>
      match Flag.ofLetter? letter with
      | none => .error (.unknown (String.ofList ['-', letter]))
      | some flag => do
          let reading ← reading.takeFlag flag
          takeLetters reading rest

/-- Take an option by name, with the value attached to it if there is one. -/
def takeNamed (reading : Reading) (name : String) (attached : Option String) :
    Except ArgumentFault Reading :=
  match Setting.ofName? name, Flag.ofName? name, attached with
  | some setting, _, some value => do
      let arguments ← reading.settle
      let arguments ← arguments.takeSetting setting value
      pure ⟨arguments, none⟩
  | some setting, _, none => do
      let arguments ← reading.settle
      pure ⟨arguments, some (setting, none)⟩
  | none, some flag, some value => .error (.unneededValue value flag.shown)
  | none, some flag, none => reading.takeFlag flag
  | none, none, _ => .error (.unknown ("--" ++ name))

/-- Take a value: that of the pending option if it still lacks one, else a
bound of the byte range. -/
def takeValue (reading : Reading) (value : String) : Except ArgumentFault Reading :=
  match reading.pending with
  | some (setting, none) => .ok ⟨reading.arguments, some (setting, some value)⟩
  | _ => do
      let arguments ← reading.settle
      pure ⟨{ arguments with range := arguments.range ++ [value] }, none⟩

/-- The name and the attached value of an option. -/
def splitOption (option : List Char) : String × Option String :=
  match option.span (· != '=') with
  | (name, []) => (String.ofList name, none)
  | (name, _ :: value) => (String.ofList name, some (String.ofList value))

/-- Take one argument. -/
def take (reading : Reading) (argument : String) : Except ArgumentFault Reading :=
  match argument.toList with
  | '-' :: '-' :: option =>
      let (name, attached) := splitOption option
      reading.takeNamed name attached
  | '-' :: letter :: rest => reading.takeLetters (letter :: rest)
  | _ => reading.takeValue argument

/-- Take arguments up to the end of the line.  After a lone double dash all of
them are values. -/
def takeAll : Reading → List String → Except ArgumentFault Arguments
  | reading, [] => reading.settle
  | reading, argument :: rest =>
      if argument = "--" then do
        let arguments ← reading.settle
        pure { arguments with range := arguments.range ++ rest }
      else do
        let reading ← reading.take argument
        takeAll reading rest

end Reading

/-- The arguments of a command line, the name of the program left out. -/
def Arguments.parse (line : List String) : Except ArgumentFault Arguments :=
  Reading.start.takeAll line

end Ultralight.CommandLine
