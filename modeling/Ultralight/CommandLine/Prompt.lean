/-
  Ultralight.CommandLine.Prompt
  ─────────────────────────────
  **Asking which protected pages may be written.**

  Every kind of protected page that no flag opened is asked about, in a fixed
  order; a variant without dynamic lock bytes is not asked about them.  The
  operator types one line for each question, and only a line that starts with
  `y` or `Y` is a yes.  The standard input may fail, and so may showing a
  question.
-/
import Ultralight.CommandLine.Arguments
import Ultralight.WritePolicy

namespace Ultralight.CommandLine

/-! ## §1. Operators. -/

/-- Who answers the questions. -/
inductive Operator where
  /-- Answers made beforehand; once they are used up every answer is no. -/
  | prepared (answers : List Bool)
  /-- Lines typed on the standard input, as bytes. -/
  | typed (input : Bytes)
  /-- Lines typed on a standard input that cannot be read any further after
  them. -/
  | failing (input : Bytes) (fault : StreamFault)
  /-- One who is shown only so many more questions; to show the next fails. -/
  | unshown (questions : Nat) (fault : StreamFault) (operator : Operator)
  deriving DecidableEq, Repr

/-- The end of a line. -/
def newline : UInt8 := 0x0a

/-- Whether a byte string is text in UTF-8. -/
def isText (line : Bytes) : Bool := (ByteArray.mk line.toArray).validateUTF8

/-- Whether a line is a yes: its first letter decides. -/
def isYes (line : Bytes) : Bool := line.head? == some 0x79 || line.head? == some 0x59

/-- The first line of an input without its end, and what follows it. -/
def splitLine (input : Bytes) : Bytes × Bytes :=
  let (line, rest) := input.span (· != newline)
  (line, rest.drop 1)

/-- The answer that a line is; a line that is no text is an error. -/
def answerOf (line : Bytes) : Except Error Bool :=
  if isText line then .ok (isYes line) else .error (.stream .invalidText)

/-- The answer to the next question.  A line is used up also if it is no text,
and so is a line that cannot be read to its end, but none is by a question that
is not shown. -/
def Operator.answer : Operator → Except Error Bool × Operator
  | prepared [] => (.ok false, prepared [])
  | prepared (answer :: rest) => (.ok answer, prepared rest)
  | typed input =>
      let (line, rest) := splitLine input
      (answerOf line, typed rest)
  | failing input fault =>
      if newline ∈ input then
        let (line, rest) := splitLine input
        (answerOf line, failing rest fault)
      else
        (.error (.stream fault), failing [] fault)
  | unshown 0 fault operator => (.error (.stream fault), unshown 0 fault operator)
  | unshown (questions + 1) fault operator =>
      let (answer, operator) := operator.answer
      (answer, unshown questions fault operator)

/-- A question as it is shown to the operator. -/
def prompt (question : String) : String := question ++ " [yN] "

/-! ## §2. Questions. -/

/-- A kind of protected page. -/
inductive Toggle where
  | otp
  | lock
  | dynlock
  | uid
  deriving DecidableEq, Repr

namespace Toggle

/-- The toggles in the order of asking. -/
def all : List Toggle := [otp, lock, dynlock, uid]

/-- The question about a toggle. -/
def question : Toggle → String
  | otp => "Write OTP/Capability Bytes ?"
  | lock => "Write Lock Bytes (Warning: OTP if set) ?"
  | dynlock => "Write Dynamic Lock Bytes ?"
  | uid => "Write UID bytes (only for special writeable UID cards) ?"

/-- Whether the command line opens a toggle. -/
def opened (arguments : Arguments) : Toggle → Bool
  | otp => arguments.otp
  | lock => arguments.lock
  | dynlock => arguments.dynlock
  | uid => arguments.writeUid

/-- Whether a toggle has to be asked about. -/
def isOpen (arguments : Arguments) (variant : Variant) (toggle : Toggle) : Bool :=
  !toggle.opened arguments && (toggle != dynlock || variant.dynamicLockPage.isSome)

/-- The policy with a toggle set. -/
def setIn (policy : WritePolicy) (value : Bool) : Toggle → WritePolicy
  | otp => { policy with otp := value }
  | lock => { policy with lock := value }
  | dynlock => { policy with dynlock := value }
  | uid => { policy with uid := value }

end Toggle

/-- The policy that the command line alone gives. -/
def Arguments.policy (arguments : Arguments) : WritePolicy :=
  ⟨arguments.otp, arguments.lock, arguments.dynlock, arguments.writeUid⟩

/-- An operator and the questions put to it so far, also one that could not be
shown. -/
structure Prompter where
  operator : Operator
  asked : List Toggle
  deriving DecidableEq, Repr

namespace Prompter

/-- Put one question. -/
def ask (prompter : Prompter) (toggle : Toggle) : Except Error Bool × Prompter :=
  let (answer, operator) := prompter.operator.answer
  (answer, ⟨operator, prompter.asked ++ [toggle]⟩)

/-- Put questions one after the other and set each toggle to its answer.  An
answer that cannot be read ends the asking. -/
def askEach : List Toggle → WritePolicy → Prompter → Except Error WritePolicy × Prompter
  | [], policy, prompter => (.ok policy, prompter)
  | toggle :: rest, policy, prompter =>
      match prompter.ask toggle with
      | (.ok answer, prompter) => askEach rest (toggle.setIn policy answer) prompter
      | (.error error, prompter) => (.error error, prompter)

/-- The policy for a variant: the flags, and the answers about the rest. -/
def resolve (prompter : Prompter) (arguments : Arguments) (variant : Variant) :
    Except Error WritePolicy × Prompter :=
  askEach (Toggle.all.filter (Toggle.isOpen arguments variant)) arguments.policy prompter

end Prompter

end Ultralight.CommandLine
