/-
  Ultralight.ScriptedReader
  ─────────────────────────
  **A reader that answers from queues.**

  Each kind of request takes the next entry of its own queue.  A queue that
  is used up goes on with one answer for ever: switching and writing succeed,
  selecting finds no tag, listing finds nothing, and exchanges fail.  A
  script may bring a name, a listing and checksum bytes of its own.
-/
import Ultralight.Reader

namespace Ultralight

/-- What a scripted reader does its own way. -/
structure Customs where
  /-- Its name. -/
  name : String
  /-- The bytes it closes every frame by. -/
  tail : Bytes
  deriving DecidableEq, Repr

/-- The answers that are still to be given. -/
structure ScriptedReader where
  init : List (Except Error Unit)
  property : List (Except Error Unit)
  select : List (Except Error (Option Target))
  list : List (Except Error (List Target))
  bits : List (Except Error Bytes)
  bytes : List (Except Error Bytes)
  read : List (Except Error Block)
  write : List (Except Error Unit)
  customs : Option Customs

namespace ScriptedReader

/-- A reader whose queues are all used up. -/
def silent : ScriptedReader where
  init := []
  property := []
  select := []
  list := []
  bits := []
  bytes := []
  read := []
  write := []
  customs := none

/-- The next answer of a queue, or the answer it goes on with. -/
def next {α : Type} (queue : List α) (last : α) : α := queue.headD last

/-- One selection, whatever tag is asked for. -/
def selectNext (reader : ScriptedReader) : Except Error (Option Target) × ScriptedReader :=
  (next reader.select (.error .noTag), { reader with select := reader.select.tail })

/-- A bound on the selections that a wait takes. -/
def pendingSelections (reader : ScriptedReader) : Nat := reader.select.length + 1

/-- The answer to a request. -/
def answer : (request : Request) → ScriptedReader → request.Reply × ScriptedReader
  | .init, reader => (next reader.init (.ok ()), { reader with init := reader.init.tail })
  | .setProperty _ _, reader =>
      (next reader.property (.ok ()), { reader with property := reader.property.tail })
  | .select _, reader => reader.selectNext
  | .list most, reader =>
      match reader.customs with
      | some _ => (next reader.list (.ok []), { reader with list := reader.list.tail })
      | none => listBySelecting (fun _ reader => reader.selectNext) most reader
  | .bits _ _, reader =>
      (next reader.bits (.error .noAnswer), { reader with bits := reader.bits.tail })
  | .bytes _, reader =>
      (next reader.bytes (.error .noAnswer), { reader with bytes := reader.bytes.tail })
  | .read _, reader =>
      (next reader.read (.error .refused), { reader with read := reader.read.tail })
  | .write _ _, reader =>
      (next reader.write (.ok ()), { reader with write := reader.write.tail })

instance : Reader ScriptedReader where
  answer := answer
  name := fun reader => (reader.customs.map Customs.name).getD "unknown"
  close := fun frame reader =>
    match reader.customs with
    | some customs => (frame ++ customs.tail, reader)
    | none => (Crc.append frame, reader)

/-- How a request is written in the record of calls.  Without a listing of
its own the reader lists by one selection, or by none. -/
def callText (reader : ScriptedReader) : Request → Option String
  | .init => some "InitiatorInit"
  | .setProperty property enable =>
      some ("SetProperty(" ++ property.name ++ "," ++ toString enable ++ ")")
  | .select none => some "Select(-)"
  | .select (some uid) => some ("Select(" ++ uid.text ++ ")")
  | .list most =>
      match reader.customs with
      | some _ => some ("List(" ++ toString most ++ ")")
      | none => if most = 0 then none else some "Select(-)"
  | .bits frame count => some ("Bits(" ++ Hex.encode frame ++ "," ++ toString count ++ ")")
  | .bytes frame => some ("Bytes(" ++ Hex.encode frame ++ ")")
  | .read page => some ("Read(" ++ toString page.toNat ++ ")")
  | .write page data =>
      some ("Write(" ++ toString page.toNat ++ "," ++ Hex.encode data.toList ++ ")")

end ScriptedReader

end Ultralight
