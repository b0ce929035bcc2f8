/-
  Ultralight.Reader
  ─────────────────
  **What a contactless reader is asked, and what a reader is.**

  A `Request` is one thing a reader is asked to do; the type of its answer
  depends on it (`Request.Value`), and any request may fail.  A `Reader` is
  any type of states with an answer to every request: nothing else is assumed
  of it, so a statement about all readers covers a device that answers
  nonsense.

  An `Exchange` is a request together with the answer it got.
-/
import Ultralight.Crc
import Ultralight.Page
import Ultralight.Target

namespace Ultralight

/-! ## §1. Requests. -/

/-- One thing a reader is asked to do. -/
inductive Request where
  /-- Become the initiator of exchanges. -/
  | init
  /-- Switch a property on or off. -/
  | setProperty (property : Property) (enable : Bool)
  /-- Select one tag, if given the one with this UID. -/
  | select (uid : Option Uid)
  /-- List at most so many tags in the field. -/
  | list (most : Nat)
  /-- Send so many bits of a byte string. -/
  | bits (frame : Bytes) (count : Nat)
  /-- Send a byte string. -/
  | bytes (frame : Bytes)
  /-- READ the block that starts at a page. -/
  | read (page : UInt8)
  /-- WRITE a page; of the block only the first page is stored. -/
  | write (page : UInt8) (data : Block)
  deriving DecidableEq, Repr

namespace Request

/-- What a request yields when it does not fail. -/
abbrev Value : Request → Type
  | init => Unit
  | setProperty _ _ => Unit
  | select _ => Option Target
  | list _ => List Target
  | bits _ _ => Bytes
  | bytes _ => Bytes
  | read _ => Block
  | write _ _ => Unit

/-- What a request is answered with. -/
abbrev Reply (request : Request) : Type := Except Error request.Value

end Request

/-- A request and the answer it got. -/
structure Exchange where
  request : Request
  reply : request.Reply

/-! ## §2. Readers. -/

/-- A type of reader states with an answer to every request. -/
class Reader (σ : Type) where
  /-- The answer to a request, and the state after it. -/
  answer : (request : Request) → σ → request.Reply × σ
  /-- The name of the reader. -/
  name : σ → String := fun _ => "unknown"
  /-- A frame closed by its checksum; the reader may have a way of its own. -/
  close : Bytes → σ → Bytes × σ := fun frame state => (Crc.append frame, state)

/-- The listing of a reader that has none of its own: whatever one selection
finds, and no selection at all for a list of no tags. -/
def listBySelecting {σ : Type}
    (select : Option Uid → σ → Except Error (Option Target) × σ) (most : Nat) (state : σ) :
    Except Error (List Target) × σ :=
  if most = 0 then (.ok [], state)
  else
    let (found, after) := select none state
    (found.map Option.toList, after)

end Ultralight
