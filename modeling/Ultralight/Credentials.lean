/-
  Ultralight.Credentials
  ──────────────────────
  **Passwords, their acknowledgements, and what is known of them.**

  A tag that supports PWD_AUTH compares a 32-bit password (PWD) and answers
  with a 16-bit acknowledgement (PACK).  It stores both and shows neither, so
  a session keeps the pair it authenticated with.
-/
import Ultralight.Error
import Ultralight.Page

namespace Ultralight

/-- A password: the page that stores it. -/
structure Password where
  page : Page
  deriving DecidableEq, Repr

namespace Password

/-- The four bytes of a password. -/
def bytes (password : Password) : Bytes := password.page.toList

/-- The password made of exactly four bytes. -/
def ofBytes? (bytes : Bytes) : Option Password := (Page.ofList? bytes).map .mk

/-- The password that a text spells: eight digits, blanks ignored. -/
def parse (text : String) : Except Error Password :=
  match Hex.decode text with
  | .error fault => .error (.invalidHex fault)
  | .ok bytes =>
      match ofBytes? bytes with
      | some password => .ok password
      | none => .error (.invalidHex (.notAPassword text))

/-- A password as shown. -/
def text (password : Password) : String := Hex.encode password.bytes

/-- What a tag without a password of its own accepts. -/
def factory : Password := ⟨⟨0xff, 0xff, 0xff, 0xff⟩⟩

end Password

/-- The acknowledgement of a password. -/
structure Pack where
  b0 : UInt8
  b1 : UInt8
  deriving DecidableEq, Repr

namespace Pack

/-- The acknowledgement assumed where none is known. -/
def zero : Pack := ⟨0, 0⟩

/-- The two bytes of an acknowledgement. -/
def bytes (pack : Pack) : Bytes := [pack.b0, pack.b1]

/-- The acknowledgement that opens an answer; what follows is ignored. -/
def ofAnswer : Bytes → Except Error Pack
  | b0 :: b1 :: _ => .ok ⟨b0, b1⟩
  | short => .error (.invalidLength 2 short.length)

/-- An acknowledgement as shown. -/
def text (pack : Pack) : String := Hex.encode pack.bytes

end Pack

/-- What a session knows of a tag's secrets. -/
structure Credentials where
  password : Option Password
  pack : Option Pack
  deriving DecidableEq, Repr

namespace Credentials

/-- Nothing is known. -/
def unknown : Credentials := ⟨none, none⟩

/-- The pair of a successful authentication. -/
def of (password : Password) (pack : Pack) : Credentials := ⟨some password, some pack⟩

/-- Whether a password is known. -/
def isKnown (credentials : Credentials) : Bool := credentials.password.isSome

end Credentials

end Ultralight
