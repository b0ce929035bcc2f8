/-
  Ultralight.Session.Authentication
  ─────────────────────────────────
  **Presenting a password.**

  The first two bytes of the answer to PWD_AUTH are the acknowledgement.  No
  answer, a shorter one, and a reader that would not leave raw mode all count
  as a failed authentication.
-/
import Ultralight.Frame
import Ultralight.RawMode
import Ultralight.Session.Basic

namespace Ultralight.Session

/-- Present a password in raw mode: what the tag answered, and how leaving
raw mode went. -/
def presentPassword (password : Password) :
    Talk (Except Error Bytes × Except Error Unit) := do
  RawMode.enter
  let answer ← Talk.attempt (RawMode.sendFrame (Frame.authenticate password))
  let left ← Talk.attempt RawMode.leave
  pure (answer, left)

/-- The acknowledgement of a password, if everything about it went well. -/
def acknowledgement (password : Password) : Talk Pack := do
  let (answer, left) ← presentPassword password
  match answer with
  | .error error =>
      Talk.report (.authUnanswered error)
      throw .authFailed
  | .ok bytes =>
      match Pack.ofAnswer bytes, left with
      | .error _, _ => throw .authFailed
      | .ok _, .error error =>
          Talk.report (.authKeptRawMode error)
          throw .authFailed
      | .ok pack, .ok () => pure pack

/-- Authenticate; an accepted password and its acknowledgement become the
credentials of the session. -/
def authenticate (password : Password) : Action Session Pack := do
  Talk.report (.authenticating password)
  let pack ← acknowledgement password
  modify fun session => { session with credentials := .of password pack }
  Talk.report (.authenticated pack)
  pure pack

end Ultralight.Session
