/-
  Ultralight.WritePolicy
  ──────────────────────
  **Which protected pages a write may touch.**

  Four kinds of pages are protected: the UID pages, the lock bytes, the OTP
  or capability page and, where a variant has one, the page of the dynamic
  lock bytes.  A policy opens each kind by itself and is fixed before the
  first page is written.
-/
import Ultralight.Variant

namespace Ultralight

/-- The kinds of protected pages that are open for writing. -/
structure WritePolicy where
  /-- The OTP or capability page. -/
  otp : Bool
  /-- The static lock bytes; a lock bit can never be cleared. -/
  lock : Bool
  /-- The page of dynamic lock bytes. -/
  dynlock : Bool
  /-- The UID pages, which only clones let change. -/
  uid : Bool
  deriving DecidableEq, Repr

namespace WritePolicy

/-- Touch nothing protected. -/
def none : WritePolicy := ⟨false, false, false, false⟩

/-- Touch every page. -/
def all : WritePolicy := ⟨true, true, true, true⟩

/-- Whether a page must be left alone under this policy. -/
def skips (policy : WritePolicy) (variant : Variant) (page : Nat) : Bool :=
  if page < firstDataPage then !policy.uid
  else if page = lockPage then !policy.lock
  else if page = otpPage then !policy.otp
  else if variant.dynamicLockPage = some page then !policy.dynlock
  else false

end WritePolicy

end Ultralight
