/-
  Ultralight.Target
  ─────────────────
  **A tag as selection reports it.**
-/
import Ultralight.Uid

namespace Ultralight

/-- The second byte of the answer to request that marks an Ultralight. -/
def ultralightAtqa1 : UInt8 := 0x44

/-- A selected tag. -/
structure Target where
  /-- First byte of the answer to request. -/
  atqa0 : UInt8
  /-- Second byte of the answer to request. -/
  atqa1 : UInt8
  /-- Select acknowledge. -/
  sak : UInt8
  /-- Identifier from anticollision. -/
  uid : Uid
  deriving DecidableEq, Repr

/-- Whether the answer to request is that of the Ultralight family. -/
def Target.isUltralight (target : Target) : Bool := target.atqa1 == ultralightAtqa1

end Ultralight
