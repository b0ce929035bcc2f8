/-
  Ultralight.Property
  ───────────────────
  **The switches of a reader.**
-/

namespace Ultralight

/-- A reader property that can be switched on and off. -/
inductive Property where
  /-- The reader appends and checks CRC_A by itself. -/
  | handleCrc
  /-- The reader wraps frames for its own data exchange command. -/
  | easyFraming
  /-- Selection goes on until a tag answers. -/
  | infiniteSelect
  deriving DecidableEq, Repr

/-- The name a property has in messages. -/
def Property.name : Property → String
  | handleCrc => "HandleCrc"
  | easyFraming => "EasyFraming"
  | infiniteSelect => "InfiniteSelect"

end Ultralight
