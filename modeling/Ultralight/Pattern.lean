/-
  Ultralight.Pattern
  ──────────────────
  **Recognisable contents for tags and images.**

  The pattern of a page differs from that of every other page of a tag, and
  each seed gives a pattern of its own.
-/
import Ultralight.Image

namespace Ultralight.Pattern

/-- The contents of page `p` under a seed. -/
def page (p : Nat) (seed : UInt8) : Page :=
  let number := UInt8.ofNat p
  ⟨number, number ^^^ seed, number + seed, ~~~number⟩

/-- The image for a variant whose every page carries its pattern. -/
def image (variant : Variant) (seed : UInt8) : Image :=
  (Image.blank variant).overlay 0
    ((List.range variant.pages).flatMap fun p => (page p seed).toList)

end Ultralight.Pattern
