/-
  Ultralight.Report
  ─────────────────
  **What became of each page of a pass over the tag.**

  A pass leaves one marker per page it dealt with.  The line of markers is
  logged, and the counts of a report are the counts of its markers.
-/
import Ultralight.Variant

namespace Ultralight

/-- What became of a page. -/
inductive Marker where
  /-- The page was read or written. -/
  | done
  /-- The page could not be read or written. -/
  | failed
  /-- The page is protected and was left alone. -/
  | skipped
  deriving DecidableEq, Repr

/-- The character a marker is shown as. -/
def Marker.char : Marker → Char
  | done => '.'
  | failed => 'f'
  | skipped => 's'

/-- The outcome of reading a whole tag. -/
structure ReadReport where
  /-- Pages of the variant. -/
  pages : Nat
  /-- Pages copied into the image. -/
  read : Nat
  /-- Pages whose block could not be read. -/
  failed : Nat
  deriving DecidableEq, Repr

namespace ReadReport

/-- The report of a pass that left these markers. -/
def ofMarkers (pages : Nat) (markers : List Marker) : ReadReport :=
  ⟨pages, markers.count .done, markers.count .failed⟩

/-- Every page was read. -/
def isComplete (report : ReadReport) : Bool :=
  report.failed == 0 && report.read == report.pages

end ReadReport

/-- The outcome of writing pages. -/
structure WriteReport where
  /-- Pages of the variant. -/
  pages : Nat
  /-- Pages that the tag accepted. -/
  written : Nat
  /-- Pages that the policy protects. -/
  skipped : Nat
  /-- Pages that the tag refused. -/
  failed : Nat
  deriving DecidableEq, Repr

/-- The report of a pass that left these markers. -/
def WriteReport.ofMarkers (pages : Nat) (markers : List Marker) : WriteReport :=
  ⟨pages, markers.count .done, markers.count .skipped, markers.count .failed⟩

end Ultralight
