import ImportCycles.Cycle.Basic
import ImportCycles.Graph.Basic
import ImportCycles.Text.Bytes

/-! # Diagnostics

A diagnostic is a cycle together with the import statement that leads into it, in the file the cycle
was found from.
-/

namespace ImportCycles

/-- One reported cycle. -/
structure Diagnostic where
  /-- The file from which the cycle was found. -/
  file : FileId
  /-- The statement in `file` that leads into the cycle. -/
  location : Location
  cycle : Cycle
  message : String
  /-- The text of `file`. -/
  source : String
  deriving DecidableEq, Repr, Inhabited

namespace Diagnostic

/-- What every message starts with. -/
def messageStart : String := "circular import detected"

/-- The diagnostic for a cycle; its message shows paths relative to `root`. -/
def new (cycle : Cycle) (location : Location) (source : String) (root : Option Octets) :
    Diagnostic where
  file := cycle.trigger?.getD FileId.root
  location
  cycle
  message := messageStart ++ ": " ++ cycle.render root
  source

end Diagnostic

/-- Where the statement ends. Offsets are words of 64 bits, so the sum wraps around. -/
def Location.stop (location : Location) : Nat :=
  (location.offset + location.length) % UInt64.size

/-- The text of the statement that leads into the cycle, as far as the source holds it. -/
def Diagnostic.snippet (diagnostic : Diagnostic) : String :=
  let source := diagnostic.source.toList
  let size := Text.byteLength source
  let start := min diagnostic.location.offset size
  let stop := min diagnostic.location.stop size
  String.ofList ((Text.slice? source start stop).getD [])

end ImportCycles
