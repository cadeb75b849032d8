import ImportCycles.Octets

/-! # Paths and their components

A path is a string of bytes in which `/` divides pieces. Its components are what the pieces mean:
repeated and trailing slashes and inner `.` pieces mean nothing, a leading `/` is the root, and a
leading `.` of a relative path is kept as a component of its own.
-/

namespace ImportCycles.Path

/-- One step of a path. -/
inductive Component where
  /-- The leading `/` of an absolute path. -/
  | root
  /-- The leading `.` of a relative path. -/
  | here
  /-- A `..` piece. -/
  | up
  /-- A piece that names an entry. -/
  | name (piece : Octets)
  deriving DecidableEq, Repr

/-- The byte that divides the pieces of a path. -/
def slash : UInt8 := 0x2F

/-- What stands between the slashes of a path. -/
def pieces (path : Octets) : List Octets :=
  (path.bytes.splitOn slash).map .raw

/-- The path with these pieces. -/
def ofPieces (pieces : List Octets) : Octets :=
  ⟨[slash].intercalate (pieces.map (·.bytes))⟩

/-- An absolute path starts with a slash. -/
def isAbsolute (path : Octets) : Bool :=
  path.bytes.head? == some slash

/-- What a piece means anywhere but at the start of a path. -/
def Component.ofPiece? (piece : Octets) : Option Component :=
  if piece = "" ∨ piece = "." then none
  else if piece = ".." then some .up
  else some (.name piece)

/-- The component that only the start of a path can give. -/
def leading (path : Octets) : List Component :=
  if isAbsolute path then [.root]
  else if (pieces path).head? = some (.text ".") then [.here]
  else []

/-- The components of a path, in order. -/
def components (path : Octets) : List Component :=
  leading path ++ (pieces path).filterMap Component.ofPiece?

/-- `base` followed by `rest`, with a slash between them where one is needed. An absolute `rest`
stands alone. -/
def join (base rest : Octets) : Octets :=
  if isAbsolute rest then rest
  else if base = "" ∨ base.bytes.getLast? = some slash then base ++ rest
  else base ++ "/" ++ rest

end ImportCycles.Path
