import ImportCycles.Path.Component

/-! # The last component of a path

The directory part, the extension and the stem of a path, read off its bytes. Slashes and `.` pieces
after the last component do not count; everything before it is kept as it is written.
-/

namespace ImportCycles.Path

/-- A piece that means nothing unless it starts the path. -/
def isSkipped (piece : Octets) : Bool :=
  piece = "" || piece = "."

/-- Drops the pieces at the end that mean nothing. -/
def trimSkipped (body : List Octets) : List Octets :=
  (body.reverse.dropWhile isSkipped).reverse

/-- The pieces before the last component, and the last component. A path without a component other
than the root has none. -/
def splitLast? (path : Octets) : Option (List Octets × Octets) :=
  match pieces path with
  | [] => none
  | first :: body =>
    match (trimSkipped body).getLast? with
    | some last => some (first :: (trimSkipped body).dropLast, last)
    | none => if first = "" then none else some ([], first)

/-- A path without its last component. -/
def parent? (path : Octets) : Option Octets :=
  match splitLast? path with
  | none => none
  | some ([], _) => some ""
  | some (first :: body, _) =>
    match trimSkipped body with
    | [] => some (if first = "" then "/" else first)
    | kept => some (ofPieces (first :: kept))

/-- The byte in front of an extension. -/
def dot : UInt8 := 0x2E

/-- A file name split at its last dot, unless that dot starts the name or there is none. -/
def splitName? (name : Octets) : Option (Octets × Octets) :=
  if name = ".." then none
  else
    let reversed := name.bytes.reverse
    match reversed.dropWhile (· ≠ dot) with
    | [] => none
    | _ :: stem =>
      if stem = [] then none
      else some (⟨stem.reverse⟩, ⟨(reversed.takeWhile (· ≠ dot)).reverse⟩)

/-- The extension of a path's last component. -/
def extension? (path : Octets) : Option Octets := do
  let (_, last) ← splitLast? path
  let (_, extension) ← splitName? last
  return extension

/-- The path up to the end of its last component's stem. A path that ends with `..` is kept. -/
def stem (path : Octets) : Octets :=
  match splitLast? path with
  | none => path
  | some (lead, last) =>
    match splitName? last with
    | none => if last = ".." then path else ofPieces (lead ++ [last])
    | some (stem, _) => ofPieces (lead ++ [stem])

/-- The path without an extension that it has. As many bytes as the extension has are dropped at the
end of the path, and then what follows the stem of the rest. -/
def dropExtension (path extension : Octets) : Octets :=
  stem ⟨path.bytes.take (path.size - extension.size)⟩

/-- The path with a dot and `extension` written after it. -/
def append (path extension : Octets) : Octets :=
  path ++ "." ++ extension

end ImportCycles.Path
