import ImportCycles.Drawing.Picture

/-! # Drawings in plain text

Every file is followed by the files it imports, as a tree of depth one.
-/

namespace ImportCycles.Drawing

/-- The line of an imported file; `last` says whether it closes its tree. -/
def asciiLink (picture : Picture) (last : Bool) (link : Link) : String :=
  let branch := if last then "└──" else "├──"
  let label := ((picture.nodes[link.target]?).map (·.label)).getD ""
  let marker := if link.cyclic then " ⚠️  [CYCLE]" else ""
  "  " ++ branch ++ " → " ++ label ++ marker

/-- The lines of the imported files, the last one closing the tree. -/
def asciiLinks (picture : Picture) : List Link → List String
  | [] => ["  └── (no project imports)"]
  | [link] => [asciiLink picture true link]
  | link :: rest => asciiLink picture false link :: asciiLinks picture rest

/-- The lines of the file with number `index`: the file, what it imports, and an empty line. -/
def asciiNode (picture : Picture) (node : Node) (index : Nat) : List String :=
  let marker := if node.cyclic then " ⚠️  IN CYCLE" else ""
  let links := picture.links.filter (·.source = index)
  [node.label ++ marker] ++ asciiLinks picture links ++ [""]

/-- The drawing in plain text. -/
def Picture.ascii (picture : Picture) : String :=
  if picture.nodes.isEmpty then unlines ["No imports found to visualize"]
  else
    let legend := if picture.nodes.any (·.cyclic) then ["⚠️  = Part of an import cycle"] else []
    unlines (["", "📊 Import Graph", ""] ++
      picture.nodes.zipIdx.flatMap (fun (node, index) => asciiNode picture node index) ++ legend)

end ImportCycles.Drawing
