import ImportCycles.Drawing.Picture

/-! # Drawings as DOT graphs

A statement for every file and every import. In a label, quotes and backslashes are written after a
backslash.
-/

namespace ImportCycles.Drawing

/-- A label between quotes: quotes and backslashes get a backslash before them. -/
def quoteLabel : List Char → List Char
  | [] => []
  | c :: rest =>
    if c = '\x5c' ∨ c = '\x22' then '\x5c' :: c :: quoteLabel rest else c :: quoteLabel rest

/-- The name of a file in a DOT graph. -/
def dotName (index : Nat) : String := "n" ++ toString index

/-- The statement of a file. -/
def dotNode (node : Node) (index : Nat) : String :=
  "    " ++ dotName index ++ " [label=\"" ++ String.ofList (quoteLabel node.label.toList) ++
    "\", fillcolor=\"" ++ fillColor node.cyclic ++ "\", color=\"" ++ strokeColor node.cyclic ++
    "\"];"

/-- The statement of an import. -/
def dotLink (link : Link) : String :=
  "    " ++ dotName link.source ++ " -> " ++ dotName link.target ++ " [color=\"" ++
    linkColor link.cyclic ++ "\"" ++ (if link.cyclic then ", penwidth=2" else "") ++ "];"

/-- The drawing as a DOT graph. -/
def Picture.dot (picture : Picture) : String :=
  unlines (["digraph imports \x7b", "    rankdir=LR;",
      "    node [shape=box, style=\"rounded,filled\"];"] ++
    picture.nodes.zipIdx.map (fun (node, index) => dotNode node index) ++
    picture.links.map dotLink ++ ["\x7d"])

end ImportCycles.Drawing
