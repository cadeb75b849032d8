import ImportCycles.Drawing.Picture

/-! # Drawings as Mermaid diagrams

A node statement and a style for every file, then a link and its style for every import. Link styles
name links by their place among the links.
-/

namespace ImportCycles.Drawing

/-- The name of a file in a diagram. -/
def mermaidName (index : Nat) : String := "f" ++ toString index

/-- The statement that draws a file: round if it is on a cycle. -/
def mermaidNode (node : Node) (index : Nat) : String :=
  let shape := if node.cyclic then ("((\"", "\"))") else ("[\"", "\"]")
  "    " ++ mermaidName index ++ shape.1 ++ node.label ++ shape.2

/-- The statement that colours a file. -/
def mermaidStyle (node : Node) (index : Nat) : String :=
  "    style " ++ mermaidName index ++ " fill:" ++ fillColor node.cyclic ++ ",stroke:" ++
    strokeColor node.cyclic ++ (if node.cyclic then ",stroke-width:3px" else "")

/-- The statement that draws an import. -/
def mermaidLink (link : Link) : String :=
  "    " ++ mermaidName link.source ++ " --> " ++ mermaidName link.target

/-- The statement that colours an import. -/
def mermaidLinkStyle (link : Link) (index : Nat) : String :=
  "    linkStyle " ++ toString index ++ " stroke:" ++ linkColor link.cyclic

/-- The drawing as a Mermaid diagram. -/
def Picture.mermaid (picture : Picture) : String :=
  unlines (["graph TD"] ++
    picture.nodes.zipIdx.flatMap
      (fun (node, index) => [mermaidNode node index, mermaidStyle node index]) ++
    picture.links.zipIdx.flatMap
      (fun (link, index) => [mermaidLink link, mermaidLinkStyle link index]))

end ImportCycles.Drawing
