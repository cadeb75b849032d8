import ImportCycles.Drawing
import ImportCycles.Graph.Numbering

/-! # Pictures of snapshots

A picture is drawn from a snapshot and the strongly connected components of its numbered files. The
components and the numbers in them may come in any order.
-/

namespace ImportCycles

namespace Snapshot

/-- Does file number `source` import file number `target`? -/
def hasEdge (snapshot : Snapshot) (source target : Nat) : Bool :=
  snapshot.edges.any fun edge => edge.source == source && edge.target == target

/-- A component holds a cycle if it has several files or one that imports itself. -/
def isCyclicComponent (snapshot : Snapshot) : List Nat → Bool
  | [] => false
  | [file] => snapshot.hasEdge file file
  | _ :: _ :: _ => true

/-- The files of those components that hold a cycle. -/
def cyclicFiles (snapshot : Snapshot) (components : List (List Nat)) : List Nat :=
  (components.filter snapshot.isCyclicComponent).flatten

/-- The number of the component of every file. -/
def componentOf (components : List (List Nat)) : Std.TreeMap Nat Nat :=
  .ofList (components.zipIdx.flatMap fun (component, number) => component.map (·, number))

/-- Is this import on a cycle? Its files then share a component, and the component holds a cycle. -/
def isCyclicEdge (componentOf : Std.TreeMap Nat Nat) (cyclic : List Nat) (edge : NumberedEdge) :
    Bool :=
  cyclic.contains edge.source && componentOf[edge.source]? == componentOf[edge.target]?

/-- The picture of a snapshot with the given components. -/
def picture (style : Drawing.Style) (components : List (List Nat)) (snapshot : Snapshot) :
    Drawing.Picture :=
  let cyclic := snapshot.cyclicFiles components
  let componentOf := componentOf components
  { nodes := snapshot.files.zipIdx.map fun (file, number) =>
      ⟨file.shown style.root, style.highlight && cyclic.contains number⟩
    links := snapshot.edges.map fun edge =>
      ⟨edge.source, edge.target, style.highlight && isCyclicEdge componentOf cyclic edge⟩ }

end Snapshot

end ImportCycles
