import ImportCycles.Drawing
import ImportCycles.Proofs.StrongComponents

/-! # Marks in drawings

A drawing marks files and imports as cyclic. The text alone tells what is marked, since two drawings
of a graph with different marks are different texts, in every format. The marks that a drawing takes
from components go to the imports whose target leads back to their source.
-/

namespace ImportCycles

namespace Drawing

open ImportGraph (mem_sortedEdges)

/-- Which files and which imports are shown as cyclic. -/
structure Marks where
  onFile : FileId → Bool
  onImport : FileId → FileId → Bool

namespace Marks

/-- A file with its mark. -/
def node (marks : Marks) (root : Option Octets) (file : FileId) : Node :=
  ⟨file.shown root, marks.onFile file⟩

/-- An import with its mark. -/
def link (marks : Marks) (graph : ImportGraph) (edge : Edge) : Link :=
  ⟨graph.files.idxOf edge.source, graph.files.idxOf edge.target,
    marks.onImport edge.source edge.target⟩

/-- The picture of a graph with the given marks. -/
def picture (marks : Marks) (root : Option Octets) (graph : ImportGraph) : Picture :=
  ⟨graph.files.map (marks.node root), graph.sortedEdges.map (marks.link graph)⟩

/-- The same files and the same imports of the graph are marked. -/
def Agree (graph : ImportGraph) (marks others : Marks) : Prop :=
  (∀ file ∈ graph.files, marks.onFile file = others.onFile file) ∧
    ∀ edge ∈ graph.edges,
      marks.onImport edge.source edge.target = others.onImport edge.source edge.target

end Marks

variable {graph : ImportGraph} {root : Option Octets} {marks others : Marks} {r s : List Char}

theorem Marks.Agree.picture_eq (agree : marks.Agree graph others) :
    marks.picture root graph = others.picture root graph := by
  have nodes : ∀ file ∈ graph.files, marks.node root file = others.node root file := by
    intro file mem
    rw [node, agree.1 file mem, node]
  have links : ∀ edge ∈ graph.sortedEdges, marks.link graph edge = others.link graph edge := by
    intro edge mem
    rw [link, agree.2 edge (mem_sortedEdges.1 mem), link]
  rw [Marks.picture, List.map_congr_left nodes, List.map_congr_left links, Marks.picture]

/-! A mark is told from its absence by the text that is written for it, whatever follows. -/

/-- The text tells whether there is a mark, and where it ends itself. -/
def Tells (written : Bool → List Char) : Prop :=
  ∀ m n r s, written m ++ r = written n ++ s → m = n ∧ r = s

/-- A text tells about the mark where it has two spellings that do not begin alike. -/
theorem tells_of_spelling (front : List Char) (spelling rest : Bool → List Char)
    (apart : ¬ spelling true <+: spelling false ∧ ¬ spelling false <+: spelling true) :
    Tells fun m => front ++ (spelling m ++ rest m) := by
  intro m n r s same
  simp only [List.append_assoc, List.append_cancel_left_eq] at same
  have either := List.prefix_or_prefix_of_prefix (List.prefix_append (spelling m) (rest m ++ r))
    (same ▸ List.prefix_append (spelling n) (rest n ++ s))
  have alike : m = n := by
    cases m <;> cases n
    · rfl
    · exact (either.elim apart.2 apart.1).elim
    · exact (either.elim apart.1 apart.2).elim
    · rfl
  subst alike
  exact ⟨rfl, by simpa using same⟩

/-- The text of some lines. -/
def textOf (lines : List String) : List Char :=
  lines.flatMap fun line => line.toList ++ ['\n']

theorem toList_unlines (lines : List String) : (unlines lines).toList = textOf lines := by
  simp [unlines, textOf, List.flatMap_map]

theorem textOf_append (lines others : List String) :
    textOf (lines ++ others) = textOf lines ++ textOf others :=
  List.flatMap_append

theorem textOf_flatMap {α : Type} (f : α → List String) (list : List α) :
    textOf (list.flatMap f) = list.flatMap fun a => textOf (f a) :=
  List.flatMap_assoc

theorem textOf_map {α : Type} (f : α → String) (list : List α) :
    textOf (list.map f) = list.flatMap fun a => textOf [f a] := by
  simp [textOf, List.flatMap_map]

/-- What holds of each element of a list as soon as its two texts agree holds of all of them as soon
as the texts of the list do. -/
theorem forall_of_flatMap_eq {α : Type} {f g : α → List Char} {P : α → Prop} {list : List α}
    (same : list.flatMap f ++ r = list.flatMap g ++ s)
    (each : ∀ a ∈ list, ∀ r s, f a ++ r = g a ++ s → P a ∧ r = s) : (∀ a ∈ list, P a) ∧ r = s := by
  induction list with
  | nil => exact ⟨by simp, same⟩
  | cons a rest ih =>
    rw [List.flatMap_cons, List.flatMap_cons, List.append_assoc, List.append_assoc] at same
    obtain ⟨here, same⟩ := each a (by simp) _ _ same
    obtain ⟨there, same⟩ := ih same fun b mem => each b (List.mem_cons_of_mem _ mem)
    exact ⟨List.forall_mem_cons.2 ⟨here, there⟩, same⟩

theorem textOf_cons (line : String) (lines : List String) :
    textOf (line :: lines) = line.toList ++ (['\n'] ++ textOf lines) := by
  simp [textOf]

theorem tells_mermaidNode (label : String) (index : Nat) :
    Tells fun m => textOf [mermaidNode ⟨label, m⟩ index, mermaidStyle ⟨label, m⟩ index] := by
  have line : ∀ m, mermaidNode ⟨label, m⟩ index = "    " ++ mermaidName index ++
      (if m then ("((\"", "\"))") else ("[\"", "\"]")).1 ++ label ++
        (if m then ("((\"", "\"))") else ("[\"", "\"]")).2 := fun _ => rfl
  have tells := tells_of_spelling ("    " ++ mermaidName index).toList
    (fun m => (if m then ("((\"", "\"))") else ("[\"", "\"]")).1.toList)
    (fun m => label.toList ++ ((if m then ("((\"", "\"))") else ("[\"", "\"]")).2.toList ++
      (['\n'] ++ textOf [mermaidStyle ⟨label, m⟩ index]))) (by decide)
  simpa only [line, textOf_cons, String.toList_append, List.append_assoc] using tells

theorem tells_mermaidLink (source target index : Nat) :
    Tells fun m => textOf [mermaidLink ⟨source, target, m⟩,
      mermaidLinkStyle ⟨source, target, m⟩ index] := by
  have link : ∀ m, mermaidLink ⟨source, target, m⟩ = mermaidLink ⟨source, target, false⟩ :=
    fun _ => rfl
  have line : ∀ m, mermaidLinkStyle ⟨source, target, m⟩ index =
      "    linkStyle " ++ toString index ++ " stroke:" ++ linkColor m := fun _ => rfl
  have tells := tells_of_spelling
    ((mermaidLink ⟨source, target, false⟩).toList ++
      (['\n'] ++ ("    linkStyle " ++ toString index ++ " stroke:").toList))
    (fun m => (linkColor m).toList) (fun _ => ['\n'] ++ textOf []) (by decide)
  simpa only [link, line, textOf_cons, String.toList_append, List.append_assoc] using tells

theorem tells_dotNode (label : String) (index : Nat) :
    Tells fun m => textOf [dotNode ⟨label, m⟩ index] := by
  have line : ∀ m, dotNode ⟨label, m⟩ index = "    " ++ dotName index ++ " [label=\"" ++
      String.ofList (quoteLabel label.toList) ++ "\", fillcolor=\"" ++ fillColor m ++
        "\", color=\"" ++ strokeColor m ++ "\"];" := fun _ => rfl
  have tells := tells_of_spelling
    ("    " ++ dotName index ++ " [label=\"" ++ String.ofList (quoteLabel label.toList) ++
      "\", fillcolor=\"").toList
    (fun m => (fillColor m).toList)
    (fun m => ("\", color=\"" ++ strokeColor m ++ "\"];").toList ++ (['\n'] ++ textOf []))
    (by decide)
  simpa only [line, textOf_cons, String.toList_append, List.append_assoc] using tells

theorem tells_dotLink (source target : Nat) :
    Tells fun m => textOf [dotLink ⟨source, target, m⟩] := by
  have line : ∀ m, dotLink ⟨source, target, m⟩ = "    " ++ dotName source ++ " -> " ++
      dotName target ++ " [color=\"" ++ linkColor m ++ "\"" ++
        (if m then ", penwidth=2" else "") ++ "];" := fun _ => rfl
  have tells := tells_of_spelling
    ("    " ++ dotName source ++ " -> " ++ dotName target ++ " [color=\"").toList
    (fun m => (linkColor m).toList)
    (fun m => ("\"" ++ (if m then ", penwidth=2" else "") ++ "];").toList ++
      (['\n'] ++ textOf [])) (by decide)
  simpa only [line, textOf_cons, String.toList_append, List.append_assoc] using tells

theorem tells_asciiLabel (label : String) :
    Tells fun m => textOf [label ++ if m then " ⚠️  IN CYCLE" else ""] := by
  have tells := tells_of_spelling label.toList
    (fun m => (if m then " ⚠️  IN CYCLE" else "").toList ++ ['\n']) (fun _ => textOf []) (by decide)
  simpa only [textOf_cons, String.toList_append, List.append_assoc] using tells

theorem tells_asciiLink (picture : Picture) (last : Bool) (source target : Nat) :
    Tells fun m => textOf [asciiLink picture last ⟨source, target, m⟩] := by
  have line : ∀ m, asciiLink picture last ⟨source, target, m⟩ =
      "  " ++ (if last then "└──" else "├──") ++ " → " ++
        ((picture.nodes[target]?).map (·.label)).getD "" ++
          (if m then " ⚠️  [CYCLE]" else "") := fun _ => rfl
  have tells := tells_of_spelling
    ("  " ++ (if last then "└──" else "├──") ++ " → " ++
      ((picture.nodes[target]?).map (·.label)).getD "").toList
    (fun m => (if m then " ⚠️  [CYCLE]" else "").toList ++ ['\n']) (fun _ => textOf []) (by decide)
  simpa only [line, textOf_cons, String.toList_append, List.append_assoc] using tells

theorem forall_of_zipIdx {α : Type} {P : α → Prop} {list : List α}
    (all : ∀ entry ∈ list.zipIdx, P entry.1) : ∀ a ∈ list, P a := by
  intro a mem
  obtain ⟨index, found⟩ := List.mem_iff_getElem?.1 mem
  exact all (a, index) (List.mem_zipIdx_iff_getElem?.2 found)

theorem Marks.toList_mermaid (marks : Marks) :
    (marks.picture root graph).mermaid.toList = textOf ["graph TD"] ++
      (graph.files.zipIdx.flatMap (fun entry => textOf
          [mermaidNode (marks.node root entry.1) entry.2,
            mermaidStyle (marks.node root entry.1) entry.2]) ++
        (graph.sortedEdges.zipIdx.flatMap (fun entry => textOf
          [mermaidLink (marks.link graph entry.1),
            mermaidLinkStyle (marks.link graph entry.1) entry.2]) ++ [])) := by
  simp only [Picture.mermaid, picture, toList_unlines, textOf_append, textOf_flatMap,
    List.zipIdx_map, List.flatMap_map, List.append_assoc, List.append_nil, Prod.map_fst,
    Prod.map_snd, id_eq]

theorem Marks.agree_of_mermaid_eq
    (same : (marks.picture root graph).mermaid = (others.picture root graph).mermaid) :
    marks.Agree graph others := by
  have same := congrArg String.toList same
  rw [toList_mermaid, toList_mermaid, List.append_cancel_left_eq] at same
  obtain ⟨files, same⟩ := forall_of_flatMap_eq
    (P := fun entry : FileId × Nat => marks.onFile entry.1 = others.onFile entry.1) same
    fun entry _ => tells_mermaidNode (entry.1.shown root) entry.2 (marks.onFile entry.1)
      (others.onFile entry.1)
  obtain ⟨edges, _⟩ := forall_of_flatMap_eq
    (P := fun entry : Edge × Nat => marks.onImport entry.1.source entry.1.target =
      others.onImport entry.1.source entry.1.target) same
    fun entry _ => tells_mermaidLink (graph.files.idxOf entry.1.source)
      (graph.files.idxOf entry.1.target) entry.2 (marks.onImport entry.1.source entry.1.target)
      (others.onImport entry.1.source entry.1.target)
  refine ⟨forall_of_zipIdx files, ?_⟩
  intro edge mem
  obtain ⟨index, found⟩ := List.mem_iff_getElem?.1 (mem_sortedEdges.2 mem)
  exact edges (edge, index) (List.mem_zipIdx_iff_getElem?.2 found)

theorem Marks.toList_dot (marks : Marks) :
    (marks.picture root graph).dot.toList = textOf ["digraph imports \x7b", "    rankdir=LR;",
        "    node [shape=box, style=\"rounded,filled\"];"] ++
      (graph.files.zipIdx.flatMap (fun entry => textOf
          [dotNode (marks.node root entry.1) entry.2]) ++
        (graph.sortedEdges.flatMap (fun edge => textOf [dotLink (marks.link graph edge)]) ++
          textOf ["\x7d"])) := by
  simp only [Picture.dot, picture, toList_unlines, textOf_append, textOf_map, List.zipIdx_map,
    List.flatMap_map, List.append_assoc, Prod.map_fst, Prod.map_snd, id_eq]

theorem Marks.agree_of_dot_eq
    (same : (marks.picture root graph).dot = (others.picture root graph).dot) :
    marks.Agree graph others := by
  have same := congrArg String.toList same
  rw [toList_dot, toList_dot, List.append_cancel_left_eq] at same
  obtain ⟨files, same⟩ := forall_of_flatMap_eq
    (P := fun entry : FileId × Nat => marks.onFile entry.1 = others.onFile entry.1) same
    fun entry _ => tells_dotNode (entry.1.shown root) entry.2 (marks.onFile entry.1)
      (others.onFile entry.1)
  obtain ⟨edges, _⟩ := forall_of_flatMap_eq
    (P := fun edge : Edge => marks.onImport edge.source edge.target =
      others.onImport edge.source edge.target) same
    fun edge _ => tells_dotLink (graph.files.idxOf edge.source) (graph.files.idxOf edge.target)
      (marks.onImport edge.source edge.target) (others.onImport edge.source edge.target)
  exact ⟨forall_of_zipIdx files, fun edge mem => edges edge (mem_sortedEdges.2 mem)⟩

/-- The text of a file's imports tells which of them are marked. -/
theorem Marks.agree_of_asciiLinks_eq (edges : List Edge)
    (same : textOf (asciiLinks (marks.picture root graph) (edges.map (marks.link graph))) ++ r =
      textOf (asciiLinks (others.picture root graph) (edges.map (others.link graph))) ++ s) :
    (∀ edge ∈ edges, marks.onImport edge.source edge.target =
      others.onImport edge.source edge.target) ∧ r = s := by
  have labels : ∀ last link, asciiLink (marks.picture root graph) last link =
      asciiLink (others.picture root graph) last link := by
    intro last link
    simp only [asciiLink, Marks.picture, List.getElem?_map, Option.map_map]
    rfl
  have first : ∀ last edge r s,
      textOf [asciiLink (marks.picture root graph) last (marks.link graph edge)] ++ r =
        textOf [asciiLink (others.picture root graph) last (others.link graph edge)] ++ s →
      marks.onImport edge.source edge.target = others.onImport edge.source edge.target ∧ r = s := by
    intro last edge r s same
    rw [labels] at same
    exact tells_asciiLink _ last (graph.files.idxOf edge.source) (graph.files.idxOf edge.target)
      (marks.onImport edge.source edge.target) (others.onImport edge.source edge.target) r s same
  match edges with
  | [] => exact ⟨by simp, List.append_cancel_left same⟩
  | [edge] =>
    obtain ⟨here, same⟩ := first true edge r s same
    exact ⟨by simpa using here, same⟩
  | edge :: next :: rest =>
    have divided : ∀ marks : Marks, textOf (asciiLinks (marks.picture root graph)
        ((edge :: next :: rest).map (marks.link graph))) =
        textOf [asciiLink (marks.picture root graph) false (marks.link graph edge)] ++
          textOf (asciiLinks (marks.picture root graph)
            ((next :: rest).map (marks.link graph))) := fun marks => textOf_append [_] _
    rw [divided, divided, List.append_assoc, List.append_assoc] at same
    obtain ⟨here, same⟩ := first false edge _ _ same
    obtain ⟨there, same⟩ := Marks.agree_of_asciiLinks_eq (next :: rest) same
    exact ⟨List.forall_mem_cons.2 ⟨here, there⟩, same⟩

theorem Marks.toList_ascii (marks : Marks) (some : graph.files ≠ []) :
    (marks.picture root graph).ascii.toList = textOf ["", "📊 Import Graph", ""] ++
      (graph.files.zipIdx.flatMap (fun entry =>
          textOf [entry.1.shown root ++ if marks.onFile entry.1 then " ⚠️  IN CYCLE" else ""] ++
            (textOf (asciiLinks (marks.picture root graph)
              ((graph.sortedEdges.filter (graph.files.idxOf ·.source = entry.2)).map
                (marks.link graph))) ++ textOf [""])) ++
        textOf (if (marks.picture root graph).nodes.any (·.cyclic) then
          ["⚠️  = Part of an import cycle"] else [])) := by
  have nonempty : ((graph.files.map (marks.node root)).isEmpty = true) = False := by
    simpa using some
  have links : ∀ index, (marks.picture root graph).links.filter (·.source = index) =
      (graph.sortedEdges.filter (graph.files.idxOf ·.source = index)).map (marks.link graph) := by
    intro index
    rw [picture, List.filter_map]
    rfl
  have nodes : (marks.picture root graph).nodes = graph.files.map (marks.node root) := rfl
  simp only [Picture.ascii, nonempty, if_false, toList_unlines, textOf_append,
    textOf_flatMap, asciiNode, links, nodes, List.zipIdx_map, List.flatMap_map, List.append_assoc,
    Prod.map_fst, Prod.map_snd, id_eq]
  rfl

theorem Marks.agree_of_ascii_eq
    (same : (marks.picture root graph).ascii = (others.picture root graph).ascii) :
    marks.Agree graph others := by
  by_cases none : graph.files = []
  · have noFile : ∀ file, file ∉ graph.files := by simp [none]
    refine ⟨fun file mem => absurd mem (noFile file), ?_⟩
    intro edge mem
    exact absurd (ImportGraph.mem_files.2 ⟨edge, mem, .inl rfl⟩) (noFile edge.source)
  · have same := congrArg String.toList same
    rw [toList_ascii _ none, toList_ascii _ none, List.append_cancel_left_eq] at same
    obtain ⟨all, _⟩ := forall_of_flatMap_eq
      (P := fun entry : FileId × Nat => marks.onFile entry.1 = others.onFile entry.1 ∧
        ∀ edge ∈ graph.sortedEdges.filter (graph.files.idxOf ·.source = entry.2),
          marks.onImport edge.source edge.target = others.onImport edge.source edge.target) same
      (by
        intro entry _ r s same
        simp only [List.append_assoc] at same
        obtain ⟨here, same⟩ := tells_asciiLabel (entry.1.shown root) (marks.onFile entry.1)
          (others.onFile entry.1) _ _ same
        obtain ⟨edges, same⟩ := Marks.agree_of_asciiLinks_eq _ same
        exact ⟨⟨here, edges⟩, List.append_cancel_left same⟩)
    refine ⟨forall_of_zipIdx fun entry mem => (all entry mem).1, ?_⟩
    intro edge mem
    -- An import stands below its source, so its mark shows there.
    have source : edge.source ∈ graph.files := ImportGraph.mem_files.2 ⟨edge, mem, .inl rfl⟩
    have below := all (edge.source, graph.files.idxOf edge.source)
      (List.mem_zipIdx_iff_getElem?.2 (List.getElem?_idxOf source))
    exact below.2 edge (List.mem_filter.2 ⟨mem_sortedEdges.2 mem, by simp⟩)

/-- The text of a drawing tells what is marked in it. -/
theorem Marks.write_eq_iff (format : Format) :
    (marks.picture root graph).write format = (others.picture root graph).write format ↔
      marks.Agree graph others := by
  constructor
  · intro same
    cases format with
    | ascii => exact agree_of_ascii_eq same
    | mermaid => exact agree_of_mermaid_eq same
    | dot => exact agree_of_dot_eq same
  · intro agree
    rw [agree.picture_eq]

/-- The marks that a drawing takes from the components of its graph. -/
def Marks.ofComponents (graph : ImportGraph) : Marks where
  onFile := (graph.cyclicFiles graph.components).contains
  onImport source target :=
    isCyclicEdge graph.components (graph.cyclicFiles graph.components) ⟨source, target, {}⟩

theorem picture_eq_ofComponents (root : Option Octets) (graph : ImportGraph) :
    Drawing.picture { highlight := true, root } graph =
      (Marks.ofComponents graph).picture root graph := rfl

theorem isCyclicEdge_iff {components : List (List FileId)} (divides : graph.Divides components)
    {edge : Edge} (step : graph.Imports edge.source edge.target) :
    isCyclicEdge components (graph.cyclicFiles components) edge = true ↔
      Relation.ReflTransGen graph.Imports edge.target edge.source := by
  obtain ⟨other, mem, atSource, _⟩ := ImportGraph.imports_iff_mem_edges.1 step
  have source : edge.source ∈ graph.files :=
    ImportGraph.mem_files.2 ⟨other, mem, .inl atSource.symm⟩
  rw [isCyclicEdge, Bool.and_eq_true, beq_iff_eq, divides.contains_cyclicFiles source,
    divides.componentIndex_eq_iff source, ImportGraph.isOnCycle_iff]
  constructor
  · rintro ⟨_, _, back⟩
    exact back
  · intro back
    exact ⟨Relation.TransGen.head' step back, .single step, back⟩

end Drawing

end ImportCycles
