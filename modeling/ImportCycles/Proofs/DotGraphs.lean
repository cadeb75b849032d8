import ImportCycles.Proofs.CycleMarks
import ImportCycles.Proofs.StatementReaders
import ImportCycles.Report.Github

/-! # DOT graphs that are read back

A reader of DOT graphs gets the picture that was written: the label of every file as it was, the
numbers of the files of every import, and what is marked. A label ends at the first quotation mark
without a backslash of its own before it, and the backslashes in it are paired off, so no label ends
too early, also if it ends with a backslash or has quotation marks and line ends in it. So drawings
of different pictures are different texts.
-/

namespace ImportCycles.Drawing

open Text (Reader readMany readMark readNumber)

/-! ### Labels -/

/-- The label that was written with backslashes. -/
def unquoteLabel : List Char → List Char
  | '\x5c' :: c :: rest => c :: unquoteLabel rest
  | c :: rest => c :: unquoteLabel rest
  | [] => []

/-- What stands in front of the first quotation mark that has no backslash of its own before it, and
the text from there on. -/
def splitLabel : List Char → List Char × List Char
  | '\x5c' :: c :: rest => ('\x5c' :: c :: (splitLabel rest).1, (splitLabel rest).2)
  | '\x22' :: rest => ([], '\x22' :: rest)
  | c :: rest => (c :: (splitLabel rest).1, (splitLabel rest).2)
  | [] => ([], [])

theorem quoteLabel_special {c : Char} (special : c = '\x5c' ∨ c = '\x22') (label : List Char) :
    quoteLabel (c :: label) = '\x5c' :: c :: quoteLabel label := by
  rw [quoteLabel, if_pos special]

theorem quoteLabel_plain {c : Char} (plain : ¬ (c = '\x5c' ∨ c = '\x22')) (label : List Char) :
    quoteLabel (c :: label) = c :: quoteLabel label := by
  rw [quoteLabel, if_neg plain]

/-- Taking the backslashes away gives the label. -/
theorem unquoteLabel_quoteLabel (label : List Char) : unquoteLabel (quoteLabel label) = label := by
  induction label with
  | nil => rfl
  | cons c label ih =>
    by_cases special : c = '\x5c' ∨ c = '\x22'
    · rw [quoteLabel_special special, unquoteLabel, ih]
    · rw [quoteLabel_plain special]
      rw [not_or] at special
      rw [unquoteLabel, ih]
      exact fun _ _ same => absurd same special.1

/-- A label ends at the quotation mark behind it. -/
theorem splitLabel_append (behind : List Char) (quote : behind.head? = some '\x22')
    (label : List Char) : splitLabel (quoteLabel label ++ behind) = (quoteLabel label, behind) := by
  induction label with
  | nil =>
    obtain ⟨rest, rfl⟩ := List.head?_eq_some_iff.1 quote
    rfl
  | cons c label ih =>
    by_cases special : c = '\x5c' ∨ c = '\x22'
    · rw [quoteLabel_special special, List.cons_append, List.cons_append, splitLabel, ih]
    · rw [quoteLabel_plain special]
      rw [not_or] at special
      rw [List.cons_append, splitLabel, ih]
      · exact fun _ _ same => absurd same special.1
      · exact special.2

/-- The backslashes may be put in front of the backslashes first, and then in front of the quotation
marks. -/
theorem quoteLabel_eq_substitute (label : List Char) :
    quoteLabel label =
      Report.substitute '\x22' "\\\"" (Report.substitute '\x5c' "\\\\" label) := by
  induction label with
  | nil => rfl
  | cons c label ih =>
    by_cases backslash : c = '\x5c'
    · subst backslash
      rw [quoteLabel_special (.inl rfl), ih]
      rfl
    · have kept : Report.substitute '\x5c' "\\\\" (c :: label) =
          c :: Report.substitute '\x5c' "\\\\" label := by
        simp [Report.substitute, backslash]
      rw [kept]
      by_cases quote : c = '\x22'
      · subst quote
        rw [quoteLabel_special (.inr rfl), ih]
        rfl
      · rw [quoteLabel_plain (not_or.2 ⟨backslash, quote⟩), ih]
        simp [Report.substitute, quote]

/-! ### Statements -/

/-- What follows the label of a file. -/
def dotNodeEnd (cyclic : Bool) : List Char :=
  ("\", fillcolor=\"" ++ fillColor cyclic ++ "\", color=\"" ++ strokeColor cyclic ++ "\"];\n").toList

/-- What follows the names of an import. -/
def dotLinkEnd (cyclic : Bool) : List Char :=
  (" [color=\"" ++ linkColor cyclic ++ "\"" ++ (if cyclic then ", penwidth=2" else "") ++
    "];\n").toList

/-- Reads the statement of a file. -/
def readDotNode : Reader (Node × Nat) := fun text => do
  let text ← "    n".toList.isPrefixOf? text
  let (index, text) ← readNumber text
  let text ← " [label=\"".toList.isPrefixOf? text
  let (label, text) := splitLabel text
  let (cyclic, text) ← readMark dotNodeEnd text
  return ((⟨String.ofList (unquoteLabel label), cyclic⟩, index), text)

/-- Reads the statement of an import. -/
def readDotLink : Reader Link := fun text => do
  let text ← "    n".toList.isPrefixOf? text
  let (source, text) ← readNumber text
  let text ← " -> n".toList.isPrefixOf? text
  let (target, text) ← readNumber text
  let (cyclic, text) ← readMark dotLinkEnd text
  return (⟨source, target, cyclic⟩, text)

/-- The lines in front of the statements. -/
def dotStart : List String :=
  ["digraph imports \x7b", "    rankdir=LR;", "    node [shape=box, style=\"rounded,filled\"];"]

/-- Reads a DOT graph in which files are numbered from zero on. -/
def readDot? (text : List Char) : Option Picture := do
  let text ← (textOf dotStart).isPrefixOf? text
  let (nodes, text) := readMany readDotNode text
  let (links, text) := readMany readDotLink text
  if text = textOf ["\x7d"] ∧ nodes.map Prod.snd = List.range nodes.length then
    some ⟨nodes.map Prod.fst, links⟩
  else none

section Statements

theorem textOf_dotNode (node : Node) (index : Nat) :
    textOf [dotNode node index] = "    n".toList ++ ((toString index).toList ++
      (" [label=\"".toList ++ (quoteLabel node.label.toList ++ dotNodeEnd node.cyclic))) := by
  have line : dotNode node index = "    " ++ ("n" ++ toString index) ++ " [label=\"" ++
      String.ofList (quoteLabel node.label.toList) ++ "\", fillcolor=\"" ++ fillColor node.cyclic ++
        "\", color=\"" ++ strokeColor node.cyclic ++ "\"];" := rfl
  rw [textOf_cons, line, dotNodeEnd]
  simp only [String.toList_append, String.toList_ofList, List.append_assoc]
  rfl

theorem textOf_dotLink (link : Link) :
    textOf [dotLink link] = "    n".toList ++ ((toString link.source).toList ++
      (" -> n".toList ++ ((toString link.target).toList ++ dotLinkEnd link.cyclic))) := by
  have line : dotLink link = "    " ++ ("n" ++ toString link.source) ++ " -> " ++
      ("n" ++ toString link.target) ++ " [color=\"" ++ linkColor link.cyclic ++ "\"" ++
        (if link.cyclic then ", penwidth=2" else "") ++ "];" := rfl
  rw [textOf_cons, line, dotLinkEnd]
  simp only [String.toList_append, List.append_assoc]
  rfl

theorem readDotNode_append (node : Node) (index : Nat) (rest : List Char) :
    readDotNode (textOf [dotNode node index] ++ rest) = some ((node, index), rest) := by
  have number := Text.readNumber_append " [label=\"".toList rfl index
    (quoteLabel node.label.toList ++ (dotNodeEnd node.cyclic ++ rest))
  have label := splitLabel_append (dotNodeEnd node.cyclic ++ rest)
    (by cases node.cyclic <;> rfl) node.label.toList
  have mark := Text.readMark_append dotNodeEnd (by decide) node.cyclic rest
  simp only [textOf_dotNode, List.append_assoc, readDotNode, Text.isPrefixOf?_append, number, label,
    mark, unquoteLabel_quoteLabel, String.ofList_toList, Option.bind_eq_bind, Option.bind_some]
  rfl

theorem readDotLink_append (link : Link) (rest : List Char) :
    readDotLink (textOf [dotLink link] ++ rest) = some (link, rest) := by
  have source := Text.readNumber_append " -> n".toList rfl link.source
    ((toString link.target).toList ++ (dotLinkEnd link.cyclic ++ rest))
  have target := Text.readNumber_append (dotLinkEnd link.cyclic)
    (by cases link.cyclic <;> rfl) link.target rest
  have mark := Text.readMark_append dotLinkEnd (by decide) link.cyclic rest
  simp only [textOf_dotLink, List.append_assoc, readDotLink, Text.isPrefixOf?_append, source, target,
    mark, Option.bind_eq_bind, Option.bind_some]
  rfl

/-- The statement of an import is not one of a file. -/
theorem readDotNode_dotLink (link : Link) (rest : List Char) :
    readDotNode (textOf [dotLink link] ++ rest) = none := by
  have number := Text.readNumber_append " -> n".toList rfl link.source
    ((toString link.target).toList ++ (dotLinkEnd link.cyclic ++ rest))
  simp only [textOf_dotLink, List.append_assoc, readDotNode, Text.isPrefixOf?_append, number,
    Option.bind_eq_bind, Option.bind_some]
  rfl

end Statements

/-! ### Graphs -/

theorem toList_dot (picture : Picture) :
    picture.dot.toList = textOf dotStart ++
      (picture.nodes.zipIdx.flatMap (fun entry => textOf [dotNode entry.1 entry.2]) ++
        (picture.links.flatMap (fun link => textOf [dotLink link]) ++ textOf ["\x7d"])) := by
  rw [Picture.dot, toList_unlines, textOf_append, textOf_append, textOf_append, textOf_map,
    textOf_map, List.append_assoc, List.append_assoc]
  rfl

/-- A statement has characters. -/
theorem textOf_singleton_ne_nil (line : String) : textOf [line] ≠ [] := by
  simp [textOf]

/-- The picture that was written is read. -/
theorem readDot?_dot (picture : Picture) : readDot? picture.dot.toList = some picture := by
  have noNode : readDotNode (picture.links.flatMap (fun link => textOf [dotLink link]) ++
      textOf ["\x7d"]) = none := by
    cases picture.links with
    | nil => rfl
    | cons link links => rw [List.flatMap_cons, List.append_assoc, readDotNode_dotLink]
  have nodes := Text.readMany_flatMap readDotNode (fun entry => textOf [dotNode entry.1 entry.2])
    picture.nodes.zipIdx (fun entry _ rest => readDotNode_append entry.1 entry.2 rest)
    (fun entry _ => textOf_singleton_ne_nil (dotNode entry.1 entry.2)) noNode
  have noLink : readDotLink (textOf ["\x7d"]) = none := rfl
  have links := Text.readMany_flatMap readDotLink (fun link => textOf [dotLink link])
    picture.links (fun link _ rest => readDotLink_append link rest)
    (fun link _ => textOf_singleton_ne_nil (dotLink link)) noLink
  have numbered : picture.nodes.zipIdx.map Prod.snd = List.range picture.nodes.zipIdx.length := by
    rw [List.zipIdx_map_snd, List.length_zipIdx, List.range_eq_range']
  simp only [readDot?, toList_dot, Text.isPrefixOf?_append, nodes, links, numbered, and_self, if_true,
    List.zipIdx_map_fst, Option.bind_eq_bind, Option.bind_some]

/-- Different pictures are drawn as different texts. -/
theorem dot_injective : Function.Injective Picture.dot := by
  intro picture other same
  have read := readDot?_dot picture
  rw [same, readDot?_dot] at read
  exact (Option.some.inj read).symm

/-- Elements are known by two of their parts if these determine them. -/
theorem eq_of_map_eq {α β γ : Type} {f : α → β} {g : α → γ} {list other : List α}
    (determined : Function.Injective fun a => (f a, g a)) (first : list.map f = other.map f)
    (second : list.map g = other.map g) : list = other := by
  apply List.map_injective_iff.2 determined
  rw [← List.zip_map', ← List.zip_map', first, second]

/-- A picture is known by its labels, its numbers and its marks. -/
theorem Picture.eq_iff {picture other : Picture} : picture = other ↔
    picture.nodes.map (·.label) = other.nodes.map (·.label) ∧
      picture.links.map (fun link => (link.source, link.target)) =
        other.links.map (fun link => (link.source, link.target)) ∧
      picture.nodes.map (·.cyclic) = other.nodes.map (·.cyclic) ∧
      picture.links.map (·.cyclic) = other.links.map (·.cyclic) := by
  constructor
  · rintro rfl
    exact ⟨rfl, rfl, rfl, rfl⟩
  · rintro ⟨labels, ends, markedNodes, markedLinks⟩
    have node : Function.Injective fun node : Node => (node.label, node.cyclic) := by
      rintro ⟨label, cyclic⟩ ⟨otherLabel, otherCyclic⟩ same
      simpa using same
    have link : Function.Injective fun link : Link => ((link.source, link.target), link.cyclic) := by
      rintro ⟨source, target, cyclic⟩ ⟨otherSource, otherTarget, otherCyclic⟩ same
      simpa [and_assoc] using same
    obtain ⟨nodes, links⟩ := picture
    exact congr (congrArg Picture.mk (eq_of_map_eq node labels markedNodes))
      (eq_of_map_eq link ends markedLinks)

/-- Drawings of two graphs as DOT graphs are the same text exactly if the same labels are shown, in
path order, the same imports between numbered files, and if the same files and imports are
highlighted. A reader gets all of this from the text, whatever characters are in the labels: each
label is what is left when the backslashes that were put into it, first in front of backslashes
and then in front of quotation marks, are taken away. -/
theorem dot_drawings_eq_iff (style other : Style) (graph otherGraph : ImportGraph) :
    (draw .dot style graph = draw .dot other otherGraph ↔
        graph.files.map (·.shown style.root) = otherGraph.files.map (·.shown other.root) ∧
          graph.snapshot.edges.map (fun edge => (edge.source, edge.target)) =
            otherGraph.snapshot.edges.map (fun edge => (edge.source, edge.target)) ∧
          (picture style graph).nodes.map (·.cyclic) =
            (picture other otherGraph).nodes.map (·.cyclic) ∧
          (picture style graph).links.map (·.cyclic) =
            (picture other otherGraph).links.map (·.cyclic)) ∧
      readDot? (draw .dot style graph).toList = some (picture style graph) ∧
      ∀ label : List Char, unquoteLabel (quoteLabel label) = label ∧
        quoteLabel label =
          Report.substitute '\x22' "\\\"" (Report.substitute '\x5c' "\\\\" label) := by
  refine ⟨?_, readDot?_dot _, fun label =>
    ⟨unquoteLabel_quoteLabel label, quoteLabel_eq_substitute label⟩⟩
  have labels : ∀ style graph, (picture style graph).nodes.map (·.label) =
      graph.files.map (·.shown style.root) := fun _ _ => List.map_map
  have ends : ∀ style graph, (picture style graph).links.map (fun link => (link.source, link.target)) =
      graph.snapshot.edges.map fun edge => (edge.source, edge.target) := by
    intro style graph
    simp [picture, ImportGraph.snapshot]
  rw [← labels, ← labels, ← ends style, ← ends other, ← Picture.eq_iff]
  exact dot_injective.eq_iff

end ImportCycles.Drawing
