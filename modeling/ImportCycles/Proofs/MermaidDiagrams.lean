import ImportCycles.Proofs.CycleMarks
import ImportCycles.Proofs.ShortestCycles
import ImportCycles.Proofs.StatementReaders

/-! # Mermaid diagrams that are read back

In a diagram every file has a line for its node and one for its style, and every import one for its
link and one for the style of that link, which names the link by its place. Labels stand between
quotation marks as they are. So a reader of diagrams gets the picture that was written exactly if no
label has a quotation mark or a line break in it: a quotation mark would end the label too early, and
a line feed begins a line that is not counted on.
-/

namespace ImportCycles.Drawing

open FileId (inRoot)
open Text (Reader readMany readMark readNumber)

/-! ### Statements -/

/-- A label that stays on its line and between its quotation marks. -/
def IsPlain (label : List Char) : Prop :=
  ∀ c ∈ label, c ≠ '\x22' ∧ c ≠ '\n' ∧ c ≠ '\r'

instance (label : List Char) : Decidable (IsPlain label) :=
  List.decidableBAll _ label

/-- Reads a plain label in front of a quotation mark. -/
def readPlain : Reader (List Char) := fun text =>
  let label := text.takeWhile (· ≠ '\x22')
  if IsPlain label then some (label, text.dropWhile (· ≠ '\x22')) else none

/-- What stands in front of the label of a file and behind it. -/
def mermaidShape (cyclic : Bool) : String × String :=
  if cyclic then ("((\"", "\"))") else ("[\"", "\"]")

/-- What follows the label of a file: the end of its line, and the line of its style. -/
def mermaidNodeEnd (cyclic : Bool) (index : Nat) : List Char :=
  (mermaidShape cyclic).2.toList ++ (['\n'] ++ textOf [mermaidStyle ⟨"", cyclic⟩ index])

/-- What follows the place of a link in the line of its style. -/
def mermaidLinkEnd (cyclic : Bool) : List Char :=
  (" stroke:" ++ linkColor cyclic ++ "\n").toList

/-- Reads the statements of a file. -/
def readMermaidNode : Reader (Node × Nat) := fun text => do
  let text ← "    f".toList.isPrefixOf? text
  let (index, text) ← readNumber text
  let (cyclic, text) ← readMark (fun cyclic => (mermaidShape cyclic).1.toList) text
  let (label, text) ← readPlain text
  let text ← (mermaidNodeEnd cyclic index).isPrefixOf? text
  return ((⟨String.ofList label, cyclic⟩, index), text)

/-- Reads the statements of an import. -/
def readMermaidLink : Reader (Link × Nat) := fun text => do
  let text ← "    f".toList.isPrefixOf? text
  let (source, text) ← readNumber text
  let text ← " --> f".toList.isPrefixOf? text
  let (target, text) ← readNumber text
  let text ← "\n    linkStyle ".toList.isPrefixOf? text
  let (index, text) ← readNumber text
  let (cyclic, text) ← readMark mermaidLinkEnd text
  return ((⟨source, target, cyclic⟩, index), text)

/-- Reads a diagram in which files and links are numbered from zero on. -/
def readMermaid? (text : List Char) : Option Picture := do
  let text ← (textOf ["graph TD"]).isPrefixOf? text
  let (nodes, text) := readMany readMermaidNode text
  let (links, text) := readMany readMermaidLink text
  if text = [] ∧ nodes.map Prod.snd = List.range nodes.length ∧
      links.map Prod.snd = List.range links.length then
    some ⟨nodes.map Prod.fst, links.map Prod.fst⟩
  else none

section Statements

theorem textOf_mermaidNode (node : Node) (index : Nat) :
    textOf [mermaidNode node index, mermaidStyle node index] = "    f".toList ++
      ((toString index).toList ++ ((mermaidShape node.cyclic).1.toList ++
        (node.label.toList ++ mermaidNodeEnd node.cyclic index))) := by
  have line : mermaidNode node index = "    f" ++ toString index ++ (mermaidShape node.cyclic).1 ++
      node.label ++ (mermaidShape node.cyclic).2 := by
    simp only [mermaidNode, mermaidName, mermaidShape, ← String.append_assoc]
    rfl
  have style : mermaidStyle node index = mermaidStyle ⟨"", node.cyclic⟩ index := rfl
  rw [textOf_cons, line, style, mermaidNodeEnd]
  simp only [String.toList_append, List.append_assoc]

theorem textOf_mermaidLink (link : Link) (index : Nat) :
    textOf [mermaidLink link, mermaidLinkStyle link index] = "    f".toList ++
      ((toString link.source).toList ++ (" --> f".toList ++ ((toString link.target).toList ++
        ("\n    linkStyle ".toList ++ ((toString index).toList ++
          mermaidLinkEnd link.cyclic))))) := by
  have line : mermaidLink link = "    " ++ ("f" ++ toString link.source) ++ " --> " ++
      ("f" ++ toString link.target) := rfl
  have style : mermaidLinkStyle link index = "    linkStyle " ++ toString index ++ " stroke:" ++
      linkColor link.cyclic := rfl
  rw [textOf_cons, textOf_cons, line, style, mermaidLinkEnd]
  simp only [String.toList_append, List.append_assoc]
  rfl

/-- A plain label ends at the quotation mark behind it. -/
theorem readPlain_append {label : List Char} (behind : List Char) (plain : IsPlain label)
    (quote : behind.head? = some '\x22') : readPlain (label ++ behind) = some (label, behind) := by
  obtain ⟨rest, rfl⟩ := List.head?_eq_some_iff.1 quote
  have inside : ∀ c ∈ label, decide (c ≠ '\x22') = true := fun c mem =>
    decide_eq_true (plain c mem).1
  have taken : (label ++ '\x22' :: rest).takeWhile (· ≠ '\x22') = label := by
    rw [List.takeWhile_append_of_pos inside, List.takeWhile_cons_of_neg (by decide), List.append_nil]
  have left : (label ++ '\x22' :: rest).dropWhile (· ≠ '\x22') = '\x22' :: rest := by
    rw [List.dropWhile_append_of_pos inside, List.dropWhile_cons_of_neg (by decide)]
  rw [readPlain, taken, left]
  exact if_pos plain

theorem isPlain_of_readPlain {text label rest : List Char}
    (found : readPlain text = some (label, rest)) : IsPlain label := by
  rw [readPlain] at found
  split at found
  · rename_i plain
    obtain ⟨rfl, _⟩ := Prod.mk.inj (Option.some.inj found)
    exact plain
  · exact absurd found nofun

theorem readMermaidNode_append {node : Node} (plain : IsPlain node.label.toList) (index : Nat)
    (rest : List Char) :
    readMermaidNode (textOf [mermaidNode node index, mermaidStyle node index] ++ rest) =
      some ((node, index), rest) := by
  have number := Text.readNumber_append (mermaidShape node.cyclic).1.toList
    (by cases node.cyclic <;> rfl) index
    (node.label.toList ++ (mermaidNodeEnd node.cyclic index ++ rest))
  have mark := Text.readMark_append (fun cyclic => (mermaidShape cyclic).1.toList)
    (by decide) node.cyclic (node.label.toList ++ (mermaidNodeEnd node.cyclic index ++ rest))
  have label := readPlain_append (mermaidNodeEnd node.cyclic index ++ rest) plain
    (by cases node.cyclic <;> rfl)
  simp only [textOf_mermaidNode, List.append_assoc, readMermaidNode, Text.isPrefixOf?_append, number,
    mark, label, String.ofList_toList, Option.bind_eq_bind, Option.bind_some]
  rfl

theorem readMermaidLink_append (link : Link) (index : Nat) (rest : List Char) :
    readMermaidLink (textOf [mermaidLink link, mermaidLinkStyle link index] ++ rest) =
      some ((link, index), rest) := by
  have place := Text.readNumber_append (mermaidLinkEnd link.cyclic)
    (by cases link.cyclic <;> rfl) index rest
  have target := Text.readNumber_append "\n    linkStyle ".toList rfl link.target
    ((toString index).toList ++ (mermaidLinkEnd link.cyclic ++ rest))
  have source := Text.readNumber_append " --> f".toList rfl link.source
    ((toString link.target).toList ++ ("\n    linkStyle ".toList ++
      ((toString index).toList ++ (mermaidLinkEnd link.cyclic ++ rest))))
  have mark := Text.readMark_append mermaidLinkEnd (by decide) link.cyclic rest
  simp only [textOf_mermaidLink, List.append_assoc, readMermaidLink, Text.isPrefixOf?_append, source,
    target, place, mark, Option.bind_eq_bind, Option.bind_some]
  rfl

/-- The statements of an import are not those of a file. -/
theorem readMermaidNode_mermaidLink (link : Link) (index : Nat) (rest : List Char) :
    readMermaidNode (textOf [mermaidLink link, mermaidLinkStyle link index] ++ rest) = none := by
  have number := Text.readNumber_append " --> f".toList rfl link.source
    ((toString link.target).toList ++ ("\n    linkStyle ".toList ++
      ((toString index).toList ++ (mermaidLinkEnd link.cyclic ++ rest))))
  simp only [textOf_mermaidLink, List.append_assoc, readMermaidNode, Text.isPrefixOf?_append, number,
    Option.bind_eq_bind, Option.bind_some]
  rfl

/-- A label that is read is plain. -/
theorem isPlain_of_readMermaidNode {text rest : List Char} {entry : Node × Nat}
    (found : readMermaidNode text = some (entry, rest)) : IsPlain entry.1.label.toList := by
  simp only [readMermaidNode, Option.bind_eq_bind, Option.bind_eq_some_iff] at found
  obtain ⟨_, _, _, _, _, _, ⟨label, _⟩, labelRead, _, _, same⟩ := found
  obtain ⟨rfl, _⟩ := Prod.mk.inj (Option.some.inj same)
  rw [String.toList_ofList]
  exact isPlain_of_readPlain labelRead

end Statements

/-! ### Diagrams -/

/-- The statements of a file. -/
def nodeText (entry : Node × Nat) : List Char :=
  textOf [mermaidNode entry.1 entry.2, mermaidStyle entry.1 entry.2]

/-- The statements of an import. -/
def linkText (entry : Link × Nat) : List Char :=
  textOf [mermaidLink entry.1, mermaidLinkStyle entry.1 entry.2]

theorem toList_mermaid (picture : Picture) :
    picture.mermaid.toList = textOf ["graph TD"] ++
      (picture.nodes.zipIdx.flatMap nodeText ++ picture.links.zipIdx.flatMap linkText) := by
  rw [Picture.mermaid, toList_unlines, textOf_append, textOf_append, textOf_flatMap, textOf_flatMap,
    List.append_assoc]
  rfl

/-- The picture that was written is read if its labels are plain. -/
theorem readMermaid?_mermaid {picture : Picture}
    (plain : ∀ node ∈ picture.nodes, IsPlain node.label.toList) :
    readMermaid? picture.mermaid.toList = some picture := by
  have noNode : readMermaidNode (picture.links.zipIdx.flatMap linkText) = none := by
    cases picture.links.zipIdx with
    | nil => rfl
    | cons entry links => rw [List.flatMap_cons, linkText, readMermaidNode_mermaidLink]
  have plainEntry : ∀ entry ∈ picture.nodes.zipIdx, IsPlain entry.1.label.toList :=
    fun entry mem => plain entry.1 (List.fst_mem_of_mem_zipIdx mem)
  have nodes := Text.readMany_flatMap readMermaidNode nodeText picture.nodes.zipIdx
    (fun entry mem rest => readMermaidNode_append (plainEntry entry mem) entry.2 rest)
    (fun entry _ => by simp [nodeText, textOf]) noNode
  have noLink : readMermaidLink [] = none := rfl
  have links := Text.readMany_flatMap readMermaidLink linkText picture.links.zipIdx
    (fun entry _ rest => readMermaidLink_append entry.1 entry.2 rest)
    (fun entry _ => by simp [linkText, textOf]) noLink
  rw [List.append_nil] at links
  have numbered : ∀ {α : Type} (list : List α),
      list.zipIdx.map Prod.snd = List.range list.zipIdx.length := fun list => by
    rw [List.zipIdx_map_snd, List.length_zipIdx, List.range_eq_range']
  simp only [readMermaid?, toList_mermaid, Text.isPrefixOf?_append, nodes, links, numbered,
    and_self, if_true, List.zipIdx_map_fst, Option.bind_eq_bind, Option.bind_some]

/-- The labels of a picture that is read are plain. -/
theorem isPlain_of_readMermaid? {text : List Char} {picture : Picture}
    (found : readMermaid? text = some picture) :
    ∀ node ∈ picture.nodes, IsPlain node.label.toList := by
  simp only [readMermaid?, Option.bind_eq_bind, Option.bind_eq_some_iff,
    Option.ite_none_right_eq_some] at found
  obtain ⟨inner, _, _, same⟩ := found
  obtain rfl := Option.some.inj same
  intro node mem
  obtain ⟨entry, read, rfl⟩ := List.mem_map.1 mem
  exact Text.forall_mem_readMany (fun _ _ _ => isPlain_of_readMermaidNode) inner entry read

/-- A diagram is read as the picture exactly if the labels are plain. -/
theorem readMermaid?_mermaid_iff (picture : Picture) :
    readMermaid? picture.mermaid.toList = some picture ↔
      ∀ node ∈ picture.nodes, IsPlain node.label.toList :=
  ⟨isPlain_of_readMermaid?, readMermaid?_mermaid⟩

/-! ### Lines -/

section Lines

theorem count_toString (n : Nat) : (toString n).toList.count '\n' = 0 :=
  List.count_eq_zero.2 (Text.not_mem_toString rfl n)

theorem count_mermaidNodeEnd (cyclic : Bool) (index : Nat) :
    (mermaidNodeEnd cyclic index).count '\n' = 2 := by
  have style : mermaidStyle ⟨"", cyclic⟩ index = "    style " ++ ("f" ++ toString index) ++
      " fill:" ++ fillColor cyclic ++ ",stroke:" ++ strokeColor cyclic ++
        (if cyclic then ",stroke-width:3px" else "") := rfl
  rw [mermaidNodeEnd, textOf_cons, style]
  simp only [String.toList_append, List.count_append, count_toString]
  cases cyclic
  · rfl
  · rfl

/-- A file takes two lines, and one more for each line feed in its label. -/
theorem count_nodeText (node : Node) (index : Nat) :
    (nodeText (node, index)).count '\n' = 2 + node.label.toList.count '\n' := by
  have opening : (mermaidShape node.cyclic).1.toList.count '\n' = 0 := by
    cases node.cyclic
    · rfl
    · rfl
  have start : "    f".toList.count '\n' = 0 := rfl
  rw [nodeText, textOf_mermaidNode]
  simp only [List.count_append, count_toString, count_mermaidNodeEnd, opening, start]
  omega

/-- An import takes two lines. -/
theorem count_linkText (link : Link) (index : Nat) :
    (linkText (link, index)).count '\n' = 2 := by
  rw [linkText, textOf_mermaidLink]
  simp only [List.count_append, count_toString]
  cases link.cyclic
  · rfl
  · rfl

/-- A diagram has a first line, the lines of its files and imports, and those that line feeds in
labels begin. -/
theorem count_mermaid (picture : Picture) :
    picture.mermaid.toList.count '\n' =
      1 + 2 * picture.nodes.length + 2 * picture.links.length +
        (picture.nodes.flatMap fun node => node.label.toList).count '\n' := by
  have nodes : ∀ (nodes : List Node) (first : Nat),
      ((nodes.zipIdx first).flatMap nodeText).count '\n' =
        2 * nodes.length + (nodes.flatMap fun node => node.label.toList).count '\n' := by
    intro nodes
    induction nodes with
    | nil => exact fun _ => rfl
    | cons node nodes ih =>
      intro first
      rw [List.zipIdx_cons, List.flatMap_cons, List.count_append, count_nodeText, ih,
        List.flatMap_cons, List.count_append, List.length_cons]
      omega
  have links : ∀ (links : List Link) (first : Nat),
      ((links.zipIdx first).flatMap linkText).count '\n' = 2 * links.length := by
    intro links
    induction links with
    | nil => exact fun _ => rfl
    | cons link links ih =>
      intro first
      rw [List.zipIdx_cons, List.flatMap_cons, List.count_append, count_linkText, ih,
        List.length_cons]
      omega
  have start : (textOf ["graph TD"]).count '\n' = 1 := rfl
  rw [toList_mermaid, List.count_append, List.count_append, start, nodes, links]
  omega

end Lines

theorem readMermaid?_drawing_iff (style : Style) (graph : ImportGraph) :
    readMermaid? (draw .mermaid style graph).toList = some (picture style graph) ↔
      ∀ file ∈ graph.files, IsPlain (file.shown style.root).toList := by
  rw [draw, Picture.write, readMermaid?_mermaid_iff]
  exact List.forall_mem_map

theorem count_drawing (style : Style) (graph : ImportGraph) :
    (draw .mermaid style graph).toList.count '\n' =
      1 + 2 * graph.files.length + 2 * graph.size +
        (graph.files.flatMap fun file => (file.shown style.root).toList).count '\n' := by
  have links : (picture style graph).links.length = graph.size := by
    rw [picture, List.length_map]
    exact (Sorted.sortBy_perm _ _).length_eq
  have labels : (picture style graph).nodes.flatMap (fun node => node.label.toList) =
      graph.files.flatMap fun file => (file.shown style.root).toList := List.flatMap_map _ _ _
  rw [draw, Picture.write, count_mermaid, links, labels, picture, List.length_map]

/-- A reader of diagrams gets the picture of a graph from its drawing exactly if no file is shown
with a quotation mark or a line break in its path: a node and a style for each file, in path order,
then a link and a style for each import, the style naming the link by its place. The drawing has a
line for each of these statements, and one more for each line feed in the paths. -/
theorem diagram_read_iff_plain (style : Style) (graph : ImportGraph) :
    (readMermaid? (draw .mermaid style graph).toList = some (picture style graph) ↔
        ∀ file ∈ graph.files, IsPlain (file.shown style.root).toList) ∧
      (draw .mermaid style graph).toList.count '\n' =
        1 + 2 * graph.files.length + 2 * graph.size +
          (graph.files.flatMap fun file => (file.shown style.root).toList).count '\n' :=
  ⟨readMermaid?_drawing_iff style graph, count_drawing style graph⟩

/-- A graph in which one file imports another one. -/
def namedImport (source target : String) : ImportGraph :=
  ⟨[⟨inRoot source, inRoot target, {}⟩]⟩

/-- A quotation mark in the name of a file stands as it is between those around the label, and a
line feed in a name adds a line that is no statement. -/
theorem names_break_diagram :
    mermaidNode ⟨(inRoot "a\"b").shown (some "/"), false⟩ 0 = "    f0[\"a\"b\"]" ∧
      readMermaid? (draw .mermaid { root := some "/" } (namedImport "a\"b" "c")).toList ≠
        some (picture { root := some "/" } (namedImport "a\"b" "c")) ∧
      (draw .mermaid { root := some "/" } (namedImport "a\nb" "c")).toList.count '\n' ≠
        1 + 2 * (namedImport "a\nb" "c").files.length + 2 * (namedImport "a\nb" "c").size := by
  refine ⟨by decide, ?_, ?_⟩
  · rw [ne_eq, readMermaid?_drawing_iff]
    intro plain
    exact absurd (plain (inRoot "a\"b") (by decide)) (by decide)
  · have files : (namedImport "a\nb" "c").files = [inRoot "a\nb", inRoot "c"] := by decide
    rw [count_drawing, files]
    decide

end ImportCycles.Drawing
