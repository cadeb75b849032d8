import ImportCycles.Proofs.Markup

/-! # Elements on lines of their own

A document shows its elements on lines that are indented by their depth. The blanks in front of a
line are part of the text behind the tag before it, so the same text is a list of lines and a row of
elements.
-/

namespace ImportCycles.Report

/-- An element by itself. -/
structure Element where
  name : String
  attributes : Attributes
  text : List Char
  inside : Markup

namespace Markup

/-- All elements of a name, in the order of their first tags. -/
def elements (name : String) : Markup → List Element
  | done => []
  | element other attributes text inside _ rest =>
    (if other = name.toList then [⟨name, attributes, text, inside⟩] else []) ++
      (inside.elements name ++ rest.elements name)

end Markup

namespace Element

/-- The value of an attribute. -/
def value? (element : Element) (key : String) : Option (List Char) :=
  element.attributes.lookup key.toList

/-- The number in an attribute. -/
def number? (element : Element) (key : String) : Option Nat :=
  (element.value? key).bind fun value => (String.ofList value).toNat?

/-- The text of an element that holds nothing else. -/
def text? (element : Element) : Option (List Char) :=
  match element.inside with
  | .done => some element.text
  | .element .. => none

/-- The element in front of others. -/
def before (element : Element) (after : List Char) (rest : Markup) : Markup :=
  .element element.name.toList element.attributes element.text element.inside after rest

/-- The first tag of the element, with its brackets. -/
def startTag (element : Element) : List Char :=
  '<' :: (element.name.toList ++ (writeAttributes element.attributes ++ ['>']))

/-- The last tag of the element, with its brackets. -/
def stopTag (element : Element) : List Char :=
  '<' :: '/' :: (element.name.toList ++ ['>'])

/-- The element as it is written. -/
def write (element : Element) : List Char :=
  element.startTag ++ (escapeMarkup element.text ++ (element.inside.write ++ element.stopTag))

theorem write_before (element : Element) (after : List Char) (rest : Markup) :
    (element.before after rest).write =
      element.write ++ (escapeMarkup after ++ rest.write) := by
  simp [before, Markup.write, Markup.pieces, Piece.writeAll, Piece.write, Tag.write, tagEnd, write,
    startTag, stopTag]

/-- The name and all keys are in small letters, and so are those inside. -/
def WellNamed (element : Element) : Prop :=
  element.name.toList.all Char.isLower = true ∧ element.attributes.WellNamed ∧
    element.inside.WellNamed

/-- The elements of a name: the element itself, or those inside it. -/
def elements (name : String) (element : Element) : List Element :=
  (if element.name = name then [element] else []) ++ element.inside.elements name

theorem elements_before (name : String) (element : Element) (after : List Char) (rest : Markup) :
    (element.before after rest).elements name = element.elements name ++ rest.elements name := by
  rw [before, Markup.elements, elements, List.append_assoc]
  by_cases same : element.name = name
  · rw [if_pos same, if_pos (congrArg String.toList same)]
    subst same
    rfl
  · rw [if_neg same, if_neg fun equal => same (String.toList_inj.1 equal)]

end Element

/-! ### Lines -/

/-- The blanks in front of a line. -/
def margin (depth : Nat) : List Char :=
  List.replicate (2 * depth) ' '

/-- Elements on lines of their own, behind the blanks of the first line. The last line is followed
by one that is less deep. -/
def rows (depth : Nat) : List Element → Markup
  | [] => .done
  | element :: elements =>
    element.before ('\n' :: margin (if elements.isEmpty then depth - 1 else depth))
      (rows depth elements)

/-- An element with others inside on lines of their own. -/
def branch (depth : Nat) (name : String) (attributes : Attributes) (inner : List Element) :
    Element where
  name := name
  attributes := attributes
  text := '\n' :: margin (if inner.isEmpty then depth else depth + 1)
  inside := rows (depth + 1) inner

/-- The line of an element. -/
def line (depth : Nat) (element : Element) : List Char :=
  margin depth ++ (element.write ++ ['\n'])

theorem escapeMarkup_newline (depth : Nat) :
    escapeMarkup ('\n' :: margin depth) = '\n' :: margin depth := by
  refine escapeMarkup_eq_self fun c mem => ?_
  rcases List.mem_cons.1 mem with same | inIndent
  · rw [same]
    decide
  · rw [(List.mem_replicate.1 inIndent).2]
    decide

theorem flatMap_line (depth : Nat) (elements : List Element) :
    elements.flatMap (line depth) ++ margin (depth - 1) =
      margin (if elements.isEmpty then depth - 1 else depth) ++ (rows depth elements).write := by
  induction elements with
  | nil => exact (List.append_nil _).symm
  | cons element elements ih =>
    rw [List.flatMap_cons, List.append_assoc, ih, rows, Element.write_before, escapeMarkup_newline]
    simp [line]

/-- The lines of an element with others inside: its first tag, their lines and its last tag. -/
theorem line_branch (depth : Nat) (name : String) (attributes : Attributes)
    (inner : List Element) :
    line depth (branch depth name attributes inner) =
      margin depth ++ ((branch depth name attributes inner).startTag ++ ('\n' ::
        (inner.flatMap (line (depth + 1)) ++ (margin depth ++
          ((branch depth name attributes inner).stopTag ++ ['\n']))))) := by
  have lines := flatMap_line (depth + 1) inner
  rw [Nat.add_sub_cancel] at lines
  have text : escapeMarkup (branch depth name attributes inner).text =
      '\n' :: margin (if inner.isEmpty then depth else depth + 1) := escapeMarkup_newline _
  have inside : (branch depth name attributes inner).inside = rows (depth + 1) inner := rfl
  rw [line, Element.write, text, inside]
  simp only [List.append_assoc, List.cons_append]
  rw [← List.append_assoc (margin _) (rows (depth + 1) inner).write, ← lines, List.append_assoc]

section Rows

variable {depth : Nat} {list : List Element}

theorem elements_rows (name : String) :
    (rows depth list).elements name = list.flatMap (Element.elements name) := by
  induction list with
  | nil => rfl
  | cons element list ih => rw [rows, Element.elements_before, ih, List.flatMap_cons]

theorem wellNamed_rows (named : ∀ element ∈ list, element.WellNamed) :
    (rows depth list).WellNamed := by
  induction list with
  | nil => trivial
  | cons element list ih =>
    obtain ⟨lower, attributes, inside⟩ := named element (List.mem_cons_self ..)
    exact ⟨lower, attributes, inside,
      ih fun later mem => named later (List.mem_cons_of_mem element mem)⟩

theorem wellNamed_branch {name : String} {attributes : Attributes}
    (lower : name.toList.all Char.isLower = true) (keys : attributes.WellNamed)
    (named : ∀ element ∈ list, element.WellNamed) :
    (branch depth name attributes list).WellNamed :=
  ⟨lower, keys, wellNamed_rows named⟩

end Rows

/-- The elements of a name, if an element that holds others has it or they have. -/
theorem elements_branch (other : String) (depth : Nat) (name : String) (attributes : Attributes)
    (inner : List Element) :
    (branch depth name attributes inner).elements other =
      (if name = other then [branch depth name attributes inner] else []) ++
        inner.flatMap (Element.elements other) := by
  show (if name = other then _ else []) ++ (rows (depth + 1) inner).elements other = _
  rw [elements_rows]

end ImportCycles.Report
