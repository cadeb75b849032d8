import ImportCycles.Proofs.ReadingBack

/-! # Readers of statements

A reader takes a value from the start of a text and leaves the rest. Statements are read one after
another until a reader finds none. What was written statement by statement is read as that, if each
statement is read as it was written, whatever follows, and what follows the last of them is not one
more.
-/

namespace ImportCycles.Text

/-- Takes a value from the start of a text, if there is one, and leaves the rest. -/
abbrev Reader (α : Type) := List Char → Option (α × List Char)

/-- The values that a reader finds one after another, and the rest. It stops where it takes
nothing from the text. -/
def readMany {α : Type} (read : Reader α) (text : List Char) : List α × List Char :=
  match read text with
  | none => ([], text)
  | some (a, rest) =>
    if rest.length < text.length then
      let (more, rest) := readMany read rest
      (a :: more, rest)
    else ([], text)
termination_by text.length

/-- Reads a number. -/
def readNumber : Reader Nat := fun text =>
  (String.ofList (text.takeWhile Char.isDigit)).toNat?.map (·, text.dropWhile Char.isDigit)

/-- Reads a mark that has one spelling if it is set and another one if not. -/
def readMark (spelling : Bool → List Char) : Reader Bool := fun text =>
  match (spelling true).isPrefixOf? text with
  | some rest => some (true, rest)
  | none => ((spelling false).isPrefixOf? text).map (false, ·)

section Readers

variable {α : Type} {read : Reader α} {text rest : List Char} {P : α → Prop}

theorem isPrefixOf?_append (front rest : List Char) :
    front.isPrefixOf? (front ++ rest) = some rest :=
  List.isPrefixOf?_eq_some_iff_append_eq.2 rfl

theorem readMany_of_none (none : read text = none) : readMany read text = ([], text) := by
  rw [readMany, none]

/-- Statements are read as they were written, if what is behind them is not one. -/
theorem readMany_flatMap (read : Reader α) (write : α → List Char) (list : List α)
    (reads : ∀ a ∈ list, ∀ rest, read (write a ++ rest) = some (a, rest))
    (some : ∀ a ∈ list, write a ≠ []) (stops : read rest = none) :
    readMany read (list.flatMap write ++ rest) = (list, rest) := by
  induction list with
  | nil => exact readMany_of_none stops
  | cons a list ih =>
    have here := reads a (by simp) (list.flatMap write ++ rest)
    have shorter : (list.flatMap write ++ rest).length <
        (write a ++ (list.flatMap write ++ rest)).length := by
      have total : (write a ++ (list.flatMap write ++ rest)).length =
          (write a).length + (list.flatMap write ++ rest).length := List.length_append
      rw [total]
      exact Nat.lt_add_of_pos_left (List.length_pos_iff.2 (some a (by simp)))
    have later := ih (fun b mem => reads b (List.mem_cons_of_mem a mem))
      fun b mem => some b (List.mem_cons_of_mem a mem)
    rw [List.flatMap_cons, List.append_assoc, readMany, here]
    simp only [shorter, if_true, later]

/-- What holds of each value that is read holds of all that are read one after another. -/
theorem forall_mem_readMany (holds : ∀ text a rest, read text = some (a, rest) → P a)
    (text : List Char) : ∀ a ∈ (readMany read text).1, P a := by
  fun_induction readMany read text with
  | case1 text none => simp
  | case2 text a rest found shorter more last again ih =>
    rw [again] at ih
    exact List.forall_mem_cons.2 ⟨holds text a rest found, ih⟩
  | case3 text a rest found notShorter => simp

/-- A number ends in front of the first character that is no digit. -/
theorem readNumber_append (mark : List Char)
    (stops : (mark.head?.any fun c => !c.isDigit) = true) (n : Nat) (rest : List Char) :
    readNumber ((toString n).toList ++ (mark ++ rest)) = some (n, mark ++ rest) := by
  obtain ⟨c, first, other⟩ := (Option.any_eq_true _ _).1 stops
  obtain ⟨more, rfl⟩ := List.head?_eq_some_iff.1 first
  have digits : ∀ d ∈ (toString n).toList, d.isDigit = true := fun d mem =>
    isDigit_of_mem_toString mem
  have noDigit : ¬ c.isDigit = true := by simpa using other
  rw [readNumber, List.takeWhile_append_of_pos digits, List.dropWhile_append_of_pos digits,
    List.cons_append, List.takeWhile_cons_of_neg noDigit, List.dropWhile_cons_of_neg noDigit,
    List.append_nil, String.ofList_toList, toNat?_toString]
  rfl

/-- A mark is read if neither spelling begins like the other one. -/
theorem readMark_append (spelling : Bool → List Char)
    (apart : ¬ spelling true <+: spelling false ∧ ¬ spelling false <+: spelling true)
    (mark : Bool) (rest : List Char) :
    readMark spelling (spelling mark ++ rest) = some (mark, rest) := by
  cases mark with
  | true => rw [readMark, isPrefixOf?_append]
  | false =>
    have other : (spelling true).isPrefixOf? (spelling false ++ rest) = none := by
      refine Option.eq_none_iff_forall_ne_some.2 fun more found => ?_
      have begins : spelling true <+: spelling false ++ rest :=
        ⟨more, List.isPrefixOf?_eq_some_iff_append_eq.1 found⟩
      exact (List.prefix_or_prefix_of_prefix begins (List.prefix_append _ rest)).elim
        apart.1 apart.2
    rw [readMark, other, isPrefixOf?_append]
    rfl

end Readers

end ImportCycles.Text
