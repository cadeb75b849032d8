import Mathlib.Data.List.Basic
import Std.Data.String.ToNat

/-! # Reading back what was written

A reader finds the end of a part at a mark. The mark is found where it was put if the part before it
has no character that starts the mark. Numbers are written in digits, so they have none of the marks
in them, and are read back as they are.
-/

namespace ImportCycles.Text

/-- The texts in front of the first occurrence of a mark and behind it. -/
def cut? (mark : List Char) : List Char → Option (List Char × List Char)
  | [] => none
  | c :: rest =>
    match mark.isPrefixOf? (c :: rest) with
    | some after => some ([], after)
    | none => (cut? mark rest).map fun (before, after) => (c :: before, after)

theorem cut?_append {first : Char} {before : List Char} (absent : first ∉ before)
    (mark after : List Char) :
    cut? (first :: mark) (before ++ first :: (mark ++ after)) = some (before, after) := by
  induction before with
  | nil =>
    have here : (first :: mark).isPrefixOf? (first :: (mark ++ after)) = some after :=
      List.isPrefixOf?_eq_some_iff_append_eq.2 rfl
    rw [List.nil_append, cut?, here]
  | cons c before ih =>
    rw [List.mem_cons, not_or] at absent
    have later : (first :: mark).isPrefixOf? (c :: (before ++ first :: (mark ++ after))) =
        none := by
      refine Option.eq_none_iff_forall_ne_some.2 fun rest here => absent.1 ?_
      exact (List.cons.inj (List.isPrefixOf?_eq_some_iff_append_eq.1 here)).1
    rw [List.cons_append, cut?, later, ih absent.2]
    rfl

/-- A text is read back if each of its characters is, whatever is written behind it. -/
theorem read_write_of_singleton {write read : List Char → List Char} (none : read (write []) = [])
    (append : ∀ text other, write (text ++ other) = write text ++ write other)
    (single : ∀ c rest, read (write [c] ++ rest) = c :: read rest) (text : List Char) :
    read (write text) = text := by
  induction text with
  | nil => exact none
  | cons c text ih => rw [← List.singleton_append, append, single, ih, List.singleton_append]

/-- No sign stands in a name in small letters. -/
theorem not_mem_of_isLower {c : Char} {text : List Char} (other : c.isLower = false)
    (lower : text.all Char.isLower = true) : c ∉ text := by
  intro mem
  rw [List.all_eq_true.1 lower c mem] at other
  exact Bool.noConfusion other

theorem mapM_eq_some_map {α β : Type} {f : α → Option β} {g : α → β} {list : List α}
    (agree : ∀ a ∈ list, f a = some (g a)) : list.mapM f = some (list.map g) := by
  induction list with
  | nil => rfl
  | cons a rest ih =>
    have later := ih fun b mem => agree b (List.mem_cons_of_mem _ mem)
    rw [List.mapM_cons, agree a (by simp), later]
    rfl

/-- What is read part by part is what was written part by part, if each part is. -/
theorem mapM_map {α β γ : Type} {read : β → Option γ} {write : α → β} {seen : α → γ}
    {list : List α} (back : ∀ a ∈ list, read (write a) = some (seen a)) :
    (list.map write).mapM read = some (list.map seen) := by
  rw [List.mapM_map]
  exact mapM_eq_some_map back

/-- A character of parts with a mark between them is the mark or in a part. -/
theorem mem_intercalate_singleton {c mark : Char} {parts : List (List Char)}
    (mem : c ∈ [mark].intercalate parts) : c = mark ∨ ∃ part ∈ parts, c ∈ part := by
  induction parts with
  | nil => exact absurd mem (List.not_mem_nil)
  | cons part parts ih =>
    by_cases last : parts = []
    · subst last
      rw [List.intercalate_singleton] at mem
      exact .inr ⟨part, List.mem_cons_self .., mem⟩
    · rw [List.intercalate_cons_of_ne_nil last, List.mem_append, List.mem_append] at mem
      rcases mem with (inPart | isMark) | later
      · exact .inr ⟨part, List.mem_cons_self .., inPart⟩
      · exact .inl (List.mem_singleton.1 isMark)
      · rcases ih later with isMark | ⟨other, otherMem, inOther⟩
        · exact .inl isMark
        · exact .inr ⟨other, List.mem_cons_of_mem part otherMem, inOther⟩

theorem isDigit_of_mem_toString {n : Nat} {c : Char} (mem : c ∈ (toString n).toList) :
    c.isDigit = true := by
  rw [Nat.toString_eq_ofList_toDigits, String.toList_ofList] at mem
  exact Nat.isDigit_of_mem_toDigits (by omega) (by omega) mem

theorem not_mem_toString {c : Char} (other : c.isDigit = false) (n : Nat) :
    c ∉ (toString n).toList := by
  intro mem
  rw [isDigit_of_mem_toString mem] at other
  exact Bool.noConfusion other

theorem toNat?_toString (n : Nat) : (toString n).toNat? = some n :=
  Nat.toNat?_repr n

end ImportCycles.Text
