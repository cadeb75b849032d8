import ImportCycles.Proofs.Masking
import ImportCycles.Text.Lines
import Mathlib.Data.List.Induction

/-! # Lines and columns

The table of line starts gives the line and the column that one would count by hand. At the end of a
part of a text the table divides into the lines that have started, as many as there are line feeds
and one more, and those that start later. The last line that has started is the one the place is in.
-/

namespace ImportCycles.Text

theorem byteLength_eq_zero {text : List Char} (zero : byteLength text = 0) : text = [] := by
  cases text with
  | nil => rfl
  | cons c rest =>
    have positive := c.utf8Size_pos
    simp only [byteLength] at zero
    omega

theorem byteLength_ofList (text : List Char) :
    (String.ofList text).utf8ByteSize = byteLength text := by
  induction text with
  | nil => rfl
  | cons c rest ih =>
    rw [String.ofList_cons, String.utf8ByteSize_append, String.utf8ByteSize_singleton, ih, byteLength]

theorem byteLength_toList (text : String) : byteLength text.toList = text.utf8ByteSize := by
  rw [← byteLength_ofList, String.ofList_toList]

/-- Beginnings of a text that take the same number of bytes are the same. -/
theorem append_inj_of_byteLength {before after other rest : List Char}
    (same : before ++ after = other ++ rest) (size : byteLength before = byteLength other) :
    before = other ∧ after = rest := by
  have front := takeBytes?_byteLength before after
  rw [same, size, takeBytes?_byteLength] at front
  obtain rfl := Option.some.inj front
  exact ⟨rfl, List.append_cancel_left same⟩

theorem startsFrom_append (offset : Nat) (before after : List Char) :
    startsFrom offset (before ++ after) =
      startsFrom offset before ++ startsFrom (offset + byteLength before) after := by
  induction before generalizing offset with
  | nil => rfl
  | cons c before ih =>
    have feed : Char.utf8Size '\n' = 1 := rfl
    by_cases isFeed : c = '\n'
    · simp only [List.cons_append, startsFrom, isFeed, if_true, ih, byteLength, feed, Nat.add_assoc]
    · simp only [List.cons_append, startsFrom, isFeed, if_false, ih, byteLength, Nat.add_assoc]

/-- The lines behind the first start behind the start of the text, and not behind its end. -/
theorem mem_startsFrom {offset start : Nat} {text : List Char}
    (mem : start ∈ startsFrom offset text) : offset < start ∧ start ≤ offset + byteLength text := by
  induction text generalizing offset with
  | nil => simp [startsFrom] at mem
  | cons c text ih =>
    have positive := c.utf8Size_pos
    have feed : Char.utf8Size '\n' = 1 := rfl
    simp only [startsFrom] at mem
    simp only [byteLength]
    split at mem
    · rename_i isFeed
      rw [isFeed, feed]
      rcases List.mem_cons.1 mem with rfl | mem
      · omega
      · have := ih mem
        omega
    · have := ih mem
      omega

theorem length_startsFrom (offset : Nat) (text : List Char) :
    (startsFrom offset text).length = text.count '\n' := by
  induction text generalizing offset with
  | nil => rfl
  | cons c text ih =>
    by_cases isFeed : c = '\n'
    · simp [startsFrom, isFeed, ih]
    · simp [startsFrom, isFeed, ih]

theorem startsFrom_eq_nil {offset : Nat} {text : List Char} (noFeed : '\n' ∉ text) :
    startsFrom offset text = [] := by
  apply List.length_eq_zero_iff.1
  rw [length_startsFrom]
  exact List.count_eq_zero_of_not_mem noFeed

/-- A text, divided into whole lines and the beginning of a line. -/
structure LastLine (text lines last : List Char) : Prop where
  text_eq : text = lines ++ last
  whole : lines = [] ∨ lines.getLast? = some '\n'
  noFeed : '\n' ∉ last

theorem exists_lastLine (text : List Char) : ∃ lines last, LastLine text lines last := by
  induction text using List.reverseRecOn with
  | nil => exact ⟨[], [], rfl, .inl rfl, List.not_mem_nil⟩
  | append_singleton text c ih =>
    by_cases isFeed : c = '\n'
    · exact ⟨text ++ [c], [], by simp, .inr (by simp [isFeed]), List.not_mem_nil⟩
    · obtain ⟨lines, last, text_eq, whole, noFeed⟩ := ih
      refine ⟨lines, last ++ [c], by rw [text_eq, List.append_assoc], whole, ?_⟩
      rw [List.mem_append, List.mem_singleton, not_or]
      exact ⟨noFeed, Ne.symm isFeed⟩

namespace LastLine

variable {text lines last after : List Char}

/-- The place behind a text is in its last line, and as many characters further on as that has. -/
theorem position_eq (divided : LastLine text lines last) (after : List Char) :
    position (text ++ after) (byteLength text) = (1 + text.count '\n', 1 + last.length) := by
  have stops : text.reverse.takeWhile (· ≠ '\n') = last.reverse := by
    rw [divided.text_eq, List.reverse_append]
    have passes : ∀ c ∈ last.reverse, decide (c ≠ '\n') = true := by
      intro c mem
      refine decide_eq_true ?_
      rintro rfl
      exact divided.noFeed (List.mem_reverse.1 mem)
    rw [List.takeWhile_append_of_pos passes]
    rcases divided.whole with rfl | isLast
    · simp
    · obtain ⟨front, rfl⟩ := List.getLast?_eq_some_iff.1 isLast
      simp
  rw [position, takeBytes?_byteLength, Option.getD_some, stops, List.length_reverse]

/-- The last of the lines that have started is the one that the division names. -/
theorem getLast?_starts (divided : LastLine text lines last) :
    (0 :: startsFrom 0 text).getLast? = some (byteLength lines) := by
  rw [divided.text_eq, startsFrom_append, startsFrom_eq_nil divided.noFeed, List.append_nil]
  rcases divided.whole with rfl | isLast
  · rfl
  · obtain ⟨front, rfl⟩ := List.getLast?_eq_some_iff.1 isLast
    have feed : startsFrom (0 + byteLength front) ['\n'] = [byteLength front + 1] := by
      simp [startsFrom]
    have size : byteLength (front ++ ['\n']) = byteLength front + 1 := by
      rw [byteLength_append]
      rfl
    rw [startsFrom_append, feed, size, ← List.cons_append, List.getLast?_append]
    rfl

end LastLine

theorem partitionPoint?_append {α : Type} {p : α → Bool} {front back : List α}
    (here : ∀ a ∈ front, p a = true) (past : ∀ a ∈ back, p a = false) :
    partitionPoint? p (front ++ back) = some front.length := by
  have stops : back.takeWhile p = [] ∧ back.dropWhile p = back := by
    cases back with
    | nil => exact ⟨rfl, rfl⟩
    | cons a back =>
      have first := past a (by simp)
      exact ⟨by simp [first], by simp [first]⟩
  have no : back.any p = false := by
    rw [List.any_eq_false]
    intro a mem
    simp [past a mem]
  rw [partitionPoint?, List.dropWhile_append_of_pos here, List.takeWhile_append_of_pos here,
    stops.1, stops.2, no, List.append_nil, if_neg Bool.false_ne_true]

/-- The table gives the line and the column of every place between two characters. -/
theorem Lines.position?_eq (before after : List Char) :
    (Lines.ofText (before ++ after)).position? (before ++ after) (byteLength before) =
      some (position (before ++ after) (byteLength before)) := by
  obtain ⟨lines, last, divided⟩ := exists_lastLine before
  have starts : 0 :: startsFrom 0 (before ++ after) =
      (0 :: startsFrom 0 before) ++ startsFrom (byteLength before) after := by
    rw [startsFrom_append, Nat.zero_add, List.cons_append]
  have line : partitionPoint? (· ≤ byteLength before) (0 :: startsFrom 0 (before ++ after)) =
      some (1 + before.count '\n') := by
    rw [starts, partitionPoint?_append]
    · rw [List.length_cons, length_startsFrom, Nat.add_comm]
    · intro start mem
      refine decide_eq_true ?_
      rcases List.mem_cons.1 mem with rfl | mem
      · exact Nat.zero_le _
      · have := mem_startsFrom mem
        omega
    · intro start mem
      refine decide_eq_false ?_
      have := mem_startsFrom mem
      omega
  have start : (0 :: startsFrom 0 (before ++ after))[1 + before.count '\n' - 1]? =
      some (byteLength lines) := by
    rw [← divided.getLast?_starts, starts, List.getLast?_eq_getElem?, List.length_cons,
      length_startsFrom, List.getElem?_append_left]
    · rw [Nat.add_sub_cancel_left, Nat.add_sub_cancel]
    · rw [List.length_cons, length_startsFrom]
      omega
  have slice := slice?_byteLength lines last after
  rw [← List.append_assoc, ← divided.text_eq, ← byteLength_append, ← divided.text_eq] at slice
  have nonzero : 1 + before.count '\n' ≠ 0 := by omega
  rw [divided.position_eq after, Nat.add_comm 1 last.length]
  simp only [Lines.position?, Lines.ofText, line, start, slice, if_neg nonzero, Option.bind_eq_bind,
    Option.bind_some]

end ImportCycles.Text
