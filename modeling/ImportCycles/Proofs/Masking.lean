import ImportCycles.Source.Mask
import ImportCycles.Text.Bytes
import Mathlib.Data.List.Basic

/-! # The machine that masks

Masking goes over a source in rounds. A round reads one or two characters, writes as many bytes as
it has read and goes on in some mode. What `maskFrom` gives is what all rounds write, so a character
of the masked text tells in which mode the machine came to its place: only a character of the code
and the quote at the end of a literal are written as they are, everything else is blanked.
-/

namespace ImportCycles

namespace Text

@[simp]
theorem byteLength_append (before after : List Char) :
    byteLength (before ++ after) = byteLength before + byteLength after := by
  induction before with
  | nil => simp [byteLength]
  | cons c rest ih => simp only [List.cons_append, byteLength, ih, Nat.add_assoc]

@[simp]
theorem byteLength_replicate_space (n : Nat) : byteLength (List.replicate n ' ') = n := by
  induction n with
  | zero => rfl
  | succ n ih =>
    have space : Char.utf8Size ' ' = 1 := rfl
    simp only [List.replicate_succ, byteLength, ih, space, Nat.add_comm]

theorem exists_byteLength_cons (c : Char) (rest : List Char) :
    ∃ n, byteLength (c :: rest) = n + 1 ∧ c.utf8Size ≤ n + 1 ∧
      n + 1 - c.utf8Size = byteLength rest := by
  have positive : 0 < c.utf8Size := c.utf8Size_pos
  refine ⟨byteLength (c :: rest) - 1, ?_, ?_, ?_⟩ <;> simp only [byteLength] <;> omega

theorem dropBytes?_byteLength (before after : List Char) :
    dropBytes? (byteLength before) (before ++ after) = some after := by
  induction before with
  | nil => exact dropBytes?.eq_1 after
  | cons c rest ih =>
    obtain ⟨n, size, fits, left⟩ := exists_byteLength_cons c rest
    rw [size, List.cons_append, dropBytes?, if_pos fits, left, ih]

theorem takeBytes?_byteLength (before after : List Char) :
    takeBytes? (byteLength before) (before ++ after) = some before := by
  induction before with
  | nil => exact takeBytes?.eq_1 after
  | cons c rest ih =>
    obtain ⟨n, size, fits, left⟩ := exists_byteLength_cons c rest
    rw [size, List.cons_append, takeBytes?, if_pos fits, left, ih, Option.map_some]

/-- The part of a text between two others is cut out by their byte offsets. -/
theorem slice?_byteLength (before middle after : List Char) :
    slice? (before ++ (middle ++ after)) (byteLength before)
      (byteLength before + byteLength middle) = some middle := by
  rw [slice?, if_pos (Nat.le_add_right _ _), dropBytes?_byteLength, Nat.add_sub_cancel_left]
  exact takeBytes?_byteLength middle after

end Text

namespace Source

open Text (byteLength byteLength_append)

/-- The characters that show up in a masked text only where they stand in the code. -/
def isSign (c : Char) : Bool := c != ' ' && c != '\n' && !startsLiteral c

/-- Where masking stands: the mode, and the text that is still to be read. -/
structure Masker where
  mode : Mode
  text : List Char

namespace Masker

/-- What is written from here on. -/
def masked (s : Masker) : List Char := maskFrom s.mode s.text

/-- One round: what it writes, and where masking stands then. -/
def next? : Masker → Option (List Char × Masker)
  | ⟨_, []⟩ => none
  | ⟨.code, c :: rest⟩ =>
    if c = '/' ∧ rest.head? = some '/' then some ([' ', ' '], ⟨.lineComment, rest.tail⟩)
    else if c = '/' ∧ rest.head? = some '*' then some ([' ', ' '], ⟨.blockComment, rest.tail⟩)
    else some ([c], ⟨if startsLiteral c then .literal c else .code, rest⟩)
  | ⟨.lineComment, c :: rest⟩ =>
    some (blank c, ⟨if c = '\n' then .code else .lineComment, rest⟩)
  | ⟨.blockComment, c :: rest⟩ =>
    if c = '*' ∧ rest.head? = some '/' then some ([' ', ' '], ⟨.code, rest.tail⟩)
    else some (blank c, ⟨.blockComment, rest⟩)
  | ⟨.literal quote, [c]⟩ =>
    some (if c = quote then [c] else blank c, ⟨afterLiteralChar quote c, []⟩)
  | ⟨.literal quote, c :: d :: rest⟩ =>
    if c = escape then some (' ' :: blank d, ⟨.literal quote, rest⟩)
    else some (if c = quote then [c] else blank c, ⟨afterLiteralChar quote c, d :: rest⟩)

/-- Masking is to write what one round writes and to go on from there, until nothing is left. So the
rounds are those of `maskFrom`. -/
theorem masked_eq (s : Masker) :
    s.masked = match s.next? with
      | none => []
      | some (written, t) => written ++ t.masked := by
  obtain ⟨mode, text⟩ := s
  cases text with
  | nil => simp [masked, next?, maskFrom]
  | cons c rest =>
    cases rest with
    | nil => cases mode <;> simp [masked, next?, maskFrom]
    | cons d rest =>
      cases mode with
      | code =>
        by_cases line : c = '/' ∧ d = '/'
        · simp [masked, next?, maskFrom, line]
        · by_cases block : c = '/' ∧ d = '*'
          · simp [masked, next?, maskFrom, block]
          · simp [masked, next?, maskFrom, line, block]
      | lineComment => simp [masked, next?, maskFrom]
      | blockComment =>
        by_cases closes : c = '*' ∧ d = '/'
        · simp [masked, next?, maskFrom, closes]
        · simp [masked, next?, maskFrom, closes]
      | literal quote =>
        by_cases escaped : c = escape
        · simp [masked, next?, maskFrom, escaped]
        · simp [masked, next?, maskFrom, escaped]

theorem next?_literal (quote : Char) {c : Char} (notEscape : c ≠ escape) (rest : List Char) :
    next? ⟨.literal quote, c :: rest⟩ =
      some (if c = quote then [c] else blank c, ⟨afterLiteralChar quote c, rest⟩) := by
  cases rest with
  | nil => rfl
  | cons d rest => simp only [next?, if_neg notEscape]

theorem masked_of_next? {s t : Masker} {written : List Char} (round : s.next? = some (written, t)) :
    s.masked = written ++ t.masked := by
  rw [masked_eq, round]

theorem byteLength_blank (c : Char) : byteLength (blank c) = c.utf8Size := by
  unfold blank
  split
  · rename_i feed
    subst feed
    rfl
  · exact Text.byteLength_replicate_space _

theorem mem_blank {c d : Char} (mem : d ∈ blank c) : d = ' ' ∨ d = '\n' := by
  unfold blank at mem
  split at mem
  · exact .inr (List.mem_singleton.1 mem)
  · exact .inl (List.eq_of_mem_replicate mem)

/-- The rounds that write the character they read. -/
inductive Shows : Masker → Char → Masker → Prop
  | code (c : Char) (rest : List Char) :
      Shows ⟨.code, c :: rest⟩ c ⟨if startsLiteral c then .literal c else .code, rest⟩
  | closing (quote : Char) (rest : List Char) :
      Shows ⟨.literal quote, quote :: rest⟩ quote ⟨.code, rest⟩

/-- What the other rounds do: they write blanks, enter no literal, and leave one only at a line
feed. -/
structure Blanks (s : Masker) (written : List Char) (t : Masker) : Prop where
  read : ∃ c read, s.text = c :: read ++ t.text ∧ byteLength (c :: read) = byteLength written
  blank : ∀ c ∈ written, c = ' ' ∨ c = '\n'
  outside : ∀ quote, t.mode = .literal quote → s.mode = .literal quote
  inside : ∀ quote, s.mode = .literal quote → '\n' ∉ written → t.mode = .literal quote

/-- A round that takes the first two characters of the code or of a block comment for one sign. -/
theorem blanks_two {mode mode' : Mode} {c d : Char} {rest : List Char}
    (sizes : c.utf8Size + d.utf8Size = 2) (before : ∀ quote, mode ≠ .literal quote)
    (after : ∀ quote, mode' ≠ .literal quote) :
    Blanks ⟨mode, c :: d :: rest⟩ [' ', ' '] ⟨mode', rest⟩ where
  read := ⟨c, [d], rfl, sizes⟩
  blank e mem := .inl (by simpa using mem)
  outside quote same := absurd same (after quote)
  inside quote same := absurd same (before quote)

/-- A character of a literal that is not an escape. -/
theorem literal_shows_or_blanks (quote c : Char) (rest : List Char) :
    (∃ d, (if c = quote then [c] else Source.blank c) = [d] ∧
      Shows ⟨.literal quote, c :: rest⟩ d ⟨afterLiteralChar quote c, rest⟩) ∨
    Blanks ⟨.literal quote, c :: rest⟩ (if c = quote then [c] else Source.blank c)
      ⟨afterLiteralChar quote c, rest⟩ := by
  by_cases closes : c = quote
  · subst closes
    have leaves : afterLiteralChar c c = .code := by simp [afterLiteralChar]
    rw [leaves]
    exact .inl ⟨c, if_pos rfl, .closing c rest⟩
  · rw [if_neg closes]
    refine .inr ⟨⟨c, [], rfl, (byteLength_blank c).symm⟩, fun d => mem_blank, ?_, ?_⟩
    · intro other same
      unfold afterLiteralChar at same
      split at same
      · cases same
      · exact same
    · intro other same noFeed
      have notFeed : c ≠ '\n' := by
        rintro rfl
        exact noFeed (by simp [Source.blank])
      simp [afterLiteralChar, closes, notFeed, ← same]

theorem shows_or_blanks {s t : Masker} {written : List Char}
    (round : s.next? = some (written, t)) :
    (∃ c, written = [c] ∧ Shows s c t) ∨ Blanks s written t := by
  obtain ⟨mode, text⟩ := s
  cases text with
  | nil => cases round
  | cons c rest =>
    cases mode with
    | code =>
      simp only [next?] at round
      split at round
      · rename_i line
        obtain ⟨rfl, second⟩ := line
        obtain ⟨rest', rfl⟩ := List.head?_eq_some_iff.1 second
        cases round
        exact .inr (blanks_two rfl nofun nofun)
      · split at round
        · rename_i block
          obtain ⟨rfl, second⟩ := block
          obtain ⟨rest', rfl⟩ := List.head?_eq_some_iff.1 second
          cases round
          exact .inr (blanks_two rfl nofun nofun)
        · cases round
          exact .inl ⟨c, rfl, .code c rest⟩
    | lineComment =>
      cases round
      refine .inr ⟨⟨c, [], rfl, (byteLength_blank c).symm⟩, fun d => mem_blank, ?_, nofun⟩
      intro quote same
      split at same <;> cases same
    | blockComment =>
      simp only [next?] at round
      split at round
      · rename_i closes
        obtain ⟨rfl, second⟩ := closes
        obtain ⟨rest', rfl⟩ := List.head?_eq_some_iff.1 second
        cases round
        exact .inr (blanks_two rfl nofun nofun)
      · cases round
        exact .inr ⟨⟨c, [], rfl, (byteLength_blank c).symm⟩, fun d => mem_blank, nofun, nofun⟩
    | literal quote =>
      cases rest with
      | nil =>
        cases round
        exact literal_shows_or_blanks quote c []
      | cons d rest =>
        simp only [next?] at round
        split at round
        · rename_i escaped
          cases round
          refine .inr ⟨⟨c, [d], rfl, ?_⟩, ?_, fun _ same => same, fun _ same _ => same⟩
          · have one : escape.utf8Size = Char.utf8Size ' ' := rfl
            simp [byteLength, byteLength_blank, escaped, one]
          · intro e mem
            rcases List.mem_cons.1 mem with space | mem
            · exact .inl space
            · exact mem_blank mem
        · cases round
          exact literal_shows_or_blanks quote c (d :: rest)

theorem read_of_next? {s t : Masker} {written : List Char} (round : s.next? = some (written, t)) :
    ∃ c read, s.text = c :: read ++ t.text ∧ byteLength (c :: read) = byteLength written := by
  rcases shows_or_blanks round with ⟨c, rfl, shows⟩ | blanks
  · cases shows with
    | code c rest => exact ⟨c, [], rfl, rfl⟩
    | closing quote => exact ⟨c, [], rfl, rfl⟩
  · exact blanks.read

/-- Rounds one after another, each made in a mode that is `allowed`, with all that they write. -/
inductive Run (allowed : Mode → Prop) : Masker → List Char → Masker → Prop
  | done (s : Masker) : Run allowed s [] s
  | round {s t u : Masker} {written later : List Char} (mode : allowed s.mode)
      (next : s.next? = some (written, t)) (run : Run allowed t later u) :
      Run allowed s (written ++ later) u

namespace Run

variable {allowed : Mode → Prop} {s t u : Masker} {written later : List Char}

theorem single (mode : allowed s.mode) (next : s.next? = some (written, t)) :
    Run allowed s written t := by
  have run : Run allowed s (written ++ []) t := .round mode next (.done t)
  rwa [List.append_nil] at run

theorem trans (run : Run allowed s written t) (rest : Run allowed t later u) :
    Run allowed s (written ++ later) u := by
  induction run with
  | done s => exact rest
  | round mode next run ih =>
    rw [List.append_assoc]
    exact .round mode next (ih rest)

theorem imp {wider : Mode → Prop} (weaker : ∀ mode, allowed mode → wider mode)
    (run : Run allowed s written t) : Run wider s written t := by
  induction run with
  | done s => exact .done s
  | round mode next run ih => exact .round (weaker _ mode) next ih

theorem masked_eq (run : Run allowed s written t) : s.masked = written ++ t.masked := by
  induction run with
  | done s => rfl
  | round mode next run ih => rw [masked_of_next? next, ih, List.append_assoc]

/-- Rounds take as many bytes off the text as they write. -/
theorem exists_read (run : Run allowed s written t) :
    ∃ read, s.text = read ++ t.text ∧ byteLength read = byteLength written := by
  induction run with
  | done s => exact ⟨[], rfl, rfl⟩
  | round mode next run ih =>
    obtain ⟨c, first, text, size⟩ := read_of_next? next
    obtain ⟨read, text', size'⟩ := ih
    refine ⟨c :: first ++ read, ?_, ?_⟩
    · rw [text, text', List.append_assoc]
    · rw [byteLength_append, byteLength_append, size, size']

/-- Rounds that write no opening quote get into no literal. -/
theorem outside_of_no_quote (run : Run allowed s written t)
    (noQuote : ∀ c ∈ written, startsLiteral c = false)
    (outside : ∀ quote, s.mode ≠ .literal quote) :
    ∀ quote, t.mode ≠ .literal quote := by
  induction run with
  | done s => exact outside
  | round mode next run ih =>
    refine ih (fun c mem => noQuote c (List.mem_append_right _ mem)) ?_
    intro quote same
    rcases shows_or_blanks next with ⟨c, rfl, shows⟩ | blanks
    · cases shows with
      | code c rest => simp [noQuote c (by simp)] at same
      | closing => exact outside c rfl
    · exact outside quote (blanks.outside quote same)

end Run

/-- A character of the masked text other than a blank was written by a round of its own. -/
theorem exists_run_to_shown {s : Masker} {before after : List Char} {x : Char}
    (masked : s.masked = before ++ x :: after) (space : x ≠ ' ') (feed : x ≠ '\n') :
    ∃ t u, Run (fun _ => True) s before t ∧ t.next? = some ([x], u) ∧ Shows t x u := by
  -- a round may read two characters, so the induction is on the length of what is left
  induction size : s.text.length using Nat.strongRecOn generalizing s before with
  | ind n ih =>
    cases next : s.next? with
    | none =>
      rw [masked_eq, next] at masked
      simp at masked
    | some round =>
      obtain ⟨written, t⟩ := round
      obtain ⟨c, read, text, -⟩ := read_of_next? next
      have shorter : t.text.length < n := by
        rw [← size, text]
        simp only [List.cons_append, List.length_cons, List.length_append]
        omega
      have later : ∀ rest, before = written ++ rest → t.masked = rest ++ x :: after →
          ∃ t u, Run (fun _ => True) s before t ∧ t.next? = some ([x], u) ∧ Shows t x u := by
        intro rest split masked'
        obtain ⟨u, v, run, last⟩ := ih _ shorter masked' rfl
        exact ⟨u, v, split ▸ .round trivial next run, last⟩
      rw [masked_of_next? next] at masked
      rcases List.append_eq_append_iff.1 masked with ⟨rest, split, masked'⟩ | ⟨rest, split, masked'⟩
      · exact later rest split masked'
      · cases rest with
        | nil => exact later [] (by simpa using split.symm) (by simpa using masked'.symm)
        | cons d rest =>
          -- `x` is among what this round writes, so that is `x` alone
          cases (List.cons.inj masked').1
          rcases shows_or_blanks next with ⟨c, rfl, shows⟩ | blanks
          · cases before with
            | nil =>
              cases split
              exact ⟨s, t, .done s, next, shows⟩
            | cons d before => simp at split
          · rcases blanks.blank x (by simp [split]) with same | same
            · exact absurd same space
            · exact absurd same feed

/-- A literal that masking is in ends with a character that starts literals. -/
def Regular (s : Masker) : Prop := ∀ quote, s.mode = .literal quote → startsLiteral quote = true

theorem regular_code (text : List Char) : Regular ⟨.code, text⟩ := by
  intro quote same
  cases same

theorem Run.regular {allowed : Mode → Prop} {s t : Masker} {written : List Char}
    (run : Run allowed s written t) (regular : s.Regular) : t.Regular := by
  induction run with
  | done s => exact regular
  | round mode next run ih =>
    refine ih ?_
    intro quote same
    rcases shows_or_blanks next with ⟨c, rfl, shows⟩ | blanks
    · cases shows with
      | code c rest =>
        by_cases starts : startsLiteral c
        · simp only [starts, if_true, Mode.literal.injEq] at same
          exact same ▸ starts
        · simp [starts] at same
      | closing => cases same
    · exact regular quote (blanks.outside quote same)

/-- A sign of the masked text stands in the code, and it is followed by code. -/
theorem exists_run_to_sign {s : Masker} (regular : s.Regular) {before after : List Char} {x : Char}
    (masked : s.masked = before ++ x :: after) (sign : isSign x = true) :
    ∃ rest, Run (fun _ => True) s before ⟨.code, x :: rest⟩ ∧
      (Masker.mk .code (x :: rest)).next? = some ([x], ⟨.code, rest⟩) := by
  simp only [isSign, Bool.and_eq_true, bne_iff_ne, ne_eq, Bool.not_eq_true'] at sign
  obtain ⟨⟨space, feed⟩, noQuote⟩ := sign
  obtain ⟨t, u, run, next, shows⟩ := exists_run_to_shown masked space feed
  cases shows with
  | code x rest =>
    rw [noQuote] at next
    exact ⟨rest, run, next⟩
  | closing x rest =>
    have starts := run.regular regular x rfl
    simp [noQuote] at starts

/-- The first quote that is shown from the code on opens a literal. -/
theorem exists_run_to_opening {text before after : List Char} {quote : Char}
    (masked : (Masker.mk .code text).masked = before ++ quote :: after)
    (noQuote : ∀ c ∈ before, startsLiteral c = false) (starts : startsLiteral quote = true) :
    ∃ rest, Run (fun _ => True) ⟨.code, text⟩ before ⟨.code, quote :: rest⟩ ∧
      (Masker.mk .code (quote :: rest)).next? = some ([quote], ⟨.literal quote, rest⟩) := by
  have space : quote ≠ ' ' := by rintro rfl; exact absurd starts (by decide)
  have feed : quote ≠ '\n' := by rintro rfl; exact absurd starts (by decide)
  obtain ⟨t, u, run, next, shows⟩ := exists_run_to_shown masked space feed
  cases shows with
  | code quote rest =>
    rw [starts] at next
    exact ⟨rest, run, next⟩
  | closing quote rest =>
    exact absurd rfl (run.outside_of_no_quote noQuote nofun quote)

/-- Rounds that write neither the quote of the literal they start in nor a line feed stay in it. -/
theorem Run.in_literal {s t : Masker} {written : List Char} {quote : Char}
    (run : Run (fun _ => True) s written t) (literal : s.mode = .literal quote)
    (noQuote : quote ∉ written) (noFeed : '\n' ∉ written) :
    Run (· = .literal quote) s written t ∧ t.mode = .literal quote := by
  induction run with
  | done s => exact ⟨.done s, literal⟩
  | round mode next run ih =>
    simp only [List.mem_append, not_or] at noQuote noFeed
    rcases shows_or_blanks next with ⟨c, rfl, shows⟩ | blanks
    · cases shows with
      | code => cases literal
      | closing =>
        cases literal
        simp at noQuote
    · obtain ⟨inside, last⟩ := ih (blanks.inside quote literal noFeed.1) noQuote.2 noFeed.2
      exact ⟨.round literal next inside, last⟩

/-- The first character that is shown in a literal on one line is the quote that ends it. -/
theorem exists_run_to_closing {text before after : List Char} {quote x : Char}
    (masked : (Masker.mk (.literal quote) text).masked = before ++ x :: after)
    (noQuote : quote ∉ before) (noFeed : '\n' ∉ before) (space : x ≠ ' ') (feed : x ≠ '\n') :
    x = quote ∧ ∃ rest,
      Run (· = .literal quote) ⟨.literal quote, text⟩ before ⟨.literal quote, quote :: rest⟩ ∧
      (Masker.mk (.literal quote) (quote :: rest)).next? = some ([quote], ⟨.code, rest⟩) := by
  obtain ⟨t, u, run, next, shows⟩ := exists_run_to_shown masked space feed
  obtain ⟨inside, last⟩ := run.in_literal rfl noQuote noFeed
  cases shows with
  | code => cases last
  | closing x rest =>
    cases last
    exact ⟨rfl, rest, inside, next⟩

end Masker

end Source

end ImportCycles
