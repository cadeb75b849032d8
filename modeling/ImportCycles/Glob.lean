/-! # Glob patterns

In a pattern `?` stands for one character and `*` for any number of them, slashes included; brackets
list characters and ranges, or exclude them after `!`. A component `**` stands for any number of
whole directories, or at the end for everything below.
-/

namespace ImportCycles.Glob

/-- One character or range of a bracket. -/
structure Range where
  first : Char
  last : Char
  deriving DecidableEq, Repr

/-- One element of a pattern. -/
inductive Token where
  | char (c : Char)
  | anyChar
  | anyText
  /-- Any number of whole directories. -/
  | anyFolders
  /-- One character in the ranges, or one outside them. -/
  | bracket (excluded : Bool) (ranges : List Range)
  deriving DecidableEq, Repr

/-- Why a pattern cannot be read. -/
inductive Problem where
  | range
  | wildcards
  | folders
  deriving DecidableEq, Repr

/-- A problem, and the number of the character where it was noticed. -/
structure Fault where
  index : Nat
  problem : Problem
  deriving DecidableEq, Repr

/-- What is wrong with the pattern. -/
def Problem.message : Problem → String
  | .range => "invalid range pattern"
  | .wildcards => "wildcards are either regular `*` or recursive `**`"
  | .folders => "recursive wildcards must form a single path component"

/-- What is wrong with the pattern, and where. -/
def Fault.message (fault : Fault) : String :=
  "Pattern syntax error near position " ++ toString fault.index ++ ": " ++ fault.problem.message

/-- The ranges that the inside of a bracket lists. A `-` between two characters makes a range. -/
def ranges : List Char → List Range
  | a :: '-' :: b :: rest => ⟨a, b⟩ :: ranges rest
  | a :: rest => ⟨a, a⟩ :: ranges rest
  | [] => []

/-- The inside of a bracket that `first` starts, and the text after it. The first character never
ends the bracket. -/
def bracket? (first : Char) (rest : List Char) : Option (List Char × List Char) :=
  match rest.dropWhile (· ≠ ']') with
  | [] => none
  | _ :: after => some (first :: rest.takeWhile (· ≠ ']'), after)

/-- What follows a bracket is shorter than what follows its first character. -/
theorem bracket?_length {first : Char} {rest inner after : List Char}
    (h : bracket? first rest = some (inner, after)) : after.length < rest.length := by
  have le := (List.dropWhile_sublist (· ≠ ']') (l := rest)).length_le
  unfold bracket? at h
  split at h
  · simp at h
  · rename_i c tail eq
    obtain ⟨-, rfl⟩ := Prod.mk.inj (Option.some.inj h)
    rw [eq, List.length_cons] at le
    omega

/-- Reads a pattern from the character with number `index` on, which `before` precedes. -/
def parseFrom (before : Option Char) (index : Nat) (text : List Char) :
    Except Fault (List Token) :=
  match text with
  | [] => .ok []
  | '?' :: rest => (parseFrom (some '?') (index + 1) rest).map (.anyChar :: ·)
  | '*' :: '*' :: '*' :: _ => .error ⟨index + 2, .wildcards⟩
  | '*' :: '*' :: rest =>
    if before.any (· ≠ '/') then .error ⟨index - 1, .folders⟩
    else
      match rest with
      | [] => .ok [.anyFolders]
      | '/' :: rest => (parseFrom (some '/') (index + 3) rest).map (.anyFolders :: ·)
      | _ => .error ⟨index + 2, .folders⟩
  | '*' :: rest => (parseFrom (some '*') (index + 1) rest).map (.anyText :: ·)
  | ['['] => .error ⟨index, .range⟩
  | ['[', '!'] => .error ⟨index, .range⟩
  | '[' :: '!' :: first :: rest =>
    match _h : bracket? first rest with
    | none => .error ⟨index, .range⟩
    | some (inner, after) =>
      (parseFrom (some ']') (index + 3 + inner.length) after).map
        (.bracket true (ranges inner) :: ·)
  | '[' :: first :: rest =>
    match _h : bracket? first rest with
    | none => .error ⟨index, .range⟩
    | some (inner, after) =>
      (parseFrom (some ']') (index + 2 + inner.length) after).map
        (.bracket false (ranges inner) :: ·)
  | c :: rest => (parseFrom (some c) (index + 1) rest).map (.char c :: ·)
termination_by text.length
decreasing_by
  all_goals simp only [List.length_cons]
  all_goals first
    | omega
    | have := bracket?_length _h; omega

/-- Reads a pattern. -/
def parse (pattern : String) : Except Fault (List Token) :=
  parseFrom none 0 pattern.toList

/-- Does an element that stands for one character stand for this one? -/
def Token.accepts : Token → Char → Bool
  | .char c, d => c == d
  | .anyChar, _ => true
  | .bracket excluded ranges, d =>
    excluded != ranges.any fun range => range.first ≤ d && d ≤ range.last
  | _, _ => false

/-- For each end of a text, the whole text first, whether it or a shorter one is marked. -/
def orShorter : List Bool → List Bool
  | [] => []
  | mark :: marks =>
    let shorter := orShorter marks
    (mark || shorter.headD false) :: shorter

/-- For each end of a text, the whole text first, whether an end below one of its folders or the
empty end is marked. -/
def orBelow : List Char → List Bool → List Bool
  | c :: text, _ :: marks =>
    let below := orBelow text marks
    ((c == '/' && marks.headD false) || below.headD false) :: below
  | _, marks => marks

/-- For each end of a text, the whole text first, whether it fits the pattern. -/
def fitting : List Token → List Char → List Bool
  | [], text => text.map (fun _ => false) ++ [true]
  | token :: rest, text =>
    let marks := fitting rest text
    match token with
    | .anyText => orShorter marks
    | .anyFolders => List.zipWith or marks (orBelow text marks)
    | token => List.zipWith and (text.map token.accepts) marks.tail ++ [false]

/-- Does the whole text fit the pattern? -/
def fits (pattern : List Token) (text : List Char) : Bool :=
  (fitting pattern text).headD false

end ImportCycles.Glob
