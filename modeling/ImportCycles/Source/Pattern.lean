import ImportCycles.Source.Statement

/-! # Statements as patterns

What a statement looks like is written down as a pattern: which texts may stand at which place,
with no word about how to read them. A part that may be as long as it likes can be read greedily or
not. Every pattern goes up to an opening quote, takes a specifier and its closing quote and may ask
for something behind it.
-/

namespace ImportCycles.Source

open Text (isBlank isWord)

/-- A pattern for a piece of text. -/
inductive Pattern where
  /-- No text. -/
  | nothing
  /-- These characters. -/
  | word (letters : List Char)
  /-- One character of a class. -/
  | one (allowed : Char → Bool)
  /-- Any number of characters of a class. -/
  | many (allowed : Char → Bool)
  /-- The place where a word starts or ends. -/
  | edge
  | seq (first second : Pattern)
  | either (first second : Pattern)

/-- The last character in front of what follows `read`, when `before` was it in front of `read`. -/
def lastOf (before : Option Char) (read : List Char) : Option Char :=
  read.getLast?.or before

namespace Pattern

/-- Is `read` matched by a pattern, between the character `before` and the text `rest`? -/
def Matches : Pattern → (before : Option Char) → (read rest : List Char) → Prop
  | nothing, _, read, _ => read = []
  | word letters, _, read, _ => read = letters
  | one allowed, _, read, _ => ∃ c, read = [c] ∧ allowed c = true
  | many allowed, _, read, _ => ∀ c ∈ read, allowed c = true
  | edge, before, read, rest => read = [] ∧ before.any isWord ≠ rest.head?.any isWord
  | seq first second, before, read, rest => ∃ front back, read = front ++ back ∧
      first.Matches before front (back ++ rest) ∧ second.Matches (lastOf before front) back rest
  | either first second, before, read, rest =>
    first.Matches before read rest ∨ second.Matches before read rest

/-- Patterns one after another. -/
def all : List Pattern → Pattern
  | [] => nothing
  | first :: rest => seq first (all rest)

/-- One or more characters of a class. -/
def several (allowed : Char → Bool) : Pattern :=
  seq (one allowed) (many allowed)

/-- A part that may be missing. -/
def maybe (part : Pattern) : Pattern :=
  either part nothing

/-- The word `type` and blanks, which may be missing. -/
def typeKeyword : Pattern :=
  maybe (seq (word "type".toList) (several isBlank))

/-- The name in `* as name`. -/
def asName : Pattern :=
  seq (many isBlank) (seq (word "as".toList) (seq (several isBlank) (several isNameChar)))

/-- A star, which may have a name. -/
def star : Pattern :=
  seq (word ['*']) (maybe asName)

/-- Anything in braces. -/
def braces : Pattern :=
  seq (word ['\x7b']) (seq (many (· ≠ '\x7d')) (word ['\x7d']))

end Pattern

open Pattern (word many edge seq either several typeKeyword star braces)

/-- What stands between the keyword and the opening quote. -/
def Form.middle : Form → Pattern
  | .clause => .all [several isBlank, typeKeyword, several isClauseChar, many isBlank, edge,
      word "from".toList, many isBlank]
  | .effect => .all [many isBlank]
  | .reexport => .all [several isBlank, typeKeyword, either star braces, many isBlank,
      word "from".toList, many isBlank]
  | .require => .all [several isBlank, typeKeyword, several isNameChar, many isBlank, word ['='],
      many isBlank, word "require".toList, many isBlank, word ['('], many isBlank]

/-- What stands behind the closing quote. -/
def Form.ending : Form → Pattern
  | .require => .all [many isBlank, word [')']]
  | _ => .nothing

/-- A text that starts with a pattern, a specifier in quotes and another pattern. -/
inductive Quoted (front back : Pattern) (before : Option Char) : List Char → Recognised → Prop
  | intro {read content tail : List Char} {opening closing : Char} (rest : List Char)
      (matched : front.Matches before read (opening :: (content ++ closing :: (tail ++ rest))))
      (opens : isSpecifierQuote opening = true) (closes : isSpecifierQuote closing = true)
      (nonempty : content ≠ []) (chars : ∀ c ∈ content, isSpecifierChar c = true)
      (ended : back.Matches (some closing) tail rest) :
      Quoted front back before (read ++ opening :: (content ++ closing :: (tail ++ rest)))
        ⟨content ++ closing :: (tail ++ rest), closing :: (tail ++ rest), rest⟩

/-- A statement of a form that starts where `text` does, behind the character `before`. -/
def Form.Match (form : Form) (before : Option Char) (text : List Char) (found : Recognised) :
    Prop :=
  Quoted (seq edge (seq (word form.keyword.toList) form.middle)) form.ending before text found

end ImportCycles.Source
