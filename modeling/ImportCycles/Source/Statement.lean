import ImportCycles.Source.Mask
import ImportCycles.Text.Blank
import ImportCycles.Text.Word

/-! # The forms of import statements

Four forms of statement make a file depend on another: an `import` with a clause, an `import` for
its effects alone, an `export` that passes something on, and an `import` that assigns a `require`
call. Each recogniser reads a statement at the start of a masked text. No form leaves a choice: at
every place one character decides how to go on.
-/

namespace ImportCycles.Source

open Text (isBlank isWord skipBlanks)

/-- The forms that an import statement can take. -/
inductive Form where
  /-- `import … from "m"`. -/
  | clause
  /-- `import "m"`. -/
  | effect
  /-- `export … from "m"`. -/
  | reexport
  /-- `import x = require("m")`. -/
  | require
  deriving DecidableEq, Repr

/-- All forms, in the order they are looked for. -/
def Form.all : List Form := [.clause, .effect, .reexport, .require]

/-- A statement at the start of a text, as three places further on in it. -/
structure Recognised where
  /-- The text from the specifier on. -/
  content : List Char
  /-- The text from the closing quote on. -/
  closing : List Char
  /-- The text after the statement. -/
  rest : List Char
  deriving DecidableEq, Repr

/-- The text after `word`. -/
def word? (word : String) (text : List Char) : Option (List Char) :=
  word.toList.isPrefixOf? text

/-- The text after one or more blanks. -/
def blanks? : List Char → Option (List Char)
  | [] => none
  | c :: rest => if isBlank c then some (skipBlanks rest) else none

/-- The text after the character `c`. -/
def char? (c : Char) : List Char → Option (List Char)
  | [] => none
  | d :: rest => if d = c then some rest else none

/-- Does this character stand at an end of a specifier? -/
def isSpecifierQuote (c : Char) : Bool :=
  c == doubleQuote || c == singleQuote

/-- Can this character stand in a specifier? -/
def isSpecifierChar (c : Char) : Bool :=
  !(isSpecifierQuote c || c == '\r' || c == '\n')

/-- A name in a statement is made of word characters and `$`. -/
def isNameChar (c : Char) : Bool :=
  isWord c || c == '$'

/-- The characters between `import` and the specifier. -/
def isClauseChar (c : Char) : Bool :=
  isNameChar c || isBlank c || c == '\x7b' || c == '\x7d' || c == ',' || c == '*'

/-- A specifier between quotes: at least one character on one line. -/
def specifier? (text : List Char) : Option Recognised := do
  let first :: content := text | none
  let firstChar :: _ := content | none
  let closing := content.dropWhile isSpecifierChar
  let last :: rest := closing | none
  if isSpecifierQuote first && isSpecifierChar firstChar && isSpecifierQuote last then
    some ⟨content, closing, rest⟩
  else none

/-- The word `from` and a specifier, with any blanks before them. -/
def fromSpecifier? (text : List Char) : Option Recognised := do
  specifier? (skipBlanks (← word? "from" (skipBlanks text)))

/-- A clause is a blank, at least one more character, and a `from` that starts a word; blanks may
follow. -/
def isClause (clause : List Char) : Bool :=
  match word? "morf" (skipBlanks clause.reverse) with
  | some (last :: first :: before) =>
    !isWord last && ((first :: before).getLast?.map isBlank == some true)
  | _ => false

/-- What follows `import` in an import with a clause. -/
def clauseTail? (text : List Char) : Option Recognised :=
  if isClause (text.takeWhile isClauseChar) then specifier? (text.dropWhile isClauseChar) else none

/-- The text after `type` and blanks, or the text itself where these do not stand. -/
def skipType (text : List Char) : List Char :=
  ((word? "type" text).bind blanks?).getD text

/-- What follows the name in `export * as name from "m"`. The name takes as many characters as it
can, but a name that ends in `from` gives these back when the specifier follows at once. -/
def namedTail? (text : List Char) : Option Recognised :=
  let name := text.takeWhile isNameChar
  let after := text.dropWhile isNameChar
  if name.isEmpty then none
  else
    match fromSpecifier? after with
    | some found => some found
    | none =>
      match word? "morf" name.reverse with
      | some (_ :: _) => specifier? (skipBlanks after)
      | _ => none

/-- What follows `*` in a re-export. -/
def starTail? (text : List Char) : Option Recognised :=
  match (word? "as" (skipBlanks text)).bind blanks? with
  | some named => namedTail? named
  | none => fromSpecifier? text

/-- What follows `export` in a re-export. -/
def reexportTail? (text : List Char) : Option Recognised := do
  let what := skipType (← blanks? text)
  match char? '*' what with
  | some after => starTail? after
  | none =>
    let inner ← char? '\x7b' what
    fromSpecifier? (← char? '\x7d' (inner.dropWhile (· ≠ '\x7d')))

/-- A specifier in a call of `require`, up to the closing parenthesis. -/
def call? (text : List Char) : Option Recognised := do
  let after ← word? "require" (skipBlanks text)
  let found ← specifier? (skipBlanks (← char? '(' (skipBlanks after)))
  some { found with rest := ← char? ')' (skipBlanks found.rest) }

/-- A name, `=` and a call of `require`. -/
def assignment? (text : List Char) : Option Recognised :=
  if (text.takeWhile isNameChar).isEmpty then none
  else (char? '=' (skipBlanks (text.dropWhile isNameChar))).bind call?

/-- What follows `import` in an import that assigns a call of `require`. -/
def requireTail? (text : List Char) : Option Recognised := do
  let what ← blanks? text
  match assignment? what with
  | some found => some found
  | none => assignment? (← (word? "type" what).bind blanks?)

/-- The keyword that starts a statement of a form. -/
def Form.keyword : Form → String
  | .reexport => "export"
  | _ => "import"

/-- What follows the keyword in a statement of a form. -/
def Form.tail? : Form → List Char → Option Recognised
  | .clause => clauseTail?
  | .effect => fun text => specifier? (skipBlanks text)
  | .reexport => reexportTail?
  | .require => requireTail?

/-- A statement of a form at the start of a text. -/
def Form.recognise? (form : Form) (text : List Char) : Option Recognised :=
  (word? form.keyword text).bind form.tail?

end ImportCycles.Source
