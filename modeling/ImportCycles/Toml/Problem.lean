import ImportCycles.Toml.Token

/-! # Problems

Why a configuration cannot be read. A problem is a cause; what is said of it is in one place, and
most of it has two parts: what is wrong, and what was expected.
-/

namespace ImportCycles.Toml

/-- What has to come next in a table in braces. -/
inductive Awaited where
  | key
  | equals
  | value
  | comma
  deriving DecidableEq, Repr

/-- What has to come next, in words. -/
def Awaited.text : Awaited → String
  | .key => "key"
  | .equals => "`=`"
  | .value => "value"
  | .comma => "`,`"

/-- Why tokens are no list of statements. -/
inductive OutlineProblem where
  | badComment
  /-- A bracket that ends a header stands where a statement should start. -/
  | unopenedHeader
  | unclosedHeader
  /-- The header of a table that may be repeated ends with one bracket, not two. -/
  | halfClosedHeader
  | unclosedRepeatedHeader
  | keyWithoutValue
  | dotsWithoutValue
  /-- A statement starts with a sign that no key starts with. -/
  | noKey
  /-- A line goes on after its statement. -/
  | lineGoesOn
  | secondEquals
  | unopenedBraces
  | unopenedBrackets
  | unclosedBraces
  | unclosedBrackets
  | missingItemComma
  | extraItemComma
  | equalsInArray
  | extraFieldComma (awaited : Awaited)
  | extraFieldEquals (awaited : Awaited)
  | missingFieldKey (awaited : Awaited)
  | missingFieldEquals
  | missingFieldComma
  | badField (awaited : Awaited)
  /-- Brackets stand inside each other too often. -/
  | tooDeep
  deriving DecidableEq, Repr

/-- Why a quoted text cannot be read. -/
inductive QuotedProblem where
  | unclosed (quotes : Quotes)
  | badChar (quotes : Quotes)
  /-- A backslash at the end of a line is followed by blanks and then by something else. -/
  | missingNewline
  | badEscape
  /-- An escape has fewer digits than it should. -/
  | shortCode
  /-- An escape spells the code of no character. -/
  | badCode
  deriving DecidableEq, Repr

/-- Why a text is no date or time. -/
structure MomentProblem where
  /-- What it was taken for. -/
  subject : String
  /-- What is not there. -/
  expected : Option String
  deriving DecidableEq, Repr

/-- Why a text without quotes stands for no value. -/
inductive ScalarProblem where
  /-- A text ends with quotes, but does not start with them. -/
  | unopened (closing : String)
  | unquoted
  /-- A text starts like a word that has a meaning. -/
  | misspelt (type word : String)
  | secondSign
  | signedRadix
  /-- A sign follows the mark of a base. -/
  | signAfterRadix
  /-- Base ten is marked. -/
  | redundantRadix
  | upperRadix (mark : Char)
  | badDigit (base : String)
  | leadingZero
  /-- A part of a number has no digits. -/
  | noDigits (part : String)
  /-- A number goes on after its end. -/
  | badFloat
  | strayUnderscore
  | moment (problem : MomentProblem)
  deriving DecidableEq, Repr

/-- Why a configuration cannot be read. -/
inductive Problem where
  | loneReturn
  | outline (problem : OutlineProblem)
  | quoted (problem : QuotedProblem)
  | scalar (problem : ScalarProblem)
  /-- A key is quoted over several lines. -/
  | blockKey (quotes : Quotes)
  | emptyKey
  /-- A key that is not quoted holds a character that has to be. -/
  | badKey
  /-- A key has too many names. -/
  | tooLong
  /-- A name is given twice. -/
  | duplicate
  /-- A key with dots goes through a value. -/
  | notExtendable (value : Atom)
  | integerOverflow
  | floatOverflow
  | unknownField (name : String)
  | wrongType (found : Atom) (expected : String)
  | wrongValue (found : Atom) (expected : String)
  deriving DecidableEq, Repr

/-- A problem, and its place if it has one. -/
structure Fault where
  problem : Problem
  span : Option Span
  deriving DecidableEq, Repr

/-- The problem at a part of the text. -/
def Problem.within (problem : Problem) (span : Span) : Fault :=
  ⟨problem, some span⟩

/-- The problem in front of a byte. -/
def Problem.before (problem : Problem) (offset : Nat) : Fault :=
  ⟨problem, some ⟨offset, 0⟩⟩

/-- Why a value is not taken where `expected` is wanted. -/
def Atom.refusal (expected : String) : Atom → Problem
  | .unheldInteger => .integerOverflow
  | .unheldFloat => .floatOverflow
  | found => .wrongType found expected

/-- What is wrong with tokens. -/
def OutlineProblem.message : OutlineProblem → String
  | .badComment => "invalid comment character, expected printable characters"
  | .unopenedHeader => "missing table open, expected `[`"
  | .unclosedHeader => "unclosed table, expected `]`"
  | .halfClosedHeader => "unclosed array table, expected `]`"
  | .unclosedRepeatedHeader => "unclosed array table, expected `]]`"
  | .keyWithoutValue => "key with no value, expected `=`"
  | .dotsWithoutValue => "missing value for key, expected `=`"
  | .noKey => "invalid key-value pair, expected key"
  | .lineGoesOn => "unexpected key or value, expected newline, `#`"
  | .secondEquals => "extra `=`, expected nothing"
  | .unopenedBraces => "missing inline table opening, expected `\x7b`"
  | .unopenedBrackets => "missing array opening, expected `[`"
  | .unclosedBraces => "unclosed inline table, expected `\x7d`"
  | .unclosedBrackets => "unclosed array, expected `]`"
  | .missingItemComma => "missing comma between array elements, expected `,`"
  | .extraItemComma => "extra comma in array, expected value"
  | .equalsInArray => "unexpected `=` in array, expected value, `]`"
  | .extraFieldComma awaited => "extra comma in inline table, expected " ++ awaited.text
  | .extraFieldEquals awaited =>
    "extra assignment between key-value pairs, expected " ++ awaited.text
  | .missingFieldKey awaited =>
    "missing key for inline table element, expected " ++ awaited.text
  | .missingFieldEquals => "missing assignment between key-value pairs, expected `=`"
  | .missingFieldComma => "missing comma between key-value pairs, expected `,`"
  | .badField awaited => "invalid inline table element, expected " ++ awaited.text
  | .tooDeep => "cannot recurse further; max recursion depth met"

/-- A quoted text as messages call it. -/
def Quotes.name (quotes : Quotes) : String :=
  (if quotes.block then "multi-line " else "") ++
    if quotes.escapes then "basic string" else "literal string"

/-- The characters of a quoted text as messages call them. -/
def Quotes.alphabet (quotes : Quotes) : String :=
  match quotes.escapes, quotes.block with
  | false, false => "non-single-quote visible characters"
  | false, true => "non-single-quote characters"
  | true, false => "non-double-quote visible characters, `\\`"
  | true, true => "`\\`, characters"

/-- What is wrong with a quoted text. -/
def QuotedProblem.message : QuotedProblem → String
  | .unclosed quotes =>
    "invalid " ++ quotes.name ++ ", expected `" ++ quotes.mark.toString ++ "`"
  | .badChar quotes => "invalid " ++ quotes.name ++ ", expected " ++ quotes.alphabet
  | .missingNewline => "invalid multi-line basic string, expected newline"
  | .badEscape =>
    "missing escaped value, expected `b`, `e`, `f`, `n`, `r`, `\\`, `\"`, `x`, `u`, `U`"
  | .shortCode => "too few unicode value digits, expected unicode hexadecimal value"
  | .badCode => "invalid value, expected unicode hexadecimal value"

/-- What is wrong with a date or time. -/
def MomentProblem.message (problem : MomentProblem) : String :=
  "invalid " ++ problem.subject ++
    match problem.expected with
    | some expected => ", expected " ++ expected
    | none => ""

/-- What is wrong with a text without quotes. -/
def ScalarProblem.message : ScalarProblem → String
  | .unopened closing => "missing opening quote, expected `" ++ closing ++ "`"
  | .unquoted => "string values must be quoted, expected literal string"
  | .misspelt type word => "invalid " ++ type ++ ", expected `" ++ word ++ "`"
  | .secondSign => "redundant numeric sign, expected nothing"
  | .signedRadix => "integers with a radix cannot be signed, expected nothing"
  | .signAfterRadix => "unexpected sign, expected nothing"
  | .redundantRadix => "redundant integer number prefix, expected nothing"
  | .upperRadix mark => "radix must be lowercase, expected `0" ++ mark.toString ++ "`"
  | .badDigit base => "invalid " ++ base ++ " number"
  | .leadingZero => "unexpected leading zero, expected nothing"
  | .noDigits part => "invalid " ++ part ++ ", expected digits"
  | .badFloat => "invalid float, expected nothing"
  | .strayUnderscore => "`_` may only go between digits, expected nothing"
  | .moment problem => problem.message

/-- What is wrong. -/
def Problem.message : Problem → String
  | .loneReturn => "carriage return must be followed by newline, expected newline"
  | .outline problem => problem.message
  | .quoted problem => problem.message
  | .scalar problem => problem.message
  | .blockKey quotes =>
    "keys cannot be " ++ quotes.name ++ "s, expected basic string, literal string"
  | .emptyKey => "unquoted keys cannot be empty, expected letters, numbers, `-`, `_`"
  | .badKey => "invalid unquoted key, expected letters, numbers, `-`, `_`"
  | .tooLong => "recursion limit"
  | .duplicate => "duplicate key"
  | .notExtendable value =>
    "cannot extend value of type " ++ value.typeName ++ " with a dotted key"
  | .integerOverflow => "integer number overflowed"
  | .floatOverflow => "floating-point number overflowed"
  | .unknownField name =>
    "unknown field `" ++ name ++
      "`, expected one of `root`, `depth_limit`, `extensions`, `exclude`"
  | .wrongType found expected =>
    "invalid type: " ++ found.describe ++ ", expected " ++ expected
  | .wrongValue found expected =>
    "invalid value: " ++ found.describe ++ ", expected " ++ expected

end ImportCycles.Toml
