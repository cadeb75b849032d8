import ImportCycles.Decimal.Double
import ImportCycles.Toml.Moment

/-! # Values without quotes

Truth values, numbers, dates and times. The first characters of a text tell what it is taken for;
what does not fit is then a fault of that kind of value.
-/

namespace ImportCycles.Toml

namespace Scalar

/-- The sign of a numeral, and what follows it. -/
def sign (text : List Char) : Bool × List Char :=
  match text with
  | '-' :: rest => (true, rest)
  | '+' :: rest => (false, rest)
  | rest => (false, rest)

/-- A numeral without its underscores. -/
def withoutUnderscores (text : List Char) : List Char :=
  text.filter (· ≠ '_')

/-- A whole number as a value. Numbers of up to 128 bits are held, with a sign or without. -/
def integerAtom (n : Int) : Atom :=
  if -signedBound 128 ≤ n ∧ n < 2 * signedBound 128 then .integer n else .unheldInteger

/-- The value of a whole number in a base other than ten, after the mark of that base. Whether there
is any digit shows only when the number is used. -/
def basedValue (base : Nat) (text : List Char) : Atom :=
  let digits := withoutUnderscores text
  if digits.isEmpty then .unheldInteger else integerAtom (digitsValue base digits)

/-- The value of a whole number in base ten. Letters between its digits show only when the number is
used. -/
def integerValue (text : List Char) : Atom :=
  let (negative, digits) := sign (withoutUnderscores text)
  let n : Int := digitsValue 10 digits
  if !digits.all Char.isDigit then .unheldInteger
  else integerAtom (if negative then -n else n)

/-- The value of a number with a fraction or an exponent, without its sign: digits and the power of
ten that they are multiplied by. -/
def decimal (text : List Char) : Nat × Int :=
  let isMark := fun c => c == 'e' || c == 'E'
  let front := text.takeWhile (!isMark ·)
  let (negative, power) := sign ((text.dropWhile (!isMark ·)).drop 1)
  let exponent : Int := digitsValue 10 power
  let places := (front.dropWhile (· ≠ '.')).drop 1
  (digitsValue 10 (front.takeWhile (· ≠ '.') ++ places),
    (if negative then -exponent else exponent) - places.length)

/-- The value of a number with a fraction or an exponent. -/
def floatValue (text : List Char) : Atom :=
  let (negative, rest) := sign (withoutUnderscores text)
  let (digits, exponent) := decimal rest
  match Decimal.text? negative digits exponent with
  | some shown => .float shown
  | none => .unheldFloat

/-- The fault that the last characters of a token start with. -/
def faultAt (token : Token) (rest : List Char) (length : Nat) (problem : ScalarProblem) : Fault :=
  Problem.within (.scalar problem) ⟨token.offsetOf rest, length⟩

/-- The fault that the last characters of a token make up. -/
def faultFrom (token : Token) (rest : List Char) (problem : ScalarProblem) : Fault :=
  faultAt token rest (Text.byteLength rest) problem

/-- The fault of a text that is taken for none of the values: quotes may be missing at its start,
or on both sides. -/
def unreadable (token : Token) : Fault :=
  let closings := ["'''", "\"\"\"", "'", "\""]
  match closings.find? fun closing => closing.toList.isSuffixOf token.text with
  | some closing => faultAt token token.text 0 (.unopened closing)
  | none => faultFrom token token.text .unquoted

/-- The text after the first underscore that does not stand between two digits, and that underscore.
`afterDigit` says whether a digit stands in front of the text. -/
def strayUnderscore? (isDigit : Char → Bool) (afterDigit : Bool) : List Char → Option (List Char)
  | [] => none
  | c :: rest =>
    if c = '_' ∧ !(afterDigit && rest.head?.any isDigit) then some (c :: rest)
    else strayUnderscore? isDigit (isDigit c) rest

/-- The value, unless the text from `digits` on has an underscore that is out of place. -/
def checked (token : Token) (isDigit : Char → Bool) (digits : List Char) (value : Atom) :
    Except Fault Atom :=
  match strayUnderscore? isDigit false digits with
  | some rest => .error (faultAt token rest 1 .strayUnderscore)
  | none => .ok value

/-- The value of a word that `rest` has to be. -/
def symbol (token : Token) (rest : List Char) (type word : String) (value : Atom) :
    Except Fault Atom :=
  if rest = word.toList then .ok value
  else if token.text.contains ' ' then .error (unreadable token)
  else .error (faultFrom token rest (.misspelt type word))

/-- What follows the digits and underscores of a part of a number. Two digits or more do not start
with a zero unless `zeros` allows it. -/
def afterDigits (token : Token) (zeros : Bool) (part : String) (text : List Char) :
    Except Fault (List Char) :=
  let run := text.takeWhile fun c => c.isDigit || c == '_'
  let count := run.countP Char.isDigit
  if count = 0 then .error (faultAt token text 0 (.noDigits part))
  else if !zeros && 1 < count && text.head? = some '0' then
    .error (faultAt token text 1 .leadingZero)
  else .ok (text.drop run.length)

/-- A number with a fraction, an exponent or both, after its sign. -/
def float (token : Token) (text : List Char) : Except Fault Atom := do
  let rest ← afterDigits token false "mantissa" text
  let rest ← match rest with
    | '.' :: places => afterDigits token true "fraction" places
    | rest => .ok rest
  let rest ← match rest with
    | 'e' :: power | 'E' :: power => afterDigits token true "exponent" (sign power).2
    | rest => .ok rest
  unless rest.isEmpty do throw (faultFrom token rest .badFloat)
  checked token Char.isDigit token.text (floatValue token.text)

/-- A date, a time or a number in base ten, after its sign. What follows its first digits tells
which. -/
def numeral (token : Token) (text : List Char) : Except Fault Atom :=
  let rest := text.dropWhile Char.isDigit
  let whole := fun (zeroFirst : Bool) =>
    if zeroFirst then .error (faultAt token text 1 .leadingZero)
    else checked token isHexDigit token.text (integerValue token.text)
  match rest with
  | [] => whole (text.head? = some '0' && 1 < text.length)
  | c :: _ =>
    if c = '-' ∨ c = ':' then
      match Moment.check token.text with
      | .ok _ => .ok .moment
      | .error problem => .error (faultFrom token token.text (.moment problem))
    else if rest.contains ' ' then .error (unreadable token)
    else if rest.any ['.', 'e', 'E'].contains then float token text
    else if c = '_' then whole (text.head? = some '0')
    else .error (unreadable token)

/-- The name and the base that the mark of a base stands for. -/
def base? (mark : Char) : Option (String × Nat) :=
  if mark = 'x' then some ("hexadecimal", 16)
  else if mark = 'o' then some ("octal", 8)
  else if mark = 'b' then some ("binary", 2)
  else none

/-- A number in a base other than ten, after the mark of that base. -/
def based (token : Token) (name : String) (base : Nat) (text : List Char) : Except Fault Atom :=
  let fits := fun c => (hexValue? c).any (· < base)
  let rest := text.dropWhile fun c => fits c || c == '_'
  if text.head?.any ['+', '-'].contains then .error (faultAt token text 1 .signAfterRadix)
  else if !rest.isEmpty then .error (faultAt token rest 0 (.badDigit name))
  else checked token isHexDigit text (basedValue base text)

/-- A number whose first digit is zero, after its sign. -/
def zeroFirst (token : Token) (signed : Bool) (text : List Char) : Except Fault Atom :=
  let mark := (text[1]?).getD '0'
  let lower := mark.toLower
  let base := base? lower
  if base.isNone ∧ lower ≠ 'd' then numeral token text
  else if token.text.contains ' ' then .error (unreadable token)
  else if signed then .error (faultAt token token.text 1 .signedRadix)
  else
    match base with
    | none => .error (faultAt token text 2 .redundantRadix)
    | some (name, base) =>
      if mark ≠ lower then .error (faultAt token text 2 (.upperRadix lower))
      else based token name base (text.drop 2)

/-- What a text stands for after its sign, if it has one. -/
def afterSign (token : Token) (signed negative : Bool) (text : List Char) : Except Fault Atom :=
  match text with
  | [] => .error (unreadable token)
  | c :: _ =>
    if c = '0' then zeroFirst token signed text
    else if c.isDigit || c == '_' then numeral token text
    else if c = '.' then
      if token.text.contains ' ' then .error (unreadable token)
      else .error (faultAt token token.text 0 (.noDigits "mantissa"))
    else if c.toLower = 'i' then
      symbol token text "float" "inf" (.float (if negative then "-inf" else "inf"))
    else if c.toLower = 'n' then symbol token text "float" "nan" (.float "NaN")
    else .error (unreadable token)

/-- The value that a text without quotes stands for. -/
def read (token : Token) : Except Fault Atom :=
  match token.text with
  | [] => .error (unreadable token)
  | c :: rest =>
    if c = '+' ∨ c = '-' then
      if token.text.contains ' ' then .error (unreadable token)
      else if rest.head?.any ['+', '-'].contains then .error (faultAt token rest 1 .secondSign)
      else afterSign token true (c == '-') rest
    else if c.toLower = 't' then symbol token token.text "boolean" "true" (.boolean true)
    else if c.toLower = 'f' then symbol token token.text "boolean" "false" (.boolean false)
    else afterSign token false false token.text

end Scalar

end ImportCycles.Toml
