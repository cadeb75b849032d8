import ImportCycles.Text.Extender
import ImportCycles.Text.Printable

/-! # Values in configuration files

What a configuration file can say, with the places where it says it. Only values that some field can
take keep their contents; of all others the kind is enough for a message.
-/

namespace ImportCycles.Toml

/-- A part of a text, by byte offset and length. -/
structure Span where
  offset : Nat
  length : Nat
  deriving DecidableEq, Repr, Inhabited

/-- A value, as far as it can be told without looking inside. -/
inductive Atom where
  | string (text : String)
  | integer (n : Int)
  /-- A number with a fraction or an exponent, by its text. -/
  | float (text : String)
  /-- A whole number that has no digits, or is greater than any that is held. -/
  | unheldInteger
  /-- A number with a fraction or an exponent that is greater than any that is held. -/
  | unheldFloat
  | boolean (b : Bool)
  | sequence
  | table
  /-- A date, a time of day or both. -/
  | moment
  deriving DecidableEq, Repr, Inhabited

/-- A value: an array with its items, or anything else. -/
inductive Value where
  | atom (a : Atom)
  | array (items : List (Atom × Span))
  deriving DecidableEq, Repr, Inhabited

/-- The value without its items. -/
def Value.outline : Value → Atom
  | .atom a => a
  | .array _ => .sequence

/-- The character by the hexadecimal digits of its code. -/
def codeEscape (c : Char) : List Char :=
  ['\x5c', 'u', '\x7b'] ++ Nat.toDigits 16 c.toNat ++ ['\x7d']

/-- A character in a quoted text that is shown in a message. What would not be seen as a character
of its own is shown by its code. -/
def quotedChar (c : Char) : List Char :=
  if c = '\x22' then ['\x5c', '\x22']
  else if c = '\x5c' then ['\x5c', '\x5c']
  else if c = '\n' then ['\x5c', 'n']
  else if c = '\r' then ['\x5c', 'r']
  else if c = '\t' then ['\x5c', 't']
  else if c = '\x00' then ['\x5c', '0']
  else if Text.isExtender c || !Text.isPrintable c then codeEscape c
  else [c]

/-- The whole numbers below this bound and not below its negative have a field of `bits` bits. -/
def signedBound (bits : Nat) : Int := Nat.pow 2 (bits - 1)

/-- A whole number as messages call it. One that takes more than 64 bits is told with its type. -/
def describeInteger (n : Int) : String :=
  let shown := "integer `" ++ toString n ++ "`"
  if -signedBound 64 ≤ n ∧ n < 2 * signedBound 64 then shown
  else if -signedBound 128 ≤ n ∧ n < signedBound 128 then shown ++ " as i128"
  else shown ++ " as u128"

/-- A value as messages call it. -/
def Atom.describe : Atom → String
  | .string text => "string \"" ++ String.ofList (text.toList.flatMap quotedChar) ++ "\""
  | .integer n => describeInteger n
  | .unheldInteger => "integer"
  | .unheldFloat => "floating point"
  | .float text => "floating point `" ++ text ++ "`"
  | .boolean b => "boolean `" ++ (if b then "true" else "false") ++ "`"
  | .sequence => "sequence"
  | .table | .moment => "map"

/-- The type of a value as messages call it. -/
def Atom.typeName : Atom → String
  | .string _ => "string"
  | .integer _ | .unheldInteger => "integer"
  | .float _ | .unheldFloat => "float"
  | .boolean _ => "boolean"
  | .sequence => "array"
  | .table => "inline table"
  | .moment => "datetime"

end ImportCycles.Toml
