import ImportCycles.Toml.Problem

/-! # Quoted texts

What a quoted text stands for. Between single quotes every character stands for itself; between
double quotes a backslash starts an escape, and at the end of a line of a longer text it joins that
line to the next.
-/

namespace ImportCycles.Toml

/-- Can this character stand in a comment or a text on one line? -/
def isPlain (c : Char) : Bool :=
  c == '\t' || (0x20 ≤ c.toNat && c.toNat != 0x7F)

/-- The value of a hexadecimal digit. -/
def hexValue? (c : Char) : Option Nat :=
  if '0' ≤ c ∧ c ≤ '9' then some (c.toNat - 0x30)
  else if 'a' ≤ c ∧ c ≤ 'f' then some (c.toNat - 0x57)
  else if 'A' ≤ c ∧ c ≤ 'F' then some (c.toNat - 0x37)
  else none

/-- Is this a hexadecimal digit? -/
def isHexDigit (c : Char) : Bool :=
  (hexValue? c).isSome

/-- The character with the code that the hexadecimal digits spell. -/
def codeChar? (digits : List Char) : Option Char := do
  let n ← digits.foldlM (fun n c => return 16 * n + (← hexValue? c)) 0
  if n < 0xD800 ∨ (0xDFFF < n ∧ n < 0x110000) then some (Char.ofNat n) else none

/-- The character that an escape with a single letter stands for. -/
def letterEscape? (c : Char) : Option Char :=
  if c = 'b' then some '\x08'
  else if c = 't' then some '\t'
  else if c = 'n' then some '\n'
  else if c = 'f' then some '\x0c'
  else if c = 'r' then some '\r'
  else if c = 'e' then some '\x1b'
  else if c = '\x22' then some '\x22'
  else if c = '\x5c' then some '\x5c'
  else none

/-- The number of digits in an escape that spells a code. -/
def codeLength? (c : Char) : Option Nat :=
  if c = 'x' then some 2 else if c = 'u' then some 4 else if c = 'U' then some 8 else none

/-- The character that an escape stands for, and how many characters it has after its backslash.
These start at byte `offset`. -/
def escape (offset : Nat) : List Char → Except Fault (Char × Nat)
  | [] => .error (Problem.before (.quoted .badEscape) offset)
  | c :: rest =>
    match codeLength? c, letterEscape? c with
    | some count, _ =>
      let digits := (rest.take count).takeWhile isHexDigit
      if digits.length < count then
        .error (Problem.before (.quoted .shortCode) (offset + 1 + digits.length))
      else
        match codeChar? digits with
        | some d => .ok (d, count + 1)
        | none => .error (Problem.before (.quoted .badCode) (offset + 1))
    | none, some d => .ok (d, 1)
    | none, none => .error (Problem.before (.quoted .badEscape) offset)

/-- The number of characters in the blanks and line ends that a text starts with. -/
def gapLength : List Char → Nat
  | '\r' :: '\n' :: rest => gapLength rest + 2
  | c :: rest => if isBlank c || c == '\n' then gapLength rest + 1 else 0
  | [] => 0

/-- How many characters a backslash takes away that blanks or line ends follow from byte `offset`
on: all of these. There has to be a line end. -/
def joinLength (offset : Nat) (text : List Char) : Except Fault Nat :=
  let count := gapLength text
  if text[count]? = some '\r' then .error (Problem.before .loneReturn (offset + count + 1))
  else if (text.take count).contains '\n' then .ok count
  else .error (Problem.before (.quoted .missingNewline) (offset + count))

/-- Can this character stand in a quoted text? -/
def Quotes.admits (quotes : Quotes) (c : Char) : Bool :=
  isPlain c || (quotes.block && (c == '\n' || c == '\r'))

/-- What the inside of a quoted text stands for, from byte `offset` on. The next `skip` characters
are part of an escape that was read already. -/
def Quotes.decode (quotes : Quotes) (skip offset : Nat) : List Char → Except Fault (List Char)
  | [] => .ok []
  | c :: rest =>
    let next := offset + c.utf8Size
    match skip with
    | skip + 1 => quotes.decode skip next rest
    | 0 =>
      if quotes.escapes && c == '\x5c' then
        if quotes.block && rest.head?.any isGap then do
          quotes.decode (← joinLength next rest) next rest
        else do
          let (d, count) ← escape next rest
          return d :: (← quotes.decode count next rest)
      else if quotes.block && c == '\r' && rest.head? != some '\n' then
        .error (Problem.before .loneReturn next)
      else if quotes.admits c then return c :: (← quotes.decode 0 next rest)
      else
        let unfit := (c :: rest).takeWhile (!quotes.admits ·)
        .error (Problem.within (.quoted (.badChar quotes))
          ⟨offset, if quotes.escapes then unfit.length else 0⟩)

/-- The text after a line end at its start. -/
def dropNewline : List Char → List Char
  | '\n' :: rest => rest
  | '\r' :: '\n' :: rest => rest
  | text => text

/-- The text that a quoted token stands for. -/
def Token.unquote (token : Token) (quotes : Quotes) : Except Fault String :=
  let opened := token.text.drop quotes.closing.length
  let inside := if quotes.block then dropNewline opened else opened
  match quotes.closing.isSuffixOf? inside with
  | some body => do
    return String.ofList (← quotes.decode 0 (token.offsetOf inside) body)
  | none => .error (Problem.before (.quoted (.unclosed quotes)) token.stop)

end ImportCycles.Toml
