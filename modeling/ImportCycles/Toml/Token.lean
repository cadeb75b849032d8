import ImportCycles.Text.Bytes
import ImportCycles.Toml.Value

/-! # Tokens

A document is cut into tokens before anything in it is understood: signs, blanks, line ends,
comments, quoted texts and words. The cut loses nothing, and it never fails; whether a token is
fit for its place is asked later.
-/

namespace ImportCycles.Toml

/-- How a text is quoted: with double quotes and escapes, or with single quotes as it stands; with
one quote on a line, or with three over several lines. -/
structure Quotes where
  escapes : Bool
  block : Bool
  deriving DecidableEq, Repr

/-- The quote that is used. -/
def Quotes.mark (quotes : Quotes) : Char :=
  if quotes.escapes then '\x22' else '\x27'

/-- The quotes that end the text. -/
def Quotes.closing (quotes : Quotes) : List Char :=
  List.replicate (if quotes.block then 3 else 1) quotes.mark

/-- What a token is. -/
inductive TokenKind where
  | dot
  | equals
  | comma
  | openBracket
  | closeBracket
  | openBrace
  | closeBrace
  | blanks
  | newline
  | comment
  | quoted (quotes : Quotes)
  | word
  /-- The end of the document. -/
  | finish
  deriving DecidableEq, Repr

/-- A token, and the byte at which it starts. -/
structure Token where
  kind : TokenKind
  text : List Char
  start : Nat
  deriving DecidableEq, Repr

namespace Token

/-- The byte after the token. -/
def stop (token : Token) : Nat :=
  token.start + Text.byteLength token.text

/-- The place of the token. -/
def span (token : Token) : Span :=
  ⟨token.start, Text.byteLength token.text⟩

/-- The byte at which the last characters of the token start. -/
def offsetOf (token : Token) (rest : List Char) : Nat :=
  token.stop - Text.byteLength rest

/-- A word that should stand at a byte, but does not. -/
def missing (start : Nat) : Token :=
  ⟨.word, [], start⟩

/-- Is this a blank, a line end, a comment or the end of the document? -/
def isSilent (token : Token) : Bool :=
  [.blanks, .newline, .comment, .finish].contains token.kind

end Token

/-- Is this a blank on a line? -/
def isBlank (c : Char) : Bool :=
  c == ' ' || c == '\t'

/-- Is this a blank or part of a line end? -/
def isGap (c : Char) : Bool :=
  isBlank c || c == '\n' || c == '\r'

/-- What the signs mean that are tokens of their own. -/
def punctuation? (c : Char) : Option TokenKind :=
  if c = '.' then some .dot
  else if c = '=' then some .equals
  else if c = ',' then some .comma
  else if c = '[' then some .openBracket
  else if c = ']' then some .closeBracket
  else if c = '\x7b' then some .openBrace
  else if c = '\x7d' then some .closeBrace
  else none

/-- Does this character end a word? A quote does not. -/
def endsWord (c : Char) : Bool :=
  isGap c || c == '#' || (punctuation? c).isSome

/-- Does a backslash, if `c` is one, take the next character away from the quotes? -/
def shields (quotes : Quotes) (c : Char) (rest : List Char) : Bool :=
  quotes.escapes && c == '\x5c' && rest.head?.any ['\x5c', '\x22'].contains

/-- The length of the rest of a quoted text on one line, which its quote ends, or else the line.
`shielded` says that the next character is part of an escape. -/
def lineLength (quotes : Quotes) (shielded : Bool) : List Char → Nat
  | [] => 0
  | c :: rest =>
    if shielded then 1 + lineLength quotes false rest
    else if c = quotes.mark then 1
    else if c = '\n' then 0
    else 1 + lineLength quotes (shields quotes c rest) rest

/-- The length of the rest of a quoted text over several lines, which three quotes end. Up to two
more of them are part of the text. -/
def blockLength (quotes : Quotes) (shielded : Bool) : List Char → Nat
  | [] => 0
  | c :: rest =>
    if !shielded && quotes.closing.isPrefixOf (c :: rest) then
      3 + (((rest.drop 2).take 2).takeWhile (· = quotes.mark)).length
    else 1 + blockLength quotes (!shielded && shields quotes c rest) rest

/-- What the token is that starts with `c`, and how many more characters it has. -/
def firstToken (c : Char) (rest : List Char) : TokenKind × Nat :=
  if let some kind := punctuation? c then (kind, 0)
  else if isBlank c then (.blanks, (rest.takeWhile isBlank).length)
  else if c = '\n' then (.newline, 0)
  else if c = '\r' then (.newline, if rest.head? = some '\n' then 1 else 0)
  else if c = '#' then (.comment, (rest.takeWhile fun d => d ≠ '\n' ∧ d ≠ '\r').length)
  else if c = '\x22' ∨ c = '\x27' then
    let quotes : Quotes := ⟨c == '\x22', rest.take 2 == [c, c]⟩
    let length :=
      if quotes.block then 2 + blockLength quotes false (rest.drop 2)
      else lineLength quotes false rest
    (.quoted quotes, length)
  else (.word, (rest.takeWhile (!endsWord ·)).length)

/-- The tokens of the text from byte `start` of the document on, with one for its end. -/
def tokensFrom (start : Nat) (text : List Char) : List Token :=
  match text with
  | [] => [⟨.finish, [], start⟩]
  | c :: rest =>
    let first := firstToken c rest
    let token : Token := ⟨first.1, c :: rest.take first.2, start⟩
    token :: tokensFrom token.stop (rest.drop first.2)
termination_by text.length
decreasing_by
  simp only [List.length_drop, List.length_cons]
  omega

/-- The tokens of a document. A mark of the encoding at its start is passed over. -/
def tokens (text : List Char) : List Token :=
  match text with
  | '\uFEFF' :: rest => tokensFrom 3 rest
  | text => tokensFrom 0 text

end ImportCycles.Toml
