/-! # Masked sources

Statements are looked for in a masked copy of the source, in which comments and the insides of
string literals are blank. A blanked character becomes as many spaces as it has bytes and line feeds
stay, so byte offsets and lines in the masked copy are those of the source. Quotes stay as well.
-/

namespace ImportCycles.Source

/-- The quote `'`. -/
def singleQuote : Char := '\x27'

/-- The quote `"`. -/
def doubleQuote : Char := '\x22'

/-- The quote that starts a template literal. -/
def templateQuote : Char := '\x60'

/-- The character that takes the meaning from the next one. -/
def escape : Char := '\x5c'

/-- What the text at some place belongs to. -/
inductive Mode where
  | code
  | lineComment
  | blockComment
  /-- A literal that ends with the given quote. -/
  | literal (quote : Char)
  deriving DecidableEq, Repr

/-- Does this character start a literal? -/
def startsLiteral (c : Char) : Bool :=
  c == doubleQuote || c == singleQuote || c == templateQuote

/-- Blanks a character; a line feed stays. -/
def blank (c : Char) : List Char :=
  if c = '\n' then ['\n'] else List.replicate c.utf8Size ' '

/-- What a character of a literal with the given quote leads to: the quote ends the literal, and so
does a line feed unless the literal is a template. -/
def afterLiteralChar (quote c : Char) : Mode :=
  if c = quote || (c = '\n' && quote != templateQuote) then .code else .literal quote

/-- Masks the rest of a source that continues in the given mode. -/
def maskFrom : Mode → List Char → List Char
  | _, [] => []
  | .code, [c] => [c]
  | .code, c :: d :: rest =>
    if c = '/' ∧ d = '/' then ' ' :: ' ' :: maskFrom .lineComment rest
    else if c = '/' ∧ d = '*' then ' ' :: ' ' :: maskFrom .blockComment rest
    else c :: maskFrom (if startsLiteral c then .literal c else .code) (d :: rest)
  | .lineComment, c :: rest =>
    blank c ++ maskFrom (if c = '\n' then .code else .lineComment) rest
  | .blockComment, [c] => blank c
  | .blockComment, c :: d :: rest =>
    if c = '*' ∧ d = '/' then ' ' :: ' ' :: maskFrom .code rest
    else blank c ++ maskFrom .blockComment (d :: rest)
  | .literal quote, [c] => if c = quote then [c] else blank c
  | .literal quote, c :: d :: rest =>
    if c = escape then ' ' :: (blank d ++ maskFrom (.literal quote) rest)
    else
      (if c = quote then [c] else blank c) ++ maskFrom (afterLiteralChar quote c) (d :: rest)

/-- The source with comments and the insides of literals blanked. -/
def mask (source : List Char) : List Char :=
  maskFrom .code source

end ImportCycles.Source
