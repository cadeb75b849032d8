/-! # Codes in a text

A text may hold codes that a terminal obeys instead of showing them. They start with an escape. A
bracket after it opens a code that lasts up to a final letter or sign, or one that lasts up to a
bell or another escape with a backslash. Any other character after an escape is the whole code.
-/

namespace ImportCycles.Text

/-- Where in a text, or in a code, a character stands. -/
inductive EscapeMode where
  | plain
  /-- Right behind the escape. -/
  | opened
  /-- In a code that ends with a letter or sign. -/
  | parameters
  /-- In a code that ends with a bell, or with a backslash if an escape stands before it. -/
  | command (escaped : Bool)
  deriving DecidableEq, Repr

namespace EscapeMode

/-- Does this character end a code that ends with a letter or sign? -/
def isFinal (c : Char) : Bool :=
  '@' ≤ c && c ≤ '~'

/-- The place behind a character. -/
def step : EscapeMode → Char → EscapeMode
  | plain, c => if c = '\x1b' then opened else plain
  | opened, c => if c = '[' then parameters else if c = ']' then command false else plain
  | parameters, c => if isFinal c then plain else parameters
  | command escaped, c =>
    if c = '\x07' ∨ (escaped ∧ c = '\\') then plain else command (c = '\x1b')

/-- Is a character here part of a code? -/
def hides (mode : EscapeMode) (c : Char) : Bool :=
  mode ≠ plain || c = '\x1b'

end EscapeMode

/-- The characters of a text from the given place on, each with whether it is part of a code. -/
def hiddenFrom (mode : EscapeMode) : List Char → List (Char × Bool)
  | [] => []
  | c :: rest => (c, mode.hides c) :: hiddenFrom (mode.step c) rest

/-- The characters of a text, each with whether it is part of a code. -/
def markHidden (text : List Char) : List (Char × Bool) :=
  hiddenFrom .plain text

/-- The characters of a text that are shown. -/
def shownChars (text : List Char) : List Char :=
  ((markHidden text).filter (!·.2)).map Prod.fst

end ImportCycles.Text
