/-! # Texts without codes

A text that is not written to a terminal is freed from the codes that a terminal would obey. The
codes are read as a terminal reads them, character by character: a code that is not finished takes
what follows for its own, up to the next escape. Controls are dropped, except for the blanks among
them, which are written even within a code; the text behind such a blank is written as well.
-/

namespace ImportCycles.Text

/-- Where in a text, or in a code, a character stands. -/
inductive CodeMode where
  | plain
  /-- Behind the escape. -/
  | escape
  /-- Behind the escape and a sign that announces a last character. -/
  | announced
  /-- In the parameters of a code. -/
  | parameters
  /-- In a command to the system, which a bell ends. -/
  | system
  /-- At the start of a string for a device. -/
  | device
  /-- In the parameters of a string for a device. -/
  | deviceParameters
  /-- Behind the signs that follow these parameters. -/
  | deviceSigns
  /-- In a string that is for somebody else. -/
  | foreign
  deriving DecidableEq, Repr

namespace CodeMode

/-- The controls that are blanks. -/
def blanks : List Char := ['\t', '\n', '\x0c', '\r']

/-- Is the character written in a text? -/
def isWritten (c : Char) : Bool :=
  blanks.contains c || (0x20 ≤ c.toNat && c.toNat ≠ 0x7F)

/-- Do controls act within a code of this kind as they do outside? -/
def heedsControls : CodeMode → Bool
  | plain | escape | announced | parameters => true
  | _ => false

/-- The byte that ends a string for somebody else. -/
def terminator : UInt8 := 0x9C

/-- The mode behind a character that is neither a control nor part of the text. `c` is one of the
first 128. -/
def stepAscii (mode : CodeMode) (c : Char) : CodeMode :=
  let n := c.toNat
  match mode with
  | plain => plain
  | escape =>
    if n < 0x30 then announced
    else if c = '[' then parameters
    else if c = ']' then system
    else if c = 'P' then device
    else if ['X', '^', '_'].contains c then foreign
    else plain
  | announced => if n < 0x30 then announced else plain
  | parameters => if n < 0x40 then parameters else plain
  | system => system
  | device => if n < 0x30 then deviceSigns else if n < 0x40 then deviceParameters else foreign
  | deviceParameters =>
    if n < 0x30 then deviceSigns else if n < 0x3C then deviceParameters else foreign
  | deviceSigns => if n < 0x30 then deviceSigns else foreign
  | foreign => foreign

/-- The mode behind a character. An escape always starts a code, and two controls always end one. -/
def step (mode : CodeMode) (c : Char) : CodeMode :=
  if c = '\x18' ∨ c = '\x1a' then plain
  else if c = '\x1b' then escape
  else if c = '\x07' ∧ mode = system then plain
  else if c.toNat < 0x20 ∨ c.toNat = 0x7F then mode
  else if c.toNat < 0x80 then mode.stepAscii c
  else if mode = foreign ∧ (String.utf8EncodeChar c).contains terminator then plain
  else mode

/-- Is a character written here? -/
def shows (mode : CodeMode) (c : Char) : Bool :=
  isWritten c && (mode = plain || (mode.heedsControls && c.toNat < 0x20))

end CodeMode

/-- A text without codes. `shown` says whether the last character was written; then the next one is
as well if it is no control, whatever the mode. -/
def stripFrom (mode : CodeMode) (shown : Bool) : List Char → List Char
  | [] => []
  | c :: rest =>
    if shown ∧ CodeMode.isWritten c then
      c :: stripFrom (if c.toNat < 0x80 then mode else .plain) true rest
    else if mode.shows c then c :: stripFrom mode true rest
    else stripFrom (mode.step c) false rest

/-- A text without codes. -/
def strip (text : String) : String :=
  String.ofList (stripFrom .plain false text.toList)

end ImportCycles.Text
