import ImportCycles.Proofs.Recognisers

/-! # A grammar of import statements

The statements that a source is expected to import by, written token by token with any blanks
between them. A program is a list of lines, each with one statement. Masking a program blanks what
stands between the quotes and leaves everything else as it is.
-/

namespace ImportCycles.Source.Grammar

open Text (isBlank isWord byteLength byteLength_append)

/-- A word of letters, digits and underscores that starts with no digit and is no keyword. -/
structure Identifier where
  text : List Char
  nonempty : text ≠ []
  chars : ∀ c ∈ text, (c.isAlphanum || c == '_') = true
  start : text.head?.any Char.isDigit = false
  notImport : text ≠ "import".toList
  notExport : text ≠ "export".toList

/-- The word `from`. -/
def fromWord : Identifier :=
  ⟨"from".toList, by decide, List.all_eq_true.1 rfl, rfl, by decide, by decide⟩

/-- The word `as`. -/
def asWord : Identifier :=
  ⟨"as".toList, by decide, List.all_eq_true.1 rfl, rfl, by decide, by decide⟩

/-- The word `type`. -/
def typeWord : Identifier :=
  ⟨"type".toList, by decide, List.all_eq_true.1 rfl, rfl, by decide, by decide⟩

/-- The word `require`. -/
def requireWord : Identifier :=
  ⟨"require".toList, by decide, List.all_eq_true.1 rfl, rfl, by decide, by decide⟩

/-- The signs that statements are made with. -/
inductive Sign where
  | star
  | comma
  | openBrace
  | closeBrace
  | equals
  | openParenthesis
  deriving DecidableEq

def Sign.char : Sign → Char
  | star => '*'
  | comma => ','
  | openBrace => '\x7b'
  | closeBrace => '\x7d'
  | equals => '='
  | openParenthesis => '('

/-- What stands between a keyword and the specifier. -/
inductive Token where
  | word (name : Identifier)
  | sign (mark : Sign)

def Token.text : Token → List Char
  | word name => name.text
  | sign mark => [mark.char]

/-- A specifier in quotes: a text on one line without its own quote and without escapes. -/
structure Quotation where
  quote : Char
  content : List Char
  isQuote : isSpecifierQuote quote = true
  nonempty : content ≠ []
  plain : ∀ c ∈ content, c ≠ quote ∧ c ≠ escape ∧ c ≠ '\n'

def Quotation.text (quotation : Quotation) : List Char :=
  quotation.quote :: (quotation.content ++ [quotation.quote])

/-- `A` or `B as C`. -/
inductive Item where
  | plain (name : Identifier)
  | renamed (name other : Identifier)

def Item.tokens : Item → List Token
  | plain name => [.word name]
  | renamed name other => [.word name, .word asWord, .word other]

/-- Items with commas between them. -/
def listed : List Item → List Token
  | [] => []
  | [item] => item.tokens
  | item :: next :: items => item.tokens ++ .sign .comma :: listed (next :: items)

/-- Items in braces. -/
def braces (items : List Item) : List Token :=
  .sign .openBrace :: (listed items ++ [.sign .closeBrace])

/-- What an import takes from a file. -/
inductive Clause where
  /-- `X`. -/
  | single (name : Identifier)
  /-- `{A, B as C}`. -/
  | named (items : List Item)
  /-- `* as N`. -/
  | everything (name : Identifier)
  /-- `X, {A}`. -/
  | both (name : Identifier) (items : List Item)
  /-- `type {T}`. -/
  | types (items : List Item)

def Clause.tokens : Clause → List Token
  | single name => [.word name]
  | named items => braces items
  | everything name => [.sign .star, .word asWord, .word name]
  | both name items => .word name :: .sign .comma :: braces items
  | types items => .word typeWord :: braces items

/-- What a re-export passes on. -/
inductive Passed where
  /-- `{A, B as C}`. -/
  | named (items : List Item)
  /-- `*`. -/
  | everything
  /-- `* as N`. -/
  | everythingAs (name : Identifier)

def Passed.tokens : Passed → List Token
  | named items => braces items
  | everything => [.sign .star]
  | everythingAs name => [.sign .star, .word asWord, .word name]

/-- A statement up to its specifier. -/
inductive Statement where
  /-- `import … from`. -/
  | importFrom (clause : Clause)
  /-- `import`. -/
  | importEffect
  /-- `export … from`. -/
  | exportFrom (passed : Passed)
  /-- `import X = require(`. -/
  | importRequire (name : Identifier)

namespace Statement

def form : Statement → Form
  | importFrom _ => .clause
  | importEffect => .effect
  | exportFrom _ => .reexport
  | importRequire _ => .require

/-- The tokens between the keyword and the specifier. -/
def tokens : Statement → List Token
  | importFrom clause => clause.tokens ++ [.word fromWord]
  | importEffect => []
  | exportFrom passed => passed.tokens ++ [.word fromWord]
  | importRequire name =>
    [.word name, .sign .equals, .word requireWord, .sign .openParenthesis]

/-- Only a call needs something behind its specifier, the closing parenthesis. -/
def EndsWith : Statement → List Char → Prop
  | importRequire _, tail => ∃ gap, tail = gap ++ [')'] ∧ ∀ c ∈ gap, isBlank c = true
  | _, tail => tail = []

end Statement

/-- A token and the blanks behind it. -/
structure Spaced where
  token : Token
  gap : List Char
  blank : ∀ c ∈ gap, isBlank c = true

namespace Spaced

def text (spaced : Spaced) : List Char := spaced.token.text ++ spaced.gap

/-- Two words do not run into each other. -/
def Apart (first second : Spaced) : Prop :=
  ∀ word other, first.token = .word word → second.token = .word other → first.gap ≠ []

end Spaced

/-- A line: a statement with the blanks it is written with, and what ends it. -/
structure Line where
  statement : Statement
  /-- The blanks behind the keyword. -/
  lead : List Char
  leadBlank : ∀ c ∈ lead, isBlank c = true
  leadNonempty : lead ≠ []
  layout : List Spaced
  spells : layout.map Spaced.token = statement.tokens
  apart : layout.IsChain Spaced.Apart
  quotation : Quotation
  /-- What stands behind the quotation. -/
  tail : List Char
  ends : statement.EndsWith tail
  semicolon : Bool

namespace Line

/-- What follows the keyword, up to the opening quote. -/
def middle (line : Line) : List Char := line.lead ++ line.layout.flatMap Spaced.text

/-- The statement up to the inside of its quotes. -/
def head (line : Line) : List Char :=
  line.statement.form.keyword.toList ++ (line.middle ++ [line.quotation.quote])

/-- The statement: from the keyword to the closing quote, or to the closing parenthesis. -/
def text (line : Line) : List Char :=
  line.head ++ (line.quotation.content ++ line.quotation.quote :: line.tail)

def terminator (line : Line) : List Char :=
  if line.semicolon then [';', '\n'] else ['\n']

end Line

/-- The lines one after another. -/
def program (lines : List Line) : List Char :=
  lines.flatMap fun line => line.text ++ line.terminator

/-- The lines with the byte offsets they start at. -/
def placed (offset : Nat) : List Line → List (Nat × Line)
  | [] => []
  | line :: lines =>
    (offset, line) :: placed (offset + byteLength (line.text ++ line.terminator)) lines

/-! ## The characters of a program -/

theorem isWord_of_isBlank {c : Char} (blank : isBlank c = true) : isWord c = false := by
  let points := List.range' 9 5 ++ [0x20, 0x85, 0xA0, 0x1680] ++ List.range' 0x2000 11 ++
    [0x2028, 0x2029, 0x202F, 0x205F, 0x3000]
  have none : ∀ n ∈ points, isWord (Char.ofNat n) = false := by decide +kernel
  have mem : c.toNat ∈ points := by
    simp only [isBlank, Bool.or_eq_true, Bool.and_eq_true, decide_eq_true_eq, beq_iff_eq] at blank
    simp only [points, List.mem_append, List.mem_range'_1, List.mem_cons, List.not_mem_nil,
      or_false]
    omega
  rw [← Char.ofNat_toNat c]
  exact none c.toNat mem

theorem isBlank_of_isWord {c : Char} (word : isWord c = true) : isBlank c = false := by
  refine Bool.eq_false_iff.2 fun blank => ?_
  simp [isWord_of_isBlank blank] at word

theorem isSpecifierQuote_of_isWord {c : Char} (word : isWord c = true) :
    isSpecifierQuote c = false := by
  refine Bool.eq_false_iff.2 fun quote => ?_
  simp only [isSpecifierQuote, Bool.or_eq_true, beq_iff_eq] at quote
  rcases quote with rfl | rfl <;> exact absurd word (by decide)

theorem Identifier.isWord (name : Identifier) : ∀ c ∈ name.text, Text.isWord c = true := by
  intro c mem
  have isChar := name.chars c mem
  have small : c.toNat < 0x80 := by
    have value : c.toNat = c.val.toNat := rfl
    have ranges : c.isAlphanum = (decide (c.val ≥ 65 ∧ c.val ≤ 90) ||
      (c.val ≥ 97 && c.val ≤ 122) || (c.val ≥ 48 && c.val ≤ 57)) := rfl
    simp only [ranges, ge_iff_le, Bool.or_eq_true, Bool.and_eq_true, decide_eq_true_eq, beq_iff_eq,
      UInt32.le_iff_toNat_le, UInt32.reduceToNat] at isChar
    rcases isChar with isChar | rfl
    · omega
    · decide
  rw [Text.isWord, if_pos small, isChar]

theorem Identifier.ne_keyword (name : Identifier) (form : Form) :
    name.text ≠ form.keyword.toList := by
  cases form with
  | reexport => exact name.notExport
  | clause => exact name.notImport
  | effect => exact name.notImport
  | require => exact name.notImport

/-! ## Masked programs -/

/-- A character that masking leaves alone in code. -/
def isPlain (c : Char) : Bool := c != '/' && !startsLiteral c

theorem isPlain_of_isBlank {c : Char} (blank : isBlank c = true) : isPlain c = true := by
  have notSlash : c ≠ '/' := by rintro rfl; exact absurd blank (by decide)
  simp [isPlain, notSlash, startsLiteral_of_isBlank blank]

theorem isPlain_of_isWord {c : Char} (word : isWord c = true) : isPlain c = true := by
  cases plain : isPlain c with
  | true => rfl
  | false =>
    simp only [isPlain, startsLiteral, Bool.and_eq_false_iff, bne_eq_false_iff_eq,
      Bool.not_eq_false', Bool.or_eq_true, beq_iff_eq] at plain
    rcases plain with rfl | (rfl | rfl) | rfl <;> exact absurd word (by decide)

theorem Token.isPlain (token : Token) : ∀ c ∈ token.text, Grammar.isPlain c = true := by
  cases token with
  | word name => exact fun c mem => isPlain_of_isWord (name.isWord c mem)
  | sign mark =>
    intro c mem
    rw [List.mem_singleton.1 mem]
    cases mark <;> rfl

theorem Spaced.isPlain (spaced : Spaced) : ∀ c ∈ spaced.text, Grammar.isPlain c = true := by
  intro c mem
  rcases List.mem_append.1 mem with mem | mem
  · exact spaced.token.isPlain c mem
  · exact isPlain_of_isBlank (spaced.blank c mem)

theorem maskFrom_code_append {text : List Char} (plain : ∀ c ∈ text, isPlain c = true)
    (rest : List Char) : maskFrom .code (text ++ rest) = text ++ maskFrom .code rest := by
  induction text with
  | nil => rfl
  | cons c text ih =>
    have isPlain := plain c (by simp)
    simp only [Grammar.isPlain, Bool.and_eq_true, bne_iff_ne, Bool.not_eq_true'] at isPlain
    have next : (Masker.mk .code (c :: (text ++ rest))).next? =
        some ([c], ⟨.code, text ++ rest⟩) := by
      simp [Masker.next?, isPlain]
    refine (Masker.masked_of_next? next).trans ?_
    exact congrArg (c :: ·) (ih fun d mem => plain d (List.mem_cons_of_mem c mem))

theorem maskFrom_literal_append {quote : Char} {content : List Char}
    (plain : ∀ c ∈ content, c ≠ quote ∧ c ≠ escape ∧ c ≠ '\n') (rest : List Char) :
    maskFrom (.literal quote) (content ++ rest) =
      List.replicate (byteLength content) ' ' ++ maskFrom (.literal quote) rest := by
  induction content with
  | nil => rfl
  | cons c content ih =>
    obtain ⟨notQuote, notEscape, notFeed⟩ := plain c (by simp)
    have next := Masker.next?_literal quote notEscape (content ++ rest)
    have stays : afterLiteralChar quote c = .literal quote := by
      simp [afterLiteralChar, notQuote, notFeed]
    rw [if_neg notQuote, stays, blank, if_neg notFeed] at next
    have later := ih fun d mem => plain d (List.mem_cons_of_mem c mem)
    refine (Masker.masked_of_next? next).trans ?_
    rw [byteLength, List.replicate_add, List.append_assoc]
    exact congrArg (List.replicate c.utf8Size ' ' ++ ·) later

/-- The inside of a quotation becomes spaces. -/
theorem maskFrom_quotation (quotation : Quotation) (rest : List Char) :
    maskFrom .code (quotation.quote :: (quotation.content ++ quotation.quote :: rest)) =
      quotation.quote :: (List.replicate (byteLength quotation.content) ' ' ++
        quotation.quote :: maskFrom .code rest) := by
  obtain ⟨quote, content, isQuote, -, plain⟩ := quotation
  have starts := startsLiteral_of_isSpecifierQuote isQuote
  have notSlash : quote ≠ '/' := by rintro rfl; exact absurd isQuote (by decide)
  have notEscape : quote ≠ escape := by rintro rfl; exact absurd isQuote (by decide)
  have opens : (Masker.mk .code (quote :: (content ++ quote :: rest))).next? =
      some ([quote], ⟨.literal quote, content ++ quote :: rest⟩) := by
    simp [Masker.next?, notSlash, starts]
  have closes := Masker.next?_literal quote notEscape rest
  have leaves : afterLiteralChar quote quote = .code := by simp [afterLiteralChar]
  rw [if_pos rfl, leaves] at closes
  have inside := maskFrom_literal_append plain (quote :: rest)
  have closed : maskFrom (.literal quote) (quote :: rest) = quote :: maskFrom .code rest :=
    Masker.masked_of_next? closes
  rw [closed] at inside
  exact (Masker.masked_of_next? opens).trans (congrArg (quote :: ·) inside)

namespace Line

/-- A line as it is masked. -/
def masked (line : Line) : List Char :=
  line.head ++
    (List.replicate (byteLength line.quotation.content) ' ' ++ line.quotation.quote :: line.tail)

theorem isPlain_keyword (form : Form) : ∀ c ∈ form.keyword.toList, isPlain c = true := by
  cases form <;> exact List.all_eq_true.1 rfl

theorem isPlain_middle (line : Line) : ∀ c ∈ line.middle, isPlain c = true := by
  intro c mem
  rcases List.mem_append.1 mem with mem | mem
  · exact isPlain_of_isBlank (line.leadBlank c mem)
  · obtain ⟨spaced, -, mem⟩ := List.mem_flatMap.1 mem
    exact spaced.isPlain c mem

theorem tail_eq (line : Line) :
    line.tail = [] ∨ ∃ gap, line.tail = gap ++ [')'] ∧ ∀ c ∈ gap, isBlank c = true := by
  obtain ⟨statement, -, -, -, -, -, -, -, tail, ends, -⟩ := line
  cases statement with
  | importRequire name => exact .inr ends
  | importFrom clause => exact .inl ends
  | importEffect => exact .inl ends
  | exportFrom passed => exact .inl ends

theorem isPlain_tail (line : Line) : ∀ c ∈ line.tail, isPlain c = true := by
  intro c mem
  rcases line.tail_eq with none | ⟨gap, tail, blank⟩
  · simp [none] at mem
  · rw [tail] at mem
    rcases List.mem_append.1 mem with mem | mem
    · exact isPlain_of_isBlank (blank c mem)
    · rw [List.mem_singleton.1 mem]
      rfl

theorem isPlain_terminator (line : Line) : ∀ c ∈ line.terminator, isPlain c = true := by
  unfold terminator
  split <;> exact List.all_eq_true.1 rfl

theorem maskFrom_append (line : Line) (rest : List Char) :
    maskFrom .code (line.text ++ (line.terminator ++ rest)) =
      line.masked ++ (line.terminator ++ maskFrom .code rest) := by
  simp only [text, masked, head, List.append_assoc, List.cons_append, List.nil_append]
  rw [maskFrom_code_append (isPlain_keyword _), maskFrom_code_append line.isPlain_middle,
    maskFrom_quotation, maskFrom_code_append line.isPlain_tail,
    maskFrom_code_append line.isPlain_terminator]

theorem byteLength_masked (line : Line) : byteLength line.masked = byteLength line.text := by
  simp only [masked, text, byteLength_append, Text.byteLength_replicate_space]

end Line

theorem mask_program (lines : List Line) :
    mask (program lines) = lines.flatMap fun line => line.masked ++ line.terminator := by
  unfold mask program
  induction lines with
  | nil => rfl
  | cons line lines ih =>
    rw [List.flatMap_cons, List.flatMap_cons, List.append_assoc, line.maskFrom_append, ih,
      List.append_assoc]

end ImportCycles.Source.Grammar
