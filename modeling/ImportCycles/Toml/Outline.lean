import ImportCycles.Toml.Quoted

/-! # Outlines

The statements of a document, one on a line, with the tokens of their keys and values. Brackets and
commas are in order in an outline; what its tokens stand for is not yet known. A token that should
be there and is not is an empty word, so that the fault is found when it is read.
-/

namespace ImportCycles.Toml

/-- A value, as far as its brackets go. -/
inductive Node where
  | leaf (token : Token)
  | array (items : List Node) (span : Span)
  | table (fields : List (List Token × Node)) (span : Span)

/-- The place of a value. -/
def Node.span : Node → Span
  | .leaf token => token.span
  | .array _ span => span
  | .table _ span => span

/-- A statement: the header of a table, or a key with a value. -/
inductive Statement where
  /-- `repeated` says that there may be several tables of that name. -/
  | header (names : List Token) (repeated : Bool) (span : Span)
  | pair (names : List Token) (value : Node)

namespace Outline

/-- The problem in front of a token. -/
def before (token : Token) (problem : OutlineProblem) : Fault :=
  Problem.before (.outline problem) token.start

/-- The problem that a token is. -/
def within (token : Token) (problem : OutlineProblem) : Fault :=
  Problem.within (.outline problem) token.span

/-- Accepts a line end that is no carriage return alone, and a comment whose characters can stand
in one. -/
def check (token : Token) : Except Fault Unit :=
  match token.kind with
  | .newline =>
    if token.text = ['\r'] then .error (Problem.before .loneReturn token.stop) else .ok ()
  | .comment =>
    match token.text.dropWhile isPlain with
    | [] => .ok ()
    | rest => .error (Problem.before (.outline .badComment) (token.offsetOf rest))
  | _ => .ok ()

/-- The tokens after the end of the line. Nothing but a comment may be left on it, unless `lenient`
says that the rest of the line does not matter. -/
def afterLine (lenient : Bool) : List Token → Except Fault (List Token)
  | [] => .ok []
  | token :: rest =>
    match token.kind with
    | .newline => do
      check token
      return rest
    | .blanks | .comment => do
      check token
      afterLine lenient rest
    | .finish => .ok (token :: rest)
    | _ => if lenient then afterLine lenient rest else .error (before token .lineGoesOn)

/-- The tokens after blanks. -/
def skipBlanks (tokens : List Token) : List Token :=
  tokens.dropWhile (·.kind = .blanks)

/-- The names of a key, divided by dots. `wanted` says that a name has to come next; where none
does, it is missing. -/
def names (wanted : Bool) : List Token → List Token × List Token
  | [] => ([], [])
  | token :: rest =>
    match token.kind with
    | .blanks => names wanted rest
    | .dot =>
      let (others, left) := names true rest
      (if wanted then .missing token.start :: others else others, left)
    | .word | .quoted _ =>
      if wanted then
        let (others, left) := names false rest
        (token :: others, left)
      else ([], token :: rest)
    | _ => (if wanted then [.missing token.start] else [], token :: rest)

/-- What belongs to a value without quotes after its first token: words, dots, and blanks in front
of a word. -/
def moreWords : List Token → List Char × List Token
  | [] => ([], [])
  | token :: rest =>
    let joins := token.kind = .blanks ∧ rest.head?.any (·.kind = .word)
    if token.kind = .word ∨ token.kind = .dot ∨ joins then
      let (text, left) := moreWords rest
      (token.text ++ text, left)
    else ([], token :: rest)

/-- A value without brackets that starts with a token. -/
def leaf (token : Token) (rest : List Token) : Node × List Token :=
  match token.kind with
  | .quoted _ => (.leaf token, rest)
  | _ =>
    let (text, left) := moreWords rest
    (.leaf ⟨.word, token.text ++ text, token.start⟩, left)

/-- How many brackets may stand inside each other. -/
def maxDepth : Nat := 80

/-- Where the last token of a document ends that is not silent. A bracket that is not closed is
told there. -/
def lastEnd (tokens : List Token) : Nat :=
  ((tokens.filter (!·.isSilent)).getLast?.map (·.stop)).getD 0

/-- From one token to another. -/
def spanTo (first last : Token) : Span :=
  ⟨first.start, last.stop - first.start⟩

mutual

/-- The value that opens with a bracket or brace, inside of `depth` others. No token takes more than
two units of `fuel`. -/
def bracketed (fuel depth last : Nat) (first : Token) (tokens : List Token) :
    Except Fault (Node × List Token) :=
  match fuel with
  | 0 => .error (Problem.before (.outline .unclosedBrackets) last)
  | fuel + 1 =>
    if maxDepth ≤ depth then .error (within first .tooDeep)
    else if first.kind = .openBracket then items fuel (depth + 1) last first [] true tokens
    else fields fuel (depth + 1) last first [] [] .key tokens

/-- The items of an array up to its closing bracket, after those that were `found`. `wanted` says
that an item may come next, and no comma. -/
def items (fuel depth last : Nat) (first : Token) (found : List Node) (wanted : Bool)
    (tokens : List Token) : Except Fault (Node × List Token) :=
  match fuel, tokens with
  | 0, _ | _, [] => .error (Problem.before (.outline .unclosedBrackets) last)
  | fuel + 1, token :: rest =>
    match token.kind with
    | .finish => .error (Problem.before (.outline .unclosedBrackets) last)
    | .blanks | .newline | .comment => do
      check token
      items fuel depth last first found wanted rest
    | .comma =>
      if wanted then .error (within token .extraItemComma)
      else items fuel depth last first found true rest
    | .equals => .error (within token .equalsInArray)
    | .closeBracket => .ok (.array found.reverse (spanTo first token), rest)
    | kind => do
      unless wanted do throw (before token .missingItemComma)
      if kind = .closeBrace then throw (before token .unopenedBraces)
      let (item, left) ←
        if kind = .openBrace ∨ kind = .openBracket then bracketed fuel depth last token rest
        else .ok (leaf token rest)
      items fuel depth last first (item :: found) false left

/-- The fields of a table up to its closing brace, after those that were `found`; `key` has the
names of the next one. Where the brace cuts a field off, its value is a text that lacks its
quotes. -/
def fields (fuel depth last : Nat) (first : Token) (found : List (List Token × Node))
    (key : List Token) (awaited : Awaited) (tokens : List Token) :
    Except Fault (Node × List Token) :=
  match fuel, tokens with
  | 0, _ | _, [] => .error (Problem.before (.outline .unclosedBraces) last)
  | fuel + 1, token :: rest =>
    match token.kind, awaited with
    | .finish, _ => .error (Problem.before (.outline .unclosedBraces) last)
    | .blanks, _ | .newline, _ | .comment, _ => do
      check token
      fields fuel depth last first found key awaited rest
    | .comma, .comma => fields fuel depth last first found [] .key rest
    | .comma, _ => .error (before token (.extraFieldComma awaited))
    | .equals, .key =>
      fields fuel depth last first found [.missing token.start] .value rest
    | .equals, .equals => fields fuel depth last first found key .value rest
    | .equals, _ => .error (before token (.extraFieldEquals awaited))
    | .closeBrace, _ =>
      let found :=
        match awaited with
        | .equals | .value => (key, Node.leaf ⟨.quoted ⟨false, false⟩, [], token.start⟩) :: found
        | _ => found
      .ok (.table found.reverse (spanTo first token), rest)
    | .closeBracket, .value => .error (before token .unopenedBrackets)
    | .closeBracket, _ => .error (before token (.badField awaited))
    | .openBrace, .value | .openBracket, .value => do
      let (value, left) ← bracketed fuel depth last token rest
      fields fuel depth last first ((key, value) :: found) [] .comma left
    | .openBrace, .equals | .openBracket, .equals => .error (before token .missingFieldEquals)
    | .openBrace, _ | .openBracket, _ => .error (before token (.missingFieldKey awaited))
    | _, .key =>
      let (key, left) := names true (token :: rest)
      fields fuel depth last first found key .equals left
    | _, .equals => .error (before token .missingFieldEquals)
    | _, .comma => .error (before token .missingFieldComma)
    | _, .value =>
      let (value, left) := leaf token rest
      fields fuel depth last first ((key, value) :: found) [] .comma left

end

/-- The value of a key. It is missing if the line ends here. -/
def value (last : Nat) (tokens : List Token) : Except Fault (Node × List Token) :=
  match tokens with
  | [] => .error (Problem.before (.outline .unclosedBrackets) last)
  | token :: rest =>
    match token.kind with
    | .comment | .comma | .newline | .finish => .ok (.leaf (.missing token.start), token :: rest)
    | .equals => .error (within token .secondEquals)
    | .closeBrace => .error (before token .unopenedBraces)
    | .closeBracket => .error (before token .unopenedBrackets)
    | .openBrace | .openBracket => bracketed (2 * tokens.length) 0 last token rest
    | _ => .ok (leaf token rest)

/-- A key, `=` and a value. -/
def pair (last : Nat) (tokens : List Token) : Except Fault (Statement × List Token) :=
  let starting := tokens.head?.map (·.kind)
  let (key, left) := names true tokens
  match left with
  | token :: rest =>
    if token.kind = .equals then do
      let (value, left) ← value last (skipBlanks rest)
      return (.pair key value, ← afterLine false left)
    else if starting = some .dot then .error (before token .dotsWithoutValue)
    else .error (before token .keyWithoutValue)
  | [] => .error (Problem.before (.outline .keyWithoutValue) last)

/-- The header of a table after its first bracket. If its last name is missing, the rest of the line
does not matter. -/
def header (first : Token) (tokens : List Token) : Except Fault (Statement × List Token) :=
  let repeated := tokens.head?.any (·.kind = .openBracket)
  let (key, left) := names true (if repeated then tokens.drop 1 else tokens)
  let keyEnd := (key.getLast?.map (·.stop)).getD first.stop
  let closings := (left.take (if repeated then 2 else 1)).takeWhile (·.kind = .closeBracket)
  match closings.getLast? with
  | some closing =>
    if repeated && closings.length = 1 then
      .error (Problem.before (.outline .halfClosedHeader) closing.stop)
    else do
      return (.header key repeated (spanTo first closing),
        ← afterLine false (left.drop closings.length))
  | none =>
    if key.getLast?.any (·.text.isEmpty) then do
      return (.header key repeated first.span, ← afterLine true left)
    else if repeated then .error (Problem.before (.outline .unclosedRepeatedHeader) keyEnd)
    else .error (Problem.before (.outline .unclosedHeader) keyEnd)

/-- The statements of a document. Each token takes one unit of `fuel`. -/
def statements (fuel last : Nat) (tokens : List Token) : Except Fault (List Statement) :=
  match fuel, tokens with
  | 0, _ | _, [] => .ok []
  | fuel + 1, token :: rest =>
    match token.kind with
    | .finish => .ok []
    | .blanks | .newline | .comment => do
      check token
      statements fuel last rest
    | .openBracket => do
      let (statement, left) ← header token rest
      return statement :: (← statements fuel last left)
    | .closeBracket => .error (before token .unopenedHeader)
    | .comma | .openBrace | .closeBrace => .error (before token .noKey)
    | .dot | .equals | .word | .quoted _ => do
      let (statement, left) ← pair last (token :: rest)
      return statement :: (← statements fuel last left)

end Outline

/-- The statements of a document. -/
def outline (text : List Char) : Except Fault (List Statement) :=
  let tokens := tokens text
  Outline.statements tokens.length (Outline.lastEnd tokens) tokens

end ImportCycles.Toml
