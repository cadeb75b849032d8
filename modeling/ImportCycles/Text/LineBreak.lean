import ImportCycles.Text.BreakClass

/-! # Line breaks

A line may end between two characters unless a rule keeps them together. The rules look at the class
of the character that follows and at what stands before: the last character that is neither a space
nor a mark on another, and whether spaces follow it. A few look at the character after the next.
They are tried in order, and the first that applies decides.
-/

namespace ImportCycles.Text

open BreakClass

/-- What stands before a place in a text. -/
structure Context where
  /-- The class of the last character that is neither a space nor a mark. -/
  base : BreakClass
  /-- Do spaces follow it? -/
  spaces : Bool := false
  /-- Is the last character a joiner? -/
  joined : Bool := false
  /-- Does the last character follow a Hebrew letter as its hyphen? -/
  hebrewHyphen : Bool := false
  /-- Does an odd number of letters of flags stand here? -/
  oddRegionals : Bool := false
  /-- Does a quotation mark stand here that opens a quotation? -/
  opensQuote : Bool := false
  /-- Does the last character join the letter before it to the next one? -/
  joinsSyllable : Bool := false
  /-- Do two circles in place of letters make up a syllable here? -/
  circlePair : Bool := false
  deriving DecidableEq, Repr

/-- The classes of characters that end a line by themselves. -/
def lineEnds : List BreakClass := [hardBreak, carriageReturn, lineFeed, nextLine]

/-- The classes of opening brackets. -/
def openings : List BreakClass := [opening, wideOpening]

/-- The classes of quotation marks. -/
def quotations : List BreakClass := [quotation, openingQuotation, closingQuotation]

/-- The classes of letters. -/
def letters : List BreakClass := [alphabetic, dottedCircle, hebrew]

/-- The classes of letters that start a syllable of an Indic script. -/
def syllableStarts : List BreakClass := [aksara, aksaraStart, dottedCircle]

/-- The classes of characters that may stand before a quotation mark that opens a quotation. -/
def quoteLeads : List BreakClass := [glue, zeroSpace] ++ openings ++ quotations ++ lineEnds

/-- The classes of characters that may stand behind a quotation mark that closes a quotation. -/
def quoteFollowers : List BreakClass :=
  [space, glue, wordJoiner, closing, closingBracket, exclamation, separator, slash, zeroSpace] ++
    quotations ++ lineEnds

/-- The classes of pictures and of characters that stand for themselves. -/
def ideographs : List BreakClass := [ideograph, emojiBase, emojiModifier]

/-- The classes of Korean syllables and their parts. -/
def korean : List BreakClass := [leadingJamo, vowelJamo, trailingJamo, openSyllable, closedSyllable]

/-- The classes that stay with a class of the second list when it follows at once. -/
def inseparablePairs : List (List BreakClass × List BreakClass) := [
  (letters, [digit]), ([digit], letters),
  ([beforeNumber], ideographs), (ideographs, [afterNumber]),
  ([beforeNumber, afterNumber], letters), (letters, [beforeNumber, afterNumber]),
  ([closing, closingBracket, digit], [beforeNumber, afterNumber]),
  ([beforeNumber, afterNumber], digit :: openings),
  ([hyphen, separator, digit, slash], [digit]),
  ([leadingJamo], [leadingJamo, vowelJamo, openSyllable, closedSyllable]),
  ([vowelJamo, openSyllable], [vowelJamo, trailingJamo]),
  ([trailingJamo, closedSyllable], [trailingJamo]),
  (korean, [afterNumber]), ([beforeNumber], korean),
  (letters, letters), ([separator], letters),
  ([aksaraLead], syllableStarts), (syllableStarts, [virama, finalVirama]),
  (digit :: letters, [opening]), ([closingBracket], digit :: letters),
  ([emojiBase], [emojiModifier])]

/-- Do the two classes stay together when one follows the other at once? -/
def inseparable (before after : BreakClass) : Bool :=
  inseparablePairs.any fun (firsts, seconds) => firsts.contains before && seconds.contains after

namespace Context

/-- Does a mark here belong to the character before it? -/
def takesMarks (context : Context) : Bool :=
  !context.spaces && !(zeroSpace :: lineEnds).contains context.base

/-- Is this the class of a mark? -/
def isMark (kind : BreakClass) : Bool :=
  kind = combining || kind = joiner

/-- The class that a character counts as here. A mark that belongs to no character is a letter. -/
def classHere (after : BreakClass) : BreakClass :=
  if isMark after then alphabetic else after

/-- Does a letter stay with the one before it? It does if they are joined, or if the next character
ends a syllable with both. -/
def inSyllable (context : Context) (after : BreakClass) (following : Option BreakClass) : Bool :=
  (context.joinsSyllable && [aksara, dottedCircle].contains after) ||
    (syllableStarts.contains context.base && syllableStarts.contains after &&
      following = some finalVirama)

/-- May a line end here, before a character that is neither a space nor a mark, if none ends here by
itself? `following` is the class of the character behind that one and its marks. -/
def allows (context : Context) (after : BreakClass) (following : Option BreakClass) : Bool :=
  let before := context.base
  let adjacent := !context.spaces
  if adjacent ∧ context.circlePair then after ∉ [virama, finalVirama]
  else if after = wordJoiner ∨ (adjacent ∧ before ∈ [wordJoiner, glue]) then false
  else if adjacent ∧ after = glue ∧ before ∉ [breakAfter, hyphen] then false
  else if after ∈ [closing, closingBracket, exclamation, separator, slash] then false
  else if before ∈ openings ∨ context.opensQuote then false
  else if after = closingQuotation ∧ following.all quoteFollowers.contains then false
  else if before ∈ [closing, closingBracket] ∧ after = nonStarter then false
  else if before = dash ∧ after = dash then false
  else if context.spaces then true
  else if before ∈ quotations ∨ after ∈ quotations then false
  else if before = object ∨ after = object then true
  else if after ∈ [breakAfter, hyphen, nonStarter, leader] ∨ before = breakBefore then false
  else if context.hebrewHyphen ∨ (before = slash ∧ after = hebrew) then false
  else if before = regional ∧ after = regional then !context.oddRegionals
  else !(inseparable before after || context.inSyllable after following)

/-- May a line end here, before a character of the class? -/
def breaks (context : Context) (after : BreakClass) (following : Option BreakClass) : Bool :=
  if !context.spaces && lineEnds.contains context.base then
    !(context.base = carriageReturn && after = lineFeed)
  else if after ∈ lineEnds ∨ after = space ∨ after = zeroSpace then false
  else if context.base = zeroSpace then true
  else if context.joined then false
  else if isMark after ∧ context.takesMarks then false
  else context.allows (classHere after) following

/-- What stands before the place behind a character of the class. -/
def next (context : Context) (after : BreakClass) : Context :=
  if after = space then { context with spaces := true, joined := false }
  else if isMark after ∧ context.takesMarks then
    { context with joined := after = joiner }
  else
    { base := classHere after
      joined := after = joiner
      hebrewHyphen :=
        !context.spaces && context.base = hebrew && [hyphen, breakAfter].contains after
      oddRegionals :=
        after = regional && !(!context.spaces && context.base = regional && context.oddRegionals)
      opensQuote :=
        after = openingQuotation && (context.spaces || quoteLeads.contains context.base)
      joinsSyllable :=
        after = virama && !context.spaces && syllableStarts.contains context.base
      circlePair :=
        after = dottedCircle && !context.spaces && context.base = dottedCircle &&
          !context.circlePair }

end Context

/-- The context behind the first character of a text. -/
def Context.first (kind : BreakClass) : Context where
  base := classHere kind
  spaces := kind = space
  joined := kind = joiner
  oddRegionals := kind = regional
  opensQuote := kind = openingQuotation

/-- A character of a text, with its class unless it is hidden. -/
structure Glyph where
  char : Char
  kind : Option BreakClass
  deriving DecidableEq, Repr

/-- The class of the first character that is neither hidden nor a mark. -/
def followingClass : List Glyph → Option BreakClass
  | [] => none
  | ⟨_, none⟩ :: rest => followingClass rest
  | ⟨_, some kind⟩ :: rest => if Context.isMark kind then followingClass rest else some kind

/-- The parts of a text between the places where a line may end and `suppress`, which is asked for
the character before the place, does not object. `before` is what stands before the next character,
with the last one, `part` the part being read and `hidden` what is hidden behind it, both backwards.
What is hidden at the end of a line belongs to the next one. -/
def breakFrom (suppress : Char → Bool) (before : Option (Context × Char))
    (part hidden : List Char) : List Glyph → List (List Char)
  | [] => [(hidden ++ part).reverse]
  | ⟨c, none⟩ :: rest => breakFrom suppress before part (c :: hidden) rest
  | ⟨c, some after⟩ :: rest =>
    match before with
    | none => breakFrom suppress (some (Context.first after, c)) (c :: hidden ++ part) [] rest
    | some (context, last) =>
      let before := some (context.next after, c)
      if context.breaks after (followingClass rest) && !suppress last then
        part.reverse :: breakFrom suppress before (c :: hidden) [] rest
      else breakFrom suppress before (c :: hidden ++ part) [] rest

/-- The parts of a text between the places where a line may end. -/
def breakParts (suppress : Char → Bool) (glyphs : List Glyph) : List (List Char) :=
  breakFrom suppress none [] [] glyphs

end ImportCycles.Text
