import ImportCycles.Event
import ImportCycles.Text.Plural

/-! # Progress

What a person at a terminal is told about a run: lines of text, and bars that show how far the work
is. Only what the bars stand for is kept here, not how they are drawn.
-/

namespace ImportCycles

/-- A bar, or a spinner if it has no length. -/
structure Bar where
  message : String
  position : Nat := 0
  length : Option Nat := none
  finished : Bool := false
  deriving DecidableEq, Repr

/-- The blanks in place of a tabulator in the message of a bar. -/
def Bar.tabulator : String := "        "

/-- The bar with another message. -/
def Bar.rename (bar : Bar) (message : String) : Bar :=
  { bar with message := tabulator.intercalate (message.splitOn "\t") }

/-- The bar at the end of its work. -/
def Bar.finish (bar : Bar) : Bar :=
  { bar with position := bar.length.getD bar.position, finished := true }

/-- What was told so far. -/
structure Progress where
  /-- Everything written. -/
  written : String := ""
  /-- All bars, in the order they were made. -/
  bars : List Bar := []
  /-- The bar of the search or of the linting that is under way. -/
  current : Option Nat := none
  /-- The bar of the reading that is under way. -/
  reading : Option Nat := none
  /-- How often a path was told without a bar. -/
  ticks : Nat := 0
  deriving DecidableEq, Repr

namespace Progress

/-- The pictures that take turns in front of a path. -/
def frames : List String := ["🎢 ", "🎢⊙", "🎢◐", "🎢◓", "🎢◑", "🎢◒", "🎢○", "🎢●"]

/-- The picture whose turn it is. -/
def frame (ticks : Nat) : String :=
  (frames[ticks % frames.length]?).getD ""

/-- The code that clears the line of a terminal. -/
def clearLine : String := "\r\x1b[2K"

/-- Writes a text. -/
def write (progress : Progress) (text : String) : Progress :=
  { progress with written := progress.written ++ text }

/-- Makes a bar. -/
def addBar (progress : Progress) (message : String) (length : Option Nat) : Progress :=
  { progress with bars := progress.bars ++ [Bar.rename { message := "", length } message] }

/-- The number of the bar that is made next. -/
def nextBar (progress : Progress) : Nat := progress.bars.length

/-- Changes the bar that has the given number, if any. -/
def changeBar (progress : Progress) (number : Option Nat) (change : Bar → Bar) : Progress :=
  match number with
  | none => progress
  | some number => { progress with bars := progress.bars.modify number change }

/-- Ends the bar of the search or of the linting. -/
def closeCurrent (progress : Progress) : Progress :=
  { progress.changeBar progress.current Bar.finish with current := none }

/-- Makes a bar and lets it be the one of the search or of the linting. -/
def openCurrent (progress : Progress) (message : String) (length : Option Nat) : Progress :=
  { progress.addBar message length with current := some progress.nextBar }

/-- A path that is searched renames the current bar; without one it is written. -/
def tellPath (progress : Progress) (path : String) : Progress :=
  match progress.current with
  | some _ => progress.changeBar progress.current (·.rename ("Scanning: " ++ path ++ "..."))
  | none =>
    let text := clearLine ++ "\r" ++ frame progress.ticks ++ " Scanning: " ++ path ++ "... "
    { progress.write text with ticks := progress.ticks + 1 }

/-- What is written at the end of the search. -/
def searchResult (count : Nat) : String :=
  if count = 0 then "✗ No source files found"
  else "✓ Discovery complete: found " ++ toString count ++ " source " ++ Text.plural "file" count

/-- What is written at the end of the run. -/
def cycleResult (count : Nat) : String :=
  if count = 0 then "✓ No circular imports detected! 🎉"
  else "⚠ Found " ++ toString count ++ " circular " ++ Text.plural "import" count

/-- Tells an event. -/
def tell (progress : Progress) : Event → Progress
  | .searchBegins =>
    (progress.write (clearLine ++ "🔍 Discovering source files...\n")).openCurrent
      "Walking directories..." none
  | .pathMissing path => progress.write ("⚠ Path '" ++ path ++ "' does not exist\n")
  | .searching path => progress.tellPath path
  | .searchEnds count =>
    progress.closeCurrent.write (clearLine ++ "\r" ++ searchResult count ++ "\n")
  | .readingBegins count =>
    { progress.addBar "Reading sources" (some count) with reading := some progress.nextBar }
  | .fileUnreadable path => progress.write ("⚠ Failed to read file '" ++ path ++ "'\n")
  | .readingEnds => { progress.changeBar progress.reading Bar.finish with reading := none }
  | .lintingBegins count =>
    (progress.write "\n🎢 Riding the import graph...\n").openCurrent "Linting imports" (some count)
  | .linting shown => progress.changeBar progress.current fun bar =>
      { bar.rename ("Linting: " ++ shown) with position := bar.position + 1 }
  | .lintingEnds => progress.closeCurrent
  | .cyclesFound count => progress.write (cycleResult count ++ "\n")
  | .said text => progress.write text

/-- Tells events one after the other. -/
def tellAll (progress : Progress) (events : List Event) : Progress :=
  events.foldl tell progress

/-- What events write: all of them to a person who watches, and only the notices otherwise. -/
def transcript (watched : Bool) (events : List Event) : String :=
  (tellAll {} (if watched then events else events.filter Event.isNotice)).written

/-- A written text without the codes that move the cursor. -/
def withoutCodes : List Char → List Char
  | '\r' :: '\x1b' :: '[' :: '2' :: 'K' :: rest => withoutCodes rest
  | '\r' :: rest => withoutCodes rest
  | c :: rest => c :: withoutCodes rest
  | [] => []

/-- The marks that messages start with. -/
def marks : List Char := ['🎢', '🔦', '📊', '🔍', '✓', '✗', '⚠', 'ℹ']

/-- The lines of a written text that are messages. -/
def messageLines (written : String) : List String :=
  (((withoutCodes written.toList).splitOn '\n').filter fun line =>
    line.head?.any marks.contains).map String.ofList

end Progress

end ImportCycles
