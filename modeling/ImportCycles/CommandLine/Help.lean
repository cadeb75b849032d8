import ImportCycles.CommandLine.Spec
import ImportCycles.Text.Strip
import ImportCycles.Text.Style

/-! # Help

The help of the program and of its commands, made from the list of their arguments. The short form
has a line for each argument, in two columns unless the texts are too long for that; the long form
has a paragraph for each. The lines are styled for a terminal, and their codes are taken out at the
end.
-/

namespace ImportCycles.CommandLine

/-- The style of what is typed as it stands. -/
def literal (text : String) : String :=
  Text.paint true "1" text

/-- The style of headings. -/
def headline (text : String) : String :=
  "\x1b[1m" ++ Text.paint true "4" text

/-- One line or paragraph of the help. -/
structure HelpEntry where
  /-- The letter in front of the name. -/
  letter : Option Char := none
  /-- Is there room for a letter? -/
  lettered : Bool := false
  /-- The name as it is typed. -/
  name : String := ""
  /-- What stands for the value. -/
  value : String := ""
  about : String
  /-- Remarks in brackets after the text. -/
  notes : List String := []
  deriving DecidableEq, Repr

namespace HelpEntry

/-- The text on one line. -/
def text (entry : HelpEntry) : String :=
  " ".intercalate (entry.about :: entry.notes)

/-- The letter, or the blanks in its place. -/
def mark (entry : HelpEntry) : String :=
  match entry.letter with
  | some letter => literal ("-" ++ String.singleton letter) ++ ", "
  | none => if entry.lettered then "    " else ""

/-- The first column. -/
def head (entry : HelpEntry) : String :=
  "  " ++ entry.mark ++ (if entry.name = "" then "" else literal entry.name) ++ entry.value

/-- How many characters the name and the value take. -/
def labelLength (entry : HelpEntry) : Nat :=
  entry.name.length + entry.value.length

/-- How many characters stand in front of the name. -/
def margin (entry : HelpEntry) : Nat :=
  if entry.lettered then 6 else 2

/-- A text with blanks after each of its line feeds. -/
def indentRest (blanks : String) (text : String) : String :=
  ("\n" ++ blanks).intercalate (text.splitOn "\n")

/-- The entry in two columns, the first padded to labels of `width` characters. -/
def inColumns (width : Nat) (entry : HelpEntry) : String :=
  entry.head ++ Text.repeated (width - entry.labelLength + 2) " " ++
    indentRest (Text.repeated (entry.margin + max width entry.labelLength + 2) " ") entry.text

/-- The blanks in front of a text below its label. -/
def indent : String := "          "

/-- The entry with its text on the next line. -/
def stacked (entry : HelpEntry) : List String :=
  [entry.head, indent ++ indentRest indent entry.text]

/-- The entry as a paragraph. -/
def paragraph (entry : HelpEntry) : List String :=
  [entry.head, indent ++ entry.about] ++
    if entry.notes.isEmpty then []
    else indent :: entry.notes.map fun note => indent ++ indentRest indent note

/-- The length of the longest label. -/
def longest (entries : List HelpEntry) : Nat :=
  (entries.map (·.labelLength)).foldl max 0

/-- The number of columns that the help is laid out for. -/
def columns : Nat := 100

/-- The number of characters that a text is taken to show. A control hides what follows up to the
next `m`, as in the codes that style a text. -/
def shownLength (hidden : Bool) : List Char → Nat
  | [] => 0
  | c :: rest =>
    if c.toNat < 0x20 || c.toNat = 0x7F then shownLength true rest
    else if hidden then shownLength (c ≠ 'm') rest
    else shownLength false rest + 1

/-- Are two columns too narrow? That is so if the first one takes more than two fifths of the
width and some text does not fit into the second. -/
def overflows (entries : List HelpEntry) : Bool :=
  let taken := longest entries + 12
  taken ≤ columns && 2 * columns < 5 * taken &&
    entries.any fun entry =>
      columns - taken < entry.about.length +
        shownLength false (" ".intercalate entry.notes).toList

/-- Entries one below the other. -/
def layOut (long : Bool) (entries : List HelpEntry) : List String :=
  if long then [""].intercalate (entries.map paragraph)
  else if overflows entries then entries.flatMap stacked
  else entries.map (inColumns (longest entries))

end HelpEntry

/-- The name of an option as it is typed. -/
def Arg.helpName (arg : Arg) : String :=
  match arg.form with
  | .option long _ => "--" ++ long
  | .positional .. => ""

/-- What stands for the value of an argument. -/
def Arg.helpValue (arg : Arg) : String :=
  match arg.form, arg.action with
  | .option .., .count => "..."
  | .option .., .single _ | .option .., .many _ => " <" ++ arg.valueName ++ ">"
  | .option .., _ => ""
  | .positional required repeats, _ =>
    (if required then "<" ++ arg.valueName ++ ">" else "[" ++ arg.valueName ++ "]") ++
      if repeats then "..." else ""

/-- The letter of an option. -/
def Arg.letter (arg : Arg) : Option Char :=
  match arg.form with
  | .option _ short => short
  | .positional .. => none

/-- Does the argument have a place instead of a name? -/
def Arg.isPositional (arg : Arg) : Bool :=
  match arg.form with
  | .positional .. => true
  | .option .. => false

/-- The values that an argument accepts, if they are few. -/
def Arg.choices (arg : Arg) : List String :=
  match arg.action with
  | .single (.oneOf choices) => choices
  | _ => []

/-- The remarks on an argument: the variable that stands in for it with its present value, the
default, and the values to choose from. -/
def Arg.notes (env : String → Option String) (arg : Arg) : List String :=
  (arg.env.map fun name => "[env: " ++ name ++ "=" ++ (env name).getD "" ++ "]").toList ++
    (arg.default.map fun value => "[default: " ++ value ++ "]").toList ++
    if arg.choices.isEmpty then []
    else ["[possible values: " ++ ", ".intercalate arg.choices ++ "]"]

/-- What the help says about an argument. The help refers to its own other form. -/
def Arg.helpAbout (long : Bool) (arg : Arg) : String :=
  match arg.action with
  | .help => arg.about ++ if long then " (see a summary with '-h')" else " (see more with '--help')"
  | _ => arg.about

/-- An argument in the help. -/
def Arg.helpEntry (env : String → Option String) (long : Bool) (arg : Arg) : HelpEntry where
  letter := arg.letter
  lettered := !arg.isPositional
  name := arg.helpName
  value := arg.helpValue
  about := arg.helpAbout long
  notes := arg.notes env

/-- A heading and what stands below it. -/
def helpSection (heading : String) (lines : List String) : List String :=
  ["", headline (heading ++ ":")] ++ lines

/-- How a command is called: its names, and what else is given to it. -/
def usage (names rest : List String) : String :=
  " ".intercalate ([headline "Usage:", literal (" ".intercalate (programName :: names))] ++ rest)

/-- The name of the command that shows the help. -/
def helpName : String := "help"

/-- What the command that shows the help does. -/
def helpCommandAbout : String := "Print this message or the help of the given subcommand(s)"

/-- The help of the program. -/
def programHelp (env : String → Option String) (long : Bool) : List String :=
  let commands := CommandName.all.map fun command =>
    ({ name := command.text, about := command.about } : HelpEntry)
  [if long then programLongAbout else programAbout, "", usage [] ["[OPTIONS]", "<COMMAND>"]] ++
    helpSection "Commands"
      (HelpEntry.layOut false (commands ++ [{ name := helpName, about := helpCommandAbout }])) ++
    helpSection "Options" (HelpEntry.layOut long (globalArgs.map (Arg.helpEntry env long)))

/-- The help of a command. -/
def CommandName.help (env : String → Option String) (long : Bool) (command : CommandName) :
    List String :=
  let (placed, options) := command.args.partition Arg.isPositional
  [if long then command.longAbout else command.about, "",
    usage [command.text] ("[OPTIONS]" :: placed.map Arg.helpValue)] ++
    helpSection "Arguments" (HelpEntry.layOut long (placed.map (Arg.helpEntry env long))) ++
    helpSection "Options" (HelpEntry.layOut long (options.map (Arg.helpEntry env long)))

/-- The help of the command that shows the help. -/
def helpHelp : List String :=
  [helpCommandAbout, "", usage [helpName] ["[COMMAND]..."]] ++
    helpSection "Arguments"
      (HelpEntry.layOut false
        [{ value := "[COMMAND]...", about := "Print help for the subcommand(s)" }])

/-- Lines as they are written. -/
def unlines (lines : List String) : String :=
  String.join (lines.map (· ++ "\n"))

/-- The text of the help that was asked for. -/
def helpText (env : String → Option String) (long : Bool) : Option CommandName → String
  | none => Text.strip (unlines (programHelp env long))
  | some command => Text.strip (unlines (command.help env long))

/-- The text of the help of the command that shows the help. -/
def helpHelpText : String :=
  Text.strip (unlines helpHelp)

end ImportCycles.CommandLine
