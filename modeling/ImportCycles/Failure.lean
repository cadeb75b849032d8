import ImportCycles.Error
import ImportCycles.Text.Wrap

/-! # Failures of commands

A command that fails tells what it was doing, from the outside in, and what went wrong. The chain is
filled into lines of a terminal's usual width.
-/

namespace ImportCycles

/-- What went wrong in the end. -/
inductive Cause where
  | error (reason : Error)
  /-- The file for the output cannot be created. -/
  | output (path : String) (failure : FileFailure)
  deriving DecidableEq, Repr

/-- Why a command failed. -/
structure Failure where
  /-- What it was doing, outermost first. -/
  contexts : List String := []
  cause : Cause
  deriving DecidableEq, Repr

namespace Cause

/-- What went wrong, and what lies behind it. -/
def messages : Cause → List String
  | .error reason => reason.message :: reason.cause?.toList
  | .output path failure => ["Failed to create output file '" ++ path ++ "'", failure.message]

/-- The error with a code and advice, if it is one. -/
def error? : Cause → Option Error
  | .error reason => some reason
  | .output .. => none

end Cause

namespace Failure

/-- The width of the lines, of which a terminal of 80 columns leaves two free. -/
def lineWidth : Nat := 78

/-- A message after its mark; `other` stands in front of its further lines. -/
def marked (mark other : String) (message : String) : List String :=
  Text.hang mark other (lineWidth - mark.length) message

/-- The messages behind the first one. A line leads on to the next, and the last one ends it. -/
def causeLines : List String → List String
  | [] => []
  | [last] => marked "  ╰─▶ " "      " last
  | message :: rest => marked "  ├─▶ " "  │   " message ++ causeLines rest

/-- The chain of messages. -/
def chainLines : List String → List String
  | [] => []
  | message :: rest => marked "  × " "  │ " message ++ causeLines rest

/-- The lines that tell the failure. -/
def lines (failure : Failure) : List String :=
  let chain := chainLines (failure.contexts ++ failure.cause.messages)
  match failure.cause.error? with
  | none => chain
  | some error =>
    [error.code, ""] ++ chain ++ (error.snippet?.map (Snippet.draw false)).getD [] ++
      marked "  help: " "        " error.help

/-- The failure as it is written, with an empty line after it. -/
def report (failure : Failure) : String :=
  "Error: " ++ String.join (failure.lines.map (· ++ "\n")) ++ "\n"

end Failure

end ImportCycles
