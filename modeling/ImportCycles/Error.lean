import ImportCycles.Disk
import ImportCycles.Glob
import ImportCycles.Snippet
import ImportCycles.Toml.Excerpt

/-! # Errors

What can keep a command from doing its work, and the words, the code and the advice that go with it.
-/

namespace ImportCycles

/-- Why settings cannot be used. -/
inductive Misconfiguration where
  | zeroDepth
  | noExtensions
  /-- A pattern of files to leave out cannot be read. -/
  | badExclude (pattern : String) (fault : Glob.Fault)
  /-- A field of a configuration was never set. -/
  | missingField (name : String)
  /-- A command was given to the configuration of another one. -/
  | wrongCommand (wanted : String)
  /-- Any other reason, in words. -/
  | other (reason : String)
  deriving DecidableEq, Repr

/-- The reason in words. -/
def Misconfiguration.message : Misconfiguration → String
  | .zeroDepth => "depth_limit must be greater than zero"
  | .noExtensions => "at least one source extension is required"
  | .badExclude pattern fault => "Invalid exclude pattern '" ++ pattern ++ "': " ++ fault.message
  | .missingField name => "Missing required field: " ++ name
  | .wrongCommand wanted => "Invalid command type for " ++ wanted
  | .other reason => reason

/-- What can go wrong. -/
inductive Error where
  | fileRead (path : String) (failure : FileFailure)
  /-- A configuration file with the given name and text cannot be used. -/
  | configParse (name source : String) (fault : Toml.Fault)
  | configuration (cause : Misconfiguration)
  /-- A value cannot be written as JSON. -/
  | json
  /-- A text cannot be put together. -/
  | format
  /-- Output is not taken. -/
  | io
  deriving DecidableEq, Repr

namespace Error

/-- The error in words. -/
def message : Error → String
  | .fileRead path _ => "Failed to read file '" ++ path ++ "'"
  | .configParse name .. => "Invalid configuration file '" ++ name ++ "'"
  | .configuration cause => "Configuration error: " ++ cause.message
  | .json => "JSON serialization error"
  | .format => "String formatting error"
  | .io => "IO error"

/-- The code by which the error is known. -/
def code : Error → String
  | .fileRead .. => "loop_de_loop::io_error"
  | .configParse .. => "loop_de_loop::config_parse_error"
  | .configuration _ => "loop_de_loop::config_error"
  | .json => "loop_de_loop::json_error"
  | .format => "loop_de_loop::fmt_error"
  | .io => "loop_de_loop::io_error"

/-- What to do about the error. -/
def help : Error → String
  | .fileRead .. => "Check if the file exists and you have read permissions"
  | .configParse .. => "Check the TOML syntax and key names near the highlighted position"
  | .configuration _ => "Check your command arguments and configuration"
  | .json => "This is likely an internal error - please report it"
  | .format => "This is likely an internal error - please report it"
  | .io => "Check file permissions and disk space"

/-- What lies behind the error, in words. -/
def cause? : Error → Option String
  | .fileRead _ failure => some failure.message
  | .configParse _ source fault => some (fault.excerpt source)
  | _ => none

/-- The place of the error, if it is in a file. -/
def snippet? : Error → Option Snippet
  | .configParse name source fault =>
    fault.span.map fun span => ⟨name, source, span.offset, span.length, "problem here"⟩
  | _ => none

end Error

end ImportCycles
