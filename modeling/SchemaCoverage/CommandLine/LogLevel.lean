import SchemaCoverage.Text.CodePoints
/-!
Log levels, as they are written in a setting of the environment.
-/
namespace SchemaCoverage.CommandLine

/-- How much is logged. -/
inductive LogLevel
  | debug
  | info
  | trace
  | warn
deriving Repr, DecidableEq

namespace LogLevel

/-- The name of a level. -/
def name : LogLevel → String
  | .debug => "DEBUG"
  | .info => "INFO"
  | .trace => "TRACE"
  | .warn => "WARN"

/-- The level of a written name, in letters of any case and with blanks around it. One level has
a second name. -/
def parse? (text : String) : Option LogLevel :=
  match String.ofList ((Text.trimBlank text.toList).map Char.toUpper) with
  | "DEBUG" | "VERBOSE" => some .debug
  | "INFO" => some .info
  | "TRACE" => some .trace
  | "WARN" => some .warn
  | _ => none

end LogLevel

end SchemaCoverage.CommandLine
