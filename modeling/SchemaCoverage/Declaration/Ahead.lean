import SchemaCoverage.Declaration.Number
import SchemaCoverage.Declaration.Token
/-!
Tests of the tokens ahead, by which a reader decides how to go on.
-/
namespace SchemaCoverage.Declaration

/-- A test of the tokens ahead. -/
abbrev Ahead := List Token → Bool

/-- Names that are no identifiers. -/
def keywords : List String := [
  "_", "abstract", "as", "async", "await", "become", "box", "break", "const", "continue", "crate",
  "do", "dyn", "else", "enum", "extern", "false", "final", "fn", "for", "if", "impl", "in", "let",
  "loop", "macro", "match", "mod", "move", "mut", "override", "priv", "pub", "ref", "return",
  "Self", "self", "static", "struct", "super", "trait", "true", "try", "type", "typeof", "unsafe",
  "unsized", "use", "virtual", "where", "while", "yield"]

namespace Ahead

/-- What follows the first token, or the first brackets with all between them. -/
def afterFirst : List Token → List Token
  | [] => []
  | .opening _ :: rest => (splitAtClosing 0 rest).2
  | _ :: rest => rest

/-- The test holds after the first token or brackets. -/
def second (test : Ahead) : Ahead := fun tokens => test (afterFirst tokens)

/-- The test holds after the first two tokens or brackets. -/
def third (test : Ahead) : Ahead := second (second test)

/-- No token is left. -/
def nothing : Ahead := List.isEmpty

/-- An operator, perhaps as the beginning of a longer one. -/
def mark (operator : String) : Ahead := spells operator.toList

/-- One of some operators. -/
def anyMark (operators : List String) : Ahead := fun tokens => operators.any (mark · tokens)

/-- A single colon. -/
def colon : Ahead := fun tokens => mark ":" tokens && !mark "::" tokens

/-- A single point. -/
def point : Ahead := fun tokens => mark "." tokens && !mark ".." tokens

/-- An equals sign that gives a value. -/
def assignment : Ahead := fun tokens => mark "=" tokens && !mark "=>" tokens

/-- An exclamation mark that belongs to the path before it. -/
def call : Ahead := fun tokens => mark "!" tokens && !mark "!=" tokens

/-- One of some names. -/
def name (names : List String) : Ahead
  | .name text :: _ => text ∈ names
  | _ => false

/-- Any name. -/
def anyName : Ahead
  | .name _ :: _ => true
  | _ => false

/-- An identifier. -/
def identifier : Ahead
  | .name text :: _ => text ∉ keywords
  | _ => false

/-- An identifier or an underscore. -/
def nameOrGap : Ahead := fun tokens =>
  identifier tokens || name ["_"] tokens

/-- A lifetime. -/
def lifetime : Ahead
  | .lifetime _ :: _ => true
  | _ => false

/-- Brackets of one kind. -/
def bracket (kind : Bracket) : Ahead
  | .opening found :: _ => found == kind
  | _ => false

/-- A number that is whole. -/
def wholeNumber : Ahead
  | .number written :: _ => !Number.isFraction written.toList
  | .mark '-' _ :: .number written :: _ => !Number.isFraction written.toList
  | _ => false

/-- A literal; a truth value is one, and so is a number after a minus sign. -/
def literal : Ahead
  | .text _ _ :: _ | .literal _ :: _ | .number _ :: _ | .mark '-' _ :: .number _ :: _ => true
  | tokens => name ["true", "false"] tokens

/-- The names that may begin a path although they are no identifiers. -/
def pathRoots : List String := ["self", "Self", "super", "crate"]

/-- A path that does not start from a type. -/
def path : Ahead := fun tokens =>
  identifier tokens || mark "::" tokens || name pathRoots tokens

/-- An attribute of what stands around it. -/
def innerAttribute : Ahead := fun tokens => mark "#" tokens && second (mark "!") tokens

/-- An opening angle that begins generic arguments. -/
def angle : Ahead := fun tokens => mark "<" tokens && !anyMark ["<=", "<<="] tokens

/-- Two colons and then what a test accepts. -/
def colonsBefore (test : Ahead) : Ahead := fun tokens => mark "::" tokens && third test tokens

end Ahead

end SchemaCoverage.Declaration
