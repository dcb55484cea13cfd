import SchemaCoverage.Sdl.Document
import SchemaCoverage.Sdl.Lexer
/-!
Reading documents of the schema definition language. Descriptions, directives and default values
are read and dropped; of a text that is no document nothing is read.
-/
namespace SchemaCoverage.Sdl

/-- Reads from the front of the tokens, or fails. -/
abbrev Parser := StateT (List Lexeme) Option

namespace Parser

/-- The next token. -/
def peek? : Parser (Option Token) :=
  return (← get).head?.map Lexeme.token

/-- The place of the next token. -/
def position : Parser Position := do
  match ← get with
  | [] => failure
  | lexeme :: _ => return lexeme.position

/-- Takes the next token. -/
def next : Parser Token := do
  match ← get with
  | [] => failure
  | lexeme :: rest =>
      set rest
      return lexeme.token

/-- Takes the given token. -/
def expect (token : Token) : Parser Unit := do
  if (← next) = token then return () else failure

/-- Takes the given token if it is next, and tells whether it was. -/
def accept (token : Token) : Parser Bool := do
  if (← peek?) = some token then
    let _ ← next
    return true
  else return false

/-- Takes a name. -/
def name : Parser String := do
  match ← next with
  | .name text => return text
  | _ => failure

/-- Reads items as long as the next token may start one. An item that takes no token fails. -/
def whileStarts {α : Type} (starts : Token → Bool) (item : Parser α) : Parser (List α) :=
  fun lexemes =>
    match lexemes with
    | [] => some ([], [])
    | lexeme :: tail =>
        if starts lexeme.token then
          match item (lexeme :: tail) with
          | none => none
          | some (first, rest) =>
              if rest.length ≤ tail.length then
                match whileStarts starts item rest with
                | none => none
                | some (others, rest) => some (first :: others, rest)
              else none
        else some ([], lexeme :: tail)
termination_by lexemes => lexemes.length

/-- Reads items between brackets, of which the opening one is already taken. -/
def itemsUntil {α : Type} (close : Char) (item : Parser α) : Parser (List α) := do
  let items ← whileStarts (· != .punct close) item
  expect (.punct close)
  return items

/-- Reads items between brackets, at least one. -/
def someItemsUntil {α : Type} (close : Char) (item : Parser α) : Parser (List α) := do
  let items ← itemsUntil close item
  if items.isEmpty then failure else return items

/-- Reads one item and then all that follow after a separating mark each. -/
def separated {α : Type} (mark : Char) (item : Parser α) : Parser (List α) := do
  let first ← item
  let others ← whileStarts (· == .punct mark) do
    expect (.punct mark)
    item
  return first :: others

/-- Goes over a description, if there is one. -/
def description : Parser Unit := do
  let _ ← accept .string

/-- Goes over a value whose brackets nest to a limited depth. Variables may be ruled out. -/
def value (allowed : Bool) (depth : Nat) : Parser Unit := do
  match ← next with
  | .name _ | .number | .string => return ()
  | .punct '$' => if allowed then discard name else failure
  | .punct '[' =>
      match depth with
      | 0 => failure
      | depth + 1 => discard (itemsUntil ']' (value allowed depth))
  | .punct '{' =>
      match depth with
      | 0 => failure
      | depth + 1 => discard (itemsUntil '}' do
          discard name
          expect (.punct ':')
          value allowed depth)
  | _ => failure

/-- Goes over directives and tells whether there were any. -/
def directives : Parser Bool := do
  let found ← whileStarts (· == .punct '@') do
    expect (.punct '@')
    discard name
    if ← accept (.punct '(') then
      discard (someItemsUntil ')' do
        discard name
        expect (.punct ':')
        value true maxOpenBrackets)
  return !found.isEmpty

/-- Reads a type whose brackets nest to a limited depth. -/
def typeExpr (depth : Nat) : Parser TypeExpr := do
  match ← next with
  | .name text => return .named text (← accept (.punct '!'))
  | .punct '[' =>
      match depth with
      | 0 => failure
      | depth + 1 =>
          let inner ← typeExpr depth
          expect (.punct ']')
          return .list inner (← accept (.punct '!'))
  | _ => failure

/-- Reads an argument or input field; it stands at its description if it has one. -/
def inputValue : Parser InputValue := do
  let position ← position
  description
  let name ← name
  expect (.punct ':')
  let type ← typeExpr maxOpenBrackets
  if ← accept (.punct '=') then value false maxOpenBrackets
  discard directives
  return { name, type, position }

/-- Reads arguments in parentheses, if there are any. -/
def arguments : Parser (List InputValue) := do
  if ← accept (.punct '(') then someItemsUntil ')' inputValue else return []

/-- Reads a field; it stands at its description if it has one. -/
def field : Parser FieldDef := do
  let position ← position
  description
  let name ← name
  let arguments ← arguments
  expect (.punct ':')
  let type ← typeExpr maxOpenBrackets
  discard directives
  return { name, arguments, type, position }

/-- Reads what an object or interface says: interfaces, directives and fields. The flag tells
whether there were directives. -/
def composite : Parser (List String × Bool × List FieldDef) := do
  let interfaces ←
    if ← accept (.name "implements") then
      discard (accept (.punct '&'))
      separated '&' name
    else pure []
  let directed ← directives
  let fields ← if ← accept (.punct '{') then someItemsUntil '}' field else pure []
  return (interfaces, directed, fields)

/-- Reads the members of a union after an equality sign, if there are any. -/
def unionMembers : Parser (List String) := do
  if ← accept (.punct '=') then
    discard (accept (.punct '|'))
    separated '|' name
  else return []

/-- Reads the values of an enum in braces, if there are any. -/
def enumValues : Parser (List String) := do
  if ← accept (.punct '{') then
    someItemsUntil '}' do
      description
      let value ← name
      discard directives
      return value
  else return []

/-- Reads the fields of an input type in braces, if there are any. -/
def inputFields : Parser (List InputValue) := do
  if ← accept (.punct '{') then someItemsUntil '}' inputValue else return []

/-- Reads a type form from its keyword on. The flag tells whether the form says anything, as an
extension must; of an interface the interfaces alone say nothing. -/
def typeForm : Parser (TypeDef × Bool) := do
  let position ← position
  let keyword ← name
  match keyword with
  | "scalar" =>
      let name ← name
      let directed ← directives
      return ({ name, body := .scalar, position }, directed)
  | "type" =>
      let name ← name
      let (interfaces, directed, fields) ← composite
      return ({ name, body := .object interfaces fields, position },
        directed || !interfaces.isEmpty || !fields.isEmpty)
  | "interface" =>
      let name ← name
      let (interfaces, directed, fields) ← composite
      return ({ name, body := .interface interfaces fields, position },
        directed || !fields.isEmpty)
  | "union" =>
      let name ← name
      let directed ← directives
      let members ← unionMembers
      return ({ name, body := .union members, position }, directed || !members.isEmpty)
  | "enum" =>
      let name ← name
      let directed ← directives
      let values ← enumValues
      return ({ name, body := .enum values, position }, directed || !values.isEmpty)
  | "input" =>
      let name ← name
      let directed ← directives
      let fields ← inputFields
      return ({ name, body := .input fields, position }, directed || !fields.isEmpty)
  | _ => failure

/-- Where a directive may stand. -/
def directiveLocations : List String :=
  ["QUERY", "MUTATION", "SUBSCRIPTION", "FIELD", "FRAGMENT_DEFINITION", "FRAGMENT_SPREAD",
    "INLINE_FRAGMENT", "VARIABLE_DEFINITION", "SCHEMA", "SCALAR", "OBJECT", "FIELD_DEFINITION",
    "ARGUMENT_DEFINITION", "INTERFACE", "UNION", "ENUM", "ENUM_VALUE", "INPUT_OBJECT",
    "INPUT_FIELD_DEFINITION"]

/-- Takes the name of a place where directives may stand. -/
def directiveLocation : Parser Unit := do
  if (← name) ∈ directiveLocations then return () else failure

/-- Goes over a directive definition from its keyword on. The places may be left out, but a name
in their stead must be one of them. -/
def directiveDefinition : Parser Unit := do
  expect (.name "directive")
  expect (.punct '@')
  discard name
  discard arguments
  discard (accept (.name "repeatable"))
  expect (.name "on")
  if ← accept (.punct '|') then discard (separated '|' directiveLocation)
  else
    match ← peek? with
    | some (.name _) => discard (separated '|' directiveLocation)
    | _ => return ()

/-- Stores a root type in a schema block; each kind of root may be named once. -/
def rootType (block : SchemaBlock) : String × String → Option SchemaBlock
  | ("query", type) => if block.query.isSome then none else some { block with query := some type }
  | ("mutation", type) =>
      if block.mutation.isSome then none else some { block with mutation := some type }
  | ("subscription", type) =>
      if block.subscription.isSome then none else some { block with subscription := some type }
  | _ => none

/-- Reads a schema block from its keyword on. -/
def schemaBlock : Parser SchemaBlock := do
  let position ← position
  expect (.name "schema")
  discard directives
  expect (.punct '{')
  let roots ← itemsUntil '}' do
    let kind ← name
    expect (.punct ':')
    let type ← name
    return (kind, type)
  match roots.foldlM rootType ⟨none, none, none, position⟩ with
  | some block => return block
  | none => failure

/-- Reads one definition. Only types and directives may have a description. -/
def definition : Parser Definition := do
  match ← peek? with
  | some (.name "schema") => return .schema (← schemaBlock)
  | some (.name "extend") =>
      discard next
      let (form, meaningful) ← typeForm
      if meaningful then return .extension form else failure
  | _ =>
      description
      if (← peek?) = some (.name "directive") then
        directiveDefinition
        return .directive
      else
        let (form, _) ← typeForm
        return .type form

end Parser

/-- The definitions of a text; a document has at least one. -/
def parseDocument (text : String) : Option Document := do
  let lexemes ← lex text
  let (document, rest) ← Parser.whileStarts (fun _ => true) Parser.definition lexemes
  if rest.isEmpty && !document.isEmpty then some document else none

end SchemaCoverage.Sdl
