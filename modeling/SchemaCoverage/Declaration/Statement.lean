import SchemaCoverage.Declaration.Definition
import SchemaCoverage.Declaration.Operation
/-!
Statements of a block: bindings, definitions, calls with an exclamation mark, and expressions. Where
a statement does not end with a semicolon or a block, it is the last one.
-/
namespace SchemaCoverage.Declaration.Statement

open SchemaCoverage.Declaration.Parser

/-- What follows the path without arguments that the tokens begin with; nothing if there is none. -/
def afterPath (tokens : List Token) : List Token :=
  match plainPath.run ⟨tokens, none⟩ with
  | .ok (_, rest) => rest.tokens
  | .error _ => []

/-- A call that defines a name begins here. -/
def namedCallFollows : Ahead := fun tokens =>
  let rest := afterPath tokens
  Ahead.mark "!" rest &&
    Ahead.second (fun rest => Ahead.identifier rest || Ahead.name ["try"] rest) rest

/-- A call in curly braces with which no expression goes on begins here. -/
def bracedCallFollows : Ahead := fun tokens =>
  let rest := afterPath tokens
  Ahead.mark "!" rest && Ahead.second (.bracket .curly) rest &&
    !Ahead.third (fun rest => Ahead.point rest || Ahead.mark "?" rest) rest

/-- A static value is defined here, where a closure may begin with the same word. -/
def staticFollows : Ahead := fun tokens =>
  Ahead.name ["static"] tokens &&
    Ahead.second (fun rest => Ahead.name ["mut"] rest || Ahead.identifier rest) tokens

/-- A function that waits is defined here, where a block or a closure may begin with the same
word. -/
def asyncFunctionFollows : Ahead := fun tokens =>
  Ahead.name ["async"] tokens && Ahead.second (.name ["unsafe", "extern", "fn"]) tokens

/-- A constant or a constant function is defined here, where a block or a closure may begin with the
same word. -/
def constFollows : Ahead := fun tokens =>
  Ahead.name ["const"] tokens && !Ahead.second (fun rest =>
    Ahead.bracket .curly rest || Ahead.name ["static", "move"] rest || Ahead.mark "|" rest ||
      (Ahead.name ["async"] rest && !asyncFunctionFollows rest)) tokens

/-- A definition begins here. -/
def definitionFollows : Ahead := fun tokens =>
  Ahead.name ["pub", "extern", "use", "fn", "mod", "type", "struct", "enum", "trait", "impl",
    "macro"] tokens ||
    (Ahead.name ["crate"] tokens && !Ahead.second (.mark "::") tokens) ||
    (Ahead.name ["unsafe"] tokens && !Ahead.second (.bracket .curly) tokens) ||
    (Ahead.name ["union"] tokens && Ahead.second .identifier tokens) ||
    (Ahead.name ["auto"] tokens && Ahead.second (.name ["trait"]) tokens) ||
    (Ahead.name ["default"] tokens && Ahead.second (.name ["unsafe", "impl"]) tokens) ||
    staticFollows tokens || constFollows tokens || asyncFunctionFollows tokens ||
    namedCallFollows tokens

/-- Reads a call in curly braces. -/
def bracedCall : Parser (List String) := do
  let (leading, segments) ← plainPath
  mark "!"
  let (_, inner) ← anyGroup
  return plainPathWords leading segments ++ "!" :: inner ++ (← optionalMark ";")

/-- Reads what happens where a pattern does not match. Nothing does after a value that ends with a
curly brace. -/
def otherwise (g : Grammar) (value : Expression) : Parser (List String) := do
  let isClosed := value.words.getLast? == some Bracket.curly.words.2
  if !isClosed && (← peek (.name ["else"])) then
    skip 1
    return "else" :: (← g.block)
  else return []

/-- Reads a binding of a pattern to a value. -/
def binding (g : Grammar) : Parser (List String) := do
  keyword "let"
  let pattern ← Pattern.read g
  let type ← if ← acceptMark ":" then pure (":" :: (← g.type true).words) else pure []
  let value ←
    if ← acceptMark "=" then do
      let value ← Expression.read g true
      pure ("=" :: value.words ++ (← otherwise g value))
    else pure []
  mark ";"
  return "let" :: pattern.words ++ type ++ value ++ [";"]

/-- Reads an expression, and tells whether another statement may follow it. -/
def expression (g : Grammar) (attributes : List String) : Parser (List String × Bool) := do
  let expression := (← Expression.body g).withAttributes attributes
  if ← acceptMark ";" then return (expression.words ++ [";"], true)
  else return (expression.words, expression.kind == .block || expression.kind == .call true)

/-- Reads a statement, and tells whether another one may follow. -/
def read (g : Grammar) : Parser (List String × Bool) := do
  let start ← ahead
  let attributes ← Attribute.outer g
  let tokens ← ahead
  if bracedCallFollows tokens then return (attributes ++ (← bracedCall), true)
  else if Ahead.name ["let"] tokens then return (attributes ++ (← binding g), true)
  else if definitionFollows tokens then return (← Definition.rest g start attributes, true)
  else expression g attributes

/-- Reads a semicolon that stands alone, or a statement. -/
def part (g : Grammar) : Parser (List String) := do
  if ← acceptMark ";" then return [";"]
  let (words, isClosed) ← read g
  let isLast ← peek .nothing
  unless isClosed || isLast do throw (.unexpected "token, expected `;`")
  return words

/-- Reads statements to the end of the tokens. -/
def list (g : Grammar) : Parser (List String) :=
  return (← whileMore (!·.isEmpty) (part g)).flatten

end SchemaCoverage.Declaration.Statement
