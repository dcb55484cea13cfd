import SchemaCoverage.Declaration.Phrase
/-!
Attributes: a path in square brackets after a hash sign, with nothing, a value or tokens in brackets
after it.
-/
namespace SchemaCoverage.Declaration

/-- How an attribute goes on after its path. -/
inductive AttributeForm
  /-- Nothing follows. -/
  | bare
  /-- An equals sign and a value follow. -/
  | assigned
  /-- Some tokens follow in brackets. -/
  | listed (tokens : List Token)
deriving Repr

/-- An attribute; its name is its path if that is a single segment. -/
structure Attribute where
  name : Option String
  form : AttributeForm
  words : List String
deriving Repr

namespace Attribute

open SchemaCoverage.Declaration.Parser

/-- Reads the path of an attribute. -/
def path : Parser (Bool × List String) := do
  if ← acceptName "unsafe" then return (false, ["unsafe"]) else plainPath

/-- Reads what stands between the square brackets of an attribute. -/
def content (g : Grammar) : Parser Attribute := do
  let (leading, segments) ← path
  let words := plainPathWords leading segments
  let name :=
    match leading, segments with
    | false, [name] => some name
    | _, _ => none
  match ← ahead with
  | .opening bracket :: _ =>
      let inner ← group bracket
      return ⟨name, .listed inner, words ++ bracket.around (rawWords inner)⟩
  | tokens =>
      if Ahead.assignment tokens && !Ahead.mark "==" tokens then
        mark "="
        if ← peek fun tokens => Ahead.mark "#" tokens && Ahead.second (.bracket .square) tokens then
          reject .attributeInAttribute
        return ⟨name, .assigned, words ++ "=" :: (← g.expression true).words⟩
      else return ⟨name, .bare, words⟩

/-- Reads an attribute with the words that begin it. -/
def one (g : Grammar) (start : List String) : Parser Attribute := do
  start.forM mark
  let read ← inBrackets .square (content g)
  return { read with words := start ++ Bracket.square.around read.words }

/-- Reads attributes as long as there are any. -/
def list (g : Grammar) : Parser (List Attribute) :=
  whileMore (.mark "#") (one g ["#"])

/-- The words of attributes, as long as there are any. -/
def outer (g : Grammar) : Parser (List String) :=
  return (← list g).flatMap (·.words)

/-- The words of attributes that belong to what stands around them. -/
def inner (g : Grammar) : Parser (List String) :=
  return (← whileMore .innerAttribute (one g ["#", "!"])).flatMap (·.words)

/-- The words of something in curly braces, with the attributes that belong to it. -/
def enclosing (g : Grammar) (item : Parser (List String)) : Parser (List String) :=
  enclosed .curly do
    let attributes ← inner g
    return attributes ++ (← item)

/-- The words of a block, which may have attributes of its own. -/
def block (g : Grammar) : Parser (List String) :=
  enclosing g g.statements

end Attribute

end SchemaCoverage.Declaration
