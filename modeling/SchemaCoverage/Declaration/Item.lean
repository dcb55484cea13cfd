import SchemaCoverage.Declaration.Nesting
/-!
Declarations of types: a name with attributes, and the fields or variants of the type.
-/
namespace SchemaCoverage.Declaration

/-- The declaration of a type. -/
structure Item where
  attributes : List Attribute
  name : String
  isGeneric : Bool
  content : Content
deriving Repr

namespace Item

open SchemaCoverage.Declaration.Parser

/-- What is declared after a keyword. -/
def contentAfter (g : Grammar) : String → Option (Parser (Content × List String))
  | "struct" => some (structContent g)
  | "enum" => some (enumContent g)
  | "union" => some (unionContent g)
  | _ => none

/-- Takes the keyword of a declaration, which tells what is declared. -/
def kind (g : Grammar) : Parser (Parser (Content × List String)) := do
  match ← ahead with
  | .name text :: _ =>
      match contentAfter g text with
      | some content =>
          skip 1
          return content
      | none => failExpectingOne ["`struct`", "`enum`", "`union`"]
  | _ => failExpectingOne ["`struct`", "`enum`", "`union`"]

/-- Reads a declaration. -/
def read (g : Grammar) : Parser Item := do
  let attributes ← Attribute.list g
  let _ ← visibility
  let content ← kind g
  let name ← identifier
  let generics ← Generics.read g
  let (content, _) ← content
  return { attributes, name, isGeneric := !generics.isEmpty, content }

/-- Reads a declaration from its source text. -/
def parse? (source : String) : Option Item :=
  Grammar.parse? read source

end Item

end SchemaCoverage.Declaration
