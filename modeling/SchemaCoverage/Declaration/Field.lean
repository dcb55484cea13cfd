import SchemaCoverage.Declaration.TypeExpr
/-!
The fields and the variants of declared types.
-/
namespace SchemaCoverage.Declaration

/-- A field with a name. -/
structure NamedField where
  attributes : List Attribute
  name : String
  type : TypeExpr
  words : List String
deriving Repr

/-- A field without a name. -/
structure UnnamedField where
  type : TypeExpr
  words : List String
deriving Repr

/-- What a variant holds. -/
inductive VariantContent
  | nothing
  | values (types : List TypeExpr)
  | fields
deriving Repr

/-- A variant. -/
structure Variant where
  content : VariantContent
  words : List String
deriving Repr

/-- The content of a declared type. -/
inductive Content
  | record (fields : List NamedField)
  | empty
  | tuple
  | choice (variants : List VariantContent)
  | union
deriving Repr

namespace Parser

/-- Takes the brackets that restrict a visibility: to a module that they name, or to a path. -/
def restriction : Parser (List String) := do
  let inner ← group .round
  if Ahead.name ["in"] inner then
    let (words, unread) ← inside inner do
      skip 1
      let (leading, segments) ← plainPath
      return "in" :: plainPathWords leading segments
    noteLeftover .round unread
    return Bracket.round.around words
  else return Bracket.round.around (rawWords inner)

/-- Brackets that restrict a visibility follow; others belong to what is visible. -/
def restrictionFollows : Ahead
  | .opening .round :: tokens =>
      Ahead.name ["in"] tokens ||
        (Ahead.name ["crate", "self", "super"] tokens && tokens[1]? == some (.closing .round))
  | _ => false

/-- Reads a visibility, if there is one. -/
def visibility : Parser (List String) := do
  if ← acceptName "pub" then
    let restricted ← if ← peek restrictionFollows then restriction else pure []
    return "pub" :: restricted
  else return []

/-- The words of parts with commas after those that one follows. -/
def partWords {α : Type} (words : α → List String) (parts : List (α × Bool)) : List String :=
  separatedWords "," (parts.map fun (part, comma) => (words part, comma))

/-- Fields stand in the place of the type of a field. -/
def looseFieldsFollow : Ahead := fun tokens =>
  Ahead.name ["struct"] tokens ||
    (Ahead.name ["union"] tokens && Ahead.second (.bracket .curly) tokens)

/-- Reads the type of a field. Where the field has no name, fields may stand in its place, whose
tokens are kept as they are written. -/
def fieldType (g : Grammar) (isNameless : Bool) : Parser TypeExpr := do
  let start ← ahead
  if isNameless && looseFieldsFollow start then
    skip 1
    discard g.fields
    return ⟨← rawSince start, .other, .other⟩
  else g.type true

/-- Reads a field with a name. -/
def namedField (g : Grammar) : Parser NamedField := do
  let attributes ← Attribute.list g
  let visibility ← visibility
  let isNameless ← peek (.name ["_"])
  let name ← if isNameless then anyName else identifier
  mark ":"
  let type ← fieldType g isNameless
  let words := attributes.flatMap (·.words) ++ visibility ++ name :: ":" :: type.words
  return { attributes, name, type, words }

/-- Reads a field without a name. -/
def unnamedField (g : Grammar) : Parser UnnamedField := do
  let attributes ← Attribute.outer g
  let visibility ← visibility
  let type ← g.type true
  return { type, words := attributes ++ visibility ++ type.words }

/-- Reads fields with names in curly braces. -/
def namedFields (g : Grammar) : Parser (List NamedField × List String) := do
  let fields ← inBrackets .curly (commaList (namedField g))
  return (fields.map Prod.fst, Bracket.curly.around (partWords (·.words) fields))

/-- Reads fields without names in parentheses. -/
def unnamedFields (g : Grammar) : Parser (List TypeExpr × List String) := do
  let fields ← inBrackets .round (commaList (unnamedField g))
  return (fields.map (·.1.type), Bracket.round.around (partWords (·.words) fields))

/-- Reads what a variant holds. -/
def variantContent (g : Grammar) : Parser (VariantContent × List String) := do
  if ← peek (.bracket .curly) then return (.fields, (← namedFields g).2)
  else if ← peek (.bracket .round) then
    let (types, words) ← unnamedFields g
    return (.values types, words)
  else return (.nothing, [])

/-- Reads a variant, which may be given a value. Its visibility is not kept. -/
def variant (g : Grammar) : Parser Variant := do
  let attributes ← Attribute.outer g
  let _ ← visibility
  let name ← identifier
  let (content, inner) ← variantContent g
  let value ← if ← acceptMark "=" then pure ("=" :: (← g.expression true).words) else pure []
  return { content, words := attributes ++ name :: inner ++ value }

/-- Reads the content of a type with fields, with the conditions on its parameters. -/
def structContent (g : Grammar) : Parser (Content × List String) := do
  let conditions ← Generics.conditions? g
  let tokens ← ahead
  if conditions.isNone && Ahead.bracket .round tokens then
    let (_, words) ← unnamedFields g
    let conditions ← Generics.conditions? g
    unless ← acceptMark ";" do
      failExpectingOne (if conditions.isNone then ["`where`", "`;`"] else ["`;`"])
    return (.tuple, words ++ conditions.getD [] ++ [";"])
  else if Ahead.bracket .curly tokens then
    let (fields, words) ← namedFields g
    return (.record fields, conditions.getD [] ++ words)
  else if ← acceptMark ";" then return (.empty, conditions.getD [] ++ [";"])
  else
    let round := if conditions.isNone then ["`where`", "parentheses"] else []
    failExpectingOne (round ++ ["curly braces", "`;`"])

/-- Reads the content of a type of variants, with the conditions on its parameters. -/
def enumContent (g : Grammar) : Parser (Content × List String) := do
  let conditions ← Generics.conditions g
  let variants ← inBrackets .curly (commaList (variant g))
  return (.choice (variants.map (·.1.content)),
    conditions ++ Bracket.curly.around (partWords (·.words) variants))

/-- Reads the content of a type whose fields share one place. -/
def unionContent (g : Grammar) : Parser (Content × List String) := do
  let conditions ← Generics.conditions g
  return (.union, conditions ++ (← namedFields g).2)

end Parser

end SchemaCoverage.Declaration
