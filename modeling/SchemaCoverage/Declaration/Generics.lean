import SchemaCoverage.Declaration.Path
/-!
Generic parameters, the parameters that a bound binds, and conditions on types.
-/
namespace SchemaCoverage.Declaration

/-- Generic parameters as read. -/
structure Generics where
  words : List String := []
  /-- There are angles, though perhaps nothing between them. -/
  hasAngles : Bool := false
deriving Repr

namespace Generics

open SchemaCoverage.Declaration.Parser

/-- There is no parameter. -/
def isEmpty (generics : Generics) : Bool :=
  generics.words.isEmpty

/-- Words after a colon, which goes if there are none. -/
def afterColon (words : List String) : List String :=
  if words.isEmpty then [] else ":" :: words

/-- Reads a lifetime as a parameter. -/
def lifetimeParameter : Parser (List String) := do
  let name ← lifetime
  if ← acceptMark ":" then
    let stop : Ahead := fun tokens => tokens.isEmpty || Ahead.anyMark [",", ">"] tokens
    let bounds ←
      if ← peek stop then pure [] else linkedWords "+" (!stop ·) (return [← lifetime])
    return name :: afterColon bounds
  else return [name]

/-- Reads a type as a parameter. -/
def typeParameter (g : Grammar) : Parser (List String) := do
  let name ← identifier
  let bounds ← if ← acceptMark ":" then g.bounds (.anyMark [",", ">", "="]) else pure []
  let standard ← if ← acceptMark "=" then pure ("=" :: (← g.type true).words) else pure []
  return name :: afterColon bounds ++ standard

/-- Reads a constant as a parameter. -/
def constParameter (g : Grammar) : Parser (List String) := do
  keyword "const"
  let name ← identifier
  mark ":"
  let type ← g.type true
  let standard ← if ← acceptMark "=" then pure ("=" :: (← Path.constant g)) else pure []
  return "const" :: name :: ":" :: type.words ++ standard

/-- Reads a parameter that a bound binds. -/
def boundParameter (g : Grammar) : Parser (List String) := do
  let attributes ← Attribute.outer g
  let tokens ← ahead
  let words ←
    if Ahead.identifier tokens then typeParameter g
    else if Ahead.lifetime tokens then lifetimeParameter
    else if Ahead.name ["const"] tokens then constParameter g
    else failExpectingOne ["identifier", "lifetime", "`const`"]
  return attributes ++ words

/-- Reads the parameters that a bound binds, if it binds any. -/
def binder (g : Grammar) : Parser (List String) := do
  if ← acceptName "for" then
    mark "<"
    let parameters ← separated "," (.mark ">") (boundParameter g)
    mark ">"
    return "for" :: "<" :: separatedWords "," parameters ++ [">"]
  else return []

/-- Reads a parameter of a declaration, and tells whether it is a lifetime. -/
def parameter (g : Grammar) : Parser (List String × Bool) := do
  let attributes ← Attribute.outer g
  let tokens ← ahead
  let words ←
    if Ahead.lifetime tokens then lifetimeParameter
    else if Ahead.identifier tokens then typeParameter g
    else if Ahead.name ["const"] tokens then constParameter g
    else if Ahead.name ["_"] tokens then pure [← anyName]
    else failExpectingOne ["lifetime", "identifier", "`const`"]
  return (attributes ++ words, Ahead.lifetime tokens)

/-- Reads the parameters of a declaration, if there are any. -/
def read (g : Grammar) : Parser Generics := do
  if ← acceptMark "<" then
    let parameters ← separated "," (.mark ">") (parameter g)
    mark ">"
    let words (isLifetime : Bool) :=
      (parameters.filter (·.1.2 == isLifetime)).map fun ((words, _), comma) => (words, comma)
    let words :=
      if parameters.isEmpty then []
      else "<" :: Path.sortedWords (words true) (words false) ++ [">"]
    return { words, hasAngles := true }
  else return {}

/-- Generic parameters begin here, and no path that starts from a type. -/
def begins : Ahead := fun tokens =>
  Ahead.mark "<" tokens &&
    (Ahead.second (.anyMark [">", "#"]) tokens || Ahead.second (.name ["const"]) tokens ||
      (Ahead.second (fun rest => Ahead.lifetime rest || Ahead.identifier rest) tokens &&
        Ahead.third (fun rest => Ahead.anyMark [">", ",", "="] rest || Ahead.colon rest) tokens))

/-- Conditions end here. -/
def conditionsEnd : Ahead := fun tokens =>
  tokens.isEmpty || Ahead.bracket .curly tokens || Ahead.anyMark [",", ";", "="] tokens ||
    Ahead.colon tokens

/-- Reads one condition on a lifetime or a type. -/
def condition (g : Grammar) : Parser (List String) := do
  if ← peek fun tokens => Ahead.lifetime tokens && Ahead.second (.mark ":") tokens then
    let name ← lifetime
    mark ":"
    let stop : Ahead := fun tokens => conditionsEnd tokens || Ahead.mark ":" tokens
    let bounds ←
      if ← peek stop then pure [] else linkedWords "+" (!stop ·) (return [← lifetime])
    return name :: ":" :: bounds
  else
    let binder ← binder g
    let type ← g.type true
    mark ":"
    return binder ++ type.words ++ ":" :: (← g.bounds conditionsEnd)

/-- Reads conditions on types, if the word that begins them is next. -/
def conditions? (g : Grammar) : Parser (Option (List String)) := do
  if ← acceptName "where" then
    if ← peek begins then reject .genericConditions
    if ← peek conditionsEnd then return some []
    return some ("where" :: (← linkedWords "," (!conditionsEnd ·) (condition g)))
  else return none

/-- The words of conditions on types, if there are any. -/
def conditions (g : Grammar) : Parser (List String) :=
  return (← conditions? g).getD []

end Generics

end SchemaCoverage.Declaration
