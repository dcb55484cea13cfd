import SchemaCoverage.Declaration.Attribute
/-!
Paths: segments with colons between them, which may have generic arguments and may start from a
type between angles.
-/
namespace SchemaCoverage.Declaration

/-- A path as read: its words, the names of its segments, and the types among the arguments of the
last one. -/
structure Path where
  words : List String
  segments : List String
  types : List Shape := []
  /-- The words of the arguments of the last segment, if it has angles. -/
  angles : List String := []
  /-- The last segment has arguments. -/
  hasArguments : Bool := false
  /-- No segment has angles. -/
  isPlain : Bool := true
  /-- It starts from a type between angles. -/
  isQualified : Bool := false
deriving Repr

/-- A path of one name. -/
def Path.ofName (name : String) : Path where
  words := [name]
  segments := [name]

/-- An argument between angles. -/
structure GenericArgument where
  words : List String
  shape : Option Shape := none
  isLifetime : Bool := false
  comma : Bool := false
deriving Repr

namespace Path

open SchemaCoverage.Declaration.Parser

/-- The words of arguments or parameters, lifetimes first. A comma divides what none divided
before. -/
def sortedWords (lifetimes others : List (List String × Bool)) : List String :=
  let step (done : List String × Bool) (item : List String × Bool) : List String × Bool :=
    let divided := if done.2 then done.1 else done.1 ++ [","]
    (divided ++ item.1 ++ (if item.2 then [","] else []), item.2)
  let first := separatedWords "," lifetimes
  (others.foldl step (first, lifetimes.getLast?.all Prod.snd)).1

/-- Reads a constant between angles: a literal, a name or a block. -/
def constant (g : Grammar) : Parser (List String) := do
  let tokens ← ahead
  if Ahead.literal tokens then literal
  else if Ahead.identifier tokens then return [← identifier]
  else if Ahead.bracket .curly tokens then Attribute.block g
  else failUnexpected

/-- A constant begins here that is no name. -/
def constantBegins : Ahead := fun tokens =>
  Ahead.literal tokens || Ahead.bracket .curly tokens

/-- Reads an argument that begins with a type: a name may get a value or bounds. -/
def typeArgument (g : Grammar) : Parser GenericArgument := do
  let type ← g.type true
  match type.form with
  | .name =>
      if ← acceptMark "=" then
        let value ←
          if ← peek constantBegins then constant g else pure (← g.type true).words
        return { words := type.words ++ "=" :: value }
      else if ← acceptMark ":" then
        return { words := type.words ++ ":" :: (← g.bounds (.anyMark [",", ">"])) }
      else return { words := type.words, shape := some type.shape }
  | _ => return { words := type.words, shape := some type.shape }

/-- Reads a generic argument. -/
def argument (g : Grammar) : Parser GenericArgument := do
  let tokens ← ahead
  if Ahead.lifetime tokens && !Ahead.second (.mark "+") tokens then
    return { words := [← lifetime], isLifetime := true }
  else if constantBegins tokens then return { words := ← constant g }
  else typeArgument g

/-- Reads generic arguments between angles. -/
def arguments (g : Grammar) : Parser (List GenericArgument) := do
  mark "<"
  let items ← separated "," (.mark ">") (argument g)
  mark ">"
  return items.map fun (item, comma) => { item with comma }

/-- The words of generic arguments with their angles. -/
def angleWords (items : List GenericArgument) : List String :=
  let words (isLifetime : Bool) :=
    (items.filter (·.isLifetime == isLifetime)).map fun item => (item.words, item.comma)
  "<" :: sortedWords (words true) (words false) ++ [">"]

/-- Reads generic arguments after two colons. -/
def turbofish (g : Grammar) : Parser (List String) := do
  mark "::"
  return "::" :: angleWords (← arguments g)

/-- A segment with arguments. -/
def withArguments (name : String) (start : List String) (items : List GenericArgument) : Path where
  words := name :: start ++ angleWords items
  segments := [name]
  types := items.filterMap (·.shape)
  angles := start ++ angleWords items
  hasArguments := !items.isEmpty
  isPlain := false

/-- Reads a segment of a path. In an expression two colons stand before its arguments. -/
def segment (g : Grammar) (inExpression : Bool) : Parser Path := do
  if ← peek (.name ["super", "self", "crate", "try"]) then return ofName (← anyName)
  let name ← if ← peek (.name ["Self"]) then anyName else identifier
  let tokens ← ahead
  if !inExpression && Ahead.angle tokens then return withArguments name [] (← arguments g)
  else if Ahead.colonsBefore (.mark "<") tokens then
    mark "::"
    return withArguments name ["::"] (← arguments g)
  else return ofName name

/-- Adds a segment to a path. -/
def join (path next : Path) : Path :=
  { next with
    words := path.words ++ "::" :: next.words
    segments := path.segments ++ next.segments
    isPlain := path.isPlain && next.isPlain
    isQualified := path.isQualified }

/-- Reads a path that does not start from a type. What stands in parentheses after two colons does
not belong to it. -/
def unqualified (g : Grammar) (inExpression : Bool) : Parser Path := do
  let leading ← optionalMark "::"
  let first ← segment g inExpression
  let more : Path → Ahead := fun _ tokens =>
    Ahead.mark "::" tokens && !Ahead.third (.bracket .round) tokens
  let path ← extendWhile more (fun path => do
    mark "::"
    return path.join (← segment g inExpression)) first
  return { path with words := leading ++ path.words }

/-- Reads a path. -/
def read (g : Grammar) (inExpression : Bool) : Parser Path := do
  if ← peek (.mark "<") then
    mark "<"
    let self ← g.type true
    let trait ←
      if ← acceptName "as" then do
        pure ("as" :: (← unqualified g false).words)
      else pure []
    mark ">"
    mark "::"
    let first ← segment g inExpression
    let path ← extendWhile (fun _ => .mark "::") (fun path => do
      mark "::"
      return path.join (← segment g inExpression)) first
    return { path with
      words := "<" :: self.words ++ trait ++ [">", "::"] ++ path.words
      isQualified := true }
  else unqualified g inExpression

end Path

end SchemaCoverage.Declaration
