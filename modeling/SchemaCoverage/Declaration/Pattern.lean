import SchemaCoverage.Declaration.TypeExpr
/-!
Patterns: what the values of an expression are compared with.
-/
namespace SchemaCoverage.Declaration

namespace Parser

/-- Takes the number of an element, which is written in decimal digits. -/
def elementNumber (number : String) : Parser String := do
  let (value, suffix) := Number.whole number.toList
  if Number.isFraction number.toList then throw (.expected "integer literal")
  if !suffix.isEmpty then throw (.expected "unsuffixed integer")
  if 0xffffffff < value then reject .largeIndex
  return toString value

/-- Takes the name or the number of a member, and tells whether it is a name. -/
def memberOfValue : Parser (String × Bool) := do
  match ← ahead with
  | .number written :: _ =>
      if Number.isFraction written.toList then failExpecting "identifier or integer"
      skip 1
      return (← elementNumber written, false)
  | tokens =>
      if Ahead.identifier tokens then return (← identifier, true)
      else if Ahead.wholeNumber tokens then reject .negativeIndex
      else failExpecting "identifier or integer"

/-- Takes the points of a range, which may not be three. -/
def rangePoints : Parser String := do
  let tokens ← ahead
  if Ahead.mark "..=" tokens then
    mark "..="
    return "..="
  else if Ahead.mark ".." tokens && !Ahead.mark "..." tokens then
    mark ".."
    return ".."
  else if Ahead.mark ".." tokens then failExpectingOne ["`..=`"]
  else failExpectingOne ["`..`", "`..=`"]

/-- Takes the points of a range, of which three mean that the end belongs to it. -/
def anyRangePoints : Parser String := do
  if ← acceptMark "..." then return "..=" else rangePoints

end Parser

namespace Pattern

open SchemaCoverage.Declaration.Parser

/-- No end of a range follows. -/
def rangeEnds : Ahead := fun tokens =>
  tokens.isEmpty || Ahead.anyMark ["|", "=", ",", ";"] tokens || Ahead.colon tokens ||
    Ahead.name ["if"] tokens

/-- What may stand at either end of a range. -/
def rangeBounds : List String :=
  ["literal", "identifier", "`::`", "`<`", "`self`", "`Self`", "`super`", "`crate`", "`const`"]

/-- Reads a constant: a block after a keyword. -/
def constBlock (g : Grammar) : Parser (List String) := do
  keyword "const"
  return "const" :: (← Attribute.block g)

/-- Reads an end of a range, if there is one. -/
def rangeBound? (g : Grammar) : Parser (Option (List String)) := do
  let tokens ← ahead
  if rangeEnds tokens then return none
  else if Ahead.literal tokens then return some (← literal)
  else if Ahead.path tokens || Ahead.mark "<" tokens then return some (← Path.read g true).words
  else if Ahead.name ["const"] tokens then return some (← constBlock g)
  else failExpectingOne rangeBounds

/-- Reads a range after its start, if it has one. -/
def range (g : Grammar) (start : List String) : Parser Pattern := do
  let points ← if start.isEmpty then rangePoints else anyRangePoints
  match ← rangeBound? g with
  | some stop =>
      let kind := if start.isEmpty then .openRange else .other
      return ⟨start ++ points :: stop, kind⟩
  | none =>
      if points == "..=" then failExpecting "range upper bound"
      else return ⟨start ++ [points], if start.isEmpty then .rest else .openRange⟩

/-- Reads alternatives. A vertical bar may stand before the first. -/
def alternatives (one : Parser Pattern) : Parser Pattern := do
  let leading ← optionalMark "|"
  let first ← one
  let bar : Ahead := fun tokens =>
    Ahead.mark "|" tokens && !Ahead.anyMark ["||", "|="] tokens
  let others ← whileMore bar do
    mark "|"
    return "|" :: (← one).words
  if leading.isEmpty && others.isEmpty then return first
  else return ⟨leading ++ first.words ++ others.flatten, .other⟩

/-- The words of patterns with alternatives, with commas between them up to the end of the
tokens. -/
def listWords (g : Grammar) : Parser (List String) :=
  commaWords (return (← alternatives g.pattern).words)

/-- The words of patterns in square brackets, of which none is a range with one end. -/
def sliceWords (g : Grammar) : Parser (List String) :=
  commaWords do
    let pattern ← alternatives g.pattern
    if pattern.kind = .openRange then reject .openRangeInSlice
    return pattern.words

/-- Reads a field in the pattern of a record: a member with a pattern, or a name that is bound. -/
def field (g : Grammar) : Parser (List String) := do
  let start ← ahead
  let boxed ← acceptName "box"
  let byRef ← optionalName "ref"
  let access ← optionalName "mut"
  let isBare := !boxed && byRef.isEmpty && access.isEmpty
  let (name, isName) ← if isBare then memberOfValue else pure (← identifier, true)
  if (isBare && (← peek (.mark ":"))) || !isName then
    mark ":"
    return name :: ":" :: (← alternatives g.pattern).words
  else if boxed then rawSince start
  else return byRef ++ access ++ [name]

/-- Reads a field in the pattern of a record, or the two points for those that are left out, with
the comma after it. It tells whether another one may follow. -/
def fieldPart (g : Grammar) : Parser (List String × Bool) := do
  let attributes ← Attribute.outer g
  if ← acceptMark ".." then return (attributes ++ [".."], false)
  let words := attributes ++ (← field g)
  if ← peek .nothing then return (words, false)
  mark ","
  return (words ++ [","], !(← peek .nothing))

/-- The words of the fields in the pattern of a record. -/
def fieldWords (g : Grammar) : Parser (List String) := do
  if ← peek .nothing then return []
  return (← untilLast (fieldPart g)).flatten

/-- Reads what begins with a path: a call, a record, a tuple, a range or the path alone. -/
def ofPath (g : Grammar) : Parser Pattern := do
  let path ← Path.read g true
  let tokens ← ahead
  if !path.isQualified && path.isPlain && Ahead.call tokens then
    mark "!"
    return { words := path.words ++ "!" :: (← anyGroup).2 }
  else if Ahead.bracket .curly tokens then
    return { words := path.words ++ (← enclosed .curly (fieldWords g)) }
  else if Ahead.bracket .round tokens then
    return { words := path.words ++ (← enclosed .round (listWords g)) }
  else if Ahead.mark ".." tokens then range g path.words
  else return { words := path.words }

/-- Reads a name that is bound, perhaps to what matches another pattern. -/
def ofName (g : Grammar) : Parser Pattern := do
  let byRef ← optionalName "ref"
  let access ← optionalName "mut"
  let name ← if ← peek (.name ["self"]) then anyName else identifier
  let inner ← if ← acceptMark "@" then pure ("@" :: (← g.pattern).words) else pure []
  return { words := byRef ++ access ++ name :: inner }

/-- A pattern begins here with a path that is no bound name. -/
def pathFollows : Ahead := fun tokens =>
  let more : Ahead := fun rest =>
    Ahead.anyMark ["::", "!", ".."] rest || Ahead.bracket .curly rest || Ahead.bracket .round rest
  (Ahead.identifier tokens && Ahead.second more tokens) ||
    (Ahead.name ["self"] tokens && Ahead.second (.mark "::") tokens) ||
    Ahead.anyMark ["::", "<"] tokens || Ahead.name ["Self", "super", "crate"] tokens

/-- Everything that may begin a pattern. -/
def beginnings : List String := [
  "identifier", "`::`", "`<`", "`_`", "literal", "`const`", "`ref`", "`mut`", "`&`", "parentheses",
  "square brackets", "`..`", "`const`"]

/-- Reads a pattern without alternatives. -/
def read (g : Grammar) : Parser Pattern := do
  let start ← ahead
  if pathFollows start then ofPath g
  else if Ahead.name ["_"] start then return { words := [← anyName] }
  else if Ahead.name ["box"] start then
    skip 1
    discard g.pattern
    return ⟨← rawSince start, .raw⟩
  else if Ahead.mark "-" start || Ahead.literal start || Ahead.name ["const"] start then
    let bound := (← rangeBound? g).getD []
    if ← peek (.mark "..") then range g bound else return { words := bound }
  else if Ahead.identifier start || Ahead.name ["ref", "mut", "self"] start then ofName g
  else if ← acceptMark "&" then
    let access ← optionalName "mut"
    return { words := "&" :: access ++ (← g.pattern).words }
  else if Ahead.bracket .round start then return { words := ← enclosed .round (listWords g) }
  else if Ahead.bracket .square start then return { words := ← enclosed .square (sliceWords g) }
  else if Ahead.mark ".." start && !Ahead.mark "..." start then range g []
  else failExpectingOne beginnings

/-- Reads a pattern, perhaps of alternatives. -/
def several (g : Grammar) : Parser Pattern :=
  alternatives (read g)

end Pattern

end SchemaCoverage.Declaration
