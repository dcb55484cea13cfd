import SchemaCoverage.Declaration.Generics
/-!
Bounds of types: traits, lifetimes, and what an open type captures.
-/
namespace SchemaCoverage.Declaration.Bound

open SchemaCoverage.Declaration.Parser

/-- Reads one thing that is captured, and tells whether it is a lifetime. -/
def captured : Parser (List String × Bool) := do
  let tokens ← ahead
  if Ahead.lifetime tokens then return ([← lifetime], true)
  else if Ahead.identifier tokens || Ahead.name ["Self"] tokens then return ([← anyName], false)
  else failExpectingOne ["lifetime", "identifier", "`>`"]

/-- Reads what is captured, between angles. -/
def capture : Parser (List String) := do
  keyword "use"
  mark "<"
  let items ← whileMore (!Ahead.mark ">" ·) do
    let (words, isLifetime) ← captured
    if ← acceptMark "," then return (isLifetime, words, true)
    else if ← peek (.mark ">") then return (isLifetime, words, false)
    else failExpectingOne ["`,`", "`>`"]
  mark ">"
  let words (isLifetime : Bool) := (items.filter (·.1 == isLifetime)).map Prod.snd
  return "use" :: "<" :: Path.sortedWords (words true) (words false) ++ [">"]

/-- Types in parentheses follow, after a path that has no arguments. -/
def inputsFollow : Ahead := fun tokens =>
  Ahead.bracket .round tokens || Ahead.colonsBefore (.bracket .round) tokens

/-- Reads the path of a trait, which may have the inputs and the output of a function. -/
def traitPath (g : Grammar) : Parser (List String) := do
  let path ← Path.unqualified g false
  if !path.hasArguments && (← peek inputsFollow) then
    let _ ← acceptMark "::"
    let inputs ← enclosed .round (commaWords (return (← g.type true).words))
    let name := path.words.take (path.words.length - path.angles.length)
    return name ++ inputs ++ (← g.output false)
  else return path.words

/-- Takes what asks for a constant implementation, and tells whether it was there. -/
def constMark (rules : BoundRules) : Parser Bool := do
  if ← peek (.bracket .square) then
    inBrackets .square (keyword "const")
    unless rules.const do reject .conditionalBound
    return true
  else if ← acceptName "const" then
    unless rules.const do reject .constBound
    return true
  else return false

/-- Reads a trait, and tells whether its tokens are to be kept as they are written. -/
def trait (g : Grammar) (rules : BoundRules) : Parser (List String × Bool) := do
  let binder ← Generics.binder g
  let isConst ← constMark rules
  let relaxed ← optionalMark "?"
  let binder ← if binder.isEmpty && !relaxed.isEmpty then Generics.binder g else pure binder
  let path ← traitPath g
  if !binder.isEmpty && !relaxed.isEmpty then reject .relaxedBinder
  return (relaxed ++ binder ++ path, isConst)

/-- Reads a bound. -/
def read (g : Grammar) (rules : BoundRules) : Parser Bound := do
  let start ← ahead
  if Ahead.lifetime start then return ⟨[← lifetime], false⟩
  else if Ahead.name ["use"] start then
    let words ← capture
    if rules.capture then return ⟨words, false⟩ else reject .capture
  else
    let (words, isRaw) ←
      if Ahead.bracket .round start then do
        let (words, isRaw) ← inBrackets .round (trait g rules)
        pure (Bracket.round.around words, isRaw)
      else trait g rules
    if isRaw then return ⟨← rawSince start, true⟩ else return ⟨words, true⟩

/-- Another bound follows a plus sign. -/
def follows (rules : BoundRules) : Ahead := fun tokens =>
  Ahead.anyName tokens || Ahead.anyMark ["::", "?"] tokens || Ahead.lifetime tokens ||
    Ahead.bracket .round tokens || (rules.const && Ahead.bracket .square tokens)

/-- Reads bounds joined by plus signs, of which the last one may have none after it; without the
flag only one. One of them is a trait. -/
def several (g : Grammar) (plus : Bool) (rules : BoundRules) (problem : Misuse) :
    Parser (List String) := do
  let bounds ← untilLast do
    let bound ← read g rules
    let sign ← if plus then optionalMark "+" else pure []
    let goesOn ← if sign.isEmpty then pure false else peek (follows rules)
    return ((bound.isTrait, bound.words ++ sign), goesOn)
  unless bounds.any Prod.fst do reject problem
  return bounds.flatMap Prod.snd

end SchemaCoverage.Declaration.Bound
