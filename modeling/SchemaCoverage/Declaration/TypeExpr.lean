import SchemaCoverage.Declaration.Bound
/-!
Types as they are written in declarations: the words of a type, and what it is built from as far
as a description needs to know.
-/
namespace SchemaCoverage.Declaration.TypeExpr

open SchemaCoverage.Declaration.Parser

/-- Everything that may begin a type. -/
def beginnings : List String := [
  "`for`", "parentheses", "`fn`", "`unsafe`", "`extern`", "identifier", "`::`", "`<`", "`dyn`",
  "square brackets", "`*`", "`&`", "`!`", "`impl`", "`_`", "lifetime"]

/-- Everything that may follow lifetimes that are bound. -/
def boundBeginnings : List String := [
  "identifier", "`fn`", "`unsafe`", "`extern`", "`super`", "`self`", "`Self`", "`crate`"]

/-- Reads a bound of an object type. -/
def objectBound (g : Grammar) : Parser (List String) :=
  return (← Bound.read g .inObject).words

/-- Reads further bounds, each after a plus sign. -/
def furtherBounds (g : Grammar) : Parser (List String) := do
  let parts ← whileMore (.mark "+") do
    mark "+"
    return "+" :: (← objectBound g)
  return parts.flatten

/-- What stands in parentheses. -/
inductive Enclosed
  /-- Nothing, several types, or bounds: a type together with the parentheses. -/
  | whole (words : List String)
  /-- A relaxed bound. -/
  | relaxed (words : List String)
  | single (type : TypeExpr)

/-- Reads what stands in parentheses. -/
def enclosedContent (g : Grammar) : Parser Enclosed := do
  let tokens ← ahead
  if tokens.isEmpty then return .whole []
  else if Ahead.lifetime tokens then
    return .whole (← Bound.several g true .inObject .objectWithoutTrait)
  else if Ahead.mark "?" tokens then return .relaxed (← Bound.trait g .inObject).1
  else
    let first ← g.type true
    if ← acceptMark "," then
      let others ← commaWords (return (← g.type true).words)
      return .whole (first.words ++ "," :: others)
    else return .single first

/-- A bound in parentheses with further bounds after it. -/
def parenthesizedBound (g : Grammar) (bound : List String) : Parser TypeExpr := do
  let words := Bracket.round.around bound
  let others ← furtherBounds g
  let form := if others.isEmpty then .bound bound else .other
  return ⟨words ++ others, .other, form⟩

/-- The type that begins with parentheses, from what stands in them: nothing, one type or several,
or a bound that further bounds may follow. -/
def afterParentheses (g : Grammar) (plus : Bool) : Enclosed → Parser TypeExpr
  | .whole words => return ⟨Bracket.round.around words, .other, .other⟩
  | .relaxed words => parenthesizedBound g words
  | .single type => do
      let alone : TypeExpr := ⟨Bracket.round.around type.words, .other, .other⟩
      if plus && (← peek (.mark "+")) then
        match type.form with
        | .name | .path => parenthesizedBound g type.words
        | .bound words => parenthesizedBound g words
        | .other => return alone
      else return alone

/-- Reads what begins with parentheses. What is left unread between them is noticed only after
further bounds. -/
def parenthesized (g : Grammar) (plus : Bool) : Parser TypeExpr := do
  let (content, unread) ← inside (← group .round) (enclosedContent g)
  let type ← afterParentheses g plus content
  noteLeftover .round unread
  return type

/-- Reads what stands in square brackets: a run of values, perhaps of a given length. -/
def bracketed (g : Grammar) : Parser TypeExpr := do
  inBrackets .square do
    let element ← g.type true
    if ← acceptMark ";" then
      let length ← g.expression true
      return ⟨Bracket.square.around (element.words ++ ";" :: length.words), .other, .other⟩
    return ⟨Bracket.square.around element.words, .slice element.shape, .other⟩

/-- Inputs that are left open follow, perhaps with a name. -/
def openInputsFollow : Ahead := fun tokens =>
  Ahead.mark "..." tokens ||
    (Ahead.nameOrGap tokens && Ahead.second (.mark ":") tokens &&
      Ahead.third (.mark "...") tokens)

/-- Reads inputs that are left open. -/
def openInputs : Parser (List String) := do
  let name ←
    if ← peek .nameOrGap then do
      let name ← anyName
      mark ":"
      pure [name, ":"]
    else pure []
  mark "..."
  return name ++ "..." :: (← optionalMark ",")

/-- Reads an input of a function type. The first one may be the receiver of a method; if that can
be changed, its tokens are kept as they are written. -/
def input (g : Grammar) (isFirst : Bool) : Parser (List String) := do
  let start ← ahead
  let changes := isFirst && Ahead.name ["mut"] start && Ahead.second (.name ["self"]) start
  if changes then skip 1
  let tokens ← ahead
  let hasName := (Ahead.nameOrGap tokens ||
    (isFirst && Ahead.name ["self"] tokens)) && Ahead.second .colon tokens
  if hasName then
    let name ← anyName
    mark ":"
    let type ← g.type true
    if changes then rawSince start else return name :: ":" :: type.words
  else if changes then
    keyword "self"
    rawSince start
  else return (← g.type true).words

/-- Reads an input of a function type and the comma after it, and tells whether another follows. -/
def inputPart (g : Grammar) (isFirst : Bool) : Parser (List String × Bool) := do
  let attributes ← Attribute.outer g
  if ← peek openInputsFollow then return (attributes ++ (← openInputs), false)
  let words := attributes ++ (← input g isFirst)
  if ← peek .nothing then return (words, false)
  mark ","
  return (words ++ [","], !(← peek .nothing))

/-- Reads the inputs of a function type. -/
def inputs (g : Grammar) : Parser (List String) := do
  if ← peek .nothing then return []
  let (first, goesOn) ← inputPart g true
  if goesOn then return first ++ (← untilLast (inputPart g false)).flatten else return first

/-- Reads the word that a foreign function begins with, and the name of its calling convention. -/
def convention : Parser (List String) := do
  if ← acceptName "extern" then return "extern" :: (← optionalText) else return []

/-- Reads a function type. -/
def function (g : Grammar) : Parser (List String) := do
  let safety ← optionalName "unsafe"
  let convention ← convention
  keyword "fn"
  let (inputs, unread) ← inside (← group .round) (inputs g)
  let output ← g.output false
  noteLeftover .round unread
  return safety ++ convention ++ "fn" :: Bracket.round.around inputs ++ output

/-- Reads a path and what may follow it to make another type. -/
def pathType (g : Grammar) (plus : Bool) (binder : List String) : Parser TypeExpr := do
  let path ← Path.read g false
  if path.isQualified then return ⟨path.words, .other, .other⟩
  if path.isPlain && (← peek .call) then
    mark "!"
    return ⟨path.words ++ "!" :: (← anyGroup).2, .other, .other⟩
  if plus && (← peek (.mark "+")) then
    let parts ← untilLast do
      mark "+"
      if ← peek (Bound.follows .inObject) then
        return ("+" :: (← objectBound g), ← peek (.mark "+"))
      else return (["+"], false)
    return ⟨binder ++ path.words ++ parts.flatten, .other, .other⟩
  if binder.isEmpty then
    let form := if path.segments.length = 1 && path.words.head? != some "::" then .name else .path
    return ⟨path.words, .named path.segments path.types, form⟩
  else return ⟨binder ++ path.words, .other, .bound (binder ++ path.words)⟩

/-- Reads the lifetimes that a type binds, if it binds any. -/
def binder (g : Grammar) : Parser (List String) := do
  let words ← Generics.binder g
  let follows : Ahead := fun tokens =>
    Ahead.identifier tokens || Ahead.name (["fn", "unsafe", "extern"] ++ Ahead.pathRoots) tokens
  unless words.isEmpty || (← peek follows) do failExpectingOne boundBeginnings
  return words

/-- Reads a pointer. -/
def pointer (g : Grammar) : Parser (List String) := do
  mark "*"
  let access ←
    if ← acceptName "const" then pure "const"
    else if ← acceptName "mut" then pure "mut"
    else failExpectingOne ["`const`", "`mut`"]
  return "*" :: access :: (← g.type false).words

/-- Reads a reference. -/
def reference (g : Grammar) : Parser TypeExpr := do
  mark "&"
  let lifetime ← optionalLifetime
  let access ← optionalName "mut"
  let target ← g.type false
  let words := "&" :: lifetime ++ access ++ target.words
  return ⟨words, if access.isEmpty then .reference target.shape else .other, .other⟩

/-- Reads bounds after the word that announces an object type. A star keeps the tokens as they are
written. -/
def object (g : Grammar) (plus : Bool) : Parser (List String) := do
  let start ← ahead
  keyword "dyn"
  let star ← acceptMark "*"
  let bounds ← Bound.several g plus .inObject .objectWithoutTrait
  if star then rawSince start else return "dyn" :: bounds

/-- Reads a type; with the flag, bounds joined by plus signs are one type. -/
def read (g : Grammar) (plus : Bool) : Parser TypeExpr := do
  let binder ← binder g
  match ← ahead with
  | .opening .round :: _ => parenthesized g plus
  | .opening .square :: _ => bracketed g
  | .lifetime _ :: _ =>
      return ⟨← Bound.several g true .inObject .objectWithoutTrait, .other, .other⟩
  | .mark '<' _ :: _ => pathType g plus binder
  | .mark '*' _ :: _ => return ⟨← pointer g, .other, .other⟩
  | .mark '&' _ :: _ => reference g
  | .mark '!' _ :: _ =>
      mark "!"
      return ⟨["!"], .other, .other⟩
  | .name "_" :: _ =>
      skip 1
      return ⟨["_"], .other, .other⟩
  | .name "dyn" :: _ => return ⟨← object g plus, .other, .other⟩
  | .name "impl" :: _ =>
      skip 1
      let bounds ← Bound.several g plus .inOpenType .boundsWithoutTrait
      return ⟨"impl" :: bounds, .other, .other⟩
  | tokens =>
      if Ahead.name ["fn", "unsafe", "extern"] tokens then
        return ⟨binder ++ (← function g), .other, .other⟩
      else if Ahead.path tokens then pathType g plus binder
      else failExpectingOne beginnings

end SchemaCoverage.Declaration.TypeExpr
