import SchemaCoverage.Declaration.Import
import SchemaCoverage.Declaration.Part
/-!
Definitions of every kind as they may stand in a block or a module: functions, types, constants,
imports, traits and what implements them. What no form of a definition fits is kept as its tokens
are written.
-/
namespace SchemaCoverage.Declaration.Definition

open SchemaCoverage.Declaration.Parser

/-- Reads the bounds and the parts of a trait. -/
def traitBody (g : Grammar) : Parser (List String) := do
  let bounds ←
    if ← acceptMark ":" then do
      let stop : Ahead := fun tokens =>
        Ahead.name ["where"] tokens || Ahead.bracket .curly tokens
      pure (separatedWords "+" (← separated "+" stop g.boundWords))
    else pure []
  let conditions ← Generics.conditions g
  let parts ← Attribute.enclosing g (Part.list (Part.ofTrait g))
  return Generics.afterColon bounds ++ conditions ++ parts

/-- Reads what a trait is another name for. -/
def traitAlias (g : Grammar) : Parser (List String) := do
  mark "="
  let stop : Ahead := fun tokens => Ahead.name ["where"] tokens || Ahead.mark ";" tokens
  let bounds := separatedWords "+" (← separated "+" stop g.boundWords)
  let conditions ← Generics.conditions g
  mark ";"
  return "=" :: bounds ++ conditions ++ [";"]

/-- Reads a trait after its visibility. -/
def trait (g : Grammar) : Parser (List String) := do
  let risk ← optionalName "unsafe"
  let auto ← optionalName "auto"
  keyword "trait"
  let name ← identifier
  let generics ← Generics.read g
  let start := risk ++ auto ++ "trait" :: name :: generics.words
  if risk.isEmpty && auto.isEmpty then
    let tokens ← ahead
    if Ahead.mark "=" tokens then return start ++ (← traitAlias g)
    unless Ahead.bracket .curly tokens || Ahead.mark ":" tokens || Ahead.name ["where"] tokens do
      failExpectingOne ["curly braces", "`:`", "`where`", "`=`"]
  return start ++ (← traitBody g)

/-- Reads an implementation after its visibility, and tells whether it has the form of one. -/
def implementation (g : Grammar) : Parser (List String × Bool) := do
  let standard ← optionalName "default"
  let risk ← optionalName "unsafe"
  keyword "impl"
  let generics ← if ← peek Generics.begins then Generics.read g else pure {}
  let isConst : Ahead := fun tokens =>
    Ahead.name ["const"] tokens ||
      (Ahead.mark "?" tokens && Ahead.second (.name ["const"]) tokens)
  let constant ← peek isConst
  if constant then
    discard (acceptMark "?")
    keyword "const"
  let isNegative : Ahead := fun tokens =>
    Ahead.mark "!" tokens && !Ahead.second (.bracket .curly) tokens
  let negation ← if ← peek isNegative then optionalMark "!" else pure []
  let first ← g.type true
  let isPath :=
    match first.form with
    | .name | .path => true
    | _ => false
  let (target, isKnown) ←
    if ← acceptName "for" then do
      pure (negation ++ first.words ++ "for" :: (← g.type true).words, isPath)
    else if negation.isEmpty then pure (first.words, true)
    else reject .negativeInherent
  let conditions ← Generics.conditions g
  let parts ← Attribute.enclosing g (Part.list (Part.ofImplementation g))
  let start := standard ++ risk ++ "impl" :: generics.words
  return (start ++ target ++ conditions ++ parts, isKnown && !constant)

/-- Reads a foreign library. -/
def foreign (g : Grammar) : Parser (List String) := do
  let risk ← optionalName "unsafe"
  keyword "extern"
  let convention ← optionalText
  let parts ← Attribute.enclosing g (Part.list (Part.ofForeign g))
  return risk ++ "extern" :: convention ++ parts

/-- Reads a module after its visibility. -/
def module (g : Grammar) : Parser (List String) := do
  let risk ← optionalName "unsafe"
  keyword "mod"
  let name ← if ← peek (.name ["try"]) then anyName else identifier
  let start := risk ++ ["mod", name]
  if ← acceptMark ";" then return start ++ [";"]
  else if ← peek (.bracket .curly) then
    return start ++ (← Attribute.enclosing g (Part.list g.item))
  else failExpectingOne ["`;`", "curly braces"]

/-- Reads the definition of rules by which tokens are replaced. -/
def rules : Parser Unit := do
  skip 1
  discard identifier
  let isRound ← peek (.bracket .round)
  if isRound then discard (group .round)
  if ← peek (.bracket .curly) then discard (group .curly)
  else failExpectingOne (if isRound then ["curly braces"] else ["parentheses", "curly braces"])

/-- Reads a static value after its visibility, and tells whether it has a type and a value. -/
def static (g : Grammar) : Parser (List String × Bool) := do
  keyword "static"
  let access ← optionalName "mut"
  let name ← identifier
  if ← acceptMark "=" then
    discard (g.expression true)
    mark ";"
    return ([], false)
  mark ":"
  let type ← g.type true
  if ← acceptMark ";" then return ([], false)
  mark "="
  let value ← g.expression true
  mark ";"
  return ("static" :: access ++ name :: ":" :: type.words ++ "=" :: value.words ++ [";"], true)

/-- Reads a type with its content after its visibility. -/
def declaredType (g : Grammar) (content : Parser (Content × List String)) :
    Parser (List String) := do
  let kind ← anyName
  let name ← identifier
  let generics ← Generics.read g
  return kind :: name :: generics.words ++ (← content).2

/-- What may be defined. -/
def kinds : List String := [
  "`fn`", "`extern`", "`use`", "`static`", "`const`", "`unsafe`", "`mod`", "`type`", "`struct`",
  "`enum`", "`union`", "`trait`", "`auto`", "`impl`", "`default`", "`macro`"]

/-- Reads a definition that begins with the word for foreign things. -/
def outside (g : Grammar) (start : List Token) (before : List String) (isVisible : Bool) :
    Parser (List String) := do
  let tokens ← ahead
  let block : Ahead := .bracket .curly
  if Ahead.second (.name ["crate"]) tokens then return before ++ (← Import.library)
  let hasText : Ahead := fun tokens =>
    match tokens with
    | .text _ _ :: _ => true
    | _ => false
  if Ahead.second block tokens || (Ahead.second hasText tokens && Ahead.third block tokens) then
    if isVisible then
      goTo start
      failExpecting "`extern`"
    return before ++ (← foreign g)
  else if Ahead.second hasText tokens then
    skip 2
    failExpectingOne ["curly braces"]
  else
    skip 1
    failExpectingOne ["`crate`", "curly braces", "string literal"]

/-- Reads an implementation after what stands before it. -/
def implementing (g : Grammar) (start : List Token) (attributes visibility : List String) :
    Parser (List String) := do
  let (words, isKnown) ← implementation g
  Part.keepIf (isKnown && visibility.isEmpty) start (attributes ++ words)

/-- Reads a definition that begins with the word for risky things. -/
def risky (g : Grammar) (start : List Token) (attributes visibility : List String) :
    Parser (List String) := do
  let tokens ← ahead
  let before := attributes ++ visibility
  let next (names : List String) : Bool := Ahead.second (.name names) tokens
  if next ["trait"] || (next ["auto"] && Ahead.third (.name ["trait"]) tokens) then
    return before ++ (← trait g)
  else if next ["impl"] then implementing g start attributes visibility
  else if next ["extern"] then
    unless visibility.isEmpty do
      goTo start
      failExpecting "`extern`"
    return attributes ++ (← foreign g)
  else if next ["mod"] then return before ++ (← module g)
  else
    skip 1
    failExpectingOne ["`trait`", "`auto`", "`impl`", "`extern`", "`mod`"]

/-- Reads a definition after its attributes; `start` is what stood ahead before them. -/
def rest (g : Grammar) (start : List Token) (attributes : List String) : Parser (List String) := do
  let visibility ← visibility
  let before := attributes ++ visibility
  let tokens ← ahead
  let next (names : List String) : Bool := Ahead.name names tokens
  if Signature.begins false tokens then
    let (signature, _) ← Signature.read g false
    if ← acceptMark ";" then rawSince start
    else return before ++ signature ++ (← Attribute.block g)
  else if next ["extern"] then outside g start before (!visibility.isEmpty)
  else if next ["use"] then
    match ← Import.read g with
    | some words => return before ++ words
    | none => rawSince start
  else if next ["static"] then
    let (words, isKnown) ← static g
    Part.keepIf isKnown start (before ++ words)
  else if next ["const"] then
    skip 1
    let (words, value, isGeneric) ← Part.constant g
    Part.keepIf (!isGeneric && value.isSome) start (before ++ words ++ value.getD [] ++ [";"])
  else if next ["unsafe"] then risky g start attributes visibility
  else if next ["mod"] then return before ++ (← module g)
  else if next ["type"] then
    let defined ← Part.typeName g .beforeType
    let words := before ++ defined.start ++ defined.conditions ++ defined.type.getD [] ++ [";"]
    Part.keepIf (defined.type.isSome && defined.bounds.isNone) start words
  else if next ["struct"] then return before ++ (← declaredType g (structContent g))
  else if next ["enum"] then return before ++ (← declaredType g (enumContent g))
  else if next ["union"] && Ahead.second .identifier tokens then
    return before ++ (← declaredType g (unionContent g))
  else if next ["trait"] || (next ["auto"] && Ahead.second (.name ["trait"]) tokens) then
    return before ++ (← trait g)
  else if next ["impl"] || (next ["default"] && !Ahead.second (.mark "!") tokens) then
    implementing g start attributes visibility
  else if next ["macro"] then
    rules
    rawSince start
  else if visibility.isEmpty && Part.callFollows tokens then return attributes ++ (← Part.call true)
  else failExpectingOne (Part.orCall kinds visibility.isEmpty)

/-- Reads a definition. -/
def read (g : Grammar) : Parser (List String) := do
  let start ← ahead
  rest g start (← Attribute.outer g)

end SchemaCoverage.Declaration.Definition
