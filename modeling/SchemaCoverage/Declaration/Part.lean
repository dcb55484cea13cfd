import SchemaCoverage.Declaration.Field
import SchemaCoverage.Declaration.Signature
/-!
The parts of traits, of what implements them and of foreign libraries: functions, constants and
names for types. What no form of a part fits is kept as its tokens are written.
-/
namespace SchemaCoverage.Declaration.Part

open SchemaCoverage.Declaration.Parser

/-- The words of what was read, or the tokens as they are written since some others stood ahead. -/
def keepIf (kept : Bool) (start : List Token) (words : List String) : Parser (List String) :=
  if kept then return words else rawSince start

/-- Reads parts one after the other to the end of the tokens. -/
def list (part : Parser (List String)) : Parser (List String) :=
  return (← whileMore (!·.isEmpty) part).flatten

/-- Reads an expression after an equals sign, if there is one. -/
def value? (g : Grammar) : Parser (Option (List String)) := do
  if ← acceptMark "=" then return some ("=" :: (← g.expression true).words) else return none

/-- Reads a name or an underscore. -/
def nameOrGap : Parser String := do
  if ← peek .nameOrGap then anyName else failExpectingOne ["identifier", "`_`"]

/-- Reads a call with an exclamation mark. A semicolon follows brackets that are not curly. -/
def call (named : Bool) : Parser (List String) := do
  let (leading, segments) ← plainPath
  mark "!"
  let isName : Ahead := fun tokens => Ahead.identifier tokens || Ahead.name ["try"] tokens
  let name ← if named && (← peek isName) then pure [← anyName] else pure []
  let (bracket, inner) ← anyGroup
  let words := plainPathWords leading segments ++ "!" :: name ++ inner
  if bracket = .curly then return words
  mark ";"
  return words ++ [";"]

/-- A call with an exclamation mark begins here. -/
def callFollows : Ahead := fun tokens =>
  Ahead.identifier tokens || Ahead.name ["self", "super", "crate"] tokens ||
    Ahead.mark "::" tokens

/-- Where conditions may stand in the definition of a name for a type. -/
inductive ConditionPlace
  | beforeType
  | afterType
  | both
deriving DecidableEq

/-- A name for a type as it is defined. -/
structure TypeName where
  /-- The words from the keyword to the parameters. -/
  start : List String
  bounds : Option (List String)
  type : Option (List String)
  conditions : List String

/-- Reads the definition of a name for a type. -/
def typeName (g : Grammar) (place : ConditionPlace) : Parser TypeName := do
  keyword "type"
  let name ← identifier
  let generics ← Generics.read g
  let bounds ←
    if ← acceptMark ":" then do
      let stop : Ahead := fun tokens =>
        Ahead.name ["where"] tokens || Ahead.anyMark ["=", ";"] tokens
      pure (some (separatedWords "+" (← separated "+" stop g.boundWords)))
    else pure none
  let early ← if place = .afterType then pure none else Generics.conditions? g
  let type ←
    if ← acceptMark "=" then pure (some ("=" :: (← g.type true).words)) else pure none
  let late ←
    if place = .beforeType || early.isSome then pure early else Generics.conditions? g
  mark ";"
  return {
    start := "type" :: name :: generics.words, bounds, type, conditions := late.getD [] }

/-- Reads a constant after its keyword, and tells whether it has parameters or conditions. -/
def constant (g : Grammar) : Parser (List String × Option (List String) × Bool) := do
  let name ← nameOrGap
  let generics ← Generics.read g
  mark ":"
  let type ← g.type true
  let value ← value? g
  let conditions ← Generics.conditions? g
  mark ";"
  let start := "const" :: name :: ":" :: type.words
  return (start, value, generics.hasAngles || conditions.isSome)

/-- Reads a function of a trait: its body, or a semicolon in its place. -/
def traitFunction (g : Grammar) : Parser (List String) := do
  let (signature, _) ← Signature.read g false
  if ← peek (.bracket .curly) then return signature ++ (← Attribute.block g)
  else if ← acceptMark ";" then return signature ++ [";"]
  else failExpectingOne ["curly braces", "`;`"]

/-- Reads what begins with the keyword of a constant in a trait; a function may begin so too. -/
def traitConstant (g : Grammar) (start : List Token) (attributes : List String) :
    Parser (List String) := do
  let tokens ← ahead
  if Ahead.second .nameOrGap tokens then
    skip 1
    let (words, value, isGeneric) ← constant g
    keepIf (!isGeneric) start (attributes ++ words ++ value.getD [] ++ [";"])
  else if Ahead.second (.name ["async", "unsafe", "extern", "fn"]) tokens then
    return attributes ++ (← traitFunction g)
  else
    skip 1
    failExpectingOne ["identifier", "`_`", "`async`", "`unsafe`", "`extern`", "`fn`"]

/-- What may stand in a place, where with the flag a call may stand too. -/
def orCall (kinds : List String) (isCall : Bool) : List String :=
  kinds ++ if isCall then ["identifier", "`self`", "`super`", "`crate`", "`::`"] else []

/-- Reads a part of a trait. -/
def ofTrait (g : Grammar) : Parser (List String) := do
  let start ← ahead
  let attributes ← Attribute.outer g
  let visibility ← visibility
  let standard ← optionalName "default"
  let isBare := visibility.isEmpty && standard.isEmpty
  let tokens ← ahead
  let words ←
    if Signature.begins false tokens then do
      pure (attributes ++ (← traitFunction g))
    else if Ahead.name ["const"] tokens then traitConstant g start attributes
    else if Ahead.name ["type"] tokens then do
      let defined ← typeName g .afterType
      let bounds := Generics.afterColon (defined.bounds.getD [])
      let words := defined.start ++ bounds ++ defined.type.getD [] ++ defined.conditions
      pure (attributes ++ words ++ [";"])
    else if isBare && callFollows tokens then do
      pure (attributes ++ (← call false))
    else failExpectingOne (orCall ["`fn`", "`const`", "`type`"] isBare)
  keepIf isBare start words

/-- Reads a part of an implementation. -/
def ofImplementation (g : Grammar) : Parser (List String) := do
  let start ← ahead
  let attributes ← Attribute.outer g
  let visibility ← visibility
  let isStandard : Ahead := fun tokens =>
    Ahead.name ["default"] tokens && !Ahead.second (.mark "!") tokens
  let standard ← if ← peek isStandard then optionalName "default" else pure []
  let before := attributes ++ visibility ++ standard
  let isBare := visibility.isEmpty && standard.isEmpty
  let tokens ← ahead
  if Signature.begins false tokens then
    let (signature, _) ← Signature.read g false
    if ← acceptMark ";" then rawSince start
    else return before ++ signature ++ (← Attribute.block g)
  else if ← acceptName "const" then
    let (words, value, isGeneric) ← constant g
    keepIf (!isGeneric && value.isSome) start (before ++ words ++ value.getD [] ++ [";"])
  else if Ahead.name ["type"] tokens then
    let defined ← typeName g .afterType
    let words := before ++ defined.start ++ defined.type.getD [] ++ defined.conditions ++ [";"]
    keepIf (defined.type.isSome && defined.bounds.isNone) start words
  else if isBare && callFollows tokens then return attributes ++ (← call false)
  else
    let standards := if standard.isEmpty then ["`default`"] else []
    failExpectingOne (orCall (standards ++ ["`fn`", "`const`", "`type`"]) isBare)

/-- Reads a part of a foreign library. -/
def ofForeign (g : Grammar) : Parser (List String) := do
  let start ← ahead
  let attributes ← Attribute.outer g
  let visibility ← visibility
  let before := attributes ++ visibility
  let tokens ← ahead
  let isStatic : Ahead := fun tokens =>
    Ahead.name ["static"] tokens ||
      (Ahead.name ["unsafe", "safe"] tokens && Ahead.second (.name ["static"]) tokens)
  if Signature.begins true tokens then
    let (signature, isSafe) ← Signature.read g true
    if ← peek (.bracket .curly) then
      discard (Attribute.block g)
      rawSince start
    else
      mark ";"
      keepIf (!isSafe) start (before ++ signature ++ [";"])
  else if isStatic tokens then
    let risk ← if Ahead.name ["static"] tokens then pure [] else pure [← anyName]
    keyword "static"
    let access ← optionalName "mut"
    let name ← identifier
    mark ":"
    let type ← g.type true
    let value ← value? g
    mark ";"
    keepIf (risk.isEmpty && value.isNone) start
      (before ++ "static" :: access ++ name :: ":" :: type.words ++ [";"])
  else if Ahead.name ["type"] tokens then
    let defined ← typeName g .both
    keepIf (defined.type.isNone && defined.bounds.isNone) start
      (before ++ defined.start ++ defined.conditions ++ [";"])
  else if visibility.isEmpty && callFollows tokens then return attributes ++ (← call false)
  else failExpectingOne (orCall ["`fn`", "`static`", "`type`"] visibility.isEmpty)

end SchemaCoverage.Declaration.Part
