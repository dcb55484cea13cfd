import SchemaCoverage.Declaration.Pattern
/-!
Signatures of functions: what stands before the body.
-/
namespace SchemaCoverage.Declaration.Signature

open SchemaCoverage.Declaration.Parser

/-- The inputs of a function as far as they are read. -/
structure Inputs where
  words : List String := []
  count : Nat := 0
  hasReceiver : Bool := false
  /-- Another input may follow. -/
  goesOn : Bool := true

/-- Reads the receiver of a method. -/
def receiver (g : Grammar) : Parser (List String) := do
  let isReference ← acceptMark "&"
  let lifetime ← if isReference then optionalLifetime else pure []
  let access ← optionalName "mut"
  keyword "self"
  let words := (if isReference then ["&"] else []) ++ lifetime ++ access ++ ["self"]
  let hasType ← if isReference then pure false else acceptMark ":"
  if hasType then return words ++ ":" :: (← g.type true).words else return words

/-- Reads the comma after inputs that are left open; nothing else follows them. -/
def lastComma : Parser (List String) := do
  if ← peek .nothing then return []
  mark ","
  return [","]

/-- Reads an input that is no receiver, and tells whether it leaves further ones open. A type alone
stands for an input that is not used. -/
def typed (g : Grammar) : Parser (List String × Bool) := do
  if ← peek fun tokens => Ahead.identifier tokens && Ahead.second (.mark "<") tokens then
    return ("_" :: ":" :: (← g.type true).words, false)
  let pattern ← Pattern.read g
  mark ":"
  if ← acceptMark "..." then return (pattern.words ++ [":", "..."], true)
  else return (pattern.words ++ ":" :: (← g.type true).words, false)

/-- Adds an input and the comma after it. -/
def Inputs.add (inputs : Inputs) (words : List String) (isReceiver : Bool) : Parser Inputs := do
  let isLast ← peek .nothing
  unless isLast do mark ","
  return {
    words := inputs.words ++ words ++ (if isLast then [] else [","])
    count := inputs.count + 1
    hasReceiver := inputs.hasReceiver || isReceiver
    goesOn := !isLast }

/-- Adds inputs that are left open. -/
def Inputs.leaveOpen (inputs : Inputs) (words : List String) : Parser Inputs := do
  let comma ← lastComma
  return { inputs with words := inputs.words ++ words ++ comma, goesOn := false }

/-- Reads one more input. -/
def input (g : Grammar) (inputs : Inputs) : Parser Inputs := do
  let attributes ← Attribute.outer g
  if ← acceptMark "..." then inputs.leaveOpen (attributes ++ ["..."])
  else
    match ← attempt (receiver g) with
    | some words =>
        if inputs.hasReceiver then reject .secondReceiver
        if 0 < inputs.count then reject .lateReceiver
        inputs.add (attributes ++ words) true
    | none =>
        let (words, isOpen) ← typed g
        if isOpen then inputs.leaveOpen (attributes ++ words)
        else inputs.add (attributes ++ words) false

/-- Reads the inputs of a function. -/
def inputs (g : Grammar) : Parser (List String) := do
  let more : Inputs → Ahead := fun inputs tokens => inputs.goesOn && !tokens.isEmpty
  return (← extendWhile more (input g) {}).words

/-- Reads a signature, and tells whether it says that the function is safe, which it may with the
flag only. -/
def read (g : Grammar) (allowsSafe : Bool) : Parser (List String × Bool) := do
  let const ← optionalName "const"
  let async ← optionalName "async"
  let risk ← optionalName "unsafe"
  let isSafe ← if allowsSafe && risk.isEmpty then acceptName "safe" else pure false
  let convention ← TypeExpr.convention
  keyword "fn"
  let name ← identifier
  let generics ← Generics.read g
  let (inputs, unread) ← inside (← group .round) (inputs g)
  let output ← g.output true
  let conditions ← Generics.conditions g
  noteLeftover .round unread
  let start := const ++ async ++ risk ++ convention ++ "fn" :: name :: generics.words
  return (start ++ Bracket.round.around inputs ++ output ++ conditions, isSafe)

/-- The tokens without a name that may stand at their front. -/
def dropName (names : List String) (tokens : List Token) : List Token :=
  if Ahead.name names tokens then tokens.tail else tokens

/-- A signature begins here. -/
def begins (allowsSafe : Bool) : Ahead := fun tokens =>
  let tokens := dropName ["async"] (dropName ["const"] tokens)
  let tokens := dropName (if allowsSafe then ["safe", "unsafe"] else ["unsafe"]) tokens
  match tokens with
  | .name "extern" :: .text _ _ :: rest => Ahead.name ["fn"] rest
  | .name "extern" :: rest => Ahead.name ["fn"] rest
  | tokens => Ahead.name ["fn"] tokens

end SchemaCoverage.Declaration.Signature
