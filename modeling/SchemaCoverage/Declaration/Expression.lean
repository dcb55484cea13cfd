import SchemaCoverage.Declaration.Operator
import SchemaCoverage.Declaration.Pattern
/-!
Expressions: operands with what goes after them, and operators between operands.
-/
namespace SchemaCoverage.Declaration.Expression

open SchemaCoverage.Declaration.Parser

/-- An expression of some words of which nothing else has to be known. -/
def ofWords (words : List String) : Expression := { words }

/-- An expression that ends with a block. -/
def ofBlock (words : List String) : Expression := { words, kind := .block }

/-- An expression whose tokens are kept as they are written. -/
def ofRaw (words : List String) : Expression := { words, kind := .raw, losesAttributes := true }

/-- The expression with attributes before it. A range is put in parentheses, so that they belong to
all of it. -/
def withAttributes (expression : Expression) (attributes : List String) : Expression :=
  if attributes.isEmpty || expression.losesAttributes then expression
  else if expression.kind = .range then
    { expression with words := attributes ++ Bracket.round.around expression.words }
  else { expression with words := attributes ++ expression.words }

/-- The words of expressions with commas between them up to the end of the tokens. -/
def listWords (g : Grammar) : Parser (List String) :=
  commaWords (return (← g.expression true).words)

/-- An expression may begin here. -/
def begins : Ahead := fun tokens =>
  (Ahead.anyName tokens && !Ahead.name ["as"] tokens) || Ahead.bracket .round tokens ||
    Ahead.bracket .square tokens || Ahead.bracket .curly tokens || Ahead.literal tokens ||
    Ahead.lifetime tokens || Ahead.call tokens || Ahead.angle tokens ||
    Ahead.anyMark ["..", "::", "#"] tokens ||
    (Ahead.mark "-" tokens && !Ahead.anyMark ["-=", "->"] tokens) ||
    (Ahead.mark "*" tokens && !Ahead.mark "*=" tokens) ||
    (Ahead.mark "|" tokens && !Ahead.mark "|=" tokens) ||
    (Ahead.mark "&" tokens && !Ahead.mark "&=" tokens)

/-- Reads a field of a record: a member with a value, or a name that stands for both. -/
def field (g : Grammar) : Parser (List String) := do
  let attributes ← Attribute.outer g
  let (name, isName) ← memberOfValue
  if (← peek (.mark ":")) || !isName then
    mark ":"
    return attributes ++ name :: ":" :: (← g.expression true).words
  else return attributes ++ [name]

/-- Reads a field of a record with the comma after it, or two points with the record from which the
others are taken. It tells whether another field may follow. -/
def fieldPart (g : Grammar) : Parser (List String × Bool) := do
  if ← acceptMark ".." then
    if ← peek .nothing then return ([".."], false)
    else return (".." :: (← g.expression true).words, false)
  let words ← field g
  if ← peek .nothing then return (words, false)
  mark ","
  return (words ++ [","], !(← peek .nothing))

/-- Reads the fields of a record. -/
def fields (g : Grammar) : Parser (List String) := do
  if ← peek .nothing then return []
  return (← untilLast (fieldPart g)).flatten

/-- Reads what begins with a path: a call with an exclamation mark, a record, or the path alone. -/
def ofPath (g : Grammar) (records : Bool) : Parser Expression := do
  let path ← Path.read g true
  let tokens ← ahead
  if !path.isQualified && path.isPlain && Ahead.call tokens then
    mark "!"
    let (bracket, inner) ← anyGroup
    return { words := path.words ++ "!" :: inner, kind := .call (bracket == .curly) }
  else if records && Ahead.bracket .curly tokens then
    return ofWords (path.words ++ (← enclosed .curly (fields g)))
  else return ofWords path.words

/-- Reads what stands in square brackets: elements, or one element and their number. -/
def elements (g : Grammar) : Parser (List String) := do
  if ← peek .nothing then return []
  let first ← g.expression true
  if ← peek .nothing then return first.words
  else if ← acceptMark "," then return first.words ++ "," :: (← listWords g)
  else if ← acceptMark ";" then return first.words ++ ";" :: (← g.expression true).words
  else throw (.expected "`,` or `;`")

/-- Reads conditions with a block for each, and perhaps a block for all other cases. -/
def conditional (g : Grammar) : Parser (List String) := do
  let parts ← untilLast do
    keyword "if"
    let condition ← g.expression false
    let body ← g.block
    let words := "if" :: condition.words ++ body
    if ← acceptName "else" then
      if ← peek (.name ["if"]) then return (words ++ ["else"], true)
      else if ← peek (.bracket .curly) then return (words ++ "else" :: (← g.block), false)
      else failExpectingOne ["`if`", "curly braces"]
    else return (words, false)
  return parts.flatten

/-- Reads a loop that goes on while a condition holds. -/
def whileLoop (g : Grammar) : Parser (List String) := do
  keyword "while"
  let condition ← g.expression false
  return "while" :: condition.words ++ (← Attribute.block g)

/-- Reads a loop over values. -/
def forLoop (g : Grammar) : Parser (List String) := do
  keyword "for"
  let pattern ← Pattern.several g
  keyword "in"
  let values ← g.expression false
  return "for" :: pattern.words ++ "in" :: values.words ++ (← Attribute.block g)

/-- Reads a keyword and a block, which may have attributes of its own. -/
def keywordBlock (g : Grammar) (name : String) : Parser (List String) := do
  keyword name
  return name :: (← Attribute.block g)

/-- Reads a loop or a block after its label. -/
def labelled (g : Grammar) : Parser (List String) := do
  let label ← lifetime
  mark ":"
  let tokens ← ahead
  let words ←
    if Ahead.name ["while"] tokens then whileLoop g
    else if Ahead.name ["for"] tokens then forLoop g
    else if Ahead.name ["loop"] tokens then keywordBlock g "loop"
    else if Ahead.bracket .curly tokens then Attribute.block g
    else failExpecting "loop or block expression"
  return label :: ":" :: words

/-- Reads the value after a keyword that leaves a block, if there is one. -/
def leaving (g : Grammar) (name : String) : Parser (List String) := do
  keyword name
  if ← peek begins then return name :: (← g.expression true).words else return [name]

/-- Reads what leaves a loop or a block, with its label and its value. -/
def breaking (g : Grammar) (records : Bool) : Parser (List String) := do
  keyword "break"
  let tokens ← ahead
  if Ahead.lifetime tokens && Ahead.second (.mark ":") tokens then
    discard (g.expression true)
    reject .labelAfterBreak
  let label ← optionalLifetime
  let follows : Ahead := fun tokens =>
    begins tokens && (records || !Ahead.bracket .curly tokens)
  let value ← if ← peek follows then pure (← g.expression true).words else pure []
  return "break" :: label ++ value

/-- Reads an input of a closure. -/
def closureInput (g : Grammar) : Parser (List String) := do
  let attributes ← Attribute.outer g
  let pattern ← Pattern.read g
  if ← acceptMark ":" then
    return attributes ++ pattern.words ++ ":" :: (← g.type true).words
  else if pattern.kind = .raw then return pattern.words
  else return attributes ++ pattern.words

/-- Reads a closure. -/
def closure (g : Grammar) (records : Bool) : Parser (List String) := do
  let binder ← Generics.binder g
  let const ← optionalName "const"
  let static ← optionalName "static"
  let async ← optionalName "async"
  let move ← optionalName "move"
  mark "|"
  let inputs ← separated "," (.mark "|") (closureInput g)
  mark "|"
  let start := binder ++ const ++ static ++ async ++ move ++
    "|" :: separatedWords "," inputs ++ ["|"]
  if ← peek (.mark "->") then
    let output ← g.output true
    return start ++ output ++ (← g.block)
  else return start ++ (← g.expression records).words

/-- A closure begins here. -/
def closureFollows : Ahead := fun tokens =>
  Ahead.mark "|" tokens || Ahead.name ["move", "static"] tokens ||
    (Ahead.name ["for"] tokens && Ahead.second Generics.begins tokens) ||
    (Ahead.name ["const"] tokens && !Ahead.second (.bracket .curly) tokens) ||
    (Ahead.name ["async"] tokens &&
      Ahead.second (fun rest => Ahead.mark "|" rest || Ahead.name ["move"] rest) tokens)

/-- A block that waits begins here. -/
def asyncFollows : Ahead := fun tokens =>
  Ahead.name ["async"] tokens &&
    (Ahead.second (.bracket .curly) tokens ||
      (Ahead.second (.name ["move"]) tokens && Ahead.third (.bracket .curly) tokens))

/-- A block that may fail begins here. -/
def tryFollows : Ahead := fun tokens =>
  Ahead.name ["try"] tokens && Ahead.second (.bracket .curly) tokens

/-- A path begins here. -/
def pathFollows : Ahead := fun tokens =>
  Ahead.path tokens || Ahead.mark "<" tokens ||
    (Ahead.name ["try"] tokens && Ahead.second (.anyMark ["!", "::"]) tokens)

/-- Reads a call of what the language itself has; its tokens are kept as they are written. -/
def builtin : Parser Expression := do
  let start ← ahead
  skip 1
  mark "#"
  discard identifier
  discard (group .round)
  return ofRaw (← rawSince start)

/-- A value stands neither before nor after the points of a range. -/
def rangeIsOpen (records : Bool) : Ahead := fun tokens =>
  tokens.isEmpty || Ahead.point tokens || Ahead.name ["as"] tokens ||
    Ahead.anyMark [",", ";", "?", "=", "+", "/", "%", "^", ">", "<=", "!=", "-=", "*=", "&=", "|=",
      "<<="] tokens ||
    (!records && Ahead.bracket .curly tokens)

/-- Reads the right side of an operator, which takes with it all operators that bind tighter. -/
def rightSide (g : Grammar) (records : Bool) (precedence : Precedence) :
    Parser Expression := do
  let tighter : Expression → Ahead := fun _ tokens =>
    let next := Operator.precedenceAhead tokens
    precedence.rank < next.rank || (next = .assign && precedence = .assign)
  extendWhile tighter (fun side => do
    g.operation records (Operator.precedenceAhead (← ahead)) side) (← g.operand records)

/-- Reads the points of a range and its end, if it has one. -/
def rangeAfter (g : Grammar) (records : Bool) : Parser (List String) := do
  let points ← rangePoints
  if points == ".." && (← peek (rangeIsOpen records)) then return [points]
  else return points :: (← rightSide g records .range).words

/-- Reads the condition that a value matches a pattern. -/
def binding (g : Grammar) (records : Bool) : Parser (List String) := do
  keyword "let"
  let pattern ← Pattern.several g
  mark "="
  let value ← g.operation records .compare (← g.operand records)
  return "let" :: pattern.words ++ "=" :: value.words

end SchemaCoverage.Declaration.Expression
