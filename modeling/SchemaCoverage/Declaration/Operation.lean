import SchemaCoverage.Declaration.Expression
/-!
Operations: what stands alone in an expression, what goes after it, and what operators make of it.
-/
namespace SchemaCoverage.Declaration.Expression

open SchemaCoverage.Declaration.Parser

/-- Reads a case of a choice between patterns. A comma follows it unless it ends with a block or is
the last. -/
def choiceCase (g : Grammar) : Parser (List String) := do
  let attributes ← Attribute.outer g
  let pattern ← Pattern.several g
  let guard ← if ← acceptName "if" then pure ("if" :: (← g.expression true).words) else pure []
  mark "=>"
  let body ← g.body
  let isLast ← peek .nothing
  let comma ←
    if body.kind = .block || isLast then optionalMark ","
    else do
      mark ","
      pure [","]
  return attributes ++ pattern.words ++ guard ++ "=>" :: body.words ++ comma

/-- Reads a choice between patterns. -/
def choice (g : Grammar) : Parser (List String) := do
  keyword "match"
  let value ← g.expression false
  let cases ← Attribute.enclosing g do
    return (← whileMore (!·.isEmpty) (choiceCase g)).flatten
  return "match" :: value.words ++ cases

/-- An expression that ends with a block begins here. -/
def blockFollows : Ahead := fun tokens =>
  Ahead.name ["if", "while", "loop", "match", "unsafe"] tokens || tryFollows tokens ||
    (Ahead.name ["for"] tokens && !closureFollows tokens) ||
    (Ahead.name ["const"] tokens && Ahead.second (.bracket .curly) tokens) ||
    Ahead.bracket .curly tokens || Ahead.lifetime tokens

/-- Reads an expression that ends with a block. -/
def ending (g : Grammar) : Parser Expression := do
  match ← ahead with
  | .name "if" :: _ => return ofBlock (← conditional g)
  | .name "while" :: _ => return ofBlock (← whileLoop g)
  | .name "for" :: _ => return ofBlock (← forLoop g)
  | .name "match" :: _ => return ofBlock (← choice g)
  | .name "try" :: _ =>
      skip 1
      return ofBlock ("try" :: (← g.block))
  | .name name :: _ => return ofBlock (← keywordBlock g name)
  | .lifetime _ :: _ => return ofBlock (← labelled g)
  | _ => return ofBlock (← Attribute.block g)

/-- Reads what stands alone in an expression. -/
def atom (g : Grammar) (records : Bool) : Parser Expression := do
  let tokens ← ahead
  if Ahead.literal tokens then return ofWords (← literal)
  else if asyncFollows tokens then
    skip 1
    let move ← optionalName "move"
    return ofWords ("async" :: move ++ (← g.block))
  else if blockFollows tokens then ending g
  else if closureFollows tokens then return ofWords (← closure g records)
  else if Ahead.name ["builtin"] tokens && Ahead.second (.mark "#") tokens then builtin
  else if pathFollows tokens then ofPath g records
  else if Ahead.bracket .round tokens then return ofWords (← enclosed .round (listWords g))
  else if Ahead.name ["break"] tokens then return ofWords (← breaking g records)
  else if ← acceptName "continue" then return ofWords ("continue" :: (← optionalLifetime))
  else if Ahead.name ["return"] tokens then return ofWords (← leaving g "return")
  else if ← acceptName "become" then
    discard (g.expression true)
    return ofRaw (rawWords (tokens.take (tokens.length - (← ahead).length)))
  else if Ahead.bracket .square tokens then return ofWords (← enclosed .square (elements g))
  else if Ahead.name ["let"] tokens then return ofWords (← binding g records)
  else if Ahead.name ["yield"] tokens then return ofWords (← leaving g "yield")
  else if Ahead.mark ".." tokens then return { words := ← rangeAfter g records, kind := .range }
  else if Ahead.name ["_"] tokens then return ofWords [← anyName]
  else failExpecting "an expression"

/-- Takes the numbers of elements that are written together like a number with a point, if they are
next. A point ends them if a member follows. -/
def elementNumbers : Parser (List String) := do
  match ← ahead with
  | .number written :: _ =>
      if Number.isFraction written.toList then
        skip 1
        let parts ← (written.splitOn ".").mapM fun part =>
          if part.isEmpty then pure part else elementNumber part
        return (parts.intersperse ".").filter (!·.isEmpty)
      else return []
  | _ => return []

/-- Reads a member after its point: an element by its number, a field, a call of a method, or what
waits for the value. -/
def member (g : Grammar) : Parser (List String) := do
  mark "."
  let numbers ← elementNumbers
  let start := "." :: numbers
  if numbers.getLast?.any (· != ".") then return start
  if ← acceptName "await" then return start ++ ["await"]
  let (name, isName) ← memberOfValue
  let angles ← if isName && (← peek (.mark "::")) then Path.turbofish g else pure []
  if isName && (!angles.isEmpty || (← peek (.bracket .round))) then
    return start ++ name :: angles ++ (← enclosed .round (listWords g))
  else return start ++ [name]

/-- Something goes after an operand: arguments, an index, a member or a question mark. -/
def suffixFollows (operand : Expression) : Ahead := fun tokens =>
  Ahead.bracket .round tokens || Ahead.bracket .square tokens ||
    (operand.kind ≠ .range && (Ahead.point tokens || Ahead.mark "?" tokens))

/-- Reads what goes after an operand. -/
def suffix (g : Grammar) (operand : Expression) : Parser Expression := do
  let tokens ← ahead
  let words ←
    if Ahead.bracket .round tokens then enclosed .round (listWords g)
    else if Ahead.bracket .square tokens then
      enclosed .square (return (← g.expression true).words)
    else if Ahead.mark "?" tokens then do
      mark "?"
      pure ["?"]
    else member g
  return ofWords (operand.words ++ words)

/-- Reads all that goes after an operand. -/
def suffixes (g : Grammar) (operand : Expression) : Parser Expression :=
  extendWhile suffixFollows (suffix g) operand

/-- Reads what takes the address of an operand. -/
def address (g : Grammar) (records : Bool) : Parser (List String) := do
  mark "&"
  let access : Ahead := .name ["mut", "const"]
  let raw ←
    if ← peek fun tokens => Ahead.name ["raw"] tokens && Ahead.second access tokens then
      optionalName "raw"
    else pure []
  let access ← optionalName "mut"
  let access ←
    if !raw.isEmpty && access.isEmpty then do
      keyword "const"
      pure ["const"]
    else pure access
  return "&" :: raw ++ access ++ (← g.operand records).words

/-- Reads an operand with what goes before and after it. -/
def operand (g : Grammar) (records : Bool) : Parser Expression := do
  let start ← ahead
  let attributes ← Attribute.outer g
  let tokens ← ahead
  if Ahead.mark "&" tokens then return ofWords (attributes ++ (← address g records))
  else
    match ["*", "!", "-"].find? (Ahead.mark · tokens) with
    | some sign =>
        mark sign
        return ofWords (attributes ++ sign :: (← g.operand records).words)
    | none =>
        let value ← suffixes g (← atom g records)
        if value.kind = .raw then return ofRaw (← rawSince start)
        if value.kind = .range && !attributes.isEmpty then reject .attributeOnRange
        return { value with words := attributes ++ value.words }

/-- Fails if something follows a cast that binds tighter. -/
def checkCast : Parser Unit := do
  let tokens ← ahead
  if Ahead.point tokens then
    let calls : Ahead := fun rest => Ahead.bracket .round rest || Ahead.mark "::" rest
    if Ahead.second (.name ["await"]) tokens then reject (.castBefore "`.await`")
    else if Ahead.second .identifier tokens && Ahead.third calls tokens then
      reject (.castBefore "a method call")
    else reject (.castBefore "a field access")
  if Ahead.mark "?" tokens then reject (.castBefore "`?`")
  if Ahead.bracket .square tokens then reject (.castBefore "indexing")
  if Ahead.bracket .round tokens then reject (.castBefore "a function call")

/-- Reads an operator after its left side, with its right side. -/
def applied (g : Grammar) (records : Bool) (left : Expression) : Operator → Parser Expression
  | .binary spelling precedence => do
      if precedence = .compare && left.kind = .comparison then reject .comparisonChain
      mark spelling
      let right ← rightSide g records precedence
      let kind := if precedence = .compare then .comparison else .other
      return { left with words := left.words ++ spelling :: right.words, kind }
  | .assign => do
      mark "="
      let right ← rightSide g records .assign
      return { left with words := left.words ++ "=" :: right.words, kind := .other }
  | .range => return { words := left.words ++ (← rangeAfter g records), kind := .range }
  | .cast => do
      keyword "as"
      let type ← g.type false
      checkCast
      return { left with words := left.words ++ "as" :: type.words, kind := .other }

/-- An operator of some precedence or a tighter one follows. A range is no left side. -/
def operatorFollows (base : Precedence) (left : Expression) : Ahead := fun tokens =>
  left.kind ≠ .range &&
    (Operator.ahead? tokens).any fun operator => base.rank ≤ operator.precedence.rank

/-- Reads operators of some precedence or a tighter one, with what follows them. -/
def operation (g : Grammar) (records : Bool) (base : Precedence) (left : Expression) :
    Parser Expression :=
  extendWhile (operatorFollows base) (fun left => do
    match Operator.ahead? (← ahead) with
    | some operator => applied g records left operator
    | none => return left) left

/-- Reads an expression; with the flag, fields may follow a path in curly braces. -/
def read (g : Grammar) (records : Bool) : Parser Expression := do
  operation g records .lowest (← operand g records)

/-- Reads an expression in the place of a statement: where it ends with a block, only a member or a
question mark goes on with it. -/
def body (g : Grammar) : Parser Expression := do
  let attributes ← Attribute.outer g
  let first ← if ← peek blockFollows then ending g else operand g true
  if first.kind ≠ .block then operation g true .lowest (first.withAttributes attributes)
  else if ← peek fun tokens => Ahead.point tokens || Ahead.mark "?" tokens then
    let value ← suffixes g first
    operation g true .lowest (value.withAttributes attributes)
  else return first.withAttributes attributes

end SchemaCoverage.Declaration.Expression
