import SchemaCoverage.Declaration.Ahead
import SchemaCoverage.Declaration.Fault
/-!
Reading tokens from the front, with the fault that ended the reading if it failed. What is left
unread between brackets is a fault as well, but only if nothing else is.
-/
namespace SchemaCoverage.Declaration

/-- What is left to read. -/
structure Input where
  tokens : List Token
  /-- The first brackets in which something was left unread. -/
  leftover : Option Bracket
deriving Repr

/-- Reads from the front of the tokens, or fails. -/
abbrev Parser := StateT Input (Except Fault)

namespace Parser

/-- The tokens ahead. -/
def ahead : Parser (List Token) :=
  return (← get).tokens

/-- A test of the tokens ahead holds. -/
def peek (test : Ahead) : Parser Bool :=
  return test (← ahead)

/-- Goes on with other tokens. -/
def goTo (tokens : List Token) : Parser Unit :=
  modify fun input => { input with tokens }

/-- Takes the next tokens. -/
def skip (count : Nat) : Parser Unit :=
  modify fun input => { input with tokens := input.tokens.drop count }

/-- Fails since something may not stand where it does. -/
def reject {α : Type} (problem : Misuse) : Parser α :=
  throw (.misuse problem)

/-- Fails since something else should stand here. -/
def failExpecting {α : Type} (what : String) : Parser α := do
  throw (if ← peek .nothing then .endedBefore what else .expected what)

/-- What may stand in a place, in words. -/
def alternatives : List String → String
  | [] => ""
  | [only] => only
  | [first, second] => first ++ " or " ++ second
  | several => "one of: " ++ ", ".intercalate several

/-- Fails since one of some things should stand here. -/
def failExpectingOne {α : Type} (names : List String) : Parser α :=
  failExpecting (alternatives names)

/-- Fails since nothing known stands here. -/
def failUnexpected {α : Type} : Parser α := do
  throw (.unexpected (if ← peek .nothing then "end of input" else "token"))

/-- An operator in the form in which faults name it. -/
def inQuotes (text : String) : String :=
  "`" ++ text ++ "`"

/-- Takes an operator. -/
def mark (operator : String) : Parser Unit := do
  if ← peek (.mark operator) then skip operator.length
  else throw (.expected (inQuotes operator))

/-- Takes an operator if it is next, and tells whether it was. -/
def acceptMark (operator : String) : Parser Bool := do
  if ← peek (.mark operator) then
    skip operator.length
    return true
  else return false

/-- The word of an operator, which is taken if it is next. -/
def optionalMark (operator : String) : Parser (List String) :=
  return if ← acceptMark operator then [operator] else []

/-- Takes a name if it is next, and tells whether it was. -/
def acceptName (name : String) : Parser Bool := do
  if ← peek (.name [name]) then
    skip 1
    return true
  else return false

/-- The word of a keyword, which is taken if it is next. -/
def optionalName (name : String) : Parser (List String) :=
  return if ← acceptName name then [name] else []

/-- Takes a keyword. -/
def keyword (name : String) : Parser Unit := do
  unless ← acceptName name do failExpecting (inQuotes name)

/-- Takes any name. -/
def anyName : Parser String := do
  match ← ahead with
  | .name text :: _ =>
      skip 1
      return text
  | _ => failExpecting "ident"

/-- Takes an identifier. -/
def identifier : Parser String := do
  match ← ahead with
  | .name text :: _ =>
      if text ∈ keywords then throw (.expected ("identifier, found keyword " ++ inQuotes text))
      skip 1
      return text
  | _ => failExpecting "identifier"

/-- Takes a lifetime. -/
def lifetime : Parser String := do
  match ← ahead with
  | .lifetime text :: _ =>
      skip 1
      return text
  | _ => failExpecting "lifetime"

/-- The word of a lifetime, which is taken if it is next. -/
def optionalLifetime : Parser (List String) := do
  if ← peek .lifetime then return [← lifetime] else return []

/-- The words of a string literal, which is taken if it is next. -/
def optionalText : Parser (List String) := do
  match ← ahead with
  | .text written _ :: _ =>
      skip 1
      return [written]
  | _ => return []

/-- Takes a literal, which may be a truth value or a number after a minus sign. -/
def literal : Parser (List String) := do
  match ← ahead with
  | .text written _ :: _ | .literal written :: _ | .number written :: _ =>
      skip 1
      return [written]
  | .mark '-' _ :: .number written :: _ =>
      skip 2
      return ["-", written]
  | .name text :: _ =>
      if text ∈ ["true", "false"] then
        skip 1
        return [text]
      else failExpecting "literal"
  | _ => failExpecting "literal"

/-- The name of a pair of brackets. -/
def bracketTitle : Bracket → String
  | .round => "parentheses"
  | .square => "square brackets"
  | .curly => "curly braces"

/-- Takes brackets with all between them, and gives what is between them. -/
def group (bracket : Bracket) : Parser (List Token) := do
  match ← ahead with
  | .opening found :: rest =>
      if found = bracket then
        let (inner, after) := splitAtClosing 0 rest
        goTo after
        return inner
      else throw (.expected (bracketTitle bracket))
  | _ => failExpecting (bracketTitle bracket)

/-- Takes brackets of any kind with all between them, which is not looked into. -/
def anyGroup : Parser (Bracket × List String) := do
  match ← ahead with
  | .opening bracket :: _ => return (bracket, bracket.around (rawWords (← group bracket)))
  | _ => failExpecting "delimiter"

/-- Remembers that something was left unread between brackets. -/
def noteLeftover (bracket : Bracket) (unread : List Token) : Parser Unit :=
  modify fun input =>
    { input with leftover := input.leftover <|> if unread.isEmpty then none else some bracket }

/-- Reads what stands between brackets, and gives what is left of it too. -/
def inside {α : Type} (inner : List Token) (item : Parser α) : Parser (α × List Token) := do
  let outer ← ahead
  goTo inner
  let result ← item
  let unread ← ahead
  goTo outer
  return (result, unread)

/-- Reads what stands between brackets. -/
def inBrackets {α : Type} (bracket : Bracket) (item : Parser α) : Parser α := do
  let (result, unread) ← inside (← group bracket) item
  noteLeftover bracket unread
  return result

/-- The words of what is read between brackets, with the brackets. -/
def enclosed (bracket : Bracket) (item : Parser (List String)) : Parser (List String) :=
  return bracket.around (← inBrackets bracket item)

/-- Reads all of some tokens. -/
def readAll {α : Type} (tokens : List Token) (item : Parser α) : Except Fault α := do
  let (result, rest) ← item.run ⟨tokens, none⟩
  match rest.leftover with
  | some bracket => throw (.unexpected ("token, expected " ++ inQuotes bracket.words.2))
  | none => if rest.tokens.isEmpty then return result else throw (.unexpected "token")

/-- Reads an item if that succeeds, and else nothing. -/
def attempt {α : Type} (item : Parser α) : Parser (Option α) := fun input =>
  match item.run input with
  | .ok (result, rest) => .ok (some result, rest)
  | .error _ => .ok (none, input)

/-- The words of the tokens that were taken since some others stood ahead. -/
def rawSince (start : List Token) : Parser (List String) := do
  return rawWords (start.take (start.length - (← ahead).length))

/-- Reads items until one says that it is the last. An item that takes no token is the last. -/
def untilLast {α : Type} (item : Parser (α × Bool)) : Parser (List α) := fun input =>
  match item input with
  | .error fault => .error fault
  | .ok ((first, goesOn), rest) =>
      if goesOn && rest.tokens.length < input.tokens.length then
        match untilLast item rest with
        | .error fault => .error fault
        | .ok (others, rest) => .ok (first :: others, rest)
      else .ok ([first], rest)
termination_by input => input.tokens.length
decreasing_by simp_all

/-- Reads items as long as there is another one. -/
def whileMore {α : Type} (more : Ahead) (item : Parser α) : Parser (List α) := do
  if ← peek more then untilLast (return (← item, ← peek more)) else return []

/-- Makes more of a value as long as there is more to it; a step that takes no token is the last. -/
def extendWhile {α : Type} (more : α → Ahead) (step : α → Parser α) (value : α) : Parser α :=
  fun input =>
    if more value input.tokens then
      match step value input with
      | .error fault => .error fault
      | .ok (next, rest) =>
          if rest.tokens.length < input.tokens.length then extendWhile more step next rest
          else .ok (next, rest)
    else .ok (value, input)
termination_by input => input.tokens.length

/-- Reads items with an operator between them until a test holds; the operator may stand after the
last one too. It tells which items it follows. -/
def separated {α : Type} (operator : String) (stop : Ahead) (item : Parser α) :
    Parser (List (α × Bool)) :=
  whileMore (!stop ·) do
    let value ← item
    if ← peek stop then return (value, false)
    mark operator
    return (value, true)

/-- Reads items with commas between them to the end of the tokens. -/
def commaList {α : Type} (item : Parser α) : Parser (List (α × Bool)) :=
  separated "," .nothing item

/-- The words of items with an operator after each that one follows. -/
def separatedWords (operator : String) (items : List (List String × Bool)) : List String :=
  items.flatMap fun (words, follows) => if follows then words ++ [operator] else words

/-- The words of items with commas between them up to the end of the tokens. -/
def commaWords (item : Parser (List String)) : Parser (List String) :=
  return separatedWords "," (← commaList item)

/-- The words of items with an operator between them. After an operator a test tells whether there
is another item. -/
def linkedWords (operator : String) (goesOn : Ahead) (item : Parser (List String)) :
    Parser (List String) := do
  let parts ← untilLast do
    let words ← item
    if ← acceptMark operator then return (words ++ [operator], ← peek goesOn)
    else return (words, false)
  return parts.flatten

/-- A segment of a path without arguments begins here. -/
def segmentBegins : Ahead := fun tokens =>
  Ahead.identifier tokens || Ahead.name Ahead.pathRoots tokens

/-- The segments of a path without arguments; it begins with two colons or not. -/
def plainPath : Parser (Bool × List String) := do
  let leading ← acceptMark "::"
  unless ← peek segmentBegins do return (leading, [← identifier])
  let segments ← untilLast do
    let name ← anyName
    let divided ← acceptMark "::"
    return ((name, divided), divided && (← peek segmentBegins))
  if segments.getLast?.any Prod.snd then failExpecting "path segment after `::`"
  return (leading, segments.map Prod.fst)

/-- The words of a path without arguments. -/
def plainPathWords (leading : Bool) (segments : List String) : List String :=
  (if leading then ["::"] else []) ++ segments.intersperse "::"

end Parser

end SchemaCoverage.Declaration
