import SchemaCoverage.Declaration.Literal
import SchemaCoverage.Declaration.Number
import SchemaCoverage.Declaration.Token
import SchemaCoverage.Text.CodePoints
/-!
Splitting the source text of a declaration into tokens. A documentation comment is an attribute,
any other comment is blank.
-/
namespace SchemaCoverage.Declaration

/-- Some tokens and the text after them. -/
abbrev Lexed := List Token × List Char

/-- A blank between tokens. -/
def isGap (c : Char) : Bool :=
  Text.isBlank c || c == '\u200e' || c == '\u200f'

/-- A character of an operator. -/
def isMark (c : Char) : Bool :=
  c ∈ "~!@#$%^&*-=+|;:,<.>/?'".toList

/-- The text begins a comment. -/
def beginsComment (text : List Char) : Bool :=
  "//".toList.isPrefixOf text || "/*".toList.isPrefixOf text

/-- The text up to the end of the line, and what follows. -/
def restOfLine : List Char → List Char × List Char
  | [] => ([], [])
  | '\n' :: rest => ([], '\n' :: rest)
  | '\r' :: '\n' :: rest => ([], '\n' :: rest)
  | c :: rest =>
      let (line, after) := restOfLine rest
      (c :: line, after)

/-- What stands in a comment between two signs, inside of which `depth` more are open, and what
follows it. -/
def commentBody (depth : Nat) : List Char → Option (List Char × List Char)
  | [] => none
  | '/' :: '*' :: rest =>
      (commentBody (depth + 1) rest).map fun (body, rest) => ('/' :: '*' :: body, rest)
  | '*' :: '/' :: rest =>
      match depth with
      | 0 => some ([], rest)
      | depth + 1 =>
          (commentBody depth rest).map fun (body, rest) => ('*' :: '/' :: body, rest)
  | c :: rest => (commentBody depth rest).map fun (body, rest) => (c :: body, rest)

/-- Every carriage return stands before a line feed. -/
def endsLinesWell : List Char → Bool
  | [] => true
  | '\r' :: rest => rest.head? == some '\n' && endsLinesWell rest
  | _ :: rest => endsLinesWell rest

/-- The attribute that a documentation comment stands for; an inner one belongs to what is around
it. -/
def documentation? (inner : Bool) (text : List Char) : Option (List Token) :=
  if endsLinesWell text then
    let value := String.ofList text
    some ([.mark '#' false] ++ (if inner then [.mark '!' false] else []) ++
      [.opening .square, .name "doc", .mark '=' false, .text (writeLiteral value) value,
        .closing .square])
  else none

/-- A comment. -/
def comment? : List Char → Option Lexed
  | '/' :: '/' :: rest =>
      let (line, after) := restOfLine rest
      match line with
      | '!' :: text => (documentation? true text).map (·, after)
      | '/' :: '/' :: _ => some ([], after)
      | '/' :: text => (documentation? false text).map (·, after)
      | _ => some ([], after)
  | '/' :: '*' :: rest => do
      let (body, after) ← commentBody 0 rest
      match body with
      | '!' :: text => (documentation? true text).map (·, after)
      | '*' :: '*' :: _ => some ([], after)
      | ['*'] => some ([], after)
      | '*' :: text => (documentation? false text).map (·, after)
      | _ => some ([], after)
  | _ => none

/-- What stands in a text before a rest of it. -/
def before (text rest : List Char) : String :=
  String.ofList (text.take (text.length - rest.length))

/-- What follows a suffix that may touch a literal. -/
def afterSuffix (text : List Char) : List Char :=
  (Text.identifierRun text).2

/-- A string literal with the text that it stands for. -/
def string? (source : List Char) : Option Lexed := do
  let (text, rest) ← delimitedText .characters source
  let rest := afterSuffix rest
  return ([.text (before source rest) (String.ofList text)], rest)

/-- What follows a literal of bytes or of a single character. -/
def literalEnd (source : List Char) : Option (List Char) :=
  match source with
  | 'b' :: rest => (delimitedText .bytes rest).map Prod.snd <|> characterEnd .bytes rest
  | 'c' :: rest => (delimitedText .zeroEnded rest).map Prod.snd
  | rest => characterEnd .characters rest

/-- A literal of bytes or of a single character. -/
def literal? (source : List Char) : Option Lexed := do
  let rest := afterSuffix (← literalEnd source)
  return ([.literal (before source rest)], rest)

/-- A number. -/
def number? (source : List Char) : Option Lexed := do
  let rest ← Number.numberEnd source
  return ([.number (before source rest)], rest)

/-- The names that no mark makes an identifier. -/
def reservedNames : List String := ["_", "super", "self", "Self", "crate"]

/-- A name, and what follows it. -/
def nameRun (source : List Char) : Option (String × List Char) :=
  match source with
  | 'r' :: '#' :: rest =>
      let (name, after) := Text.identifierRun rest
      if name.isEmpty || String.ofList name ∈ reservedNames then none
      else some (String.ofList ('r' :: '#' :: name), after)
  | _ =>
      let (name, after) := Text.identifierRun source
      if name.isEmpty then none else some (String.ofList name, after)

/-- What begins a literal and so no name. -/
def literalBeginnings : List String :=
  ["r\"", "r#\"", "r##", "b\"", "b'", "br\"", "br#", "c\"", "cr\"", "cr#"]

/-- An identifier or a keyword. -/
def name? (source : List Char) : Option Lexed :=
  if literalBeginnings.any fun beginning => beginning.toList.isPrefixOf source then none
  else (nameRun source).map fun (name, after) => ([.name name], after)

/-- A lifetime. -/
def lifetime? : List Char → Option Lexed
  | '\'' :: rest => do
      let (name, after) ← nameRun rest
      match after with
      | '\'' :: _ => none
      | '#' :: _ =>
          if rest.take 2 == ['r', '#'] then some ([.lifetime ("'" ++ name)], after) else none
      | _ => some ([.lifetime ("'" ++ name)], after)
  | _ => none

/-- The comment that stands for a literal that could not be written. -/
def unwritten : String := "(/*ERROR*/)"

/-- A literal that could not be written. -/
def unwritten? (source : List Char) : Option Lexed :=
  if unwritten.toList.isPrefixOf source then
    some ([.literal unwritten], source.drop unwritten.length)
  else none

/-- A bracket. -/
def bracket? : List Char → Option Lexed
  | '(' :: rest => some ([.opening .round], rest)
  | '[' :: rest => some ([.opening .square], rest)
  | '\x7b' :: rest => some ([.opening .curly], rest)
  | ')' :: rest => some ([.closing .round], rest)
  | ']' :: rest => some ([.closing .square], rest)
  | '\x7d' :: rest => some ([.closing .curly], rest)
  | _ => none

/-- A character of an operator. It touches the next one if nothing stands between them. -/
def mark? : List Char → Option Lexed
  | '\'' :: _ => none
  | c :: rest =>
      if isMark c && !beginsComment (c :: rest) then
        some ([.mark c (rest.head?.any isMark && !beginsComment rest)], rest)
      else none
  | [] => none

/-- A blank. -/
def gap? : List Char → Option Lexed
  | c :: rest => if isGap c then some ([], rest) else none
  | [] => none

/-- What stands at the front of the text. -/
def lexOne (text : List Char) : Option Lexed :=
  gap? text <|> comment? text <|> unwritten? text <|> bracket? text <|> string? text <|>
    literal? text <|> number? text <|> lifetime? text <|> mark? text <|> name? text

/-- The tokens of a text, if all of it is tokens. -/
def lexAll (text : List Char) : Option (List Token) :=
  match text with
  | [] => some []
  | c :: tail =>
      match lexOne (c :: tail) with
      | none => none
      | some (tokens, rest) =>
          if rest.length ≤ tail.length then (lexAll rest).map (tokens ++ ·) else none
termination_by text.length

/-- Every closing bracket is of the kind that was opened last, and none stays open. -/
def isBalanced : List Bracket → List Token → Bool
  | opened, [] => opened.isEmpty
  | opened, .opening bracket :: rest => isBalanced (bracket :: opened) rest
  | [], .closing _ :: _ => false
  | last :: opened, .closing bracket :: rest => last == bracket && isBalanced opened rest
  | opened, _ :: rest => isBalanced opened rest

/-- The tokens of a source text, with balanced brackets. A byte order mark may come first. -/
def lex (source : String) : Option (List Token) :=
  let text :=
    match source.toList with
    | '\ufeff' :: text => text
    | text => text
  (lexAll text).filter (isBalanced [])

end SchemaCoverage.Declaration
