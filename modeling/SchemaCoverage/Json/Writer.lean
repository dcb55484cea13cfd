import SchemaCoverage.Json.Value
/-!
Writing JSON texts, on one line or indented by two columns for each level.
-/
namespace SchemaCoverage.Json

/-- A character as it stands in a string. Control characters and the two marks have escapes. -/
def escapeChar (c : Char) : List Char :=
  if c = '"' ∨ c = '\\' then ['\\', c]
  else if c = '\x08' then ['\\', 'b']
  else if c = '\x0c' then ['\\', 'f']
  else if c = '\n' then ['\\', 'n']
  else if c = '\r' then ['\\', 'r']
  else if c = '\t' then ['\\', 't']
  else if c.toNat < 0x20 then
    ['\\', 'u', '0', '0', Nat.digitChar (c.toNat / 16), Nat.digitChar (c.toNat % 16)]
  else [c]

/-- A text as a string. -/
def quote (text : String) : String :=
  String.ofList ('"' :: text.toList.flatMap escapeChar ++ ['"'])

/-- A string; one that has no text is written as the replacement character. -/
def quoteAny (text : Option String) : String :=
  quote (text.getD "\ufffd")

/-- A value that has no parts. -/
def scalarText : Json → String
  | .bool true => "true"
  | .bool false => "false"
  | .number _ => "0"
  | .string text => quoteAny text
  | _ => "null"

mutual

/-- The value on one line, without blanks. -/
def compact : Json → String
  | .array items => "[" ++ ",".intercalate (compactItems items) ++ "]"
  | .object members => "\x7b" ++ ",".intercalate (compactMembers members) ++ "\x7d"
  | value => scalarText value

/-- The items on one line each by itself. -/
def compactItems : List Json → List String
  | [] => []
  | item :: others => compact item :: compactItems others

/-- The members on one line each by itself. -/
def compactMembers : List (Option String × Json) → List String
  | [] => []
  | (key, value) :: others => (quoteAny key ++ ":" ++ compact value) :: compactMembers others

end

/-- Lines between two brackets, indented one level more than the closing one. -/
def block (indent : Nat) (openText closeText : String) (lines : List String) : String :=
  if lines.isEmpty then openText ++ closeText
  else
    let inner := "\n" ++ "".pushn ' ' (2 * indent + 2)
    openText ++ inner ++ ("," ++ inner).intercalate lines ++ "\n" ++ "".pushn ' ' (2 * indent) ++
      closeText

mutual

/-- The value with a line for each item and member. -/
def prettyAt (indent : Nat) : Json → String
  | .array items => block indent "[" "]" (prettyItems (indent + 1) items)
  | .object members => block indent "\x7b" "\x7d" (prettyMembers (indent + 1) members)
  | value => scalarText value

/-- The items with their lines. -/
def prettyItems (indent : Nat) : List Json → List String
  | [] => []
  | item :: others => prettyAt indent item :: prettyItems indent others

/-- The members with their lines. -/
def prettyMembers (indent : Nat) : List (Option String × Json) → List String
  | [] => []
  | (key, value) :: others =>
      (quoteAny key ++ ": " ++ prettyAt indent value) :: prettyMembers indent others

end

/-- The value with a line for each item and member, from the first column on. -/
def pretty (value : Json) : String :=
  prettyAt 0 value

end SchemaCoverage.Json
