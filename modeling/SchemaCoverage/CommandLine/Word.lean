/-!
Words of a command line, by their form: options start with one dash or two.
-/
namespace SchemaCoverage.CommandLine

/-- The form of a word. -/
inductive Word
  /-- A word without a leading dash, or the dash alone. -/
  | plain
  /-- Two dashes, after which no word is an option. -/
  | divider
  /-- Two dashes and a name, with the text after the first equals sign. -/
  | long (name : String) (value : Option String)
  /-- One dash and some letters. -/
  | short (letters : List Char)
deriving Repr, DecidableEq

namespace Word

/-- The text before and after the first equals sign. -/
def splitAtEquals : List Char → List Char × Option (List Char)
  | [] => ([], none)
  | '=' :: rest => ([], some rest)
  | c :: rest => (c :: (splitAtEquals rest).1, (splitAtEquals rest).2)

/-- The form of a word. -/
def ofChars : List Char → Word
  | ['-', '-'] => .divider
  | '-' :: '-' :: rest =>
      let (name, value) := splitAtEquals rest
      .long (String.ofList name) (value.map String.ofList)
  | '-' :: c :: rest => .short (c :: rest)
  | _ => .plain

/-- The form of a word. -/
def ofString (word : String) : Word :=
  ofChars word.toList

end Word

/-- The pieces of a text between commas. -/
def splitCommas : List Char → List (List Char)
  | [] => [[]]
  | ',' :: rest => [] :: splitCommas rest
  | c :: rest =>
      match splitCommas rest with
      | [] => [[c]]
      | first :: others => (c :: first) :: others

/-- The values in a text, between commas. -/
def valuesOf (text : String) : List String :=
  (splitCommas text.toList).map String.ofList

end SchemaCoverage.CommandLine
