/-!
Tokens of declarations, and the text in which they are written out: one space stands between two
words, but none inside parentheses and square brackets next to them.
-/
namespace SchemaCoverage.Declaration

/-- The kinds of bracket. -/
inductive Bracket
  | round
  | square
  | curly
deriving Repr, DecidableEq

/-- The opening and the closing bracket as words. -/
def Bracket.words : Bracket → String × String
  | .round => ("(", ")")
  | .square => ("[", "]")
  | .curly => ("\x7b", "\x7d")

/-- Words between brackets. -/
def Bracket.around (bracket : Bracket) (words : List String) : List String :=
  bracket.words.1 :: words ++ [bracket.words.2]

/-- A token. -/
inductive Token
  /-- An identifier or a keyword. -/
  | name (spelling : String)
  /-- A lifetime, with its apostrophe. -/
  | lifetime (spelling : String)
  /-- A string literal as written, with the text that it stands for. -/
  | text (written : String) (value : String)
  /-- A number as written, without a sign. -/
  | number (written : String)
  /-- Any other literal as written. -/
  | literal (written : String)
  /-- A character of an operator; it may touch the next one. -/
  | mark (char : Char) (joint : Bool)
  | opening (bracket : Bracket)
  | closing (bracket : Bracket)
deriving Repr, DecidableEq

/-- Tokens that touch one another spell an operator. -/
def spells : List Char → List Token → Bool
  | [], _ => true
  | [c], .mark d _ :: _ => c == d
  | c :: cs, .mark d joint :: rest => c == d && joint && spells cs rest
  | _, _ => false

/-- The word of a token alone. -/
def Token.word : Token → String
  | .name spelling => spelling
  | .lifetime spelling => spelling
  | .text written _ => written
  | .number written => written
  | .literal written => written
  | .mark char _ => char.toString
  | .opening bracket => bracket.words.1
  | .closing bracket => bracket.words.2

/-- The words of tokens that are not looked into: all characters that touch are one word. -/
def rawWords : List Token → List String
  | [] => []
  | .mark c true :: rest =>
      match rawWords rest with
      | [] => [c.toString]
      | word :: words => (c.toString ++ word) :: words
  | token :: rest => token.word :: rawWords rest

/-- The tokens up to the bracket that closes the one opened before them, and what follows it. -/
def splitAtClosing (opened : Nat) : List Token → List Token × List Token
  | [] => ([], [])
  | token :: rest =>
      match token, opened with
      | .closing _, 0 => ([], rest)
      | .closing _, opened + 1 =>
          let (inner, after) := splitAtClosing opened rest
          (token :: inner, after)
      | .opening _, opened =>
          let (inner, after) := splitAtClosing (opened + 1) rest
          (token :: inner, after)
      | _, opened =>
          let (inner, after) := splitAtClosing opened rest
          (token :: inner, after)

/-- Writes words out. -/
def renderWords : List String → String
  | [] => ""
  | [word] => word
  | word :: next :: words =>
      let tight := word == "(" || word == "[" || next == ")" || next == "]"
      word ++ (if tight then "" else " ") ++ renderWords (next :: words)

end SchemaCoverage.Declaration
