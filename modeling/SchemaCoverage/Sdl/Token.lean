/-!
Tokens of the schema definition language and the places where they stand.
-/
namespace SchemaCoverage.Sdl

/-- A place in a text; lines and columns count from one. -/
structure Position where
  line : Nat
  column : Nat
deriving Repr, DecidableEq, Inhabited

namespace Position

/-- The first place of a text. -/
def start : Position := ⟨1, 1⟩

/-- The start of the next line. -/
def nextLine (position : Position) : Position :=
  ⟨position.line + 1, 1⟩

/-- Some columns further on the same line. -/
def right (position : Position) (columns : Nat) : Position :=
  ⟨position.line, position.column + columns⟩

/-- The place behind a token: each line feed in it starts a line, every other character takes
one column. -/
def past (position : Position) : List Char → Position
  | [] => position
  | '\n' :: rest => position.nextLine.past rest
  | _ :: rest => (position.right 1).past rest

end Position

/-- A token. Numbers and strings keep no text, since no schema depends on it. -/
inductive Token
  | name (text : String)
  | punct (mark : Char)
  | spread
  | number
  | string
deriving Repr, DecidableEq

/-- A token at the place of its first character. -/
structure Lexeme where
  token : Token
  position : Position
deriving Repr, DecidableEq

end SchemaCoverage.Sdl
