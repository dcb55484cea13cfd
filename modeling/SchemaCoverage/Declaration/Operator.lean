import SchemaCoverage.Declaration.Phrase
/-!
Operators between the operands of an expression, and how tight each one binds.
-/
namespace SchemaCoverage.Declaration

/-- What joins an expression with what follows it. -/
inductive Operator
  /-- An operator with an operand on both sides. -/
  | binary (spelling : String) (precedence : Precedence)
  | assign
  | range
  | cast
deriving Repr, DecidableEq

namespace Operator

/-- The operators with an operand on both sides, the longer ones first. -/
def binaries : List (String × Precedence) := [
  ("+=", .assign), ("-=", .assign), ("*=", .assign), ("/=", .assign), ("%=", .assign),
  ("^=", .assign), ("&=", .assign), ("|=", .assign), ("<<=", .assign), (">>=", .assign),
  ("&&", .and), ("||", .or), ("<<", .shift), (">>", .shift), ("==", .compare), ("<=", .compare),
  ("!=", .compare), (">=", .compare), ("+", .sum), ("-", .sum), ("*", .product), ("/", .product),
  ("%", .product), ("^", .bitXor), ("&", .bitAnd), ("|", .bitOr), ("<", .compare), (">", .compare)]

/-- The operator ahead, if there is one. -/
def ahead? (tokens : List Token) : Option Operator :=
  match binaries.find? fun (spelling, _) => Ahead.mark spelling tokens with
  | some (spelling, precedence) => some (.binary spelling precedence)
  | none =>
      if Ahead.assignment tokens then some .assign
      else if Ahead.mark ".." tokens then some .range
      else if Ahead.name ["as"] tokens then some .cast
      else none

/-- How tight an operator binds. -/
def precedence : Operator → Precedence
  | .binary _ precedence => precedence
  | .assign => .assign
  | .range => .range
  | .cast => .cast

/-- How tight the operator ahead binds; without one, as loose as can be. -/
def precedenceAhead (tokens : List Token) : Precedence :=
  ((ahead? tokens).map precedence).getD .lowest

end Operator

end SchemaCoverage.Declaration
