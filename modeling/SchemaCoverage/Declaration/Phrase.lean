import SchemaCoverage.Declaration.Parser
/-!
Phrases of a declaration as they are read: types, bounds, patterns and expressions. Of each the
words are kept in which it is written out, and what the phrases around it have to know of it.
-/
namespace SchemaCoverage.Declaration

/-- What a type is built from. -/
inductive Shape
  /-- A path, with the type arguments of its last segment. -/
  | named (segments : List String) (arguments : List Shape)
  /-- A reference to a value of another type. -/
  | reference (target : Shape)
  /-- A run of values of one type. -/
  | slice (element : Shape)
  /-- Any other type. -/
  | other
deriving Repr, Inhabited

/-- The outer form of a type. -/
inductive TypeForm
  /-- A path of a single segment. -/
  | name
  /-- Any other path that does not start from a type. -/
  | path
  /-- A single bound that no keyword announces, without parentheses around it. -/
  | bound (words : List String)
  | other
deriving Repr, Inhabited

/-- A type as written. -/
structure TypeExpr where
  words : List String
  shape : Shape
  form : TypeForm := .other
deriving Repr, Inhabited

/-- A bound of a type. -/
structure Bound where
  words : List String
  isTrait : Bool
deriving Repr

/-- What a bound may be in the place where it stands. -/
structure BoundRules where
  /-- It may say what is captured. -/
  capture : Bool
  /-- It may ask for a constant implementation. -/
  const : Bool
deriving Repr

/-- In an object type a bound is a trait or a lifetime and nothing more. -/
def BoundRules.inObject : BoundRules := ⟨false, false⟩

/-- A parameter's bound may ask for a constant implementation. -/
def BoundRules.inDeclaration : BoundRules := ⟨false, true⟩

/-- A type that is left open may say what it captures too. -/
def BoundRules.inOpenType : BoundRules := ⟨true, true⟩

/-- What the phrase around a pattern has to know of it. -/
inductive PatternKind
  /-- Two points for all that is left. -/
  | rest
  /-- A range without a start or without an end. -/
  | openRange
  /-- Tokens that are kept as they are written. -/
  | raw
  | other
deriving Repr, DecidableEq

/-- A pattern. -/
structure Pattern where
  words : List String
  kind : PatternKind := .other
deriving Repr

/-- What the phrase around an expression has to know of it. -/
inductive ExpressionKind
  | range
  | comparison
  /-- It ends with a block and is a statement without a semicolon. -/
  | block
  /-- A path with an exclamation mark and tokens in brackets, which may be curly. -/
  | call (braced : Bool)
  /-- Tokens that are kept as they are written. -/
  | raw
  | other
deriving Repr, DecidableEq

/-- An expression. -/
structure Expression where
  words : List String
  kind : ExpressionKind := .other
  /-- Attributes before it are not kept. -/
  losesAttributes : Bool := false
deriving Repr

/-- How tight an operator binds, the loosest first. -/
inductive Precedence
  | lowest
  | assign
  | range
  | or
  | and
  | compare
  | bitOr
  | bitXor
  | bitAnd
  | shift
  | sum
  | product
  | cast
deriving Repr, DecidableEq

/-- The place of a precedence in their order. -/
def Precedence.rank (precedence : Precedence) : Nat :=
  precedence.ctorIdx

/-- The readers of phrases that stand inside other phrases. -/
structure Grammar where
  /-- Reads a type; with the flag, bounds joined by plus signs are one type. -/
  type : Bool → Parser TypeExpr
  /-- Reads a bound of a type. -/
  bound : BoundRules → Parser Bound
  /-- Reads a pattern without alternatives. -/
  pattern : Parser Pattern
  /-- Reads an operand; with the flag, fields may follow a path in curly braces. -/
  operand : Bool → Parser Expression
  /-- Reads operators of some precedence or a tighter one, with what follows them. -/
  operation : Bool → Precedence → Expression → Parser Expression
  /-- Reads an expression; with the flag, fields may follow a path in curly braces. -/
  expression : Bool → Parser Expression
  /-- Reads an expression in the place of a statement: where it ends with a block, no operator
  follows it. -/
  body : Parser Expression
  /-- Reads statements to the end of the tokens. -/
  statements : Parser (List String)
  /-- Reads a declaration of any kind. -/
  item : Parser (List String)
  /-- Reads fields with names in curly braces. -/
  fields : Parser (List String)
  /-- Reads an imported tree; with the flag, two colons may begin its branches. It gives nothing if
  one of them begins so. -/
  tree : Bool → Parser (Option (List String))

namespace Grammar

/-- Reads nothing. -/
def empty : Grammar where
  type _ := Parser.failUnexpected
  bound _ := Parser.failUnexpected
  pattern := Parser.failUnexpected
  operand _ := Parser.failUnexpected
  operation _ _ _ := Parser.failUnexpected
  expression _ := Parser.failUnexpected
  body := Parser.failUnexpected
  statements := Parser.failUnexpected
  item := Parser.failUnexpected
  fields := Parser.failUnexpected
  tree _ := Parser.failUnexpected

open SchemaCoverage.Declaration.Parser

/-- The words of a bound in a declaration. -/
def boundWords (g : Grammar) : Parser (List String) :=
  return (← g.bound .inDeclaration).words

/-- The words of bounds with plus signs between them, of which a test tells where they end. -/
def bounds (g : Grammar) (stop : Ahead) : Parser (List String) := do
  if ← peek stop then return [] else linkedWords "+" (!stop ·) g.boundWords

/-- The words of a type that comes after an arrow, if there is one. -/
def output (g : Grammar) (plus : Bool) : Parser (List String) := do
  if ← acceptMark "->" then return "->" :: (← g.type plus).words else return []

/-- The words of statements in curly braces. -/
def block (g : Grammar) : Parser (List String) :=
  enclosed .curly g.statements

end Grammar

end SchemaCoverage.Declaration
