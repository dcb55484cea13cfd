import SchemaCoverage.Sdl.Document
/-!
Places in schemas, and types of fields and arguments: named types under any number of lists, each
layer with or without null, and the place where the reference stands.
-/
namespace SchemaCoverage.Schema

/-- A place in a source text, which may have a file name, or nowhere for what is built in. -/
inductive Location
  | builtin
  | source (file : Option String) (position : Sdl.Position)
deriving Repr, DecidableEq

/-- The place in words. -/
def Location.render : Location → String
  | .builtin => "<builtin>"
  | .source file position =>
      file.getD "<str>" ++ ":" ++ toString position.line ++ ":" ++ toString position.column

/-- The type of a field or argument. -/
inductive FieldType
  | named (name : String) (nullable : Bool) (location : Location)
  | list (inner : FieldType) (nullable : Bool) (location : Location)
deriving Repr, DecidableEq

namespace FieldType

/-- A written type as it stands at a place. -/
def ofExpr (location : Location) : Sdl.TypeExpr → FieldType
  | .named name required => .named name (!required) location
  | .list inner required => .list (ofExpr location inner) (!required) location

/-- The written form of the type. -/
def chars : FieldType → List Char
  | .named name nullable _ => name.toList ++ Sdl.TypeExpr.bang (!nullable)
  | .list inner nullable _ => '[' :: inner.chars ++ ']' :: Sdl.TypeExpr.bang (!nullable)

/-- The written form of the type as text. -/
def render (type : FieldType) : String :=
  String.ofList type.chars

/-- The name of the type inside all lists. -/
def innermost : FieldType → String
  | .named name _ _ => name
  | .list inner _ _ => inner.innermost

/-- The number of lists around the name. -/
def depth : FieldType → Nat
  | .named _ _ _ => 0
  | .list inner _ _ => inner.depth + 1

/-- Null is a value of the type. -/
def nullable : FieldType → Bool
  | .named _ nullable _ => nullable
  | .list _ nullable _ => nullable

/-- The place where the reference stands. -/
def location : FieldType → Location
  | .named _ _ location => location
  | .list _ _ location => location

@[simp] theorem location_ofExpr (place : Location) (expr : Sdl.TypeExpr) :
    (ofExpr place expr).location = place := by
  cases expr <;> rfl

@[simp] theorem chars_ofExpr (place : Location) (expr : Sdl.TypeExpr) :
    (ofExpr place expr).chars = expr.chars := by
  induction expr with
  | named name required => simp [ofExpr, chars, Sdl.TypeExpr.chars]
  | list inner required ih => simp [ofExpr, chars, Sdl.TypeExpr.chars, ih]

@[simp] theorem innermost_ofExpr (place : Location) (expr : Sdl.TypeExpr) :
    (ofExpr place expr).innermost = expr.innermost := by
  induction expr with
  | named => rfl
  | list inner _ ih => exact ih

end FieldType

end SchemaCoverage.Schema
