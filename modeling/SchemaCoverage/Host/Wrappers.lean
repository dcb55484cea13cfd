import SchemaCoverage.Assoc
import SchemaCoverage.Host.TypeRef
/-!
Wrapper types: generic containers that are looked through to find the type a value really has.
They are known by the last segment of their path.
-/
namespace SchemaCoverage.Host

/-- Simple names of wrapper types, without repetition, in the order they were added. -/
structure Wrappers where
  names : List String
deriving Repr, DecidableEq

namespace Wrappers

/-- No wrapper types at all. -/
def empty : Wrappers := ⟨[]⟩

/-- The containers that every program has. -/
def standard : Wrappers :=
  ⟨["Arc", "Box", "Connection", "Cow", "Future", "Pin", "Rc", "Result", "Stream"]⟩

/-- Adds a name; a known name changes nothing. -/
def insert (wrappers : Wrappers) (name : String) : Wrappers :=
  ⟨Assoc.addNew wrappers.names name⟩

/-- Adds each name in turn. -/
def insertAll (wrappers : Wrappers) (names : List String) : Wrappers :=
  names.foldl insert wrappers

/-- The type at a path is a wrapper. -/
def wraps (wrappers : Wrappers) (path : String) : Bool :=
  simpleName path ∈ wrappers.names

end Wrappers

namespace TypeRef

/-- The reference under all lists, options and wrappers. A wrapper without type arguments
cannot be looked through and counts as unnamed. -/
def element (wrappers : Wrappers) : TypeRef → TypeRef
  | .unnamed => .unnamed
  | .list inner => inner.element wrappers
  | .optional inner => inner.element wrappers
  | .named path [] => if wrappers.wraps path then .unnamed else .named path []
  | .named path (first :: others) =>
      if wrappers.wraps path then first.element wrappers else .named path (first :: others)

end TypeRef

end SchemaCoverage.Host
