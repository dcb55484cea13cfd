import SchemaCoverage.Assoc
import SchemaCoverage.Host.Registry
/-!
Schema type names of host types: explicit mappings, and the name that a value of a host type
goes by at run time.
-/
namespace SchemaCoverage.Candidates

open Host

/-- Schema type names by host type path, in the order in which the paths were first mapped. -/
structure TypeNames where
  mappings : Assoc String String
deriving Repr, DecidableEq

namespace TypeNames

/-- Nothing is mapped. -/
def empty : TypeNames := ⟨[]⟩

/-- Maps a path to a name; a later mapping of the path replaces an earlier one. -/
def add (names : TypeNames) (path name : String) : TypeNames :=
  ⟨names.mappings.put path name⟩

/-- The name that a path is mapped to. -/
def name? (names : TypeNames) (path : String) : Option String :=
  names.mappings.find? path

/-- The name of a host type: that of the nearest mapped path among its own and those that it
implements in some steps, or else its simple name. -/
def nameOf (names : TypeNames) (registry : Registry) (type : HostType) : String :=
  (search registry.implementsOf names.name? registry.paths [type.path]).getD type.simpleName

end TypeNames

end SchemaCoverage.Candidates
