import SchemaCoverage.Candidates.TypeNames
/-!
Tables of candidates: for some schema types, the host types that may stand behind them.
-/
namespace SchemaCoverage.Candidates

/-- Host type paths by schema type name, both in the order in which they were first listed. -/
structure Table where
  entries : Assoc String (List String)
deriving Repr, DecidableEq

namespace Table

/-- Nothing is listed. -/
def empty : Table := ⟨[]⟩

/-- Lists a path for a schema type, once. -/
def insert (table : Table) (type path : String) : Table :=
  ⟨table.entries.update type [] fun paths => Assoc.addNew paths path⟩

/-- The paths listed for a schema type. -/
def candidates? (table : Table) (type : String) : Option (List String) :=
  table.entries.find? type

/-- Lists every mapped path for the schema type that it is mapped to. -/
def insertNames (table : Table) (names : TypeNames) : Table :=
  names.mappings.foldl (fun table (path, name) => table.insert name path) table

/-- The table of the paths that are mapped to each name. -/
def ofTypeNames (names : TypeNames) : Table :=
  empty.insertNames names

/-- The pairs of a schema type and a path listed for it, in order. -/
def pairs (table : Table) : List (String × String) :=
  table.entries.flatMap fun (type, paths) => paths.map fun path => (type, path)

/-- A path just listed stands at the end of its list unless it was there. -/
theorem candidates?_insert (table : Table) (type other path : String) :
    (table.insert type path).candidates? other =
      if type = other then some (Assoc.addNew ((table.candidates? type).getD []) path)
      else table.candidates? other :=
  Assoc.find?_update table.entries type other [] _

end Table

end SchemaCoverage.Candidates
