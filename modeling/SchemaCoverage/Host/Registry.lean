import SchemaCoverage.Host.HostType
import SchemaCoverage.Search
/-!
The registry of host types: those that the schema may be checked against, each under its own
path, in the order of registration.
-/
namespace SchemaCoverage.Host

/-- Why a host type is not registered. -/
inductive RegistryError
  | duplicateType (path : String)
  | invalidPath (path : String)
deriving Repr, DecidableEq

/-- The error in words. -/
def RegistryError.message : RegistryError → String
  | .duplicateType path => "Host type `" ++ path ++ "` was registered more than once"
  | .invalidPath path => "Host type path `" ++ path ++ "` is not a valid `::`-separated path"

/-- The registered host types, in order. -/
structure Registry where
  types : List HostType
deriving Repr, DecidableEq

namespace Registry

/-- Nothing is registered. -/
def empty : Registry := ⟨[]⟩

/-- The type registered under a path. -/
def get? (registry : Registry) (path : String) : Option HostType :=
  registry.types.find? (·.path == path)

/-- A type is registered under the path. -/
def contains (registry : Registry) (path : String) : Bool :=
  (registry.get? path).isSome

/-- Registers a type. Its path must have no empty segment, and it must be new. -/
def register (registry : Registry) (type : HostType) : Except RegistryError Registry :=
  if !isValidPath type.path then .error (.invalidPath type.path)
  else if registry.contains type.path then .error (.duplicateType type.path)
  else .ok ⟨registry.types ++ [type]⟩

/-- Registers types in order, up to the first error. -/
def ofTypes (types : List HostType) : Except RegistryError Registry :=
  types.foldlM register empty

/-- The registered paths, in order. -/
def paths (registry : Registry) : List String :=
  registry.types.map (·.path)

/-- What the type of a path implements; an unregistered path implements nothing. -/
def implementsOf (registry : Registry) (path : String) : List String :=
  ((registry.get? path).map (·.implements)).getD []

/-- What the type of a path permits; an unregistered path permits nothing. -/
def permitsOf (registry : Registry) (path : String) : List String :=
  ((registry.get? path).map (·.permits)).getD []

/-- A search that ends with success at one path. -/
def leadsTo (registry : Registry) (next : String → List String) (start goal : String) : Bool :=
  (search next (fun path => if path = goal then some () else none) registry.paths [start]).isSome

/-- A value of the candidate type may be given where the declared type is expected: the candidate
implements the declared type or is permitted by it, in any number of steps. -/
def isAssignable (registry : Registry) (candidate declared : String) : Bool :=
  registry.leadsTo registry.implementsOf candidate declared ||
    registry.leadsTo registry.permitsOf declared candidate

theorem path_of_get? {registry : Registry} {path : String} {type : HostType}
    (h : registry.get? path = some type) : type.path = path := by
  simpa using List.find?_some h

theorem mem_of_get? {registry : Registry} {path : String} {type : HostType}
    (h : registry.get? path = some type) : type ∈ registry.types :=
  List.mem_of_find?_eq_some h

/-- A type is registered under a path just if the path is one of the registered paths. -/
theorem contains_iff {registry : Registry} {path : String} :
    registry.contains path = true ↔ path ∈ registry.paths := by
  simp [contains, get?, paths, List.find?_isSome]

/-- A registration that succeeds adds one type of a new path at the end. -/
theorem register_eq_ok {registry extended : Registry} {type : HostType}
    (h : registry.register type = .ok extended) :
    isValidPath type.path = true ∧ type.path ∉ registry.paths ∧
      extended.types = registry.types ++ [type] := by
  unfold register at h
  split at h
  · cases h
  · split at h
    · cases h
    · next valid new =>
        rw [← contains_iff]
        cases h
        exact ⟨by simpa using valid, new, rfl⟩

end Registry

end SchemaCoverage.Host
