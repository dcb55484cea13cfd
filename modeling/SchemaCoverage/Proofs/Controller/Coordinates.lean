import SchemaCoverage.Controller.Registry
import SchemaCoverage.Proofs.Assoc
import SchemaCoverage.Proofs.Schema.WellFormed
/-!
The coordinates of registered methods. Several registrations may come to one coordinate of a
schema, through the names of its root types; the first of them is taken.
-/
namespace SchemaCoverage

namespace Schema.Graph

/-- The field is one of an object or interface type, and the coordinate names both. -/
def HasField (graph : Graph) (coordinate : Coordinate) (field : Field) : Prop :=
  ∃ type ∈ graph.types, (type.kind = .object ∨ type.kind = .interface) ∧ field ∈ type.fields ∧
    coordinate = ⟨type.name, field.name⟩

theorem WellFormed.field?_eq_some_iff {graph : Graph} (h : graph.WellFormed)
    {coordinate : Coordinate} {field : Field} :
    graph.field? coordinate = some field ↔ graph.HasField coordinate field := by
  have hcomposite (type : GraphType) :
      type.isComposite = true ↔ type.kind = .object ∨ type.kind = .interface := by
    simp [GraphType.isComposite]
  constructor
  · intro hfield
    unfold field? at hfield
    split at hfield
    · next type hfind =>
        split at hfield
        · next hkind =>
            have hname : field.name = coordinate.field := by
              simpa using List.find?_some hfield
            refine ⟨type, mem_of_findType? hfind, (hcomposite type).1 hkind,
              List.mem_of_find?_eq_some hfield, ?_⟩
            rw [name_of_findType? hfind, hname]
        · cases hfield
    · cases hfield
  · rintro ⟨type, hmem, hkind, hfield, rfl⟩
    have hparent := (h.fields type hmem field hfield).2
    rw [← hparent]
    exact h.coordinates type hmem ((hcomposite type).2 hkind) field hfield

end Schema.Graph

namespace Controller

open Schema

/-- The coordinate in a schema that a target stands for. -/
inductive Target.ResolvesTo (graph : Graph) : Target → Coordinate → Prop
  | field (place : Coordinate) : ResolvesTo graph (.field place) place
  /-- An operation stands for its root type, whatever that is called. -/
  | root {kind : Operation} {type : GraphType} (name : String) : (kind, type) ∈ graph.roots →
      ResolvesTo graph (.operation kind name) ⟨type.name, name⟩
  /-- An operation without a root type goes by its usual name. -/
  | usual {kind : Operation} (name : String) : (∀ type, (kind, type) ∉ graph.roots) →
      ResolvesTo graph (.operation kind name) ⟨kind.title, name⟩

theorem Target.resolvesTo_iff {graph : Graph} (h : graph.WellFormed) {target : Target}
    {coordinate : Coordinate} :
    target.ResolvesTo graph coordinate ↔ target.coordinate graph = coordinate := by
  constructor
  · intro hresolves
    cases hresolves with
    | field place => rfl
    | root name hroot =>
        obtain ⟨root, hname, hfind⟩ := Graph.mem_roots_iff.1 hroot
        rw [Target.coordinate, hname, name_of_findType? hfind]
        rfl
    | @usual kind name hnone =>
        cases hname : graph.rootName? kind with
        | none => rw [Target.coordinate, hname]; rfl
        | some root =>
            obtain ⟨type, hfind, -⟩ := h.roots kind root hname
            exact absurd (Graph.mem_roots_iff.2 ⟨root, hname, hfind⟩) (hnone type)
  · rintro rfl
    cases target with
    | field place => exact .field place
    | operation kind name =>
        cases hname : graph.rootName? kind with
        | none =>
            rw [Target.coordinate, hname]
            apply ResolvesTo.usual
            intro type hroot
            obtain ⟨root, hroot, -⟩ := Graph.mem_roots_iff.1 hroot
            rw [hname] at hroot
            cases hroot
        | some root =>
            obtain ⟨type, hfind, -⟩ := h.roots kind root hname
            rw [Target.coordinate, hname, Option.getD_some, ← name_of_findType? hfind]
            exact .root name (Graph.mem_roots_iff.2 ⟨root, hname, hfind⟩)

namespace Registry

variable {graph : Graph} {registry : Registry} {found : Assoc Coordinate Method × List Shadowed}

theorem keys_addByCoordinate (mapping : Target × Method) :
    (addByCoordinate graph found mapping).1.keys =
      Assoc.addNew found.1.keys (mapping.1.coordinate graph) := by
  obtain ⟨target, method⟩ := mapping
  unfold addByCoordinate Assoc.addNew
  cases hfind : found.1.find? (target.coordinate graph) with
  | some existing =>
      have hmem : target.coordinate graph ∈ found.1.keys :=
        List.mem_map_of_mem (Assoc.mem_of_find? hfind)
      simp [hfind, hmem]
  | none =>
      rw [if_neg (Assoc.find?_eq_none_iff.1 hfind)]
      simp [hfind, Assoc.keys]

/-- A coordinate that has a method keeps it. -/
theorem find?_addByCoordinate (mapping : Target × Method) (coordinate : Coordinate) :
    (addByCoordinate graph found mapping).1.find? coordinate =
      (found.1.find? coordinate).or
        (if mapping.1.coordinate graph = coordinate then some mapping.2 else none) := by
  obtain ⟨target, method⟩ := mapping
  unfold addByCoordinate
  cases hfind : found.1.find? (target.coordinate graph) with
  | some existing =>
      by_cases hsame : target.coordinate graph = coordinate
      · simp [hfind, ← hsame]
      · simp [hfind, hsame]
  | none =>
      simp only [hfind, ← Assoc.put_of_find?_eq_none hfind, Assoc.find?_put]
      by_cases hsame : target.coordinate graph = coordinate
      · rw [hsame] at hfind
        simp [hsame, hfind]
      · simp [hsame]

/-- There is an entry for each coordinate that a registration comes to, in the order of the first
such registrations. -/
theorem keys_byCoordinate (registry : Registry) (graph : Graph) :
    (registry.byCoordinate graph).1.keys =
      (registry.mappings.map fun mapping => mapping.1.coordinate graph).eraseDups := by
  have hkeys (mappings : Assoc Target Method) (found : Assoc Coordinate Method × List Shadowed) :
      (mappings.foldl (addByCoordinate graph) found).1.keys =
        (mappings.map fun mapping => mapping.1.coordinate graph).foldl Assoc.addNew
          found.1.keys := by
    induction mappings generalizing found with
    | nil => rfl
    | cons mapping mappings ih =>
        rw [List.foldl_cons, ih, keys_addByCoordinate, List.map_cons, List.foldl_cons]
  rw [byCoordinate, hkeys]
  exact Assoc.foldl_addNew_nil _

/-- A coordinate has the method that is registered first for it. -/
theorem find?_byCoordinate (registry : Registry) (graph : Graph) (coordinate : Coordinate) :
    (registry.byCoordinate graph).1.find? coordinate =
      (List.find? (fun mapping => mapping.1.coordinate graph == coordinate)
        registry.mappings).map Prod.snd := by
  have hfind (mappings : Assoc Target Method) (found : Assoc Coordinate Method × List Shadowed) :
      (mappings.foldl (addByCoordinate graph) found).1.find? coordinate =
        (found.1.find? coordinate).or
          ((List.find? (fun mapping => mapping.1.coordinate graph == coordinate) mappings).map
            Prod.snd) := by
    induction mappings generalizing found with
    | nil => simp
    | cons mapping mappings ih =>
        rw [List.foldl_cons, ih, find?_addByCoordinate, Option.or_assoc, List.find?_cons]
        by_cases hsame : mapping.1.coordinate graph = coordinate
        · simp [hsame]
        · simp [hsame, beq_eq_false_iff_ne.2 hsame]
  exact hfind registry.mappings ([], [])

theorem keys_byCoordinate_nodup (registry : Registry) (graph : Graph) :
    (registry.byCoordinate graph).1.keys.Nodup := by
  rw [keys_byCoordinate, ← Assoc.foldl_addNew_nil]
  exact Assoc.foldl_addNew_nodup List.nodup_nil _

/-- An entry is the first registration that comes to its coordinate. -/
theorem mem_byCoordinate_iff {coordinate : Coordinate} {method : Method} :
    (coordinate, method) ∈ (registry.byCoordinate graph).1 ↔
      ∃ before target after, registry.mappings = before ++ (target, method) :: after ∧
        target.coordinate graph = coordinate ∧
        ∀ earlier ∈ before, earlier.1.coordinate graph ≠ coordinate := by
  have hmem : (coordinate, method) ∈ (registry.byCoordinate graph).1 ↔
      (registry.byCoordinate graph).1.find? coordinate = some method :=
    ⟨Assoc.find?_of_mem (keys_byCoordinate_nodup registry graph), Assoc.mem_of_find?⟩
  rw [hmem, find?_byCoordinate, Option.map_eq_some_iff]
  simp only [List.find?_eq_some_iff_append, beq_iff_eq, Bool.not_eq_true', beq_eq_false_iff_ne]
  constructor
  · rintro ⟨⟨target, _⟩, ⟨hsame, before, after, heq, hfirst⟩, rfl⟩
    exact ⟨before, target, after, heq, hsame, hfirst⟩
  · rintro ⟨before, target, after, heq, hsame, hfirst⟩
    exact ⟨(target, method), ⟨hsame, before, after, heq, hfirst⟩, rfl⟩

end Registry

end Controller

end SchemaCoverage
