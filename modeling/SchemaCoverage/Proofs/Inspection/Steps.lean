import SchemaCoverage.Inspection.Walk
/-!
What the steps of an inspection consist of. A field leads to visits of pairs and to records; which
ones is said here without the order in which the steps are taken.
-/
namespace SchemaCoverage.Inspection

open Schema Host

theorem isAbstract_iff {host : HostType} : host.isAbstract = true ↔ host.kind = .abstract := by
  simp [HostType.isAbstract]

theorem isAbstract_eq_false_iff {host : HostType} :
    host.isAbstract = false ↔ host.kind = .concrete := by
  unfold HostType.isAbstract
  cases host.kind <;> decide

namespace Setting

variable {setting : Setting}

/-- The element type names the path at which the host type is registered. -/
def Declares (setting : Setting) (element : TypeRef) (host : HostType) : Prop :=
  ∃ path, element.path? = some path ∧ setting.registry.get? path = some host

/-- An object type that a value of a type may have: the type itself if it is an object type, a
member of it if it is a union, and an implementation of it if it is an interface. -/
def Possible (setting : Setting) (type member : GraphType) : Prop :=
  member.name ∈ setting.graph.possibleTypes type.name ∧
    setting.graph.type? member.name = some member ∧ member.kind = .object

theorem Declares.registered {element : TypeRef} {host : HostType}
    (h : setting.Declares element host) : setting.registry.get? host.path = some host := by
  obtain ⟨path, _, hget⟩ := h
  rwa [Registry.path_of_get? hget]

/-- An element type declares one host type at most. -/
theorem Declares.unique {element : TypeRef} {first second : HostType}
    (h : setting.Declares element first) (h' : setting.Declares element second) :
    first = second := by
  obtain ⟨path, hpath, hget⟩ := h
  obtain ⟨path', hpath', hget'⟩ := h'
  rw [hpath, Option.some.injEq] at hpath'
  subst hpath'
  rw [hget, Option.some.injEq] at hget'
  exact hget'

theorem declaredHost_eq_ok_iff {element : TypeRef} {host : HostType} :
    setting.declaredHost element = .ok host ↔ setting.Declares element host := by
  cases element with
  | named path generics =>
      cases hget : setting.registry.get? path <;>
        simp [declaredHost, Declares, TypeRef.path?, hget]
  | unnamed => simp [declaredHost, Declares, TypeRef.path?]
  | list inner => simp [declaredHost, Declares, TypeRef.path?]
  | optional inner => simp [declaredHost, Declares, TypeRef.path?]

/-- Nothing is declared by an element type without a path, or with one that is not registered. -/
theorem declaredHost_eq_error_iff {element : TypeRef} {reason : SkipReason} :
    setting.declaredHost element = .error reason ↔
      element.path? = none ∧ reason = .unnamedHostType ∨
        ∃ path, element.path? = some path ∧ setting.registry.get? path = none ∧
          reason = .unknownHostType := by
  cases element with
  | named path generics =>
      cases hget : setting.registry.get? path <;>
        simp [declaredHost, TypeRef.path?, hget, eq_comm]
  | unnamed => simp [declaredHost, TypeRef.path?, eq_comm]
  | list inner => simp [declaredHost, TypeRef.path?, eq_comm]
  | optional inner => simp [declaredHost, TypeRef.path?, eq_comm]

theorem mem_possibleObjects {type member : GraphType} :
    member ∈ setting.possibleObjects type.name ↔ setting.Possible type member := by
  simp only [possibleObjects, List.mem_filterMap, Option.filter_eq_some_iff, beq_iff_eq, Possible]
  constructor
  · rintro ⟨name, hname, hfind, hkind⟩
    obtain rfl : member.name = name := name_of_findType? hfind
    exact ⟨hname, hfind, hkind⟩
  · rintro ⟨hname, hfind, hkind⟩
    exact ⟨member.name, hname, hfind, hkind⟩

/-- The only object type that a value of an object type may have is that type. -/
theorem possible_of_object {type member : GraphType} (hkind : type.kind = .object)
    (hfind : setting.graph.type? type.name = some type) :
    setting.Possible type member ↔ member = type := by
  have hnames : setting.graph.possibleTypes type.name = [type.name] := by
    simp [Graph.possibleTypes, hfind, hkind]
  rw [Possible, hnames, List.mem_singleton]
  constructor
  · rintro ⟨hname, hmember, _⟩
    rw [hname, hfind, Option.some.injEq] at hmember
    exact hmember.symm
  · rintro rfl
    exact ⟨rfl, hfind, hkind⟩

/-- Candidates are registered. -/
theorem registered_of_mem_candidates {type : String} {declared host : HostType}
    (h : host ∈ setting.candidates type declared) :
    setting.registry.get? host.path = some host := by
  obtain ⟨path, _, hget⟩ := List.mem_filterMap.1 h
  rwa [Registry.path_of_get? hget]

/-- A registered type is among the candidates just if its path is the path of one. -/
theorem mem_candidates_iff_path {type : String} {declared host : HostType}
    (hhost : setting.registry.get? host.path = some host) :
    host ∈ setting.candidates type declared ↔
      (setting.candidates type declared).any (·.path == host.path) = true := by
  simp only [List.any_eq_true, beq_iff_eq]
  constructor
  · exact fun h => ⟨host, h, rfl⟩
  · rintro ⟨candidate, hmem, hpath⟩
    have hget := registered_of_mem_candidates hmem
    rw [hpath, hhost, Option.some.injEq] at hget
    rwa [hget]

/-- Behind an object type stand the candidates that are assignable to an abstract declared type, or
a concrete declared type if it is bound directly or among the candidates. -/
theorem mem_activeHosts {type : String} {declared host : HostType} {direct : Bool}
    (hdeclared : setting.registry.get? declared.path = some declared) :
    host ∈ setting.activeHosts type declared direct ↔
      declared.kind = .abstract ∧ host ∈ setting.candidates type declared ∧
          setting.registry.isAssignable host.path declared.path = true ∨
        declared.kind = .concrete ∧ host = declared ∧
          (direct = true ∨ declared ∈ setting.candidates type declared) := by
  have hcandidate : declared ∈ setting.candidates type declared ↔
      (setting.candidates type declared).any (·.path == declared.path) = true :=
    mem_candidates_iff_path hdeclared
  rw [hcandidate]
  unfold activeHosts
  split
  · next habstract =>
      rw [isAbstract_iff] at habstract
      simp [habstract]
  · next hconcrete =>
      rw [Bool.not_eq_true, isAbstract_eq_false_iff] at hconcrete
      split
      · next hactive => simp_all
      · next hinactive => simp_all

/-- The steps of a field are those of the type that it returns: an object type, an interface or
union, or a leaf, which is resolved at once. -/
theorem mem_fieldSteps {field : Field} {serving : TypeRef} {step : Step} :
    step ∈ setting.fieldSteps field serving ↔
      ∃ returned, setting.graph.type? field.type.innermost = some returned ∧
        (returned.kind = .object ∧ step ∈ setting.objectSteps field.coordinate returned
            (serving.element setting.wrappers) ∨
          returned.isPolymorphic = true ∧ step ∈ setting.polymorphicSteps field.coordinate returned
            (serving.element setting.wrappers) ∨
          returned.isLeaf = true ∧ step = .record (.resolved returned.name)) := by
  cases hreturned : setting.graph.type? field.type.innermost with
  | none => simp [fieldSteps, hreturned]
  | some returned =>
      simp only [fieldSteps, hreturned, GraphType.isPolymorphic, GraphType.isLeaf,
        Option.some.injEq, exists_eq_left']
      cases hkind : returned.kind <;> simp

end Setting

end SchemaCoverage.Inspection
