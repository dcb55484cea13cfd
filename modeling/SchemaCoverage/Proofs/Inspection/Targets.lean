import SchemaCoverage.Proofs.Inspection.Steps
/-!
The pairs that a field leads to. Which pairs of a schema type and a host type are to be checked
for a field depends on the type of the field and on the element type that serves it; the steps of
the field visit exactly these.
-/
namespace SchemaCoverage.Inspection

open Schema Host

namespace Setting

variable {setting : Setting}

/-- The pairs to be checked for a field of some type where an element type serves the field. -/
inductive Target (setting : Setting) (type : GraphType) (element : TypeRef) :
    GraphType → HostType → Prop
  /-- A concrete type stands for an object type as it is. -/
  | itself {declared : HostType} : setting.Declares element declared →
      declared.kind = .concrete → type.kind = .object → Target setting type element type declared
  /-- Where an abstract type is declared, its assignable candidates stand for each object type. -/
  | assignable {declared member host} : setting.Declares element declared →
      declared.kind = .abstract → setting.Possible type member →
      host ∈ setting.candidates member.name declared →
      setting.registry.isAssignable host.path declared.path = true →
      Target setting type element member host
  /-- A concrete type stands for the members of an interface or union that it is a candidate of. -/
  | candidate {declared member} : setting.Declares element declared →
      declared.kind = .concrete → type.isPolymorphic = true → setting.Possible type member →
      declared ∈ setting.candidates member.name declared →
      Target setting type element member declared
  /-- An abstract type stands for an interface itself if the policy says so. -/
  | interface {declared : HostType} : setting.Declares element declared →
      declared.kind = .abstract → type.kind = .interface →
      setting.policy = .includeAbstractType → Target setting type element type declared

theorem checksInterface_iff {type : GraphType} {declared : HostType} :
    setting.checksInterface type declared = true ↔
      setting.policy = .includeAbstractType ∧ declared.kind = .abstract ∧
        type.kind = .interface := by
  simp only [checksInterface, Bool.and_eq_true, beq_iff_eq, isAbstract_iff, and_assoc]

theorem isPolymorphic_iff {type : GraphType} :
    type.isPolymorphic = true ↔ type.kind = .interface ∨ type.kind = .union := by
  simp [GraphType.isPolymorphic]

/-- The steps for one object type visit it with each active host type, or skip it for want of
any. -/
theorem mem_memberSteps {via : Coordinate} {member : GraphType} {declared : HostType}
    {direct : Bool} {step : Step} :
    step ∈ setting.memberSteps via member declared direct ↔
      ¬(direct = true ∧ declared.kind = .concrete) ∧ step = .consult member.name declared ∨
        (∃ host ∈ setting.activeHosts member.name declared direct, step = .visit member host) ∨
        setting.activeHosts member.name declared direct = [] ∧
          step ∈ skipSteps member.name
            ((setting.candidates member.name declared).head?.map (·.path)) via
            (setting.inactiveReason member.name declared) := by
  have hlookup : step ∈ (if direct && !declared.isAbstract then []
        else [Step.consult member.name declared]) ↔
      ¬(direct = true ∧ declared.kind = .concrete) ∧ step = .consult member.name declared := by
    rw [← isAbstract_eq_false_iff]
    split <;> simp_all
  unfold memberSteps
  cases hactive : setting.activeHosts member.name declared direct with
  | nil => rw [List.mem_append, hlookup]; simp
  | cons host others => rw [List.mem_append, hlookup]; simp [eq_comm]

theorem visit_mem_memberSteps {via : Coordinate} {member type : GraphType}
    {declared host : HostType} {direct : Bool} :
    .visit type host ∈ setting.memberSteps via member declared direct ↔
      type = member ∧ host ∈ setting.activeHosts member.name declared direct := by
  rw [mem_memberSteps]
  constructor
  · intro hgiven
    rcases hgiven with ⟨_, h⟩ | ⟨active, hactive, h⟩ | ⟨_, h⟩
    · cases h
    · cases h
      exact ⟨rfl, hactive⟩
    · simp [skipSteps] at h
  · rintro ⟨rfl, hactive⟩
    exact Or.inr (Or.inl ⟨host, hactive, rfl⟩)

theorem visit_mem_objectSteps {via : Coordinate} {type member : GraphType} {element : TypeRef}
    {host : HostType} :
    .visit member host ∈ setting.objectSteps via type element ↔
      ∃ declared, setting.Declares element declared ∧ member = type ∧
        host ∈ setting.activeHosts type.name declared true := by
  simp only [← declaredHost_eq_ok_iff]
  unfold objectSteps
  split
  · next declared hdeclared => simp [hdeclared, visit_mem_memberSteps]
  · next reason herror => simp [herror, skipSteps]

theorem visit_mem_polymorphicSteps {via : Coordinate} {type member : GraphType}
    {element : TypeRef} {host : HostType} :
    .visit member host ∈ setting.polymorphicSteps via type element ↔
      ∃ declared, setting.Declares element declared ∧
        (setting.checksInterface type declared = true ∧ member = type ∧ host = declared ∨
          setting.Possible type member ∧
            host ∈ setting.activeHosts member.name declared false) := by
  simp only [← declaredHost_eq_ok_iff, ← mem_possibleObjects]
  unfold polymorphicSteps
  split
  · next reason herror => simp [herror, skipSteps]
  · next declared hdeclared =>
      have hitself : Step.visit member host ∈
            (if setting.checksInterface type declared then [Step.visit type declared] else []) ↔
          setting.checksInterface type declared = true ∧ member = type ∧ host = declared := by
        split <;> simp_all
      simp only [hdeclared, Except.ok.injEq, exists_eq_left', List.mem_append, hitself,
        List.mem_flatMap, visit_mem_memberSteps]
      constructor
      · intro hgiven
        rcases hgiven with ((h | h) | ⟨_, hpossible, rfl, hactive⟩) | h
        · cases List.mem_singleton.1 h
        · exact Or.inl h
        · exact Or.inr ⟨hpossible, hactive⟩
        · cases List.mem_singleton.1 h
      · intro hgiven
        rcases hgiven with h | ⟨hpossible, hactive⟩
        · exact Or.inl (Or.inl (Or.inr h))
        · exact Or.inl (Or.inr ⟨member, hpossible, rfl, hactive⟩)

/-- A field of an object type leads to its targets. -/
theorem visit_mem_objectSteps_iff_target {via : Coordinate} {type member : GraphType}
    {element : TypeRef} {host : HostType} (hkind : type.kind = .object)
    (hfind : setting.graph.type? type.name = some type) :
    .visit member host ∈ setting.objectSteps via type element ↔
      setting.Target type element member host := by
  rw [visit_mem_objectSteps]
  constructor
  · rintro ⟨declared, hdeclares, rfl, hactive⟩
    rcases (mem_activeHosts hdeclares.registered).1 hactive with
      ⟨habstract, hcandidate, hassignable⟩ | ⟨hconcrete, rfl, _⟩
    · exact .assignable hdeclares habstract ((possible_of_object hkind hfind).2 rfl)
        hcandidate hassignable
    · exact .itself hdeclares hconcrete hkind
  · intro h
    cases h with
    | itself hdeclares hconcrete _ =>
        exact ⟨host, hdeclares, rfl, (mem_activeHosts hdeclares.registered).2
          (Or.inr ⟨hconcrete, rfl, Or.inl rfl⟩)⟩
    | @assignable declared _ _ hdeclares habstract hpossible hcandidate hassignable =>
        obtain rfl := (possible_of_object hkind hfind).1 hpossible
        exact ⟨declared, hdeclares, rfl, (mem_activeHosts hdeclares.registered).2
          (Or.inl ⟨habstract, hcandidate, hassignable⟩)⟩
    | candidate _ _ hpolymorphic _ _ => simp [GraphType.isPolymorphic, hkind] at hpolymorphic
    | interface _ _ hinterface _ => simp [hkind] at hinterface

/-- A field of an interface or union leads to its targets. -/
theorem visit_mem_polymorphicSteps_iff_target {via : Coordinate} {type member : GraphType}
    {element : TypeRef} {host : HostType} (hkind : type.isPolymorphic = true) :
    .visit member host ∈ setting.polymorphicSteps via type element ↔
      setting.Target type element member host := by
  rw [visit_mem_polymorphicSteps]
  constructor
  · intro hgiven
    rcases hgiven with ⟨declared, hdeclares, ⟨hchecks, rfl, rfl⟩ | ⟨hpossible, hactive⟩⟩
    · obtain ⟨hpolicy, habstract, hinterface⟩ := checksInterface_iff.1 hchecks
      exact .interface hdeclares habstract hinterface hpolicy
    · rcases (mem_activeHosts hdeclares.registered).1 hactive with
        ⟨habstract, hcandidate, hassignable⟩ | ⟨hconcrete, rfl, hdirect | hcandidate⟩
      · exact .assignable hdeclares habstract hpossible hcandidate hassignable
      · cases hdirect
      · exact .candidate hdeclares hconcrete hkind hpossible hcandidate
  · intro h
    cases h with
    | itself _ _ hobject => simp [GraphType.isPolymorphic, hobject] at hkind
    | @assignable declared _ _ hdeclares habstract hpossible hcandidate hassignable =>
        exact ⟨declared, hdeclares, Or.inr ⟨hpossible, (mem_activeHosts hdeclares.registered).2
          (Or.inl ⟨habstract, hcandidate, hassignable⟩)⟩⟩
    | candidate hdeclares hconcrete _ hpossible hcandidate =>
        exact ⟨host, hdeclares, Or.inr ⟨hpossible, (mem_activeHosts hdeclares.registered).2
          (Or.inr ⟨hconcrete, rfl, Or.inr hcandidate⟩)⟩⟩
    | interface hdeclares habstract hinterface hpolicy =>
        exact ⟨host, hdeclares, Or.inl
          ⟨checksInterface_iff.2 ⟨hpolicy, habstract, hinterface⟩, rfl, rfl⟩⟩

/-- A type that is no interface or union stands for itself alone. -/
theorem eq_of_mem_possibleTypes {type : GraphType} {name : String}
    (hfind : setting.graph.type? type.name = some type) (hkind : type.isPolymorphic = false)
    (h : name ∈ setting.graph.possibleTypes type.name) : name = type.name := by
  unfold GraphType.isPolymorphic at hkind
  unfold Graph.possibleTypes at h
  cases hcase : type.kind <;> simp_all

/-- No value of any other type is an object. -/
theorem Possible.kind {type member : GraphType} (h : setting.Possible type member)
    (hfind : setting.graph.type? type.name = some type) :
    type.kind = .object ∨ type.isPolymorphic = true := by
  obtain ⟨hname, hmember, hkind⟩ := h
  by_cases hpolymorphic : type.isPolymorphic = true
  · exact Or.inr hpolymorphic
  · rw [eq_of_mem_possibleTypes hfind (Bool.eq_false_iff.2 hpolymorphic) hname, hfind,
      Option.some.injEq] at hmember
    exact Or.inl (hmember ▸ hkind)

/-- Only fields of object types, interfaces and unions have targets. -/
theorem Target.kind {type member : GraphType} {element : TypeRef} {host : HostType}
    (h : setting.Target type element member host)
    (hfind : setting.graph.type? type.name = some type) :
    type.kind = .object ∨ type.isPolymorphic = true := by
  cases h with
  | itself _ _ hkind => exact Or.inl hkind
  | assignable _ _ hpossible _ _ => exact hpossible.kind hfind
  | candidate _ _ hkind _ _ => exact Or.inr hkind
  | interface _ _ hkind _ => exact Or.inr (isPolymorphic_iff.2 (Or.inl hkind))

/-- The pairs that a field leads to where a reference serves it. -/
def Leads (setting : Setting) (field : Field) (serving : TypeRef) (type : GraphType)
    (host : HostType) : Prop :=
  ∃ returned, setting.graph.type? field.type.innermost = some returned ∧
    setting.Target returned (serving.element setting.wrappers) type host

/-- The steps of a field visit exactly the pairs that it leads to. -/
theorem visit_mem_fieldSteps {field : Field} {serving : TypeRef} {member : GraphType}
    {host : HostType} :
    .visit member host ∈ setting.fieldSteps field serving ↔
      setting.Leads field serving member host := by
  rw [mem_fieldSteps]
  constructor
  · intro hgiven
    rcases hgiven with ⟨returned, hreturned, ⟨hkind, h⟩ | ⟨hkind, h⟩ | ⟨-, h⟩⟩
    · have hfind := Graph.type?_name hreturned
      exact ⟨returned, hreturned, (visit_mem_objectSteps_iff_target hkind hfind).1 h⟩
    · exact ⟨returned, hreturned, (visit_mem_polymorphicSteps_iff_target hkind).1 h⟩
    · cases h
  · rintro ⟨returned, hreturned, htarget⟩
    refine ⟨returned, hreturned, ?_⟩
    have hfind := Graph.type?_name hreturned
    rcases htarget.kind hfind with hkind | hkind
    · exact Or.inl ⟨hkind, (visit_mem_objectSteps_iff_target hkind hfind).2 htarget⟩
    · exact Or.inr (Or.inl ⟨hkind, (visit_mem_polymorphicSteps_iff_target hkind).2 htarget⟩)

end Setting

end SchemaCoverage.Inspection
