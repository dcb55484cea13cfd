import SchemaCoverage.Proofs.Inspection.Records
import SchemaCoverage.Proofs.Schema.Possible
/-!
The skips that a field raises. A field that leads nowhere for an object type that it may return
raises a skip of that type, and raises no others.
-/
namespace SchemaCoverage.Inspection

open Schema Host

namespace Setting

variable {setting : Setting}

/-- The path of the first candidate for a type where a host type is declared. -/
def nearest? (setting : Setting) (type : String) (declared : HostType) : Option String :=
  (setting.candidates type declared).head?.map (·.path)

/-- The skips that a field of some type raises where an element type serves it: which object type
is skipped, the host type that came nearest, and the reason. -/
inductive Raises (setting : Setting) (type : GraphType) (element : TypeRef) :
    String → Option String → SkipReason → Prop
  /-- The element type has no path. -/
  | unnamed {member : GraphType} : element.path? = none → setting.Possible type member →
      Raises setting type element member.name none .unnamedHostType
  /-- The element type has a path that is not registered. -/
  | unknown {path : String} {member : GraphType} : element.path? = some path →
      setting.registry.get? path = none → setting.Possible type member →
      Raises setting type element member.name (some path) .unknownHostType
  /-- No candidate is assignable to the abstract type that is declared. -/
  | unassignable {declared : HostType} {member : GraphType} : setting.Declares element declared →
      declared.kind = .abstract → setting.Possible type member →
      (∀ host ∈ setting.candidates member.name declared,
        setting.registry.isAssignable host.path declared.path = false) →
      Raises setting type element member.name (setting.nearest? member.name declared)
        (if (setting.candidates member.name declared).isEmpty then .noHostCandidate
          else .notAssignable)
  /-- A concrete type that is declared for an interface or union is none of the candidates. -/
  | inactive {declared : HostType} {member : GraphType} : setting.Declares element declared →
      declared.kind = .concrete → type.isPolymorphic = true → setting.Possible type member →
      declared ∉ setting.candidates member.name declared →
      Raises setting type element member.name (setting.nearest? member.name declared)
        .notActiveImplementation

/-- No host type stands behind an object type just if no candidate is assignable to an abstract
declared type, or a concrete one is neither bound directly nor a candidate. -/
theorem activeHosts_eq_nil_iff {type : String} {declared : HostType} {direct : Bool}
    (hdeclared : setting.registry.get? declared.path = some declared) :
    setting.activeHosts type declared direct = [] ↔
      declared.kind = .abstract ∧ (∀ host ∈ setting.candidates type declared,
          setting.registry.isAssignable host.path declared.path = false) ∨
        declared.kind = .concrete ∧ direct = false ∧
          declared ∉ setting.candidates type declared := by
  rw [List.eq_nil_iff_forall_not_mem]
  constructor
  · intro hnone
    cases hkind : declared.kind with
    | abstract =>
        refine Or.inl ⟨rfl, ?_⟩
        intro host hmem
        rw [Bool.eq_false_iff]
        intro hassignable
        exact hnone host ((mem_activeHosts hdeclared).2 (Or.inl ⟨hkind, hmem, hassignable⟩))
    | concrete =>
        refine Or.inr ⟨rfl, ?_, ?_⟩
        · rw [Bool.eq_false_iff]
          intro hdirect
          exact hnone declared ((mem_activeHosts hdeclared).2
            (Or.inr ⟨hkind, rfl, Or.inl hdirect⟩))
        · intro hmem
          exact hnone declared ((mem_activeHosts hdeclared).2 (Or.inr ⟨hkind, rfl, Or.inr hmem⟩))
  · rintro hinactive host hactive
    rcases (mem_activeHosts hdeclared).1 hactive with
      ⟨habstract, hmem, hassignable⟩ | ⟨hconcrete, rfl, hbound⟩
    · rcases hinactive with ⟨-, hnone⟩ | ⟨hconcrete, -⟩
      · rw [hnone host hmem] at hassignable
        cases hassignable
      · rw [habstract] at hconcrete
        cases hconcrete
    · rcases hinactive with ⟨habstract, -⟩ | ⟨-, hdirect, hnone⟩
      · rw [hconcrete] at habstract
        cases habstract
      · rcases hbound with hdirect' | hmem
        · rw [hdirect] at hdirect'
          cases hdirect'
        · exact hnone hmem

theorem skip_mem_memberSteps {via : Coordinate} {member : GraphType} {declared : HostType}
    {direct : Bool} {entry : SkippedType} :
    .record (.skip entry) ∈ setting.memberSteps via member declared direct ↔
      setting.activeHosts member.name declared direct = [] ∧
        entry = ⟨member.name, setting.nearest? member.name declared, some via,
          setting.inactiveReason member.name declared⟩ := by
  rw [record_mem_memberSteps, record_mem_skipSteps]
  simp [nearest?]

/-- For want of active host types just those skips are recorded that a field raises where a host
type is declared. A field of an object type binds a concrete one directly. -/
theorem exists_skip_mem_memberSteps {via : Coordinate} {type : GraphType} {element : TypeRef}
    {declared : HostType} {entry : SkippedType} (hdeclares : setting.Declares element declared) :
    (∃ member, setting.Possible type member ∧ .record (.skip entry) ∈
        setting.memberSteps via member declared (!type.isPolymorphic)) ↔
      setting.Raises type element entry.type entry.host entry.reason ∧ entry.via = some via := by
  simp only [skip_mem_memberSteps, activeHosts_eq_nil_iff hdeclares.registered]
  constructor
  · intro h
    rcases h with ⟨member, hpossible, ⟨habstract, hnone⟩ | ⟨hconcrete, hpolymorphic, hnone⟩, rfl⟩
    · refine ⟨?_, rfl⟩
      have hreason : setting.inactiveReason member.name declared =
          if (setting.candidates member.name declared).isEmpty then .noHostCandidate
          else .notAssignable := by
        simp [inactiveReason, isAbstract_iff.2 habstract]
      rw [hreason]
      exact .unassignable hdeclares habstract hpossible hnone
    · refine ⟨?_, rfl⟩
      have hreason : setting.inactiveReason member.name declared = .notActiveImplementation := by
        simp [inactiveReason, isAbstract_eq_false_iff.2 hconcrete]
      rw [hreason]
      exact .inactive hdeclares hconcrete (by simpa using hpolymorphic) hpossible hnone
  · obtain ⟨name, host, via', reason⟩ := entry
    rintro ⟨hraises, rfl⟩
    change setting.Raises type element name host reason at hraises
    -- a host type is declared, so that the first two reasons are not given
    cases hraises with
    | unnamed hpath =>
        obtain ⟨path, hpath', -⟩ := hdeclares
        simp [hpath] at hpath'
    | unknown hpath hget =>
        obtain ⟨path, hpath', hget'⟩ := hdeclares
        simp_all
    | unassignable hdeclares' habstract hpossible hnone =>
        obtain rfl := hdeclares.unique hdeclares'
        refine ⟨_, hpossible, Or.inl ⟨habstract, hnone⟩, ?_⟩
        simp [inactiveReason, isAbstract_iff.2 habstract]
    | inactive hdeclares' hconcrete hpolymorphic hpossible hnone =>
        obtain rfl := hdeclares.unique hdeclares'
        refine ⟨_, hpossible, Or.inr ⟨hconcrete, by simp [hpolymorphic], hnone⟩, ?_⟩
        simp [inactiveReason, isAbstract_eq_false_iff.2 hconcrete]

/-- Where no host type is declared each object type that the field may return is skipped for it. -/
theorem raises_iff_of_error {type : GraphType} {element : TypeRef} {reason reason' : SkipReason}
    (herror : setting.declaredHost element = .error reason) {name : String} {host : Option String} :
    setting.Raises type element name host reason' ↔
      ∃ member, setting.Possible type member ∧ member.name = name ∧ host = element.path? ∧
        reason' = reason := by
  have hundeclared {declared : HostType} : ¬setting.Declares element declared := by
    intro hdeclares
    rw [← declaredHost_eq_ok_iff, herror] at hdeclares
    cases hdeclares
  constructor
  · intro hraises
    rcases declaredHost_eq_error_iff.1 herror with ⟨hnone, rfl⟩ | ⟨path, hpath, hget, rfl⟩
    · cases hraises with
      | unnamed _ hpossible => exact ⟨_, hpossible, rfl, hnone.symm, rfl⟩
      | unknown hpath => simp [hnone] at hpath
      | unassignable hdeclares => exact absurd hdeclares hundeclared
      | inactive hdeclares => exact absurd hdeclares hundeclared
    · cases hraises with
      | unnamed hnone => simp [hpath] at hnone
      | unknown hpath' _ hpossible => exact ⟨_, hpossible, rfl, hpath'.symm, rfl⟩
      | unassignable hdeclares => exact absurd hdeclares hundeclared
      | inactive hdeclares => exact absurd hdeclares hundeclared
  · rintro ⟨member, hpossible, rfl, rfl, rfl⟩
    rcases declaredHost_eq_error_iff.1 herror with ⟨hnone, rfl⟩ | ⟨path, hpath, hget, rfl⟩
    · rw [hnone]
      exact .unnamed hnone hpossible
    · rw [hpath]
      exact .unknown hpath hget hpossible

theorem Raises.possible {type : GraphType} {element : TypeRef} {name : String}
    {host : Option String} {reason : SkipReason}
    (h : setting.Raises type element name host reason) :
    ∃ member, setting.Possible type member ∧ member.name = name := by
  cases h with
  | unnamed _ hpossible => exact ⟨_, hpossible, rfl⟩
  | unknown _ _ hpossible => exact ⟨_, hpossible, rfl⟩
  | unassignable _ _ hpossible => exact ⟨_, hpossible, rfl⟩
  | inactive _ _ _ hpossible => exact ⟨_, hpossible, rfl⟩

theorem skip_mem_skipSteps {type : String} {host : Option String} {via : Coordinate}
    {reason : SkipReason} {entry : SkippedType} :
    .record (.skip entry) ∈ skipSteps type host via reason ↔
      entry.type = type ∧ entry.host = host ∧ entry.reason = reason ∧ entry.via = some via := by
  obtain ⟨type', host', via', reason'⟩ := entry
  rw [record_mem_skipSteps]
  simp only [Event.skip.injEq, SkippedType.mk.injEq, reduceCtorEq, or_false]
  tauto

/-- A field of an object type records the skips that it raises. -/
theorem skip_mem_objectSteps {via : Coordinate} {type : GraphType} {element : TypeRef}
    {entry : SkippedType} (hkind : type.kind = .object)
    (hfind : setting.graph.type? type.name = some type) :
    .record (.skip entry) ∈ setting.objectSteps via type element ↔
      setting.Raises type element entry.type entry.host entry.reason ∧ entry.via = some via := by
  have hdirect : (!type.isPolymorphic) = true := by simp [GraphType.isPolymorphic, hkind]
  rw [record_mem_objectSteps]
  cases hdeclared : setting.declaredHost element with
  | ok declared =>
      rw [declaredHost_eq_ok_iff] at hdeclared
      rw [← exists_skip_mem_memberSteps hdeclared, hdirect]
      constructor
      · intro h
        rcases h with ⟨declared', hdeclares, hmem⟩ | ⟨_, herror, _⟩
        · obtain rfl := hdeclared.unique hdeclares
          exact ⟨type, (possible_of_object hkind hfind).2 rfl, hmem⟩
        · cases herror
      · rintro ⟨member, hpossible, hmem⟩
        obtain rfl := (possible_of_object hkind hfind).1 hpossible
        exact Or.inl ⟨declared, hdeclared, hmem⟩
  | error reason =>
      rw [raises_iff_of_error hdeclared]
      constructor
      · intro h
        rcases h with ⟨declared, hdeclares, _⟩ | ⟨reason', herror, hmem⟩
        · rw [← declaredHost_eq_ok_iff, hdeclared] at hdeclares
          cases hdeclares
        · cases herror
          obtain ⟨htype, hhost, hreason, hvia⟩ := skip_mem_skipSteps.1 hmem
          exact ⟨⟨type, (possible_of_object hkind hfind).2 rfl, htype.symm, hhost, hreason⟩, hvia⟩
      · rintro ⟨⟨member, hpossible, hname, hhost, hreason⟩, hvia⟩
        obtain rfl := (possible_of_object hkind hfind).1 hpossible
        exact Or.inr ⟨reason, rfl, skip_mem_skipSteps.2 ⟨hname.symm, hhost, hreason, hvia⟩⟩

/-- A field of an interface or union records the skips that it raises. -/
theorem skip_mem_polymorphicSteps {via : Coordinate} {type : GraphType} {element : TypeRef}
    {entry : SkippedType} (hobjects : setting.graph.PossibleObjects)
    (hkind : type.isPolymorphic = true) (hfind : setting.graph.type? type.name = some type) :
    .record (.skip entry) ∈ setting.polymorphicSteps via type element ↔
      setting.Raises type element entry.type entry.host entry.reason ∧ entry.via = some via := by
  have hdirect : (!type.isPolymorphic) = false := by simp [hkind]
  rw [record_mem_polymorphicSteps]
  cases hdeclared : setting.declaredHost element with
  | ok declared =>
      rw [declaredHost_eq_ok_iff] at hdeclared
      rw [← exists_skip_mem_memberSteps hdeclared, hdirect]
      constructor
      · intro hgiven
        rcases hgiven with ⟨declared', hdeclares, h⟩ | ⟨_, herror, _⟩
        · obtain rfl := hdeclared.unique hdeclares
          rcases h with h | ⟨member, hpossible, hmem⟩ | h
          · cases h
          · exact ⟨member, hpossible, hmem⟩
          · split at h <;> cases h
        · cases herror
      · rintro ⟨member, hpossible, hmem⟩
        exact Or.inl ⟨declared, hdeclared, Or.inr (Or.inl ⟨member, hpossible, hmem⟩)⟩
  | error reason =>
      rw [raises_iff_of_error hdeclared]
      constructor
      · intro hgiven
        rcases hgiven with ⟨declared, hdeclares, _⟩ | ⟨reason', herror, ⟨name, hname, hmem⟩ | h⟩
        · rw [← declaredHost_eq_ok_iff, hdeclared] at hdeclares
          cases hdeclares
        · cases herror
          obtain ⟨htype, hhost, hreason, hvia⟩ := skip_mem_skipSteps.1 hmem
          obtain ⟨member, hmember, hobject⟩ := hobjects type hfind hkind name hname
          obtain rfl := name_of_findType? hmember
          exact ⟨⟨member, ⟨hname, hmember, hobject⟩, htype.symm, hhost, hreason⟩, hvia⟩
        · cases h
      · rintro ⟨⟨member, hpossible, hname, hhost, hreason⟩, hvia⟩
        exact Or.inr ⟨reason, rfl, Or.inl ⟨member.name, hpossible.1,
          skip_mem_skipSteps.2 ⟨hname.symm, hhost, hreason, hvia⟩⟩⟩

/-- The skips that a field raises where a reference serves it. -/
def RaisesAt (setting : Setting) (field : Field) (serving : TypeRef) (type : String)
    (host : Option String) (reason : SkipReason) : Prop :=
  ∃ returned, setting.graph.type? field.type.innermost = some returned ∧
    setting.Raises returned (serving.element setting.wrappers) type host reason

/-- A field records just the skips that it raises, each with its coordinate. -/
theorem skip_mem_fieldSteps {field : Field} {serving : TypeRef} {entry : SkippedType}
    (hobjects : setting.graph.PossibleObjects) :
    .record (.skip entry) ∈ setting.fieldSteps field serving ↔
      setting.RaisesAt field serving entry.type entry.host entry.reason ∧
        entry.via = some field.coordinate := by
  rw [mem_fieldSteps]
  constructor
  · intro hgiven
    obtain ⟨returned, hreturned, hcases⟩ := hgiven
    have hfind := Graph.type?_name hreturned
    rcases hcases with ⟨hkind, h⟩ | ⟨hkind, h⟩ | ⟨-, h⟩
    · obtain ⟨hraises, hvia⟩ := (skip_mem_objectSteps hkind hfind).1 h
      exact ⟨⟨returned, hreturned, hraises⟩, hvia⟩
    · obtain ⟨hraises, hvia⟩ := (skip_mem_polymorphicSteps hobjects hkind hfind).1 h
      exact ⟨⟨returned, hreturned, hraises⟩, hvia⟩
    · cases h
  · rintro ⟨⟨returned, hreturned, hraises⟩, hvia⟩
    refine ⟨returned, hreturned, ?_⟩
    obtain ⟨member, hpossible, -⟩ := hraises.possible
    have hfind := Graph.type?_name hreturned
    rcases hpossible.kind hfind with hkind | hkind
    · exact Or.inl ⟨hkind, (skip_mem_objectSteps hkind hfind).2 ⟨hraises, hvia⟩⟩
    · exact Or.inr (Or.inl ⟨hkind,
        (skip_mem_polymorphicSteps hobjects hkind hfind).2 ⟨hraises, hvia⟩⟩)

end Setting

end SchemaCoverage.Inspection
