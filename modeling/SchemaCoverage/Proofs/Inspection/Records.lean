import SchemaCoverage.Proofs.Inspection.Targets
/-!
The records that a field gives rise to: skips of the object types that it leads nowhere for, and
states of the types that it returns.
-/
namespace SchemaCoverage.Inspection

open Schema Host

namespace Setting

variable {setting : Setting}

theorem record_mem_skipSteps {type : String} {host : Option String} {via : Coordinate}
    {reason : SkipReason} {event : Event} :
    .record event ∈ skipSteps type host via reason ↔
      event = .skip ⟨type, host, some via, reason⟩ ∨ event = .skipped type := by
  simp [skipSteps]

theorem record_mem_memberSteps {via : Coordinate} {member : GraphType} {declared : HostType}
    {direct : Bool} {event : Event} :
    .record event ∈ setting.memberSteps via member declared direct ↔
      setting.activeHosts member.name declared direct = [] ∧
        .record event ∈ skipSteps member.name
          ((setting.candidates member.name declared).head?.map (·.path)) via
          (setting.inactiveReason member.name declared) := by
  simp [mem_memberSteps]

theorem record_mem_objectSteps {via : Coordinate} {type : GraphType} {element : TypeRef}
    {event : Event} :
    .record event ∈ setting.objectSteps via type element ↔
      (∃ declared, setting.Declares element declared ∧
          .record event ∈ setting.memberSteps via type declared true) ∨
        ∃ reason, setting.declaredHost element = .error reason ∧
          .record event ∈ skipSteps type.name element.path? via reason := by
  simp only [← declaredHost_eq_ok_iff]
  unfold objectSteps
  split
  · next declared hdeclared => simp [hdeclared]
  · next reason herror => simp [herror]

/-- A field of an interface or union records what it records for each member, and in the end a
state of the type itself. -/
theorem record_mem_polymorphicSteps {via : Coordinate} {type : GraphType} {element : TypeRef}
    {event : Event} :
    .record event ∈ setting.polymorphicSteps via type element ↔
      (∃ declared, setting.Declares element declared ∧
          (event = .visiting type.name ∨
            (∃ member, setting.Possible type member ∧
              .record event ∈ setting.memberSteps via member declared false) ∨
            event = if setting.checksInterface type declared ||
                (setting.possibleObjects type.name).any fun member =>
                  !(setting.activeHosts member.name declared false).isEmpty
              then .resolved type.name else .skipped type.name)) ∨
        ∃ reason, setting.declaredHost element = .error reason ∧
          ((∃ name ∈ setting.graph.possibleTypes type.name,
              .record event ∈ skipSteps name element.path? via reason) ∨
            event = .skipped type.name) := by
  simp only [← declaredHost_eq_ok_iff, ← mem_possibleObjects]
  unfold polymorphicSteps
  split
  · next reason herror => simp [herror]
  · next declared hdeclared =>
      have hitself : Step.record event ∉
          (if setting.checksInterface type declared then [Step.visit type declared] else []) := by
        split <;> simp
      simp only [hdeclared, Except.ok.injEq, exists_eq_left', List.mem_append, hitself,
        List.mem_flatMap, List.mem_singleton, Step.record.injEq, or_false, or_assoc, reduceCtorEq,
        false_and, exists_false]

/-- What a field records tells that a type is skipped that a value of the returned type may have, or
is a state of the returned type itself unless that is an object type. -/
theorem record_of_mem_fieldSteps {field : Field} {serving : TypeRef} {event : Event}
    (h : .record event ∈ setting.fieldSteps field serving) :
    ∃ returned, setting.graph.type? field.type.innermost = some returned ∧
      ((∃ name ∈ setting.graph.possibleTypes returned.name, event = .skipped name ∨
          ∃ host reason, event = .skip ⟨name, host, some field.coordinate, reason⟩) ∨
        returned.kind ≠ .object ∧ (event = .visiting returned.name ∨
          event = .skipped returned.name ∨ event = .resolved returned.name)) := by
  obtain ⟨returned, hreturned, hcases⟩ := mem_fieldSteps.1 h
  refine ⟨returned, hreturned, ?_⟩
  have hskip {name : String} {host : Option String} {reason : SkipReason}
      (hname : name ∈ setting.graph.possibleTypes returned.name)
      (h : .record event ∈ skipSteps name host field.coordinate reason) :
      ∃ name ∈ setting.graph.possibleTypes returned.name, event = .skipped name ∨
        ∃ host reason, event = .skip ⟨name, host, some field.coordinate, reason⟩ := by
    refine ⟨name, hname, ?_⟩
    rcases record_mem_skipSteps.1 h with rfl | rfl
    · exact Or.inr ⟨host, reason, rfl⟩
    · exact Or.inl rfl
  rcases hcases with ⟨hkind, h⟩ | ⟨hkind, h⟩ | ⟨hkind, h⟩
  · left
    have hfind := Graph.type?_name hreturned
    have hitself : setting.Possible returned returned := (possible_of_object hkind hfind).2 rfl
    rcases record_mem_objectSteps.1 h with ⟨_, _, h⟩ | ⟨_, _, h⟩
    · exact hskip hitself.1 (record_mem_memberSteps.1 h).2
    · exact hskip hitself.1 h
  · have hother : returned.kind ≠ .object := by
      intro hobject
      simp [GraphType.isPolymorphic, hobject] at hkind
    rcases record_mem_polymorphicSteps.1 h with
      ⟨_, _, h | ⟨member, hpossible, h⟩ | h⟩ | ⟨_, _, ⟨name, hname, h⟩ | h⟩
    · exact Or.inr ⟨hother, Or.inl h⟩
    · exact Or.inl (hskip hpossible.1 (record_mem_memberSteps.1 h).2)
    · split at h
      · exact Or.inr ⟨hother, Or.inr (Or.inr h)⟩
      · exact Or.inr ⟨hother, Or.inr (Or.inl h)⟩
    · exact Or.inl (hskip hname h)
    · exact Or.inr ⟨hother, Or.inr (Or.inl h)⟩
  · have hother : returned.kind ≠ .object := by
      intro hobject
      simp [GraphType.isLeaf, hobject] at hkind
    exact Or.inr ⟨hother, Or.inr (Or.inr (Step.record.inj h))⟩

end Setting

end SchemaCoverage.Inspection
