import SchemaCoverage.Proofs.Inspection.Pairs
import SchemaCoverage.Proofs.Inspection.Raises
/-!
The fields that a walk follows: root fields with a registered method, and the fields of checked
pairs that a registered method or a member serves. What is skipped in an inspection is what these
fields raise, and an object type is resolved as a root type or by a check.
-/
namespace SchemaCoverage.Inspection

open Schema Host

namespace Setting

variable {setting : Setting}

/-- The fields that the walk follows, with the references that serve them. -/
inductive Followed (setting : Setting) : Field → TypeRef → Prop
  | root {operation : Operation} {root : GraphType} {field : Field} {serving : TypeRef} :
      (operation, root) ∈ setting.graph.roots → field ∈ root.fields →
      setting.registered? field = some serving → Followed setting field serving
  | member {type : GraphType} {host : HostType} {field : Field} {serving : TypeRef} :
      (type, host) ∈ setting.checkedPairs → field ∈ type.fields →
      setting.serving? host field = some serving → Followed setting field serving

/-- A followed field leads to checked pairs alone. -/
theorem Followed.checked_of_leads {field : Field} {serving : TypeRef} {type : GraphType}
    {host : HostType} (h : setting.Followed field serving)
    (hleads : setting.Leads field serving type host) : (type, host) ∈ setting.checkedPairs := by
  cases h with
  | root hroot hfield hserving => exact closed_checkedPairs.root hroot hfield hserving hleads
  | member hpair hfield hserving =>
      exact closed_checkedPairs.member hpair hfield hserving hleads

/-- Every checked pair is one that a followed field leads to. -/
theorem exists_followed_of_checked {type : GraphType} {host : HostType}
    (h : (type, host) ∈ setting.checkedPairs) :
    ∃ field serving, setting.Followed field serving ∧ setting.Leads field serving type host := by
  cases mem_checkedPairs.1 h with
  | start _ hvisit =>
      obtain ⟨_, _, hroot, field, hfield, serving, hserving, hleads⟩ :=
        visit_mem_firstSteps.1 hvisit
      exact ⟨field, serving, .root hroot hfield hserving, hleads⟩
  | next hreached _ hvisit =>
      obtain ⟨field, hfield, serving, hserving, hleads⟩ := visit_mem_pairSteps.1 hvisit
      exact ⟨field, serving, .member (mem_checkedPairs.2 hreached) hfield hserving, hleads⟩

/-- Skips and states of types are recorded for root types, for checked pairs, and for followed
fields. -/
theorem mem_events_iff_followed {event : Event} {name : String}
    (hsubject : event.subject? = some name) :
    event ∈ setting.events ↔
      (∃ operation root, (operation, root) ∈ setting.graph.roots ∧
        (event = .visiting root.name ∨ event = .resolved root.name)) ∨
      (∃ type host, (type, host) ∈ setting.checkedPairs ∧
        (event = .visiting type.name ∨ event = .resolved type.name)) ∨
      ∃ field serving, setting.Followed field serving ∧
        .record event ∈ setting.fieldSteps field serving := by
  have hchecked (name path : String) : event ≠ .checked name path := by
    rintro rfl
    cases hsubject
  have hregistration : event ∉ setting.registrationEvents := by
    intro h
    rcases event_of_mem_registrationEvents h with ⟨_, rfl⟩ | ⟨_, rfl⟩ <;> cases hsubject
  have hserve {field : Field} {serving : Option TypeRef} :
      .record event ∈ setting.serveSteps field serving ↔
        ∃ ref, serving = some ref ∧ .record event ∈ setting.fieldSteps field ref := by
    have hunmapped : event ≠ .unmappedField field.coordinate := by
      rintro rfl
      cases hsubject
    simp [mem_serveSteps, hunmapped]
  rw [mem_events]
  constructor
  · intro hgiven
    rcases hgiven with h | ⟨type, host, hreached, h⟩ | h
    · obtain ⟨operation, root, hroot, h⟩ := mem_firstSteps.1 h
      rcases mem_rootSteps.1 h with h | ⟨field, hfield, h⟩ | h
      · exact Or.inl ⟨operation, root, hroot, Or.inl (Step.record.inj h)⟩
      · obtain ⟨serving, hserving, h⟩ := hserve.1 h
        exact Or.inr (Or.inr ⟨field, serving, .root hroot hfield hserving, h⟩)
      · exact Or.inl ⟨operation, root, hroot, Or.inr (Step.record.inj h)⟩
    · have hpair := mem_checkedPairs.2 hreached
      rcases mem_pairSteps.1 h with h | h | ⟨field, hfield, h⟩ | h
      · exact absurd (Step.record.inj h) (hchecked _ _)
      · exact Or.inr (Or.inl ⟨type, host, hpair, Or.inl (Step.record.inj h)⟩)
      · obtain ⟨serving, hserving, h⟩ := hserve.1 h
        exact Or.inr (Or.inr ⟨field, serving, .member hpair hfield hserving, h⟩)
      · exact Or.inr (Or.inl ⟨type, host, hpair, Or.inr (Step.record.inj h)⟩)
    · exact absurd h hregistration
  · intro hgiven
    rcases hgiven with ⟨operation, root, hroot, h⟩ | ⟨type, host, hpair, h⟩ |
      ⟨field, serving, hfollowed, h⟩
    · refine Or.inl (mem_firstSteps.2 ⟨operation, root, hroot, mem_rootSteps.2 ?_⟩)
      exact h.imp (congrArg Step.record) fun heq => Or.inr (congrArg Step.record heq)
    · refine Or.inr (Or.inl ⟨type, host, mem_checkedPairs.1 hpair, mem_pairSteps.2 (Or.inr ?_)⟩)
      exact h.imp (congrArg Step.record) fun heq => Or.inr (congrArg Step.record heq)
    · cases hfollowed with
      | root hroot hfield hserving =>
          refine Or.inl (mem_firstSteps.2 ⟨_, _, hroot, mem_rootSteps.2 ?_⟩)
          exact Or.inr (Or.inl ⟨field, hfield, hserve.2 ⟨serving, hserving, h⟩⟩)
      | member hpair hfield hserving =>
          refine Or.inr (Or.inl ⟨_, _, mem_checkedPairs.1 hpair, mem_pairSteps.2 ?_⟩)
          exact Or.inr (Or.inr (Or.inl ⟨field, hfield, hserve.2 ⟨serving, hserving, h⟩⟩))

/-- Skips are recorded for followed fields alone. -/
theorem skip_mem_events_iff_followed {entry : SkippedType} :
    .skip entry ∈ setting.events ↔
      ∃ field serving, setting.Followed field serving ∧
        .record (.skip entry) ∈ setting.fieldSteps field serving := by
  rw [mem_events_iff_followed rfl]
  simp only [reduceCtorEq, or_self, and_false, exists_false, false_or]

/-- The skips that are recorded are those that followed fields raise. -/
theorem skip_mem_events {entry : SkippedType} (hobjects : setting.graph.PossibleObjects) :
    .skip entry ∈ setting.events ↔
      ∃ field serving, setting.Followed field serving ∧
        setting.RaisesAt field serving entry.type entry.host entry.reason ∧
        entry.via = some field.coordinate := by
  simp only [skip_mem_events_iff_followed, skip_mem_fieldSteps hobjects]

/-- A field resolves the type that it returns, and no object type. -/
theorem returned_of_resolved_mem_fieldSteps {field : Field} {serving : TypeRef} {name : String}
    (h : .record (.resolved name) ∈ setting.fieldSteps field serving) :
    ∃ returned, setting.graph.type? field.type.innermost = some returned ∧
      returned.name = name ∧ returned.kind ≠ .object := by
  obtain ⟨returned, hreturned, ⟨_, _, h | ⟨_, _, h⟩⟩ | ⟨hother, h | h | h⟩⟩ :=
    record_of_mem_fieldSteps h
  · cases h
  · cases h
  · cases h
  · cases h
  · exact ⟨returned, hreturned, (Event.resolved.inj h).symm, hother⟩

/-- The name is that of the root type of an operation. -/
def IsRoot (setting : Setting) (name : String) : Prop :=
  ∃ operation root, (operation, root) ∈ setting.graph.roots ∧ root.name = name

/-- An object type is resolved as a root type or by a check against some host type. -/
theorem resolved_mem_events {type : GraphType}
    (hfind : setting.graph.type? type.name = some type) (hkind : type.kind = .object) :
    .resolved type.name ∈ setting.events ↔
      setting.IsRoot type.name ∨ ∃ host, (type, host) ∈ setting.checkedPairs := by
  rw [mem_events_iff_followed rfl]
  simp only [reduceCtorEq, false_or, Event.resolved.injEq]
  constructor
  · intro hgiven
    rcases hgiven with ⟨operation, root, hroot, hname⟩ | ⟨type', host, hpair, hname⟩ |
      ⟨field, serving, -, h⟩
    · exact Or.inl ⟨operation, root, hroot, hname.symm⟩
    · have hfind' := (mem_checkedPairs.1 hpair).known.1
      rw [← hname, hfind, Option.some.injEq] at hfind'
      exact Or.inr ⟨host, hfind' ▸ hpair⟩
    · obtain ⟨returned, hreturned, hname, hother⟩ := returned_of_resolved_mem_fieldSteps h
      rw [← name_of_findType? hreturned, hname, hfind, Option.some.injEq] at hreturned
      exact absurd hkind (hreturned ▸ hother)
  · intro hgiven
    rcases hgiven with ⟨operation, root, hroot, hname⟩ | ⟨host, hpair⟩
    · exact Or.inl ⟨operation, root, hroot, hname.symm⟩
    · exact Or.inr (Or.inl ⟨type, host, hpair, rfl⟩)

end Setting

end SchemaCoverage.Inspection
