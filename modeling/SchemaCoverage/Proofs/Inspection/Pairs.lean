import SchemaCoverage.Proofs.Inspection.Findings
import SchemaCoverage.Proofs.Inspection.Reach
import SchemaCoverage.Proofs.Inspection.Records
import Mathlib.Order.Bounds.Basic
/-!
The pairs that an inspection checks. They are the least set that holds the targets of all root
fields with a registered method and, with each of its pairs, the targets of the fields that a
registered method or a member serves there. The unmapped fields are those that nothing serves.
-/
namespace SchemaCoverage.Inspection

open Schema Host

namespace Setting

variable {setting : Setting}

/-- The graph and the registry have both parts of a target under their names, and the type has
fields. -/
theorem Target.known {type member : GraphType} {element : TypeRef} {host : HostType}
    (h : setting.Target type element member host)
    (hfind : setting.graph.type? type.name = some type) :
    setting.Known member host ∧ member.isComposite = true := by
  cases h with
  | itself hdeclares _ hkind =>
      exact ⟨⟨hfind, hdeclares.registered⟩, by simp [GraphType.isComposite, hkind]⟩
  | assignable _ _ hpossible hcandidate _ =>
      exact ⟨⟨hpossible.2.1, registered_of_mem_candidates hcandidate⟩,
        by simp [GraphType.isComposite, hpossible.2.2]⟩
  | candidate hdeclares _ _ hpossible _ =>
      exact ⟨⟨hpossible.2.1, hdeclares.registered⟩,
        by simp [GraphType.isComposite, hpossible.2.2]⟩
  | interface hdeclares _ hkind _ =>
      exact ⟨⟨hfind, hdeclares.registered⟩, by simp [GraphType.isComposite, hkind]⟩

theorem Leads.known {field : Field} {serving : TypeRef} {type : GraphType} {host : HostType}
    (h : setting.Leads field serving type host) :
    setting.Known type host ∧ type.isComposite = true := by
  obtain ⟨returned, hfind, htarget⟩ := h
  exact htarget.known (Graph.type?_name hfind)

/-- Every known pair of a type with fields is one that the walk may still check at the start. -/
theorem Known.mem_allPairs {type : GraphType} {host : HostType} (h : setting.Known type host)
    (hcomposite : type.isComposite = true) :
    (type.name, host.path) ∈ setting.allPairs := by
  obtain ⟨htype, hhost⟩ := h
  refine List.mem_flatMap.2 ⟨type, List.mem_filter.2 ⟨mem_of_findType? htype, hcomposite⟩, ?_⟩
  refine List.mem_map.2 ⟨host.path, ?_, rfl⟩
  exact List.mem_map.2 ⟨host, Registry.mem_of_get? hhost, rfl⟩

theorem mem_serveSteps {field : Field} {serving : Option TypeRef} {step : Step} :
    step ∈ setting.serveSteps field serving ↔
      (∃ ref, serving = some ref ∧ step ∈ setting.fieldSteps field ref) ∨
        serving = none ∧ step = .record (.unmappedField field.coordinate) := by
  cases serving <;> simp [serveSteps]

theorem mem_pairSteps {type : GraphType} {host : HostType} {step : Step} :
    step ∈ setting.pairSteps type host ↔
      step = .record (.checked type.name host.path) ∨ step = .record (.visiting type.name) ∨
        (∃ field ∈ type.fields,
          step ∈ setting.serveSteps field (setting.serving? host field)) ∨
        step = .record (.resolved type.name) := by
  simp [pairSteps]

theorem mem_rootSteps {root : GraphType} {step : Step} :
    step ∈ setting.rootSteps root ↔
      step = .record (.visiting root.name) ∨
        (∃ field ∈ root.fields, step ∈ setting.serveSteps field (setting.registered? field)) ∨
        step = .record (.resolved root.name) := by
  simp [rootSteps]

theorem mem_firstSteps {step : Step} :
    step ∈ setting.firstSteps ↔
      ∃ operation root, (operation, root) ∈ setting.graph.roots ∧
        step ∈ setting.rootSteps root := by
  simp [firstSteps]

theorem visit_mem_serveSteps {field : Field} {serving : Option TypeRef} {type : GraphType}
    {host : HostType} :
    .visit type host ∈ setting.serveSteps field serving ↔
      ∃ ref, serving = some ref ∧ setting.Leads field ref type host := by
  simp [mem_serveSteps, visit_mem_fieldSteps]

theorem visit_mem_pairSteps {type type' : GraphType} {host host' : HostType} :
    .visit type' host' ∈ setting.pairSteps type host ↔
      ∃ field ∈ type.fields, ∃ ref, setting.serving? host field = some ref ∧
        setting.Leads field ref type' host' := by
  simp [mem_pairSteps, visit_mem_serveSteps]

theorem visit_mem_firstSteps {type : GraphType} {host : HostType} :
    .visit type host ∈ setting.firstSteps ↔
      ∃ operation root, (operation, root) ∈ setting.graph.roots ∧
        ∃ field ∈ root.fields, ∃ ref, setting.registered? field = some ref ∧
          setting.Leads field ref type host := by
  simp [mem_firstSteps, mem_rootSteps, visit_mem_serveSteps]

theorem visitsKnown_pairSteps (type : GraphType) (host : HostType) :
    setting.VisitsKnown (setting.pairSteps type host) := by
  intro type' host' hvisit
  obtain ⟨_, _, _, _, hleads⟩ := visit_mem_pairSteps.1 hvisit
  exact hleads.known.1

theorem visitsKnown_firstSteps : setting.VisitsKnown setting.firstSteps := by
  intro type host hvisit
  obtain ⟨_, _, _, _, _, _, _, hleads⟩ := visit_mem_firstSteps.1 hvisit
  exact hleads.known.1

/-- The pairs that a walk comes to from the root types. -/
def Reached (setting : Setting) : GraphType → HostType → Prop :=
  setting.ReachedFrom setting.allPairs setting.firstSteps

/-- The whole walk does the steps of the root types and those of the pairs that it comes to. -/
theorem mem_trace {step : Step} (hstep : ∀ type host, step ≠ .visit type host) :
    step ∈ setting.trace ↔
      step ∈ setting.firstSteps ∨
        ∃ type host, setting.Reached type host ∧ step ∈ setting.pairSteps type host :=
  mem_walk visitsKnown_pairSteps visitsKnown_firstSteps hstep

theorem Reached.known {type : GraphType} {host : HostType} (h : setting.Reached type host) :
    setting.Known type host :=
  ReachedFrom.known visitsKnown_firstSteps visitsKnown_pairSteps h

theorem Reached.of_root {operation : Operation} {root type : GraphType} {field : Field}
    {ref : TypeRef} {host : HostType} (hroot : (operation, root) ∈ setting.graph.roots)
    (hfield : field ∈ root.fields) (hserving : setting.registered? field = some ref)
    (hleads : setting.Leads field ref type host) : setting.Reached type host :=
  .start (hleads.known.1.mem_allPairs hleads.known.2)
    (visit_mem_firstSteps.2 ⟨operation, root, hroot, field, hfield, ref, hserving, hleads⟩)

theorem Reached.of_pair {type type' : GraphType} {host host' : HostType} {field : Field}
    {ref : TypeRef} (h : setting.Reached type host) (hfield : field ∈ type.fields)
    (hserving : setting.serving? host field = some ref)
    (hleads : setting.Leads field ref type' host') : setting.Reached type' host' :=
  .next h (hleads.known.1.mem_allPairs hleads.known.2)
    (visit_mem_pairSteps.2 ⟨field, hfield, ref, hserving, hleads⟩)

theorem mem_filterMap_eventOf? {steps : List Step} {event : Event} :
    event ∈ steps.filterMap eventOf? ↔ .record event ∈ steps := by
  rw [List.mem_filterMap]
  constructor
  · rintro ⟨step, hmem, hevent⟩
    cases step with
    | record event' =>
        obtain rfl := Option.some.inj hevent
        exact hmem
    | consult _ _ => cases hevent
    | visit _ _ => cases hevent
  · exact fun h => ⟨_, h, rfl⟩

theorem mem_events {event : Event} :
    event ∈ setting.events ↔
      .record event ∈ setting.firstSteps ∨
        (∃ type host, setting.Reached type host ∧ .record event ∈ setting.pairSteps type host) ∨
        event ∈ setting.registrationEvents := by
  rw [events, List.mem_append, mem_filterMap_eventOf?, mem_trace (by simp), or_assoc]

/-- After the walk only registrations and arguments are recorded. -/
theorem event_of_mem_registrationEvents {event : Event} (h : event ∈ setting.registrationEvents) :
    (∃ entry, event = .unmappedRegistration entry) ∨ ∃ entry, event = .unmappedArgument entry := by
  obtain ⟨⟨coordinate, method⟩, _, h⟩ := List.mem_flatMap.1 h
  cases hfield : setting.graph.field? coordinate with
  | none =>
      simp only [hfield, List.mem_singleton] at h
      exact Or.inl ⟨_, h⟩
  | some field =>
      simp only [hfield, List.mem_map] at h
      obtain ⟨_, _, rfl⟩ := h
      exact Or.inr ⟨_, rfl⟩

/-- A field leads to records of types, unless nothing serves it. -/
theorem record_mem_serveSteps {field : Field} {serving : Option TypeRef} {event : Event}
    (hsubject : event.subject? = none) :
    .record event ∈ setting.serveSteps field serving ↔
      serving = none ∧ event = .unmappedField field.coordinate := by
  rw [mem_serveSteps]
  constructor
  · intro hgiven
    rcases hgiven with ⟨ref, -, h⟩ | ⟨hnone, h⟩
    · obtain ⟨_, _, ⟨_, _, rfl | ⟨_, _, rfl⟩⟩ | ⟨_, rfl | rfl | rfl⟩⟩ :=
        record_of_mem_fieldSteps h <;> cases hsubject
    · exact ⟨hnone, Step.record.inj h⟩
  · rintro ⟨hnone, rfl⟩
    exact Or.inr ⟨hnone, rfl⟩

theorem checked_not_mem_serveSteps {field : Field} {serving : Option TypeRef}
    {name path : String} : .record (.checked name path) ∉ setting.serveSteps field serving := by
  rw [record_mem_serveSteps rfl]
  rintro ⟨-, h⟩
  cases h

/-- A pair is recorded as checked by its own steps alone. -/
theorem checked_mem_events {name path : String} :
    .checked name path ∈ setting.events ↔
      ∃ type host, setting.Reached type host ∧ type.name = name ∧ host.path = path := by
  rw [mem_events]
  constructor
  · intro hgiven
    rcases hgiven with h | ⟨type, host, hreached, h⟩ | h
    · simp [mem_firstSteps, mem_rootSteps, checked_not_mem_serveSteps] at h
    · simp only [mem_pairSteps, Step.record.injEq, Event.checked.injEq,
        checked_not_mem_serveSteps, and_false, exists_false, reduceCtorEq, or_false] at h
      exact ⟨type, host, hreached, h.1.symm, h.2.symm⟩
    · rcases event_of_mem_registrationEvents h with ⟨_, h⟩ | ⟨_, h⟩ <;> cases h
  · rintro ⟨type, host, hreached, rfl, rfl⟩
    exact Or.inr (Or.inl ⟨type, host, hreached, mem_pairSteps.2 (Or.inl rfl)⟩)

/-- A field is recorded as unmapped where nothing serves it. -/
theorem unmappedField_mem_events {coordinate : Coordinate} :
    .unmappedField coordinate ∈ setting.events ↔
      (∃ operation root field, (operation, root) ∈ setting.graph.roots ∧ field ∈ root.fields ∧
          setting.registered? field = none ∧ field.coordinate = coordinate) ∨
        ∃ type host field, setting.Reached type host ∧ field ∈ type.fields ∧
          setting.serving? host field = none ∧ field.coordinate = coordinate := by
  have hserve {field : Field} {serving : Option TypeRef} :
      .record (.unmappedField coordinate) ∈ setting.serveSteps field serving ↔
        serving = none ∧ field.coordinate = coordinate := by
    rw [record_mem_serveSteps rfl, Event.unmappedField.injEq, @eq_comm _ coordinate]
  have hregistration : .unmappedField coordinate ∉ setting.registrationEvents := by
    intro h
    rcases event_of_mem_registrationEvents h with ⟨_, h⟩ | ⟨_, h⟩ <;> cases h
  simp only [mem_events, mem_firstSteps, mem_rootSteps, mem_pairSteps, hserve, hregistration,
    Step.record.injEq, reduceCtorEq, false_or, or_false]
  constructor
  · intro hgiven
    rcases hgiven with ⟨operation, root, hroot, field, hfield, h⟩ |
      ⟨type, host, hreached, field, hfield, h⟩
    · exact Or.inl ⟨operation, root, field, hroot, hfield, h⟩
    · exact Or.inr ⟨type, host, field, hreached, hfield, h⟩
  · intro hgiven
    rcases hgiven with ⟨operation, root, field, hroot, hfield, h⟩ |
      ⟨type, host, field, hreached, hfield, h⟩
    · exact Or.inl ⟨operation, root, hroot, field, hfield, h⟩
    · exact Or.inr ⟨type, host, hreached, field, hfield, h⟩

/-- The pairs that an inspection has recorded as checked. -/
def checkedPairs (setting : Setting) : Set (GraphType × HostType) :=
  {pair | setting.Known pair.1 pair.2 ∧
    (pair.1.name, pair.2.path) ∈ (Tally.ofEvents setting.events).checked}

/-- A set of pairs that holds all that root fields lead to where a method is registered, and with
each pair all that its fields lead to where a method or a member serves them. -/
structure Closed (setting : Setting) (pairs : Set (GraphType × HostType)) : Prop where
  root : ∀ {operation root field ref type host}, (operation, root) ∈ setting.graph.roots →
    field ∈ root.fields → setting.registered? field = some ref →
    setting.Leads field ref type host → (type, host) ∈ pairs
  member : ∀ {type host field ref type' host'}, (type, host) ∈ pairs → field ∈ type.fields →
    setting.serving? host field = some ref → setting.Leads field ref type' host' →
    (type', host') ∈ pairs

theorem mem_checkedPairs {type : GraphType} {host : HostType} :
    (type, host) ∈ setting.checkedPairs ↔ setting.Reached type host := by
  constructor
  · rintro ⟨hknown, hchecked⟩
    obtain ⟨type', host', hreached, hname, hpath⟩ :=
      checked_mem_events.1 (Tally.mem_checked_ofEvents.1 hchecked)
    obtain ⟨rfl, rfl⟩ := hreached.known.unique hknown (Prod.ext hname hpath)
    exact hreached
  · intro hreached
    exact ⟨hreached.known, Tally.mem_checked_ofEvents.2
      (checked_mem_events.2 ⟨type, host, hreached, rfl, rfl⟩)⟩

theorem Closed.of_reached {pairs : Set (GraphType × HostType)} (hclosed : setting.Closed pairs)
    {type : GraphType} {host : HostType} (h : setting.Reached type host) :
    (type, host) ∈ pairs := by
  induction h with
  | start _ hvisit =>
      obtain ⟨_, _, hroot, _, hfield, _, hserving, hleads⟩ := visit_mem_firstSteps.1 hvisit
      exact hclosed.root hroot hfield hserving hleads
  | next _ _ hvisit ih =>
      obtain ⟨_, hfield, _, hserving, hleads⟩ := visit_mem_pairSteps.1 hvisit
      exact hclosed.member ih hfield hserving hleads

theorem closed_checkedPairs : setting.Closed setting.checkedPairs where
  root hroot hfield hserving hleads :=
    mem_checkedPairs.2 (Reached.of_root hroot hfield hserving hleads)
  member hpair hfield hserving hleads :=
    mem_checkedPairs.2 ((mem_checkedPairs.1 hpair).of_pair hfield hserving hleads)

/-- The checked pairs are the least closed set, so that no pair is lost on any cycle. What is
recorded as checked is always such a pair, and the unmapped fields of the report are the root fields
without a registered method and the fields of these pairs that nothing serves. -/
theorem checkedPairs_isLeast_closed (setting : Setting) :
    IsLeast {pairs | setting.Closed pairs} setting.checkedPairs ∧
      (∀ name path, (name, path) ∈ (Tally.ofEvents setting.events).checked →
        ∃ pair ∈ setting.checkedPairs, pair.1.name = name ∧ pair.2.path = path) ∧
      ∀ coordinate, coordinate ∈ setting.report.unmappedFields ↔
        (∃ operation root field, (operation, root) ∈ setting.graph.roots ∧ field ∈ root.fields ∧
            setting.registered? field = none ∧ field.coordinate = coordinate) ∨
          ∃ pair ∈ setting.checkedPairs, ∃ field ∈ pair.1.fields,
            setting.serving? pair.2 field = none ∧ field.coordinate = coordinate := by
  refine ⟨⟨closed_checkedPairs, ?_⟩, ?_, ?_⟩
  · rintro pairs hclosed ⟨type, host⟩ hpair
    exact hclosed.of_reached (mem_checkedPairs.1 hpair)
  · intro name path hchecked
    obtain ⟨type, host, hreached, hname, hpath⟩ :=
      checked_mem_events.1 (Tally.mem_checked_ofEvents.1 hchecked)
    exact ⟨(type, host), mem_checkedPairs.2 hreached, hname, hpath⟩
  · intro coordinate
    have hunmapped : coordinate ∈ setting.report.unmappedFields ↔
        .unmappedField coordinate ∈ setting.events := Tally.mem_unmappedFields_ofEvents
    rw [hunmapped, unmappedField_mem_events]
    simp only [Prod.exists, mem_checkedPairs, exists_and_left]

end Setting

end SchemaCoverage.Inspection
