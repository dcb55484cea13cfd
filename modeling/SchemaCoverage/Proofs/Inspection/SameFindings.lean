import SchemaCoverage.Proofs.Inspection.Agreement
/-!
The findings of inspections that agree. Events name types, host types and fields and hold nothing of
where these stand in a list, so settings that agree have the same events; and what a report finds
depends on the set of its events alone.
-/
namespace SchemaCoverage.Inspection

open Schema Host

/-- Two reports find the same, though perhaps in another order and by way of other fields. -/
structure Report.SameFindings (report report' : Report) : Prop where
  unmappedFields : ∀ coordinate,
    coordinate ∈ report.unmappedFields ↔ coordinate ∈ report'.unmappedFields
  /-- The same types are skipped for the same host types. -/
  skipped : ∀ key, key ∈ report.skipped.map (·.key) ↔ key ∈ report'.skipped.map (·.key)
  unmappedRegistrations : ∀ entry,
    entry ∈ report.unmappedRegistrations ↔ entry ∈ report'.unmappedRegistrations
  unmappedArguments : ∀ entry,
    entry ∈ report.unmappedArguments ↔ entry ∈ report'.unmappedArguments
  states : ∀ name, report.stateOf name = report'.stateOf name

namespace Setting

variable {setting setting' : Setting}

section Records

variable (h : setting.Agrees setting')

include h

theorem Agrees.record_memberSteps {via : Coordinate} {member member' : GraphType}
    {declared declared' : HostType} {direct : Bool} {event : Event}
    (hname : member.name = member'.name) (hdeclared : declared.Agrees declared')
    (hevent : .record event ∈ setting.memberSteps via member declared direct) :
    .record event ∈ setting'.memberSteps via member' declared' direct := by
  obtain ⟨hactive, hskip⟩ := record_mem_memberSteps.1 hevent
  have hactives := h.paths_activeHosts_eq hdeclared member.name direct
  have hcandidates := h.paths_candidates_eq hdeclared member.name
  have hnearest : (setting.candidates member.name declared).head?.map (·.path) =
      (setting'.candidates member.name declared').head?.map (·.path) := by
    rw [← List.head?_map, ← List.head?_map, hcandidates]
  have hempty : (setting.candidates member.name declared).isEmpty =
      (setting'.candidates member.name declared').isEmpty := by
    have hmapped := congrArg List.isEmpty hcandidates
    rwa [List.isEmpty_map, List.isEmpty_map] at hmapped
  have hreason : setting.inactiveReason member.name declared =
      setting'.inactiveReason member.name declared' := by
    rw [inactiveReason, inactiveReason, hdeclared.isAbstract_eq, hempty]
  rw [hactive, List.map_nil] at hactives
  rw [hnearest, hreason, hname] at hskip
  rw [hname] at hactives
  exact record_mem_memberSteps.2 ⟨List.map_eq_nil_iff.1 hactives.symm, hskip⟩

theorem Agrees.record_objectSteps {via : Coordinate} {type type' : GraphType} {element : TypeRef}
    {event : Event} (htype : type.Agrees type')
    (hevent : .record event ∈ setting.objectSteps via type element) :
    .record event ∈ setting'.objectSteps via type' element := by
  rw [record_mem_objectSteps] at hevent ⊢
  rcases hevent with ⟨declared, hdeclares, hmember⟩ | ⟨reason, herror, hskip⟩
  · left
    obtain ⟨declared', hdeclares', hdeclared⟩ := h.exists_declares hdeclares
    exact ⟨declared', hdeclares', h.record_memberSteps htype.name hdeclared hmember⟩
  · right
    rw [htype.name] at hskip
    exact ⟨reason, h.declaredHost_error herror, hskip⟩

/-- Whether anything is checked for an interface or union. -/
def checksAny (setting : Setting) (type : GraphType) (declared : HostType) : Bool :=
  setting.checksInterface type declared || (setting.possibleObjects type.name).any fun member =>
    !(setting.activeHosts member.name declared false).isEmpty

theorem Agrees.checksAny {type type' : GraphType} {declared declared' : HostType}
    (htype : type.Agrees type') (hdeclared : declared.Agrees declared')
    (hchecks : setting.checksAny type declared = true) :
    setting'.checksAny type' declared' = true := by
  unfold Setting.checksAny at hchecks ⊢
  rw [Bool.or_eq_true] at hchecks ⊢
  apply hchecks.imp
  · intro hitself
    rw [checksInterface_iff] at hitself ⊢
    rwa [← h.policy, ← hdeclared.kind, ← htype.kind]
  · intro hany
    obtain ⟨member, hmember, hactive⟩ := List.any_eq_true.1 hany
    obtain ⟨member', hmember', hagrees⟩ :=
      h.exists_possible htype.name (mem_possibleObjects.1 hmember)
    refine List.any_eq_true.2 ⟨member', mem_possibleObjects.2 hmember', ?_⟩
    have hempty := congrArg List.isEmpty (h.paths_activeHosts_eq hdeclared member.name false)
    rw [List.isEmpty_map, List.isEmpty_map, hagrees.name] at hempty
    rw [hagrees.name] at hactive
    rwa [← hempty]

theorem Agrees.record_polymorphicSteps {via : Coordinate} {type type' : GraphType}
    {element : TypeRef} {event : Event} (htype : type.Agrees type')
    (hevent : .record event ∈ setting.polymorphicSteps via type element) :
    .record event ∈ setting'.polymorphicSteps via type' element := by
  rw [record_mem_polymorphicSteps] at hevent ⊢
  rcases hevent with ⟨declared, hdeclares, hcases⟩ | ⟨reason, herror, hcases⟩
  · left
    obtain ⟨declared', hdeclares', hdeclared⟩ := h.exists_declares hdeclares
    refine ⟨declared', hdeclares', ?_⟩
    have hchecks : setting.checksAny type declared = setting'.checksAny type' declared' := by
      rw [Bool.eq_iff_iff]
      exact ⟨h.checksAny htype hdeclared, h.symm.checksAny htype.symm hdeclared.symm⟩
    rcases hcases with hvisiting | ⟨member, hpossible, hmember⟩ | hstate
    · exact Or.inl (htype.name ▸ hvisiting)
    · right; left
      obtain ⟨member', hpossible', hagrees⟩ := h.exists_possible htype.name hpossible
      exact ⟨member', hpossible', h.record_memberSteps hagrees.name hdeclared hmember⟩
    · right; right
      change event = if setting.checksAny type declared then _ else _ at hstate
      rwa [hchecks, htype.name] at hstate
  · right
    refine ⟨reason, h.declaredHost_error herror, ?_⟩
    rcases hcases with ⟨name, hname, hskip⟩ | hskipped
    · left
      rw [htype.name] at hname
      exact ⟨name, h.graph.mem_possibleTypes hname, hskip⟩
    · exact Or.inr (htype.name ▸ hskipped)

theorem Agrees.record_fieldSteps {field field' : Field} {serving : TypeRef} {event : Event}
    (hfield : field.unplaced = field'.unplaced)
    (hevent : .record event ∈ setting.fieldSteps field serving) :
    .record event ∈ setting'.fieldSteps field' serving := by
  obtain ⟨returned, hreturned, hcases⟩ := mem_fieldSteps.1 hevent
  obtain ⟨returned', hreturned', hagrees⟩ := h.graph.exists_type hreturned
  rw [Field.innermost_eq hfield] at hreturned'
  refine mem_fieldSteps.2 ⟨returned', hreturned', ?_⟩
  rw [← hagrees.kind, ← hagrees.isPolymorphic_eq, ← hagrees.isLeaf_eq, ← hagrees.name, ← h.wrappers,
    ← Field.coordinate_eq hfield]
  rcases hcases with ⟨hkind, hobject⟩ | ⟨hkind, hpolymorphic⟩ | hleaf
  · exact Or.inl ⟨hkind, h.record_objectSteps hagrees hobject⟩
  · exact Or.inr (Or.inl ⟨hkind, h.record_polymorphicSteps hagrees hpolymorphic⟩)
  · exact Or.inr (Or.inr hleaf)

theorem Agrees.record_serveSteps {field field' : Field} {serving : Option TypeRef} {event : Event}
    (hfield : field.unplaced = field'.unplaced)
    (hevent : .record event ∈ setting.serveSteps field serving) :
    .record event ∈ setting'.serveSteps field' serving := by
  cases serving with
  | some ref => exact h.record_fieldSteps hfield hevent
  | none =>
      rw [serveSteps, Field.coordinate_eq hfield] at hevent
      exact hevent

theorem Agrees.record_firstSteps {event : Event} (hevent : .record event ∈ setting.firstSteps) :
    .record event ∈ setting'.firstSteps := by
  obtain ⟨operation, root, hroot, hevent⟩ := mem_firstSteps.1 hevent
  obtain ⟨root', hroot', hagrees⟩ := h.exists_root hroot
  refine mem_firstSteps.2 ⟨operation, root', hroot', ?_⟩
  rw [mem_rootSteps, hagrees.name] at hevent
  rw [mem_rootSteps]
  apply hevent.imp_right
  apply Or.imp_left
  rintro ⟨field, hfield, hserve⟩
  obtain ⟨field', hfield', hsame⟩ := hagrees.exists_field hfield
  rw [h.registered?_eq hsame] at hserve
  exact ⟨field', hfield', h.record_serveSteps hsame hserve⟩

theorem Agrees.record_pairSteps {type type' : GraphType} {host host' : HostType} {event : Event}
    (htype : type.Agrees type') (hhost : host.Agrees host')
    (hevent : .record event ∈ setting.pairSteps type host) :
    .record event ∈ setting'.pairSteps type' host' := by
  rw [mem_pairSteps, htype.name, hhost.path] at hevent
  rw [mem_pairSteps]
  apply hevent.imp_right
  apply Or.imp_right
  apply Or.imp_left
  rintro ⟨field, hfield, hserve⟩
  obtain ⟨field', hfield', hsame⟩ := htype.exists_field hfield
  rw [h.serving?_eq hsame hhost] at hserve
  exact ⟨field', hfield', h.record_serveSteps hsame hserve⟩

theorem Agrees.registrationEvents {event : Event} (hevent : event ∈ setting.registrationEvents) :
    event ∈ setting'.registrationEvents := by
  obtain ⟨⟨coordinate, method⟩, hmethod, hevent⟩ := List.mem_flatMap.1 hevent
  refine List.mem_flatMap.2 ⟨(coordinate, method), (h.methods _ _).1 hmethod, ?_⟩
  cases hfield : setting.graph.field? coordinate with
  | none =>
      have hfield' := eq_none_of_optionRel (h.graph.fields coordinate) hfield
      simpa [hfield, hfield'] using hevent
  | some field =>
      obtain ⟨field', hfield', hsame⟩ :=
        exists_of_optionRel (h.graph.fields coordinate) hfield
      simpa [hfield, hfield', Field.argumentNames_eq hsame] using hevent

/-- Every event of one inspection happens in the other. -/
theorem Agrees.events {event : Event} (hevent : event ∈ setting.events) :
    event ∈ setting'.events := by
  rw [mem_events] at hevent ⊢
  rcases hevent with hfirst | ⟨type, host, hreached, hpair⟩ | hregistration
  · exact Or.inl (h.record_firstSteps hfirst)
  · obtain ⟨type', host', hchecked, htype, hhost⟩ := h.exists_checked (mem_checkedPairs.2 hreached)
    exact Or.inr (Or.inl
      ⟨type', host', mem_checkedPairs.1 hchecked, h.record_pairSteps htype hhost hpair⟩)
  · exact Or.inr (Or.inr (h.registrationEvents hregistration))

theorem Agrees.mem_events_iff {event : Event} : event ∈ setting.events ↔ event ∈ setting'.events :=
  ⟨h.events, h.symm.events⟩

end Records

/-- A type is resolved if an event says so, skipped if events tell anything else of it, and
unvisited otherwise. -/
theorem stateOf_report (name : String) :
    setting.report.stateOf name =
      if .resolved name ∈ setting.events then .resolved
      else if ∃ event ∈ setting.events, event.subject? = some name then .skipped
      else .unvisited := by
  have hresolved : .resolved name ∈ setting.events ↔
      (Tally.ofEvents setting.events).stateOf name = .resolved :=
    Tally.stateOf_ofEvents_eq_resolved.symm
  have hkeys : (∃ event ∈ setting.events, event.subject? = some name) ↔
      (Tally.ofEvents setting.events).states.find? name ≠ none := by
    rw [← Tally.mem_keys_states_ofEvents, ne_eq, Assoc.find?_eq_none_iff, not_not]
  change (Tally.ofEvents setting.events).stateOf name = _
  simp only [hresolved, hkeys]
  rw [Tally.stateOf]
  cases hfind : (Tally.ofEvents setting.events).states.find? name with
  | none => rfl
  | some state => rcases state_eq_resolved_or_skipped hfind with rfl | rfl <;> rfl

/-- Skips of one key stand or fall together, and by events alone. -/
theorem mem_keys_skipped_iff {key : String × Option String} :
    key ∈ setting.report.skipped.map (·.key) ↔
      (∃ entry, .skip entry ∈ setting.events ∧ entry.key = key) ∧
        match key.2 with
        | some host => .checked key.1 host ∉ setting.events
        | none => .resolved key.1 ∉ setting.events := by
  have hstands (entry : SkippedType) : (Tally.ofEvents setting.events).stands entry = true ↔
      match entry.key.2 with
      | some host => .checked entry.key.1 host ∉ setting.events
      | none => .resolved entry.key.1 ∉ setting.events := by
    obtain ⟨type, host, via, reason⟩ := entry
    cases host with
    | some host => simp [Tally.stands, SkippedType.key, Tally.mem_checked_ofEvents]
    | none => simp [Tally.stands, SkippedType.key, Tally.stateOf_ofEvents_eq_resolved]
  rw [← Tally.mem_keys_ofEvents]
  simp only [List.mem_map, mem_skipped_iff, hstands]
  constructor
  · rintro ⟨entry, ⟨hmem, hkept⟩, rfl⟩
    exact ⟨⟨entry, hmem, rfl⟩, hkept⟩
  · rintro ⟨⟨entry, hmem, rfl⟩, hkept⟩
    exact ⟨entry, ⟨hmem, hkept⟩, rfl⟩

/-- The findings depend on the set of events alone. -/
theorem sameFindings_of_events (h : ∀ event, event ∈ setting.events ↔ event ∈ setting'.events) :
    setting.report.SameFindings setting'.report where
  unmappedFields _ := Tally.mem_unmappedFields_ofEvents.trans
    ((h _).trans Tally.mem_unmappedFields_ofEvents.symm)
  skipped key := by
    simp only [mem_keys_skipped_iff, h]
  unmappedRegistrations _ := Tally.mem_unmappedRegistrations_ofEvents.trans
    ((h _).trans Tally.mem_unmappedRegistrations_ofEvents.symm)
  unmappedArguments _ := Tally.mem_unmappedArguments_ofEvents.trans
    ((h _).trans Tally.mem_unmappedArguments_ofEvents.symm)
  states name := by
    simp only [stateOf_report, h]

theorem Agrees.sameFindings (h : setting.Agrees setting') :
    setting.report.SameFindings setting'.report :=
  sameFindings_of_events fun _ => h.mem_events_iff

end Setting

end SchemaCoverage.Inspection
