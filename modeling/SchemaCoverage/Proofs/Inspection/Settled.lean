import SchemaCoverage.Proofs.Inspection.Accounting
import SchemaCoverage.Proofs.Inspection.States
import SchemaCoverage.Proofs.Schema.WellFormed
/-!
The final states of an inspection. The types that have a state are the root types and those that
followed fields may return; each of them is resolved or skipped, and which of the two depends on the
pairs that the walk checks alone.
-/
namespace SchemaCoverage.Inspection

open Schema Host

namespace Setting

variable {setting : Setting}

/-- A root type, a type that a followed field returns, or an object type that it may return. -/
def Met (setting : Setting) (name : String) : Prop :=
  setting.IsRoot name ∨ ∃ field serving returned, setting.Followed field serving ∧
    setting.graph.type? field.type.innermost = some returned ∧
    (returned.name = name ∨ returned.isPolymorphic = true ∧
      ∃ member, setting.Possible returned member ∧ member.name = name)

/-- The walk comes to the fields of root types and of checked pairs. -/
def ComesTo (setting : Setting) (field : Field) : Prop :=
  (∃ operation root, (operation, root) ∈ setting.graph.roots ∧ field ∈ root.fields) ∨
    ∃ pair ∈ setting.checkedPairs, field ∈ pair.1.fields

theorem Followed.comesTo {field : Field} {serving : TypeRef}
    (h : setting.Followed field serving) : setting.ComesTo field := by
  cases h with
  | root hroot hfield _ => exact Or.inl ⟨_, _, hroot, hfield⟩
  | member hpair hfield _ => exact Or.inr ⟨_, hpair, hfield⟩

theorem fieldSteps_of_polymorphic {field : Field} {serving : TypeRef} {returned : GraphType}
    (hreturned : setting.graph.type? field.type.innermost = some returned)
    (hkind : returned.isPolymorphic = true) :
    setting.fieldSteps field serving =
      setting.polymorphicSteps field.coordinate returned (serving.element setting.wrappers) := by
  rcases isPolymorphic_iff.1 hkind with hkind | hkind
  · simp only [fieldSteps, hreturned, hkind]
  · simp only [fieldSteps, hreturned, hkind]

/-- A type that is no input type is an object type, an interface or union, or a leaf. -/
theorem kind_cases {type : GraphType} (h : type.kind ≠ .inputObject) :
    type.kind = .object ∨ type.isPolymorphic = true ∨ type.isLeaf = true := by
  unfold GraphType.isPolymorphic GraphType.isLeaf
  cases hkind : type.kind <;> simp_all

section WellFormed

variable (hwell : setting.graph.WellFormed)

include hwell

theorem root_found {operation : Operation} {root : GraphType}
    (h : (operation, root) ∈ setting.graph.roots) :
    setting.graph.type? root.name = some root ∧ root.kind = .object := by
  obtain ⟨name, hname, hfind⟩ := Graph.mem_roots_iff.1 h
  obtain ⟨root', hfind', hkind⟩ := hwell.roots operation name hname
  rw [hfind, Option.some.injEq] at hfind'
  rw [name_of_findType? hfind]
  exact ⟨hfind, hfind' ▸ hkind⟩

/-- What a field that the walk comes to returns is there and no input type. -/
theorem ComesTo.output {field : Field} (h : setting.ComesTo field) :
    ∃ returned, setting.graph.type? field.type.innermost = some returned ∧
      returned.kind ≠ .inputObject := by
  rcases h with ⟨operation, root, hroot, hfield⟩ | ⟨⟨type, host⟩, hpair, hfield⟩
  · obtain ⟨hfind, hkind⟩ := root_found hwell hroot
    have hcomposite : root.isComposite = true := by
      rw [GraphType.isComposite, hkind]
      rfl
    exact hwell.outputs _ (mem_of_findType? hfind) hcomposite field hfield
  · obtain ⟨_, _, _, hleads⟩ := exists_followed_of_checked hpair
    obtain ⟨⟨hfind, -⟩, hcomposite⟩ := hleads.known
    exact hwell.outputs _ (mem_of_findType? hfind) hcomposite field hfield

end WellFormed

/-- What is checked for a field is the type that it returns or an object type that it may return. -/
theorem Target.eq_or_possible {type member : GraphType} {element : TypeRef} {host : HostType}
    (h : setting.Target type element member host)
    (hfind : setting.graph.type? type.name = some type) :
    member = type ∨ type.isPolymorphic = true ∧ setting.Possible type member := by
  cases h with
  | itself => exact Or.inl rfl
  | assignable _ _ hpossible _ _ =>
      rcases hpossible.kind hfind with hobject | hpolymorphic
      · exact Or.inl ((possible_of_object hobject hfind).1 hpossible)
      · exact Or.inr ⟨hpolymorphic, hpossible⟩
  | candidate _ _ hpolymorphic hpossible _ => exact Or.inr ⟨hpolymorphic, hpossible⟩
  | interface => exact Or.inl rfl

/-- What a field tells is of the type that it returns or of an object type that it may return. -/
theorem subject_of_mem_fieldSteps (hobjects : setting.graph.PossibleObjects) {field : Field}
    {serving : TypeRef} {event : Event} {name : String}
    (h : .record event ∈ setting.fieldSteps field serving)
    (hsubject : event.subject? = some name) :
    ∃ returned, setting.graph.type? field.type.innermost = some returned ∧
      (returned.name = name ∨ returned.isPolymorphic = true ∧
        ∃ member, setting.Possible returned member ∧ member.name = name) := by
  obtain ⟨returned, hreturned, h⟩ := record_of_mem_fieldSteps h
  refine ⟨returned, hreturned, ?_⟩
  rcases h with ⟨type, htype, h⟩ | ⟨-, h⟩
  · have hname : type = name := by
      rcases h with rfl | ⟨_, _, rfl⟩
      · exact Option.some.inj hsubject
      · exact Option.some.inj hsubject
    subst hname
    have hfind := Graph.type?_name hreturned
    by_cases hkind : returned.isPolymorphic = true
    · obtain ⟨member, hmember, hobject⟩ := hobjects returned hfind hkind type htype
      obtain rfl := name_of_findType? hmember
      exact Or.inr ⟨hkind, member, ⟨htype, hmember, hobject⟩, rfl⟩
    · exact Or.inl (eq_of_mem_possibleTypes hfind (Bool.eq_false_iff.2 hkind) htype).symm
  · left
    rcases h with rfl | rfl | rfl
    · exact Option.some.inj hsubject
    · exact Option.some.inj hsubject
    · exact Option.some.inj hsubject

/-- Something is told of a type that was checked or for which a skip is raised. -/
theorem exists_event_of_checked_or_raised (hobjects : setting.graph.PossibleObjects)
    {name : String}
    (h : (∃ host, setting.CheckedAgainst name host) ∨ ∃ host, setting.Raised name host) :
    ∃ event ∈ setting.events, event.subject? = some name := by
  rcases h with ⟨_, ⟨type, host⟩, hpair, rfl, -⟩ |
    ⟨host, field, serving, reason, hfollowed, hraises⟩
  · exact ⟨.resolved type.name, (mem_events_iff_followed rfl).2
      (Or.inr (Or.inl ⟨type, host, hpair, Or.inr rfl⟩)), rfl⟩
  · exact ⟨.skip ⟨name, host, some field.coordinate, reason⟩,
      (skip_mem_events hobjects).2 ⟨field, serving, hfollowed, hraises, rfl⟩, rfl⟩

/-- Something is told of what a followed field returns. -/
theorem Followed.exists_event (hwell : setting.graph.WellFormed)
    (hobjects : setting.graph.PossibleObjects) {field : Field} {serving : TypeRef}
    (h : setting.Followed field serving) {returned : GraphType}
    (hreturned : setting.graph.type? field.type.innermost = some returned) :
    ∃ event ∈ setting.events, event.subject? = some returned.name := by
  have hfind := Graph.type?_name hreturned
  have hrecord (event : Event) (hsubject : event.subject? = some returned.name)
      (hmem : .record event ∈ setting.fieldSteps field serving) :
      ∃ event ∈ setting.events, event.subject? = some returned.name := by
    exact ⟨event,
      (mem_events_iff_followed hsubject).2 (Or.inr (Or.inr ⟨field, serving, h, hmem⟩)), hsubject⟩
  obtain ⟨returned', hreturned', hinput⟩ := h.comesTo.output hwell
  rw [hreturned, Option.some.injEq] at hreturned'
  subst hreturned'
  rcases kind_cases hinput with hkind | hkind | hkind
  · have hpossible : setting.Possible returned returned := (possible_of_object hkind hfind).2 rfl
    exact exists_event_of_checked_or_raised hobjects (h.checked_or_raised hreturned hpossible)
  · cases hdeclared : setting.declaredHost (serving.element setting.wrappers) with
    | ok declared =>
        apply hrecord (.visiting returned.name) rfl
        refine mem_fieldSteps.2 ⟨returned, hreturned, Or.inr (Or.inl ⟨hkind, ?_⟩)⟩
        exact record_mem_polymorphicSteps.2
          (Or.inl ⟨declared, declaredHost_eq_ok_iff.1 hdeclared, Or.inl rfl⟩)
    | error reason =>
        apply hrecord (.skipped returned.name) rfl
        refine mem_fieldSteps.2 ⟨returned, hreturned, Or.inr (Or.inl ⟨hkind, ?_⟩)⟩
        exact record_mem_polymorphicSteps.2 (Or.inr ⟨reason, hdeclared, Or.inr rfl⟩)
  · apply hrecord (.resolved returned.name) rfl
    exact mem_fieldSteps.2 ⟨returned, hreturned, Or.inr (Or.inr ⟨hkind, rfl⟩)⟩

/-- Something is told of a type just if the walk meets it. -/
theorem met_iff (hwell : setting.graph.WellFormed) (hobjects : setting.graph.PossibleObjects)
    {name : String} :
    setting.Met name ↔ ∃ event ∈ setting.events, event.subject? = some name := by
  constructor
  · intro hmet
    rcases hmet with ⟨operation, root, hroot, rfl⟩ | ⟨field, serving, returned, hfollowed,
      hreturned, rfl | ⟨-, member, hpossible, rfl⟩⟩
    · exact ⟨.resolved root.name, (mem_events_iff_followed rfl).2
        (Or.inl ⟨operation, root, hroot, Or.inr rfl⟩), rfl⟩
    · exact hfollowed.exists_event hwell hobjects hreturned
    · exact exists_event_of_checked_or_raised hobjects
        (hfollowed.checked_or_raised hreturned hpossible)
  · rintro ⟨event, hmem, hsubject⟩
    rcases (mem_events_iff_followed hsubject).1 hmem with ⟨operation, root, hroot, h⟩ |
      ⟨type, host, hpair, h⟩ | ⟨field, serving, hfollowed, h⟩
    · have hname : root.name = name := by
        rcases h with rfl | rfl
        · exact Option.some.inj hsubject
        · exact Option.some.inj hsubject
      exact Or.inl ⟨operation, root, hroot, hname⟩
    · have hname : type.name = name := by
        rcases h with rfl | rfl
        · exact Option.some.inj hsubject
        · exact Option.some.inj hsubject
      obtain ⟨field, serving, hfollowed, returned, hreturned, htarget⟩ :=
        exists_followed_of_checked hpair
      have hfind := Graph.type?_name hreturned
      refine Or.inr ⟨field, serving, returned, hfollowed, hreturned, ?_⟩
      rcases htarget.eq_or_possible hfind with rfl | ⟨hkind, hpossible⟩
      · exact Or.inl hname
      · exact Or.inr ⟨hkind, type, hpossible, hname⟩
    · obtain ⟨returned, hreturned, hname⟩ := subject_of_mem_fieldSteps hobjects h hsubject
      exact Or.inr ⟨field, serving, returned, hfollowed, hreturned, hname⟩

/-- The field leads to a pair for an object type that the type may have, or an abstract type is
declared for the interface and is to be checked as well. -/
def Backs (setting : Setting) (field : Field) (serving : TypeRef) (type : GraphType) : Prop :=
  (∃ member host, setting.Possible type member ∧ setting.Leads field serving member host) ∨
    type.kind = .interface ∧ setting.policy = .includeAbstractType ∧
      ∃ declared, setting.Declares (serving.element setting.wrappers) declared ∧
        declared.kind = .abstract

/-- The field backs an interface or union that it returns just if it leads to any pair. -/
theorem backs_iff {field : Field} {serving : TypeRef} {type : GraphType}
    (hreturned : setting.graph.type? field.type.innermost = some type)
    (hkind : type.isPolymorphic = true) :
    setting.Backs field serving type ↔ ∃ member host, setting.Leads field serving member host := by
  constructor
  · intro hbacks
    rcases hbacks with ⟨member, host, -, hleads⟩ |
      ⟨hinterface, hpolicy, declared, hdeclares, habstract⟩
    · exact ⟨member, host, hleads⟩
    · exact ⟨type, declared, type, hreturned, .interface hdeclares habstract hinterface hpolicy⟩
  · rintro ⟨member, host, returned, hreturned', htarget⟩
    rw [hreturned, Option.some.injEq] at hreturned'
    subst hreturned'
    have hleads : setting.Leads field serving member host := ⟨type, hreturned, htarget⟩
    cases htarget with
    | itself _ _ hobject => simp [GraphType.isPolymorphic, hobject] at hkind
    | assignable _ _ hpossible _ _ => exact Or.inl ⟨member, host, hpossible, hleads⟩
    | candidate _ _ _ hpossible _ => exact Or.inl ⟨member, host, hpossible, hleads⟩
    | interface hdeclares habstract hinterface hpolicy =>
        exact Or.inr ⟨hinterface, hpolicy, host, hdeclares, habstract⟩

/-- The steps of an interface or union resolve it just if they visit any pair. -/
theorem resolved_mem_polymorphicSteps {via : Coordinate} {type : GraphType} {element : TypeRef} :
    .record (.resolved type.name) ∈ setting.polymorphicSteps via type element ↔
      ∃ member host, .visit member host ∈ setting.polymorphicSteps via type element := by
  simp only [visit_mem_polymorphicSteps]
  rw [record_mem_polymorphicSteps]
  constructor
  · intro hgiven
    rcases hgiven with ⟨declared, hdeclares, h | ⟨_, _, h⟩ | h⟩ | ⟨_, _, ⟨_, _, h⟩ | h⟩
    · cases h
    · rcases record_mem_skipSteps.1 (record_mem_memberSteps.1 h).2 with h | h <;> cases h
    · split at h
      · next hchecked =>
          rcases Bool.or_eq_true_iff.1 hchecked with hitself | hany
          · exact ⟨type, declared, declared, hdeclares, Or.inl ⟨hitself, rfl, rfl⟩⟩
          · obtain ⟨member, hmember, hactive⟩ := List.any_eq_true.1 hany
            rw [Bool.not_eq_true', List.isEmpty_eq_false_iff] at hactive
            obtain ⟨host, hhost⟩ := List.exists_mem_of_ne_nil _ hactive
            exact ⟨member, host, declared, hdeclares,
              Or.inr ⟨mem_possibleObjects.1 hmember, hhost⟩⟩
      · cases h
    · rcases record_mem_skipSteps.1 h with h | h <;> cases h
    · cases h
  · rintro ⟨member, host, declared, hdeclares, hvisit⟩
    refine Or.inl ⟨declared, hdeclares, Or.inr (Or.inr ?_)⟩
    rw [if_pos]
    rw [Bool.or_eq_true_iff]
    rcases hvisit with ⟨hitself, -, -⟩ | ⟨hpossible, hactive⟩
    · exact Or.inl hitself
    · refine Or.inr (List.any_eq_true.2 ⟨member, mem_possibleObjects.2 hpossible, ?_⟩)
      rw [Bool.not_eq_true', List.isEmpty_eq_false_iff]
      exact List.ne_nil_of_mem hactive

/-- An interface or union is resolved just if some followed field that returns it backs it. -/
theorem resolved_mem_events_of_polymorphic (hwell : setting.graph.WellFormed) {type : GraphType}
    (hfind : setting.graph.type? type.name = some type) (hkind : type.isPolymorphic = true) :
    .resolved type.name ∈ setting.events ↔
      ∃ field serving, setting.Followed field serving ∧
        setting.graph.type? field.type.innermost = some type ∧
        setting.Backs field serving type := by
  have hother : type.kind ≠ .object := by
    intro hobject
    simp [GraphType.isPolymorphic, hobject] at hkind
  have hfield {field : Field} {serving : TypeRef}
      (hreturned : setting.graph.type? field.type.innermost = some type) :
      .record (.resolved type.name) ∈ setting.fieldSteps field serving ↔
        setting.Backs field serving type := by
    rw [backs_iff hreturned hkind]
    simp only [← visit_mem_fieldSteps]
    rw [fieldSteps_of_polymorphic hreturned hkind, resolved_mem_polymorphicSteps]
  rw [mem_events_iff_followed rfl]
  simp only [reduceCtorEq, false_or, Event.resolved.injEq]
  constructor
  · intro hgiven
    rcases hgiven with ⟨operation, root, hroot, hname⟩ | ⟨type', host, hpair, hname⟩ |
      ⟨field, serving, hfollowed, h⟩
    · obtain ⟨hroot', hobject⟩ := root_found hwell hroot
      rw [← hname, hfind, Option.some.injEq] at hroot'
      exact absurd (hroot' ▸ hobject) hother
    · have hfind' := (mem_checkedPairs.1 hpair).known.1
      rw [← hname, hfind, Option.some.injEq] at hfind'
      subst hfind'
      -- the interface was checked itself, which only a field does that returns it
      obtain ⟨field, serving, hfollowed, returned, hreturned, htarget⟩ :=
        exists_followed_of_checked hpair
      rcases htarget.eq_or_possible (Graph.type?_name hreturned) with rfl | ⟨-, -, -, hobject⟩
      · exact ⟨field, serving, hfollowed, hreturned,
          (backs_iff hreturned hkind).2 ⟨type, host, type, hreturned, htarget⟩⟩
      · exact absurd hobject hother
    · obtain ⟨returned, hreturned, hname, -⟩ := returned_of_resolved_mem_fieldSteps h
      have hreturned' := hreturned
      rw [← name_of_findType? hreturned, hname, hfind, Option.some.injEq] at hreturned'
      subst hreturned'
      exact ⟨field, serving, hfollowed, hreturned, (hfield hreturned).1 h⟩
  · rintro ⟨field, serving, hfollowed, hreturned, hbacks⟩
    exact Or.inr (Or.inr ⟨field, serving, hfollowed, (hfield hreturned).2 hbacks⟩)

theorem mem_states_iff {name : String} {state : TypeState} :
    (name, state) ∈ setting.report.states ↔
      (Tally.ofEvents setting.events).states.find? name = some state := by
  constructor
  · exact Assoc.find?_of_mem (Tally.keys_states_nodup setting.events)
  · exact Assoc.mem_of_find?

theorem resolved_mem_states_iff {name : String} :
    (name, .resolved) ∈ setting.report.states ↔ .resolved name ∈ setting.events := by
  rw [mem_states_iff, ← Tally.stateOf_ofEvents_eq_resolved, Tally.stateOf]
  cases (Tally.ofEvents setting.events).states.find? name with
  | none => simp
  | some state => simp

/-- A type that has a state is skipped just if it is not resolved. -/
theorem skipped_mem_states_iff {name : String} (h : name ∈ setting.report.states.keys) :
    (name, .skipped) ∈ setting.report.states ↔ (name, .resolved) ∉ setting.report.states := by
  simp only [mem_states_iff]
  cases hfind : (Tally.ofEvents setting.events).states.find? name with
  | none => exact absurd h (Assoc.find?_eq_none_iff.1 hfind)
  | some state => rcases state_eq_resolved_or_skipped hfind with rfl | rfl <;> simp

end Setting

/-- In the report the type is resolved if the condition holds, and skipped otherwise. -/
def Report.ResolvedJust (report : Report) (name : String) (condition : Prop) : Prop :=
  ((name, .resolved) ∈ report.states ↔ condition) ∧
    ((name, .skipped) ∈ report.states ↔ ¬condition)

/-- The final states of an inspection. -/
structure Setting.Settles (setting : Setting) (report : Report) : Prop where
  /-- A type has one state at most. -/
  distinct : report.states.keys.Nodup
  /-- The types that have a state are those that the walk meets. -/
  met : ∀ name, name ∈ report.states.keys ↔ setting.Met name
  /-- No type is left as visited or as unvisited. -/
  settled : ∀ name state, (name, state) ∈ report.states → state = .resolved ∨ state = .skipped
  roots : ∀ operation root, (operation, root) ∈ setting.graph.roots →
    (root.name, .resolved) ∈ report.states
  /-- Leaf types that followed fields return are resolved. -/
  leaves : ∀ field serving leaf, setting.Followed field serving →
    setting.graph.type? field.type.innermost = some leaf → leaf.isLeaf = true →
    (leaf.name, .resolved) ∈ report.states
  /-- Other object types are resolved by a check against some host type. -/
  objects : ∀ type, setting.graph.type? type.name = some type → type.kind = .object →
    setting.Met type.name → ¬setting.IsRoot type.name →
    report.ResolvedJust type.name (∃ host, setting.CheckedAgainst type.name host)
  /-- Interfaces and unions are resolved by a field that returns them. -/
  polymorphic : ∀ type, setting.graph.type? type.name = some type → type.isPolymorphic = true →
    setting.Met type.name →
    report.ResolvedJust type.name (∃ field serving, setting.Followed field serving ∧
      setting.graph.type? field.type.innermost = some type ∧ setting.Backs field serving type)
  /-- An object type that is skipped in the end has an entry. -/
  accounted : ∀ type, setting.graph.type? type.name = some type → type.kind = .object →
    (type.name, .skipped) ∈ report.states → report.skippedFor type.name ≠ []

namespace Setting

variable {setting : Setting}

theorem resolvedJust_of_mem_keys {name : String} {condition : Prop}
    (hkey : name ∈ setting.report.states.keys)
    (hresolved : .resolved name ∈ setting.events ↔ condition) :
    setting.report.ResolvedJust name condition := by
  rw [← resolved_mem_states_iff] at hresolved
  exact ⟨hresolved, by rw [skipped_mem_states_iff hkey, hresolved]⟩

/-- Entries are left for an object type that is met without being resolved. -/
theorem skippedFor_ne_nil (hobjects : setting.graph.PossibleObjects) {type : GraphType}
    (hfind : setting.graph.type? type.name = some type) (hkind : type.kind = .object)
    (hmet : setting.Met type.name) (hresolved : .resolved type.name ∉ setting.events) :
    setting.report.skippedFor type.name ≠ [] := by
  rw [resolved_mem_events hfind hkind, exists_checkedPairs_iff hfind, not_or] at hresolved
  obtain ⟨hroot, hchecked⟩ := hresolved
  have hraised : ∃ host, setting.Raised type.name host := by
    rcases hmet with hmet | ⟨field, serving, returned, hfollowed, hreturned, hname⟩
    · exact absurd hmet hroot
    have hpossible : setting.Possible returned type := by
      rcases hname with hname | ⟨-, member, hpossible, hname⟩
      · rw [← name_of_findType? hreturned, hname, hfind, Option.some.injEq] at hreturned
        exact hreturned ▸ (possible_of_object hkind hfind).2 rfl
      · have hmember := hpossible.2.1
        rw [hname, hfind, Option.some.injEq] at hmember
        exact hmember ▸ hpossible
    exact (hfollowed.checked_or_raised hreturned hpossible).resolve_left hchecked
  obtain ⟨host, hraised⟩ := hraised
  intro hnone
  have hwithdrawn := (skippedFor_eq_nil_iff hobjects).1 hnone host hraised
  -- a skip is withdrawn only from a root type or by a check
  cases host with
  | none => exact hwithdrawn.elim hroot hchecked
  | some path => exact hchecked ⟨path, hwithdrawn⟩

theorem settles_report (hwell : setting.graph.WellFormed)
    (hobjects : setting.graph.PossibleObjects) : setting.Settles setting.report := by
  have hkeys (name : String) : name ∈ setting.report.states.keys ↔ setting.Met name :=
    Tally.mem_keys_states_ofEvents.trans (met_iff hwell hobjects).symm
  constructor
  case distinct => exact Tally.keys_states_nodup setting.events
  case met => exact hkeys
  case settled =>
    intro name state hmem
    exact state_eq_resolved_or_skipped (mem_states_iff.1 hmem)
  case roots =>
    intro operation root hroot
    apply resolved_mem_states_iff.2
    exact (mem_events_iff_followed rfl).2 (Or.inl ⟨operation, root, hroot, Or.inr rfl⟩)
  case leaves =>
    intro field serving leaf hfollowed hreturned hleaf
    apply resolved_mem_states_iff.2
    refine (mem_events_iff_followed rfl).2 (Or.inr (Or.inr ⟨field, serving, hfollowed, ?_⟩))
    exact mem_fieldSteps.2 ⟨leaf, hreturned, Or.inr (Or.inr ⟨hleaf, rfl⟩)⟩
  case objects =>
    intro type hfind hkind hmet hroot
    apply resolvedJust_of_mem_keys ((hkeys type.name).2 hmet)
    rw [resolved_mem_events hfind hkind, exists_checkedPairs_iff hfind, or_iff_right hroot]
  case polymorphic =>
    intro type hfind hkind hmet
    apply resolvedJust_of_mem_keys ((hkeys type.name).2 hmet)
    exact resolved_mem_events_of_polymorphic hwell hfind hkind
  case accounted =>
    intro type hfind hkind hskipped
    have hkey : type.name ∈ setting.report.states.keys := List.mem_map_of_mem hskipped
    apply skippedFor_ne_nil hobjects hfind hkind ((hkeys type.name).1 hkey)
    rw [← resolved_mem_states_iff]
    exact (skipped_mem_states_iff hkey).1 hskipped

end Setting

/-- A method for the pets of any kind. -/
def petControllers : Controller.Registry :=
  ⟨[(.operation .query "pet", ⟨"Pets", "pet", .named "app::Pet" [], []⟩)]⟩

namespace Inspector

variable {inspector : Inspector} {controllers : Controller.Registry} {hosts : Registry}
  {graph : Graph} {outcome : Outcome}

/-- Every inspection settles the states of the types that it meets. -/
theorem settles_of_inspect {documents : List (Option String × Sdl.Document)}
    (hbuilt : Graph.ofDocuments documents = .ok graph)
    (hinspected : inspector.inspect graph controllers hosts = .ok outcome) :
    (inspector.setting graph controllers hosts).Settles outcome.report := by
  rw [report_of_inspect hinspected]
  exact Setting.settles_report (wellFormed_of_ofDocuments hbuilt)
    (possibleObjects_of_ofDocuments hbuilt)

theorem pets_settled :
    ∃ graph outcome, Graph.ofDocuments petDocuments = .ok graph ∧
      Options.standard.inspector.inspect graph petControllers petHosts = .ok outcome ∧
      (Options.standard.inspector.setting graph petControllers petHosts).Settles
        outcome.report := by
  have hbuilds : (Graph.ofDocuments petDocuments).isOk = true := by decide +kernel
  obtain ⟨graph, hbuilt⟩ := exists_eq_ok_of_isOk hbuilds
  exact ⟨graph, _, hbuilt, rfl, settles_of_inspect hbuilt rfl⟩

end Inspector

end SchemaCoverage.Inspection
