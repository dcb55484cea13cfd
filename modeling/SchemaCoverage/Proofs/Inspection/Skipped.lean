import SchemaCoverage.Proofs.Inspection.Followed
import SchemaCoverage.Inspection.Inspector
/-!
The skipped types of a report. A report keeps each skip that a followed field raises, once for its
type and host type, unless the type was checked against the host type after all.
-/
namespace SchemaCoverage.Inspection

open Schema Host

namespace Setting

variable {setting : Setting}

/-- The type was checked against the host type, both by name. -/
def CheckedAgainst (setting : Setting) (type host : String) : Prop :=
  ∃ pair ∈ setting.checkedPairs, pair.1.name = type ∧ pair.2.path = host

/-- A followed field raises the skip. -/
def Raised (setting : Setting) (type : String) (host : Option String) : Prop :=
  ∃ field serving reason, setting.Followed field serving ∧
    setting.RaisesAt field serving type host reason

/-- The skip is withdrawn: of a host type if the type was checked against it, and of none if the
type is a root type or was checked against any. -/
def Withdrawn (setting : Setting) (type : String) : Option String → Prop
  | some host => setting.CheckedAgainst type host
  | none => setting.IsRoot type ∨ ∃ host, setting.CheckedAgainst type host

theorem mem_checked_iff {type host : String} :
    (type, host) ∈ (Tally.ofEvents setting.events).checked ↔ setting.CheckedAgainst type host := by
  rw [Tally.mem_checked_ofEvents, checked_mem_events]
  simp only [CheckedAgainst, Prod.exists, mem_checkedPairs]

theorem exists_checkedPairs_iff {type : GraphType}
    (hfind : setting.graph.type? type.name = some type) :
    (∃ host, (type, host) ∈ setting.checkedPairs) ↔
      ∃ host, setting.CheckedAgainst type.name host := by
  constructor
  · rintro ⟨host, hpair⟩
    exact ⟨host.path, (type, host), hpair, rfl, rfl⟩
  · rintro ⟨-, ⟨type', host⟩, hpair, hname, -⟩
    have hfind' := (mem_checkedPairs.1 hpair).known.1
    rw [hname, hfind, Option.some.injEq] at hfind'
    exact ⟨host, hfind' ▸ hpair⟩

/-- An object type of the graph is resolved if it is a root type or was checked. -/
theorem stateOf_eq_resolved_iff {type : GraphType}
    (hfind : setting.graph.type? type.name = some type) (hkind : type.kind = .object) :
    setting.report.stateOf type.name = .resolved ↔
      setting.IsRoot type.name ∨ ∃ host, setting.CheckedAgainst type.name host := by
  have hstate : setting.report.stateOf type.name =
      (Tally.ofEvents setting.events).stateOf type.name := rfl
  rw [hstate, Tally.stateOf_ofEvents_eq_resolved, resolved_mem_events hfind hkind,
    exists_checkedPairs_iff hfind]

theorem Raised.object {type : String} {host : Option String} (h : setting.Raised type host) :
    ∃ member, setting.graph.type? member.name = some member ∧ member.kind = .object ∧
      member.name = type := by
  obtain ⟨field, serving, reason, -, returned, -, hraises⟩ := h
  obtain ⟨member, ⟨-, hfind, hkind⟩, hname⟩ := hraises.possible
  exact ⟨member, hfind, hkind, hname⟩

theorem skip_mem_events_raised {entry : SkippedType} (hobjects : setting.graph.PossibleObjects)
    (h : .skip entry ∈ setting.events) : setting.Raised entry.type entry.host := by
  obtain ⟨field, serving, hfollowed, hraises, -⟩ := (skip_mem_events hobjects).1 h
  exact ⟨field, serving, entry.reason, hfollowed, hraises⟩

/-- A raised skip stands in the end unless it is withdrawn. -/
theorem stands_iff {entry : SkippedType} (h : setting.Raised entry.type entry.host) :
    (Tally.ofEvents setting.events).stands entry = true ↔
      ¬setting.Withdrawn entry.type entry.host := by
  obtain ⟨type, host, via, reason⟩ := entry
  cases host with
  | some host => simp [Tally.stands, Withdrawn, mem_checked_iff]
  | none =>
      obtain ⟨member, hfind, hkind, rfl⟩ := h.object
      have hresolved := stateOf_eq_resolved_iff hfind hkind
      simp only [Tally.stands, Withdrawn, ← hresolved, bne_iff_ne]
      rfl

theorem mem_skipped_iff {entry : SkippedType} :
    entry ∈ setting.report.skipped ↔
      entry ∈ (Tally.ofEvents setting.events).skips ∧
        (Tally.ofEvents setting.events).stands entry = true :=
  List.mem_filter

/-- The report has an entry for each raised skip that is not withdrawn, and no others. -/
theorem key_mem_skipped_iff (hobjects : setting.graph.PossibleObjects) {type : String}
    {host : Option String} :
    (type, host) ∈ setting.report.skipped.map (·.key) ↔
      setting.Raised type host ∧ ¬setting.Withdrawn type host := by
  constructor
  · intro h
    obtain ⟨entry, hmem, hkey⟩ := List.mem_map.1 h
    obtain ⟨hskips, hstands⟩ := mem_skipped_iff.1 hmem
    have hraised := skip_mem_events_raised hobjects (Tally.mem_skips_ofEvents hskips)
    obtain ⟨rfl, rfl⟩ := Prod.mk.inj hkey
    exact ⟨hraised, (stands_iff hraised).1 hstands⟩
  · rintro ⟨hraised, hstays⟩
    obtain ⟨field, serving, reason, hfollowed, hraises⟩ := id hraised
    have hevent : .skip ⟨type, host, some field.coordinate, reason⟩ ∈ setting.events :=
      (skip_mem_events hobjects).2 ⟨field, serving, hfollowed, hraises, rfl⟩
    -- the entry that is kept for these names may be one that another field raises
    obtain ⟨entry, hskips, hkey⟩ := List.mem_map.1 (Tally.mem_keys_ofEvents.2 ⟨_, hevent, rfl⟩)
    obtain ⟨htype, hhost⟩ := Prod.mk.inj hkey
    change entry.type = type at htype
    change entry.host = host at hhost
    subst htype hhost
    exact List.mem_map.2 ⟨entry, mem_skipped_iff.2 ⟨hskips, (stands_iff hraised).2 hstays⟩, rfl⟩

/-- Skips in a report are distinct by type and host type. -/
theorem keys_skipped_nodup : (setting.report.skipped.map (·.key)).Nodup :=
  (Tally.keys_ofEvents_nodup setting.events).sublist (List.filter_sublist.map _)

/-- For each object type that a field may return it leads to a pair or raises a skip. -/
theorem leads_or_raises {field : Field} (serving : TypeRef) {returned member : GraphType}
    (hreturned : setting.graph.type? field.type.innermost = some returned)
    (hpossible : setting.Possible returned member) :
    (∃ host, setting.Leads field serving member host) ∨
      ∃ host reason, setting.RaisesAt field serving member.name host reason := by
  have hfind := Graph.type?_name hreturned
  cases hdeclared : setting.declaredHost (serving.element setting.wrappers) with
  | error reason =>
      exact Or.inr ⟨_, reason, returned, hreturned,
        (raises_iff_of_error hdeclared).2 ⟨member, hpossible, rfl, rfl, rfl⟩⟩
  | ok declared =>
      have hdeclares := declaredHost_eq_ok_iff.1 hdeclared
      cases hactive : setting.activeHosts member.name declared (!returned.isPolymorphic) with
      | nil =>
          -- the field's steps for this object type record a skip, which it therefore raises
          have hskip : Step.record (.skip ⟨member.name, setting.nearest? member.name declared,
              some field.coordinate, setting.inactiveReason member.name declared⟩) ∈
                setting.memberSteps field.coordinate member declared (!returned.isPolymorphic) :=
            skip_mem_memberSteps.2 ⟨hactive, rfl⟩
          have hraises := (exists_skip_mem_memberSteps hdeclares).1 ⟨member, hpossible, hskip⟩
          exact Or.inr ⟨_, _, returned, hreturned, hraises.1⟩
      | cons host others =>
          have hmem : host ∈
              setting.activeHosts member.name declared (!returned.isPolymorphic) := by
            simp [hactive]
          refine Or.inl ⟨host, returned, hreturned, ?_⟩
          rcases (mem_activeHosts hdeclares.registered).1 hmem with
            ⟨habstract, hcandidate, hassignable⟩ | ⟨hconcrete, rfl, hbound⟩
          · exact .assignable hdeclares habstract hpossible hcandidate hassignable
          · rcases hpossible.kind hfind with hobject | hpolymorphic
            · obtain rfl := (possible_of_object hobject hfind).1 hpossible
              exact .itself hdeclares hconcrete hobject
            · rcases hbound with hdirect | hcandidate
              · simp [hpolymorphic] at hdirect
              · exact .candidate hdeclares hconcrete hpolymorphic hpossible hcandidate

/-- An object type that a followed field may return is checked, or a skip of it is raised. -/
theorem Followed.checked_or_raised {field : Field} {serving : TypeRef}
    {returned member : GraphType} (h : setting.Followed field serving)
    (hreturned : setting.graph.type? field.type.innermost = some returned)
    (hpossible : setting.Possible returned member) :
    (∃ host, setting.CheckedAgainst member.name host) ∨
      ∃ host, setting.Raised member.name host := by
  rcases leads_or_raises serving hreturned hpossible with
    ⟨host, hleads⟩ | ⟨host, reason, hraises⟩
  · exact Or.inl ⟨host.path, (member, host), h.checked_of_leads hleads, rfl, rfl⟩
  · exact Or.inr ⟨host, field, serving, reason, h, hraises⟩

/-- No entry is left for a type just if all skips that are raised for it are withdrawn. -/
theorem skippedFor_eq_nil_iff (hobjects : setting.graph.PossibleObjects) {type : String} :
    setting.report.skippedFor type = [] ↔
      ∀ host, setting.Raised type host → setting.Withdrawn type host := by
  unfold Report.skippedFor
  rw [List.filter_eq_nil_iff]
  simp only [beq_iff_eq]
  constructor
  · intro hnone host hraised
    by_contra hstays
    have hkept := (key_mem_skipped_iff hobjects).2 ⟨hraised, hstays⟩
    obtain ⟨entry, hmem, hkey⟩ := List.mem_map.1 hkept
    exact hnone entry hmem (Prod.mk.inj hkey).1
  · rintro hall entry hmem rfl
    have hkey : (entry.type, entry.host) ∈ setting.report.skipped.map (·.key) :=
      List.mem_map.2 ⟨entry, hmem, rfl⟩
    obtain ⟨hraised, hstays⟩ := (key_mem_skipped_iff hobjects).1 hkey
    exact hstays (hall entry.host hraised)

end Setting

end SchemaCoverage.Inspection
