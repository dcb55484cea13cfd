import SchemaCoverage.Proofs.Inspection.Followed
/-!
The states of types. A type has a state once anything is told of it, and is left as visited only if
nothing is told of it after its last visit; the walk tells of every type that it visits how the
visit ended, however visits are nested.
-/
namespace SchemaCoverage.Inspection

open Schema Host

/-- The state that an event gives to its type, in place of an old one. -/
def Event.state (event : Event) (old : Option TypeState) : TypeState :=
  match event with
  | .resolved _ => .resolved
  | .visiting _ => if old = some .resolved then .resolved else .visiting
  | .skipped _ => if old = some .resolved then .resolved else .skipped
  | _ => old.getD .skipped

theorem Event.state_ne_unvisited (event : Event) {old : Option TypeState}
    (h : old ≠ some .unvisited) : event.state old ≠ .unvisited := by
  cases event with
  | visiting type => by_cases hold : old = some .resolved <;> simp [state, hold]
  | skipped type => by_cases hold : old = some .resolved <;> simp [state, hold]
  | resolved type => exact nofun
  | _ =>
      cases old with
      | none => exact nofun
      | some old => exact fun heq => h (congrArg some heq)

/-- Only a visit leaves a type as visited that was not left so before. -/
theorem Event.state_eq_visiting {event : Event} {old : Option TypeState}
    (h : event.state old = .visiting) :
    (∃ type, event = .visiting type) ∨
      old = some .visiting ∧ ∀ type, event ≠ .skipped type ∧ event ≠ .resolved type := by
  cases event with
  | visiting type => exact Or.inl ⟨type, rfl⟩
  | skipped type => by_cases hold : old = some .resolved <;> simp [state, hold] at h
  | resolved type => cases h
  | _ =>
      cases old with
      | none => cases h
      | some old => exact Or.inr ⟨congrArg some h, fun _ => ⟨nofun, nofun⟩⟩

namespace Tally

variable {tally : Tally} {events : List Event}

/-- The types of all skips have states. -/
def SkipsHaveStates (tally : Tally) : Prop :=
  ∀ entry ∈ tally.skips, entry.type ∈ tally.states.keys

theorem find?_enter (type other : String) (state : TypeState) :
    (tally.enter type state).states.find? other =
      if type = other then
        some (if tally.states.find? other = some .resolved then .resolved else state)
      else tally.states.find? other := by
  rw [enter, Assoc.find?_update]
  by_cases heq : type = other
  · subst heq
    cases tally.states.find? type with
    | none => simp
    | some old => by_cases hold : old = .resolved <;> simp [hold]
  · simp [heq]

/-- An event changes the state of its type alone. -/
theorem find?_states_record (hskips : tally.SkipsHaveStates) (event : Event) (name : String) :
    (tally.record event).states.find? name =
      if event.subject? = some name then some (event.state (tally.states.find? name))
      else tally.states.find? name := by
  cases event with
  | skip entry =>
      simp only [Event.subject?, Event.state, Option.some.injEq]
      by_cases hold : entry.key ∈ tally.skips.map (·.key)
      · rw [record_skip_of_mem hold]
        split
        · next heq =>
            -- the type of a known skip has a state already
            obtain ⟨known, hmem, hkey⟩ := List.mem_map.1 hold
            have htype : known.type = entry.type := (Prod.mk.inj hkey).1
            have hstate := hskips known hmem
            rw [htype, heq] at hstate
            cases hfind : tally.states.find? name with
            | none => exact absurd hstate (Assoc.find?_eq_none_iff.1 hfind)
            | some state => rfl
        · rfl
      · rw [record_skip_of_not_mem hold]
        cases hfind : tally.states.find? entry.type with
        | none =>
            simp only [Option.isSome_none, Bool.false_eq_true, if_false]
            rw [← Assoc.put_of_find?_eq_none hfind, Assoc.find?_put]
            split
            · next heq => rw [← heq, hfind]; rfl
            · rfl
        | some state =>
            simp only [Option.isSome_some, if_true]
            split
            · next heq => rw [← heq, hfind]; rfl
            · rfl
  | visiting type => simp [record, find?_enter, Event.subject?, Event.state]
  | skipped type => simp [record, find?_enter, Event.subject?, Event.state]
  | resolved type => simp [record, Assoc.find?_put, Event.subject?, Event.state]
  | _ => rfl

theorem mem_keys_states_record (hskips : tally.SkipsHaveStates) (event : Event) (name : String) :
    name ∈ (tally.record event).states.keys ↔
      event.subject? = some name ∨ name ∈ tally.states.keys := by
  have hkeys (states : Assoc String TypeState) :
      name ∈ states.keys ↔ states.find? name ≠ none := by
    rw [ne_eq, Assoc.find?_eq_none_iff, not_not]
  rw [hkeys, hkeys, find?_states_record hskips]
  split <;> simp_all

theorem SkipsHaveStates.record (hskips : tally.SkipsHaveStates) (event : Event) :
    (tally.record event).SkipsHaveStates := by
  intro entry hmem
  rw [mem_keys_states_record hskips]
  cases event with
  | skip entry' =>
      by_cases hold : entry'.key ∈ tally.skips.map (·.key)
      · rw [record_skip_of_mem hold] at hmem
        exact Or.inr (hskips entry hmem)
      · rw [record_skip_of_not_mem hold] at hmem
        rcases List.mem_append.1 hmem with hknown | hnew
        · exact Or.inr (hskips entry hknown)
        · obtain rfl := List.mem_singleton.1 hnew
          exact Or.inl rfl
  | _ => exact Or.inr (hskips entry hmem)

theorem skipsHaveStates_ofEvents (events : List Event) : (ofEvents events).SkipsHaveStates := by
  induction events using List.reverseRecOn with
  | nil => exact nofun
  | append_singleton events event ih =>
      rw [ofEvents_concat]
      exact ih.record event

/-- A type has a state if an event tells something of it. -/
theorem mem_keys_states_ofEvents {name : String} :
    name ∈ (ofEvents events).states.keys ↔ ∃ event ∈ events, event.subject? = some name := by
  induction events using List.reverseRecOn with
  | nil => simp [empty, Assoc.keys]
  | append_singleton events event ih =>
      rw [ofEvents_concat, mem_keys_states_record (skipsHaveStates_ofEvents events), ih]
      simp only [List.mem_append, List.mem_singleton, or_and_right, exists_or, exists_eq_left,
        or_comm]

theorem keys_states_nodup (events : List Event) : (ofEvents events).states.keys.Nodup := by
  induction events using List.reverseRecOn with
  | nil => exact List.nodup_nil
  | append_singleton events event ih =>
      rw [ofEvents_concat]
      cases event with
      | skip entry =>
          by_cases hold : entry.key ∈ (ofEvents events).skips.map (·.key)
          · rwa [record_skip_of_mem hold]
          · rw [record_skip_of_not_mem hold]
            cases hfind : (ofEvents events).states.find? entry.type with
            | none =>
                simp only [Option.isSome_none, Bool.false_eq_true, if_false]
                rw [← Assoc.put_of_find?_eq_none hfind]
                exact Assoc.keys_put_nodup ih _ _
            | some state => exact ih
      | visiting type => exact Assoc.keys_update_nodup ih _ _ _
      | skipped type => exact Assoc.keys_update_nodup ih _ _ _
      | resolved type => exact Assoc.keys_put_nodup ih _ _
      | _ => exact ih

theorem find?_states_ne_unvisited (events : List Event) (name : String) :
    (ofEvents events).states.find? name ≠ some .unvisited := by
  induction events using List.reverseRecOn with
  | nil => exact nofun
  | append_singleton events event ih =>
      rw [ofEvents_concat, find?_states_record (skipsHaveStates_ofEvents events)]
      split
      · intro heq
        exact event.state_ne_unvisited ih (Option.some.inj heq)
      · exact ih

/-- A type that is left as visited was visited, and nothing was told of the end of the visit. -/
theorem exists_visiting_of_find? {name : String}
    (h : (ofEvents events).states.find? name = some .visiting) :
    ∃ before after, events = before ++ .visiting name :: after ∧
      .skipped name ∉ after ∧ .resolved name ∉ after := by
  induction events using List.reverseRecOn with
  | nil => cases h
  | append_singleton events event ih =>
      have hlater (hold : (ofEvents events).states.find? name = some .visiting)
          (hskipped : event ≠ .skipped name) (hresolved : event ≠ .resolved name) :
          ∃ before after, events ++ [event] = before ++ .visiting name :: after ∧
            .skipped name ∉ after ∧ .resolved name ∉ after := by
        obtain ⟨before, after, rfl, hnone⟩ := ih hold
        refine ⟨before, after ++ [event], by simp, ?_⟩
        simpa [hskipped.symm, hresolved.symm] using hnone
      rw [ofEvents_concat, find?_states_record (skipsHaveStates_ofEvents events)] at h
      by_cases hsubject : event.subject? = some name
      · rw [if_pos hsubject] at h
        rcases Event.state_eq_visiting (Option.some.inj h) with ⟨type, rfl⟩ | ⟨hold, hother⟩
        · obtain rfl := Option.some.inj hsubject
          exact ⟨events, [], rfl, List.not_mem_nil, List.not_mem_nil⟩
        · exact hlater hold (hother name).1 (hother name).2
      · rw [if_neg hsubject] at h
        apply hlater h
        · rintro rfl
          exact hsubject rfl
        · rintro rfl
          exact hsubject rfl

end Tally

/-- How a visit ends is recorded after it. -/
def Settling (events : List Event) : Prop :=
  ∀ name after, (Event.visiting name :: after) <:+ events →
    .skipped name ∈ after ∨ .resolved name ∈ after

theorem settling_nil : Settling [] := by
  intro name after h
  cases List.suffix_nil.1 h

theorem settling_cons_iff {event : Event} {events : List Event} :
    Settling (event :: events) ↔
      (∀ name, event = .visiting name → .skipped name ∈ events ∨ .resolved name ∈ events) ∧
        Settling events := by
  constructor
  · intro h
    constructor
    · rintro name rfl
      exact h name events (List.suffix_refl _)
    · intro name after hafter
      exact h name after (hafter.trans (List.suffix_cons _ _))
  · rintro ⟨hfirst, hrest⟩ name after hafter
    rcases List.suffix_cons_iff.1 hafter with heq | hafter
    · obtain ⟨rfl, rfl⟩ := List.cons.inj heq
      exact hfirst name rfl
    · exact hrest name after hafter

theorem Settling.append {first second : List Event} (hfirst : Settling first)
    (hsecond : Settling second) : Settling (first ++ second) := by
  induction first with
  | nil => exact hsecond
  | cons event first ih =>
      obtain ⟨hevent, hrest⟩ := settling_cons_iff.1 hfirst
      refine settling_cons_iff.2 ⟨?_, ih hrest⟩
      intro name hname
      exact (hevent name hname).imp (List.mem_append_left _) (List.mem_append_left _)

theorem settling_of_not_visiting {events : List Event} (h : ∀ name, .visiting name ∉ events) :
    Settling events := by
  intro name after hafter
  exact absurd (hafter.subset List.mem_cons_self) (h name)

/-- What happens between a visit and its end may settle other visits. -/
theorem Settling.enclose {name : String} {inner : List Event} {last : Event}
    (h : Settling inner) (hlast : last = .skipped name ∨ last = .resolved name) :
    Settling (.visiting name :: (inner ++ [last])) := by
  refine settling_cons_iff.2 ⟨?_, ?_⟩
  · rintro name' heq
    obtain rfl := Event.visiting.inj heq
    rcases hlast with rfl | rfl
    · exact Or.inl (List.mem_append_right _ List.mem_cons_self)
    · exact Or.inr (List.mem_append_right _ List.mem_cons_self)
  · apply h.append
    apply settling_of_not_visiting
    rintro name' hmem
    obtain rfl := List.mem_singleton.1 hmem
    rcases hlast with h | h <;> cases h

namespace Setting

variable {setting : Setting}

theorem settling_flatMap {α : Type} {items : List α} {steps : α → List Step}
    (h : ∀ item ∈ items, Settling ((steps item).filterMap eventOf?)) :
    Settling ((items.flatMap steps).filterMap eventOf?) := by
  induction items with
  | nil => exact settling_nil
  | cons item items ih =>
      rw [List.flatMap_cons, List.filterMap_append]
      exact (h item List.mem_cons_self).append
        (ih fun other hmem => h other (List.mem_cons_of_mem _ hmem))

theorem settling_skipSteps (type : String) (host : Option String) (via : Coordinate)
    (reason : SkipReason) : Settling ((skipSteps type host via reason).filterMap eventOf?) := by
  apply settling_of_not_visiting
  intro name hmem
  rw [mem_filterMap_eventOf?, record_mem_skipSteps] at hmem
  rcases hmem with h | h <;> cases h

theorem settling_memberSteps (via : Coordinate) (member : GraphType) (declared : HostType)
    (direct : Bool) :
    Settling ((setting.memberSteps via member declared direct).filterMap eventOf?) := by
  apply settling_of_not_visiting
  intro name hmem
  rw [mem_filterMap_eventOf?, record_mem_memberSteps, record_mem_skipSteps] at hmem
  rcases hmem with ⟨-, h | h⟩ <;> cases h

theorem settling_objectSteps (via : Coordinate) (type : GraphType) (element : TypeRef) :
    Settling ((setting.objectSteps via type element).filterMap eventOf?) := by
  unfold objectSteps
  split
  · exact settling_memberSteps _ _ _ _
  · exact settling_skipSteps _ _ _ _

theorem settling_polymorphicSteps (via : Coordinate) (type : GraphType) (element : TypeRef) :
    Settling ((setting.polymorphicSteps via type element).filterMap eventOf?) := by
  unfold polymorphicSteps
  split
  · rw [List.filterMap_append]
    refine (settling_flatMap fun _ _ => settling_skipSteps _ _ _ _).append ?_
    apply settling_of_not_visiting
    simp [eventOf?]
  · next declared _ =>
      have hmembers : Settling (((setting.possibleObjects type.name).flatMap
          (setting.memberSteps via · declared false)).filterMap eventOf?) :=
        settling_flatMap fun _ _ => settling_memberSteps _ _ _ _
      have hitself : (if setting.checksInterface type declared then
          [Step.visit type declared] else []).filterMap eventOf? = [] := by
        split <;> rfl
      simp only [List.filterMap_append, hitself, List.append_nil]
      apply hmembers.enclose
      split
      · exact Or.inr rfl
      · exact Or.inl rfl

theorem settling_fieldSteps (field : Field) (serving : TypeRef) :
    Settling ((setting.fieldSteps field serving).filterMap eventOf?) := by
  unfold fieldSteps
  split
  · exact settling_nil
  · split
    · exact settling_objectSteps _ _ _
    · exact settling_polymorphicSteps _ _ _
    · exact settling_polymorphicSteps _ _ _
    · apply settling_of_not_visiting
      simp [eventOf?]
    · apply settling_of_not_visiting
      simp [eventOf?]
    · exact settling_nil

theorem settling_serveSteps (field : Field) (serving : Option TypeRef) :
    Settling ((setting.serveSteps field serving).filterMap eventOf?) := by
  cases serving with
  | some serving => exact settling_fieldSteps field serving
  | none =>
      apply settling_of_not_visiting
      simp [serveSteps, eventOf?]

theorem settling_rootSteps (root : GraphType) :
    Settling ((setting.rootSteps root).filterMap eventOf?) := by
  have hfields : Settling ((root.fields.flatMap fun field =>
      setting.serveSteps field (setting.registered? field)).filterMap eventOf?) :=
    settling_flatMap fun _ _ => settling_serveSteps _ _
  rw [rootSteps, List.filterMap_append, List.filterMap_append]
  exact hfields.enclose (Or.inr rfl)

theorem settling_pairSteps (type : GraphType) (host : HostType) :
    Settling ((setting.pairSteps type host).filterMap eventOf?) := by
  have hfields : Settling ((type.fields.flatMap fun field =>
      setting.serveSteps field (setting.serving? host field)).filterMap eventOf?) :=
    settling_flatMap fun _ _ => settling_serveSteps _ _
  rw [pairSteps, List.filterMap_append, List.filterMap_append]
  refine settling_cons_iff.2 ⟨?_, hfields.enclose (Or.inr rfl)⟩
  intro name heq
  cases heq

/-- A walk takes all steps that it was given but for visits. -/
theorem record_mem_walk {unchecked : List (String × String)} {steps : List Step} {event : Event}
    (h : .record event ∈ steps) : .record event ∈ setting.walk unchecked steps := by
  fun_induction walk setting unchecked steps with
  | case1 unchecked => exact h
  | case2 unchecked type host rest hunchecked ih =>
      rcases List.mem_cons.1 h with heq | hrest
      · cases heq
      · exact ih (List.mem_append_right _ hrest)
  | case3 unchecked type host rest hchecked ih =>
      rcases List.mem_cons.1 h with heq | hrest
      · cases heq
      · exact ih hrest
  | case4 unchecked first rest hfirst ih =>
      rcases List.mem_cons.1 h with heq | hrest
      · exact List.mem_cons.2 (Or.inl heq)
      · exact List.mem_cons_of_mem _ (ih hrest)

/-- A walk settles its visits if the steps do that it was given: what is done for a pair settles
the visits that are made there. -/
theorem settling_walk {unchecked : List (String × String)} {steps : List Step}
    (h : Settling (steps.filterMap eventOf?)) :
    Settling ((setting.walk unchecked steps).filterMap eventOf?) := by
  fun_induction walk setting unchecked steps with
  | case1 unchecked => exact h
  | case2 unchecked type host rest hunchecked ih =>
      apply ih
      rw [List.filterMap_append]
      exact (settling_pairSteps type host).append h
  | case3 unchecked type host rest hchecked ih => exact ih h
  | case4 unchecked first rest hfirst ih =>
      cases first with
      | visit type host => exact absurd rfl (hfirst type host)
      | consult type declared => exact ih h
      | record event =>
          obtain ⟨hevent, hrest⟩ := settling_cons_iff.1 h
          refine settling_cons_iff.2 ⟨?_, ih hrest⟩
          have hkept {event : Event} (hmem : event ∈ rest.filterMap eventOf?) :
              event ∈ (setting.walk unchecked rest).filterMap eventOf? := by
            rw [mem_filterMap_eventOf?] at hmem ⊢
            exact record_mem_walk hmem
          intro name hname
          exact (hevent name hname).imp hkept hkept

/-- All visits of an inspection are settled. -/
theorem settling_events : Settling setting.events := by
  have hfirst : Settling (setting.firstSteps.filterMap eventOf?) :=
    settling_flatMap fun _ _ => settling_rootSteps _
  apply (settling_walk hfirst).append
  apply settling_of_not_visiting
  intro name hmem
  rcases event_of_mem_registrationEvents hmem with ⟨_, h⟩ | ⟨_, h⟩ <;> cases h

/-- In the end a type that has a state is resolved or skipped. -/
theorem state_eq_resolved_or_skipped {name : String} {state : TypeState}
    (h : (Tally.ofEvents setting.events).states.find? name = some state) :
    state = .resolved ∨ state = .skipped := by
  cases state with
  | resolved => exact Or.inl rfl
  | skipped => exact Or.inr rfl
  | unvisited => exact absurd h (Tally.find?_states_ne_unvisited _ _)
  | visiting =>
      obtain ⟨before, after, hevents, hskipped, hresolved⟩ := Tally.exists_visiting_of_find? h
      rcases settling_events name after ⟨before, hevents.symm⟩ with hmem | hmem
      · exact absurd hmem hskipped
      · exact absurd hmem hresolved

end Setting

end SchemaCoverage.Inspection
