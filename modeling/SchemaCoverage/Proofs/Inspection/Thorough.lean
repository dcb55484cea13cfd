import SchemaCoverage.Proofs.Candidates.Plain
import SchemaCoverage.Proofs.Inspection.SameFindings
/-!
What a walk never passes over. In a graph that was built every look-up of a walk succeeds, so that
something is done for each field that is served and for each type that it may return; and once
tables are checked every candidate that is found is registered.
-/
namespace SchemaCoverage

namespace Host.TypeRef

/-- Under all lists, options and wrappers there is a named type, or nothing is told of it. -/
theorem element_cases (wrappers : Wrappers) (ref : TypeRef) :
    ref.element wrappers = .unnamed ∨
      ∃ path generics, ref.element wrappers = .named path generics := by
  fun_induction element wrappers ref with
  | case1 => exact Or.inl rfl
  | case2 inner ih => exact ih
  | case3 inner ih => exact ih
  | case4 path hwraps => exact Or.inl rfl
  | case5 path hother => exact Or.inr ⟨path, [], rfl⟩
  | case6 path first others hwraps ih => exact ih
  | case7 path first others hother => exact Or.inr ⟨path, first :: others, rfl⟩

end Host.TypeRef

namespace Inspection

open Schema Host Candidates

namespace Setting

variable {setting : Setting}

theorem memberSteps_ne_nil (via : Coordinate) (member : GraphType) (declared : HostType)
    (direct : Bool) : setting.memberSteps via member declared direct ≠ [] := by
  cases hactive : setting.activeHosts member.name declared direct with
  | nil => simp [memberSteps, hactive, skipSteps]
  | cons host others => simp [memberSteps, hactive]

/-- Something is done for a field that is served, unless it returns an input type or none at all. -/
theorem fieldSteps_ne_nil {field : Field} {serving : TypeRef} {returned : GraphType}
    (hreturned : setting.graph.type? field.type.innermost = some returned)
    (hkind : returned.kind ≠ .inputObject) : setting.fieldSteps field serving ≠ [] := by
  rcases kind_cases hkind with hobject | hpolymorphic | hleaf
  · simp only [fieldSteps, hreturned, hobject]
    unfold objectSteps
    split
    · exact memberSteps_ne_nil _ _ _ _
    · exact List.cons_ne_nil _ _
  · rw [fieldSteps_of_polymorphic hreturned hpolymorphic]
    unfold polymorphicSteps
    split
    · simp
    · simp
  · apply List.ne_nil_of_mem (a := .record (.resolved returned.name))
    exact mem_fieldSteps.2 ⟨returned, hreturned, Or.inr (Or.inr ⟨hleaf, rfl⟩)⟩

/-- Where all of some names are those of object types none is passed over. -/
theorem names_possibleObjects {type : String}
    (h : ∀ name ∈ setting.graph.possibleTypes type,
      ∃ member, setting.graph.type? name = some member ∧ member.kind = .object) :
    (setting.possibleObjects type).map (·.name) = setting.graph.possibleTypes type := by
  unfold possibleObjects
  revert h
  induction setting.graph.possibleTypes type with
  | nil => exact fun _ => rfl
  | cons name names ih =>
      intro h
      obtain ⟨member, hfind, hkind⟩ := h name List.mem_cons_self
      have hfirst : (setting.graph.type? name).filter (·.kind == .object) = some member := by
        simp [hfind, hkind]
      rw [List.filterMap_cons, hfirst, List.map_cons, name_of_findType? hfind,
        ih fun other hmem => h other (List.mem_cons_of_mem _ hmem)]

/-- No fallback of a walk is ever taken for want of a type. -/
structure Thorough (setting : Setting) : Prop where
  /-- The type of a field is there, and no input type. -/
  returned : ∀ field, setting.ComesTo field →
    ∃ returned, setting.graph.type? field.type.innermost = some returned ∧
      returned.kind ≠ .inputObject
  /-- Something is done for each field that is served. -/
  followed : ∀ field serving, setting.Followed field serving →
    setting.fieldSteps field serving ≠ []
  /-- What a value of an interface or union may be is an object type of the graph. -/
  possible : ∀ type, setting.graph.type? type.name = some type → type.isPolymorphic = true →
    ∀ name ∈ setting.graph.possibleTypes type.name,
      ∃ member, setting.graph.type? name = some member ∧ member.kind = .object
  /-- The walk takes all of them. -/
  members : ∀ type, setting.graph.type? type.name = some type → type.isPolymorphic = true →
    (setting.possibleObjects type.name).map (·.name) = setting.graph.possibleTypes type.name
  /-- A field that serves is never looked at as a list or an optional value. -/
  element : ∀ wrappers (serving : TypeRef),
    (∀ inner, serving.element wrappers ≠ .list inner) ∧
      ∀ value, serving.element wrappers ≠ .optional value

theorem thorough (hwell : setting.graph.WellFormed) (hobjects : setting.graph.PossibleObjects) :
    setting.Thorough where
  returned _ hfield := hfield.output hwell
  followed field serving hfollowed := by
    obtain ⟨returned, hreturned, hkind⟩ := hfollowed.comesTo.output hwell
    exact fieldSteps_ne_nil hreturned hkind
  possible := hobjects
  members type hfind hkind := names_possibleObjects (hobjects type hfind hkind)
  element wrappers serving := by
    rcases serving.element_cases wrappers with h | ⟨path, generics, h⟩
    · simp [h]
    · simp [h]

/-- All paths that are found for candidates are registered, so that none is dropped. -/
structure KeepsCandidates (setting : Setting) : Prop where
  registered : ∀ type declared, ∀ path ∈ setting.candidatePaths type declared,
    setting.registry.contains path = true
  kept : ∀ type declared,
    (setting.candidates type declared).map (·.path) = setting.candidatePaths type declared

theorem keepsCandidates (hplain : setting.resolver.Plain)
    (hcheck : setting.resolver.check setting.graph setting.registry = .ok ()) :
    setting.KeepsCandidates := by
  have hregistered (type : String) (declared : HostType) :
      ∀ path ∈ setting.candidatePaths type declared, setting.registry.contains path = true := by
    intro path hpath
    unfold candidatePaths at hpath
    cases hfound : setting.resolver.resolve setting.registry type (some declared) with
    | none => simp [hfound] at hpath
    | some paths =>
        rw [hfound, Option.getD_some] at hpath
        exact hplain.contains_of_mem hcheck hfound hpath
  refine ⟨hregistered, fun type declared => ?_⟩
  rw [paths_candidates]
  exact List.filter_eq_self.2 (hregistered type declared)

/-- No look-up warns of a path. -/
theorem KeepsCandidates.warnings_eq_nil (h : setting.KeepsCandidates) (steps : List Step) :
    (Memo.ofSteps setting steps).warnings = [] := by
  have hfollow (memo : Memo) (step : Step) :
      (memo.follow setting step).warnings = memo.warnings := by
    cases step with
    | consult type declared =>
        have hmissing : (setting.candidatePaths type declared).filter
            (fun path => !setting.registry.contains path) = [] := by
          simpa using h.registered type declared
        unfold Memo.follow Memo.consult
        dsimp only
        split
        · rfl
        · simp [hmissing]
    | record event => rfl
    | visit type host => rfl
  have hsteps (memo : Memo) : (steps.foldl (Memo.follow setting) memo).warnings = memo.warnings := by
    induction steps generalizing memo with
    | nil => rfl
    | cons step steps ih => rw [List.foldl_cons, ih, hfollow]
  exact hsteps .empty

end Setting

namespace Inspector

variable {inspector : Inspector} {controllers : Controller.Registry} {hosts : Registry}
  {graph : Graph} {outcome : Outcome}

theorem check_of_inspect (h : inspector.inspect graph controllers hosts = .ok outcome) :
    inspector.resolver.check graph hosts = .ok () := by
  unfold inspect at h
  split at h
  · cases h
  · assumption

theorem warnings_of_inspect (h : inspector.inspect graph controllers hosts = .ok outcome) :
    outcome.warnings = (controllers.byCoordinate graph).2.map Warning.shadowedMethod ++
      (Memo.ofSteps (inspector.setting graph controllers hosts)
        (inspector.setting graph controllers hosts).trace).warnings := by
  unfold inspect at h
  split at h
  · cases h
  · cases h
    rfl

/-- Every inspection is thorough. With tables and naming conventions alone it drops no candidate, and
does not warn of any. -/
theorem thorough_of_inspect {documents : List (Option String × Sdl.Document)}
    (hbuilt : Graph.ofDocuments documents = .ok graph)
    (hinspected : inspector.inspect graph controllers hosts = .ok outcome) :
    (inspector.setting graph controllers hosts).Thorough ∧
      (inspector.resolver.Plain →
        (inspector.setting graph controllers hosts).KeepsCandidates ∧
          ∀ type path, .unregisteredCandidate type path ∉ outcome.warnings) := by
  refine ⟨Setting.thorough (wellFormed_of_ofDocuments hbuilt) (possibleObjects_of_ofDocuments hbuilt),
    fun hplain => ?_⟩
  have hkeeps : (inspector.setting graph controllers hosts).KeepsCandidates :=
    Setting.keepsCandidates hplain (check_of_inspect hinspected)
  refine ⟨hkeeps, fun type path => ?_⟩
  rw [warnings_of_inspect hinspected, hkeeps.warnings_eq_nil, List.append_nil]
  simp

/-- The inspection of pets with a table that maps cats explicitly. -/
def tabledOptions : Options :=
  Options.standard.withTypeNames (TypeNames.empty.add "app::Cat" "Cat")

theorem tabledOptions_plain : tabledOptions.inspector.resolver.Plain := by
  apply Resolver.Plain.chain
  intro resolver hmem
  rcases List.mem_cons.1 hmem with rfl | hmem
  · exact .table _
  · obtain rfl := List.mem_singleton.1 hmem
    exact .convention _

theorem pets_thorough :
    ∃ graph outcome, Graph.ofDocuments petDocuments = .ok graph ∧
      tabledOptions.inspector.inspect graph petControllers petHosts = .ok outcome ∧
      (tabledOptions.inspector.setting graph petControllers petHosts).Thorough ∧
      tabledOptions.inspector.resolver.Plain ∧
      (tabledOptions.inspector.setting graph petControllers petHosts).KeepsCandidates ∧
      ∀ type path, .unregisteredCandidate type path ∉ outcome.warnings := by
  have hinspects : ((Graph.ofDocuments petDocuments).map fun graph =>
      (tabledOptions.inspector.inspect graph petControllers petHosts).isOk) = .ok true := by
    decide +kernel
  obtain ⟨graph, hbuilt, hinspects⟩ := exceptMap_eq_ok_iff.1 hinspects
  obtain ⟨outcome, hinspected⟩ := exists_eq_ok_of_isOk hinspects
  obtain ⟨hthorough, hkeeps⟩ := thorough_of_inspect hbuilt hinspected
  exact ⟨graph, outcome, hbuilt, hinspected, hthorough, tabledOptions_plain,
    hkeeps tabledOptions_plain⟩

end Inspector

end Inspection

end SchemaCoverage
