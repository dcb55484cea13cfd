import SchemaCoverage.Proofs.Controller.Coordinates
import SchemaCoverage.Proofs.Inspection.Accounting
import SchemaCoverage.Proofs.Inspection.Recording
/-!
What an inspection tells of the registered methods. Each method that is taken for a coordinate is
looked at once, after the walk: the schema lacks its field, or the field may lack some of the
arguments that the method binds.
-/
namespace SchemaCoverage

open Schema

namespace Controller.Registry

/-- The methods by coordinate, as they follow from the registrations. -/
structure Charted (registry : Registry) (graph : Graph) : Prop where
  /-- Targets stand for the coordinates that root types and usual names give. -/
  resolves : ∀ target coordinate,
    target.coordinate graph = coordinate ↔ Target.ResolvesTo graph target coordinate
  /-- There is one entry for each coordinate that a registration comes to, in the order of the first
  such registrations. -/
  keys : (registry.byCoordinate graph).1.keys =
    (registry.mappings.map fun mapping => mapping.1.coordinate graph).eraseDups
  /-- An entry holds the method that is registered first for its coordinate. -/
  first : ∀ coordinate method, (coordinate, method) ∈ (registry.byCoordinate graph).1 ↔
    ∃ before target after, registry.mappings = before ++ (target, method) :: after ∧
      target.coordinate graph = coordinate ∧
      ∀ earlier ∈ before, earlier.1.coordinate graph ≠ coordinate

theorem charted_of_wellFormed {graph : Graph} (h : graph.WellFormed) (registry : Registry) :
    registry.Charted graph where
  resolves _ _ := (Target.resolvesTo_iff h).symm
  keys := keys_byCoordinate registry graph
  first _ _ := mem_byCoordinate_iff

end Controller.Registry

namespace Inspection

open Host

/-- The arguments that a method binds and the field at its coordinate lacks. -/
def undeclaredArguments (graph : Graph) (entry : Coordinate × Controller.Method) :
    List UnmappedArgument :=
  match graph.field? entry.1 with
  | none => []
  | some field =>
      (entry.2.arguments.filter fun argument => argument ∉ field.arguments.keys).map fun argument =>
        ⟨argument, entry.1, entry.2.render⟩

namespace Setting

variable {setting : Setting}

/-- The walk tells of types, of checked pairs and of unmapped fields alone. -/
theorem event_of_record_mem_trace {event : Event} (h : .record event ∈ setting.trace) :
    event.subject? ≠ none ∨ (∃ coordinate, event = .unmappedField coordinate) ∨
      ∃ name path, event = .checked name path := by
  by_cases hsubject : event.subject? = none
  · right
    have hserve {field : Field} {serving : Option TypeRef}
        (h : .record event ∈ setting.serveSteps field serving) :
        ∃ coordinate, event = .unmappedField coordinate :=
      ⟨_, ((record_mem_serveSteps hsubject).1 h).2⟩
    have hstate {name : String} (h : event = .visiting name ∨ event = .resolved name) : False := by
      rcases h with rfl | rfl <;> cases hsubject
    rcases (mem_trace (by simp)).1 h with h | ⟨type, host, -, h⟩
    · obtain ⟨_, root, _, h⟩ := mem_firstSteps.1 h
      rcases mem_rootSteps.1 h with h | ⟨_, _, h⟩ | h
      · exact (hstate (Or.inl (Step.record.inj h))).elim
      · exact Or.inl (hserve h)
      · exact (hstate (Or.inr (Step.record.inj h))).elim
    · rcases mem_pairSteps.1 h with h | h | ⟨_, _, h⟩ | h
      · exact Or.inr ⟨_, _, Step.record.inj h⟩
      · exact (hstate (Or.inl (Step.record.inj h))).elim
      · exact Or.inl (hserve h)
      · exact (hstate (Or.inr (Step.record.inj h))).elim
  · exact Or.inl hsubject

/-- What the walk does not tell at all is told of the registrations alone. -/
theorem filterMap_events {α : Type} {told : Event → Option α}
    (htold : ∀ event, .record event ∈ setting.trace → told event = none) :
    setting.events.filterMap told = setting.registrationEvents.filterMap told := by
  have hwalk : (setting.trace.filterMap eventOf?).filterMap told = [] := by
    rw [List.filterMap_eq_nil_iff]
    intro event hmem
    exact htold event (mem_filterMap_eventOf?.1 hmem)
  rw [events, List.filterMap_append, hwalk, List.nil_append]

theorem filterMap_unmappedRegistration?_registrationEvents :
    setting.registrationEvents.filterMap Event.unmappedRegistration? =
      (setting.methods.filter fun entry => (setting.graph.field? entry.1).isNone).map fun entry =>
        ⟨entry.1, entry.2.render⟩ := by
  unfold registrationEvents
  induction setting.methods with
  | nil => rfl
  | cons entry entries ih =>
      rw [List.flatMap_cons, List.filterMap_append, ih]
      cases hfield : setting.graph.field? entry.1 with
      | none => simp [hfield, Event.unmappedRegistration?]
      | some field => simp [hfield, Event.unmappedRegistration?]

theorem filterMap_unmappedArgument?_registrationEvents :
    setting.registrationEvents.filterMap Event.unmappedArgument? =
      setting.methods.flatMap (undeclaredArguments setting.graph) := by
  rw [registrationEvents, List.filterMap_flatMap]
  apply List.flatMap_congr
  rintro entry -
  unfold undeclaredArguments
  cases hfield : setting.graph.field? entry.1 with
  | none => simp [hfield, Event.unmappedArgument?]
  | some field =>
      simp only [hfield, List.filterMap_map]
      exact congrFun List.filterMap_eq_map' _

/-- Coordinates have one method at most, so that no registration is told twice. -/
theorem unmappedRegistrations_report (hkeys : setting.methods.keys.Nodup) :
    setting.report.unmappedRegistrations =
      (setting.methods.filter fun entry => (setting.graph.field? entry.1).isNone).map fun entry =>
        ⟨entry.1, entry.2.render⟩ := by
  have hwalk (event : Event) (h : .record event ∈ setting.trace) :
      event.unmappedRegistration? = none := by
    rcases event_of_record_mem_trace h with h | ⟨_, rfl⟩ | ⟨_, _, rfl⟩
    · cases event <;> simp_all [Event.unmappedRegistration?, Event.subject?]
    · rfl
    · rfl
  have hreport : setting.report.unmappedRegistrations =
      (setting.events.filterMap Event.unmappedRegistration?).eraseDups :=
    Tally.unmappedRegistrations_ofEvents setting.events
  rw [hreport, filterMap_events hwalk, filterMap_unmappedRegistration?_registrationEvents]
  apply eraseDups_of_nodup
  apply List.Nodup.of_map (·.coordinate)
  rw [List.map_map]
  exact hkeys.sublist (List.filter_sublist.map Prod.fst)

theorem unmappedArguments_report :
    setting.report.unmappedArguments =
      (setting.methods.flatMap (undeclaredArguments setting.graph)).eraseDups := by
  have hwalk (event : Event) (h : .record event ∈ setting.trace) :
      event.unmappedArgument? = none := by
    rcases event_of_record_mem_trace h with h | ⟨_, rfl⟩ | ⟨_, _, rfl⟩
    · cases event <;> simp_all [Event.unmappedArgument?, Event.subject?]
    · rfl
    · rfl
  have hreport : setting.report.unmappedArguments =
      (setting.events.filterMap Event.unmappedArgument?).eraseDups :=
    Tally.unmappedArguments_ofEvents setting.events
  rw [hreport, filterMap_events hwalk, filterMap_unmappedArgument?_registrationEvents]

end Setting

/-- What a report lists of the methods that are taken for their coordinates. -/
structure Report.ListsRegistrations (report : Report) (graph : Graph)
    (methods : Assoc Coordinate Controller.Method) : Prop where
  /-- Fields of object and interface types are found at their coordinates, and no others. -/
  fields : ∀ coordinate field,
    graph.field? coordinate = some field ↔ graph.HasField coordinate field
  /-- The methods at whose coordinates there is no field are listed in order. -/
  unmappedRegistrations : report.unmappedRegistrations =
    (methods.filter fun entry => (graph.field? entry.1).isNone).map fun entry =>
      ⟨entry.1, entry.2.render⟩
  /-- The arguments that the other methods bind in vain are listed in order, each once. -/
  unmappedArguments : report.unmappedArguments =
    (methods.flatMap (undeclaredArguments graph)).eraseDups

/-- The document `schema { query: Root mutation: Root }` and `type Root { books(by: String): Root }`,
where one type serves two operations. -/
def libraryDocuments : List (Option String × Sdl.Document) :=
  [(none, [
    .schema ⟨some "Root", some "Root", none, ⟨1, 1⟩⟩,
    .type ⟨"Root", .object []
      [⟨"books", [⟨"by", .named "String" false, ⟨2, 19⟩⟩], .named "Root" false, ⟨2, 13⟩⟩],
      ⟨2, 1⟩⟩])]

/-- Methods of which three are registered for one field, and one for no field. -/
def libraryControllers : Controller.Registry :=
  ⟨[(.operation .mutation "books", ⟨"Library", "first", .unnamed, ["by", "to", "to"]⟩),
    (.operation .query "books", ⟨"Library", "second", .unnamed, []⟩),
    (.operation .subscription "books", ⟨"Library", "other", .unnamed, ["to"]⟩),
    (.field ⟨"Root", "books"⟩, ⟨"Library", "third", .unnamed, []⟩)]⟩

namespace Inspector

/-- Every registration is accounted for: the first one for a coordinate is taken for it, and is
listed with what the schema lacks of it. -/
theorem registrations_accounted {documents : List (Option String × Sdl.Document)} {graph : Graph}
    (hbuilt : Graph.ofDocuments documents = .ok graph) (controllers : Controller.Registry) :
    controllers.Charted graph ∧
      ∀ (inspector : Inspector) (hosts : Registry) (outcome : Outcome),
        inspector.inspect graph controllers hosts = .ok outcome →
        outcome.report.ListsRegistrations graph (controllers.byCoordinate graph).1 := by
  have hwell := wellFormed_of_ofDocuments hbuilt
  refine ⟨Controller.Registry.charted_of_wellFormed hwell controllers, ?_⟩
  intro inspector hosts outcome hinspected
  rw [report_of_inspect hinspected]
  have hkeys : (inspector.setting graph controllers hosts).methods.keys.Nodup :=
    Controller.Registry.keys_byCoordinate_nodup controllers graph
  exact
    { fields := fun _ _ => hwell.field?_eq_some_iff
      unmappedRegistrations := Setting.unmappedRegistrations_report hkeys
      unmappedArguments := Setting.unmappedArguments_report }

theorem library_registrations_accounted :
    ∃ graph outcome, Graph.ofDocuments libraryDocuments = .ok graph ∧
      libraryControllers.Charted graph ∧
      Options.standard.inspector.inspect graph libraryControllers .empty = .ok outcome ∧
      outcome.report.ListsRegistrations graph (libraryControllers.byCoordinate graph).1 := by
  have hbuilds : (Graph.ofDocuments libraryDocuments).isOk = true := by decide +kernel
  obtain ⟨graph, hbuilt⟩ := exists_eq_ok_of_isOk hbuilds
  obtain ⟨hcharted, hlists⟩ := registrations_accounted hbuilt libraryControllers
  exact ⟨graph, _, hbuilt, hcharted, rfl, hlists Options.standard.inspector .empty _ rfl⟩

end Inspector

end Inspection

end SchemaCoverage
