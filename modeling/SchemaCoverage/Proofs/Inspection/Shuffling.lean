import SchemaCoverage.Proofs.Candidates.Plain
import SchemaCoverage.Proofs.Controller.Coordinates
import SchemaCoverage.Proofs.Inspection.SameFindings
import SchemaCoverage.Proofs.Inspection.Termination
import Mathlib.Data.List.Forall2
/-!
Inspections of inputs in another order. Types, fields, members, registrations and host types may be
listed in any order: look-ups by name find the same, so that the reports have the same findings.
-/
namespace SchemaCoverage

/-- The second list holds what the first does, in another order and each member up to a relation. -/
def PermUpTo {α β : Type} (r : α → β → Prop) (items : List α) (items' : List β) : Prop :=
  ∃ middle, items.Perm middle ∧ List.Forall₂ r middle items'

section PermUpTo

variable {α β : Type} {r : α → β → Prop} {items : List α} {items' : List β}

/-- Filtered and seen in the same way, such lists are in another order only. -/
theorem PermUpTo.map_filter {γ : Type} {keeps : α → Bool} {keeps' : β → Bool} {view : α → γ}
    {view' : β → γ} (h : PermUpTo r items items') (hkeeps : ∀ a b, r a b → keeps a = keeps' b)
    (hview : ∀ a b, r a b → view a = view' b) :
    ((items.filter keeps).map view).Perm ((items'.filter keeps').map view') := by
  obtain ⟨middle, hperm, hrel⟩ := h
  have hmiddle : (middle.filter keeps).map view = (items'.filter keeps').map view' := by
    clear hperm
    induction hrel with
    | nil => rfl
    | @cons a b _ _ hab _ ih =>
        rw [List.filter_cons, List.filter_cons, hkeeps a b hab]
        split
        · rw [List.map_cons, List.map_cons, hview a b hab, ih]
        · exact ih
  rw [← hmiddle]
  exact (hperm.filter _).map _

/-- Where names are distinct, a name finds the same in every order. -/
theorem find?_perm {name : α → String} {middle : List α} (h : items.Perm middle)
    (hnames : (items.map name).Nodup) (key : String) :
    items.find? (name · == key) = middle.find? (name · == key) := by
  have hmiddle := (h.map name).nodup_iff.1 hnames
  apply Option.ext
  intro a
  rw [find?_eq_some_iff_of_nodup hnames, find?_eq_some_iff_of_nodup hmiddle, h.mem_iff]

theorem PermUpTo.optionRel_find? {name : α → String} {name' : β → String}
    (h : PermUpTo r items items') (hnames : (items.map name).Nodup)
    (hname : ∀ a b, r a b → name a = name' b) (key : String) :
    Option.Rel r (items.find? (name · == key)) (items'.find? (name' · == key)) := by
  obtain ⟨middle, hperm, hrel⟩ := h
  rw [find?_perm hperm hnames]
  clear hperm
  induction hrel with
  | nil => exact .none
  | @cons a b _ _ hab _ ih =>
      rw [List.find?_cons, List.find?_cons, hname a b hab]
      cases name' b == key with
      | true => exact .some hab
      | false => exact ih

end PermUpTo

namespace Assoc

variable {κ : Type} {ν : Type} [DecidableEq κ] {entries entries' : Assoc κ ν}

theorem find?_perm (h : entries.Perm entries') (hkeys : entries.keys.Nodup) (key : κ) :
    entries.find? key = entries'.find? key := by
  have hkeys' : entries'.keys.Nodup := (h.map Prod.fst).nodup_iff.1 hkeys
  apply Option.ext
  intro value
  constructor
  · intro hfind
    exact find?_of_mem hkeys' (h.mem_iff.1 (mem_of_find? hfind))
  · intro hfind
    exact find?_of_mem hkeys (h.mem_iff.2 (mem_of_find? hfind))

end Assoc

namespace Schema

/-- Two types differ in places and in the order of fields, interfaces and members alone, as far as
an inspection sees them. -/
structure GraphType.Shuffled (type type' : GraphType) : Prop where
  name : type.name = type'.name
  kind : type.kind = type'.kind
  fields : (type.fields.map Field.unplaced).Perm (type'.fields.map Field.unplaced)
  interfaces : (type.interfaces.map (·.name)).Perm (type'.interfaces.map (·.name))
  members : (type.members.map (·.name)).Perm (type'.members.map (·.name))

instance (type type' : GraphType) : Decidable (type.Shuffled type') :=
  decidable_of_iff
    (type.name = type'.name ∧ type.kind = type'.kind ∧
      (type.fields.map Field.unplaced).Perm (type'.fields.map Field.unplaced) ∧
      (type.interfaces.map (·.name)).Perm (type'.interfaces.map (·.name)) ∧
      (type.members.map (·.name)).Perm (type'.members.map (·.name)))
    ⟨fun ⟨name, kind, fields, interfaces, members⟩ => ⟨name, kind, fields, interfaces, members⟩,
      fun h => ⟨h.name, h.kind, h.fields, h.interfaces, h.members⟩⟩

theorem GraphType.Shuffled.agrees {type type' : GraphType} (h : type.Shuffled type') :
    type.Agrees type' where
  name := h.name
  kind := h.kind
  fields _ := h.fields.mem_iff
  members _ := h.members.mem_iff

theorem GraphType.Shuffled.implements_eq {type type' : GraphType} (h : type.Shuffled type')
    (interface : String) : type.implements interface = type'.implements interface := by
  rw [Bool.eq_iff_iff, implements, implements]
  have hmem := h.interfaces.mem_iff (a := interface)
  simpa [List.any_eq_true] using hmem

/-- Two graphs have the same root types, and their types differ in order and as shuffled types do.
-/
structure Graph.Shuffled (graph graph' : Graph) : Prop where
  types : PermUpTo GraphType.Shuffled graph.types graph'.types
  roots : ∀ operation, graph.rootName? operation = graph'.rootName? operation

/-- A name finds the same field but for places, since no two fields share a name. -/
theorem GraphType.Shuffled.optionRel_field {type type' : GraphType} (h : type.Shuffled type')
    (hnames : (type.fields.map (·.name)).Nodup) (name : String) :
    Option.Rel (fun field field' => field.unplaced = field'.unplaced)
      (type.fields.find? (·.name == name)) (type'.fields.find? (·.name == name)) := by
  have hunplaced : ((type.fields.map Field.unplaced).map (·.name)).Nodup := by
    rwa [List.map_map]
  have hfind := find?_perm h.fields hunplaced name
  rw [List.find?_map, List.find?_map] at hfind
  change (type.fields.find? (·.name == name)).map Field.unplaced =
    (type'.fields.find? (·.name == name)).map Field.unplaced at hfind
  cases hfirst : type.fields.find? (·.name == name) with
  | none =>
      rw [hfirst, Option.map_none, eq_comm, Option.map_eq_none_iff] at hfind
      rw [hfind]
      exact .none
  | some field =>
      rw [hfirst, Option.map_some, eq_comm, Option.map_eq_some_iff] at hfind
      obtain ⟨field', hsecond, heq⟩ := hfind
      rw [hsecond]
      exact .some heq.symm

theorem Graph.Shuffled.agrees {graph graph' : Graph} (h : graph.Shuffled graph')
    (hnames : (graph.types.map (·.name)).Nodup)
    (hfields : ∀ type ∈ graph.types, (type.fields.map (·.name)).Nodup) :
    graph.Agrees graph' := by
  have htypes (name : String) :
      Option.Rel GraphType.Shuffled (graph.type? name) (graph'.type? name) :=
    h.types.optionRel_find? hnames (fun _ _ hshuffled => hshuffled.name) name
  constructor
  case types =>
    intro name
    exact optionRel_mono (fun _ _ hshuffled => hshuffled.agrees) (htypes name)
  case fields =>
    rintro ⟨typeName, fieldName⟩
    cases hfind : graph.type? typeName with
    | none =>
        have hfind' := eq_none_of_optionRel (htypes typeName) hfind
        simp only [field?, hfind, hfind']
        exact .none
    | some type =>
        obtain ⟨type', hfind', hshuffled⟩ := exists_of_optionRel (htypes typeName) hfind
        have hcomposite : type.isComposite = type'.isComposite := by
          rw [GraphType.isComposite, GraphType.isComposite, hshuffled.kind]
        simp only [field?, hfind, hfind', ← hcomposite]
        split
        · exact hshuffled.optionRel_field (hfields type (mem_of_findType? hfind)) fieldName
        · exact .none
  case implementations =>
    intro interface name
    have hkeeps (type type' : GraphType) (hshuffled : type.Shuffled type') :
        (type.kind == .object && type.implements interface) =
          (type'.kind == .object && type'.implements interface) := by
      rw [hshuffled.kind, hshuffled.implements_eq]
    exact (h.types.map_filter hkeeps fun _ _ hshuffled => hshuffled.name).mem_iff
  case roots => exact h.roots

theorem fieldNames_nodup_of_ofDocuments {documents : List (Option String × Sdl.Document)}
    {graph : Graph} (h : Graph.ofDocuments documents = .ok graph) :
    ∀ type ∈ graph.types, (type.fields.map (·.name)).Nodup := by
  obtain ⟨roots, hloaded, -, -⟩ := ofDocuments_eq_ok_iff.1 h
  intro type hmem
  exact GraphType.names_fields_nodup (hloaded.partNames_nodup hmem)

end Schema

namespace Host

/-- Two host types differ in the order of members and implemented types alone. -/
structure HostType.Shuffled (host host' : HostType) : Prop where
  path : host.path = host'.path
  kind : host.kind = host'.kind
  members : host.members.Perm host'.members
  implements : host.implements.Perm host'.implements
  permits : host.permits = host'.permits

instance (host host' : HostType) : Decidable (host.Shuffled host') :=
  decidable_of_iff
    (host.path = host'.path ∧ host.kind = host'.kind ∧ host.members.Perm host'.members ∧
      host.implements.Perm host'.implements ∧ host.permits = host'.permits)
    ⟨fun ⟨path, kind, members, implements, permits⟩ => ⟨path, kind, members, implements, permits⟩,
      fun h => ⟨h.path, h.kind, h.members, h.implements, h.permits⟩⟩

theorem HostType.Shuffled.agrees {host host' : HostType} (h : host.Shuffled host')
    (hmembers : host.members.keys.Nodup) : host.Agrees host' where
  path := h.path
  kind := h.kind
  permits := h.permits
  members name := Assoc.find?_perm h.members hmembers name
  implements _ := h.implements.mem_iff

/-- Two registries differ in the order of registration and as shuffled host types do. -/
def Registry.Shuffled (registry registry' : Registry) : Prop :=
  PermUpTo HostType.Shuffled registry.types registry'.types

theorem Registry.Shuffled.agrees {registry registry' : Registry}
    (h : registry.Shuffled registry') (hpaths : registry.paths.Nodup)
    (hmembers : ∀ host ∈ registry.types, host.members.keys.Nodup) :
    registry.Agrees registry' := by
  intro path
  have hshuffled : Option.Rel HostType.Shuffled (registry.get? path) (registry'.get? path) :=
    PermUpTo.optionRel_find? h hpaths (fun _ _ hhost => hhost.path) path
  cases hget : registry.get? path with
  | none =>
      rw [eq_none_of_optionRel hshuffled hget]
      exact .none
  | some host =>
      obtain ⟨host', hget', hhost⟩ := exists_of_optionRel hshuffled hget
      rw [hget']
      exact .some (hhost.agrees (hmembers host (mem_of_get? hget)))

end Host

namespace Controller.Registry

open Schema

variable {graph : Graph}

/-- Registrations of different coordinates are all taken, in order. -/
theorem byCoordinate_of_nodup {registry : Registry}
    (h : (registry.mappings.map fun mapping => mapping.1.coordinate graph).Nodup) :
    (registry.byCoordinate graph).1 =
      registry.mappings.map fun mapping => (mapping.1.coordinate graph, mapping.2) := by
  apply Assoc.eq_of_keys_eq (keys_byCoordinate_nodup registry graph)
  · rw [keys_byCoordinate, eraseDups_of_nodup h, Assoc.keys, List.map_map]
    rfl
  · intro coordinate
    rw [find?_byCoordinate, Assoc.find?_eq_find?_list, List.find?_map, Option.map_map]
    rfl

end Controller.Registry

namespace Inspection

open Schema Host Candidates

namespace Inspector

variable {inspector : Inspector} {controllers controllers' : Controller.Registry}
  {hosts hosts' : Registry} {graph graph' : Graph}

/-- Inputs that are listed in another order agree in all look-ups of an inspection. -/
theorem setting_agrees (hplain : inspector.resolver.Plain) (hgraph : graph.Agrees graph')
    (hhosts : hosts.Agrees hosts') (hcontrollers : controllers.mappings.Perm controllers'.mappings)
    (hcoordinates : (controllers.mappings.map fun mapping =>
      mapping.1.coordinate graph).Nodup) :
    (inspector.setting graph controllers hosts).Agrees
      (inspector.setting graph' controllers' hosts') := by
  have hcoordinate (target : Controller.Target) :
      target.coordinate graph = target.coordinate graph' := by
    cases target with
    | field place => rfl
    | operation kind name =>
        rw [Controller.Target.coordinate, Controller.Target.coordinate, hgraph.roots]
  have hcoordinates' : (controllers'.mappings.map fun mapping =>
      mapping.1.coordinate graph').Nodup := by
    simp only [← hcoordinate]
    exact (hcontrollers.map _).nodup_iff.1 hcoordinates
  have hmethods : (controllers.byCoordinate graph).1.Perm (controllers'.byCoordinate graph').1 := by
    rw [Controller.Registry.byCoordinate_of_nodup hcoordinates,
      Controller.Registry.byCoordinate_of_nodup hcoordinates']
    simp only [← hcoordinate]
    exact hcontrollers.map _
  have hkeys : (controllers.byCoordinate graph).1.keys.Nodup := by
    rw [Controller.Registry.byCoordinate_of_nodup hcoordinates, Assoc.keys, List.map_map]
    exact hcoordinates
  constructor
  case graph => exact hgraph
  case registry => exact hhosts
  case methods =>
    intro coordinate method
    exact hmethods.mem_iff
  case found => exact Assoc.find?_perm hmethods hkeys
  case policy => rfl
  case wrappers => rfl
  case candidates =>
    intro type declared declared' hdeclared
    exact congrArg (Option.getD · [])
      (hplain.resolve_congr hhosts.contains_eq hdeclared.path hdeclared.permits type)

/-- Inputs that are listed in another order fail alike, or their reports have the same findings. -/
theorem sameFindings_of_shuffled {documents : List (Option String × Sdl.Document)}
    {types : List HostType} (hbuilt : Graph.ofDocuments documents = .ok graph)
    (hregistered : Registry.ofTypes types = .ok hosts)
    (hmembers : ∀ host ∈ hosts.types, host.members.keys.Nodup)
    (hplain : inspector.resolver.Plain)
    (hcoordinates : (controllers.mappings.map fun mapping => mapping.1.coordinate graph).Nodup)
    (hgraph : graph.Shuffled graph') (hhosts : hosts.Shuffled hosts')
    (hcontrollers : controllers.mappings.Perm controllers'.mappings) :
    (∀ error, inspector.inspect graph controllers hosts = .error error ↔
        inspector.inspect graph' controllers' hosts' = .error error) ∧
      ∀ outcome outcome', inspector.inspect graph controllers hosts = .ok outcome →
        inspector.inspect graph' controllers' hosts' = .ok outcome' →
        outcome.report.SameFindings outcome'.report := by
  have hgraphs : graph.Agrees graph' :=
    hgraph.agrees (names_nodup_of_ofDocuments hbuilt) (fieldNames_nodup_of_ofDocuments hbuilt)
  have hregistries : hosts.Agrees hosts' :=
    hhosts.agrees (paths_nodup_of_ofTypes hregistered) hmembers
  constructor
  · intro error
    have hcheck := hplain.check_congr hgraphs.hasType_eq hregistries.contains_eq
    unfold inspect
    rw [hcheck]
    cases inspector.resolver.check graph' hosts' <;> simp
  · intro outcome outcome' hinspected hinspected'
    rw [report_of_inspect hinspected, report_of_inspect hinspected']
    exact (setting_agrees hplain hgraphs hregistries hcontrollers hcoordinates).sameFindings

end Inspector

/-- The definitions `type Query { pet: Pet cat: Cat }`, `union Pet = Cat | Dog`,
`type Cat { name: String age: Int }` and `type Dog { name: String }`. -/
def kennel : List Sdl.TypeDef :=
  [⟨"Query", .object [] [⟨"pet", [], .named "Pet" false, ⟨1, 14⟩⟩,
      ⟨"cat", [], .named "Cat" false, ⟨1, 23⟩⟩], ⟨1, 1⟩⟩,
    ⟨"Pet", .union ["Cat", "Dog"], ⟨2, 1⟩⟩,
    ⟨"Cat", .object [] [⟨"name", [], .named "String" false, ⟨3, 12⟩⟩,
      ⟨"age", [], .named "Int" false, ⟨3, 25⟩⟩], ⟨3, 1⟩⟩,
    ⟨"Dog", .object [] [⟨"name", [], .named "String" false, ⟨4, 12⟩⟩], ⟨4, 1⟩⟩]

/-- The same from last to first, and so are the fields and the members. -/
def turnedKennel : List Sdl.TypeDef :=
  [⟨"Dog", .object [] [⟨"name", [], .named "String" false, ⟨1, 12⟩⟩], ⟨1, 1⟩⟩,
    ⟨"Cat", .object [] [⟨"age", [], .named "Int" false, ⟨2, 12⟩⟩,
      ⟨"name", [], .named "String" false, ⟨2, 21⟩⟩], ⟨2, 1⟩⟩,
    ⟨"Pet", .union ["Dog", "Cat"], ⟨3, 1⟩⟩,
    ⟨"Query", .object [] [⟨"cat", [], .named "Cat" false, ⟨4, 14⟩⟩,
      ⟨"pet", [], .named "Pet" false, ⟨4, 23⟩⟩], ⟨4, 1⟩⟩]

/-- The graph of such definitions. -/
def kennelGraph (definitions : List Sdl.TypeDef) : Graph :=
  ⟨builtinTypes ++ definitions.map (GraphType.ofDef none), "Query", none, none⟩

/-- Cats are pets and animals, and have a name and some other member. -/
def kennelHosts : Registry :=
  ⟨[⟨"app::Pet", .abstract, [], [], ["app::Cat"]⟩,
    ⟨"app::Cat", .concrete, [("name", .unnamed), ("tail", .unnamed)],
      ["app::Pet", "app::Animal"], []⟩]⟩

def turnedKennelHosts : Registry :=
  ⟨[⟨"app::Cat", .concrete, [("tail", .unnamed), ("name", .unnamed)],
      ["app::Animal", "app::Pet"], []⟩,
    ⟨"app::Pet", .abstract, [], [], ["app::Cat"]⟩]⟩

def kennelControllers : Controller.Registry :=
  ⟨[(.operation .query "pet", ⟨"Pets", "pet", .named "app::Pet" [], []⟩),
    (.operation .query "cat", ⟨"Pets", "cat", .named "app::Cat" [], []⟩)]⟩

def turnedKennelControllers : Controller.Registry :=
  ⟨kennelControllers.mappings.reverse⟩

theorem standard_plain : Options.standard.inspector.resolver.Plain := by
  apply Resolver.Plain.chain
  intro resolver hmem
  obtain rfl := List.mem_singleton.1 hmem
  exact .convention _

theorem kennelGraph_shuffled : (kennelGraph kennel).Shuffled (kennelGraph turnedKennel) := by
  refine ⟨⟨builtinTypes ++ kennel.reverse.map (GraphType.ofDef none), ?_, ?_⟩, fun _ => rfl⟩
  · decide +kernel
  · decide +kernel

theorem kennelHosts_shuffled : kennelHosts.Shuffled turnedKennelHosts := by
  refine ⟨kennelHosts.types.reverse, ?_, ?_⟩
  · exact (List.reverse_perm _).symm
  · decide +kernel

namespace Inspector

theorem kennel_sameFindings :
    ∃ outcome outcome',
      Graph.ofDocuments [(none, kennel.map .type)] = .ok (kennelGraph kennel) ∧
      (kennelGraph kennel).Shuffled (kennelGraph turnedKennel) ∧
      kennelHosts.Shuffled turnedKennelHosts ∧
      Options.standard.inspector.inspect (kennelGraph kennel) kennelControllers kennelHosts =
        .ok outcome ∧
      Options.standard.inspector.inspect (kennelGraph turnedKennel) turnedKennelControllers
        turnedKennelHosts = .ok outcome' ∧
      outcome.report.SameFindings outcome'.report := by
  have hbuilt : Graph.ofDocuments [(none, kennel.map .type)] = .ok (kennelGraph kennel) := by
    decide +kernel
  have hregistered : Registry.ofTypes kennelHosts.types = .ok kennelHosts := by
    decide +kernel
  have hmembers : ∀ host ∈ kennelHosts.types, host.members.keys.Nodup := by
    decide
  have hcoordinates : (kennelControllers.mappings.map fun mapping =>
      mapping.1.coordinate (kennelGraph kennel)).Nodup := by
    decide +kernel
  have hcontrollers : kennelControllers.mappings.Perm turnedKennelControllers.mappings :=
    (List.reverse_perm _).symm
  refine ⟨_, _, hbuilt, kennelGraph_shuffled, kennelHosts_shuffled, rfl, rfl, ?_⟩
  exact (sameFindings_of_shuffled hbuilt hregistered hmembers standard_plain hcoordinates
    kennelGraph_shuffled kennelHosts_shuffled hcontrollers).2 _ _ rfl rfl

end Inspector

end Inspection

end SchemaCoverage
