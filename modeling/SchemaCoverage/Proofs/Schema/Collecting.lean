import SchemaCoverage.Proofs.Schema.Outcome
/-!
What is said of bad references. Each type refers to others in an order of its own; every reference
that leads to no type, or to a type of a wrong kind, is told by one error, and nothing else is told.
-/
namespace SchemaCoverage.Schema

/-- What a type refers to another for: as an interface that it implements, as a member of a union,
as the type of a field or of an argument, or as the type of an input field. -/
inductive Role
  | interface
  | member
  | output (field : String)
  | argument
  | input
deriving Repr, DecidableEq

/-- The kinds of type that may be referred to for this. -/
def Role.allows : Role → Kind → Bool
  | .interface, kind => kind == .interface
  | .member, kind => kind == .object
  | .output _, kind => kind != .inputObject
  | .argument, _ | .input, _ => true

/-- A place where a type mentions another. -/
structure Reference where
  parent : String
  role : Role
  mention : Mention
deriving Repr, DecidableEq

/-- The name inside the type of a field or argument, at the place where it stands. -/
def FieldType.mention (type : FieldType) : Mention :=
  ⟨type.innermost, type.location⟩

/-- A field of an object or interface type refers to its own type and then to those of its
arguments. -/
def Field.references (parent : String) (field : Field) : List Reference :=
  ⟨parent, .output field.name, field.type.mention⟩ ::
    field.arguments.map fun argument => ⟨parent, .argument, argument.2.mention⟩

/-- What a type refers to, in order. -/
def GraphType.references (type : GraphType) : List Reference :=
  match type.content with
  | .object interfaces fields | .interface interfaces fields =>
      interfaces.map (⟨type.name, .interface, ·⟩) ++ fields.flatMap (·.references type.name)
  | .union members => members.map (⟨type.name, .member, ·⟩)
  | .input fields => fields.map fun field => ⟨type.name, .input, field.type.mention⟩
  | .scalar | .enum _ => []

/-- What the types refer to, in order. -/
def references (types : List GraphType) : List Reference :=
  types.flatMap GraphType.references

/-- A type of the name is there. -/
def Defined (types : List GraphType) (name : String) : Prop :=
  ∃ type ∈ types, type.name = name

/-- A type of the name is there, and it may be referred to for this. -/
def Reference.Good (types : List GraphType) (reference : Reference) : Prop :=
  ∃ type ∈ types, type.name = reference.mention.name ∧ reference.role.allows type.kind = true

instance (types : List GraphType) (reference : Reference) : Decidable (reference.Good types) :=
  inferInstanceAs (Decidable (∃ type ∈ types, _ ∧ _))

/-- The error that tells a bad reference. It says that there is no such type or that the type is of
a wrong kind, and it has the name and the place of the reference. -/
inductive Fault (types : List GraphType) : Reference → ReferenceError → Prop
  | implementsUndefined {parent : String} {mention : Mention}
      (h : ¬Defined types mention.name) :
      Fault types ⟨parent, .interface, mention⟩
        (.implementsUndefined parent mention.name mention.location)
  | implementsNonInterface {parent : String} {mention : Mention} {type : GraphType}
      (hmem : type ∈ types) (hname : type.name = mention.name) (hkind : type.kind ≠ .interface) :
      Fault types ⟨parent, .interface, mention⟩
        (.implementsNonInterface parent mention.name mention.location)
  | memberNotObject {parent : String} {mention : Mention} {type : GraphType}
      (hmem : type ∈ types) (hname : type.name = mention.name) (hkind : type.kind ≠ .object) :
      Fault types ⟨parent, .member, mention⟩
        (.memberNotObject parent mention.name mention.location)
  | outputOfInputType {parent field : String} {mention : Mention} {type : GraphType}
      (hmem : type ∈ types) (hname : type.name = mention.name) (hkind : type.kind = .inputObject) :
      Fault types ⟨parent, .output field, mention⟩
        (.outputOfInputType parent field mention.name mention.location)
  | undefinedType {parent : String} {role : Role} {mention : Mention} (hrole : role ≠ .interface)
      (h : ¬Defined types mention.name) :
      Fault types ⟨parent, role, mention⟩ (.undefinedType mention.name mention.location)

/-- The errors tell the bad ones among the references: one error for each of them, in their order,
and none besides. -/
def Told (types : List GraphType) (references : List Reference) (errors : List ReferenceError) :
    Prop :=
  List.Forall₂ (Fault types) (references.filter fun reference => ¬reference.Good types) errors

section Fault

variable {types : List GraphType} {reference : Reference} {error : ReferenceError}

theorem kindOf?_eq_none_iff {name : String} : kindOf? types name = none ↔ ¬Defined types name := by
  simp [kindOf?, findType?, Defined]

/-- A reference is good just if the type that its name finds is of an allowed kind. -/
theorem good_iff (hnames : (types.map (·.name)).Nodup) :
    reference.Good types ↔
      ∃ kind, kindOf? types reference.mention.name = some kind ∧
        reference.role.allows kind = true := by
  simp only [kindOf?_eq_some_iff hnames]
  constructor
  · rintro ⟨type, hmem, hname, hallowed⟩
    exact ⟨type.kind, ⟨type, hmem, hname, rfl⟩, hallowed⟩
  · rintro ⟨_, ⟨type, hmem, hname, rfl⟩, hallowed⟩
    exact ⟨type, hmem, hname, hallowed⟩

/-- Only a bad reference has an error that tells it. -/
theorem Fault.not_good (hnames : (types.map (·.name)).Nodup) (h : Fault types reference error) :
    ¬reference.Good types := by
  rintro ⟨type, hmem, hname, hallowed⟩
  cases h with
  | implementsUndefined h => exact h ⟨type, hmem, hname⟩
  | undefinedType hrole h => exact h ⟨type, hmem, hname⟩
  | implementsNonInterface hmem' hname' hkind
  | memberNotObject hmem' hname' hkind
  | outputOfInputType hmem' hname' hkind =>
      obtain rfl := eq_of_name_eq hnames hmem hmem' (hname.trans hname'.symm)
      simp [Role.allows, hkind] at hallowed

/-- Only one error tells a reference. -/
theorem Fault.unique {other : ReferenceError} (h : Fault types reference error)
    (h' : Fault types reference other) : error = other := by
  cases h with
  | implementsUndefined hundefined =>
      cases h' with
      | implementsUndefined => rfl
      | implementsNonInterface hmem hname => exact absurd ⟨_, hmem, hname⟩ hundefined
      | undefinedType hrole => exact absurd rfl hrole
  | implementsNonInterface hmem hname hkind =>
      cases h' with
      | implementsUndefined hundefined => exact absurd ⟨_, hmem, hname⟩ hundefined
      | implementsNonInterface => rfl
      | undefinedType hrole => exact absurd rfl hrole
  | memberNotObject hmem hname =>
      cases h' with
      | memberNotObject => rfl
      | undefinedType hrole hundefined => exact absurd ⟨_, hmem, hname⟩ hundefined
  | outputOfInputType hmem hname =>
      cases h' with
      | outputOfInputType => rfl
      | undefinedType hrole hundefined => exact absurd ⟨_, hmem, hname⟩ hundefined
  | undefinedType hrole hundefined =>
      cases h' with
      | implementsUndefined => exact absurd rfl hrole
      | implementsNonInterface => exact absurd rfl hrole
      | memberNotObject hmem hname => exact absurd ⟨_, hmem, hname⟩ hundefined
      | outputOfInputType hmem hname => exact absurd ⟨_, hmem, hname⟩ hundefined
      | undefinedType => rfl

end Fault

section Told

variable {types : List GraphType}

theorem Told.append {first second : List Reference} {errors more : List ReferenceError}
    (h : Told types first errors) (h' : Told types second more) :
    Told types (first ++ second) (errors ++ more) := by
  rw [Told, List.filter_append]
  exact List.rel_append h h'

theorem told_flatMap {α : Type} {items : List α} {refs : α → List Reference}
    {errors : α → List ReferenceError} (h : ∀ item ∈ items, Told types (refs item) (errors item)) :
    Told types (items.flatMap refs) (items.flatMap errors) := by
  induction items with
  | nil => exact .nil
  | cons first rest ih =>
      have hrest := ih fun item hmem => h item (List.mem_cons_of_mem _ hmem)
      exact (h first List.mem_cons_self).append hrest

theorem told_map {α : Type} {items : List α} {refer : α → Reference}
    {errors : α → List ReferenceError} (h : ∀ item ∈ items, Told types [refer item] (errors item)) :
    Told types (items.map refer) (items.flatMap errors) := by
  rw [List.map_eq_flatMap]
  exact told_flatMap h

theorem told_of_good {reference : Reference} (h : reference.Good types) :
    Told types [reference] [] := by
  simp [Told, h]

theorem told_of_fault (hnames : (types.map (·.name)).Nodup) {reference : Reference}
    {error : ReferenceError} (h : Fault types reference error) : Told types [reference] [error] := by
  simp [Told, h.not_good hnames, h]

/-- The errors that tell the bad ones among some references are determined by these. -/
theorem Told.unique {references : List Reference} {errors errors' : List ReferenceError}
    (h : Told types references errors) (h' : Told types references errors') : errors = errors' := by
  unfold Told at h h'
  generalize references.filter _ = bad at h h'
  induction h generalizing errors' with
  | nil =>
      cases h'
      rfl
  | cons hfault _ ih =>
      cases h' with
      | cons hfault' hrest => rw [hfault.unique hfault', ih hrest]

theorem Told.eq_nil_iff {references : List Reference} {errors : List ReferenceError}
    (h : Told types references errors) :
    errors = [] ↔ ∀ reference ∈ references, reference.Good types := by
  have hlength := List.Forall₂.length_eq h
  rw [← List.length_eq_zero_iff, ← hlength, List.length_eq_zero_iff, List.filter_eq_nil_iff]
  simp

theorem Told.ne_nil_iff {references : List Reference} {errors : List ReferenceError}
    (h : Told types references errors) :
    errors ≠ [] ↔ ∃ reference ∈ references, ¬reference.Good types := by
  rw [Ne, h.eq_nil_iff]
  simp only [not_forall, exists_prop]

variable (hnames : (types.map (·.name)).Nodup)

include hnames

theorem told_undefinedErrors {parent : String} {role : Role} {mention : Mention}
    (hrole : role ≠ .interface) (hall : ∀ kind, role.allows kind = true) :
    Told types [⟨parent, role, mention⟩]
      (undefinedErrors types mention.name mention.location) := by
  unfold undefinedErrors
  split
  · next hfound =>
      obtain ⟨kind, hkind⟩ := exists_has_iff.2 hfound
      exact told_of_good ((good_iff hnames).2 ⟨kind, hkind, hall kind⟩)
  · next hmissing =>
      have hundefined : ¬Defined types mention.name := by
        rw [← kindOf?_eq_none_iff]
        simpa [kindOf?] using hmissing
      exact told_of_fault hnames (.undefinedType hrole hundefined)

theorem told_interfaceErrors {parent : String} {mention : Mention} :
    Told types [⟨parent, .interface, mention⟩] (interfaceErrors types parent mention) := by
  unfold interfaceErrors
  split
  · next hkind => exact told_of_good ((good_iff hnames).2 ⟨_, hkind, rfl⟩)
  · next kind hother hkind =>
      obtain ⟨type, hmem, hname, rfl⟩ := (kindOf?_eq_some_iff hnames).1 hkind
      exact told_of_fault hnames (.implementsNonInterface hmem hname hother)
  · next hnone =>
      exact told_of_fault hnames (.implementsUndefined (kindOf?_eq_none_iff.1 hnone))

theorem told_memberErrors {parent : String} {mention : Mention} :
    Told types [⟨parent, .member, mention⟩] (memberErrors types parent mention) := by
  unfold memberErrors
  split
  · next hkind => exact told_of_good ((good_iff hnames).2 ⟨_, hkind, rfl⟩)
  · next kind hother hkind =>
      obtain ⟨type, hmem, hname, rfl⟩ := (kindOf?_eq_some_iff hnames).1 hkind
      exact told_of_fault hnames (.memberNotObject hmem hname hother)
  · next hnone =>
      exact told_of_fault hnames (.undefinedType nofun (kindOf?_eq_none_iff.1 hnone))

/-- Of a field its own type comes first. The error for an input type has the place of the field,
which is that of its type. -/
theorem told_fieldErrors {parent : String} {field : Field}
    (hlocation : field.type.location = field.location) :
    Told types (field.references parent) (fieldErrors types parent field) := by
  unfold Field.references fieldErrors
  rw [← List.singleton_append]
  apply Told.append
  · split
    · next hkind =>
        obtain ⟨type, hmem, hname, hkind⟩ := (kindOf?_eq_some_iff hnames).1 hkind
        rw [← hlocation]
        exact told_of_fault hnames (.outputOfInputType hmem hname hkind)
    · next kind hother hkind =>
        have hallowed : (Role.output field.name).allows kind = true := by
          simpa [Role.allows] using hother
        exact told_of_good ((good_iff hnames).2 ⟨kind, hkind, hallowed⟩)
    · next hnone =>
        exact told_of_fault hnames (.undefinedType nofun (kindOf?_eq_none_iff.1 hnone))
  · apply told_map
    intro argument _
    exact told_undefinedErrors hnames nofun fun _ => rfl

theorem told_typeErrors {type : GraphType}
    (hlocations : ∀ field ∈ type.fields, field.type.location = field.location) :
    Told types type.references (typeErrors types type) := by
  obtain ⟨name, content, location⟩ := type
  have hcomposite (interfaces : List Mention) {fields : List Field}
      (hfields : ∀ field ∈ fields, field.type.location = field.location) :
      Told types
        (interfaces.map (⟨name, .interface, ·⟩) ++ fields.flatMap (·.references name))
        (interfaces.flatMap (interfaceErrors types name) ++
          fields.flatMap (fieldErrors types name)) := by
    apply Told.append
    · exact told_map fun _ _ => told_interfaceErrors hnames
    · exact told_flatMap fun field hmem => told_fieldErrors hnames (hfields field hmem)
  cases content with
  | scalar => exact .nil
  | enum values => exact .nil
  | object interfaces fields => exact hcomposite interfaces hlocations
  | interface interfaces fields => exact hcomposite interfaces hlocations
  | union members => exact told_map fun _ _ => told_memberErrors hnames
  | input fields => exact told_map fun _ _ => told_undefinedErrors hnames nofun fun _ => rfl

theorem told_referenceErrors
    (hlocations : ∀ type ∈ types, ∀ field ∈ type.fields, field.type.location = field.location) :
    Told types (references types) (referenceErrors types) :=
  told_flatMap fun type hmem => told_typeErrors hnames (hlocations type hmem)

end Told

theorem Passage.location_of_mem_fields {parent : String} {passage : Passage} {field : Field}
    (h : field ∈ passage.fields parent) : field.type.location = field.location := by
  obtain ⟨file, ⟨name, body, position⟩⟩ := passage
  cases body <;> simp only [Passage.fields, List.mem_map, List.not_mem_nil] at h
  all_goals
    obtain ⟨written, -, rfl⟩ := h
    exact FieldType.location_ofExpr _ _

/-- The type of a field stands at the place of the field, wherever the field was written. -/
theorem Loaded.location_of_mem_fields {definitions : List Placed} {types : List GraphType}
    {roots : DeclaredRoots} (h : Loaded .empty definitions types roots) {type : GraphType}
    (hmem : type ∈ types) : ∀ field ∈ type.fields, field.type.location = field.location := by
  rcases h.builtin_or_extended hmem with
    hbuiltin | ⟨file, definition, extensions', hplaced, hperm, rfl⟩
  · obtain ⟨name, -, rfl⟩ := List.mem_map.1 hbuiltin
    exact nofun
  · have hkinds : ∀ extension ∈ extensions',
        extension.kind = (GraphType.ofDef file definition).kind :=
      fun _ hextension => h.kind_of_mem_ofType hplaced (hperm.mem_iff.1 hextension)
    have hnames : ∀ extension ∈ extensions',
        extension.addition.name = (GraphType.ofDef file definition).name :=
      fun _ hextension => (mem_ofType.1 (hperm.mem_iff.1 hextension)).2
    rw [GraphType.fields_extended hkinds hnames, GraphType.fields_ofDef]
    intro field hfield
    rcases List.mem_append.1 hfield with hown | hadded
    · exact Passage.location_of_mem_fields hown
    · obtain ⟨passage, -, hin⟩ := List.mem_flatMap.1 hadded
      exact Passage.location_of_mem_fields hin

/-- Whatever types documents come to, the errors tell the bad references among them. Where the root
types are found, the graph comes out if there is none, and else just these errors do. -/
theorem told_of_addDocuments {documents : List (Option String × Sdl.Document)} {builder : Builder}
    {types : List GraphType} (hload : Builder.empty.addDocuments documents = .ok builder)
    (htypes : builder.extendedTypes = .ok types) :
    Told types (references types) (referenceErrors types) ∧
      ∀ graph : Graph, graph.types = types → graph.RootedBy builder.roots →
        (builder.build = .ok graph ↔
          ∀ reference ∈ references types, reference.Good types) ∧
        ∀ errors, builder.build = .error (.badReferences errors) ↔
          (∃ reference ∈ references types, ¬reference.Good types) ∧
            Told types (references types) errors := by
  rw [Builder.addDocuments_eq] at hload
  have hloaded : Loaded .empty (placed documents) types builder.roots :=
    (loaded_iff Builder.distinct_empty).2 ⟨builder, hload, htypes, rfl⟩
  have htold : Told types (references types) (referenceErrors types) :=
    told_referenceErrors hloaded.names_nodup fun _ => hloaded.location_of_mem_fields
  refine ⟨htold, ?_⟩
  rintro graph rfl hroots
  rw [Builder.build_eq_of_rootedBy htypes hroots]
  constructor
  · rw [← htold.eq_nil_iff]
    split <;> simp_all
  · intro errors
    rw [← htold.ne_nil_iff]
    constructor
    · intro h
      split at h
      · cases h
      · next hne =>
          cases h
          exact ⟨hne, htold⟩
    · rintro ⟨hne, herrors⟩
      rw [if_neg hne, htold.unique herrors]

/-- References to types that are not there or are of a wrong kind, in types of every kind that has
references, in a definition and in an extension that comes before its type. -/
def brokenShelf : List (Option String × Sdl.Document) :=
  [(some "early",
    [.extension ⟨"Query", .object ["Missing", "Query"]
      [⟨"late", [⟨"from", .named "Nowhere" true, ⟨1, 40⟩⟩], .list (.named "By" true) false,
        ⟨1, 30⟩⟩], ⟨1, 1⟩⟩]),
    (none,
      [.type ⟨"Query", .object ["Named"]
          [⟨"all", [⟨"by", .named "By" false, ⟨1, 30⟩⟩, ⟨"to", .named "Gone" false, ⟨1, 40⟩⟩],
            .list (.named "Lost" false) true, ⟨1, 20⟩⟩], ⟨1, 1⟩⟩,
        .type ⟨"Named", .interface ["Any"] [⟨"name", [], .named "ID" true, ⟨2, 20⟩⟩], ⟨2, 1⟩⟩,
        .type ⟨"Any", .union ["Named", "Query", "Nothing"], ⟨3, 1⟩⟩,
        .type ⟨"By", .input [⟨"by", .named "By" false, ⟨4, 12⟩⟩, ⟨"up", .named "Up" true, ⟨4, 20⟩⟩],
          ⟨4, 1⟩⟩])]

/-- The errors that tell the bad references there. -/
def brokenShelfErrors : List ReferenceError :=
  [.implementsUndefined "Query" "Missing" (.source (some "early") ⟨1, 1⟩),
    .implementsNonInterface "Query" "Query" (.source (some "early") ⟨1, 1⟩),
    .undefinedType "Lost" (.source none ⟨1, 20⟩),
    .undefinedType "Gone" (.source none ⟨1, 40⟩),
    .outputOfInputType "Query" "late" "By" (.source (some "early") ⟨1, 30⟩),
    .undefinedType "Nowhere" (.source (some "early") ⟨1, 40⟩),
    .implementsNonInterface "Named" "Any" (.source none ⟨2, 1⟩),
    .memberNotObject "Any" "Named" (.source none ⟨3, 1⟩),
    .undefinedType "Nothing" (.source none ⟨3, 1⟩),
    .undefinedType "Up" (.source none ⟨4, 20⟩)]

theorem brokenShelf_told :
    ∃ builder types, Builder.empty.addDocuments brokenShelf = .ok builder ∧
      builder.extendedTypes = .ok types ∧ Told types (references types) brokenShelfErrors ∧
      builder.build = .error (.badReferences brokenShelfErrors) := by
  have houtcome : (do
      let builder ← Builder.empty.addDocuments brokenShelf
      let types ← builder.extendedTypes
      let query ← Builder.rootName types .query builder.roots.query
      let mutation ← Builder.rootName types .mutation builder.roots.mutation
      let subscription ← Builder.rootName types .subscription builder.roots.subscription
      return (referenceErrors types, query, mutation, subscription)) =
        Except.ok (brokenShelfErrors, some "Query", none, none) := by
    decide +kernel
  simp only [bind_eq_ok_iff] at houtcome
  obtain ⟨builder, hload, types, htypes, query, hquery, mutation, hmutation, subscription,
    hsubscription, hend⟩ := houtcome
  obtain ⟨herrors, rfl, rfl, rfl⟩ : referenceErrors types = brokenShelfErrors ∧
      query = some "Query" ∧ mutation = none ∧ subscription = none := by
    simpa using Except.ok.inj hend
  have hroots : (⟨types, "Query", none, none⟩ : Graph).RootedBy builder.roots := by
    intro operation
    cases operation
    · exact hquery
    · exact hmutation
    · exact hsubscription
  obtain ⟨htold, hbuild⟩ := told_of_addDocuments hload htypes
  rw [herrors] at htold
  have hbad := htold.ne_nil_iff.1 (by decide)
  exact ⟨builder, types, hload, htypes, htold, ((hbuild _ rfl hroots).2 _).2 ⟨hbad, htold⟩⟩

end SchemaCoverage.Schema
