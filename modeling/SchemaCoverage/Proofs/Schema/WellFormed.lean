import SchemaCoverage.Proofs.Schema.Acceptance
/-!
Well-formed graphs. In a graph that was built every type and every field is found under its own
name, and every reference leads to a type that may stand there, so that look-ups in it need no
further checks.
-/
namespace SchemaCoverage.Schema

namespace GraphType

/-- All fields name the type as their parent, input fields have no arguments, and no interface is
listed twice. -/
structure Tidy (type : GraphType) : Prop where
  parents : ∀ field ∈ type.fields, field.parent = type.name
  arguments : type.kind = .inputObject → ∀ field ∈ type.fields, field.arguments = []
  interfaces : (type.interfaces.map (·.name)).Nodup

theorem Tidy.of_eq_nil {type : GraphType} (hfields : type.fields = [])
    (hinterfaces : type.interfaces = []) : type.Tidy := by
  constructor
  · simp [hfields]
  · simp [hfields]
  · simp [hinterfaces]

theorem tidy_of_mem_builtinTypes {type : GraphType} (h : type ∈ builtinTypes) : type.Tidy := by
  obtain ⟨name, -, rfl⟩ := List.mem_map.1 h
  exact .of_eq_nil rfl rfl

theorem tidy_ofDef (file : Option String) (definition : Sdl.TypeDef) :
    (ofDef file definition).Tidy := by
  obtain ⟨name, body, position⟩ := definition
  have hparents (fields : List Sdl.FieldDef) :
      ∀ field ∈ fields.map (fieldOf file name), field.parent = name := by
    simp [fieldOf]
  have hinterfaces (names : List String) :
      (((mentions (.source file position) names).foldl addInterface []).map (·.name)).Nodup := by
    rw [names_foldl_addInterface]
    exact Assoc.foldl_addNew_nodup List.nodup_nil names
  cases body with
  | object interfaces fields => exact ⟨hparents fields, nofun, hinterfaces interfaces⟩
  | interface interfaces fields => exact ⟨hparents fields, nofun, hinterfaces interfaces⟩
  | input fields =>
      constructor
      · simp [ofDef, Content.ofDef, GraphType.fields, inputFieldOf]
      · simp [ofDef, Content.ofDef, GraphType.fields, inputFieldOf]
      · exact List.nodup_nil
  | _ => exact .of_eq_nil rfl rfl

/-- An extension that is written for the type leaves it tidy. -/
theorem Tidy.extended_singleton {type : GraphType} {extension : Extension} (h : type.Tidy)
    (hname : extension.addition.name = type.name) : (type.extended [extension]).Tidy := by
  obtain ⟨name, content, location⟩ := type
  obtain ⟨file, ⟨name', body, position⟩⟩ := extension
  obtain rfl : name' = name := hname
  have hparents {fields : List Field} (hfields : ∀ field ∈ fields, field.parent = name')
      (added : List Sdl.FieldDef) :
      ∀ field ∈ fields ++ added.map (fieldOf file name'), field.parent = name' := by
    intro field hmem
    rcases List.mem_append.1 hmem with hold | hnew
    · exact hfields field hold
    · obtain ⟨written, -, rfl⟩ := List.mem_map.1 hnew
      rfl
  cases content <;> cases body
  case object.object interfaces fields more added =>
    have hinterfaces : (((mentions (.source file position) more).foldl addInterface
        interfaces).map (·.name)).Nodup := by
      rw [names_foldl_addInterface]
      exact Assoc.foldl_addNew_nodup h.interfaces more
    exact ⟨hparents h.parents added, nofun, hinterfaces⟩
  case interface.interface interfaces fields more added =>
    exact ⟨hparents h.parents added, nofun, h.interfaces⟩
  case input.input fields added =>
    have hinput : ∀ field ∈ fields ++ added.map (inputFieldOf file name'),
        field.parent = name' ∧ field.arguments = [] := by
      intro field hmem
      rcases List.mem_append.1 hmem with hold | hnew
      · exact ⟨h.parents field hold, h.arguments rfl field hold⟩
      · obtain ⟨written, -, rfl⟩ := List.mem_map.1 hnew
        exact ⟨rfl, rfl⟩
    exact ⟨fun field hmem => (hinput field hmem).1, fun _ field hmem => (hinput field hmem).2,
      h.interfaces⟩
  case enum.enum => exact .of_eq_nil rfl rfl
  case union.union => exact .of_eq_nil rfl rfl
  all_goals exact h

theorem Tidy.extended {type : GraphType} {extensions : List Extension} (h : type.Tidy)
    (hnames : ∀ extension ∈ extensions, extension.addition.name = type.name) :
    (type.extended extensions).Tidy := by
  induction extensions generalizing type with
  | nil => exact h
  | cons first rest ih =>
      have hfirst : (type.extended [first]).Tidy :=
        h.extended_singleton (hnames first List.mem_cons_self)
      have hrest : ∀ extension ∈ rest, extension.addition.name = (type.extended [first]).name :=
        fun extension hmem => hnames extension (List.mem_cons_of_mem _ hmem)
      simpa using ih hfirst hrest

theorem names_fields_nodup {type : GraphType} (h : type.content.partNames.Nodup) :
    (type.fields.map (·.name)).Nodup := by
  obtain ⟨name, content, location⟩ := type
  cases content with
  | object interfaces fields => exact h
  | interface interfaces fields => exact h
  | input fields => exact h
  | _ => exact List.nodup_nil

end GraphType

namespace Loaded

variable {definitions : List Placed} {types : List GraphType} {roots : DeclaredRoots}

/-- A type is built in, or it is a defined one that all its extensions are added to in some
order. -/
theorem builtin_or_extended (h : Loaded .empty definitions types roots) {type : GraphType}
    (hmem : type ∈ types) :
    type ∈ builtinTypes ∨ ∃ file definition extensions',
      (file, .type definition) ∈ definitions ∧
        extensions'.Perm (ofType definition.name (extensions definitions)) ∧
        type = (GraphType.ofDef file definition).extended extensions' := by
  rw [h.types_eq] at hmem
  rcases List.mem_append.1 hmem with hbuiltin | hmerged
  · exact Or.inl hbuiltin
  · obtain ⟨before, file, definition, after, rfl, rfl⟩ := mem_mergedTypes.1 hmerged
    refine Or.inr ⟨file, definition, _, by simp, ?_, rfl⟩
    rw [extensions_append_type, List.nil_append, ofType_append, ofType_append]
    exact List.perm_append_comm

theorem tidy (h : Loaded .empty definitions types roots) {type : GraphType}
    (hmem : type ∈ types) : type.Tidy := by
  rcases h.builtin_or_extended hmem with
    hbuiltin | ⟨file, definition, extensions', -, hperm, rfl⟩
  · exact GraphType.tidy_of_mem_builtinTypes hbuiltin
  · apply (GraphType.tidy_ofDef file definition).extended
    intro extension hextension
    exact (mem_ofType.1 (hperm.mem_iff.1 hextension)).2

/-- The extensions of a defined type are of its kind. -/
theorem kind_of_mem_ofType (h : Loaded .empty definitions types roots) {file : Option String}
    {definition : Sdl.TypeDef} (hplaced : (file, .type definition) ∈ definitions)
    {extension : Extension}
    (hextension : extension ∈ ofType definition.name (extensions definitions)) :
    extension.kind = (GraphType.ofDef file definition).kind := by
  have hmem : GraphType.ofDef file definition ∈ builtinTypes ++ definedTypes definitions :=
    List.mem_append_right _ (mem_definedTypes.2 ⟨file, definition, hplaced, rfl⟩)
  exact (h.fits_builtinTypes.extensible h.names hmem hextension).1.symm

/-- The names of the fields or members of a type are those of its definition and of its extensions.
-/
theorem partNames_extended (h : Loaded .empty definitions types roots) {file : Option String}
    {definition : Sdl.TypeDef} (hplaced : (file, .type definition) ∈ definitions)
    {extensions' : List Extension}
    (hperm : extensions'.Perm (ofType definition.name (extensions definitions))) :
    ((GraphType.ofDef file definition).extended extensions').content.partNames.Nodup := by
  have hmem : GraphType.ofDef file definition ∈ builtinTypes ++ definedTypes definitions :=
    List.mem_append_right _ (mem_definedTypes.2 ⟨file, definition, hplaced, rfl⟩)
  rw [GraphType.partNames_extended fun _ hextension =>
    h.kind_of_mem_ofType hplaced (hperm.mem_iff.1 hextension)]
  have hparts := h.fits_builtinTypes.parts _ hmem
  exact ((hperm.flatMap_right _).append_left _).nodup_iff.2 hparts

theorem partNames_nodup (h : Loaded .empty definitions types roots) {type : GraphType}
    (hmem : type ∈ types) : type.content.partNames.Nodup := by
  rcases h.builtin_or_extended hmem with
    hbuiltin | ⟨file, definition, extensions', hplaced, hperm, rfl⟩
  · obtain ⟨name, -, rfl⟩ := List.mem_map.1 hbuiltin
    exact List.nodup_nil
  · exact h.partNames_extended hplaced hperm

theorem isReserved_eq_false (h : Loaded .empty definitions types roots) {type : GraphType}
    (hmem : type ∈ types) : isReserved type.name = false := by
  rcases h.builtin_or_extended hmem with hbuiltin | ⟨file, definition, _, hplaced, _, rfl⟩
  · have hall : ∀ type ∈ builtinTypes, isReserved type.name = false := by decide
    exact hall type hbuiltin
  · have htype : GraphType.ofDef file definition ∈ definedTypes definitions :=
      mem_definedTypes.2 ⟨file, definition, hplaced, rfl⟩
    rw [GraphType.name_extended]
    exact h.unreserved _ htype

end Loaded

/-- What a type without bad references mentions is there: its interfaces, its members, the types of
its fields, which are no input types unless it is one, and the types of their arguments. -/
theorem has_of_typeErrors {types : List GraphType} {type : GraphType} (htidy : type.Tidy)
    (h : typeErrors types type = []) :
    (∀ mention ∈ type.interfaces, Has types mention.name .interface) ∧
      (∀ mention ∈ type.members, Has types mention.name .object) ∧
      ∀ field ∈ type.fields,
        (∃ kind, Has types field.type.innermost kind ∧
          (type.isComposite = true → kind ≠ .inputObject)) ∧
        ∀ argument ∈ field.arguments, ∃ kind, Has types argument.2.innermost kind := by
  obtain ⟨name, content, location⟩ := type
  have hcomposite {interfaces : List Mention} {fields : List Field}
      (herrors : interfaces.flatMap (interfaceErrors types name) ++
        fields.flatMap (fieldErrors types name) = []) :
      (∀ mention ∈ interfaces, Has types mention.name .interface) ∧
        ∀ field ∈ fields, (∃ kind, Has types field.type.innermost kind ∧ kind ≠ .inputObject) ∧
          ∀ argument ∈ field.arguments, ∃ kind, Has types argument.2.innermost kind := by
    obtain ⟨hinterfaces, hfields⟩ := List.append_eq_nil_iff.1 herrors
    constructor
    · intro mention hmem
      exact interfaceErrors_eq_nil_iff.1 (List.flatMap_eq_nil_iff.1 hinterfaces mention hmem)
    · intro field hmem
      exact fieldErrors_eq_nil_iff_has.1 (List.flatMap_eq_nil_iff.1 hfields field hmem)
  cases content with
  | scalar => exact ⟨nofun, nofun, nofun⟩
  | enum values => exact ⟨nofun, nofun, nofun⟩
  | object interfaces fields =>
      obtain ⟨hinterfaces, hfields⟩ := hcomposite h
      refine ⟨hinterfaces, nofun, ?_⟩
      intro field hmem
      obtain ⟨⟨kind, hkind, hne⟩, harguments⟩ := hfields field hmem
      exact ⟨⟨kind, hkind, fun _ => hne⟩, harguments⟩
  | interface interfaces fields =>
      obtain ⟨hinterfaces, hfields⟩ := hcomposite h
      refine ⟨hinterfaces, nofun, ?_⟩
      intro field hmem
      obtain ⟨⟨kind, hkind, hne⟩, harguments⟩ := hfields field hmem
      exact ⟨⟨kind, hkind, fun _ => hne⟩, harguments⟩
  | union members =>
      refine ⟨nofun, ?_, nofun⟩
      intro mention hmem
      exact memberErrors_eq_nil_iff.1 (List.flatMap_eq_nil_iff.1 h mention hmem)
  | input fields =>
      refine ⟨nofun, nofun, ?_⟩
      intro field hmem
      have harguments : field.arguments = [] := htidy.arguments rfl field hmem
      obtain ⟨kind, hkind⟩ :=
        undefinedErrors_eq_nil_iff.1 (List.flatMap_eq_nil_iff.1 h field hmem)
      exact ⟨⟨kind, hkind, nofun⟩, by simp [harguments]⟩

/-- The parts of a graph fit together. -/
structure Graph.WellFormed (graph : Graph) : Prop where
  /-- The built-in scalars come first. -/
  builtin : builtinTypes <+: graph.types
  /-- A type is found under its own name. -/
  found : ∀ type ∈ graph.types, graph.type? type.name = some type
  /-- No name of a type begins with two underscores. -/
  unreserved : ∀ type ∈ graph.types, ¬['_', '_'] <+: type.name.toList
  /-- A field is found under its own name in its type, which is its parent. -/
  fields : ∀ type ∈ graph.types, ∀ field ∈ type.fields,
    type.fields.find? (·.name == field.name) = some field ∧ field.parent = type.name
  /-- A field of an object or interface type is found at its coordinate. -/
  coordinates : ∀ type ∈ graph.types, type.isComposite = true → ∀ field ∈ type.fields,
    graph.field? field.coordinate = some field
  /-- The types of all fields and arguments are there. -/
  mentioned : ∀ type ∈ graph.types, ∀ field ∈ type.fields,
    graph.hasType field.type.innermost = true ∧
      ∀ argument ∈ field.arguments, graph.hasType argument.2.innermost = true
  /-- No field of an object or interface type is of an input type. -/
  outputs : ∀ type ∈ graph.types, type.isComposite = true → ∀ field ∈ type.fields,
    ∃ returned, graph.type? field.type.innermost = some returned ∧
      returned.kind ≠ .inputObject
  /-- What a type implements is an interface, and is listed once. -/
  interfaces : ∀ type ∈ graph.types, (type.interfaces.map (·.name)).Nodup ∧
    ∀ mention ∈ type.interfaces,
      ∃ interface, graph.type? mention.name = some interface ∧ interface.kind = .interface
  /-- All members of a union are object types. -/
  members : ∀ type ∈ graph.types, ∀ mention ∈ type.members,
    ∃ member, graph.type? mention.name = some member ∧ member.kind = .object
  /-- There is a root type for queries, and it is an object type. -/
  query : ∃ root, graph.type? graph.query = some root ∧ root.kind = .object
  /-- All root types are object types. -/
  roots : ∀ operation, ∀ name ∈ graph.rootName? operation,
    ∃ root, graph.type? name = some root ∧ root.kind = .object

theorem Graph.exists_type?_of_has {graph : Graph} {name : String} {kind : Kind}
    (h : Has graph.types name kind) : ∃ type, graph.type? name = some type ∧ type.kind = kind := by
  obtain ⟨type, hfind, hkind⟩ := Option.map_eq_some_iff.1 h
  exact ⟨type, hfind, hkind⟩

theorem Graph.mem_roots_iff {graph : Graph} {operation : Operation} {root : GraphType} :
    (operation, root) ∈ graph.roots ↔
      ∃ name, graph.rootName? operation = some name ∧ graph.type? name = some root := by
  simp only [Graph.roots, List.mem_filterMap, Option.bind_eq_bind, Option.bind_eq_some_iff,
    Option.pure_def, Option.some.injEq, Prod.mk.injEq]
  constructor
  · rintro ⟨_, -, name, hname, type, htype, rfl, rfl⟩
    exact ⟨name, hname, htype⟩
  · rintro ⟨name, hname, htype⟩
    exact ⟨operation, by cases operation <;> decide, name, hname, root, htype, rfl, rfl⟩

/-- A root type is an object type, whether it is declared or found by its usual name. -/
theorem Builder.has_of_rootName {types : List GraphType} {operation : Operation}
    {declared : Option Mention} {name : String}
    (h : rootName types operation declared = .ok (some name)) : Has types name .object := by
  obtain ⟨hdeclared, hname⟩ := rootName_eq_ok_iff.1 h
  cases declared with
  | some mention =>
      obtain rfl := Option.some.inj hname
      exact hdeclared mention rfl
  | none =>
      by_cases htitle : kindOf? types operation.title = some .object
      · simp only [htitle, if_true, Option.some.injEq] at hname
        rw [hname]
        exact htitle
      · simp [htitle] at hname

theorem Graph.coordinate_found {graph : Graph}
    (hnames : (graph.types.map (·.name)).Nodup) {type : GraphType} (hmem : type ∈ graph.types)
    (hcomposite : type.isComposite = true) {field : Field}
    (hfield : type.fields.find? (·.name == field.name) = some field)
    (hparent : field.parent = type.name) : graph.field? field.coordinate = some field := by
  have hfind : graph.type? field.coordinate.type = some type := by
    rw [Field.coordinate, hparent]
    exact findType?_of_mem hnames hmem
  simp only [Graph.field?, hfind, hcomposite, if_true]
  exact hfield

/-- Documents make well-formed graphs. -/
theorem wellFormed_of_ofDocuments {documents : List (Option String × Sdl.Document)} {graph : Graph}
    (h : Graph.ofDocuments documents = .ok graph) : graph.WellFormed := by
  obtain ⟨roots, hloaded, hroots, hreferences⟩ := ofDocuments_eq_ok_iff.1 h
  have hnames := hloaded.names_nodup
  have hhas {type : GraphType} (hmem : type ∈ graph.types) :=
    has_of_typeErrors (hloaded.tidy hmem) (List.flatMap_eq_nil_iff.1 hreferences type hmem)
  have hfield {type : GraphType} (hmem : type ∈ graph.types) {field : Field}
      (hfield : field ∈ type.fields) :
      type.fields.find? (·.name == field.name) = some field := by
    exact find?_of_mem_of_nodup (GraphType.names_fields_nodup (hloaded.partNames_nodup hmem)) hfield
  exact
    { builtin := ⟨_, hloaded.types_eq.symm⟩
      found := fun _ hmem => findType?_of_mem hnames hmem
      unreserved := by
        intro type hmem hprefix
        have hunreserved := hloaded.isReserved_eq_false hmem
        rw [isReserved, List.isPrefixOf_iff_prefix.2 hprefix] at hunreserved
        cases hunreserved
      fields := fun type hmem field hin => ⟨hfield hmem hin, (hloaded.tidy hmem).parents field hin⟩
      coordinates := fun type hmem hcomposite field hin =>
        Graph.coordinate_found hnames hmem hcomposite (hfield hmem hin)
          ((hloaded.tidy hmem).parents field hin)
      mentioned := by
        intro type hmem field hin
        obtain ⟨⟨kind, hkind, -⟩, harguments⟩ := (hhas hmem).2.2 field hin
        constructor
        · exact exists_has_iff.1 ⟨kind, hkind⟩
        · intro argument hargument
          exact exists_has_iff.1 (harguments argument hargument)
      outputs := by
        intro type hmem hcomposite field hin
        obtain ⟨⟨kind, hkind, hne⟩, -⟩ := (hhas hmem).2.2 field hin
        obtain ⟨returned, hfind, rfl⟩ := Graph.exists_type?_of_has hkind
        exact ⟨returned, hfind, hne hcomposite⟩
      interfaces := by
        intro type hmem
        refine ⟨(hloaded.tidy hmem).interfaces, ?_⟩
        intro mention hmention
        exact Graph.exists_type?_of_has ((hhas hmem).1 mention hmention)
      members := by
        intro type hmem mention hmention
        exact Graph.exists_type?_of_has ((hhas hmem).2.1 mention hmention)
      query := Graph.exists_type?_of_has (Builder.has_of_rootName (hroots .query))
      roots := by
        intro operation name hname
        have hroot := hroots operation
        rw [Option.mem_def.1 hname] at hroot
        exact Graph.exists_type?_of_has (Builder.has_of_rootName hroot) }

/-- What is loaded in one go: a text, which may come from a file of some name, a file, or several
files. Files come with what their paths name. -/
inductive Load
  | text (file : Option String) (text : String)
  | file (path : String) (entry : Option Files.Entry)
  | files (files : List (String × Option Files.Entry))

namespace Builder

/-- Loads a text or files, up to the first error. -/
def load (builder : Builder) : Load → Except BuildError Builder
  | .text file text => builder.loadText file text
  | .file path entry => builder.loadFiles [(path, entry)]
  | .files files => builder.loadFiles files

/-- What is loaded after the builder comes to some documents. -/
def Documented (builder next : Builder) : Prop :=
  ∃ documents, builder.addDocuments documents = .ok next

theorem Documented.refl (builder : Builder) : builder.Documented builder :=
  ⟨[], rfl⟩

theorem Documented.trans {first second third : Builder} (h : first.Documented second)
    (h' : second.Documented third) : first.Documented third := by
  obtain ⟨documents, hdocuments⟩ := h
  obtain ⟨more, hmore⟩ := h'
  refine ⟨documents ++ more, ?_⟩
  rw [addDocuments, List.foldlM_append, bind_eq_ok_iff]
  exact ⟨second, hdocuments, hmore⟩

/-- If every step of a fold loads documents, so does the fold. -/
theorem documented_of_foldlM {α : Type} {add : Builder → α → Except BuildError Builder}
    (hadd : ∀ builder item next, add builder item = .ok next → builder.Documented next)
    {items : List α} {builder next : Builder} (h : items.foldlM add builder = .ok next) :
    builder.Documented next :=
  foldlM_invariant (fun second item third hsecond hthird =>
    hsecond.trans (hadd second item third hthird)) (.refl builder) h

theorem documented_of_loadText {builder next : Builder} {file : Option String} {text : String}
    (h : builder.loadText file text = .ok next) : builder.Documented next := by
  unfold loadText at h
  split at h
  · next document hparse =>
      refine ⟨[(file, document)], ?_⟩
      rw [addDocuments, List.foldlM_cons, bind_eq_ok_iff]
      exact ⟨next, h, rfl⟩
  · cases h

theorem documented_of_loadFiles {builder next : Builder}
    {files : List (String × Option Files.Entry)} (h : builder.loadFiles files = .ok next) :
    builder.Documented next := by
  apply documented_of_foldlM _ h
  rintro builder ⟨path, entry⟩ next hfile
  simp only at hfile
  split at hfile
  · exact documented_of_loadText hfile
  · cases hfile

theorem documented_of_load {builder next : Builder} {load : Load}
    (h : builder.load load = .ok next) : builder.Documented next := by
  cases load with
  | text file text => exact documented_of_loadText h
  | file path entry => exact documented_of_loadFiles h
  | files files => exact documented_of_loadFiles h

end Builder

/-- The graph that is built after all loads. -/
def Graph.ofLoads (loads : List Load) : Except BuildError Graph := do
  (← loads.foldlM Builder.load .empty).build

/-- Every graph that is built, whatever texts and files were loaded before, is well formed. -/
theorem wellFormed_of_ofLoads {loads : List Load} {graph : Graph}
    (h : Graph.ofLoads loads = .ok graph) : graph.WellFormed := by
  rw [Graph.ofLoads, bind_eq_ok_iff] at h
  obtain ⟨builder, hloads, hbuild⟩ := h
  have hloaded : Builder.empty.Documented builder :=
    Builder.documented_of_foldlM (fun _ _ _ => Builder.documented_of_load) hloads
  obtain ⟨documents, hdocuments⟩ := hloaded
  have hgraph : Graph.ofDocuments documents = .ok graph := by
    rw [Graph.ofDocuments, bind_eq_ok_iff]
    exact ⟨builder, hdocuments, hbuild⟩
  exact wellFormed_of_ofDocuments hgraph

/-- A text that extends a type, and a file that defines it. -/
def shelfLoads : List Load :=
  [.text none
      "extend type Query implements Named { name(by: By): ID } interface Named { name: ID }",
    .file "shelf" (some (.file "shelf"
      "type Query { all: Any } union Any = Query input By { by: By }".toUTF8))]

theorem shelfLoads_built : (Graph.ofLoads shelfLoads).isOk = true := by
  decide +kernel

theorem shelfLoads_wellFormed :
    ∃ graph, Graph.ofLoads shelfLoads = .ok graph ∧ graph.WellFormed := by
  obtain ⟨graph, hgraph⟩ := exists_eq_ok_of_isOk shelfLoads_built
  exact ⟨graph, hgraph, wellFormed_of_ofLoads hgraph⟩

end SchemaCoverage.Schema
