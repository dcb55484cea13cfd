import SchemaCoverage.Proofs.Schema.Collecting
/-!
Which of the interfaces that a type is written to implement it keeps. Definition and extensions of
an object type all count. Of an interface type the definition alone counts: what an extension lists
is neither kept nor looked up.
-/
namespace SchemaCoverage.Schema

/-- The interfaces that the definition and the extensions of a type list. -/
def clauseNames (definitions : List Sdl.Definition) (name : String) : List String :=
  ((typeDefs definitions ++ additions definitions).filter (·.name == name)).flatMap
    (·.body.interfaces)

/-- A type of the kind has each interface that its definition or an extension lists, and has it
once. Where one of them is no interface type, a bad reference keeps the graph from being built. -/
structure KeepsClauses (kind : Kind) (documents : List (Option String × Sdl.Document)) : Prop where
  kept : ∀ graph, Graph.ofDocuments documents = .ok graph →
    ∀ type ∈ graph.types, type.kind = kind →
      ∀ name ∈ clauseNames (documents.flatMap Prod.snd) type.name,
        (type.interfaces.map (·.name)).count name = 1
  checked : ∀ builder (graph : Graph), Builder.empty.addDocuments documents = .ok builder →
    builder.extendedTypes = .ok graph.types → graph.RootedBy builder.roots →
    ∀ type ∈ graph.types, type.kind = kind →
      ∀ name ∈ clauseNames (documents.flatMap Prod.snd) type.name,
        ¬Defines (documents.flatMap Prod.snd) name .interface →
          ∃ errors, Graph.ofDocuments documents = .error (.badReferences errors)

/-- What an extension of an interface type lists stands in the definition of the type as well. -/
def RepeatsClauses (definitions : List Sdl.Definition) : Prop :=
  ∀ addition ∈ additions definitions, kindOfBody addition.body = .interface →
    ∀ definition ∈ typeDefs definitions, definition.name = addition.name →
      ∀ name ∈ addition.body.interfaces, name ∈ definition.body.interfaces

theorem mem_clauseNames {definitions : List Sdl.Definition} {type name : String} :
    name ∈ clauseNames definitions type ↔
      (∃ definition ∈ typeDefs definitions, definition.name = type ∧
        name ∈ definition.body.interfaces) ∨
      ∃ addition ∈ additions definitions, addition.name = type ∧
        name ∈ addition.body.interfaces := by
  simp only [clauseNames, List.mem_flatMap, List.mem_filter, List.mem_append, beq_iff_eq]
  constructor
  · rintro ⟨written, ⟨hdefinition | haddition, hname⟩, hmem⟩
    · exact Or.inl ⟨written, hdefinition, hname, hmem⟩
    · exact Or.inr ⟨written, haddition, hname, hmem⟩
  · intro h
    rcases h with ⟨written, hdefinition, hname, hmem⟩ | ⟨written, haddition, hname, hmem⟩
    · exact ⟨written, ⟨Or.inl hdefinition, hname⟩, hmem⟩
    · exact ⟨written, ⟨Or.inr haddition, hname⟩, hmem⟩

/-- Only the body of an interface type is changed where it is added. -/
theorem added_of_kind_ne_interface {body : Sdl.TypeBody} (h : kindOfBody body ≠ .interface) :
    body.added = body := by
  cases body with
  | interface => exact absurd rfl h
  | _ => rfl

theorem interfaces_added_of_interface {body : Sdl.TypeBody} (h : kindOfBody body = .interface) :
    body.added.interfaces = [] := by
  cases body <;> cases h
  rfl

namespace Loaded

variable {definitions : List Placed} {types : List GraphType} {roots : DeclaredRoots}

theorem typeDef_unique (h : Loaded .empty definitions types roots) {definition other : Sdl.TypeDef}
    (hmem : definition ∈ typeDefs (definitions.map Prod.snd))
    (hmem' : other ∈ typeDefs (definitions.map Prod.snd)) (hname : definition.name = other.name) :
    definition = other := by
  have hnames := h.names
  rw [List.map_append, names_definedTypes, List.nodup_append] at hnames
  exact List.inj_on_of_nodup_map hnames.2.1 hmem hmem' hname

theorem name_ne_of_mem_builtinTypes (h : Loaded .empty definitions types roots)
    {definition : Sdl.TypeDef} (hmem : definition ∈ typeDefs (definitions.map Prod.snd))
    {type : GraphType} (hbuiltin : type ∈ builtinTypes) : definition.name ≠ type.name := by
  have hnames := h.names
  rw [List.map_append, names_definedTypes, List.nodup_append] at hnames
  intro hname
  exact hnames.2.2 _ (List.mem_map.2 ⟨type, hbuiltin, rfl⟩) _
    (List.mem_map.2 ⟨definition, hmem, rfl⟩) hname.symm

/-- An extension is of a defined type of its kind. -/
theorem exists_typeDef_of_addition (h : Loaded .empty definitions types roots)
    {addition : Sdl.TypeDef} (hmem : addition ∈ additions (definitions.map Prod.snd)) :
    ∃ definition ∈ typeDefs (definitions.map Prod.snd), definition.name = addition.name ∧
      kindOfBody definition.body = kindOfBody addition.body :=
  ((fits_builtinTypes_iff h.names).1 h.fits_builtinTypes).1 addition hmem

/-- A type is of the kind of each of its extensions. -/
theorem kind_of_mem_additions (h : Loaded .empty definitions types roots) {type : GraphType}
    (hmem : type ∈ types) {addition : Sdl.TypeDef}
    (haddition : addition ∈ additions (definitions.map Prod.snd))
    (hname : addition.name = type.name) : kindOfBody addition.body = type.kind := by
  obtain ⟨defined, hdefined, hsame, hkind⟩ := h.exists_typeDef_of_addition haddition
  rcases h.builtin_or_extended hmem with
    hbuiltin | ⟨file, definition, extensions', hplaced, -, rfl⟩
  · exact absurd (hsame.trans hname) (h.name_ne_of_mem_builtinTypes hdefined hbuiltin)
  · obtain rfl := h.typeDef_unique hdefined (mem_typeDefs.2 ⟨file, hplaced⟩) (hsame.trans hname)
    rw [GraphType.kind_extended, ← hkind]
    exact (Content.kind_ofDef file defined).symm

/-- A type implements what its definition lists and what its extensions add. -/
theorem mem_interfaces_iff (h : Loaded .empty definitions types roots) {type : GraphType}
    (hmem : type ∈ types) {name : String} :
    name ∈ type.interfaces.map (·.name) ↔
      (∃ definition ∈ typeDefs (definitions.map Prod.snd), definition.name = type.name ∧
        name ∈ definition.body.interfaces) ∨
      ∃ addition ∈ additions (definitions.map Prod.snd), addition.name = type.name ∧
        name ∈ addition.body.added.interfaces := by
  rcases h.builtin_or_extended hmem with
    hbuiltin | ⟨file, definition, extensions', hplaced, hperm, rfl⟩
  · have hnone : type.interfaces = [] := by
      obtain ⟨builtin, -, rfl⟩ := List.mem_map.1 hbuiltin
      rfl
    rw [hnone]
    constructor
    · exact nofun
    · intro hwritten
      rcases hwritten with ⟨definition, hdefinition, hname, -⟩ | ⟨addition, haddition, hname, -⟩
      · exact absurd hname (h.name_ne_of_mem_builtinTypes hdefinition hbuiltin)
      · obtain ⟨definition, hdefinition, hsame, -⟩ := h.exists_typeDef_of_addition haddition
        exact absurd (hsame.trans hname) (h.name_ne_of_mem_builtinTypes hdefinition hbuiltin)
  · have hdefinition := mem_typeDefs.2 ⟨file, hplaced⟩
    rw [GraphType.interfaces_extended fun _ hextension =>
      h.kind_of_mem_ofType hplaced (hperm.mem_iff.1 hextension), GraphType.interfaces_ofDef,
      Assoc.mem_foldl_addNew, Assoc.mem_foldl_addNew, GraphType.name_extended]
    simp only [List.not_mem_nil, false_or, List.mem_flatMap, hperm.mem_iff, mem_ofType]
    apply or_congr
    · constructor
      · intro hlisted
        exact ⟨definition, hdefinition, rfl, hlisted⟩
      · rintro ⟨other, hother, hname, hlisted⟩
        rwa [h.typeDef_unique hdefinition hother hname.symm]
    · constructor
      · rintro ⟨extension, ⟨hin, hname⟩, hlisted⟩
        exact ⟨extension.addition, mem_additions.2 ⟨extension, hin, rfl⟩, hname, hlisted⟩
      · rintro ⟨addition, haddition, hname, hlisted⟩
        obtain ⟨extension, hin, rfl⟩ := mem_additions.1 haddition
        exact ⟨extension, ⟨hin, hname⟩, hlisted⟩

end Loaded

section KeepsClauses

variable {documents : List (Option String × Sdl.Document)} {graph : Graph}

/-- Interfaces that a graph has are looked up, so that it is enough that they are kept. -/
theorem keepsClauses_of_kept {kind : Kind}
    (h : ∀ graph, Graph.ofDocuments documents = .ok graph → ∀ type ∈ graph.types,
      type.kind = kind → ∀ name ∈ clauseNames (documents.flatMap Prod.snd) type.name,
        name ∈ type.interfaces.map (·.name)) : KeepsClauses kind documents := by
  constructor
  · intro graph hgraph type hmem hkind name hname
    have hnodup := ((wellFormed_of_ofDocuments hgraph).interfaces type hmem).1
    exact List.count_eq_one_of_mem hnodup (h graph hgraph type hmem hkind name hname)
  · intro builder graph hload htypes hroots type hmem hkind name hname hundefined
    have hbuild := ofDocuments_eq_build hload
    rw [Builder.build_eq_of_rootedBy htypes hroots] at hbuild
    by_cases hnone : referenceErrors graph.types = []
    · rw [if_pos hnone] at hbuild
      obtain ⟨mention, hmention, rfl⟩ :=
        List.mem_map.1 (h graph hbuild type hmem hkind name hname)
      obtain ⟨interface, hfind, hinterface⟩ :=
        ((wellFormed_of_ofDocuments hbuild).interfaces type hmem).2 mention hmention
      obtain ⟨roots, hloaded, -⟩ := ofDocuments_eq_ok_iff.1 hbuild
      rw [← map_snd_placed, ← hloaded.has_iff] at hundefined
      exact absurd (Option.map_eq_some_iff.2 ⟨interface, hfind, hinterface⟩) hundefined
    · rw [if_neg hnone] at hbuild
      exact ⟨_, hbuild⟩

/-- All clauses of an object type count. -/
theorem keepsClauses_object (documents : List (Option String × Sdl.Document)) :
    KeepsClauses .object documents := by
  apply keepsClauses_of_kept
  intro graph hgraph type hmem hkind name hname
  obtain ⟨roots, hloaded, -⟩ := ofDocuments_eq_ok_iff.1 hgraph
  rw [← map_snd_placed] at hname
  rw [hloaded.mem_interfaces_iff hmem]
  apply (mem_clauseNames.1 hname).imp_right
  rintro ⟨addition, haddition, hsame, hlisted⟩
  have hobject := (hloaded.kind_of_mem_additions hmem haddition hsame).trans hkind
  refine ⟨addition, haddition, hsame, ?_⟩
  rwa [added_of_kind_ne_interface (by simp [hobject])]

/-- Interface types keep what their definitions list. -/
theorem keepsClauses_interface
    (h : Acceptable (documents.flatMap Prod.snd) → RepeatsClauses (documents.flatMap Prod.snd)) :
    KeepsClauses .interface documents := by
  apply keepsClauses_of_kept
  intro graph hgraph type hmem hkind name hname
  obtain ⟨roots, hloaded, -⟩ := ofDocuments_eq_ok_iff.1 hgraph
  have hrepeats := h (acceptable_of_ofDocuments hgraph)
  rw [← map_snd_placed] at hname hrepeats
  rw [hloaded.mem_interfaces_iff hmem]
  left
  rcases mem_clauseNames.1 hname with hdefinition | ⟨addition, haddition, hsame, hlisted⟩
  · exact hdefinition
  · have hinterface := (hloaded.kind_of_mem_additions hmem haddition hsame).trans hkind
    obtain ⟨definition, hdefinition, hname, -⟩ := hloaded.exists_typeDef_of_addition haddition
    exact ⟨definition, hdefinition, hname.trans hsame,
      hrepeats addition haddition hinterface definition hdefinition hname name hlisted⟩

/-- What an interface type keeps of an extension stands in its definition. -/
theorem KeepsClauses.repeatsClauses (h : KeepsClauses .interface documents)
    (hacceptable : Acceptable (documents.flatMap Prod.snd)) :
    RepeatsClauses (documents.flatMap Prod.snd) := by
  intro addition haddition hinterface definition hdefinition hname name hlisted
  obtain ⟨graph, hgraph⟩ := hacceptable.exists_ofDocuments
  obtain ⟨roots, hloaded, -⟩ := ofDocuments_eq_ok_iff.1 hgraph
  have hkept := h.kept graph hgraph
  rw [← map_snd_placed] at haddition hdefinition hkept
  obtain ⟨other, hother, hsame, hkind⟩ := hloaded.exists_typeDef_of_addition haddition
  obtain rfl := hloaded.typeDef_unique hother hdefinition (hsame.trans hname.symm)
  -- the type in the graph has the kind of the extension
  have hhas : Has graph.types other.name .interface :=
    hloaded.has_iff.2 (Or.inr ⟨other, hother, rfl, hkind.trans hinterface⟩)
  obtain ⟨type, hmem, hfound, htype⟩ := (kindOf?_eq_some_iff hloaded.names_nodup).1 hhas
  have hclause := mem_clauseNames.2
    (Or.inr ⟨addition, haddition, hname.symm.trans hfound.symm, hlisted⟩)
  have hcount := hkept type hmem htype name hclause
  have hin : name ∈ type.interfaces.map (·.name) := List.count_pos_iff.1 (by omega)
  rcases (hloaded.mem_interfaces_iff hmem).1 hin with
    ⟨definition, hdefinition, hname, hlisted⟩ | ⟨addition', haddition', hname', hlisted'⟩
  · rwa [hloaded.typeDef_unique hother hdefinition (hfound.symm.trans hname.symm)]
  · have hkind' := (hloaded.kind_of_mem_additions hmem haddition' hname').trans htype
    rw [interfaces_added_of_interface hkind'] at hlisted'
    cases hlisted'

/-- Object types keep what is listed for them. Interface types do just if no extension of an
interface type lists anything that its definition does not list as well. -/
theorem keepsClauses_iff (documents : List (Option String × Sdl.Document)) :
    KeepsClauses .object documents ∧
      (KeepsClauses .interface documents ↔
        (Acceptable (documents.flatMap Prod.snd) →
          RepeatsClauses (documents.flatMap Prod.snd))) :=
  ⟨keepsClauses_object documents, fun h => h.repeatsClauses, keepsClauses_interface⟩

end KeepsClauses

/-- An interface type that implements another by an extension alone. -/
def pledgedShelf : List (Option String × Sdl.Document) :=
  [(none,
    [.type ⟨"Query", .object [] [⟨"named", [], .named "Named" false, ⟨1, 14⟩⟩], ⟨1, 1⟩⟩,
      .type ⟨"Node", .interface [] [⟨"id", [], .named "ID" false, ⟨2, 18⟩⟩], ⟨2, 1⟩⟩,
      .type ⟨"Named", .interface [] [⟨"name", [], .named "ID" false, ⟨3, 19⟩⟩], ⟨3, 1⟩⟩,
      .extension ⟨"Named", .interface ["Node"] [⟨"id", [], .named "ID" false, ⟨4, 42⟩⟩],
        ⟨4, 8⟩⟩])]

/-- The interface that the extension lists is lost. -/
theorem pledgedShelf_clause_lost : ¬KeepsClauses .interface pledgedShelf := by
  intro h
  have hbuilt : (do
      let graph ← Graph.ofDocuments pledgedShelf
      return (graph.type? "Named").map fun type => (type.kind, type.interfaces)) =
        Except.ok (some (Kind.interface, [])) := by
    decide +kernel
  obtain ⟨graph, hgraph, hreturn⟩ := bind_eq_ok_iff.1 hbuilt
  obtain ⟨type, hfind, hview⟩ := Option.map_eq_some_iff.1 (Except.ok.inj hreturn)
  obtain ⟨hkind, hinterfaces⟩ := Prod.mk.inj hview
  have hclause : "Node" ∈ clauseNames (pledgedShelf.flatMap Prod.snd) type.name := by
    rw [name_of_findType? hfind]
    decide
  have hcount := h.kept graph hgraph type (mem_of_findType? hfind) hkind "Node" hclause
  rw [hinterfaces] at hcount
  cases hcount

end SchemaCoverage.Schema
