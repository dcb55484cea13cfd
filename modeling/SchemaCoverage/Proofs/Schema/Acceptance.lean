import SchemaCoverage.Proofs.Schema.Referring
/-!
Which definitions make a graph. The conditions speak of the definitions alone and not of the order
in which they come or of the documents where they stand.
-/
namespace SchemaCoverage.Schema

section Written

variable (definitions : List Sdl.Definition)

/-- The type definitions, in order. -/
def typeDefs : List Sdl.TypeDef :=
  definitions.filterMap fun
    | .type definition => some definition
    | _ => none

/-- The extensions, in order. -/
def additions : List Sdl.TypeDef :=
  definitions.filterMap fun
    | .extension addition => some addition
    | _ => none

/-- The names of the root types that schema blocks declare for an operation, in order. -/
def rootNames (operation : Operation) : List String :=
  definitions.filterMap fun
    | .schema block => rootOf? operation block
    | _ => none

/-- The name is that of a built-in scalar or of a defined type of the kind. -/
def Defines (name : String) (kind : Kind) : Prop :=
  name ∈ ["Boolean", "Float", "ID", "Int", "String"] ∧ kind = .scalar ∨
    ∃ definition ∈ typeDefs definitions, definition.name = name ∧
      kindOfBody definition.body = kind

/-- Definitions of which a graph can be made. -/
structure Acceptable : Prop where
  /-- A type is defined once. -/
  names : ((typeDefs definitions).map (·.name)).Nodup
  /-- No type has the name of a built-in scalar or a name that begins with two underscores. -/
  unreserved : ∀ definition ∈ typeDefs definitions,
    definition.name ∉ ["Boolean", "Float", "ID", "Int", "String"] ∧
      ¬['_', '_'] <+: definition.name.toList
  /-- An extension is of a defined type of its kind. -/
  extended : ∀ addition ∈ additions definitions, ∃ definition ∈ typeDefs definitions,
    definition.name = addition.name ∧ kindOfBody definition.body = kindOfBody addition.body
  /-- A type and its extensions together name no field or member twice. -/
  parts : ∀ definition ∈ typeDefs definitions,
    (definition.body.partNames ++ ((additions definitions).filter
      (·.name == definition.name)).flatMap (·.body.partNames)).Nodup
  /-- An operation is declared once at most. -/
  declared : ∀ operation, (rootNames definitions operation).length ≤ 1
  /-- A declared root type is a defined object type. -/
  roots : ∀ operation, ∀ name ∈ rootNames definitions operation, Defines definitions name .object
  /-- There is a root type for queries. -/
  query : rootNames definitions .query ≠ [] ∨ Defines definitions "Query" .object
  /-- What a definition mentions is there. -/
  mentioned : ∀ definition ∈ typeDefs definitions, definition.body.Sound (Defines definitions)
  /-- What an extension adds is there. -/
  added : ∀ addition ∈ additions definitions, addition.body.added.Sound (Defines definitions)

end Written

theorem map_snd_placed (documents : List (Option String × Sdl.Document)) :
    (placed documents).map Prod.snd = documents.flatMap Prod.snd := by
  simp [placed, List.map_flatMap, Function.comp_def]

section Placed

variable {definitions : List Placed}

theorem mem_typeDefs {definition : Sdl.TypeDef} :
    definition ∈ typeDefs (definitions.map Prod.snd) ↔
      ∃ file, (file, .type definition) ∈ definitions := by
  unfold typeDefs
  rw [List.mem_filterMap]
  constructor
  · rintro ⟨written, hmem, hdefinition⟩
    obtain ⟨⟨file, _⟩, hplaced, rfl⟩ := List.mem_map.1 hmem
    split at hdefinition
    · next heq =>
        cases hdefinition
        exact ⟨file, heq ▸ hplaced⟩
    · cases hdefinition
  · rintro ⟨file, hmem⟩
    exact ⟨.type definition, List.mem_map.2 ⟨_, hmem, rfl⟩, rfl⟩

theorem mem_definedTypes {type : GraphType} :
    type ∈ definedTypes definitions ↔
      ∃ file definition, (file, .type definition) ∈ definitions ∧
        type = .ofDef file definition := by
  unfold definedTypes
  rw [List.mem_filterMap]
  constructor
  · rintro ⟨⟨file, written⟩, hmem, htype⟩
    cases written with
    | type definition => exact ⟨file, definition, hmem, (Option.some.inj htype).symm⟩
    | _ => cases htype
  · rintro ⟨file, definition, hmem, rfl⟩
    exact ⟨_, hmem, rfl⟩

theorem names_definedTypes :
    (definedTypes definitions).map (·.name) =
      (typeDefs (definitions.map Prod.snd)).map (·.name) := by
  unfold definedTypes typeDefs
  rw [List.filterMap_map, List.map_filterMap, List.map_filterMap]
  congr
  funext ⟨file, written⟩
  cases written <;> rfl

theorem map_addition_extensions :
    (extensions definitions).map (·.addition) = additions (definitions.map Prod.snd) := by
  unfold extensions additions
  rw [List.filterMap_map, List.map_filterMap]
  congr
  funext ⟨file, written⟩
  cases written <;> rfl

theorem mem_additions {addition : Sdl.TypeDef} :
    addition ∈ additions (definitions.map Prod.snd) ↔
      ∃ extension ∈ extensions definitions, extension.addition = addition := by
  rw [← map_addition_extensions, List.mem_map]

theorem names_declarations (operation : Operation) :
    (declarations operation definitions).map (·.name) =
      rootNames (definitions.map Prod.snd) operation := by
  unfold declarations rootNames
  rw [List.filterMap_map, List.map_filterMap]
  congr
  funext ⟨file, written⟩
  cases written with
  | schema block =>
      cases hroot : rootOf? operation block <;> simp [declaration?, hroot]
  | _ => rfl

theorem map_addition_ofType (name : String) :
    (ofType name (extensions definitions)).map (·.addition) =
      (additions (definitions.map Prod.snd)).filter (·.name == name) := by
  rw [← map_addition_extensions, List.filter_map]
  rfl

/-- The names that extensions add to a type. -/
theorem flatMap_ofType_extensions (name : String) :
    (ofType name (extensions definitions)).flatMap (·.addition.body.partNames) =
      ((additions (definitions.map Prod.snd)).filter (·.name == name)).flatMap
        (·.body.partNames) := by
  rw [← map_addition_ofType, List.flatMap_map]

end Placed

section Headed

variable {definitions : List Placed}

/-- The built-in and the defined types are there with their kinds. -/
theorem defines_iff_exists {name : String} {kind : Kind} :
    Defines (definitions.map Prod.snd) name kind ↔
      ∃ type ∈ builtinTypes ++ definedTypes definitions, type.name = name ∧ type.kind = kind := by
  constructor
  · intro h
    rcases h with ⟨hname, rfl⟩ | ⟨definition, hmem, rfl, rfl⟩
    · exact ⟨⟨name, .scalar, .builtin⟩,
        List.mem_append_left _ (List.mem_map.2 ⟨name, hname, rfl⟩), rfl, rfl⟩
    · obtain ⟨file, hplaced⟩ := mem_typeDefs.1 hmem
      exact ⟨.ofDef file definition, List.mem_append_right _
        (mem_definedTypes.2 ⟨file, definition, hplaced, rfl⟩), rfl,
        Content.kind_ofDef file definition⟩
  · rintro ⟨type, hmem, rfl, rfl⟩
    rcases List.mem_append.1 hmem with hbuiltin | hdefined
    · obtain ⟨name, hname, rfl⟩ := List.mem_map.1 hbuiltin
      exact Or.inl ⟨hname, rfl⟩
    · obtain ⟨file, definition, hplaced, rfl⟩ := mem_definedTypes.1 hdefined
      exact Or.inr ⟨definition, mem_typeDefs.2 ⟨file, hplaced⟩, rfl,
        (Content.kind_ofDef file definition).symm⟩

theorem exists_of_headers_eq {types more : List GraphType}
    (h : types.map (·.header) = more.map (·.header)) {type : GraphType} (hmem : type ∈ types) :
    ∃ type' ∈ more, type'.name = type.name ∧ type'.kind = type.kind ∧
      type'.location = type.location := by
  have hheader : type.header ∈ more.map (·.header) := h ▸ List.mem_map.2 ⟨type, hmem, rfl⟩
  obtain ⟨type', hmem', heq⟩ := List.mem_map.1 hheader
  simp only [GraphType.header, Prod.mk.injEq] at heq
  exact ⟨type', hmem', heq⟩

/-- The types are those that are built in and those that the definitions begin, as far as
extensions do not change them. -/
def Headed (types : List GraphType) (definitions : List Placed) : Prop :=
  types.map (·.header) = (builtinTypes ++ definedTypes definitions).map (·.header)

theorem Headed.defines_iff {types : List GraphType} (h : Headed types definitions) {name : String}
    {kind : Kind} :
    Defines (definitions.map Prod.snd) name kind ↔
      ∃ type ∈ types, type.name = name ∧ type.kind = kind := by
  rw [defines_iff_exists]
  constructor
  · rintro ⟨type, hmem, rfl, rfl⟩
    obtain ⟨type', hmem', hname, hkind, -⟩ := exists_of_headers_eq h.symm hmem
    exact ⟨type', hmem', hname, hkind⟩
  · rintro ⟨type, hmem, rfl, rfl⟩
    obtain ⟨type', hmem', hname, hkind, -⟩ := exists_of_headers_eq h hmem
    exact ⟨type', hmem', hname, hkind⟩

end Headed

section Loaded

variable {definitions : List Placed} {types : List GraphType} {roots : DeclaredRoots}

/-- An extension that fits is of a defined type. -/
theorem exists_definition_of_extension
    (h : Fits (builtinTypes ++ definedTypes definitions) (extensions definitions))
    {extension : Extension} (hmem : extension ∈ extensions definitions) :
    ∃ file definition, (file, .type definition) ∈ definitions ∧
      definition.name = extension.addition.name ∧
      kindOfBody definition.body = extension.kind := by
  obtain ⟨type, htype, hname, hkind, hscalar⟩ := h.kinds extension hmem
  rcases List.mem_append.1 htype with hbuiltin | hdefined
  · obtain ⟨name, -, rfl⟩ := List.mem_map.1 hbuiltin
    exact absurd rfl (hscalar rfl)
  · obtain ⟨file, definition, hplaced, rfl⟩ := mem_definedTypes.1 hdefined
    refine ⟨file, definition, hplaced, hname, ?_⟩
    rw [← hkind]
    exact (Content.kind_ofDef file definition).symm

/-- An extension of the name and kind of a definition is of a defined type. -/
theorem exists_extensible_definedType
    (h : ∀ addition ∈ additions (definitions.map Prod.snd),
      ∃ definition ∈ typeDefs (definitions.map Prod.snd), definition.name = addition.name ∧
        kindOfBody definition.body = kindOfBody addition.body)
    {extension : Extension} (hmem : extension ∈ extensions definitions) :
    ∃ type ∈ definedTypes definitions, type.name = extension.addition.name ∧
      type.Extensible extension.kind := by
  obtain ⟨definition, hdefinition, hname, hkind⟩ := h _ (mem_additions.2 ⟨extension, hmem, rfl⟩)
  obtain ⟨file, hplaced⟩ := mem_typeDefs.1 hdefinition
  refine ⟨_, mem_definedTypes.2 ⟨file, definition, hplaced, rfl⟩, hname, ?_, ?_⟩
  · exact (Content.kind_ofDef file definition).trans hkind
  · intro _ hlocation
    cases hlocation

/-- No extension is of a built-in type where all are of defined types, which have other names. -/
theorem ofType_extensions_of_mem_builtinTypes
    (hnames : ((builtinTypes ++ definedTypes definitions).map (·.name)).Nodup)
    (hdefined : ∀ extension ∈ extensions definitions,
      extension.addition.name ∈ (definedTypes definitions).map (·.name))
    {type : GraphType} (hmem : type ∈ builtinTypes) :
    ofType type.name (extensions definitions) = [] := by
  rw [List.eq_nil_iff_forall_not_mem]
  intro extension hextension
  obtain ⟨hin, hname⟩ := mem_ofType.1 hextension
  apply not_mem_names hnames (List.mem_map.2 ⟨type, hmem, rfl⟩)
  rw [← hname]
  exact hdefined extension hin

theorem fits_builtinTypes_iff
    (hnames : ((builtinTypes ++ definedTypes definitions).map (·.name)).Nodup) :
    Fits (builtinTypes ++ definedTypes definitions) (extensions definitions) ↔
      (∀ addition ∈ additions (definitions.map Prod.snd),
        ∃ definition ∈ typeDefs (definitions.map Prod.snd), definition.name = addition.name ∧
          kindOfBody definition.body = kindOfBody addition.body) ∧
      ∀ definition ∈ typeDefs (definitions.map Prod.snd),
        (definition.body.partNames ++ ((additions (definitions.map Prod.snd)).filter
          (·.name == definition.name)).flatMap (·.body.partNames)).Nodup := by
  constructor
  · intro h
    constructor
    · intro addition hmem
      obtain ⟨extension, hextension, rfl⟩ := mem_additions.1 hmem
      obtain ⟨file, definition, hplaced, hname, hkind⟩ :=
        exists_definition_of_extension h hextension
      exact ⟨definition, mem_typeDefs.2 ⟨file, hplaced⟩, hname, hkind⟩
    · intro definition hmem
      obtain ⟨file, hplaced⟩ := mem_typeDefs.1 hmem
      have htype := List.mem_append_right builtinTypes
        (mem_definedTypes.2 ⟨file, definition, hplaced, rfl⟩)
      have hparts := h.parts _ htype
      rw [flatMap_ofType_extensions] at hparts
      simpa [GraphType.ofDef] using hparts
  · rintro ⟨hkinds, hparts⟩
    constructor
    · intro extension hmem
      obtain ⟨type, htype, h⟩ := exists_extensible_definedType hkinds hmem
      exact ⟨type, List.mem_append_right _ htype, h⟩
    · intro type hmem
      rcases List.mem_append.1 hmem with hbuiltin | htype
      · have hdefined : ∀ extension ∈ extensions definitions,
            extension.addition.name ∈ (definedTypes definitions).map (·.name) := by
          intro extension hextension
          obtain ⟨type', htype', hname, -⟩ := exists_extensible_definedType hkinds hextension
          exact List.mem_map.2 ⟨type', htype', hname⟩
        rw [ofType_extensions_of_mem_builtinTypes hnames hdefined hbuiltin]
        -- a built-in type has no parts of its own either
        obtain ⟨name, -, rfl⟩ := List.mem_map.1 hbuiltin
        exact List.nodup_nil
      · obtain ⟨file, definition, hplaced, rfl⟩ := mem_definedTypes.1 htype
        rw [flatMap_ofType_extensions]
        simpa [GraphType.ofDef] using hparts definition (mem_typeDefs.2 ⟨file, hplaced⟩)

theorem Loaded.fits_builtinTypes (h : Loaded .empty definitions types roots) :
    Fits (builtinTypes ++ definedTypes definitions) (extensions definitions) := by
  have hfits : Fits (builtinTypes ++ definedTypes definitions) (extensions definitions ++ []) :=
    h.fits
  rwa [List.append_nil] at hfits

/-- Loading leaves the built-in types as they are. -/
theorem Loaded.types_eq (h : Loaded .empty definitions types roots) :
    types = builtinTypes ++ mergedTypes [] definitions := by
  have hdefined : ∀ extension ∈ extensions definitions,
      extension.addition.name ∈ (definedTypes definitions).map (·.name) := by
    intro extension hmem
    obtain ⟨file, definition, hplaced, hname, -⟩ :=
      exists_definition_of_extension h.fits_builtinTypes hmem
    exact List.mem_map.2 ⟨_, mem_definedTypes.2 ⟨file, definition, hplaced, rfl⟩, hname⟩
  have hbuiltin : extendedBy builtinTypes (extensions definitions) = builtinTypes := by
    rw [extendedBy]
    conv_rhs => rw [← List.map_id builtinTypes]
    apply List.map_congr_left
    intro type hmem
    rw [ofType_extensions_of_mem_builtinTypes h.names hdefined hmem]
    rfl
  have houtcome : types = extendedBy builtinTypes (extensions definitions ++ []) ++
      mergedTypes [] definitions := h.outcome
  rwa [List.append_nil, hbuiltin] at houtcome

theorem Loaded.headed (h : Loaded .empty definitions types roots) : Headed types definitions := by
  rw [Headed, h.types_eq, List.map_append, headers_mergedTypes, ← List.map_append]

/-- The built-in types are there and the defined ones with their kinds. -/
theorem Loaded.has_iff (h : Loaded .empty definitions types roots) {name : String} {kind : Kind} :
    Has types name kind ↔ Defines (definitions.map Prod.snd) name kind := by
  unfold Has
  rw [kindOf?_eq_some_iff h.names_nodup, h.headed.defines_iff]

theorem Loaded.has_eq (h : Loaded .empty definitions types roots) :
    Has types = Defines (definitions.map Prod.snd) := by
  funext name kind
  exact propext h.has_iff

/-- What a merged type refers to stands in its definition and in its extensions, before and after.
-/
theorem Loaded.typeErrors_eq_nil_iff (h : Loaded .empty definitions types roots)
    {before after : List Placed} {file : Option String} {definition : Sdl.TypeDef}
    (hsplit : definitions = before ++ (file, .type definition) :: after) :
    typeErrors types ((GraphType.ofDef file definition).extended
        (ofType definition.name (extensions after ++ ([] ++ extensions before)))) = [] ↔
      definition.body.Sound (Has types) ∧
        ∀ extension ∈ extensions definitions, extension.addition.name = definition.name →
          extension.addition.body.added.Sound (Has types) := by
  have hown (extension : Extension) :
      extension ∈ ofType definition.name (extensions after ++ ([] ++ extensions before)) ↔
        extension ∈ ofType definition.name (extensions definitions) := by
    simp only [mem_ofType, hsplit, extensions_append_type, List.mem_append, List.nil_append, or_comm]
  have hplaced : (file, .type definition) ∈ definitions := by simp [hsplit]
  have hmem := List.mem_append_right builtinTypes
    (mem_definedTypes.2 ⟨file, definition, hplaced, rfl⟩)
  rw [typeErrors_extended_eq_nil_iff, typeErrors_ofDef_eq_nil_iff]
  · simp only [hown, mem_ofType, and_imp]
  · intro extension hextension
    exact (h.fits_builtinTypes.extensible h.names hmem ((hown extension).1 hextension)).1.symm

/-- No reference is bad just if none is in a definition or an extension. -/
theorem Loaded.referenceErrors_eq_nil_iff (h : Loaded .empty definitions types roots) :
    referenceErrors types = [] ↔
      (∀ definition ∈ typeDefs (definitions.map Prod.snd), definition.body.Sound (Has types)) ∧
        ∀ addition ∈ additions (definitions.map Prod.snd),
          addition.body.added.Sound (Has types) := by
  unfold referenceErrors
  rw [List.flatMap_eq_nil_iff]
  constructor
  · intro hall
    have hdefinition {file : Option String} {definition : Sdl.TypeDef}
        (hplaced : (file, .type definition) ∈ definitions) :
        definition.body.Sound (Has types) ∧
          ∀ extension ∈ extensions definitions, extension.addition.name = definition.name →
            extension.addition.body.added.Sound (Has types) := by
      obtain ⟨before, after, hsplit⟩ := List.append_of_mem hplaced
      apply (h.typeErrors_eq_nil_iff hsplit).1
      apply hall
      rw [h.types_eq]
      exact List.mem_append_right _
        (mem_mergedTypes.2 ⟨before, file, definition, after, hsplit, rfl⟩)
    constructor
    · intro definition hmem
      obtain ⟨file, hplaced⟩ := mem_typeDefs.1 hmem
      exact (hdefinition hplaced).1
    · intro addition hmem
      obtain ⟨extension, hextension, rfl⟩ := mem_additions.1 hmem
      obtain ⟨file, definition, hplaced, hname, -⟩ :=
        exists_definition_of_extension h.fits_builtinTypes hextension
      exact (hdefinition hplaced).2 extension hextension hname.symm
  · rintro ⟨hdefinitions, hadditions⟩ type hmem
    rw [h.types_eq] at hmem
    rcases List.mem_append.1 hmem with hbuiltin | htype
    · obtain ⟨name, -, rfl⟩ := List.mem_map.1 hbuiltin
      rfl
    · obtain ⟨before, file, definition, after, hsplit, rfl⟩ := mem_mergedTypes.1 htype
      apply (h.typeErrors_eq_nil_iff hsplit).2
      refine ⟨hdefinitions definition (mem_typeDefs.2 ⟨file, by simp [hsplit]⟩), ?_⟩
      intro extension hextension _
      exact hadditions _ (mem_additions.2 ⟨extension, hextension, rfl⟩)

theorem Loaded.toList_of? (h : Loaded .empty definitions types roots) (operation : Operation) :
    (roots.of? operation).toList = declarations operation definitions := by
  rw [h.declared]
  cases operation <;> rfl

/-- The declared root types are object types just if schema blocks name object types. -/
theorem Loaded.forall_root_iff (h : Loaded .empty definitions types roots) (operation : Operation) :
    (∀ mention ∈ roots.of? operation, kindOf? types mention.name = some .object) ↔
      ∀ name ∈ rootNames (definitions.map Prod.snd) operation,
        Defines (definitions.map Prod.snd) name .object := by
  rw [← names_declarations, ← h.toList_of?, List.forall_mem_map]
  simp only [Option.mem_toList]
  exact forall₂_congr fun mention _ => h.has_iff

/-- There is a root type for queries just if one is declared or there by its usual name. -/
theorem Loaded.exists_query_iff (h : Loaded .empty definitions types roots) :
    (∃ query, Builder.rootName types .query roots.query = .ok (some query)) ↔
      (∀ name ∈ rootNames (definitions.map Prod.snd) .query,
        Defines (definitions.map Prod.snd) name .object) ∧
      (rootNames (definitions.map Prod.snd) .query ≠ [] ∨
        Defines (definitions.map Prod.snd) "Query" .object) := by
  simp only [Builder.rootName_eq_ok_iff]
  rw [exists_and_left, ← h.forall_root_iff]
  refine and_congr Iff.rfl ?_
  rw [← names_declarations, ← h.toList_of?, ← h.has_iff]
  change _ ↔ roots.query.toList.map (·.name) ≠ [] ∨ kindOf? types "Query" = some .object
  cases hquery : roots.query with
  | some mention => simp
  | none => simp [Operation.title, eq_comm]

end Loaded

/-- Acceptable definitions can be loaded. -/
theorem Acceptable.exists_loaded {definitions : List Placed}
    (h : Acceptable (definitions.map Prod.snd)) :
    ∃ types roots, Loaded .empty definitions types roots := by
  have hnames : ((builtinTypes ++ definedTypes definitions).map (·.name)).Nodup := by
    rw [List.map_append, names_definedTypes, List.nodup_append]
    refine ⟨by decide, h.names, ?_⟩
    -- definitions do not take the names of built-in types
    rintro name hbuiltin _ hdefined rfl
    obtain ⟨definition, hmem, rfl⟩ := List.mem_map.1 hdefined
    exact (h.unreserved definition hmem).1 hbuiltin
  have hroot (operation : Operation) : ∃ root : Option Mention,
      root.toList = declarations operation definitions := by
    have hlength := h.declared operation
    rw [← names_declarations, List.length_map] at hlength
    match declarations operation definitions, hlength with
    | [], _ => exact ⟨none, rfl⟩
    | [mention], _ => exact ⟨some mention, rfl⟩
  obtain ⟨query, hquery⟩ := hroot .query
  obtain ⟨mutation, hmutation⟩ := hroot .mutation
  obtain ⟨subscription, hsubscription⟩ := hroot .subscription
  refine ⟨extendedBy builtinTypes (extensions definitions ++ []) ++ mergedTypes [] definitions,
    ⟨query, mutation, subscription⟩, ?_⟩
  exact
    { names := hnames
      unreserved := by
        intro type hmem
        obtain ⟨file, definition, hplaced, rfl⟩ := mem_definedTypes.1 hmem
        have hunreserved := (h.unreserved definition (mem_typeDefs.2 ⟨file, hplaced⟩)).2
        exact Bool.eq_false_iff.2 fun heq => hunreserved (List.isPrefixOf_iff_prefix.1 heq)
      fits := by
        rw [show Builder.empty.waiting = [] from rfl, List.append_nil]
        exact (fits_builtinTypes_iff hnames).2 ⟨h.extended, h.parts⟩
      declared := by
        intro operation
        cases operation
        · exact hquery
        · exact hmutation
        · exact hsubscription
      outcome := rfl }

/-- Definitions that can be loaded are acceptable if the root types are there and no reference is
bad. -/
theorem Loaded.acceptable {definitions : List Placed} {types : List GraphType}
    {roots : DeclaredRoots} (h : Loaded .empty definitions types roots)
    (hroots : ∀ operation, ∀ mention ∈ roots.of? operation,
      kindOf? types mention.name = some .object)
    (hquery : ∃ query, Builder.rootName types .query roots.query = .ok (some query))
    (hreferences : referenceErrors types = []) :
    Acceptable (definitions.map Prod.snd) := by
  have hfits := (fits_builtinTypes_iff h.names).1 h.fits_builtinTypes
  have hsound := h.referenceErrors_eq_nil_iff.1 hreferences
  rw [h.has_eq] at hsound
  have hnames := h.names
  rw [List.map_append, names_definedTypes, List.nodup_append] at hnames
  exact
    { names := hnames.2.1
      unreserved := by
        intro definition hmem
        obtain ⟨file, hplaced⟩ := mem_typeDefs.1 hmem
        have hunreserved := h.unreserved _ (mem_definedTypes.2 ⟨file, definition, hplaced, rfl⟩)
        constructor
        · intro hbuiltin
          exact hnames.2.2 _ hbuiltin _ (List.mem_map.2 ⟨definition, hmem, rfl⟩) rfl
        · intro hprefix
          exact Bool.eq_false_iff.1 hunreserved (List.isPrefixOf_iff_prefix.2 hprefix)
      extended := hfits.1
      parts := hfits.2
      declared := by
        intro operation
        rw [← names_declarations, ← h.toList_of?, List.length_map]
        cases roots.of? operation <;> simp
      roots := fun operation => (h.forall_root_iff operation).1 (hroots operation)
      query := (h.exists_query_iff.1 hquery).2
      mentioned := hsound.1
      added := hsound.2 }

theorem acceptable_of_ofDocuments {documents : List (Option String × Sdl.Document)} {graph : Graph}
    (h : Graph.ofDocuments documents = .ok graph) : Acceptable (documents.flatMap Prod.snd) := by
  obtain ⟨roots, hloaded, hroots, hreferences⟩ := ofDocuments_eq_ok_iff.1 h
  rw [← map_snd_placed]
  apply hloaded.acceptable _ ⟨_, hroots .query⟩ hreferences
  intro operation
  exact (Builder.rootName_eq_ok_iff.1 (hroots operation)).1

theorem Acceptable.exists_ofDocuments {documents : List (Option String × Sdl.Document)}
    (h : Acceptable (documents.flatMap Prod.snd)) :
    ∃ graph, Graph.ofDocuments documents = .ok graph := by
  rw [← map_snd_placed] at h
  obtain ⟨types, roots, hloaded⟩ := h.exists_loaded
  obtain ⟨query, hquery⟩ := hloaded.exists_query_iff.2 ⟨h.roots .query, h.query⟩
  have hroot (operation : Operation) :
      ∃ root, Builder.rootName types operation (roots.of? operation) = .ok root :=
    ⟨_, Builder.rootName_eq_ok_iff.2
      ⟨(hloaded.forall_root_iff operation).2 (h.roots operation), rfl⟩⟩
  obtain ⟨mutation, hmutation⟩ := hroot .mutation
  obtain ⟨subscription, hsubscription⟩ := hroot .subscription
  have hreferences : referenceErrors types = [] := by
    rw [hloaded.referenceErrors_eq_nil_iff, hloaded.has_eq]
    exact ⟨h.mentioned, h.added⟩
  refine ⟨⟨types, query, mutation, subscription⟩,
    ofDocuments_eq_ok_iff.2 ⟨roots, hloaded, ?_, hreferences⟩⟩
  intro operation
  cases operation
  · exact hquery
  · exact hmutation
  · exact hsubscription

/-- A graph can be built from documents just if their definitions are acceptable. -/
theorem exists_ofDocuments_iff (documents : List (Option String × Sdl.Document)) :
    (∃ graph, Graph.ofDocuments documents = .ok graph) ↔
      Acceptable (documents.flatMap Prod.snd) := by
  constructor
  · rintro ⟨graph, h⟩
    exact acceptable_of_ofDocuments h
  · intro h
    exact h.exists_ofDocuments

end SchemaCoverage.Schema
