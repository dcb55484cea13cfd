import SchemaCoverage.Proofs.Schema.Merging
/-!
What definitions say taken together: the types that they begin, the extensions, and the root types
that they declare. A type takes the extensions that come after its definition first and then those
that came before.
-/
namespace SchemaCoverage.Schema

/-- A definition and the file where it stands. -/
abbrev Placed := Option String × Sdl.Definition

/-- The type that a definition begins, before any extension. -/
def GraphType.ofDef (file : Option String) (definition : Sdl.TypeDef) : GraphType :=
  ⟨definition.name, .ofDef file definition, .source file definition.position⟩

/-- The type that is defined there. -/
def definedType? : Placed → Option GraphType
  | (file, .type definition) => some (.ofDef file definition)
  | _ => none

/-- The extension that is written there. -/
def extension? : Placed → Option Extension
  | (file, .extension addition) => some ⟨file, addition⟩
  | _ => none

/-- The root type that a schema block names for an operation. -/
def rootOf? (operation : Operation) (block : Sdl.SchemaBlock) : Option String :=
  match operation with
  | .query => block.query
  | .mutation => block.mutation
  | .subscription => block.subscription

/-- The root type that is declared there for an operation. -/
def declaration? (operation : Operation) : Placed → Option Mention
  | (file, .schema block) =>
      (rootOf? operation block).map fun name => ⟨name, .source file block.position⟩
  | _ => none

/-- The root type that has been declared for an operation. -/
def DeclaredRoots.of? (roots : DeclaredRoots) : Operation → Option Mention
  | .query => roots.query
  | .mutation => roots.mutation
  | .subscription => roots.subscription

/-- The types that are defined, in order. -/
def definedTypes (definitions : List Placed) : List GraphType :=
  definitions.filterMap definedType?

/-- The extensions of any type, in order. -/
def extensions (definitions : List Placed) : List Extension :=
  definitions.filterMap extension?

/-- The root types declared for an operation, in order. -/
def declarations (operation : Operation) (definitions : List Placed) : List Mention :=
  definitions.filterMap (declaration? operation)

theorem declarations_cons (operation : Operation) (placed : Placed) (rest : List Placed) :
    declarations operation (placed :: rest) =
      (declaration? operation placed).toList ++ declarations operation rest := by
  unfold declarations
  rw [List.filterMap_cons]
  cases declaration? operation placed <;> rfl

/-- The defined types with all that is said of them, where some extensions came earlier. -/
def mergedTypes (earlier : List Extension) : List Placed → List GraphType
  | [] => []
  | (file, .type definition) :: rest =>
      (GraphType.ofDef file definition).extended
        (ofType definition.name (extensions rest ++ earlier)) :: mergedTypes earlier rest
  | (file, .extension addition) :: rest => mergedTypes (earlier ++ [⟨file, addition⟩]) rest
  | (_, .schema _) :: rest | (_, .directive) :: rest => mergedTypes earlier rest

/-- What is merged into the defined types does not change their names, kinds and places. -/
theorem headers_mergedTypes (earlier : List Extension) (definitions : List Placed) :
    (mergedTypes earlier definitions).map (·.header) =
      (definedTypes definitions).map (·.header) := by
  induction definitions generalizing earlier with
  | nil => rfl
  | cons first rest ih =>
      obtain ⟨file, definition⟩ := first
      cases definition with
      | type definition =>
          have hdefined : definedTypes ((file, .type definition) :: rest) =
              .ofDef file definition :: definedTypes rest := rfl
          rw [mergedTypes, hdefined, List.map_cons, List.map_cons, GraphType.header_extended, ih]
      | extension addition => exact ih _
      | schema block => exact ih _
      | directive => exact ih _

@[simp] theorem names_mergedTypes (earlier : List Extension) (definitions : List Placed) :
    (mergedTypes earlier definitions).map (·.name) = (definedTypes definitions).map (·.name) := by
  have hnames := congrArg (List.map Prod.fst) (headers_mergedTypes earlier definitions)
  simpa [Function.comp_def, GraphType.header] using hnames

@[simp] theorem extensions_append (first second : List Placed) :
    extensions (first ++ second) = extensions first ++ extensions second :=
  List.filterMap_append

theorem extensions_append_type (before after : List Placed) (file : Option String)
    (definition : Sdl.TypeDef) :
    extensions (before ++ (file, .type definition) :: after) =
      extensions before ++ extensions after := by
  rw [extensions_append]
  rfl

theorem mergedTypes_cons_of_definedType?_eq_none {placed : Placed} (h : definedType? placed = none)
    (earlier : List Extension) (rest : List Placed) :
    mergedTypes earlier (placed :: rest) = mergedTypes (earlier ++ extensions [placed]) rest := by
  obtain ⟨file, definition⟩ := placed
  cases definition with
  | type definition => cases h
  | extension addition => rfl
  | schema block => exact congrArg (mergedTypes · rest) (List.append_nil earlier).symm
  | directive => exact congrArg (mergedTypes · rest) (List.append_nil earlier).symm

/-- A defined type takes the extensions that come after it and then those that came before it. -/
theorem mem_mergedTypes {earlier : List Extension} {definitions : List Placed} {type : GraphType} :
    type ∈ mergedTypes earlier definitions ↔
      ∃ before file definition after, definitions = before ++ (file, .type definition) :: after ∧
        type = (GraphType.ofDef file definition).extended
          (ofType definition.name (extensions after ++ (earlier ++ extensions before))) := by
  induction definitions generalizing earlier with
  | nil => simp [mergedTypes]
  | cons head rest ih =>
      by_cases hhead : ∃ file definition, head = (file, .type definition)
      · obtain ⟨file, definition, rfl⟩ := hhead
        rw [mergedTypes, List.mem_cons, ih]
        constructor
        · intro h
          rcases h with rfl | ⟨before, file', definition', after, rfl, rfl⟩
          · refine ⟨[], file, definition, rest, rfl, ?_⟩
            rw [show extensions [] = [] from rfl, List.append_nil]
          · exact ⟨(file, .type definition) :: before, file', definition', after, rfl, rfl⟩
        · rintro ⟨before, file', definition', after, heq, rfl⟩
          cases before with
          | nil =>
              cases heq
              left
              rw [show extensions [] = [] from rfl, List.append_nil]
          | cons head' before =>
              obtain ⟨rfl, rfl⟩ := List.cons.inj heq
              exact Or.inr ⟨before, file', definition', after, rfl, rfl⟩
      · have hnone : definedType? head = none := by
          obtain ⟨file, definition⟩ := head
          cases definition <;> simp_all [definedType?]
        rw [mergedTypes_cons_of_definedType?_eq_none hnone, ih]
        constructor
        · rintro ⟨before, file, definition, after, rfl, rfl⟩
          refine ⟨head :: before, file, definition, after, rfl, ?_⟩
          rw [List.append_assoc, ← extensions_append, List.singleton_append]
        · rintro ⟨before, file, definition, after, heq, rfl⟩
          cases before with
          | nil => exact absurd ⟨file, definition, (List.cons.inj heq).1⟩ hhead
          | cons head' before =>
              obtain ⟨rfl, rfl⟩ := List.cons.inj heq
              refine ⟨before, file, definition, after, rfl, ?_⟩
              rw [List.append_assoc, ← extensions_append, List.singleton_append]

/-- Of the earlier extensions only those of the defined types count. -/
theorem mergedTypes_congr {first second : List Extension} {definitions : List Placed}
    (h : ∀ type ∈ definedTypes definitions, ofType type.name first = ofType type.name second) :
    mergedTypes first definitions = mergedTypes second definitions := by
  induction definitions generalizing first second with
  | nil => rfl
  | cons head rest ih =>
      obtain ⟨file, definition⟩ := head
      cases definition with
      | type definition =>
          have hown : ofType definition.name first = ofType definition.name second :=
            h (.ofDef file definition) List.mem_cons_self
          have hrest := ih fun type hmem => h type (List.mem_cons_of_mem _ hmem)
          simp only [mergedTypes, ofType_append, hown, hrest]
      | extension addition =>
          apply ih
          intro type hmem
          rw [ofType_append, ofType_append, h type hmem]
      | schema block => exact ih h
      | directive => exact ih h

theorem mergedTypes_append_of_not_mem {earlier : List Extension} {extension : Extension}
    {definitions : List Placed}
    (h : extension.addition.name ∉ (definedTypes definitions).map (·.name)) :
    mergedTypes (earlier ++ [extension]) definitions = mergedTypes earlier definitions := by
  apply mergedTypes_congr
  intro type hmem
  have hne : extension.addition.name ≠ type.name :=
    fun heq => h (List.mem_map.2 ⟨type, hmem, heq.symm⟩)
  rw [ofType_append, ofType_cons_of_ne hne, ofType_nil, List.append_nil]

/-- Extensions in the order in which they are taken up once all texts are loaded. -/
def ordered (extensions : List Extension) : List Extension :=
  Builder.extensionOrder.flatMap fun kind => extensions.filter (·.kind == kind)

theorem mem_ordered {extensions : List Extension} {extension : Extension} :
    extension ∈ ordered extensions ↔ extension ∈ extensions := by
  simp only [ordered, List.mem_flatMap, List.mem_filter, beq_iff_eq]
  constructor
  · rintro ⟨_, _, hmem, _⟩
    exact hmem
  · intro hmem
    exact ⟨extension.kind, by cases extension.kind <;> decide, hmem, rfl⟩

/-- Extensions of one kind of one type keep their order. -/
theorem ofType_ordered {name : String} {extensions : List Extension} {kind : Kind}
    (h : ∀ extension ∈ ofType name extensions, extension.kind = kind) :
    ofType name (ordered extensions) = ofType name extensions := by
  have hown : (ofType name extensions).filter (·.kind == kind) = ofType name extensions := by
    rw [List.filter_eq_self]
    simpa using h
  have hother (other : Kind) (hne : kind ≠ other) :
      (ofType name extensions).filter (·.kind == other) = [] := by
    rw [List.filter_eq_nil_iff]
    intro extension hmem
    simpa [h extension hmem] using hne
  have hfilter (other : Kind) : ofType name (extensions.filter (·.kind == other)) =
      (ofType name extensions).filter (·.kind == other) := by
    simp only [ofType, List.filter_filter, Bool.and_comm]
  simp only [ordered, Builder.extensionOrder, List.flatMap_cons, List.flatMap_nil, ofType_append,
    ofType_nil, hfilter]
  cases kind <;> simp [hown, hother]

theorem Fits.ofType_ordered {types : List GraphType} {extensions : List Extension}
    (h : Fits types extensions) (hnames : (types.map (·.name)).Nodup) {type : GraphType}
    (hmem : type ∈ types) : ofType type.name (ordered extensions) = ofType type.name extensions :=
  Schema.ofType_ordered fun _ hextension => (h.extensible hnames hmem hextension).1.symm

/-- Taking up extensions kind by kind changes nothing. -/
theorem fits_ordered_iff {types : List GraphType} {extensions : List Extension}
    (hnames : (types.map (·.name)).Nodup) :
    Fits types (ordered extensions) ↔ Fits types extensions := by
  constructor
  · intro h
    refine ⟨fun extension hmem => h.kinds extension (mem_ordered.2 hmem), ?_⟩
    intro type hmem
    have hkind : ∀ extension ∈ ofType type.name extensions, extension.kind = type.kind := by
      intro extension hextension
      obtain ⟨hin, hname⟩ := mem_ofType.1 hextension
      have hin' := mem_ofType.2 ⟨mem_ordered.2 hin, hname⟩
      exact (h.extensible hnames hmem hin').1.symm
    rw [← Schema.ofType_ordered hkind]
    exact h.parts type hmem
  · intro h
    refine ⟨fun extension hmem => h.kinds extension (mem_ordered.1 hmem), ?_⟩
    intro type hmem
    rw [h.ofType_ordered hnames hmem]
    exact h.parts type hmem

theorem extendedBy_ordered {types : List GraphType} {extensions : List Extension}
    (hnames : (types.map (·.name)).Nodup) (h : Fits types extensions) :
    extendedBy types (ordered extensions) = extendedBy types extensions := by
  apply List.map_congr_left
  intro type hmem
  rw [h.ofType_ordered hnames hmem]

end SchemaCoverage.Schema
