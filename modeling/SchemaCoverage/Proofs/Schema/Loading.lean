import SchemaCoverage.Proofs.Schema.Placed
/-!
Loading definitions one after the other. Whether an extension is added at once or waits for its type
makes no difference to what is accepted, and a difference only in order to what comes out.
-/
namespace SchemaCoverage.Schema

namespace Builder

/-- No name is used twice, neither for a type nor in a type. -/
structure Distinct (builder : Builder) : Prop where
  names : (builder.types.map (·.name)).Nodup
  parts : ∀ type ∈ builder.types, type.content.partNames.Nodup

theorem distinct_empty : empty.Distinct where
  names := by decide
  parts := by decide

/-- Takes one definition where it stands. -/
def addPlaced (builder : Builder) (placed : Placed) : Except BuildError Builder :=
  builder.addDefinition placed.1 placed.2

theorem addPlaced_type_eq_ok_iff {builder next : Builder} {file : Option String}
    {definition : Sdl.TypeDef} :
    builder.addPlaced (file, .type definition) = .ok next ↔
      definition.body.partNames.Nodup ∧ isReserved definition.name = false ∧
        definition.name ∉ builder.types.map (·.name) ∧
        next = { builder with types := builder.types ++ [.ofDef file definition] } := by
  have hfind : findType? builder.types definition.name = none ↔
      definition.name ∉ builder.types.map (·.name) := by
    simp [findType?]
  simp only [addPlaced, addDefinition, bind_eq_ok_iff, contentOf_eq_ok_iff, addType]
  constructor
  · rintro ⟨_, ⟨hparts, rfl⟩, hadd⟩
    split at hadd
    · cases hadd
    · next hreserved =>
        split at hadd
        · cases hadd
        · next hnew =>
            cases hadd
            exact ⟨hparts, by simpa using hreserved, hfind.1 hnew, rfl⟩
  · rintro ⟨hparts, hreserved, hnew, rfl⟩
    refine ⟨_, ⟨hparts, rfl⟩, ?_⟩
    simp [hreserved, hfind.2 hnew, GraphType.ofDef]

theorem addPlaced_extension_eq_ok_iff {builder next : Builder} {file : Option String}
    {addition : Sdl.TypeDef} (hdistinct : builder.Distinct) :
    builder.addPlaced (file, .extension addition) = .ok next ↔
      Fits builder.types [⟨file, addition⟩] ∧
          next = { builder with types := extendedBy builder.types [⟨file, addition⟩] } ∨
        addition.name ∉ builder.types.map (·.name) ∧
          next = { builder with waiting := builder.waiting ++ [⟨file, addition⟩] } := by
  simp only [addPlaced, addDefinition, addExtension, bind_eq_ok_iff]
  constructor
  · rintro ⟨found, hfound, hnext⟩
    cases found with
    | none =>
        cases hnext
        exact Or.inr ⟨extendTypes_eq_ok_none_iff.1 hfound, rfl⟩
    | some types =>
        obtain ⟨hfits, rfl⟩ :=
          (extendTypes_eq_ok_some_iff hdistinct.names hdistinct.parts).1 hfound
        cases hnext
        exact Or.inl ⟨hfits, rfl⟩
  · intro h
    rcases h with ⟨hfits, rfl⟩ | ⟨hnew, rfl⟩
    · exact ⟨_, (extendTypes_eq_ok_some_iff hdistinct.names hdistinct.parts).2 ⟨hfits, rfl⟩, rfl⟩
    · exact ⟨none, extendTypes_eq_ok_none_iff.2 hnew, rfl⟩

/-- A declaration is accepted just if the operation has only one. -/
theorem declareRoot_eq_ok_iff {operation : Operation} {existing declared root : Option Mention} :
    declareRoot operation existing declared = .ok root ↔
      root.toList = existing.toList ++ declared.toList := by
  cases existing <;> cases declared <;> cases root <;> simp [declareRoot]
  all_goals exact eq_comm

theorem addPlaced_schema_eq_ok_iff {builder next : Builder} {file : Option String}
    {block : Sdl.SchemaBlock} :
    builder.addPlaced (file, .schema block) = .ok next ↔
      next = { builder with roots := next.roots } ∧
      ∀ operation, (next.roots.of? operation).toList = (builder.roots.of? operation).toList ++
        (declaration? operation (file, .schema block)).toList := by
  simp only [addPlaced, addDefinition, addRoots, bind_eq_ok_iff, declareRoot_eq_ok_iff]
  constructor
  · rintro ⟨query, hquery, mutation, hmutation, subscription, hsubscription, hnext⟩
    cases hnext
    refine ⟨rfl, ?_⟩
    intro h
    rcases h with _ | _ | _
    · exact hquery
    · exact hmutation
    · exact hsubscription
  · rintro ⟨hnext, hroots⟩
    refine ⟨next.roots.query, hroots .query, next.roots.mutation, hroots .mutation,
      next.roots.subscription, hroots .subscription, ?_⟩
    exact congrArg Except.ok hnext.symm

/-- Each definition that is taken leaves names distinct. -/
theorem Distinct.addPlaced {builder next : Builder} (hdistinct : builder.Distinct)
    {placed : Placed} (h : builder.addPlaced placed = .ok next) : next.Distinct := by
  obtain ⟨file, definition⟩ := placed
  cases definition with
  | type definition =>
      obtain ⟨hparts, -, hnew, rfl⟩ := addPlaced_type_eq_ok_iff.1 h
      constructor
      · rw [List.map_append, List.map_singleton, ← List.concat_eq_append]
        exact hdistinct.names.concat hnew
      · intro type hmem
        rcases List.mem_append.1 hmem with hmem | hmem
        · exact hdistinct.parts type hmem
        · obtain rfl := List.mem_singleton.1 hmem
          rwa [GraphType.ofDef, Content.partNames_ofDef]
  | extension addition =>
      rcases (addPlaced_extension_eq_ok_iff hdistinct).1 h with ⟨hfits, rfl⟩ | ⟨-, rfl⟩
      · constructor
        · rw [names_extendedBy]
          exact hdistinct.names
        · exact hfits.extendedBy_partNames_nodup hdistinct.names
      · exact ⟨hdistinct.names, hdistinct.parts⟩
  | schema block =>
      rw [(addPlaced_schema_eq_ok_iff.1 h).1]
      exact ⟨hdistinct.names, hdistinct.parts⟩
  | directive =>
      cases h
      exact hdistinct

theorem extendedTypes_eq_ok_iff {builder : Builder} {types : List GraphType}
    (hdistinct : builder.Distinct) :
    builder.extendedTypes = .ok types ↔
      Fits builder.types builder.waiting ∧ types = extendedBy builder.types builder.waiting := by
  have hordered : builder.extendedTypes =
    (ordered builder.waiting).foldlM applyWaiting builder.types := rfl
  rw [hordered, foldlM_applyWaiting_eq_ok_iff hdistinct.names hdistinct.parts,
    fits_ordered_iff hdistinct.names]
  constructor
  · rintro ⟨hfits, rfl⟩
    exact ⟨hfits, extendedBy_ordered hdistinct.names hfits⟩
  · rintro ⟨hfits, rfl⟩
    exact ⟨hfits, (extendedBy_ordered hdistinct.names hfits).symm⟩

end Builder

/-- The definitions can be loaded where some are loaded already, and come to these types and
declared root types. -/
structure Loaded (builder : Builder) (definitions : List Placed) (types : List GraphType)
    (roots : DeclaredRoots) : Prop where
  names : ((builder.types ++ definedTypes definitions).map (·.name)).Nodup
  unreserved : ∀ type ∈ definedTypes definitions, isReserved type.name = false
  fits : Fits (builder.types ++ definedTypes definitions)
    (extensions definitions ++ builder.waiting)
  declared : ∀ operation, (roots.of? operation).toList =
    (builder.roots.of? operation).toList ++ declarations operation definitions
  outcome : types = extendedBy builder.types (extensions definitions ++ builder.waiting) ++
    mergedTypes builder.waiting definitions

/-- No two of the types that come out have the same name. -/
theorem Loaded.names_nodup {builder : Builder} {definitions : List Placed} {types : List GraphType}
    {roots : DeclaredRoots} (h : Loaded builder definitions types roots) :
    (types.map (·.name)).Nodup := by
  rw [h.outcome, List.map_append, names_extendedBy, names_mergedTypes, ← List.map_append]
  exact h.names

section Loaded

variable {builder : Builder} {file : Option String} {rest : List Placed}
  {types : List GraphType} {roots : DeclaredRoots}

theorem roots_eq_iff {first second : DeclaredRoots} :
    first = second ↔ ∀ operation, (first.of? operation).toList = (second.of? operation).toList := by
  constructor
  · rintro rfl operation
    rfl
  · intro h
    have hof (operation : Operation) : first.of? operation = second.of? operation := by
      simpa using congrArg List.head? (h operation)
    obtain ⟨query, mutation, subscription⟩ := first
    rw [DeclaredRoots.mk.injEq]
    exact ⟨hof .query, hof .mutation, hof .subscription⟩

theorem loaded_nil_iff (hdistinct : builder.Distinct) :
    Loaded builder [] types roots ↔
      builder.extendedTypes = .ok types ∧ builder.roots = roots := by
  rw [Builder.extendedTypes_eq_ok_iff hdistinct, @eq_comm _ builder.roots, roots_eq_iff]
  constructor
  · intro h
    have hfits : Fits builder.types builder.waiting := by
      simpa [definedTypes, extensions] using h.fits
    have houtcome : types = extendedBy builder.types builder.waiting := by
      simpa [extensions, mergedTypes] using h.outcome
    refine ⟨⟨hfits, houtcome⟩, fun operation => ?_⟩
    simpa [declarations] using h.declared operation
  · rintro ⟨⟨hfits, rfl⟩, hroots⟩
    exact
      { names := by simpa [definedTypes] using hdistinct.names
        unreserved := by simp [definedTypes]
        fits := by simpa [definedTypes, extensions] using hfits
        declared := by simpa [declarations] using hroots
        outcome := by simp [extensions, mergedTypes] }

theorem loaded_type_iff {definition : Sdl.TypeDef} :
    Loaded builder ((file, .type definition) :: rest) types roots ↔
      definition.body.partNames.Nodup ∧ isReserved definition.name = false ∧
        definition.name ∉ builder.types.map (·.name) ∧
        Loaded { builder with types := builder.types ++ [.ofDef file definition] } rest
          types roots := by
  have hall : builder.types ++ [.ofDef file definition] ++ definedTypes rest =
      builder.types ++ definedTypes ((file, .type definition) :: rest) := by
    simp [definedTypes, definedType?]
  have hmerged (extensions' : List Extension) :
      extendedBy (builder.types ++ [.ofDef file definition]) extensions' =
        extendedBy builder.types extensions' ++
          [(GraphType.ofDef file definition).extended (ofType definition.name extensions')] := by
    simp [extendedBy, GraphType.ofDef]
  constructor
  · intro h
    have hmem : GraphType.ofDef file definition ∈
        definedTypes ((file, .type definition) :: rest) := List.mem_cons_self
    have hparts := h.fits.partNames_nodup _ (List.mem_append_right builder.types hmem)
    have hnew : definition.name ∉ builder.types.map (·.name) := by
      intro hold
      exact not_mem_names h.names hold (List.mem_map.2 ⟨_, hmem, rfl⟩)
    refine ⟨by simpa [GraphType.ofDef] using hparts, h.unreserved _ hmem, hnew, ?_⟩
    exact
      { names := hall ▸ h.names
        unreserved := fun type htype => h.unreserved type (List.mem_cons_of_mem _ htype)
        fits := hall ▸ h.fits
        declared := h.declared
        outcome := by
          rw [h.outcome, hmerged, List.append_assoc]
          rfl }
  · rintro ⟨hparts, hreserved, hnew, h⟩
    exact
      { names := hall ▸ h.names
        unreserved := by
          intro type htype
          rcases List.mem_cons.1 htype with rfl | htype
          · exact hreserved
          · exact h.unreserved type htype
        fits := hall ▸ h.fits
        declared := h.declared
        outcome := by
          rw [h.outcome, hmerged, List.append_assoc]
          rfl }

theorem loaded_extension_of_mem {addition : Sdl.TypeDef}
    (hmem : addition.name ∈ builder.types.map (·.name)) :
    Loaded builder ((file, .extension addition) :: rest) types roots ↔
      Fits builder.types [⟨file, addition⟩] ∧
        Loaded { builder with types := extendedBy builder.types [⟨file, addition⟩] } rest
          types roots := by
  constructor
  · intro h
    have hnames : ((builder.types ++ definedTypes rest).map (·.name)).Nodup := h.names
    have hfits : Fits (builder.types ++ definedTypes rest)
        ([⟨file, addition⟩] ++ (extensions rest ++ builder.waiting)) := h.fits
    -- the extension is of a type that is there, so that types still to come are not changed by it
    rw [fits_append_iff hnames, fits_append_types_iff hnames hmem,
      extendedBy_append_types hnames hmem] at hfits
    refine ⟨hfits.1.1, ?_⟩
    exact
      { names := by simpa using hnames
        unreserved := h.unreserved
        fits := hfits.2
        declared := h.declared
        outcome := by
          rw [h.outcome, extendedBy_append, List.singleton_append]
          exact congrArg _ (mergedTypes_append_of_not_mem (not_mem_names hnames hmem)) }
  · rintro ⟨hfirst, h⟩
    have hnames : ((builder.types ++ definedTypes rest).map (·.name)).Nodup := by
      simpa using h.names
    have hmore := fun type htype =>
      h.fits.partNames_nodup type (List.mem_append_right _ htype)
    have hfits : Fits (builder.types ++ definedTypes rest)
        ([⟨file, addition⟩] ++ (extensions rest ++ builder.waiting)) := by
      rw [fits_append_iff hnames, fits_append_types_iff hnames hmem,
        extendedBy_append_types hnames hmem]
      exact ⟨⟨hfirst, hmore⟩, h.fits⟩
    exact
      { names := hnames
        unreserved := h.unreserved
        fits := hfits
        declared := h.declared
        outcome := by
          rw [h.outcome, extendedBy_append, List.singleton_append]
          exact congrArg _ (mergedTypes_append_of_not_mem (not_mem_names hnames hmem)).symm }

theorem loaded_extension_of_not_mem {addition : Sdl.TypeDef}
    (hmem : addition.name ∉ builder.types.map (·.name)) :
    Loaded builder ((file, .extension addition) :: rest) types roots ↔
      Loaded { builder with waiting := builder.waiting ++ [⟨file, addition⟩] } rest
        types roots := by
  have hperm : ((⟨file, addition⟩ : Extension) :: (extensions rest ++ builder.waiting)).Perm
      (extensions rest ++ (builder.waiting ++ [⟨file, addition⟩])) := by
    rw [← List.append_assoc]
    exact (List.perm_append_singleton _ _).symm
  have houtcome : extendedBy builder.types (⟨file, addition⟩ :: (extensions rest ++
      builder.waiting)) = extendedBy builder.types (extensions rest ++ (builder.waiting ++
      [⟨file, addition⟩])) := by
    apply List.map_congr_left
    intro type htype
    have hne : addition.name ≠ type.name :=
      fun heq => hmem (List.mem_map.2 ⟨type, htype, heq.symm⟩)
    rw [ofType_cons_of_ne hne, ← List.append_assoc, ofType_append _ _ [_], ofType_cons_of_ne hne,
      ofType_nil, List.append_nil]
  constructor
  · intro h
    exact
      { names := h.names
        unreserved := h.unreserved
        fits := h.fits.perm hperm
        declared := h.declared
        outcome := by
          rw [h.outcome, ← houtcome]
          rfl }
  · intro h
    exact
      { names := h.names
        unreserved := h.unreserved
        fits := h.fits.perm hperm.symm
        declared := h.declared
        outcome := by
          rw [h.outcome, ← houtcome]
          rfl }

/-- Where at most one declaration is left in all, at most one is there to begin with. -/
theorem exists_toList_eq {root : Option Mention} {first second : List Mention}
    (h : root.toList = first ++ second) : ∃ mention : Option Mention, mention.toList = first := by
  cases first with
  | nil => exact ⟨none, rfl⟩
  | cons mention more =>
      cases root with
      | none => cases h
      | some mention' =>
          obtain ⟨rfl, hmore⟩ := List.cons.inj h
          obtain ⟨rfl, -⟩ := List.append_eq_nil_iff.1 hmore.symm
          exact ⟨some mention', rfl⟩

theorem loaded_schema_iff {block : Sdl.SchemaBlock} :
    Loaded builder ((file, .schema block) :: rest) types roots ↔
      ∃ next : DeclaredRoots,
        (∀ operation, (next.of? operation).toList = (builder.roots.of? operation).toList ++
          (declaration? operation (file, .schema block)).toList) ∧
        Loaded { builder with roots := next } rest types roots := by
  constructor
  · intro h
    have hdeclared (operation : Operation) : (roots.of? operation).toList =
        (builder.roots.of? operation).toList ++
          (declaration? operation (file, .schema block)).toList ++ declarations operation rest := by
      rw [h.declared, declarations_cons, List.append_assoc]
    -- the rest may declare a root only where neither this block nor an earlier one does
    obtain ⟨query, hquery⟩ := exists_toList_eq (hdeclared .query)
    obtain ⟨mutation, hmutation⟩ := exists_toList_eq (hdeclared .mutation)
    obtain ⟨subscription, hsubscription⟩ := exists_toList_eq (hdeclared .subscription)
    have hnext (operation : Operation) :
        ((⟨query, mutation, subscription⟩ : DeclaredRoots).of? operation).toList =
          (builder.roots.of? operation).toList ++
            (declaration? operation (file, .schema block)).toList := by
      cases operation
      · exact hquery
      · exact hmutation
      · exact hsubscription
    refine ⟨_, hnext, ?_⟩
    exact
      { names := h.names
        unreserved := h.unreserved
        fits := h.fits
        declared := by
          intro operation
          rw [hdeclared, hnext]
        outcome := h.outcome }
  · rintro ⟨next, hnext, h⟩
    exact
      { names := h.names
        unreserved := h.unreserved
        fits := h.fits
        declared := by
          intro operation
          rw [h.declared, hnext, declarations_cons, List.append_assoc]
        outcome := h.outcome }

theorem loaded_directive_iff :
    Loaded builder ((file, .directive) :: rest) types roots ↔ Loaded builder rest types roots := by
  constructor
  · intro h
    exact ⟨h.names, h.unreserved, h.fits, h.declared, h.outcome⟩
  · intro h
    exact ⟨h.names, h.unreserved, h.fits, h.declared, h.outcome⟩

end Loaded

/-- What all definitions come to is what the rest comes to once the first is taken. -/
theorem loaded_cons_iff {builder : Builder} (hdistinct : builder.Distinct) {placed : Placed}
    {rest : List Placed} {types : List GraphType} {roots : DeclaredRoots} :
    Loaded builder (placed :: rest) types roots ↔
      ∃ next, builder.addPlaced placed = .ok next ∧ Loaded next rest types roots := by
  obtain ⟨file, definition⟩ := placed
  cases definition with
  | type definition =>
      simp only [Builder.addPlaced_type_eq_ok_iff, loaded_type_iff]
      constructor
      · rintro ⟨hparts, hreserved, hnew, h⟩
        exact ⟨_, ⟨hparts, hreserved, hnew, rfl⟩, h⟩
      · rintro ⟨_, ⟨hparts, hreserved, hnew, rfl⟩, h⟩
        exact ⟨hparts, hreserved, hnew, h⟩
  | extension addition =>
      simp only [Builder.addPlaced_extension_eq_ok_iff hdistinct]
      by_cases hmem : addition.name ∈ builder.types.map (·.name)
      · rw [loaded_extension_of_mem hmem]
        constructor
        · rintro ⟨hfits, h⟩
          exact ⟨_, Or.inl ⟨hfits, rfl⟩, h⟩
        · intro hgiven
          rcases hgiven with ⟨_, ⟨hfits, rfl⟩ | ⟨hnew, _⟩, h⟩
          · exact ⟨hfits, h⟩
          · exact absurd hmem hnew
      · rw [loaded_extension_of_not_mem hmem]
        constructor
        · intro h
          exact ⟨_, Or.inr ⟨hmem, rfl⟩, h⟩
        · intro hgiven
          rcases hgiven with ⟨_, ⟨hfits, _⟩ | ⟨_, rfl⟩, h⟩
          · -- an extension that fits at once is of a type that is there
            obtain ⟨type, htype, hname, _⟩ := hfits.kinds _ List.mem_cons_self
            exact absurd (List.mem_map.2 ⟨type, htype, hname⟩) hmem
          · exact h
  | schema block =>
      simp only [Builder.addPlaced_schema_eq_ok_iff, loaded_schema_iff]
      constructor
      · rintro ⟨roots', hroots, h⟩
        exact ⟨{ builder with roots := roots' }, ⟨rfl, hroots⟩, h⟩
      · rintro ⟨next, ⟨hnext, hroots⟩, h⟩
        rw [hnext] at h
        exact ⟨next.roots, hroots, h⟩
  | directive =>
      rw [loaded_directive_iff]
      constructor
      · intro h
        exact ⟨builder, rfl, h⟩
      · rintro ⟨_, hnext, h⟩
        cases hnext
        exact h

/-- Loading definitions and then taking up what waits gives types and declared root types under
just these conditions. -/
theorem loaded_iff {definitions : List Placed} {builder : Builder} (hdistinct : builder.Distinct)
    {types : List GraphType} {roots : DeclaredRoots} :
    Loaded builder definitions types roots ↔
      ∃ loaded, definitions.foldlM Builder.addPlaced builder = .ok loaded ∧
        loaded.extendedTypes = .ok types ∧ loaded.roots = roots := by
  induction definitions generalizing builder with
  | nil =>
      rw [loaded_nil_iff hdistinct]
      constructor
      · intro h
        exact ⟨builder, rfl, h⟩
      · rintro ⟨loaded, hloaded, h⟩
        cases hloaded
        exact h
  | cons first rest ih =>
      rw [loaded_cons_iff hdistinct]
      simp only [List.foldlM_cons, bind_eq_ok_iff]
      constructor
      · rintro ⟨next, hnext, hrest⟩
        obtain ⟨loaded, hloaded, h⟩ := (ih (hdistinct.addPlaced hnext)).1 hrest
        exact ⟨loaded, ⟨next, hnext, hloaded⟩, h⟩
      · rintro ⟨loaded, ⟨next, hnext, hloaded⟩, h⟩
        exact ⟨next, hnext, (ih (hdistinct.addPlaced hnext)).2 ⟨loaded, hloaded, h⟩⟩

end SchemaCoverage.Schema
