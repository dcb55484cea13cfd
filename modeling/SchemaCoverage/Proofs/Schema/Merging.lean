import SchemaCoverage.Proofs.Schema.Extending
import Mathlib.Data.List.Nodup
/-!
Extending the types of a list. Extensions find their types by name, so that their order matters for
each type alone: what a type comes to is what its own extensions make of it.
-/
namespace SchemaCoverage.Schema

/-- The type with several extensions added in order. -/
def GraphType.extended (type : GraphType) (extensions : List Extension) : GraphType :=
  { type with content := extensions.foldl Content.extended type.content }

namespace GraphType

@[simp] theorem extended_nil (type : GraphType) : type.extended [] = type := rfl

@[simp] theorem name_extended (type : GraphType) (extensions : List Extension) :
    (type.extended extensions).name = type.name := rfl

@[simp] theorem location_extended (type : GraphType) (extensions : List Extension) :
    (type.extended extensions).location = type.location := rfl

@[simp] theorem extended_extended (type : GraphType) (first second : List Extension) :
    (type.extended first).extended second = type.extended (first ++ second) := by
  simp [extended]

@[simp] theorem kind_extended (type : GraphType) (extensions : List Extension) :
    (type.extended extensions).kind = type.kind := by
  unfold extended kind
  generalize type.content = content
  induction extensions generalizing content with
  | nil => rfl
  | cons first rest ih => rw [List.foldl_cons, ih, Content.kind_extended]

/-- What no extension changes of a type: its name, its kind and its place. -/
def header (type : GraphType) : String × Kind × Location :=
  (type.name, type.kind, type.location)

@[simp] theorem header_extended (type : GraphType) (extensions : List Extension) :
    (type.extended extensions).header = type.header := by
  simp [header]

@[simp] theorem extensible_extended {type : GraphType} {extensions : List Extension} {kind : Kind} :
    (type.extended extensions).Extensible kind ↔ type.Extensible kind := by
  simp [Extensible]

/-- What extensions of the kind of a type do to some view of the type, if each adds its own parts to
it. -/
theorem view_extended {α β : Type} (view : GraphType → β) (parts : Extension → List α)
    {add : β → List α → β} (hnil : ∀ b, add b [] = b)
    (happend : ∀ b first second, add (add b first) second = add b (first ++ second))
    (hstep : ∀ {type : GraphType} {extension : Extension}, extension.kind = type.kind →
      view (type.extended [extension]) = add (view type) (parts extension))
    {type : GraphType} {extensions : List Extension}
    (h : ∀ extension ∈ extensions, extension.kind = type.kind) :
    view (type.extended extensions) = add (view type) (extensions.flatMap parts) := by
  induction extensions generalizing type with
  | nil => exact (hnil _).symm
  | cons first rest ih =>
      have hrest : ∀ extension ∈ rest, extension.kind = (type.extended [first]).kind := by
        intro extension hmem
        rw [kind_extended]
        exact h extension (List.mem_cons_of_mem _ hmem)
      have htype : type.extended (first :: rest) = (type.extended [first]).extended rest := by simp
      rw [htype, ih hrest, hstep (h first List.mem_cons_self), happend, List.flatMap_cons]

theorem partNames_extended {type : GraphType} {extensions : List Extension}
    (h : ∀ extension ∈ extensions, extension.kind = type.kind) :
    (type.extended extensions).content.partNames =
      type.content.partNames ++ extensions.flatMap (·.addition.body.partNames) :=
  view_extended (·.content.partNames) (·.addition.body.partNames) List.append_nil
    List.append_assoc Content.partNames_extended h

end GraphType

/-- The extensions of the type of a name, in order. -/
def ofType (name : String) (extensions : List Extension) : List Extension :=
  extensions.filter (·.addition.name == name)

theorem mem_ofType {name : String} {extensions : List Extension} {extension : Extension} :
    extension ∈ ofType name extensions ↔
      extension ∈ extensions ∧ extension.addition.name = name := by
  simp [ofType]

@[simp] theorem ofType_nil (name : String) : ofType name [] = [] := rfl

@[simp] theorem ofType_append (name : String) (first second : List Extension) :
    ofType name (first ++ second) = ofType name first ++ ofType name second :=
  List.filter_append _ _

theorem ofType_cons_self {name : String} {extension : Extension}
    (h : extension.addition.name = name) (rest : List Extension) :
    ofType name (extension :: rest) = extension :: ofType name rest :=
  List.filter_cons_of_pos (by simpa using h)

theorem ofType_cons_of_ne {name : String} {extension : Extension}
    (h : extension.addition.name ≠ name) (rest : List Extension) :
    ofType name (extension :: rest) = ofType name rest :=
  List.filter_cons_of_neg (by simpa using h)

/-- The types can take all the extensions: each extension is of a type of its kind, and all names of
fields or members that come together in one type are distinct. -/
structure Fits (types : List GraphType) (extensions : List Extension) : Prop where
  kinds : ∀ extension ∈ extensions, ∃ type ∈ types, type.name = extension.addition.name ∧
    type.Extensible extension.kind
  parts : ∀ type ∈ types, (type.content.partNames ++
    (ofType type.name extensions).flatMap (·.addition.body.partNames)).Nodup

/-- The types with the extensions added, each to the types of its name. -/
def extendedBy (types : List GraphType) (extensions : List Extension) : List GraphType :=
  types.map fun type => type.extended (ofType type.name extensions)

@[simp] theorem names_extendedBy (types : List GraphType) (extensions : List Extension) :
    (extendedBy types extensions).map (·.name) = types.map (·.name) := by
  simp [extendedBy, Function.comp_def]

/-- Extensions may be added one after the other. -/
theorem extendedBy_append (types : List GraphType) (first second : List Extension) :
    extendedBy (extendedBy types first) second = extendedBy types (first ++ second) := by
  simp [extendedBy, Function.comp_def]

theorem Fits.partNames_nodup {types : List GraphType} {extensions : List Extension}
    (h : Fits types extensions) : ∀ type ∈ types, type.content.partNames.Nodup :=
  fun type hmem => (List.nodup_append.1 (h.parts type hmem)).1

/-- Whether extensions fit does not depend on their order. -/
theorem Fits.perm {types : List GraphType} {first second : List Extension}
    (h : Fits types first) (hperm : first.Perm second) : Fits types second where
  kinds extension hmem := h.kinds extension (hperm.mem_iff.2 hmem)
  parts type hmem := by
    have hnames := (hperm.filter (·.addition.name == type.name)).flatMap_right
      (·.addition.body.partNames)
    exact ((List.Perm.append_left type.content.partNames hnames).nodup_iff).1 (h.parts type hmem)

/-- Two types of a list with distinct names are one if they have the same name. -/
theorem eq_of_name_eq {types : List GraphType} (hnames : (types.map (·.name)).Nodup)
    {type type' : GraphType} (hmem : type ∈ types) (hmem' : type' ∈ types)
    (h : type.name = type'.name) : type = type' :=
  List.inj_on_of_nodup_map hnames hmem hmem' h

/-- A name of one part of such a list is not a name of the other. -/
theorem not_mem_names {types more : List GraphType}
    (hnames : ((types ++ more).map (·.name)).Nodup) {name : String}
    (hmem : name ∈ types.map (·.name)) : name ∉ more.map (·.name) := by
  rw [List.map_append, List.nodup_append] at hnames
  intro hmore
  exact hnames.2.2 name hmem name hmore rfl

theorem Fits.extensible {types : List GraphType} {extensions : List Extension}
    (h : Fits types extensions) (hnames : (types.map (·.name)).Nodup) {type : GraphType}
    (hmem : type ∈ types) {extension : Extension}
    (hextension : extension ∈ ofType type.name extensions) : type.Extensible extension.kind := by
  obtain ⟨hin, hname⟩ := mem_ofType.1 hextension
  obtain ⟨type', hmem', hname', hkind⟩ := h.kinds extension hin
  rwa [eq_of_name_eq hnames hmem hmem' (hname.symm.trans hname'.symm)]

/-- The names that come together in a type are its own and those of its extensions. -/
theorem Fits.partNames_extended {types : List GraphType} {extensions : List Extension}
    (h : Fits types extensions) (hnames : (types.map (·.name)).Nodup) {type : GraphType}
    (hmem : type ∈ types) :
    (type.extended (ofType type.name extensions)).content.partNames =
      type.content.partNames ++
        (ofType type.name extensions).flatMap (·.addition.body.partNames) :=
  GraphType.partNames_extended fun _ hextension => (h.extensible hnames hmem hextension).1.symm

/-- Extensions fit together just if the first of them fit and the others fit after them. -/
theorem fits_append_iff {types : List GraphType} {first second : List Extension}
    (hnames : (types.map (·.name)).Nodup) :
    Fits types (first ++ second) ↔
      Fits types first ∧ Fits (extendedBy types first) second := by
  constructor
  · intro h
    have hfirst : Fits types first := by
      refine ⟨fun extension hmem => h.kinds extension (List.mem_append_left _ hmem), ?_⟩
      intro type hmem
      have hparts := h.parts type hmem
      rw [ofType_append, List.flatMap_append, ← List.append_assoc] at hparts
      exact (List.nodup_append.1 hparts).1
    refine ⟨hfirst, ?_, ?_⟩
    · intro extension hmem
      obtain ⟨type, htype, hname, hkind⟩ := h.kinds extension (List.mem_append_right _ hmem)
      refine ⟨_, List.mem_map.2 ⟨type, htype, rfl⟩, hname, ?_⟩
      rwa [GraphType.extensible_extended]
    · intro type' hmem'
      obtain ⟨type, hmem, rfl⟩ := List.mem_map.1 hmem'
      rw [hfirst.partNames_extended hnames hmem, GraphType.name_extended, List.append_assoc,
        ← List.flatMap_append, ← ofType_append]
      exact h.parts type hmem
  · rintro ⟨hfirst, hsecond⟩
    refine ⟨?_, ?_⟩
    · intro extension hmem
      rcases List.mem_append.1 hmem with hmem | hmem
      · exact hfirst.kinds extension hmem
      · obtain ⟨type', htype', hname, hkind⟩ := hsecond.kinds extension hmem
        obtain ⟨type, htype, rfl⟩ := List.mem_map.1 htype'
        exact ⟨type, htype, hname, GraphType.extensible_extended.1 hkind⟩
    · intro type hmem
      have hparts := hsecond.parts _ (List.mem_map.2 ⟨type, hmem, rfl⟩)
      rwa [hfirst.partNames_extended hnames hmem, GraphType.name_extended, List.append_assoc,
        ← List.flatMap_append, ← ofType_append] at hparts

/-- Fitting extensions leave the names in each type distinct. -/
theorem Fits.extendedBy_partNames_nodup {types : List GraphType} {extensions : List Extension}
    (h : Fits types extensions) (hnames : (types.map (·.name)).Nodup) :
    ∀ type ∈ extendedBy types extensions, type.content.partNames.Nodup := by
  rw [← List.append_nil extensions, fits_append_iff hnames] at h
  exact h.2.partNames_nodup

theorem fits_nil_iff {types : List GraphType} :
    Fits types [] ↔ ∀ type ∈ types, type.content.partNames.Nodup := by
  constructor
  · exact Fits.partNames_nodup
  · intro h
    exact ⟨by simp, by simpa using h⟩

/-- One extension fits just if the type of its name takes it. -/
theorem fits_singleton_iff {types : List GraphType} {extension : Extension}
    (hnames : (types.map (·.name)).Nodup)
    (hparts : ∀ type ∈ types, type.content.partNames.Nodup) :
    Fits types [extension] ↔ ∃ type ∈ types, type.name = extension.addition.name ∧
      type.Extensible extension.kind ∧
      (type.content.partNames ++ extension.addition.body.partNames).Nodup := by
  constructor
  · intro h
    obtain ⟨type, hmem, hname, hkind⟩ := h.kinds extension List.mem_cons_self
    have hparts := h.parts type hmem
    rw [ofType_cons_self hname.symm] at hparts
    exact ⟨type, hmem, hname, hkind, by simpa using hparts⟩
  · rintro ⟨type, hmem, hname, hkind, hdistinct⟩
    constructor
    · intro extension' hextension
      obtain rfl := List.mem_singleton.1 hextension
      exact ⟨type, hmem, hname, hkind⟩
    · intro type' hmem'
      by_cases hname' : extension.addition.name = type'.name
      · obtain rfl := eq_of_name_eq hnames hmem hmem' (hname.trans hname')
        rw [ofType_cons_self hname']
        simpa using hdistinct
      · rw [ofType_cons_of_ne hname']
        simpa using hparts type' hmem'

/-- An extension whose type is not there changes nothing. -/
theorem extendedBy_of_not_mem {types : List GraphType} {extension : Extension}
    (h : extension.addition.name ∉ types.map (·.name)) : extendedBy types [extension] = types := by
  have hsame : ∀ type ∈ types, type.extended (ofType type.name [extension]) = id type := by
    intro type hmem
    have hne : extension.addition.name ≠ type.name :=
      fun heq => h (List.mem_map.2 ⟨type, hmem, heq.symm⟩)
    rw [ofType_cons_of_ne hne]
    rfl
  rw [extendedBy, List.map_congr_left hsame, List.map_id]

theorem extendedBy_cons_self {type : GraphType} {rest : List GraphType} {extension : Extension}
    (hname : type.name = extension.addition.name)
    (hnames : ((type :: rest).map (·.name)).Nodup) :
    extendedBy (type :: rest) [extension] = type.extended [extension] :: rest := by
  have hnew : extension.addition.name ∉ rest.map (·.name) :=
    hname ▸ (List.nodup_cons.1 hnames).1
  have hrest := extendedBy_of_not_mem hnew
  simp only [extendedBy] at hrest
  rw [extendedBy, List.map_cons, hrest, ofType_cons_self hname.symm, ofType_nil]

theorem extendedBy_cons_of_ne {type : GraphType} {rest : List GraphType} {extension : Extension}
    (hname : type.name ≠ extension.addition.name) :
    extendedBy (type :: rest) [extension] = type :: extendedBy rest [extension] := by
  rw [extendedBy, List.map_cons, ofType_cons_of_ne (Ne.symm hname)]
  rfl

theorem fits_append_types_iff {types more : List GraphType} {extension : Extension}
    (hnames : ((types ++ more).map (·.name)).Nodup)
    (hmem : extension.addition.name ∈ types.map (·.name)) :
    Fits (types ++ more) [extension] ↔
      Fits types [extension] ∧ ∀ type ∈ more, type.content.partNames.Nodup := by
  have hne : ∀ type ∈ more, extension.addition.name ≠ type.name := by
    intro type htype heq
    exact not_mem_names hnames hmem (List.mem_map.2 ⟨type, htype, heq.symm⟩)
  constructor
  · intro h
    refine ⟨⟨?_, fun type htype => h.parts type (List.mem_append_left _ htype)⟩, ?_⟩
    · intro extension' hextension
      obtain rfl := List.mem_singleton.1 hextension
      obtain ⟨type, htype, hname, hkind⟩ := h.kinds extension' hextension
      rcases List.mem_append.1 htype with htype | htype
      · exact ⟨type, htype, hname, hkind⟩
      · exact absurd hname.symm (hne type htype)
    · intro type htype
      exact h.partNames_nodup type (List.mem_append_right _ htype)
  · rintro ⟨h, hmore⟩
    constructor
    · intro extension' hextension
      obtain ⟨type, htype, hname, hkind⟩ := h.kinds extension' hextension
      exact ⟨type, List.mem_append_left _ htype, hname, hkind⟩
    · intro type htype
      rcases List.mem_append.1 htype with htype | htype
      · exact h.parts type htype
      · rw [ofType_cons_of_ne (hne type htype)]
        simpa using hmore type htype

theorem extendedBy_append_types {types more : List GraphType} {extension : Extension}
    (hnames : ((types ++ more).map (·.name)).Nodup)
    (hmem : extension.addition.name ∈ types.map (·.name)) :
    extendedBy (types ++ more) [extension] = extendedBy types [extension] ++ more := by
  have hmore := extendedBy_of_not_mem (not_mem_names hnames hmem)
  rw [extendedBy] at hmore
  rw [extendedBy, List.map_append, hmore, extendedBy]

theorem extendTypes_eq_ok_none_iff {types : List GraphType} {extension : Extension} :
    extendTypes types extension = .ok none ↔ extension.addition.name ∉ types.map (·.name) := by
  induction types with
  | nil => simp [extendTypes]
  | cons type rest ih =>
      unfold extendTypes
      split
      · next hname => simp [exceptMap_eq_ok_iff, hname]
      · next hname => simp [exceptMap_eq_ok_iff, ih, Ne.symm hname]

/-- An extension of a type that is there is added to it if it fits. -/
theorem extendTypes_eq_ok_some_iff {types result : List GraphType} {extension : Extension}
    (hnames : (types.map (·.name)).Nodup)
    (hparts : ∀ type ∈ types, type.content.partNames.Nodup) :
    extendTypes types extension = .ok (some result) ↔
      Fits types [extension] ∧ result = extendedBy types [extension] := by
  rw [fits_singleton_iff hnames hparts]
  induction types generalizing result with
  | nil => simp [extendTypes]
  | cons type rest ih =>
      obtain ⟨hnew, hrest⟩ := List.nodup_cons.1 hnames
      have hparts' := fun type' hmem => hparts type' (List.mem_cons_of_mem type hmem)
      unfold extendTypes
      split
      · next hname =>
          rw [extendedBy_cons_self hname hnames, exceptMap_eq_ok_iff]
          constructor
          · rintro ⟨type', hextend, hresult⟩
            obtain ⟨hkind, hdistinct, rfl⟩ :=
              (extend_eq_ok_iff (hparts type List.mem_cons_self)).1 hextend
            exact ⟨⟨type, List.mem_cons_self, hname, hkind, hdistinct⟩,
              (Option.some.inj hresult).symm⟩
          · rintro ⟨⟨type', hmem, hname', hkind, hdistinct⟩, rfl⟩
            obtain rfl := eq_of_name_eq hnames List.mem_cons_self hmem (hname.trans hname'.symm)
            exact ⟨_, (extend_eq_ok_iff (hparts type hmem)).2 ⟨hkind, hdistinct, rfl⟩, rfl⟩
      · next hname =>
          rw [extendedBy_cons_of_ne hname, exceptMap_eq_ok_iff]
          constructor
          · rintro ⟨found, hfound, hresult⟩
            cases found with
            | none => cases hresult
            | some types' =>
                obtain ⟨⟨type', hmem, hname', hkind, hdistinct⟩, rfl⟩ :=
                  (ih hrest hparts').1 hfound
                exact ⟨⟨type', List.mem_cons_of_mem _ hmem, hname', hkind, hdistinct⟩,
                  (Option.some.inj hresult).symm⟩
          · rintro ⟨⟨type', hmem, hname', hkind, hdistinct⟩, rfl⟩
            rcases List.mem_cons.1 hmem with rfl | hmem
            · exact absurd hname' hname
            · exact ⟨_, (ih hrest hparts').2
                ⟨⟨type', hmem, hname', hkind, hdistinct⟩, rfl⟩, rfl⟩

theorem applyWaiting_eq_ok_iff {types result : List GraphType} {extension : Extension} :
    Builder.applyWaiting types extension = .ok result ↔
      extendTypes types extension = .ok (some result) := by
  unfold Builder.applyWaiting
  rw [bind_eq_ok_iff]
  constructor
  · rintro ⟨found, hfound, hresult⟩
    cases found with
    | none => cases hresult
    | some types' =>
        cases hresult
        exact hfound
  · exact fun h => ⟨_, h, rfl⟩

/-- Extensions that have waited are all added if they fit. -/
theorem foldlM_applyWaiting_eq_ok_iff {types result : List GraphType}
    {extensions : List Extension} (hnames : (types.map (·.name)).Nodup)
    (hparts : ∀ type ∈ types, type.content.partNames.Nodup) :
    extensions.foldlM Builder.applyWaiting types = .ok result ↔
      Fits types extensions ∧ result = extendedBy types extensions := by
  induction extensions generalizing types with
  | nil =>
      rw [fits_nil_iff]
      simp only [List.foldlM_nil, pure, Except.pure, Except.ok.injEq, extendedBy, ofType_nil,
        GraphType.extended_nil, List.map_id_fun', id_eq, @eq_comm _ result]
      exact ⟨fun h => ⟨hparts, h⟩, fun h => h.2⟩
  | cons first rest ih =>
      have hnames' : ((extendedBy types [first]).map (·.name)).Nodup := by
        rwa [names_extendedBy]
      rw [List.foldlM_cons, bind_eq_ok_iff, ← List.singleton_append, fits_append_iff hnames]
      simp only [applyWaiting_eq_ok_iff, extendTypes_eq_ok_some_iff hnames hparts]
      constructor
      · rintro ⟨_, ⟨hfirst, rfl⟩, hrest⟩
        obtain ⟨hfits, rfl⟩ := (ih hnames' (hfirst.extendedBy_partNames_nodup hnames)).1 hrest
        exact ⟨⟨hfirst, hfits⟩, extendedBy_append types [first] rest⟩
      · rintro ⟨⟨hfirst, hrest⟩, rfl⟩
        refine ⟨_, ⟨hfirst, rfl⟩, (ih hnames' hrest.partNames_nodup).2 ⟨hrest, ?_⟩⟩
        exact (extendedBy_append types [first] rest).symm

end SchemaCoverage.Schema
