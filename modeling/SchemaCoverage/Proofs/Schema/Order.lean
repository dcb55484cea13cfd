import SchemaCoverage.Proofs.Schema.WellFormed
import Mathlib.Data.List.Count
/-!
The order of definitions. Definitions that are put in another order or cut into other documents make
a graph just as well, and it says the same of the same types; only places and the order of lists
differ.
-/
namespace SchemaCoverage

/-- Old members stay as often as they are there, new ones are added once. -/
theorem Assoc.count_foldl_addNew {α : Type} [DecidableEq α] (members added : List α) (a : α) :
    (added.foldl addNew members).count a =
      if a ∈ members then members.count a else if a ∈ added then 1 else 0 := by
  induction added generalizing members with
  | nil =>
      by_cases hmem : a ∈ members
      · simp [hmem]
      · simp [hmem, List.count_eq_zero_of_not_mem]
  | cons first added ih =>
      rw [List.foldl_cons, ih]
      by_cases hfirst : first ∈ members
      · simp only [addNew, hfirst, if_true]
        by_cases hmem : a ∈ members
        · simp [hmem]
        · have hne : a ≠ first := fun heq => hmem (heq ▸ hfirst)
          simp [hmem, hne]
      · simp only [addNew, hfirst, if_false]
        by_cases hmem : a ∈ members
        · have hne : first ≠ a := fun heq => hfirst (heq ▸ hmem)
          simp [hmem, hne]
        · by_cases heq : a = first
          · simp [heq, hfirst, List.count_eq_zero_of_not_mem]
          · simp [hmem, heq]

theorem Assoc.foldl_addNew_perm {α : Type} [DecidableEq α] {added added' : List α}
    (h : added.Perm added') (members : List α) :
    (added.foldl addNew members).Perm (added'.foldl addNew members) := by
  rw [List.perm_iff_count]
  intro a
  simp only [count_foldl_addNew, h.mem_iff]

namespace Schema

/-- What a field says: its name, its type, and its arguments with their types. -/
structure Signature where
  name : String
  type : String
  arguments : Assoc String String
deriving Repr, DecidableEq

/-- What a field of a type says, wherever it stands. -/
def Field.signature (field : Field) : Signature :=
  ⟨field.name, field.type.render, field.arguments.map (Prod.map id FieldType.render)⟩

/-- The values of an enum. -/
def GraphType.values (type : GraphType) : List String :=
  match type.content with
  | .enum values => values
  | _ => []

end Schema

namespace Sdl

/-- What a written field says. A repeated argument takes the last type. -/
def FieldDef.signature (field : FieldDef) : Schema.Signature :=
  { name := field.name
    type := String.ofList field.type.chars
    arguments := field.arguments.foldl
      (fun found argument => found.put argument.name (String.ofList argument.type.chars)) [] }

/-- What a written input field says. -/
def InputValue.signature (field : InputValue) : Schema.Signature :=
  ⟨field.name, String.ofList field.type.chars, []⟩

namespace TypeBody

/-- What the fields of a body say. -/
def signatures : TypeBody → List Schema.Signature
  | .object _ fields | .interface _ fields => fields.map (·.signature)
  | .input fields => fields.map (·.signature)
  | _ => []

/-- The values that a body lists. -/
def values : TypeBody → List String
  | .enum values => values
  | _ => []

end TypeBody

end Sdl

namespace Schema

@[simp] theorem signature_fieldOf (file : Option String) (parent : String) (field : Sdl.FieldDef) :
    (fieldOf file parent field).signature = field.signature := by
  have hput (found : Assoc String FieldType) (argument : Sdl.InputValue) :
      Assoc.put (found.map (Prod.map id FieldType.render)) argument.name
          (String.ofList argument.type.chars) =
        (found.put argument.name (.ofExpr (.source file argument.position)
          argument.type)).map (Prod.map id FieldType.render) := by
    rw [Assoc.map_put, FieldType.render, FieldType.chars_ofExpr]
  have harguments : (argumentsOf file field.arguments).map (Prod.map id FieldType.render) =
      field.signature.arguments :=
    (List.foldl_hom (List.map (Prod.map id FieldType.render)) hput).symm
  simp [Field.signature, fieldOf, FieldType.render, harguments, Sdl.FieldDef.signature]

@[simp] theorem signature_inputFieldOf (file : Option String) (parent : String)
    (field : Sdl.InputValue) : (inputFieldOf file parent field).signature = field.signature := by
  simp [Field.signature, inputFieldOf, FieldType.render, Sdl.InputValue.signature]

namespace GraphType

/-- Two types say the same, though perhaps at other places and in another order. -/
structure Alike (type type' : GraphType) : Prop where
  name : type.name = type'.name
  kind : type.kind = type'.kind
  fields : (type.fields.map (·.signature)).Perm (type'.fields.map (·.signature))
  interfaces : (type.interfaces.map (·.name)).Perm (type'.interfaces.map (·.name))
  members : (type.members.map (·.name)).Perm (type'.members.map (·.name))
  values : type.values.Perm type'.values

theorem Alike.refl (type : GraphType) : type.Alike type :=
  ⟨rfl, rfl, .refl _, .refl _, .refl _, .refl _⟩

section ofDef

variable (file : Option String) (definition : Sdl.TypeDef)

theorem signatures_ofDef :
    (ofDef file definition).fields.map (·.signature) = definition.body.signatures := by
  obtain ⟨name, body, position⟩ := definition
  cases body <;> simp [ofDef, Content.ofDef, fields, Sdl.TypeBody.signatures]

theorem interfaces_ofDef :
    (ofDef file definition).interfaces.map (·.name) =
      definition.body.interfaces.foldl Assoc.addNew [] := by
  obtain ⟨name, body, position⟩ := definition
  cases body <;>
    simp [ofDef, Content.ofDef, interfaces, Sdl.TypeBody.interfaces, names_foldl_addInterface]

theorem members_ofDef :
    (ofDef file definition).members.map (·.name) = definition.body.members := by
  obtain ⟨name, body, position⟩ := definition
  cases body <;> simp [ofDef, Content.ofDef, members, Sdl.TypeBody.members]

theorem values_ofDef : (ofDef file definition).values = definition.body.values := by
  obtain ⟨name, body, position⟩ := definition
  cases body <;> rfl

end ofDef

section extended

variable {type : GraphType} {extensions : List Extension}

theorem signatures_extended (h : ∀ extension ∈ extensions, extension.kind = type.kind) :
    (type.extended extensions).fields.map (·.signature) =
      type.fields.map (·.signature) ++ extensions.flatMap (·.addition.body.signatures) := by
  refine view_extended (fun type => type.fields.map (·.signature)) (·.addition.body.signatures)
    List.append_nil List.append_assoc ?_ h
  rintro ⟨name, content, location⟩ ⟨file, ⟨name', body, position⟩⟩ hkind
  cases content <;> cases body <;> cases hkind
  all_goals simp [extended, Content.extended, fields, Sdl.TypeBody.signatures]

theorem interfaces_extended (h : ∀ extension ∈ extensions, extension.kind = type.kind) :
    (type.extended extensions).interfaces.map (·.name) =
      (extensions.flatMap (·.addition.body.added.interfaces)).foldl Assoc.addNew
        (type.interfaces.map (·.name)) := by
  refine view_extended (fun type => type.interfaces.map (·.name))
    (·.addition.body.added.interfaces) (fun _ => List.foldl_nil)
    (fun _ _ _ => List.foldl_append.symm) ?_ h
  rintro ⟨name, content, location⟩ ⟨file, ⟨name', body, position⟩⟩ hkind
  cases content <;> cases body <;> cases hkind
  all_goals simp [extended, Content.extended, interfaces, Sdl.TypeBody.added,
    Sdl.TypeBody.interfaces, names_foldl_addInterface]

theorem members_extended (h : ∀ extension ∈ extensions, extension.kind = type.kind) :
    (type.extended extensions).members.map (·.name) =
      type.members.map (·.name) ++ extensions.flatMap (·.addition.body.members) := by
  refine view_extended (fun type => type.members.map (·.name)) (·.addition.body.members)
    List.append_nil List.append_assoc ?_ h
  rintro ⟨name, content, location⟩ ⟨file, ⟨name', body, position⟩⟩ hkind
  cases content <;> cases body <;> cases hkind
  all_goals simp [extended, Content.extended, members, Sdl.TypeBody.members]

theorem values_extended (h : ∀ extension ∈ extensions, extension.kind = type.kind) :
    (type.extended extensions).values =
      (extensions.flatMap (·.addition.body.values)).foldl Assoc.addNew type.values := by
  refine view_extended values (·.addition.body.values) (fun _ => List.foldl_nil)
    (fun _ _ _ => List.foldl_append.symm) ?_ h
  rintro ⟨name, content, location⟩ ⟨file, ⟨name', body, position⟩⟩ hkind
  cases content <;> cases body <;> cases hkind
  all_goals rfl

end extended

/-- What the extensions add does not depend on their places and their order. -/
theorem alike_extended (file file' : Option String) {definition : Sdl.TypeDef}
    {extensions extensions' : List Extension}
    (hkinds : ∀ extension ∈ extensions, extension.kind = kindOfBody definition.body)
    (h : (extensions.map (·.addition)).Perm (extensions'.map (·.addition))) :
    ((ofDef file definition).extended extensions).Alike
      ((ofDef file' definition).extended extensions') := by
  have hkind (file : Option String) :
      (ofDef file definition).kind = kindOfBody definition.body :=
    Content.kind_ofDef file definition
  have hfirst : ∀ extension ∈ extensions, extension.kind = (ofDef file definition).kind := by
    intro extension hmem
    rw [hkinds extension hmem, hkind]
  have hsecond : ∀ extension ∈ extensions', extension.kind = (ofDef file' definition).kind := by
    intro extension hmem
    have hadded : extension.addition ∈ extensions.map (·.addition) :=
      h.mem_iff.2 (List.mem_map.2 ⟨extension, hmem, rfl⟩)
    obtain ⟨other, hother, heq⟩ := List.mem_map.1 hadded
    rw [Extension.kind, ← heq, hkind]
    exact hkinds other hother
  have hparts {α : Type} (parts : Sdl.TypeDef → List α) :
      (extensions.flatMap (parts ·.addition)).Perm (extensions'.flatMap (parts ·.addition)) := by
    have hflat := h.flatMap_right parts
    rwa [List.flatMap_map, List.flatMap_map] at hflat
  constructor
  · rfl
  · rw [kind_extended, kind_extended, hkind, hkind]
  · rw [signatures_extended hfirst, signatures_extended hsecond, signatures_ofDef, signatures_ofDef]
    exact (hparts (·.body.signatures)).append_left _
  · rw [interfaces_extended hfirst, interfaces_extended hsecond, interfaces_ofDef,
      interfaces_ofDef]
    exact Assoc.foldl_addNew_perm (hparts (·.body.added.interfaces)) _
  · rw [members_extended hfirst, members_extended hsecond, members_ofDef, members_ofDef]
    exact (hparts (·.body.members)).append_left _
  · rw [values_extended hfirst, values_extended hsecond, values_ofDef, values_ofDef]
    exact Assoc.foldl_addNew_perm (hparts (·.body.values)) _

end GraphType

section Perm

variable {first second : List Sdl.Definition}

theorem typeDefs_perm (h : first.Perm second) : (typeDefs first).Perm (typeDefs second) :=
  h.filterMap _

theorem additions_perm (h : first.Perm second) : (additions first).Perm (additions second) :=
  h.filterMap _

theorem rootNames_perm (h : first.Perm second) (operation : Operation) :
    (rootNames first operation).Perm (rootNames second operation) :=
  h.filterMap _

theorem defines_perm (h : first.Perm second) : Defines first = Defines second := by
  funext name kind
  simp only [Defines, (typeDefs_perm h).mem_iff]

/-- Whether definitions are acceptable does not depend on their order. -/
theorem Acceptable.perm (hfirst : Acceptable first) (h : first.Perm second) :
    Acceptable second := by
  have htypes := typeDefs_perm h
  have hadditions := additions_perm h
  have hroots := rootNames_perm h
  constructor
  · exact (htypes.map _).nodup_iff.1 hfirst.names
  · intro definition hmem
    exact hfirst.unreserved definition (htypes.mem_iff.2 hmem)
  · intro addition hmem
    obtain ⟨definition, hdefinition, hsame⟩ := hfirst.extended addition (hadditions.mem_iff.2 hmem)
    exact ⟨definition, htypes.mem_iff.1 hdefinition, hsame⟩
  · intro definition hmem
    have hparts := ((hadditions.filter (·.name == definition.name)).flatMap_right
      (·.body.partNames)).append_left definition.body.partNames
    exact hparts.nodup_iff.1 (hfirst.parts definition (htypes.mem_iff.2 hmem))
  · intro operation
    rw [← (hroots operation).length_eq]
    exact hfirst.declared operation
  · intro operation name hmem
    rw [← defines_perm h]
    exact hfirst.roots operation name ((hroots operation).mem_iff.2 hmem)
  · rw [← defines_perm h]
    apply hfirst.query.imp_left
    intro hne hnil
    have hperm := hroots .query
    rw [hnil] at hperm
    exact hne hperm.eq_nil
  · rw [← defines_perm h]
    intro definition hmem
    exact hfirst.mentioned definition (htypes.mem_iff.2 hmem)
  · rw [← defines_perm h]
    intro addition hmem
    exact hfirst.added addition (hadditions.mem_iff.2 hmem)

end Perm

namespace Loaded

variable {definitions : List Placed} {types : List GraphType} {roots : DeclaredRoots}

theorem names_eq (h : Loaded .empty definitions types roots) :
    types.map (·.name) =
      builtinTypes.map (·.name) ++ (typeDefs (definitions.map Prod.snd)).map (·.name) := by
  rw [h.types_eq, List.map_append, names_mergedTypes, names_definedTypes]

/-- The root type of an operation is the declared one, or else the object type of the usual name. -/
theorem rootName_eq_some_iff (h : Loaded .empty definitions types roots) {operation : Operation}
    {root : Option String}
    (hroot : Builder.rootName types operation (roots.of? operation) = .ok root) {name : String} :
    root = some name ↔ name ∈ rootNames (definitions.map Prod.snd) operation ∨
      rootNames (definitions.map Prod.snd) operation = [] ∧ name = operation.title ∧
        Defines (definitions.map Prod.snd) operation.title .object := by
  have hdeclared : (roots.of? operation).toList.map (·.name) =
      rootNames (definitions.map Prod.snd) operation := by
    rw [h.toList_of?, names_declarations]
  have husual : kindOf? types operation.title = some .object ↔
      Defines (definitions.map Prod.snd) operation.title .object := h.has_iff
  rw [← hdeclared, ← husual, (Builder.rootName_eq_ok_iff.1 hroot).2]
  cases roots.of? operation with
  | some mention => simp [eq_comm]
  | none =>
      by_cases hkind : kindOf? types operation.title = some .object
      · simp [hkind, eq_comm]
      · simp [hkind]

end Loaded

/-- Two graphs say the same of the same types and have the same root types. -/
structure Graph.Alike (graph graph' : Graph) : Prop where
  names : (graph.types.map (·.name)).Perm (graph'.types.map (·.name))
  types : ∀ type ∈ graph.types, ∀ type' ∈ graph'.types, type.name = type'.name → type.Alike type'
  roots : ∀ operation, graph.rootName? operation = graph'.rootName? operation

/-- Two definitions of the same name are one, wherever they stand. -/
theorem Acceptable.typeDef_unique {definitions : List Sdl.Definition} (h : Acceptable definitions)
    {definition definition' : Sdl.TypeDef} (hmem : definition ∈ typeDefs definitions)
    (hmem' : definition' ∈ typeDefs definitions) (hname : definition.name = definition'.name) :
    definition = definition' :=
  List.inj_on_of_nodup_map h.names hmem hmem' hname

section Loaded

variable {first second : List Placed} {types types' : List GraphType}
  {roots roots' : DeclaredRoots}

/-- An extension is of the kind of the definition of its name. -/
theorem Acceptable.kind_of_mem_ofType (h : Acceptable (first.map Prod.snd))
    {definition : Sdl.TypeDef} (hmem : definition ∈ typeDefs (first.map Prod.snd))
    {extension : Extension} (hextension : extension ∈ ofType definition.name (extensions first)) :
    extension.kind = kindOfBody definition.body := by
  obtain ⟨hin, hname⟩ := mem_ofType.1 hextension
  obtain ⟨definition', hmem', hname', hkind⟩ :=
    h.extended extension.addition (mem_additions.2 ⟨extension, hin, rfl⟩)
  obtain rfl := h.typeDef_unique hmem hmem' (hname.symm.trans hname'.symm)
  exact hkind.symm

/-- Types of one name that come of the same definitions in two orders say the same. -/
theorem Loaded.alike (hfirst : Loaded .empty first types roots)
    (hsecond : Loaded .empty second types' roots')
    (hacceptable : Acceptable (first.map Prod.snd))
    (h : (first.map Prod.snd).Perm (second.map Prod.snd)) {type type' : GraphType}
    (hmem : type ∈ types) (hmem' : type' ∈ types') (hname : type.name = type'.name) :
    type.Alike type' := by
  have hunreserved {definition : Sdl.TypeDef} {builtin : GraphType}
      (hdefinition : definition ∈ typeDefs (first.map Prod.snd))
      (hbuiltin : builtin ∈ builtinTypes) : builtin.name ≠ definition.name := by
    obtain ⟨name, hname, rfl⟩ := List.mem_map.1 hbuiltin
    rintro rfl
    exact (hacceptable.unreserved definition hdefinition).1 hname
  have hperms {definition : Sdl.TypeDef} {extensions' extensions'' : List Extension}
      (hperm : extensions'.Perm (ofType definition.name (extensions first)))
      (hperm' : extensions''.Perm (ofType definition.name (extensions second))) :
      (extensions'.map (·.addition)).Perm (extensions''.map (·.addition)) := by
    have hsame : ((ofType definition.name (extensions first)).map (·.addition)).Perm
        ((ofType definition.name (extensions second)).map (·.addition)) := by
      rw [map_addition_ofType, map_addition_ofType]
      exact (additions_perm h).filter _
    exact ((hperm.map _).trans hsame).trans (hperm'.map _).symm
  rcases hfirst.builtin_or_extended hmem with
    hbuiltin | ⟨file, definition, extensions', hplaced, hperm, rfl⟩
  · rcases hsecond.builtin_or_extended hmem' with
      hbuiltin' | ⟨file', definition', extensions'', hplaced', -, rfl⟩
    · obtain rfl := eq_of_name_eq (by decide) hbuiltin hbuiltin' hname
      exact .refl _
    · have hdefinition' := (typeDefs_perm h).mem_iff.2 (mem_typeDefs.2 ⟨file', hplaced'⟩)
      exact absurd hname (hunreserved hdefinition' hbuiltin)
  · have hdefinition := mem_typeDefs.2 ⟨file, hplaced⟩
    rcases hsecond.builtin_or_extended hmem' with
      hbuiltin' | ⟨file', definition', extensions'', hplaced', hperm', rfl⟩
    · exact absurd hname.symm (hunreserved hdefinition hbuiltin')
    · have hdefinition' := (typeDefs_perm h).mem_iff.2 (mem_typeDefs.2 ⟨file', hplaced'⟩)
      obtain rfl := hacceptable.typeDef_unique hdefinition hdefinition' hname
      apply GraphType.alike_extended file file' _ (hperms hperm hperm')
      intro extension hextension
      exact hacceptable.kind_of_mem_ofType hdefinition (hperm.mem_iff.1 hextension)

/-- Declared once at most, an operation has the same root type in every order. -/
theorem Loaded.rootName_eq (hfirst : Loaded .empty first types roots)
    (hsecond : Loaded .empty second types' roots')
    (h : (first.map Prod.snd).Perm (second.map Prod.snd)) {operation : Operation}
    {root root' : Option String}
    (hroot : Builder.rootName types operation (roots.of? operation) = .ok root)
    (hroot' : Builder.rootName types' operation (roots'.of? operation) = .ok root') :
    root = root' := by
  have hnames := rootNames_perm h operation
  have hnil : rootNames (first.map Prod.snd) operation = [] ↔
      rootNames (second.map Prod.snd) operation = [] := by
    rw [← List.length_eq_zero_iff, hnames.length_eq, List.length_eq_zero_iff]
  apply Option.ext
  intro name
  rw [hfirst.rootName_eq_some_iff hroot, hsecond.rootName_eq_some_iff hroot', hnames.mem_iff, hnil,
    defines_perm h]

end Loaded

/-- Definitions make a graph in every order or in none, and the graphs say the same. -/
theorem ofDocuments_perm {first second : List (Option String × Sdl.Document)}
    (h : (first.flatMap Prod.snd).Perm (second.flatMap Prod.snd)) :
    ((∃ graph, Graph.ofDocuments first = .ok graph) ↔
        ∃ graph, Graph.ofDocuments second = .ok graph) ∧
      ∀ graph graph', Graph.ofDocuments first = .ok graph → Graph.ofDocuments second = .ok graph' →
        graph.Alike graph' := by
  refine ⟨⟨?_, ?_⟩, ?_⟩
  · rintro ⟨graph, hgraph⟩
    exact ((acceptable_of_ofDocuments hgraph).perm h).exists_ofDocuments
  · rintro ⟨graph, hgraph⟩
    exact ((acceptable_of_ofDocuments hgraph).perm h.symm).exists_ofDocuments
  · intro graph graph' hgraph hgraph'
    have hacceptable := acceptable_of_ofDocuments hgraph
    obtain ⟨roots, hloaded, hroots, -⟩ := ofDocuments_eq_ok_iff.1 hgraph
    obtain ⟨roots', hloaded', hroots', -⟩ := ofDocuments_eq_ok_iff.1 hgraph'
    rw [← map_snd_placed] at hacceptable
    rw [← map_snd_placed, ← map_snd_placed] at h
    constructor
    · rw [hloaded.names_eq, hloaded'.names_eq]
      exact ((typeDefs_perm h).map _).append_left _
    · intro type hmem type' hmem' hname
      exact hloaded.alike hloaded' hacceptable h hmem hmem' hname
    · intro operation
      exact hloaded.rootName_eq hloaded' h (hroots operation) (hroots' operation)

/-- Types and extensions of them, in one document. -/
def plainShelf : List (Option String × Sdl.Document) :=
  [(none,
    [.type ⟨"Query", .object [] [⟨"colour", [], .named "Colour" false, ⟨1, 1⟩⟩], ⟨1, 1⟩⟩,
      .type ⟨"Named", .interface [] [⟨"name", [], .named "ID" true, ⟨2, 1⟩⟩], ⟨2, 1⟩⟩,
      .type ⟨"Colour", .enum ["RED", "RED", "BLUE"], ⟨3, 1⟩⟩,
      .extension ⟨"Query", .object ["Named"] [⟨"name", [], .named "ID" true, ⟨4, 1⟩⟩], ⟨4, 1⟩⟩,
      .extension ⟨"Colour", .enum ["BLUE", "GREEN"], ⟨5, 1⟩⟩,
      .extension ⟨"Colour", .enum ["BLACK", "GREEN"], ⟨6, 1⟩⟩])]

/-- The same definitions from last to first, each in a file of its own. -/
def turnedShelf : List (Option String × Sdl.Document) :=
  (plainShelf.flatMap Prod.snd).reverse.map fun definition => (some "shelf", [definition])

theorem plainShelf_built : (Graph.ofDocuments plainShelf).isOk = true := by
  decide +kernel

theorem turnedShelf_alike :
    (plainShelf.flatMap Prod.snd).Perm (turnedShelf.flatMap Prod.snd) ∧
      ∃ graph graph', Graph.ofDocuments plainShelf = .ok graph ∧
        Graph.ofDocuments turnedShelf = .ok graph' ∧ graph.Alike graph' := by
  have hperm : (plainShelf.flatMap Prod.snd).Perm (turnedShelf.flatMap Prod.snd) := by
    decide +kernel
  obtain ⟨hbuilt, halike⟩ := ofDocuments_perm hperm
  obtain ⟨graph, hgraph⟩ := exists_eq_ok_of_isOk plainShelf_built
  obtain ⟨graph', hgraph'⟩ := hbuilt.1 ⟨graph, hgraph⟩
  exact ⟨hperm, graph, graph', hgraph, hgraph', halike graph graph' hgraph hgraph'⟩

end Schema

end SchemaCoverage
