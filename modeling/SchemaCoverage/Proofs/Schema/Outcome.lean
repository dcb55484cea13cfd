import SchemaCoverage.Proofs.Assoc
import SchemaCoverage.Proofs.Schema.Order
/-!
What comes out where extensions are merged. A type is composed of its definition, the extensions
that come after it and the extensions that come before it. All that these say is kept in this order,
with the file and the place of each, whether an extension was added at once or had to wait.
-/
namespace SchemaCoverage

namespace Schema

/-- A definition or an extension of a type, and the file where it stands. -/
abbrev Passage := Option String × Sdl.TypeDef

/-- The arguments of a field that is written in a file. Each name stands once, where it comes first,
and has the type that it takes last. -/
def writtenArguments (file : Option String) (arguments : List Sdl.InputValue) :
    Assoc String FieldType :=
  (arguments.map (·.name)).eraseDups.filterMap fun name =>
    (arguments.findRev? (·.name == name)).map fun argument =>
      (name, .ofExpr (.source file argument.position) argument.type)

namespace Passage

/-- The place of the definition or extension. -/
def location : Passage → Location
  | (file, text) => .source file text.position

/-- The fields that are written there for a type. -/
def fields (parent : String) : Passage → List Field
  | (file, text) =>
      match text.body with
      | .object _ fields | .interface _ fields => fields.map fun field =>
          { name := field.name
            parent
            type := .ofExpr (.source file field.position) field.type
            arguments := writtenArguments file field.arguments
            location := .source file field.position }
      | .input fields => fields.map fun field =>
          { name := field.name
            parent
            type := .ofExpr (.source file field.position) field.type
            arguments := []
            location := .source file field.position }
      | _ => []

/-- The interfaces that are listed there. -/
def interfaces (passage : Passage) : List Mention :=
  passage.2.body.interfaces.map (⟨·, passage.location⟩)

/-- The union members that are listed there. -/
def members (passage : Passage) : List Mention :=
  passage.2.body.members.map (⟨·, passage.location⟩)

/-- The enum values that are listed there. -/
def values (passage : Passage) : List String :=
  passage.2.body.values

end Passage

/-- The extensions of the type of a name, in order of arrival. -/
def extensionsOf (name : String) (definitions : List Placed) : List Passage :=
  definitions.filterMap fun
    | (file, .extension addition) => if addition.name = name then some (file, addition) else none
    | _ => none

/-- Each name once, as it is mentioned first. -/
def firstMentions (mentions : List Mention) : List Mention :=
  mentions.eraseDupsBy (·.name == ·.name)

/-- The type says what its definition says and then what its extensions say, in order. -/
structure GraphType.ComposedOf (type : GraphType) (definition : Passage)
    (extensions : List Passage) : Prop where
  name : type.name = definition.2.name
  kind : type.kind = kindOfBody definition.2.body
  location : type.location = definition.location
  fields : type.fields = (definition :: extensions).flatMap (·.fields type.name)
  members : type.members = (definition :: extensions).flatMap (·.members)
  /-- An object type has every interface once, where it is listed first. -/
  interfaces : type.kind = .object →
    type.interfaces = firstMentions ((definition :: extensions).flatMap (·.interfaces))
  /-- Extensions of an interface type add no interfaces. -/
  keptInterfaces : type.kind = .interface →
    type.interfaces = firstMentions definition.interfaces
  /-- The values of a definition are kept as they are; of those that extensions list each new one is
  added once. -/
  values : type.values = definition.values ++
    ((extensions.flatMap (·.values)).filter fun value => !definition.values.contains value).eraseDups

/-- The graph has the built-in types and then the defined types in order. Each is composed of its
definition, the extensions after it and then those before it. -/
structure Graph.ComposedOf (graph : Graph) (definitions : List Placed) : Prop where
  builtin : builtinTypes <+: graph.types
  names : graph.types.map (·.name) = builtinTypes.map (·.name) ++
    (typeDefs (definitions.map Prod.snd)).map (·.name)
  types : ∀ before file definition after, definitions = before ++ (file, .type definition) :: after →
    ∃ type, graph.type? definition.name = some type ∧ type.ComposedOf (file, definition)
      (extensionsOf definition.name after ++ extensionsOf definition.name before)

theorem argumentsOf_eq (file : Option String) (arguments : List Sdl.InputValue) :
    argumentsOf file arguments = writtenArguments file arguments := by
  have hkeys : (argumentsOf file arguments).keys = (arguments.map (·.name)).eraseDups := by
    rw [argumentsOf, Assoc.keys_foldl_put]
    exact Assoc.foldl_addNew_nil _
  have hdistinct : (argumentsOf file arguments).keys.Nodup := by
    rw [argumentsOf, Assoc.keys_foldl_put]
    exact Assoc.foldl_addNew_nodup List.nodup_nil _
  rw [Assoc.eq_filterMap_keys hdistinct, hkeys, writtenArguments]
  apply List.filterMap_congr
  intro name _
  rw [argumentsOf, Assoc.find?_foldl_put, Assoc.find?_nil, Option.or_none, Option.map_map]
  rfl

theorem foldl_addInterface_eq (interfaces : List Mention) :
    interfaces.foldl addInterface [] = firstMentions interfaces := by
  have hadd (members : List Mention) (interface : Mention) : addInterface members interface =
      if members.any (interface.name == ·.name) then members else members ++ [interface] := by
    simp only [addInterface, Bool.beq_comm]
  simpa [firstMentions] using foldl_eq_append_eraseDupsBy hadd [] interfaces

/-- The extension as a passage. -/
def Extension.passage (extension : Extension) : Passage :=
  (extension.file, extension.addition)

theorem map_passage_ofType (name : String) (definitions : List Placed) :
    (ofType name (extensions definitions)).map (·.passage) = extensionsOf name definitions := by
  unfold ofType extensions extensionsOf
  rw [List.filter_filterMap, List.map_filterMap]
  congr
  funext ⟨file, written⟩
  cases written with
  | extension addition =>
      by_cases hname : addition.name = name <;> simp [extension?, Extension.passage, hname]
  | _ => rfl

namespace GraphType

section ofDef

variable (file : Option String) (definition : Sdl.TypeDef)

theorem fields_ofDef :
    (ofDef file definition).fields = Passage.fields definition.name (file, definition) := by
  obtain ⟨name, body, position⟩ := definition
  cases body <;> simp [ofDef, Content.ofDef, fields, Passage.fields, argumentsOf_eq, fieldOf,
    inputFieldOf]

theorem mentions_interfaces_ofDef :
    (ofDef file definition).interfaces =
      (Passage.interfaces (file, definition)).foldl addInterface [] := by
  obtain ⟨name, body, position⟩ := definition
  cases body <;> rfl

theorem mentions_members_ofDef :
    (ofDef file definition).members = Passage.members (file, definition) := by
  obtain ⟨name, body, position⟩ := definition
  cases body <;> rfl

end ofDef

section extended

variable {type : GraphType} {extensions : List Extension}

theorem fields_extended (h : ∀ extension ∈ extensions, extension.kind = type.kind)
    (hnames : ∀ extension ∈ extensions, extension.addition.name = type.name) :
    (type.extended extensions).fields =
      type.fields ++ (extensions.map (·.passage)).flatMap (·.fields type.name) := by
  have hown : (type.extended extensions).fields =
      type.fields ++ extensions.flatMap fun extension =>
        extension.passage.fields extension.addition.name := by
    refine view_extended GraphType.fields
      (fun extension => extension.passage.fields extension.addition.name)
      List.append_nil List.append_assoc ?_ h
    intro type extension hkind
    obtain ⟨name, content, location⟩ := type
    obtain ⟨file, ⟨name', body, position⟩⟩ := extension
    cases content <;> cases body <;> cases hkind
    all_goals simp [extended, Content.extended, fields, Extension.passage, Passage.fields,
      argumentsOf_eq, fieldOf, inputFieldOf]
  have hparent : ∀ extension ∈ extensions,
      extension.passage.fields extension.addition.name = extension.passage.fields type.name := by
    intro extension hmem
    rw [hnames extension hmem]
  rw [hown, List.flatMap_map, List.flatMap_congr hparent]

theorem mentions_members_extended (h : ∀ extension ∈ extensions, extension.kind = type.kind) :
    (type.extended extensions).members =
      type.members ++ (extensions.map (·.passage)).flatMap (·.members) := by
  rw [List.flatMap_map]
  refine view_extended GraphType.members (·.passage.members) List.append_nil List.append_assoc ?_ h
  intro type extension hkind
  obtain ⟨name, content, location⟩ := type
  obtain ⟨file, ⟨name', body, position⟩⟩ := extension
  cases content <;> cases body <;> cases hkind
  all_goals simp [extended, Content.extended, members, Extension.passage, Passage.members,
    Sdl.TypeBody.members, mentions, Extension.location, Passage.location]

theorem mentions_interfaces_extended
    (h : ∀ extension ∈ extensions, extension.kind = type.kind) :
    (type.extended extensions).interfaces =
      (extensions.flatMap fun extension => mentions extension.location
        extension.addition.body.added.interfaces).foldl addInterface type.interfaces := by
  refine view_extended GraphType.interfaces
    (fun extension => mentions extension.location extension.addition.body.added.interfaces)
    (fun _ => List.foldl_nil) (fun _ _ _ => List.foldl_append.symm) ?_ h
  intro type extension hkind
  obtain ⟨name, content, location⟩ := type
  obtain ⟨file, ⟨name', body, position⟩⟩ := extension
  cases content <;> cases body <;> cases hkind
  all_goals rfl

theorem mentions_interfaces_extended_of_object
    (h : ∀ extension ∈ extensions, extension.kind = type.kind) (hkind : type.kind = .object) :
    (type.extended extensions).interfaces =
      ((extensions.map (·.passage)).flatMap (·.interfaces)).foldl addInterface
        type.interfaces := by
  have hadded : ∀ extension ∈ extensions, mentions extension.location
      extension.addition.body.added.interfaces = extension.passage.interfaces := by
    intro extension hmem
    obtain ⟨file, ⟨name, body, position⟩⟩ := extension
    have hbody := (h _ hmem).trans hkind
    cases body <;> cases hbody
    rfl
  rw [mentions_interfaces_extended h, List.flatMap_map, List.flatMap_congr hadded]

theorem interfaces_extended_of_interface
    (h : ∀ extension ∈ extensions, extension.kind = type.kind) (hkind : type.kind = .interface) :
    (type.extended extensions).interfaces = type.interfaces := by
  have hadded : ∀ extension ∈ extensions, mentions extension.location
      extension.addition.body.added.interfaces = [] := by
    intro extension hmem
    obtain ⟨file, ⟨name, body, position⟩⟩ := extension
    have hbody := (h _ hmem).trans hkind
    cases body <;> cases hbody
    rfl
  rw [mentions_interfaces_extended h, List.flatMap_eq_nil_iff.2 hadded, List.foldl_nil]

end extended

/-- A definition and extensions of its name and kind compose the type that they make. -/
theorem composedOf_extended {file : Option String} {definition : Sdl.TypeDef}
    {extensions : List Extension}
    (hkinds : ∀ extension ∈ extensions, extension.kind = (ofDef file definition).kind)
    (hnames : ∀ extension ∈ extensions, extension.addition.name = definition.name) :
    ((ofDef file definition).extended extensions).ComposedOf (file, definition)
      (extensions.map (·.passage)) := by
  constructor
  · rfl
  · rw [kind_extended]
    exact Content.kind_ofDef file definition
  · rfl
  · rw [fields_extended hkinds hnames, fields_ofDef, List.flatMap_cons]
    rfl
  · rw [mentions_members_extended hkinds, mentions_members_ofDef, List.flatMap_cons]
  · intro hobject
    rw [kind_extended] at hobject
    rw [mentions_interfaces_extended_of_object hkinds hobject, mentions_interfaces_ofDef,
      ← List.foldl_append, foldl_addInterface_eq, List.flatMap_cons]
  · intro hinterface
    rw [kind_extended] at hinterface
    rw [interfaces_extended_of_interface hkinds hinterface, mentions_interfaces_ofDef,
      foldl_addInterface_eq]
  · rw [values_extended hkinds, values_ofDef, Assoc.foldl_addNew_eq, List.flatMap_map]
    rfl

end GraphType

/-- Every graph is composed of the definitions that it is made of. -/
theorem composedOf_of_ofDocuments {documents : List (Option String × Sdl.Document)} {graph : Graph}
    (h : Graph.ofDocuments documents = .ok graph) : graph.ComposedOf (placed documents) := by
  have hdistinct := names_nodup_of_ofDocuments h
  obtain ⟨roots, hloaded, -⟩ := ofDocuments_eq_ok_iff.1 h
  constructor
  · rw [hloaded.types_eq]
    exact List.prefix_append _ _
  · exact hloaded.names_eq
  · intro before file definition after hsplit
    have hplaced : (file, .type definition) ∈ placed documents := by simp [hsplit]
    have hdefined := List.mem_append_right builtinTypes
      (mem_definedTypes.2 ⟨file, definition, hplaced, rfl⟩)
    have hown : ∀ extension ∈ ofType definition.name (extensions after ++ extensions before),
        extension ∈ ofType definition.name (extensions (placed documents)) := by
      intro extension
      simp only [hsplit, extensions_append_type, mem_ofType, List.mem_append, or_comm, imp_self]
    have hmem : (GraphType.ofDef file definition).extended
        (ofType definition.name (extensions after ++ extensions before)) ∈ graph.types := by
      rw [hloaded.types_eq]
      exact List.mem_append_right _
        (mem_mergedTypes.2 ⟨before, file, definition, after, hsplit, rfl⟩)
    refine ⟨_, findType?_of_mem hdistinct hmem, ?_⟩
    rw [← map_passage_ofType, ← map_passage_ofType, ← List.map_append, ← ofType_append]
    apply GraphType.composedOf_extended
    · intro extension hextension
      exact (hloaded.fits_builtinTypes.extensible hloaded.names hdefined
        (hown extension hextension)).1.symm
    · intro extension hextension
      exact (mem_ofType.1 hextension).2

/-- Extensions before and after their types, in two files and a text without a name. -/
def scatteredShelf : List (Option String × Sdl.Document) :=
  [(some "early",
    [.extension ⟨"Query", .object ["Named", "Priced"]
        [⟨"price", [⟨"unit", .named "String" false, ⟨1, 30⟩⟩, ⟨"tax", .named "Int" false, ⟨1, 40⟩⟩,
          ⟨"unit", .named "ID" true, ⟨1, 50⟩⟩], .named "Int" false, ⟨1, 20⟩⟩], ⟨1, 1⟩⟩,
      .extension ⟨"Colour", .enum ["BLUE", "GREEN"], ⟨2, 1⟩⟩,
      .extension ⟨"Thing", .union ["Query"], ⟨3, 1⟩⟩]),
    (some "shelf",
      [.type ⟨"Query", .object ["Named"] [⟨"name", [], .named "ID" true, ⟨1, 14⟩⟩], ⟨1, 1⟩⟩,
        .type ⟨"Named", .interface [] [⟨"name", [], .named "ID" true, ⟨2, 19⟩⟩], ⟨2, 1⟩⟩,
        .type ⟨"Priced", .interface ["Named", "Named"] [], ⟨3, 1⟩⟩,
        .type ⟨"Colour", .enum ["RED", "RED", "BLUE"], ⟨4, 1⟩⟩,
        .extension ⟨"Priced", .interface ["Priced"] [⟨"price", [], .named "Int" false, ⟨5, 1⟩⟩],
          ⟨5, 1⟩⟩,
        .type ⟨"Book", .object [] [⟨"name", [], .named "ID" true, ⟨6, 13⟩⟩], ⟨6, 1⟩⟩,
        .type ⟨"Thing", .union ["Book"], ⟨7, 1⟩⟩]),
    (none,
      [.extension ⟨"Colour", .enum ["BLACK", "GREEN"], ⟨1, 1⟩⟩,
        .extension ⟨"Query", .object ["Priced"] [⟨"colour", [], .named "Colour" false, ⟨2, 21⟩⟩],
          ⟨2, 1⟩⟩])]

theorem scatteredShelf_composedOf :
    ∃ graph, Graph.ofDocuments scatteredShelf = .ok graph ∧
      graph.ComposedOf (placed scatteredShelf) := by
  have hbuilt : (Graph.ofDocuments scatteredShelf).isOk = true := by
    decide +kernel
  obtain ⟨graph, hgraph⟩ := exists_eq_ok_of_isOk hbuilt
  exact ⟨graph, hgraph, composedOf_of_ofDocuments hgraph⟩

end Schema

end SchemaCoverage
