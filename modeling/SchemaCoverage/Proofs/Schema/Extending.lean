import SchemaCoverage.Proofs.Success
import SchemaCoverage.Schema.Builder
/-!
What a definition says of its type and what an extension adds to it. Each succeeds under a condition
on names and kinds alone, and then has an outcome that no condition enters.
-/
namespace SchemaCoverage

/-- The names of the fields or members that a body lists. -/
def Sdl.TypeBody.partNames : Sdl.TypeBody → List String
  | .object _ fields | .interface _ fields => fields.map (·.name)
  | .input fields => fields.map (·.name)
  | .union members => members
  | .scalar | .enum _ => []

namespace Schema

/-- The names of the fields or members of a type. -/
def Content.partNames : Content → List String
  | .object _ fields | .interface _ fields | .input fields => fields.map (·.name)
  | .union members => members.map (·.name)
  | .scalar | .enum _ => []

theorem addField_eq_ok_iff {type : String} {fields result : List Field} {field : Field} :
    addField type fields field = .ok result ↔
      field.name ∉ fields.map (·.name) ∧ result = fields ++ [field] := by
  unfold addField
  split
  · next existing hfind =>
      have hmem := List.mem_of_find?_eq_some hfind
      have hname : existing.name = field.name := by simpa using List.find?_some hfind
      simp only [reduceCtorEq, false_iff, not_and]
      exact fun hnew => absurd (List.mem_map.2 ⟨existing, hmem, hname⟩) hnew
  · next hfind =>
      simp only [List.find?_eq_none, beq_iff_eq] at hfind
      simp only [Except.ok.injEq, List.mem_map, not_exists, not_and]
      exact ⟨fun h => ⟨hfind, h.symm⟩, fun h => h.2.symm⟩

theorem addMember_eq_ok_iff {union : String} {members result : List Mention} {member : Mention} :
    addMember union members member = .ok result ↔
      member.name ∉ members.map (·.name) ∧ result = members ++ [member] := by
  unfold addMember
  split
  · next hmem =>
      simp only [List.any_eq_true, beq_iff_eq] at hmem
      simp only [reduceCtorEq, false_iff, not_and]
      exact fun hnew => absurd (List.mem_map.2 hmem) hnew
  · next hmem =>
      simp only [List.any_eq_true, beq_iff_eq] at hmem
      simp only [Except.ok.injEq, List.mem_map]
      exact ⟨fun h => ⟨hmem, h.symm⟩, fun h => h.2.symm⟩

@[simp] theorem name_comp_fieldOf (file : Option String) (type : String) :
    Field.name ∘ fieldOf file type = Sdl.FieldDef.name := rfl

@[simp] theorem name_comp_inputFieldOf (file : Option String) (type : String) :
    Field.name ∘ inputFieldOf file type = Sdl.InputValue.name := rfl

@[simp] theorem names_mentions (location : Location) (names : List String) :
    (mentions location names).map (·.name) = names := by
  simp [mentions, Function.comp_def]

theorem names_addInterface (interfaces : List Mention) (interface : Mention) :
    (addInterface interfaces interface).map (·.name) =
      Assoc.addNew (interfaces.map (·.name)) interface.name := by
  have hany : interfaces.any (·.name == interface.name) = true ↔
      interface.name ∈ interfaces.map (·.name) := by
    simp
  unfold addInterface Assoc.addNew
  simp only [hany]
  split <;> simp

/-- Interfaces are kept once by name. -/
theorem names_foldl_addInterface (location : Location) (interfaces : List Mention)
    (names : List String) :
    ((mentions location names).foldl addInterface interfaces).map (·.name) =
      names.foldl Assoc.addNew (interfaces.map (·.name)) := by
  induction names generalizing interfaces with
  | nil => rfl
  | cons name names ih =>
      have hrest := ih (addInterface interfaces ⟨name, location⟩)
      rw [names_addInterface] at hrest
      exact hrest

/-- What a definition says of its type, whether or not its names are distinct. -/
def Content.ofDef (file : Option String) (definition : Sdl.TypeDef) : Content :=
  let location := Location.source file definition.position
  match definition.body with
  | .scalar => .scalar
  | .enum values => .enum values
  | .input fields => .input (fields.map (inputFieldOf file definition.name))
  | .interface interfaces fields =>
      .interface ((mentions location interfaces).foldl addInterface [])
        (fields.map (fieldOf file definition.name))
  | .object interfaces fields =>
      .object ((mentions location interfaces).foldl addInterface [])
        (fields.map (fieldOf file definition.name))
  | .union members => .union (mentions location members)

@[simp] theorem Content.kind_ofDef (file : Option String) (definition : Sdl.TypeDef) :
    (Content.ofDef file definition).kind = kindOfBody definition.body := by
  unfold Content.ofDef
  cases definition.body <;> rfl

@[simp] theorem Content.partNames_ofDef (file : Option String) (definition : Sdl.TypeDef) :
    (Content.ofDef file definition).partNames = definition.body.partNames := by
  unfold Content.ofDef
  cases definition.body <;> simp [Content.partNames, Sdl.TypeBody.partNames]

/-- A definition is accepted just if the names of its fields or members are distinct. -/
theorem contentOf_eq_ok_iff {file : Option String} {definition : Sdl.TypeDef} {content : Content} :
    contentOf file definition = .ok content ↔
      definition.body.partNames.Nodup ∧ content = .ofDef file definition := by
  have hfields (fields : List Field) (result : List Field) :
      fields.foldlM (addField definition.name) [] = .ok result ↔
        (fields.map (·.name)).Nodup ∧ result = fields :=
    foldlM_eq_ok_iff_nodup (fun _ _ _ => addField_eq_ok_iff) List.nodup_nil
  have hmembers (members : List Mention) (result : List Mention) :
      members.foldlM (addMember definition.name) [] = .ok result ↔
        (members.map (·.name)).Nodup ∧ result = members :=
    foldlM_eq_ok_iff_nodup (fun _ _ _ => addMember_eq_ok_iff) List.nodup_nil
  unfold contentOf Content.ofDef Sdl.TypeBody.partNames
  cases definition.body with
  | scalar => simp [eq_comm]
  | enum values => simp [eq_comm]
  | object interfaces fields => simp [map_eq_ok_iff, hfields, and_assoc, @eq_comm _ content]
  | interface interfaces fields => simp [map_eq_ok_iff, hfields, and_assoc, @eq_comm _ content]
  | input fields => simp [map_eq_ok_iff, hfields, and_assoc, @eq_comm _ content]
  | union members => simp [map_eq_ok_iff, hmembers, and_assoc, @eq_comm _ content]

/-- What is said of a type once an extension is added to it, whether or not its names are new. An
extension of another kind adds nothing. -/
def Content.extended (content : Content) (extension : Extension) : Content :=
  let file := extension.file
  let name := extension.addition.name
  match content, extension.addition.body with
  | .enum values, .enum added => .enum (added.foldl Assoc.addNew values)
  | .input fields, .input added => .input (fields ++ added.map (inputFieldOf file name))
  | .interface interfaces fields, .interface _ added =>
      .interface interfaces (fields ++ added.map (fieldOf file name))
  | .object interfaces fields, .object more added =>
      .object ((mentions extension.location more).foldl addInterface interfaces)
        (fields ++ added.map (fieldOf file name))
  | .union members, .union added => .union (members ++ mentions extension.location added)
  | content, _ => content

@[simp] theorem Content.kind_extended (content : Content) (extension : Extension) :
    (content.extended extension).kind = content.kind := by
  unfold Content.extended
  split <;> rfl

/-- The names that an extension of the same kind lists come last. -/
theorem Content.partNames_extended {content : Content} {extension : Extension}
    (h : extension.kind = content.kind) :
    (content.extended extension).partNames =
      content.partNames ++ extension.addition.body.partNames := by
  unfold Extension.kind kindOfBody at h
  unfold Content.extended
  cases content <;> cases hbody : extension.addition.body <;>
    simp_all [Content.kind, Content.partNames, Sdl.TypeBody.partNames]

/-- The type may be extended by what is written for its kind; built-in scalars may not. -/
def GraphType.Extensible (type : GraphType) (kind : Kind) : Prop :=
  type.kind = kind ∧ (type.kind = .scalar → type.location ≠ .builtin)

/-- An extension is accepted just if it is of the kind of its type and the names that it lists are
new and distinct. -/
theorem extend_eq_ok_iff {type result : GraphType} {extension : Extension}
    (hnames : type.content.partNames.Nodup) :
    type.extend extension = .ok result ↔
      type.Extensible extension.kind ∧
        (type.content.partNames ++ extension.addition.body.partNames).Nodup ∧
        result = { type with content := type.content.extended extension } := by
  obtain ⟨name, content, location⟩ := type
  obtain ⟨file, ⟨name', body, position⟩⟩ := extension
  have hfields (base added result : List Field) (hbase : (base.map (·.name)).Nodup) :
      added.foldlM (addField name') base = .ok result ↔
        ((base ++ added).map (·.name)).Nodup ∧ result = base ++ added :=
    foldlM_eq_ok_iff_nodup (fun _ _ _ => addField_eq_ok_iff) hbase
  have hmembers (base added result : List Mention) (hbase : (base.map (·.name)).Nodup) :
      added.foldlM (addMember name') base = .ok result ↔
        ((base ++ added).map (·.name)).Nodup ∧ result = base ++ added :=
    foldlM_eq_ok_iff_nodup (fun _ _ _ => addMember_eq_ok_iff) hbase
  have hkinds {kind : Kind} : (⟨name, content, location⟩ : GraphType).Extensible kind ↔
      content.kind = kind ∧ (content.kind = .scalar → location ≠ .builtin) := Iff.rfl
  simp only [hkinds, GraphType.extend, Extension.kind]
  cases content <;> cases body
  case scalar.scalar =>
    simp only [Content.kind, kindOfBody, Content.partNames, Sdl.TypeBody.partNames,
      Content.extended]
    split <;> simp_all [eq_comm]
  case enum.enum =>
    simp [Content.kind, kindOfBody, Content.partNames, Sdl.TypeBody.partNames, Content.extended,
      eq_comm]
  case input.input base added =>
    simp [Content.kind, kindOfBody, Content.partNames, Sdl.TypeBody.partNames, Content.extended,
      map_eq_ok_iff, hfields base _ _ hnames, and_assoc, @eq_comm _ result]
  case interface.interface interfaces base more added =>
    simp [Content.kind, kindOfBody, Content.partNames, Sdl.TypeBody.partNames, Content.extended,
      map_eq_ok_iff, hfields base _ _ hnames, and_assoc, @eq_comm _ result]
  case object.object interfaces base more added =>
    simp [Content.kind, kindOfBody, Content.partNames, Sdl.TypeBody.partNames, Content.extended,
      map_eq_ok_iff, hfields base _ _ hnames, and_assoc, @eq_comm _ result, Extension.location]
  case union.union base added =>
    simp [Content.kind, kindOfBody, Content.partNames, Sdl.TypeBody.partNames, Content.extended,
      map_eq_ok_iff, hmembers base _ _ hnames, and_assoc, @eq_comm _ result, Extension.location]
  all_goals simp [Content.kind, kindOfBody]

end Schema

end SchemaCoverage
