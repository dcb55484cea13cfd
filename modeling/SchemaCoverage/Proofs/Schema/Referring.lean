import SchemaCoverage.Proofs.Schema.Building
/-!
What it says that no reference is bad. Each definition and each extension has its own references,
and those of a type are those of all that made it.
-/
namespace SchemaCoverage

namespace Sdl

/-- The argument is the last of its name. Those before it under the same name are forgotten. -/
def IsLast (arguments : List InputValue) (argument : InputValue) : Prop :=
  ∃ before after, arguments = before ++ argument :: after ∧
    argument.name ∉ after.map (·.name)

theorem isLast_cons_iff {first argument : InputValue} {rest : List InputValue} :
    IsLast (first :: rest) argument ↔
      argument = first ∧ argument.name ∉ rest.map (·.name) ∨ IsLast rest argument := by
  constructor
  · rintro ⟨before, after, heq, hlast⟩
    cases before with
    | nil =>
        obtain ⟨rfl, rfl⟩ := List.cons.inj heq
        exact Or.inl ⟨rfl, hlast⟩
    | cons first' before =>
        obtain ⟨-, rfl⟩ := List.cons.inj heq
        exact Or.inr ⟨before, after, rfl, hlast⟩
  · intro h
    rcases h with ⟨rfl, hlast⟩ | ⟨before, after, rfl, hlast⟩
    · exact ⟨[], rest, rfl, hlast⟩
    · exact ⟨first :: before, after, rfl, hlast⟩

/-- The type of a field is there and no input type, and the types of its arguments are there. -/
structure FieldDef.Sound (has : String → Schema.Kind → Prop) (field : FieldDef) : Prop where
  output : ∃ kind, has field.type.innermost kind ∧ kind ≠ .inputObject
  arguments : ∀ argument, IsLast field.arguments argument →
    ∃ kind, has argument.type.innermost kind

namespace TypeBody

/-- The interfaces that the body says its type implements. -/
def interfaces : TypeBody → List String
  | .object interfaces _ | .interface interfaces _ => interfaces
  | _ => []

/-- The fields of an object or interface type. -/
def fields : TypeBody → List FieldDef
  | .object _ fields | .interface _ fields => fields
  | _ => []

/-- The members of a union type. -/
def members : TypeBody → List String
  | .union members => members
  | _ => []

/-- The fields of an input type. -/
def inputFields : TypeBody → List InputValue
  | .input fields => fields
  | _ => []

/-- What an extension adds by its body: an interface type gains fields alone. -/
def added : TypeBody → TypeBody
  | .interface _ fields => .interface [] fields
  | body => body

/-- All that a body mentions is there, and of a kind that may stand where it is mentioned. -/
structure Sound (has : String → Schema.Kind → Prop) (body : TypeBody) : Prop where
  interfaces : ∀ name ∈ body.interfaces, has name .interface
  members : ∀ name ∈ body.members, has name .object
  fields : ∀ field ∈ body.fields, field.Sound has
  inputs : ∀ field ∈ body.inputFields, ∃ kind, has field.type.innermost kind

section Sound

variable {has : String → Schema.Kind → Prop}

@[simp] theorem sound_scalar : Sound has .scalar := by
  constructor <;> simp [interfaces, members, fields, inputFields]

@[simp] theorem sound_enum (values : List String) : Sound has (.enum values) := by
  constructor <;> simp [interfaces, members, fields, inputFields]

@[simp] theorem sound_object_iff {interfaces : List String} {fields : List FieldDef} :
    Sound has (.object interfaces fields) ↔
      (∀ name ∈ interfaces, has name .interface) ∧ ∀ field ∈ fields, field.Sound has := by
  constructor
  · intro h
    exact ⟨h.interfaces, h.fields⟩
  · rintro ⟨hinterfaces, hfields⟩
    exact ⟨hinterfaces, by simp [members], hfields, by simp [inputFields]⟩

@[simp] theorem sound_interface_iff {interfaces : List String} {fields : List FieldDef} :
    Sound has (.interface interfaces fields) ↔
      (∀ name ∈ interfaces, has name .interface) ∧ ∀ field ∈ fields, field.Sound has := by
  constructor
  · intro h
    exact ⟨h.interfaces, h.fields⟩
  · rintro ⟨hinterfaces, hfields⟩
    exact ⟨hinterfaces, by simp [members], hfields, by simp [inputFields]⟩

@[simp] theorem sound_union_iff {members : List String} :
    Sound has (.union members) ↔ ∀ name ∈ members, has name .object := by
  constructor
  · intro h
    exact h.members
  · intro hmembers
    exact ⟨by simp [interfaces], hmembers, by simp [fields], by simp [inputFields]⟩

@[simp] theorem sound_input_iff {fields : List InputValue} :
    Sound has (.input fields) ↔ ∀ field ∈ fields, ∃ kind, has field.type.innermost kind := by
  constructor
  · intro h
    exact h.inputs
  · intro hinputs
    exact ⟨by simp [interfaces], by simp [members], by simp [TypeBody.fields], hinputs⟩

end Sound

end TypeBody

end Sdl

namespace Schema

variable {types : List GraphType}

/-- The types have one of that name and kind. -/
def Has (types : List GraphType) (name : String) (kind : Kind) : Prop :=
  kindOf? types name = some kind

theorem exists_has_iff {name : String} :
    (∃ kind, Has types name kind) ↔ (findType? types name).isSome := by
  unfold Has kindOf?
  rw [← Option.isSome_iff_exists, Option.isSome_map]

/-- A name keeps the last argument that is written under it. -/
theorem mem_foldl_put {file : Option String} {arguments : List Sdl.InputValue}
    {found : Assoc String FieldType} (hkeys : found.keys.Nodup) {entry : String × FieldType} :
    entry ∈ arguments.foldl (fun found argument =>
        found.put argument.name (.ofExpr (.source file argument.position) argument.type)) found ↔
      (∃ argument, Sdl.IsLast arguments argument ∧
        entry = (argument.name, .ofExpr (.source file argument.position) argument.type)) ∨
      entry ∈ found ∧ entry.1 ∉ arguments.map (·.name) := by
  induction arguments generalizing found with
  | nil => simp [Sdl.IsLast]
  | cons first rest ih =>
      rw [List.foldl_cons, ih (Assoc.keys_put_nodup hkeys _ _), Assoc.mem_put hkeys, List.map_cons,
        List.mem_cons, not_or]
      simp only [Sdl.isLast_cons_iff]
      constructor
      · intro h
        rcases h with ⟨argument, hlast, rfl⟩ | ⟨rfl | ⟨hmem, hne⟩, hrest⟩
        · exact Or.inl ⟨argument, Or.inr hlast, rfl⟩
        · exact Or.inl ⟨first, Or.inl ⟨rfl, hrest⟩, rfl⟩
        · exact Or.inr ⟨hmem, hne, hrest⟩
      · intro h
        rcases h with ⟨argument, ⟨rfl, hrest⟩ | hlast, rfl⟩ | ⟨hmem, hne, hrest⟩
        · exact Or.inr ⟨Or.inl rfl, hrest⟩
        · exact Or.inl ⟨argument, hlast, rfl⟩
        · exact Or.inr ⟨Or.inr ⟨hmem, hne⟩, hrest⟩

theorem mem_argumentsOf {file : Option String} {arguments : List Sdl.InputValue}
    {entry : String × FieldType} :
    entry ∈ argumentsOf file arguments ↔ ∃ argument, Sdl.IsLast arguments argument ∧
      entry = (argument.name, .ofExpr (.source file argument.position) argument.type) := by
  have hkeys : (Assoc.keys ([] : Assoc String FieldType)).Nodup := List.nodup_nil
  unfold argumentsOf
  rw [mem_foldl_put hkeys]
  simp

theorem undefinedErrors_eq_nil_iff {name : String} {location : Location} :
    undefinedErrors types name location = [] ↔ ∃ kind, Has types name kind := by
  rw [exists_has_iff]
  simp [undefinedErrors, Option.isSome_iff_ne_none]

theorem interfaceErrors_eq_nil_iff {type : String} {mention : Mention} :
    interfaceErrors types type mention = [] ↔ Has types mention.name .interface := by
  unfold interfaceErrors Has
  split <;> simp_all

theorem memberErrors_eq_nil_iff {union : String} {mention : Mention} :
    memberErrors types union mention = [] ↔ Has types mention.name .object := by
  unfold memberErrors Has
  split <;> simp_all

/-- A field has no bad reference just if the types of the field and of its arguments are there, that
of the field being no input type. -/
theorem fieldErrors_eq_nil_iff_has {type : String} {field : Field} :
    fieldErrors types type field = [] ↔
      (∃ kind, Has types field.type.innermost kind ∧ kind ≠ .inputObject) ∧
        ∀ argument ∈ field.arguments, ∃ kind, Has types argument.2.innermost kind := by
  unfold fieldErrors
  rw [List.append_eq_nil_iff, List.flatMap_eq_nil_iff]
  apply and_congr
  · unfold Has
    split <;> simp_all
  · simp only [undefinedErrors_eq_nil_iff]

theorem fieldErrors_eq_nil_iff {type parent : String} {file : Option String}
    {field : Sdl.FieldDef} :
    fieldErrors types type (fieldOf file parent field) = [] ↔ field.Sound (Has types) := by
  have hinnermost : (fieldOf file parent field).type.innermost = field.type.innermost :=
    FieldType.innermost_ofExpr _ _
  have harguments : (∀ argument ∈ (fieldOf file parent field).arguments,
      ∃ kind, Has types argument.2.innermost kind) ↔
        ∀ argument, Sdl.IsLast field.arguments argument →
          ∃ kind, Has types argument.type.innermost kind := by
    constructor
    · intro hall argument hlast
      simpa using hall _ (mem_argumentsOf.2 ⟨argument, hlast, rfl⟩)
    · intro hall entry hentry
      obtain ⟨argument, hlast, rfl⟩ := mem_argumentsOf.1 hentry
      simpa using hall argument hlast
  rw [fieldErrors_eq_nil_iff_has, hinnermost, harguments]
  constructor
  · rintro ⟨houtput, hall⟩
    exact ⟨houtput, hall⟩
  · intro h
    exact ⟨h.output, h.arguments⟩

theorem forall_interfaceErrors_iff {type : String} {location : Location} {base : List Mention}
    {names : List String} :
    (∀ mention ∈ (mentions location names).foldl addInterface base,
        interfaceErrors types type mention = []) ↔
      (∀ mention ∈ base, interfaceErrors types type mention = []) ∧
        ∀ name ∈ names, Has types name .interface := by
  unfold mentions
  simp only [interfaceErrors_eq_nil_iff]
  induction names generalizing base with
  | nil => simp
  | cons first rest ih =>
      have hfirst : (∀ mention ∈ addInterface base ⟨first, location⟩,
            Has types mention.name .interface) ↔
          (∀ mention ∈ base, Has types mention.name .interface) ∧ Has types first .interface := by
        unfold addInterface
        split
        · next hold =>
            simp only [List.any_eq_true, beq_iff_eq] at hold
            obtain ⟨mention, hmem, rfl⟩ := hold
            exact ⟨fun h => ⟨h, h mention hmem⟩, fun h => h.1⟩
        · simp [or_imp, forall_and]
      rw [List.map_cons, List.foldl_cons, ih, hfirst, List.forall_mem_cons, and_assoc]

/-- The references of a type before any extension are those of its definition. -/
theorem typeErrors_ofDef_eq_nil_iff {file : Option String} {definition : Sdl.TypeDef} :
    typeErrors types (.ofDef file definition) = [] ↔ definition.body.Sound (Has types) := by
  unfold typeErrors GraphType.ofDef Content.ofDef
  cases definition.body with
  | scalar => simp
  | enum values => simp
  | object interfaces fields =>
      simp [forall_interfaceErrors_iff, fieldErrors_eq_nil_iff]
  | interface interfaces fields =>
      simp [forall_interfaceErrors_iff, fieldErrors_eq_nil_iff]
  | union members => simp [memberErrors_eq_nil_iff, mentions]
  | input fields => simp [undefinedErrors_eq_nil_iff, inputFieldOf]

/-- An extension adds its references. -/
theorem typeErrors_extended_singleton_eq_nil_iff {type : GraphType} {extension : Extension}
    (h : extension.kind = type.kind) :
    typeErrors types (type.extended [extension]) = [] ↔
      typeErrors types type = [] ∧ extension.addition.body.added.Sound (Has types) := by
  obtain ⟨name, content, location⟩ := type
  obtain ⟨file, ⟨name', body, position⟩⟩ := extension
  unfold Extension.kind at h
  unfold typeErrors GraphType.extended Content.extended
  simp only [List.foldl_cons, List.foldl_nil]
  cases content <;> cases body
  case scalar.scalar => simp [Sdl.TypeBody.added]
  case enum.enum => simp [Sdl.TypeBody.added]
  case object.object interfaces fields more added =>
    simp [forall_interfaceErrors_iff, fieldErrors_eq_nil_iff, Sdl.TypeBody.added, and_assoc,
      and_left_comm]
  case interface.interface interfaces fields more added =>
    simp [fieldErrors_eq_nil_iff, Sdl.TypeBody.added, and_assoc]
  case union.union members added =>
    simp [memberErrors_eq_nil_iff, mentions, Sdl.TypeBody.added]
  case input.input fields added =>
    simp [undefinedErrors_eq_nil_iff, inputFieldOf, Sdl.TypeBody.added]
  all_goals cases h

theorem typeErrors_extended_eq_nil_iff {type : GraphType} {extensions : List Extension}
    (h : ∀ extension ∈ extensions, extension.kind = type.kind) :
    typeErrors types (type.extended extensions) = [] ↔
      typeErrors types type = [] ∧
        ∀ extension ∈ extensions, extension.addition.body.added.Sound (Has types) := by
  induction extensions generalizing type with
  | nil => simp
  | cons first rest ih =>
      have hstep : type.extended (first :: rest) = (type.extended [first]).extended rest := by simp
      have hrest : ∀ extension ∈ rest, extension.kind = (type.extended [first]).kind := by
        intro extension hmem
        rw [GraphType.kind_extended]
        exact h extension (List.mem_cons_of_mem _ hmem)
      rw [hstep, ih hrest, typeErrors_extended_singleton_eq_nil_iff (h first List.mem_cons_self),
        List.forall_mem_cons, and_assoc]

end Schema

end SchemaCoverage
