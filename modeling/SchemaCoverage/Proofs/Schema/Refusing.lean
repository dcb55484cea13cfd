import SchemaCoverage.Proofs.Schema.Acceptance
/-!
What is said of extensions that are refused. An extension is refused while it is loaded or, if it
waits, when the graph is built. What is said of it then holds of the definitions that have been
read, but for one case: a built-in scalar refuses what is written for scalars as if it were of
another kind.
-/
namespace SchemaCoverage.Schema

/-- An error about an extension tells the truth of the definitions that have been read. The
extension is among them; the type that it is of is there and of another kind, or is not there. -/
def BuildError.Truthful (read : List Placed) : BuildError → Prop
  | .extensionOfOtherKind name defined kind location =>
      Defines (read.map Prod.snd) name defined ∧ defined ≠ kind ∧
        ∃ extension ∈ extensions read, extension.addition.name = name ∧
          extension.location = location ∧ extension.kind = kind
  | .extensionOfUndefined name location =>
      (∀ kind, ¬Defines (read.map Prod.snd) name kind) ∧
        ∃ extension ∈ extensions read, extension.addition.name = name ∧
          extension.location = location
  | _ => True

/-- Loading the definitions or building the graph fails with the error once some of the definitions
have been read: those up to the one that cannot be loaded, or all if the graph cannot be built. -/
inductive FailsAfter (definitions : List Placed) : List Placed → BuildError → Prop
  | loading {before after : List Placed} {placed : Placed} {builder : Builder} {error : BuildError}
      (hsplit : definitions = before ++ placed :: after)
      (hload : before.foldlM Builder.addPlaced .empty = .ok builder)
      (hadd : builder.addPlaced placed = .error error) :
      FailsAfter definitions (before ++ [placed]) error
  | building {builder : Builder} {error : BuildError}
      (hload : definitions.foldlM Builder.addPlaced .empty = .ok builder)
      (hbuild : builder.build = .error error) : FailsAfter definitions definitions error

/-- What is said of extensions where no graph is made of the documents is true. -/
def TellsTruth (documents : List (Option String × Sdl.Document)) : Prop :=
  ∀ read error, FailsAfter (placed documents) read error → error.Truthful read

/-- Loading comes to an extension of a built-in scalar that is written for scalars. -/
def ReachesBuiltinScalar (definitions : List Placed) : Prop :=
  ∃ before file addition after builder,
    definitions = before ++ (file, .extension addition) :: after ∧
      before.foldlM Builder.addPlaced .empty = .ok builder ∧
      addition.body = .scalar ∧ addition.name ∈ builtinTypes.map (·.name)

/-- The error is about an extension. -/
def BuildError.IsRefusal : BuildError → Prop
  | .extensionOfOtherKind _ _ _ _ | .extensionOfUndefined _ _ => True
  | _ => False

theorem BuildError.truthful_of_not_isRefusal {error : BuildError} (h : ¬error.IsRefusal)
    (read : List Placed) : error.Truthful read := by
  cases error with
  | extensionOfOtherKind | extensionOfUndefined => exact absurd trivial h
  | _ => trivial

theorem ofDocuments_eq_error_iff {documents : List (Option String × Sdl.Document)}
    {error : BuildError} :
    Graph.ofDocuments documents = .error error ↔
      ∃ read, FailsAfter (placed documents) read error := by
  rw [Graph.ofDocuments, Builder.addDocuments_eq, bind_eq_error_iff, foldlM_eq_error_iff]
  constructor
  · intro h
    rcases h with ⟨before, placed, after, builder, hsplit, hload, hadd⟩ | ⟨builder, hload, hbuild⟩
    · exact ⟨_, .loading hsplit hload hadd⟩
    · exact ⟨_, .building hload hbuild⟩
  · rintro ⟨read, h⟩
    cases h with
    | loading hsplit hload hadd => exact Or.inl ⟨_, _, _, _, hsplit, hload, hadd⟩
    | building hload hbuild => exact Or.inr ⟨_, hload, hbuild⟩

section Refusals

/-! Only an extension is refused: no other step fails with an error about one. -/

theorem not_isRefusal_of_addField {type : String} {fields : List Field} {field : Field}
    {error : BuildError} (h : addField type fields field = .error error) :
    ¬error.IsRefusal := by
  unfold addField at h
  split at h
  · cases h
    exact not_false
  · cases h

theorem not_isRefusal_of_addMember {union : String} {members : List Mention} {member : Mention}
    {error : BuildError} (h : addMember union members member = .error error) :
    ¬error.IsRefusal := by
  unfold addMember at h
  split at h
  · cases h
    exact not_false
  · cases h

theorem not_isRefusal_of_foldlM {α β : Type} {add : β → α → Except BuildError β}
    (hadd : ∀ b a error, add b a = .error error → ¬error.IsRefusal) {items : List α} {b : β}
    {error : BuildError} (h : items.foldlM add b = .error error) : ¬error.IsRefusal := by
  obtain ⟨before, item, after, b', -, -, hitem⟩ := foldlM_eq_error_iff.1 h
  exact hadd b' item error hitem

theorem not_isRefusal_of_addFields {type : String} {fields added : List Field} {error : BuildError}
    (h : added.foldlM (addField type) fields = .error error) : ¬error.IsRefusal :=
  not_isRefusal_of_foldlM (fun _ _ _ => not_isRefusal_of_addField) h

theorem not_isRefusal_of_addMembers {union : String} {members added : List Mention}
    {error : BuildError} (h : added.foldlM (addMember union) members = .error error) :
    ¬error.IsRefusal :=
  not_isRefusal_of_foldlM (fun _ _ _ => not_isRefusal_of_addMember) h

theorem not_isRefusal_of_contentOf {file : Option String} {definition : Sdl.TypeDef}
    {error : BuildError} (h : contentOf file definition = .error error) :
    ¬error.IsRefusal := by
  unfold contentOf at h
  cases hbody : definition.body <;> simp only [hbody] at h
  case scalar => cases h
  case enum => cases h
  case union => exact not_isRefusal_of_addMembers (map_eq_error_iff.1 h)
  all_goals exact not_isRefusal_of_addFields (map_eq_error_iff.1 h)

theorem not_isRefusal_of_declareRoot {operation : Operation} {existing declared : Option Mention}
    {error : BuildError} (h : Builder.declareRoot operation existing declared = .error error) :
    ¬error.IsRefusal := by
  cases existing <;> cases declared <;> cases h
  exact not_false

theorem not_isRefusal_of_addRoots {builder : Builder} {file : Option String}
    {block : Sdl.SchemaBlock} {error : BuildError} (h : builder.addRoots file block = .error error) :
    ¬error.IsRefusal := by
  rcases bind_eq_error_iff.1 h with hquery | ⟨query, -, h⟩
  · exact not_isRefusal_of_declareRoot hquery
  rcases bind_eq_error_iff.1 h with hmutation | ⟨mutation, -, h⟩
  · exact not_isRefusal_of_declareRoot hmutation
  rcases bind_eq_error_iff.1 h with hsubscription | ⟨subscription, -, h⟩
  · exact not_isRefusal_of_declareRoot hsubscription
  · cases h

theorem not_isRefusal_of_addType {builder : Builder} {type : GraphType} {error : BuildError}
    (h : builder.addType type = .error error) : ¬error.IsRefusal := by
  unfold Builder.addType at h
  split at h
  · cases h
    exact not_false
  · split at h
    · cases h
      exact not_false
    · cases h

/-- A type refuses an extension just if it does not take its kind. -/
theorem extend_eq_error_iff_of_isRefusal {type : GraphType} {extension : Extension}
    {error : BuildError} (h : error.IsRefusal) :
    type.extend extension = .error error ↔
      ¬type.Extensible extension.kind ∧
        error = .extensionOfOtherKind extension.addition.name type.kind extension.kind
          extension.location := by
  obtain ⟨name, content, location⟩ := type
  obtain ⟨file, ⟨name', body, position⟩⟩ := extension
  have hfields (base added : List Field) : added.foldlM (addField name') base ≠ .error error :=
    fun hadd => not_isRefusal_of_addFields hadd h
  have hmembers (base added : List Mention) :
      added.foldlM (addMember name') base ≠ .error error :=
    fun hadd => not_isRefusal_of_addMembers hadd h
  simp only [GraphType.extend, GraphType.Extensible, GraphType.kind, Extension.kind]
  cases content <;> cases body
  case scalar.scalar =>
    simp only [Content.kind, kindOfBody]
    split
    · next hbuiltin => simp [hbuiltin, @eq_comm _ error]
    · next hown => simp [hown]
  case enum.enum => simp [Content.kind, kindOfBody]
  case input.input => simp [Content.kind, kindOfBody, map_eq_error_iff, hfields]
  case interface.interface => simp [Content.kind, kindOfBody, map_eq_error_iff, hfields]
  case object.object => simp [Content.kind, kindOfBody, map_eq_error_iff, hfields]
  case union.union => simp [Content.kind, kindOfBody, map_eq_error_iff, hmembers]
  all_goals simp [Content.kind, kindOfBody, @eq_comm _ error]

/-- The type of the name of an extension is the one that may refuse it. -/
theorem extendTypes_eq_error_iff {types : List GraphType} {extension : Extension}
    {error : BuildError} (hnames : (types.map (·.name)).Nodup) :
    extendTypes types extension = .error error ↔
      ∃ type ∈ types, type.name = extension.addition.name ∧
        type.extend extension = .error error := by
  induction types with
  | nil => simp [extendTypes]
  | cons type rest ih =>
      obtain ⟨hnew, hrest⟩ := List.nodup_cons.1 hnames
      unfold extendTypes
      split
      · next hname =>
          rw [exceptMap_eq_error_iff]
          constructor
          · exact fun h => ⟨type, List.mem_cons_self, hname, h⟩
          · rintro ⟨other, hmem, hother, h⟩
            rwa [eq_of_name_eq hnames List.mem_cons_self hmem (hname.trans hother.symm)]
      · next hname =>
          rw [exceptMap_eq_error_iff, ih hrest]
          simp [hname]

theorem addPlaced_eq_error_of_isRefusal {builder : Builder} {placed : Placed} {error : BuildError}
    (h : builder.addPlaced placed = .error error) (hrefusal : error.IsRefusal) :
    ∃ file addition, placed = (file, .extension addition) ∧
      extendTypes builder.types ⟨file, addition⟩ = .error error := by
  obtain ⟨file, definition⟩ := placed
  cases definition with
  | type definition =>
      rcases bind_eq_error_iff.1 h with hcontent | ⟨content, -, hadd⟩
      · exact absurd hrefusal (not_isRefusal_of_contentOf hcontent)
      · exact absurd hrefusal (not_isRefusal_of_addType hadd)
  | extension addition =>
      rcases bind_eq_error_iff.1 h with hextend | ⟨found, -, hnext⟩
      · exact ⟨file, addition, rfl, hextend⟩
      · cases found <;> cases hnext
  | schema block => exact absurd hrefusal (not_isRefusal_of_addRoots h)
  | directive => cases h

end Refusals

theorem eq_scalar_of_kindOfBody {body : Sdl.TypeBody} (h : kindOfBody body = .scalar) :
    body = .scalar := by
  cases body <;> cases h
  rfl

namespace Headed

variable {types : List GraphType} {read : List Placed}

theorem extendedBy (h : Headed types read) (extensions : List Extension) :
    Headed (extendedBy types extensions) read := by
  rw [Headed, ← h]
  simp [Schema.extendedBy, Function.comp_def]

theorem append_singleton (h : Headed types read) {placed : Placed}
    (hplaced : definedType? placed = none) : Headed types (read ++ [placed]) := by
  have hdefined : definedTypes (read ++ [placed]) = definedTypes read := by
    simp [definedTypes, hplaced]
  rw [Headed, hdefined]
  exact h

theorem mem_names (h : Headed types read) {name : String}
    (hmem : name ∈ builtinTypes.map (·.name)) : name ∈ types.map (·.name) := by
  obtain ⟨builtin, hbuiltin, rfl⟩ := List.mem_map.1 hmem
  obtain ⟨type, htype, hname, -⟩ := exists_of_headers_eq h.symm (List.mem_append_left _ hbuiltin)
  exact List.mem_map.2 ⟨type, htype, hname⟩

/-- Only the built-in types are of no place in a file. -/
theorem mem_builtinTypes_iff (h : Headed types read)
    (hnames : (types.map (·.name)).Nodup) {type : GraphType} (hmem : type ∈ types) :
    type.name ∈ builtinTypes.map (·.name) ↔ type.kind = .scalar ∧ type.location = .builtin := by
  constructor
  · intro hbuiltin
    obtain ⟨builtin, hbuiltin, hname⟩ := List.mem_map.1 hbuiltin
    obtain ⟨type', hmem', hname', hkind, hlocation⟩ :=
      exists_of_headers_eq h.symm (List.mem_append_left _ hbuiltin)
    obtain rfl := eq_of_name_eq hnames hmem hmem' (hname.symm.trans hname'.symm)
    obtain ⟨name, -, rfl⟩ := List.mem_map.1 hbuiltin
    exact ⟨hkind, hlocation⟩
  · rintro ⟨-, hlocation⟩
    obtain ⟨type', hmem', hname, -, hlocation'⟩ := exists_of_headers_eq h hmem
    rcases List.mem_append.1 hmem' with hbuiltin | hdefined
    · exact List.mem_map.2 ⟨type', hbuiltin, hname⟩
    · obtain ⟨file, definition, -, rfl⟩ := mem_definedTypes.1 hdefined
      cases hlocation'.trans hlocation

/-- What a type says when it refuses an extension that has been read is true, unless a built-in
scalar refuses one that is written for scalars. -/
theorem truthful_of_extendTypes (h : Headed types read) (hnames : (types.map (·.name)).Nodup)
    {extension : Extension} (hread : extension ∈ extensions read)
    (hscalar : extension.kind = .scalar →
      extension.addition.name ∉ builtinTypes.map (·.name))
    {error : BuildError} (hrefusal : error.IsRefusal)
    (herror : extendTypes types extension = .error error) : error.Truthful read := by
  obtain ⟨type, hmem, hname, hextend⟩ := (extendTypes_eq_error_iff hnames).1 herror
  obtain ⟨hkind, rfl⟩ := (extend_eq_error_iff_of_isRefusal hrefusal).1 hextend
  refine ⟨h.defines_iff.2 ⟨type, hmem, hname, rfl⟩, ?_, extension, hread, rfl, rfl, rfl⟩
  intro hsame
  refine hkind ⟨hsame, fun htype hbuiltin => ?_⟩
  apply hscalar (hsame.symm.trans htype)
  rw [← hname]
  exact (h.mem_builtinTypes_iff hnames hmem).2 ⟨htype, hbuiltin⟩

end Headed

section Reads

/-- A builder that has taken the definitions. What waits is of no built-in type. -/
structure Builder.Reads (builder : Builder) (read : List Placed) : Prop where
  distinct : builder.Distinct
  headed : Headed builder.types read
  waiting : ∀ extension ∈ builder.waiting, extension ∈ extensions read ∧
    extension.addition.name ∉ builtinTypes.map (·.name)

variable {builder next : Builder} {read : List Placed}

theorem Builder.reads_empty : Builder.empty.Reads [] where
  distinct := Builder.distinct_empty
  headed := rfl
  waiting := nofun

theorem Builder.Reads.addPlaced (h : builder.Reads read) {placed : Placed}
    (hadd : builder.addPlaced placed = .ok next) : next.Reads (read ++ [placed]) := by
  have hdistinct := h.distinct.addPlaced hadd
  have hold (extension : Extension) (hmem : extension ∈ builder.waiting) :
      extension ∈ extensions (read ++ [placed]) ∧
        extension.addition.name ∉ builtinTypes.map (·.name) := by
    obtain ⟨hread, hname⟩ := h.waiting extension hmem
    rw [extensions_append]
    exact ⟨List.mem_append_left _ hread, hname⟩
  obtain ⟨file, definition⟩ := placed
  cases definition with
  | type definition =>
      obtain ⟨-, -, -, rfl⟩ := addPlaced_type_eq_ok_iff.1 hadd
      refine ⟨hdistinct, ?_, hold⟩
      have hdefined : definedTypes (read ++ [(file, .type definition)]) =
          definedTypes read ++ [.ofDef file definition] := List.filterMap_append
      rw [Headed, hdefined, ← List.append_assoc, List.map_append, List.map_append, h.headed]
  | extension addition =>
      have hplaced : definedType? (file, .extension addition) = none := rfl
      rcases (addPlaced_extension_eq_ok_iff h.distinct).1 hadd with ⟨-, rfl⟩ | ⟨hnew, rfl⟩
      · exact ⟨hdistinct, (h.headed.append_singleton hplaced).extendedBy _, hold⟩
      · refine ⟨hdistinct, h.headed.append_singleton hplaced, ?_⟩
        intro extension hmem
        rcases List.mem_append.1 hmem with hmem | hmem
        · exact hold extension hmem
        · obtain rfl := List.mem_singleton.1 hmem
          rw [extensions_append]
          exact ⟨List.mem_append_right _ List.mem_cons_self,
            fun hbuiltin => hnew (h.headed.mem_names hbuiltin)⟩
  | schema block =>
      rw [(addPlaced_schema_eq_ok_iff.1 hadd).1] at hdistinct ⊢
      exact ⟨hdistinct, h.headed.append_singleton rfl, hold⟩
  | directive =>
      cases hadd
      exact ⟨hdistinct, h.headed.append_singleton rfl, hold⟩

theorem Builder.Reads.foldlM_addPlaced (h : builder.Reads read) {definitions : List Placed}
    (hload : definitions.foldlM Builder.addPlaced builder = .ok next) :
    next.Reads (read ++ definitions) := by
  induction definitions generalizing builder read with
  | nil =>
      cases hload
      rwa [List.append_nil]
  | cons placed rest ih =>
      rw [List.foldlM_cons, bind_eq_ok_iff] at hload
      obtain ⟨between, hadd, hrest⟩ := hload
      rw [← List.singleton_append, ← List.append_assoc]
      exact ih (h.addPlaced hadd) hrest

theorem reads_of_foldlM {definitions : List Placed}
    (hload : definitions.foldlM Builder.addPlaced .empty = .ok builder) :
    builder.Reads definitions :=
  Builder.reads_empty.foldlM_addPlaced hload

/-- What is said of an extension while it is loaded is true, unless a built-in scalar refuses one
that is written for scalars. -/
theorem Builder.Reads.truthful_of_addPlaced (h : builder.Reads read) {placed : Placed}
    {error : BuildError} (hrefusal : error.IsRefusal)
    (hadd : builder.addPlaced placed = .error error)
    (hscalar : ∀ file addition, placed = (file, .extension addition) →
      ¬(addition.body = .scalar ∧ addition.name ∈ builtinTypes.map (·.name))) :
    error.Truthful (read ++ [placed]) := by
  obtain ⟨file, addition, rfl, hextend⟩ := addPlaced_eq_error_of_isRefusal hadd hrefusal
  refine (h.headed.append_singleton rfl).truthful_of_extendTypes h.distinct.names ?_ ?_ hrefusal
    hextend
  · rw [extensions_append]
    exact List.mem_append_right _ List.mem_cons_self
  · intro hkind hname
    exact hscalar file addition rfl ⟨eq_scalar_of_kindOfBody hkind, hname⟩

/-- What is said of an extension that has waited is true. -/
theorem Builder.Reads.truthful_of_build (h : builder.Reads read) {error : BuildError}
    (hrefusal : error.IsRefusal) (hbuild : builder.build = .error error) :
    error.Truthful read := by
  rcases build_eq_error hbuild with hextended | rfl | ⟨operation, name, rfl⟩ | ⟨errors, rfl⟩
  case inr.inl => cases hrefusal
  case inr.inr.inl => cases hrefusal
  case inr.inr.inr => cases hrefusal
  obtain ⟨before, extension, after, types, hsplit, hbefore, happly⟩ :=
    foldlM_eq_error_iff.1 hextended
  have hwaiting : extension ∈ builder.waiting := by
    apply mem_ordered.1
    rw [ordered, hsplit]
    simp
  obtain ⟨hread, hname⟩ := h.waiting extension hwaiting
  obtain ⟨hfits, rfl⟩ :=
    (foldlM_applyWaiting_eq_ok_iff h.distinct.names h.distinct.parts).1 hbefore
  have hheaded := h.headed.extendedBy before
  have hnames : ((extendedBy builder.types before).map (·.name)).Nodup := by
    rw [names_extendedBy]
    exact h.distinct.names
  rcases bind_eq_error_iff.1 happly with hextend | ⟨found, hfound, hnext⟩
  · exact hheaded.truthful_of_extendTypes hnames hread (fun _ => hname) hrefusal hextend
  · cases found with
    | some types => cases hnext
    | none =>
        cases hnext
        refine ⟨?_, extension, hread, rfl, rfl⟩
        intro kind hdefines
        obtain ⟨type, hmem, hsame, -⟩ := hheaded.defines_iff.1 hdefines
        exact extendTypes_eq_ok_none_iff.1 hfound (List.mem_map.2 ⟨type, hmem, hsame⟩)

/-- A built-in scalar refuses what is written for scalars as if it were of another kind. -/
theorem Builder.Reads.addPlaced_builtinScalar (h : builder.Reads read) (file : Option String)
    {addition : Sdl.TypeDef} (hbody : addition.body = .scalar)
    (hname : addition.name ∈ builtinTypes.map (·.name)) :
    builder.addPlaced (file, .extension addition) = .error (.extensionOfOtherKind addition.name
      .scalar .scalar (.source file addition.position)) := by
  obtain ⟨type, hmem, hsame⟩ := List.mem_map.1 (h.headed.mem_names hname)
  obtain ⟨hkind, hlocation⟩ :=
    (h.headed.mem_builtinTypes_iff h.distinct.names hmem).1 (hsame ▸ hname)
  have hextension : (Extension.mk file addition).kind = .scalar := by
    rw [Extension.kind, hbody]
    rfl
  apply bind_eq_error_iff.2
  left
  rw [extendTypes_eq_error_iff h.distinct.names]
  refine ⟨type, hmem, hsame, (extend_eq_error_iff_of_isRefusal ?_).2 ⟨?_, ?_⟩⟩
  · trivial
  · exact fun hextensible => hextensible.2 hkind hlocation
  · rw [hkind, hextension]
    rfl

end Reads

/-- What is said of extensions is true just if no built-in scalar is extended as a scalar. -/
theorem tellsTruth_iff (documents : List (Option String × Sdl.Document)) :
    TellsTruth documents ↔ ¬ReachesBuiltinScalar (placed documents) := by
  constructor
  · rintro h ⟨before, file, addition, after, builder, hsplit, hload, hbody, hname⟩
    have hadd := (reads_of_foldlM hload).addPlaced_builtinScalar file hbody hname
    obtain ⟨-, hne, -⟩ := h _ _ (.loading hsplit hload hadd)
    exact hne rfl
  · intro h read error hfails
    by_cases hrefusal : error.IsRefusal
    · cases hfails with
      | building hload hbuild => exact (reads_of_foldlM hload).truthful_of_build hrefusal hbuild
      | loading hsplit hload hadd =>
          apply (reads_of_foldlM hload).truthful_of_addPlaced hrefusal hadd
          rintro file addition rfl ⟨hscalar, hname⟩
          exact h ⟨_, file, addition, _, _, hsplit, hload, hscalar, hname⟩
    · exact BuildError.truthful_of_not_isRefusal hrefusal read

/-- A built-in scalar that is extended. -/
def extendedIntShelf : List (Option String × Sdl.Document) :=
  [(none,
    [.type ⟨"Query", .object [] [⟨"a", [], .named "Int" false, ⟨1, 14⟩⟩], ⟨1, 1⟩⟩,
      .extension ⟨"Int", .scalar, ⟨2, 8⟩⟩])]

/-- The extension is said to be of another kind, and both kinds are the same. -/
theorem extendedIntShelf_contradicts_itself : ¬TellsTruth extendedIntShelf := by
  intro h
  have herror : Graph.ofDocuments extendedIntShelf =
      .error (.extensionOfOtherKind "Int" .scalar .scalar (.source none ⟨2, 8⟩)) := by
    decide +kernel
  obtain ⟨read, hfails⟩ := ofDocuments_eq_error_iff.1 herror
  obtain ⟨-, hne, -⟩ := h read _ hfails
  exact hne rfl

end SchemaCoverage.Schema
