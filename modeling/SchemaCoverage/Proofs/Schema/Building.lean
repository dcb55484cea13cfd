import SchemaCoverage.Proofs.Assoc
import SchemaCoverage.Proofs.Schema.Loading
/-!
Building graphs from documents. A graph comes out just if all definitions can be loaded, the root
types are object types and no reference is bad.
-/
namespace SchemaCoverage.Schema

namespace Builder

/-- Takes documents in order, up to the first error. They come with the files where they stand. -/
def addDocuments (builder : Builder) (documents : List (Option String × Sdl.Document)) :
    Except BuildError Builder :=
  documents.foldlM (fun builder (file, document) => builder.addDocument file document) builder

end Builder

/-- The definitions of documents, in order. -/
def placed (documents : List (Option String × Sdl.Document)) : List Placed :=
  documents.flatMap fun (file, document) => document.map (file, ·)

theorem Builder.addDocuments_eq (builder : Builder)
    (documents : List (Option String × Sdl.Document)) :
    builder.addDocuments documents = (placed documents).foldlM Builder.addPlaced builder := by
  induction documents generalizing builder with
  | nil => rfl
  | cons first rest ih =>
      obtain ⟨file, document⟩ := first
      have hplaced : placed ((file, document) :: rest) =
          document.map (file, ·) ++ placed rest := rfl
      have hdocument : builder.addDocument file document =
          (document.map (file, ·)).foldlM Builder.addPlaced builder := by
        rw [List.foldlM_map]
        rfl
      rw [hplaced, List.foldlM_append, ← hdocument]
      exact bind_congr ih

/-- The graph of some documents, built after all of them are loaded. -/
def Graph.ofDocuments (documents : List (Option String × Sdl.Document)) :
    Except BuildError Graph := do
  (← Builder.empty.addDocuments documents).build

theorem ofDocuments_eq_build {documents : List (Option String × Sdl.Document)} {builder : Builder}
    (h : Builder.empty.addDocuments documents = .ok builder) :
    Graph.ofDocuments documents = builder.build := by
  rw [Graph.ofDocuments, h]
  rfl

theorem findType?_of_mem {types : List GraphType} (hnames : (types.map (·.name)).Nodup)
    {type : GraphType} (hmem : type ∈ types) : findType? types type.name = some type :=
  find?_of_mem_of_nodup hnames hmem

theorem kindOf?_eq_some_iff {types : List GraphType} (hnames : (types.map (·.name)).Nodup)
    {name : String} {kind : Kind} :
    kindOf? types name = some kind ↔ ∃ type ∈ types, type.name = name ∧ type.kind = kind := by
  unfold kindOf?
  rw [Option.map_eq_some_iff]
  constructor
  · rintro ⟨type, hfind, hkind⟩
    exact ⟨type, mem_of_findType? hfind, name_of_findType? hfind, hkind⟩
  · rintro ⟨type, hmem, rfl, hkind⟩
    exact ⟨type, findType?_of_mem hnames hmem, hkind⟩

namespace Builder

theorem rootName_eq_ok_iff {types : List GraphType} {operation : Operation}
    {declared : Option Mention} {root : Option String} :
    rootName types operation declared = .ok root ↔
      (∀ mention ∈ declared, kindOf? types mention.name = some .object) ∧
      root = match declared with
        | some mention => some mention.name
        | none => if kindOf? types operation.title = some .object then some operation.title
            else none := by
  unfold rootName
  cases declared with
  | none =>
      simp only
      split <;> simp [eq_comm]
  | some mention =>
      simp only
      split <;> simp_all [eq_comm]

theorem rootName_eq_error {types : List GraphType} {operation : Operation}
    {declared : Option Mention} {error : BuildError}
    (h : rootName types operation declared = .error error) :
    ∃ name, error = .rootNotObject operation name := by
  unfold rootName at h
  split at h
  · next mention =>
      split at h
      · cases h
      · cases h
        exact ⟨mention.name, rfl⟩
  · split at h <;> cases h

theorem build_eq_ok_iff {builder : Builder} {graph : Graph} :
    builder.build = .ok graph ↔
      builder.extendedTypes = .ok graph.types ∧
      (∀ operation, rootName graph.types operation (builder.roots.of? operation) =
        .ok (graph.rootName? operation)) ∧
      referenceErrors graph.types = [] := by
  unfold build
  simp only [bind_eq_ok_iff]
  constructor
  · rintro ⟨types, htypes, query, hquery, h⟩
    cases query with
    | none => cases h
    | some query =>
        simp only [bind_eq_ok_iff] at h
        obtain ⟨mutation, hmutation, subscription, hsubscription, h⟩ := h
        split at h
        · next hreferences =>
            cases h
            refine ⟨htypes, ?_, hreferences⟩
            intro operation
            cases operation
            · exact hquery
            · exact hmutation
            · exact hsubscription
        · cases h
  · rintro ⟨htypes, hroots, hreferences⟩
    refine ⟨graph.types, htypes, some graph.query, hroots .query, ?_⟩
    simp only [bind_eq_ok_iff]
    refine ⟨graph.mutation, hroots .mutation, graph.subscription, hroots .subscription, ?_⟩
    rw [hreferences]
    rfl

end Builder

/-- The root types of the graph are those that the declared ones come to among its types. -/
def Graph.RootedBy (graph : Graph) (roots : DeclaredRoots) : Prop :=
  ∀ operation, Builder.rootName graph.types operation (roots.of? operation) =
    .ok (graph.rootName? operation)

namespace Builder

/-- With all extensions applied and the root types found, only a bad reference stands against the
graph. -/
theorem build_eq_of_rootedBy {builder : Builder} {graph : Graph}
    (htypes : builder.extendedTypes = .ok graph.types) (hroots : graph.RootedBy builder.roots) :
    builder.build =
      if referenceErrors graph.types = [] then .ok graph
      else .error (.badReferences (referenceErrors graph.types)) := by
  have hquery : rootName graph.types .query builder.roots.query = .ok (some graph.query) :=
    hroots .query
  have hmutation : rootName graph.types .mutation builder.roots.mutation = .ok graph.mutation :=
    hroots .mutation
  have hsubscription : rootName graph.types .subscription builder.roots.subscription =
      .ok graph.subscription := hroots .subscription
  simp only [build, htypes, hquery, hmutation, hsubscription, bind, Except.bind]
  split
  · next hnil =>
      rw [if_pos hnil]
      rfl
  · next hne => rw [if_neg hne]

/-- Why no graph is built: an extension that has waited is refused, there is no root type for
queries, a declared root type is no object type, or a reference is bad. -/
theorem build_eq_error {builder : Builder} {error : BuildError}
    (h : builder.build = .error error) :
    builder.extendedTypes = .error error ∨ error = .noQueryType ∨
      (∃ operation name, error = .rootNotObject operation name) ∨
      ∃ errors, error = .badReferences errors := by
  unfold build at h
  rcases bind_eq_error_iff.1 h with htypes | ⟨types, -, h⟩
  · exact Or.inl htypes
  right
  rcases bind_eq_error_iff.1 h with hquery | ⟨query, -, h⟩
  · obtain ⟨name, rfl⟩ := rootName_eq_error hquery
    exact Or.inr (Or.inl ⟨_, name, rfl⟩)
  cases query with
  | none =>
      cases h
      exact Or.inl rfl
  | some query =>
      rcases bind_eq_error_iff.1 h with hmutation | ⟨mutation, -, h⟩
      · obtain ⟨name, rfl⟩ := rootName_eq_error hmutation
        exact Or.inr (Or.inl ⟨_, name, rfl⟩)
      rcases bind_eq_error_iff.1 h with hsubscription | ⟨subscription, -, h⟩
      · obtain ⟨name, rfl⟩ := rootName_eq_error hsubscription
        exact Or.inr (Or.inl ⟨_, name, rfl⟩)
      split at h
      · cases h
      · cases h
        exact Or.inr (Or.inr ⟨_, rfl⟩)

end Builder

/-- A graph comes of documents just if they can be loaded to its types and give its root types, and
no reference in it is bad. -/
theorem ofDocuments_eq_ok_iff {documents : List (Option String × Sdl.Document)} {graph : Graph} :
    Graph.ofDocuments documents = .ok graph ↔
      ∃ roots : DeclaredRoots,
        Loaded .empty (placed documents) graph.types roots ∧
        (∀ operation, Builder.rootName graph.types operation (roots.of? operation) =
          .ok (graph.rootName? operation)) ∧
        referenceErrors graph.types = [] := by
  simp only [Graph.ofDocuments, bind_eq_ok_iff, Builder.addDocuments_eq, Builder.build_eq_ok_iff,
    loaded_iff Builder.distinct_empty]
  constructor
  · rintro ⟨loaded, hloaded, htypes, hrest⟩
    exact ⟨loaded.roots, ⟨loaded, hloaded, htypes, rfl⟩, hrest⟩
  · rintro ⟨_, ⟨loaded, hloaded, htypes, rfl⟩, hrest⟩
    exact ⟨loaded, hloaded, htypes, hrest⟩

theorem names_nodup_of_ofDocuments {documents : List (Option String × Sdl.Document)}
    {graph : Graph} (h : Graph.ofDocuments documents = .ok graph) :
    (graph.types.map (·.name)).Nodup := by
  obtain ⟨roots, hloaded, -⟩ := ofDocuments_eq_ok_iff.1 h
  exact hloaded.names_nodup

end SchemaCoverage.Schema
