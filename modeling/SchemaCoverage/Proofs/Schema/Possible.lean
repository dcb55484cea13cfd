import SchemaCoverage.Proofs.Schema.Building
/-!
The types that a value of an interface or union may have. In a graph that was built all of them are
object types of the graph, so that none of them is passed over.
-/
namespace SchemaCoverage.Schema

/-- All types that a value of an interface or union of the graph may have are object types. -/
def Graph.PossibleObjects (graph : Graph) : Prop :=
  ∀ type, graph.type? type.name = some type → type.isPolymorphic = true →
    ∀ name ∈ graph.possibleTypes type.name,
      ∃ member, graph.type? name = some member ∧ member.kind = .object

/-- Where no reference is bad all members of a union are object types. -/
theorem kindOf?_member {types : List GraphType} (hreferences : referenceErrors types = [])
    {type : GraphType} (hmem : type ∈ types) {mention : Mention}
    (hmember : mention ∈ type.members) :
    kindOf? types mention.name = some .object := by
  have herrors := List.flatMap_eq_nil_iff.1 hreferences type hmem
  obtain ⟨name, content, location⟩ := type
  cases content with
  | union members =>
      have hmention := List.flatMap_eq_nil_iff.1 herrors mention hmember
      unfold memberErrors at hmention
      split at hmention
      · assumption
      · cases hmention
      · cases hmention
  | _ => cases hmember

theorem possibleObjects_of_references {graph : Graph}
    (hnames : (graph.types.map (·.name)).Nodup) (hreferences : referenceErrors graph.types = []) :
    graph.PossibleObjects := by
  intro type hfind hpolymorphic name hname
  unfold Graph.possibleTypes at hname
  rw [hfind] at hname
  have hmem := mem_of_findType? hfind
  cases hkind : type.kind with
  | union =>
      simp only [hkind, List.mem_map] at hname
      obtain ⟨mention, hmember, rfl⟩ := hname
      obtain ⟨member, hmember', hobject⟩ :=
        Option.map_eq_some_iff.1 (kindOf?_member hreferences hmem hmember)
      exact ⟨member, hmember', hobject⟩
  | interface =>
      simp only [hkind, Graph.implementations, List.mem_map, List.mem_filter, Bool.and_eq_true,
        beq_iff_eq] at hname
      obtain ⟨member, ⟨hin, hobject, -⟩, rfl⟩ := hname
      exact ⟨member, findType?_of_mem hnames hin, hobject⟩
  | _ => simp [GraphType.isPolymorphic, hkind] at hpolymorphic

theorem possibleObjects_of_ofDocuments {documents : List (Option String × Sdl.Document)}
    {graph : Graph} (h : Graph.ofDocuments documents = .ok graph) : graph.PossibleObjects := by
  obtain ⟨roots, hloaded, -, hreferences⟩ := ofDocuments_eq_ok_iff.1 h
  exact possibleObjects_of_references hloaded.names_nodup hreferences

end SchemaCoverage.Schema
