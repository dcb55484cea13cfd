import SchemaCoverage.Candidates.Resolver
import SchemaCoverage.Proofs.Assoc
import Mathlib.Data.List.Induction
/-!
Explicit mappings in front of a naming convention. For a schema type that is named by a mapping the
paths that are mapped to it are found, and the convention is not asked.
-/
namespace SchemaCoverage.Candidates

open Host Schema

/-- Some mapping names the schema type. -/
def Named (names : List TypeNames) (type : String) : Prop :=
  ∃ mapped ∈ names, ∃ path, (path, type) ∈ mapped.mappings

/-- The paths that some pairs map to a schema type, in order. -/
def pathsFor (type : String) (pairs : List (String × String)) : List String :=
  (pairs.filter (·.2 == type)).map (·.1)

/-- The paths that are mapped to a schema type, in the order of the mappings. -/
def mappedPaths (names : List TypeNames) (type : String) : List String :=
  pathsFor type (names.flatMap (·.mappings))

/-- The table of all mappings, one after another. -/
def tableOf (names : List TypeNames) : Table :=
  names.foldl Table.insertNames .empty

variable {names : List TypeNames} {type : String}

theorem Named.mappedPaths_ne_nil (h : Named names type) : mappedPaths names type ≠ [] := by
  obtain ⟨mapped, hmapped, path, hpath⟩ := h
  have hmem : path ∈ mappedPaths names type := by
    refine List.mem_map.2 ⟨(path, type), List.mem_filter.2 ⟨?_, by simp⟩, rfl⟩
    exact List.mem_flatMap.2 ⟨mapped, hmapped, hpath⟩
  exact List.ne_nil_of_mem hmem

theorem pathsFor_concat (type path name : String) (pairs : List (String × String)) :
    pathsFor type (pairs ++ [(path, name)]) =
      if name = type then pathsFor type pairs ++ [path] else pathsFor type pairs := by
  by_cases hname : name = type <;> simp [pathsFor, hname]

/-- A type for which no path was listed has no entry; the others have theirs listed once. -/
theorem candidates?_foldl_insert (pairs : List (String × String)) (type : String) :
    (pairs.foldl (fun table (path, name) => table.insert name path) Table.empty).candidates? type =
      if pathsFor type pairs = [] then none else some (pathsFor type pairs).eraseDups := by
  induction pairs using List.reverseRecOn with
  | nil => rfl
  | append_singleton pairs pair ih =>
      obtain ⟨path, name⟩ := pair
      rw [List.foldl_append, List.foldl_cons, List.foldl_nil, Table.candidates?_insert,
        pathsFor_concat]
      by_cases hname : name = type
      · subst hname
        have hlisted : (if pathsFor name pairs = [] then none
            else some (pathsFor name pairs).eraseDups).getD [] =
              (pathsFor name pairs).eraseDups := by
          split
          · next hnil => rw [hnil]; rfl
          · rfl
        rw [if_pos rfl, if_pos rfl, if_neg (by simp), ih, hlisted, Assoc.eraseDups_concat]
      · rw [if_neg hname, if_neg hname, ih]

theorem candidates?_tableOf (names : List TypeNames) (type : String) :
    (tableOf names).candidates? type =
      if mappedPaths names type = [] then none
      else some (mappedPaths names type).eraseDups := by
  have htable : tableOf names = (names.flatMap (·.mappings)).foldl
      (fun table (path, name) => table.insert name path) Table.empty := by
    rw [List.foldl_flatMap]
    rfl
  rw [htable, candidates?_foldl_insert]
  rfl

/-- The paths that are mapped to a named type are listed for it. -/
theorem Named.candidates?_tableOf (h : Named names type) :
    (tableOf names).candidates? type = some (mappedPaths names type).eraseDups := by
  rw [Candidates.candidates?_tableOf, if_neg h.mappedPaths_ne_nil]

/-- The table of the mappings, if there is anything in it, and a naming convention. -/
def mappedResolver (names : List TypeNames) (className : String → String) : Resolver :=
  .chain ((if (tableOf names).entries.isEmpty then [] else [.table (tableOf names)]) ++
    [.convention className])

/-- The convention is not asked about a named type. -/
theorem Named.resolve_mappedResolver (h : Named names type) (className : String → String)
    (registry : Registry) (declared : Option HostType) :
    (mappedResolver names className).resolve registry type declared =
      some (mappedPaths names type).eraseDups := by
  have hcandidates := h.candidates?_tableOf
  have hentries : (tableOf names).entries.isEmpty = false := by
    rw [List.isEmpty_eq_false_iff]
    intro hnil
    simp [Table.candidates?, hnil] at hcandidates
  simp only [mappedResolver, hentries, Bool.false_eq_true, if_false, List.singleton_append,
    Resolver.resolve, Resolver.resolveFirst, hcandidates]

/-- A naming convention fits everything, so that the check is of the table alone. -/
theorem check_mappedResolver (names : List TypeNames) (className className' : String → String)
    (graph : Graph) (registry : Registry) :
    (mappedResolver names className).check graph registry =
      (mappedResolver names className').check graph registry := by
  unfold mappedResolver
  split <;> rfl

end SchemaCoverage.Candidates
