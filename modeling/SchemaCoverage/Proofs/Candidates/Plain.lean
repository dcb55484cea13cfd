import SchemaCoverage.Candidates.Resolver
import SchemaCoverage.Proofs.Success
/-!
Resolvers of tables and naming conventions alone. What they find depends on the paths that are
registered and on nothing else of the registry, and once they are checked all that they find is
registered.
-/
namespace SchemaCoverage.Candidates

open Host Schema

namespace Resolver

/-- A resolver that is made of tables and naming conventions, in chains of any depth. -/
inductive Plain : Resolver → Prop
  | table (entries : Table) : Plain (.table entries)
  | convention (className : String → String) : Plain (.convention className)
  | chain {resolvers : List Resolver} : (∀ resolver ∈ resolvers, Plain resolver) →
      Plain (.chain resolvers)

variable {graph graph' : Graph} {registry registry' : Registry}

theorem checkAll_eq_ok_iff {resolvers : List Resolver} :
    checkAll graph registry resolvers = .ok () ↔
      ∀ resolver ∈ resolvers, check graph registry resolver = .ok () := by
  induction resolvers with
  | nil => simp [checkAll]
  | cons resolver others ih =>
      rw [checkAll, List.forall_mem_cons, ← ih]
      cases check graph registry resolver <;> simp

/-- What a chain finds one of its resolvers finds. -/
theorem exists_of_resolveFirst {type : String} {declared : Option HostType} {paths : List String}
    {resolvers : List Resolver}
    (h : resolveFirst registry type declared resolvers = some paths) :
    ∃ resolver ∈ resolvers, resolve registry type declared resolver = some paths := by
  induction resolvers with
  | nil => cases h
  | cons resolver others ih =>
      rw [resolveFirst] at h
      split at h
      · next found hfound =>
          cases h
          exact ⟨resolver, List.mem_cons_self, hfound⟩
      · obtain ⟨other, hmem, hother⟩ := ih h
        exact ⟨other, List.mem_cons_of_mem _ hmem, hother⟩

/-- The check of a table looks at the names of types and at registered paths only. -/
theorem table_check_congr (htypes : graph.hasType = graph'.hasType)
    (hpaths : registry.contains = registry'.contains) (entries : Table) :
    entries.check graph registry = entries.check graph' registry' := by
  unfold Table.check
  rw [htypes, hpaths]

/-- Chains check alike if their resolvers do. -/
theorem checkAll_congr {resolvers : List Resolver}
    (h : ∀ resolver ∈ resolvers,
      check graph registry resolver = check graph' registry' resolver) :
    checkAll graph registry resolvers = checkAll graph' registry' resolvers := by
  induction resolvers with
  | nil => rfl
  | cons resolver others ih =>
      rw [List.forall_mem_cons] at h
      rw [checkAll, checkAll, h.1, ih h.2]

/-- Chains find the same if their resolvers do. -/
theorem resolveFirst_congr {type : String} {declared declared' : Option HostType}
    {resolvers : List Resolver}
    (h : ∀ resolver ∈ resolvers,
      resolve registry type declared resolver = resolve registry' type declared' resolver) :
    resolveFirst registry type declared resolvers =
      resolveFirst registry' type declared' resolvers := by
  induction resolvers with
  | nil => rfl
  | cons resolver others ih =>
      rw [List.forall_mem_cons] at h
      rw [resolveFirst, resolveFirst, h.1, ih h.2]

/-- Checks look at the names of types and at registered paths only. -/
theorem Plain.check_congr {resolver : Resolver} (h : resolver.Plain)
    (htypes : graph.hasType = graph'.hasType) (hpaths : registry.contains = registry'.contains) :
    check graph registry resolver = check graph' registry' resolver := by
  induction h with
  | table entries => exact table_check_congr htypes hpaths entries
  | convention className => rfl
  | chain _ ih => exact checkAll_congr ih

theorem byName_congr (hpaths : registry.contains = registry'.contains)
    {declared declared' : HostType} (hpath : declared.path = declared'.path)
    (hpermits : declared.permits = declared'.permits) (name : String) :
    byName registry name (some declared) = byName registry' name (some declared') := by
  have hsibling : siblingPath declared name = siblingPath declared' name := by
    unfold siblingPath HostType.modulePath
    rw [hpath]
  simp only [byName]
  rw [hsibling, hpermits, hpaths]

/-- What is found where a host type is declared depends on its path and on what it permits, and of
the registry on the registered paths. -/
theorem Plain.resolve_congr {resolver : Resolver} (h : resolver.Plain)
    (hpaths : registry.contains = registry'.contains)
    {declared declared' : HostType} (hpath : declared.path = declared'.path)
    (hpermits : declared.permits = declared'.permits) (type : String) :
    resolve registry type (some declared) resolver =
      resolve registry' type (some declared') resolver := by
  induction h with
  | table entries => rfl
  | convention className =>
      rw [resolve, resolve, byName_congr hpaths hpath hpermits]
  | chain _ ih => exact resolveFirst_congr ih

/-- A name leads to registered paths only. -/
theorem contains_of_mem_byName {name path : String} {declared : Option HostType}
    (h : path ∈ byName registry name declared) : registry.contains path = true := by
  cases declared with
  | none =>
      obtain ⟨type, hmem, rfl⟩ := List.mem_map.1 h
      exact Registry.contains_iff.2 (List.mem_map.2 ⟨type, (List.mem_filter.1 hmem).1, rfl⟩)
  | some declared =>
      simp only [byName, Assoc.mem_foldl_addNew] at h
      rcases h with hsibling | hpermitted
      · split at hsibling
        · next hcontains => exact List.mem_singleton.1 hsibling ▸ hcontains
        · cases hsibling
      · simpa using (Bool.and_eq_true_iff.1 (List.mem_filter.1 hpermitted).2).2

/-- A table that passed its check lists registered paths only. -/
theorem contains_of_table {entries : Table} (hcheck : entries.check graph registry = .ok ())
    {type path : String} {paths : List String} (h : entries.candidates? type = some paths)
    (hmem : path ∈ paths) : registry.contains path = true := by
  have hpair : (type, path) ∈ entries.pairs :=
    List.mem_flatMap.2 ⟨(type, paths), Assoc.mem_of_find? h, List.mem_map.2 ⟨path, hmem, rfl⟩⟩
  have hpassed := forM_eq_ok_iff.1 hcheck _ hpair
  simp only at hpassed
  split at hpassed
  · cases hpassed
  · split at hpassed
    · cases hpassed
    · next hcontains => simpa using hcontains

/-- After the check every path that is found is registered. -/
theorem Plain.contains_of_mem {resolver : Resolver} (h : resolver.Plain)
    (hcheck : check graph registry resolver = .ok ()) {type path : String}
    {declared : Option HostType} {paths : List String}
    (hfound : resolve registry type declared resolver = some paths) (hmem : path ∈ paths) :
    registry.contains path = true := by
  induction h with
  | table entries => exact contains_of_table hcheck hfound hmem
  | convention className =>
      cases hfound
      exact contains_of_mem_byName hmem
  | @chain resolvers _ ih =>
      obtain ⟨resolver, hresolver, hfound⟩ := exists_of_resolveFirst hfound
      exact ih resolver hresolver (checkAll_eq_ok_iff.1 hcheck resolver hresolver) hfound

end Resolver

end SchemaCoverage.Candidates
