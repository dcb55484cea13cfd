import SchemaCoverage.Inspection.Inspector
import SchemaCoverage.Proofs.Candidates.Mapped
/-!
Tables as the inverse of type names. A schema type has the host types that are mapped to it at the
end, however often they were mapped elsewhere before, and everything stands in the order in which
the host types were mapped for the first time.
-/
namespace SchemaCoverage.Candidates

/-- The type names after some mappings, one after another. -/
def TypeNames.ofMappings (added : List (String × String)) : TypeNames :=
  added.foldl (fun names (path, name) => names.add path name) .empty

/-- One path was mapped for the first time before another. -/
def FirstBefore (added : List (String × String)) (path other : String) : Prop :=
  (added.map Prod.fst).idxOf path < (added.map Prod.fst).idxOf other

/-- A table lists each mapped path once, for the type that it is mapped to, and nothing else. The
lists stand in a given order of paths, and so do the first paths of the lists. -/
structure Table.Inverts (table : Table) (names : TypeNames) (before : String → String → Prop) :
    Prop where
  mem_iff : ∀ type path, (∃ paths, table.candidates? type = some paths ∧ path ∈ paths) ↔
    names.name? path = some type
  types_nodup : table.entries.keys.Nodup
  paths_ne_nil : ∀ entry ∈ table.entries, entry.2 ≠ []
  paths_nodup : ∀ entry ∈ table.entries, entry.2.Nodup
  listed_once : ∀ path type, names.name? path = some type →
    ∃! entry, entry ∈ table.entries ∧ path ∈ entry.2
  paths_in_order : ∀ entry ∈ table.entries, entry.2.Pairwise before
  types_in_order : table.entries.Pairwise fun entry later =>
    ∀ first ∈ entry.2.head?, ∀ other ∈ later.2.head?, before first other

section Paths

variable {pairs : List (String × String)} {type other path : String}

theorem mem_pathsFor_iff : path ∈ pathsFor type pairs ↔ (path, type) ∈ pairs := by
  simp [pathsFor]

theorem pathsFor_sublist : (pathsFor type pairs).Sublist (pairs.map Prod.fst) :=
  List.filter_sublist.map Prod.fst

theorem pathsFor_ne_nil (h : type ∈ pairs.map Prod.snd) : pathsFor type pairs ≠ [] := by
  obtain ⟨⟨path, name⟩, hmem, rfl⟩ := List.mem_map.1 h
  exact List.ne_nil_of_mem (mem_pathsFor_iff.2 hmem)

theorem pathsFor_cons (type path name : String) (pairs : List (String × String)) :
    pathsFor type ((path, name) :: pairs) =
      if name = type then path :: pathsFor type pairs else pathsFor type pairs := by
  by_cases hname : name = type <;> simp [pathsFor, hname]

/-- Where one type is named before another the first path that is mapped to it comes before the
first path that is mapped to the other. -/
theorem head_pathsFor_before {before : String → String → Prop}
    (hpairs : (pairs.map Prod.fst).Pairwise before)
    (hlt : (pairs.map Prod.snd).idxOf type < (pairs.map Prod.snd).idxOf other) :
    ∀ path ∈ (pathsFor type pairs).head?, ∀ path' ∈ (pathsFor other pairs).head?,
      before path path' := by
  induction pairs with
  | nil => simp at hlt
  | cons pair pairs ih =>
      obtain ⟨path, name⟩ := pair
      rw [List.map_cons, List.pairwise_cons] at hpairs
      rw [List.map_cons] at hlt
      rw [pathsFor_cons, pathsFor_cons]
      by_cases hother : name = other
      · simp [hother] at hlt
      · rw [if_neg hother]
        rw [List.idxOf_cons_ne _ hother] at hlt
        by_cases htype : name = type
        · rw [if_pos htype]
          rintro first ⟨⟩ later hlater
          exact hpairs.1 later (pathsFor_sublist.subset (List.mem_of_mem_head? hlater))
        · rw [if_neg htype]
          rw [List.idxOf_cons_ne _ htype] at hlt
          exact ih hpairs.2 (Nat.lt_of_succ_lt_succ hlt)

end Paths

/-- A table has its types in the order in which they were first named. -/
theorem keys_foldl_insert (pairs : List (String × String)) (table : Table) :
    (pairs.foldl (fun table (path, name) => table.insert name path) table).entries.keys =
      (pairs.map Prod.snd).foldl Assoc.addNew table.entries.keys := by
  induction pairs generalizing table with
  | nil => rfl
  | cons pair pairs ih =>
      rw [List.foldl_cons, ih, List.map_cons, List.foldl_cons]
      congr 1
      exact Assoc.keys_update table.entries pair.2 [] _

theorem keys_ofTypeNames (names : TypeNames) :
    (Table.ofTypeNames names).entries.keys = (names.mappings.map Prod.snd).eraseDups :=
  (keys_foldl_insert names.mappings .empty).trans (Assoc.foldl_addNew_nil _)

theorem types_nodup_ofTypeNames (names : TypeNames) :
    (Table.ofTypeNames names).entries.keys.Nodup := by
  rw [keys_ofTypeNames]
  exact Assoc.eraseDups_nodup _

/-- All of a table that is made from mappings of distinct paths. -/
theorem entries_ofTypeNames {names : TypeNames} (hdistinct : names.mappings.keys.Nodup) :
    (Table.ofTypeNames names).entries = (names.mappings.map Prod.snd).eraseDups.map fun type =>
      (type, pathsFor type names.mappings) := by
  have hfind : ∀ type ∈ (Table.ofTypeNames names).entries.keys,
      (Table.ofTypeNames names).entries.find? type = some (pathsFor type names.mappings) := by
    intro type htype
    rw [keys_ofTypeNames] at htype
    have hpaths := pathsFor_ne_nil (List.mem_eraseDups.1 htype)
    have hcandidates := candidates?_foldl_insert names.mappings type
    rwa [if_neg hpaths, eraseDups_of_nodup (hdistinct.sublist pathsFor_sublist)] at hcandidates
  rw [← keys_ofTypeNames]
  exact Assoc.eq_map_keys (types_nodup_ofTypeNames names) hfind

theorem mappings_ofMappings (added : List (String × String)) :
    (TypeNames.ofMappings added).mappings =
      added.foldl (fun found item => Assoc.put found item.1 item.2) [] := by
  have hfold (names : TypeNames) :
      (added.foldl (fun names (path, name) => names.add path name) names).mappings =
        added.foldl (fun found item => Assoc.put found item.1 item.2) names.mappings := by
    induction added generalizing names with
    | nil => rfl
    | cons item added ih => exact ih (names.add item.1 item.2)
  exact hfold .empty

/-- Paths keep the place where they were mapped first. -/
theorem keys_ofMappings (added : List (String × String)) :
    (TypeNames.ofMappings added).mappings.keys = (added.map Prod.fst).eraseDups := by
  rw [mappings_ofMappings, Assoc.keys_foldl_put]
  exact Assoc.foldl_addNew_nil _

/-- A path has the name that it was mapped to last. -/
theorem name?_ofMappings (added : List (String × String)) (path : String) :
    (TypeNames.ofMappings added).name? path =
      (added.findRev? (·.1 == path)).map (·.2) := by
  rw [TypeNames.name?, mappings_ofMappings, Assoc.find?_foldl_put]
  exact Option.or_none

section Inverts

variable {names : TypeNames} {before : String → String → Prop} {type path : String}
  {paths : List String}

theorem name?_eq_some_iff (hdistinct : names.mappings.keys.Nodup) :
    names.name? path = some type ↔ path ∈ pathsFor type names.mappings := by
  rw [mem_pathsFor_iff]
  exact ⟨Assoc.mem_of_find?, Assoc.find?_of_mem hdistinct⟩

/-- The entries of the table are the named types with the paths that are mapped to them. -/
theorem mem_entries_iff (hdistinct : names.mappings.keys.Nodup) :
    (type, paths) ∈ (Table.ofTypeNames names).entries ↔
      type ∈ names.mappings.map Prod.snd ∧ paths = pathsFor type names.mappings := by
  rw [entries_ofTypeNames hdistinct, List.mem_map]
  constructor
  · rintro ⟨_, htype, ⟨⟩⟩
    exact ⟨List.mem_eraseDups.1 htype, rfl⟩
  · rintro ⟨htype, rfl⟩
    exact ⟨type, List.mem_eraseDups.2 htype, rfl⟩

/-- A path has an entry that lists it just if it is mapped, which is that of its type. -/
theorem mem_entries_and_mem_iff (hdistinct : names.mappings.keys.Nodup) :
    (type, paths) ∈ (Table.ofTypeNames names).entries ∧ path ∈ paths ↔
      names.name? path = some type ∧ paths = pathsFor type names.mappings := by
  rw [mem_entries_iff hdistinct, name?_eq_some_iff hdistinct]
  constructor
  · rintro ⟨⟨-, rfl⟩, hpath⟩
    exact ⟨hpath, rfl⟩
  · rintro ⟨hpath, rfl⟩
    exact ⟨⟨List.mem_map.2 ⟨_, mem_pathsFor_iff.1 hpath, rfl⟩, rfl⟩, hpath⟩

/-- Where the mapped paths stand in an order their table inverts the mapping in this order. -/
theorem inverts_of_pairwise (hdistinct : names.mappings.keys.Nodup)
    (hbefore : names.mappings.keys.Pairwise before) :
    (Table.ofTypeNames names).Inverts names before := by
  have htypes := types_nodup_ofTypeNames names
  constructor
  case mem_iff =>
    intro type path
    constructor
    · rintro ⟨paths, hpaths, hpath⟩
      exact ((mem_entries_and_mem_iff hdistinct).1 ⟨Assoc.mem_of_find? hpaths, hpath⟩).1
    · intro h
      obtain ⟨hmem, hpath⟩ := (mem_entries_and_mem_iff hdistinct).2 ⟨h, rfl⟩
      exact ⟨_, Assoc.find?_of_mem htypes hmem, hpath⟩
  case types_nodup => exact htypes
  case paths_ne_nil =>
    rintro ⟨type, paths⟩ hmem
    obtain ⟨htype, rfl⟩ := (mem_entries_iff hdistinct).1 hmem
    exact pathsFor_ne_nil htype
  case paths_nodup =>
    rintro ⟨type, paths⟩ hmem
    obtain ⟨-, rfl⟩ := (mem_entries_iff hdistinct).1 hmem
    exact hdistinct.sublist pathsFor_sublist
  case listed_once =>
    intro path type h
    refine ⟨_, (mem_entries_and_mem_iff hdistinct).2 ⟨h, rfl⟩, ?_⟩
    rintro ⟨other, paths⟩ hother
    obtain ⟨hname, rfl⟩ := (mem_entries_and_mem_iff hdistinct).1 hother
    obtain rfl := Option.some.inj (h.symm.trans hname)
    rfl
  case paths_in_order =>
    rintro ⟨type, paths⟩ hmem
    obtain ⟨-, rfl⟩ := (mem_entries_iff hdistinct).1 hmem
    exact hbefore.sublist pathsFor_sublist
  case types_in_order =>
    rw [entries_ofTypeNames hdistinct, List.pairwise_map]
    exact (Assoc.pairwise_idxOf_eraseDups _).imp fun hlt => head_pathsFor_before hbefore hlt

end Inverts

/-- The table of the type names after some mappings inverts them in the order of first mapping, where
the last mapping of a path counts. It is also the table of an inspector's options that have taken
these type names and no others. -/
theorem ofMappings_inverts (added : List (String × String)) :
    (∀ path, (TypeNames.ofMappings added).name? path =
      (added.findRev? (·.1 == path)).map (·.2)) ∧
    (Table.ofTypeNames (.ofMappings added)).Inverts (.ofMappings added) (FirstBefore added) ∧
    ∀ resolvers className policy wrappers,
      (Inspection.Options.withTypeNames ⟨resolvers, .empty, className, policy, wrappers⟩
        (.ofMappings added)).table = Table.ofTypeNames (.ofMappings added) := by
  have hkeys := keys_ofMappings added
  have hdistinct : (TypeNames.ofMappings added).mappings.keys.Nodup := by
    rw [hkeys]
    exact Assoc.eraseDups_nodup _
  have hbefore : (TypeNames.ofMappings added).mappings.keys.Pairwise (FirstBefore added) := by
    rw [hkeys]
    exact Assoc.pairwise_idxOf_eraseDups _
  exact ⟨name?_ofMappings added, inverts_of_pairwise hdistinct hbefore, fun _ _ _ _ => rfl⟩

/-- A path that is mapped anew leaves its old type, but not its place. -/
example : Table.ofTypeNames (.ofMappings [("app::Dog", "Pet"), ("app::Cat", "Animal"),
    ("app::Van", "Car"), ("app::Dog", "Animal")]) =
      ⟨[("Animal", ["app::Dog", "app::Cat"]), ("Car", ["app::Van"])]⟩ := by
  decide

end SchemaCoverage.Candidates
