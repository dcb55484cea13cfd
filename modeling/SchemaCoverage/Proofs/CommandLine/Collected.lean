import SchemaCoverage.CommandLine.SchemaFiles
import SchemaCoverage.Proofs.Files.Listing
/-!
The schema files of a command line. All files of a known extension at or under the paths are listed,
each as often as some path leads to it. So a file is listed once just if no two paths lead to it.
-/
namespace SchemaCoverage.CommandLine

open Files

namespace SchemaFiles

/-- A file at a place of a tree whose name ends in one of some extensions, each of which may be given
with dots before it. -/
structure IsSchemaFile (root : Entry) (extensions place : List String) (path : String) : Prop where
  file : ∃ bytes, root.Below place (.file path bytes)
  extended : ∃ name ∈ place.getLast?, ∃ ending, EndsIn name ending ∧ ∃ option ∈ extensions, ∃ dots,
    option = String.ofList (List.replicate dots '.') ++ ending

/-- A schema file to which some path leads, or to a directory above it. -/
def IsWanted (disk : Disk) (extensions paths place : List String) (path : String) : Prop :=
  IsSchemaFile disk.root extensions place path ∧ ∃ argument ∈ paths, disk.placeOf argument <+: place

/-- What is listed for some paths: all schema files at or under them, each as often as one of the paths
leads to it, or without such files the single path if that is a file. -/
structure Lists (found : SchemaFiles) (disk : Disk) (extensions paths : List String) : Prop where
  readable : found.hasErrors = false
  mem_iff : ∀ path, path ∈ found.files.map Prod.fst ↔
    (∃ place, IsWanted disk extensions paths place path) ∨
      (∀ place other, ¬IsWanted disk extensions paths place other) ∧ paths = [path] ∧
        ∃ entry, find? disk path = some entry ∧ entry.isFile = true
  count_eq : ∀ place path, IsWanted disk extensions paths place path →
    (found.files.map Prod.fst).count path = paths.countP (disk.placeOf · <+: place)

variable {disk : Disk} {entry : Entry} {extensions paths place names : List String} {path argument : String}

theorem map_fst_filesAt (extensions : List String) (path : String) (entry : Entry) :
    (filesAt extensions path entry).map Prod.fst =
      ((filesUnder (fileName path) entry).filter (hasExtension extensions ·.name)).filterMap
        (·.entry.path?) := by
  rw [filesAt, List.map_filterMap]
  apply List.filterMap_congr
  rintro ⟨name, entry⟩ -
  cases entry <;> rfl

theorem nodup_filesAt (h : entry.Proper) (extensions : List String) (path : String) :
    ((filesAt extensions path entry).map Prod.fst).Nodup := by
  rw [map_fst_filesAt]
  exact (nodup_filesUnder h _).sublist (List.filter_sublist.filterMap _)

/-- The name of a file below what a path names is the last of its place. -/
theorem getLast?_place {bytes : ByteArray} (h : find? disk argument = some entry)
    (hbelow : entry.Below names (.file path bytes)) :
    (disk.placeOf argument ++ names).getLast? = some (names.getLast?.getD (fileName argument)) := by
  cases names with
  | nil =>
      obtain rfl := Entry.below_nil_iff.1 hbelow
      rw [List.append_nil, getLast?_placeOf h rfl, fileName]
      cases hlast : (pathSteps argument).getLast? with
      | none => exact absurd (List.getLast?_eq_none_iff.1 hlast) (pathSteps_ne_nil argument)
      | some name => rfl
  | cons name names => simp [List.getLast?_append, List.getLast?_cons]

/-- The schema files at or under what a path names. -/
theorem mem_filesAt_iff (hroot : disk.root.Proper) (h : find? disk argument = some entry) :
    path ∈ (filesAt extensions argument entry).map Prod.fst ↔
      ∃ place, IsSchemaFile disk.root extensions place path ∧ disk.placeOf argument <+: place := by
  have hentry := below_of_find? h
  rw [map_fst_filesAt, List.mem_filterMap]
  constructor
  · rintro ⟨found, hfound, hpath⟩
    obtain ⟨hmem, hextension⟩ := List.mem_filter.1 hfound
    obtain ⟨names, path', bytes, hbelow, rfl⟩ := mem_filesUnder_iff.1 hmem
    obtain rfl := Option.some.inj hpath
    refine ⟨disk.placeOf argument ++ names, ⟨⟨bytes, hentry.append hbelow⟩, ?_⟩, List.prefix_append _ _⟩
    exact ⟨_, getLast?_place h hbelow, hasExtension_iff.1 hextension⟩
  · rintro ⟨_, ⟨⟨bytes, hbelow⟩, name, hname, hextension⟩, names, rfl⟩
    obtain ⟨middle, hmiddle, hnames⟩ := hbelow.exists_of_append
    obtain rfl := hmiddle.unique hroot hentry
    rw [getLast?_place h hnames] at hname
    obtain rfl := Option.some.inj hname
    refine ⟨_, List.mem_filter.2 ⟨mem_filesUnder_iff.2 ⟨names, path, bytes, hnames, rfl⟩, ?_⟩, rfl⟩
    exact hasExtension_iff.2 hextension

theorem count_filesAt (hroot : disk.root.Proper) (h : find? disk argument = some entry)
    (hfile : IsSchemaFile disk.root extensions place path) :
    ((filesAt extensions argument entry).map Prod.fst).count path =
      if disk.placeOf argument <+: place then 1 else 0 := by
  have hmem : path ∈ (filesAt extensions argument entry).map Prod.fst ↔
      disk.placeOf argument <+: place := by
    rw [mem_filesAt_iff hroot h]
    constructor
    · rintro ⟨place', hfile', hprefix⟩
      obtain ⟨bytes, hbelow⟩ := hfile.file
      obtain ⟨bytes', hbelow'⟩ := hfile'.file
      exact hroot.place_unique place' place path bytes' bytes hbelow' hbelow ▸ hprefix
    · intro hprefix
      exact ⟨place, hfile, hprefix⟩
  rw [(nodup_filesAt ((below_of_find? h).proper hroot) extensions argument).count]
  simp only [hmem]

theorem matching_cons (h : find? disk argument = some entry) (paths : List String) :
    matching disk extensions (argument :: paths) =
      filesAt extensions argument entry ++ matching disk extensions paths := by
  rw [matching, List.flatMap_cons, h]
  rfl

/-- Files that match are listed as they are met. -/
theorem files_collect_of_matching (h : matching disk extensions paths ≠ []) :
    (collect disk extensions paths).files = matching disk extensions paths := by
  simp [collect, h]

/-- Without files that match, the file is listed that a single path names. -/
theorem files_collect_of_not_matching (h : matching disk extensions paths = [])
    (hreachable : reachable disk paths = true) :
    (collect disk extensions paths).files = (onlyFile? disk paths).toList := by
  simp only [collect, h, hreachable, List.isEmpty_nil, Bool.not_true, Bool.not_false, Bool.and_self,
    if_true]
  cases onlyFile? disk paths <;> rfl

theorem onlyFile?_eq_some_iff {found : String × Entry} : onlyFile? disk paths = some found ↔
    paths = [found.1] ∧ find? disk found.1 = some found.2 ∧ found.2.isFile = true := by
  fun_cases onlyFile? disk paths with
  | case1 path =>
      rw [Option.map_eq_some_iff]
      simp only [Option.filter_eq_some_iff]
      constructor
      · rintro ⟨entry, ⟨hentry, hfile⟩, rfl⟩
        exact ⟨rfl, hentry, hfile⟩
      · rintro ⟨hpaths, hentry, hfile⟩
        obtain rfl := List.singleton_inj.1 hpaths
        exact ⟨found.2, ⟨hentry, hfile⟩, rfl⟩
  | case2 _ hpaths =>
      simp only [reduceCtorEq, false_iff]
      rintro ⟨rfl, -⟩
      exact hpaths _ rfl

theorem hasErrors_collect (h : reachable disk paths = true) :
    (collect disk extensions paths).hasErrors = false := by
  simp only [collect, h]
  split
  · split <;> rfl
  · rfl

section

variable (hroot : disk.root.Proper)
  (hpaths : ∀ argument ∈ paths, ∃ entry, find? disk argument = some entry)
include hroot hpaths

/-- Files are met once for each path that leads to them. -/
theorem count_matching (hfile : IsSchemaFile disk.root extensions place path) :
    ((matching disk extensions paths).map Prod.fst).count path =
      paths.countP (disk.placeOf · <+: place) := by
  induction paths with
  | nil => rfl
  | cons argument paths ih =>
      rw [List.forall_mem_cons] at hpaths
      obtain ⟨⟨entry, hentry⟩, hrest⟩ := hpaths
      rw [matching_cons hentry, List.map_append, List.count_append, count_filesAt hroot hentry hfile,
        ih hrest, List.countP_cons, Nat.add_comm]
      simp only [decide_eq_true_eq]

theorem mem_matching_iff :
    path ∈ (matching disk extensions paths).map Prod.fst ↔
      ∃ place, IsWanted disk extensions paths place path := by
  rw [matching, List.map_flatMap, List.mem_flatMap]
  constructor
  · rintro ⟨argument, hmem, hpath⟩
    obtain ⟨entry, hentry⟩ := hpaths argument hmem
    rw [hentry] at hpath
    obtain ⟨place, hfile, hprefix⟩ := (mem_filesAt_iff hroot hentry).1 hpath
    exact ⟨place, hfile, argument, hmem, hprefix⟩
  · rintro ⟨place, hfile, argument, hmem, hprefix⟩
    obtain ⟨entry, hentry⟩ := hpaths argument hmem
    refine ⟨argument, hmem, ?_⟩
    rw [hentry]
    exact (mem_filesAt_iff hroot hentry).2 ⟨place, hfile, hprefix⟩

/-- Paths in a proper tree can be followed to the end. -/
theorem reachable_of_proper : reachable disk paths = true := by
  rw [reachable, List.all_eq_true]
  intro argument hmem
  obtain ⟨entry, hentry⟩ := hpaths argument hmem
  rw [hentry, Option.any_some]
  exact isReadable_of_not_below ((below_of_find? hentry).proper hroot).readable

/-- All schema files to which some path leads are listed, or without one the single path if that
is a file. -/
theorem mem_collect_iff :
    path ∈ (collect disk extensions paths).files.map Prod.fst ↔
      (∃ place, IsWanted disk extensions paths place path) ∨
        (∀ place other, ¬IsWanted disk extensions paths place other) ∧ paths = [path] ∧
          ∃ entry, find? disk path = some entry ∧ entry.isFile = true := by
  have hmatching (path : String) : path ∈ (matching disk extensions paths).map Prod.fst ↔
      ∃ place, IsWanted disk extensions paths place path := mem_matching_iff hroot hpaths
  by_cases hfiles : matching disk extensions paths = []
  · have hnone : ∀ place other, ¬IsWanted disk extensions paths place other := by
      intro place other hwanted
      simpa [hfiles] using (hmatching other).2 ⟨place, hwanted⟩
    rw [files_collect_of_not_matching hfiles (reachable_of_proper hroot hpaths)]
    simp only [List.mem_map, Option.mem_toList, onlyFile?_eq_some_iff]
    constructor
    · rintro ⟨⟨path, entry⟩, ⟨hsingle, hentry, hfile⟩, rfl⟩
      exact .inr ⟨hnone, hsingle, entry, hentry, hfile⟩
    · rintro (⟨place, hwanted⟩ | ⟨-, hsingle, entry, hentry, hfile⟩)
      · exact absurd hwanted (hnone place path)
      · exact ⟨(path, entry), ⟨hsingle, hentry, hfile⟩, rfl⟩
  · obtain ⟨found, hfound⟩ := List.exists_mem_of_ne_nil _ hfiles
    obtain ⟨place, hwanted⟩ := (hmatching found.1).1 (List.mem_map_of_mem hfound)
    rw [files_collect_of_matching hfiles, hmatching, or_iff_left]
    rintro ⟨hnone, -⟩
    exact hnone place found.1 hwanted

/-- A schema file is listed as often as one of the paths leads to it. -/
theorem count_collect (h : IsWanted disk extensions paths place path) :
    ((collect disk extensions paths).files.map Prod.fst).count path =
      paths.countP (disk.placeOf · <+: place) := by
  have hmem := (mem_matching_iff hroot hpaths).2 ⟨place, h⟩
  rw [files_collect_of_matching (fun hfiles => by simp [hfiles] at hmem)]
  exact count_matching hroot hpaths h.1

/-- Nothing is listed twice just if one path alone leads to each schema file that is listed. -/
theorem nodup_collect_iff :
    ((collect disk extensions paths).files.map Prod.fst).Nodup ↔
      ∀ place path, IsWanted disk extensions paths place path →
        paths.countP (disk.placeOf · <+: place) = 1 := by
  rw [List.nodup_iff_count_le_one]
  constructor
  · intro honce place path hwanted
    have hcount := count_collect hroot hpaths hwanted
    have hpos : 0 < paths.countP (disk.placeOf · <+: place) :=
      List.countP_pos_iff.2 (by simpa using hwanted.2)
    exact Nat.le_antisymm (hcount ▸ honce path) hpos
  · intro hone path
    by_cases hfiles : matching disk extensions paths = []
    · rw [files_collect_of_not_matching hfiles (reachable_of_proper hroot hpaths)]
      cases onlyFile? disk paths with
      | none => exact Nat.zero_le 1
      | some found => exact List.count_le_length
    · by_cases hmem : path ∈ (matching disk extensions paths).map Prod.fst
      · obtain ⟨place, hwanted⟩ := (mem_matching_iff hroot hpaths).1 hmem
        rw [count_collect hroot hpaths hwanted, hone place path hwanted]
      · rw [files_collect_of_matching hfiles, List.count_eq_zero_of_not_mem hmem]
        exact Nat.zero_le 1

end

/-- The schema files of some paths that exist in a proper tree: what is listed, how often, and when
nothing is listed twice. -/
theorem lists_collect (hroot : disk.root.Proper)
    (hpaths : ∀ argument ∈ paths, ∃ entry, find? disk argument = some entry) :
    (collect disk extensions paths).Lists disk extensions paths ∧
      (((collect disk extensions paths).files.map Prod.fst).Nodup ↔
        ∀ place path, IsWanted disk extensions paths place path →
          paths.countP (disk.placeOf · <+: place) = 1) where
  left :=
    { readable := hasErrors_collect (reachable_of_proper hroot hpaths)
      mem_iff := fun _ => mem_collect_iff hroot hpaths
      count_eq := fun _ _ => count_collect hroot hpaths }
  right := nodup_collect_iff hroot hpaths

/-- A directory with a schema file and another file. -/
def garageFiles : Entry :=
  .directory [("cars.graphql", .file "/srv/schema/cars.graphql" .empty),
    ("notes.txt", .file "/srv/schema/notes.txt" .empty)]

/-- A disk with one directory of schema files, in the directory where relative paths begin. -/
def garageDisk : Disk :=
  .ofTree ["srv"] (.directory [("schema", garageFiles)])

theorem below_garageDisk (h : garageDisk.root.Below place entry) :
    (place = [] ∧ entry = garageDisk.root) ∨
      (place = ["srv"] ∧ entry = .directory [("schema", garageFiles)]) ∨
      (place = ["srv", "schema"] ∧ entry = garageFiles) ∨
      (place = ["srv", "schema", "cars.graphql"] ∧
        entry = .file "/srv/schema/cars.graphql" .empty) ∨
      (place = ["srv", "schema", "notes.txt"] ∧ entry = .file "/srv/schema/notes.txt" .empty) := by
  cases h with
  | here => exact .inl ⟨rfl, rfl⟩
  | inside hmem hbelow =>
      obtain ⟨rfl, rfl⟩ := Prod.mk.inj (List.mem_singleton.1 hmem)
      cases hbelow with
      | here => exact .inr (.inl ⟨rfl, rfl⟩)
      | inside hmem hbelow =>
          obtain ⟨rfl, rfl⟩ := Prod.mk.inj (List.mem_singleton.1 hmem)
          cases hbelow with
          | here => exact .inr (.inr (.inl ⟨rfl, rfl⟩))
          | inside hmem hbelow =>
              simp only [List.mem_cons, Prod.mk.injEq, List.not_mem_nil, or_false] at hmem
              obtain ⟨rfl, rfl⟩ | ⟨rfl, rfl⟩ := hmem <;> cases hbelow <;> simp

/-- The paths of the files spell their places. -/
theorem pathSteps_eq_place {bytes : ByteArray}
    (h : garageDisk.root.Below place (.file path bytes)) : pathSteps path = "" :: place := by
  obtain ⟨-, hfile⟩ | ⟨-, hfile⟩ | ⟨-, hfile⟩ | ⟨rfl, hfile⟩ | ⟨rfl, hfile⟩ := below_garageDisk h <;>
    cases hfile <;> decide

theorem garageDisk_proper : garageDisk.root.Proper where
  names_nodup := by
    intro place entries hbelow
    obtain ⟨-, h⟩ | ⟨-, h⟩ | ⟨-, h⟩ | ⟨-, h⟩ | ⟨-, h⟩ := below_garageDisk hbelow <;>
      cases h <;> decide
  place_unique := by
    intro place place' path bytes bytes' hbelow hbelow'
    have hsteps := pathSteps_eq_place hbelow
    rw [pathSteps_eq_place hbelow'] at hsteps
    exact (List.cons.inj hsteps).2.symm
  readable := by
    intro place hbelow
    obtain ⟨-, h⟩ | ⟨-, h⟩ | ⟨-, h⟩ | ⟨-, h⟩ | ⟨-, h⟩ := below_garageDisk hbelow <;> cases h

theorem find?_schema : find? garageDisk "schema" = some garageFiles := by
  rw [find?, if_neg (by simp), Disk.steps, if_neg (by simp)]
  rfl

theorem find?_absolute : find? garageDisk "/srv/schema" = some garageFiles := by
  rw [find?, if_neg (by simp), Disk.steps, if_pos (by simp)]
  rfl

theorem find?_cars : find? garageDisk "schema/cars.graphql" =
    some (.file "/srv/schema/cars.graphql" .empty) := by
  rw [find?, if_neg (by simp), Disk.steps, if_neg (by simp)]
  rfl

theorem garageDisk_lists :
    garageDisk.root.Proper ∧
      (∀ argument ∈ ["/srv/schema"], ∃ entry, find? garageDisk argument = some entry) ∧
      (collect garageDisk ["graphql"] ["/srv/schema"]).Lists garageDisk ["graphql"]
        ["/srv/schema"] ∧
      (((collect garageDisk ["graphql"] ["/srv/schema"]).files.map Prod.fst).Nodup ↔
        ∀ place path, IsWanted garageDisk ["graphql"] ["/srv/schema"] place path →
          ["/srv/schema"].countP (garageDisk.placeOf · <+: place) = 1) := by
  have hpaths : ∀ argument ∈ ["/srv/schema"], ∃ entry, find? garageDisk argument = some entry :=
    List.forall_mem_singleton.2 ⟨_, find?_absolute⟩
  exact ⟨garageDisk_proper, hpaths, lists_collect garageDisk_proper hpaths⟩

theorem filesUnder_garageFiles (name : String) : filesUnder name garageFiles =
    [⟨"cars.graphql", .file "/srv/schema/cars.graphql" .empty⟩,
      ⟨"notes.txt", .file "/srv/schema/notes.txt" .empty⟩] := by
  rw [garageFiles, filesUnder, filesIn_eq, List.mergeSort_of_pairwise]
  · rfl
  · exact List.pairwise_pair.2 (by decide)

theorem filesAt_schema : filesAt ["graphql"] "schema" garageFiles =
    [("/srv/schema/cars.graphql", .file "/srv/schema/cars.graphql" .empty)] := by
  rw [filesAt, filesUnder_garageFiles]
  simp [reported?, hasExtension, extension?, bareExtension]

theorem filesAt_cars :
    filesAt ["graphql"] "schema/cars.graphql" (.file "/srv/schema/cars.graphql" .empty) =
      [("/srv/schema/cars.graphql", .file "/srv/schema/cars.graphql" .empty)] := by
  have hname : fileName "schema/cars.graphql" = "cars.graphql" := by decide
  simp [filesAt, hname, filesUnder, reported?, hasExtension, extension?, bareExtension]

/-- A file is listed twice if both its directory and itself are given. -/
theorem cars_listed_twice :
    garageDisk.root.Proper ∧
      (∀ argument ∈ ["schema", "schema/cars.graphql"],
        ∃ entry, find? garageDisk argument = some entry) ∧
      (collect garageDisk ["graphql"] ["schema", "schema/cars.graphql"]).files.map Prod.fst =
        ["/srv/schema/cars.graphql", "/srv/schema/cars.graphql"] := by
  have hmatching : (matching garageDisk ["graphql"] ["schema", "schema/cars.graphql"]).map Prod.fst =
      ["/srv/schema/cars.graphql", "/srv/schema/cars.graphql"] := by
    rw [matching_cons find?_schema, matching_cons find?_cars, filesAt_schema, filesAt_cars]
    rfl
  refine ⟨garageDisk_proper, by simp [find?_schema, find?_cars], ?_⟩
  rw [files_collect_of_matching, hmatching]
  intro hnone
  simp [hnone] at hmatching

end SchemaFiles

end SchemaCoverage.CommandLine
