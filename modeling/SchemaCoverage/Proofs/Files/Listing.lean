import SchemaCoverage.Files.Walk
import SchemaCoverage.Proofs.Files.Places
import SchemaCoverage.Proofs.Text.Cut
import Mathlib.Data.List.Nodup
/-!
Walks through trees of files. A walk meets each file below its start once, and under the name that
the file has in its directory. The extension of a name is what stands after its last dot.
-/
namespace SchemaCoverage.Files

open Entry

variable {root entry : Entry} {entries : List (String × Entry)} {found : Found} {name : String}
  {place : List String}

/-- The path that all names of a file lead to. -/
def Entry.path? : Entry → Option String
  | .file path _ => some path
  | _ => none

theorem Entry.Below.proper (h : root.Below place entry) (hroot : root.Proper) : entry.Proper := by
  induction h with
  | here => exact hroot
  | inside hmem _ ih => exact ih (hroot.of_mem hmem)

theorem areReadable_eq (entries : List (String × Entry)) :
    areReadable entries = entries.all fun child => isReadable child.2 := by
  induction entries with
  | nil => rfl
  | cons child entries ih => rw [areReadable, List.all_cons, ih]

/-- An entry is readable if nothing that cannot be read stands below it. -/
theorem isReadable_of_not_below {entry : Entry} (h : ∀ place, ¬entry.Below place .unreadable) :
    isReadable entry = true := by
  induction entry using Entry.induct with
  | file => rfl
  | unreadable => exact absurd (.here _) (h [])
  | directory entries ih =>
      rw [isReadable, areReadable_eq, List.all_eq_true]
      rintro ⟨name, child⟩ hmem
      exact ih _ hmem fun place hbelow => h (name :: place) (.inside hmem hbelow)

theorem filesIn_eq (entries : List (String × Entry)) :
    filesIn entries = entries.map fun child => (child.1, filesUnder child.1 child.2) := by
  induction entries with
  | nil => rfl
  | cons child entries ih => rw [filesIn, List.map_cons, ih]

/-- The files under a directory are those under its entries, in some order. -/
theorem filesUnder_directory_perm (name : String) (entries : List (String × Entry)) :
    (filesUnder name (.directory entries)).Perm
      (entries.flatMap fun child => filesUnder child.1 child.2) := by
  rw [filesUnder, filesIn_eq]
  refine ((List.mergeSort_perm _ _).flatMap_right _).trans ?_
  rw [List.flatMap_map]

/-- A walk meets the files below its start under their own names. -/
theorem mem_filesUnder_iff : found ∈ filesUnder name entry ↔
    ∃ place path bytes, entry.Below place (.file path bytes) ∧
      found = ⟨place.getLast?.getD name, .file path bytes⟩ := by
  induction entry using Entry.induct generalizing name with
  | file path bytes =>
      rw [filesUnder, List.mem_singleton]
      constructor
      · rintro rfl
        exact ⟨[], path, bytes, .here _, rfl⟩
      · rintro ⟨_, _, _, ⟨⟩, rfl⟩
        rfl
  | unreadable =>
      rw [filesUnder]
      constructor
      · intro h
        cases h
      · rintro ⟨_, _, _, ⟨⟩, _⟩
  | directory entries ih =>
      rw [(filesUnder_directory_perm name entries).mem_iff, List.mem_flatMap]
      constructor
      · rintro ⟨⟨step, child⟩, hmem, hfound⟩
        obtain ⟨place, path, bytes, hbelow, rfl⟩ := (ih _ hmem).1 hfound
        exact ⟨step :: place, path, bytes, .inside hmem hbelow, by simp [List.getLast?_cons]⟩
      · rintro ⟨place, path, bytes, hbelow, rfl⟩
        cases hbelow with
        | @inside _ step child _ place hmem hbelow =>
            refine ⟨(step, child), hmem, (ih _ hmem).2 ⟨place, path, bytes, hbelow, ?_⟩⟩
            simp [List.getLast?_cons]

theorem mem_paths_filesUnder_iff {path : String} :
    path ∈ (filesUnder name entry).filterMap (·.entry.path?) ↔
      ∃ place bytes, entry.Below place (.file path bytes) := by
  rw [List.mem_filterMap]
  constructor
  · rintro ⟨found, hfound, hpath⟩
    obtain ⟨place, path', bytes, hbelow, rfl⟩ := mem_filesUnder_iff.1 hfound
    obtain rfl := Option.some.inj hpath
    exact ⟨place, bytes, hbelow⟩
  · rintro ⟨place, bytes, hbelow⟩
    exact ⟨_, mem_filesUnder_iff.2 ⟨place, path, bytes, hbelow, rfl⟩, rfl⟩

/-- The paths of the files under an entry are distinct. -/
theorem nodup_filesUnder (h : entry.Proper) (name : String) :
    ((filesUnder name entry).filterMap (·.entry.path?)).Nodup := by
  induction entry using Entry.induct generalizing name with
  | file path bytes => simp [filesUnder, Entry.path?]
  | unreadable => simp [filesUnder]
  | directory entries ih =>
      rw [((filesUnder_directory_perm name entries).filterMap _).nodup_iff, List.filterMap_flatMap,
        List.nodup_flatMap]
      constructor
      · rintro ⟨step, child⟩ hmem
        exact ih _ hmem (h.of_mem hmem) step
      · have hnames := List.pairwise_map.1 (h.names_nodup [] entries (.here _))
        refine hnames.imp_of_mem fun {child other} hchild hother hne path hpath hpath' => ?_
        obtain ⟨place, bytes, hbelow⟩ := mem_paths_filesUnder_iff.1 hpath
        obtain ⟨place', bytes', hbelow'⟩ := mem_paths_filesUnder_iff.1 hpath'
        have hplace := h.place_unique (child.1 :: place) (other.1 :: place') path bytes bytes'
          (.inside hchild hbelow) (.inside hother hbelow')
        exact hne (List.cons.inj hplace).1

/-- The name has an ending after a dot that is not its first character. -/
def EndsIn (name ending : String) : Prop :=
  '.' ∉ ending.toList ∧ ∃ stem : String, stem ≠ "" ∧ name = stem ++ "." ++ ending

theorem extension?_eq_some_iff {ending : String} :
    extension? name = some ending ↔ EndsIn name ending := by
  constructor
  · intro h
    have hending := Text.not_mem_takeWhile '.' name.toList.reverse
    simp only [extension?] at h
    split at h
    · next c d more hrest =>
        obtain ⟨-, hcut⟩ := Text.eq_append_of_dropWhile_eq_cons hrest
        obtain rfl := Option.some.inj h
        refine ⟨by simpa using hending, String.ofList (d :: more).reverse, by simp, ?_⟩
        rw [← String.toList_inj, ← List.reverse_inj]
        exact hcut.trans (by simp)
    · cases h
  · rintro ⟨hending, stem, hstem, rfl⟩
    have hreverse : (stem ++ "." ++ ending).toList.reverse =
        ending.toList.reverse ++ '.' :: stem.toList.reverse := by simp
    have hdotless : '.' ∉ ending.toList.reverse := by simpa using hending
    have hstem' : stem.toList.reverse ≠ [] := by simpa using hstem
    simp only [extension?, hreverse, Text.takeWhile_append_cons hdotless,
      Text.dropWhile_append_cons hdotless]
    cases hrest : stem.toList.reverse with
    | nil => exact absurd hrest hstem'
    | cons d more => simp

theorem bareExtension_eq_iff {option ending : String} (h : '.' ∉ ending.toList) :
    bareExtension option = ending ↔
      ∃ dots, option = String.ofList (List.replicate dots '.') ++ ending := by
  constructor
  · rintro rfl
    refine ⟨(option.toList.takeWhile (· == '.')).length, ?_⟩
    have hdots : option.toList.takeWhile (· == '.') =
        List.replicate (option.toList.takeWhile (· == '.')).length '.' := by
      rw [List.eq_replicate_iff]
      exact ⟨rfl, fun c hc => by simpa using List.mem_takeWhile_imp hc⟩
    rw [← String.toList_inj, String.toList_append, String.toList_ofList, ← hdots, bareExtension,
      String.toList_ofList, List.takeWhile_append_dropWhile]
  · rintro ⟨dots, rfl⟩
    have hdots : ∀ c ∈ List.replicate dots '.', (c == '.') = true := by
      intro c hc
      simp [(List.mem_replicate.1 hc).2]
    have hrest : ending.toList.dropWhile (· == '.') = ending.toList := by
      cases hending : ending.toList with
      | nil => rfl
      | cons c rest =>
          rw [hending, List.mem_cons, not_or] at h
          simp [Ne.symm h.1]
    rw [bareExtension, String.toList_append, String.toList_ofList,
      List.dropWhile_append_of_pos hdots, hrest, String.ofList_toList]

/-- A name has one of some extensions if it ends in what an option names after its leading dots. -/
theorem hasExtension_iff {extensions : List String} : hasExtension extensions name = true ↔
    ∃ ending, EndsIn name ending ∧ ∃ option ∈ extensions, ∃ dots,
      option = String.ofList (List.replicate dots '.') ++ ending := by
  have hoption {ending : String} (hends : EndsIn name ending) :
      ending ∈ extensions.map bareExtension ↔ ∃ option ∈ extensions, ∃ dots,
        option = String.ofList (List.replicate dots '.') ++ ending := by
    rw [List.mem_map]
    exact exists_congr fun option => and_congr_right fun _ => bareExtension_eq_iff hends.1
  unfold hasExtension
  cases hextension : extension? name with
  | none =>
      have hnone : ¬∃ ending, EndsIn name ending := by
        rintro ⟨ending, hends⟩
        rw [extension?_eq_some_iff.2 hends] at hextension
        cases hextension
      simp only [Bool.false_eq_true, false_iff]
      rintro ⟨ending, hends, -⟩
      exact hnone ⟨ending, hends⟩
  | some ending =>
      have hends := extension?_eq_some_iff.1 hextension
      simp only [decide_eq_true_eq]
      rw [hoption hends]
      constructor
      · intro h
        exact ⟨ending, hends, h⟩
      · rintro ⟨ending', hends', h⟩
        rw [extension?_eq_some_iff.2 hends'] at hextension
        obtain rfl := Option.some.inj hextension
        exact h

end SchemaCoverage.Files
