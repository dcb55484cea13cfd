import SchemaCoverage.Files.Tree
import Mathlib.Data.List.Basic
import Mathlib.Data.List.Nodup
/-!
Places in trees of files. A place is the names on the way down from the root. What a path names stands
at the place to which its steps lead.
-/
namespace SchemaCoverage.Files

namespace Entry

/-- What holds of all entries, if it holds of a directory where it holds of all that is in it. -/
theorem induct {motive : Entry → Prop} (file : ∀ path bytes, motive (.file path bytes))
    (directory : ∀ entries, (∀ child ∈ entries, motive child.2) → motive (.directory entries))
    (unreadable : motive .unreadable) (entry : Entry) : motive entry :=
  @Entry.rec motive (fun entries => ∀ child ∈ entries, motive child.2)
    (fun child => motive child.2) file directory unreadable (List.forall_mem_nil _)
    (fun _ _ hchild hentries => List.forall_mem_cons.2 ⟨hchild, hentries⟩)
    (fun _ _ hentry => hentry) entry

/-- What stands below an entry at the end of some names. -/
inductive Below : Entry → List String → Entry → Prop
  | here (entry : Entry) : Below entry [] entry
  | inside {entries : List (String × Entry)} {name : String} {child entry : Entry}
      {names : List String} : (name, child) ∈ entries → Below child names entry →
      Below (.directory entries) (name :: names) entry

/-- A tree in which names are distinct in each directory, everything can be read and the path of a
file tells its place. -/
structure Proper (root : Entry) : Prop where
  names_nodup : ∀ place entries, root.Below place (.directory entries) →
    (entries.map Prod.fst).Nodup
  place_unique : ∀ place place' path bytes bytes', root.Below place (.file path bytes) →
    root.Below place' (.file path bytes') → place = place'
  readable : ∀ place, ¬root.Below place .unreadable

variable {root entry found child : Entry} {entries : List (String × Entry)} {name : String}
  {names place : List String}

theorem below_nil_iff : entry.Below [] found ↔ found = entry := by
  constructor
  · intro h
    cases h
    rfl
  · rintro rfl
    exact .here _

theorem below_cons_iff : (directory entries).Below (name :: names) found ↔
    ∃ child, (name, child) ∈ entries ∧ child.Below names found := by
  constructor
  · intro h
    cases h with
    | inside hmem hbelow => exact ⟨_, hmem, hbelow⟩
  · rintro ⟨child, hmem, hbelow⟩
    exact .inside hmem hbelow

theorem Below.append {middle : Entry} (h : root.Below place middle)
    (hbelow : middle.Below names found) : root.Below (place ++ names) found := by
  induction h with
  | here => exact hbelow
  | inside hmem _ ih => exact .inside hmem (ih hbelow)

theorem Below.exists_of_append (h : root.Below (place ++ names) found) :
    ∃ middle, root.Below place middle ∧ middle.Below names found := by
  induction place generalizing root with
  | nil => exact ⟨root, .here root, h⟩
  | cons name place ih =>
      cases h with
      | inside hmem hbelow =>
          obtain ⟨middle, hplace, hnames⟩ := ih hbelow
          exact ⟨middle, .inside hmem hplace, hnames⟩

theorem Proper.of_mem (h : (directory entries).Proper) (hmem : (name, child) ∈ entries) :
    child.Proper where
  names_nodup := fun place entries hbelow => h.names_nodup (name :: place) entries (.inside hmem hbelow)
  place_unique := fun place place' path bytes bytes' hbelow hbelow' =>
    (List.cons.inj (h.place_unique (name :: place) (name :: place') path bytes bytes'
      (.inside hmem hbelow) (.inside hmem hbelow'))).2
  readable := fun place hbelow => h.readable (name :: place) (.inside hmem hbelow)

/-- One entry stands at a place. -/
theorem Below.unique (hroot : root.Proper) (h : root.Below place entry)
    (h' : root.Below place found) : entry = found := by
  induction h with
  | here => exact (below_nil_iff.1 h').symm
  | @inside entries name child entry names hmem hbelow ih =>
      obtain ⟨child', hmem', hbelow'⟩ := below_cons_iff.1 h'
      have hnames := hroot.names_nodup [] entries (.here _)
      obtain ⟨-, rfl⟩ := Prod.mk.inj (List.inj_on_of_nodup_map hnames hmem hmem' rfl)
      exact ih (hroot.of_mem hmem) hbelow'

end Entry

/-- An entry at a place below a root, with the directories on the way to it, the nearest first. -/
inductive StandsAt (root : Entry) : List String → List Entry → Entry → Prop
  | root : StandsAt root [] [] root
  | child {place : List String} {ancestors : List Entry} {entries : List (String × Entry)}
      {name : String} {child : Entry} : StandsAt root place ancestors (.directory entries) →
      (name, child) ∈ entries → StandsAt root (place ++ [name]) (.directory entries :: ancestors) child

variable {root entry found : Entry} {place steps : List String} {ancestors : List Entry}
  {path : String}

theorem StandsAt.below_root (h : StandsAt root place ancestors entry) : root.Below place entry := by
  induction h with
  | root => exact .here root
  | child _ hmem ih => exact ih.append (.inside hmem (.here _))

/-- What stands above something is a directory, whose place is without the last name. -/
theorem StandsAt.parent {parent : Entry} (h : StandsAt root place (parent :: ancestors) entry) :
    StandsAt root place.dropLast ancestors parent ∧ parent.isFile = false := by
  cases h with
  | child hparent _ =>
      rw [List.dropLast_concat]
      exact ⟨hparent, rfl⟩

/-- The ways in which a step is taken from a directory. -/
theorem follow_cons_eq_some {entries : List (String × Entry)} {step : String}
    (hstands : StandsAt root place ancestors (.directory entries))
    (h : follow ancestors (.directory entries) (step :: steps) = some found) :
    ∃ ancestors' entry, StandsAt root (leadFrom place [step]) ancestors' entry ∧
      follow ancestors' entry steps = some found ∧
      (entry.isFile = true → (leadFrom place [step]).getLast? = some step) := by
  simp only [follow] at h
  simp only [leadFrom]
  split at h
  · next hstays => exact ⟨ancestors, _, by simpa [hstays] using hstands, h, by simp [Entry.isFile]⟩
  · next hmoves =>
      rw [if_neg hmoves]
      split at h
      · next hup =>
          rw [if_pos hup]
          cases ancestors with
          | nil =>
              -- without anything above, the directory is the root
              cases hstands with
              | root => exact ⟨[], _, .root, h, by simp [Entry.isFile]⟩
          | cons parent ancestors =>
              obtain ⟨hparent, hfile⟩ := hstands.parent
              exact ⟨ancestors, parent, hparent, h, by simp [hfile]⟩
      · next hdown =>
          rw [if_neg hdown]
          cases hchild : Entry.child? (.directory entries) step with
          | none => simp [hchild] at h
          | some child =>
              rw [hchild] at h
              obtain ⟨before, after, hentries, -⟩ := List.lookup_eq_some_iff.1 hchild
              exact ⟨_, child, .child hstands (by simp [hentries]), h, by simp⟩

theorem leadFrom_cons (place : List String) (step : String) (steps : List String) :
    leadFrom place (step :: steps) = leadFrom (leadFrom place [step]) steps := by
  simp only [leadFrom]
  split
  · rfl
  · split <;> rfl

/-- Following steps leads to the place that they lead to. -/
theorem StandsAt.follow (h : StandsAt root place ancestors entry)
    (hfollow : follow ancestors entry steps = some found) :
    ∃ ancestors', StandsAt root (leadFrom place steps) ancestors' found := by
  induction steps generalizing place ancestors entry with
  | nil =>
      cases hfollow
      exact ⟨ancestors, h⟩
  | cons step steps ih =>
      cases entry with
      | directory entries =>
          obtain ⟨ancestors', entry', hstands, hrest, -⟩ := follow_cons_eq_some h hfollow
          rw [leadFrom_cons]
          exact ih hstands hrest
      | file | unreadable => cases hfollow

/-- Following steps to a file ends with the name of the file. -/
theorem StandsAt.getLast?_leadFrom (h : StandsAt root place ancestors entry)
    (hfollow : Files.follow ancestors entry steps = some found) (hfile : found.isFile = true)
    (hsteps : steps ≠ []) : (leadFrom place steps).getLast? = steps.getLast? := by
  induction steps generalizing place ancestors entry with
  | nil => exact absurd rfl hsteps
  | cons step steps ih =>
      cases entry with
      | directory entries =>
          obtain ⟨ancestors', entry', hstands, hrest, hlast⟩ := follow_cons_eq_some h hfollow
          rw [leadFrom_cons]
          cases steps with
          | nil =>
              cases hrest
              exact hlast hfile
          | cons next steps =>
              rw [List.getLast?_cons_cons]
              exact ih hstands hrest (by simp)
      | file | unreadable => cases hfollow

theorem splitSlashes_ne_nil (text : List Char) : splitSlashes text ≠ [] := by
  fun_cases splitSlashes text <;> simp_all

theorem pathSteps_ne_nil (path : String) : pathSteps path ≠ [] := by
  simpa [pathSteps] using splitSlashes_ne_nil path.toList

variable {disk : Disk}

theorem follow_of_find? (h : find? disk path = some found) :
    follow [] disk.root (disk.steps path) = some found := by
  unfold find? at h
  split at h
  · cases h
  · exact h

/-- What a path names stands at the place of the path. -/
theorem below_of_find? (h : find? disk path = some found) :
    disk.root.Below (disk.placeOf path) found := by
  obtain ⟨ancestors, hstands⟩ := StandsAt.root.follow (follow_of_find? h)
  exact hstands.below_root

theorem getLast?_steps (disk : Disk) (path : String) :
    (disk.steps path).getLast? = (pathSteps path).getLast? := by
  unfold Disk.steps
  split
  · rfl
  · rw [List.getLast?_append_of_ne_nil _ (pathSteps_ne_nil path)]

/-- The last step to a file is the last name of its place. -/
theorem getLast?_placeOf (h : find? disk path = some found) (hfile : found.isFile = true) :
    (disk.placeOf path).getLast? = (pathSteps path).getLast? := by
  have hsteps : disk.steps path ≠ [] := by
    intro hnil
    have hlast := getLast?_steps disk path
    rw [hnil, List.getLast?_nil, eq_comm, List.getLast?_eq_none_iff] at hlast
    exact pathSteps_ne_nil path hlast
  rw [← getLast?_steps disk]
  exact StandsAt.root.getLast?_leadFrom (follow_of_find? h) hfile hsteps

end SchemaCoverage.Files
