import SchemaCoverage.Assoc
import Mathlib.Data.List.Basic
import Mathlib.Data.List.Induction
import Mathlib.Data.List.Nodup
/-!
Lists that grow without repetition. Members, or entries under keys, that are added one by one stand
where they come first.
-/
namespace SchemaCoverage

/-- Adding members one by one unless they are there adds each new one where it comes first. -/
theorem foldl_eq_append_eraseDupsBy {α : Type} {same : α → α → Bool} {add : List α → α → List α}
    (hadd : ∀ members a, add members a = if members.any (same a) then members else members ++ [a])
    (members added : List α) :
    added.foldl add members =
      members ++ (added.filter fun a => !members.any (same a)).eraseDupsBy same := by
  induction added generalizing members with
  | nil => simp
  | cons a added ih =>
      rw [List.foldl_cons, hadd]
      by_cases hold : members.any (same a) = true
      · rw [if_pos hold, ih, List.filter_cons_of_neg (by simp [hold])]
      · have hrest : added.filter (fun b => !(members ++ [a]).any (same b)) =
            (added.filter fun b => !members.any (same b)).filter fun b =>
              decide (same b a = false) := by
          rw [List.filter_filter]
          apply List.filter_congr
          intro b _
          simp [Bool.and_comm]
        rw [if_neg hold, ih, List.filter_cons_of_pos (by simp [hold]), List.eraseDupsBy_cons,
          hrest, List.append_assoc, List.singleton_append]

theorem eraseDups_of_nodup {α : Type} [BEq α] [LawfulBEq α] {members : List α}
    (h : members.Nodup) : members.eraseDups = members := by
  induction members with
  | nil => rfl
  | cons a members ih =>
      obtain ⟨hnew, hrest⟩ := List.nodup_cons.1 h
      have hfilter : (members.filter fun b => !b == a) = members := by
        rw [List.filter_eq_self]
        intro b hmem
        have hne : b ≠ a := fun heq => hnew (heq ▸ hmem)
        simp [hne]
      rw [List.eraseDups_cons, hfilter, ih hrest]

/-- Under distinct names an item is the one that its name finds. -/
theorem find?_of_mem_of_nodup {α : Type} {name : α → String} {items : List α}
    (hnames : (items.map name).Nodup) {item : α} (hmem : item ∈ items) :
    items.find? (name · == name item) = some item := by
  cases hfind : items.find? (name · == name item) with
  | none =>
      have hnone := List.find?_eq_none.1 hfind item hmem
      simp at hnone
  | some other =>
      have hname : name other = name item := by simpa using List.find?_some hfind
      rw [List.inj_on_of_nodup_map hnames (List.mem_of_find?_eq_some hfind) hmem hname]

theorem find?_eq_some_iff_of_nodup {α : Type} {name : α → String} {items : List α}
    (hnames : (items.map name).Nodup) {key : String} {item : α} :
    items.find? (name · == key) = some item ↔ item ∈ items ∧ name item = key := by
  constructor
  · intro hfind
    exact ⟨List.mem_of_find?_eq_some hfind, by simpa using List.find?_some hfind⟩
  · rintro ⟨hmem, rfl⟩
    exact find?_of_mem_of_nodup hnames hmem

namespace Assoc

variable {α κ ν : Type} [DecidableEq α] [DecidableEq κ]

theorem foldl_addNew_eq (members added : List α) :
    added.foldl addNew members =
      members ++ (added.filter fun a => !members.contains a).eraseDups := by
  have hadd (members : List α) (a : α) :
      addNew members a = if members.any (a == ·) then members else members ++ [a] := by
    simp [addNew]
  have hold (a : α) : members.any (a == ·) = members.contains a := List.any_beq
  simpa only [hold, List.eraseDups] using foldl_eq_append_eraseDupsBy hadd members added

theorem foldl_addNew_nil (added : List α) : added.foldl addNew [] = added.eraseDups := by
  simpa using foldl_addNew_eq [] added

theorem eraseDups_concat (members : List α) (a : α) :
    (members ++ [a]).eraseDups = addNew members.eraseDups a := by
  rw [← foldl_addNew_nil, List.foldl_append, foldl_addNew_nil]
  rfl

theorem eraseDups_nodup (members : List α) : members.eraseDups.Nodup := by
  rw [← foldl_addNew_nil]
  exact foldl_addNew_nodup List.nodup_nil members

theorem eraseDups_eq_nil_iff {members : List α} : members.eraseDups = [] ↔ members = [] := by
  cases members with
  | nil => simp
  | cons a members => simp [List.eraseDups_cons]

theorem filter_addNew (keep : α → Bool) (members : List α) (a : α) :
    (addNew members a).filter keep =
      if keep a then addNew (members.filter keep) a else members.filter keep := by
  unfold addNew
  by_cases hmem : a ∈ members <;> cases hkeep : keep a <;> simp [hmem, hkeep]

/-- Members that are filtered first stand in the order in which they come first in all. -/
theorem eraseDups_filter (keep : α → Bool) (members : List α) :
    (members.filter keep).eraseDups = members.eraseDups.filter keep := by
  induction members using List.reverseRecOn with
  | nil => rfl
  | append_singleton members a ih =>
      rw [eraseDups_concat, filter_addNew, ← ih, List.filter_append]
      cases hkeep : keep a with
      | false => simp [hkeep]
      | true => simpa [hkeep] using eraseDups_concat (members.filter keep) a

/-- Members stand in the order in which they come first. -/
theorem pairwise_idxOf_eraseDups (members : List α) :
    members.eraseDups.Pairwise fun a b => members.idxOf a < members.idxOf b := by
  induction members using List.reverseRecOn with
  | nil => exact .nil
  | append_singleton members a ih =>
      have hold (b : α) (hb : b ∈ members) : (members ++ [a]).idxOf b = members.idxOf b :=
        List.idxOf_append_of_mem hb
      have hkept : members.eraseDups.Pairwise fun b c =>
          (members ++ [a]).idxOf b < (members ++ [a]).idxOf c := by
        refine ih.imp_of_mem fun hb hc hlt => ?_
        rwa [hold _ (List.mem_eraseDups.1 hb), hold _ (List.mem_eraseDups.1 hc)]
      rw [eraseDups_concat, addNew]
      split
      · exact hkept
      · next hnew =>
          rw [List.mem_eraseDups] at hnew
          refine List.pairwise_append.2 ⟨hkept, List.pairwise_singleton _ a, ?_⟩
          intro b hb c hc
          rw [List.mem_singleton.1 hc, hold b (List.mem_eraseDups.1 hb),
            List.idxOf_append_of_notMem hnew]
          exact Nat.lt_add_right _ (List.idxOf_lt_length_of_mem (List.mem_eraseDups.1 hb))

theorem keys_foldl_put {β : Type} (key : β → κ) (value : β → ν) (items : List β)
    (entries : Assoc κ ν) :
    (items.foldl (fun found item => found.put (key item) (value item)) entries).keys =
      (items.map key).foldl addNew entries.keys := by
  induction items generalizing entries with
  | nil => rfl
  | cons item items ih => rw [List.foldl_cons, ih, keys_put, List.map_cons, List.foldl_cons, addNew]

/-- Of several values that are stored under a key the last one stays. -/
theorem find?_foldl_put {β : Type} (key : β → κ) (value : β → ν) (items : List β)
    (entries : Assoc κ ν) (wanted : κ) :
    (items.foldl (fun found item => found.put (key item) (value item)) entries).find? wanted =
      ((items.findRev? (key · == wanted)).map value).or (entries.find? wanted) := by
  induction items generalizing entries with
  | nil => rfl
  | cons item items ih =>
      rw [List.foldl_cons, ih, find?_put, List.findRev?]
      cases items.findRev? (key · == wanted) with
      | some last => rfl
      | none => by_cases hkey : key item = wanted <;> simp [hkey]

theorem find?_eq_find?_list (entries : Assoc κ ν) (key : κ) :
    entries.find? key = (List.find? (·.1 == key) entries).map Prod.snd := by
  induction entries with
  | nil => rfl
  | cons entry entries ih =>
      rw [find?, List.find?_cons, ih]
      by_cases hkey : entry.1 = key
      · simp [hkey]
      · simp [hkey, beq_eq_false_iff_ne.2 hkey]

theorem find?_map {μ : Type} (change : ν → μ) (entries : Assoc κ ν) (key : κ) :
    find? (entries.map (Prod.map id change)) key = (find? entries key).map change := by
  simp only [find?_eq_find?_list, List.find?_map, Option.map_map]
  rfl

theorem keys_map {κ ν μ : Type} (change : ν → μ) (entries : Assoc κ ν) :
    keys (entries.map (Prod.map id change)) = keys entries :=
  List.map_map

/-- Entries with distinct keys are told by their keys and by what each key finds. -/
theorem eq_filterMap_keys {entries : Assoc κ ν} (distinct : entries.keys.Nodup) :
    entries = entries.keys.filterMap fun key => (entries.find? key).map (key, ·) := by
  have hfind : ∀ entry ∈ entries,
      ((entries.find? entry.1).map (entry.1, ·)) = some entry := by
    rintro ⟨key, value⟩ hmem
    rw [find?_of_mem distinct hmem, Option.map_some]
  rw [keys, List.filterMap_map]
  exact ((List.filterMap_congr hfind).trans List.filterMap_some).symm

theorem eq_map_keys {entries : Assoc κ ν} {found : κ → ν} (distinct : entries.keys.Nodup)
    (hfind : ∀ key ∈ entries.keys, entries.find? key = some (found key)) :
    entries = entries.keys.map fun key => (key, found key) := by
  have hentry : ∀ key ∈ entries.keys,
      (entries.find? key).map (key, ·) = some (key, found key) := by
    intro key hkey
    rw [hfind key hkey, Option.map_some]
  calc entries
    _ = entries.keys.filterMap fun key => (entries.find? key).map (key, ·) :=
      eq_filterMap_keys distinct
    _ = entries.keys.filterMap fun key => some (key, found key) := List.filterMap_congr hentry
    _ = entries.keys.map fun key => (key, found key) := by rw [List.filterMap_eq_map']

/-- Entries with the same distinct keys are the same if each key finds the same. -/
theorem eq_of_keys_eq {entries entries' : Assoc κ ν} (distinct : entries.keys.Nodup)
    (hkeys : entries.keys = entries'.keys)
    (hfind : ∀ key, entries.find? key = entries'.find? key) : entries = entries' :=
  calc entries
    _ = entries.keys.filterMap fun key => (entries.find? key).map (key, ·) :=
      eq_filterMap_keys distinct
    _ = entries'.keys.filterMap fun key => (entries'.find? key).map (key, ·) := by
      simp only [hkeys, hfind]
    _ = entries' := (eq_filterMap_keys (hkeys ▸ distinct)).symm

end Assoc

end SchemaCoverage
