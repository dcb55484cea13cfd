/-!
Association lists in insertion order: a key keeps the place where it was first stored, and
storing under it again replaces its value there.
-/
namespace SchemaCoverage

universe u v

/-- Pairs of a key and a value, in the order in which the keys were first stored. -/
abbrev Assoc (κ : Type u) (ν : Type v) := List (κ × ν)

namespace Assoc

variable {κ : Type u} {ν : Type v} [DecidableEq κ]

/-- The keys, in order. -/
def keys (entries : Assoc κ ν) : List κ :=
  entries.map Prod.fst

/-- The value stored under a key. -/
def find? (entries : Assoc κ ν) (key : κ) : Option ν :=
  match entries with
  | [] => none
  | (k, v) :: rest => if k = key then some v else find? rest key

/-- Replaces the value of a key in place, or adds the pair at the end. -/
def put (entries : Assoc κ ν) (key : κ) (value : ν) : Assoc κ ν :=
  match entries with
  | [] => [(key, value)]
  | (k, v) :: rest => if k = key then (k, value) :: rest else (k, v) :: put rest key value

/-- Changes the value of a key in place, or adds the key at the end with the changed default. -/
def update (entries : Assoc κ ν) (key : κ) (default : ν) (change : ν → ν) : Assoc κ ν :=
  match entries with
  | [] => [(key, change default)]
  | (k, v) :: rest =>
      if k = key then (k, change v) :: rest else (k, v) :: update rest key default change

@[simp] theorem find?_nil (key : κ) : find? ([] : Assoc κ ν) key = none := rfl

/-- Nothing is stored under a key that is not among the keys. -/
theorem find?_eq_none_iff {entries : Assoc κ ν} {key : κ} :
    find? entries key = none ↔ key ∉ keys entries := by
  induction entries with
  | nil => simp [keys]
  | cons head rest ih =>
      obtain ⟨k, v⟩ := head
      by_cases hk : k = key
      · simp [find?, keys, hk]
      · rw [find?, if_neg hk, ih]
        simp [keys, Ne.symm hk]

theorem mem_of_find? {entries : Assoc κ ν} {key : κ} {value : ν}
    (h : find? entries key = some value) : (key, value) ∈ entries := by
  induction entries with
  | nil => simp at h
  | cons head rest ih =>
      obtain ⟨k, v⟩ := head
      by_cases hk : k = key
      · rw [find?, if_pos hk, Option.some.injEq] at h
        exact List.mem_cons.2 (Or.inl (by rw [hk, h]))
      · rw [find?, if_neg hk] at h
        exact List.mem_cons_of_mem _ (ih h)

/-- Where keys are distinct a member is what its key finds. -/
theorem find?_of_mem {entries : Assoc κ ν} (distinct : (keys entries).Nodup) {key : κ} {value : ν}
    (h : (key, value) ∈ entries) : find? entries key = some value := by
  induction entries with
  | nil => simp at h
  | cons head rest ih =>
      obtain ⟨k, v⟩ := head
      obtain ⟨hnew, hrest⟩ := List.nodup_cons.1 distinct
      rcases List.mem_cons.1 h with heq | hmem
      · obtain ⟨rfl, rfl⟩ := Prod.mk.inj heq
        simp [find?]
      · have hne : k ≠ key := fun heq => hnew (List.mem_map.2 ⟨_, hmem, heq.symm⟩)
        rw [find?, if_neg hne]
        exact ih hrest hmem

theorem find?_put (entries : Assoc κ ν) (key other : κ) (value : ν) :
    find? (put entries key value) other =
      if key = other then some value else find? entries other := by
  induction entries with
  | nil => simp [put, find?]
  | cons head rest ih =>
      obtain ⟨k, v⟩ := head
      by_cases hk : k = key
      · subst hk
        by_cases ho : k = other <;> simp [put, find?, ho]
      · by_cases ho : k = other
        · subst ho
          simp [put, find?, hk, Ne.symm hk]
        · simp [put, find?, hk, ho, ih]

/-- A value of a new key is stored at the end. -/
theorem put_of_find?_eq_none {entries : Assoc κ ν} {key : κ} (h : find? entries key = none)
    (value : ν) : put entries key value = entries ++ [(key, value)] := by
  induction entries with
  | nil => rfl
  | cons head rest ih =>
      obtain ⟨k, v⟩ := head
      by_cases hk : k = key
      · simp [find?, hk] at h
      · rw [find?, if_neg hk] at h
        rw [put, if_neg hk, ih h, List.cons_append]

/-- Values may be changed before or after storing. -/
theorem map_put {μ : Type v} (change : ν → μ) (entries : Assoc κ ν) (key : κ) (value : ν) :
    (put entries key value).map (Prod.map id change) =
      put (entries.map (Prod.map id change)) key (change value) := by
  induction entries with
  | nil => rfl
  | cons head rest ih =>
      obtain ⟨k, v⟩ := head
      by_cases hk : k = key
      · simp [put, hk]
      · simp [put, hk, ih]

theorem find?_update (entries : Assoc κ ν) (key other : κ) (default : ν) (change : ν → ν) :
    find? (update entries key default change) other =
      if key = other then some (change ((find? entries key).getD default))
      else find? entries other := by
  induction entries with
  | nil => simp [update, find?]
  | cons head rest ih =>
      obtain ⟨k, v⟩ := head
      by_cases hk : k = key
      · subst hk
        by_cases ho : k = other <;> simp [update, find?, ho]
      · by_cases ho : k = other
        · subst ho
          simp [update, find?, hk, Ne.symm hk]
        · simp [update, find?, hk, ho, ih]

theorem keys_put (entries : Assoc κ ν) (key : κ) (value : ν) :
    keys (put entries key value) =
      if key ∈ keys entries then keys entries else keys entries ++ [key] := by
  induction entries with
  | nil => simp [put, keys]
  | cons head rest ih =>
      obtain ⟨k, v⟩ := head
      by_cases hk : k = key
      · subst hk
        simp [put, keys]
      · by_cases hm : key ∈ keys rest
        · simp_all [put, keys]
        · simp_all [put, keys, Ne.symm hk]

theorem keys_update (entries : Assoc κ ν) (key : κ) (default : ν) (change : ν → ν) :
    keys (update entries key default change) =
      if key ∈ keys entries then keys entries else keys entries ++ [key] := by
  induction entries with
  | nil => simp [update, keys]
  | cons head rest ih =>
      obtain ⟨k, v⟩ := head
      by_cases hk : k = key
      · subst hk
        simp [update, keys]
      · by_cases hm : key ∈ keys rest
        · simp_all [update, keys]
        · simp_all [update, keys, Ne.symm hk]

/-- Storing keeps the keys distinct. -/
theorem keys_put_nodup {entries : Assoc κ ν} (h : (keys entries).Nodup) (key : κ) (value : ν) :
    (keys (put entries key value)).Nodup := by
  rw [keys_put]
  split
  · exact h
  · next hm => exact List.nodup_append.2 ⟨h, by simp, by simp; exact fun a ha heq => hm (heq ▸ ha)⟩

/-- What is there after a put is the new pair and the old pairs of other keys. -/
theorem mem_put {entries : Assoc κ ν} (distinct : (keys entries).Nodup) {key : κ} {value : ν}
    {entry : κ × ν} :
    entry ∈ put entries key value ↔ entry = (key, value) ∨ entry ∈ entries ∧ entry.1 ≠ key := by
  obtain ⟨other, stored⟩ := entry
  have hfind : (other, stored) ∈ put entries key value ↔
      find? (put entries key value) other = some stored :=
    ⟨find?_of_mem (keys_put_nodup distinct key value), mem_of_find?⟩
  rw [hfind, find?_put]
  by_cases hkey : key = other
  · subst hkey
    simp [eq_comm]
  · rw [if_neg hkey]
    constructor
    · intro h
      exact Or.inr ⟨mem_of_find? h, Ne.symm hkey⟩
    · rintro (heq | ⟨hmem, -⟩)
      · exact absurd (congrArg Prod.fst heq).symm hkey
      · exact find?_of_mem distinct hmem

/-- Changing keeps the keys distinct. -/
theorem keys_update_nodup {entries : Assoc κ ν} (h : (keys entries).Nodup) (key : κ) (default : ν)
    (change : ν → ν) : (keys (update entries key default change)).Nodup := by
  rw [keys_update]
  split
  · exact h
  · next hm => exact List.nodup_append.2 ⟨h, by simp, by simp; exact fun a ha heq => hm (heq ▸ ha)⟩

/-- Adds a member to a list without repeating it. -/
def addNew {α : Type u} [DecidableEq α] (members : List α) (a : α) : List α :=
  if a ∈ members then members else members ++ [a]

theorem mem_addNew {α : Type u} [DecidableEq α] {members : List α} {a b : α} :
    b ∈ addNew members a ↔ b ∈ members ∨ b = a := by
  unfold addNew
  split
  · exact ⟨Or.inl, fun h => h.elim id (fun h => h ▸ ‹_›)⟩
  · simp

theorem addNew_nodup {α : Type u} [DecidableEq α] {members : List α} (h : members.Nodup) (a : α) :
    (addNew members a).Nodup := by
  unfold addNew
  split
  · exact h
  · next hm => exact List.nodup_append.2 ⟨h, by simp, by simp; exact fun b hb heq => hm (heq ▸ hb)⟩

theorem mem_foldl_addNew {α : Type u} [DecidableEq α] {members added : List α} {a : α} :
    a ∈ added.foldl addNew members ↔ a ∈ members ∨ a ∈ added := by
  induction added generalizing members with
  | nil => simp
  | cons b added ih => rw [List.foldl_cons, ih, mem_addNew, List.mem_cons, or_assoc]

theorem foldl_addNew_nodup {α : Type u} [DecidableEq α] {members : List α} (h : members.Nodup)
    (added : List α) : (added.foldl addNew members).Nodup := by
  induction added generalizing members with
  | nil => exact h
  | cons a added ih => exact ih (addNew_nodup h a)

end Assoc

end SchemaCoverage
