/-!
Computations that may fail, and what their success or their failure says.
-/
namespace SchemaCoverage

universe u v w

variable {ε : Type u} {α β : Type v}

/-- Two computations in a row succeed if each does. -/
theorem bind_eq_ok_iff {first : Except ε α} {second : α → Except ε β} {b : β} :
    first >>= second = .ok b ↔ ∃ a, first = .ok a ∧ second a = .ok b := by
  cases first with
  | error error => simp [bind, Except.bind]
  | ok a => simp [bind, Except.bind]

/-- Two computations in a row fail if the first does, or the second where the first succeeds. -/
theorem bind_eq_error_iff {first : Except ε α} {second : α → Except ε β} {error : ε} :
    first >>= second = .error error ↔
      first = .error error ∨ ∃ a, first = .ok a ∧ second a = .error error := by
  cases first with
  | error other => simp [bind, Except.bind]
  | ok a => simp [bind, Except.bind]

theorem exceptMap_eq_ok_iff {first : Except ε α} {change : α → β} {b : β} :
    first.map change = .ok b ↔ ∃ a, first = .ok a ∧ change a = b := by
  cases first with
  | error error => simp [Except.map]
  | ok a => simp [Except.map]

theorem map_eq_ok_iff {first : Except ε α} {change : α → β} {b : β} :
    change <$> first = .ok b ↔ ∃ a, first = .ok a ∧ change a = b :=
  exceptMap_eq_ok_iff

theorem exceptMap_eq_error_iff {first : Except ε α} {change : α → β} {error : ε} :
    first.map change = .error error ↔ first = .error error := by
  cases first with
  | error other => simp [Except.map]
  | ok a => simp [Except.map]

theorem map_eq_error_iff {first : Except ε α} {change : α → β} {error : ε} :
    change <$> first = .error error ↔ first = .error error :=
  exceptMap_eq_error_iff

theorem exists_eq_ok_of_isOk {first : Except ε α} (h : first.isOk = true) :
    ∃ a, first = .ok a := by
  cases first with
  | error error => cases h
  | ok a => exact ⟨a, rfl⟩

/-- Items pass a check in turn just if each of them passes it. -/
theorem forM_eq_ok_iff {α : Type v} {check : α → Except ε PUnit} {items : List α} :
    items.forM check = .ok ⟨⟩ ↔ ∀ item ∈ items, check item = .ok ⟨⟩ := by
  induction items with
  | nil => simp [pure, Except.pure]
  | cons item items ih =>
      rw [List.forM_eq_forM, List.forM_cons, bind_eq_ok_iff, List.forall_mem_cons, ← ih]
      exact ⟨fun ⟨⟨⟩, hitem, hrest⟩ => ⟨hitem, hrest⟩, fun ⟨hitem, hrest⟩ => ⟨_, hitem, hrest⟩⟩

/-- What every step that succeeds keeps, a fold that succeeds keeps. -/
theorem foldlM_invariant {add : β → α → Except ε β} {keeps : β → Prop}
    (hadd : ∀ b a b', keeps b → add b a = .ok b' → keeps b') {items : List α} {b b' : β}
    (hb : keeps b) (h : items.foldlM add b = .ok b') : keeps b' := by
  induction items generalizing b with
  | nil =>
      cases h
      exact hb
  | cons item items ih =>
      rw [List.foldlM_cons, bind_eq_ok_iff] at h
      obtain ⟨next, hnext, hrest⟩ := h
      exact ih (hadd b item next hb hnext) hrest

/-- A fold fails just if one of its steps does after those before it have succeeded. -/
theorem foldlM_eq_error_iff {add : β → α → Except ε β} {items : List α} {b : β} {error : ε} :
    items.foldlM add b = .error error ↔ ∃ before item after b', items = before ++ item :: after ∧
      before.foldlM add b = .ok b' ∧ add b' item = .error error := by
  induction items generalizing b with
  | nil => simp [pure, Except.pure]
  | cons first rest ih =>
      rw [List.foldlM_cons, bind_eq_error_iff]
      constructor
      · intro h
        rcases h with hfirst | ⟨next, hnext, hrest⟩
        · exact ⟨[], first, rest, b, rfl, rfl, hfirst⟩
        · obtain ⟨before, item, after, b', rfl, hbefore, hitem⟩ := ih.1 hrest
          refine ⟨first :: before, item, after, b', rfl, ?_, hitem⟩
          rw [List.foldlM_cons, bind_eq_ok_iff]
          exact ⟨next, hnext, hbefore⟩
      · rintro ⟨before, item, after, b', hsplit, hbefore, hitem⟩
        cases before with
        | nil =>
            obtain ⟨rfl, rfl⟩ := List.cons.inj hsplit
            cases hbefore
            exact Or.inl hitem
        | cons first' before =>
            obtain ⟨rfl, rfl⟩ := List.cons.inj hsplit
            rw [List.foldlM_cons, bind_eq_ok_iff] at hbefore
            obtain ⟨next, hnext, hbefore⟩ := hbefore
            exact Or.inr ⟨next, hnext, ih.2 ⟨before, item, after, b', rfl, hbefore, hitem⟩⟩

/-- Items with new names are added at the end, up to the first name that is there already. Adding
all of them succeeds just if all names are distinct. -/
theorem foldlM_eq_ok_iff_nodup {α : Type v} {κ : Type w} {name : α → κ}
    {add : List α → α → Except ε (List α)}
    (hadd : ∀ items item result, add items item = .ok result ↔
      name item ∉ items.map name ∧ result = items ++ [item])
    {base items result : List α} (hbase : (base.map name).Nodup) :
    items.foldlM add base = .ok result ↔
      ((base ++ items).map name).Nodup ∧ result = base ++ items := by
  induction items generalizing base with
  | nil => simp [hbase, pure, Except.pure, eq_comm]
  | cons item items ih =>
      rw [List.foldlM_cons, bind_eq_ok_iff]
      have happend : base ++ item :: items = base ++ [item] ++ items := by simp
      rw [happend]
      constructor
      · rintro ⟨next, hnext, hrest⟩
        obtain ⟨hnew, rfl⟩ := (hadd _ _ _).1 hnext
        have hnodup : ((base ++ [item]).map name).Nodup := by
          rw [List.map_append, List.nodup_append]
          refine ⟨hbase, by simp, ?_⟩
          rintro key hkey other hother rfl
          rw [List.map_singleton, List.mem_singleton] at hother
          exact hnew (hother ▸ hkey)
        exact (ih hnodup).1 hrest
      · rintro ⟨hnodup, rfl⟩
        have hfirst : ((base ++ [item]).map name).Nodup := by
          rw [List.map_append] at hnodup
          exact (List.nodup_append.1 hnodup).1
        refine ⟨base ++ [item], (hadd _ _ _).2 ⟨?_, rfl⟩, (ih hfirst).2 ⟨hnodup, rfl⟩⟩
        rw [List.map_append, List.nodup_append] at hfirst
        intro hmem
        exact hfirst.2.2 _ hmem _ (by simp) rfl

end SchemaCoverage
