import Mathlib.Data.List.TakeWhile
/-!
Lists cut at the first place where a given member stands.
-/
namespace SchemaCoverage.Text

variable {α : Type} [BEq α] [LawfulBEq α] {a b : α} {items front rest : List α}

theorem takeWhile_append_cons (h : a ∉ front) (rest : List α) :
    (front ++ a :: rest).takeWhile (· != a) = front := by
  have hfront : ∀ b ∈ front, (b != a) = true := by
    intro b hb
    rw [bne_iff_ne]
    rintro rfl
    exact h hb
  simp [List.takeWhile_append_of_pos hfront]

theorem dropWhile_append_cons (h : a ∉ front) (rest : List α) :
    (front ++ a :: rest).dropWhile (· != a) = a :: rest := by
  have hcut := List.takeWhile_append_dropWhile (p := (· != a)) (l := front ++ a :: rest)
  rw [takeWhile_append_cons h] at hcut
  exact List.append_cancel_left hcut

theorem not_mem_takeWhile (a : α) (items : List α) : a ∉ items.takeWhile (· != a) := by
  intro hmem
  simpa using List.mem_takeWhile_imp hmem

/-- A rest begins with the member at which the list is cut. -/
theorem eq_append_of_dropWhile_eq_cons (h : items.dropWhile (· != a) = b :: rest) :
    b = a ∧ items = items.takeWhile (· != a) ++ a :: rest := by
  have hb : b = a := by
    have hhead := List.head?_dropWhile_not (· != a) items
    simpa [h] using hhead
  have hcut := List.takeWhile_append_dropWhile (p := (· != a)) (l := items)
  rw [h, hb] at hcut
  exact ⟨hb, hcut.symm⟩

end SchemaCoverage.Text
