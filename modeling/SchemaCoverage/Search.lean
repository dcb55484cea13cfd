/-!
Breadth-first search along a relation that is given by lists of successors. Only the members of
a finite list are expanded, each at most once, so that the search ends on every relation.
-/
namespace SchemaCoverage

universe u v

variable {α : Type u} {β : Type v}

/-- Goes through the queue from the front. A member for which the goal has an answer ends the
search; any other is expanded if that has not been done yet, its successors coming last. -/
def search [DecidableEq α] (next : α → List α) (goal : α → Option β) :
    (unexpanded queue : List α) → Option β
  | _, [] => none
  | unexpanded, a :: queue =>
      match goal a with
      | some answer => some answer
      | none =>
          if a ∈ unexpanded then search next goal (unexpanded.erase a) (queue ++ next a)
          else search next goal unexpanded queue
termination_by unexpanded queue => (unexpanded.length, queue.length)
decreasing_by
  · have := List.length_erase_of_mem ‹a ∈ unexpanded›
    have := List.length_pos_of_mem ‹a ∈ unexpanded›
    exact Prod.Lex.left _ _ (by omega)
  · exact Prod.Lex.right _ (by simp)

/-- A path of any length along the relation, each step taken from an expanded member. -/
inductive Reaches (next : α → List α) (expanded : List α) (a : α) : α → Prop
  | refl : Reaches next expanded a a
  | step {b c : α} : Reaches next expanded a b → b ∈ expanded → c ∈ next b →
      Reaches next expanded a c

end SchemaCoverage
