import SchemaCoverage.Host.Registry
/-!
What a search finds. It has an answer just if the relation leads from the queue to a member for
which the goal has one, so that neither the order of the queue nor that of the successors matters
for this. The answer itself is that of a member which no other with an answer is nearer than.
-/
namespace SchemaCoverage

universe u v

variable {α : Type u} {β : Type v} {next next' : α → List α} {expanded expanded' : List α}
  {goal : α → Option β} {answer : Option β} {a b : α} {n : Nat}

theorem Reaches.mono (hexpanded : ∀ x ∈ expanded, x ∈ expanded')
    (hnext : ∀ x y, y ∈ next x → y ∈ next' x) (h : Reaches next expanded a b) :
    Reaches next' expanded' a b := by
  induction h with
  | refl => exact .refl
  | step _ hmem hsuccessor ih => exact .step ih (hexpanded _ hmem) (hnext _ _ hsuccessor)

/-- A path of a certain length along the relation, each step taken from an expanded member. -/
inductive ReachesIn (next : α → List α) (expanded : List α) (a : α) : Nat → α → Prop
  | refl : ReachesIn next expanded a 0 a
  | step {n : Nat} {b c : α} : ReachesIn next expanded a n b → b ∈ expanded → c ∈ next b →
      ReachesIn next expanded a (n + 1) c

theorem reaches_iff_exists_reachesIn :
    Reaches next expanded a b ↔ ∃ n, ReachesIn next expanded a n b := by
  constructor
  · intro h
    induction h with
    | refl => exact ⟨0, .refl⟩
    | step _ hmem hsuccessor ih =>
        obtain ⟨n, hreaches⟩ := ih
        exact ⟨n + 1, .step hreaches hmem hsuccessor⟩
  · rintro ⟨n, h⟩
    induction h with
    | refl => exact .refl
    | step _ hmem hsuccessor ih => exact .step ih hmem hsuccessor

theorem ReachesIn.mono (hexpanded : ∀ x ∈ expanded, x ∈ expanded')
    (h : ReachesIn next expanded a n b) : ReachesIn next expanded' a n b := by
  induction h with
  | refl => exact .refl
  | step _ hmem hsuccessor ih => exact .step ih (hexpanded _ hmem) hsuccessor

/-- A path may begin with one more step. -/
theorem ReachesIn.head {c : α} (hmem : a ∈ expanded) (hsuccessor : c ∈ next a)
    (h : ReachesIn next expanded c n b) : ReachesIn next expanded a (n + 1) b := by
  induction h with
  | refl => exact .step .refl hmem hsuccessor
  | step _ hmem' hsuccessor' ih => exact .step ih hmem' hsuccessor'

/-- A path that leads anywhere else has a first step. -/
theorem ReachesIn.eq_or_head (h : ReachesIn next expanded a n b) :
    b = a ∨ a ∈ expanded ∧ ∃ c ∈ next a, ∃ m < n, ReachesIn next expanded c m b := by
  induction h with
  | refl => exact Or.inl rfl
  | step _ hmem hsuccessor ih =>
      rcases ih with rfl | ⟨hfirst, c, hc, m, hm, hreaches⟩
      · exact Or.inr ⟨hmem, _, hsuccessor, 0, Nat.succ_pos _, .refl⟩
      · exact Or.inr ⟨hfirst, c, hc, m + 1, Nat.succ_lt_succ hm, .step hreaches hmem hsuccessor⟩

/-- A path goes through a member for the last time, or keeps clear of it. -/
theorem ReachesIn.erase_or_through [DecidableEq α] {start : α}
    (h : ReachesIn next expanded start n b) (a : α) :
    ReachesIn next (expanded.erase a) start n b ∨
      ∃ c ∈ next a, ∃ m < n, ReachesIn next (expanded.erase a) c m b := by
  induction h with
  | refl => exact Or.inl .refl
  | @step n x y _ hmem hsuccessor ih =>
      by_cases hx : x = a
      · subst hx
        exact Or.inr ⟨y, hsuccessor, 0, Nat.succ_pos n, .refl⟩
      · have hmem := (List.mem_erase_of_ne hx).2 hmem
        rcases ih with hclear | ⟨c, hc, m, hm, hreaches⟩
        · exact Or.inl (.step hclear hmem hsuccessor)
        · exact Or.inr ⟨c, hc, m + 1, Nat.succ_lt_succ hm, .step hreaches hmem hsuccessor⟩

/-- A path from a member to another leaves it for good. -/
theorem ReachesIn.leaves [DecidableEq α] (h : ReachesIn next expanded a n b) (hne : b ≠ a) :
    ∃ c ∈ next a, ∃ m < n, ReachesIn next (expanded.erase a) c m b := by
  rcases h.erase_or_through a with hclear | hthrough
  · rcases hclear.eq_or_head with heq | ⟨-, hhead⟩
    · exact absurd heq hne
    · exact hhead
  · exact hthrough

/-- The answer of a member that has one where no other with an answer is nearer, for a given
relation between distances and members; or no answer, if there is no such member. -/
def IsNearest (goal : α → Option β) (away : Nat → α → Prop) : Option β → Prop
  | some answer => ∃ n b, away n b ∧ goal b = some answer ∧
      ∀ m c, away m c → (goal c).isSome = true → n ≤ m
  | none => ∀ n b, away n b → goal b = none

section IsNearest

variable {away away' : Nat → α → Prop}

theorem IsNearest.isSome_iff (h : IsNearest goal away answer) :
    answer.isSome = true ↔ ∃ n b, away n b ∧ (goal b).isSome = true := by
  cases answer with
  | none =>
      simp only [Option.isSome_none, Bool.false_eq_true, false_iff]
      rintro ⟨n, b, haway, hgoal⟩
      simp [h n b haway] at hgoal
  | some answer =>
      obtain ⟨n, b, haway, hgoal, -⟩ := h
      simp only [Option.isSome_some, true_iff]
      exact ⟨n, b, haway, by simp [hgoal]⟩

/-- Distances may be taken from elsewhere if those found there are right, and if a member with an
answer is found there at most as far away. -/
theorem IsNearest.of_away (h : IsNearest goal away' answer)
    (hsound : ∀ n b, away' n b → away n b)
    (hcomplete : ∀ n b, away n b → (goal b).isSome = true → ∃ m ≤ n, away' m b) :
    IsNearest goal away answer := by
  cases answer with
  | none =>
      intro n b haway
      rw [← Option.not_isSome_iff_eq_none]
      intro hanswer
      obtain ⟨m, -, haway'⟩ := hcomplete n b haway hanswer
      simp [h m b haway'] at hanswer
  | some answer =>
      obtain ⟨n, b, haway, hgoal, hleast⟩ := h
      refine ⟨n, b, hsound n b haway, hgoal, ?_⟩
      intro m c hc hanswer
      obtain ⟨k, hk, hc'⟩ := hcomplete m c hc hanswer
      exact Nat.le_trans (hleast k c hc' hanswer) hk

end IsNearest

/-- How far members are from a queue whose front is at a distance, and whose back is farther away
by one. -/
inductive Away (next : α → List α) (expanded front back : List α) (distance : Nat) : Nat → α → Prop
  | front {n : Nat} {a b : α} : a ∈ front → ReachesIn next expanded a n b →
      Away next expanded front back distance (distance + n) b
  | back {n : Nat} {a b : α} : a ∈ back → ReachesIn next expanded a n b →
      Away next expanded front back distance (distance + 1 + n) b

section Away

variable {front back queue : List α} {distance : Nat}

theorem Away.le (h : Away next expanded front back distance n b) : distance ≤ n := by
  cases h <;> omega

/-- A queue with nothing in its front is all front, at the next distance. -/
theorem isNearest_of_cons
    (h : ∀ distance front back, queue = front ++ back →
      IsNearest goal (Away next expanded (a :: front) back distance) answer)
    (hqueue : a :: queue = front ++ back) :
    IsNearest goal (Away next expanded front back distance) answer := by
  cases front with
  | cons first rest =>
      obtain ⟨rfl, rfl⟩ := List.cons.inj hqueue
      exact h distance rest back rfl
  | nil =>
      obtain rfl : a :: queue = back := hqueue
      refine (h (distance + 1) queue [] (List.append_nil queue).symm).of_away ?_ ?_
      · rintro n b (⟨hmem, hreaches⟩ | ⟨hmem, -⟩)
        · exact .back hmem hreaches
        · cases hmem
      · rintro n b (⟨hmem, -⟩ | ⟨hmem, hreaches⟩) -
        · cases hmem
        · exact ⟨_, Nat.le_refl _, .front hmem hreaches⟩

/-- Where an expanded member gives way to its successors nothing comes nearer. -/
theorem Away.of_expand [DecidableEq α] (hmem : a ∈ expanded)
    (h : Away next (expanded.erase a) front (back ++ next a) distance n b) :
    Away next expanded (a :: front) back distance n b := by
  have herase : ∀ x ∈ expanded.erase a, x ∈ expanded := fun _ => List.mem_of_mem_erase
  rcases h with ⟨hfront, hreaches⟩ | ⟨hback, hreaches⟩
  · exact .front (List.mem_cons_of_mem _ hfront) (hreaches.mono herase)
  · rcases List.mem_append.1 hback with hback | hsuccessor
    · exact .back hback (hreaches.mono herase)
    · have hhead := (hreaches.mono herase).head hmem hsuccessor
      rw [Nat.add_assoc, Nat.add_comm 1]
      exact .front List.mem_cons_self hhead

/-- Where an expanded member gives way to its successors no other comes to be farther away. -/
theorem Away.expand [DecidableEq α] (h : Away next expanded (a :: front) back distance n b)
    (hne : b ≠ a) :
    ∃ m ≤ n, Away next (expanded.erase a) front (back ++ next a) distance m b := by
  have hthrough {m : Nat} {c : α} (hc : c ∈ next a)
      (hreaches : ReachesIn next (expanded.erase a) c m b) :
      Away next (expanded.erase a) front (back ++ next a) distance (distance + 1 + m) b :=
    .back (List.mem_append_right _ hc) hreaches
  rcases h with ⟨hfront, hreaches⟩ | ⟨hback, hreaches⟩
  · rcases List.mem_cons.1 hfront with rfl | hfront
    · obtain ⟨c, hc, m, hm, hrest⟩ := hreaches.leaves hne
      exact ⟨_, by omega, hthrough hc hrest⟩
    · rcases hreaches.erase_or_through a with hclear | ⟨c, hc, m, hm, hrest⟩
      · exact ⟨_, Nat.le_refl _, .front hfront hclear⟩
      · exact ⟨_, by omega, hthrough hc hrest⟩
  · rcases hreaches.erase_or_through a with hclear | ⟨c, hc, m, hm, hrest⟩
    · exact ⟨_, Nat.le_refl _, .back (List.mem_append_left _ hback) hclear⟩
    · exact ⟨_, by omega, hthrough hc hrest⟩

/-- A member that is not expanded leads nowhere else. -/
theorem Away.of_not_expanded (h : Away next expanded (a :: front) back distance n b)
    (hmem : a ∉ expanded) (hne : b ≠ a) : Away next expanded front back distance n b := by
  rcases h with ⟨hfront, hreaches⟩ | ⟨hback, hreaches⟩
  · rcases List.mem_cons.1 hfront with rfl | hfront
    · rcases hreaches.eq_or_head with heq | ⟨hfirst, -⟩
      · exact absurd heq hne
      · exact absurd hfirst hmem
    · exact .front hfront hreaches
  · exact .back hback hreaches

theorem Away.cons (h : Away next expanded front back distance n b) :
    Away next expanded (a :: front) back distance n b := by
  rcases h with ⟨hfront, hreaches⟩ | ⟨hback, hreaches⟩
  · exact .front (List.mem_cons_of_mem _ hfront) hreaches
  · exact .back hback hreaches

/-- A search finds the nearest answer. The front of its queue is at one distance and the back at the
next, and the successors of what comes first in the front belong to the back. -/
theorem search_isNearest [DecidableEq α] (unexpanded : List α) (hqueue : queue = front ++ back) :
    IsNearest goal (Away next unexpanded front back distance)
      (search next goal unexpanded queue) := by
  have hother {a b : α} (hnone : goal a = none) (hgoal : (goal b).isSome = true) : b ≠ a := by
    rintro rfl
    simp [hnone] at hgoal
  fun_induction search next goal unexpanded queue generalizing front back distance with
  | case1 unexpanded =>
      obtain ⟨rfl, rfl⟩ := List.append_eq_nil_iff.1 hqueue.symm
      rintro n b (⟨hmem, -⟩ | ⟨hmem, -⟩) <;> cases hmem
  | case2 unexpanded a queue answer hanswer =>
      refine isNearest_of_cons (fun distance front back _ => ?_) hqueue
      exact ⟨distance, a, .front List.mem_cons_self .refl, hanswer, fun m c haway _ => haway.le⟩
  | case3 unexpanded a queue hnone hunexpanded ih =>
      refine isNearest_of_cons (fun distance front back hsplit => ?_) hqueue
      have hrest : queue ++ next a = front ++ (back ++ next a) := by
        rw [hsplit, List.append_assoc]
      exact (@ih front (back ++ next a) distance hrest).of_away
        (fun n b haway => haway.of_expand hunexpanded)
        fun n b haway hgoal => haway.expand (hother hnone hgoal)
  | case4 unexpanded a queue hnone hexpanded ih =>
      refine isNearest_of_cons (fun distance front back hsplit => ?_) hqueue
      exact (@ih front back distance hsplit).of_away (fun n b haway => haway.cons)
        fun n b haway hgoal =>
          ⟨n, Nat.le_refl n, haway.of_not_expanded hexpanded (hother hnone hgoal)⟩

/-- All of a queue may be its front. -/
theorem away_queue_iff :
    Away next expanded queue [] 0 n b ↔ ∃ a ∈ queue, ReachesIn next expanded a n b := by
  constructor
  · rintro (⟨hmem, hreaches⟩ | ⟨hmem, -⟩)
    · rw [Nat.zero_add]
      exact ⟨_, hmem, hreaches⟩
    · cases hmem
  · rintro ⟨a, hmem, hreaches⟩
    rw [← Nat.zero_add n]
    exact .front hmem hreaches

theorem search_queue_isNearest [DecidableEq α] (unexpanded queue : List α) :
    IsNearest goal (fun n b => ∃ a ∈ queue, ReachesIn next unexpanded a n b)
      (search next goal unexpanded queue) := by
  have h : IsNearest goal (Away next unexpanded queue [] 0)
      (search next goal unexpanded queue) :=
    search_isNearest unexpanded (List.append_nil queue).symm
  exact h.of_away (fun _ _ => away_queue_iff.1) fun n b haway _ =>
    ⟨n, Nat.le_refl n, away_queue_iff.2 haway⟩

end Away

/-- A search has an answer just if a member with an answer can be reached from its queue. -/
theorem search_isSome_iff [DecidableEq α] {unexpanded queue : List α} :
    (search next goal unexpanded queue).isSome = true ↔
      ∃ a ∈ queue, ∃ b, Reaches next unexpanded a b ∧ (goal b).isSome = true := by
  rw [(search_queue_isNearest unexpanded queue).isSome_iff]
  simp only [reaches_iff_exists_reachesIn]
  constructor
  · rintro ⟨n, b, ⟨a, hmem, hreaches⟩, hgoal⟩
    exact ⟨a, hmem, b, ⟨n, hreaches⟩, hgoal⟩
  · rintro ⟨a, hmem, b, ⟨n, hreaches⟩, hgoal⟩
    exact ⟨n, b, ⟨a, hmem, hreaches⟩, hgoal⟩

namespace Host.Registry

variable {registry : Registry} {next : String → List String} {start goal : String}

theorem leadsTo_iff :
    registry.leadsTo next start goal = true ↔ Reaches next registry.paths start goal := by
  rw [leadsTo, search_isSome_iff]
  constructor
  · rintro ⟨a, ha, b, hreaches, hgoal⟩
    obtain rfl := List.mem_singleton.1 ha
    split at hgoal
    · next heq => exact heq ▸ hreaches
    · cases hgoal
  · intro hreaches
    exact ⟨start, List.mem_cons_self, goal, hreaches, by simp⟩

/-- One type may be given for another just if it implements the other, or is permitted by it, in
any number of steps. -/
theorem isAssignable_iff {candidate declared : String} :
    registry.isAssignable candidate declared = true ↔
      Reaches registry.implementsOf registry.paths candidate declared ∨
        Reaches registry.permitsOf registry.paths declared candidate := by
  rw [isAssignable, Bool.or_eq_true, leadsTo_iff, leadsTo_iff]

end Host.Registry

end SchemaCoverage
