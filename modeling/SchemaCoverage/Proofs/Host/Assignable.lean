import SchemaCoverage.Proofs.Search
/-!
Which host types may be given for which. The searches through what types implement and permit find
all chains of registered types and nothing else, also where the lists lead in circles, to the type
itself or to paths under which nothing is registered.
-/
namespace SchemaCoverage

universe u

variable {α : Type u} {next : α → List α} {expanded : List α} {a b : α}

/-- One member leads to another just if some numbered path goes there. -/
theorem reaches_iff_exists_path :
    Reaches next expanded a b ↔ ∃ (n : Nat) (path : Nat → α), path 0 = a ∧ path n = b ∧
      ∀ i < n, path i ∈ expanded ∧ path (i + 1) ∈ next (path i) := by
  constructor
  · intro h
    induction h with
    | refl => exact ⟨0, fun _ => a, rfl, rfl, by simp⟩
    | @step b c _ hmem hsuccessor ih =>
        obtain ⟨n, path, hfirst, hlast, hsteps⟩ := ih
        have hpast : ¬n + 1 ≤ n := by omega
        refine ⟨n + 1, fun i => if i ≤ n then path i else c, by simp [hfirst], if_neg hpast, ?_⟩
        intro i hi
        by_cases hend : i = n
        · subst hend
          simp only [Nat.le_refl, if_true, hpast, if_false, hlast]
          exact ⟨hmem, hsuccessor⟩
        · have hle : i ≤ n := by omega
          have hnext : i + 1 ≤ n := by omega
          simpa [hle, hnext] using hsteps i (by omega)
  · rintro ⟨n, path, rfl, rfl, hsteps⟩
    induction n with
    | zero => exact .refl
    | succ n ih =>
        have hbefore := ih fun i hi => hsteps i (by omega)
        obtain ⟨hmem, hsuccessor⟩ := hsteps n (by omega)
        exact .step hbefore hmem hsuccessor

namespace Host.Registry

variable {registry : Registry} {lists : HostType → List String} {first last : String}

/-- A chain from one path to another in one step or more: under every path but the last a type is
registered, and it lists the next path. -/
def Chain (registry : Registry) (lists : HostType → List String) (first last : String) : Prop :=
  ∃ n ≥ 1, ∃ path : Nat → String, path 0 = first ∧ path n = last ∧
    ∀ i < n, ∃ type, registry.get? (path i) = some type ∧ path (i + 1) ∈ lists type

/-- Only a registered type lists anything. -/
theorem mem_listed_iff {path other : String} :
    path ∈ registry.paths ∧ other ∈ ((registry.get? path).map lists).getD [] ↔
      ∃ type, registry.get? path = some type ∧ other ∈ lists type := by
  rw [← contains_iff, contains]
  cases registry.get? path <;> simp

/-- Chains are the paths of the search that go anywhere. -/
theorem reaches_iff_eq_or_chain :
    Reaches (fun path => ((registry.get? path).map lists).getD []) registry.paths first last ↔
      first = last ∨ registry.Chain lists first last := by
  rw [reaches_iff_exists_path]
  simp only [mem_listed_iff]
  constructor
  · rintro ⟨n, path, hfirst, hlast, hsteps⟩
    cases n with
    | zero => exact Or.inl (hfirst.symm.trans hlast)
    | succ n => exact Or.inr ⟨n + 1, by omega, path, hfirst, hlast, hsteps⟩
  · intro h
    rcases h with rfl | ⟨n, -, path, hpath⟩
    · exact ⟨0, fun _ => first, rfl, rfl, by simp⟩
    · exact ⟨n, path, hpath⟩

/-- A candidate may be given for a declared type just if the two are the same, a chain of
implementations leads from the candidate to the declared type, or a chain of permissions leads from
the declared type to the candidate. -/
theorem isAssignable_iff_chain (registry : Registry) (candidate declared : String) :
    registry.isAssignable candidate declared = true ↔
      candidate = declared ∨ registry.Chain (·.implements) candidate declared ∨
        registry.Chain (·.permits) declared candidate := by
  have himplements : Reaches registry.implementsOf registry.paths candidate declared ↔
      candidate = declared ∨ registry.Chain (·.implements) candidate declared :=
    reaches_iff_eq_or_chain
  have hpermits : Reaches registry.permitsOf registry.paths declared candidate ↔
      declared = candidate ∨ registry.Chain (·.permits) declared candidate :=
    reaches_iff_eq_or_chain
  rw [isAssignable_iff, himplements, hpermits, @eq_comm _ declared candidate,
    ← or_or_distrib_left]

end Host.Registry

end SchemaCoverage
