import SchemaCoverage.Proofs.Host.Assignable
/-!
Assignability as an order on paths. Every path may be given for itself, and two steps of one kind
make a step of that kind. Where one step goes by what types implement and the other by what they
permit, neither search follows both, so that what is given at the first need not be given at the
last.
-/
namespace SchemaCoverage

universe u

variable {α : Type u} {next : α → List α} {expanded : List α} {a b c : α}

theorem Reaches.trans (hab : Reaches next expanded a b) (hbc : Reaches next expanded b c) :
    Reaches next expanded a c := by
  induction hbc with
  | refl => exact hab
  | step _ hmem hsuccessor ih => exact .step ih hmem hsuccessor

namespace Host.Registry

variable {registry : Registry} {first middle last : String}

theorem isAssignable_self (registry : Registry) (path : String) :
    registry.isAssignable path path = true :=
  isAssignable_iff.2 (Or.inl .refl)

/-- What a chain of implementations leads to may be replaced by what it comes from. -/
theorem isAssignable_of_implements (h : registry.Chain (·.implements) first last) :
    registry.isAssignable first last = true :=
  isAssignable_iff.2 (Or.inl (reaches_iff_eq_or_chain.2 (Or.inr h)))

/-- What a chain of permissions comes from may be replaced by what it leads to. -/
theorem isAssignable_of_permits (h : registry.Chain (·.permits) last first) :
    registry.isAssignable first last = true :=
  isAssignable_iff.2 (Or.inr (reaches_iff_eq_or_chain.2 (Or.inr h)))

/-- Two steps of different kinds: the first path implements a middle one that the last permits, or
it is permitted by a middle one that implements the last. -/
def Mixed (registry : Registry) (first middle last : String) : Prop :=
  registry.Chain (·.implements) first middle ∧ registry.Chain (·.permits) last middle ∨
    registry.Chain (·.permits) middle first ∧ registry.Chain (·.implements) middle last

theorem Mixed.isAssignable_both (h : registry.Mixed first middle last) :
    registry.isAssignable first middle = true ∧ registry.isAssignable middle last = true := by
  rcases h with ⟨himplements, hpermits⟩ | ⟨hpermits, himplements⟩
  · exact ⟨isAssignable_of_implements himplements, isAssignable_of_permits hpermits⟩
  · exact ⟨isAssignable_of_permits hpermits, isAssignable_of_implements himplements⟩

/-- Two steps are of different kinds, or they make one step. -/
theorem mixed_or_isAssignable (hfirst : registry.isAssignable first middle = true)
    (hlast : registry.isAssignable middle last = true) :
    registry.Mixed first middle last ∨ registry.isAssignable first last = true := by
  rcases isAssignable_iff.1 hfirst with himplements | hpermits
  · rcases isAssignable_iff.1 hlast with himplements' | hpermits'
    · exact Or.inr (isAssignable_iff.2 (Or.inl (himplements.trans himplements')))
    · rcases reaches_iff_eq_or_chain.1 himplements with rfl | himplements
      · exact Or.inr hlast
      · rcases reaches_iff_eq_or_chain.1 hpermits' with rfl | hpermits'
        · exact Or.inr hfirst
        · exact Or.inl (Or.inl ⟨himplements, hpermits'⟩)
  · rcases isAssignable_iff.1 hlast with himplements' | hpermits'
    · rcases reaches_iff_eq_or_chain.1 hpermits with rfl | hpermits
      · exact Or.inr hlast
      · rcases reaches_iff_eq_or_chain.1 himplements' with rfl | himplements'
        · exact Or.inr hfirst
        · exact Or.inl (Or.inr ⟨hpermits, himplements'⟩)
    · exact Or.inr (isAssignable_iff.2 (Or.inr (hpermits'.trans hpermits)))

/-- Assignability is reflexive. It is transitive just in the registries where the ends of any two
steps of different kinds are assignable by a chain of one kind. -/
theorem isAssignable_preorder_iff (registry : Registry) :
    (∀ path, registry.isAssignable path path = true) ∧
      ((∀ first middle last, registry.isAssignable first middle = true →
          registry.isAssignable middle last = true → registry.isAssignable first last = true) ↔
        ∀ first middle last, registry.Mixed first middle last →
          registry.isAssignable first last = true) := by
  refine ⟨isAssignable_self registry, ?_, ?_⟩
  · intro htrans first middle last hmixed
    obtain ⟨hfirst, hlast⟩ := hmixed.isAssignable_both
    exact htrans first middle last hfirst hlast
  · intro hbridged first middle last hfirst hlast
    rcases mixed_or_isAssignable hfirst hlast with hmixed | hassignable
    · exact hbridged first middle last hmixed
    · exact hassignable

/-- A sealed type that permits cars and is an asset itself. -/
def sealedFleet : Registry :=
  ⟨[⟨"garage::Asset", .abstract, [], [], []⟩,
    ⟨"garage::Vehicle", .abstract, [], ["garage::Asset"], ["garage::Car"]⟩,
    ⟨"garage::Car", .concrete, [], [], []⟩]⟩

/-- Cars may be given for vehicles and vehicles for assets, but not cars for assets. -/
theorem sealedFleet_not_transitive :
    ofTypes sealedFleet.types = .ok sealedFleet ∧
      sealedFleet.isAssignable "garage::Car" "garage::Vehicle" = true ∧
      sealedFleet.isAssignable "garage::Vehicle" "garage::Asset" = true ∧
      sealedFleet.isAssignable "garage::Car" "garage::Asset" = false :=
  ⟨by rfl, by cbv, by cbv, by cbv⟩

end Host.Registry

end SchemaCoverage
