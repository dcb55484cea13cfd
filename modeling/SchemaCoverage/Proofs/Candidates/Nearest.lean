import SchemaCoverage.Candidates.TypeNames
import SchemaCoverage.Proofs.Host.Assignable
/-!
The schema type names of host types at run time. A mapping holds for all types that implement the
mapped one, in any number of steps, unless a nearer one is mapped as well. The registry may have any
shape: types may implement each other in circles, along several ways, or not be registered.
-/
namespace SchemaCoverage

namespace Host.Registry

variable {registry : Registry} {first last : String} {n : Nat}

/-- A path leads to another in a number of steps, each from a registered type to a path that it
implements. -/
inductive ImplementsIn (registry : Registry) (first : String) : Nat → String → Prop
  | refl : ImplementsIn registry first 0 first
  | step {n : Nat} {path other : String} {type : HostType} : ImplementsIn registry first n path →
      registry.get? path = some type → other ∈ type.implements →
      ImplementsIn registry first (n + 1) other

theorem implementsIn_iff : registry.ImplementsIn first n last ↔
    ReachesIn registry.implementsOf registry.paths first n last := by
  constructor
  · intro h
    induction h with
    | refl => exact .refl
    | step _ hget hother ih =>
        obtain ⟨hmem, hlisted⟩ := mem_listed_iff.2 ⟨_, hget, hother⟩
        exact .step ih hmem hlisted
  · intro h
    induction h with
    | refl => exact .refl
    | step _ hmem hlisted ih =>
        obtain ⟨type, hget, hother⟩ := mem_listed_iff.1 ⟨hmem, hlisted⟩
        exact .step ih hget hother

end Host.Registry

namespace Candidates.TypeNames

open Host

variable {names : TypeNames} {registry : Registry}

/-- A path is mapped to a name. -/
def Maps (names : TypeNames) (path : String) : Prop :=
  ∃ name, names.name? path = some name

/-- A mapped path that is reached from a first one, at a distance at which no mapped path is
nearer. -/
structure NearestMapped (names : TypeNames) (registry : Registry) (first : String) (distance : Nat)
    (path : String) : Prop where
  reached : registry.ImplementsIn first distance path
  mapped : names.Maps path
  least : ∀ n other, registry.ImplementsIn first n other → names.Maps other → distance ≤ n

theorem search_isNearest_mapped (names : TypeNames) (registry : Registry) (first : String) :
    IsNearest names.name? (registry.ImplementsIn first)
      (search registry.implementsOf names.name? registry.paths [first]) := by
  refine (search_queue_isNearest registry.paths [first]).of_away ?_ ?_
  · rintro n last ⟨start, hstart, hreaches⟩
    obtain rfl := List.mem_singleton.1 hstart
    exact Registry.implementsIn_iff.2 hreaches
  · rintro n last hreaches -
    exact ⟨n, Nat.le_refl n, first, List.mem_cons_self, Registry.implementsIn_iff.1 hreaches⟩

/-- A host type goes by the name of a mapped path that is nearest to its own, and by its simple name
if no path is mapped that it leads to. -/
theorem nameOf_nearest (names : TypeNames) (registry : Registry) (type : HostType) :
    ((∃ n path, registry.ImplementsIn type.path n path ∧ names.Maps path) →
      ∃ distance path, names.NearestMapped registry type.path distance path ∧
        names.name? path = some (names.nameOf registry type)) ∧
    ((∀ n path, registry.ImplementsIn type.path n path → ¬names.Maps path) →
      names.nameOf registry type = type.simpleName) := by
  have hnearest := search_isNearest_mapped names registry type.path
  unfold nameOf
  cases hfound : search registry.implementsOf names.name? registry.paths [type.path] with
  | none =>
      rw [hfound] at hnearest
      refine ⟨?_, fun _ => rfl⟩
      rintro ⟨n, path, hreaches, name, hname⟩
      exact absurd (hnearest n path hreaches) (by simp [hname])
  | some name =>
      rw [hfound] at hnearest
      obtain ⟨distance, path, hreaches, hname, hleast⟩ := hnearest
      constructor
      · intro _
        refine ⟨distance, path, ⟨hreaches, ⟨name, hname⟩, ?_⟩, hname⟩
        rintro n other hother ⟨_, hmapped⟩
        exact hleast n other hother (by simp [hmapped])
      · intro hnone
        exact absurd ⟨name, hname⟩ (hnone distance path hreaches)

/-- A cart that implements two types. The first leads back to it, and on to a store; the second is
not registered. -/
def cart : HostType :=
  ⟨"app::Cart", .concrete, [], ["app::Left", "app::Right"], []⟩

def cartTypes : Registry :=
  ⟨[cart, ⟨"app::Left", .abstract, [], ["app::Store", "app::Cart"], []⟩, .abstract "app::Store"]⟩

/-- The store is mapped before the nearer type that is not registered. -/
def cartNames : TypeNames :=
  (TypeNames.empty.add "app::Store" "Shop").add "app::Right" "Basket"

theorem cart_nameOf_nearest :
    (∃ distance path, cartNames.NearestMapped cartTypes cart.path distance path ∧
      cartNames.name? path = some "Basket") ∧ TypeNames.empty.nameOf cartTypes cart = "Cart" := by
  have hname : cartNames.nameOf cartTypes cart = "Basket" := by cbv
  constructor
  · have hreaches : cartTypes.ImplementsIn cart.path 1 "app::Right" :=
      .step .refl (by rfl : cartTypes.get? cart.path = some cart) (by decide)
    rw [← hname]
    exact (nameOf_nearest cartNames cartTypes cart).1 ⟨1, "app::Right", hreaches, "Basket", by rfl⟩
  · have hunmapped (n : Nat) (path : String) (_ : cartTypes.ImplementsIn cart.path n path) :
        ¬TypeNames.empty.Maps path := by
      rintro ⟨name, hmapped⟩
      cases hmapped
    rw [(nameOf_nearest TypeNames.empty cartTypes cart).2 hunmapped]
    decide

end Candidates.TypeNames

end SchemaCoverage
