import SchemaCoverage.Host.Wrappers
import Mathlib.Logic.Relation
/-!
Looking through wrappers, one layer after the other. Lists, options and wrappers are layers, and
of the type arguments of a wrapper only the first is looked at. The element of a reference is the
one place that layers lead to and that has no layer itself. Known wrappers are layers also where
more wrappers are known, so that the rest of the way can be gone later.
-/
namespace SchemaCoverage.Host.TypeRef

variable {wrappers more : Wrappers} {ref inner core : TypeRef}

/-- One layer is taken off. A wrapper without type arguments leaves nothing that has a name. -/
inductive Peels (wrappers : Wrappers) : TypeRef → TypeRef → Prop
  | list {element : TypeRef} : Peels wrappers (.list element) element
  | optional {value : TypeRef} : Peels wrappers (.optional value) value
  | wrapper {path : String} {first : TypeRef} {others : List TypeRef} :
      simpleName path ∈ wrappers.names → Peels wrappers (.named path (first :: others)) first
  | hidden {path : String} :
      simpleName path ∈ wrappers.names → Peels wrappers (.named path []) .unnamed

/-- The reference has no layers: it is unnamed, or its path has a simple name that is no wrapper's.
-/
inductive IsBare (wrappers : Wrappers) : TypeRef → Prop
  | unnamed : IsBare wrappers .unnamed
  | named {path : String} {generics : List TypeRef} :
      simpleName path ∉ wrappers.names → IsBare wrappers (.named path generics)

theorem wraps_iff {path : String} :
    wrappers.wraps path = true ↔ simpleName path ∈ wrappers.names :=
  decide_eq_true_iff

/-- Knowing more wrappers takes no layer away. -/
theorem Peels.mono (hmore : wrappers.names ⊆ more.names) (h : Peels wrappers ref inner) :
    Peels more ref inner := by
  cases h with
  | list => exact .list
  | optional => exact .optional
  | wrapper hwrapper => exact .wrapper (hmore hwrapper)
  | hidden hwrapper => exact .hidden (hmore hwrapper)

/-- A layer does not change what is under all layers. -/
theorem Peels.element_eq (h : Peels wrappers ref inner) :
    ref.element wrappers = inner.element wrappers := by
  cases h with
  | list => rw [element]
  | optional => rw [element]
  | wrapper hwrapper => rw [element, if_pos (wraps_iff.2 hwrapper)]
  | hidden hwrapper => simp [element, wraps_iff.2 hwrapper]

theorem element_eq_of_peels (h : Relation.ReflTransGen (Peels wrappers) ref inner) :
    ref.element wrappers = inner.element wrappers := by
  induction h with
  | refl => rfl
  | tail _ hlayer ih => exact ih.trans hlayer.element_eq

theorem IsBare.element_eq (h : IsBare wrappers ref) : ref.element wrappers = ref := by
  cases h with
  | unnamed => rw [element]
  | @named path generics hname =>
      have hwraps : ¬wrappers.wraps path = true := mt wraps_iff.1 hname
      cases generics with
      | nil => rw [element, if_neg hwraps]
      | cons first others => rw [element, if_neg hwraps]

/-- Layers lead to the element, which has none. -/
theorem peels_element (wrappers : Wrappers) (ref : TypeRef) :
    Relation.ReflTransGen (Peels wrappers) ref (ref.element wrappers) ∧
      (ref.element wrappers).IsBare wrappers := by
  fun_induction element wrappers ref with
  | case1 => exact ⟨.refl, .unnamed⟩
  | case2 element ih => exact ⟨.head .list ih.1, ih.2⟩
  | case3 value ih => exact ⟨.head .optional ih.1, ih.2⟩
  | case4 path hwraps => exact ⟨.single (.hidden (wraps_iff.1 hwraps)), .unnamed⟩
  | case5 path hwraps => exact ⟨.refl, .named (mt wraps_iff.2 hwraps)⟩
  | case6 path first others hwraps ih =>
      exact ⟨.head (.wrapper (wraps_iff.1 hwraps)) ih.1, ih.2⟩
  | case7 path first others hwraps =>
      exact ⟨.refl, .named (mt wraps_iff.2 hwraps)⟩

/-- No other place that layers lead to is without layers. -/
theorem eq_element_iff : core = ref.element wrappers ↔
    Relation.ReflTransGen (Peels wrappers) ref core ∧ core.IsBare wrappers := by
  constructor
  · rintro rfl
    exact peels_element wrappers ref
  · rintro ⟨hlayers, hbare⟩
    rw [element_eq_of_peels hlayers, hbare.element_eq]

/-- The element is the one place under the layers of a reference that has no layer, and stays as
it is when it is looked through again. Looked through with more wrappers it comes to what these
lead to from the reference. -/
theorem element_is_bare_and_composes (wrappers : Wrappers) (ref : TypeRef) :
    (∀ core, core = ref.element wrappers ↔
        Relation.ReflTransGen (Peels wrappers) ref core ∧ core.IsBare wrappers) ∧
      (ref.element wrappers).element wrappers = ref.element wrappers ∧
      ∀ more : Wrappers, wrappers.names ⊆ more.names →
        (ref.element wrappers).element more = ref.element more := by
  obtain ⟨hlayers, hbare⟩ := peels_element wrappers ref
  refine ⟨fun _ => eq_element_iff, hbare.element_eq, fun more hmore => ?_⟩
  have hfurther : Peels wrappers ≤ Peels more := fun _ _ hlayer => hlayer.mono hmore
  exact (element_eq_of_peels (Relation.ReflTransGen.mono hfurther _ _ hlayers)).symm

/-- The reference `Pin<Box<Result<Vec<Option<std::sync::Arc<garage::Car>>>, E>>>`. -/
def pinnedCarsRef : TypeRef :=
  .named "Pin" [.named "Box" [.named "Result" [.list (.optional
    (.named "std::sync::Arc" [.named "garage::Car" []])), .named "E" []]]]

/-- Looked through pins and boxes first, and through the other usual wrappers then. -/
theorem pinnedCarsRef_composes :
    ["Pin", "Box"] ⊆ Wrappers.standard.names ∧
      (pinnedCarsRef.element ⟨["Pin", "Box"]⟩).element .standard =
        pinnedCarsRef.element .standard ∧
      pinnedCarsRef.element .standard = .named "garage::Car" [] := by
  have hmore : ["Pin", "Box"] ⊆ Wrappers.standard.names := by decide
  exact ⟨hmore, (element_is_bare_and_composes ⟨["Pin", "Box"]⟩ pinnedCarsRef).2.2 _ hmore, by rfl⟩

end SchemaCoverage.Host.TypeRef
