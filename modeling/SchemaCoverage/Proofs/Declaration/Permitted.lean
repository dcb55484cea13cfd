import SchemaCoverage.Declaration.Description
import SchemaCoverage.Proofs.Assoc
import SchemaCoverage.Proofs.Success
/-!
What a type of variants permits. The paths are those of the types that the variants wrap, taken
from the outermost reference alone. A list or an option has no path and leaves the empty one, and
a box has the path of boxes, so that a declared type inside of them is not permitted.
-/
namespace SchemaCoverage

/-- Items are changed in turn just if each of them can be. -/
theorem mapM_eq_some_iff {α β : Type} {change : α → Option β} {items : List α} {results : List β} :
    items.mapM change = some results ↔ items.map change = results.map some := by
  induction items generalizing results with
  | nil => cases results <;> simp
  | cons item items ih =>
      cases results with
      | nil => simp [List.mapM_cons, Option.bind_eq_some_iff]
      | cons result results =>
          simp [List.mapM_cons, Option.bind_eq_some_iff, ← ih]

namespace Declaration

open Host

/-- The containers that can be described, with the number of type arguments that they take. -/
def containers : List (String × Nat) :=
  [("Vec", 1), ("Option", 1), ("Box", 1), ("Rc", 1), ("Arc", 1), ("Result", 2)]

namespace Shape

variable {scope : Assoc String String} {path : String} {shape : Shape} {ref : TypeRef}

/-- The type is built from the declared type of a path by references, slices and containers. -/
inductive BuiltFrom (scope : Assoc String String) (path : String) : Shape → Prop
  | declared {segments : List String} : scope.find? ("::".intercalate segments) = some path →
      BuiltFrom scope path (.named segments [])
  | reference {target : Shape} :
      BuiltFrom scope path target → BuiltFrom scope path (.reference target)
  | slice {element : Shape} :
      BuiltFrom scope path element → BuiltFrom scope path (.slice element)
  | container {segments : List String} {name : String} {first : Shape} {others : List Shape} :
      segments.getLast? = some name → (name, (first :: others).length) ∈ containers →
      BuiltFrom scope path first → BuiltFrom scope path (.named segments (first :: others))

/-- The type behind references. -/
def target : Shape → Shape
  | .reference inner => inner.target
  | shape => shape

/-- References stand for what they refer to. -/
theorem describe_target (scope : Assoc String String) (shape : Shape) :
    shape.target.describe scope = shape.describe scope := by
  fun_induction target shape with
  | case1 inner ih => rw [ih, describe]
  | case2 => rfl

theorem describedPath?_target (scope : Assoc String String) (shape : Shape) :
    shape.target.describedPath? scope = shape.describedPath? scope := by
  rw [describedPath?, describedPath?, describe_target]

theorem target_ne_reference {inner : Shape} (shape : Shape) : shape.target ≠ .reference inner := by
  fun_induction target shape with
  | case1 _ ih => exact ih
  | case2 shape hshape => exact hshape inner

/-- A container leaves no path or its own name. -/
theorem containerRef?_cases {name : String} {count : Nat} {inner : TypeRef}
    (h : containerRef? name count inner = some ref) :
    ref.path? = none ∨ ∃ container ∈ containers, ref.path? = some container.1 := by
  unfold containerRef? at h
  split at h
  all_goals cases h
  · exact Or.inl rfl
  · exact Or.inl rfl
  · exact Or.inr ⟨("Box", 1), by decide, rfl⟩
  · exact Or.inr ⟨("Rc", 1), by decide, rfl⟩
  · exact Or.inr ⟨("Arc", 1), by decide, rfl⟩
  · exact Or.inr ⟨("Result", 2), by decide, rfl⟩

/-- The path of a type, references apart, is that of its name, or it is empty or the name of a
container. -/
theorem describedPath?_cases (h : shape.describedPath? scope = some path) :
    (∃ segments, shape.target = .named segments []) ∨ path = "" ∨ ∃ container ∈ containers,
      path = container.1 := by
  rw [← describedPath?_target] at h
  obtain ⟨ref, hdescribe, hpath⟩ := Option.map_eq_some_iff.1 h
  cases hshape : shape.target with
  | reference inner => exact absurd hshape (target_ne_reference shape)
  | slice element =>
      rw [hshape, describe] at hdescribe
      obtain ⟨inner, -, rfl⟩ := Option.map_eq_some_iff.1 hdescribe
      exact Or.inr (Or.inl hpath.symm)
  | other =>
      rw [hshape, describe] at hdescribe
      cases hdescribe
  | named segments arguments =>
      cases arguments with
      | nil => exact Or.inl ⟨segments, rfl⟩
      | cons first others =>
          rw [hshape, describe] at hdescribe
          · obtain ⟨inner, -, hcontainer⟩ := Option.bind_eq_some_iff.1 hdescribe
            rcases containerRef?_cases hcontainer with hnone | ⟨container, hmem, hsome⟩
            · rw [hnone] at hpath
              exact Or.inr (Or.inl hpath.symm)
            · rw [hsome] at hpath
              exact Or.inr (Or.inr ⟨container, hmem, hpath.symm⟩)
          · simp

/-- A type without arguments that is built from a declared type is that type. -/
theorem BuiltFrom.describedPath?_eq {segments : List String} (h : BuiltFrom scope path shape)
    (hname : shape.target = .named segments []) : shape.describedPath? scope = some path := by
  induction h with
  | declared hfind => simp [describedPath?, describe, hfind, TypeRef.path?]
  | reference _ ih => rw [← describedPath?_target, target, describedPath?_target, ih hname]
  | slice => cases hname
  | container => cases hname

end Shape

namespace Outline

variable {outline : Outline} {item : Item} {module : String} {scope : Assoc String String}
  {variants : List VariantContent} {type : TypeExpr} {host : HostType} {path : String}

theorem mem_of_wrappedTypes {types : List TypeExpr} (h : wrappedTypes variants = .ok types) :
    type ∈ types ↔ .values [type] ∈ variants := by
  fun_induction wrappedTypes variants generalizing types with
  | case1 =>
      cases h
      simp
  | case2 others ih => simpa using ih h
  | case3 wrapped others ih =>
      obtain ⟨rest, hrest, rfl⟩ := exceptMap_eq_ok_iff.1 h
      simp [ih hrest]
  | case4 => cases h

/-- The outline permits what the variants wrap. -/
theorem mem_permits_iff (hcontent : item.content = .choice variants)
    (haccepted : ofItem item = .ok outline) :
    type ∈ outline.permits ↔ .values [type] ∈ variants := by
  unfold ofItem at haccepted
  split at haccepted
  · cases haccepted
  obtain ⟨entries, -, haccepted⟩ := bind_eq_ok_iff.1 haccepted
  obtain ⟨⟨kind, members, permits⟩, hparts, haccepted⟩ := bind_eq_ok_iff.1 haccepted
  rw [hcontent] at hparts
  obtain ⟨types, htypes, hpermits⟩ := exceptMap_eq_ok_iff.1 hparts
  cases hpermits
  cases haccepted
  exact mem_of_wrappedTypes htypes

theorem permits_foldl_withMember (members : List (String × TypeRef)) (type : HostType) :
    (members.foldl (fun type (name, ref) => type.withMember name ref) type).permits =
      type.permits := by
  induction members generalizing type with
  | nil => rfl
  | cons member members ih => exact ih _

theorem permits_foldl_permitting (paths : List String) (type : HostType) :
    (paths.foldl HostType.permitting type).permits = paths.foldl Assoc.addNew type.permits := by
  induction paths generalizing type with
  | nil => rfl
  | cons path paths ih => exact ih _

theorem permits_foldl_implementing (paths : List String) (type : HostType) :
    (paths.foldl HostType.implementing type).permits = type.permits := by
  induction paths generalizing type with
  | nil => rfl
  | cons path paths ih => exact ih _

/-- The permitted types of a described outline have paths, which are permitted once each. -/
theorem exists_paths_of_hostType? (h : outline.hostType? module scope = some host) :
    ∃ paths : List String, outline.permits.map (·.shape.describedPath? scope) = paths.map some ∧
      host.permits = paths.foldl Assoc.addNew [] := by
  unfold hostType? at h
  obtain ⟨members, -, h⟩ := Option.bind_eq_some_iff.1 h
  obtain ⟨extra, -, h⟩ := Option.bind_eq_some_iff.1 h
  obtain ⟨paths, hpaths, h⟩ := Option.bind_eq_some_iff.1 h
  obtain ⟨implements, -, h⟩ := Option.bind_eq_some_iff.1 h
  cases h
  refine ⟨paths, mapM_eq_some_iff.1 hpaths, ?_⟩
  rw [permits_foldl_implementing, permits_foldl_permitting, permits_foldl_withMember]
  rfl

theorem mem_permits_hostType?_iff (h : outline.hostType? module scope = some host) :
    path ∈ host.permits ↔
      ∃ type ∈ outline.permits, type.shape.describedPath? scope = some path := by
  obtain ⟨paths, hpaths, hpermits⟩ := exists_paths_of_hostType? h
  have hmem : path ∈ paths ↔ some path ∈ outline.permits.map (·.shape.describedPath? scope) := by
    simp [hpaths]
  rw [hpermits, Assoc.mem_foldl_addNew, hmem, List.mem_map]
  simp

theorem exists_describedPath? (h : outline.hostType? module scope = some host)
    (htype : type ∈ outline.permits) : ∃ path, type.shape.describedPath? scope = some path := by
  obtain ⟨paths, hpaths, -⟩ := exists_paths_of_hostType? h
  have hmem := List.mem_map_of_mem (f := (·.shape.describedPath? scope)) htype
  rw [hpaths] at hmem
  obtain ⟨path, -, hpath⟩ := List.mem_map.1 hmem
  exact ⟨path, hpath.symm⟩

end Outline

section Permits

variable {outline : Outline} {item : Item} {module : String} {scope : Assoc String String}
  {variants : List VariantContent} {host : HostType}

/-- The path is that of a declared type that some variant wraps, and it is neither empty nor the
name of a container. -/
structure IsWrapped (scope : Assoc String String) (variants : List VariantContent)
    (path : String) : Prop where
  declared : ∃ type, .values [type] ∈ variants ∧ type.shape.BuiltFrom scope path
  nonempty : path ≠ ""
  contains : ∀ container ∈ containers, path ≠ container.1

/-- The host type permits all declared types that the variants wrap, and nothing else. -/
structure PermitsWrapped (scope : Assoc String String) (variants : List VariantContent)
    (host : HostType) : Prop where
  all : ∀ type path, .values [type] ∈ variants → type.shape.BuiltFrom scope path →
    path ∈ host.permits
  only : ∀ path ∈ host.permits, IsWrapped scope variants path

/-- The described type of some variants permits what these wrap just if each of them wraps, behind
references at most, a type without arguments, whose path is that of a declared type that some
variant wraps. -/
theorem permitsWrapped_iff (hcontent : item.content = .choice variants)
    (haccepted : Outline.ofItem item = .ok outline)
    (hdescribed : outline.hostType? module scope = some host) :
    PermitsWrapped scope variants host ↔ ∀ type, .values [type] ∈ variants →
      ∃ segments path, type.shape.target = .named segments [] ∧
        type.shape.describedPath? scope = some path ∧ IsWrapped scope variants path := by
  have hpermits (path : String) : path ∈ host.permits ↔
      ∃ type, .values [type] ∈ variants ∧ type.shape.describedPath? scope = some path := by
    simp only [Outline.mem_permits_hostType?_iff hdescribed,
      Outline.mem_permits_iff hcontent haccepted]
  constructor
  · intro h type htype
    have hmem := (Outline.mem_permits_iff hcontent haccepted).2 htype
    obtain ⟨path, hpath⟩ := Outline.exists_describedPath? hdescribed hmem
    have hwrapped := h.only path ((hpermits path).2 ⟨type, htype, hpath⟩)
    rcases Shape.describedPath?_cases hpath with
      ⟨segments, hname⟩ | hempty | ⟨container, hmem, hsame⟩
    · exact ⟨segments, path, hname, hpath, hwrapped⟩
    · exact absurd hempty hwrapped.nonempty
    · exact absurd hsame (hwrapped.contains container hmem)
  · intro h
    constructor
    · intro type path htype hbuilt
      obtain ⟨_, _, hname, -⟩ := h type htype
      exact (hpermits path).2 ⟨type, htype, hbuilt.describedPath?_eq hname⟩
    · intro path hmem
      obtain ⟨type, htype, hpath⟩ := (hpermits path).1 hmem
      obtain ⟨_, other, -, hother, hwrapped⟩ := h type htype
      obtain rfl : other = path := Option.some.inj (hother.symm.trans hpath)
      exact hwrapped

/-- The paths that the names below stand for. -/
def garageScope : Assoc String String :=
  [("Car", "garage::Car"), ("two::Bike", "garage::two::Bike")]

/-- The types `&Car` and `two::Bike`. -/
def fleetTypes : List TypeExpr :=
  [⟨["&", "Car"], .reference (.named ["Car"] []), .other⟩,
    ⟨["two", "::", "Bike"], .named ["two", "Bike"] [], .path⟩]

/-- The declaration `enum Fleet { Lent(&Car), Own(two::Bike), Lost }`. -/
def fleetItem : Item :=
  ⟨[], "Fleet", false, .choice (fleetTypes.map (.values [·]) ++ [.nothing])⟩

def fleetHost : HostType :=
  ⟨"garage::Fleet", .abstract, [], [], ["garage::Car", "garage::two::Bike"]⟩

theorem fleet_permitsWrapped :
    (∃ outline, Outline.ofItem fleetItem = .ok outline ∧
        outline.hostType? "garage" garageScope = some fleetHost) ∧
      PermitsWrapped garageScope (fleetTypes.map (.values [·]) ++ [.nothing]) fleetHost := by
  have hdescribed : ∃ outline, Outline.ofItem fleetItem = .ok outline ∧
      outline.hostType? "garage" garageScope = some fleetHost := ⟨_, rfl, rfl⟩
  obtain ⟨outline, haccepted, hhost⟩ := hdescribed
  refine ⟨⟨outline, haccepted, hhost⟩, (permitsWrapped_iff rfl haccepted hhost).2 ?_⟩
  intro type htype
  have htype : type ∈ fleetTypes := (Outline.mem_of_wrappedTypes rfl).2 htype
  simp only [fleetTypes, List.mem_cons, List.not_mem_nil, or_false] at htype
  rcases htype with rfl | rfl
  · have hcar : (Shape.reference (.named ["Car"] [])).BuiltFrom garageScope "garage::Car" :=
      .reference (.declared rfl)
    exact ⟨["Car"], "garage::Car", rfl, rfl, ⟨_, List.mem_cons_self, hcar⟩, by decide, by decide⟩
  · have hown : .values [fleetTypes[1]] ∈
        fleetTypes.map (VariantContent.values [·]) ++ [.nothing] :=
      List.mem_cons_of_mem _ List.mem_cons_self
    have hbike : (Shape.named ["two", "Bike"] []).BuiltFrom garageScope "garage::two::Bike" :=
      .declared rfl
    exact ⟨["two", "Bike"], "garage::two::Bike", rfl, rfl, ⟨_, hown, hbike⟩, by decide, by decide⟩

/-- The types `Box<Car>` and `Vec<Car>`. -/
def lotTypes : List TypeExpr :=
  [⟨["Box", "<", "Car", ">"], .named ["Box"] [.named ["Car"] []], .name⟩,
    ⟨["Vec", "<", "Car", ">"], .named ["Vec"] [.named ["Car"] []], .name⟩]

/-- The declaration `enum Lot { Used(Box<Car>), New(Vec<Car>), Lost }`. -/
def lotItem : Item :=
  ⟨[], "Lot", false, .choice (lotTypes.map (.values [·]) ++ [.nothing])⟩

def lotHost : HostType :=
  ⟨"garage::Lot", .abstract, [], [], ["Box", ""]⟩

/-- Cars in boxes and lists are wrapped, but boxes and the empty path are what is permitted. -/
theorem lot_not_permitsWrapped :
    (∃ outline, Outline.ofItem lotItem = .ok outline ∧
        outline.hostType? "garage" garageScope = some lotHost) ∧
      ((Item.parse? "enum Lot { Used(Box<Car>), New(Vec<Car>), Lost }").bind fun item =>
        (Outline.ofItem item).toOption.bind (·.hostType? "garage" garageScope)) = some lotHost ∧
      (∀ type ∈ lotTypes, type.shape.BuiltFrom garageScope "garage::Car") ∧
      ¬PermitsWrapped garageScope (lotTypes.map (.values [·]) ++ [.nothing]) lotHost := by
  refine ⟨⟨_, rfl, rfl⟩, by decide +kernel, ?_, ?_⟩
  · rw [lotTypes, List.forall_mem_cons, List.forall_mem_singleton]
    have hcar : (Shape.named ["Car"] []).BuiltFrom garageScope "garage::Car" := .declared rfl
    exact ⟨.container rfl (by decide) hcar, .container rfl (by decide) hcar⟩
  · intro h
    exact (h.only "" (by decide)).nonempty rfl

end Permits

end Declaration

end SchemaCoverage
