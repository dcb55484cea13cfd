import SchemaCoverage.Candidates.Resolver
import SchemaCoverage.Proofs.Assoc
import SchemaCoverage.Proofs.Host.Registered
/-!
What a naming convention finds where a host type is declared: the registered types of the expected
simple name that are in the module of the declared type or are permitted by it, and no others. The
paths are split at the last `::` and put together again, which agrees on every path that can be
registered, single colons in its segments included.
-/
namespace SchemaCoverage

namespace Host

variable {path name : String} {declared : HostType}

/-- A text without colons has no separator in it. -/
theorem splitLast_eq_none {name : List Char} (hname : ':' ∉ name) : splitLast name = none := by
  cases hsplit : splitLast name with
  | none => rfl
  | some parts =>
      rw [eq_of_splitLast hsplit] at hname
      simp at hname

/-- A separator is the last one if no colon comes behind it. -/
theorem splitLast_append {before name : List Char} (hname : ':' ∉ name) :
    splitLast (before ++ ':' :: ':' :: name) = some (before, name) := by
  induction before with
  | nil =>
      have hcolon : splitLast (':' :: name) = none := by
        unfold splitLast
        rw [splitLast_eq_none hname]
        cases name with
        | nil => rfl
        | cons c name =>
            have hc : c ≠ ':' := fun h => hname (h ▸ List.mem_cons_self)
            simp [hc]
      unfold splitLast
      simp [hcolon]
  | cons c before ih =>
      rw [List.cons_append]
      unfold splitLast
      simp [ih]

/-- A valid path does not begin with a separator. -/
theorem before_ne_nil {before after : List Char} (hvalid : isValidPath path = true)
    (hsplit : splitLast path.toList = some (before, after)) : before ≠ [] := by
  rintro rfl
  rw [isValidPath, eq_of_splitLast hsplit] at hvalid
  simp [segments] at hvalid

theorem parts_of_single (hname : ':' ∉ name.toList) :
    simpleName name = name ∧ moduleOf name = "" := by
  simp [simpleName, moduleOf, splitLast_eq_none hname]

theorem parts_of_joined (before : String) (hname : ':' ∉ name.toList) :
    simpleName (before ++ "::" ++ name) = name ∧ moduleOf (before ++ "::" ++ name) = before := by
  have hsplit : splitLast (before ++ "::" ++ name).toList = some (before.toList, name.toList) := by
    simpa using splitLast_append hname
  unfold simpleName moduleOf
  rw [hsplit]
  simp

/-- Two parts of a valid path make the path, with a separator between them unless there is no
module. -/
theorem eq_joined_of_valid (hvalid : isValidPath path = true) :
    path = if (moduleOf path).isEmpty then simpleName path
      else moduleOf path ++ "::" ++ simpleName path := by
  unfold moduleOf simpleName
  cases hsplit : splitLast path.toList with
  | none => simp
  | some parts =>
      obtain ⟨before, after⟩ := parts
      have hbefore : (String.ofList before).isEmpty = false := by
        simpa using before_ne_nil hvalid hsplit
      have hjoined : path.toList = (String.ofList before ++ "::" ++ String.ofList after).toList := by
        simpa using eq_of_splitLast hsplit
      simp only [hbefore, Bool.false_eq_true, if_false]
      exact String.toList_inj.1 hjoined

/-- The sibling of a declared type is what has the expected simple name in its module. -/
theorem eq_siblingPath_iff (hvalid : isValidPath path = true) (hname : ':' ∉ name.toList) :
    path = Candidates.siblingPath declared name ↔
      simpleName path = name ∧ moduleOf path = declared.modulePath := by
  unfold Candidates.siblingPath
  constructor
  · intro h
    split at h
    · next hempty =>
        have hmodule : declared.modulePath = "" := by simpa using hempty
        rw [h, hmodule]
        exact parts_of_single hname
    · rw [h]
      exact parts_of_joined _ hname
  · rintro ⟨rfl, hmodule⟩
    rw [← hmodule]
    exact eq_joined_of_valid hvalid

end Host

namespace Candidates

open Host

variable {registry : Registry} {declared : HostType} {name path : String}

/-- What a name leads to where a host type is declared: every registered type of this simple name
that is in the module of the declared type or is permitted by it, once; the sibling of the declared
type before the others, and these in the order in which they are permitted. -/
structure FoundByName (registry : Registry) (declared : HostType) (name : String)
    (paths : List String) : Prop where
  nodup : paths.Nodup
  mem_iff : ∀ path, path ∈ paths ↔ path ∈ registry.paths ∧ simpleName path = name ∧
    (moduleOf path = declared.modulePath ∨ path ∈ declared.permits)
  sibling_first : ∀ path ∈ paths, moduleOf path = declared.modulePath → paths.head? = some path
  others_in_order : (paths.filter (moduleOf · ≠ declared.modulePath)).Sublist
    declared.permits.eraseDups

/-- The sibling of a declared type, if it is registered. -/
def siblings (registry : Registry) (declared : HostType) (name : String) : List String :=
  if registry.contains (siblingPath declared name) then [siblingPath declared name] else []

/-- The registered types of a name that a declared type permits. -/
def permitted (registry : Registry) (declared : HostType) (name : String) : List String :=
  declared.permits.filter fun path => simpleName path == name && registry.contains path

theorem byName_eq : byName registry name (some declared) =
    (permitted registry declared name).foldl Assoc.addNew (siblings registry declared name) := rfl

theorem mem_permitted_iff : path ∈ permitted registry declared name ↔
    path ∈ registry.paths ∧ simpleName path = name ∧ path ∈ declared.permits := by
  rw [permitted, List.mem_filter, Bool.and_eq_true, beq_iff_eq, Registry.contains_iff]
  exact ⟨fun ⟨hpermits, hname, hmem⟩ => ⟨hmem, hname, hpermits⟩,
    fun ⟨hmem, hname, hpermits⟩ => ⟨hpermits, hname, hmem⟩⟩

theorem mem_siblings_iff (hvalid : ∀ path ∈ registry.paths, isValidPath path = true)
    (hname : ':' ∉ name.toList) :
    path ∈ siblings registry declared name ↔ path ∈ registry.paths ∧ simpleName path = name ∧
      moduleOf path = declared.modulePath := by
  unfold siblings
  rw [← Registry.contains_iff]
  constructor
  · intro hmem
    split at hmem
    · next hcontains =>
        obtain rfl := List.mem_singleton.1 hmem
        have hregistered := Registry.contains_iff.1 hcontains
        exact ⟨hcontains, (eq_siblingPath_iff (hvalid _ hregistered) hname).1 rfl⟩
    · cases hmem
  · rintro ⟨hcontains, hparts⟩
    have hregistered := Registry.contains_iff.1 hcontains
    have hsibling := (eq_siblingPath_iff (hvalid _ hregistered) hname).2 hparts
    rw [← hsibling, if_pos hcontains]
    exact List.mem_singleton_self path

theorem siblings_eq_of_mem (hmem : path ∈ siblings registry declared name) :
    siblings registry declared name = [path] := by
  unfold siblings at hmem ⊢
  split at hmem
  · next hcontains => rw [if_pos hcontains, List.mem_singleton.1 hmem]
  · cases hmem

theorem siblings_nodup : (siblings registry declared name).Nodup := by
  unfold siblings
  split <;> simp

theorem foundByName (hvalid : ∀ path ∈ registry.paths, isValidPath path = true)
    (hname : ':' ∉ name.toList) (declared : HostType) :
    FoundByName registry declared name (byName registry name (some declared)) := by
  have hsibling (path : String) : path ∈ siblings registry declared name ↔
      path ∈ registry.paths ∧ simpleName path = name ∧ moduleOf path = declared.modulePath :=
    mem_siblings_iff hvalid hname
  have hmem (path : String) : path ∈ byName registry name (some declared) ↔
      path ∈ registry.paths ∧ simpleName path = name ∧
        (moduleOf path = declared.modulePath ∨ path ∈ declared.permits) := by
    rw [byName_eq, Assoc.mem_foldl_addNew, hsibling, mem_permitted_iff, ← and_or_left,
      ← and_or_left]
  refine ⟨Assoc.foldl_addNew_nodup siblings_nodup _, hmem, ?_, ?_⟩
  · intro path hpath hmodule
    obtain ⟨hregistered, hsimple, -⟩ := (hmem path).1 hpath
    have hfirst := siblings_eq_of_mem ((hsibling path).2 ⟨hregistered, hsimple, hmodule⟩)
    rw [byName_eq, hfirst, Assoc.foldl_addNew_eq]
    rfl
  · have hnone : (siblings registry declared name).filter
        (moduleOf · ≠ declared.modulePath) = [] := by
      rw [List.filter_eq_nil_iff]
      intro path hpath
      simp [((hsibling path).1 hpath).2.2]
    rw [byName_eq, Assoc.foldl_addNew_eq, List.filter_append, hnone, List.nil_append, permitted,
      List.filter_filter, Assoc.eraseDups_filter, List.filter_filter]
    exact List.filter_sublist

/-- A naming convention finds just the registered types of the expected simple name that are in the
module of the declared type or are permitted by it, the sibling first. -/
theorem convention_finds {types : List HostType} {registry : Registry}
    (hbuilt : Registry.ofTypes types = .ok registry) (className : String → String) (type : String)
    (hname : ':' ∉ (className type).toList) (declared : HostType) :
    ∃ paths, (Resolver.convention className).resolve registry type (some declared) = some paths ∧
      FoundByName registry declared (className type) paths :=
  ⟨_, rfl, foundByName (Registry.WellFormed.of_ofTypes hbuilt).valid hname declared⟩

/-- A sealed type in a module with a stray colon. One type is permitted twice, one is the sibling,
one is not registered and one has another name. -/
def sealedVehicle : HostType :=
  ⟨"garage:::Vehicle", .abstract, [], [],
    ["depot::Car", "garage:::Car", "depot::Car", "yard::Car", "depot::Van"]⟩

def sealedGarage : Registry :=
  ⟨[sealedVehicle, .concrete "depot::Van", .concrete "depot::Car", .concrete "Car",
    .concrete "garage:::Car"]⟩

theorem sealedGarage_finds :
    Registry.ofTypes sealedGarage.types = .ok sealedGarage ∧ ':' ∉ (id "Car").toList ∧
      (Resolver.convention id).resolve sealedGarage "Car" (some sealedVehicle) =
        some ["garage:::Car", "depot::Car"] ∧
      FoundByName sealedGarage sealedVehicle "Car" ["garage:::Car", "depot::Car"] := by
  have hbuilt : Registry.ofTypes sealedGarage.types = .ok sealedGarage := by decide +kernel
  have hname : ':' ∉ (id "Car").toList := by decide
  have hresolve : (Resolver.convention id).resolve sealedGarage "Car" (some sealedVehicle) =
      some ["garage:::Car", "depot::Car"] := by decide +kernel
  obtain ⟨paths, hpaths, hfound⟩ := convention_finds hbuilt id "Car" hname sealedVehicle
  obtain rfl := Option.some.inj (hresolve.symm.trans hpaths)
  exact ⟨hbuilt, hname, hresolve, hfound⟩

end Candidates

end SchemaCoverage
