import SchemaCoverage.Proofs.Inspection.Settled
import SchemaCoverage.Proofs.Search
import Mathlib.Data.Option.Basic
/-!
Inspections that agree. Where look-ups of types, host types and methods agree, two walks come to the
same pairs by name and record the same events, in whatever order; and what a report says depends on
the set of its events alone.
-/
namespace SchemaCoverage

section Rel

variable {α β : Type} {r : α → β → Prop} {a : Option α} {b : Option β}

theorem optionRel_symm {s : β → α → Prop} (hrs : ∀ x y, r x y → s y x) (h : Option.Rel r a b) :
    Option.Rel s b a := by
  cases h with
  | some hab => exact .some (hrs _ _ hab)
  | none => exact .none

theorem optionRel_mono {s : α → β → Prop} (hrs : ∀ x y, r x y → s x y) (h : Option.Rel r a b) :
    Option.Rel s a b := by
  cases h with
  | some hab => exact .some (hrs _ _ hab)
  | none => exact .none

theorem exists_of_optionRel {x : α} (h : Option.Rel r a b) (ha : a = some x) :
    ∃ y, b = some y ∧ r x y := by
  subst ha
  cases h with
  | some hab => exact ⟨_, rfl, hab⟩

theorem eq_none_of_optionRel (h : Option.Rel r a b) (ha : a = none) : b = none := by
  subst ha
  cases h with
  | none => rfl

theorem isSome_eq_of_optionRel (h : Option.Rel r a b) : a.isSome = b.isSome := by
  cases h <;> rfl

end Rel

namespace Schema

/-- The type without the places where it is written. -/
def FieldType.unplaced : FieldType → FieldType
  | .named name nullable _ => .named name nullable .builtin
  | .list inner nullable _ => .list inner.unplaced nullable .builtin

theorem FieldType.innermost_unplaced (type : FieldType) :
    type.unplaced.innermost = type.innermost := by
  induction type with
  | named => rfl
  | list inner _ _ ih => exact ih

/-- The field without the places where it and its types are written. -/
def Field.unplaced (field : Field) : Field :=
  { field with
    type := field.type.unplaced
    arguments := field.arguments.map (Prod.map id FieldType.unplaced)
    location := .builtin }

namespace Field

variable {field field' : Field}

theorem name_eq (h : field.unplaced = field'.unplaced) : field.name = field'.name := by
  have hname : field.unplaced.name = field'.unplaced.name := congrArg name h
  exact hname

theorem coordinate_eq (h : field.unplaced = field'.unplaced) :
    field.coordinate = field'.coordinate := by
  have hcoordinate : field.unplaced.coordinate = field'.unplaced.coordinate :=
    congrArg coordinate h
  exact hcoordinate

theorem innermost_eq (h : field.unplaced = field'.unplaced) :
    field.type.innermost = field'.type.innermost := by
  have htype := congrArg (fun field => field.type.innermost) h
  simpa [unplaced, FieldType.innermost_unplaced] using htype

theorem argumentNames_eq (h : field.unplaced = field'.unplaced) :
    field.arguments.keys = field'.arguments.keys := by
  have hkeys := congrArg (fun field => field.arguments.keys) h
  simpa [unplaced, Assoc.keys, Function.comp_def] using hkeys

end Field

/-- Two types say the same in whatever order: their fields agree but for places, and so do the names
of their members. -/
structure GraphType.Agrees (type type' : GraphType) : Prop where
  name : type.name = type'.name
  kind : type.kind = type'.kind
  fields : ∀ field, field ∈ type.fields.map Field.unplaced ↔
    field ∈ type'.fields.map Field.unplaced
  members : ∀ name, name ∈ type.members.map (·.name) ↔ name ∈ type'.members.map (·.name)

namespace GraphType.Agrees

variable {type type' : GraphType}

theorem symm (h : type.Agrees type') : type'.Agrees type :=
  ⟨h.name.symm, h.kind.symm, fun field => (h.fields field).symm, fun name => (h.members name).symm⟩

theorem exists_field (h : type.Agrees type') {field : Field} (hfield : field ∈ type.fields) :
    ∃ field' ∈ type'.fields, field.unplaced = field'.unplaced := by
  obtain ⟨field', hfield', heq⟩ :=
    List.mem_map.1 ((h.fields field.unplaced).1 (List.mem_map_of_mem hfield))
  exact ⟨field', hfield', heq.symm⟩

theorem isPolymorphic_eq (h : type.Agrees type') : type.isPolymorphic = type'.isPolymorphic := by
  rw [isPolymorphic, isPolymorphic, h.kind]

theorem isLeaf_eq (h : type.Agrees type') : type.isLeaf = type'.isLeaf := by
  rw [isLeaf, isLeaf, h.kind]

end GraphType.Agrees

/-- Look-ups of types and fields, implementations and root types agree. -/
structure Graph.Agrees (graph graph' : Graph) : Prop where
  types : ∀ name, Option.Rel GraphType.Agrees (graph.type? name) (graph'.type? name)
  fields : ∀ coordinate, Option.Rel (fun field field' => field.unplaced = field'.unplaced)
    (graph.field? coordinate) (graph'.field? coordinate)
  implementations : ∀ interface name, name ∈ graph.implementations interface ↔
    name ∈ graph'.implementations interface
  roots : ∀ operation, graph.rootName? operation = graph'.rootName? operation

namespace Graph.Agrees

variable {graph graph' : Graph}

theorem symm (h : graph.Agrees graph') : graph'.Agrees graph where
  types name := optionRel_symm (fun _ _ hagrees => hagrees.symm) (h.types name)
  fields coordinate := optionRel_symm (fun _ _ heq => heq.symm) (h.fields coordinate)
  implementations interface name := (h.implementations interface name).symm
  roots operation := (h.roots operation).symm

theorem exists_type (h : graph.Agrees graph') {name : String} {type : GraphType}
    (hfind : graph.type? name = some type) :
    ∃ type', graph'.type? name = some type' ∧ type.Agrees type' :=
  exists_of_optionRel (h.types name) hfind

theorem hasType_eq (h : graph.Agrees graph') : graph.hasType = graph'.hasType := by
  funext name
  exact isSome_eq_of_optionRel (h.types name)

theorem mem_possibleTypes (h : graph.Agrees graph') {type name : String}
    (hname : name ∈ graph.possibleTypes type) : name ∈ graph'.possibleTypes type := by
  unfold possibleTypes at hname
  cases hfind : graph.type? type with
  | none => simp [hfind] at hname
  | some found =>
      obtain ⟨found', hfind', hagrees⟩ := h.exists_type hfind
      simp only [hfind] at hname
      simp only [possibleTypes, hfind', ← hagrees.kind]
      cases hkind : found.kind with
      | union =>
          simp only [hkind] at hname
          exact (hagrees.members name).1 hname
      | interface =>
          simp only [hkind] at hname
          exact (h.implementations type name).1 hname
      | _ => simpa [hkind] using hname

end Graph.Agrees

end Schema

namespace Host

/-- Two host types say the same, whatever the order of their members and of what they implement. -/
structure HostType.Agrees (host host' : HostType) : Prop where
  path : host.path = host'.path
  kind : host.kind = host'.kind
  permits : host.permits = host'.permits
  members : ∀ name, host.member? name = host'.member? name
  implements : ∀ path, path ∈ host.implements ↔ path ∈ host'.implements

theorem HostType.Agrees.symm {host host' : HostType} (h : host.Agrees host') :
    host'.Agrees host :=
  ⟨h.path.symm, h.kind.symm, h.permits.symm, fun name => (h.members name).symm,
    fun path => (h.implements path).symm⟩

theorem HostType.Agrees.isAbstract_eq {host host' : HostType} (h : host.Agrees host') :
    host.isAbstract = host'.isAbstract := by
  rw [isAbstract, isAbstract, h.kind]

/-- The host types that are registered under a path agree. -/
def Registry.Agrees (registry registry' : Registry) : Prop :=
  ∀ path, Option.Rel HostType.Agrees (registry.get? path) (registry'.get? path)

namespace Registry.Agrees

variable {registry registry' : Registry}

theorem symm (h : registry.Agrees registry') : registry'.Agrees registry :=
  fun path => optionRel_symm (fun _ _ hagrees => hagrees.symm) (h path)

theorem exists_host (h : registry.Agrees registry') {path : String} {host : HostType}
    (hget : registry.get? path = some host) :
    ∃ host', registry'.get? path = some host' ∧ host.Agrees host' :=
  exists_of_optionRel (h path) hget

theorem contains_eq (h : registry.Agrees registry') : registry.contains = registry'.contains := by
  funext path
  exact isSome_eq_of_optionRel (h path)

theorem mem_paths (h : registry.Agrees registry') {path : String} (hpath : path ∈ registry.paths) :
    path ∈ registry'.paths := by
  rw [← contains_iff] at hpath ⊢
  rwa [← h.contains_eq]

theorem mem_implementsOf (h : registry.Agrees registry') {path other : String}
    (hother : other ∈ registry.implementsOf path) : other ∈ registry'.implementsOf path := by
  unfold implementsOf at hother
  cases hget : registry.get? path with
  | none => simp [hget] at hother
  | some host =>
      obtain ⟨host', hget', hagrees⟩ := h.exists_host hget
      simp only [hget, Option.map_some, Option.getD_some] at hother
      simpa [implementsOf, hget'] using (hagrees.implements other).1 hother

theorem mem_permitsOf (h : registry.Agrees registry') {path other : String}
    (hother : other ∈ registry.permitsOf path) : other ∈ registry'.permitsOf path := by
  unfold permitsOf at hother
  cases hget : registry.get? path with
  | none => simp [hget] at hother
  | some host =>
      obtain ⟨host', hget', hagrees⟩ := h.exists_host hget
      simp only [hget, Option.map_some, Option.getD_some] at hother
      simpa [permitsOf, hget', hagrees.permits] using hother

theorem isAssignable (h : registry.Agrees registry') {candidate declared : String}
    (hassignable : registry.isAssignable candidate declared = true) :
    registry'.isAssignable candidate declared = true := by
  rw [isAssignable_iff] at hassignable ⊢
  apply hassignable.imp
  · exact Reaches.mono (fun _ => h.mem_paths) fun _ _ => h.mem_implementsOf
  · exact Reaches.mono (fun _ => h.mem_paths) fun _ _ => h.mem_permitsOf

theorem isAssignable_eq (h : registry.Agrees registry') :
    registry.isAssignable = registry'.isAssignable := by
  funext candidate declared
  rw [Bool.eq_iff_iff]
  exact ⟨h.isAssignable, h.symm.isAssignable⟩

end Registry.Agrees

end Host

namespace Inspection

open Schema Host

/-- Two settings agree in all that an inspection looks up. -/
structure Setting.Agrees (setting setting' : Setting) : Prop where
  graph : setting.graph.Agrees setting'.graph
  registry : setting.registry.Agrees setting'.registry
  methods : ∀ coordinate method, (coordinate, method) ∈ setting.methods ↔
    (coordinate, method) ∈ setting'.methods
  found : ∀ coordinate, setting.methods.find? coordinate = setting'.methods.find? coordinate
  policy : setting.policy = setting'.policy
  wrappers : setting.wrappers = setting'.wrappers
  candidates : ∀ type declared declared', declared.Agrees declared' →
    setting.candidatePaths type declared = setting'.candidatePaths type declared'

namespace Setting

variable {setting setting' : Setting}

theorem Agrees.symm (h : setting.Agrees setting') : setting'.Agrees setting where
  graph := h.graph.symm
  registry := h.registry.symm
  methods coordinate method := (h.methods coordinate method).symm
  found coordinate := (h.found coordinate).symm
  policy := h.policy.symm
  wrappers := h.wrappers.symm
  candidates type _ _ hagrees := (h.candidates type _ _ hagrees.symm).symm

/-- The paths of the candidates are those that are registered among the paths that are found. -/
theorem paths_candidates (type : String) (declared : HostType) :
    (setting.candidates type declared).map (·.path) =
      (setting.candidatePaths type declared).filter setting.registry.contains := by
  unfold candidates
  induction setting.candidatePaths type declared with
  | nil => rfl
  | cons path paths ih =>
      cases hget : setting.registry.get? path with
      | none => simpa [Registry.contains, hget] using ih
      | some host => simpa [Registry.contains, hget, Registry.path_of_get? hget] using ih

/-- The paths of the active host types are found among those of the candidates. -/
theorem paths_activeHosts (type : String) (declared : HostType) (direct : Bool) :
    (setting.activeHosts type declared direct).map (·.path) =
      if declared.isAbstract then
        ((setting.candidates type declared).map (·.path)).filter
          (setting.registry.isAssignable · declared.path)
      else if direct || ((setting.candidates type declared).map (·.path)).any (· == declared.path)
        then [declared.path] else [] := by
  unfold activeHosts
  split
  · rw [List.filter_map]
    rfl
  · rw [List.any_map]
    split
    · next hactive => rw [if_pos (by simpa using hactive)]; rfl
    · next hactive => rw [if_neg (by simpa using hactive)]; rfl

section Agrees

variable (h : setting.Agrees setting')

include h

theorem Agrees.registered?_eq {field field' : Field} (hfield : field.unplaced = field'.unplaced) :
    setting.registered? field = setting'.registered? field' := by
  rw [registered?, registered?, h.found, Field.coordinate_eq hfield]

theorem Agrees.serving?_eq {field field' : Field} {host host' : HostType}
    (hfield : field.unplaced = field'.unplaced) (hhost : host.Agrees host') :
    setting.serving? host field = setting'.serving? host' field' := by
  rw [serving?, serving?, h.registered?_eq hfield, hhost.members, Field.name_eq hfield]

theorem Agrees.exists_declares {element : TypeRef} {declared : HostType}
    (hdeclares : setting.Declares element declared) :
    ∃ declared', setting'.Declares element declared' ∧ declared.Agrees declared' := by
  obtain ⟨path, hpath, hget⟩ := hdeclares
  obtain ⟨declared', hget', hagrees⟩ := h.registry.exists_host hget
  exact ⟨declared', ⟨path, hpath, hget'⟩, hagrees⟩

theorem Agrees.declaredHost_error {element : TypeRef} {reason : SkipReason}
    (herror : setting.declaredHost element = .error reason) :
    setting'.declaredHost element = .error reason := by
  rw [declaredHost_eq_error_iff] at herror ⊢
  apply herror.imp_right
  rintro ⟨path, hpath, hget, hreason⟩
  exact ⟨path, hpath, eq_none_of_optionRel (h.registry path) hget, hreason⟩

theorem Agrees.exists_possible {type type' member : GraphType} (htype : type.name = type'.name)
    (hpossible : setting.Possible type member) :
    ∃ member', setting'.Possible type' member' ∧ member.Agrees member' := by
  obtain ⟨hname, hfind, hkind⟩ := hpossible
  obtain ⟨member', hfind', hagrees⟩ := h.graph.exists_type hfind
  refine ⟨member', ⟨?_, ?_, ?_⟩, hagrees⟩
  · rw [← htype, ← hagrees.name]
    exact h.graph.mem_possibleTypes hname
  · rwa [← hagrees.name]
  · rwa [← hagrees.kind]

theorem Agrees.paths_candidates_eq {declared declared' : HostType}
    (hdeclared : declared.Agrees declared') (type : String) :
    (setting.candidates type declared).map (·.path) =
      (setting'.candidates type declared').map (·.path) := by
  rw [paths_candidates, paths_candidates, h.candidates type _ _ hdeclared, h.registry.contains_eq]

theorem Agrees.paths_activeHosts_eq {declared declared' : HostType}
    (hdeclared : declared.Agrees declared') (type : String) (direct : Bool) :
    (setting.activeHosts type declared direct).map (·.path) =
      (setting'.activeHosts type declared' direct).map (·.path) := by
  rw [paths_activeHosts, paths_activeHosts, h.paths_candidates_eq hdeclared,
    hdeclared.isAbstract_eq, hdeclared.path, h.registry.isAssignable_eq]

theorem Agrees.exists_candidate {declared declared' host : HostType}
    (hdeclared : declared.Agrees declared') {type : String}
    (hhost : host ∈ setting.candidates type declared) :
    ∃ host' ∈ setting'.candidates type declared', host.Agrees host' := by
  obtain ⟨host', hget', hagrees⟩ := h.registry.exists_host (registered_of_mem_candidates hhost)
  refine ⟨host', ?_, hagrees⟩
  have hpath : host'.path ∈ (setting'.candidates type declared').map (·.path) := by
    rw [← h.paths_candidates_eq hdeclared, ← hagrees.path]
    exact List.mem_map_of_mem hhost
  rw [hagrees.path] at hget'
  rw [mem_candidates_iff_path hget', List.any_eq_true]
  obtain ⟨other, hother, heq⟩ := List.mem_map.1 hpath
  exact ⟨other, hother, by simpa using heq⟩

theorem Agrees.exists_target {type type' member : GraphType} {element : TypeRef} {host : HostType}
    (htype : type.Agrees type') (htarget : setting.Target type element member host) :
    ∃ member' host', setting'.Target type' element member' host' ∧ member.Agrees member' ∧
      host.Agrees host' := by
  cases htarget with
  | itself hdeclares hconcrete hkind =>
      obtain ⟨declared', hdeclares', hagrees⟩ := h.exists_declares hdeclares
      exact ⟨type', declared', .itself hdeclares' (hagrees.kind ▸ hconcrete) (htype.kind ▸ hkind),
        htype, hagrees⟩
  | assignable hdeclares habstract hpossible hcandidate hassignable =>
      obtain ⟨declared', hdeclares', hagrees⟩ := h.exists_declares hdeclares
      obtain ⟨member', hpossible', hmember⟩ := h.exists_possible htype.name hpossible
      rw [hmember.name] at hcandidate
      obtain ⟨host', hcandidate', hhost⟩ := h.exists_candidate hagrees hcandidate
      rw [h.registry.isAssignable_eq, hhost.path, hagrees.path] at hassignable
      exact ⟨member', host', .assignable hdeclares' (hagrees.kind ▸ habstract) hpossible'
        hcandidate' hassignable, hmember, hhost⟩
  | candidate hdeclares hconcrete hpolymorphic hpossible hcandidate =>
      obtain ⟨declared', hdeclares', hagrees⟩ := h.exists_declares hdeclares
      obtain ⟨member', hpossible', hmember⟩ := h.exists_possible htype.name hpossible
      rw [hmember.name] at hcandidate
      obtain ⟨host', hcandidate', hhost⟩ := h.exists_candidate hagrees hcandidate
      have hsame : host' = declared' := by
        have hget := registered_of_mem_candidates hcandidate'
        rw [← hhost.path, hagrees.path, hdeclares'.registered, Option.some.injEq] at hget
        exact hget.symm
      subst hsame
      exact ⟨member', host', .candidate hdeclares' (hagrees.kind ▸ hconcrete)
        (htype.isPolymorphic_eq ▸ hpolymorphic) hpossible' hcandidate', hmember, hhost⟩
  | interface hdeclares habstract hkind hpolicy =>
      obtain ⟨declared', hdeclares', hagrees⟩ := h.exists_declares hdeclares
      exact ⟨type', declared', .interface hdeclares' (hagrees.kind ▸ habstract)
        (htype.kind ▸ hkind) (h.policy ▸ hpolicy), htype, hagrees⟩

theorem Agrees.exists_leads {field field' : Field} (hfield : field.unplaced = field'.unplaced)
    {serving : TypeRef} {type : GraphType} {host : HostType}
    (hleads : setting.Leads field serving type host) :
    ∃ type' host', setting'.Leads field' serving type' host' ∧ type.Agrees type' ∧
      host.Agrees host' := by
  obtain ⟨returned, hreturned, htarget⟩ := hleads
  obtain ⟨returned', hreturned', hagrees⟩ := h.graph.exists_type hreturned
  rw [Field.innermost_eq hfield] at hreturned'
  rw [h.wrappers] at htarget
  obtain ⟨type', host', htarget', htype, hhost⟩ := h.exists_target hagrees htarget
  exact ⟨type', host', ⟨returned', hreturned', htarget'⟩, htype, hhost⟩

theorem Agrees.exists_root {operation : Operation} {root : GraphType}
    (hroot : (operation, root) ∈ setting.graph.roots) :
    ∃ root', (operation, root') ∈ setting'.graph.roots ∧ root.Agrees root' := by
  obtain ⟨name, hname, hfind⟩ := Graph.mem_roots_iff.1 hroot
  obtain ⟨root', hfind', hagrees⟩ := h.graph.exists_type hfind
  rw [h.graph.roots] at hname
  exact ⟨root', Graph.mem_roots_iff.2 ⟨name, hname, hfind'⟩, hagrees⟩

/-- The pairs that agree with a checked pair of the other setting form a closed set, so that each
checked pair agrees with one there. -/
theorem Agrees.exists_checked {type : GraphType} {host : HostType}
    (hpair : (type, host) ∈ setting.checkedPairs) :
    ∃ type' host', (type', host') ∈ setting'.checkedPairs ∧ type.Agrees type' ∧
      host.Agrees host' := by
  have hclosed : setting.Closed {pair | ∃ type' host', (type', host') ∈ setting'.checkedPairs ∧
      pair.1.Agrees type' ∧ pair.2.Agrees host'} := by
    constructor
    · intro operation root field ref type host hroot hfield hserving hleads
      obtain ⟨root', hroot', hagrees⟩ := h.exists_root hroot
      obtain ⟨field', hfield', hsame⟩ := hagrees.exists_field hfield
      obtain ⟨type', host', hleads', htype, hhost⟩ := h.exists_leads hsame hleads
      rw [h.registered?_eq hsame] at hserving
      exact ⟨type', host', closed_checkedPairs.root hroot' hfield' hserving hleads', htype, hhost⟩
    · rintro type host field ref next nextHost ⟨type', host', hpair', htype, hhost⟩ hfield
        hserving hleads
      obtain ⟨field', hfield', hsame⟩ := htype.exists_field hfield
      obtain ⟨next', nextHost', hleads', hnext, hnextHost⟩ := h.exists_leads hsame hleads
      rw [h.serving?_eq hsame hhost] at hserving
      exact ⟨next', nextHost', closed_checkedPairs.member hpair' hfield' hserving hleads', hnext,
        hnextHost⟩
  exact hclosed.of_reached (mem_checkedPairs.1 hpair)

end Agrees

end Setting

end Inspection

end SchemaCoverage
