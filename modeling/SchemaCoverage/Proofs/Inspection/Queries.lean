import SchemaCoverage.Inspection.Report
import SchemaCoverage.Proofs.Assoc
import Mathlib.Algebra.Ring.Nat
import Mathlib.Data.List.Perm.Basic
/-!
Queries of reports. What is grouped by type is what is filtered by each type, nothing is lost or
repeated in the groups, and a report is empty just if nothing stands in the groups of its text.
-/
namespace SchemaCoverage.Inspection

open Schema

/-- The names are those that occur in a list, each once, in the order in which they occur first. -/
structure FirstOccurrences {α : Type} [DecidableEq α] (names all : List α) : Prop where
  mem_iff : ∀ name, name ∈ names ↔ name ∈ all
  nodup : names.Nodup
  in_order : names.Pairwise fun name later => all.idxOf name < all.idxOf later

theorem firstOccurrences_eraseDups {α : Type} [DecidableEq α] (all : List α) :
    FirstOccurrences all.eraseDups all where
  mem_iff := fun _ => List.mem_eraseDups
  nodup := Assoc.eraseDups_nodup all
  in_order := Assoc.pairwise_idxOf_eraseDups all

/-- What stands in the groups of a report's text. -/
structure Printed where
  fields : List String
  registrations : List String
  arguments : List String
  skipped : List String
deriving Repr, DecidableEq

/-- The text with some groups. -/
def Printed.text (printed : Printed) : String :=
  "GraphQL schema inspection:\n\tUnmapped fields: " ++ Report.braced printed.fields ++
    "\n\tUnmapped registrations: " ++ Report.braced printed.registrations ++
    "\n\tUnmapped arguments: " ++ Report.braced printed.arguments ++
    "\n\tSkipped types: " ++ Report.bracketed printed.skipped

namespace Report

/-- The groups of a report's text. -/
def printed (report : Report) : Printed where
  fields := report.unmappedFieldsByType.map fun (type, names) => type ++ "=" ++ bracketed names
  registrations := report.unmappedRegistrations.map fun unmapped =>
    unmapped.coordinate.render ++ "=" ++ unmapped.method
  arguments := report.unmappedArgumentsByField.map fun (coordinate, names) =>
    coordinate.render ++ "=" ++ bracketed names
  skipped := report.skippedNames

theorem render_eq_text (report : Report) : report.render = report.printed.text :=
  rfl

section Groups

variable {α κ ν : Type} [DecidableEq κ] (key : α → κ) (value : α → ν)

theorem groupBy_concat (items : List α) (item : α) :
    groupBy key value (items ++ [item]) =
      (groupBy key value items).update (key item) [] (· ++ [value item]) := by
  rw [groupBy, List.foldl_append]
  rfl

theorem keys_groupBy (items : List α) :
    (groupBy key value items).keys = (items.map key).eraseDups := by
  induction items using List.reverseRecOn with
  | nil => rfl
  | append_singleton items item ih =>
      rw [groupBy_concat, Assoc.keys_update, ih, List.map_append, List.map_singleton,
        Assoc.eraseDups_concat]
      rfl

/-- A key has the values of its items, and it has an entry if there are any. -/
theorem find?_groupBy (items : List α) (k : κ) :
    (groupBy key value items).find? k =
      if items.filter (key · == k) = [] then none
      else some ((items.filter (key · == k)).map value) := by
  induction items using List.reverseRecOn with
  | nil => rfl
  | append_singleton items item ih =>
      rw [groupBy_concat, Assoc.find?_update, List.filter_append]
      by_cases hkey : key item = k
      · subst hkey
        rw [ih]
        by_cases hnone : items.filter (key · == key item) = [] <;> simp [hnone]
      · simp [hkey, ih]

/-- All of the groups, in the order in which their keys occur first. -/
theorem groupBy_eq (items : List α) :
    groupBy key value items = (items.map key).eraseDups.map fun k =>
      (k, (items.filter (key · == k)).map value) := by
  have hdistinct : (groupBy key value items).keys.Nodup := by
    rw [keys_groupBy]
    exact Assoc.eraseDups_nodup _
  have hfind : ∀ k ∈ (groupBy key value items).keys,
      (groupBy key value items).find? k = some ((items.filter (key · == k)).map value) := by
    intro k hk
    rw [keys_groupBy] at hk
    obtain ⟨item, hitem, rfl⟩ := List.mem_map.1 (List.mem_eraseDups.1 hk)
    have hsome : items.filter (key · == key item) ≠ [] :=
      List.ne_nil_of_mem (List.mem_filter.2 ⟨hitem, beq_self_eq_true _⟩)
    rw [find?_groupBy, if_neg hsome]
  rw [← keys_groupBy key value]
  exact Assoc.eq_map_keys hdistinct hfind

theorem groupBy_eq_nil_iff {items : List α} : groupBy key value items = [] ↔ items = [] := by
  rw [groupBy_eq, List.map_eq_nil_iff, Assoc.eraseDups_eq_nil_iff, List.map_eq_nil_iff]

/-- The groups of some keys have the items of these keys. -/
theorem flatMap_filter_perm {keys : List κ} (hkeys : keys.Nodup) (items : List α) :
    (keys.flatMap fun k => items.filter (key · == k)).Perm (items.filter (key · ∈ keys)) := by
  induction keys with
  | nil => simp
  | cons k keys ih =>
      obtain ⟨hnew, hrest⟩ := List.nodup_cons.1 hkeys
      have hfirst : (items.filter (key · ∈ k :: keys)).filter (key · == k) =
          items.filter (key · == k) := by
        rw [List.filter_filter]
        exact List.filter_congr fun item _ => by by_cases hk : key item = k <;> simp [hk]
      have hothers : (items.filter (key · ∈ k :: keys)).filter (fun item => !(key item == k)) =
          items.filter (key · ∈ keys) := by
        rw [List.filter_filter]
        exact List.filter_congr fun item _ => by by_cases hk : key item = k <;> simp [hk, hnew]
      rw [List.flatMap_cons]
      refine ((ih hrest).append_left _).trans ?_
      rw [← hfirst, ← hothers]
      exact List.filter_append_perm _ _

/-- Each item is in the group of its key. -/
theorem flatMap_filter_eraseDups_perm (items : List α) :
    ((items.map key).eraseDups.flatMap fun k => items.filter (key · == k)).Perm items := by
  have hall : items.filter (key · ∈ (items.map key).eraseDups) = items := by
    rw [List.filter_eq_self]
    intro item hitem
    simpa using ⟨item, hitem, rfl⟩
  have hperm := flatMap_filter_perm key (Assoc.eraseDups_nodup (items.map key)) items
  rwa [hall] at hperm

end Groups

variable (report : Report)

theorem skippedNames_eq : report.skippedNames = (report.skipped.map (·.type)).eraseDups :=
  Assoc.foldl_addNew_nil _

theorem skippedNames_eq_nil_iff : report.skippedNames = [] ↔ report.skipped = [] := by
  rw [skippedNames_eq, Assoc.eraseDups_eq_nil_iff, List.map_eq_nil_iff]

theorem mem_skippedNames_iff {type : String} :
    type ∈ report.skippedNames ↔ report.skippedFor type ≠ [] := by
  rw [skippedNames_eq, List.mem_eraseDups, List.mem_map, skippedFor, Ne, List.filter_eq_nil_iff]
  simp

theorem flatMap_skippedFor_perm :
    (report.skippedNames.flatMap report.skippedFor).Perm report.skipped := by
  rw [skippedNames_eq]
  exact flatMap_filter_eraseDups_perm SkippedType.type report.skipped

theorem find?_unmappedFieldsByType (type : String) :
    report.unmappedFieldsByType.find? type =
      if report.unmappedFieldsFor type = [] then none
      else some (report.unmappedFieldsFor type) := by
  rw [unmappedFieldsByType, find?_groupBy]
  simp only [unmappedFieldsFor, List.map_eq_nil_iff]

theorem flatMap_unmappedFieldsByType_perm :
    (report.unmappedFieldsByType.flatMap fun (type, fields) =>
      fields.map (Coordinate.mk type)).Perm report.unmappedFields := by
  have hgroup (type : String) :
      ((report.unmappedFields.filter (·.type == type)).map (·.field)).map (Coordinate.mk type) =
        report.unmappedFields.filter (·.type == type) := by
    have hsame : ∀ coordinate ∈ report.unmappedFields.filter (·.type == type),
        (Coordinate.mk type ∘ Coordinate.field) coordinate = id coordinate := by
      intro coordinate hmem
      obtain rfl := eq_of_beq (List.mem_filter.1 hmem).2
      rfl
    rw [List.map_map, List.map_congr_left hsame, List.map_id]
  rw [unmappedFieldsByType, groupBy_eq, List.flatMap_map]
  simp only [hgroup]
  exact flatMap_filter_eraseDups_perm Coordinate.type report.unmappedFields

theorem isEmpty_iff_printed : report.isEmpty = true ↔ report.printed = ⟨[], [], [], []⟩ := by
  simp only [isEmpty, Bool.and_eq_true, List.isEmpty_iff, printed, unmappedFieldsByType,
    unmappedArgumentsByField, Printed.mk.injEq, List.map_eq_nil_iff, groupBy_eq_nil_iff,
    skippedNames_eq_nil_iff]
  tauto

/-- Queries of a report agree. The unmapped fields of a type are those under its name among all
groups, the groups rearrange all unmapped fields and their sizes add up to the number of these. The
skipped names are the types that have skips, whose skips together rearrange all of them. Types stand
in the order in which they occur first. The report is empty just if all groups of its text are. -/
theorem queries_agree (report : Report) :
    (∀ type, report.unmappedFieldsByType.find? type =
      if report.unmappedFieldsFor type = [] then none
      else some (report.unmappedFieldsFor type)) ∧
    FirstOccurrences report.unmappedFieldsByType.keys (report.unmappedFields.map (·.type)) ∧
    (report.unmappedFieldsByType.flatMap fun (type, fields) =>
      fields.map (Coordinate.mk type)).Perm report.unmappedFields ∧
    (report.unmappedFieldsByType.map fun (_, fields) => fields.length).sum =
      report.unmappedFields.length ∧
    FirstOccurrences report.skippedNames (report.skipped.map (·.type)) ∧
    (∀ type, type ∈ report.skippedNames ↔ report.skippedFor type ≠ []) ∧
    (report.skippedNames.flatMap report.skippedFor).Perm report.skipped ∧
    report.render = report.printed.text ∧
    (report.isEmpty = true ↔ report.printed = ⟨[], [], [], []⟩) := by
  have hperm := report.flatMap_unmappedFieldsByType_perm
  refine ⟨report.find?_unmappedFieldsByType, ?_, hperm, ?_, ?_, fun _ => report.mem_skippedNames_iff,
    report.flatMap_skippedFor_perm, report.render_eq_text, report.isEmpty_iff_printed⟩
  · rw [unmappedFieldsByType, keys_groupBy]
    exact firstOccurrences_eraseDups _
  · rw [← hperm.length_eq, List.length_flatMap]
    simp only [List.length_map]
  · rw [skippedNames_eq]
    exact firstOccurrences_eraseDups _

end Report

end SchemaCoverage.Inspection
