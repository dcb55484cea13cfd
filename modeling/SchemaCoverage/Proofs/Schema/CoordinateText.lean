import SchemaCoverage.Proofs.Text.Cut
import SchemaCoverage.Schema.Coordinate
import Mathlib.Data.String.Basic
import Mathlib.Order.Compare
/-!
Coordinates and their texts. Reading accepts the texts with one dot inside and nothing else, and what
is read writes back as the same text, so that coordinates may be told apart by their texts.
-/
namespace SchemaCoverage.Schema

/-- The text has one dot, and at least one character on each side of it. -/
def HasOneDotInside (text : String) : Prop :=
  text.toList.count '.' = 1 ∧ ∃ before after : String, text = before ++ "." ++ after ∧
    before ≠ "" ∧ after ≠ ""

namespace Coordinate

/-- Both names of the coordinate have characters, and none of them is a dot. -/
structure Plain (coordinate : Coordinate) : Prop where
  type_ne : coordinate.type ≠ ""
  field_ne : coordinate.field ≠ ""
  type_dotless : '.' ∉ coordinate.type.toList
  field_dotless : '.' ∉ coordinate.field.toList

variable {text : String} {coordinate a b c : Coordinate}

theorem toList_render (coordinate : Coordinate) :
    coordinate.render.toList = coordinate.type.toList ++ '.' :: coordinate.field.toList := by
  simp [render]

theorem Plain.parse?_render (h : coordinate.Plain) :
    parse? coordinate.render = some coordinate := by
  simp [parse?, toList_render, Text.takeWhile_append_cons h.type_dotless,
    Text.dropWhile_append_cons h.type_dotless, h.type_ne, h.field_ne, h.field_dotless]

/-- What is read is the plain coordinate whose written form the text is. -/
theorem parse?_eq_some_iff :
    parse? text = some coordinate ↔ coordinate.Plain ∧ coordinate.render = text := by
  constructor
  · intro h
    have htype := Text.not_mem_takeWhile '.' text.toList
    unfold parse? at h
    cases hrest : text.toList.dropWhile (· != '.') with
    | nil => simp [hrest] at h
    | cons c field =>
        obtain ⟨-, hsplit⟩ := Text.eq_append_of_dropWhile_eq_cons hrest
        simp only [hrest, Option.ite_none_left_eq_some, Option.some.injEq] at h
        obtain ⟨hplain, rfl⟩ := h
        simp only [List.isEmpty_iff, Bool.or_eq_true, decide_eq_true_eq, not_or] at hplain
        obtain ⟨⟨htypeNe, hfieldNe⟩, hfield⟩ := hplain
        refine ⟨⟨?_, ?_, ?_, ?_⟩, ?_⟩
        · simpa using htypeNe
        · simpa using hfieldNe
        · simpa using htype
        · simpa using hfield
        · rw [← String.toList_inj, toList_render, String.toList_ofList, String.toList_ofList, ← hsplit]
  · rintro ⟨hplain, rfl⟩
    exact hplain.parse?_render

theorem hasOneDotInside_iff :
    HasOneDotInside text ↔ ∃ coordinate : Coordinate, coordinate.Plain ∧ coordinate.render = text := by
  constructor
  · rintro ⟨hcount, before, after, rfl, hbefore, hafter⟩
    have hdotless : '.' ∉ before.toList ∧ '.' ∉ after.toList := by
      simp only [String.toList_append, List.count_append] at hcount
      have hdot : ".".toList.count '.' = 1 := by decide
      constructor <;> apply List.not_mem_of_count_eq_zero <;> omega
    exact ⟨⟨before, after⟩, ⟨hbefore, hafter, hdotless.1, hdotless.2⟩, rfl⟩
  · rintro ⟨coordinate, hplain, rfl⟩
    refine ⟨?_, coordinate.type, coordinate.field, rfl, hplain.type_ne, hplain.field_ne⟩
    rw [toList_render, List.count_append, List.count_cons_self,
      List.count_eq_zero_of_not_mem hplain.type_dotless,
      List.count_eq_zero_of_not_mem hplain.field_dotless]

theorem Plain.render_inj (ha : a.Plain) (hb : b.Plain) : a.render = b.render ↔ a = b := by
  constructor
  · intro h
    have hread := ha.parse?_render
    rw [h, hb.parse?_render] at hread
    exact (Option.some.inj hread).symm
  · rintro rfl
    rfl

instance : Std.TransCmp compare :=
  inferInstanceAs (Std.TransCmp (compareLex (compareOn Coordinate.type) (compareOn Coordinate.field)))

theorem compare_eq_lt_iff :
    compare a b = .lt ↔ a.type < b.type ∨ a.type = b.type ∧ a.field < b.field := by
  have htype : compareOfLessAndEq a.type b.type = Ord.compare a.type b.type := rfl
  have hfield : compareOfLessAndEq a.field b.field = Ord.compare a.field b.field := rfl
  rw [compare, Ordering.then_eq_lt, htype, hfield, compare_lt_iff_lt, compare_eq_iff_eq,
    compare_lt_iff_lt]

theorem compare_eq_eq_iff : compare a b = .eq ↔ a = b := by
  have htype : compareOfLessAndEq a.type b.type = Ord.compare a.type b.type := rfl
  have hfield : compareOfLessAndEq a.field b.field = Ord.compare a.field b.field := rfl
  rw [compare, Ordering.then_eq_eq, htype, hfield, compare_eq_iff_eq, compare_eq_iff_eq]
  cases a
  cases b
  simp

/-- Coordinates are told by their texts. Just the texts with one dot inside are read, and back come the
same texts; a coordinate whose names are words without a dot is read from its text. Coordinates are in
a total order, by type and then by field, in which only equal ones are level. -/
theorem text_tells_coordinate :
    (∀ text, (∃ coordinate, parse? text = some coordinate) ↔ HasOneDotInside text) ∧
    (∀ text coordinate, parse? text = some coordinate → coordinate.render = text) ∧
    (∀ type field : String, type ≠ "" → field ≠ "" → '.' ∉ type.toList → '.' ∉ field.toList →
      parse? (render ⟨type, field⟩) = some ⟨type, field⟩) ∧
    (∀ text text' a b, parse? text = some a → parse? text' = some b → (a = b ↔ text = text')) ∧
    (∀ a b, compare a b = .eq ↔ a = b) ∧
    (∀ a b, compare a b = (compare b a).swap) ∧
    (∀ a b c, compare a b ≠ .gt → compare b c ≠ .gt → compare a c ≠ .gt) ∧
    ∀ a b, compare a b = .lt ↔ a.type < b.type ∨ a.type = b.type ∧ a.field < b.field := by
  refine ⟨?_, ?_, ?_, ?_, fun a b => compare_eq_eq_iff, fun a b => Std.OrientedCmp.eq_swap, ?_,
    fun a b => compare_eq_lt_iff⟩
  · intro text
    simp only [parse?_eq_some_iff]
    exact hasOneDotInside_iff.symm
  · intro text coordinate h
    exact (parse?_eq_some_iff.1 h).2
  · intro type field htype hfield htypeDotless hfieldDotless
    exact Plain.parse?_render ⟨htype, hfield, htypeDotless, hfieldDotless⟩
  · intro text text' a b ha hb
    obtain ⟨haPlain, rfl⟩ := parse?_eq_some_iff.1 ha
    obtain ⟨hbPlain, rfl⟩ := parse?_eq_some_iff.1 hb
    exact (haPlain.render_inj hbPlain).symm
  · intro a b c hab hbc
    have hle := Std.TransCmp.isLE_trans (Ordering.isLE_iff_ne_gt.2 hab) (Ordering.isLE_iff_ne_gt.2 hbc)
    exact Ordering.isLE_iff_ne_gt.1 hle

/-- A field with letters of several bytes. -/
def streetSize : Coordinate :=
  ⟨"Straße", "größe"⟩

/-- Another spelling of the field, which comes before it. -/
def streetSizeSpelled : Coordinate :=
  ⟨"Straße", "groesse"⟩

theorem streetSize_told :
    streetSize.render = "Straße.größe" ∧ parse? streetSize.render = some streetSize ∧
      (streetSize = streetSizeSpelled ↔ "Straße.größe" = "Straße.groesse") ∧
      compare streetSizeSpelled streetSize ≠ .gt := by
  obtain ⟨-, hback, hread, htold, -, -, htrans, -⟩ := text_tells_coordinate
  have hsize : parse? "Straße.größe" = some streetSize := by decide
  have hspelled : parse? "Straße.groesse" = some streetSizeSpelled := by decide
  refine ⟨hback _ _ hsize, ?_, htold _ _ _ _ hsize hspelled, ?_⟩
  · exact hread "Straße" "größe" (by decide) (by decide) (by decide) (by decide)
  · exact htrans streetSizeSpelled ⟨"Straße", "grosse"⟩ streetSize (by decide) (by decide)

end Coordinate

end SchemaCoverage.Schema
