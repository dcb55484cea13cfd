import SchemaCoverage.Proofs.Sdl.WrittenType
import SchemaCoverage.Schema.FieldType
/-!
Field types and the texts that they are written with. A field type keeps all of its text but the
blanks: the lists, the marks that rule out null, and the name inside. Where ruling out null is taken
for a layer of its own, as readers of the language take it, the layer says it of the name or the
list below and of nothing further in.
-/
namespace SchemaCoverage

namespace Sdl

/-- A type in layers, of which one may be that null is ruled out. -/
inductive Layered
  | name (text : String)
  | list (inner : Layered)
  | required (inner : Layered)

/-- A layer around a type, if null is ruled out. -/
def Layered.guard (inner : Layered) (required : Bool) : Layered :=
  if required then .required inner else inner

namespace TypeExpr

/-- The layers of a written type. -/
def layered : TypeExpr → Layered
  | .named name required => (Layered.name name).guard required
  | .list inner required => (Layered.list inner.layered).guard required

variable {expr : TypeExpr}

theorem not_mem_of_isName {name : List Char} {c : Char} (h : IsName name)
    (hc : isNameChar c = false) : c ∉ name := by
  intro hmem
  rw [h.all_isNameChar c hmem] at hc
  cases hc

/-- There are as many opening brackets as lists. -/
theorem count_chars (hname : IsName expr.innermost.toList) : expr.chars.count '[' = expr.depth := by
  have hbang (required : Bool) : (bang required).count '[' = 0 := by cases required <;> rfl
  induction expr with
  | named name required =>
      have hopen : '[' ∉ name.toList := not_mem_of_isName hname rfl
      simp [chars, depth, hbang, List.count_eq_zero_of_not_mem hopen]
  | list inner required ih =>
      simp [chars, depth, hbang, ih hname]

/-- Only the name has the characters of names. -/
theorem filter_chars (hname : IsName expr.innermost.toList) :
    expr.chars.filter isNameChar = expr.innermost.toList := by
  have hbang (required : Bool) : (bang required).filter isNameChar = [] := by
    cases required <;> rfl
  induction expr with
  | named name required =>
      have hkeep : name.toList.filter isNameChar = name.toList :=
        List.filter_eq_self.2 hname.all_isNameChar
      simpa [chars, innermost, hbang] using hkeep
  | list inner required ih =>
      have hopen : isNameChar '[' = false := rfl
      have hclose : isNameChar ']' = false := rfl
      simp [chars, innermost, hbang, hopen, hclose, ih hname]

/-- The text ends with a mark just if null is ruled out. -/
theorem getLast?_chars (hname : IsName expr.innermost.toList) :
    expr.chars.getLast? = some '!' ↔ expr.isRequired = true := by
  cases expr with
  | named name required =>
      rw [chars, List.getLast?_append]
      cases required with
      | true => simp [bang, isRequired]
      | false =>
          have hmark : '!' ∉ name.toList := not_mem_of_isName hname rfl
          simpa [bang, isRequired] using fun hlast => hmark (List.mem_of_getLast? hlast)
  | list inner required =>
      rw [chars, List.getLast?_append]
      cases required <;> simp [bang, isRequired]

end TypeExpr

end Sdl

namespace Schema.FieldType

open Sdl

/-- The type and all types inside of it. -/
def layers : FieldType → List FieldType
  | .named name nullable location => [.named name nullable location]
  | .list inner nullable location => .list inner nullable location :: inner.layers

/-- The type of a row of layers at a place: a layer that rules out null says so of the layer below
it, and inside of a list null is a value again. -/
def ofLayered (place : Location) (nullable : Bool) : Layered → FieldType
  | .name text => .named text nullable place
  | .list inner => .list (ofLayered place true inner) nullable place
  | .required inner => ofLayered place false inner

/-- What a field type at a place keeps of a text: all characters but blanks, the number of lists,
whether null is ruled out at the end, and the name; and each layer knows the place. -/
structure Keeps (type : FieldType) (place : Location) (text : String) : Prop where
  chars : type.render.toList = text.toList.filter (fun c => !isIgnored c)
  depth : type.depth = text.toList.count '['
  nullable : type.nullable = true ↔
    (text.toList.filter (fun c => !isIgnored c)).getLast? ≠ some '!'
  innermost : type.innermost.toList = text.toList.filter isNameChar
  places : ∀ layer ∈ type.layers, layer.location = place

variable {place : Location} {expr other : TypeExpr}

theorem ofLayered_layered (place : Location) (expr : TypeExpr) :
    ofLayered place true expr.layered = ofExpr place expr := by
  have hguard (inner : Layered) (required : Bool) :
      ofLayered place true (inner.guard required) = ofLayered place (!required) inner := by
    cases required <;> rfl
  induction expr with
  | named name required => exact hguard (.name name) required
  | list inner required ih =>
      rw [TypeExpr.layered, hguard, ofLayered, ih]
      rfl

theorem depth_ofExpr (place : Location) (expr : TypeExpr) :
    (ofExpr place expr).depth = expr.depth := by
  induction expr with
  | named => rfl
  | list inner _ ih => simp [ofExpr, FieldType.depth, TypeExpr.depth, ih]

theorem nullable_ofExpr (place : Location) (expr : TypeExpr) :
    (ofExpr place expr).nullable = !expr.isRequired := by
  cases expr <;> rfl

theorem location_of_mem_layers {layer : FieldType} (h : layer ∈ (ofExpr place expr).layers) :
    layer.location = place := by
  induction expr with
  | named name required =>
      obtain rfl := List.mem_singleton.1 h
      rfl
  | list inner required ih =>
      rcases List.mem_cons.1 h with rfl | hinner
      · rfl
      · exact ih hinner

theorem keeps_ofExpr {text : String} (h : Spaced expr.tokens text.toList) (place : Location) :
    (ofExpr place expr).Keeps place text := by
  have hname := h.isName expr.name_mem_tokens
  have htext : text.toList.filter (fun c => !isIgnored c) = expr.chars := by
    rw [h.filter_eq, expr.flatMap_chars_tokens]
  constructor
  · rw [htext, render, String.toList_ofList, chars_ofExpr]
  · rw [depth_ofExpr, ← TypeExpr.count_chars hname, ← htext, List.count_filter]
    rfl
  · rw [htext, nullable_ofExpr, Ne, TypeExpr.getLast?_chars hname]
    simp
  · rw [innermost_ofExpr, ← TypeExpr.filter_chars hname, ← htext, List.filter_filter]
    refine List.filter_congr fun c _ => ?_
    cases hc : isNameChar c with
    | false => rfl
    | true => simp [isIgnored_eq_false_of_isNameChar hc]
  · exact fun _ => location_of_mem_layers

/-- A text that writes a type is read as that type, if its brackets are within bounds. The field
type keeps the text, folding its layers comes to the same, and no other field type at the same
place is printed alike. -/
theorem ofExpr_keeps_text {text : String} (h : Spaced expr.tokens text.toList)
    (place : Location) :
    (expr.depth ≤ maxOpenBrackets → ∃ lexemes, lex text = some lexemes ∧
        Parser.typeExpr maxOpenBrackets lexemes = some (expr, [])) ∧
      ofLayered place true expr.layered = ofExpr place expr ∧
      (ofExpr place expr).Keeps place text ∧
      ∀ other otherText, Spaced other.tokens otherText →
        (ofExpr place other).render = (ofExpr place expr).render →
        ofExpr place other = ofExpr place expr := by
  refine ⟨exists_read_of_spaced h, ofLayered_layered place expr, keeps_ofExpr h place, ?_⟩
  intro other otherText hother hrender
  have hchars : other.chars = expr.chars := by
    simpa [render, String.ofList_inj] using hrender
  have hprinted := TypeExpr.spaced_chars (hother.isName other.name_mem_tokens)
  rw [hchars] at hprinted
  have hsame := eq_of_spaced hprinted (TypeExpr.spaced_chars (h.isName expr.name_mem_tokens))
  rw [hsame]

/-- The type `[[Int!]]!`. -/
def gridType : TypeExpr :=
  .list (.list (.named "Int" true) false) true

theorem gridType_spaced : Spaced gridType.tokens "[ [Int !], ] !".toList := by
  have htext : "[ [Int !], ] !".toList = [] ++ '[' :: ([' '] ++ '[' :: ([] ++ ("Int".toList ++
      ([' '] ++ '!' :: ([] ++ ']' :: ([',', ' '] ++ ']' :: ([' '] ++ '!' :: []))))))) := by
    decide
  rw [htext]
  have hname : IsName ('I' :: ['n', 't']) := .intro rfl (List.all_eq_true.1 rfl)
  have hblank : ∀ c ∈ [' '], isIgnored c = true := List.all_eq_true.1 rfl
  have hcomma : ∀ c ∈ [',', ' '], isIgnored c = true := List.all_eq_true.1 rfl
  have hend : ∀ c ∈ some ' ', isNameChar c = false := by
    rintro c ⟨⟩
    rfl
  refine .punct no_gap rfl (.punct hblank rfl (.name no_gap hname hend ?_))
  exact .punct hblank rfl (.punct no_gap rfl
    (.punct hcomma rfl (.punct hblank rfl (.nil no_gap))))

/-- The type is read from a text with blanks in it, of which its field type drops only these. -/
theorem gridType_kept :
    Spaced gridType.tokens "[ [Int !], ] !".toList ∧
      (∃ lexemes, lex "[ [Int !], ] !" = some lexemes ∧
        Parser.typeExpr maxOpenBrackets lexemes = some (gridType, [])) ∧
      (ofExpr .builtin gridType).Keeps .builtin "[ [Int !], ] !" ∧
      (ofExpr .builtin gridType).render = "[[Int!]]!" := by
  obtain ⟨hread, -, hkeeps, -⟩ := ofExpr_keeps_text gridType_spaced .builtin
  exact ⟨gridType_spaced, hread (by decide), hkeeps, by decide⟩

end Schema.FieldType

end SchemaCoverage
