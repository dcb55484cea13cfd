import SchemaCoverage.Host.TypeRef.Parser
import Mathlib.Data.List.TakeWhile
/-!
Spellings of host type references. A reference is a row of tokens: its paths, angle brackets and
commas. A text spells the reference if it has these tokens with any blanks around them; the form
that is printed is one such text.
-/
namespace SchemaCoverage.Host.TypeRef

/-- Segment characters and `::` pairs in any order. -/
inductive IsRun : List Char → Prop
  | nil : IsRun []
  | word {c : Char} {rest : List Char} : isWordChar c = true → IsRun rest → IsRun (c :: rest)
  | pair {rest : List Char} : IsRun rest → IsRun (':' :: ':' :: rest)

/-- A path has some character, and no `::` at either end. -/
structure IsPath (path : List Char) : Prop where
  run : IsRun path
  nonempty : path ≠ []
  front : ¬[':', ':'] <+: path
  back : ¬[':', ':'] <:+ path

/-- All paths in the reference are paths indeed, and none is one of the names with a meaning of its
own. -/
inductive WellFormed : TypeRef → Prop
  | unnamed : WellFormed .unnamed
  | list {element : TypeRef} : WellFormed element → WellFormed (.list element)
  | optional {value : TypeRef} : WellFormed value → WellFormed (.optional value)
  | named {path : String} {generics : List TypeRef} : IsPath path.toList →
      path ∉ ["_", "Vec", "Option"] → (∀ generic ∈ generics, WellFormed generic) →
      WellFormed (.named path generics)

mutual

/-- The tokens of a reference, in order. -/
def tokens : TypeRef → List (List Char)
  | .unnamed => [['_']]
  | .list element => "Vec".toList :: ['<'] :: (tokens element ++ [['>']])
  | .optional value => "Option".toList :: ['<'] :: (tokens value ++ [['>']])
  | .named path [] => [path.toList]
  | .named path (first :: others) =>
      path.toList :: ['<'] :: (tokens first ++ moreTokens others ++ [['>']])

/-- The tokens of the type arguments after the first. -/
def moreTokens : List TypeRef → List (List Char)
  | [] => []
  | next :: others => [','] :: (tokens next ++ moreTokens others)

end

/-- The tokens of type arguments in their angle brackets, if there are any. -/
def genericTokens : List TypeRef → List (List Char)
  | [] => []
  | first :: others => ['<'] :: (tokens first ++ moreTokens others ++ [['>']])

/-- The text has the tokens in order, with any blanks before, between and after them. -/
inductive Spaced : List (List Char) → List Char → Prop
  | nil {gap : List Char} : (∀ c ∈ gap, Text.isBlank c = true) → Spaced [] gap
  | cons {gap token rest : List Char} {tokens : List (List Char)} :
      (∀ c ∈ gap, Text.isBlank c = true) → Spaced tokens rest →
      Spaced (token :: tokens) (gap ++ token ++ rest)

theorem tokens_named (path : String) (generics : List TypeRef) :
    (TypeRef.named path generics).tokens = path.toList :: genericTokens generics := by
  cases generics <;> simp [tokens, genericTokens]

section Spaced

variable {token gap text : List Char} {tokens : List (List Char)}

/-- A token may be put before a text at once. -/
theorem Spaced.cons_append (h : Spaced tokens text) (token : List Char) :
    Spaced (token :: tokens) (token ++ text) := by
  have hgap : ∀ c ∈ ([] : List Char), Text.isBlank c = true := by simp
  exact .cons hgap h

/-- Blanks may be put before a text. -/
theorem Spaced.append_left (hgap : ∀ c ∈ gap, Text.isBlank c = true) (h : Spaced tokens text) :
    Spaced tokens (gap ++ text) := by
  cases h with
  | nil hrest =>
      apply Spaced.nil
      intro c hc
      exact (List.mem_append.1 hc).elim (hgap c) (hrest c)
  | @cons inner token rest tokens hinner hrest =>
      rw [← List.append_assoc, ← List.append_assoc]
      apply Spaced.cons _ hrest
      intro c hc
      exact (List.mem_append.1 hc).elim (hgap c) (hinner c)

theorem Spaced.of_dropBlank (h : Spaced tokens (text.dropWhile Text.isBlank)) :
    Spaced tokens text := by
  rw [← List.takeWhile_append_dropWhile (p := Text.isBlank) (l := text)]
  exact h.append_left fun c hc => List.mem_takeWhile_imp hc

/-- Without the blanks in front the text is blank no more, if nothing is left to read. -/
theorem Spaced.dropBlank_nil (h : Spaced [] text) : text.dropWhile Text.isBlank = [] := by
  cases h with
  | nil hgap => exact List.dropWhile_eq_nil_iff.2 hgap

/-- Without the blanks in front the text begins with the first token, if that is not blank. -/
theorem Spaced.dropBlank_cons (h : Spaced (token :: tokens) text)
    (htoken : ∃ c rest, token = c :: rest ∧ Text.isBlank c = false) :
    ∃ rest, text.dropWhile Text.isBlank = token ++ rest ∧ Spaced tokens rest := by
  obtain ⟨c, tail, rfl, hblank⟩ := htoken
  cases h with
  | @cons gap _ rest _ hgap hrest =>
      refine ⟨rest, ?_, hrest⟩
      rw [List.append_assoc, List.dropWhile_append_of_pos hgap, List.cons_append,
        List.dropWhile_cons_of_neg (by simp [hblank])]

end Spaced

mutual

/-- What is printed for a reference spells it, whatever comes behind. -/
theorem spaced_chars (ref : TypeRef) {more : List (List Char)} {rest : List Char}
    (h : Spaced more rest) : Spaced (ref.tokens ++ more) (ref.chars ++ rest) := by
  cases ref with
  | unnamed => simpa [tokens] using h.cons_append ['_']
  | list element =>
      have hinner := spaced_chars element (h.cons_append ['>'])
      simpa [tokens] using (hinner.cons_append ['<']).cons_append "Vec".toList
  | optional value =>
      have hinner := spaced_chars value (h.cons_append ['>'])
      simpa [tokens] using (hinner.cons_append ['<']).cons_append "Option".toList
  | named path generics =>
      cases generics with
      | nil => simpa [tokens] using h.cons_append path.toList
      | cons first others =>
          have hinner := spaced_chars first (spaced_moreChars others (h.cons_append ['>']))
          simpa [tokens] using (hinner.cons_append ['<']).cons_append path.toList

theorem spaced_moreChars (refs : List TypeRef) {more : List (List Char)} {rest : List Char}
    (h : Spaced more rest) : Spaced (moreTokens refs ++ more) (moreChars refs ++ rest) := by
  cases refs with
  | nil => exact h
  | cons next others =>
      have hinner := spaced_chars next (spaced_moreChars others h)
      have hblank : Spaced (tokens next ++ (moreTokens others ++ more))
          ([' '] ++ (chars next ++ (moreChars others ++ rest))) :=
        hinner.append_left (List.forall_mem_singleton.2 (by decide))
      simpa [moreTokens] using hblank.cons_append [',']

end

theorem spaced_render (ref : TypeRef) : Spaced ref.tokens ref.render.toList := by
  have hend : Spaced [] [] := .nil (by simp)
  simpa [render] using spaced_chars ref hend

end SchemaCoverage.Host.TypeRef
