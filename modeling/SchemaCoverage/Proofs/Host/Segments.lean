import SchemaCoverage.Host.Registry
import SchemaCoverage.Proofs.Host.Reading
import Mathlib.Data.List.Basic
/-!
Segments of the paths in what is read. Reading refuses a `::` at either end of a path and registering
refuses an empty segment anywhere. Between the two lie the paths in which one `::` follows another:
they are read and cannot be registered, and a text without such a place gives none of them.
-/
namespace SchemaCoverage.Host

/-- Two separators with nothing between them. -/
def doubled : List Char := [':', ':', ':', ':']

/-- Whatever type has the path, no registry refuses it for the path's segments. -/
def Registrable (path : String) : Prop :=
  ∀ (registry : Registry) (type : HostType), type.path = path →
    registry.register type ≠ .error (.invalidPath path)

theorem isValidPath_iff {path : String} :
    isValidPath path = true ↔ ∀ segment ∈ segments path.toList, segment ≠ [] := by
  simp [isValidPath]

theorem registrable_iff {path : String} :
    Registrable path ↔ ∀ segment ∈ segments path.toList, segment ≠ [] := by
  rw [← isValidPath_iff]
  constructor
  · intro h
    by_contra hinvalid
    exact h .empty (.concrete path) rfl (by simp [Registry.register, HostType.concrete,
      HostType.bare, hinvalid])
  · rintro hvalid registry type rfl
    unfold Registry.register
    rw [hvalid]
    simp only [Bool.not_true, Bool.false_eq_true, if_false]
    split <;> simp

namespace TypeRef

section Runs

variable {run path : List Char}

theorem isWordChar_colon : isWordChar ':' = false := by
  decide

theorem ne_colon_of_isWordChar {c : Char} (h : isWordChar c = true) : c ≠ ':' := by
  rintro rfl
  rw [isWordChar_colon] at h
  cases h

theorem not_isRun_colon : ¬IsRun [':'] := by
  intro h
  cases h with
  | word hword => exact ne_colon_of_isWordChar hword rfl

/-- The first segment of a run is empty if nothing or a separator comes first, and another is empty
if separators meet or one comes last. -/
theorem IsRun.exists_segments (h : IsRun run) :
    ∃ first others, segments run = first :: others ∧
      (first = [] ↔ run = [] ∨ [':', ':'] <+: run) ∧
      ([] ∈ others ↔ doubled <:+: run ∨ [':', ':'] <:+ run) := by
  induction h with
  | nil => exact ⟨[], [], rfl, by simp, by decide⟩
  | @word c rest hword _ ih =>
      obtain ⟨first, others, hsegments, -, hothers⟩ := ih
      have hc : ':' ≠ c := (ne_colon_of_isWordChar hword).symm
      refine ⟨c :: first, others, segments_cons (by simp [hc]) hsegments, ?_, ?_⟩
      · simp [hc]
      · rw [hothers, List.infix_cons_iff, List.suffix_cons_iff]
        simp [doubled, hc]
  | @pair rest hrest ih =>
      obtain ⟨first, others, hsegments, hfirst, hothers⟩ := ih
      refine ⟨[], first :: others, by rw [segments, hsegments], by simp, ?_⟩
      have hsingle : rest ≠ [':'] := by
        rintro rfl
        exact not_isRun_colon hrest
      have hthree : [':', ':', ':'] <+: rest → [':', ':'] <+: rest :=
        List.IsPrefix.trans ⟨[':'], rfl⟩
      rw [List.mem_cons, eq_comm, hfirst, hothers, List.infix_cons_iff, List.infix_cons_iff,
        List.suffix_cons_iff, List.suffix_cons_iff]
      simp only [doubled, List.cons_prefix_cons, true_and, List.cons.injEq, eq_comm (b := rest),
        hsingle, false_or]
      grind

/-- A path has an empty segment just where separators meet. -/
theorem IsPath.nonempty_segments_iff (h : IsPath path) :
    (∀ segment ∈ segments path, segment ≠ []) ↔ ¬doubled <:+: path := by
  obtain ⟨first, others, hsegments, hfirst, hothers⟩ := h.run.exists_segments
  have hnonempty : first ≠ [] := by
    rw [Ne, hfirst, not_or]
    exact ⟨h.nonempty, h.front⟩
  have hrest : (∀ segment ∈ others, segment ≠ []) ↔ [] ∉ others := List.forall_mem_ne'
  rw [hsegments, List.forall_mem_cons, and_iff_right hnonempty, hrest, hothers,
    or_iff_left h.back]

/-- A run that ends in a colon ends in a separator. -/
theorem IsRun.back_of_getLast? (h : IsRun run) (hlast : ':' ∈ run.getLast?) :
    [':', ':'] <:+ run := by
  induction h with
  | nil => cases hlast
  | @word c rest hword hrest ih =>
      cases rest with
      | nil =>
          obtain rfl : c = ':' := by simpa using hlast
          exact absurd rfl (ne_colon_of_isWordChar hword)
      | cons d rest =>
          rw [List.getLast?_cons_cons] at hlast
          exact (ih hlast).trans (List.suffix_cons _ _)
  | @pair rest hrest ih =>
      cases rest with
      | nil => exact List.suffix_rfl
      | cons d rest =>
          rw [List.getLast?_cons_cons, List.getLast?_cons_cons] at hlast
          exact (ih hlast).trans ((List.suffix_cons _ _).trans (List.suffix_cons _ _))

theorem IsPath.getLast?_ne_colon (h : IsPath path) : ':' ∉ path.getLast? :=
  fun hlast => h.back (h.run.back_of_getLast? hlast)

end Runs

section Texts

variable {token text : List Char} {tokens : List (List Char)}

/-- Separators do not meet across the end of a text that ends in no colon. -/
theorem doubled_infix_append_iff {front : List Char} (hfront : ':' ∉ front.getLast?)
    (back : List Char) : doubled <:+: front ++ back ↔ doubled <:+: front ∨ doubled <:+: back := by
  rw [List.infix_append_iff]
  constructor
  · rintro (hinside | hinside | ⟨left, right, hsplit, hleft, hright⟩)
    · exact Or.inl hinside
    · exact Or.inr hinside
    · right
      have hnil : left = [] := by
        by_contra hne
        obtain ⟨before, rfl⟩ := hleft
        have hcolon : left.getLast hne = ':' := by
          have hmem : left.getLast hne ∈ doubled := by
            rw [hsplit]
            exact List.mem_append_left _ (List.getLast_mem hne)
          simpa [doubled] using hmem
        apply hfront
        rw [List.getLast?_append, List.getLast?_eq_some_getLast hne, hcolon]
        rfl
      rw [hsplit, hnil]
      exact hright.isInfix
  · rintro (hinside | hinside)
    · exact Or.inl hinside
    · exact Or.inr (Or.inl hinside)

/-- What is spelled has separators that meet just if one of its tokens has, where no token ends in
a colon. -/
theorem Spaced.doubled_infix_iff (h : Spaced tokens text)
    (htokens : ∀ token ∈ tokens, ':' ∉ token.getLast?) :
    doubled <:+: text ↔ ∃ token ∈ tokens, doubled <:+: token := by
  have hblank {gap : List Char} (hgap : ∀ c ∈ gap, Text.isBlank c = true) : ':' ∉ gap := by
    intro hmem
    exact absurd (hgap ':' hmem) (by decide)
  have hclear {gap : List Char} (hgap : ':' ∉ gap) : ¬doubled <:+: gap := by
    intro hinside
    exact hgap (hinside.mem (by simp [doubled]))
  induction h with
  | nil hgap => simp [hclear (hblank hgap)]
  | @cons gap token rest tokens hgap _ ih =>
      have hcolon := hblank hgap
      rw [List.forall_mem_cons] at htokens
      have hgapEnd : ':' ∉ gap.getLast? := fun hlast => hcolon (List.mem_of_getLast? hlast)
      have hrest : doubled <:+: rest ↔ ∃ token ∈ tokens, doubled <:+: token := ih htokens.2
      rw [List.append_assoc, doubled_infix_append_iff hgapEnd, doubled_infix_append_iff htokens.1,
        hrest, List.exists_mem_cons_iff, or_iff_right (hclear hcolon)]

end Texts

/-- A reference mentions the paths of the named references in it, at any depth. -/
inductive Mentions : TypeRef → String → Prop
  | named {path : String} {generics : List TypeRef} : Mentions (.named path generics) path
  | generic {path other : String} {generic : TypeRef} {generics : List TypeRef} :
      generic ∈ generics → Mentions generic other → Mentions (.named path generics) other
  | list {element : TypeRef} {path : String} : Mentions element path → Mentions (.list element) path
  | optional {value : TypeRef} {path : String} : Mentions value path →
      Mentions (.optional value) path

/-- The tokens with a meaning of their own. -/
def reservedTokens : List (List Char) :=
  [['_'], "Vec".toList, "Option".toList, ['<'], ['>'], [',']]

section Mentions

variable {ref : TypeRef} {refs : List TypeRef} {path : String} {token : List Char}

theorem mem_moreTokens_iff :
    token ∈ moreTokens refs ↔ ∃ ref ∈ refs, token = [','] ∨ token ∈ ref.tokens := by
  induction refs with
  | nil => simp [moreTokens]
  | cons ref refs ih =>
      rw [moreTokens, List.mem_cons, List.mem_append, ih, List.exists_mem_cons_iff, or_assoc]

/-- Type arguments have the tokens of each of them, and some marks. -/
theorem mem_genericTokens (h : token ∈ genericTokens refs) :
    token ∈ reservedTokens ∨ ∃ ref ∈ refs, token ∈ ref.tokens := by
  cases refs with
  | nil => cases h
  | cons first others =>
      simp only [genericTokens, List.mem_cons, List.mem_append, List.not_mem_nil, or_false,
        mem_moreTokens_iff] at h
      rcases h with rfl | (hfirst | ⟨ref, href, rfl | htoken⟩) | rfl
      · exact Or.inl (by decide)
      · exact Or.inr ⟨first, List.mem_cons_self, hfirst⟩
      · exact Or.inl (by decide)
      · exact Or.inr ⟨ref, List.mem_cons_of_mem _ href, htoken⟩
      · exact Or.inl (by decide)

theorem mem_genericTokens_of_mem (href : ref ∈ refs) (htoken : token ∈ ref.tokens) :
    token ∈ genericTokens refs := by
  cases refs with
  | nil => cases href
  | cons first others =>
      simp only [genericTokens, List.mem_cons, List.mem_append, mem_moreTokens_iff]
      right; left
      rcases List.mem_cons.1 href with rfl | href
      · exact Or.inl htoken
      · exact Or.inr ⟨ref, href, Or.inr htoken⟩

/-- The tokens of a well formed reference are reserved, or they are paths that it mentions. -/
theorem WellFormed.mem_tokens (h : ref.WellFormed) (htoken : token ∈ ref.tokens) :
    token ∈ reservedTokens ∨ ∃ path, ref.Mentions path ∧ IsPath path.toList ∧ token = path.toList := by
  induction h with
  | unnamed =>
      left
      simp only [tokens, List.mem_singleton] at htoken
      simp [htoken, reservedTokens]
  | list _ ih =>
      simp only [tokens, List.mem_cons, List.mem_append, List.not_mem_nil, or_false] at htoken
      rcases htoken with rfl | rfl | hinner | rfl
      · exact Or.inl (by decide)
      · exact Or.inl (by decide)
      · exact (ih hinner).imp_right fun ⟨path, hmentions, hpath⟩ => ⟨path, .list hmentions, hpath⟩
      · exact Or.inl (by decide)
  | optional _ ih =>
      simp only [tokens, List.mem_cons, List.mem_append, List.not_mem_nil, or_false] at htoken
      rcases htoken with rfl | rfl | hinner | rfl
      · exact Or.inl (by decide)
      · exact Or.inl (by decide)
      · exact (ih hinner).imp_right fun ⟨path, hmentions, hpath⟩ => ⟨path, .optional hmentions, hpath⟩
      · exact Or.inl (by decide)
  | @named path generics hpath _ _ ih =>
      rw [tokens_named, List.mem_cons] at htoken
      rcases htoken with rfl | hgeneric
      · exact Or.inr ⟨path, .named, hpath, rfl⟩
      · rcases mem_genericTokens hgeneric with hreserved | ⟨generic, hmem, hinner⟩
        · exact Or.inl hreserved
        · exact (ih generic hmem hinner).imp_right fun ⟨other, hmentions, hother⟩ =>
            ⟨other, .generic hmem hmentions, hother⟩

theorem Mentions.mem_tokens (h : ref.Mentions path) : path.toList ∈ ref.tokens := by
  induction h with
  | named => simp [tokens_named]
  | generic hmem _ ih =>
      rw [tokens_named]
      exact List.mem_cons_of_mem _ (mem_genericTokens_of_mem hmem ih)
  | list _ ih => simp [tokens, ih]
  | optional _ ih => simp [tokens, ih]

/-- All paths that a well formed reference mentions are paths indeed. -/
theorem WellFormed.isPath_of_mentions (h : ref.WellFormed) (hmentions : ref.Mentions path) :
    IsPath path.toList := by
  induction hmentions with
  | named => cases h with | named hpath _ _ => exact hpath
  | generic hmem _ ih => cases h with | named _ _ hgenerics => exact ih (hgenerics _ hmem)
  | list _ ih => cases h with | list helement => exact ih helement
  | optional _ ih => cases h with | optional hvalue => exact ih hvalue

/-- In a spelling of a well formed reference separators meet just if they do in a path that the
reference mentions. -/
theorem WellFormed.doubled_infix_iff {text : List Char} (h : ref.WellFormed)
    (hspaced : Spaced ref.tokens text) :
    doubled <:+: text ↔ ∃ path, ref.Mentions path ∧ doubled <:+: path.toList := by
  have hreserved : ∀ token ∈ reservedTokens, ':' ∉ token.getLast? ∧ ¬doubled <:+: token := by
    simp [reservedTokens, doubled, List.infix_cons_iff]
  have hends : ∀ token ∈ ref.tokens, ':' ∉ token.getLast? := by
    intro token htoken
    rcases h.mem_tokens htoken with hmem | ⟨path, -, hpath, rfl⟩
    · exact (hreserved token hmem).1
    · exact hpath.getLast?_ne_colon
  rw [hspaced.doubled_infix_iff hends]
  constructor
  · rintro ⟨token, htoken, hinside⟩
    rcases h.mem_tokens htoken with hmem | ⟨path, hmentions, -, rfl⟩
    · exact absurd hinside (hreserved token hmem).2
    · exact ⟨path, hmentions, hinside⟩
  · rintro ⟨path, hmentions, hinside⟩
    exact ⟨path.toList, hmentions.mem_tokens, hinside⟩

end Mentions

/-- What is read from a text is well formed, and the text spells it. -/
theorem spelled_of_parse {input : String} {ref : TypeRef} (h : parse input = .ok ref) :
    ref.WellFormed ∧ Spaced ref.tokens input.toList := by
  obtain ⟨rest, hread, hrest⟩ := parse_eq_ok_iff.1 h
  obtain ⟨hwell, hspaced⟩ := read_sound _ hread
  have hend : Spaced [] rest := .nil (List.dropWhile_eq_nil_iff.1 hrest)
  exact ⟨hwell, by simpa using hspaced [] hend⟩

/-- All paths in what is read from a text have characters in each segment, and registering finds
no fault with them, just if the text nowhere has two separators in a row. -/
theorem mentions_registrable_iff {input : String} {ref : TypeRef} (h : parse input = .ok ref) :
    (∀ path, ref.Mentions path →
        (∀ segment ∈ segments path.toList, segment ≠ []) ∧ Registrable path) ↔
      ¬doubled <:+: input.toList := by
  obtain ⟨hwell, hspaced⟩ := spelled_of_parse h
  simp only [registrable_iff, and_self]
  rw [hwell.doubled_infix_iff hspaced, not_exists]
  refine forall_congr' fun path => ?_
  rw [not_and]
  refine imp_congr_right fun hmentions => ?_
  exact (hwell.isPath_of_mentions hmentions).nonempty_segments_iff

/-- A well formed reference is read from its printed form. -/
theorem WellFormed.parse_render {ref : TypeRef} (h : ref.WellFormed) :
    parse ref.render = .ok ref := by
  obtain ⟨rest, hread, hrest⟩ :=
    h.readable [] ref.render.toList (by simp [Marked]) (by simpa using spaced_render ref)
  exact parse_eq_ok_iff.2 ⟨rest, hread, hrest.dropBlank_nil⟩

theorem isPath_of_readPath {path : List Char} (h : outcome (readPath path) = .ok (path, [])) :
    IsPath path :=
  (outcome_readPath_eq_ok_iff.1 h).2.1

/-- The reference `Vec<app::Page<app::db::Row>>`. -/
def pagesRef : TypeRef :=
  .list (.named "app::Page" [.named "app::db::Row" []])

theorem pagesRef_wellFormed : pagesRef.WellFormed := by
  have hpage : IsPath "app::Page".toList := isPath_of_readPath rfl
  have hrow : IsPath "app::db::Row".toList := isPath_of_readPath rfl
  refine .list (.named hpage (by decide) ?_)
  rw [List.forall_mem_singleton]
  exact .named hrow (by decide) (by simp)

theorem pagesRef_registrable :
    parse "Vec<app::Page<app::db::Row>>" = .ok pagesRef ∧
      ∀ path, pagesRef.Mentions path →
        (∀ segment ∈ segments path.toList, segment ≠ []) ∧ Registrable path := by
  have hrender : pagesRef.render = "Vec<app::Page<app::db::Row>>" := by decide
  have hread := pagesRef_wellFormed.parse_render
  rw [hrender] at hread
  have hclear : ¬doubled <:+: "Vec<app::Page<app::db::Row>>".toList := by
    simp [doubled, List.infix_cons_iff]
  exact ⟨hread, (mentions_registrable_iff hread).2 hclear⟩

/-- Two separators in a row are read as part of a path, which cannot be registered. -/
theorem doubled_read_not_registrable :
    parse "A::::B" = .ok (.named "A::::B" []) ∧ [] ∈ segments "A::::B".toList ∧
      Registry.empty.register (.concrete "A::::B") = .error (.invalidPath "A::::B") := by
  have hpath : IsPath "A::::B".toList := isPath_of_readPath rfl
  have hwell : (TypeRef.named "A::::B" []).WellFormed := .named hpath (by decide) (by simp)
  have hrender : (TypeRef.named "A::::B" []).render = "A::::B" := by decide
  have hread := hwell.parse_render
  rw [hrender] at hread
  exact ⟨hread, by decide, rfl⟩

end TypeRef

end SchemaCoverage.Host
