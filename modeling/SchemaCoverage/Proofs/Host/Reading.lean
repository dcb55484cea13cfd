import SchemaCoverage.Proofs.Host.Spelling
import SchemaCoverage.Proofs.Success
/-!
Reading host type references takes exactly their spellings. A path is read up to the first
character that cannot belong to it, so blanks between tokens neither join nor split them. Reading
what spells a well formed reference, with more tokens behind it, finds the reference and leaves the
tokens behind it.
-/
namespace SchemaCoverage.Text

/-- No letter or number is blank. -/
theorem isBlank_eq_false_of_isAlphanumeric {c : Char} (h : isAlphanumeric c = true) :
    isBlank c = false := by
  have hsmall : ∀ blanks ∈ blankRanges, blanks.2 ≤ 0x20 ∨ 0x80 ≤ blanks.1 := by decide
  have hapart : ∀ letters ∈ alphanumericRanges, ∀ blanks ∈ blankRanges,
      letters.2 < blanks.1 ∨ blanks.2 < letters.1 := by decide +kernel
  rw [Bool.eq_false_iff]
  intro hblank
  obtain ⟨blanks, hblanks, hlow, hhigh⟩ := inRanges_iff.1 hblank
  by_cases hascii : c.toNat < 0x80
  · rw [isAlphanumeric_of_ascii hascii] at h
    have := hsmall blanks hblanks
    have hprintable : 0x30 ≤ c.toNat := by
      unfold Char.isAlphanum Char.isAlpha Char.isUpper Char.isLower Char.isDigit at h
      simp only [Bool.or_eq_true, Bool.and_eq_true, decide_eq_true_eq, ge_iff_le,
        UInt32.le_iff_toNat_le] at h
      change 0x30 ≤ c.val.toNat
      rcases h with (⟨h, -⟩ | ⟨h, -⟩) | ⟨h, -⟩
      all_goals exact le_trans (by decide) h
    omega
  · simp only [isAlphanumeric, hascii, if_false] at h
    obtain ⟨letters, hletters, hfrom, hto⟩ := inRanges_iff.1 h
    have := hapart letters hletters blanks hblanks
    omega

end SchemaCoverage.Text

namespace SchemaCoverage.Host.TypeRef

theorem isBlank_eq_false_of_isWordChar {c : Char} (h : isWordChar c = true) :
    Text.isBlank c = false := by
  rw [isWordChar, Bool.or_eq_true, beq_iff_eq] at h
  rcases h with h | rfl
  · exact Text.isBlank_eq_false_of_isAlphanumeric h
  · decide

section Paths

variable {text path run rest : List Char}

/-- The text does not go on with a character of a path. -/
def Stops (text : List Char) : Prop :=
  ∀ c ∈ text.head?, isWordChar c = false ∧ c ≠ ':'

theorem IsRun.head_nonblank {c : Char} (h : IsRun (c :: run)) : Text.isBlank c = false := by
  cases h with
  | word hword => exact isBlank_eq_false_of_isWordChar hword
  | pair => decide

/-- What is read as a run cannot go on behind it. -/
theorem pathRun_sound (h : pathRun text = .ok (run, rest)) :
    text = run ++ rest ∧ IsRun run ∧ Stops rest := by
  fun_induction pathRun text generalizing run rest with
  | case1 =>
      cases h
      exact ⟨rfl, .nil, by simp [Stops]⟩
  | case2 tail ih =>
      obtain ⟨⟨inner, after⟩, hinner, heq⟩ := exceptMap_eq_ok_iff.1 h
      cases heq
      obtain ⟨rfl, hrun, hstops⟩ := ih hinner
      exact ⟨rfl, hrun.pair, hstops⟩
  | case3 tail hsingle => cases h
  | case4 c tail hcolon hword ih =>
      obtain ⟨⟨inner, after⟩, hinner, heq⟩ := exceptMap_eq_ok_iff.1 h
      cases heq
      obtain ⟨rfl, hrun, hstops⟩ := ih hinner
      exact ⟨rfl, hrun.word hword, hstops⟩
  | case5 c tail hcolon hword =>
      cases h
      refine ⟨rfl, .nil, ?_⟩
      rintro found ⟨⟩
      exact ⟨by simpa using hword, hcolon⟩

/-- The longest run is read, whatever comes behind it. -/
theorem pathRun_append (hrun : IsRun run) (hstops : Stops rest) :
    pathRun (run ++ rest) = .ok (run, rest) := by
  induction hrun with
  | nil =>
      cases rest with
      | nil => rfl
      | cons c rest =>
          obtain ⟨hword, hcolon⟩ := hstops c rfl
          simp [pathRun, hword]
  | @word c run hword hrun ih =>
      have hcolon : c ≠ ':' := by
        rintro rfl
        exact absurd hword (by decide)
      simp [pathRun, hword, ih, Except.map]
  | pair hrun ih => simp [pathRun, ih, Except.map]

end Paths

section Equations

variable {text path rest : List Char}

/-- What a reader returns, without the bound on the rest. -/
def outcome {α : Type} {text : List Char} (result : Read α text) : Except Fault (α × List Char) :=
  result.map Subtype.val

theorem outcome_readPath_eq_ok_iff :
    outcome (readPath text) = .ok (path, rest) ↔
      text.dropWhile Text.isBlank = path ++ rest ∧ IsPath path ∧ Stops rest := by
  constructor
  · intro h
    unfold readPath at h
    split at h
    · cases h
    · cases h
    · rename_i c run after hrun
      split at h
      · cases h
      · rename_i hends
        cases h
        obtain ⟨heq, hrun, hstops⟩ := pathRun_sound hrun
        rw [Bool.or_eq_true, List.isPrefixOf_iff_prefix, List.isSuffixOf_iff_suffix,
          not_or] at hends
        exact ⟨heq, ⟨hrun, by simp, hends.1, hends.2⟩, hstops⟩
  · rintro ⟨heq, hpath, hstops⟩
    have hrun := pathRun_append hpath.run hstops
    rw [← heq] at hrun
    unfold readPath
    split <;> rename_i hread <;> cases hrun.symm.trans hread
    · exact absurd rfl hpath.nonempty
    · split
      · rename_i hends
        rw [Bool.or_eq_true, List.isPrefixOf_iff_prefix, List.isSuffixOf_iff_suffix] at hends
        exact absurd hends (not_or.2 ⟨hpath.front, hpath.back⟩)
      · rfl

/-- A reference is the path `_` alone, or a path with type arguments in angle brackets or with
something else behind it. -/
theorem outcome_read (text : List Char) :
    outcome (read text) = (do
      let (path, rest) ← outcome (readPath text)
      if path = ['_'] then return (.unnamed, rest)
      match rest.dropWhile Text.isBlank with
      | '<' :: inner =>
          let (generics, after) ← outcome (readGenerics inner)
          return (← ofPath path generics, after)
      | other => return (← ofPath path [], other)) := by
  rw [read]
  cases readPath text with
  | error fault => rfl
  | ok result =>
      obtain ⟨⟨path, rest⟩, shorter⟩ := result
      change outcome (ite _ _ _) = ite _ _ _
      split
      · rfl
      · split <;> rename_i hdropped <;> simp only [hdropped]
        · rename_i inner
          cases readGenerics inner with
          | error fault => rfl
          | ok result =>
              obtain ⟨⟨generics, after⟩, _⟩ := result
              dsimp only [outcome, Except.map, bind, Except.bind]
              cases ofPath path generics <;> rfl
        · cases ofPath path [] <;> rfl

theorem outcome_readGenerics (text : List Char) :
    outcome (readGenerics text) = (do
      let (first, rest) ← outcome (read text)
      match rest.dropWhile Text.isBlank with
      | ',' :: more =>
          let (others, after) ← outcome (readGenerics more)
          return (first :: others, after)
      | '>' :: after => return ([first], after)
      | other => .error (.stuck other)) := by
  rw [readGenerics]
  cases read text with
  | error fault => rfl
  | ok result =>
      obtain ⟨⟨first, rest⟩, shorter⟩ := result
      dsimp only
      split <;> rename_i hdropped <;>
        simp only [outcome, Except.map, bind, Except.bind, hdropped]
      · rename_i more
        cases readGenerics more <;> rfl
      · rfl

/-- Every reader takes something. -/
theorem length_lt_of_outcome {α : Type} {result : Read α text} {value : α}
    (h : outcome result = .ok (value, rest)) : rest.length < text.length := by
  obtain ⟨⟨⟨value, rest⟩, shorter⟩, -, heq⟩ := exceptMap_eq_ok_iff.1 h
  cases heq
  exact shorter

/-- What stands behind the next mark is shorter yet. -/
theorem length_lt_of_dropBlank {α : Type} {result : Read α text} {value : α} {mark : Char}
    {behind : List Char} (h : outcome result = .ok (value, rest))
    (hmark : rest.dropWhile Text.isBlank = mark :: behind) : behind.length < text.length := by
  have hread := length_lt_of_outcome h
  have hdropped := length_dropBlank rest
  rw [hmark, List.length_cons] at hdropped
  omega

end Equations

section Names

variable {path : List Char} {generics : List TypeRef} {ref : TypeRef}

theorem isPath_vec : IsPath "Vec".toList where
  run := .word (by decide) (.word (by decide) (.word (by decide) .nil))
  nonempty := by decide
  front := by decide
  back := by decide

theorem isPath_option : IsPath "Option".toList where
  run := .word (by decide) (.word (by decide) (.word (by decide) (.word (by decide)
    (.word (by decide) (.word (by decide) .nil)))))
  nonempty := by decide
  front := by decide
  back := by decide

/-- The tokens of what a path with type arguments denotes are the path and theirs. -/
theorem tokens_of_ofPath (h : ofPath path generics = .ok ref) :
    ref.tokens = path :: genericTokens generics := by
  unfold ofPath at h
  split at h
  · rename_i hvec
    split at h
    · cases h
      simp [tokens, genericTokens, moreTokens, hvec]
    · cases h
  · split at h
    · rename_i hoption
      split at h
      · cases h
        simp [tokens, genericTokens, moreTokens, hoption]
      · cases h
    · cases h
      rw [tokens_named, String.toList_ofList]

theorem wellFormed_of_ofPath (h : ofPath path generics = .ok ref) (hpath : IsPath path)
    (hunnamed : path ≠ ['_']) (hgenerics : ∀ generic ∈ generics, generic.WellFormed) :
    ref.WellFormed := by
  unfold ofPath at h
  split at h
  · split at h
    · cases h
      exact .list (hgenerics _ (by simp))
    · cases h
  · rename_i hvec
    split at h
    · split at h
      · cases h
        exact .optional (hgenerics _ (by simp))
      · cases h
    · rename_i hoption
      cases h
      have hname {name : String} (hne : path ≠ name.toList) : String.ofList path ≠ name := by
        intro heq
        exact hne (by rw [← heq, String.toList_ofList])
      refine .named (by rwa [String.toList_ofList]) ?_ hgenerics
      simp only [List.mem_cons, List.not_mem_nil, or_false, not_or]
      exact ⟨hname hunnamed, hname hvec, hname hoption⟩

/-- A path with no meaning of its own denotes the type at the path. -/
theorem ofPath_named {path : String} (h : path ∉ ["_", "Vec", "Option"]) :
    ofPath path.toList generics = .ok (.named path generics) := by
  simp only [List.mem_cons, List.not_mem_nil, or_false, not_or] at h
  unfold ofPath
  rw [if_neg (fun heq => h.2.1 (String.toList_injective heq)),
    if_neg (fun heq => h.2.2 (String.toList_injective heq)), String.ofList_toList]

end Names

mutual

/-- What is read as a reference spells it, and the reference is well formed. -/
theorem read_sound (text : List Char) {ref : TypeRef} {rest : List Char}
    (h : outcome (read text) = .ok (ref, rest)) :
    ref.WellFormed ∧
      ∀ more, Spaced more rest → Spaced (ref.tokens ++ more) text := by
  rw [outcome_read, bind_eq_ok_iff] at h
  obtain ⟨⟨path, after⟩, hread, h⟩ := h
  obtain ⟨htext, hpath, -⟩ := outcome_readPath_eq_ok_iff.1 hread
  have hbehind : ∀ tokens, Spaced tokens after → Spaced (path :: tokens) text := by
    intro tokens hafter
    apply Spaced.of_dropBlank
    rw [htext]
    exact hafter.cons_append path
  dsimp only at h
  split at h
  · rename_i hunnamed
    cases h
    subst hunnamed
    exact ⟨.unnamed, fun more hmore => hbehind more hmore⟩
  · rename_i hunnamed
    split at h
    · rename_i inner hinner
      obtain ⟨⟨generics, final⟩, hgenerics, h⟩ := bind_eq_ok_iff.1 h
      obtain ⟨found, hfound, h⟩ := bind_eq_ok_iff.1 h
      cases h
      have hshorter := length_lt_of_dropBlank hread hinner
      obtain ⟨first, others, rfl, hwell, hspaced⟩ := readGenerics_sound inner hgenerics
      refine ⟨wellFormed_of_ofPath hfound hpath hunnamed hwell, fun more hmore => ?_⟩
      rw [tokens_of_ofPath hfound]
      apply hbehind
      apply Spaced.of_dropBlank
      rw [hinner]
      simpa [genericTokens] using (hspaced more hmore).cons_append ['<']
    · obtain ⟨found, hfound, h⟩ := bind_eq_ok_iff.1 h
      cases h
      refine ⟨wellFormed_of_ofPath hfound hpath hunnamed (by simp), fun more hmore => ?_⟩
      rw [tokens_of_ofPath hfound]
      exact hbehind more hmore.of_dropBlank
termination_by (text.length, 0)

/-- What is read as type arguments spells them and the bracket that closes them. -/
theorem readGenerics_sound (text : List Char) {refs : List TypeRef} {rest : List Char}
    (h : outcome (readGenerics text) = .ok (refs, rest)) :
    ∃ first others, refs = first :: others ∧ (∀ generic ∈ refs, generic.WellFormed) ∧
      ∀ more, Spaced more rest →
        Spaced (first.tokens ++ (moreTokens others ++ ['>'] :: more)) text := by
  rw [outcome_readGenerics, bind_eq_ok_iff] at h
  obtain ⟨⟨first, after⟩, hfirst, h⟩ := h
  obtain ⟨hwell, hspaced⟩ := read_sound text hfirst
  dsimp only at h
  split at h
  · rename_i behind hbehind
    have hshorter := length_lt_of_dropBlank hfirst hbehind
    obtain ⟨⟨others, final⟩, hothers, h⟩ := bind_eq_ok_iff.1 h
    cases h
    obtain ⟨next, others, rfl, hwells, hspaceds⟩ := readGenerics_sound behind hothers
    refine ⟨first, next :: others, rfl, ?_, fun more hmore => ?_⟩
    · exact List.forall_mem_cons.2 ⟨hwell, hwells⟩
    · apply hspaced
      apply Spaced.of_dropBlank
      rw [hbehind]
      simpa [moreTokens] using (hspaceds more hmore).cons_append [',']
  · rename_i final hfinal
    cases h
    refine ⟨first, [], rfl, by simpa using hwell, fun more hmore => ?_⟩
    apply hspaced
    apply Spaced.of_dropBlank
    rw [hfinal]
    exact hmore.cons_append ['>']
  · cases h
termination_by (text.length, 1)

end

section Marks

variable {tokens : List (List Char)} {marks text : List Char}

/-- The first token, if there is one, is one of the marks. -/
def Marked (marks : List Char) (tokens : List (List Char)) : Prop :=
  ∀ token ∈ tokens.head?, ∃ mark ∈ marks, token = [mark]

theorem Marked.cons (h : Marked marks tokens) (mark : Char) : Marked (mark :: marks) tokens := by
  intro token htoken
  obtain ⟨found, hfound, heq⟩ := h token htoken
  exact ⟨found, List.mem_cons_of_mem _ hfound, heq⟩

theorem stops_cons_of_isBlank {c : Char} {rest : List Char} (h : Text.isBlank c = true) :
    Stops (c :: rest) := by
  rintro found ⟨⟩
  constructor
  · rw [Bool.eq_false_iff]
    intro hword
    rw [isBlank_eq_false_of_isWordChar hword] at h
    cases h
  · rintro rfl
    exact absurd h (by decide)

/-- A path ends before blanks, a mark or nothing. -/
theorem Spaced.stops (h : Spaced tokens text) (htokens : Marked ['<', '>', ','] tokens) :
    Stops text := by
  cases h with
  | nil hgap =>
      cases text with
      | nil => simp [Stops]
      | cons c rest => exact stops_cons_of_isBlank (hgap c (by simp))
  | @cons gap token rest tokens hgap hrest =>
      cases gap with
      | cons c gap => exact stops_cons_of_isBlank (hgap c (by simp))
      | nil =>
          have hmarks : ∀ mark ∈ ['<', '>', ','], isWordChar mark = false ∧ mark ≠ ':' := by
            simp only [List.mem_cons, List.not_mem_nil, or_false, forall_eq_or_imp, forall_eq]
            decide
          obtain ⟨mark, hmark, rfl⟩ := htokens token rfl
          rintro found ⟨⟩
          exact hmarks mark hmark

/-- Before a mark blanks may be dropped. -/
theorem Spaced.dropBlank_mark {mark : Char} (h : Spaced ([mark] :: tokens) text)
    (hmark : Text.isBlank mark = false) :
    ∃ rest, text.dropWhile Text.isBlank = mark :: rest ∧ Spaced tokens rest :=
  h.dropBlank_cons ⟨mark, [], rfl, hmark⟩

/-- Before a mark or the end blanks may be dropped, and no other character comes to the front. -/
theorem Spaced.dropBlank_marked (h : Spaced tokens text) (htokens : Marked marks tokens)
    (hmarks : ∀ mark ∈ marks, Text.isBlank mark = false) :
    Spaced tokens (text.dropWhile Text.isBlank) ∧
      ∀ c ∈ (text.dropWhile Text.isBlank).head?, c ∈ marks := by
  cases tokens with
  | nil =>
      rw [h.dropBlank_nil]
      exact ⟨.nil (by simp), by simp⟩
  | cons token tokens =>
      obtain ⟨mark, hmark, rfl⟩ := htokens token rfl
      obtain ⟨rest, hrest, htokens⟩ := h.dropBlank_mark (hmarks mark hmark)
      rw [hrest]
      refine ⟨htokens.cons_append [mark], ?_⟩
      rintro c ⟨⟩
      exact hmark

/-- Before a path blanks may be dropped. -/
theorem Spaced.dropBlank_path {path : List Char} (h : Spaced (path :: tokens) text)
    (hpath : IsPath path) :
    ∃ rest, text.dropWhile Text.isBlank = path ++ rest ∧ Spaced tokens rest := by
  apply h.dropBlank_cons
  cases path with
  | nil => exact absurd rfl hpath.nonempty
  | cons c rest => exact ⟨c, rest, rfl, hpath.run.head_nonblank⟩

end Marks

/-- However the reference is spelled, with a closing bracket, a comma or nothing behind it, it is
found, and what stands behind it is left. -/
def Readable (ref : TypeRef) : Prop :=
  ∀ more text, Marked ['>', ','] more → Spaced (ref.tokens ++ more) text →
    ∃ rest, outcome (read text) = .ok (ref, rest) ∧ Spaced more rest

/-- Type arguments are found if each of them is. -/
theorem readGenerics_complete {first : TypeRef} {others : List TypeRef} {more : List (List Char)}
    {text : List Char} (hreadable : ∀ generic ∈ first :: others, Readable generic)
    (h : Spaced (first.tokens ++ (moreTokens others ++ ['>'] :: more)) text) :
    ∃ rest, outcome (readGenerics text) = .ok (first :: others, rest) ∧ Spaced more rest := by
  induction others generalizing first text with
  | nil =>
      have hmarked : Marked ['>', ','] (['>'] :: more) := by simp [Marked]
      obtain ⟨after, hfirst, hafter⟩ := hreadable first (by simp) _ _ hmarked h
      obtain ⟨rest, hrest, hmore⟩ := hafter.dropBlank_mark (by decide)
      refine ⟨rest, ?_, hmore⟩
      rw [outcome_readGenerics, hfirst]
      simp [bind, Except.bind, pure, Except.pure, hrest]
  | cons next others ih =>
      have hmoreTokens : moreTokens (next :: others) ++ ['>'] :: more =
          [','] :: (next.tokens ++ (moreTokens others ++ ['>'] :: more)) := by simp [moreTokens]
      rw [hmoreTokens] at h
      have hmarked : Marked ['>', ','] ([','] :: (next.tokens ++
          (moreTokens others ++ ['>'] :: more))) := by simp [Marked]
      obtain ⟨after, hfirst, hafter⟩ := hreadable first (by simp) _ _ hmarked h
      obtain ⟨behind, hbehind, hnext⟩ := hafter.dropBlank_mark (by decide)
      obtain ⟨rest, hothers, hmore⟩ :=
        ih (fun generic hgeneric => hreadable generic (List.mem_cons_of_mem _ hgeneric)) hnext
      refine ⟨rest, ?_, hmore⟩
      rw [outcome_readGenerics, hfirst]
      simp [bind, Except.bind, pure, Except.pure, hbehind, hothers]

/-- What a path with type arguments denotes is found if each argument is. -/
theorem readable_of_ofPath {path : List Char} {generics : List TypeRef} {ref : TypeRef}
    (h : ofPath path generics = .ok ref) (hpath : IsPath path) (hunnamed : path ≠ ['_'])
    (hgenerics : ∀ generic ∈ generics, Readable generic) : Readable ref := by
  intro more text hmore hspaced
  rw [tokens_of_ofPath h, List.cons_append] at hspaced
  obtain ⟨after, htext, hafter⟩ := hspaced.dropBlank_path hpath
  rw [outcome_read]
  cases generics with
  | nil =>
      have hread := outcome_readPath_eq_ok_iff.2 ⟨htext, hpath, hafter.stops (hmore.cons '<')⟩
      have hmarks : ∀ mark ∈ ['>', ','], Text.isBlank mark = false := by
        simp only [List.mem_cons, List.not_mem_nil, or_false, forall_eq_or_imp, forall_eq]
        decide
      obtain ⟨hleft, hfront⟩ := hafter.dropBlank_marked hmore hmarks
      refine ⟨after.dropWhile Text.isBlank, ?_, hleft⟩
      rw [hread]
      simp only [bind, Except.bind, pure, Except.pure, hunnamed, if_false]
      split
      · rename_i inner hinner
        rw [hinner] at hfront
        exact absurd (hfront '<' rfl) (by decide)
      · simp [h]
  | cons first others =>
      have hgenericTokens : genericTokens (first :: others) ++ more =
          ['<'] :: (first.tokens ++ (moreTokens others ++ ['>'] :: more)) := by
        simp [genericTokens]
      rw [hgenericTokens] at hafter
      have hread := outcome_readPath_eq_ok_iff.2 ⟨htext, hpath, hafter.stops (by simp [Marked])⟩
      obtain ⟨inner, hinner, hfirst⟩ := hafter.dropBlank_mark (by decide)
      obtain ⟨rest, hrest, hleft⟩ := readGenerics_complete hgenerics hfirst
      refine ⟨rest, ?_, hleft⟩
      rw [hread]
      simp [bind, Except.bind, pure, Except.pure, hunnamed, hinner, hrest, h]

theorem readable_unnamed : Readable .unnamed := by
  intro more text hmore hspaced
  have hpath : IsPath ['_'] := ⟨.word (by decide) .nil, by decide, by decide, by decide⟩
  obtain ⟨rest, htext, hrest⟩ := hspaced.dropBlank_path hpath
  have hread := outcome_readPath_eq_ok_iff.2 ⟨htext, hpath, Spaced.stops hrest (hmore.cons '<')⟩
  refine ⟨rest, ?_, hrest⟩
  rw [outcome_read, hread]
  rfl

/-- Every well formed reference is found in its spellings. -/
theorem WellFormed.readable {ref : TypeRef} (h : ref.WellFormed) : Readable ref := by
  induction h with
  | unnamed => exact readable_unnamed
  | @list element _ ih =>
      have hlist : ofPath "Vec".toList [element] = .ok (.list element) := rfl
      exact readable_of_ofPath hlist isPath_vec (by decide) (by simpa using ih)
  | @optional value _ ih =>
      have hoptional : ofPath "Option".toList [value] = .ok (.optional value) := rfl
      exact readable_of_ofPath hoptional isPath_option (by decide) (by simpa using ih)
  | @named path generics hpath hname _ ih =>
      refine readable_of_ofPath (ofPath_named hname) hpath ?_ ih
      rintro heq
      have hunnamed : path = "_" := String.toList_injective heq
      simp [hunnamed] at hname

/-- A text is read as a reference just if only blanks are left behind it. -/
theorem parse_eq_ok_iff {input : String} {ref : TypeRef} :
    parse input = .ok ref ↔
      ∃ rest, outcome (read input.toList) = .ok (ref, rest) ∧
        rest.dropWhile Text.isBlank = [] := by
  unfold parse
  cases read input.toList with
  | error fault => simp [outcome, Except.map]
  | ok result =>
      obtain ⟨⟨found, rest⟩, shorter⟩ := result
      constructor
      · intro h
        dsimp only at h
        split at h
        · rename_i hrest
          cases h
          exact ⟨rest, rfl, hrest⟩
        · cases h
      · rintro ⟨after, ⟨⟩, hrest⟩
        simp only [hrest]

/-- A text is read as a reference just if the reference is well formed and the text spells it. What
is printed for a reference spells it, so a reference that some text gives is read back from its
printed form. -/
theorem parse_eq_ok_iff_spelling (input : String) (ref : TypeRef) :
    (parse input = .ok ref ↔ ref.WellFormed ∧ Spaced ref.tokens input.toList) ∧
      Spaced ref.tokens ref.render.toList ∧
      ((∃ text, parse text = .ok ref) ↔ parse ref.render = .ok ref) := by
  have hread : ∀ text, parse text = .ok ref ↔ ref.WellFormed ∧ Spaced ref.tokens text.toList := by
    intro text
    rw [parse_eq_ok_iff]
    constructor
    · rintro ⟨rest, hread, hrest⟩
      obtain ⟨hwell, hspaced⟩ := read_sound _ hread
      have hend : Spaced [] rest := .nil (List.dropWhile_eq_nil_iff.1 hrest)
      exact ⟨hwell, by simpa using hspaced [] hend⟩
    · rintro ⟨hwell, hspaced⟩
      obtain ⟨rest, hread, hrest⟩ :=
        hwell.readable [] text.toList (by simp [Marked]) (by simpa using hspaced)
      exact ⟨rest, hread, hrest.dropBlank_nil⟩
  refine ⟨hread input, spaced_render ref, ?_, fun h => ⟨_, h⟩⟩
  rintro ⟨text, htext⟩
  exact (hread ref.render).2 ⟨((hread text).1 htext).1, spaced_render ref⟩

end SchemaCoverage.Host.TypeRef
