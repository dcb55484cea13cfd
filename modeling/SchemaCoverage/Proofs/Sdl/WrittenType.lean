import SchemaCoverage.Sdl.Parser
/-!
Written types. A type is a row of tokens: its name and the marks around it. A text writes the type
if it has these tokens with any blanks before, between and after them. However the blanks are set,
the text is cut into these tokens again, and the type is read from them.
-/
namespace SchemaCoverage.Sdl

/-- The characters that may stand between tokens. -/
def isIgnored (c : Char) : Bool :=
  c ∈ [' ', ',', '\t', '\n', '\r', '\ufeff']

/-- A letter or an underscore, and letters, digits and underscores after it. -/
inductive IsName : List Char → Prop
  | intro {first : Char} {others : List Char} : isNameStart first = true →
      (∀ c ∈ others, isNameChar c = true) → IsName (first :: others)

/-- The characters of a name or a punctuator. Numbers and strings keep none. -/
def Token.chars : Token → List Char
  | .name text => text.toList
  | .punct mark => [mark]
  | .spread => ['.', '.', '.']
  | .number | .string => []

/-- The text has the names and punctuators in order, with any blanks before, between and after
them. A name goes on as far as it can. -/
inductive Spaced : List Token → List Char → Prop
  | nil {gap : List Char} : (∀ c ∈ gap, isIgnored c = true) → Spaced [] gap
  | name {gap rest : List Char} {name : String} {tokens : List Token} :
      (∀ c ∈ gap, isIgnored c = true) → IsName name.toList →
      (∀ c ∈ rest.head?, isNameChar c = false) → Spaced tokens rest →
      Spaced (.name name :: tokens) (gap ++ (name.toList ++ rest))
  | punct {gap rest : List Char} {mark : Char} {tokens : List Token} :
      (∀ c ∈ gap, isIgnored c = true) → isPunct mark = true → Spaced tokens rest →
      Spaced (.punct mark :: tokens) (gap ++ mark :: rest)

/-- The token of the mark that rules out null, if it is there. -/
def bangTokens (required : Bool) : List Token :=
  if required then [.punct '!'] else []

/-- The tokens of a type: a name, or a type in square brackets, and the mark behind it. -/
def TypeExpr.tokens : TypeExpr → List Token
  | .named name required => .name name :: bangTokens required
  | .list inner required => .punct '[' :: inner.tokens ++ .punct ']' :: bangTokens required

section Characters

variable {c : Char}

theorem isNameChar_of_isNameStart (h : isNameStart c = true) : isNameChar c = true := by
  simp only [isNameStart, isNameChar, Char.isAlphanum, Bool.or_eq_true] at h ⊢
  rcases h with halpha | hscore
  · exact Or.inl (Or.inl halpha)
  · exact Or.inr hscore

theorem eq_false_of_mem {property : Char → Bool} {members : List Char}
    (hmembers : members.all (!property ·) = true) (h : decide (c ∈ members) = true) :
    property c = false := by
  simpa using List.all_eq_true.1 hmembers c (of_decide_eq_true h)

theorem isNameChar_eq_false_of_isIgnored (h : isIgnored c = true) : isNameChar c = false :=
  eq_false_of_mem (by decide) h

theorem isNameChar_eq_false_of_isPunct (h : isPunct c = true) : isNameChar c = false :=
  eq_false_of_mem (by decide) h

theorem isIgnored_eq_false_of_isPunct (h : isPunct c = true) : isIgnored c = false :=
  eq_false_of_mem (by decide) h

theorem isIgnored_eq_false_of_isNameChar (h : isNameChar c = true) : isIgnored c = false := by
  cases hignored : isIgnored c with
  | false => rfl
  | true => simp [isNameChar_eq_false_of_isIgnored hignored] at h

theorem ne_of_isNameChar {d : Char} (h : isNameChar c = true) (hd : isNameChar d = false) :
    c ≠ d := by
  rintro rfl
  rw [h] at hd
  cases hd

end Characters

theorem IsName.all_isNameChar {name : List Char} (h : IsName name) :
    ∀ c ∈ name, isNameChar c = true := by
  cases h with
  | intro hfirst hothers =>
      exact List.forall_mem_cons.2 ⟨isNameChar_of_isNameStart hfirst, hothers⟩

/-- Blanks in front of a token are gone over. -/
theorem skip_gap {gap rest : List Char} (hgap : ∀ c ∈ gap, isIgnored c = true)
    (hrest : ∀ c ∈ rest.head?, isIgnored c = false ∧ c ≠ '#') (position : Position) :
    (skip false position (gap ++ rest)).2 = rest := by
  induction gap generalizing position with
  | nil =>
      cases rest with
      | nil => rfl
      | cons c tail =>
          obtain ⟨hignored, hcomment⟩ := hrest c rfl
          simp only [isIgnored, decide_eq_false_iff_not, List.mem_cons, List.not_mem_nil, or_false,
            not_or] at hignored
          simp [skip, hignored, hcomment]
  | cons c tail ih =>
      obtain ⟨hc, htail⟩ := List.forall_mem_cons.1 hgap
      simp only [isIgnored, decide_eq_true_eq, List.mem_cons, List.not_mem_nil, or_false] at hc
      rcases hc with rfl | rfl | rfl | rfl | rfl | rfl <;> simpa [skip] using ih htail _

theorem token?_punct {mark : Char} {rest : List Char} (h : isPunct mark = true) :
    token? (mark :: rest) = some (.punct mark, [mark], rest) := by
  simp only [isPunct, decide_eq_true_eq, List.mem_cons, List.not_mem_nil, or_false] at h
  rcases h with rfl | rfl | rfl | rfl | rfl | rfl | rfl | rfl | rfl | rfl | rfl | rfl | rfl <;> rfl

/-- A name goes on up to the first character that cannot belong to it. -/
theorem cut_name {name rest : List Char} (hname : ∀ c ∈ name, isNameChar c = true)
    (hrest : ∀ c ∈ rest.head?, isNameChar c = false) :
    cut (fun c => !isNameChar c) (name ++ rest) = (name, rest) := by
  have htake : rest.takeWhile isNameChar = [] := by
    cases rest with
    | nil => rfl
    | cons c tail => simp [hrest c rfl]
  have hdrop : rest.dropWhile isNameChar = rest := by
    cases rest with
    | nil => rfl
    | cons c tail => simp [hrest c rfl]
  simp [cut, List.takeWhile_append_of_pos hname, List.dropWhile_append_of_pos hname, htake, hdrop]

theorem token?_name {name : String} {rest : List Char} (hname : IsName name.toList)
    (hrest : ∀ c ∈ rest.head?, isNameChar c = false) :
    token? (name.toList ++ rest) = some (.name name, name.toList, rest) := by
  generalize hchars : name.toList = chars at hname
  cases hname with
  | @intro first others hfirst hothers =>
      have hchar := isNameChar_of_isNameStart hfirst
      have hdot : first ≠ '.' := ne_of_isNameChar hchar (by decide)
      have hquote : first ≠ '"' := ne_of_isNameChar hchar (by decide)
      have hpunct : isPunct first = false := by
        cases hpunct : isPunct first with
        | false => rfl
        | true => simp [isNameChar_eq_false_of_isPunct hpunct] at hchar
      have hcut := cut_name hothers hrest
      rw [List.cons_append, token?]
      · have hread : String.ofList (first :: others) = name := by
          rw [← hchars, String.ofList_toList]
        rw [if_neg (Bool.eq_false_iff.1 hpunct), if_pos hfirst, hcut]
        simp only [hread]
      · exact fun _ heq _ => hdot heq
      · exact fun _ heq _ => hquote heq
      · exact hquote

/-- A token behind blanks is cut off, if its bracket finds room. -/
theorem lexFrom_gap {room less : Nat} {gap shown taken rest : List Char} {token : Token}
    (position : Position) (hgap : ∀ c ∈ gap, isIgnored c = true)
    (hshown : ∀ c ∈ shown.head?, isIgnored c = false ∧ c ≠ '#')
    (htoken : token? shown = some (token, taken, rest)) (hroom : room? room token = some less) :
    ∃ before after, lexFrom room position (gap ++ shown) =
      (lexFrom less after rest).map (⟨token, before⟩ :: ·) := by
  have hskip := skip_gap hgap hshown position
  have hne : shown ≠ [] := by
    rintro rfl
    cases htoken
  rw [lexFrom]
  refine ⟨(skip false position (gap ++ shown)).1,
    (skip false position (gap ++ shown)).1.past taken, ?_⟩
  rw [if_neg (by simpa [hskip] using hne)]
  split
  · next hnone =>
      rw [hskip, htoken] at hnone
      cases hnone
  · next token' taken' rest' hsome =>
      rw [hskip, htoken] at hsome
      cases hsome
      simp only [hroom]

/-- A name begins no comment, and no blank stands in front of it. -/
theorem IsName.head_shown {name rest : List Char} (h : IsName name) :
    ∀ c ∈ (name ++ rest).head?, isIgnored c = false ∧ c ≠ '#' := by
  cases h with
  | intro hfirst hothers =>
      rintro c ⟨⟩
      have hchar := isNameChar_of_isNameStart hfirst
      exact ⟨isIgnored_eq_false_of_isNameChar hchar, ne_of_isNameChar hchar (by decide)⟩

/-- A spaced text is cut into its tokens, if their brackets find room. -/
theorem lexFrom_spaced {tokens : List Token} {text : List Char} (h : Spaced tokens text)
    {room less : Nat} (hroom : tokens.foldlM room? room = some less) (position : Position) :
    ∃ lexemes, lexFrom room position text = some lexemes ∧ lexemes.map (·.token) = tokens := by
  induction h generalizing room position with
  | @nil gap hgap =>
      have hskip : (skip false position (gap ++ [])).2 = [] := skip_gap hgap (by simp) position
      rw [List.append_nil] at hskip
      exact ⟨[], by rw [lexFrom, if_pos (by simp [hskip])], rfl⟩
  | @name gap rest name tokens hgap hname hrest _ ih =>
      rw [List.foldlM_cons, Option.bind_eq_bind, Option.bind_eq_some_iff] at hroom
      obtain ⟨between, hfirst, hothers⟩ := hroom
      obtain ⟨before, after, hcut⟩ :=
        lexFrom_gap position hgap hname.head_shown (token?_name hname hrest) hfirst
      obtain ⟨lexemes, hlexemes, hmap⟩ := ih hothers after
      exact ⟨⟨.name name, before⟩ :: lexemes, by rw [hcut, hlexemes]; rfl, by simp [hmap]⟩
  | @punct gap rest mark tokens hgap hmark _ ih =>
      rw [List.foldlM_cons, Option.bind_eq_bind, Option.bind_eq_some_iff] at hroom
      obtain ⟨between, hfirst, hothers⟩ := hroom
      have hshown : ∀ c ∈ (mark :: rest).head?, isIgnored c = false ∧ c ≠ '#' := by
        rintro c ⟨⟩
        refine ⟨isIgnored_eq_false_of_isPunct hmark, ?_⟩
        rintro rfl
        cases hmark
      obtain ⟨before, after, hcut⟩ :=
        lexFrom_gap position hgap hshown (token?_punct hmark) hfirst
      obtain ⟨lexemes, hlexemes, hmap⟩ := ih hothers after
      exact ⟨⟨.punct mark, before⟩ :: lexemes, by rw [hcut, hlexemes]; rfl, by simp [hmap]⟩

/-- Blanks dropped, a spaced text is the characters of its tokens. -/
theorem Spaced.filter_eq {tokens : List Token} {text : List Char} (h : Spaced tokens text) :
    text.filter (fun c => !isIgnored c) = tokens.flatMap Token.chars := by
  have hdrop {gap : List Char} (hgap : ∀ c ∈ gap, isIgnored c = true) :
      gap.filter (fun c => !isIgnored c) = [] := by
    simpa using hgap
  induction h with
  | nil hgap => exact hdrop hgap
  | @name gap rest name tokens hgap hname hrest _ ih =>
      have hkeep : name.toList.filter (fun c => !isIgnored c) = name.toList := by
        rw [List.filter_eq_self]
        intro c hc
        simp [isIgnored_eq_false_of_isNameChar (hname.all_isNameChar c hc)]
      rw [List.filter_append, List.filter_append, hdrop hgap, hkeep, ih]
      rfl
  | @punct gap rest mark tokens hgap hmark _ ih =>
      rw [List.filter_append, hdrop hgap, List.filter_cons_of_pos, ih]
      · rfl
      · simp [isIgnored_eq_false_of_isPunct hmark]

theorem Spaced.isName {tokens : List Token} {text : List Char} (h : Spaced tokens text)
    {name : String} (hmem : .name name ∈ tokens) : IsName name.toList := by
  induction h with
  | nil => cases hmem
  | name hgap hname hrest _ ih =>
      rcases List.mem_cons.1 hmem with hsame | hmem
      · cases hsame
        exact hname
      · exact ih hmem
  | punct hgap hmark _ ih =>
      rcases List.mem_cons.1 hmem with hsame | hmem
      · cases hsame
      · exact ih hmem

theorem no_gap : ∀ c ∈ ([] : List Char), isIgnored c = true := by simp

/-- A mark is no part of a name, and may be put in front of a text. -/
theorem Spaced.bang {tokens : List Token} {rest : List Char} (h : Spaced tokens rest)
    (hhead : ∀ c ∈ rest.head?, isNameChar c = false) (required : Bool) :
    Spaced (bangTokens required ++ tokens) (TypeExpr.bang required ++ rest) ∧
      ∀ c ∈ (TypeExpr.bang required ++ rest).head?, isNameChar c = false := by
  cases required with
  | false => exact ⟨h, hhead⟩
  | true =>
      refine ⟨.punct no_gap rfl h, ?_⟩
      rintro c ⟨⟩
      rfl

namespace TypeExpr

variable {expr : TypeExpr}

/-- The form without blanks writes the type. -/
theorem spaced_chars_append (hname : IsName expr.innermost.toList) {tokens : List Token}
    {rest : List Char} (hrest : Spaced tokens rest)
    (hhead : ∀ c ∈ rest.head?, isNameChar c = false) :
    Spaced (expr.tokens ++ tokens) (expr.chars ++ rest) := by
  induction expr generalizing tokens rest with
  | named name required =>
      obtain ⟨hbang, hhead⟩ := hrest.bang hhead required
      simpa [TypeExpr.tokens, chars, innermost] using
        Spaced.name no_gap hname hhead hbang
  | list inner required ih =>
      obtain ⟨hbang, -⟩ := hrest.bang hhead required
      have hclose : Spaced (.punct ']' :: (bangTokens required ++ tokens))
          (']' :: (bang required ++ rest)) := .punct no_gap rfl hbang
      have hinner := ih hname hclose (by
        rintro c ⟨⟩
        rfl)
      simpa [TypeExpr.tokens, chars] using Spaced.punct no_gap rfl hinner

theorem spaced_chars (hname : IsName expr.innermost.toList) :
    Spaced expr.tokens expr.chars := by
  simpa using spaced_chars_append hname (.nil no_gap) (by simp)

theorem name_mem_tokens (expr : TypeExpr) : .name expr.innermost ∈ expr.tokens := by
  induction expr with
  | named name required => exact List.mem_cons_self
  | list inner required ih =>
      exact List.mem_cons_of_mem _ (List.mem_append_left _ ih)

theorem flatMap_chars_tokens (expr : TypeExpr) : expr.tokens.flatMap Token.chars = expr.chars := by
  have hbang (required : Bool) : (bangTokens required).flatMap Token.chars = bang required := by
    cases required <;> rfl
  induction expr with
  | named name required => simp [tokens, chars, Token.chars, hbang]
  | list inner required ih => simp [tokens, chars, Token.chars, hbang, ih]

/-- The brackets of a type find room if they are not too many, and leave the room as it was. -/
theorem foldlM_room_tokens {room : Nat} (h : expr.depth ≤ room) :
    expr.tokens.foldlM room? room = some room := by
  have hbang (required : Bool) (room : Nat) :
      (bangTokens required).foldlM room? room = some room := by
    cases required <;> rfl
  induction expr generalizing room with
  | named name required => exact hbang required room
  | list inner required ih =>
      obtain ⟨less, rfl⟩ : ∃ less, room = less + 1 := Nat.exists_eq_succ_of_ne_zero (by
        rintro rfl
        cases h)
      have hinner := ih (Nat.le_of_succ_le_succ h)
      have hopen : room? (less + 1) (.punct '[') = some less := rfl
      have hclose : room? less (.punct ']') = some (less + 1) := rfl
      simp [tokens, List.foldlM_append, hopen, hinner, hclose, hbang]

end TypeExpr

namespace Parser

variable {lexeme : Lexeme} {lexemes rest : List Lexeme}

theorem next_bind {α : Type} (parser : Token → Parser α) :
    (next >>= parser) (lexeme :: rest) = parser lexeme.token rest := rfl

theorem bind_of_eq {α β : Type} {first : Parser α} {parser : α → Parser β} {a : α}
    {before after : List Lexeme} (h : first before = some (a, after)) :
    (first >>= parser) before = parser a after := by
  change (first before).bind _ = _
  rw [h]
  rfl

theorem expect_of_eq {token : Token} (h : lexeme.token = token) :
    expect token (lexeme :: rest) = some ((), rest) := by
  rw [expect, next_bind, if_pos h]
  rfl

theorem accept_of_eq {token : Token} (h : lexeme.token = token) :
    accept token (lexeme :: rest) = some (true, rest) := by
  have hpeek : peek? (lexeme :: rest) = some (some lexeme.token, lexeme :: rest) := rfl
  rw [accept, bind_of_eq hpeek, if_pos (congrArg some h), next_bind]
  rfl

theorem accept_of_ne {token : Token} (h : ∀ lexeme ∈ rest.head?, lexeme.token ≠ token) :
    accept token rest = some (false, rest) := by
  have hpeek : peek? rest = some (rest.head?.map Lexeme.token, rest) := rfl
  rw [accept, bind_of_eq hpeek, if_neg]
  · rfl
  · rw [Option.map_eq_some_iff]
    rintro ⟨lexeme, hmem, htoken⟩
    exact h lexeme hmem htoken

/-- The mark is taken if it is there, and nothing is taken otherwise. -/
theorem accept_bang {required : Bool} (h : lexemes.map (·.token) = bangTokens required)
    (hrest : ∀ lexeme ∈ rest.head?, lexeme.token ≠ .punct '!') :
    accept (.punct '!') (lexemes ++ rest) = some (required, rest) := by
  cases required with
  | true =>
      obtain ⟨lexeme, rfl, hlexeme⟩ := List.map_eq_singleton_iff.1 h
      exact accept_of_eq hlexeme
  | false =>
      obtain rfl := List.map_eq_nil_iff.1 h
      exact accept_of_ne hrest

/-- A type is read from its tokens, whatever follows that is no mark. -/
theorem typeExpr_of_tokens {expr : TypeExpr} {depth : Nat}
    (h : lexemes.map (·.token) = expr.tokens) (hdepth : expr.depth ≤ depth)
    (hrest : ∀ lexeme ∈ rest.head?, lexeme.token ≠ .punct '!') :
    typeExpr depth (lexemes ++ rest) = some (expr, rest) := by
  induction expr generalizing depth lexemes rest with
  | named name required =>
      obtain ⟨lexeme, marks, rfl, hlexeme, hmarks⟩ := List.map_eq_cons_iff.1 h
      have hname : typeExpr depth (lexeme :: (marks ++ rest)) =
          (do return .named name (← accept (.punct '!')) : Parser TypeExpr) (marks ++ rest) := by
        cases depth <;> rw [typeExpr, next_bind, hlexeme]
      rw [List.cons_append, hname]
      exact bind_of_eq (accept_bang hmarks hrest)
  | list inner required ih =>
      obtain ⟨less, rfl⟩ : ∃ less, depth = less + 1 := Nat.exists_eq_succ_of_ne_zero (by
        rintro rfl
        cases hdepth)
      obtain ⟨lexeme, others, rfl, hlexeme, hothers⟩ := List.map_eq_cons_iff.1 h
      obtain ⟨within, behind, rfl, hwithin, hbehind⟩ := List.map_eq_append_iff.1 hothers
      obtain ⟨close, marks, rfl, hclose, hmarks⟩ := List.map_eq_cons_iff.1 hbehind
      have hinner : typeExpr less (within ++ (close :: marks ++ rest)) =
          some (inner, close :: marks ++ rest) := by
        apply ih hwithin (Nat.le_of_succ_le_succ hdepth)
        rintro _ ⟨⟩
        rw [hclose]
        decide
      have hlist : typeExpr (less + 1) (lexeme :: (within ++ (close :: marks ++ rest))) =
          (do
            let inner ← typeExpr less
            expect (.punct ']')
            return .list inner (← accept (.punct '!')) : Parser TypeExpr)
              (within ++ (close :: marks ++ rest)) := by
        rw [typeExpr, next_bind, hlexeme]
        rfl
      rw [List.cons_append, List.append_assoc, hlist, bind_of_eq hinner, List.cons_append,
        bind_of_eq (expect_of_eq hclose)]
      exact bind_of_eq (accept_bang hmarks hrest)

theorem typeExpr_of_only_tokens {expr : TypeExpr} {depth : Nat}
    (h : lexemes.map (·.token) = expr.tokens) (hdepth : expr.depth ≤ depth) :
    typeExpr depth lexemes = some (expr, []) := by
  have hread : typeExpr depth (lexemes ++ []) = some (expr, []) :=
    typeExpr_of_tokens h hdepth (by simp)
  rwa [List.append_nil] at hread

end Parser

/-- A text writes one type at most. -/
theorem eq_of_spaced {a b : TypeExpr} {text : List Char} (ha : Spaced a.tokens text)
    (hb : Spaced b.tokens text) : a = b := by
  -- room for both makes the reader give both
  have hda : a.depth ≤ max a.depth b.depth := Nat.le_max_left _ _
  have hdb : b.depth ≤ max a.depth b.depth := Nat.le_max_right _ _
  obtain ⟨lexemes, hlex, hmap⟩ := lexFrom_spaced ha (TypeExpr.foldlM_room_tokens hda) .start
  obtain ⟨lexemes', hlex', hmap'⟩ := lexFrom_spaced hb (TypeExpr.foldlM_room_tokens hdb) .start
  obtain rfl : lexemes = lexemes' := Option.some.inj (hlex.symm.trans hlex')
  have hread := Parser.typeExpr_of_only_tokens hmap hda
  rw [Parser.typeExpr_of_only_tokens hmap' hdb] at hread
  exact (congrArg Prod.fst (Option.some.inj hread)).symm

/-- A type with brackets within bounds is read back from every text that writes it. -/
theorem exists_read_of_spaced {expr : TypeExpr} {text : String}
    (h : Spaced expr.tokens text.toList) (hdepth : expr.depth ≤ maxOpenBrackets) :
    ∃ lexemes, lex text = some lexemes ∧
      Parser.typeExpr maxOpenBrackets lexemes = some (expr, []) := by
  obtain ⟨lexemes, hlex, hmap⟩ := lexFrom_spaced h (TypeExpr.foldlM_room_tokens hdepth) .start
  exact ⟨lexemes, hlex, Parser.typeExpr_of_only_tokens hmap hdepth⟩

end SchemaCoverage.Sdl
