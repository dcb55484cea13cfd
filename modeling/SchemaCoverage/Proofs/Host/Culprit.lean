import SchemaCoverage.Proofs.Host.Reading
/-!
Where reading a host type reference fails. No reader looks past the first character that it leaves, so
what it returns stays the same whatever comes behind that character. An error at a character is
therefore an error of every text that begins with the text up to it; and where a text ends too early,
it is a character that cannot go on with it that is found at fault.
-/
namespace SchemaCoverage.Host.TypeRef

/-- A character that is neither blank nor part of any token. -/
def Foreign (c : Char) : Prop :=
  Text.isAlphanumeric c = false ∧ Text.isBlank c = false ∧ c ∉ ['_', ':', '<', '>', ',']

/-- What may stand in the place of what a reader leaves: anything that begins alike, and a foreign
character in the place of nothing. -/
inductive Swaps : List Char → List Char → Prop
  | same {c : Char} {rest rest' : List Char} : Swaps (c :: rest) (c :: rest')
  | nil : Swaps [] []
  | foreign {c : Char} {rest : List Char} : Foreign c → Swaps [] (c :: rest)

section Swaps

variable {rest rest' : List Char}

theorem Swaps.refl (rest : List Char) : Swaps rest rest := by
  cases rest with
  | nil => exact .nil
  | cons c rest => exact .same

theorem Swaps.append_left (h : Swaps rest rest') (front : List Char) :
    Swaps (front ++ rest) (front ++ rest') := by
  cases front with
  | nil => exact h
  | cons c front => exact .same

theorem Foreign.isWordChar_eq_false {c : Char} (h : Foreign c) : isWordChar c = false := by
  have hunderscore : c ≠ '_' := by
    rintro rfl
    exact h.2.2 (by decide)
  simp [isWordChar, h.1, hunderscore]

theorem Foreign.ne_of_mem {c mark : Char} (h : Foreign c) (hmark : mark ∈ ['_', ':', '<', '>', ',']) :
    c ≠ mark := by
  rintro rfl
  exact h.2.2 hmark

/-- A mark comes first in both or in neither. -/
theorem Swaps.head_ne {mark : Char} (h : Swaps rest rest')
    (hmark : mark ∈ ['_', ':', '<', '>', ',']) (hne : mark ∉ rest.head?) : mark ∉ rest'.head? := by
  cases h with
  | same => exact hne
  | nil => exact hne
  | foreign hforeign =>
      rintro ⟨⟩
      exact hforeign.ne_of_mem hmark rfl

theorem Swaps.stops (h : Swaps rest rest') (hstops : Stops rest) : Stops rest' := by
  cases h with
  | same => exact hstops
  | nil => exact hstops
  | foreign hforeign =>
      rintro found ⟨⟩
      exact ⟨hforeign.isWordChar_eq_false, hforeign.ne_of_mem (by decide)⟩

end Swaps

section Decides

variable {α β : Type} {text : List Char}

/-- What is left at the end of reading, behind the value or from the culprit on. -/
def left? : Except Fault (α × List Char) → Option (List Char)
  | .ok (_, rest) => some rest
  | .error (.stuck rest) => some rest
  | .error _ => none

/-- The same end of reading with something else left. -/
def leaving (rest : List Char) : Except Fault (α × List Char) → Except Fault (α × List Char)
  | .ok (value, _) => .ok (value, rest)
  | .error (.stuck _) => .error (.stuck rest)
  | .error fault => .error fault

/-- What is read from the text does not depend on what is left of it but for the first character. -/
def Decides (reader : List Char → Except Fault (α × List Char)) (text : List Char) : Prop :=
  ∀ rest, left? (reader text) = some rest →
    ∃ front, text = front ++ rest ∧
      ∀ rest', Swaps rest rest' → reader (front ++ rest') = leaving rest' (reader text)

variable {reader : List Char → Except Fault (α × List Char)}

theorem eq_of_left?_leaving {rest rest' : List Char} {result : Except Fault (α × List Char)}
    (h : left? (leaving rest result) = some rest') : rest' = rest := by
  cases result with
  | ok result => exact (Option.some.inj h).symm
  | error fault =>
      cases fault with
      | stuck => exact (Option.some.inj h).symm
      | emptyPath => cases h
      | wrongArity => cases h

theorem leaving_leaving (rest rest' : List Char) (result : Except Fault (α × List Char)) :
    leaving rest' (leaving rest result) = leaving rest' result := by
  cases result with
  | ok result => rfl
  | error fault => cases fault <;> rfl

/-- A reader that takes nothing decides if it ends alike on all that begins alike. -/
theorem decides_of_swaps (result : Except Fault (α × List Char))
    (h : ∀ text', Swaps text text' → reader text' = leaving text' result) :
    Decides reader text := by
  intro rest hrest
  rw [h text (.refl text)] at hrest ⊢
  obtain rfl := eq_of_left?_leaving hrest
  refine ⟨[], rfl, fun rest' hrest' => ?_⟩
  rw [leaving_leaving]
  exact h rest' hrest'

/-- A reader that takes the first character decides if what goes on behind it does. -/
theorem Decides.cons {next : List Char → Except Fault (α × List Char)} {c : Char}
    (h : Decides next text) (hreader : ∀ text, reader (c :: text) = next text) :
    Decides reader (c :: text) := by
  intro rest hrest
  rw [hreader] at hrest
  obtain ⟨front, rfl, hswaps⟩ := h rest hrest
  refine ⟨c :: front, rfl, fun rest' hrest' => ?_⟩
  rw [List.cons_append, hreader, hreader]
  exact hswaps rest' hrest'

/-- One reader, and another that goes on with what the first has left. -/
def andThen (reader : List Char → Except Fault (α × List Char))
    (next : α → List Char → Except Fault (β × List Char)) (text : List Char) :
    Except Fault (β × List Char) :=
  reader text >>= fun result => next result.1 result.2

section AndThen

variable {next : α → List Char → Except Fault (β × List Char)}

theorem andThen_of_ok {value : α} {rest : List Char} (h : reader text = .ok (value, rest)) :
    andThen reader next text = next value rest := by
  rw [andThen, h]
  rfl

theorem andThen_of_error {fault : Fault} (h : reader text = .error fault) :
    andThen reader next text = .error fault := by
  rw [andThen, h]
  rfl

/-- One reader after another decides if each does. -/
theorem Decides.andThen (h : Decides reader text)
    (hnext : ∀ value rest, reader text = .ok (value, rest) → Decides (next value) rest) :
    Decides (andThen reader next) text := by
  intro final hfinal
  cases hread : reader text with
  | error fault =>
      have hends : TypeRef.andThen reader next text = .error fault :=
        andThen_of_error hread
      rw [hends] at hfinal ⊢
      obtain ⟨front, htext, hswaps⟩ := h final (by rw [hread]; cases fault <;> exact hfinal)
      refine ⟨front, htext, fun final' hfinal' => ?_⟩
      have hread' := hswaps final' hfinal'
      rw [hread] at hread'
      cases fault <;> exact andThen_of_error hread'
  | ok result =>
      obtain ⟨value, rest⟩ := result
      rw [andThen_of_ok hread] at hfinal ⊢
      obtain ⟨front, htext, hswaps⟩ := h rest (by rw [hread]; rfl)
      obtain ⟨middle, hrest, hswaps'⟩ := hnext value rest hread final hfinal
      refine ⟨front ++ middle, by rw [htext, hrest, List.append_assoc], fun final' hfinal' => ?_⟩
      have hmiddle : Swaps rest (middle ++ final') := hrest ▸ hfinal'.append_left middle
      have hread' := hswaps _ hmiddle
      rw [hread] at hread'
      rw [List.append_assoc, andThen_of_ok hread']
      exact hswaps' final' hfinal'

end AndThen

/-- What is left may be returned with any value. -/
theorem decides_ok (value : α) (text : List Char) :
    Decides (fun rest => .ok (value, rest)) text :=
  decides_of_swaps (.ok (value, [])) fun _ _ => rfl

end Decides

section Paths

variable {text rest : List Char}

theorem pathRun_pair (rest : List Char) :
    pathRun (':' :: ':' :: rest) =
      andThen pathRun (fun run rest => .ok (':' :: ':' :: run, rest)) rest := by
  rw [pathRun, andThen]
  cases pathRun rest <;> rfl

theorem pathRun_word {c : Char} (h : isWordChar c = true) (rest : List Char) :
    pathRun (c :: rest) = andThen pathRun (fun run rest => .ok (c :: run, rest)) rest := by
  have hcolon : c ≠ ':' := by
    rintro rfl
    exact absurd h (by decide)
  rw [pathRun, if_pos h, andThen]
  · cases pathRun rest <;> rfl
  · exact hcolon

theorem pathRun_single (h : ':' ∉ rest.head?) : pathRun (':' :: rest) = .error (.stuck rest) := by
  rw [pathRun]
  rintro more rfl
  exact h rfl

theorem decides_pathRun_of_stops (h : Stops text) : Decides pathRun text := by
  apply decides_of_swaps (.ok ([], []))
  intro text' hswaps
  exact pathRun_append .nil (hswaps.stops h)

theorem decides_pathRun (text : List Char) : Decides pathRun text := by
  fun_induction pathRun text with
  | case1 => exact decides_pathRun_of_stops (by simp [Stops])
  | case2 tail ih =>
      have hpair := ih.andThen fun run rest _ => decides_ok (':' :: ':' :: run) rest
      have hsecond : Decides (fun rest => pathRun (':' :: rest)) (':' :: tail) :=
        hpair.cons pathRun_pair
      exact hsecond.cons fun _ => rfl
  | case3 tail hsingle =>
      have hcolon : ':' ∉ tail.head? := by
        cases tail with
        | nil => simp
        | cons c tail =>
            rintro ⟨⟩
            exact hsingle tail rfl
      have hsecond : Decides (fun rest => pathRun (':' :: rest)) tail := by
        apply decides_of_swaps (.error (.stuck []))
        intro text' hswaps
        exact pathRun_single (hswaps.head_ne (by decide) hcolon)
      exact hsecond.cons fun _ => rfl
  | case4 c tail hcolon hword ih =>
      exact (ih.andThen fun run rest _ => decides_ok (c :: run) rest).cons (pathRun_word hword)
  | case5 c tail hcolon hword =>
      apply decides_pathRun_of_stops
      rintro found ⟨⟩
      exact ⟨by simpa using hword, hcolon⟩

/-- Blanks are dropped, and nothing is read. -/
def skipBlank (text : List Char) : Except Fault (Unit × List Char) :=
  .ok ((), text.dropWhile Text.isBlank)

theorem decides_skipBlank (text : List Char) : Decides skipBlank text := by
  rintro _ ⟨⟩
  refine ⟨text.takeWhile Text.isBlank, List.takeWhile_append_dropWhile.symm, fun rest' hrest' => ?_⟩
  have hgap : ∀ c ∈ text.takeWhile Text.isBlank, Text.isBlank c = true :=
    fun c hc => List.mem_takeWhile_imp hc
  have hfront : rest'.dropWhile Text.isBlank = rest' := by
    generalize hrest : text.dropWhile Text.isBlank = rest at hrest'
    cases hrest' with
    | @same c =>
        have hblank : ¬Text.isBlank c = true := by
          have hhead := List.head_dropWhile_not Text.isBlank (l := text) (by simp [hrest])
          simpa [hrest] using hhead
        rw [List.dropWhile_cons_of_neg hblank]
    | nil => rfl
    | foreign hforeign => rw [List.dropWhile_cons_of_neg (by simp [hforeign.2.1])]
  rw [skipBlank, List.dropWhile_append_of_pos hgap, hfront]
  rfl

/-- A run is a path unless nothing is read or a separator stands at one of its ends. -/
def endPath (run rest : List Char) : Except Fault (List Char × List Char) :=
  if run = [] then .error (.stuck rest)
  else if [':', ':'].isPrefixOf run || [':', ':'].isSuffixOf run then .error .emptyPath
  else .ok (run, rest)

theorem decides_endPath (run text : List Char) : Decides (endPath run) text := by
  apply decides_of_swaps (endPath run [])
  intro text' _
  unfold endPath
  split
  · rfl
  · split <;> rfl

theorem outcome_readPath (text : List Char) :
    outcome (readPath text) = andThen skipBlank (fun _ => andThen pathRun endPath) text := by
  change _ = andThen pathRun endPath (text.dropWhile Text.isBlank)
  unfold readPath
  split <;> rename_i hread
  · exact (andThen_of_error hread).symm
  · rw [andThen_of_ok hread, endPath, if_pos rfl]
    rfl
  · rw [andThen_of_ok hread, endPath, if_neg (List.cons_ne_nil _ _)]
    split <;> rfl

theorem decides_readPath (text : List Char) : Decides (fun text => outcome (readPath text)) text := by
  simp only [outcome_readPath]
  exact (decides_skipBlank text).andThen fun _ rest _ =>
    (decides_pathRun rest).andThen fun run after _ => decides_endPath run after

end Paths

section References

variable {text : List Char}

/-- What is read of a reference behind its path and blanks. -/
def endReference (path : List Char) : List Char → Except Fault (TypeRef × List Char)
  | '<' :: inner =>
      andThen (fun text => outcome (readGenerics text))
        (fun generics rest => (ofPath path generics).map fun ref => (ref, rest)) inner
  | rest => (ofPath path []).map fun ref => (ref, rest)

/-- What is read of type arguments behind one of them and blanks. -/
def endGeneric (first : TypeRef) : List Char → Except Fault (List TypeRef × List Char)
  | ',' :: more =>
      andThen (fun text => outcome (readGenerics text))
        (fun others rest => .ok (first :: others, rest)) more
  | '>' :: rest => .ok ([first], rest)
  | rest => .error (.stuck rest)

/-- What is read of a reference behind its path. -/
def afterPath (path rest : List Char) : Except Fault (TypeRef × List Char) :=
  if path = ['_'] then .ok (.unnamed, rest)
  else andThen skipBlank (fun _ => endReference path) rest

theorem outcome_read_eq_andThen (text : List Char) :
    outcome (read text) = andThen (fun text => outcome (readPath text)) afterPath text := by
  rw [outcome_read, andThen]
  congr 1

theorem outcome_readGenerics_eq_andThen (text : List Char) :
    outcome (readGenerics text) =
      andThen (fun text => outcome (read text))
        (fun first => andThen skipBlank fun _ => endGeneric first) text := by
  rw [outcome_readGenerics, andThen]
  congr 1

theorem ofPath_ne_stuck (path : List Char) (generics : List TypeRef) (rest : List Char) :
    ofPath path generics ≠ .error (.stuck rest) := by
  unfold ofPath
  split
  · split <;> simp
  · split
    · split <;> simp
    · simp

theorem map_ofPath_eq_leaving (path : List Char) (generics : List TypeRef) (rest : List Char) :
    (ofPath path generics).map (fun ref => (ref, rest)) =
      leaving rest ((ofPath path generics).map fun ref => (ref, [])) := by
  cases hpath : ofPath path generics with
  | ok ref => rfl
  | error fault =>
      cases fault with
      | stuck rest => exact absurd hpath (ofPath_ne_stuck path generics rest)
      | emptyPath => rfl
      | wrongArity => rfl

theorem endReference_of_ne {path rest : List Char} (h : '<' ∉ rest.head?) :
    endReference path rest = (ofPath path []).map fun ref => (ref, rest) := by
  unfold endReference
  split
  · exact absurd rfl h
  · rfl

theorem endGeneric_of_ne {first : TypeRef} {rest : List Char} (hcomma : ',' ∉ rest.head?)
    (hbracket : '>' ∉ rest.head?) : endGeneric first rest = .error (.stuck rest) := by
  unfold endGeneric
  split
  · exact absurd rfl hcomma
  · exact absurd rfl hbracket
  · rfl

theorem decides_endReference (path : List Char)
    (h : ∀ inner, text = '<' :: inner → Decides (fun text => outcome (readGenerics text)) inner) :
    Decides (endReference path) text := by
  by_cases hbracket : '<' ∈ text.head?
  · obtain ⟨inner, rfl⟩ := List.head?_eq_some_iff.1 hbracket
    have hrest := (h inner rfl).andThen fun generics rest _ =>
      decides_of_swaps _ fun rest' _ => map_ofPath_eq_leaving path generics rest'
    exact hrest.cons fun _ => rfl
  · refine decides_of_swaps ((ofPath path []).map fun ref => (ref, [])) fun text' hswaps => ?_
    rw [endReference_of_ne (hswaps.head_ne (by decide) hbracket)]
    exact map_ofPath_eq_leaving path [] text'

theorem decides_endGeneric (first : TypeRef)
    (h : ∀ more, text = ',' :: more → Decides (fun text => outcome (readGenerics text)) more) :
    Decides (endGeneric first) text := by
  by_cases hcomma : ',' ∈ text.head?
  · obtain ⟨more, rfl⟩ := List.head?_eq_some_iff.1 hcomma
    have hrest := (h more rfl).andThen fun others rest _ => decides_ok (first :: others) rest
    exact hrest.cons fun _ => rfl
  · by_cases hbracket : '>' ∈ text.head?
    · obtain ⟨rest, rfl⟩ := List.head?_eq_some_iff.1 hbracket
      exact (decides_ok [first] rest).cons fun _ => rfl
    · refine decides_of_swaps (.error (.stuck [])) fun text' hswaps => ?_
      exact endGeneric_of_ne (hswaps.head_ne (by decide) hcomma)
        (hswaps.head_ne (by decide) hbracket)

mutual

/-- References are read without a look past the first character that is left. -/
theorem decides_read (text : List Char) : Decides (fun text => outcome (read text)) text := by
  simp only [outcome_read_eq_andThen]
  refine (decides_readPath text).andThen fun path rest hread => ?_
  unfold afterPath
  split
  · exact decides_ok _ rest
  · refine (decides_skipBlank rest).andThen fun _ dropped hdropped => ?_
    cases hdropped
    refine decides_endReference path fun inner hinner => ?_
    have hshorter := length_lt_of_dropBlank hread hinner
    exact decides_readGenerics inner
termination_by (text.length, 0)

/-- So are type arguments. -/
theorem decides_readGenerics (text : List Char) :
    Decides (fun text => outcome (readGenerics text)) text := by
  simp only [outcome_readGenerics_eq_andThen]
  refine (decides_read text).andThen fun first rest hread => ?_
  refine (decides_skipBlank rest).andThen fun _ dropped hdropped => ?_
  cases hdropped
  refine decides_endGeneric first fun more hmore => ?_
  have hshorter := length_lt_of_dropBlank hread hmore
  exact decides_readGenerics more
termination_by (text.length, 1)

end

end References

section Texts

variable {text rest : List Char} {input : String} {fault : Fault} {found : Char} {offset : Nat}

/-- A reference and the blanks behind it. -/
def readSpaced : List Char → Except Fault (TypeRef × List Char) :=
  andThen (fun text => outcome (read text)) fun ref => andThen skipBlank fun _ rest => .ok (ref, rest)

theorem decides_readSpaced (text : List Char) : Decides readSpaced text :=
  (decides_read text).andThen fun ref rest _ =>
    (decides_skipBlank rest).andThen fun _ after _ => decides_ok ref after

/-- A text is not read because of a fault: in its reference, or at what stands behind it. -/
inductive Fails (text : List Char) : Fault → Prop
  | inside {fault : Fault} : readSpaced text = .error fault → Fails text fault
  | behind {ref : TypeRef} {c : Char} {rest : List Char} :
      readSpaced text = .ok (ref, c :: rest) → Fails text (.stuck (c :: rest))

theorem parse_eq_error_iff {error : TypeRefError} :
    parse input = .error error ↔ ∃ fault, Fails input.toList fault ∧ fault.toError input = error := by
  unfold parse
  cases hread : read input.toList with
  | error fault =>
      have hspaced : readSpaced input.toList = .error fault :=
        andThen_of_error (by rw [hread]; rfl)
      constructor
      · rintro ⟨⟩
        exact ⟨fault, .inside hspaced, rfl⟩
      · rintro ⟨fault', hfails, rfl⟩
        cases hfails with
        | inside hspaced' =>
            cases hspaced.symm.trans hspaced'
            rfl
        | behind hspaced' => cases hspaced.symm.trans hspaced'
  | ok result =>
      obtain ⟨⟨ref, rest⟩, shorter⟩ := result
      have hspaced : readSpaced input.toList = .ok (ref, rest.dropWhile Text.isBlank) :=
        andThen_of_ok (by rw [hread]; rfl)
      dsimp only
      constructor
      · intro h
        split at h
        · cases h
        · rename_i hne
          cases h
          obtain ⟨c, after, hrest⟩ := List.exists_cons_of_ne_nil hne
          rw [hrest] at hspaced ⊢
          exact ⟨_, .behind hspaced, rfl⟩
      · rintro ⟨fault, hfails, rfl⟩
        cases hfails with
        | inside hspaced' => cases hspaced.symm.trans hspaced'
        | behind hspaced' =>
            have hpair := Except.ok.inj (hspaced.symm.trans hspaced')
            obtain ⟨-, hrest⟩ := Prod.mk.inj hpair
            rw [hrest]

/-- Where a text is stuck, every text that may stand in its place is. -/
theorem Fails.exists_front (h : Fails text (.stuck rest)) :
    ∃ front, text = front ++ rest ∧
      ∀ rest', Swaps rest rest' → Fails (front ++ rest') (.stuck rest') := by
  cases h with
  | inside hspaced =>
      obtain ⟨front, htext, hswaps⟩ := decides_readSpaced text rest (by rw [hspaced]; rfl)
      rw [hspaced] at hswaps
      exact ⟨front, htext, fun rest' hrest' => .inside (hswaps rest' hrest')⟩
  | @behind ref c rest hspaced =>
      obtain ⟨front, htext, hswaps⟩ := decides_readSpaced text (c :: rest) (by rw [hspaced]; rfl)
      rw [hspaced] at hswaps
      refine ⟨front, htext, fun rest' hrest' => ?_⟩
      cases hrest' with
      | same => exact .behind (hswaps _ .same)

theorem toError_eq_unexpectedEnd_iff :
    fault.toError input = .unexpectedEnd ↔ fault = .stuck [] := by
  cases fault with
  | stuck rest => cases rest <;> simp [Fault.toError]
  | emptyPath => simp [Fault.toError]
  | wrongArity => simp [Fault.toError]

theorem exists_of_toError_eq_unexpectedChar (h : fault.toError input = .unexpectedChar found offset) :
    ∃ rest, fault = .stuck (found :: rest) := by
  cases fault with
  | stuck rest =>
      cases rest with
      | nil => cases h
      | cons c rest =>
          cases h
          exact ⟨rest, rfl⟩
  | emptyPath => cases h
  | wrongArity => cases h

/-- The offset of a culprit is the size of the text before it. -/
theorem toError_stuck {front : List Char} (h : input.toList = front ++ found :: rest) :
    (Fault.stuck (found :: rest)).toError input =
      .unexpectedChar found (String.ofList front).utf8ByteSize := by
  have hinput : input = String.ofList front ++ String.ofList (found :: rest) := by
    rw [← String.ofList_append, ← h, String.ofList_toList]
  rw [Fault.toError, hinput, String.utf8ByteSize_append]
  simp

/-- Whatever comes behind a culprit, it stays the culprit. -/
theorem Fails.parse_eq_of_front {front : List Char} {other : String}
    (h : ∀ rest', Swaps (found :: rest) rest' → Fails (front ++ rest') (.stuck rest'))
    (hother : front ++ [found] <+: other.toList) :
    parse other = .error (.unexpectedChar found (String.ofList front).utf8ByteSize) := by
  obtain ⟨after, hafter⟩ := hother
  rw [List.append_assoc, List.singleton_append] at hafter
  exact parse_eq_error_iff.2 ⟨_, hafter ▸ h (found :: after) .same, toError_stuck hafter.symm⟩

/-- An unexpected character stands at its offset, and every text that begins alike has it there. -/
theorem exists_culprit (h : parse input = .error (.unexpectedChar found offset)) :
    ∃ front after, input.toList = front ++ found :: after ∧
      offset = (String.ofList front).utf8ByteSize ∧
      ∀ other : String, front ++ [found] <+: other.toList →
        parse other = .error (.unexpectedChar found offset) := by
  obtain ⟨fault, hfails, herror⟩ := parse_eq_error_iff.1 h
  obtain ⟨after, rfl⟩ := exists_of_toError_eq_unexpectedChar herror
  obtain ⟨front, hinput, hswaps⟩ := hfails.exists_front
  obtain ⟨-, rfl⟩ := TypeRefError.unexpectedChar.inj (herror.symm.trans (toError_stuck hinput))
  exact ⟨front, after, hinput, rfl, fun other => Fails.parse_eq_of_front hswaps⟩

/-- No text that begins one that ends too early has an unexpected character. -/
theorem parse_ne_unexpectedChar {start : String} (h : parse input = .error .unexpectedEnd)
    (hstart : start.toList <+: input.toList) :
    parse start ≠ .error (.unexpectedChar found offset) := by
  intro hfails
  obtain ⟨front, after, htext, -, hothers⟩ := exists_culprit hfails
  have hfront : front ++ [found] <+: start.toList := ⟨after, by simp [htext]⟩
  cases (hothers input (hfront.trans hstart)).symm.trans h

/-- A foreign character behind a text that ends too early is unexpected. -/
theorem Foreign.parse_push (h : Foreign found) (hinput : parse input = .error .unexpectedEnd) :
    parse (input.push found) = .error (.unexpectedChar found input.utf8ByteSize) := by
  obtain ⟨fault, hfails, herror⟩ := parse_eq_error_iff.1 hinput
  obtain rfl := toError_eq_unexpectedEnd_iff.1 herror
  obtain ⟨front, htext, hswaps⟩ := hfails.exists_front
  rw [List.append_nil] at htext
  subst htext
  have hpush : (input.push found).toList = input.toList ++ [found] := by simp
  refine parse_eq_error_iff.2 ⟨_, hpush ▸ hswaps [found] (.foreign h), ?_⟩
  rw [toError_stuck hpush, String.ofList_toList]

/-- Errors point at the culprit. An unexpected character stands at its offset, and every text that
begins alike fails there as well; a text that ends too early is at fault nowhere before its end, and is
at fault there as soon as a character follows that is part of no reference. -/
theorem parse_points_at_culprit (input : String) :
    (∀ found offset, parse input = .error (.unexpectedChar found offset) →
      ∃ front after, input.toList = front ++ found :: after ∧
        offset = (String.ofList front).utf8ByteSize ∧
        ∀ other : String, front ++ [found] <+: other.toList →
          parse other = .error (.unexpectedChar found offset)) ∧
    (parse input = .error .unexpectedEnd →
      (∀ start : String, start.toList <+: input.toList →
        ∀ found offset, parse start ≠ .error (.unexpectedChar found offset)) ∧
      ∀ c, Text.isAlphanumeric c = false → Text.isBlank c = false → c ∉ ['_', ':', '<', '>', ','] →
        parse (input.push c) = .error (.unexpectedChar c input.utf8ByteSize)) := by
  refine ⟨fun found offset => exists_culprit, fun hend => ⟨?_, ?_⟩⟩
  · intro start hstart found offset
    exact parse_ne_unexpectedChar hend hstart
  · intro c halphanumeric hblank hmarks
    exact Foreign.parse_push ⟨halphanumeric, hblank, hmarks⟩ hend

/-- A reference is not read where its first type argument is not. -/
theorem readSpaced_of_readGenerics {path inner : List Char} (hname : path ≠ ['_'])
    (hpath : outcome (readPath text) = .ok (path, '<' :: inner))
    (hgenerics : outcome (readGenerics inner) = .error fault) : readSpaced text = .error fault := by
  apply andThen_of_error
  rw [outcome_read_eq_andThen, andThen_of_ok hpath, afterPath, if_neg hname]
  have hbracket : skipBlank ('<' :: inner) = .ok ((), '<' :: inner) := rfl
  rw [andThen_of_ok hbracket, endReference]
  exact andThen_of_error hgenerics

/-- A separator that is cut short inside type arguments, and type arguments that do not end. -/
theorem mapRefs_culprit :
    parse "Map<é:ß>" = .error (.unexpectedChar 'ß' 7) ∧
    (∃ front after, "Map<é:ß>".toList = front ++ 'ß' :: after ∧
      7 = (String.ofList front).utf8ByteSize ∧
      ∀ other : String, front ++ ['ß'] <+: other.toList →
        parse other = .error (.unexpectedChar 'ß' 7)) ∧
    parse "Map<Car" = .error .unexpectedEnd ∧
    parse ("Map<Car".push ';') = .error (.unexpectedChar ';' 7) := by
  have hseparator : parse "Map<é:ß>" = .error (.unexpectedChar 'ß' 7) := by
    have hpath : outcome (readPath "Map<é:ß>".toList) = .ok ("Map".toList, "<é:ß>".toList) := rfl
    have hread : outcome (readPath "é:ß>".toList) = .error (.stuck "ß>".toList) := rfl
    have hgenerics : outcome (readGenerics "é:ß>".toList) = .error (.stuck "ß>".toList) := by
      rw [outcome_readGenerics_eq_andThen, andThen_of_error]
      rw [outcome_read_eq_andThen, andThen_of_error hread]
    exact parse_eq_error_iff.2
      ⟨_, .inside (readSpaced_of_readGenerics (by decide) hpath hgenerics), by decide⟩
  have hends : parse "Map<Car" = .error .unexpectedEnd := by
    have hpath : outcome (readPath "Map<Car".toList) = .ok ("Map".toList, "<Car".toList) := rfl
    have hread : outcome (readPath "Car".toList) = .ok ("Car".toList, []) := rfl
    have hgenerics : outcome (readGenerics "Car".toList) = .error (.stuck []) := by
      have hcar : outcome (read "Car".toList) = .ok (.named "Car" [], []) := by
        rw [outcome_read_eq_andThen, andThen_of_ok hread]
        rfl
      rw [outcome_readGenerics_eq_andThen, andThen_of_ok hcar]
      rfl
    exact parse_eq_error_iff.2
      ⟨_, .inside (readSpaced_of_readGenerics (by decide) hpath hgenerics), by decide⟩
  refine ⟨hseparator, (parse_points_at_culprit _).1 _ _ hseparator, hends, ?_⟩
  exact ((parse_points_at_culprit _).2 hends).2 ';' (by decide) (by decide) (by decide)

end Texts

end SchemaCoverage.Host.TypeRef
