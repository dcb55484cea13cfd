import SchemaCoverage.Declaration.MemberName
import Mathlib.Data.List.Basic
import Mathlib.Data.List.Induction
/-!
Member names told place by place. The name has the characters of the identifier that are no
underscores, in their order, and a character is in upper case just if it directly follows an
underscore that is not among the leading ones. Upper-casing makes no underscores and no hashes of
other characters, so that a member name is the member name of itself.
-/
namespace SchemaCoverage.Declaration

variable {text front : List Char} {c d : Char}

/-- The character at a place begins a part that is not the first: it directly follows an underscore,
and before that there is a character that is none. -/
def BeginsLaterPart (text : List Char) : Nat → Prop
  | 0 => False
  | place + 1 => text[place]? = some '_' ∧ ∃ c ∈ text.take place, c ≠ '_'

instance (text : List Char) (place : Nat) : Decidable (BeginsLaterPart text place) :=
  match place with
  | 0 => .isFalse id
  | place + 1 =>
      decidable_of_iff (text[place]? = some '_' ∧ (text.take place).any (· != '_') = true)
        (by simp [BeginsLaterPart])

/-- The characters of a text that are no underscores, each with its place. -/
def keptPlaces (text : List Char) : List (Char × Nat) :=
  text.zipIdx.filter fun (c, _) => c != '_'

/-- What is written for a character at a place. -/
def writtenAt (text : List Char) : Char × Nat → List Char
  | (c, place) => if BeginsLaterPart text place then Text.upperCase c else [c]

/-- A text in camel case, place by place. -/
def camelCase (text : List Char) : List Char :=
  (keptPlaces text).flatMap (writtenAt text)

/-- How far a text is read: before its first part, inside a part, or past the underscore that ended
one. -/
inductive Stage
  | leading
  | inside
  | between
deriving DecidableEq

namespace Stage

variable {stage : Stage}

/-- The stage after one more character. -/
def next (stage : Stage) (c : Char) : Stage :=
  if c ≠ '_' then .inside else if stage = .leading then .leading else .between

/-- What is written for one more character. -/
def write (stage : Stage) (c : Char) : List Char :=
  if c = '_' then [] else if stage = .between then Text.upperCase c else [c]

/-- What is written for the pieces that are still to come. Inside a part the first of them is the
rest of this part. -/
def join : Stage → List (List Char) → List Char
  | .leading, pieces => joinParts (pieces.filter fun part => !part.isEmpty)
  | .inside, pieces =>
      pieces.headD [] ++ (pieces.tail.filter fun part => !part.isEmpty).flatMap capitalize
  | .between, pieces => (pieces.filter fun part => !part.isEmpty).flatMap capitalize

/-- The stage after the front of a text. -/
def after (front : List Char) : Stage :=
  front.foldl next .leading

theorem join_cons (stage : Stage) (c : Char) (rest : List Char) :
    stage.join (splitUnderscores (c :: rest)) =
      stage.write c ++ (stage.next c).join (splitUnderscores rest) := by
  by_cases hc : c = '_'
  · subst hc
    cases stage <;> simp [splitUnderscores, join, write, next]
  · obtain ⟨first, others, hrest⟩ := List.exists_cons_of_ne_nil (splitUnderscores_ne_nil rest)
    have hsplit : splitUnderscores (c :: rest) = (c :: first) :: others := by
      simp [splitUnderscores, hrest]
    rw [hsplit, hrest]
    cases stage <;> simp [join, write, next, joinParts, capitalize, hc]

theorem next_eq_leading_iff : stage.next c = .leading ↔ c = '_' ∧ stage = .leading := by
  by_cases hc : c = '_'
  · cases stage <;> simp [next, hc]
  · simp [next, hc]

theorem next_eq_between_iff : stage.next c = .between ↔ c = '_' ∧ stage ≠ .leading := by
  by_cases hc : c = '_'
  · cases stage <;> simp [next, hc]
  · simp [next, hc]

theorem after_concat (front : List Char) (c : Char) :
    after (front ++ [c]) = (after front).next c := by
  simp [after]

theorem after_eq_leading_iff : after front = .leading ↔ ∀ c ∈ front, c = '_' := by
  induction front using List.reverseRecOn with
  | nil => simp [after]
  | append_singleton front c ih =>
      rw [after_concat, next_eq_leading_iff, ih, List.forall_mem_append, List.forall_mem_singleton]
      exact and_comm

/-- The stage tells which characters begin later parts. -/
theorem after_eq_between_iff (front rest : List Char) :
    after front = .between ↔ BeginsLaterPart (front ++ rest) front.length := by
  induction front using List.reverseRecOn with
  | nil => simp [after, BeginsLaterPart]
  | append_singleton front c _ =>
      have hbegins : BeginsLaterPart (front ++ [c] ++ rest) (front ++ [c]).length ↔
          c = '_' ∧ ∃ d ∈ front, d ≠ '_' := by
        simp [BeginsLaterPart]
      rw [after_concat, next_eq_between_iff, hbegins, Ne, after_eq_leading_iff]
      simp

theorem write_after (front rest : List Char) (hc : c ≠ '_') :
    (after front).write c = writtenAt (front ++ rest) (c, front.length) := by
  simp [write, writtenAt, hc, after_eq_between_iff front rest]

/-- The pieces of the rest of a text are written place by place. -/
theorem join_after (front rest : List Char) :
    (after front).join (splitUnderscores rest) =
      ((rest.zipIdx front.length).filter fun (c, _) => c != '_').flatMap
        (writtenAt (front ++ rest)) := by
  -- What is read goes to the front, so that the text stays the same.
  induction rest generalizing front with
  | nil => cases after front <;> rfl
  | cons c rest ih =>
      have hrest := ih (front ++ [c])
      rw [after_concat, List.length_append, List.append_assoc] at hrest
      rw [join_cons, hrest, List.zipIdx_cons]
      by_cases hc : c = '_'
      · simp [write, hc]
      · simp [write_after front (c :: rest) hc, hc]

end Stage

/-- The name of a member is its identifier in camel case. -/
theorem toList_memberName (identifier : String) :
    (memberName identifier).toList = camelCase (withoutRawMark identifier.toList) := by
  have hjoin := Stage.join_after [] (withoutRawMark identifier.toList)
  simpa [memberName, camelCase, keptPlaces, Stage.after, Stage.join] using hjoin

theorem mem_of_mem_keptPlaces {place : Nat} (h : (c, place) ∈ keptPlaces text) :
    c ∈ text ∧ c ≠ '_' := by
  obtain ⟨hplace, hc⟩ := List.mem_filter.1 h
  exact ⟨List.fst_mem_of_mem_zipIdx hplace, by simpa using hc⟩

theorem mem_camelCase (h : d ∈ camelCase text) :
    ∃ c ∈ text, c ≠ '_' ∧ (d = c ∨ d ∈ Text.upperCase c) := by
  obtain ⟨⟨c, place⟩, hkept, hd⟩ := List.mem_flatMap.1 h
  obtain ⟨hmem, hc⟩ := mem_of_mem_keptPlaces hkept
  refine ⟨c, hmem, hc, ?_⟩
  by_cases hbegins : BeginsLaterPart text place
  · right
    simpa [writtenAt, hbegins] using hd
  · left
    simpa [writtenAt, hbegins] using hd

/-- Neither an underscore nor a hash comes from another character. -/
theorem eq_of_underscore_or_hash (hd : d = '_' ∨ d = '#') (h : d = c ∨ d ∈ Text.upperCase c) :
    d = c := by
  obtain h | h := h
  · exact h
  · apply Text.eq_of_mem_upperCase _ _ _ h
    all_goals obtain rfl | rfl := hd <;> decide

theorem underscore_not_mem_camelCase (text : List Char) : '_' ∉ camelCase text := by
  intro h
  obtain ⟨c, -, hc, hcomes⟩ := mem_camelCase h
  exact hc (eq_of_underscore_or_hash (.inl rfl) hcomes).symm

theorem hash_not_mem_camelCase (h : '#' ∉ text) : '#' ∉ camelCase text := by
  intro hhash
  obtain ⟨c, hc, -, hcomes⟩ := mem_camelCase hhash
  exact h (eq_of_underscore_or_hash (.inr rfl) hcomes ▸ hc)

/-- Of ASCII characters, each that is kept stays one character. -/
theorem camelCase_of_ascii (h : ∀ c ∈ text, c.toNat < 0x80) :
    camelCase text = (keptPlaces text).map fun (c, place) =>
      if BeginsLaterPart text place then c.toUpper else c := by
  have hwritten : ∀ kept ∈ keptPlaces text, writtenAt text kept =
      [if BeginsLaterPart text kept.2 then kept.1.toUpper else kept.1] := by
    rintro ⟨c, place⟩ hkept
    have hc : c.toNat < 0x80 := h c (mem_of_mem_keptPlaces hkept).1
    by_cases hbegins : BeginsLaterPart text place
    · simp [writtenAt, hbegins, Text.upperCase_of_ascii hc]
    · simp [writtenAt, hbegins]
  rw [camelCase, List.map_eq_flatMap]
  exact List.flatMap_congr hwritten

theorem withoutRawMark_of_not_mem (h : '#' ∉ text) : withoutRawMark text = text := by
  fun_cases withoutRawMark text with
  | case1 name => simp at h
  | case2 => rfl

/-- What has neither underscores nor hashes is a member name already. -/
theorem memberName_eq_self {name : String} (hunderscore : '_' ∉ name.toList)
    (hhash : '#' ∉ name.toList) : memberName name = name := by
  have hsplit : memberName name =
      String.ofList (joinParts ([name.toList].filter fun part => !part.isEmpty)) := by
    unfold memberName
    rw [withoutRawMark_of_not_mem hhash, splitUnderscores_eq_singleton hunderscore]
  have hparts : joinParts ([name.toList].filter fun part => !part.isEmpty) = name.toList := by
    by_cases hempty : name.toList = []
    · simp [hempty, joinParts]
    · simp [hempty, joinParts]
  rw [hsplit, hparts, String.ofList_toList]

/-- The name of a member, also of one with a raw identifier, has no underscores and is the name of
itself. For an ASCII identifier it has the other characters of the identifier, in upper case just
where a later part begins. -/
theorem memberName_camelCase {name identifier : String} (hname : '#' ∉ name.toList)
    (hidentifier : identifier = name ∨ identifier = "r#" ++ name) :
    '_' ∉ (memberName identifier).toList ∧
      memberName (memberName identifier) = memberName identifier ∧
      ((∀ c ∈ name.toList, c.toNat < 0x80) →
        (memberName identifier).toList = (keptPlaces name.toList).map fun (c, place) =>
          if BeginsLaterPart name.toList place then c.toUpper else c) := by
  have hraw : withoutRawMark identifier.toList = name.toList := by
    obtain rfl | rfl := hidentifier
    · exact withoutRawMark_of_not_mem hname
    · rw [String.toList_append]
      rfl
  have hcamel : (memberName identifier).toList = camelCase name.toList := by
    rw [toList_memberName, hraw]
  have hunderscore : '_' ∉ (memberName identifier).toList := by
    rw [hcamel]
    exact underscore_not_mem_camelCase name.toList
  refine ⟨hunderscore, memberName_eq_self hunderscore ?_, ?_⟩
  · rw [hcamel]
    exact hash_not_mem_camelCase hname
  · intro hascii
    rw [hcamel]
    exact camelCase_of_ascii hascii

/-- Runs of underscores, a part that begins with a digit, and one that begins with a capital. -/
theorem rawPage_camelCase :
    '#' ∉ "__html__page_2d_ID_".toList ∧ (∀ c ∈ "__html__page_2d_ID_".toList, c.toNat < 0x80) ∧
      '_' ∉ (memberName "r#__html__page_2d_ID_").toList ∧
      memberName (memberName "r#__html__page_2d_ID_") = memberName "r#__html__page_2d_ID_" ∧
      (memberName "r#__html__page_2d_ID_").toList = "htmlPage2dID".toList := by
  have hname : '#' ∉ "__html__page_2d_ID_".toList := by decide +kernel
  have hascii : ∀ c ∈ "__html__page_2d_ID_".toList, c.toNat < 0x80 := by simp
  obtain ⟨hunderscore, hagain, hplaces⟩ := memberName_camelCase hname (.inr rfl)
  exact ⟨hname, hascii, hunderscore, hagain, (hplaces hascii).trans (by decide +kernel)⟩

end SchemaCoverage.Declaration
