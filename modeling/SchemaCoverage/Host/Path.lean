/-!
Paths of host types: segments joined by `::`. The last segment is the simple name, what stands
before it is the module.
-/
namespace SchemaCoverage.Host

/-- The text before and after the last `::`, if there is one. -/
def splitLast : List Char → Option (List Char × List Char)
  | [] => none
  | c :: rest =>
      match splitLast rest with
      | some (before, after) => some (c :: before, after)
      | none =>
          match c, rest with
          | ':', ':' :: after => some ([], after)
          | _, _ => none

/-- The pieces between the occurrences of `::`, which are taken from the left. -/
def segments : List Char → List (List Char)
  | [] => [[]]
  | ':' :: ':' :: rest => [] :: segments rest
  | c :: rest =>
      match segments rest with
      | [] => [[c]]
      | first :: others => (c :: first) :: others

/-- The last segment of a path. -/
def simpleName (path : String) : String :=
  match splitLast path.toList with
  | some (_, name) => String.ofList name
  | none => path

/-- What stands before the last segment of a path; nothing if there is only one. -/
def moduleOf (path : String) : String :=
  match splitLast path.toList with
  | some (before, _) => String.ofList before
  | none => ""

/-- A path whose segments all have characters. -/
def isValidPath (path : String) : Bool :=
  (segments path.toList).all fun segment => !segment.isEmpty

theorem segments_ne_nil (path : List Char) : segments path ≠ [] := by
  fun_cases segments path <;> simp_all

/-- A character with which no separator begins belongs to the first segment. -/
theorem segments_cons {c : Char} {rest first : List Char} {others : List (List Char)}
    (h : ¬[':', ':'] <+: c :: rest) (hrest : segments rest = first :: others) :
    segments (c :: rest) = (c :: first) :: others := by
  rw [segments, hrest]
  rintro after rfl rfl
  exact h ⟨after, rfl⟩

/-- Joined by `::`, the two parts of a split give the path back. -/
theorem eq_of_splitLast {path before after : List Char}
    (h : splitLast path = some (before, after)) : path = before ++ ':' :: ':' :: after := by
  fun_induction splitLast path generalizing before with
  | case1 => simp at h
  | case2 c rest b a hrest ih =>
      simp only [Option.some.injEq, Prod.mk.injEq] at h
      obtain ⟨rfl, rfl⟩ := h
      simp [ih hrest]
  | case3 rest hrest after' => simp_all
  | case4 => simp at h

end SchemaCoverage.Host
