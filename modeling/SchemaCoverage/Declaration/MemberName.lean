import SchemaCoverage.Text.UpperCase
/-!
Names of members: an identifier of underscored parts is written in lower camel case.
-/
namespace SchemaCoverage.Declaration

/-- The pieces of a text between underscores. -/
def splitUnderscores : List Char → List (List Char)
  | [] => [[]]
  | '_' :: rest => [] :: splitUnderscores rest
  | c :: rest =>
      match splitUnderscores rest with
      | [] => [[c]]
      | first :: others => (c :: first) :: others

/-- The identifier without the mark that makes a keyword an identifier. -/
def withoutRawMark : List Char → List Char
  | 'r' :: '#' :: name => name
  | name => name

/-- A part with its first character in upper case. -/
def capitalize : List Char → List Char
  | [] => []
  | c :: rest => Text.upperCase c ++ rest

/-- Parts joined to one name: all but the first begin in upper case. -/
def joinParts : List (List Char) → List Char
  | [] => []
  | first :: others => first ++ others.flatMap capitalize

/-- The name of the member that an identifier stands for. Underscores only divide parts, and empty
parts do not count. -/
def memberName (identifier : String) : String :=
  let parts := splitUnderscores (withoutRawMark identifier.toList)
  String.ofList (joinParts (parts.filter fun part => !part.isEmpty))

theorem splitUnderscores_ne_nil (text : List Char) : splitUnderscores text ≠ [] := by
  fun_cases splitUnderscores text <;> simp_all

/-- A text without underscores is one part. -/
theorem splitUnderscores_eq_singleton {text : List Char} (h : '_' ∉ text) :
    splitUnderscores text = [text] := by
  fun_induction splitUnderscores text with
  | case1 => rfl
  | case2 => simp at h
  | case3 c rest _ hrest ih =>
      simp only [List.mem_cons, not_or] at h
      simp [ih h.2] at hrest
  | case4 c rest _ first others hrest ih =>
      simp only [List.mem_cons, not_or] at h
      rw [ih h.2] at hrest
      simp only [List.cons.injEq] at hrest
      simp [← hrest.1, ← hrest.2]

end SchemaCoverage.Declaration
