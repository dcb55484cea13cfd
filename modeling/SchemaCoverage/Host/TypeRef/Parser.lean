import SchemaCoverage.Text.Alphanumeric
import SchemaCoverage.Text.CodePoints
import SchemaCoverage.Host.TypeRef
/-!
Reading host type references. Blanks may stand between the tokens, which are paths and the
characters `<`, `>` and `,`. Reading goes from left to right and stops at the first fault.
-/
namespace SchemaCoverage.Host

/-- Why a text is no host type reference. Offsets count the bytes of the text in UTF-8. -/
inductive TypeRefError
  | emptyPath
  | wrongArity (wrapper : String)
  | unexpectedChar (found : Char) (offset : Nat)
  | unexpectedEnd
deriving Repr, DecidableEq

/-- The error in words, for a reader who sees the text. -/
def TypeRefError.message (input : String) : TypeRefError → String
  | .emptyPath => "Empty type path in `" ++ input ++ "`"
  | .wrongArity wrapper =>
      "`" ++ wrapper ++ "` expects exactly one type argument in `" ++ input ++ "`"
  | .unexpectedChar found offset =>
      "Unexpected `" ++ found.toString ++ "` at offset " ++ toString offset ++ " in `" ++ input ++
        "`"
  | .unexpectedEnd => "Unexpected end of input in `" ++ input ++ "`"

namespace TypeRef

/-- A fault while reading; `stuck` keeps the text from the culprit on. -/
inductive Fault
  | emptyPath
  | wrongArity (wrapper : List Char)
  | stuck (rest : List Char)
deriving Repr, DecidableEq

/-- A character of a path segment. -/
def isWordChar (c : Char) : Bool :=
  Text.isAlphanumeric c || c == '_'

/-- The longest run of segment characters and `::` pairs, and what follows it. A single colon is
a fault at the character after it. -/
def pathRun : List Char → Except Fault (List Char × List Char)
  | [] => .ok ([], [])
  | ':' :: rest =>
      match rest with
      | ':' :: rest => (pathRun rest).map fun (run, rest) => (':' :: ':' :: run, rest)
      | rest => .error (.stuck rest)
  | c :: rest =>
      if isWordChar c then (pathRun rest).map fun (run, rest) => (c :: run, rest)
      else .ok ([], c :: rest)

/-- The run takes from the text what it does not leave. -/
theorem length_pathRun {text run rest : List Char} (h : pathRun text = .ok (run, rest)) :
    run.length + rest.length = text.length := by
  fun_induction pathRun text generalizing run rest with
  | case1 => simp_all
  | case2 tail ih =>
      cases hr : pathRun tail with
      | error e => simp [hr, Except.map] at h
      | ok p =>
          simp only [hr, Except.map, Except.ok.injEq, Prod.mk.injEq] at h
          obtain ⟨rfl, rfl⟩ := h
          have := ih hr
          simp only [List.length_cons]
          omega
  | case3 => simp at h
  | case4 c tail _ _ ih =>
      cases hr : pathRun tail with
      | error e => simp [hr, Except.map] at h
      | ok p =>
          simp only [hr, Except.map, Except.ok.injEq, Prod.mk.injEq] at h
          obtain ⟨rfl, rfl⟩ := h
          have := ih hr
          simp only [List.length_cons]
          omega
  | case5 => simp_all

/-- What a reader returns: a value and a rest shorter than the text it was given. -/
abbrev Read (α : Type) (text : List Char) :=
  Except Fault { result : α × List Char // result.2.length < text.length }

theorem length_dropBlank (text : List Char) : (text.dropWhile Text.isBlank).length ≤ text.length :=
  (List.dropWhile_sublist _).length_le

/-- Reads a path: no blank inside, some segment character or `::`, and neither a leading nor a
trailing `::`. -/
def readPath (text : List Char) : Read (List Char) text :=
  match h : pathRun (text.dropWhile Text.isBlank) with
  | .error fault => .error fault
  | .ok ([], rest) => .error (.stuck rest)
  | .ok (c :: run, rest) =>
      if [':', ':'].isPrefixOf (c :: run) || [':', ':'].isSuffixOf (c :: run) then .error .emptyPath
      else .ok ⟨(c :: run, rest), by
        have := length_pathRun h
        have := length_dropBlank text
        simp only [List.length_cons] at *
        omega⟩

/-- What a path with type arguments denotes: lists and optional values have names of their own. -/
def ofPath (path : List Char) (generics : List TypeRef) : Except Fault TypeRef :=
  if path = "Vec".toList then
    match generics with
    | [element] => .ok (.list element)
    | _ => .error (.wrongArity path)
  else if path = "Option".toList then
    match generics with
    | [value] => .ok (.optional value)
    | _ => .error (.wrongArity path)
  else .ok (.named (String.ofList path) generics)

mutual

/-- Reads one reference. The path `_` takes no type arguments. -/
def read (text : List Char) : Read TypeRef text :=
  match readPath text with
  | .error fault => .error fault
  | .ok ⟨(path, rest), shorter⟩ =>
      if path = ['_'] then .ok ⟨(.unnamed, rest), shorter⟩
      else
        match dropped : rest.dropWhile Text.isBlank with
        | '<' :: inner =>
            have innerShorter : inner.length < text.length := by
              have := length_dropBlank rest
              simp only [dropped, List.length_cons] at this
              simp only at shorter
              omega
            match readGenerics inner with
            | .error fault => .error fault
            | .ok ⟨(generics, after), afterShorter⟩ =>
                match ofPath path generics with
                | .error fault => .error fault
                | .ok ref => .ok ⟨(ref, after), Nat.lt_trans afterShorter innerShorter⟩
        | other =>
            match ofPath path [] with
            | .error fault => .error fault
            | .ok ref => .ok ⟨(ref, other), by
                have := length_dropBlank rest
                simp only [dropped] at this
                simp only at shorter ⊢
                omega⟩
termination_by (text.length, 0)

/-- Reads references up to the closing angle bracket, with a comma after each but the last. -/
def readGenerics (text : List Char) : Read (List TypeRef) text :=
  match read text with
  | .error fault => .error fault
  | .ok ⟨(first, rest), shorter⟩ =>
      match dropped : rest.dropWhile Text.isBlank with
      | ',' :: more =>
          have moreShorter : more.length < text.length := by
            have := length_dropBlank rest
            simp only [dropped, List.length_cons] at this
            simp only at shorter
            omega
          match readGenerics more with
          | .error fault => .error fault
          | .ok ⟨(others, after), afterShorter⟩ =>
              .ok ⟨(first :: others, after), Nat.lt_trans afterShorter moreShorter⟩
      | '>' :: after => .ok ⟨([first], after), by
          have := length_dropBlank rest
          simp only [dropped, List.length_cons] at this
          simp only at shorter ⊢
          omega⟩
      | other => .error (.stuck other)
termination_by (text.length, 1)

end

/-- The error that a fault is, in a text of which it leaves a rest. -/
def Fault.toError (input : String) : Fault → TypeRefError
  | .emptyPath => .emptyPath
  | .wrongArity wrapper => .wrongArity (String.ofList wrapper)
  | .stuck [] => .unexpectedEnd
  | .stuck (c :: rest) =>
      .unexpectedChar c (input.utf8ByteSize - (String.ofList (c :: rest)).utf8ByteSize)

/-- Reads a whole text; only blanks may follow the reference. -/
def parse (input : String) : Except TypeRefError TypeRef :=
  match read input.toList with
  | .error fault => .error (fault.toError input)
  | .ok ⟨(ref, rest), _⟩ =>
      match rest.dropWhile Text.isBlank with
      | [] => .ok ref
      | other => .error ((Fault.stuck other).toError input)

end TypeRef

end SchemaCoverage.Host
