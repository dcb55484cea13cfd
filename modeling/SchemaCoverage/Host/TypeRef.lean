import SchemaCoverage.Host.Path
/-!
References to host types as they stand in signatures: what a method returns or a member holds.
-/
namespace SchemaCoverage.Host

/-- A host type reference. -/
inductive TypeRef
  /-- A type that tells nothing of its shape, written `_`. -/
  | unnamed
  /-- The type at a path with its type arguments. -/
  | named (path : String) (generics : List TypeRef)
  /-- A sequence, written `Vec<..>`. -/
  | list (element : TypeRef)
  /-- A value that may be missing, written `Option<..>`. -/
  | optional (value : TypeRef)
deriving Repr, Inhabited

namespace TypeRef

mutual

/-- Equality of references is decidable. -/
def decideEq : (a b : TypeRef) → Decidable (a = b)
  | .unnamed, .unnamed => isTrue rfl
  | .list a, .list b =>
      match decideEq a b with
      | isTrue h => isTrue (by rw [h])
      | isFalse h => isFalse (by simp [h])
  | .optional a, .optional b =>
      match decideEq a b with
      | isTrue h => isTrue (by rw [h])
      | isFalse h => isFalse (by simp [h])
  | .named p as, .named q bs =>
      match decEq p q, decideEqs as bs with
      | isTrue hp, isTrue hs => isTrue (by rw [hp, hs])
      | isFalse hp, _ => isFalse (by simp [hp])
      | _, isFalse hs => isFalse (by simp [hs])
  | .unnamed, .named _ _ | .unnamed, .list _ | .unnamed, .optional _ => isFalse nofun
  | .named _ _, .unnamed | .named _ _, .list _ | .named _ _, .optional _ => isFalse nofun
  | .list _, .unnamed | .list _, .named _ _ | .list _, .optional _ => isFalse nofun
  | .optional _, .unnamed | .optional _, .named _ _ | .optional _, .list _ => isFalse nofun

/-- Equality of lists of references is decidable. -/
def decideEqs : (as bs : List TypeRef) → Decidable (as = bs)
  | [], [] => isTrue rfl
  | [], _ :: _ | _ :: _, [] => isFalse nofun
  | a :: as, b :: bs =>
      match decideEq a b, decideEqs as bs with
      | isTrue h, isTrue hs => isTrue (by rw [h, hs])
      | isFalse h, _ => isFalse (by simp [h])
      | _, isFalse hs => isFalse (by simp [hs])

end

instance : DecidableEq TypeRef := decideEq

/-- The path of a named reference. -/
def path? : TypeRef → Option String
  | .named path _ => some path
  | _ => none

/-- The reference tells nothing of its type. -/
def isUnnamed : TypeRef → Bool
  | .unnamed => true
  | _ => false

mutual

/-- The written form of a reference. -/
def chars : TypeRef → List Char
  | .unnamed => ['_']
  | .list element => "Vec<".toList ++ chars element ++ ['>']
  | .optional value => "Option<".toList ++ chars value ++ ['>']
  | .named path [] => path.toList
  | .named path (first :: others) =>
      path.toList ++ '<' :: (chars first ++ moreChars others ++ ['>'])

/-- The written form of the type arguments after the first. -/
def moreChars : List TypeRef → List Char
  | [] => []
  | next :: others => ',' :: ' ' :: (chars next ++ moreChars others)

end

/-- The written form of a reference as text. -/
def render (ref : TypeRef) : String :=
  String.ofList ref.chars

@[simp] theorem chars_unnamed : chars .unnamed = ['_'] := rfl

@[simp] theorem chars_list (element : TypeRef) :
    chars (.list element) = "Vec<".toList ++ chars element ++ ['>'] := rfl

@[simp] theorem chars_optional (value : TypeRef) :
    chars (.optional value) = "Option<".toList ++ chars value ++ ['>'] := rfl

@[simp] theorem chars_named_nil (path : String) : chars (.named path []) = path.toList := rfl

@[simp] theorem chars_named_cons (path : String) (first : TypeRef) (others : List TypeRef) :
    chars (.named path (first :: others)) =
      path.toList ++ '<' :: (chars first ++ moreChars others ++ ['>']) := rfl

@[simp] theorem moreChars_nil : moreChars [] = [] := rfl

@[simp] theorem moreChars_cons (next : TypeRef) (others : List TypeRef) :
    moreChars (next :: others) = ',' :: ' ' :: (chars next ++ moreChars others) := rfl

end TypeRef

end SchemaCoverage.Host
