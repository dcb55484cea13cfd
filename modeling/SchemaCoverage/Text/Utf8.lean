/-!
Well-formed UTF-8: which bytes may follow which, and how far a byte sequence is well formed.
-/
namespace SchemaCoverage.Text

/-- A byte that continues a character. -/
def isContinuation (b : UInt8) : Bool :=
  0x80 ≤ b && b ≤ 0xbf

/-- The number of bytes of the character at the front, if it is well formed: no overlong form,
no surrogate, nothing beyond the last code point. -/
def charWidth? : List UInt8 → Option Nat
  | [] => none
  | a :: rest =>
      if a < 0x80 then some 1
      else
        match rest with
        | [] => none
        | b :: rest =>
            if 0xc2 ≤ a && a ≤ 0xdf then if isContinuation b then some 2 else none
            else
              match rest with
              | [] => none
              | c :: rest =>
                  if 0xe0 ≤ a && a ≤ 0xef then
                    if isContinuation b && isContinuation c &&
                      (a != 0xe0 || 0xa0 ≤ b) && (a != 0xed || b ≤ 0x9f) then some 3 else none
                  else
                    match rest with
                    | [] => none
                    | d :: _ =>
                        if 0xf0 ≤ a && a ≤ 0xf4 && isContinuation b && isContinuation c &&
                          isContinuation d && (a != 0xf0 || 0x90 ≤ b) && (a != 0xf4 || b ≤ 0x8f)
                        then some 4 else none

theorem charWidth?_pos {bytes : List UInt8} {width : Nat} (h : charWidth? bytes = some width) :
    0 < width ∧ width ≤ bytes.length := by
  unfold charWidth? at h
  split at h
  · simp at h
  · repeat' split at h
    all_goals simp_all
    all_goals omega

/-- The length of the longest well-formed beginning. -/
def validLength (bytes : List UInt8) : Nat :=
  match h : charWidth? bytes with
  | none => 0
  | some width =>
      have := charWidth?_pos h
      width + validLength (bytes.drop width)
termination_by bytes.length
decreasing_by simp only [List.length_drop]; omega

end SchemaCoverage.Text
