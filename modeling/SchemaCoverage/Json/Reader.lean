import SchemaCoverage.Json.Value
import SchemaCoverage.Text.CodePoints
/-!
Reading JSON texts. A text holds one value with blanks around it and nothing else; there are no
comments, no trailing commas and no byte order mark.
-/
namespace SchemaCoverage.Json

/-- The four characters that may stand between tokens. -/
def isBlank (c : Char) : Bool :=
  c == ' ' || c == '\n' || c == '\t' || c == '\r'

/-- The characters that stand for themselves or for a control character after a backslash. -/
def escaped? : Char → Option Char
  | '"' => some '"'
  | '\\' => some '\\'
  | '/' => some '/'
  | 'b' => some '\x08'
  | 'f' => some '\x0c'
  | 'n' => some '\n'
  | 'r' => some '\r'
  | 't' => some '\t'
  | _ => none

/-- The code points that a string names from some place on to the closing quote, and the rest
behind it. An escape may name half of a surrogate pair. -/
def readCodePoints : List Char → Option (List Nat × List Char)
  | [] => none
  | '"' :: rest => some ([], rest)
  | '\\' :: 'u' :: a :: b :: c :: d :: rest =>
      match Text.hexValue? [a, b, c, d] with
      | none => none
      | some point => (readCodePoints rest).map fun (points, rest) => (point :: points, rest)
  | '\\' :: c :: rest =>
      match escaped? c with
      | none => none
      | some c => (readCodePoints rest).map fun (points, rest) => (c.toNat :: points, rest)
  | c :: rest =>
      if c.toNat < 0x20 then none
      else (readCodePoints rest).map fun (points, rest) => (c.toNat :: points, rest)

/-- The first half of a surrogate pair. -/
def isHighHalf (point : Nat) : Bool :=
  0xd800 ≤ point && point ≤ 0xdbff

/-- The second half of a surrogate pair. -/
def isLowHalf (point : Nat) : Bool :=
  0xdc00 ≤ point && point ≤ 0xdfff

/-- The characters that code points stand for, surrogate pairs joined; none if a half is left. -/
def joinHalves : List Nat → Option (List Char)
  | [] => some []
  | point :: rest =>
      if isHighHalf point then
        match rest with
        | low :: rest =>
            if isLowHalf low then
              let joined := 0x10000 + (point - 0xd800) * 0x400 + (low - 0xdc00)
              (joinHalves rest).map (Char.ofNat joined :: ·)
            else none
        | [] => none
      else if isLowHalf point then none
      else (joinHalves rest).map (Char.ofNat point :: ·)

/-- Reads a string whose opening quote is already taken. -/
def readString (text : List Char) : Option (Option String × List Char) :=
  (readCodePoints text).map fun (points, rest) => ((joinHalves points).map String.ofList, rest)

/-- The leading digits of a text and the rest. -/
def digitRun (text : List Char) : List Char × List Char :=
  (text.takeWhile Char.isDigit, text.dropWhile Char.isDigit)

/-- The greatest significand of a number: what a word of 64 bits holds. -/
def maxSignificand : Nat := 0xffffffffffffffff

/-- The number that the leading digits write from a start on, as long as it is a significand, and
the digits after them. -/
def significandFrom (start : Nat) : List Char → Nat × List Char
  | [] => (start, [])
  | digit :: rest =>
      let next := 10 * start + (digit.toNat - '0'.toNat)
      if next ≤ maxSignificand then significandFrom next rest else (start, digit :: rest)

/-- The nearest number of 53 significant binary digits; of two such numbers the even one. -/
def nearestDouble (n : Nat) : Nat :=
  let unit := Nat.pow 2 (Nat.log2 n + 1 - 53)
  let below := n / unit
  let rest := n % unit
  if unit < 2 * rest ∨ (2 * rest = unit ∧ below % 2 = 1) then (below + 1) * unit else below * unit

/-- The least number that rounds past every finite double: half a step above the largest one. -/
def doubleBound : Nat :=
  Nat.pow 2 1024 - Nat.pow 2 970

/-- A significand times a power of ten is finite if both are rounded before they are multiplied. -/
def isFinite (significand : Nat) (exponent : Int) : Bool :=
  if significand = 0 ∨ exponent ≤ 0 then true
  else if 308 < exponent then false
  else nearestDouble significand * nearestDouble (Nat.pow 10 exponent.toNat) < doubleBound

/-- A number with these digits before and after its point and this power of ten is finite. Digits
that the significand has no room for count as zeros. -/
def isFiniteNumber (whole decimals : List Char) (power : Int) : Bool :=
  let (significand, left) := significandFrom 0 whole
  let (significand, unread) := significandFrom significand decimals
  let shift : Int := (left.length : Int) - (decimals.length - unread.length : Nat)
  isFinite significand (shift + power)

/-- The digits after a point, at least one, if there is a point. -/
def readFraction : List Char → Option (List Char × List Char)
  | '.' :: rest =>
      let (digits, rest) := digitRun rest
      if digits.isEmpty then none else some (digits, rest)
  | rest => some ([], rest)

/-- The exponent after a letter E, if there is one. -/
def readExponent : List Char → Option (Int × List Char)
  | [] => some (0, [])
  | c :: rest =>
      if c == 'e' || c == 'E' then
        let (negative, rest) :=
          match rest with
          | '-' :: rest => (true, rest)
          | '+' :: rest => (false, rest)
          | rest => (false, rest)
        let (digits, rest) := digitRun rest
        if digits.isEmpty then none
        else
          let value : Int := Text.decimalValue digits
          some (if negative then -value else value, rest)
      else some (0, c :: rest)

/-- A number without its sign: no leading zero, then perhaps a fraction and an exponent. -/
def readNumber (text : List Char) : Option (Json × List Char) := do
  let (whole, rest) := digitRun text
  if whole.isEmpty || (whole.head? == some '0' && whole != ['0']) then none
  else
    let (decimals, rest) ← readFraction rest
    let (power, rest) ← readExponent rest
    return (.number (isFiniteNumber whole decimals power), rest)

theorem length_dropBlank (text : List Char) : (text.dropWhile isBlank).length ≤ text.length :=
  (List.dropWhile_sublist _).length_le

mutual

/-- Reads one value. -/
def readValue (text : List Char) : Option (Json × List Char) :=
  match h : text.dropWhile isBlank with
  | [] => none
  | '"' :: rest => (readString rest).map fun (text, rest) => (.string text, rest)
  | '[' :: rest =>
      have : rest.length < text.length := by
        have := length_dropBlank text
        simp only [h, List.length_cons] at this
        omega
      match rest.dropWhile isBlank with
      | ']' :: rest => some (.array [], rest)
      | _ => (readItems rest).map fun (items, rest) => (.array items, rest)
  | '\x7b' :: rest =>
      have : rest.length < text.length := by
        have := length_dropBlank text
        simp only [h, List.length_cons] at this
        omega
      match rest.dropWhile isBlank with
      | '\x7d' :: rest => some (.object [], rest)
      | _ => (readMembers rest).map fun (members, rest) => (.object members, rest)
  | '-' :: rest => readNumber rest
  | 't' :: 'r' :: 'u' :: 'e' :: rest => some (.bool true, rest)
  | 'f' :: 'a' :: 'l' :: 's' :: 'e' :: rest => some (.bool false, rest)
  | 'n' :: 'u' :: 'l' :: 'l' :: rest => some (.null, rest)
  | rest => readNumber rest
termination_by (text.length, 0)

/-- Reads the items of an array up to its closing bracket. -/
def readItems (text : List Char) : Option (List Json × List Char) :=
  match readValue text with
  | none => none
  | some (first, rest) =>
      match rest.dropWhile isBlank with
      | ']' :: rest => some ([first], rest)
      | ',' :: more =>
          if more.length < text.length then
            (readItems more).map fun (others, rest) => (first :: others, rest)
          else none
      | _ => none
termination_by (text.length, 1)

/-- Reads the members of an object up to its closing brace. -/
def readMembers (text : List Char) : Option (List (Option String × Json) × List Char) :=
  match text.dropWhile isBlank with
  | '"' :: rest =>
      match readString rest with
      | none => none
      | some (key, rest) =>
          match rest.dropWhile isBlank with
          | ':' :: rest =>
              if rest.length < text.length then
                match readValue rest with
                | none => none
                | some (first, rest) =>
                    let member := (key, first)
                    match rest.dropWhile isBlank with
                    | '\x7d' :: rest => some ([member], rest)
                    | ',' :: more =>
                        if more.length < text.length then
                          (readMembers more).map fun (others, rest) => (member :: others, rest)
                        else none
                    | _ => none
              else none
          | _ => none
  | _ => none
termination_by (text.length, 1)

end

/-- The value that a whole text holds. -/
def parse? (text : String) : Option Json :=
  match readValue text.toList with
  | some (found, rest) => if (rest.dropWhile isBlank).isEmpty then some found else none
  | none => none

end SchemaCoverage.Json
