import SchemaCoverage.Text.CodePoints
import SchemaCoverage.Text.Identifier
/-!
Numbers as they are written in declarations: whole ones in four bases, and those with a point or an
exponent. A name that touches a number is its suffix.
-/
namespace SchemaCoverage.Declaration.Number

/-- A decimal digit, or an underscore between digits. -/
def isDigitOrGap (c : Char) : Bool :=
  c.isDigit || c == '_'

/-- The letter that begins an exponent. -/
def isExponentMark (c : Char) : Bool :=
  c == 'e' || c == 'E'

/-- What follows an exponent of which a sign or digits may be read already; an exponent has digits,
and after them no sign. -/
def exponentEnd (signed counted : Bool) : List Char → Option (List Char)
  | [] => if counted then some [] else none
  | c :: rest =>
      if c.isDigit then exponentEnd signed true rest
      else if c == '_' then exponentEnd signed counted rest
      else if c == '+' || c == '-' then
        if counted then some (c :: rest) else if signed then none else exponentEnd true false rest
      else if counted then some (c :: rest) else none

/-- What follows a number that has a point or an exponent. No name and no other point may touch the
point. -/
def fractionEnd (text : List Char) : Option (List Char) :=
  match text.dropWhile isDigitOrGap with
  | '.' :: after =>
      if after.head?.any fun c => c == '.' || c == '_' || Text.startsIdentifier c then none
      else
        match after.dropWhile isDigitOrGap with
        | [] => some []
        | c :: rest =>
            if isExponentMark c then some ((exponentEnd false false rest).getD (c :: rest))
            else some (c :: rest)
  | c :: rest => if isExponentMark c then exponentEnd false false rest else none
  | [] => none

/-- The base in which a whole number is written, and its digits with what follows. -/
def base : List Char → Nat × List Char
  | '0' :: 'x' :: rest => (16, rest)
  | '0' :: 'o' :: rest => (8, rest)
  | '0' :: 'b' :: rest => (2, rest)
  | rest => (10, rest)

/-- A digit of some base. -/
def isDigitOf (base : Nat) (c : Char) : Bool :=
  (Text.hexDigit? c).any (· < base)

/-- What follows the digits of a whole number. It has a digit, and no decimal digit of it lies past
its base. -/
def wholeEnd (text : List Char) : Option (List Char) :=
  let (base, rest) := base text
  let digits := rest.takeWhile fun c => isDigitOf base c || c == '_'
  let after := rest.drop digits.length
  if !digits.any (isDigitOf base) || (base == 10 && digits.head? == some '_') then none
  else if after.head?.any Char.isDigit then none
  else some after

/-- What follows a suffix, if nothing that continues a name touches it. -/
def suffixEnd (text : List Char) : Option (List Char) :=
  let after := (Text.identifierRun text).2
  if after.head?.any Text.continuesIdentifier then none else some after

/-- What follows the number at the front of a text. -/
def numberEnd (text : List Char) : Option (List Char) :=
  if text.head?.any Char.isDigit then
    (fractionEnd text).bind suffixEnd <|> (wholeEnd text).bind suffixEnd
  else none

/-- The number is not whole: it has a point, or an exponent whose suffix is a name. -/
def isFraction (number : List Char) : Bool :=
  (base number).1 == 10 &&
    match number.dropWhile isDigitOrGap with
    | '.' :: _ => true
    | c :: rest =>
        isExponentMark c &&
          match rest.dropWhile isDigitOrGap with
          | [] => rest.any Char.isDigit
          | '+' :: _ | '-' :: _ => true
          | suffix => rest.any Char.isDigit && !(Text.identifierRun suffix).1.isEmpty
    | [] => false

/-- The value of a whole number and its suffix. -/
def whole (number : List Char) : Nat × List Char :=
  let (base, rest) := base number
  let digits := rest.takeWhile fun c => isDigitOf base c || c == '_'
  let step (value : Nat) (c : Char) : Nat :=
    match Text.hexDigit? c with
    | some digit => base * value + digit
    | none => value
  (digits.foldl step 0, rest.drop digits.length)

end SchemaCoverage.Declaration.Number
