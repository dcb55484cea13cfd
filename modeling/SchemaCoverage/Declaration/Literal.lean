import SchemaCoverage.Text.CodePoints
import SchemaCoverage.Text.Quoted
/-!
Literals of text: how they are written and the texts that they stand for.
-/
namespace SchemaCoverage.Declaration

/-- What a literal of text stands for. -/
inductive TextKind
  | characters
  | bytes
  /-- Bytes that a zero ends, so that none of them is one. -/
  | zeroEnded
deriving Repr, DecidableEq

/-- The character may stand for itself. -/
def TextKind.allows : TextKind → Char → Bool
  | .characters, _ => true
  | .bytes, c => c.toNat < 0x80
  | .zeroEnded, c => c != '\x00'

/-- An escape of two digits may name the byte. -/
def TextKind.allowsByte : TextKind → Nat → Bool
  | .characters, n => n < 0x80
  | .bytes, _ => true
  | .zeroEnded, n => n != 0

/-- The character of a code point, if it is one. -/
def charOf? (n : Nat) : Option Char :=
  if n.isValidChar then some (Char.ofNat n) else none

/-- The digits between the braces of an escape, which underscores may divide, and what follows. At
most `room` more digits may stand there. -/
def codePointDigits (room : Nat) : List Char → Option (List Char × List Char)
  | '\x7d' :: rest => some ([], rest)
  | '_' :: rest => codePointDigits room rest
  | c :: rest =>
      match room with
      | 0 => none
      | room + 1 =>
          if (Text.hexDigit? c).isSome then
            (codePointDigits room rest).map fun (digits, rest) => (c :: digits, rest)
          else none
  | [] => none

/-- The character that an escape names by its code point, from what follows the opening brace. -/
def codePoint (kind : TextKind) (text : List Char) : Option (Char × List Char) := do
  if kind = .bytes || text.head? = some '_' then none
  let (digits, rest) ← codePointDigits 6 text
  if digits.isEmpty then none
  let char ← charOf? (← Text.hexValue? digits)
  if kind.allows char then some (char, rest) else none

/-- The character of an escape, from what follows the backslash. -/
def escapedChar (kind : TextKind) : List Char → Option (Char × List Char)
  | 'n' :: rest => some ('\n', rest)
  | 'r' :: rest => some ('\r', rest)
  | 't' :: rest => some ('\t', rest)
  | '0' :: rest => if kind = .zeroEnded then none else some ('\x00', rest)
  | '\\' :: rest => some ('\\', rest)
  | '\'' :: rest => some ('\'', rest)
  | '"' :: rest => some ('"', rest)
  | 'x' :: a :: b :: rest => do
      let n ← Text.hexValue? [a, b]
      if kind.allowsByte n then return (Char.ofNat n, rest) else none
  | 'u' :: '\x7b' :: rest => codePoint kind rest
  | _ => none

/-- The text of a literal after its opening quote, up to the closing one, and what follows. A
backslash at the end of a line takes the spaces, tabs and line ends that follow with it; `skipping`
tells that this is going on. A carriage return stands before a line feed only. -/
def quotedText (kind : TextKind) (skipping : Bool) (source : List Char) :
    Option (List Char × List Char) :=
  match source with
  | [] => none
  | c :: rest =>
      if c = '\r' then
        match rest with
        | '\n' :: rest =>
            if skipping then quotedText kind true rest
            else (quotedText kind false rest).map fun (text, rest) => ('\n' :: text, rest)
        | _ => none
      else if skipping && (c = ' ' || c = '\t' || c = '\n') then quotedText kind true rest
      else if c = '"' then some ([], rest)
      else if c = '\\' then
        match rest with
        | '\n' :: rest => quotedText kind true rest
        | '\r' :: '\n' :: rest => quotedText kind true rest
        | rest =>
            match escapedChar kind rest with
            | none => none
            | some (char, tail) =>
                if tail.length ≤ rest.length then
                  (quotedText kind false tail).map fun (text, rest) => (char :: text, rest)
                else none
      else if kind.allows c then
        (quotedText kind false rest).map fun (text, rest) => (c :: text, rest)
      else none
termination_by source.length

/-- The text of a literal without escapes after its opening quote, up to a quote with the given
number of hash signs, and what follows. -/
def rawText (kind : TextKind) (hashes : Nat) : List Char → Option (List Char × List Char)
  | [] => none
  | c :: rest =>
      let ends := List.replicate hashes '#'
      if c = '"' && ends.isPrefixOf rest then some ([], rest.drop hashes)
      else if c = '\r' && rest.head? != some '\n' then none
      else if kind.allows c then
        (rawText kind hashes rest).map fun (text, rest) => (c :: text, rest)
      else none

/-- How many hash signs may stand at each end of a literal without escapes. -/
def maxHashes : Nat := 255

/-- The text of a literal with its quotes, and what follows. -/
def delimitedText (kind : TextKind) : List Char → Option (List Char × List Char)
  | '"' :: rest => quotedText kind false rest
  | 'r' :: rest =>
      let hashes := (rest.takeWhile (· == '#')).length
      match rest.drop hashes with
      | '"' :: rest => if hashes ≤ maxHashes then rawText kind hashes rest else none
      | _ => none
  | _ => none

/-- What follows a literal of a single character in apostrophes. -/
def characterEnd (kind : TextKind) : List Char → Option (List Char)
  | '\'' :: '\\' :: rest => do
      match (← escapedChar kind rest).2 with
      | '\'' :: rest => some rest
      | _ => none
  | '\'' :: c :: '\'' :: rest => if kind.allows c then some rest else none
  | _ => none

/-- A character in a literal: no escape for an apostrophe, and for the character zero the form that
no digit after it changes. -/
def literalChars : List Char → List Char
  | [] => []
  | '\x00' :: rest =>
      let digitFollows := rest.head?.any fun c => '0' ≤ c && c ≤ '7'
      (if digitFollows then "\\x00" else "\\0").toList ++ literalChars rest
  | c :: rest => Text.quoteChar c ++ literalChars rest

/-- The literal for a text. -/
def writeLiteral (text : String) : String :=
  String.ofList ('"' :: literalChars text.toList ++ ['"'])

end SchemaCoverage.Declaration
