import SchemaCoverage.Sdl.Token
import SchemaCoverage.Text.CodePoints
/-!
Cutting a text of the schema definition language into tokens. Blanks, commas and comments stand
between tokens; a character that starts no token, a malformed number or string, and brackets
nested too deep make the whole text unreadable.
-/
namespace SchemaCoverage.Sdl

/-- A letter or an underscore. -/
def isNameStart (c : Char) : Bool :=
  c.isAlpha || c == '_'

/-- A letter, a digit or an underscore. -/
def isNameChar (c : Char) : Bool :=
  c.isAlphanum || c == '_'

/-- The punctuators of one character. -/
def isPunct (c : Char) : Bool :=
  c ∈ ['(', ')', '[', ']', '{', '}', '!', '$', ':', '=', '@', '|', '&']

/-- A character at which a number ends. -/
def endsNumber (c : Char) : Bool :=
  c ∈ [' ', '\n', '\r', '\t', ',', '#'] || isPunct c

/-- Digits, at least one. -/
def isDigits (text : List Char) : Bool :=
  !text.isEmpty && text.all Char.isDigit

/-- Digits without a leading zero, or the zero itself. -/
def isNatural (text : List Char) : Bool :=
  isDigits text && (text == ['0'] || text.head? != some '0')

/-- A natural number with or without a minus sign. -/
def isInteger : List Char → Bool
  | '-' :: digits => isNatural digits
  | digits => isNatural digits

/-- An exponent: digits after a sign, or without one if the first is neither a zero nor a nine. -/
def isExponent : List Char → Bool
  | '-' :: digits | '+' :: digits => isDigits digits
  | digits => isDigits digits && digits.head? != some '0' && digits.head? != some '9'

/-- An integer that a signed word of 64 bits holds. -/
def fitsWord : List Char → Bool
  | '-' :: digits => Text.decimalValue digits ≤ 0x8000000000000000
  | digits => Text.decimalValue digits < 0x8000000000000000

/-- The text before the first character of a class, and from it on. -/
def cut (p : Char → Bool) (text : List Char) : List Char × List Char :=
  (text.takeWhile fun c => !p c, text.dropWhile fun c => !p c)

/-- A number: an integer that fits a word, or an integer with a fraction, an exponent or both. -/
def isNumber (text : List Char) : Bool :=
  let (mantissa, exponent) := cut (fun c => c == 'e' || c == 'E') text
  let (whole, fraction) := cut (· == '.') mantissa
  isInteger whole &&
    (fraction.isEmpty || isDigits fraction.tail) &&
    (exponent.isEmpty || isExponent exponent.tail) &&
    (!fraction.isEmpty || !exponent.isEmpty || fitsWord whole)

/-- Four characters name a character by its code point; the first may be a plus sign. -/
def namesCodePoint (quad : List Char) : Bool :=
  let digits := if quad.head? = some '+' then quad.tail else quad
  match Text.hexValue? digits with
  | some point => point < 0xd800 || 0xdfff < point
  | none => false

/-- Every escape between the quotes of a string is one of those known. -/
def escapesKnown : List Char → Bool
  | [] => true
  | '\\' :: 'u' :: a :: b :: c :: d :: rest => namesCodePoint [a, b, c, d] && escapesKnown rest
  | '\\' :: c :: rest => c ∈ ['"', '\\', '/', 'b', 'f', 'n', 'r', 't'] && escapesKnown rest
  | ['\\'] => false
  | _ :: rest => escapesKnown rest

/-- What stands before the closing quote of a string, and what stands behind it. A raw line feed
leaves the string open. -/
def stringBody (escaped : Bool) : List Char → Option (List Char × List Char)
  | [] => none
  | '\n' :: _ => none
  | c :: rest =>
      if c == '"' && !escaped then some ([], rest)
      else (stringBody (!escaped && c == '\\') rest).map fun (body, rest) => (c :: body, rest)

/-- What stands before the three closing quotes of a block string, and what stands behind them.
Quotes after a backslash do not close it. -/
def blockBody (escaped : Bool) : List Char → Option (List Char × List Char)
  | [] => none
  | '"' :: '"' :: '"' :: rest =>
      if escaped then
        (blockBody false rest).map fun (body, rest) => ('"' :: '"' :: '"' :: body, rest)
      else some ([], rest)
  | c :: rest => (blockBody (c == '\\') rest).map fun (body, rest) => (c :: body, rest)

/-- The token at the start of a text, the characters it takes, and the rest. -/
def token? : List Char → Option (Token × List Char × List Char)
  | [] => none
  | '.' :: '.' :: '.' :: rest => some (.spread, ['.', '.', '.'], rest)
  | '"' :: '"' :: '"' :: rest =>
      (blockBody false rest).map fun (body, rest) =>
        (.string, ['"', '"', '"'] ++ body ++ ['"', '"', '"'], rest)
  | '"' :: rest =>
      match stringBody false rest with
      | some (body, rest) =>
          if escapesKnown body then some (.string, '"' :: body ++ ['"'], rest) else none
      | none => none
  | c :: rest =>
      if isPunct c then some (.punct c, [c], rest)
      else if isNameStart c then
        let (tail, rest) := cut (fun d => !isNameChar d) rest
        some (.name (String.ofList (c :: tail)), c :: tail, rest)
      else if c.isDigit || c == '-' then
        let (tail, rest) := cut endsNumber rest
        if isNumber (c :: tail) then some (.number, c :: tail, rest) else none
      else none

/-- Goes over blanks, commas and comments. A tab takes eight columns; carriage returns and byte
order marks take none; a comment ends at a carriage return or line feed, which starts a line. -/
def skip (inComment : Bool) (position : Position) : List Char → Position × List Char
  | [] => (position, [])
  | c :: rest =>
      if inComment then
        if c == '\n' || c == '\r' then skip false position.nextLine rest
        else skip true position rest
      else if c == ' ' || c == ',' then skip false (position.right 1) rest
      else if c == '\t' then skip false (position.right 8) rest
      else if c == '\n' then skip false position.nextLine rest
      else if c == '\r' || c == '\ufeff' then skip false position rest
      else if c == '#' then skip true position rest
      else (position, c :: rest)

/-- How many brackets may be open at the same time. -/
def maxOpenBrackets : Nat := 50

/-- The number of brackets that may still be opened behind a token. -/
def room? (room : Nat) : Token → Option Nat
  | .punct c =>
      if c ∈ ['(', '[', '{'] then
        match room with
        | 0 => none
        | less + 1 => some less
      else if c ∈ [')', ']', '}'] then some (room + 1)
      else some room
  | _ => some room

theorem length_skip (inComment : Bool) (position : Position) (text : List Char) :
    (skip inComment position text).2.length ≤ text.length := by
  fun_induction skip inComment position text <;> simp_all <;> omega

theorem length_stringBody {escaped : Bool} {text body rest : List Char}
    (h : stringBody escaped text = some (body, rest)) : rest.length < text.length := by
  fun_induction stringBody escaped text generalizing body rest with
  | case1 => simp at h
  | case2 => simp at h
  | case3 => simp_all
  | case4 escaped c tail _ _ ih =>
      obtain ⟨⟨inner, other⟩, hr, heq⟩ := Option.map_eq_some_iff.1 h
      simp only [Prod.mk.injEq] at heq
      obtain ⟨_, rfl⟩ := heq
      have := ih hr
      simp only [List.length_cons]
      omega

theorem length_blockBody {escaped : Bool} {text body rest : List Char}
    (h : blockBody escaped text = some (body, rest)) : rest.length < text.length := by
  fun_induction blockBody escaped text generalizing body rest with
  | case1 => simp at h
  | case2 tail ih =>
      obtain ⟨⟨inner, other⟩, hr, heq⟩ := Option.map_eq_some_iff.1 h
      simp only [Prod.mk.injEq] at heq
      obtain ⟨_, rfl⟩ := heq
      have := ih hr
      simp only [List.length_cons]
      omega
  | case3 => simp_all; omega
  | case4 escaped c tail _ ih =>
      obtain ⟨⟨inner, other⟩, hr, heq⟩ := Option.map_eq_some_iff.1 h
      simp only [Prod.mk.injEq] at heq
      obtain ⟨_, rfl⟩ := heq
      have := ih hr
      simp only [List.length_cons]
      omega

theorem length_cut (p : Char → Bool) (text : List Char) : (cut p text).2.length ≤ text.length :=
  (List.dropWhile_sublist _).length_le

/-- A token takes at least one character. -/
theorem length_token? {text taken rest : List Char} {token : Token}
    (h : token? text = some (token, taken, rest)) : rest.length < text.length := by
  fun_cases token? text with
  | case1 => simp [token?] at h
  | case2 => simp [token?] at h; simp [← h.2.2]; omega
  | case3 tail =>
      rw [token?] at h
      obtain ⟨⟨inner, other⟩, hr, heq⟩ := Option.map_eq_some_iff.1 h
      simp only [Prod.mk.injEq] at heq
      obtain ⟨_, _, rfl⟩ := heq
      have := length_blockBody hr
      simp only [List.length_cons]
      omega
  | case4 tail _ body other hr hk =>
      simp_all [token?]
      have := length_stringBody hr
      omega
  | case5 => simp_all [token?]
  | case6 => simp_all [token?]
  | case7 => simp_all [token?]
  | case8 c tail _ _ _ _ hp hn =>
      have hrest : rest = (cut (fun d => !isNameChar d) tail).2 := by simp_all [token?]
      rw [hrest]
      exact Nat.lt_succ_of_le (length_cut _ _)
  | case9 c tail =>
      have hrest : rest = (cut endsNumber tail).2 := by simp_all [token?]
      rw [hrest]
      exact Nat.lt_succ_of_le (length_cut _ _)
  | case10 => simp_all [token?]
  | case11 => simp_all [token?]

/-- The tokens of a text, from a place on and with room for some brackets. -/
def lexFrom (room : Nat) (position : Position) (text : List Char) : Option (List Lexeme) :=
  let start := skip false position text
  if start.2.isEmpty then some []
  else
    match h : token? start.2 with
    | none => none
    | some (token, taken, rest) =>
        match room? room token with
        | none => none
        | some room =>
            have : rest.length < text.length :=
              Nat.lt_of_lt_of_le (length_token? h) (length_skip false position text)
            (lexFrom room (start.1.past taken) rest).map (⟨token, start.1⟩ :: ·)
termination_by text.length

/-- The tokens of a whole text. -/
def lex (text : String) : Option (List Lexeme) :=
  lexFrom maxOpenBrackets .start text.toList

end SchemaCoverage.Sdl
