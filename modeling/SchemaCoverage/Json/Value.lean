/-!
Values of the JSON data format.
-/
namespace SchemaCoverage

/-- A JSON value. A string has no text if an escape in it leaves half a surrogate pair; of a
number only the range matters here. Objects keep the order of their members and repeated keys. -/
inductive Json
  | null
  | bool (value : Bool)
  | number (finite : Bool)
  | string (text : Option String)
  | array (items : List Json)
  | object (members : List (Option String × Json))
deriving Repr, Inhabited

namespace Json

/-- A string with a text. -/
def text (text : String) : Json :=
  .string (some text)

/-- An array of strings. -/
def texts (items : List String) : Json :=
  .array (items.map text)

/-- An object with the given keys. -/
def record (members : List (String × Json)) : Json :=
  .object (members.map fun (key, value) => (some key, value))

mutual

/-- How deep arrays and objects nest. -/
def depth : Json → Nat
  | .array items => depthOfItems items + 1
  | .object members => depthOfMembers members + 1
  | _ => 0

/-- The greatest depth of some values. -/
def depthOfItems : List Json → Nat
  | [] => 0
  | item :: others => max (depth item) (depthOfItems others)

/-- The greatest depth of some members. -/
def depthOfMembers : List (Option String × Json) → Nat
  | [] => 0
  | (_, value) :: others => max (depth value) (depthOfMembers others)

end

mutual

/-- All strings have a text and all numbers fit a double. -/
def isExact : Json → Bool
  | .number finite => finite
  | .string text => text.isSome
  | .array items => areExact items
  | .object members => areExactMembers members
  | _ => true

/-- All values are exact. -/
def areExact : List Json → Bool
  | [] => true
  | item :: others => isExact item && areExact others

/-- All members are exact, keys included. -/
def areExactMembers : List (Option String × Json) → Bool
  | [] => true
  | (key, value) :: others => key.isSome && isExact value && areExactMembers others

end

end Json

end SchemaCoverage
