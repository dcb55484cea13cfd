import SchemaCoverage.Declaration.Item
/-!
The attributes by which a declaration says what its host type is like: those on the type and those
on its fields. Of attributes that say the same thing twice the last one counts.
-/
namespace SchemaCoverage.Declaration

/-- One thing that an attribute on a type says. -/
inductive TypeEntry
  /-- The path, as written and as a text. -/
  | path (written : String) (value : String)
  /-- Types that are implemented. -/
  | implements (types : List TypeExpr)
  /-- A member that is no field. -/
  | member (name : String) (type : TypeExpr)
deriving Repr

/-- One thing that an attribute on a field says. -/
inductive FieldEntry
  /-- Nothing is known of the type of the member. -/
  | unnamed
  /-- The member has this name. -/
  | rename (name : String)
  /-- The field is no member. -/
  | skip
deriving Repr, DecidableEq

namespace Parser

/-- Takes a string literal, as written and as a text. -/
def stringLiteral : Parser (String × String) := do
  match ← ahead with
  | .text written value :: _ =>
      skip 1
      return (written, value)
  | _ => failExpecting "string literal"

/-- Takes an equals sign and a string literal. -/
def stringValue : Parser (String × String) := do
  mark "="
  stringLiteral

/-- Fails since no path of an entry stands here. -/
def failExpectingEntry {α : Type} : Parser α := do
  let tokens ← ahead
  if tokens.isEmpty then throw (.endedBefore "nested attribute")
  let what := if Ahead.literal tokens then "literal" else "token"
  throw (.unexpected (what ++ " in nested attribute, expected ident"))

/-- Takes the path of an entry; keywords may stand in it. -/
def entryPath : Parser TypeExpr := do
  let leading ← acceptMark "::"
  unless ← peek .anyName do failExpectingEntry
  let segments ← untilLast (return (← anyName, ← acceptMark "::"))
  return {
    words := plainPathWords leading segments
    shape := .named segments []
    form := if segments.length = 1 && !leading then .name else .path }

/-- Reads entries with commas between them to the end of the tokens, of which there are some. -/
def someEntries {α : Type} (entry : Parser α) : Parser (List α) := do
  if ← peek .nothing then failExpectingEntry
  return (← commaList entry).map Prod.fst

/-- Reads the entries in the parentheses that follow. -/
def entriesInParentheses {α : Type} (entry : Parser α) : Parser (List α) :=
  inBrackets .round (someEntries entry)

/-- Reads the name or the type of a member. -/
def memberPart (g : Grammar) : Parser (String ⊕ TypeExpr) := do
  let path ← entryPath
  match path.words with
  | ["name"] => return .inl (← stringValue).2
  | ["ty"] =>
      mark "="
      return .inr (← g.type true)
  | _ => throw (.badAttribute .strangeMemberPart)

/-- Reads an entry of an attribute on a type. -/
def typeEntry (g : Grammar) : Parser TypeEntry := do
  let path ← entryPath
  match path.words with
  | ["path"] =>
      let (written, value) ← stringValue
      return .path written value
  | ["implements"] => return .implements (← entriesInParentheses entryPath)
  | ["member"] =>
      let parts ← entriesInParentheses (memberPart g)
      match (parts.filterMap Sum.getLeft?).getLast?, (parts.filterMap Sum.getRight?).getLast? with
      | some name, some type => return .member name type
      | _, _ => throw (.badAttribute .incompleteMember)
  | _ => throw (.badAttribute .unsupportedOnType)

/-- Reads an entry of an attribute on a field. -/
def fieldEntry : Parser FieldEntry := do
  let path ← entryPath
  match path.words with
  | ["opaque"] => return .unnamed
  | ["rename"] => return .rename (← stringValue).2
  | ["skip"] => return .skip
  | _ => throw (.badAttribute .unsupportedOnField)

end Parser

/-- The entries of an attribute. -/
def Attribute.entries {α : Type} (entry : Grammar → Parser α) (host : Attribute) :
    Except Fault (List α) :=
  match host.form with
  | .bare => .error (.badAttribute .withoutArguments)
  | .assigned => .error (.badAttribute .withValue)
  | .listed tokens =>
      (Grammar.readAll (fun g => Parser.commaList (entry g)) tokens).map fun items =>
        items.map Prod.fst

/-- The entries of all attributes that are meant for host types, in order. -/
def hostEntries {α : Type} (entry : Grammar → Parser α) (attributes : List Attribute) :
    Except Fault (List α) := do
  let hostAttributes := attributes.filter (·.name == some "host")
  return (← hostAttributes.mapM (Attribute.entries entry)).flatten

end SchemaCoverage.Declaration
