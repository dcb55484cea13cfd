import SchemaCoverage.Declaration.Phrase
/-!
Imports: paths with branches in curly braces, and whole libraries.
-/
namespace SchemaCoverage.Declaration.Import

open SchemaCoverage.Declaration.Parser

/-- Reads a path in an import with its branches; with the flag, two colons may begin them. It gives
nothing if one of them begins so. -/
def tree (g : Grammar) (roots : Bool) : Parser (Option (List String)) := do
  let tokens ← ahead
  if Ahead.identifier tokens || Ahead.name ["self", "super", "crate", "try"] tokens then
    let name ← anyName
    if ← acceptMark "::" then
      return some (name :: "::" :: ((← g.tree false).getD []))
    else if ← acceptName "as" then
      unless ← peek .nameOrGap do failExpecting "identifier or underscore"
      return some [name, "as", ← anyName]
    else return some [name]
  else if ← acceptMark "*" then return some ["*"]
  else if Ahead.bracket .curly tokens then
    let branches ← inBrackets .curly <| commaList do
      let isRoot ← if roots then acceptMark "::" else pure false
      let branch ← g.tree (roots && !isRoot)
      return if isRoot then none else branch
    let known := branches.filterMap fun (branch, comma) => branch.map (·, comma)
    if known.length < branches.length then return none
    else return some (Bracket.curly.around (separatedWords "," known))
  else
    failExpectingOne
      ["identifier", "`self`", "`super`", "`crate`", "`try`", "`*`", "curly braces"]

/-- Reads an import after its visibility. -/
def read (g : Grammar) : Parser (Option (List String)) := do
  keyword "use"
  let leading ← optionalMark "::"
  let tree ← tree g leading.isEmpty
  mark ";"
  return tree.map fun words => "use" :: leading ++ words ++ [";"]

/-- Reads the import of a whole library after its visibility. -/
def library : Parser (List String) := do
  keyword "extern"
  keyword "crate"
  let name ← if ← peek (.name ["self"]) then anyName else identifier
  let renamed ←
    if ← acceptName "as" then do
      let other ← if ← peek (.name ["_"]) then anyName else identifier
      pure ["as", other]
    else pure []
  mark ";"
  return "extern" :: "crate" :: name :: renamed ++ [";"]

end SchemaCoverage.Declaration.Import
