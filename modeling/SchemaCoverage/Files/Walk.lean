import SchemaCoverage.Files.Tree
/-!
Walks through trees of files: all files under an entry, sorted by name in each directory.
-/
namespace SchemaCoverage.Files

/-- A file that was met under some name. -/
structure Found where
  name : String
  entry : Entry

mutual

/-- The files at or under an entry of a given name. -/
def filesUnder (name : String) : Entry → List Found
  | .file path bytes => [⟨name, .file path bytes⟩]
  | .directory entries =>
      ((filesIn entries).mergeSort fun a b => !decide (b.1 < a.1)).flatMap Prod.snd
  | .unreadable => []

/-- The files at or under each of some entries. -/
def filesIn : List (String × Entry) → List (String × List Found)
  | [] => []
  | (name, entry) :: others => (name, filesUnder name entry) :: filesIn others

end

mutual

/-- The entry and all under it can be read. -/
def isReadable : Entry → Bool
  | .file _ _ => true
  | .directory entries => areReadable entries
  | .unreadable => false

/-- The entries and all under them can be read. -/
def areReadable : List (String × Entry) → Bool
  | [] => true
  | (_, entry) :: others => isReadable entry && areReadable others

end

/-- The text after the last dot of a file name. A dot at the very start does not count. -/
def extension? (name : String) : Option String :=
  let reversed := name.toList.reverse
  match reversed.dropWhile (· != '.') with
  | _ :: _ :: _ => some (String.ofList (reversed.takeWhile (· != '.')).reverse)
  | _ => none

/-- An extension as it is written with or without leading dots. -/
def bareExtension (extension : String) : String :=
  String.ofList (extension.toList.dropWhile (· == '.'))

/-- The file name has one of some extensions. -/
def hasExtension (extensions : List String) (name : String) : Bool :=
  match extension? name with
  | some extension => extension ∈ extensions.map bareExtension
  | none => false

end SchemaCoverage.Files
