/-!
Trees of files and directories, and what a path names on a disk.
-/
namespace SchemaCoverage.Files

/-- What a name in a directory stands for. A file knows the one path that all its names lead to. -/
inductive Entry
  | file (path : String) (bytes : ByteArray)
  | directory (entries : List (String × Entry))
  /-- Something that exists but cannot be read. -/
  | unreadable
deriving Inhabited

namespace Entry

/-- The entry is a file. -/
def isFile : Entry → Bool
  | .file _ _ => true
  | _ => false

/-- The entry of a name in a directory. -/
def child? : Entry → String → Option Entry
  | .directory entries, name => entries.lookup name
  | _, _ => none

/-- Puts an entry at a place below another one, with all directories on the way. -/
def put (new : Entry) : List String → Entry → Entry
  | [], _ => new
  | name :: names, old =>
      let entries :=
        match old with
        | .directory entries => entries
        | _ => []
      let child := (entries.lookup name).getD (.directory [])
      .directory ((name, new.put names child) :: entries.filter (·.1 != name))

end Entry

/-- The pieces of a text between slashes. -/
def splitSlashes : List Char → List (List Char)
  | [] => [[]]
  | '/' :: rest => [] :: splitSlashes rest
  | c :: rest =>
      match splitSlashes rest with
      | [] => [[c]]
      | first :: others => (c :: first) :: others

/-- The steps of a path. -/
def pathSteps (path : String) : List String :=
  (splitSlashes path.toList).map String.ofList

/-- Follows steps from an entry whose ancestors are known, the nearest first. An empty step or a
dot stays in a directory, two dots go up as long as there is something above. -/
def follow (ancestors : List Entry) (entry : Entry) : List String → Option Entry
  | [] => some entry
  | step :: steps =>
      match entry with
      | .directory _ =>
          if step = "" ∨ step = "." then follow ancestors entry steps
          else if step = ".." then
            match ancestors with
            | [] => follow [] entry steps
            | parent :: others => follow others parent steps
          else
            match entry.child? step with
            | some child => follow (entry :: ancestors) child steps
            | none => none
      | _ => none

/-- The place to which steps lead from another one. An empty step or a dot stays, two dots go up. -/
def leadFrom (place : List String) : List String → List String
  | [] => place
  | step :: steps =>
      if step = "" ∨ step = "." then leadFrom place steps
      else if step = ".." then leadFrom place.dropLast steps
      else leadFrom (place ++ [step]) steps

/-- A disk, with the place of the directory in which relative paths begin. -/
structure Disk where
  root : Entry
  home : List String

namespace Disk

/-- A disk that holds nothing but the directory in which relative paths begin. -/
def ofTree (home : List String) (tree : Entry) : Disk :=
  ⟨tree.put home (.directory []), home⟩

/-- The steps of a path from the root. -/
def steps (disk : Disk) (path : String) : List String :=
  if path.startsWith "/" then pathSteps path else disk.home ++ pathSteps path

/-- The place to which a path leads. -/
def placeOf (disk : Disk) (path : String) : List String :=
  leadFrom [] (disk.steps path)

end Disk

/-- A tree alone is taken for the directory in which relative paths begin. -/
instance : Coe Entry Disk :=
  ⟨.ofTree ["work"]⟩

/-- What a path names on a disk. The empty path names nothing. -/
def find? (disk : Disk) (path : String) : Option Entry :=
  if path.isEmpty then none else follow [] disk.root (disk.steps path)

end SchemaCoverage.Files
