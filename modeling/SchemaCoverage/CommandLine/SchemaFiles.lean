import SchemaCoverage.CommandLine.Options
import SchemaCoverage.Files.Walk
import SchemaCoverage.Text.Quoted
/-!
The schema files that a command line leads to. All files of a known extension at or under a path
count, and a single file that is named itself counts whatever its extension.
-/
namespace SchemaCoverage.CommandLine

open Files

/-- The schema files of some paths, each under the path by which it is reported. -/
structure SchemaFiles where
  files : List (String × Entry)
  /-- Some path leads nowhere, or something under it cannot be read. -/
  hasErrors : Bool
  /-- The single path that counts although its extension is none of the known ones. -/
  exception : Option String

namespace SchemaFiles

/-- The last step of a path. -/
def fileName (path : String) : String :=
  (pathSteps path).getLast?.getD ""

/-- The path by which a file that was met is reported: the one that all its names lead to. -/
def reported? (found : Found) : Option (String × Entry) :=
  match found.entry with
  | .file path bytes => some (path, .file path bytes)
  | _ => none

/-- The files of a known extension at or under what a path names. -/
def filesAt (extensions : List String) (path : String) (entry : Entry) : List (String × Entry) :=
  ((filesUnder (fileName path) entry).filter (hasExtension extensions ·.name)).filterMap reported?

/-- The files of a known extension at or under some paths, in the order of the paths. -/
def matching (disk : Disk) (extensions paths : List String) : List (String × Entry) :=
  paths.flatMap fun path => ((find? disk path).map (filesAt extensions path)).getD []

/-- All paths lead to something that can be read throughout. -/
def reachable (disk : Disk) (paths : List String) : Bool :=
  paths.all fun path => (find? disk path).any isReadable

/-- The file that a single path names. -/
def onlyFile? (disk : Disk) : List String → Option (String × Entry)
  | [path] => ((find? disk path).filter Entry.isFile).map fun entry => (path, entry)
  | _ => none

/-- The schema files of some paths. -/
def collect (disk : Disk) (extensions paths : List String) : SchemaFiles :=
  let files := matching disk extensions paths
  let hasErrors := !reachable disk paths
  if files.isEmpty && !hasErrors then
    match onlyFile? disk paths with
    | some (path, entry) => ⟨[(path, entry)], false, some path⟩
    | none => ⟨[], false, none⟩
  else ⟨files, hasErrors, none⟩

/-- What is told of a file that counts although its extension is none of the known ones. -/
def exceptionText (extensions : List String) (path : String) : String :=
  "Proceeding to inspect " ++ Text.quotePath path ++
    " even though it doesn't match any of the --graphql-file-exts (" ++
    ", ".intercalate extensions ++ ")."

end SchemaFiles

end SchemaCoverage.CommandLine
