import SchemaCoverage.CommandLine.Inspection
import SchemaCoverage.CommandLine.Reader
/-!
The command line program: it reads the part of the disk that the words of the command line lead
to, runs the command and prints what it leaves behind.
-/
namespace SchemaCoverage.CommandLine

open Files

/-- How a command is to be written. -/
def usage : String :=
  "Usage: schema-coverage [-v] inspect -m <MANIFEST> [OPTIONS] <FILE_OR_DIR_PATHS>...\n\n" ++
    "Options:\n" ++
    "  --allow-gaps\n  --class-name-prefix <TEXT>\n  --class-name-suffix <TEXT>\n" ++
    "  --format <json|text>\n  --graphql-file-exts <EXT,..>\n" ++
    "  --interface-fields <concrete-types-only|include-abstract-type>\n" ++
    "  -m, --manifest <PATH>\n  --wrapper-types <NAME,..>"

/-- The version of the program. -/
def version : String := "schema-coverage 0.1.0"

/-- The refusal in words. -/
def Refusal.message : Refusal → String
  | .repeatedOption => "an option is given more than once"
  | .unneededValue => "an option is given a value that it does not take"
  | .unknownArgument => "an argument is not known"
  | .unknownCommand => "the command is not known"
  | .invalidValue => "an option lacks its value or has none that it may have"
  | .missingArgument => "the manifest or the schema paths are missing"
  | .helpWanted => "help is wanted"
  | .versionWanted => "the version is wanted"

/-- Reads what stands at a path of the disk, to a limited depth. -/
def readPath (depth : Nat) (path : String) : IO Entry := do
  match depth with
  | 0 => return .unreadable
  | depth + 1 =>
      try
        let real ← IO.FS.realPath path
        if ← real.isDir then
          let children ← real.readDir
          let entries ← children.toList.mapM fun child =>
            return (child.fileName, ← readPath depth child.path.toString)
          return .directory entries
        else return .file real.toString (← IO.FS.readBinFile real)
      catch _ => return .unreadable

/-- The deepest directory that is read. -/
def maxDepth : Nat := 64

/-- Reads what a path leads to, unless there is nothing or it was read before. -/
def readInto (disk : Disk) (path : String) : IO Disk := do
  if (find? disk path).isSome then return disk
  match ← (IO.FS.realPath path).toBaseIO with
  | .error _ => return disk
  | .ok _ =>
      let entry ← readPath maxDepth path
      return { disk with root := entry.put (disk.placeOf path) disk.root }

/-- Reads the current directory, and what some paths lead to outside of it. -/
def readDisk (paths : List String) : IO Disk := do
  let current := (← IO.currentDir).toString
  let home := (pathSteps current).filter (· ≠ "")
  paths.foldlM readInto (.ofTree home (← readPath maxDepth current))

/-- Runs a command and prints what it leaves behind. -/
def perform (options : InspectOptions) : IO UInt32 := do
  let disk ← readDisk (options.manifest :: options.paths)
  let response := options.run disk
  for warning in response.warnings do IO.eprintln ("WARN " ++ warning)
  if let some text := response.output then IO.println text
  if let some text := response.errors then IO.eprintln text
  return if response.success then 0 else 1

/-- Runs a command line. -/
def runWords (words : List String) : IO UInt32 := do
  match Invocation.read words with
  | .ok invocation =>
      match invocation.inspect with
      | some options => perform options
      | none =>
          IO.println usage
          return 0
  | .error .helpWanted =>
      IO.println usage
      return 0
  | .error .versionWanted =>
      IO.println version
      return 0
  | .error refusal =>
      IO.eprintln ("error: " ++ refusal.message)
      return 2

end SchemaCoverage.CommandLine

/-- Runs the command line of the program. -/
def main (words : List String) : IO UInt32 :=
  SchemaCoverage.CommandLine.runWords words
