import SchemaCoverage.CommandLine.SchemaFiles
import SchemaCoverage.Inspection.Inspector
import SchemaCoverage.Json.Writer
import SchemaCoverage.Manifest
/-!
The inspection that a command line asks for: from the files on a disk to the text of the report.
-/
namespace SchemaCoverage.CommandLine

open Inspection Candidates Files

/-- Why an inspection gives no report. -/
inductive InspectionFailure
  /-- Some schema paths cannot be followed to the end. -/
  | unreachablePaths
  | noSchemaFiles
  | unreadableManifest (path : String)
  | malformedManifest (path : String)
  | invalidControllers (error : Controller.RegistryError)
  | invalidHostTypes (error : Host.RegistryError)
  | uninspectable (error : InspectError)
deriving Repr, DecidableEq

/-- The sign of success. -/
def checkMark : String := "✅"

/-- The sign of a failure. -/
def crossMark : String := "❌"

/-- The sign of gaps. -/
def warningSign : String := "⚠\ufe0f"

/-- The failure in words. -/
def InspectionFailure.message : InspectionFailure → String
  | .unreachablePaths => "Errors while locating GraphQL files: "
  | .noSchemaFiles => "No GraphQL files found."
  | .unreadableManifest path => "Failed to read host manifest " ++ Text.quotePath path
  | .malformedManifest path => "Failed to parse host manifest " ++ Text.quotePath path
  | .invalidControllers error => "Invalid host manifest: " ++ error.message
  | .invalidHostTypes error => "Invalid host manifest: " ++ error.message
  | .uninspectable error => "Inspection failed: " ++ error.message

/-- The text of what a path names, if it is a file of text. -/
def readText? (disk : Disk) (path : String) : Option String :=
  match find? disk path with
  | some (.file _ bytes) => String.fromUTF8? bytes
  | _ => none

/-- The manifest that a path names. -/
def readManifest (disk : Disk) (path : String) : Except InspectionFailure Manifest :=
  match readText? disk path with
  | none => .error (.unreadableManifest path)
  | some text =>
      match Manifest.parse? text with
      | none => .error (.malformedManifest path)
      | some manifest => .ok manifest

namespace InspectOptions

/-- The name that a host type has for a schema type, if the command line says how to make it. -/
def className? (options : InspectOptions) : Option (String → String) :=
  match options.classNameStart, options.classNameEnd with
  | none, none => none
  | before, after => some fun type => before.getD "" ++ type ++ after.getD ""

/-- The inspector for a manifest. -/
def inspector (options : InspectOptions) (manifest : Manifest) : Inspector :=
  let wrappers := manifest.wrapperTypes ++ options.wrapperTypes
  let base := Options.standard.withTypeNames manifest.typeNames
  let named := { base with policy := options.policy, className := options.className? }
  (wrappers.foldl Options.withWrapper named).inspector

/-- The text of a report. -/
def render (options : InspectOptions) (report : Report) : String :=
  match options.format with
  | .json => report.toJson.pretty
  | .text =>
      if report.isEmpty then
        checkMark ++ " Every schema field is mapped.\n" ++ report.render
      else
        warningSign ++ " Found " ++ toString report.unmappedFields.length ++
          " unmapped fields and " ++ toString report.skipped.length ++ " skipped types.\n" ++
          report.render

/-- The schema files that the options lead to. -/
def schemaFiles (options : InspectOptions) (disk : Disk) : SchemaFiles :=
  .collect disk options.extensions options.paths

/-- Inspects the schema in files of a disk. -/
def outcome (options : InspectOptions) (disk : Disk) : Except InspectionFailure Outcome := do
  let found := options.schemaFiles disk
  if found.hasErrors then throw .unreachablePaths
  if found.files.isEmpty then throw .noSchemaFiles
  let manifest ← readManifest disk options.manifest
  let controllers ← manifest.controllerRegistry.mapError .invalidControllers
  let hosts ← manifest.hostRegistry.mapError .invalidHostTypes
  let files := found.files.map fun (path, entry) => (path, some entry)
  ((options.inspector manifest).inspectFiles files controllers hosts).mapError .uninspectable

end InspectOptions

/-- What a command leaves behind. -/
structure Response where
  success : Bool
  output : Option String
  errors : Option String
  warnings : List String
deriving Repr, DecidableEq

namespace InspectOptions

/-- What is told before the inspection itself begins. -/
def earlyWarnings (options : InspectOptions) (disk : Disk) : List String :=
  (options.schemaFiles disk).exception.toList.map (SchemaFiles.exceptionText options.extensions)

/-- Runs the command: it succeeds if there are no gaps, or if gaps are allowed. -/
def run (options : InspectOptions) (disk : Disk) : Response :=
  let early := options.earlyWarnings disk
  match options.outcome disk with
  | .error failure => ⟨false, none, some (crossMark ++ " " ++ failure.message), early⟩
  | .ok ⟨report, warnings⟩ => {
      success := report.isEmpty || options.allowGaps
      output := some (options.render report)
      errors := none
      warnings := early ++ warnings.map Warning.message }

end InspectOptions

end SchemaCoverage.CommandLine
