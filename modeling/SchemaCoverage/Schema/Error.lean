import SchemaCoverage.Schema.GraphType
import SchemaCoverage.Text.Quoted
/-!
What can be wrong with a schema, and how it is said.
-/
namespace SchemaCoverage.Schema

/-- Why a schema file cannot be read. -/
inductive FileError
  | notAFile (path : String)
  | notUtf8 (path : String) (validLength : Nat)
deriving Repr, DecidableEq

/-- The error in words. -/
def FileError.message : FileError → String
  | .notAFile path => Text.quotePath path ++ " is not a file"
  | .notUtf8 path validLength =>
      Text.quotePath path ++ " is not valid UTF-8 (valid up to byte " ++ toString validLength ++ ")"

/-- A bad reference from one type of a schema to another, with the place that is to blame. -/
inductive ReferenceError
  | implementsNonInterface (type named : String) (location : Location)
  | implementsUndefined (type named : String) (location : Location)
  | memberNotObject (union member : String) (location : Location)
  | outputOfInputType (parent field input : String) (location : Location)
  | undefinedType (named : String) (location : Location)
deriving Repr, DecidableEq

namespace ReferenceError

/-- The place that is to blame. -/
def location : ReferenceError → Location
  | .implementsNonInterface _ _ location => location
  | .implementsUndefined _ _ location => location
  | .memberNotObject _ _ location => location
  | .outputOfInputType _ _ _ location => location
  | .undefinedType _ location => location

/-- The error in words. -/
def message : ReferenceError → String
  | .implementsNonInterface type named _ =>
      "The `" ++ type ++ "` type implements `" ++ named ++ "`, which is not an interface"
  | .implementsUndefined type named _ =>
      "The `" ++ type ++ "` type implements `" ++ named ++ "`, which is not defined"
  | .memberNotObject union member _ =>
      "The `" ++ union ++ "` union lists `" ++ member ++
        "` as a member, but union members can only be object types"
  | .outputOfInputType parent field input _ =>
      "The `" ++ parent ++ "." ++ field ++ "` output field is declared with the `" ++ input ++
        "` input type"
  | .undefinedType named _ => "There is no type defined with the name `" ++ named ++ "`"

end ReferenceError

/-- Why no type graph can be built. -/
inductive BuildError
  | duplicateField (type field : String) (first second : Location)
  | duplicateOperation (operation : Operation) (first second : Mention)
  | duplicateType (type : String) (first second : Location)
  | duplicateMember (union member : String) (location : Location)
  | extensionOfUndefined (type : String) (location : Location)
  | extensionOfOtherKind (type : String) (defined extension : Kind) (location : Location)
  | reservedName (type : String) (location : Location)
  | noQueryType
  | rootNotObject (operation : Operation) (type : String)
  | unreadableText (file : Option String)
  | unreadableFile (error : FileError)
  | badReferences (errors : List ReferenceError)
deriving Repr, DecidableEq

/-- The error in words. Of an unreadable text it says where it came from and leaves the reason
to its reader. -/
def BuildError.message : BuildError → String
  | .duplicateField type field _ _ =>
      "Multiple fields named `" ++ field ++ "` were defined on the `" ++ type ++ "` type"
  | .duplicateOperation operation _ _ =>
      "Multiple `" ++ operation.title ++ "` root operation types were defined"
  | .duplicateType type _ _ => "Multiple GraphQL types named `" ++ type ++ "` were defined"
  | .duplicateMember union member _ =>
      "The `" ++ union ++ "` union lists `" ++ member ++ "` as a member more than once"
  | .extensionOfUndefined type _ =>
      "Attempted to extend the `" ++ type ++ "` type, which is not defined elsewhere"
  | .extensionOfOtherKind type defined extension _ =>
      "Attempted to extend the `" ++ type ++ "` type with a " ++ extension.title ++
        " extension, but `" ++ type ++ "` is a " ++ defined.title ++ " type"
  | .reservedName type _ => "Type names must not start with `__`: `" ++ type ++ "`"
  | .noQueryType => "Attempted to build a schema that has no Query operation type defined"
  | .rootNotObject operation type =>
      "The `" ++ operation.title ++ "` root operation type is declared as `" ++ type ++
        "`, which is not a defined object type"
  | .unreadableText file =>
      "Error parsing schema from " ++ (file.map Text.quotePath).getD "<str>" ++ ": "
  | .unreadableFile error =>
      "Failure while trying to read a schema file from disk: " ++ error.message
  | .badReferences errors =>
      "Encountered the following type reference errors while building the schema:\n\n" ++
        "\n".intercalate (errors.map fun error => "  * " ++ error.message)

end SchemaCoverage.Schema
