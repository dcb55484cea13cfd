import SchemaCoverage.CommandLine.Word
import SchemaCoverage.Inspection.Walk
/-!
What a command line asks for, and the draft of it that grows while the words are read.
-/
namespace SchemaCoverage.CommandLine

open Inspection

/-- Why a command line is not run. -/
inductive Refusal
  /-- An option that may stand once is repeated. -/
  | repeatedOption
  /-- An option without a value is given one. -/
  | unneededValue
  | unknownArgument
  | unknownCommand
  /-- An option lacks its value, or the value is none that it may have. -/
  | invalidValue
  /-- The manifest or the schema paths are missing. -/
  | missingArgument
  | helpWanted
  | versionWanted
deriving Repr, DecidableEq

/-- The format in which a report is written. -/
inductive OutputFormat
  | json
  | text
deriving Repr, DecidableEq

/-- The format of a written name. -/
def OutputFormat.ofName? : String → Option OutputFormat
  | "json" => some .json
  | "text" => some .text
  | _ => none

/-- The interface policy of a written name. -/
def policyOfName? : String → Option InterfacePolicy
  | "concrete-types-only" => some .concreteTypesOnly
  | "include-abstract-type" => some .includeAbstractType
  | _ => none

/-- A path as an argument; it must not be empty. -/
def pathOfText? (text : String) : Option String :=
  if text.isEmpty then none else some text

/-- An inspection that is asked for. -/
structure InspectOptions where
  allowGaps : Bool
  classNameStart : Option String
  classNameEnd : Option String
  format : OutputFormat
  extensions : List String
  policy : InterfacePolicy
  manifest : String
  wrapperTypes : List String
  paths : List String
deriving Repr, DecidableEq

/-- A whole command line. Without a command nothing is done. -/
structure Invocation where
  verbose : Bool
  inspect : Option InspectOptions
deriving Repr, DecidableEq

/-- The options of an inspection that take a value. -/
inductive ValueOption
  | classNameStart
  | classNameEnd
  | format
  | extensions
  | policy
  | manifest
  | wrapperTypes
deriving Repr, DecidableEq

/-- The options that an inspection knows. -/
inductive KnownOption
  | help
  | allowGaps
  | valued (option : ValueOption)
deriving Repr, DecidableEq

/-- The option of a long name. -/
def KnownOption.ofName? : String → Option KnownOption
  | "help" => some .help
  | "allow-gaps" => some .allowGaps
  | "class-name-prefix" => some (.valued .classNameStart)
  | "class-name-suffix" => some (.valued .classNameEnd)
  | "format" => some (.valued .format)
  | "graphql-file-exts" => some (.valued .extensions)
  | "interface-fields" => some (.valued .policy)
  | "manifest" => some (.valued .manifest)
  | "wrapper-types" => some (.valued .wrapperTypes)
  | _ => none

/-- The option of a letter. -/
def KnownOption.ofLetter? : Char → Option KnownOption
  | 'h' => some .help
  | 'm' => some (.valued .manifest)
  | _ => none

/-- The options read so far. -/
structure Draft where
  allowGaps : Bool
  classNameStart : Option String
  classNameEnd : Option String
  format : Option OutputFormat
  extensions : List String
  policy : Option InterfacePolicy
  manifest : Option String
  wrapperTypes : List String
  paths : List String
deriving Repr, DecidableEq

namespace Draft

/-- Nothing is read. -/
def empty : Draft :=
  ⟨false, none, none, none, [], none, none, [], []⟩

/-- Gives an option its value, once; the value must be one that it may have. -/
def assign {α : Type} (current value : Option α) : Except Refusal (Option α) :=
  if current.isSome then .error .repeatedOption
  else if value.isNone then .error .invalidValue
  else .ok value

/-- Takes the value of an option. Lists grow, all else may be given once. -/
def set (draft : Draft) (value : String) : ValueOption → Except Refusal Draft
  | .classNameStart => do
      return { draft with classNameStart := ← assign draft.classNameStart (some value) }
  | .classNameEnd => do
      return { draft with classNameEnd := ← assign draft.classNameEnd (some value) }
  | .format => do
      return { draft with format := ← assign draft.format (OutputFormat.ofName? value) }
  | .extensions => .ok { draft with extensions := draft.extensions ++ valuesOf value }
  | .policy => do
      return { draft with policy := ← assign draft.policy (policyOfName? value) }
  | .manifest => do
      return { draft with manifest := ← assign draft.manifest (pathOfText? value) }
  | .wrapperTypes => .ok { draft with wrapperTypes := draft.wrapperTypes ++ valuesOf value }

/-- Takes the flag that allows gaps, once. -/
def setAllowGaps (draft : Draft) : Except Refusal Draft :=
  if draft.allowGaps then .error .repeatedOption else .ok { draft with allowGaps := true }

/-- Takes schema paths. -/
def addPaths (draft : Draft) (paths : List String) : Except Refusal Draft :=
  match paths.mapM pathOfText? with
  | some paths => .ok { draft with paths := draft.paths ++ paths }
  | none => .error .invalidValue

/-- The endings of schema files where none are given. -/
def standardExtensions : List String := ["graphql", "graphqls"]

/-- The finished options, if nothing is missing. -/
def finish (draft : Draft) : Except Refusal InspectOptions :=
  match draft.manifest, draft.paths with
  | some manifest, first :: others => .ok {
      allowGaps := draft.allowGaps
      classNameStart := draft.classNameStart
      classNameEnd := draft.classNameEnd
      format := draft.format.getD .text
      extensions := if draft.extensions.isEmpty then standardExtensions else draft.extensions
      policy := draft.policy.getD .concreteTypesOnly
      manifest
      wrapperTypes := draft.wrapperTypes
      paths := first :: others }
  | _, _ => .error .missingArgument

end Draft

end SchemaCoverage.CommandLine
