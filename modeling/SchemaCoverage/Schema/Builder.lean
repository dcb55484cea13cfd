import SchemaCoverage.Files.Tree
import SchemaCoverage.Schema.References
import SchemaCoverage.Sdl.Parser
import SchemaCoverage.Text.Utf8
/-!
Building a type graph from definitions. Definitions may come in any order and from several
texts: an extension whose type is not defined yet waits until all texts are loaded.
-/
namespace SchemaCoverage.Schema

/-- A type name that only the language itself may use. -/
def isReserved (name : String) : Bool :=
  ['_', '_'].isPrefixOf name.toList

/-- Arguments as they stand in a file; a repeated name keeps its place and takes the last type. -/
def argumentsOf (file : Option String) (arguments : List Sdl.InputValue) :
    Assoc String FieldType :=
  arguments.foldl
    (fun found argument =>
      found.put argument.name (.ofExpr (.source file argument.position) argument.type))
    []

/-- A written field as a field of a type. -/
def fieldOf (file : Option String) (parent : String) (field : Sdl.FieldDef) : Field :=
  { name := field.name
    parent
    type := .ofExpr (.source file field.position) field.type
    arguments := argumentsOf file field.arguments
    location := .source file field.position }

/-- A written input field as a field of a type. -/
def inputFieldOf (file : Option String) (parent : String) (field : Sdl.InputValue) : Field :=
  { name := field.name
    parent
    type := .ofExpr (.source file field.position) field.type
    arguments := []
    location := .source file field.position }

/-- Adds a field at the end; its name must be new. -/
def addField (type : String) (fields : List Field) (field : Field) :
    Except BuildError (List Field) :=
  match fields.find? (·.name == field.name) with
  | some existing => .error (.duplicateField type field.name existing.location field.location)
  | none => .ok (fields ++ [field])

/-- Adds a union member at the end; its name must be new. -/
def addMember (union : String) (members : List Mention) (member : Mention) :
    Except BuildError (List Mention) :=
  if members.any (·.name == member.name) then
    .error (.duplicateMember union member.name member.location)
  else .ok (members ++ [member])

/-- Adds an interface at the end unless it is there already. -/
def addInterface (interfaces : List Mention) (interface : Mention) : List Mention :=
  if interfaces.any (·.name == interface.name) then interfaces else interfaces ++ [interface]

/-- The kind of type that a written body belongs to. -/
def kindOfBody : Sdl.TypeBody → Kind
  | .scalar => .scalar
  | .object _ _ => .object
  | .interface _ _ => .interface
  | .union _ => .union
  | .enum _ => .enum
  | .input _ => .inputObject

/-- The mentions of names at one place. -/
def mentions (location : Location) (names : List String) : List Mention :=
  names.map fun name => ⟨name, location⟩

/-- What a definition says of its type. Values of an enum are kept as they are written. -/
def contentOf (file : Option String) (definition : Sdl.TypeDef) : Except BuildError Content :=
  let location := Location.source file definition.position
  let type := definition.name
  match definition.body with
  | .scalar => .ok .scalar
  | .enum values => .ok (.enum values)
  | .input fields => do
      return .input (← (fields.map (inputFieldOf file type)).foldlM (addField type) [])
  | .interface interfaces fields => do
      let fields ← (fields.map (fieldOf file type)).foldlM (addField type) []
      return .interface ((mentions location interfaces).foldl addInterface []) fields
  | .object interfaces fields => do
      let fields ← (fields.map (fieldOf file type)).foldlM (addField type) []
      return .object ((mentions location interfaces).foldl addInterface []) fields
  | .union members => do
      return .union (← (mentions location members).foldlM (addMember type) [])

/-- An extension in the file where it stands. -/
structure Extension where
  file : Option String
  addition : Sdl.TypeDef
deriving Repr, DecidableEq

namespace Extension

/-- The kind of type that the extension is written for. -/
def kind (extension : Extension) : Kind :=
  kindOfBody extension.addition.body

/-- The place of the extension. -/
def location (extension : Extension) : Location :=
  .source extension.file extension.addition.position

end Extension

/-- Adds to a type what an extension of its kind says. An interface gains fields alone; an enum
gains the values that it does not have. Built-in types are of no kind that can be extended. -/
def GraphType.extend (type : GraphType) (extension : Extension) : Except BuildError GraphType :=
  let file := extension.file
  let name := extension.addition.name
  match type.content, extension.addition.body with
  | .scalar, .scalar =>
      if type.location = .builtin then
        .error (.extensionOfOtherKind name .scalar .scalar extension.location)
      else .ok type
  | .enum values, .enum added =>
      .ok { type with content := .enum (added.foldl Assoc.addNew values) }
  | .input fields, .input added => do
      let fields ← (added.map (inputFieldOf file name)).foldlM (addField name) fields
      return { type with content := .input fields }
  | .interface interfaces fields, .interface _ added => do
      let fields ← (added.map (fieldOf file name)).foldlM (addField name) fields
      return { type with content := .interface interfaces fields }
  | .object interfaces fields, .object more added => do
      let fields ← (added.map (fieldOf file name)).foldlM (addField name) fields
      let interfaces := (mentions extension.location more).foldl addInterface interfaces
      return { type with content := .object interfaces fields }
  | .union members, .union added => do
      let members ← (mentions extension.location added).foldlM (addMember name) members
      return { type with content := .union members }
  | content, _ =>
      .error (.extensionOfOtherKind name content.kind extension.kind extension.location)

/-- Extends the first type of the extension's name, if there is one. -/
def extendTypes (types : List GraphType) (extension : Extension) :
    Except BuildError (Option (List GraphType)) :=
  match types with
  | [] => .ok none
  | type :: rest =>
      if type.name = extension.addition.name then
        (type.extend extension).map fun type => some (type :: rest)
      else (extendTypes rest extension).map (·.map (type :: ·))

/-- The root types that schema blocks have declared so far. -/
structure DeclaredRoots where
  query : Option Mention
  mutation : Option Mention
  subscription : Option Mention
deriving Repr, DecidableEq

/-- A graph under construction: the types so far, the extensions that wait for their types in
the order of arrival, and the declared root types. -/
structure Builder where
  types : List GraphType
  waiting : List Extension
  roots : DeclaredRoots
deriving Repr, DecidableEq

namespace Builder

/-- Nothing is loaded; only the built-in types are there. -/
def empty : Builder :=
  ⟨builtinTypes, [], ⟨none, none, none⟩⟩

/-- Declares the root type of one operation, unless it is declared already. -/
def declareRoot (operation : Operation) (existing : Option Mention) (declared : Option Mention) :
    Except BuildError (Option Mention) :=
  match existing, declared with
  | existing, none => .ok existing
  | none, some mention => .ok (some mention)
  | some first, some second => .error (.duplicateOperation operation first second)

/-- Takes the declarations of a schema block, in the order query, mutation, subscription. -/
def addRoots (builder : Builder) (file : Option String) (block : Sdl.SchemaBlock) :
    Except BuildError Builder := do
  let mention (name : String) : Mention := ⟨name, .source file block.position⟩
  let query ← declareRoot .query builder.roots.query (block.query.map mention)
  let mutation ← declareRoot .mutation builder.roots.mutation (block.mutation.map mention)
  let subscription ←
    declareRoot .subscription builder.roots.subscription (block.subscription.map mention)
  return { builder with roots := ⟨query, mutation, subscription⟩ }

/-- Adds a type; its name must be new and not reserved. -/
def addType (builder : Builder) (type : GraphType) : Except BuildError Builder :=
  if isReserved type.name then .error (.reservedName type.name type.location)
  else
    match findType? builder.types type.name with
    | some existing => .error (.duplicateType type.name existing.location type.location)
    | none => .ok { builder with types := builder.types ++ [type] }

/-- Extends a type that is there, or lets the extension wait. -/
def addExtension (builder : Builder) (extension : Extension) : Except BuildError Builder := do
  match ← extendTypes builder.types extension with
  | some types => return { builder with types }
  | none => return { builder with waiting := builder.waiting ++ [extension] }

/-- Takes one definition of a file. Directives say nothing about fields. -/
def addDefinition (file : Option String) (builder : Builder) :
    Sdl.Definition → Except BuildError Builder
  | .schema block => builder.addRoots file block
  | .type definition => do
      let content ← contentOf file definition
      builder.addType ⟨definition.name, content, .source file definition.position⟩
  | .extension addition => builder.addExtension ⟨file, addition⟩
  | .directive => .ok builder

/-- Takes the definitions of a document in order, up to the first error. -/
def addDocument (builder : Builder) (file : Option String) (document : Sdl.Document) :
    Except BuildError Builder :=
  document.foldlM (addDefinition file) builder

/-- Loads a text, which may come from a file of some name. -/
def loadText (builder : Builder) (file : Option String) (text : String) :
    Except BuildError Builder :=
  match Sdl.parseDocument text with
  | some document => builder.addDocument file document
  | none => .error (.unreadableText file)

/-- The order in which waiting extensions are taken up, by kind. -/
def extensionOrder : List Kind :=
  [.enum, .inputObject, .interface, .object, .scalar, .union]

/-- Applies an extension that has waited; its type must be there by now. -/
def applyWaiting (types : List GraphType) (extension : Extension) :
    Except BuildError (List GraphType) := do
  match ← extendTypes types extension with
  | some types => return types
  | none => .error (.extensionOfUndefined extension.addition.name extension.location)

/-- The types with all waiting extensions applied. -/
def extendedTypes (builder : Builder) : Except BuildError (List GraphType) :=
  let ordered := extensionOrder.flatMap fun kind => builder.waiting.filter (·.kind == kind)
  ordered.foldlM applyWaiting builder.types

/-- The root type of an operation: the declared one, which must be an object type, or else the
object type of the usual name, if there is one. -/
def rootName (types : List GraphType) (operation : Operation) (declared : Option Mention) :
    Except BuildError (Option String) :=
  match declared with
  | some mention =>
      if kindOf? types mention.name = some .object then .ok (some mention.name)
      else .error (.rootNotObject operation mention.name)
  | none =>
      if kindOf? types operation.title = some .object then .ok (some operation.title)
      else .ok none

/-- The finished graph: waiting extensions are applied, the root types are found, and all
references are checked. -/
def build (builder : Builder) : Except BuildError Graph := do
  let types ← builder.extendedTypes
  let some query ← rootName types .query builder.roots.query
    | .error .noQueryType
  let mutation ← rootName types .mutation builder.roots.mutation
  let subscription ← rootName types .subscription builder.roots.subscription
  match referenceErrors types with
  | [] => return { types, query, mutation, subscription }
  | errors => .error (.badReferences errors)

end Builder

/-- The text of a schema file, as a path names it. -/
def readText (path : String) : Option Files.Entry → Except FileError String
  | some (.file _ bytes) =>
      match String.fromUTF8? bytes with
      | some text => .ok text
      | none => .error (.notUtf8 path (Text.validLength bytes.toList))
  | _ => .error (.notAFile path)

/-- Loads the files of some paths in order, up to the first error. The paths come with what they
name. -/
def Builder.loadFiles (builder : Builder) (files : List (String × Option Files.Entry)) :
    Except BuildError Builder :=
  files.foldlM
    (fun builder (path, entry) =>
      match readText path entry with
      | .ok text => builder.loadText (some path) text
      | .error error => .error (.unreadableFile error))
    builder

end SchemaCoverage.Schema
