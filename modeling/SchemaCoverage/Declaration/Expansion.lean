import SchemaCoverage.Declaration.Outline
/-!
Expansions: the code that describes the host type of an outline when the host program runs.
-/
namespace SchemaCoverage.Declaration.Outline

/-- The words of a path from the root of all modules. -/
def rootPath (segments : List String) : List String :=
  segments.flatMap fun segment => ["::", segment]

/-- The words of a name in the module of host types. -/
def hostName (segments : List String) : List String :=
  rootPath (["schema_inspector", "host"] ++ segments)

/-- Words in parentheses. -/
def inParentheses (words : List String) : List String :=
  "(" :: words ++ [")"]

/-- Words in curly braces. -/
def inBraces (words : List String) : List String :=
  "\x7b" :: words ++ ["\x7d"]

/-- A call of a method. -/
def methodCall (name : String) (arguments : List String) : List String :=
  "." :: name :: inParentheses arguments

/-- The reference that a type describes. -/
def describedRef (type : List String) : List String :=
  "<" :: type ++ "as" :: hostName ["DescribeHostTypeRef"] ++
    [">", "::", "describe_host_type_ref"] ++ inParentheses []

/-- The path of the type that a type describes. -/
def describedPath (type : TypeExpr) : List String :=
  describedRef type.words ++ methodCall "path" [] ++ methodCall "unwrap_or_default" []

/-- The path of the outline: the given one, or the name in the module of the declaration. -/
def pathWords (outline : Outline) : List String :=
  match outline.path with
  | some (written, _) => [written]
  | none =>
      rootPath ["core", "concat"] ++ "!" :: inParentheses
        (rootPath ["core", "module_path"] ++ "!" :: inParentheses [] ++
          [",", writeLiteral "::", ",", writeLiteral outline.name])

/-- The call that adds a member. -/
def memberWords (member : Member) : List String :=
  let ref :=
    match member.type with
    | some type => describedRef type.words
    | none => hostName ["HostTypeRef", "Opaque"]
  methodCall "with_member" (writeLiteral member.name :: "," :: ref)

/-- The call that adds a member that is no field. -/
def extraMemberWords (name : String) (type : TypeExpr) : List String :=
  methodCall "with_member" (writeLiteral name :: "," :: describedRef type.words ++ [","])

/-- The call that begins a host type. -/
def kindName : Host.TypeKind → String
  | .concrete => "concrete"
  | .abstract => "abstract_type"

/-- The expression for the host type. -/
def hostTypeWords (outline : Outline) : List String :=
  hostName ["HostType", kindName outline.kind] ++ inParentheses outline.pathWords ++
    outline.members.flatMap memberWords ++
    outline.permits.flatMap (fun type => methodCall "permitting" (describedPath type)) ++
    outline.extraMembers.flatMap (fun (name, type) => extraMemberWords name type) ++
    outline.implements.flatMap (fun type => methodCall "implementing" (describedPath type))

/-- A function of a trait that the declared type implements. -/
def implementation (outline : Outline) (trait function result : String) (body : List String) :
    List String :=
  "impl" :: hostName [trait] ++ ["for", outline.name] ++ inBraces
    (["fn", function] ++ inParentheses [] ++ "->" :: hostName [result] ++ inBraces body)

/-- All words of the expansion. -/
def expansionWords (outline : Outline) : List String :=
  outline.implementation "DescribeHostType" "describe_host_type" "HostType" outline.hostTypeWords ++
    outline.implementation "DescribeHostTypeRef" "describe_host_type_ref" "HostTypeRef"
      (hostName ["HostTypeRef", "named"] ++ inParentheses outline.pathWords)

/-- The expansion written out. -/
def expansion (outline : Outline) : String :=
  renderWords outline.expansionWords

end SchemaCoverage.Declaration.Outline
