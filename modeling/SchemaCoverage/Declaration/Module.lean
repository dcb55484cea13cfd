import SchemaCoverage.Declaration.Description
/-!
Modules: declarations that stand together, whose types may name one another.
-/
namespace SchemaCoverage.Declaration

open Host

/-- The outlines of the declarations in a module of some path. -/
structure Module where
  path : String
  outlines : List Outline
deriving Repr

namespace Module

/-- The module of some source texts; those that give no outline are left out. -/
def ofSources (path : String) (sources : List String) : Module :=
  ⟨path, sources.filterMap fun source =>
    (Item.parse? source).bind fun item => (Outline.ofItem item).toOption⟩

/-- The paths of the declared types by their names, alone or behind the path of the module. -/
def scope (module : Module) : Assoc String String :=
  let own := module.outlines.map fun outline => (outline.name, outline.ownPath module.path)
  own ++ own.map fun (name, path) => (module.path ++ "::" ++ name, path)

/-- The reference that a written type stands for in the module. -/
def typeRef? (module : Module) (source : String) : Option TypeRef :=
  (TypeExpr.parse? source).bind fun type => type.shape.describe module.scope

/-- The host type of a declared name. -/
def hostType? (module : Module) (name : String) : Option HostType := do
  let outline ← module.outlines.find? (·.name == name)
  outline.hostType? module.path module.scope

end Module

end SchemaCoverage.Declaration
