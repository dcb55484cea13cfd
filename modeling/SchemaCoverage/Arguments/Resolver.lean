import SchemaCoverage.Arguments.Binding
import SchemaCoverage.Arguments.Context
/-!
Argument resolvers find the values of method parameters that are bound to contexts.
-/
namespace SchemaCoverage.Arguments

/-- Why a parameter has no value. -/
inductive ResolveError
  | missingName (index : Nat)
  | missingValue (index : Nat) (name : String) (scope : Scope)
  | unsupported (index : Nat)
deriving Repr, DecidableEq

/-- The error in words. -/
def ResolveError.message : ResolveError → String
  | .missingName index =>
      "Parameter " ++ toString index ++
        " is bound to a context value without a name, and the parameter's own name is not known"
  | .missingValue index name scope =>
      "Missing required " ++ scope.render ++ " context value `" ++ name ++ "` for parameter " ++
        toString index
  | .unsupported index => "No argument resolver supports parameter " ++ toString index

/-- A resolver reads one context, or asks the first of several that supports the parameter. -/
inductive Resolver
  | reads (scope : Scope)
  | chain (resolvers : List Resolver)
deriving Repr, Inhabited

/-- The context of a scope; where there is no own context it counts as empty. -/
def Environment.context (environment : Environment) : Scope → Context
  | .global => environment.global
  | .own => environment.own.getD .empty

/-- Looks a parameter up in a context by its bound name or else by its own. -/
def lookUp (parameter : Parameter) (context : Context) :
    Except ResolveError (Option ContextValue) :=
  match parameter.binding with
  | none => .error (.unsupported parameter.index)
  | some binding =>
      match binding.name.or parameter.name with
      | none => .error (.missingName parameter.index)
      | some name =>
          match context.get? name with
          | some value => .ok (some value)
          | none =>
              if binding.required then
                .error (.missingValue parameter.index name binding.scope)
              else .ok none

namespace Resolver

/-- The chain that reads a field's own context and the global one. -/
def contexts : Resolver :=
  .chain [.reads .own, .reads .global]

mutual

/-- The parameter is bound to a context that the resolver reads. -/
def supports (parameter : Parameter) : Resolver → Bool
  | .reads scope => parameter.binding.any (·.scope == scope)
  | .chain resolvers => supportsAny parameter resolvers

/-- Some of the resolvers supports the parameter. -/
def supportsAny (parameter : Parameter) : List Resolver → Bool
  | [] => false
  | resolver :: others => supports parameter resolver || supportsAny parameter others

end

mutual

/-- The value of a parameter. A resolver of one context is not asked whether it supports it. -/
def resolve (parameter : Parameter) (environment : Environment) :
    Resolver → Except ResolveError (Option ContextValue)
  | .reads scope => lookUp parameter (environment.context scope)
  | .chain resolvers => resolveFirst parameter environment resolvers

/-- The value that the first supporting resolver finds. -/
def resolveFirst (parameter : Parameter) (environment : Environment) :
    List Resolver → Except ResolveError (Option ContextValue)
  | [] => .error (.unsupported parameter.index)
  | resolver :: others =>
      if supports parameter resolver then resolve parameter environment resolver
      else resolveFirst parameter environment others

end

/-- A chain in words; a resolver of one context has none. -/
def render? : Resolver → Option String
  | .chain resolvers =>
      some ("ArgumentResolverChain \x7b len: " ++ toString resolvers.length ++ " \x7d")
  | .reads _ => none

end Resolver

end SchemaCoverage.Arguments
