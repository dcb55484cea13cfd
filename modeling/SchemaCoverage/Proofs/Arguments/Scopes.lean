import SchemaCoverage.Arguments.Resolver
/-!
Which context a parameter's value comes from. A chain of resolvers, however it is nested, gives a
parameter what its binding finds in the context that it names, or refuses it because none of the
resolvers reads that context. The other context has no influence.
-/
namespace SchemaCoverage.Arguments

/-- The value that an environment holds under a name in a scope. -/
def Environment.value? (environment : Environment) : Scope → String → Option ContextValue
  | .global, name => environment.global.get? name
  | .own, name => environment.own.bind (·.get? name)

/-- The name that a parameter is looked up by: the one of its binding, or else its own. -/
def Parameter.key? (parameter : Parameter) (binding : Binding) : Option String :=
  match binding.name with
  | some name => some name
  | none => parameter.name

/-- What a direct look-up gives a bound parameter in an environment: an error if there is no name to
look for, the value that is held under the name in the scope of the binding, and without a value an
error or nothing, according as the binding requires one. -/
inductive Finds (parameter : Parameter) (environment : Environment) :
    Except ResolveError (Option ContextValue) → Prop
  | nameless {binding : Binding} : parameter.binding = some binding →
      parameter.key? binding = none →
      Finds parameter environment (.error (.missingName parameter.index))
  | held {binding : Binding} {name : String} {value : ContextValue} :
      parameter.binding = some binding → parameter.key? binding = some name →
      environment.value? binding.scope name = some value →
      Finds parameter environment (.ok (some value))
  | missing {binding : Binding} {name : String} : parameter.binding = some binding →
      parameter.key? binding = some name → environment.value? binding.scope name = none →
      binding.required = true →
      Finds parameter environment (.error (.missingValue parameter.index name binding.scope))
  | absent {binding : Binding} {name : String} : parameter.binding = some binding →
      parameter.key? binding = some name → environment.value? binding.scope name = none →
      binding.required = false → Finds parameter environment (.ok none)

/-- Two environments hold the same in the scope that a parameter is bound to. -/
def Environment.AgreesFor (environment other : Environment) (parameter : Parameter) : Prop :=
  ∀ binding ∈ parameter.binding, ∀ name,
    environment.value? binding.scope name = other.value? binding.scope name

variable {parameter : Parameter} {environment other : Environment} {binding : Binding}
  {found found' : Except ResolveError (Option ContextValue)}

theorem get?_context (environment : Environment) (scope : Scope) (name : String) :
    (environment.context scope).get? name = environment.value? scope name := by
  cases scope with
  | global => rfl
  | own =>
      unfold Environment.context Environment.value?
      cases environment.own <;> rfl

theorem key?_eq (parameter : Parameter) (binding : Binding) :
    parameter.key? binding = binding.name.or parameter.name := by
  unfold Parameter.key?
  cases binding.name <;> rfl

/-- The look-up in the context of the binding is a direct one. -/
theorem finds_lookUp (hbinding : parameter.binding = some binding) :
    Finds parameter environment (lookUp parameter (environment.context binding.scope)) := by
  unfold lookUp
  simp only [hbinding, ← key?_eq, get?_context]
  cases hkey : parameter.key? binding with
  | none => exact .nameless hbinding hkey
  | some name =>
      simp only
      split
      · next value hvalue => exact .held hbinding hkey hvalue
      · next hvalue =>
          split
          · next hrequired => exact .missing hbinding hkey hvalue hrequired
          · next hrequired => exact .absent hbinding hkey hvalue (by simpa using hrequired)

/-- A direct look-up has one outcome. -/
theorem Finds.unique (h : Finds parameter environment found)
    (h' : Finds parameter environment found') : found = found' := by
  cases h <;> cases h' <;> grind

/-- A direct look-up reads the scope of the binding. -/
theorem Finds.congr (h : Finds parameter environment found)
    (hagrees : environment.AgreesFor other parameter) : Finds parameter other found := by
  cases h with
  | nameless hbinding hkey => exact .nameless hbinding hkey
  | held hbinding hkey hvalue =>
      rw [hagrees _ hbinding] at hvalue
      exact .held hbinding hkey hvalue
  | missing hbinding hkey hvalue hrequired =>
      rw [hagrees _ hbinding] at hvalue
      exact .missing hbinding hkey hvalue hrequired
  | absent hbinding hkey hvalue hrequired =>
      rw [hagrees _ hbinding] at hvalue
      exact .absent hbinding hkey hvalue hrequired

theorem Finds.ne_unsupported (h : Finds parameter environment found) :
    found ≠ .error (.unsupported parameter.index) := by
  cases h <;> simp

namespace Resolver

mutual

/-- A resolver that supports a parameter looks it up in the context that it is bound to. -/
theorem finds_of_supports {resolver : Resolver} (h : resolver.supports parameter = true) :
    Finds parameter environment (resolver.resolve parameter environment) := by
  cases resolver with
  | reads scope =>
      rw [supports, Option.any_eq_true] at h
      obtain ⟨binding, hbinding, hscope⟩ := h
      obtain rfl := eq_of_beq hscope
      exact finds_lookUp hbinding
  | chain resolvers => exact finds_of_supportsAny h

theorem finds_of_supportsAny {resolvers : List Resolver}
    (h : supportsAny parameter resolvers = true) :
    Finds parameter environment (resolveFirst parameter environment resolvers) := by
  cases resolvers with
  | nil => cases h
  | cons resolver others =>
      rw [resolveFirst]
      split
      · next hsupports => exact finds_of_supports hsupports
      · next hsupports =>
          simp only [supportsAny, hsupports, Bool.false_or] at h
          exact finds_of_supportsAny h

end

theorem resolveFirst_eq_unsupported {resolvers : List Resolver}
    (h : supportsAny parameter resolvers = false) :
    resolveFirst parameter environment resolvers = .error (.unsupported parameter.index) := by
  induction resolvers with
  | nil => rfl
  | cons resolver others ih =>
      rw [supportsAny, Bool.or_eq_false_iff] at h
      rw [resolveFirst, if_neg (by simp [h.1]), ih h.2]

/-- Chains read the context that a parameter is bound to and nothing else. A parameter is refused
just if it is not supported, any other gets what a direct look-up gives it, and environments that
hold the same in its scope give the same. -/
theorem chain_reads_bound_scope (resolvers : List Resolver) (parameter : Parameter) :
    (∀ environment, (chain resolvers).supports parameter = false ↔
      (chain resolvers).resolve parameter environment =
        .error (.unsupported parameter.index)) ∧
    ((chain resolvers).supports parameter = true → ∀ environment found,
      (chain resolvers).resolve parameter environment = found ↔
        Finds parameter environment found) ∧
    ∀ environment other, environment.AgreesFor other parameter →
      (chain resolvers).resolve parameter environment =
        (chain resolvers).resolve parameter other := by
  have hfinds (h : (chain resolvers).supports parameter = true) (environment : Environment) :
      Finds parameter environment ((chain resolvers).resolve parameter environment) :=
    finds_of_supports h
  have hrefused (h : (chain resolvers).supports parameter = false) (environment : Environment) :
      (chain resolvers).resolve parameter environment = .error (.unsupported parameter.index) :=
    resolveFirst_eq_unsupported h
  refine ⟨?_, ?_, ?_⟩
  · intro environment
    refine ⟨fun h => hrefused h environment, fun h => ?_⟩
    rw [← Bool.not_eq_true]
    intro hsupports
    exact (hfinds hsupports environment).ne_unsupported h
  · intro h environment found
    constructor
    · rintro rfl
      exact hfinds h environment
    · exact (hfinds h environment).unique
  · intro environment other hagrees
    cases h : (chain resolvers).supports parameter with
    | false => rw [hrefused h, hrefused h]
    | true => exact ((hfinds h environment).congr hagrees).unique (hfinds h other)

/-- Chains in a chain; the first is empty, the next asks for the global context before the other. -/
def nestedResolvers : List Resolver :=
  [.chain [], .chain [.reads .global, .chain [.reads .own]], .reads .global]

/-- A parameter that must have the value `user` of the own context. -/
def ownUser : Parameter :=
  ⟨2, some "id", some ⟨.own, some "user", true⟩⟩

/-- Another user in each context. -/
def twoUsers : Environment :=
  ⟨Context.empty.insert "user" ⟨1, .text "Eve"⟩, some (Context.empty.insert "user" ⟨2, .text "Ada"⟩)⟩

theorem nestedResolvers_read_own :
    (chain nestedResolvers).supports ownUser = true ∧
      twoUsers.AgreesFor ⟨.empty, twoUsers.own⟩ ownUser ∧
      (chain nestedResolvers).resolve ownUser twoUsers = .ok (some ⟨2, .text "Ada"⟩) ∧
      (chain nestedResolvers).resolve ownUser ⟨.empty, twoUsers.own⟩ =
        .ok (some ⟨2, .text "Ada"⟩) := by
  obtain ⟨-, hfinds, hagree⟩ := chain_reads_bound_scope nestedResolvers ownUser
  have hsupports : (chain nestedResolvers).supports ownUser = true := by rfl
  have hscope : twoUsers.AgreesFor ⟨.empty, twoUsers.own⟩ ownUser := by
    rintro binding ⟨⟩ name
    rfl
  have hresolve : (chain nestedResolvers).resolve ownUser twoUsers =
      .ok (some ⟨2, .text "Ada"⟩) :=
    (hfinds hsupports _ _).2 (.held rfl rfl rfl)
  exact ⟨hsupports, hscope, hresolve, (hagree _ _ hscope).symm.trans hresolve⟩

end Resolver

end SchemaCoverage.Arguments
