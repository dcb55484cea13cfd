import SchemaCoverage.Inspection.Walk
/-!
Remembered look-ups of candidates. Each schema type is looked up once for each declared host type,
and paths that are not registered give a warning at that time.
-/
namespace SchemaCoverage.Inspection

open Host

/-- Something an inspection tells its user while it goes on. -/
inductive Warning
  | shadowedMethod (shadowed : Controller.Shadowed)
  | unregisteredCandidate (type path : String)
deriving Repr, DecidableEq

/-- The warning in words. -/
def Warning.message : Warning → String
  | .shadowedMethod shadowed =>
      "`" ++ shadowed.target.render ++ "` resolves to `" ++ shadowed.coordinate.render ++
        "`, which is already mapped to `" ++ shadowed.existing.render ++ "`; ignoring `" ++
        shadowed.ignored.render ++ "`"
  | .unregisteredCandidate type path =>
      "class resolution for `" ++ type ++ "` produced unregistered host type `" ++ path ++ "`"

/-- The look-ups done so far with their answers, and the warnings given on the way. -/
structure Memo where
  answers : Assoc (String × String) (List HostType)
  warnings : List Warning

namespace Memo

/-- Nothing is looked up. -/
def empty : Memo := ⟨[], []⟩

/-- Looks up the candidates of a type where a host type is declared, unless that was done. -/
def consult (setting : Setting) (memo : Memo) (type : String) (declared : HostType) :
    List HostType × Memo :=
  match memo.answers.find? (type, declared.path) with
  | some answer => (answer, memo)
  | none =>
      let paths := setting.candidatePaths type declared
      let answer := paths.filterMap setting.registry.get?
      let missing := paths.filter fun path => !setting.registry.contains path
      (answer,
        { answers := memo.answers.put (type, declared.path) answer
          warnings := memo.warnings ++ missing.map (.unregisteredCandidate type) })

/-- Does the look-ups of a walk in order. -/
def follow (setting : Setting) (memo : Memo) : Step → Memo
  | .consult type declared => (memo.consult setting type declared).2
  | _ => memo

/-- The memory after some steps. -/
def ofSteps (setting : Setting) (steps : List Step) : Memo :=
  steps.foldl (follow setting) empty

end Memo

end SchemaCoverage.Inspection
