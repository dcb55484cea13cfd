/-!
Faults: why tokens are not what a declaration is made of, and the words in which that is told.
-/
namespace SchemaCoverage.Declaration

/-- What is wrong with an attribute whose tokens can be read. -/
inductive AttributeProblem
  | withoutArguments
  | withValue
  | strangeMemberPart
  | incompleteMember
  | unsupportedOnType
  | unsupportedOnField
deriving Repr, DecidableEq

/-- The problem in words. -/
def AttributeProblem.message : AttributeProblem → String
  | .withoutArguments => "expected attribute arguments in parentheses: #[host(...)]"
  | .withValue => "expected parentheses: #[host(...)]"
  | .strangeMemberPart => "expected `name` or `ty`"
  | .incompleteMember => "`member` requires both `name` and `ty`"
  | .unsupportedOnType => "unsupported `host` attribute"
  | .unsupportedOnField => "unsupported `host` field attribute"

/-- A part that can be read, but that may not stand where it does. -/
inductive Misuse
  /-- Bounds of lifetimes only where an object is meant. -/
  | objectWithoutTrait
  /-- No trait among the bounds of a type that is left open. -/
  | boundsWithoutTrait
  | capture
  | constBound
  | conditionalBound
  /-- Lifetimes are bound and the bound is relaxed. -/
  | relaxedBinder
  | genericConditions
  | attributeInAttribute
  | attributeOnRange
  | comparisonChain
  /-- After a cast comes something that binds tighter. -/
  | castBefore (what : String)
  | labelAfterBreak
  | openRangeInSlice
  | largeIndex
  | negativeIndex
  | secondReceiver
  | lateReceiver
  | negativeInherent
deriving Repr, DecidableEq

/-- The misuse in words. -/
def Misuse.message : Misuse → String
  | .objectWithoutTrait => "at least one trait is required for an object type"
  | .boundsWithoutTrait => "at least one trait must be specified"
  | .capture => "`use<...>` precise capturing syntax is not allowed here"
  | .constBound => "`const` is not allowed here"
  | .conditionalBound => "`[const]` is not allowed here"
  | .relaxedBinder => "`for<...>` binder not allowed with `?` trait polarity modifier"
  | .genericConditions =>
      "generic parameters on `where` clauses are reserved for future use"
  | .attributeInAttribute => "unexpected attribute inside of attribute"
  | .attributeOnRange => "attributes are not allowed on range expressions starting with `..`"
  | .comparisonChain => "comparison operators cannot be chained"
  | .castBefore what => "casts cannot be followed by " ++ what
  | .labelAfterBreak => "parentheses required"
  | .openRangeInSlice => "range pattern is not allowed unparenthesized inside slice pattern"
  | .largeIndex => "number too large to fit in target type"
  | .negativeIndex => "invalid digit found in string"
  | .secondReceiver => "unexpected second method receiver"
  | .lateReceiver => "unexpected method receiver"
  | .negativeInherent => "inherent impls cannot be negative"

/-- Why tokens are not what they should be. -/
inductive Fault
  /-- Something else should stand here. -/
  | expected (what : String)
  /-- The tokens end where something should stand. -/
  | endedBefore (what : String)
  /-- Something stands where nothing should. -/
  | unexpected (what : String)
  | misuse (problem : Misuse)
  | badAttribute (problem : AttributeProblem)
deriving Repr, DecidableEq

/-- The fault in words. -/
def Fault.message : Fault → String
  | .expected what => "expected " ++ what
  | .endedBefore what => "unexpected end of input, expected " ++ what
  | .unexpected what => "unexpected " ++ what
  | .misuse problem => problem.message
  | .badAttribute problem => problem.message

end SchemaCoverage.Declaration
