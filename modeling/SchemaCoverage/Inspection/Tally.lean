import SchemaCoverage.Inspection.Report
/-!
Tallying the events of an inspection into a report. Findings count once, a resolved type stays
resolved, and skips that turned out to be groundless are left out at the end.
-/
namespace SchemaCoverage.Inspection

open Schema

/-- What happens in an inspection, as far as the report depends on it. -/
inductive Event
  | skip (entry : SkippedType)
  | unmappedField (coordinate : Coordinate)
  | unmappedArgument (entry : UnmappedArgument)
  | unmappedRegistration (entry : UnmappedRegistration)
  | checked (type host : String)
  | visiting (type : String)
  | skipped (type : String)
  | resolved (type : String)
deriving Repr, DecidableEq

/-- The findings so far. -/
structure Tally where
  checked : List (String × String)
  skips : List SkippedType
  states : Assoc String TypeState
  unmappedArguments : List UnmappedArgument
  unmappedFields : List Coordinate
  unmappedRegistrations : List UnmappedRegistration
deriving Repr, DecidableEq

namespace Tally

/-- Nothing is found. -/
def empty : Tally :=
  ⟨[], [], [], [], [], []⟩

/-- The state of a type; a type that was not met is unvisited. -/
def stateOf (tally : Tally) (type : String) : TypeState :=
  (tally.states.find? type).getD .unvisited

/-- Gives a type a state unless it is resolved. -/
def enter (tally : Tally) (type : String) (state : TypeState) : Tally :=
  { tally with
    states := tally.states.update type .unvisited fun old =>
      if old = .resolved then old else state }

/-- The finding of an event is not in the tally yet. Events without a finding are never news. -/
def isNews (tally : Tally) : Event → Bool
  | .skip entry => !tally.skips.any (·.key == entry.key)
  | .unmappedField coordinate => coordinate ∉ tally.unmappedFields
  | .unmappedArgument entry => entry ∉ tally.unmappedArguments
  | .unmappedRegistration entry => entry ∉ tally.unmappedRegistrations
  | _ => false

/-- The tally after an event. A new skip gives its type a state if it has none. -/
def record (tally : Tally) (event : Event) : Tally :=
  match event with
  | .skip entry =>
      if tally.isNews event then
        { tally with
          skips := tally.skips ++ [entry]
          states :=
            if (tally.states.find? entry.type).isSome then tally.states
            else tally.states ++ [(entry.type, .skipped)] }
      else tally
  | .unmappedField coordinate =>
      { tally with unmappedFields := Assoc.addNew tally.unmappedFields coordinate }
  | .unmappedArgument entry =>
      { tally with unmappedArguments := Assoc.addNew tally.unmappedArguments entry }
  | .unmappedRegistration entry =>
      { tally with unmappedRegistrations := Assoc.addNew tally.unmappedRegistrations entry }
  | .checked type host => { tally with checked := Assoc.addNew tally.checked (type, host) }
  | .visiting type => tally.enter type .visiting
  | .skipped type => tally.enter type .skipped
  | .resolved type => { tally with states := tally.states.put type .resolved }

/-- The tally of some events. -/
def ofEvents (events : List Event) : Tally :=
  events.foldl record empty

/-- A skip still stands: its type was not checked against the host type that it names, or was
not resolved if it names none. -/
def stands (tally : Tally) (entry : SkippedType) : Bool :=
  match entry.host with
  | some host => (entry.type, host) ∉ tally.checked
  | none => tally.stateOf entry.type != .resolved

/-- The finished report. -/
def report (tally : Tally) : Report :=
  { skipped := tally.skips.filter tally.stands
    states := tally.states
    unmappedArguments := tally.unmappedArguments
    unmappedFields := tally.unmappedFields
    unmappedRegistrations := tally.unmappedRegistrations }

end Tally

end SchemaCoverage.Inspection
