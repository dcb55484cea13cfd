import SchemaCoverage.Inspection.Tally
import SchemaCoverage.Proofs.Assoc
import Mathlib.Data.List.Induction
/-!
What a tally holds after some events. Every finding that was recorded is there and nothing else;
findings count once, whatever the order of the events.
-/
namespace SchemaCoverage.Inspection

open Schema

namespace Event

/-- The type that an event tells something of: that it is skipped, or its state. -/
def subject? : Event → Option String
  | .skip entry => some entry.type
  | .visiting type | .skipped type | .resolved type => some type
  | _ => none

def checked? : Event → Option (String × String)
  | .checked type host => some (type, host)
  | _ => none

def unmappedField? : Event → Option Coordinate
  | .unmappedField coordinate => some coordinate
  | _ => none

def unmappedArgument? : Event → Option UnmappedArgument
  | .unmappedArgument entry => some entry
  | _ => none

def unmappedRegistration? : Event → Option UnmappedRegistration
  | .unmappedRegistration entry => some entry
  | _ => none

variable {event : Event}

@[simp] theorem checked?_eq_some_iff {type host : String} :
    event.checked? = some (type, host) ↔ event = .checked type host := by
  cases event <;> simp [checked?]

@[simp] theorem unmappedField?_eq_some_iff {coordinate : Coordinate} :
    event.unmappedField? = some coordinate ↔ event = .unmappedField coordinate := by
  cases event <;> simp [unmappedField?]

@[simp] theorem unmappedArgument?_eq_some_iff {entry : UnmappedArgument} :
    event.unmappedArgument? = some entry ↔ event = .unmappedArgument entry := by
  cases event <;> simp [unmappedArgument?]

@[simp] theorem unmappedRegistration?_eq_some_iff {entry : UnmappedRegistration} :
    event.unmappedRegistration? = some entry ↔ event = .unmappedRegistration entry := by
  cases event <;> simp [unmappedRegistration?]

end Event

namespace Tally

variable {tally : Tally} {events : List Event}

@[simp] theorem ofEvents_nil : ofEvents [] = empty := rfl

theorem ofEvents_concat (events : List Event) (event : Event) :
    ofEvents (events ++ [event]) = (ofEvents events).record event := by
  simp [ofEvents]

theorem isNews_skip_iff {entry : SkippedType} :
    tally.isNews (.skip entry) = true ↔ entry.key ∉ tally.skips.map (·.key) := by
  simp [isNews]

/-- A skip of a known key changes nothing. -/
theorem record_skip_of_mem {entry : SkippedType} (h : entry.key ∈ tally.skips.map (·.key)) :
    tally.record (.skip entry) = tally := by
  have hold : ¬tally.isNews (.skip entry) = true := by
    rw [isNews_skip_iff]
    exact not_not_intro h
  simp only [record, hold]
  rfl

/-- A skip of a new key comes last, and gives its type a state if it has none. -/
theorem record_skip_of_not_mem {entry : SkippedType}
    (h : entry.key ∉ tally.skips.map (·.key)) :
    tally.record (.skip entry) =
      { tally with
        skips := tally.skips ++ [entry]
        states :=
          if (tally.states.find? entry.type).isSome then tally.states
          else tally.states ++ [(entry.type, .skipped)] } := by
  simp only [record, isNews_skip_iff.2 h]
  rfl

/-- Skips leave all but the skips and the states alone. -/
theorem record_skip_eq (entry : SkippedType) :
    ∃ skips states, tally.record (.skip entry) = { tally with skips, states } := by
  by_cases h : entry.key ∈ tally.skips.map (·.key)
  · exact ⟨_, _, record_skip_of_mem h⟩
  · exact ⟨_, _, record_skip_of_not_mem h⟩

theorem checked_record (tally : Tally) (event : Event) :
    (tally.record event).checked =
      event.checked?.elim tally.checked (Assoc.addNew tally.checked) := by
  cases event with
  | skip entry =>
      obtain ⟨_, _, h⟩ := tally.record_skip_eq entry
      simp [h, Event.checked?]
  | _ => rfl

theorem unmappedFields_record (tally : Tally) (event : Event) :
    (tally.record event).unmappedFields =
      event.unmappedField?.elim tally.unmappedFields (Assoc.addNew tally.unmappedFields) := by
  cases event with
  | skip entry =>
      obtain ⟨_, _, h⟩ := tally.record_skip_eq entry
      simp [h, Event.unmappedField?]
  | _ => rfl

theorem unmappedArguments_record (tally : Tally) (event : Event) :
    (tally.record event).unmappedArguments =
      event.unmappedArgument?.elim tally.unmappedArguments
        (Assoc.addNew tally.unmappedArguments) := by
  cases event with
  | skip entry =>
      obtain ⟨_, _, h⟩ := tally.record_skip_eq entry
      simp [h, Event.unmappedArgument?]
  | _ => rfl

theorem unmappedRegistrations_record (tally : Tally) (event : Event) :
    (tally.record event).unmappedRegistrations =
      event.unmappedRegistration?.elim tally.unmappedRegistrations
        (Assoc.addNew tally.unmappedRegistrations) := by
  cases event with
  | skip entry =>
      obtain ⟨_, _, h⟩ := tally.record_skip_eq entry
      simp [h, Event.unmappedRegistration?]
  | _ => rfl

/-- A skip counts by its key. -/
theorem mem_keys_record {event : Event} {key : String × Option String} :
    key ∈ (tally.record event).skips.map (·.key) ↔
      key ∈ tally.skips.map (·.key) ∨ ∃ entry, event = .skip entry ∧ entry.key = key := by
  cases event with
  | skip entry =>
      by_cases h : entry.key ∈ tally.skips.map (·.key)
      · rw [record_skip_of_mem h]
        constructor
        · exact Or.inl
        · intro hgiven
          rcases hgiven with hmem | ⟨_, ⟨⟩, rfl⟩
          · exact hmem
          · exact h
      · rw [record_skip_of_not_mem h]
        simp [eq_comm]
  | _ => simp [record, enter]

theorem keys_record_nodup {event : Event} (h : (tally.skips.map (·.key)).Nodup) :
    ((tally.record event).skips.map (·.key)).Nodup := by
  cases event with
  | skip entry =>
      by_cases hmem : entry.key ∈ tally.skips.map (·.key)
      · rwa [record_skip_of_mem hmem]
      · rw [record_skip_of_not_mem hmem, List.map_append]
        refine List.nodup_append.2 ⟨h, by simp, ?_⟩
        intro key hkey other hother heq
        rw [List.map_singleton, List.mem_singleton] at hother
        exact hmem (hother ▸ heq ▸ hkey)
  | _ => exact h

theorem stateOf_enter {type other : String} {state : TypeState} :
    (tally.enter type state).stateOf other =
      if type = other then
        if tally.stateOf other = .resolved then .resolved else state
      else tally.stateOf other := by
  unfold enter stateOf
  rw [Assoc.find?_update]
  split
  · next heq =>
      subst heq
      simp only [Option.getD_some]
      split
      · assumption
      · rfl
  · rfl

/-- A type is resolved by the event that says so, and stays resolved. -/
theorem stateOf_record_eq_resolved {event : Event} {type : String} :
    (tally.record event).stateOf type = .resolved ↔
      tally.stateOf type = .resolved ∨ event = .resolved type := by
  cases event with
  | skip entry =>
      simp only [reduceCtorEq, or_false]
      by_cases h : entry.key ∈ tally.skips.map (·.key)
      · rw [record_skip_of_mem h]
      · rw [record_skip_of_not_mem h, stateOf]
        cases hfind : tally.states.find? entry.type with
        | some state => rfl
        | none =>
            rw [← Assoc.put_of_find?_eq_none hfind]
            simp only [Option.isSome_none, Bool.false_eq_true, if_false, Assoc.find?_put]
            split
            · next heq => simp [stateOf, ← heq, hfind]
            · rfl
  | visiting type' =>
      rw [record, stateOf_enter]
      split <;> simp
  | skipped type' =>
      rw [record, stateOf_enter]
      split <;> simp
  | resolved type' =>
      simp only [record, stateOf, Assoc.find?_put]
      split <;> simp_all
  | _ => simp [record, stateOf]

/-- Findings to which an event adds what it tells of some sort are all that was told of that sort,
added one by one. -/
theorem ofEvents_eq_foldl {α : Type} {findings : Tally → List α} {told : Event → Option α}
    {add : List α → α → List α} (hempty : findings empty = [])
    (hrecord : ∀ tally event,
      findings (tally.record event) = (told event).elim (findings tally) (add (findings tally)))
    (events : List Event) :
    findings (ofEvents events) = (events.filterMap told).foldl add [] := by
  induction events using List.reverseRecOn with
  | nil => exact hempty
  | append_singleton events event ih =>
      rw [ofEvents_concat, hrecord, ih, List.filterMap_append, List.foldl_append]
      cases htold : told event <;> simp [htold]

/-- Findings that are added without repetition stand where they are told first. -/
theorem ofEvents_eq_eraseDups {α : Type} [DecidableEq α] {findings : Tally → List α}
    {told : Event → Option α} (hempty : findings empty = [])
    (hrecord : ∀ tally event, findings (tally.record event) =
      (told event).elim (findings tally) (Assoc.addNew (findings tally))) (events : List Event) :
    findings (ofEvents events) = (events.filterMap told).eraseDups := by
  rw [ofEvents_eq_foldl hempty hrecord, Assoc.foldl_addNew_nil]

theorem unmappedFields_ofEvents (events : List Event) :
    (ofEvents events).unmappedFields = (events.filterMap Event.unmappedField?).eraseDups :=
  ofEvents_eq_eraseDups rfl unmappedFields_record events

theorem unmappedArguments_ofEvents (events : List Event) :
    (ofEvents events).unmappedArguments = (events.filterMap Event.unmappedArgument?).eraseDups :=
  ofEvents_eq_eraseDups rfl unmappedArguments_record events

theorem unmappedRegistrations_ofEvents (events : List Event) :
    (ofEvents events).unmappedRegistrations =
      (events.filterMap Event.unmappedRegistration?).eraseDups :=
  ofEvents_eq_eraseDups rfl unmappedRegistrations_record events

theorem mem_checked_ofEvents {type host : String} :
    (type, host) ∈ (ofEvents events).checked ↔ .checked type host ∈ events := by
  rw [ofEvents_eq_foldl rfl checked_record, Assoc.mem_foldl_addNew]
  simp

theorem mem_unmappedFields_ofEvents {coordinate : Coordinate} :
    coordinate ∈ (ofEvents events).unmappedFields ↔ .unmappedField coordinate ∈ events := by
  simp [unmappedFields_ofEvents]

theorem mem_unmappedArguments_ofEvents {entry : UnmappedArgument} :
    entry ∈ (ofEvents events).unmappedArguments ↔ .unmappedArgument entry ∈ events := by
  simp [unmappedArguments_ofEvents]

theorem mem_unmappedRegistrations_ofEvents {entry : UnmappedRegistration} :
    entry ∈ (ofEvents events).unmappedRegistrations ↔ .unmappedRegistration entry ∈ events := by
  simp [unmappedRegistrations_ofEvents]

theorem mem_keys_ofEvents {key : String × Option String} :
    key ∈ (ofEvents events).skips.map (·.key) ↔
      ∃ entry, .skip entry ∈ events ∧ entry.key = key := by
  induction events using List.reverseRecOn with
  | nil => simp [empty]
  | append_singleton events event ih =>
      rw [ofEvents_concat, mem_keys_record, ih]
      simp only [List.mem_append, List.mem_singleton, or_and_right, exists_or, eq_comm]

theorem keys_ofEvents_nodup (events : List Event) :
    ((ofEvents events).skips.map (·.key)).Nodup := by
  induction events using List.reverseRecOn with
  | nil => simp [empty]
  | append_singleton events event ih =>
      rw [ofEvents_concat]
      exact keys_record_nodup ih

/-- Of the skips of one key the first is kept. -/
theorem exists_first_of_mem_skips {entry : SkippedType} (h : entry ∈ (ofEvents events).skips) :
    ∃ before after, events = before ++ .skip entry :: after ∧
      ∀ earlier, .skip earlier ∈ before → earlier.key ≠ entry.key := by
  induction events using List.reverseRecOn with
  | nil => simp [empty] at h
  | append_singleton events event ih =>
      have hlater (h : entry ∈ (ofEvents events).skips) :
          ∃ before after, events ++ [event] = before ++ .skip entry :: after ∧
            ∀ earlier, .skip earlier ∈ before → earlier.key ≠ entry.key := by
        obtain ⟨before, after, rfl, hfirst⟩ := ih h
        exact ⟨before, after ++ [event], by simp, hfirst⟩
      rw [ofEvents_concat] at h
      cases event with
      | skip entry' =>
          by_cases hmem : entry'.key ∈ (ofEvents events).skips.map (·.key)
          · rw [record_skip_of_mem hmem] at h
            exact hlater h
          · rw [record_skip_of_not_mem hmem] at h
            rcases List.mem_append.1 h with hold | hnew
            · exact hlater hold
            · obtain rfl := List.mem_singleton.1 hnew
              refine ⟨events, [], rfl, ?_⟩
              intro earlier hearlier hkey
              exact hmem (mem_keys_ofEvents.2 ⟨earlier, hearlier, hkey⟩)
      | _ => exact hlater h

theorem mem_skips_ofEvents {entry : SkippedType} (h : entry ∈ (ofEvents events).skips) :
    .skip entry ∈ events := by
  obtain ⟨before, after, rfl, -⟩ := exists_first_of_mem_skips h
  simp

theorem stateOf_ofEvents_eq_resolved {type : String} :
    (ofEvents events).stateOf type = .resolved ↔ .resolved type ∈ events := by
  induction events using List.reverseRecOn with
  | nil => simp [empty, stateOf]
  | append_singleton events event ih =>
      rw [ofEvents_concat, stateOf_record_eq_resolved, ih]
      simp [eq_comm]

end Tally

end SchemaCoverage.Inspection
