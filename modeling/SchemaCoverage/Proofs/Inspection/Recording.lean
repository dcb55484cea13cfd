import SchemaCoverage.Proofs.Inspection.Findings
/-!
Reports as functions of the events that they tally. Each finding stands where it comes first, and
a skip is withdrawn by an event at any place, so that it does not matter when checks and resolutions
are told.
-/
namespace SchemaCoverage.Inspection

open Schema

/-- What counts as one finding: a skip goes by its type and host type, all else by what it tells. -/
inductive Finding
  | skip (key : String × Option String)
  | unmappedField (coordinate : Coordinate)
  | unmappedArgument (entry : UnmappedArgument)
  | unmappedRegistration (entry : UnmappedRegistration)
deriving Repr, DecidableEq

namespace Event

/-- The finding that an event adds. -/
def finding? : Event → Option Finding
  | .skip entry => some (.skip entry.key)
  | .unmappedField coordinate => some (.unmappedField coordinate)
  | .unmappedArgument entry => some (.unmappedArgument entry)
  | .unmappedRegistration entry => some (.unmappedRegistration entry)
  | _ => none

def skip? : Event → Option SkippedType
  | .skip entry => some entry
  | _ => none

/-- The event tells that a pair is checked or that a type is resolved. -/
def IsMark (event : Event) : Prop :=
  (∃ type host, event = .checked type host) ∨ ∃ type, event = .resolved type

variable {event : Event}

theorem finding?_eq_skip_iff {key : String × Option String} :
    event.finding? = some (.skip key) ↔ ∃ entry, event = .skip entry ∧ entry.key = key := by
  cases event <;> simp [finding?]

theorem finding?_eq_unmappedField_iff {coordinate : Coordinate} :
    event.finding? = some (.unmappedField coordinate) ↔ event = .unmappedField coordinate := by
  cases event <;> simp [finding?]

theorem finding?_eq_unmappedArgument_iff {entry : UnmappedArgument} :
    event.finding? = some (.unmappedArgument entry) ↔ event = .unmappedArgument entry := by
  cases event <;> simp [finding?]

theorem finding?_eq_unmappedRegistration_iff {entry : UnmappedRegistration} :
    event.finding? = some (.unmappedRegistration entry) ↔ event = .unmappedRegistration entry := by
  cases event <;> simp [finding?]

end Event

namespace SkippedType

/-- The event that withdraws a skip: a check against the host type that it names, or the resolution
of its type if it names none. -/
def withdrawal (entry : SkippedType) : Event :=
  match entry.host with
  | some host => .checked entry.type host
  | none => .resolved entry.type

theorem isMark_withdrawal (entry : SkippedType) : entry.withdrawal.IsMark := by
  unfold withdrawal
  split
  · exact Or.inl ⟨_, _, rfl⟩
  · exact Or.inr ⟨_, rfl⟩

/-- Adds a skip unless there is one of its type and host type. -/
def addNewKey (skips : List SkippedType) (entry : SkippedType) : List SkippedType :=
  if skips.any (entry.key == ·.key) then skips else skips ++ [entry]

end SkippedType

namespace Tally

variable {events : List Event}

theorem skips_record (tally : Tally) (event : Event) :
    (tally.record event).skips =
      event.skip?.elim tally.skips (SkippedType.addNewKey tally.skips) := by
  cases event with
  | skip entry =>
      have hany : tally.skips.any (entry.key == ·.key) = true ↔
          entry.key ∈ tally.skips.map (·.key) := by
        rw [List.any_eq_true, List.mem_map]
        simp only [beq_iff_eq, @eq_comm _ entry.key]
      change _ = SkippedType.addNewKey tally.skips entry
      unfold SkippedType.addNewKey
      by_cases hold : entry.key ∈ tally.skips.map (·.key)
      · rw [record_skip_of_mem hold, if_pos (hany.2 hold)]
      · rw [record_skip_of_not_mem hold, if_neg (mt hany.1 hold)]
  | _ => rfl

/-- Of the skips of one type and host type the first is kept. -/
theorem skips_ofEvents (events : List Event) :
    (ofEvents events).skips =
      (events.filterMap Event.skip?).eraseDupsBy fun entry other => entry.key == other.key := by
  have hadd (skips : List SkippedType) (entry : SkippedType) :
      SkippedType.addNewKey skips entry =
        if skips.any (entry.key == ·.key) then skips else skips ++ [entry] :=
    rfl
  rw [ofEvents_eq_foldl rfl skips_record, foldl_eq_append_eraseDupsBy hadd]
  simp

theorem stands_ofEvents (events : List Event) (entry : SkippedType) :
    (ofEvents events).stands entry = decide (entry.withdrawal ∉ events) := by
  cases hhost : entry.host with
  | some host => simp [stands, SkippedType.withdrawal, hhost, mem_checked_ofEvents]
  | none =>
      simp [stands, SkippedType.withdrawal, hhost, ← stateOf_ofEvents_eq_resolved,
        bne, Bool.beq_eq_decide_eq]

theorem report_skipped_ofEvents (events : List Event) :
    (ofEvents events).report.skipped =
      ((events.filterMap Event.skip?).eraseDupsBy fun entry other =>
        entry.key == other.key).filter fun entry => entry.withdrawal ∉ events := by
  rw [report, skips_ofEvents]
  exact List.filter_congr fun entry _ => stands_ofEvents events entry

/-- A finding that one event alone adds was not told if that event was not. -/
theorem forall_finding?_ne_iff {finding : Finding} {event : Event}
    (honly : ∀ earlier : Event, earlier.finding? = some finding ↔ earlier = event) :
    (∀ earlier ∈ events, earlier.finding? ≠ some finding) ↔ event ∉ events := by
  simp only [ne_eq, honly]
  exact ⟨fun h hmem => h event hmem rfl, fun h earlier hmem heq => h (heq ▸ hmem)⟩

/-- An event is news if it adds a finding that no event before added. -/
theorem isNews_ofEvents_iff {event : Event} :
    (ofEvents events).isNews event = true ↔
      ∃ finding, event.finding? = some finding ∧
        ∀ earlier ∈ events, earlier.finding? ≠ some finding := by
  have hadds {finding : Finding} (hfinding : event.finding? = some finding) :
      (∃ finding, event.finding? = some finding ∧
          ∀ earlier ∈ events, earlier.finding? ≠ some finding) ↔
        ∀ earlier ∈ events, earlier.finding? ≠ some finding := by
    simp only [hfinding, Option.some.injEq, exists_eq_left']
  cases event with
  | skip entry =>
      rw [hadds rfl, isNews_skip_iff, mem_keys_ofEvents]
      simp only [ne_eq, Event.finding?_eq_skip_iff, not_exists, not_and]
      exact ⟨fun h earlier hmem other heq => h other (heq ▸ hmem),
        fun h other hmem => h _ hmem other rfl⟩
  | unmappedField coordinate =>
      rw [hadds rfl, forall_finding?_ne_iff fun _ => Event.finding?_eq_unmappedField_iff,
        ← mem_unmappedFields_ofEvents]
      simp [isNews]
  | unmappedArgument entry =>
      rw [hadds rfl, forall_finding?_ne_iff fun _ => Event.finding?_eq_unmappedArgument_iff,
        ← mem_unmappedArguments_ofEvents]
      simp [isNews]
  | unmappedRegistration entry =>
      rw [hadds rfl, forall_finding?_ne_iff fun _ => Event.finding?_eq_unmappedRegistration_iff,
        ← mem_unmappedRegistrations_ofEvents]
      simp [isNews]
  | _ => simp [isNews, Event.finding?]

/-- The skips of a report depend on the skips that were told and on which marks were told. -/
theorem report_skipped_congr {events' : List Event}
    (hskips : events.filterMap Event.skip? = events'.filterMap Event.skip?)
    (hmarks : ∀ mark : Event, mark.IsMark → (mark ∈ events ↔ mark ∈ events')) :
    (ofEvents events).report.skipped = (ofEvents events').report.skipped := by
  rw [report_skipped_ofEvents, report_skipped_ofEvents, hskips]
  apply List.filter_congr
  intro entry _
  exact decide_eq_decide.2 (not_congr (hmarks _ entry.isMark_withdrawal))

/-- Marks count wherever they are told. -/
theorem report_skipped_move {before after before' after' : List Event} {mark : Event}
    (hmark : mark.IsMark) (hrest : before' ++ after' = before ++ after) :
    (ofEvents (before' ++ mark :: after')).report.skipped =
      (ofEvents (before ++ mark :: after)).report.skipped := by
  have hskip : mark.skip? = none := by
    rcases hmark with ⟨_, _, rfl⟩ | ⟨_, rfl⟩ <;> rfl
  have hskips (before after : List Event) : (before ++ mark :: after).filterMap Event.skip? =
      (before ++ after).filterMap Event.skip? := by
    rw [List.filterMap_append, List.filterMap_cons_none hskip, List.filterMap_append]
  have hmem (before after : List Event) (event : Event) : event ∈ before ++ mark :: after ↔
      event = mark ∨ event ∈ before ++ after := by
    rw [List.mem_append, List.mem_cons, List.mem_append, or_left_comm]
  apply report_skipped_congr
  · rw [hskips, hskips, hrest]
  · intro event _
    rw [hmem, hmem, hrest]

/-- What a tally makes of the events that are recorded in it one by one. -/
structure Faithful (events : List Event) : Prop where
  /-- An event is news where it adds a finding that no event before it added. -/
  news : ∀ before event after, events = before ++ event :: after →
    ((ofEvents before).isNews event = true ↔ ∃ finding, event.finding? = some finding ∧
      ∀ earlier ∈ before, earlier.finding? ≠ some finding)
  /-- What is unmapped is listed once, where it is told first. -/
  unmappedFields :
    (ofEvents events).report.unmappedFields = (events.filterMap Event.unmappedField?).eraseDups
  unmappedArguments : (ofEvents events).report.unmappedArguments =
    (events.filterMap Event.unmappedArgument?).eraseDups
  unmappedRegistrations : (ofEvents events).report.unmappedRegistrations =
    (events.filterMap Event.unmappedRegistration?).eraseDups
  /-- Of the skips of one type and host type the first is listed, unless it is withdrawn by any of
  the events. -/
  skipped : (ofEvents events).report.skipped =
    ((events.filterMap Event.skip?).eraseDupsBy fun entry other =>
      entry.key == other.key).filter fun entry => entry.withdrawal ∉ events
  /-- A type that is resolved after some of the events stays resolved. -/
  resolved : ∀ before after type, events = before ++ after →
    (ofEvents before).stateOf type = .resolved → (ofEvents events).stateOf type = .resolved
  /-- It does not matter for the skips where a check or a resolution is told. -/
  moved : ∀ before mark after before' after', events = before ++ mark :: after → mark.IsMark →
    before' ++ after' = before ++ after →
    (ofEvents (before' ++ mark :: after')).report.skipped = (ofEvents events).report.skipped

theorem faithful_ofEvents (events : List Event) : Faithful events where
  news before event after _ := isNews_ofEvents_iff
  unmappedFields := unmappedFields_ofEvents events
  unmappedArguments := unmappedArguments_ofEvents events
  unmappedRegistrations := unmappedRegistrations_ofEvents events
  skipped := report_skipped_ofEvents events
  resolved := by
    rintro before after type rfl hresolved
    rw [stateOf_ofEvents_eq_resolved] at hresolved ⊢
    exact List.mem_append_left _ hresolved
  moved := by
    rintro before mark after before' after' rfl hmark hrest
    exact report_skipped_move hmark hrest

end Tally

end SchemaCoverage.Inspection
