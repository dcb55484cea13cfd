import SchemaCoverage.Inspection.Walk
/-!
What a walk comes to. The pairs that a walk checks are those that can be reached from its first
steps through pairs that are still unchecked, in whatever order it takes the steps; everything else
that it does is a step of one of these pairs.
-/
namespace SchemaCoverage.Inspection

open Schema Host

namespace Setting

variable {setting : Setting}

/-- A type and a host type that graph and registry have under their names. The walk knows a pair by
its names alone, so that two known pairs of the same names are one. -/
def Known (setting : Setting) (type : GraphType) (host : HostType) : Prop :=
  setting.graph.type? type.name = some type ∧ setting.registry.get? host.path = some host

theorem Known.unique {type type' : GraphType} {host host' : HostType}
    (h : setting.Known type host) (h' : setting.Known type' host')
    (hname : (type.name, host.path) = (type'.name, host'.path)) : type = type' ∧ host = host' := by
  obtain ⟨htype, hpath⟩ := Prod.mk.inj hname
  constructor
  · apply Option.some.inj
    rw [← h.1, htype, h'.1]
  · apply Option.some.inj
    rw [← h.2, hpath, h'.2]

/-- All pairs that some steps visit are known. -/
def VisitsKnown (setting : Setting) (steps : List Step) : Prop :=
  ∀ type host, .visit type host ∈ steps → setting.Known type host

/-- The pairs that can be reached from some steps through unchecked pairs. -/
inductive ReachedFrom (setting : Setting) (unchecked : List (String × String))
    (steps : List Step) : GraphType → HostType → Prop
  | start {type : GraphType} {host : HostType} : (type.name, host.path) ∈ unchecked →
      .visit type host ∈ steps → ReachedFrom setting unchecked steps type host
  | next {type type' : GraphType} {host host' : HostType} :
      ReachedFrom setting unchecked steps type host → (type'.name, host'.path) ∈ unchecked →
      .visit type' host' ∈ setting.pairSteps type host →
      ReachedFrom setting unchecked steps type' host'

variable {unchecked : List (String × String)} {steps rest : List Step}

theorem ReachedFrom.mono {more : List Step}
    (hsteps : ∀ type host, .visit type host ∈ steps → .visit type host ∈ more)
    {type : GraphType} {host : HostType} (h : setting.ReachedFrom unchecked steps type host) :
    setting.ReachedFrom unchecked more type host := by
  induction h with
  | start hunchecked hvisit => exact .start hunchecked (hsteps _ _ hvisit)
  | next _ hunchecked hvisit ih => exact .next ih hunchecked hvisit

theorem ReachedFrom.known (hknown : setting.VisitsKnown steps)
    (hpairs : ∀ type host, setting.VisitsKnown (setting.pairSteps type host))
    {type : GraphType} {host : HostType} (h : setting.ReachedFrom unchecked steps type host) :
    setting.Known type host := by
  cases h with
  | start _ hvisit => exact hknown _ _ hvisit
  | next _ _ hvisit => exact hpairs _ _ _ _ hvisit

/-- A first step that visits nothing unchecked does not change what is reached. -/
theorem reachedFrom_cons_iff {step : Step}
    (hstep : ∀ type host, step = .visit type host → (type.name, host.path) ∉ unchecked)
    {type : GraphType} {host : HostType} :
    setting.ReachedFrom unchecked (step :: rest) type host ↔
      setting.ReachedFrom unchecked rest type host := by
  constructor
  · intro h
    induction h with
    | start hunchecked hvisit =>
        rcases List.mem_cons.1 hvisit with heq | hrest
        · exact absurd hunchecked (hstep _ _ heq.symm)
        · exact .start hunchecked hrest
    | next _ hunchecked hvisit ih => exact .next ih hunchecked hvisit
  · exact ReachedFrom.mono fun _ _ hvisit => List.mem_cons_of_mem _ hvisit

/-- What is reached once a pair is checked was reached before, the pair itself being the start. -/
theorem ReachedFrom.of_checked {first type : GraphType} {host host' : HostType}
    (hfirst : (first.name, host.path) ∈ unchecked)
    (h : setting.ReachedFrom (unchecked.erase (first.name, host.path))
      (setting.pairSteps first host ++ rest) type host') :
    setting.ReachedFrom unchecked (.visit first host :: rest) type host' := by
  induction h with
  | start hunchecked hvisit =>
      have hunchecked := List.mem_of_mem_erase hunchecked
      rcases List.mem_append.1 hvisit with hpair | hrest
      · exact .next (.start hfirst List.mem_cons_self) hunchecked hpair
      · exact .start hunchecked (List.mem_cons_of_mem _ hrest)
  | next _ hunchecked hvisit ih => exact .next ih (List.mem_of_mem_erase hunchecked) hvisit

/-- What is reached from a visit is the visited pair, or is reached once that pair is checked. -/
theorem ReachedFrom.eq_or_checked {first type : GraphType} {host host' : HostType}
    (hknown : setting.VisitsKnown (.visit first host :: rest))
    (hpairs : ∀ type host, setting.VisitsKnown (setting.pairSteps type host))
    (h : setting.ReachedFrom unchecked (.visit first host :: rest) type host') :
    (type = first ∧ host' = host) ∨
      setting.ReachedFrom (unchecked.erase (first.name, host.path))
        (setting.pairSteps first host ++ rest) type host' := by
  have hown : setting.Known first host := hknown _ _ List.mem_cons_self
  induction h with
  | @start type' host'' hunchecked hvisit =>
      -- a known pair with the names of the visited one is that pair, all others stay unchecked
      by_cases hname : (type'.name, host''.path) = (first.name, host.path)
      · exact Or.inl ((hknown _ _ hvisit).unique hown hname)
      · have hunchecked := (List.mem_erase_of_ne hname).2 hunchecked
        rcases List.mem_cons.1 hvisit with heq | hrest
        · cases heq
          exact absurd rfl hname
        · exact Or.inr (.start hunchecked (List.mem_append_right _ hrest))
  | @next type' type'' host'' host''' hreached hunchecked hvisit ih =>
      by_cases hname : (type''.name, host'''.path) = (first.name, host.path)
      · exact Or.inl ((hpairs _ _ _ _ hvisit).unique hown hname)
      · have hunchecked := (List.mem_erase_of_ne hname).2 hunchecked
        rcases ih with ⟨rfl, rfl⟩ | ih
        · exact Or.inr (.start hunchecked (List.mem_append_left _ hvisit))
        · exact Or.inr (.next ih hunchecked hvisit)

theorem not_reachedFrom_nil {type : GraphType} {host : HostType} :
    ¬setting.ReachedFrom unchecked [] type host := by
  intro h
  induction h with
  | start _ hvisit => simp at hvisit
  | next _ _ _ ih => exact ih

/-- A walk does the steps that it was given and those of the pairs reached from them, and no others.
-/
theorem mem_walk (hpairs : ∀ type host, setting.VisitsKnown (setting.pairSteps type host))
    (hknown : setting.VisitsKnown steps) {step : Step}
    (hstep : ∀ type host, step ≠ .visit type host) :
    step ∈ setting.walk unchecked steps ↔
      step ∈ steps ∨ ∃ type host, setting.ReachedFrom unchecked steps type host ∧
        step ∈ setting.pairSteps type host := by
  fun_induction walk setting unchecked steps with
  | case1 unchecked => simp [not_reachedFrom_nil]
  | case2 unchecked type host rest hunchecked ih =>
      -- The pair is checked now: its own steps come to the front of the rest.
      have hrest : setting.VisitsKnown (setting.pairSteps type host ++ rest) := by
        intro type' host' hvisit
        rcases List.mem_append.1 hvisit with hpair | hrest
        · exact hpairs _ _ _ _ hpair
        · exact hknown _ _ (List.mem_cons_of_mem _ hrest)
      rw [ih hrest]
      constructor
      · intro h
        rcases h with hmem | ⟨type', host', hreached, hmem⟩
        · rcases List.mem_append.1 hmem with hpair | hrest
          · exact Or.inr ⟨type, host, .start hunchecked List.mem_cons_self, hpair⟩
          · exact Or.inl (List.mem_cons_of_mem _ hrest)
        · exact Or.inr ⟨type', host', hreached.of_checked hunchecked, hmem⟩
      · intro h
        rcases h with hmem | ⟨type', host', hreached, hmem⟩
        · rcases List.mem_cons.1 hmem with heq | hrest
          · exact absurd heq (hstep _ _)
          · exact Or.inl (List.mem_append_right _ hrest)
        · rcases hreached.eq_or_checked hknown hpairs with ⟨rfl, rfl⟩ | hreached
          · exact Or.inl (List.mem_append_left _ hmem)
          · exact Or.inr ⟨type', host', hreached, hmem⟩
  | case3 unchecked type host rest hchecked ih =>
      have hsame : ∀ type' host', Step.visit type host = .visit type' host' →
          (type'.name, host'.path) ∉ unchecked := by
        rintro _ _ ⟨⟩
        exact hchecked
      rw [ih fun _ _ hvisit => hknown _ _ (List.mem_cons_of_mem _ hvisit)]
      simp only [reachedFrom_cons_iff hsame, List.mem_cons, hstep, false_or]
  | case4 unchecked first rest hfirst ih =>
      have hsame : ∀ type host, first = .visit type host → (type.name, host.path) ∉ unchecked :=
        fun type host heq => absurd heq (hfirst type host)
      rw [List.mem_cons, ih fun _ _ hvisit => hknown _ _ (List.mem_cons_of_mem _ hvisit)]
      simp only [reachedFrom_cons_iff hsame, List.mem_cons, or_assoc]

theorem walk_visit_of_mem {unchecked : List (String × String)} {type : GraphType} {host : HostType}
    (h : (type.name, host.path) ∈ unchecked) (rest : List Step) :
    setting.walk unchecked (.visit type host :: rest) =
      setting.walk (unchecked.erase (type.name, host.path))
        (setting.pairSteps type host ++ rest) := by
  rw [walk, if_pos h]

theorem walk_visit_of_not_mem {unchecked : List (String × String)} {type : GraphType}
    {host : HostType} (h : (type.name, host.path) ∉ unchecked) (rest : List Step) :
    setting.walk unchecked (.visit type host :: rest) = setting.walk unchecked rest := by
  rw [walk, if_neg h]

theorem walk_step {unchecked : List (String × String)} {step : Step}
    (h : ∀ type host, step ≠ .visit type host) (rest : List Step) :
    setting.walk unchecked (step :: rest) = step :: setting.walk unchecked rest := by
  cases step with
  | visit type host => exact absurd rfl (h type host)
  | record event =>
      rw [walk]
      exact h
  | consult type declared =>
      rw [walk]
      exact h

/-- The walk, if it ends before so many steps. Unlike the walk itself it can be evaluated. -/
def walkWithin (setting : Setting) (limit : Nat) (unchecked : List (String × String))
    (steps : List Step) : Option (List Step) :=
  match limit with
  | 0 => none
  | limit + 1 =>
      match steps with
      | [] => some []
      | .visit type host :: rest =>
          if unchecked.contains (type.name, host.path) then
            setting.walkWithin limit (unchecked.erase (type.name, host.path))
              (setting.pairSteps type host ++ rest)
          else setting.walkWithin limit unchecked rest
      | .record event :: rest => (setting.walkWithin limit unchecked rest).map (.record event :: ·)
      | .consult type declared :: rest =>
          (setting.walkWithin limit unchecked rest).map (.consult type declared :: ·)

theorem walk_eq_of_walkWithin {limit : Nat} {done : List Step}
    (h : setting.walkWithin limit unchecked steps = some done) :
    setting.walk unchecked steps = done := by
  induction limit generalizing unchecked steps done with
  | zero => cases h
  | succ limit ih =>
      cases steps with
      | nil =>
          cases h
          rw [walk]
      | cons step rest =>
          cases step with
          | visit type host =>
              simp only [walkWithin] at h
              split at h
              · next hunchecked => rw [walk_visit_of_mem (List.contains_iff_mem.1 hunchecked), ih h]
              · next hchecked =>
                  rw [walk_visit_of_not_mem (hchecked <| List.contains_iff_mem.2 ·), ih h]
          | record | consult =>
              obtain ⟨done, hrest, rfl⟩ := Option.map_eq_some_iff.1 h
              rw [walk_step (by simp), ih hrest]

/-- The steps that a walk begins with: those of all root types. -/
def firstSteps (setting : Setting) : List Step :=
  setting.graph.roots.flatMap fun (_, root) => setting.rootSteps root

/-- All events of an inspection, if the walk ends before so many steps. -/
def eventsWithin (setting : Setting) (limit : Nat) : Option (List Event) :=
  (setting.walkWithin limit setting.allPairs setting.firstSteps).map fun done =>
    done.filterMap eventOf? ++ setting.registrationEvents

/-- What is seen in the events of a walk with a bound is seen in those of the walk. -/
theorem view_events_eq {α : Type} {view : List Event → α} {seen : α} {limit : Nat}
    (h : (setting.eventsWithin limit).map view = some seen) : view setting.events = seen := by
  obtain ⟨events, hevents, rfl⟩ := Option.map_eq_some_iff.1 h
  obtain ⟨done, hdone, rfl⟩ := Option.map_eq_some_iff.1 hevents
  have hwalk := walk_eq_of_walkWithin hdone
  exact congrArg (fun steps => view (steps.filterMap eventOf? ++ setting.registrationEvents)) hwalk

end Setting

end SchemaCoverage.Inspection
