import SchemaCoverage.Proofs.Host.Registered
import SchemaCoverage.Proofs.Inspection.Calls
import SchemaCoverage.Proofs.Inspection.Pairs
import SchemaCoverage.Proofs.Schema.Building
import Mathlib.Computability.StateTransition
import Mathlib.Data.List.ProdSigma
/-!
The end of the walk. Calls are made one inside the other, and only the visit of a pair that was not
entered before can lead to more calls than there were; as there are finitely many pairs, the walk
comes to its end, and visits are not nested deeper than there are pairs.
-/
namespace SchemaCoverage.Inspection

open Schema Host

/-- A call that is under way: the pair, if it is a visit, and what is left to do for it. -/
structure Frame where
  pair : Option (String × String)
  rest : List Task

/-- A walk under way: the pairs whose fields have been checked or are being checked, the steps that
are done, and the calls that are under way, the innermost first. -/
structure Walker where
  entered : List (String × String)
  done : List Step
  stack : List Frame

/-- The pairs of the visits among some calls. -/
def visitsOf (stack : List Frame) : List (String × String) :=
  stack.filterMap (·.pair)

/-- How many visits are nested. -/
def Walker.depth (walker : Walker) : Nat :=
  (visitsOf walker.stack).length

namespace Setting

variable {setting : Setting}

/-- The walk before its first step. -/
def start (setting : Setting) : Walker :=
  ⟨[], [], [⟨none, setting.graph.roots.flatMap fun (_, root) => setting.rootTasks root⟩]⟩

/-- The next step of the innermost call. A visit ends at once if its pair was entered before. -/
def advance (setting : Setting) (walker : Walker) : Option Walker :=
  match walker.stack with
  | [] => none
  | ⟨_, []⟩ :: frames => some { walker with stack := frames }
  | ⟨pair, task :: rest⟩ :: frames =>
      let outer := ⟨pair, rest⟩ :: frames
      match task with
      | .step (.visit type host) =>
          if walker.entered.contains (type.name, host.path) then
            some { walker with stack := ⟨some (type.name, host.path), []⟩ :: outer }
          else
            some { walker with
              entered := walker.entered ++ [(type.name, host.path)]
              stack := ⟨some (type.name, host.path), setting.pairTasks type host⟩ :: outer }
      | .step step => some { walker with done := walker.done ++ [step], stack := outer }
      | call => some { walker with stack := ⟨none, setting.calls call⟩ :: outer }

/-- What one step of the walk may do. -/
inductive Move (setting : Setting) : Walker → Walker → Prop
  | leave {entered done pair frames} :
      Move setting ⟨entered, done, ⟨pair, []⟩ :: frames⟩ ⟨entered, done, frames⟩
  | again {entered done pair rest frames} {type : GraphType} {host : HostType} :
      (type.name, host.path) ∈ entered →
      Move setting ⟨entered, done, ⟨pair, .step (.visit type host) :: rest⟩ :: frames⟩
        ⟨entered, done, ⟨some (type.name, host.path), []⟩ :: ⟨pair, rest⟩ :: frames⟩
  | enter {entered done pair rest frames} {type : GraphType} {host : HostType} :
      (type.name, host.path) ∉ entered →
      Move setting ⟨entered, done, ⟨pair, .step (.visit type host) :: rest⟩ :: frames⟩
        ⟨entered ++ [(type.name, host.path)], done,
          ⟨some (type.name, host.path), setting.pairTasks type host⟩ :: ⟨pair, rest⟩ :: frames⟩
  | step {entered done pair rest frames step} : (∀ type host, step ≠ .visit type host) →
      Move setting ⟨entered, done, ⟨pair, .step step :: rest⟩ :: frames⟩
        ⟨entered, done ++ [step], ⟨pair, rest⟩ :: frames⟩
  | call {entered done pair rest frames task} : (∀ step, task ≠ .step step) →
      Move setting ⟨entered, done, ⟨pair, task :: rest⟩ :: frames⟩
        ⟨entered, done, ⟨none, setting.calls task⟩ :: ⟨pair, rest⟩ :: frames⟩

theorem move_of_advance {walker next : Walker} (h : setting.advance walker = some next) :
    setting.Move walker next := by
  obtain ⟨entered, done, stack⟩ := walker
  cases stack with
  | nil => cases h
  | cons frame frames =>
      obtain ⟨pair, rest⟩ := frame
      cases rest with
      | nil =>
          cases h
          exact .leave
      | cons task rest =>
          cases task with
          | step step =>
              cases step with
              | visit type host =>
                  by_cases hentered : (type.name, host.path) ∈ entered
                  · simp only [advance, List.contains_iff_mem, hentered, if_true,
                      Option.some.injEq] at h
                    rw [← h]
                    exact .again hentered
                  · simp only [advance, List.contains_iff_mem, hentered, if_false,
                      Option.some.injEq] at h
                    rw [← h]
                    exact .enter hentered
              | record event =>
                  cases h
                  exact .step nofun
              | consult type declared =>
                  cases h
                  exact .step nofun
          | _ =>
              cases h
              exact .call nofun

theorem advance_eq_none_iff {walker : Walker} :
    setting.advance walker = none ↔ walker.stack = [] := by
  obtain ⟨entered, done, stack⟩ := walker
  constructor
  · intro h
    unfold advance at h
    split at h
    · assumption
    · cases h
    · split at h
      · split at h <;> cases h
      · cases h
      · cases h
  · rintro rfl
    rfl

/-- The steps that are left in some calls, visits not being looked into. -/
def stepsLeft (setting : Setting) (stack : List Frame) : List Step :=
  stack.flatMap fun frame => frame.rest.flatMap setting.stepsOf

/-- The pairs that were not entered. -/
def unentered (setting : Setting) (entered : List (String × String)) : List (String × String) :=
  setting.allPairs.filter (!entered.contains ·)

theorem visitsOf_cons (pair : Option (String × String)) (rest : List Task) (frames : List Frame) :
    visitsOf (⟨pair, rest⟩ :: frames) = pair.toList ++ visitsOf frames := by
  cases pair <;> rfl

theorem stepsLeft_cons (pair : Option (String × String)) (rest : List Task)
    (frames : List Frame) :
    setting.stepsLeft (⟨pair, rest⟩ :: frames) =
      rest.flatMap setting.stepsOf ++ setting.stepsLeft frames := rfl

/-- Open visits are of entered pairs, and no two of them are of one pair but for a visit that ends
at once. -/
structure Nested (walker : Walker) : Prop where
  opened : visitsOf walker.stack ⊆ walker.entered
  outer : (visitsOf walker.stack.tail).Nodup
  busy : ∀ frame ∈ walker.stack.head?, frame.rest ≠ [] → (visitsOf walker.stack).Nodup

theorem nested_start : Nested setting.start := by
  constructor
  · exact List.nil_subset _
  · exact List.nodup_nil
  · intro _ _ _
    exact List.nodup_nil

theorem Move.nested {walker next : Walker} (h : setting.Move walker next)
    (hnested : Nested walker) : Nested next := by
  obtain ⟨hopened, houter, hbusy⟩ := hnested
  cases h with
  | @leave entered done pair frames =>
      have hframes : (visitsOf frames).Nodup := houter
      constructor
      · intro other hmem
        apply hopened
        rw [visitsOf_cons]
        exact List.mem_append_right _ hmem
      · exact hframes.sublist ((List.tail_sublist frames).filterMap _)
      · intro _ _ _
        exact hframes
  | @again entered done pair rest frames type host hentered =>
      constructor
      · intro other hmem
        rw [visitsOf_cons] at hmem
        rcases List.mem_append.1 hmem with hnew | hold
        · obtain rfl := List.mem_singleton.1 hnew
          exact hentered
        · exact hopened hold
      · exact hbusy _ rfl (List.cons_ne_nil _ _)
      · intro frame hframe hrest
        obtain rfl := Option.some.inj hframe
        exact absurd rfl hrest
  | @enter entered done pair rest frames type host hentered =>
      have hstack : (visitsOf (⟨pair, rest⟩ :: frames)).Nodup := hbusy _ rfl (List.cons_ne_nil _ _)
      constructor
      · intro other hmem
        rw [visitsOf_cons] at hmem
        rcases List.mem_append.1 hmem with hnew | hold
        · exact List.mem_append_right _ hnew
        · exact List.mem_append_left _ (hopened hold)
      · exact hstack
      · intro _ _ _
        -- an open visit is of an entered pair, and this pair was not entered
        rw [visitsOf_cons]
        exact List.nodup_cons.2 ⟨fun hopen => hentered (hopened hopen), hstack⟩
  | @step entered done pair rest frames step hstep =>
      have hstack : (visitsOf (⟨pair, rest⟩ :: frames)).Nodup := hbusy _ rfl (List.cons_ne_nil _ _)
      exact ⟨hopened, houter, fun _ _ _ => hstack⟩
  | @call entered done pair rest frames task htask =>
      have hstack : (visitsOf (⟨pair, rest⟩ :: frames)).Nodup := hbusy _ rfl (List.cons_ne_nil _ _)
      exact ⟨hopened, hstack, fun _ _ _ => hstack⟩

/-- All visits that are left are of pairs of an object or interface type and a registered type. -/
def VisitsLeft (setting : Setting) (walker : Walker) : Prop :=
  ∀ type host, .visit type host ∈ setting.stepsLeft walker.stack →
    (type.name, host.path) ∈ setting.allPairs

theorem stepsLeft_start : setting.stepsLeft setting.start.stack = setting.firstSteps := by
  simp [start, stepsLeft, firstSteps, List.flatMap_assoc, flatMap_stepsOf_rootTasks]

theorem visitsLeft_start : setting.VisitsLeft setting.start := by
  intro type host hvisit
  rw [stepsLeft_start] at hvisit
  obtain ⟨_, _, _, _, _, _, _, hleads⟩ := visit_mem_firstSteps.1 hvisit
  exact hleads.known.1.mem_allPairs hleads.known.2

theorem Move.visitsLeft {walker next : Walker} (h : setting.Move walker next)
    (hvisits : setting.VisitsLeft walker) : setting.VisitsLeft next := by
  intro type' host' hvisit
  cases h with
  | leave => exact hvisits type' host' hvisit
  | again => exact hvisits type' host' (List.mem_cons_of_mem _ hvisit)
  | @enter entered done pair rest frames type host hentered =>
      rw [stepsLeft_cons, flatMap_stepsOf_pairTasks] at hvisit
      rcases List.mem_append.1 hvisit with hpair | hrest
      · obtain ⟨_, _, _, _, hleads⟩ := visit_mem_pairSteps.1 hpair
        exact hleads.known.1.mem_allPairs hleads.known.2
      · exact hvisits type' host' (List.mem_cons_of_mem _ hrest)
  | step => exact hvisits type' host' (List.mem_cons_of_mem _ hvisit)
  | @call entered done pair rest frames task htask =>
      rw [stepsLeft_cons, flatMap_stepsOf_calls htask] at hvisit
      apply hvisits type' host'
      rw [stepsLeft_cons, List.flatMap_cons, List.append_assoc]
      exact hvisit

theorem mem_unentered {entered : List (String × String)} {pair : String × String} :
    pair ∈ setting.unentered entered ↔ pair ∈ setting.allPairs ∧ pair ∉ entered := by
  simp [unentered]

theorem unentered_concat (hpairs : setting.allPairs.Nodup) (entered : List (String × String))
    (pair : String × String) :
    setting.unentered (entered ++ [pair]) = (setting.unentered entered).erase pair := by
  unfold unentered
  rw [(hpairs.filter _).erase_eq_filter, List.filter_filter]
  apply List.filter_congr
  intro other _
  by_cases heq : other = pair
  · simp [heq]
  · simp [heq]

/-- What the walk comes to: what is done, and what the steps that are left come to. -/
def outcome (setting : Setting) (walker : Walker) : List Step :=
  walker.done ++ setting.walk (setting.unentered walker.entered) (setting.stepsLeft walker.stack)

theorem outcome_start : setting.outcome setting.start = setting.trace := by
  have hunentered : setting.unentered [] = setting.allPairs := by simp [unentered]
  rw [outcome, stepsLeft_start]
  change setting.walk (setting.unentered []) _ = _
  rw [hunentered]
  rfl

/-- Each step of the walk brings it on towards the same end. -/
theorem Move.outcome_eq {walker next : Walker} (h : setting.Move walker next)
    (hpairs : setting.allPairs.Nodup) (hvisits : setting.VisitsLeft walker) :
    setting.outcome next = setting.outcome walker := by
  unfold outcome
  cases h with
  | leave => rfl
  | @again entered done pair rest frames type host hentered =>
      have hchecked : (type.name, host.path) ∉ setting.unentered entered :=
        fun hmem => (mem_unentered.1 hmem).2 hentered
      exact congrArg (done ++ ·) (walk_visit_of_not_mem hchecked _).symm
  | @enter entered done pair rest frames type host hentered =>
      have hmem : (type.name, host.path) ∈ setting.unentered entered :=
        mem_unentered.2 ⟨hvisits type host List.mem_cons_self, hentered⟩
      rw [stepsLeft_cons, flatMap_stepsOf_pairTasks, unentered_concat hpairs]
      exact congrArg (done ++ ·) (walk_visit_of_mem hmem _).symm
  | @step entered done pair rest frames step hstep =>
      change done ++ [step] ++ _ = done ++ setting.walk _ (step :: _)
      rw [walk_step hstep, List.append_assoc]
      rfl
  | @call entered done pair rest frames task htask =>
      rw [stepsLeft_cons, flatMap_stepsOf_calls htask, stepsLeft_cons, stepsLeft_cons,
        List.flatMap_cons, List.append_assoc]

/-- The size of what is left in some calls. -/
def stackWeight (setting : Setting) (stack : List Frame) : Nat :=
  (stack.map fun frame => 1 + (frame.rest.map setting.weight).sum).sum

theorem stackWeight_cons (pair : Option (String × String)) (rest : List Task)
    (frames : List Frame) :
    setting.stackWeight (⟨pair, rest⟩ :: frames) =
      1 + (rest.map setting.weight).sum + setting.stackWeight frames := rfl

theorem two_le_weight (task : Task) : 2 ≤ setting.weight task := by
  rw [weight_eq]
  exact Nat.le_add_right 2 _

/-- A pair is entered, or what is left becomes less. -/
theorem Move.lt {walker next : Walker} (h : setting.Move walker next)
    (hpairs : setting.allPairs.Nodup) (hvisits : setting.VisitsLeft walker) :
    (setting.unentered next.entered).length < (setting.unentered walker.entered).length ∨
      next.entered = walker.entered ∧
        setting.stackWeight next.stack < setting.stackWeight walker.stack := by
  cases h with
  | leave =>
      refine Or.inr ⟨rfl, ?_⟩
      simp only [stackWeight_cons]
      omega
  | @again entered done pair rest frames type host hentered =>
      refine Or.inr ⟨rfl, ?_⟩
      have hweight := setting.two_le_weight (.step (.visit type host))
      simp only [stackWeight_cons, List.map_cons, List.sum_cons, List.map_nil, List.sum_nil]
      omega
  | @enter entered done pair rest frames type host hentered =>
      left
      have hmem : (type.name, host.path) ∈ setting.unentered entered :=
        mem_unentered.2 ⟨hvisits type host List.mem_cons_self, hentered⟩
      have hpositive := List.length_pos_of_mem hmem
      simp only
      rw [unentered_concat hpairs, List.length_erase_of_mem hmem]
      omega
  | @step entered done pair rest frames step hstep =>
      refine Or.inr ⟨rfl, ?_⟩
      have hweight := setting.two_le_weight (.step step)
      simp only [stackWeight_cons, List.map_cons, List.sum_cons]
      omega
  | @call entered done pair rest frames task htask =>
      refine Or.inr ⟨rfl, ?_⟩
      have hweight := setting.weight_eq task
      simp only [stackWeight_cons, List.map_cons, List.sum_cons]
      omega

/-- Every walk under way comes to its end. -/
theorem exists_end (hpairs : setting.allPairs.Nodup) (walker : Walker)
    (hvisits : setting.VisitsLeft walker) :
    ∃ last, StateTransition.Reaches setting.advance walker last ∧
      setting.advance last = none := by
  cases hnext : setting.advance walker with
  | none => exact ⟨walker, .refl, hnext⟩
  | some next =>
      have hmove := move_of_advance hnext
      obtain ⟨last, hreaches, hlast⟩ := exists_end hpairs next (hmove.visitsLeft hvisits)
      exact ⟨last, .head hnext hreaches, hlast⟩
termination_by ((setting.unentered walker.entered).length, setting.stackWeight walker.stack)
decreasing_by
  rcases hmove.lt hpairs hvisits with hless | ⟨hsame, hless⟩
  · exact Prod.Lex.left _ _ hless
  · rw [hsame]
    exact Prod.Lex.right _ hless

/-- The pairs that a walk under way has entered are distinct. -/
structure Entered (setting : Setting) (walker : Walker) : Prop where
  nodup : walker.entered.Nodup
  subset : walker.entered ⊆ setting.allPairs

theorem Move.entered {walker next : Walker} (h : setting.Move walker next)
    (hvisits : setting.VisitsLeft walker) (hentered : setting.Entered walker) :
    setting.Entered next := by
  obtain ⟨hnodup, hsubset⟩ := hentered
  cases h with
  | @enter entered done pair rest frames type host hnew =>
      constructor
      · rw [← List.concat_eq_append]
        exact hnodup.concat hnew
      · intro other hmem
        rcases List.mem_append.1 hmem with hold | hlast
        · exact hsubset hold
        · obtain rfl := List.mem_singleton.1 hlast
          exact hvisits type host List.mem_cons_self
  | leave => exact ⟨hnodup, hsubset⟩
  | again => exact ⟨hnodup, hsubset⟩
  | step => exact ⟨hnodup, hsubset⟩
  | call => exact ⟨hnodup, hsubset⟩

theorem count_checked_pairSteps (type : GraphType) (host : HostType) (name path : String) :
    ((setting.pairSteps type host).filterMap eventOf?).count (.checked name path) =
      [(type.name, host.path)].count (name, path) := by
  have hfields : (List.filterMap eventOf? (type.fields.flatMap fun field =>
      setting.serveSteps field (setting.serving? host field))).count (.checked name path) = 0 := by
    apply List.count_eq_zero_of_not_mem
    rw [mem_filterMap_eventOf?, List.mem_flatMap]
    rintro ⟨field, -, hserve⟩
    exact checked_not_mem_serveSteps hserve
  have hother : (List.filterMap eventOf? [.record (.resolved type.name)]).count
      (.checked name path) = 0 := by
    simp [eventOf?]
  rw [pairSteps, List.filterMap_append, List.filterMap_append, List.count_append,
    List.count_append, hfields, hother]
  simp [eventOf?, List.count_cons]

/-- What is recorded as checked so far or will be by open calls. -/
def checksOf (setting : Setting) (walker : Walker) (name path : String) : Nat :=
  ((walker.done ++ setting.stepsLeft walker.stack).filterMap eventOf?).count (.checked name path)

/-- A pair is recorded as checked as often as it was entered. -/
theorem Move.count_checked {walker next : Walker} (h : setting.Move walker next)
    (name path : String)
    (hcount : setting.checksOf walker name path = walker.entered.count (name, path)) :
    setting.checksOf next name path = next.entered.count (name, path) := by
  unfold checksOf at hcount ⊢
  cases h with
  | leave => exact hcount
  | @again entered done pair rest frames type host hentered =>
      rw [List.filterMap_append] at hcount ⊢
      exact hcount
  | @enter entered done pair rest frames type host hentered =>
      have hown := setting.count_checked_pairSteps type host name path
      rw [List.filterMap_append, List.count_append] at hcount
      rw [stepsLeft_cons, flatMap_stepsOf_pairTasks, List.filterMap_append,
        List.filterMap_append, List.count_append, List.count_append, List.count_append, hown]
      -- a visit is no record, so that the rest records what was left before
      have hleft : ((setting.stepsLeft (⟨pair, rest⟩ :: frames)).filterMap eventOf?).count
          (.checked name path) = ((setting.stepsLeft
            (⟨pair, .step (.visit type host) :: rest⟩ :: frames)).filterMap eventOf?).count
              (.checked name path) := rfl
      rw [hleft]
      simp only at hcount ⊢
      omega
  | @step entered done pair rest frames step hstep =>
      rw [List.append_assoc]
      exact hcount
  | @call entered done pair rest frames task htask =>
      rw [stepsLeft_cons, flatMap_stepsOf_calls htask]
      rw [stepsLeft_cons, List.flatMap_cons, List.append_assoc] at hcount
      exact hcount

/-- All pairs are the pairs of the names of object and interface types and registered paths. -/
theorem allPairs_eq_product : setting.allPairs =
    ((setting.graph.types.filter (·.isComposite)).map (·.name)).product setting.registry.paths := by
  rw [List.product, List.flatMap_map]
  rfl

theorem nodup_allPairs (hnames : (setting.graph.types.map (·.name)).Nodup)
    (hpaths : setting.registry.paths.Nodup) : setting.allPairs.Nodup := by
  rw [allPairs_eq_product]
  exact (hnames.sublist (List.filter_sublist.map _)).product hpaths

theorem length_allPairs : setting.allPairs.length =
    (setting.graph.types.filter (·.isComposite)).length * setting.registry.types.length := by
  have hlength : setting.allPairs.length = (List.map GraphType.name
      (setting.graph.types.filter (·.isComposite))).length * setting.registry.paths.length := by
    rw [allPairs_eq_product]
    exact List.length_product _ _
  rw [hlength, List.length_map, Registry.paths, List.length_map]

theorem mem_allPairs {pair : String × String} :
    pair ∈ setting.allPairs ↔ ∃ type ∈ setting.graph.types, type.isComposite = true ∧
      ∃ host ∈ setting.registry.types, pair = (type.name, host.path) := by
  simp only [allPairs, Registry.paths, List.mem_flatMap, List.mem_filter, List.mem_map]
  constructor
  · rintro ⟨type, ⟨hmem, hcomposite⟩, _, ⟨host, hhost, rfl⟩, rfl⟩
    exact ⟨type, hmem, hcomposite, host, hhost, rfl⟩
  · rintro ⟨type, hmem, hcomposite, host, hhost, rfl⟩
    exact ⟨type, ⟨hmem, hcomposite⟩, _, ⟨host, hhost, rfl⟩, rfl⟩

/-- What holds of a walk at all times. -/
structure Sound (setting : Setting) (walker : Walker) : Prop where
  visits : setting.VisitsLeft walker
  entered : setting.Entered walker
  nested : Nested walker
  outcome : setting.outcome walker = setting.trace
  checks : ∀ name path, setting.checksOf walker name path = walker.entered.count (name, path)

theorem sound_start : setting.Sound setting.start where
  visits := visitsLeft_start
  entered := ⟨List.nodup_nil, List.nil_subset _⟩
  nested := nested_start
  outcome := outcome_start
  checks name path := by
    have hfirst : .record (.checked name path) ∉ setting.firstSteps := by
      simp [mem_firstSteps, mem_rootSteps, checked_not_mem_serveSteps]
    apply List.count_eq_zero_of_not_mem
    rw [mem_filterMap_eventOf?, stepsLeft_start]
    exact hfirst

theorem Sound.of_reaches (hpairs : setting.allPairs.Nodup) {walker : Walker}
    (h : StateTransition.Reaches setting.advance setting.start walker) : setting.Sound walker := by
  induction h with
  | refl => exact sound_start
  | tail _ hnext ih =>
      have hmove := move_of_advance hnext
      exact
        { visits := hmove.visitsLeft ih.visits
          entered := hmove.entered ih.visits ih.entered
          nested := hmove.nested ih.nested
          outcome := (hmove.outcome_eq hpairs ih.visits).trans ih.outcome
          checks := fun name path => hmove.count_checked name path (ih.checks name path) }

/-- Open visits but the innermost are of distinct pairs. -/
theorem Sound.depth_le {walker : Walker} (h : setting.Sound walker) :
    walker.depth ≤ setting.allPairs.length + 1 := by
  have houter : (visitsOf walker.stack.tail).length ≤ setting.allPairs.length := by
    apply (List.subperm_of_subset h.nested.outer _).length_le
    intro pair hmem
    apply h.entered.subset
    apply h.nested.opened
    exact ((List.tail_sublist walker.stack).filterMap _).subset hmem
  unfold Walker.depth
  cases hstack : walker.stack with
  | nil => exact Nat.zero_le _
  | cons frame frames =>
      rw [hstack] at houter
      obtain ⟨pair, rest⟩ := frame
      rw [visitsOf_cons, List.length_append]
      have hone : pair.toList.length ≤ 1 := by cases pair <;> simp
      simp only [List.tail_cons] at houter
      omega

/-- The bounds that a walk keeps to. -/
structure Bounded (setting : Setting) (walker : Walker) : Prop where
  /-- No pair is entered twice. -/
  once : walker.entered.Nodup
  /-- A pair whose fields are checked is one of an object or interface type and a host type. -/
  pairs : ∀ pair ∈ walker.entered, ∃ type ∈ setting.graph.types, type.isComposite = true ∧
    ∃ host ∈ setting.registry.types, pair = (type.name, host.path)
  /-- A pair is recorded as checked once at most, and only if it was entered. -/
  recorded : ∀ name path, (walker.done.filterMap eventOf?).count (.checked name path) ≤
    if (name, path) ∈ walker.entered then 1 else 0
  /-- Visits are nested no deeper than there are such pairs, but for one that ends at once. -/
  depth : walker.depth ≤ (setting.graph.types.filter (·.isComposite)).length *
    setting.registry.types.length + 1

theorem Sound.bounded {walker : Walker} (h : setting.Sound walker) : setting.Bounded walker where
  once := h.entered.nodup
  pairs _ hmem := mem_allPairs.1 (h.entered.subset hmem)
  recorded name path := by
    have hchecks := h.checks name path
    rw [checksOf, List.filterMap_append, List.count_append, h.entered.nodup.count] at hchecks
    omega
  depth := by
    rw [← length_allPairs]
    exact h.depth_le

end Setting

/-- No path is registered twice. -/
theorem paths_nodup_of_ofTypes {types : List HostType} {registry : Registry}
    (h : Registry.ofTypes types = .ok registry) : registry.paths.Nodup :=
  (Registry.WellFormed.of_ofTypes h).distinct

/-- Where the schema is built and the host types are registered, the walk comes to its end, which is
the trace of the inspection, and keeps to its bounds all the way. -/
theorem Setting.walk_ends {setting : Setting} {documents : List (Option String × Sdl.Document)}
    {types : List HostType} (hbuilt : Graph.ofDocuments documents = .ok setting.graph)
    (hregistered : Registry.ofTypes types = .ok setting.registry) :
    (∃ last ∈ StateTransition.eval setting.advance setting.start, last.done = setting.trace) ∧
      ∀ walker, StateTransition.Reaches setting.advance setting.start walker →
        setting.Bounded walker := by
  have hpairs : setting.allPairs.Nodup :=
    nodup_allPairs (names_nodup_of_ofDocuments hbuilt) (paths_nodup_of_ofTypes hregistered)
  constructor
  · obtain ⟨last, hreaches, hlast⟩ := exists_end hpairs setting.start visitsLeft_start
    refine ⟨last, StateTransition.mem_eval.2 ⟨hreaches, hlast⟩, ?_⟩
    have houtcome := (Sound.of_reaches hpairs hreaches).outcome
    rw [Setting.outcome, advance_eq_none_iff.1 hlast] at houtcome
    simpa [stepsLeft, walk] using houtcome
  · intro walker hreaches
    exact (Sound.of_reaches hpairs hreaches).bounded

/-- The documents `type Query { ring: Ring }` and `type Ring { next: Ring }`. -/
def ringDocuments : List (Option String × Sdl.Document) :=
  [(none, [.type ⟨"Query", .object [] [⟨"ring", [], .named "Ring" false, ⟨1, 14⟩⟩], ⟨1, 1⟩⟩]),
    (none, [.type ⟨"Ring", .object [] [⟨"next", [], .named "Ring" false, ⟨1, 13⟩⟩], ⟨1, 1⟩⟩])]

/-- A host type that is a member of itself and implements and permits itself. -/
def ringHost : HostType :=
  ⟨"app::Ring", .abstract, [("next", .named "app::Ring" [])], ["app::Ring"], ["app::Ring"]⟩

/-- A schema and a host type with a cycle in each. -/
def ringSetting : Setting where
  graph :=
    { types := builtinTypes ++
        [.ofDef none ⟨"Query", .object [] [⟨"ring", [], .named "Ring" false, ⟨1, 14⟩⟩], ⟨1, 1⟩⟩,
          .ofDef none ⟨"Ring", .object [] [⟨"next", [], .named "Ring" false, ⟨1, 13⟩⟩], ⟨1, 1⟩⟩]
      query := "Query"
      mutation := none
      subscription := none }
  methods := [(⟨"Query", "ring"⟩, ⟨"Rings", "ring", .named "app::Ring" [], []⟩)]
  registry := ⟨[ringHost]⟩
  resolver := .convention id
  policy := .concreteTypesOnly
  wrappers := .standard

theorem ringSetting_ends :
    Graph.ofDocuments ringDocuments = .ok ringSetting.graph ∧
      Registry.ofTypes [ringHost] = .ok ringSetting.registry ∧
      (∃ last ∈ StateTransition.eval ringSetting.advance ringSetting.start,
        last.done = ringSetting.trace) ∧
      ∀ walker, StateTransition.Reaches ringSetting.advance ringSetting.start walker →
        ringSetting.Bounded walker := by
  have hbuilt : Graph.ofDocuments ringDocuments = .ok ringSetting.graph := by decide +kernel
  have hregistered : Registry.ofTypes [ringHost] = .ok ringSetting.registry := by decide +kernel
  exact ⟨hbuilt, hregistered, Setting.walk_ends hbuilt hregistered⟩

end SchemaCoverage.Inspection
