import SchemaCoverage.Inspection.Inspector
import SchemaCoverage.Proofs.Inspection.Lookups
import SchemaCoverage.Proofs.Inspection.Termination
/-!
Walks with a memory. A walk may look up all candidates through its memory, so that what it follows
and what it records depend on what it remembers. It takes the steps of a walk that has no memory, so
that its report is the same.
-/
namespace SchemaCoverage.Inspection

open Schema Host

/-- What a walk with a memory did: its steps, the answers to its look-ups, and what it remembers at
the end. -/
structure Recollection where
  steps : List Step
  answers : List (List HostType)
  memo : Memo

namespace Recollection

/-- The same after a record. -/
def afterRecord (event : Event) (later : Recollection) : Recollection :=
  { later with steps := .record event :: later.steps }

/-- The same after a look-up. -/
def afterLookup (type : String) (declared : HostType) (answer : List HostType)
    (later : Recollection) : Recollection :=
  { later with
    steps := .consult type declared :: later.steps
    answers := answer :: later.answers }

/-- The report of a walk, to which the findings on registrations are added. -/
def report (recollection : Recollection) (setting : Setting) : Report :=
  (Tally.ofEvents (recollection.steps.filterMap Setting.eventOf? ++
    setting.registrationEvents)).report

end Recollection

/-- What a walk with a memory has left to do: a task, or the object types that are left of those
that an interface or union may be, with whether anything was checked for the others. -/
inductive Job
  | task (task : Task)
  | members (via : Coordinate) (type : String) (declared : HostType) (left : List GraphType)
      (checked : Bool)

/-- Single steps as jobs. -/
def stepJobs (steps : List Step) : List Job :=
  steps.map fun step => .task (.step step)

namespace Setting

variable {setting : Setting}

/-- The host types among some candidates that a value of an object type may really have. -/
def activeAmong (setting : Setting) (candidates : List HostType) (declared : HostType) :
    List HostType :=
  if declared.isAbstract then
    candidates.filter fun candidate => setting.registry.isAssignable candidate.path declared.path
  else if candidates.any (·.path == declared.path) then [declared] else []

/-- Why none of some candidates is active. -/
def inactiveAmong (candidates : List HostType) (declared : HostType) : SkipReason :=
  if !declared.isAbstract then .notActiveImplementation
  else if candidates.isEmpty then .noHostCandidate
  else .notAssignable

/-- What an object type leads to once its candidates are known. -/
def answerSteps (setting : Setting) (via : Coordinate) (member : GraphType) (declared : HostType)
    (candidates : List HostType) : List Step :=
  match setting.activeAmong candidates declared with
  | [] =>
      skipSteps member.name (candidates.head?.map (·.path)) via (inactiveAmong candidates declared)
  | hosts => hosts.map (.visit member)

/-- What is to do for an interface or union: its object types are followed one by one. -/
def polymorphicJobs (setting : Setting) (via : Coordinate) (type : GraphType)
    (element : TypeRef) : List Job :=
  match setting.declaredHost element with
  | .error reason =>
      stepJobs ((setting.graph.possibleTypes type.name).flatMap
        (fun member => skipSteps member element.path? via reason) ++
          [.record (.skipped type.name)])
  | .ok declared =>
      let itself := setting.checksInterface type declared
      stepJobs ([.record (.visiting type.name)] ++
        if itself then [.visit type declared] else []) ++
          [.members via type.name declared (setting.possibleObjects type.name) itself]

/-- How many jobs that are no single steps a job may come to before the next visit. -/
def effort (setting : Setting) : Job → Nat
  | .task (.step _) => 0
  | .task (.member _ _ _ _) => 1
  | .task (.object _ _ _) => 2
  | .task (.polymorphic _ type _) => (setting.possibleObjects type.name).length + 2
  | .task (.field field _) =>
      ((setting.graph.type? field.type.innermost).elim 0 fun type =>
        (setting.possibleObjects type.name).length) + 3
  | .members _ _ _ left _ => left.length + 1

theorem effort_stepJobs (steps : List Step) :
    ((stepJobs steps).map setting.effort).sum = 0 := by
  simp [stepJobs, effort, Function.comp_def]

theorem effort_fieldCalls (field : Field) (serving : TypeRef) :
    (((setting.fieldCalls field serving).map Job.task).map setting.effort).sum <
      setting.effort (.task (.field field serving)) := by
  unfold fieldCalls
  cases htype : setting.graph.type? field.type.innermost with
  | none => simp [effort]
  | some type =>
      simp only
      split <;> simp [effort, htype]

theorem effort_objectCalls (via : Coordinate) (type : GraphType) (element : TypeRef) :
    (((setting.objectCalls via type element).map Job.task).map setting.effort).sum <
      setting.effort (.task (.object via type element)) := by
  unfold objectCalls
  split
  · simp [effort]
  · simp [effort, Function.comp_def]

theorem effort_polymorphicJobs (via : Coordinate) (type : GraphType) (element : TypeRef) :
    ((setting.polymorphicJobs via type element).map setting.effort).sum <
      setting.effort (.task (.polymorphic via type element)) := by
  unfold polymorphicJobs
  split
  · rw [effort_stepJobs]
    exact Nat.succ_pos _
  · rw [List.map_append, List.sum_append, effort_stepJobs]
    simp [effort]

/-- Does jobs in order, the candidates being looked up through the memory. -/
def remember (setting : Setting) (memo : Memo) (unchecked : List (String × String))
    (jobs : List Job) : Recollection :=
  match jobs with
  | [] => ⟨[], [], memo⟩
  | .task (.step (.record event)) :: rest =>
      (setting.remember memo unchecked rest).afterRecord event
  | .task (.step (.consult type declared)) :: rest =>
      let found := memo.consult setting type declared
      (setting.remember found.2 unchecked rest).afterLookup type declared found.1
  | .task (.step (.visit type host)) :: rest =>
      if (type.name, host.path) ∈ unchecked then
        setting.remember memo (unchecked.erase (type.name, host.path))
          ((setting.pairTasks type host).map .task ++ rest)
      else setting.remember memo unchecked rest
  | .task (.field field serving) :: rest =>
      setting.remember memo unchecked ((setting.fieldCalls field serving).map .task ++ rest)
  | .task (.object via type element) :: rest =>
      setting.remember memo unchecked ((setting.objectCalls via type element).map .task ++ rest)
  | .task (.polymorphic via type element) :: rest =>
      setting.remember memo unchecked (setting.polymorphicJobs via type element ++ rest)
  | .task (.member via member declared direct) :: rest =>
      if direct && !declared.isAbstract then
        setting.remember memo unchecked (.task (.step (.visit member declared)) :: rest)
      else
        let found := memo.consult setting member.name declared
        let answered := setting.answerSteps via member declared found.1
        (setting.remember found.2 unchecked (stepJobs answered ++ rest)).afterLookup member.name
          declared found.1
  | .members _ type _ [] checked :: rest =>
      (setting.remember memo unchecked rest).afterRecord
        (if checked then .resolved type else .skipped type)
  | .members via type declared (member :: left) checked :: rest =>
      let found := memo.consult setting member.name declared
      let answered := setting.answerSteps via member declared found.1
      let checked := checked || !(setting.activeAmong found.1 declared).isEmpty
      (setting.remember found.2 unchecked (stepJobs answered ++
        .members via type declared left checked :: rest)).afterLookup member.name declared found.1
termination_by (unchecked.length, (jobs.map setting.effort).sum, jobs.length)
decreasing_by
  all_goals simp only [Prod.lex_def, List.map_cons, List.map_append, List.sum_cons,
    List.sum_append, List.length_cons, effort_stepJobs]
  · simp [effort]
  · simp [effort]
  · have inside := ‹(type.name, host.path) ∈ unchecked›
    have := List.length_erase_of_mem inside
    have := List.length_pos_of_mem inside
    omega
  · simp [effort]
  · exact Or.inr ⟨trivial, Or.inl (Nat.add_lt_add_right (effort_fieldCalls field serving) _)⟩
  · exact Or.inr ⟨trivial, Or.inl (Nat.add_lt_add_right (effort_objectCalls via type element) _)⟩
  · exact Or.inr ⟨trivial,
      Or.inl (Nat.add_lt_add_right (effort_polymorphicJobs via type element) _)⟩
  · simp [effort]
  · simp [effort]
  · simp [effort]
  · simp [effort]

/-- The steps that a job comes to if candidates are looked up anew, visits not being looked into.
-/
def jobSteps (setting : Setting) : Job → List Step
  | .task task => setting.stepsOf task
  | .members via type declared left checked =>
      let checked := checked || left.any fun member =>
        !(setting.activeHosts member.name declared false).isEmpty
      left.flatMap (setting.memberSteps via · declared false) ++
        [.record (if checked then .resolved type else .skipped type)]

/-- The answer to a look-up if candidates are looked up anew. -/
def answer? (setting : Setting) : Step → Option (List HostType)
  | .consult type declared => some (setting.candidates type declared)
  | _ => none

/-- What there is to tell of a walk if candidates are looked up anew. -/
def retold (setting : Setting) (memo : Memo) (steps : List Step) : Recollection :=
  ⟨steps, steps.filterMap setting.answer?, steps.foldl (Memo.follow setting) memo⟩

theorem memberSteps_of_bound {via : Coordinate} {member : GraphType} {declared : HostType}
    {direct : Bool} (h : (direct && !declared.isAbstract) = true) :
    setting.memberSteps via member declared direct = [.visit member declared] := by
  obtain ⟨rfl, hconcrete⟩ : direct = true ∧ declared.isAbstract = false := by simpa using h
  simp [memberSteps, activeHosts, hconcrete]

theorem activeHosts_eq_activeAmong {type : String} {declared : HostType} {direct : Bool}
    (h : ¬(direct && !declared.isAbstract) = true) :
    setting.activeHosts type declared direct =
      setting.activeAmong (setting.candidates type declared) declared := by
  unfold activeHosts activeAmong
  cases direct <;> simp_all

theorem memberSteps_of_looked {via : Coordinate} {member : GraphType} {declared : HostType}
    {direct : Bool} (h : ¬(direct && !declared.isAbstract) = true) :
    setting.memberSteps via member declared direct =
      .consult member.name declared ::
        setting.answerSteps via member declared (setting.candidates member.name declared) := by
  unfold memberSteps answerSteps
  rw [if_neg h, activeHosts_eq_activeAmong h]
  cases setting.activeAmong (setting.candidates member.name declared) declared <;> rfl

theorem flatMap_jobSteps_tasks (tasks : List Task) :
    (tasks.map Job.task).flatMap setting.jobSteps = tasks.flatMap setting.stepsOf := by
  rw [List.flatMap_map]
  rfl

theorem flatMap_jobSteps_stepJobs (steps : List Step) :
    (stepJobs steps).flatMap setting.jobSteps = steps := by
  simp [stepJobs, jobSteps, stepsOf, List.flatMap_map]

theorem flatMap_jobSteps_polymorphicJobs (via : Coordinate) (type : GraphType)
    (element : TypeRef) :
    (setting.polymorphicJobs via type element).flatMap setting.jobSteps =
      setting.polymorphicSteps via type element := by
  unfold polymorphicJobs polymorphicSteps
  cases setting.declaredHost element with
  | error reason => exact flatMap_jobSteps_stepJobs _
  | ok declared =>
      simp only [List.flatMap_append, flatMap_jobSteps_stepJobs]
      simp [jobSteps]

/-- What jobs come to if candidates are looked up anew. -/
def stepsAnew (setting : Setting) (unchecked : List (String × String)) (jobs : List Job) :
    List Step :=
  setting.walk unchecked (jobs.flatMap setting.jobSteps)

section StepsAnew

variable (unchecked : List (String × String)) (rest : List Job)

/-- A job may be replaced by what it comes to. -/
theorem stepsAnew_of_flatMap_eq {job : Job} {jobs : List Job}
    (h : jobs.flatMap setting.jobSteps = setting.jobSteps job) :
    setting.stepsAnew unchecked (job :: rest) = setting.stepsAnew unchecked (jobs ++ rest) := by
  rw [stepsAnew, stepsAnew, List.flatMap_append, List.flatMap_cons, h]

theorem stepsAnew_record (event : Event) :
    setting.stepsAnew unchecked (.task (.step (.record event)) :: rest) =
      .record event :: setting.stepsAnew unchecked rest :=
  walk_step (by simp) _

theorem stepsAnew_consult (type : String) (declared : HostType) :
    setting.stepsAnew unchecked (.task (.step (.consult type declared)) :: rest) =
      .consult type declared :: setting.stepsAnew unchecked rest :=
  walk_step (by simp) _

theorem stepsAnew_visit_of_mem {type : GraphType} {host : HostType}
    (h : (type.name, host.path) ∈ unchecked) :
    setting.stepsAnew unchecked (.task (.step (.visit type host)) :: rest) =
      setting.stepsAnew (unchecked.erase (type.name, host.path))
        ((setting.pairTasks type host).map .task ++ rest) := by
  rw [stepsAnew, stepsAnew, List.flatMap_append, flatMap_jobSteps_tasks,
    flatMap_stepsOf_pairTasks]
  exact walk_visit_of_mem h _

theorem stepsAnew_visit_of_not_mem {type : GraphType} {host : HostType}
    (h : (type.name, host.path) ∉ unchecked) :
    setting.stepsAnew unchecked (.task (.step (.visit type host)) :: rest) =
      setting.stepsAnew unchecked rest :=
  walk_visit_of_not_mem h _

theorem stepsAnew_member {via : Coordinate} {member : GraphType} {declared : HostType}
    {direct : Bool} (h : ¬(direct && !declared.isAbstract) = true) :
    setting.stepsAnew unchecked (.task (.member via member declared direct) :: rest) =
      .consult member.name declared :: setting.stepsAnew unchecked
        (stepJobs (setting.answerSteps via member declared
          (setting.candidates member.name declared)) ++ rest) := by
  rw [stepsAnew, stepsAnew, List.flatMap_cons, List.flatMap_append, flatMap_jobSteps_stepJobs,
    jobSteps, stepsOf, memberSteps_of_looked h]
  exact walk_step (by simp) _

theorem stepsAnew_members_nil (via : Coordinate) (type : String) (declared : HostType)
    (checked : Bool) :
    setting.stepsAnew unchecked (.members via type declared [] checked :: rest) =
      .record (if checked then .resolved type else .skipped type) ::
        setting.stepsAnew unchecked rest := by
  rw [stepsAnew, List.flatMap_cons, jobSteps]
  simp only [List.any_nil, Bool.or_false]
  exact walk_step (by simp) _

theorem stepsAnew_members_cons (via : Coordinate) (type : String) (declared : HostType)
    (member : GraphType) (left : List GraphType) (checked : Bool) :
    setting.stepsAnew unchecked (.members via type declared (member :: left) checked :: rest) =
      .consult member.name declared :: setting.stepsAnew unchecked
        (stepJobs (setting.answerSteps via member declared
          (setting.candidates member.name declared)) ++
            .members via type declared left (checked || !(setting.activeAmong
              (setting.candidates member.name declared) declared).isEmpty) :: rest) := by
  have hlooked : ¬(false && !declared.isAbstract) = true := Bool.false_ne_true
  rw [stepsAnew, stepsAnew, List.flatMap_append, flatMap_jobSteps_stepJobs]
  simp only [List.flatMap_cons, jobSteps, List.any_cons, activeHosts_eq_activeAmong hlooked,
    memberSteps_of_looked hlooked, Bool.or_assoc, List.cons_append, List.append_assoc]
  exact walk_step (by simp) _

end StepsAnew

/-- Candidates are looked up where registered types are declared. -/
def LooksUpRegistered (setting : Setting) (steps : List Step) : Prop :=
  ∀ type declared, .consult type declared ∈ steps →
    setting.registry.get? declared.path = some declared

theorem LooksUpRegistered.tail {step : Step} {steps : List Step}
    (h : setting.LooksUpRegistered (step :: steps)) : setting.LooksUpRegistered steps :=
  fun type declared hmem => h type declared (List.mem_cons_of_mem _ hmem)

/-- A walk that goes on from a look-up. What is to do next may depend on the answer. -/
theorem afterLookup_remember {memo : Memo} {unchecked : List (String × String)} {type : String}
    {declared : HostType} {found : List HostType × Memo} (next : List HostType → List Job)
    (hfound : memo.consult setting type declared = found) (hsound : memo.Sound setting)
    (hregistered : setting.LooksUpRegistered (.consult type declared ::
      setting.stepsAnew unchecked (next (setting.candidates type declared))))
    (ih : found.2.Sound setting →
      setting.LooksUpRegistered (setting.stepsAnew unchecked (next found.1)) →
        setting.remember found.2 unchecked (next found.1) =
          setting.retold found.2 (setting.stepsAnew unchecked (next found.1))) :
    (setting.remember found.2 unchecked (next found.1)).afterLookup type declared found.1 =
      setting.retold memo (.consult type declared ::
        setting.stepsAnew unchecked (next (setting.candidates type declared))) := by
  subst hfound
  have hdeclared : setting.registry.get? declared.path = some declared :=
    hregistered type declared List.mem_cons_self
  rw [hsound.answer_eq hdeclared] at ih ⊢
  rw [ih (hsound.consult hdeclared) hregistered.tail]
  rfl

/-- Where registered types are declared, a walk with a sound memory does what one does that looks up
everything anew. -/
theorem remember_eq {memo : Memo} {unchecked : List (String × String)} {jobs : List Job}
    (hsound : memo.Sound setting)
    (hregistered : setting.LooksUpRegistered (setting.stepsAnew unchecked jobs)) :
    setting.remember memo unchecked jobs =
      setting.retold memo (setting.stepsAnew unchecked jobs) := by
  -- both walks come to the same steps, so that what is known of the look-ups goes on to hold
  fun_induction setting.remember memo unchecked jobs with
  | case1 memo unchecked =>
      rw [stepsAnew, List.flatMap_nil, walk]
      rfl
  | case2 memo unchecked event rest ih =>
      rw [stepsAnew_record] at hregistered ⊢
      rw [ih hsound hregistered.tail]
      rfl
  | case3 memo unchecked type declared rest found ih =>
      rw [stepsAnew_consult] at hregistered ⊢
      exact afterLookup_remember (fun _ => rest) rfl hsound hregistered ih
  | case4 memo unchecked type host rest hnew ih =>
      rw [stepsAnew_visit_of_mem unchecked rest hnew] at hregistered ⊢
      exact ih hsound hregistered
  | case5 memo unchecked type host rest hold ih =>
      rw [stepsAnew_visit_of_not_mem unchecked rest hold] at hregistered ⊢
      exact ih hsound hregistered
  | case6 memo unchecked field serving rest ih =>
      have hsteps := (flatMap_jobSteps_tasks _).trans
        (setting.flatMap_stepsOf_fieldCalls field serving)
      rw [stepsAnew_of_flatMap_eq unchecked rest hsteps] at hregistered ⊢
      exact ih hsound hregistered
  | case7 memo unchecked via type element rest ih =>
      have hsteps := (flatMap_jobSteps_tasks _).trans
        (setting.flatMap_stepsOf_objectCalls via type element)
      rw [stepsAnew_of_flatMap_eq unchecked rest hsteps] at hregistered ⊢
      exact ih hsound hregistered
  | case8 memo unchecked via type element rest ih =>
      have hsteps := setting.flatMap_jobSteps_polymorphicJobs via type element
      rw [stepsAnew_of_flatMap_eq unchecked rest hsteps] at hregistered ⊢
      exact ih hsound hregistered
  | case9 memo unchecked via member declared direct rest hbound ih =>
      have hsteps : [Job.task (.step (.visit member declared))].flatMap setting.jobSteps =
          setting.jobSteps (.task (.member via member declared direct)) :=
        (memberSteps_of_bound hbound).symm
      rw [stepsAnew_of_flatMap_eq unchecked rest hsteps] at hregistered ⊢
      exact ih hsound hregistered
  | case10 memo unchecked via member declared direct rest hlooked found answered ih =>
      rw [stepsAnew_member unchecked rest hlooked] at hregistered ⊢
      exact afterLookup_remember
        (fun answer => stepJobs (setting.answerSteps via member declared answer) ++ rest)
        rfl hsound hregistered ih
  | case11 memo unchecked via type declared checked rest ih =>
      rw [stepsAnew_members_nil] at hregistered ⊢
      rw [ih hsound hregistered.tail]
      rfl
  | case12 memo unchecked via type declared member left checked rest found answered more ih =>
      rw [stepsAnew_members_cons] at hregistered ⊢
      exact afterLookup_remember
        (fun answer => stepJobs (setting.answerSteps via member declared answer) ++
          .members via type declared left
            (checked || !(setting.activeAmong answer declared).isEmpty) :: rest)
        rfl hsound hregistered ih

/-- The whole walk with a memory that is empty at first. -/
def recollection (setting : Setting) : Recollection :=
  setting.remember .empty setting.allPairs
    (setting.graph.roots.flatMap fun (_, root) => (setting.rootTasks root).map .task)

theorem recollection_eq : setting.recollection = setting.retold .empty setting.trace := by
  have htrace : setting.stepsAnew setting.allPairs
      (setting.graph.roots.flatMap fun (_, root) => (setting.rootTasks root).map .task) =
        setting.trace := by
    rw [stepsAnew, List.flatMap_assoc]
    simp only [flatMap_jobSteps_tasks, flatMap_stepsOf_rootTasks]
    rfl
  rw [recollection, remember_eq Memo.sound_empty, htrace]
  rw [htrace]
  exact fun type declared hmem => (looksUp_of_consult_mem_trace hmem).2

/-- Remembering makes no difference. Look-ups one after the other, each where a registered type is
declared, are answered by the candidates that are found anew; so are those of a walk with a memory,
and its report is that of the walk that looks up everything anew. -/
theorem recollection_transparent (setting : Setting) :
    (∀ calls : List (String × HostType),
        (∀ call ∈ calls, setting.registry.get? call.2.path = some call.2) →
          (Memo.empty.consultAll setting calls).1 =
            calls.map fun call => setting.candidates call.1 call.2) ∧
      setting.LooksUpRegistered setting.recollection.steps ∧
      setting.recollection.answers = setting.recollection.steps.filterMap setting.answer? ∧
      setting.recollection.report setting = setting.report := by
  rw [recollection_eq]
  refine ⟨fun calls => Memo.sound_empty.consultAll_eq, ?_, rfl, rfl⟩
  exact fun type declared hmem => (looksUp_of_consult_mem_trace hmem).2

end Setting

/-- An inspection reports what a walk with a memory finds, and gives the warnings of its look-ups.
-/
theorem Inspector.inspect_eq_recollection (inspector : Inspector) (graph : Graph)
    (controllers : Controller.Registry) (hosts : Registry) :
    inspector.inspect graph controllers hosts =
      match inspector.resolver.check graph hosts with
      | .error error => .error (.config error)
      | .ok () =>
          let setting := inspector.setting graph controllers hosts
          let recollection := setting.recollection
          .ok ⟨recollection.report setting,
            (controllers.byCoordinate graph).2.map .shadowedMethod ++
              recollection.memo.warnings⟩ := by
  simp only [Setting.recollection_eq]
  rfl

/-- The look-ups of the walk around a ring, for the root field and for the field of the ring. -/
def ringCalls : List (String × HostType) :=
  [("Ring", ringHost), ("Ring", ringHost)]

/-- The second look-up is answered from memory. -/
theorem ringSetting_transparent :
    (∀ call ∈ ringCalls, ringSetting.registry.get? call.2.path = some call.2) ∧
      (Memo.empty.consultAll ringSetting ringCalls).1 = [[ringHost], [ringHost]] ∧
      (Memo.empty.consultAll ringSetting ringCalls).2.answers.keys = [("Ring", "app::Ring")] ∧
      ringSetting.recollection.report ringSetting = ringSetting.report := by
  obtain ⟨hanswers, -, -, hreport⟩ := Setting.recollection_transparent ringSetting
  have hcalls : ∀ call ∈ ringCalls, ringSetting.registry.get? call.2.path = some call.2 := by
    decide +kernel
  exact ⟨hcalls, (hanswers ringCalls hcalls).trans (by decide +kernel), by decide +kernel, hreport⟩

end SchemaCoverage.Inspection
