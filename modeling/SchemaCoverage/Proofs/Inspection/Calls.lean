import SchemaCoverage.Inspection.Walk
import Mathlib.Algebra.Ring.Nat
/-!
The calls of a walk. Following a field calls for following an object type, or an interface or union;
these call for following members, and these for visits of pairs, whose fields are followed in turn.
What all calls come to is the list of steps that the walk takes.
-/
namespace SchemaCoverage.Inspection

open Schema Host

/-- What a walk does: single steps, and calls that come to further tasks. A visit is a call too,
which checks the fields of its pair unless that was done. -/
inductive Task
  | step (step : Step)
  | field (field : Field) (serving : TypeRef)
  | object (via : Coordinate) (type : GraphType) (element : TypeRef)
  | polymorphic (via : Coordinate) (type : GraphType) (element : TypeRef)
  | member (via : Coordinate) (member : GraphType) (declared : HostType) (direct : Bool)

/-- How far a task is from single steps if visits are not looked into. -/
def Task.rank : Task → Nat
  | .step _ => 0
  | .member _ _ _ _ => 1
  | .object _ _ _ | .polymorphic _ _ _ => 2
  | .field _ _ => 3

namespace Setting

variable {setting : Setting}

/-- The steps that a task comes to if visits are not looked into. -/
def stepsOf (setting : Setting) : Task → List Step
  | .step step => [step]
  | .field field serving => setting.fieldSteps field serving
  | .object via type element => setting.objectSteps via type element
  | .polymorphic via type element => setting.polymorphicSteps via type element
  | .member via member declared direct => setting.memberSteps via member declared direct

/-- The calls for a field: that for the type that it returns. -/
def fieldCalls (setting : Setting) (field : Field) (serving : TypeRef) : List Task :=
  match setting.graph.type? field.type.innermost with
  | none => []
  | some type =>
      let element := serving.element setting.wrappers
      match type.kind with
      | .object => [.object field.coordinate type element]
      | .interface | .union => [.polymorphic field.coordinate type element]
      | .enum | .scalar => [.step (.record (.resolved type.name))]
      | .inputObject => []

/-- The calls for an object type: it is its only member. -/
def objectCalls (setting : Setting) (via : Coordinate) (type : GraphType) (element : TypeRef) :
    List Task :=
  match setting.declaredHost element with
  | .ok declared => [.member via type declared true]
  | .error reason => (skipSteps type.name element.path? via reason).map .step

/-- The calls for an interface or union: those for the object types that it may be. -/
def polymorphicCalls (setting : Setting) (via : Coordinate) (type : GraphType)
    (element : TypeRef) : List Task :=
  match setting.declaredHost element with
  | .error reason =>
      ((setting.graph.possibleTypes type.name).flatMap
        (fun member => skipSteps member element.path? via reason)).map .step ++
        [.step (.record (.skipped type.name))]
  | .ok declared =>
      let members := setting.possibleObjects type.name
      let itself := setting.checksInterface type declared
      let checked := itself || members.any fun member =>
        !(setting.activeHosts member.name declared false).isEmpty
      [.step (.record (.visiting type.name))] ++
        (if itself then [.step (.visit type declared)] else []) ++
        members.map (.member via · declared false) ++
        [.step (.record (if checked then .resolved type.name else .skipped type.name))]

/-- What is done for a call, in order. Single steps call for nothing. -/
def calls (setting : Setting) : Task → List Task
  | .step _ => []
  | .field field serving => setting.fieldCalls field serving
  | .object via type element => setting.objectCalls via type element
  | .polymorphic via type element => setting.polymorphicCalls via type element
  | .member via member declared direct =>
      (setting.memberSteps via member declared direct).map .step

/-- A field is followed, or found unmapped for want of anything that serves it. -/
def serveTasks (field : Field) : Option TypeRef → List Task
  | some serving => [.field field serving]
  | none => [.step (.record (.unmappedField field.coordinate))]

/-- What is done when a pair is checked. -/
def pairTasks (setting : Setting) (type : GraphType) (host : HostType) : List Task :=
  [.step (.record (.checked type.name host.path)), .step (.record (.visiting type.name))] ++
    type.fields.flatMap (fun field => serveTasks field (setting.serving? host field)) ++
    [.step (.record (.resolved type.name))]

/-- What is done for a root type. -/
def rootTasks (setting : Setting) (root : GraphType) : List Task :=
  [.step (.record (.visiting root.name))] ++
    root.fields.flatMap (fun field => serveTasks field (setting.registered? field)) ++
    [.step (.record (.resolved root.name))]

theorem rank_of_mem_map_step {steps : List Step} {task : Task} (h : task ∈ steps.map Task.step) :
    task.rank = 0 := by
  obtain ⟨step, -, rfl⟩ := List.mem_map.1 h
  rfl

theorem rank_of_mem_fieldCalls {field : Field} {serving : TypeRef} {task : Task}
    (h : task ∈ setting.fieldCalls field serving) : task.rank ≤ 2 := by
  unfold fieldCalls at h
  split at h
  · cases h
  · split at h
    all_goals simp_all [Task.rank]

theorem rank_of_mem_objectCalls {via : Coordinate} {type : GraphType} {element : TypeRef}
    {task : Task} (h : task ∈ setting.objectCalls via type element) : task.rank ≤ 1 := by
  unfold objectCalls at h
  split at h
  · obtain rfl := List.mem_singleton.1 h
    exact Nat.le_refl 1
  · rw [rank_of_mem_map_step h]
    exact Nat.zero_le 1

theorem rank_of_mem_polymorphicCalls {via : Coordinate} {type : GraphType} {element : TypeRef}
    {task : Task} (h : task ∈ setting.polymorphicCalls via type element) : task.rank ≤ 1 := by
  unfold polymorphicCalls at h
  split at h
  · rcases List.mem_append.1 h with hskip | hlast
    · rw [rank_of_mem_map_step hskip]
      exact Nat.zero_le 1
    · obtain rfl := List.mem_singleton.1 hlast
      exact Nat.zero_le 1
  · next declared _ =>
      simp only [List.mem_append, List.mem_singleton, List.mem_map] at h
      rcases h with ((rfl | hitself) | ⟨member, -, rfl⟩) | rfl
      · exact Nat.zero_le 1
      · have hvisit : task ∈ [Step.visit type declared].map Task.step := by
          split at hitself
          · exact hitself
          · cases hitself
        rw [rank_of_mem_map_step hvisit]
        exact Nat.zero_le 1
      · exact Nat.le_refl 1
      · exact Nat.zero_le 1

/-- What is done for a call is of lower rank, so that only visits lead back to where they are made.
-/
theorem rank_lt_of_mem_calls {task inner : Task} (h : inner ∈ setting.calls task) :
    inner.rank < task.rank := by
  cases task with
  | step step => cases h
  | field field serving => exact Nat.lt_succ_of_le (rank_of_mem_fieldCalls h)
  | object via type element => exact Nat.lt_succ_of_le (rank_of_mem_objectCalls h)
  | polymorphic via type element => exact Nat.lt_succ_of_le (rank_of_mem_polymorphicCalls h)
  | member via member declared direct =>
      exact Nat.lt_succ_of_le (Nat.le_of_eq (rank_of_mem_map_step h))

@[simp] theorem flatMap_stepsOf_map_step (steps : List Step) :
    (steps.map Task.step).flatMap setting.stepsOf = steps := by
  simp [List.flatMap_map, stepsOf]

theorem flatMap_stepsOf_fieldCalls (field : Field) (serving : TypeRef) :
    (setting.fieldCalls field serving).flatMap setting.stepsOf =
      setting.fieldSteps field serving := by
  unfold fieldCalls fieldSteps
  cases setting.graph.type? field.type.innermost with
  | none => rfl
  | some type =>
      simp only
      cases type.kind <;> simp [stepsOf]

theorem flatMap_stepsOf_objectCalls (via : Coordinate) (type : GraphType) (element : TypeRef) :
    (setting.objectCalls via type element).flatMap setting.stepsOf =
      setting.objectSteps via type element := by
  unfold objectCalls objectSteps
  cases setting.declaredHost element with
  | error reason => exact flatMap_stepsOf_map_step _
  | ok declared => simp [stepsOf]

theorem flatMap_stepsOf_polymorphicCalls (via : Coordinate) (type : GraphType)
    (element : TypeRef) :
    (setting.polymorphicCalls via type element).flatMap setting.stepsOf =
      setting.polymorphicSteps via type element := by
  unfold polymorphicCalls polymorphicSteps
  cases setting.declaredHost element with
  | error reason => simp [stepsOf]
  | ok declared =>
      have hitself : (if setting.checksInterface type declared then
          [Task.step (.visit type declared)] else []).flatMap setting.stepsOf =
            if setting.checksInterface type declared then [.visit type declared] else [] := by
        split <;> rfl
      have hmembers : ((setting.possibleObjects type.name).map
          (Task.member via · declared false)).flatMap setting.stepsOf =
            (setting.possibleObjects type.name).flatMap
              (setting.memberSteps via · declared false) := by
        rw [List.flatMap_map]
        rfl
      simp only [List.flatMap_append, hitself, hmembers]
      rfl

/-- A call comes to the steps of all that is done for it. -/
theorem flatMap_stepsOf_calls {task : Task} (h : ∀ step, task ≠ .step step) :
    (setting.calls task).flatMap setting.stepsOf = setting.stepsOf task := by
  cases task with
  | step step => exact absurd rfl (h step)
  | field field serving => exact flatMap_stepsOf_fieldCalls field serving
  | object via type element => exact flatMap_stepsOf_objectCalls via type element
  | polymorphic via type element => exact flatMap_stepsOf_polymorphicCalls via type element
  | member via member declared direct => exact flatMap_stepsOf_map_step _

theorem flatMap_stepsOf_serveTasks (field : Field) (serving : Option TypeRef) :
    (serveTasks field serving).flatMap setting.stepsOf = setting.serveSteps field serving := by
  cases serving <;> simp [serveTasks, serveSteps, stepsOf]

theorem flatMap_stepsOf_pairTasks (type : GraphType) (host : HostType) :
    (setting.pairTasks type host).flatMap setting.stepsOf = setting.pairSteps type host := by
  simp [pairTasks, pairSteps, stepsOf, List.flatMap_assoc, flatMap_stepsOf_serveTasks]

theorem flatMap_stepsOf_rootTasks (root : GraphType) :
    (setting.rootTasks root).flatMap setting.stepsOf = setting.rootSteps root := by
  simp [rootTasks, rootSteps, stepsOf, List.flatMap_assoc, flatMap_stepsOf_serveTasks]

/-- The size of a task with all that is done for it, visits counting as single steps. -/
def weight (setting : Setting) (task : Task) : Nat :=
  2 + ((setting.calls task).attach.map fun inner => setting.weight inner.1).sum
termination_by task.rank
decreasing_by exact rank_lt_of_mem_calls inner.2

theorem weight_eq (task : Task) :
    setting.weight task = 2 + ((setting.calls task).map setting.weight).sum := by
  rw [weight, List.attach_map_val (f := setting.weight)]

end Setting

end SchemaCoverage.Inspection
