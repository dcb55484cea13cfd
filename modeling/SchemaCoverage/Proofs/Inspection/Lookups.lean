import SchemaCoverage.Inspection.Memo
import SchemaCoverage.Proofs.Inspection.Pairs
/-!
Look-ups of candidates. A walk looks up candidates of object types alone, and only where registered
host types are declared. What is remembered goes by the path of the declared type, of which a
resolver may see much more; but under a path only one type is registered, so that each answer that
is remembered is the one that a new look-up would give.
-/
namespace SchemaCoverage.Inspection

open Schema Host

namespace Setting

variable {setting : Setting}

/-- The candidates of an object type may be looked up where a registered type is declared. -/
def LooksUp (setting : Setting) (name : String) (declared : HostType) : Prop :=
  (∃ object, setting.graph.type? object.name = some object ∧ object.kind = .object ∧
    object.name = name) ∧ setting.registry.get? declared.path = some declared

theorem consult_mem_memberSteps {via : Coordinate} {member : GraphType} {declared : HostType}
    {direct : Bool} {name : String} {host : HostType}
    (h : .consult name host ∈ setting.memberSteps via member declared direct) :
    name = member.name ∧ host = declared := by
  rcases mem_memberSteps.1 h with ⟨-, h⟩ | ⟨_, _, h⟩ | ⟨-, h⟩
  · exact Step.consult.inj h
  · cases h
  · simp [skipSteps] at h

theorem looksUp_of_consult_mem_fieldSteps {field : Field} {serving : TypeRef} {name : String}
    {host : HostType} (h : .consult name host ∈ setting.fieldSteps field serving) :
    setting.LooksUp name host := by
  obtain ⟨returned, hreturned, ⟨hkind, h⟩ | ⟨-, h⟩ | ⟨-, h⟩⟩ := mem_fieldSteps.1 h
  · unfold objectSteps at h
    split at h
    · next hdeclared =>
        obtain ⟨rfl, rfl⟩ := consult_mem_memberSteps h
        exact ⟨⟨returned, Graph.type?_name hreturned, hkind, rfl⟩,
          (declaredHost_eq_ok_iff.1 hdeclared).registered⟩
    · simp [skipSteps] at h
  · unfold polymorphicSteps at h
    split at h
    · simp [skipSteps] at h
    · next hdeclared =>
        simp only [List.mem_append, List.mem_singleton, List.mem_flatMap] at h
        rcases h with ((h | h) | ⟨member, hmember, h⟩) | h
        · cases h
        · split at h
          · cases List.mem_singleton.1 h
          · cases h
        · obtain ⟨-, hfind, hkind⟩ := mem_possibleObjects.1 hmember
          obtain ⟨rfl, rfl⟩ := consult_mem_memberSteps h
          exact ⟨⟨member, hfind, hkind, rfl⟩, (declaredHost_eq_ok_iff.1 hdeclared).registered⟩
        · split at h <;> cases h
  · cases h

/-- All look-ups of a walk are of object types, where registered types are declared. -/
theorem looksUp_of_consult_mem_trace {name : String} {host : HostType}
    (h : .consult name host ∈ setting.trace) : setting.LooksUp name host := by
  have hserve {field : Field} {serving : Option TypeRef}
      (h : .consult name host ∈ setting.serveSteps field serving) :
      setting.LooksUp name host := by
    rcases mem_serveSteps.1 h with ⟨_, -, h⟩ | ⟨-, h⟩
    · exact looksUp_of_consult_mem_fieldSteps h
    · cases h
  rcases (mem_trace (by simp)).1 h with h | ⟨_, _, -, h⟩
  · obtain ⟨_, _, -, h⟩ := mem_firstSteps.1 h
    rcases mem_rootSteps.1 h with h | ⟨_, _, h⟩ | h
    · cases h
    · exact hserve h
    · cases h
  · rcases mem_pairSteps.1 h with h | h | ⟨_, _, h⟩ | h
    · cases h
    · cases h
    · exact hserve h
    · cases h

end Setting

namespace Memo

variable {setting : Setting} {memo : Memo} {type : String} {declared : HostType}

/-- Looks up one after the other. -/
def consultAll (setting : Setting) (memo : Memo) :
    List (String × HostType) → List (List HostType) × Memo
  | [] => ([], memo)
  | (type, declared) :: calls =>
      let found := memo.consult setting type declared
      let later := found.2.consultAll setting calls
      (found.1 :: later.1, later.2)

/-- What is remembered under a path are the candidates for the type registered there. -/
def Sound (setting : Setting) (memo : Memo) : Prop :=
  ∀ type path answer, memo.answers.find? (type, path) = some answer →
    ∃ declared, setting.registry.get? path = some declared ∧
      answer = setting.candidates type declared

theorem sound_empty : empty.Sound setting := by
  intro type path answer hfound
  cases hfound

section Consult

variable (hsound : memo.Sound setting)
  (hdeclared : setting.registry.get? declared.path = some declared)

include hsound hdeclared

/-- A remembered answer is no other than a new one. -/
theorem Sound.answer_eq :
    (memo.consult setting type declared).1 = setting.candidates type declared := by
  unfold Memo.consult
  split
  · next answer hfound =>
      obtain ⟨registered, hregistered, hanswer⟩ := hsound _ _ _ hfound
      obtain rfl : declared = registered := Option.some.inj (hdeclared.symm.trans hregistered)
      exact hanswer
  · rfl

theorem Sound.consult : (memo.consult setting type declared).2.Sound setting := by
  unfold Memo.consult
  split
  · exact hsound
  · intro otherType otherPath answer hfound
    rw [Assoc.find?_put] at hfound
    split at hfound
    · next hkey =>
        obtain ⟨rfl, rfl⟩ := Prod.mk.inj hkey
        exact ⟨declared, hdeclared, (Option.some.inj hfound).symm⟩
    · exact hsound _ _ _ hfound

end Consult

/-- Each look-up is answered as if it were the only one. -/
theorem Sound.consultAll_eq {calls : List (String × HostType)} (hsound : memo.Sound setting)
    (hcalls : ∀ call ∈ calls, setting.registry.get? call.2.path = some call.2) :
    (memo.consultAll setting calls).1 =
      calls.map fun call => setting.candidates call.1 call.2 := by
  induction calls generalizing memo with
  | nil => rfl
  | cons call calls ih =>
      obtain ⟨hcall, hcalls⟩ := List.forall_mem_cons.1 hcalls
      rw [consultAll, List.map_cons, hsound.answer_eq hcall, ih (hsound.consult hcall) hcalls]

end Memo

end SchemaCoverage.Inspection
