import SchemaCoverage.Proofs.Assoc
import SchemaCoverage.Proofs.Host.Registered
import Mathlib.Data.List.Basic
import Mathlib.Data.List.Induction
/-!
Registering in place, one call after another. Whatever the calls answer, the registry holds the types
of those that succeeded, and a call that fails leaves it as it was. Registering a whole list at once
stops at the first call that fails.
-/
namespace SchemaCoverage.Host

/-- The pieces of a text between separators that are taken from the left. Joined by separators they
give the text, none of them has a separator in it, and one that a separator follows does not end in
a colon, with which the separator would begin earlier. -/
structure Pieces (text : List Char) (pieces : List (List Char)) : Prop where
  ne_nil : pieces ≠ []
  joined : [':', ':'].intercalate pieces = text
  whole : ∀ piece ∈ pieces, ¬[':', ':'] <:+: piece
  leftmost : ∀ piece ∈ pieces.dropLast, ':' ∉ piece.getLast?

/-- Nothing stands at an end of the path or between two of its separators. -/
def HasEmptySegment (path : String) : Prop :=
  ∃ pieces, Pieces path.toList pieces ∧ [] ∈ pieces

section Pieces

variable {text piece rest first : List Char} {pieces others : List (List Char)} {c : Char}

theorem segments_of_whole (h : ¬[':', ':'] <:+: piece) : segments piece = [piece] := by
  induction piece with
  | nil => rfl
  | cons c piece ih =>
      rw [List.infix_cons_iff, not_or] at h
      exact segments_cons h.1 (ih h.2)

theorem segments_append (h : ¬[':', ':'] <:+: piece) (hlast : ':' ∉ piece.getLast?)
    (rest : List Char) : segments (piece ++ ':' :: ':' :: rest) = piece :: segments rest := by
  induction piece with
  | nil => rw [List.nil_append, segments]
  | cons c piece ih =>
      rw [List.infix_cons_iff, not_or] at h
      cases piece with
      | nil =>
          have hc : ':' ≠ c := by simpa [eq_comm] using hlast
          have hrest : segments (':' :: ':' :: rest) = [] :: segments rest := by rw [segments]
          exact segments_cons (by simp [hc]) hrest
      | cons d piece =>
          rw [List.getLast?_cons_cons] at hlast
          apply segments_cons _ (ih h.2 hlast)
          simpa using h.1

/-- A text has no pieces but its segments. -/
theorem Pieces.eq_segments (h : Pieces text pieces) : pieces = segments text := by
  obtain ⟨hne, rfl, hwhole, hleftmost⟩ := h
  induction pieces with
  | nil => exact absurd rfl hne
  | cons piece pieces ih =>
      rw [List.forall_mem_cons] at hwhole
      cases pieces with
      | nil => rw [List.intercalate_singleton, segments_of_whole hwhole.1]
      | cons next pieces =>
          rw [List.dropLast_cons_cons, List.forall_mem_cons] at hleftmost
          have hpieces := ih (by simp) hwhole.2 hleftmost.2
          rw [List.intercalate_cons_cons, List.append_assoc]
          exact (congrArg (piece :: ·) hpieces).trans (segments_append hwhole.1 hleftmost.1 _).symm

theorem Pieces.separator (h : Pieces rest pieces) : Pieces (':' :: ':' :: rest) ([] :: pieces) := by
  obtain ⟨hne, hjoined, hwhole, hleftmost⟩ := h
  constructor
  case ne_nil => simp
  case joined =>
    rw [List.intercalate_cons_of_ne_nil hne, hjoined]
    rfl
  case whole =>
    rw [List.forall_mem_cons]
    exact ⟨by simp, hwhole⟩
  case leftmost =>
    rw [List.dropLast_cons_of_ne_nil hne, List.forall_mem_cons]
    exact ⟨by simp, hleftmost⟩

theorem Pieces.first_prefix (h : Pieces text (first :: others)) : first <+: text := by
  rw [← h.joined]
  cases others with
  | nil => simp
  | cons next others =>
      rw [List.intercalate_cons_cons, List.append_assoc]
      exact List.prefix_append _ _

/-- A character with which no separator begins belongs to the first piece. -/
theorem Pieces.cons (h : Pieces rest (first :: others)) (hc : ¬[':', ':'] <+: c :: rest) :
    Pieces (c :: rest) ((c :: first) :: others) := by
  have hfirst := h.first_prefix
  obtain ⟨-, hjoined, hwhole, hleftmost⟩ := h
  rw [List.forall_mem_cons] at hwhole
  constructor
  case ne_nil => simp
  case joined => cases others <;> simp_all
  case whole =>
    rw [List.forall_mem_cons, List.infix_cons_iff, not_or]
    exact ⟨⟨fun hstart => hc (hstart.trans ((List.prefix_cons_inj c).2 hfirst)), hwhole.1⟩, hwhole.2⟩
  case leftmost =>
    cases others with
    | nil => simp
    | cons next others =>
        rw [List.dropLast_cons_cons, List.forall_mem_cons] at hleftmost ⊢
        refine ⟨?_, hleftmost.2⟩
        cases first with
        | nil =>
            -- The separator after an empty first piece would begin one character earlier.
            rintro ⟨⟩
            apply hc
            rw [← hjoined]
            exact ⟨_, rfl⟩
        | cons d first =>
            rw [List.getLast?_cons_cons]
            exact hleftmost.1

theorem pieces_segments (text : List Char) : Pieces text (segments text) := by
  fun_induction segments text with
  | case1 => exact ⟨by simp, rfl, by simp, by simp⟩
  | case2 rest ih => exact ih.separator
  | case3 c rest hc hrest => exact absurd hrest (segments_ne_nil rest)
  | case4 c rest hc first others hrest ih =>
      rw [hrest] at ih
      apply ih.cons
      rintro ⟨after, hsplit⟩
      obtain ⟨rfl, rfl⟩ := List.cons.inj hsplit
      exact hc after rfl rfl

theorem isValidPath_iff_not_hasEmptySegment {path : String} :
    isValidPath path = true ↔ ¬HasEmptySegment path := by
  have hall : isValidPath path = true ↔ [] ∉ segments path.toList := by
    simp [isValidPath, List.forall_mem_ne']
  rw [hall, not_iff_not]
  constructor
  · intro h
    exact ⟨_, pieces_segments _, h⟩
  · rintro ⟨pieces, hpieces, h⟩
    exact hpieces.eq_segments ▸ h

end Pieces

namespace Registry

/-- Registers a type in place. -/
def registerInPlace (type : HostType) : ExceptT RegistryError (StateM Registry) Unit := do
  if !isValidPath type.path then
    throw (.invalidPath type.path)
  let registry ← get
  if registry.contains type.path then
    throw (.duplicateType type.path)
  set (⟨registry.types ++ [type]⟩ : Registry)

/-- Registers types in place one after another, whatever the calls answer. -/
def registerEach (types : List HostType) : StateM Registry (List (Except RegistryError Unit)) :=
  types.mapM fun type => (registerInPlace type).run

/-- What calls from the empty registry on answer. -/
def answers (types : List HostType) : List (Except RegistryError Unit) :=
  ((registerEach types).run empty).1

/-- The registry that calls from the empty one on leave. -/
def afterCalls (types : List HostType) : Registry :=
  ((registerEach types).run empty).2

/-- What a call answers and the registry that it leaves. An empty segment is found before the path
is looked up, and nothing has changed where the call fails. -/
inductive Called (registry : Registry) (type : HostType) :
    Except RegistryError Unit × Registry → Prop
  | invalid : HasEmptySegment type.path →
      Called registry type (.error (.invalidPath type.path), registry)
  | duplicate : ¬HasEmptySegment type.path → type.path ∈ registry.paths →
      Called registry type (.error (.duplicateType type.path), registry)
  | registered : ¬HasEmptySegment type.path → type.path ∉ registry.paths →
      Called registry type (.ok (), ⟨registry.types ++ [type]⟩)

/-- What a registry holds after calls with these answers. -/
structure Holds (registry : Registry) (calls : List (HostType × Except RegistryError Unit)) :
    Prop where
  /-- The types of the calls that succeeded, in the order of the calls. -/
  types_eq : registry.types = (calls.filter (·.2.isOk)).map Prod.fst
  /-- Each under its own path. -/
  get?_iff : ∀ path type, registry.get? path = some type ↔ type ∈ registry.types ∧ type.path = path
  distinct : registry.paths.Nodup
  /-- Separators are nowhere but between segments that have characters. -/
  segmented : ∀ path ∈ registry.paths,
    ∃ pieces, Pieces path.toList pieces ∧ ∀ piece ∈ pieces, piece ≠ []

variable {registry extended : Registry} {type : HostType} {types : List HostType}

theorem run_registerInPlace (type : HostType) (registry : Registry) :
    (registerInPlace type).run.run registry = match registry.register type with
      | .ok extended => (.ok (), extended)
      | .error error => (.error error, registry) := by
  unfold registerInPlace register
  cases isValidPath type.path with
  | false => rfl
  | true =>
      change StateT.run (ExceptT.run
        (if registry.contains type.path then throw (RegistryError.duplicateType type.path)
          else set (⟨registry.types ++ [type]⟩ : Registry))) registry = _
      cases registry.contains type.path <;> rfl

theorem called_registerInPlace (type : HostType) (registry : Registry) :
    Called registry type ((registerInPlace type).run.run registry) := by
  rw [run_registerInPlace, register]
  by_cases hvalid : isValidPath type.path = true
  · have hempty := isValidPath_iff_not_hasEmptySegment.1 hvalid
    by_cases hold : type.path ∈ registry.paths
    · simpa [hvalid, contains_iff.2 hold] using Called.duplicate hempty hold
    · simpa [hvalid, mt contains_iff.1 hold] using Called.registered hempty hold
  · have hempty : HasEmptySegment type.path := by
      rwa [isValidPath_iff_not_hasEmptySegment, not_not] at hvalid
    simpa [hvalid] using Called.invalid hempty

/-- A call has one outcome. -/
theorem Called.unique {outcome outcome' : Except RegistryError Unit × Registry}
    (h : Called registry type outcome) (h' : Called registry type outcome') :
    outcome = outcome' := by
  cases h <;> cases h' <;> grind

theorem register_eq_ok_iff : registry.register type = .ok extended ↔
    ¬HasEmptySegment type.path ∧ type.path ∉ registry.paths ∧
      extended = ⟨registry.types ++ [type]⟩ := by
  rw [← isValidPath_iff_not_hasEmptySegment]
  constructor
  · intro h
    obtain ⟨hvalid, hnew, htypes⟩ := register_eq_ok h
    exact ⟨hvalid, hnew, by rw [← htypes]⟩
  · rintro ⟨hvalid, hnew, rfl⟩
    simp [register, hvalid, mt contains_iff.1 hnew]

theorem run_registerEach_nil (registry : Registry) :
    (registerEach []).run registry = ([], registry) := by
  rw [registerEach, List.mapM_nil]
  rfl

/-- In a row the first call is made first, and the others on what it leaves. -/
theorem run_registerEach_cons {answer : Except RegistryError Unit} {next : Registry}
    (h : (registerInPlace type).run.run registry = (answer, next)) (types : List HostType) :
    (registerEach (type :: types)).run registry =
      (answer :: ((registerEach types).run next).1, ((registerEach types).run next).2) := by
  have hrun : (registerEach (type :: types)).run registry =
      let call := (registerInPlace type).run.run registry
      (call.1 :: ((registerEach types).run call.2).1, ((registerEach types).run call.2).2) := by
    rw [registerEach, List.mapM_cons]
    rfl
  rw [hrun, h]

/-- The last call of a row is made on the registry that those before it leave. -/
theorem called_concat (types : List HostType) (type : HostType) :
    ∃ answer, answers (types ++ [type]) = answers types ++ [answer] ∧
      Called (afterCalls types) type (answer, afterCalls (types ++ [type])) := by
  have hrun : (registerEach (types ++ [type])).run empty =
      let call := (registerInPlace type).run.run (afterCalls types)
      (answers types ++ [call.1], call.2) := by
    rw [registerEach, List.mapM_append, List.mapM_cons, List.mapM_nil]
    rfl
  refine ⟨_, congrArg Prod.fst hrun, ?_⟩
  have hlast : afterCalls (types ++ [type]) = _ := congrArg Prod.snd hrun
  rw [hlast]
  exact called_registerInPlace type _

theorem length_answers (types : List HostType) : (answers types).length = types.length := by
  induction types using List.reverseRecOn with
  | nil => rfl
  | append_singleton types type ih =>
      obtain ⟨answer, hanswers, -⟩ := called_concat types type
      rw [hanswers, List.length_append, List.length_append, ih]
      rfl

theorem WellFormed.called {outcome : Except RegistryError Unit × Registry}
    (h : registry.WellFormed) (hcalled : Called registry type outcome) : outcome.2.WellFormed := by
  cases hcalled with
  | invalid hempty => exact h
  | duplicate hempty hold => exact h
  | registered hempty hnew => exact h.register (register_eq_ok_iff.2 ⟨hempty, hnew, rfl⟩)

theorem wellFormed_afterCalls (types : List HostType) : (afterCalls types).WellFormed := by
  induction types using List.reverseRecOn with
  | nil => exact wellFormed_empty
  | append_singleton types type ih =>
      obtain ⟨answer, -, hcalled⟩ := called_concat types type
      exact ih.called hcalled

theorem types_afterCalls (types : List HostType) :
    (afterCalls types).types =
      ((types.zip (answers types)).filter (·.2.isOk)).map Prod.fst := by
  induction types using List.reverseRecOn with
  | nil => rfl
  | append_singleton types type ih =>
      obtain ⟨answer, hanswers, hcalled⟩ := called_concat types type
      rw [hanswers, List.zip_append (length_answers types).symm, List.filter_append,
        List.map_append, ← ih]
      generalize afterCalls (types ++ [type]) = next at hcalled
      cases hcalled <;> simp [Except.isOk, Except.toBool]

theorem holds_afterCalls (types : List HostType) :
    (afterCalls types).Holds (types.zip (answers types)) := by
  have hwell := wellFormed_afterCalls types
  constructor
  case types_eq => exact types_afterCalls types
  case get?_iff => exact fun _ _ => find?_eq_some_iff_of_nodup hwell.distinct
  case distinct => exact hwell.distinct
  case segmented =>
    intro path hpath
    refine ⟨_, pieces_segments _, fun piece hpiece => ?_⟩
    rintro rfl
    exact isValidPath_iff_not_hasEmptySegment.1 (hwell.valid path hpath)
      ⟨_, pieces_segments _, hpiece⟩

/-- Registering a list at once succeeds just if all calls do, with the registry that they leave. -/
theorem foldlM_register_eq_ok_iff : types.foldlM register registry = .ok extended ↔
    (∀ answer ∈ ((registerEach types).run registry).1, answer.isOk = true) ∧
      extended = ((registerEach types).run registry).2 := by
  induction types generalizing registry with
  | nil =>
      rw [List.foldlM_nil, run_registerEach_nil, and_iff_right (List.forall_mem_nil _)]
      exact ⟨fun h => (Except.ok.inj h).symm, fun h => congrArg Except.ok h.symm⟩
  | cons type types ih =>
      have hcall := run_registerInPlace type registry
      rw [List.foldlM_cons, bind_eq_ok_iff]
      cases hregister : registry.register type with
      | ok next =>
          rw [hregister] at hcall
          rw [run_registerEach_cons hcall, List.forall_mem_cons]
          simpa [Except.isOk, Except.toBool] using ih
      | error error =>
          rw [hregister] at hcall
          simp [run_registerEach_cons hcall, Except.isOk, Except.toBool]

/-- Registering a list at once fails as the first call does that fails. -/
theorem foldlM_register_eq_error_iff {error : RegistryError} :
    types.foldlM register registry = .error error ↔
      ((registerEach types).run registry).1.find? (!·.isOk) = some (.error error) := by
  induction types generalizing registry with
  | nil => simp [run_registerEach_nil, pure, Except.pure]
  | cons type types ih =>
      have hcall := run_registerInPlace type registry
      rw [List.foldlM_cons, bind_eq_error_iff]
      cases hregister : registry.register type with
      | ok next =>
          rw [hregister] at hcall
          rw [run_registerEach_cons hcall]
          simpa [Except.isOk, Except.toBool] using ih
      | error error =>
          rw [hregister] at hcall
          simp [run_registerEach_cons hcall, Except.isOk, Except.toBool]

theorem exists_foldlM_register_iff (hdistinct : registry.paths.Nodup) :
    (∃ extended, types.foldlM register registry = .ok extended) ↔
      (∀ type ∈ types, ¬HasEmptySegment type.path) ∧
        (registry.paths ++ types.map (·.path)).Nodup := by
  induction types generalizing registry with
  | nil => simp [hdistinct, pure, Except.pure]
  | cons type types ih =>
      have hpaths : registry.paths ++ (type :: types).map (·.path) =
          Registry.paths ⟨registry.types ++ [type]⟩ ++ types.map (·.path) := by
        simp [paths]
      rw [hpaths, List.forall_mem_cons, and_assoc]
      simp only [List.foldlM_cons, bind_eq_ok_iff, register_eq_ok_iff]
      have hnodup : type.path ∉ registry.paths →
          (Registry.paths ⟨registry.types ++ [type]⟩).Nodup := by
        intro hnew
        rw [paths, List.map_append]
        exact List.nodup_append_comm.1 (List.nodup_cons.2 ⟨hnew, hdistinct⟩)
      constructor
      · rintro ⟨extended, _, ⟨hempty, hnew, rfl⟩, hrest⟩
        exact ⟨hempty, (ih (hnodup hnew)).1 ⟨extended, hrest⟩⟩
      · rintro ⟨hempty, hrest⟩
        have hnew : type.path ∉ registry.paths := by
          have hall := hrest.2
          rw [← hpaths] at hall
          exact fun hold => (List.disjoint_of_nodup_append hall) hold (by simp)
        obtain ⟨extended, hextended⟩ := (ih (hnodup hnew)).2 hrest
        exact ⟨extended, _, ⟨hempty, hnew, rfl⟩, hextended⟩

/-- Whatever the calls from the empty registry on answer, it holds the types of those that succeeded.
One more call does what the path of its type demands, which is also what registering says of it. A
list is registered at once just if all its paths are different and have no empty segment, which gives
the registry that the single calls leave, and otherwise the error is that of the first call that
fails. -/
theorem registry_afterCalls (types : List HostType) :
    (afterCalls types).Holds (types.zip (answers types)) ∧
    (∀ type outcome, (registerInPlace type).run.run (afterCalls types) = outcome ↔
      Called (afterCalls types) type outcome) ∧
    (∀ type, (registerInPlace type).run.run (afterCalls types) =
      match (afterCalls types).register type with
      | .ok extended => (.ok (), extended)
      | .error error => (.error error, afterCalls types)) ∧
    (∀ registry, ofTypes types = .ok registry ↔
      ((∀ type ∈ types, ¬HasEmptySegment type.path) ∧ (types.map (·.path)).Nodup) ∧
        registry = afterCalls types) ∧
    ∀ error, ofTypes types = .error error ↔
      (answers types).find? (!·.isOk) = some (.error error) := by
  refine ⟨holds_afterCalls types, ?_, fun type => run_registerInPlace type _, ?_,
    fun error => foldlM_register_eq_error_iff⟩
  · intro type outcome
    have hcalled := called_registerInPlace type (afterCalls types)
    constructor
    · rintro rfl
      exact hcalled
    · exact hcalled.unique
  · intro registry
    have hok {registry : Registry} : ofTypes types = .ok registry ↔
        (∀ answer ∈ answers types, answer.isOk = true) ∧ registry = afterCalls types :=
      foldlM_register_eq_ok_iff
    have hexists : (∃ registry, ofTypes types = .ok registry) ↔
        (∀ type ∈ types, ¬HasEmptySegment type.path) ∧ (types.map (·.path)).Nodup :=
      exists_foldlM_register_iff wellFormed_empty.distinct
    constructor
    · intro h
      exact ⟨hexists.1 ⟨registry, h⟩, (hok.1 h).2⟩
    · rintro ⟨hpaths, rfl⟩
      obtain ⟨registry, h⟩ := hexists.2 hpaths
      exact (hok.1 h).2 ▸ h

end Registry

end SchemaCoverage.Host
