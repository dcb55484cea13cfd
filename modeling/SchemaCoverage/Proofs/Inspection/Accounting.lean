import SchemaCoverage.Proofs.Inspection.Skipped
/-!
What an inspection accounts for. The skipped entries of its report are determined by the fields that
the walk follows, and an object type that such a field may return is checked or skipped; only skips
of root types may be withdrawn without any check.
-/
namespace SchemaCoverage.Inspection

open Schema Host Candidates

/-- The skipped entries of the report are those that the walk raises and does not withdraw. -/
structure Setting.Accounts (setting : Setting) (report : Report) : Prop where
  /-- There is one entry at most for a type and a host type. -/
  distinct : (report.skipped.map (·.key)).Nodup
  /-- There is an entry for each raised skip that is not withdrawn, and no other. -/
  kept : ∀ type host, (type, host) ∈ report.skipped.map (·.key) ↔
    setting.Raised type host ∧ ¬setting.Withdrawn type host
  /-- An entry names a followed field that raises it, with the reason for it. -/
  raised : ∀ entry ∈ report.skipped, ∃ field serving, setting.Followed field serving ∧
    setting.RaisesAt field serving entry.type entry.host entry.reason ∧
    entry.via = some field.coordinate
  /-- An entry is the first of its type and host type that is recorded. -/
  first : ∀ entry ∈ report.skipped, ∃ before after,
    setting.events = before ++ .skip entry :: after ∧
      ∀ earlier, .skip earlier ∈ before → earlier.key ≠ entry.key
  /-- An object type is resolved just if a skip of it without a host type would be withdrawn. -/
  resolved : ∀ type, setting.graph.type? type.name = some type → type.kind = .object →
    (report.stateOf type.name = .resolved ↔ setting.Withdrawn type.name none)

/-- The document `type Query { self: Query }`. -/
def selfDocuments : List (Option String × Sdl.Document) :=
  [(none, [.type ⟨"Query", .object [] [⟨"self", [], .named "Query" false, ⟨1, 14⟩⟩], ⟨1, 1⟩⟩])]

/-- The field of the document. -/
def selfField : Field :=
  fieldOf none "Query" ⟨"self", [], .named "Query" false, ⟨1, 14⟩⟩

/-- The root type of the document, which its own field returns. -/
def selfType : GraphType :=
  ⟨"Query", .object [] [selfField], .source none ⟨1, 1⟩⟩

def selfGraph : Graph :=
  ⟨builtinTypes ++ [selfType], "Query", none, none⟩

/-- A method for the field whose return type tells nothing of its shape. -/
def selfControllers : Controller.Registry :=
  ⟨[(.operation .query "self", ⟨"C", "self", .unnamed, []⟩)]⟩

/-- The inspection of the document where no host types are registered. -/
def selfSetting : Setting :=
  Options.standard.inspector.setting selfGraph selfControllers .empty

theorem selfGraph_built : Graph.ofDocuments selfDocuments = .ok selfGraph := by
  decide +kernel

theorem selfType_found : selfGraph.type? "Query" = some selfType := by
  decide +kernel

theorem selfType_possible : selfSetting.Possible selfType selfType :=
  (Setting.possible_of_object rfl selfType_found).2 rfl

theorem selfField_followed : selfSetting.Followed selfField .unnamed := by
  have hroot : (Operation.query, selfType) ∈ selfSetting.graph.roots := by decide +kernel
  exact .root hroot List.mem_cons_self (by decide +kernel)

theorem selfType_not_checked : ¬∃ host, selfSetting.CheckedAgainst "Query" host := by
  rintro ⟨-, ⟨type, host⟩, hpair, -, -⟩
  cases (Setting.mem_checkedPairs.1 hpair).known.2

theorem selfSetting_skippedFor : selfSetting.report.skippedFor "Query" = [] := by
  have hwithin : (selfSetting.eventsWithin 20).map (fun events =>
      (Tally.ofEvents events).report.skippedFor "Query") = some [] := by
    decide +kernel
  exact Setting.view_events_eq hwithin

/-- The definitions `type Query { pet: Pet cat: Cat }`, `union Pet = Cat | Dog`,
`type Cat { name: String }` and `type Dog { name: String }`. -/
def pets : List Sdl.TypeDef :=
  [⟨"Query", .object [] [⟨"pet", [], .named "Pet" false, ⟨1, 14⟩⟩,
      ⟨"cat", [], .named "Cat" false, ⟨1, 23⟩⟩], ⟨1, 1⟩⟩,
    ⟨"Pet", .union ["Cat", "Dog"], ⟨2, 1⟩⟩,
    ⟨"Cat", .object [] [⟨"name", [], .named "String" false, ⟨3, 12⟩⟩], ⟨3, 1⟩⟩,
    ⟨"Dog", .object [] [⟨"name", [], .named "String" false, ⟨4, 12⟩⟩], ⟨4, 1⟩⟩]

def petDocuments : List (Option String × Sdl.Document) :=
  [(none, pets.map .type)]

def petGraph : Graph :=
  ⟨builtinTypes ++ pets.map (GraphType.ofDef none), "Query", none, none⟩

/-- An abstract host type that permits cats but no dogs. -/
def petHosts : Registry :=
  ⟨[⟨"app::Pet", .abstract, [], [], ["app::Cat"]⟩,
    ⟨"app::Cat", .concrete, [("name", .unnamed)], [], []⟩]⟩

/-- Any pet that is returned is a cat, and what is returned for a cat tells nothing of its shape. -/
def catControllers : Controller.Registry :=
  ⟨[(.operation .query "pet", ⟨"Cats", "pet", .named "app::Cat" [], []⟩),
    (.operation .query "cat", ⟨"Cats", "cat", .unnamed, []⟩)]⟩

/-- The inspection of pets that are cats. -/
def catSetting : Setting :=
  Options.standard.inspector.setting petGraph catControllers petHosts

/-- The field for any pet. -/
def petField : Field :=
  fieldOf none "Query" ⟨"pet", [], .named "Pet" false, ⟨1, 14⟩⟩

def petType : GraphType :=
  .ofDef none ⟨"Pet", .union ["Cat", "Dog"], ⟨2, 1⟩⟩

def dogType : GraphType :=
  .ofDef none
    ⟨"Dog", .object [] [⟨"name", [], .named "String" false, ⟨4, 12⟩⟩], ⟨4, 1⟩⟩

theorem petGraph_built : Graph.ofDocuments petDocuments = .ok petGraph := by
  decide +kernel

theorem petType_found : petGraph.type? petField.type.innermost = some petType := by
  decide +kernel

theorem petField_followed : catSetting.Followed petField (.named "app::Cat" []) := by
  have hroot : catSetting.graph.roots =
      [(.query, .ofDef none ⟨"Query", .object [] [⟨"pet", [], .named "Pet" false, ⟨1, 14⟩⟩,
        ⟨"cat", [], .named "Cat" false, ⟨1, 23⟩⟩], ⟨1, 1⟩⟩)] := by
    decide +kernel
  exact .root (hroot ▸ List.mem_singleton_self _) List.mem_cons_self (by decide +kernel)

theorem dogType_possible : catSetting.Possible petType dogType :=
  ⟨by decide +kernel, by decide +kernel, rfl⟩

theorem dogType_not_root : ¬catSetting.IsRoot dogType.name := by
  rintro ⟨operation, root, hroot, hname⟩
  have hnames : catSetting.graph.roots.map (·.2.name) = ["Query"] := by decide +kernel
  have hmem : root.name ∈ catSetting.graph.roots.map (·.2.name) :=
    List.mem_map.2 ⟨_, hroot, rfl⟩
  rw [hnames, hname] at hmem
  exact absurd hmem (by decide)

/-- A cat and a dog are skipped on the way, and the dog is left in the report. -/
theorem catSetting_skips :
    .skip ⟨"Cat", none, some ⟨"Query", "cat"⟩, .unnamedHostType⟩ ∈ catSetting.events ∧
      catSetting.report.skipped =
        [⟨"Dog", none, some ⟨"Query", "pet"⟩, .notActiveImplementation⟩] := by
  have hwithin : (catSetting.eventsWithin 20).map (fun events =>
      (decide (.skip ⟨"Cat", none, some ⟨"Query", "cat"⟩, .unnamedHostType⟩ ∈ events),
        (Tally.ofEvents events).report.skipped)) =
      some (true, [⟨"Dog", none, some ⟨"Query", "pet"⟩, .notActiveImplementation⟩]) := by
    decide +kernel
  have hseen := Setting.view_events_eq hwithin
  obtain ⟨hcat, hdog⟩ := Prod.mk.inj hseen
  exact ⟨of_decide_eq_true hcat, hdog⟩

namespace Inspector

variable {inspector : Inspector} {controllers : Controller.Registry} {hosts : Registry}
  {graph : Graph} {outcome : Outcome}

theorem report_of_inspect (h : inspector.inspect graph controllers hosts = .ok outcome) :
    outcome.report = (inspector.setting graph controllers hosts).report := by
  unfold inspect at h
  split at h
  · cases h
  · cases h
    rfl

/-- The report of an inspection accounts for all that the walk raises. -/
theorem accounts_of_inspect {documents : List (Option String × Sdl.Document)}
    (hbuilt : Graph.ofDocuments documents = .ok graph)
    (hinspected : inspector.inspect graph controllers hosts = .ok outcome) :
    (inspector.setting graph controllers hosts).Accounts outcome.report := by
  have hobjects : (inspector.setting graph controllers hosts).graph.PossibleObjects :=
    possibleObjects_of_ofDocuments hbuilt
  rw [report_of_inspect hinspected]
  exact
    { distinct := Setting.keys_skipped_nodup
      kept := fun _ _ => Setting.key_mem_skipped_iff hobjects
      raised := fun _ hmem => (Setting.skip_mem_events hobjects).1
        (Tally.mem_skips_ofEvents (Setting.mem_skipped_iff.1 hmem).1)
      first := fun _ hmem => Tally.exists_first_of_mem_skips (Setting.mem_skipped_iff.1 hmem).1
      resolved := fun _ hfind hkind => Setting.stateOf_eq_resolved_iff hfind hkind }

/-- Cats and dogs are raised without a host type. The entry for cats is withdrawn since they are checked
by way of another field, the one for dogs is left. -/
theorem pets_accounted :
    ∃ outcome, Graph.ofDocuments petDocuments = .ok petGraph ∧
      Options.standard.inspector.inspect petGraph catControllers petHosts = .ok outcome ∧
      catSetting.Raised "Cat" none ∧ catSetting.Withdrawn "Cat" none ∧
      outcome.report.skipped.map (·.key) = [("Dog", none)] ∧
      catSetting.Accounts outcome.report := by
  obtain ⟨outcome, hinspected⟩ : ∃ outcome,
      Options.standard.inspector.inspect petGraph catControllers petHosts = .ok outcome := ⟨_, rfl⟩
  have haccounts : catSetting.Accounts outcome.report :=
    accounts_of_inspect petGraph_built hinspected
  obtain ⟨hcat, hdog⟩ := catSetting_skips
  have hraised : catSetting.Raised "Cat" none :=
    Setting.skip_mem_events_raised (possibleObjects_of_ofDocuments petGraph_built) hcat
  have hskipped : outcome.report.skipped.map (·.key) = [("Dog", none)] := by
    rw [report_of_inspect hinspected]
    exact congrArg (List.map SkippedType.key) hdog
  have hwithdrawn : catSetting.Withdrawn "Cat" none := by
    by_contra hstays
    have hkept := (haccounts.kept "Cat" none).2 ⟨hraised, hstays⟩
    simp [hskipped] at hkept
  exact ⟨outcome, petGraph_built, hinspected, hraised, hwithdrawn, hskipped, haccounts⟩

/-- An object type that a followed field may return is checked against some host type, or entries
for it are left in the report. None are left just if it is a root type and all skips that are raised
for it are without a host type. -/
theorem checked_or_skipped {documents : List (Option String × Sdl.Document)}
    (hbuilt : Graph.ofDocuments documents = .ok graph)
    (hinspected : inspector.inspect graph controllers hosts = .ok outcome)
    {field : Field} {serving : TypeRef} {returned member : GraphType}
    (hfollowed : (inspector.setting graph controllers hosts).Followed field serving)
    (hreturned : graph.type? field.type.innermost = some returned)
    (hpossible : (inspector.setting graph controllers hosts).Possible returned member) :
    (∃ host, (inspector.setting graph controllers hosts).CheckedAgainst member.name host) ∨
      (outcome.report.skippedFor member.name = [] ↔
        (inspector.setting graph controllers hosts).IsRoot member.name ∧
          ∀ host, (inspector.setting graph controllers hosts).Raised member.name host →
            host = none) := by
  have hobjects : (inspector.setting graph controllers hosts).graph.PossibleObjects :=
    possibleObjects_of_ofDocuments hbuilt
  rcases hfollowed.checked_or_raised hreturned hpossible with hchecked | ⟨host, hraised⟩
  · exact Or.inl hchecked
  · by_cases hchecked :
        ∃ host, (inspector.setting graph controllers hosts).CheckedAgainst member.name host
    · exact Or.inl hchecked
    · right
      rw [report_of_inspect hinspected, Setting.skippedFor_eq_nil_iff hobjects]
      constructor
      · intro hall
        have hnone : ∀ host,
            (inspector.setting graph controllers hosts).Raised member.name host →
              host = none := by
          intro host hraised
          -- a skip that names a host type is withdrawn by a check against it alone
          cases host with
          | none => rfl
          | some path => exact absurd ⟨path, hall _ hraised⟩ hchecked
        obtain rfl := hnone host hraised
        rcases hall none hraised with hroot | hchecked'
        · exact ⟨hroot, hnone⟩
        · exact absurd hchecked' hchecked
      · rintro ⟨hroot, hnone⟩ host hraised
        obtain rfl := hnone host hraised
        exact Or.inl hroot

/-- Dogs are no root type and are not checked, so that an entry for them is left. -/
theorem dogs_skipped :
    ∃ outcome, Graph.ofDocuments petDocuments = .ok petGraph ∧
      Options.standard.inspector.inspect petGraph catControllers petHosts = .ok outcome ∧
      catSetting.Followed petField (.named "app::Cat" []) ∧
      petGraph.type? petField.type.innermost = some petType ∧
      catSetting.Possible petType dogType ∧ ¬catSetting.IsRoot dogType.name ∧
      outcome.report.skippedFor dogType.name ≠ [] ∧
      ((∃ host, catSetting.CheckedAgainst dogType.name host) ∨
        (outcome.report.skippedFor dogType.name = [] ↔
          catSetting.IsRoot dogType.name ∧
            ∀ host, catSetting.Raised dogType.name host → host = none)) := by
  have hskipped : catSetting.report.skippedFor "Dog" ≠ [] := by
    rw [Report.skippedFor, catSetting_skips.2]
    decide
  exact ⟨_, petGraph_built, rfl, petField_followed, petType_found, dogType_possible,
    dogType_not_root, hskipped,
    checked_or_skipped petGraph_built rfl petField_followed petType_found dogType_possible⟩

/-- A root type may be returned without any check and without an entry that is left. -/
theorem selfType_neither_checked_nor_skipped :
    ∃ outcome, Graph.ofDocuments selfDocuments = .ok selfGraph ∧
      Options.standard.inspector.inspect selfGraph selfControllers .empty = .ok outcome ∧
      selfSetting.Followed selfField .unnamed ∧
      selfGraph.type? selfField.type.innermost = some selfType ∧
      selfSetting.Possible selfType selfType ∧
      (¬∃ host, selfSetting.CheckedAgainst selfType.name host) ∧
      outcome.report.skippedFor selfType.name = [] :=
  ⟨_, selfGraph_built, rfl, selfField_followed, selfType_found, selfType_possible,
    selfType_not_checked, selfSetting_skippedFor⟩

end Inspector

end SchemaCoverage.Inspection
