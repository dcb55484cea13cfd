import SchemaCoverage.Host.Registry
import SchemaCoverage.Proofs.Success
import Mathlib.Data.List.Nodup
/-!
What every registry has that was made by registration: its paths are valid, and no path is there
twice.
-/
namespace SchemaCoverage.Host.Registry

variable {registry extended : Registry} {type : HostType}

/-- What registration keeps of the registered paths. -/
structure WellFormed (registry : Registry) : Prop where
  /-- Only valid paths are registered. -/
  valid : ∀ path ∈ registry.paths, isValidPath path = true
  /-- No path is registered twice. -/
  distinct : registry.paths.Nodup

theorem wellFormed_empty : empty.WellFormed where
  valid := List.forall_mem_nil _
  distinct := List.nodup_nil

/-- A new and valid path is added at the end. -/
theorem WellFormed.register (hregistry : registry.WellFormed)
    (h : registry.register type = .ok extended) : extended.WellFormed := by
  obtain ⟨hvalid, hnew, htypes⟩ := register_eq_ok h
  have hpaths : extended.paths = registry.paths.concat type.path := by
    rw [paths, htypes, List.map_append, List.map_singleton, ← List.concat_eq_append]
    rfl
  constructor
  · rw [hpaths, List.concat_eq_append, List.forall_mem_append, List.forall_mem_singleton]
    exact ⟨hregistry.valid, hvalid⟩
  · rw [hpaths]
    exact hregistry.distinct.concat hnew

theorem WellFormed.of_ofTypes {types : List HostType} (h : ofTypes types = .ok registry) :
    registry.WellFormed :=
  foldlM_invariant (fun _ _ _ hregistry hregister => hregistry.register hregister)
    wellFormed_empty h

end SchemaCoverage.Host.Registry
