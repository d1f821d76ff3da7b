import Liki.Research.Contamination

/-! The lineage of research objects. An object is registered with edges to objects that are there, and
nothing leads to it before; so no object is among its own ancestors, and the ancestors that a query finds
are settled by the registration, whatever is registered later. -/
namespace Liki.Research
open Checks CallSystem AppendOnly Reachability List

variable {state after : ResearchState} {actor : Identity} {object : ResearchObject} {objectId node : String}

/-- Only a registration changes the objects and their edges. -/
theorem handle_objects (ok : handle state (actor, call) = .ok (answer, after)) :
    (after.objects = state.objects ∧ after.edges = state.edges) ∨ ∃ object, Registers state actor object after := by
  cases call with
  | register object =>
    simp only [handle, bind_ok, pair_ok] at ok
    obtain ⟨⟨_, _⟩, done, -, rfl⟩ := ok
    exact .inr ⟨object, register_ok done⟩
  | trial =>
    simp only [handle, bind_ok, pair_ok] at ok
    obtain ⟨⟨_, _⟩, done, -, rfl⟩ := ok
    obtain ⟨_, -, objects, edges, -⟩ := recordTrial_ok done
    exact .inl ⟨objects, edges⟩
  | sealedResult =>
    simp only [handle, bind_ok, pair_ok] at ok
    obtain ⟨⟨⟨_, _⟩, _⟩, done, -, rfl⟩ := ok
    rcases sealedResult_ok done with ⟨rfl, -⟩ | ⟨_, _, exposes, -⟩
    · exact .inl ⟨rfl, rfl⟩
    · exact .inl ⟨exposes.objects, exposes.edges⟩
  | remember =>
    simp only [handle, bind_ok, pair_ok] at ok
    obtain ⟨⟨_, _⟩, done, -, rfl⟩ := ok
    obtain ⟨_, -, same⟩ := remember_ok done
    exact .inl ⟨by rw [same], by rw [same]⟩
  | putArtifact | holdout | admitEvidence =>
    simp only [handle, bind_ok, pair_ok] at ok
    obtain ⟨-, -, -, rfl⟩ := ok
    exact .inl ⟨rfl, rfl⟩
  | campaign | retire =>
    cases ok
    exact .inl ⟨rfl, rfl⟩

theorem Registers.acyclic (registered : Registered state) (registers : Registers state actor object after)
    (acyclic : Acyclic state.parentage) : Acyclic after.parentage := by
  rcases registers.cases registered with ⟨-, edges, -⟩ | ⟨absent, -⟩
  · rwa [ResearchState.parentage, edges]
  · have grows : Grows (fun edge => edge.childId = object.objectId ∧ state.Has edge.parentId) state.edges
        after.edges := by
      rw [registers.edges]
      refine grows_insertAll fun edge listed => ?_
      obtain ⟨parent, member, rfl⟩ := mem_map.mp listed
      exact ⟨rfl, registers.parents parent member⟩
    obtain ⟨added, whole, new⟩ := grows
    have targets : added.map (fun edge => (edge.childId, edge.parentId)) =
        (added.map LineageEdge.parentId).map fun target => (object.objectId, target) := by
      rw [map_map]
      exact map_congr_left fun edge member => by rw [(new edge member).1]; rfl
    rw [ResearchState.parentage, whole, map_append, targets]
    refine acyclic.append_fresh (fun edge member same => ?_) fun target member same => ?_
    · obtain ⟨row, held, rfl⟩ := mem_map.mp member
      exact absent (same ▸ registered.edges row held)
    · obtain ⟨edge, held, rfl⟩ := mem_map.mp member
      exact absent (same ▸ (new edge held).2)

theorem history_acyclic (calls : List (Identity × ResearchCall)) : Acyclic (history calls).parentage := by
  induction calls using reverseRecOn with
  | nil => exact fun _ member => absurd member not_mem_nil
  | append_singleton calls call acyclic =>
    rw [history, run_append, run_cons, run_nil]
    refine next_of_answered (fun after : ResearchState => Acyclic after.parentage) acyclic fun _ _ ok => ?_
    rcases handle_objects ok with ⟨-, edges⟩ | ⟨_, registers⟩
    · rwa [ResearchState.parentage, edges]
    · exact registers.acyclic (history_sound calls).registered acyclic

/-- In every run no object is an ancestor of its parents, and from its registration on an object has the same
ancestors, whatever calls follow. -/
theorem lineage_settled (earlier later : List (Identity × ResearchCall)) :
    Acyclic (history earlier).parentage ∧ ∀ objectId, (history earlier).Has objectId → ∀ node,
      node ∈ ancestry (history (earlier ++ later)) objectId ↔ node ∈ ancestry (history earlier) objectId := by
  refine ⟨history_acyclic earlier, fun objectId known node => ?_⟩
  have settled : (history (earlier ++ later)).Has objectId ∧
      (Reaches (history (earlier ++ later)).parentage objectId node ↔
        Reaches (history earlier).parentage objectId node) := by
    induction later using reverseRecOn with
    | nil => exact (append_nil earlier).symm ▸ ⟨known, .rfl⟩
    | append_singleton later call ih =>
      rw [← append_assoc, history, run_append, run_cons, run_nil]
      refine next_of_answered (fun after : ResearchState => after.Has objectId ∧
        (Reaches after.parentage objectId node ↔ _)) ih fun _ after ok => ?_
      rcases handle_objects ok with ⟨objects, edges⟩ | ⟨_, registers⟩
      · rw [ResearchState.Has, ResearchState.parentage, objects, edges]
        exact ih
      · exact ⟨registers.has_of_has ih.1,
          (registers.reaches_iff (history_sound _).registered ih.1).trans ih.2⟩
  simpa [ancestry, mem_closure] using settled.2

end Liki.Research
