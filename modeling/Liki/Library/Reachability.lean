import Mathlib.Data.List.Basic
import Mathlib.Logic.Function.Iterate
import Mathlib.Logic.Relation
import Mathlib.Tactic.Common

/-! What can be reached along a finite list of edges. The nodes are saturated round by round,
as a recursive query does; every round that adds a node leaves fewer edges with an unknown
end, so as many rounds as there are edges are enough. -/
namespace Reachability
open List Function

variable {Node : Type*}

/-- A path along the edges. -/
def Reaches (edges : List (Node × Node)) : Node → Node → Prop :=
  Relation.ReflTransGen fun source target => (source, target) ∈ edges

def Closed (edges : List (Node × Node)) (nodes : List Node) : Prop :=
  ∀ edge ∈ edges, edge.1 ∈ nodes → edge.2 ∈ nodes

section Saturation

variable [DecidableEq Node] {edges : List (Node × Node)} {nodes roots : List Node} {node target : Node}

def leaving (edges : List (Node × Node)) (nodes : List Node) : List (Node × Node) :=
  edges.filter fun edge => edge.1 ∈ nodes ∧ edge.2 ∉ nodes

/-- One round: the ends of all edges that lead out of the nodes join them. -/
def grow (edges : List (Node × Node)) (nodes : List Node) : List Node :=
  nodes ++ (leaving edges nodes).map Prod.snd

/-- The nodes that can be reached from the roots. -/
def closure (edges : List (Node × Node)) (roots : List Node) : List Node :=
  (grow edges)^[edges.length] roots

def unknown (edges : List (Node × Node)) (nodes : List Node) : List (Node × Node) :=
  edges.filter fun edge => edge.2 ∉ nodes

theorem closed_of_leaving (none : leaving edges nodes = []) : Closed edges nodes := by
  intro edge member inside
  by_contra outside
  have left : edge ∈ leaving edges nodes := mem_filter.mpr ⟨member, by simp [inside, outside]⟩
  rw [none] at left
  cases left

theorem grow_of_leaving (none : leaving edges nodes = []) : grow edges nodes = nodes := by
  rw [grow, none, map_nil, append_nil]

theorem mem_grow_of_mem (member : node ∈ nodes) : node ∈ grow edges nodes :=
  mem_append_left _ member

theorem unknown_grow {edge : Node × Node} (left : edge ∈ leaving edges nodes) :
    (unknown edges (grow edges nodes)).length < (unknown edges nodes).length := by
  obtain ⟨member, out⟩ := mem_filter.mp left
  have shrinks : unknown edges (grow edges nodes) =
      (unknown edges nodes).filter fun edge => edge.2 ∉ grow edges nodes := by
    rw [unknown, unknown, filter_filter]
    refine filter_congr fun other _ => ?_
    by_cases known : other.2 ∈ nodes
    · simp [known, mem_grow_of_mem known]
    · simp [known]
  rw [shrinks]
  refine length_filter_lt_length_iff_exists.mpr ⟨edge, ?_, ?_⟩
  · exact mem_filter.mpr ⟨member, by simpa using (of_decide_eq_true out).2⟩
  · have reached : edge.2 ∈ grow edges nodes :=
      mem_append_right _ (mem_map_of_mem left)
    simpa using reached

theorem closed_iterate {rounds : ℕ} (enough : (unknown edges nodes).length ≤ rounds) :
    Closed edges ((grow edges)^[rounds] nodes) := by
  induction rounds generalizing nodes with
  | zero =>
    intro edge member _
    by_contra outside
    have left : edge ∈ unknown edges nodes := mem_filter.mpr ⟨member, by simpa using outside⟩
    have some : 0 < (unknown edges nodes).length := length_pos_of_mem left
    omega
  | succ _ ih =>
    cases out : leaving edges nodes with
    | nil =>
      rw [iterate_fixed (grow_of_leaving out)]
      exact closed_of_leaving out
    | cons edge =>
      rw [iterate_succ_apply]
      have fewer := unknown_grow (out ▸ mem_cons_self : edge ∈ leaving edges nodes)
      exact ih (by omega)

theorem closure_closed : Closed edges (closure edges roots) :=
  closed_iterate (length_filter_le _ _)

theorem mem_iterate_of_mem {rounds : ℕ} (member : node ∈ nodes) : node ∈ (grow edges)^[rounds] nodes := by
  induction rounds generalizing nodes with
  | zero => exact member
  | succ _ ih =>
    rw [iterate_succ_apply]
    exact ih (mem_grow_of_mem member)

theorem reached_of_mem {rounds : ℕ} (member : node ∈ (grow edges)^[rounds] roots) :
    ∃ root ∈ roots, Reaches edges root node := by
  induction rounds generalizing node with
  | zero => exact ⟨node, member, .refl⟩
  | succ _ ih =>
    rw [iterate_succ_apply', grow, mem_append] at member
    rcases member with older | newer
    · exact ih older
    · obtain ⟨_, left, rfl⟩ := mem_map.mp newer
      obtain ⟨held, out⟩ := mem_filter.mp left
      obtain ⟨root, start, path⟩ := ih (of_decide_eq_true out).1
      exact ⟨root, start, path.tail held⟩

/-- Saturation finds exactly what can be reached. -/
theorem mem_closure : node ∈ closure edges roots ↔ ∃ root ∈ roots, Reaches edges root node := by
  refine ⟨reached_of_mem, ?_⟩
  rintro ⟨_, start, path⟩
  induction path with
  | refl => exact mem_iterate_of_mem start
  | tail _ edge ih => exact closure_closed _ edge ih

end Saturation

variable {edges more : List (Node × Node)} {node target : Node}

theorem Reaches.mono (path : Reaches edges node target) (included : edges ⊆ more) :
    Reaches more node target := by
  induction path with
  | refl => exact .refl
  | tail _ edge ih => exact ih.tail (included edge)

theorem Reaches.cases_end (path : Reaches edges node target) :
    target = node ∨ ∃ edge ∈ edges, edge.2 = target := by
  cases path with
  | refl => exact .inl rfl
  | tail _ edge => exact .inr ⟨_, edge, rfl⟩

/-- A path with one more edge goes along it or not. -/
theorem reaches_append_one {edge : Node × Node} : Reaches (edges ++ [edge]) node target ↔
    Reaches edges node target ∨ (Reaches edges node edge.1 ∧ Reaches edges edge.2 target) := by
  constructor
  · intro path
    induction path with
    | refl => exact .inl .refl
    | tail _ step ih =>
      rcases mem_append.mp step with older | newest
      · rcases ih with known | ⟨before, after⟩
        · exact .inl (known.tail older)
        · exact .inr ⟨before, after.tail older⟩
      · rw [← mem_singleton.mp newest]
        rcases ih with known | ⟨before, -⟩
        · exact .inr ⟨known, .refl⟩
        · rw [← mem_singleton.mp newest] at before
          exact .inr ⟨before, .refl⟩
  · have older : edges ⊆ edges ++ [edge] := subset_append_left _ _
    rintro (known | ⟨before, after⟩)
    · exact known.mono older
    · have step : (edge.1, edge.2) ∈ edges ++ [edge] := mem_append_right _ mem_cons_self
      exact ((before.mono older).tail step).trans (after.mono older)

/-- No edge is part of a cycle. -/
def Acyclic (edges : List (Node × Node)) : Prop := ∀ edge ∈ edges, ¬Reaches edges edge.2 edge.1

/-- An edge closes a cycle when there is a path back. -/
theorem acyclic_append_one {edge : Node × Node} :
    Acyclic (edges ++ [edge]) ↔ Acyclic edges ∧ ¬Reaches edges edge.2 edge.1 := by
  have older : edges ⊆ edges ++ [edge] := subset_append_left _ _
  constructor
  · intro acyclic
    refine ⟨fun other member path => ?_, fun path => ?_⟩
    · exact acyclic other (older member) (path.mono older)
    · exact acyclic edge (mem_append_right _ mem_cons_self) (path.mono older)
  · rintro ⟨acyclic, oneWay⟩ other member path
    rcases mem_append.mp member with held | newest
    · rcases reaches_append_one.mp path with known | ⟨before, after⟩
      · exact acyclic other held known
      · -- the new edge is on the way, and the old one leads back to it
        exact oneWay ((after.tail held).trans before)
    · rw [mem_singleton.mp newest] at path
      rcases reaches_append_one.mp path with known | ⟨before, -⟩
      · exact oneWay known
      · exact oneWay before

theorem Acyclic.append_fresh {targets : List Node} (acyclic : Acyclic edges)
    (fresh : ∀ edge ∈ edges, edge.2 ≠ node)
    (others : ∀ target ∈ targets, target ≠ node) : Acyclic
      (edges ++ targets.map fun target => (node, target)) := by
  induction targets generalizing edges with
  | nil => simpa using acyclic
  | cons first _ ih =>
    have apart : first ≠ node := others first mem_cons_self
    have oneWay : ¬Reaches edges first node := by
      intro path
      rcases path.cases_end with same | ⟨edge, member, same⟩
      · exact apart same.symm
      · exact fresh edge member same
    rw [map_cons, append_cons]
    refine ih (acyclic_append_one.mpr ⟨acyclic, oneWay⟩) ?_ fun target later => others target
      (mem_cons_of_mem _ later)
    intro edge member
    rcases mem_append.mp member with held | newest
    · exact fresh edge held
    · rw [mem_singleton.mp newest]
      exact apart

/-- A path against the edges. -/
theorem reaches_swap : Reaches (edges.map Prod.swap) node target ↔ Reaches edges target node := by
  refine Iff.trans ?_ Relation.reflTransGen_swap
  have same : ∀ source end', (source, end') ∈ edges.map Prod.swap ↔ (end', source) ∈ edges := by
    intro source end'
    simp
  simp only [Reaches, same]

/-- Edges that start where no path leads make no difference. -/
theorem reaches_append (away : ∀ edge ∈ more, ¬Reaches edges node edge.1) :
    Reaches (edges ++ more) node target ↔ Reaches edges node target := by
  refine ⟨fun path => ?_, fun path => path.mono (subset_append_left _ _)⟩
  induction path with
  | refl => exact .refl
  | tail _ edge ih =>
    rcases mem_append.mp edge with older | newer
    · exact ih.tail older
    · exact absurd ih (away _ newer)

end Reachability
