import Mathlib.Data.List.TakeWhile
import Mathlib.Order.Bounds.Basic
import Liki.Governance.Promotion

/-! The floor that protected paths put under a change. The policy compares paths as texts, so
a path reaches a control only in the spelling of the control's prefixes. Read component by
component the same path may be covered, and the class then falls below the demanded one. -/
namespace Liki.Governance
open Checks List

variable {policy : GovernancePolicy} {proposal : GovernanceProposal} {classifier : String}
  {now : Time} {classification : Classification} {path pathPrefix : String}

/-- The names on a path, without redundant slashes and `.` components. -/
def names (path : List Char) : List (List Char) :=
  (path.splitOn '/').filter fun name => name ≠ [] ∧ name ≠ ['.']

def components (path : String) : List (List Char) := names path.toList

def rooted (path : String) : Bool := path.toList.head? = some '/'

def SamePath (first second : String) : Prop :=
  rooted first = rooted second ∧ components first = components second

def Covers (path pathPrefix : String) : Prop :=
  rooted pathPrefix = rooted path ∧ components pathPrefix <+: components path

inductive Demanded (protects : String → String → Prop) (policy : GovernancePolicy)
    (proposal : GovernanceProposal) : ChangeClass → Prop
  | declared : Demanded protects policy proposal proposal.declaredClass
  | named {control : ProtectedControl} (held : control ∈ policy.protectedControls)
      (named : control.controlId ∈ proposal.protectedControls) :
      Demanded protects policy proposal control.minimumClass
  | covered {control : ProtectedControl} {path pathPrefix : String}
      (held : control ∈ policy.protectedControls) (affected : path ∈ proposal.affectedPaths)
      (listed : pathPrefix ∈ control.pathPrefixes) (below : protects path pathPrefix) :
      Demanded protects policy proposal control.minimumClass
  | realMoney (enabled : proposal.realMoneyEnablement = true) :
      Demanded protects policy proposal .red

/-- The final class is the highest of the classes that the paths, read component by component,
and the named controls demand. -/
def MeetsDemands (policy : GovernancePolicy) (proposal : GovernanceProposal)
    (classification : Classification) : Prop :=
  IsGreatest (ChangeClass.rank '' {demanded | Demanded Covers policy proposal demanded})
    classification.finalClass.rank

def SpellingsReach (policy : GovernancePolicy) (proposal : GovernanceProposal) : Prop :=
  ∀ control ∈ policy.protectedControls, ∀ path ∈ proposal.affectedPaths,
    ∀ pathPrefix ∈ control.pathPrefixes, Covers path pathPrefix →
      ∃ demanded, Demanded (underPath · ·) policy proposal demanded ∧
        control.minimumClass.rank ≤ demanded.rank

structure Extends (policy : GovernancePolicy) (proposal : GovernanceProposal)
    (furtherPolicy : GovernancePolicy) (further : GovernanceProposal) : Prop where
  declared : further.declaredClass = proposal.declaredClass
  protectedControls : policy.protectedControls ⊆ furtherPolicy.protectedControls
  named : proposal.protectedControls ⊆ further.protectedControls
  paths : ∀ path ∈ proposal.affectedPaths, ∃ respelled ∈ further.affectedPaths,
    SamePath path respelled
  realMoney : proposal.realMoneyEnablement = true → further.realMoneyEnablement = true

theorem names_append (first second : List Char) :
    names (first ++ '/' :: second) = names first ++ names second := by
  rw [names, splitOn_append_cons_self, filter_append, ← names, ← names]

theorem names_slashes (count : ℕ) : names (replicate count '/') = [] := by
  induction count with
  | zero => rfl
  | succ count ih =>
    have apart := names_append [] (replicate count '/')
    rwa [ih, append_nil, nil_append, ← replicate_succ] at apart

theorem names_append_slashes (text : List Char) (count : ℕ) :
    names (text ++ replicate count '/') = names text := by
  cases count with
  | zero => rw [replicate_zero, append_nil]
  | succ count => rw [replicate_succ, names_append, names_slashes, append_nil]

theorem exists_trailing_slashes (text : List Char) :
    ∃ count, text =
      (text.reverse.dropWhile (· = '/')).reverse ++ replicate count '/' := by
  refine ⟨(text.reverse.takeWhile (· = '/')).length, ?_⟩
  have slashes : text.reverse.takeWhile (· = '/') =
      replicate (text.reverse.takeWhile (· = '/')).length '/' :=
    eq_replicate_of_mem fun char held => by simpa using mem_takeWhile_imp held
  have whole := congrArg reverse
    (@List.takeWhile_append_dropWhile _ (fun char => decide (char = '/')) text.reverse)
  rw [reverse_append, reverse_reverse, slashes, reverse_replicate] at whole
  exact whole.symm

theorem covers_of_underPath (nonempty : pathPrefix ≠ "") (below : underPath path pathPrefix = true) :
    Covers path pathPrefix := by
  rw [underPath, decide_eq_true_iff, isPrefixOf_iff_prefix] at below
  obtain rfl | ⟨rest, extends_⟩ := below
  · exact ⟨rfl, prefix_refl _⟩
  obtain ⟨count, whole⟩ := exists_trailing_slashes pathPrefix.toList
  generalize (pathPrefix.toList.reverse.dropWhile (· = '/')).reverse = stripped at extends_ whole
  rw [append_assoc, singleton_append] at extends_
  refine ⟨?_, ?_⟩
  · rw [rooted, rooted, whole, ← extends_]
    cases stripped with
    | cons => rfl
    | nil =>
      cases count with
      | zero => exact absurd (String.toList_eq_nil_iff.mp whole) nonempty
      | succ => rfl
  · rw [components, components, whole, ← extends_, names_append_slashes, names_append]
    exact prefix_append _ _

theorem fold_highest (controls : List ProtectedControl) (start : ChangeClass) :
    let highest := controls.foldl (fun floor control =>
      if floor.rank < control.minimumClass.rank then control.minimumClass else floor) start
    (highest = start ∨ ∃ control ∈ controls, highest = control.minimumClass) ∧
      start.rank ≤ highest.rank ∧ ∀ control ∈ controls, control.minimumClass.rank ≤ highest.rank := by
  induction controls generalizing start with
  | nil => exact ⟨.inl rfl, le_rfl, nofun⟩
  | cons first rest ih =>
    rw [foldl_cons]
    obtain ⟨attained, started, bounds⟩ := ih
      (if start.rank < first.minimumClass.rank then first.minimumClass else start)
    have kept : start.rank ≤
          (if start.rank < first.minimumClass.rank then first.minimumClass else start).rank ∧
        first.minimumClass.rank ≤
          (if start.rank < first.minimumClass.rank then first.minimumClass else start).rank := by
      split <;> omega
    refine ⟨?_, kept.1.trans started, ?_⟩
    · obtain same | ⟨control, held, same⟩ := attained
      · rw [same]
        split
        · exact .inr ⟨first, mem_cons_self, rfl⟩
        · exact .inl rfl
      · exact .inr ⟨control, mem_cons_of_mem _ held, same⟩
    · intro control held
      obtain rfl | later := mem_cons.mp held
      · exact kept.2.trans started
      · exact bounds control later

theorem matches_iff {control : ProtectedControl} :
    control.matches paths controls = true ↔ control.controlId ∈ controls ∨
      ∃ path ∈ paths, ∃ pathPrefix ∈ control.pathPrefixes, underPath path pathPrefix = true := by
  rw [ProtectedControl.matches, decide_eq_true_iff]

theorem rank_le (severity : ChangeClass) : severity.rank ≤ ChangeClass.red.rank := by
  cases severity <;> decide

theorem escalated (floor declared : ChangeClass) :
    floor.rank ≤ (if floor.rank ≤ declared.rank then declared else floor).rank ∧
      declared.rank ≤ (if floor.rank ≤ declared.rank then declared else floor).rank := by
  split <;> omega

/-- The floor of the policy is green or demanded by a control that matches as a text. -/
theorem floorFor_demanded :
    let floor := (policy.floorFor proposal.affectedPaths proposal.protectedControls).1
    (floor = .green ∨ Demanded (underPath · ·) policy proposal floor) ∧
      ∀ control ∈ policy.protectedControls,
        control.matches proposal.affectedPaths proposal.protectedControls = true →
          control.minimumClass.rank ≤ floor.rank := by
  obtain ⟨attained, -, bounds⟩ := fold_highest (policy.protectedControls.filter fun control =>
    control.matches proposal.affectedPaths proposal.protectedControls) .green
  refine ⟨attained.imp_right ?_, fun control held found =>
    bounds control (mem_filter.mpr ⟨held, found⟩)⟩
  rintro ⟨control, found, same⟩
  obtain ⟨held, matching⟩ := mem_filter.mp found
  rw [GovernancePolicy.floorFor, same]
  obtain named | ⟨path, affected, pathPrefix, listed, below⟩ := matches_iff.mp matching
  · exact .named held named
  · exact .covered held affected listed below

/-- The class assigned is the highest one that the comparison of texts finds. -/
theorem finalClass_greatest
    (ok : classifyProposal proposal policy classifier now = .ok classification) :
    IsGreatest (ChangeClass.rank '' {demanded | Demanded (underPath · ·) policy proposal demanded})
      classification.finalClass.rank := by
  simp only [classifyProposal, bind_ok, guard_ok, pure_ok] at ok
  obtain ⟨-, rfl⟩ := ok
  dsimp only
  obtain ⟨attained, bounds⟩ := @floorFor_demanded policy proposal
  generalize (policy.floorFor proposal.affectedPaths proposal.protectedControls).1 = floor
    at attained bounds ⊢
  constructor
  · refine ⟨_, ?_, rfl⟩
    rw [Set.mem_ofPred_eq]
    by_cases enabled : proposal.realMoneyEnablement = true
    · rw [if_pos enabled]
      split
      · exact .declared
      · exact .realMoney enabled
    · rw [if_neg enabled]
      split
      · exact .declared
      · next above =>
        refine attained.resolve_left fun lowest => above ?_
        rw [lowest]
        exact Nat.zero_le _
  · rintro - ⟨demanded, demands, rfl⟩
    obtain ⟨floored, declared⟩ :=
      escalated (if proposal.realMoneyEnablement = true then .red else floor) proposal.declaredClass
    cases demands with
    | declared => exact declared
    | named held named =>
      refine le_trans ?_ floored
      split
      · exact rank_le _
      · exact bounds _ held (matches_iff.mpr (.inl named))
    | covered held affected listed below =>
      refine le_trans ?_ floored
      split
      · exact rank_le _
      · exact bounds _ held (matches_iff.mpr (.inr ⟨_, affected, _, listed, below⟩))
    | realMoney enabled =>
      rw [if_pos enabled] at floored ⊢
      exact floored

theorem Demanded.mono {protects more : String → String → Prop}
    (included : ∀ control ∈ policy.protectedControls, ∀ path, ∀ pathPrefix ∈ control.pathPrefixes,
      protects path pathPrefix → more path pathPrefix)
    (demands : Demanded protects policy proposal demanded) :
    Demanded more policy proposal demanded := by
  cases demands with
  | declared => exact .declared
  | named held named => exact .named held named
  | covered held affected listed below =>
    exact .covered held affected listed (included _ held _ _ listed below)
  | realMoney enabled => exact .realMoney enabled

theorem Demanded.extend {further : GovernanceProposal}
    (extends_ : Extends policy proposal furtherPolicy further)
    (demands : Demanded Covers policy proposal demanded) :
    Demanded Covers furtherPolicy further demanded := by
  cases demands with
  | declared => rw [← extends_.declared]; exact .declared
  | named held named => exact .named (extends_.protectedControls held) (extends_.named named)
  | covered held affected listed covers =>
    obtain ⟨respelled, present, root, same⟩ := extends_.paths _ affected
    refine .covered (extends_.protectedControls held) present listed ⟨covers.1.trans root, ?_⟩
    rw [← same]
    exact covers.2
  | realMoney enabled => exact .realMoney (extends_.realMoney enabled)

theorem SpellingsReach.bound (reach : SpellingsReach policy proposal)
    (ok : classifyProposal proposal policy classifier now = .ok classification)
    (demands : Demanded Covers policy proposal demanded) :
    demanded.rank ≤ classification.finalClass.rank := by
  have upper := (finalClass_greatest ok).2
  cases demands with
  | declared => exact upper ⟨_, .declared, rfl⟩
  | named held named => exact upper ⟨_, .named held named, rfl⟩
  | covered held affected listed covers =>
    obtain ⟨found, demands, below⟩ := reach _ held _ affected _ listed covers
    exact below.trans (upper ⟨found, demands, rfl⟩)
  | realMoney enabled => exact upper ⟨_, .realMoney enabled, rfl⟩

namespace Small

def gates : GovernancePolicy :=
  ⟨"policy", "1", "hash", [⟨"gate_audit_integrity", ["liki/gates", "liki/audit/"], .red⟩]⟩

def touching (path : String) : GovernanceProposal := { change with affectedPaths := [path] }

end Small

/-- With prefixes that are not empty, the final class meets the demands exactly when no covering
spelling escapes the comparison, and then nothing added, in any spelling, lowers it. -/
theorem meetsDemands_iff
    (nonempty : ∀ control ∈ policy.protectedControls, ∀ pathPrefix ∈ control.pathPrefixes,
      pathPrefix ≠ "")
    (ok : classifyProposal proposal policy classifier now = .ok classification) :
    (MeetsDemands policy proposal classification ↔ SpellingsReach policy proposal) ∧
      ∀ furtherPolicy further furtherClassifier later furtherClassification,
        SpellingsReach furtherPolicy further → Extends policy proposal furtherPolicy further →
        classifyProposal further furtherPolicy furtherClassifier later = .ok furtherClassification →
          classification.finalClass.rank ≤ furtherClassification.finalClass.rank := by
  obtain ⟨attained, demands, same⟩ := (finalClass_greatest ok).1
  have covering : Demanded Covers policy proposal attained := Demanded.mono
    (fun control held _ _ listed below => covers_of_underPath (nonempty control held _ listed) below)
    demands
  refine ⟨⟨fun meets control held path affected pathPrefix listed covers => ?_, fun reach => ?_⟩, ?_⟩
  · refine ⟨attained, demands, ?_⟩
    rw [same]
    exact meets.2 ⟨_, .covered held affected listed covers, rfl⟩
  · refine ⟨⟨attained, covering, same⟩, ?_⟩
    rintro - ⟨demanded, demands, rfl⟩
    exact reach.bound ok demands
  · intro furtherPolicy further furtherClassifier later furtherClassification reach extends_ classified
    rw [← same]
    exact reach.bound classified (covering.extend extends_)

/-- Two spellings of one path, and a directory whose prefix is listed with a slash. -/
theorem respelling_escapes :
    (∃ classification,
      classifyProposal (Small.touching "./liki/gates/registry.py") Small.gates "auditor" 7 =
          .ok classification ∧
        classification.finalClass = .green ∧
        ¬MeetsDemands Small.gates (Small.touching "./liki/gates/registry.py") classification) ∧
      (classifyProposal (Small.touching "liki/gates/registry.py") Small.gates "auditor" 7).map
          Classification.finalClass = .ok .red ∧
      (classifyProposal (Small.touching "liki/audit") Small.gates "auditor" 7).map
          Classification.finalClass = .ok .green := by
  refine ⟨?_, by decide +kernel, by decide +kernel⟩
  have lowered : (classifyProposal (Small.touching "./liki/gates/registry.py") Small.gates "auditor"
      7).map Classification.finalClass = .ok .green := by decide +kernel
  obtain ⟨classification, ok, green⟩ := map_ok.mp lowered
  refine ⟨classification, ok, green, fun meets => ?_⟩
  have respelled : Covers "./liki/gates/registry.py" "liki/gates" :=
    ⟨by decide +kernel, by decide +kernel⟩
  have covered : Demanded Covers Small.gates (Small.touching "./liki/gates/registry.py") .red :=
    @Demanded.covered _ Small.gates _ _ _ _ mem_cons_self mem_cons_self mem_cons_self
      respelled
  have bound := meets.2 ⟨_, covered, rfl⟩
  rw [green] at bound
  exact absurd bound (by decide)

theorem meetsDemands_iff_gates :
    ∃ classification, classifyProposal (Small.touching "liki/gates") Small.gates "auditor" 7 =
        .ok classification ∧
      (MeetsDemands Small.gates (Small.touching "liki/gates") classification ↔
        SpellingsReach Small.gates (Small.touching "liki/gates")) := by
  have floored : (classifyProposal (Small.touching "liki/gates") Small.gates "auditor" 7).map
      Classification.finalClass = .ok .red := by decide +kernel
  obtain ⟨classification, ok, -⟩ := map_ok.mp floored
  exact ⟨classification, ok, (meetsDemands_iff (by decide) ok).1⟩

end Liki.Governance
