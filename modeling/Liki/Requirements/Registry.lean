import Liki.Requirements.Extraction

/-! The registry of the requirements. A compilation takes what was tracked of a requirement from
the registry before it, by section and text, and each entry once: recompiling a registry gives it
back exactly where no section repeats a text. -/
namespace Liki.Requirements
open Json KeyedRows List

/-- What is kept of a requirement over the versions of the specification. -/
structure Tracking where
  requirementId : String
  introducedBy : String
  status : String
  criticality : String
  implementationRefs : List String
  testRefs : List String
  acceptanceEvidence : List String
  dependencies : List String
  history : List (List (String × String))
  crossCutting : List String
  deriving DecidableEq

structure Entry where
  requirement : Requirement
  tracking : Tracking
  deriving DecidableEq

abbrev Entry.id (entry : Entry) : String := entry.tracking.requirementId

def Requirement.key (requirement : Requirement) : Text × String :=
  (requirement.sourceAnchor, requirement.textHash)

def Entry.key (entry : Entry) : Text × String := entry.requirement.key

structure Registry where
  schemaVersion : ℕ
  srsVersion : String
  sourceHash : String
  requirements : List Entry
  deriving DecidableEq

def freshId (fresh : ℕ → String) (drawn : ℕ) : String := "LKI-REQ-" ++ fresh drawn

def Tracking.initial (id : String) : Tracking where
  requirementId := id
  introducedBy := "LIKI_SRS_v1.4"
  status := "NOT_STARTED"
  criticality := "CRITICAL"
  implementationRefs := []
  testRefs := []
  acceptanceEvidence := []
  dependencies := []
  history := []
  crossCutting := ["constitution", "provenance", "authorization", "units", "idempotency"]

/-- Of the entries with one key the last. -/
def lookup (old : List Entry) : List Entry :=
  old.foldl (fun rows entry => upsert Entry.key entry rows) []

/-- The loop of `compile_registry`: the entries, and what is left of the lookup. The uuids drawn
are a supply. -/
def compileEntries (fresh : ℕ → String) (drawn : ℕ) (prior : List Entry) :
    List Requirement → List Entry × List Entry
  | [] => ([], prior)
  | requirement :: rest =>
    match find Entry.key requirement.key prior with
    | some entry =>
      let (entries, left) := compileEntries fresh drawn (remove Entry.key requirement.key prior) rest
      (⟨requirement, entry.tracking⟩ :: entries, left)
    | none =>
      let (entries, left) := compileEntries fresh (drawn + 1) prior rest
      (⟨requirement, .initial (freshId fresh drawn)⟩ :: entries, left)

def compileRegistry (classes : CharClasses) (digest : Text → String) (fresh : ℕ → String)
    (spec : Text) (previous : Option Registry) : Except String Registry :=
  let old := (previous.map Registry.requirements).getD []
  let (entries, left) := compileEntries fresh 0 (lookup old) (extract classes digest spec)
  if left ≠ [] then
    .error "Requirements changed/disappeared; explicit retained-ID revision or governance supersession required"
  else .ok ⟨1, "1.4", digest spec, entries⟩

variable {classes : CharClasses} {digest : Text → String} {fresh fresh' : ℕ → String} {drawn : ℕ}
  {prior old : List Entry} {requirements : List Requirement} {spec : Text}
  {previous : Option Registry} {registry : Registry}

open Entry

theorem compileEntries_requirements :
    (compileEntries fresh drawn prior requirements).1.map requirement = requirements := by
  induction requirements generalizing drawn prior with
  | nil => rfl
  | cons requirement rest ih =>
    rw [compileEntries]
    split
    · exact congrArg (requirement :: ·) ih
    · exact congrArg (requirement :: ·) ih

/-- An entry under each key gives the entries back. -/
theorem compileEntries_kept (distinct : Distinct key prior) :
    compileEntries fresh drawn prior (prior.map requirement) = (prior, []) := by
  induction prior with
  | nil => rfl
  | cons entry rest ih =>
    obtain ⟨apart, later⟩ := nodup_cons.mp distinct
    have found : find key entry.requirement.key (entry :: rest) = some entry :=
      find_of_mem distinct mem_cons_self
    have others : remove key entry.requirement.key (entry :: rest) = rest := by
      rw [remove, filter_cons_of_neg (by simp [key]), filter_eq_self]
      intro other held
      exact decide_eq_true fun same => apart (mem_map.mpr ⟨other, held, same⟩)
    rw [map_cons, compileEntries, found]
    simp only [others, ih later]

theorem keys_of_consumed (carried : ∀ number, ∀ entry ∈ (compileEntries fresh drawn prior requirements).1,
    entry.id ≠ freshId fresh number) :
    (requirements.map Requirement.key).Nodup ∧
      ∀ requirement ∈ requirements, find key requirement.key prior ≠ none := by
  induction requirements generalizing drawn prior with
  | nil => exact ⟨nodup_nil, fun _ absent => absurd absent not_mem_nil⟩
  | cons requirement rest ih =>
    rw [compileEntries] at carried
    split at carried
    · next entry found =>
      obtain ⟨distinct, held⟩ := ih fun number entry inside =>
        carried number entry (mem_cons_of_mem _ inside)
      have other : ∀ second ∈ rest, requirement.key ≠ second.key ∧
          find key second.key prior ≠ none := by
        intro second inside
        have kept := held second inside
        rw [find_remove] at kept
        split at kept
        · exact absurd rfl kept
        · next differ => exact ⟨differ, kept⟩
      refine ⟨nodup_cons.mpr ⟨fun repeated => ?_, distinct⟩, fun second inside => ?_⟩
      · obtain ⟨second, inside, same⟩ := mem_map.mp repeated
        exact (other second inside).1 same.symm
      · obtain rfl | inside := mem_cons.mp inside
        · exact found ▸ Option.some_ne_none entry
        · exact (other second inside).2
    · exact absurd rfl (carried drawn _ mem_cons_self)

/-- The identities are those of the lookup and those drawn. -/
theorem compileEntries_ids (fresh : ℕ → String) (drawn : ℕ) (requirements : List Requirement)
    (distinct : Distinct Entry.key prior) : ∃ count,
    (((compileEntries fresh drawn prior requirements).1 ++
        (compileEntries fresh drawn prior requirements).2).map Entry.id).Perm
      (prior.map Entry.id ++ (range' drawn count).map (freshId fresh)) := by
  induction requirements generalizing drawn prior with
  | nil => exact ⟨0, by simp [compileEntries]⟩
  | cons requirement rest ih =>
    rw [compileEntries]
    split
    · next entry found =>
      obtain ⟨count, perm⟩ := ih drawn (distinct_remove distinct requirement.key)
      refine ⟨count, (perm.cons entry.id).trans ?_⟩
      have consumed : prior.Perm (entry :: remove Entry.key requirement.key prior) := by
        have parts := filter_append_perm (fun row => decide (Entry.key row = requirement.key)) prior
        rw [← find_key found, filter_of_mem distinct (find_mem found)] at parts
        rw [← find_key found]
        simpa [remove] using parts.symm
      exact ((consumed.map Entry.id).append_right _).symm
    · obtain ⟨count, perm⟩ := ih (drawn + 1) distinct
      exact ⟨count + 1, (perm.cons (freshId fresh drawn)).trans perm_middle.symm⟩

theorem lookup_distinct (old : List Entry) : Distinct key (lookup old) := by
  suffices ∀ rows, Distinct key rows →
      Distinct key (old.foldl (fun rows entry => upsert key entry rows) rows) from
    this [] nodup_nil
  induction old with
  | nil => exact fun _ distinct => distinct
  | cons entry rest ih => exact fun rows distinct => ih _ (distinct_upsert distinct entry)

theorem mem_of_mem_lookup (held : entry ∈ lookup old) : entry ∈ old := by
  suffices ∀ rows, entry ∈ old.foldl (fun rows entry => upsert key entry rows) rows →
      entry ∈ rows ∨ entry ∈ old from (this [] held).resolve_left not_mem_nil
  clear held
  induction old with
  | nil => exact fun _ held => .inl held
  | cons first rest ih =>
    intro rows held
    obtain early | late := ih _ held
    · obtain rfl | early := mem_upsert early
      · exact .inr mem_cons_self
      · exact .inl early
    · exact .inr (mem_cons_of_mem _ late)

theorem lookup_eq_self (distinct : Distinct key old) : lookup old = old := by
  suffices ∀ rows, Distinct key (rows ++ old) →
      old.foldl (fun rows entry => upsert key entry rows) rows = rows ++ old from
    this [] distinct
  clear distinct
  induction old with
  | nil => exact fun rows _ => (append_nil rows).symm
  | cons entry rest ih =>
    intro rows distinct
    have absent : find key entry.key rows = none := by
      refine find_none.mpr fun row held same => ?_
      rw [Distinct, map_append] at distinct
      exact disjoint_of_nodup_append distinct (mem_map_of_mem held)
        (same ▸ mem_map_of_mem mem_cons_self)
    have added : upsert key entry rows = rows ++ [entry] := by
      rw [upsert, absent]
      rfl
    rw [foldl_cons, added, ih _ (by simpa using distinct), append_assoc]
    rfl

theorem compileRegistry_ok
    (compiled : compileRegistry classes digest fresh spec previous = .ok registry) :
    compileEntries fresh 0 (lookup ((previous.map Registry.requirements).getD []))
        (extract classes digest spec) = (registry.requirements, []) ∧
      registry = ⟨1, "1.4", digest spec, registry.requirements⟩ := by
  rw [compileRegistry] at compiled
  cases made : compileEntries fresh 0 (lookup ((previous.map Registry.requirements).getD []))
    (extract classes digest spec) with
  | mk entries left =>
    simp only [made] at compiled
    split at compiled
    · cases compiled
    · next none =>
      cases compiled
      exact ⟨Prod.ext rfl (not_not.mp none), rfl⟩

theorem keys_of_compiled
    (compiled : compileRegistry classes digest fresh spec previous = .ok registry) :
    registry.requirements.map requirement = extract classes digest spec := by
  have carried := congrArg Prod.fst (compileRegistry_ok compiled).1
  exact (congrArg (map requirement) carried).symm.trans compileEntries_requirements

/-- A registry is a fixed point of the compilation, and its identities are distinct, where no
section repeats a text and the entries it was compiled from have distinct identities. -/
theorem recompiled_iff (classes : CharClasses) (digest : Text → String) (fresh fresh' : ℕ → String)
    (spec : Text) (previous : Option Registry) (registry : Registry)
    (compiled : compileRegistry classes digest fresh spec previous = .ok registry)
    (distinct : Function.Injective fresh)
    (unused : ∀ number, ∀ entry ∈ (previous.map Registry.requirements).getD [],
      entry.id ≠ freshId fresh number)
    (unused' : ∀ number, ∀ entry ∈ registry.requirements, entry.id ≠ freshId fresh' number) :
    (compileRegistry classes digest fresh' spec (some registry) = .ok registry ∧
      (registry.requirements.map Entry.id).Nodup) ↔
    ((extract classes digest spec).map Requirement.key).Nodup ∧
      ((lookup ((previous.map Registry.requirements).getD [])).map Entry.id).Nodup := by
  obtain ⟨made, shape⟩ := compileRegistry_ok compiled
  have same := keys_of_compiled compiled
  have ids : (registry.requirements.map Entry.id).Nodup ↔
      ((lookup ((previous.map Registry.requirements).getD [])).map Entry.id).Nodup := by
    obtain ⟨count, perm⟩ := compileEntries_ids fresh 0 (extract classes digest spec)
      (lookup_distinct ((previous.map Registry.requirements).getD []))
    rw [made, append_nil] at perm
    rw [perm.nodup_iff, nodup_append]
    refine ⟨And.left, fun apart => ⟨apart, ?_, ?_⟩⟩
    · refine List.Nodup.map (fun first second drawn => ?_) nodup_range'
      exact distinct ((String.append_right_inj _).mp drawn)
    · rintro _ held _ drawn rfl
      obtain ⟨entry, inside, rfl⟩ := mem_map.mp held
      obtain ⟨number, -, taken⟩ := mem_map.mp drawn
      exact unused number entry (mem_of_mem_lookup inside) taken.symm
  rw [ids]
  refine and_congr_left fun _ => ⟨fun again => ?_, fun keys => ?_⟩
  · have remade := (compileRegistry_ok again).1
    exact (keys_of_consumed (by rw [remade]; exact unused')).1
  · have kept : Distinct Entry.key registry.requirements := by
      rw [← same, map_map] at keys
      exact keys
    rw [compileRegistry]
    simp only [Option.map_some, Option.getD_some, lookup_eq_self kept, ← same,
      compileEntries_kept kept, ne_eq, not_true_eq_false, if_false]
    exact congrArg _ shape.symm

/-- Uuids that are told apart by their length. -/
def unary (mark : Char) (drawn : ℕ) : String := String.ofList (mark :: replicate drawn mark)

theorem unary_injective (mark : Char) : Function.Injective (unary mark) := fun first second same => by
  simpa [unary] using congrArg (fun text => text.toList.length) same

theorem freshId_unary (mark : Char) (drawn : ℕ) :
    (freshId (unary mark) drawn).toList[8]? = some mark := by
  simp [freshId, unary]

def compileUnary (mark : Char) (spec : Text) (previous : Option Registry) : Except String Registry :=
  compileRegistry asciiClasses String.ofList (unary mark) spec previous

def fencedRegistry : Registry where
  schemaVersion := 1
  srsVersion := "1.4"
  sourceHash := String.ofList fencedText
  requirements := (compileEntries (unary 'a') 0 [] (extract asciiClasses String.ofList fencedText)).1

theorem recompiled_iff_fenced :
    compileRegistry asciiClasses String.ofList (unary 'b') fencedText (some fencedRegistry) =
        .ok fencedRegistry ∧
      (fencedRegistry.requirements.map Entry.id).Nodup :=
  (recompiled_iff asciiClasses String.ofList (unary 'a') (unary 'b') fencedText none fencedRegistry
    (by decide +kernel) (unary_injective 'a') (fun _ _ absent => absurd absent not_mem_nil)
    (fun number entry held same => by
      have marked : ∀ entry ∈ fencedRegistry.requirements, entry.id.toList[8]? = some 'a' := by
        decide +kernel
      have := (marked entry held).symm.trans ((congrArg (fun id => id.toList[8]?) same).trans
        (freshId_unary 'b' number))
      exact absurd this (by decide))).mpr ⟨by decide +kernel, nodup_nil⟩

def repeatedText : Text := "It MUST stop.\n\nIt MUST stop.".toList

/-- The first of the two takes the identity of the second, which gets another. -/
theorem repeated_text_renumbers : ∃ first second,
    compileUnary 'a' repeatedText none = .ok first ∧
    compileUnary 'b' repeatedText (some first) = .ok second ∧
    first.requirements.map Entry.id = ["LKI-REQ-a", "LKI-REQ-aa"] ∧
    second.requirements.map Entry.id = ["LKI-REQ-aa", "LKI-REQ-b"] := by
  refine ⟨_, _, rfl, rfl, ?_, ?_⟩ <;> decide +kernel

end Liki.Requirements
