import Liki.Data.Instruments

/-! What a symbol master resolves: the version of an instrument at an instant and the universe
that trades then. Lifecycle events are kept along and decide nothing. -/
namespace Liki.Data
open Checks List

inductive LifecycleEventKind where
  | listing | delisting | suspension | relisting | symbolChange | redenomination | migration
  | expiry | settlement | ruleChange

structure LifecycleEvent where
  instrumentId : String
  kind : LifecycleEventKind
  effectiveAt : Time
  details : List (String × String)
  conversionRatio : Option WrittenDecimal
  rawPayloadHash : String
  converted : ∀ ratio ∈ conversionRatio, ratio.Positive

/-- `SymbolMaster(specifications, lifecycle_events)`. -/
def SymbolMaster.buildWith (specifications : List InstrumentSpec)
    (lifecycleEvents : Option (List LifecycleEvent)) :
    Except MasterError (SymbolMaster × List LifecycleEvent) := do
  let master ← SymbolMaster.build specifications
  return (master, lifecycleEvents.getD [])

/-- `available_universe`. -/
def SymbolMaster.availableUniverse (master : SymbolMaster) (instant : Time) (venue : Option String) :
    List InstrumentSpec :=
  master.specifications.filter fun specification => specification.EffectiveAt instant ∧
    specification.status = "TRADING" ∧ ∀ required ∈ venue, specification.venue = required

variable {master : SymbolMaster} {specification : InstrumentSpec} {instrumentId : String}
  {instant : Time}

theorem SymbolMaster.apart (master : SymbolMaster) :
    master.specifications.Pairwise fun first second => ¬first.Overlaps second :=
  nonOverlapping_iff.mp master.nonOverlapping

theorem matches_le_one (master : SymbolMaster) (instrumentId : String) (instant : Time) :
    (master.specifications.filter fun specification =>
      specification.instrumentId = instrumentId ∧ specification.EffectiveAt instant).length ≤ 1 := by
  have apart := master.apart.filter fun specification =>
    specification.instrumentId = instrumentId ∧ specification.EffectiveAt instant
  have covering : ∀ specification ∈ master.specifications.filter fun specification =>
      specification.instrumentId = instrumentId ∧ specification.EffectiveAt instant,
      specification.instrumentId = instrumentId ∧ specification.EffectiveAt instant :=
    fun specification held => of_decide_eq_true (mem_filter.mp held).2
  generalize master.specifications.filter _ = found at apart covering ⊢
  match found with
  | [] | [_] => simp
  | first :: second :: rest =>
    obtain ⟨named, effective⟩ := covering first mem_cons_self
    obtain ⟨also, together⟩ := covering second (mem_cons_of_mem _ mem_cons_self)
    have never := (pairwise_cons.mp apart).1 second mem_cons_self
    exact absurd ⟨named.trans also.symm, instant, effective, together⟩ never

theorem specificationAt_ok :
    master.specificationAt instrumentId instant = .ok specification ↔
      specification ∈ master.specifications ∧ specification.instrumentId = instrumentId ∧
        specification.EffectiveAt instant := by
  have member : specification ∈ (master.specifications.filter fun specification =>
      specification.instrumentId = instrumentId ∧ specification.EffectiveAt instant) ↔
      specification ∈ master.specifications ∧ specification.instrumentId = instrumentId ∧
        specification.EffectiveAt instant := by
    rw [mem_filter, decide_eq_true_iff]
  have few := matches_le_one master instrumentId instant
  rw [SymbolMaster.specificationAt, ← member]
  generalize master.specifications.filter _ = found at few ⊢
  match found with
  | [] => simp
  | [only] => simp [eq_comm]
  | _ :: _ :: _ => simp at few

theorem specificationAt_error :
    (∃ raised, master.specificationAt instrumentId instant = .error raised) ↔
      ¬∃ specification ∈ master.specifications,
        specification.instrumentId = instrumentId ∧ specification.EffectiveAt instant := by
  constructor
  · rintro ⟨raised, refused⟩ ⟨specification, held, named, effective⟩
    rw [specificationAt_ok.mpr ⟨held, named, effective⟩] at refused
    cases refused
  · intro none
    cases result : master.specificationAt instrumentId instant with
    | error raised => exact ⟨raised, rfl⟩
    | ok specification => exact absurd ⟨specification, specificationAt_ok.mp result⟩ none

/-- The constructor accepts what is disjoint, a lookup finds the one version that covers the
instant, and the universe has the trading versions that lookups return, once per instrument. -/
theorem master_resolves (specifications : List InstrumentSpec)
    (lifecycleEvents : Option (List LifecycleEvent)) :
    ((∃ built, SymbolMaster.buildWith specifications lifecycleEvents = .ok built) ↔
        specifications.Pairwise fun first second => ¬first.Overlaps second) ∧
      ∀ master kept, SymbolMaster.buildWith specifications lifecycleEvents = .ok (master, kept) →
        ∀ instrumentId instant venue specification,
          (master.specificationAt instrumentId instant = .ok specification ↔
            specification ∈ specifications ∧ specification.instrumentId = instrumentId ∧
              specification.EffectiveAt instant) ∧
          ((∃ raised, master.specificationAt instrumentId instant = .error raised) ↔
            ¬∃ specification ∈ specifications,
              specification.instrumentId = instrumentId ∧ specification.EffectiveAt instant) ∧
          (specification ∈ master.availableUniverse instant venue ↔
            master.specificationAt specification.instrumentId instant = .ok specification ∧
              specification.status = "TRADING" ∧ ∀ required ∈ venue, specification.venue = required) ∧
          ((master.availableUniverse instant venue).map InstrumentSpec.instrumentId).Nodup := by
  simp only [SymbolMaster.buildWith, bind_ok, pure_ok, build_ok]
  refine ⟨?_, ?_⟩
  · rw [← nonOverlapping_iff]
    constructor
    · rintro ⟨-, master, rfl, -⟩
      exact master.nonOverlapping
    · exact fun accepted => ⟨_, ⟨specifications, accepted⟩, rfl, rfl⟩
  · rintro master kept ⟨_, same, found⟩ instrumentId instant venue specification
    cases found
    subst same
    refine ⟨specificationAt_ok, specificationAt_error, ?_, ?_⟩
    · rw [specificationAt_ok, SymbolMaster.availableUniverse, mem_filter, decide_eq_true_iff]
      simp only [true_and, and_assoc]
    · rw [List.Nodup, pairwise_map]
      refine List.Pairwise.imp_of_mem (fun here there never same => never ?_) (master.apart.filter _)
      have effective := (of_decide_eq_true (mem_filter.mp here).2).1
      exact ⟨same, instant, effective, (of_decide_eq_true (mem_filter.mp there).2).1⟩

end Liki.Data
