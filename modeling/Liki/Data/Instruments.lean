import Liki.Core
import Liki.Library.Checks
import Liki.Library.Intervals

/-! Effective-dated instrument specifications and the master that resolves them. A master exists only
for specifications of which no two of an instrument overlap. -/
namespace Liki.Data
open Checks Intervals

/-- A `Decimal` as it is written: its digits and the place of the last one. -/
structure WrittenDecimal where
  coefficient : ℤ
  exponent : ℤ
  deriving DecidableEq

/-- `gt=0`. -/
def WrittenDecimal.Positive (decimal : WrittenDecimal) : Prop := 0 < decimal.coefficient

instance (decimal : WrittenDecimal) : Decidable decimal.Positive := inferInstanceAs (Decidable (_ < _))

@[ext] structure InstrumentSpec where
  instrumentId : String
  venue : String
  venueSymbol : String
  baseAsset : String
  quoteAsset : String
  contractType : String
  effectiveFrom : Time
  effectiveTo : Option Time
  expiryAt : Option Time
  multiplier : WrittenDecimal
  settlementAsset : Option String
  marginAsset : Option String
  tickSize : WrittenDecimal
  lotSize : WrittenDecimal
  minNotional : Option WrittenDecimal
  status : String
  historicalApproximation : Option String
  rawPayloadHash : String
  sized : multiplier.Positive ∧ tickSize.Positive ∧ lotSize.Positive ∧
    ∀ notional ∈ minNotional, notional.Positive
  /-- `valid_range`. -/
  proper : ∀ last ∈ effectiveTo, effectiveFrom < last

instance instrumentSpec_decidableEq : DecidableEq InstrumentSpec :=
  fun _ _ => decidable_of_iff _ InstrumentSpec.ext_iff.symm

namespace InstrumentSpec

/-- The range in which the specification is valid. -/
def interval (specification : InstrumentSpec) : Intervals.Interval Time :=
  ⟨specification.effectiveFrom, specification.effectiveTo, specification.proper⟩

/-- `is_effective_at`. -/
def EffectiveAt (specification : InstrumentSpec) (instant : Time) : Prop :=
  specification.effectiveFrom ≤ instant ∧ ∀ last ∈ specification.effectiveTo, instant < last

instance (specification : InstrumentSpec) (instant : Time) : Decidable (specification.EffectiveAt instant) :=
  inferInstanceAs (Decidable (_ ∧ _))

/-- The next version does not start before the previous one has ended. -/
def Succeeds (previous current : InstrumentSpec) : Prop :=
  ∃ last ∈ previous.effectiveTo, last ≤ current.effectiveFrom

instance (previous current : InstrumentSpec) : Decidable (previous.Succeeds current) :=
  inferInstanceAs (Decidable (∃ _ ∈ _, _))

/-- Two versions of one instrument with an instant in common. -/
def Overlaps (first second : InstrumentSpec) : Prop :=
  first.instrumentId = second.instrumentId ∧ ∃ instant, first.EffectiveAt instant ∧ second.EffectiveAt instant

end InstrumentSpec

inductive MasterError where
  | value (message : String)
  | lookup (instrumentId : String) (instant : Time)

def versions (specifications : List InstrumentSpec) (instrumentId : String) : List InstrumentSpec :=
  specifications.filter fun specification => specification.instrumentId = instrumentId

/-- `_validate_non_overlapping`. -/
def NonOverlapping (specifications : List InstrumentSpec) : Prop :=
  ∀ instrumentId ∈ specifications.map InstrumentSpec.instrumentId,
    ((versions specifications instrumentId).insertionSort (StartsBefore InstrumentSpec.interval)).IsChain
      InstrumentSpec.Succeeds

instance (specifications : List InstrumentSpec) : Decidable (NonOverlapping specifications) :=
  inferInstanceAs (Decidable (∀ _ ∈ _, _))

structure SymbolMaster where
  specifications : List InstrumentSpec
  nonOverlapping : NonOverlapping specifications

/-- `SymbolMaster(specifications)`. -/
def SymbolMaster.build (specifications : List InstrumentSpec) : Except MasterError SymbolMaster :=
  if nonOverlapping : NonOverlapping specifications then .ok ⟨specifications, nonOverlapping⟩
  else .error (.value "overlapping effective-dated instrument specifications")

/-- `specification_at`. -/
def SymbolMaster.specificationAt (master : SymbolMaster) (instrumentId : String) (instant : Time) :
    Except MasterError InstrumentSpec :=
  match master.specifications.filter fun specification =>
    specification.instrumentId = instrumentId ∧ specification.EffectiveAt instant with
  | [specification] => .ok specification
  | _ => .error (.lookup instrumentId instant)

section Masters

variable {specifications : List InstrumentSpec} {specification : InstrumentSpec}

theorem build_ok : SymbolMaster.build specifications = .ok master ↔
    master.specifications = specifications := by
  unfold SymbolMaster.build
  constructor
  · intro ok
    split at ok
    · cases ok
      rfl
    · cases ok
  · rintro rfl
    exact dif_pos master.nonOverlapping

/-- A master accepts the specifications of which no two overlap. -/
theorem nonOverlapping_iff : NonOverlapping specifications ↔
    specifications.Pairwise fun first second => ¬first.Overlaps second := by
  have sorted (instrumentId : String) :
      ((versions specifications instrumentId).insertionSort (StartsBefore InstrumentSpec.interval)).IsChain
          InstrumentSpec.Succeeds ↔
        (versions specifications instrumentId).Pairwise (Apart InstrumentSpec.interval) := by
    change List.IsChain (fun first second => (InstrumentSpec.interval first).Follows
      (InstrumentSpec.interval second)) _ ↔ _
    exact sorted_isChain_iff
  constructor
  · intro accepted
    refine List.pairwise_of_forall_sublist fun {first second} sub => ?_
    rintro ⟨same, meets⟩
    have listed : first ∈ specifications := sub.subset List.mem_cons_self
    have versioned : [first, second].Sublist (versions specifications first.instrumentId) := by
      have kept := sub.filter fun specification => specification.instrumentId = first.instrumentId
      simpa [versions, same] using kept
    have apart := (sorted _).mp (accepted _ (List.mem_map_of_mem listed))
    exact (List.pairwise_pair.mp (apart.sublist versioned)) meets
  · intro apart instrumentId _
    refine (sorted instrumentId).mpr ?_
    have kept := List.Pairwise.filter (fun specification => specification.instrumentId = instrumentId) apart
    refine List.Pairwise.imp_of_mem (fun {first second} here there never meets => never ⟨?_, meets⟩) kept
    have named : first.instrumentId = instrumentId := by simpa using (List.mem_filter.mp here).2
    have also : second.instrumentId = instrumentId := by simpa using (List.mem_filter.mp there).2
    rw [named, also]

end Masters

end Liki.Data
