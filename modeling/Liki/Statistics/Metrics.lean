import Mathlib.Algebra.Order.Field.Rat
import Liki.Library.Drawdowns
import Liki.Statistics.FalseDiscoveries

/-! The registered metrics of an equity series, for evidence and not for accounts. -/
namespace Liki.Statistics
open Drawdowns

def maximumDrawdownId : String := "maximum-drawdown.v1"

/-- `values / np.maximum.accumulate(values) - 1`, where each operation is rounded. -/
def drawdowns (round : ℚ → ℚ) (values : List ℚ) : List ℚ :=
  (values.zip (runningPeaks values)).map fun (value, peak) => round (round (value / peak) - 1)

/-- `maximum_drawdown`. A number that is not finite is missing. -/
def maximumDrawdown (round : ℚ → ℚ) (equity : List (Option ℚ)) (provenance : SearchProvenance) : MetricResult :=
  if equity = [] then
    .exceptional .insufficientData maximumDrawdownId provenance.provenanceIds "empty equity series"
  else if ∃ number ∈ equity, ¬∃ value ∈ number, 0 < value then
    .exceptional .numericError maximumDrawdownId provenance.provenanceIds "equity must be finite and positive"
  else
    ⟨.value, (drawdowns round (equity.filterMap id)).min?, maximumDrawdownId, provenance.provenanceIds,
      ["negative sign denotes a loss"], none⟩

theorem drawdowns_points (curve : ℕ → ℚ) (horizon : ℕ) :
    (drawdowns id (points curve horizon)).min? = some (-deepest curve horizon) := by
  have declines : drawdowns id (points curve horizon) = points (fun time => -decline curve time) horizon := by
    rw [drawdowns, runningPeaks_points, zip_points, map_points]
    simp only [decline, id_eq, neg_sub]
  rw [declines, min?_points, deepest]

theorem maximumDrawdown_positive (some : equity ≠ []) (positive : ∀ value ∈ equity, 0 < value)
    (round : ℚ → ℚ) (provenance : SearchProvenance) :
    maximumDrawdown round (equity.map Option.some) provenance =
      ⟨.value, (drawdowns round equity).min?, maximumDrawdownId, provenance.provenanceIds,
        ["negative sign denotes a loss"], none⟩ := by
  have sound : ¬∃ number ∈ equity.map Option.some, ¬∃ value ∈ number, 0 < value := by
    rintro ⟨_, member, absent⟩
    obtain ⟨value, inside, rfl⟩ := List.mem_map.mp member
    exact absent ⟨value, rfl, positive value inside⟩
  rw [maximumDrawdown, if_neg (by simpa using some), if_neg sound, List.filterMap_map]
  simp

end Liki.Statistics
