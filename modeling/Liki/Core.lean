import Mathlib.Data.Int.Notation
import Mathlib.Data.Int.Order.Basic
import Liki.Library.DecimalArithmetic

/-! What every service shares: instants, the two decimal contexts the code
computes in, and blank text. -/
namespace Liki
open DecimalArithmetic

/-- An aware `datetime`, in microseconds. -/
abbrev Time := ℤ

/-- A `timedelta`, in microseconds. -/
abbrev Duration := ℤ

/-- The order of instants that computes: rows are picked by it, and the complete
order of the integers does not. -/
instance : Preorder Time := Int.instLinearOrder.toPreorder

/-- Python's default context, and the one the replay pins: 28 significant
digits, ties to even. -/
def prec28 : DecimalContext := ⟨some 28⟩

theorem prec28_keepsDigits : prec28.KeepsDigits := by
  intro digits kept
  cases kept
  norm_num

/-- The characters `str.strip` removes. -/
def whitespace : List Char :=
  [9, 10, 11, 12, 13, 28, 29, 30, 31, 32, 133, 160, 5760, 8192, 8193, 8194, 8195, 8196, 8197, 8198,
    8199, 8200, 8201, 8202, 8232, 8233, 8239, 8287, 12288].map Char.ofNat

/-- `not text.strip()`: nothing is left once white space is removed. -/
def blank (text : String) : Bool := text.toList.all fun character => whitespace.contains character

end Liki
