import Liki.Json.Values
import Mathlib.Tactic.Ring

/-! Numbers on their way through the database. Python writes an integer in its digits and a
float as `repr` does; `jsonb` keeps the exact decimal with its scale and prints it without an
exponent; and reading takes a number without a fraction for an integer. An integer survives
this at every size. A float survives unless its text loses the sign of a zero, or the point
and the exponent that mark it as a float. -/
namespace Liki.Json
open Prod Nat Value

/-- A JSON number: a sign, a whole part, the number of decimal places with the digits in them,
and an exponent. -/
structure NumberText where
  negative : Bool
  whole : ℕ
  fraction : Option (ℕ × ℕ)
  exponent : Option ℤ

def digitCount (number : ℕ) : ℕ := (toDigits 10 number).length

theorem digitCount_pos (number : ℕ) : 0 < digitCount number := length_toDigits_pos

theorem digitCount_le {number places : ℕ} (some : 0 < places) :
    digitCount number ≤ places ↔ number < 10 ^ places :=
  length_toDigits_le_iff (by decide) some

/-- `int.__repr__`. -/
def intText (number : ℤ) : NumberText := ⟨number < 0, number.natAbs, none, none⟩

/-- The digits split behind some decimal places, with at least one place. -/
def NumberText.positional (negative : Bool) (digits places : ℕ) : NumberText :=
  ⟨negative, digits / 10 ^ places, some (places, digits % 10 ^ places), none⟩

/-- `float.__repr__`: the shortest digits, with an exponent when the point is more than
sixteen places to the right of their beginning or four to the left. -/
def PyFloat.repr (number : PyFloat) : NumberText :=
  let count := digitCount number.digits
  let point : ℤ := count + number.exponent
  if -4 < point ∧ point ≤ 16 then
    if 0 ≤ number.exponent then .positional number.negative (number.digits * 10 ^ number.exponent.toNat * 10) 1
    else .positional number.negative number.digits (-number.exponent).toNat
  else
    { negative := number.negative
      whole := number.digits / 10 ^ (count - 1)
      fraction := if count = 1 then none else some (count - 1, number.digits % 10 ^ (count - 1))
      exponent := some (point - 1) }

/-- A `numeric`: the digits without the point, and how many of them stand behind it. Zero has
no sign. -/
structure Numeric where
  negative : Bool
  unscaled : ℕ
  scale : ℕ

/-- The text without its point, and the power of ten that it is scaled by. -/
def NumberText.unscaled (number : NumberText) : ℕ × ℤ :=
  match number.fraction with
  | none => (number.whole, number.exponent.getD 0)
  | some (places, digits) => (number.whole * 10 ^ places + digits, number.exponent.getD 0 - places)

/-- What a `numeric` keeps of a text. -/
def NumberText.stored (number : NumberText) : Numeric :=
  let (unscaled, exponent) := number.unscaled
  { negative := number.negative && unscaled ≠ 0
    unscaled := unscaled * 10 ^ exponent.toNat
    scale := (-exponent).toNat }

/-- What a `numeric` prints. -/
def Numeric.printed (number : Numeric) : NumberText :=
  if number.scale = 0 then ⟨number.negative, number.unscaled, none, none⟩
  else .positional number.negative number.unscaled number.scale

def stripped : ℕ → ℕ → ℤ → ℕ × ℤ
  | 0, digits, exponent => (digits, exponent)
  | places + 1, digits, exponent =>
    if digits % 10 = 0 then stripped places (digits / 10) (exponent + 1) else (digits, exponent)

variable {exponent : ℤ}

theorem stripped_normal {places digits : ℕ} (bound : digits < 10 ^ places) (nonzero : digits ≠ 0) :
    (stripped places digits exponent).1 % 10 ≠ 0 := by
  induction places generalizing digits exponent with
  | zero =>
    rw [pow_zero, lt_one_iff] at bound
    exact absurd bound nonzero
  | succ places ih =>
    unfold stripped
    split
    · rename_i trailing
      refine ih ?_ (by omega)
      rw [pow_succ] at bound
      omega
    · rename_i normal
      exact normal

theorem stripped_scaled {digits places zeros : ℕ} (normal : digits % 10 ≠ 0) (room : zeros ≤ places) :
    stripped places (digits * 10 ^ zeros) exponent = (digits, exponent + zeros) := by
  induction zeros generalizing places exponent with
  | zero =>
    cases places with
    | zero => simp [stripped]
    | succ => simp [stripped, normal]
  | succ zeros ih =>
    obtain ⟨places, rfl⟩ : ∃ more, places = more + 1 := ⟨places - 1, by omega⟩
    have shifted : digits * 10 ^ (zeros + 1) = digits * 10 ^ zeros * 10 := by ring
    rw [stripped, shifted, if_pos (Nat.mul_mod_left _ _), Nat.mul_div_cancel _ (by decide),
      ih (by omega)]
    simp only [mk.injEq, true_and]
    push_cast
    ring

/-- `float` of a decimal that `repr` wrote. -/
def PyFloat.read (negative : Bool) (digits : ℕ) (exponent : ℤ) : PyFloat :=
  if zero : digits = 0 then ⟨negative, 0, 0, fun _ => ⟨rfl, rfl⟩⟩
  else
    { negative := negative
      digits := (stripped (digitCount digits) digits exponent).1
      exponent := (stripped (digitCount digits) digits exponent).2
      normal := fun trailing => absurd trailing
        (stripped_normal ((digitCount_le (digitCount_pos digits)).mp le_rfl) zero) }

/-- `json.loads` of a number. -/
def NumberText.read (number : NumberText) : Value :=
  if number.fraction = none ∧ number.exponent = none then
    .int (if number.negative then -number.whole else number.whole)
  else .float (.read number.negative number.unscaled.1 number.unscaled.2)

variable {negative : Bool} {digits places : ℕ} {number : PyFloat}

@[simp] theorem positional_unscaled :
    (NumberText.positional negative digits places).unscaled = (digits, -(places : ℤ)) := by
  simp [NumberText.positional, NumberText.unscaled, div_add_mod']

theorem printed_read (number : Numeric) : number.printed.read =
    if number.scale = 0 then .int (if number.negative then -number.unscaled else number.unscaled)
    else .float (.read number.negative number.unscaled (-number.scale)) := by
  unfold Numeric.printed
  split
  · rfl
  · have marked : ¬((NumberText.positional number.negative number.unscaled number.scale).fraction = none ∧
        (NumberText.positional number.negative number.unscaled number.scale).exponent = none) :=
      fun plain => nomatch plain.1
    rw [NumberText.read, if_neg marked, positional_unscaled]
    rfl

theorem int_kept (value : ℤ) : (intText value).stored.printed.read = .int value := by
  have stored : (intText value).stored = ⟨value < 0 && value.natAbs ≠ 0, value.natAbs, 0⟩ := by
    simp [intText, NumberText.stored, NumberText.unscaled]
  rw [printed_read, stored, if_pos rfl, int.injEq]
  by_cases below : value < 0
  · have nonzero : value.natAbs ≠ 0 := by omega
    rw [if_pos (by simp [below, nonzero])]
    dsimp only
    omega
  · rw [if_neg (by simp [below])]
    dsimp only
    omega

theorem read_scaled (zeros : ℕ) (exponent : ℤ) (normal : number.digits % 10 ≠ 0)
    (shifted : exponent + zeros = number.exponent) :
    PyFloat.read number.negative (number.digits * 10 ^ zeros) exponent = number := by
  have nonzero : number.digits * 10 ^ zeros ≠ 0 := by
    refine Nat.mul_ne_zero (fun zero => normal (by rw [zero])) (Nat.pow_pos (by decide)).ne'
  have room : zeros ≤ digitCount (number.digits * 10 ^ zeros) := by
    by_contra short
    have below := (digitCount_le (by omega)).mp (Nat.le_of_not_le short)
    have least : 10 ^ zeros ≤ number.digits * 10 ^ zeros := Nat.le_mul_of_pos_left _ (by omega)
    exact absurd below (Nat.not_lt.mpr least)
  obtain ⟨_, _, _, _⟩ := number
  rw [PyFloat.read, dif_neg nonzero, PyFloat.mk.injEq, stripped_scaled normal room]
  exact ⟨rfl, rfl, shifted⟩

/-- The float is not a negative zero, and not a whole number from `1e16` on. -/
def PyFloat.Survives (number : PyFloat) : Prop :=
  (number.digits = 0 → ¬number.negative) ∧
    (0 ≤ number.exponent → number.digits * 10 ^ number.exponent.toNat < 10 ^ 16)

instance (number : PyFloat) : Decidable number.Survives := inferInstanceAs (Decidable (_ ∧ _))

theorem whole_iff (whole : 0 ≤ number.exponent) :
    number.digits * 10 ^ number.exponent.toNat < 10 ^ 16 ↔
      (digitCount number.digits : ℤ) + number.exponent ≤ 16 := by
  obtain ⟨zeros, exact⟩ := Int.eq_ofNat_of_zero_le whole
  rw [exact, Int.toNat_natCast]
  by_cases room : zeros < 16
  · have split : (10 : ℕ) ^ 16 = 10 ^ (16 - zeros) * 10 ^ zeros := by
      rw [← Nat.pow_add, Nat.sub_add_cancel room.le]
    rw [split, Nat.mul_lt_mul_right (Nat.pow_pos (by decide)), ← digitCount_le (by omega)]
    omega
  · have counted := digitCount_pos number.digits
    refine iff_of_false (fun below => ?_) (by omega)
    have large : 10 ^ 16 ≤ 10 ^ zeros := Nat.pow_le_pow_right (by decide) (by omega)
    by_cases zero : number.digits = 0
    · have flat := (number.normal (by rw [zero])).2
      omega
    · have least : 10 ^ zeros ≤ number.digits * 10 ^ zeros := Nat.le_mul_of_pos_left _ (by omega)
      omega

theorem repr_small (whole : 0 ≤ number.exponent)
    (small : (digitCount number.digits : ℤ) + number.exponent ≤ 16) :
    number.repr = .positional number.negative (number.digits * 10 ^ (number.exponent.toNat + 1)) 1 := by
  have form : -4 < (digitCount number.digits : ℤ) + number.exponent ∧
      (digitCount number.digits : ℤ) + number.exponent ≤ 16 := ⟨by omega, small⟩
  unfold PyFloat.repr
  dsimp only
  rw [if_pos form, if_pos whole, pow_succ, mul_assoc]

theorem repr_exact
    (other : 0 ≤ number.exponent → ¬(digitCount number.digits : ℤ) + number.exponent ≤ 16) :
    number.repr.negative = number.negative ∧ number.repr.unscaled = (number.digits, number.exponent) := by
  have counted := digitCount_pos number.digits
  unfold PyFloat.repr
  dsimp only
  split_ifs with form whole one
  · exact absurd form.2 (other whole)
  · refine ⟨rfl, ?_⟩
    rw [positional_unscaled]
    simp only [mk.injEq, true_and]
    omega
  · refine ⟨rfl, ?_⟩
    simp only [NumberText.unscaled, one, Option.getD_some, mk.injEq]
    omega
  · refine ⟨rfl, ?_⟩
    simp only [NumberText.unscaled, div_add_mod', Option.getD_some, mk.injEq, true_and]
    omega

theorem fraction_kept (fraction : number.exponent < 0) :
    number.repr.stored.printed.read = .float number := by
  have other : 0 ≤ number.exponent → ¬(digitCount number.digits : ℤ) + number.exponent ≤ 16 :=
    fun whole => by omega
  obtain ⟨sign, exact⟩ := repr_exact other
  have normal : number.digits % 10 ≠ 0 := fun trailing => by
    have flat := (number.normal trailing).2
    omega
  have nonzero : number.digits ≠ 0 := fun zero => normal (by rw [zero])
  have stored : number.repr.stored = ⟨number.negative, number.digits, (-number.exponent).toNat⟩ := by
    have flat : number.exponent.toNat = 0 := by omega
    simp [NumberText.stored, sign, exact, nonzero, flat]
  rw [printed_read, stored, if_neg (by dsimp only; omega)]
  have kept : PyFloat.read number.negative (number.digits * 10 ^ 0) number.exponent = number :=
    read_scaled 0 number.exponent normal (by simp)
  rw [pow_zero, mul_one] at kept
  have scale : -(((-number.exponent).toNat : ℕ) : ℤ) = number.exponent := by omega
  rw [scale, kept]

theorem small_kept (whole : 0 ≤ number.exponent)
    (small : (digitCount number.digits : ℤ) + number.exponent ≤ 16) :
    number.repr.stored.printed.read = .float number ↔ (number.digits = 0 → ¬number.negative) := by
  have stored : number.repr.stored = ⟨number.negative && number.digits ≠ 0,
      number.digits * 10 ^ (number.exponent.toNat + 1), 1⟩ := by
    rw [repr_small whole small]
    simp [NumberText.stored, NumberText.positional, NumberText.unscaled, div_add_mod']
  rw [printed_read, stored, if_neg one_ne_zero, float.injEq]
  by_cases zero : number.digits = 0
  · obtain ⟨_, digits, exponent, normal⟩ := number
    obtain rfl : digits = 0 := zero
    obtain rfl : exponent = 0 := (normal rfl).2
    simp [PyFloat.read]
  · refine iff_of_true ?_ fun none => absurd none zero
    have normal : number.digits % 10 ≠ 0 := fun trailing => zero (number.normal trailing).1
    have kept : PyFloat.read number.negative (number.digits * 10 ^ (number.exponent.toNat + 1)) (-1) =
        number := read_scaled (number.exponent.toNat + 1) (-1) normal (by omega)
    simpa [zero] using kept

theorem float_kept (number : PyFloat) :
    number.repr.stored.printed.read = .float number ↔ number.Survives := by
  unfold PyFloat.Survives
  by_cases whole : 0 ≤ number.exponent
  · rw [whole_iff whole, forall_prop_of_true whole]
    by_cases small : (digitCount number.digits : ℤ) + number.exponent ≤ 16
    · rw [small_kept whole small]
      exact (and_iff_left small).symm
    · refine iff_of_false (fun kept => ?_) fun survives => small survives.2
      have large : 0 ≤ number.exponent → ¬(digitCount number.digits : ℤ) + number.exponent ≤ 16 :=
        fun _ => small
      obtain ⟨_, exact⟩ := repr_exact large
      have scale : number.repr.stored.scale = 0 := by
        simp [NumberText.stored, exact, whole]
      rw [printed_read, if_pos scale] at kept
      cases kept
  · refine iff_of_true (fraction_kept (by omega)) ⟨fun zero => ?_, fun flat => absurd flat whole⟩
    have flat := (number.normal (by rw [zero])).2
    omega

def Value.restored : Value → Value
  | .int value => (intText value).stored.printed.read
  | .float value => value.repr.stored.printed.read
  | value => value

def Value.Kept : Value → Prop
  | .float value => value.Survives
  | _ => True

instance : (value : Value) → Decidable value.Kept
  | .float value => inferInstanceAs (Decidable value.Survives)
  | .null | .bool _ | .int _ | .text _ | .datetime _ | .list _ | .dict _ => .isTrue trivial

theorem restored_eq (value : Value) : value.restored = value ↔ value.Kept := by
  cases value with
  | int value => exact iff_of_true (int_kept value) trivial
  | float value => exact float_kept value
  | _ => exact iff_of_true rfl trivial

theorem restored_scalar (value : Value) (leaf : value.Scalar) : value.restored.Scalar := by
  cases value with
  | int =>
    rw [restored, int_kept]
    trivial
  | float =>
    rw [restored, printed_read]
    split <;> trivial
  | list => cases leaf
  | dict => cases leaf
  | _ => trivial

end Liki.Json
