import Mathlib.Data.List.Sort
import Mathlib.Data.String.Basic
import Mathlib.Tactic.Common
import Liki.Core
import Liki.Library.KeyedRows

/-! The values that are hashed and stored as JSON. A finite float is represented by the
decimal that `repr` writes for it, which is the shortest one that rounds to the float: no two
floats share it, and reading a number of that value gives the float back. Objects list their
fields in the order in which they stand. -/
namespace Liki.Json
open List KeyedRows

/-- A finite float, as plus or minus `digits * 10 ^ exponent` without trailing zeros. -/
structure PyFloat where
  negative : Bool
  digits : ℕ
  exponent : ℤ
  normal : digits % 10 = 0 → digits = 0 ∧ exponent = 0
  deriving DecidableEq

inductive Value where
  | null
  | bool (value : Bool)
  | int (value : ℤ)
  | float (value : PyFloat)
  | text (value : String)
  | datetime (instant : Time)
  | list (items : List Value)
  | dict (fields : List (String × Value))

abbrev Fields := List (String × Value)

namespace Value

mutual

def same : Value → Value → Bool
  | .null, .null => true
  | .bool first, .bool second => first = second
  | .int first, .int second => first = second
  | .float first, .float second => first = second
  | .text first, .text second => first = second
  | .datetime first, .datetime second => first = second
  | .list first, .list second => sameItems first second
  | .dict first, .dict second => sameFields first second
  | _, _ => false

def sameItems : List Value → List Value → Bool
  | [], [] => true
  | first :: firsts, second :: seconds => first.same second && sameItems firsts seconds
  | _, _ => false

def sameFields : Fields → Fields → Bool
  | [], [] => true
  | (key, first) :: firsts, (other, second) :: seconds =>
    key = other && first.same second && sameFields firsts seconds
  | _, _ => false

end

mutual

theorem same_iff : (first second : Value) → (first.same second ↔ first = second)
  | .list items, second => by
    cases second with
    | list others => simp [same, sameItems_iff items others]
    | _ => simp [same]
  | .dict fields, second => by
    cases second with
    | dict others => simp [same, sameFields_iff fields others]
    | _ => simp [same]
  | .null, second | .bool _, second | .int _, second | .float _, second | .text _, second
  | .datetime _, second => by cases second <;> simp [same]

theorem sameItems_iff : (firsts seconds : List Value) → (sameItems firsts seconds ↔ firsts = seconds)
  | [], seconds => by cases seconds <;> simp [sameItems]
  | first :: firsts, [] => by simp [sameItems]
  | first :: firsts, second :: seconds => by
    simp [sameItems, same_iff first second, sameItems_iff firsts seconds]

theorem sameFields_iff : (firsts seconds : Fields) → (sameFields firsts seconds ↔ firsts = seconds)
  | [], seconds => by cases seconds <;> simp [sameFields]
  | first :: firsts, [] => by simp [sameFields]
  | (key, first) :: firsts, (other, second) :: seconds => by
    simp [sameFields, same_iff first second, sameFields_iff firsts seconds, and_assoc]

end

instance : DecidableEq Value := fun first second => decidable_of_iff _ (same_iff first second)

mutual

def transform (scalar : Value → Value) (arrange : Fields → Fields) : Value → Value
  | .list items => .list (transformItems scalar arrange items)
  | .dict fields => .dict (arrange (transformFields scalar arrange fields))
  | value => scalar value

def transformItems (scalar : Value → Value) (arrange : Fields → Fields) : List Value → List Value
  | [] => []
  | item :: items => item.transform scalar arrange :: transformItems scalar arrange items

def transformFields (scalar : Value → Value) (arrange : Fields → Fields) : Fields → Fields
  | [] => []
  | (key, value) :: fields => (key, value.transform scalar arrange) :: transformFields scalar arrange fields

end

mutual

def Every (scalar : Value → Prop) (keys : List String → Prop) : Value → Prop
  | .list items => EveryItem scalar keys items
  | .dict fields => keys (fields.map Prod.fst) ∧ EveryField scalar keys fields
  | value => scalar value

def EveryItem (scalar : Value → Prop) (keys : List String → Prop) : List Value → Prop
  | [] => True
  | item :: items => item.Every scalar keys ∧ EveryItem scalar keys items

def EveryField (scalar : Value → Prop) (keys : List String → Prop) : Fields → Prop
  | [] => True
  | (_, value) :: fields => value.Every scalar keys ∧ EveryField scalar keys fields

end

mutual

def decideEvery {scalar : Value → Prop} {keys : List String → Prop} [DecidablePred scalar]
    [DecidablePred keys] : (value : Value) → Decidable (value.Every scalar keys)
  | .list items => decideEveryItem items
  | .dict fields =>
    have : Decidable (EveryField scalar keys fields) := decideEveryField fields
    inferInstanceAs (Decidable (keys (fields.map Prod.fst) ∧ EveryField scalar keys fields))
  | .null | .bool _ | .int _ | .float _ | .text _ | .datetime _ => inferInstanceAs (Decidable (scalar _))

def decideEveryItem {scalar : Value → Prop} {keys : List String → Prop} [DecidablePred scalar]
    [DecidablePred keys] : (items : List Value) → Decidable (EveryItem scalar keys items)
  | [] => .isTrue trivial
  | item :: items =>
    have : Decidable (item.Every scalar keys) := decideEvery item
    have : Decidable (EveryItem scalar keys items) := decideEveryItem items
    inferInstanceAs (Decidable (item.Every scalar keys ∧ EveryItem scalar keys items))

def decideEveryField {scalar : Value → Prop} {keys : List String → Prop} [DecidablePred scalar]
    [DecidablePred keys] : (fields : Fields) → Decidable (EveryField scalar keys fields)
  | [] => .isTrue trivial
  | (_, value) :: fields =>
    have : Decidable (value.Every scalar keys) := decideEvery value
    have : Decidable (EveryField scalar keys fields) := decideEveryField fields
    inferInstanceAs (Decidable (value.Every scalar keys ∧ EveryField scalar keys fields))

end

instance {scalar : Value → Prop} {keys : List String → Prop} [DecidablePred scalar]
    [DecidablePred keys] (value : Value) : Decidable (value.Every scalar keys) :=
  decideEvery value

def Scalar : Value → Prop
  | .list _ | .dict _ => False
  | _ => True

variable {scalar : Value → Value} {arrange : Fields → Fields} {value : Value} {fields : Fields}

theorem transform_scalar (leaf : value.Scalar) : value.transform scalar arrange = scalar value := by
  cases value with
  | list => cases leaf
  | dict => cases leaf
  | _ => rfl

theorem transformFields_eq (fields : Fields) : transformFields scalar arrange fields =
    fields.map fun field => (field.1, field.2.transform scalar arrange) := by
  induction fields with
  | nil => rfl
  | cons _ _ ih => rw [transformFields, ih, map_cons]

@[simp] theorem transformFields_keys (fields : Fields) :
    (transformFields scalar arrange fields).map Prod.fst = fields.map Prod.fst := by
  rw [transformFields_eq, map_map]
  rfl

def keyOrder (first second : String × Value) : Prop := first.1 ≤ second.1

instance : DecidableRel keyOrder := fun _ _ => inferInstanceAs (Decidable (_ ≤ _))

instance : Std.Total keyOrder := ⟨fun first second => le_total first.1 second.1⟩

instance : IsTrans _ keyOrder := ⟨fun _ _ _ => le_trans⟩

/-- `sort_keys=True`. -/
def sortKeys (fields : Fields) : Fields := fields.insertionSort keyOrder

/-- The value with the fields of every object sorted by their keys. Two values are equal but
for the order of fields when their sorted forms are the same. -/
def sorted (value : Value) : Value := value.transform id sortKeys

/-- No object has two fields of one key, as in a `dict`. -/
def Keyed (value : Value) : Prop := value.Every (fun _ => True) List.Nodup

theorem sortKeys_perm (fields : Fields) : (sortKeys fields).Perm fields :=
  perm_insertionSort keyOrder fields

theorem insertionSort_congr {order : String × Value → String × Value → Prop} [DecidableRel order]
    [Std.Total order] [IsTrans _ order]
    (antisymm : ∀ first second, order first second → order second first → first.1 = second.1)
    (perm : fields.Perm others) (distinct : (fields.map Prod.fst).Nodup) :
    fields.insertionSort order = others.insertionSort order := by
  have arranged : (fields.insertionSort order).Perm (others.insertionSort order) :=
    (perm_insertionSort order fields).trans (perm.trans (perm_insertionSort order others).symm)
  refine arranged.eq_of_pairwise ?_ (pairwise_insertionSort order fields)
    (pairwise_insertionSort order others)
  intro first second here there below above
  have named : first.1 = second.1 := antisymm first second below above
  have held : second ∈ fields :=
    perm.mem_iff.mpr ((perm_insertionSort order others).mem_iff.mp there)
  exact inj_on_of_nodup_map distinct ((perm_insertionSort order fields).mem_iff.mp here) held named

theorem sortKeys_congr (perm : fields.Perm others) (distinct : (fields.map Prod.fst).Nodup) :
    sortKeys fields = sortKeys others :=
  insertionSort_congr (fun _ _ => le_antisymm) perm distinct

theorem sortKeys_inj (keys : fields.map Prod.fst = others.map Prod.fst)
    (distinct : (fields.map Prod.fst).Nodup) :
    sortKeys fields = sortKeys others ↔ fields = others := by
  refine ⟨fun same => ?_, fun same => by rw [same]⟩
  have perm : fields.Perm others := (sortKeys_perm fields).symm.trans (same ▸ sortKeys_perm others)
  refine ext_getElem perm.length_eq fun index here there => ?_
  have named : (fields[index]).1 = (others[index]).1 := by
    have column := congrArg (fun keys => keys[index]?) keys
    simpa [here, there] using column
  exact inj_on_of_nodup_map (keys ▸ distinct) (perm.mem_iff.mp (getElem_mem here))
    (getElem_mem there) named

variable {other : Value → Value} {final : Fields → Fields}

mutual

/-- However the fields are arranged, an order that does not depend on it is the same
afterwards as at once. -/
theorem transform_transform (leaf : ∀ value : Value, value.Scalar → (scalar value).Scalar)
    (perm : ∀ fields : Fields, (fields.map Prod.fst).Nodup → (arrange fields).Perm fields)
    (canonical : ∀ fields others : Fields, fields.Perm others → (fields.map Prod.fst).Nodup →
      final fields = final others) :
    (value : Value) → value.Keyed → (value.transform scalar arrange).transform other final =
      value.transform (other ∘ scalar) final
  | .list items, keyed => by
    rw [transform, transform, transform]
    exact congrArg _ (transformItems_transform leaf perm canonical items keyed)
  | .dict fields, keyed => by
    rw [transform, transform, transform]
    have distinct : ((transformFields scalar arrange fields).map Prod.fst).Nodup := by
      rw [transformFields_keys]
      exact keyed.1
    have arranged := (perm _ distinct).map fun field => (field.1, field.2.transform other final)
    simp only [← transformFields_eq] at arranged
    refine congrArg _ ((canonical _ _ arranged ?_).trans
      (congrArg _ (transformFields_transform leaf perm canonical fields keyed.2)))
    rw [transformFields_keys, ((perm _ distinct).map _).nodup_iff]
    exact distinct
  | .null, _ | .bool _, _ | .int _, _ | .float _, _ | .text _, _ | .datetime _, _ =>
    transform_scalar (leaf _ trivial)

theorem transformItems_transform (leaf : ∀ value : Value, value.Scalar → (scalar value).Scalar)
    (perm : ∀ fields : Fields, (fields.map Prod.fst).Nodup → (arrange fields).Perm fields)
    (canonical : ∀ fields others : Fields, fields.Perm others → (fields.map Prod.fst).Nodup →
      final fields = final others) :
    (items : List Value) → EveryItem (fun _ => True) List.Nodup items →
      transformItems other final (transformItems scalar arrange items) =
        transformItems (other ∘ scalar) final items
  | [], _ => rfl
  | item :: items, keyed =>
    congrArg₂ _ (transform_transform leaf perm canonical item keyed.1)
      (transformItems_transform leaf perm canonical items keyed.2)

theorem transformFields_transform (leaf : ∀ value : Value, value.Scalar → (scalar value).Scalar)
    (perm : ∀ fields : Fields, (fields.map Prod.fst).Nodup → (arrange fields).Perm fields)
    (canonical : ∀ fields others : Fields, fields.Perm others → (fields.map Prod.fst).Nodup →
      final fields = final others) :
    (fields : Fields) → EveryField (fun _ => True) List.Nodup fields →
      transformFields other final (transformFields scalar arrange fields) =
        transformFields (other ∘ scalar) final fields
  | [], _ => rfl
  | (key, value) :: fields, keyed =>
    congrArg₂ (fun value fields => (key, value) :: fields)
      (transform_transform leaf perm canonical value keyed.1)
      (transformFields_transform leaf perm canonical fields keyed.2)

end

theorem sorted_transform
    (canonical : ∀ fields others : Fields, fields.Perm others → (fields.map Prod.fst).Nodup →
      final fields = final others) (keyed : value.Keyed) :
    value.sorted.transform scalar final = value.transform scalar final :=
  transform_transform (fun _ leaf => leaf) (fun fields _ => sortKeys_perm fields) canonical value keyed

mutual

theorem transform_eq_sorted : (value : Value) → value.Keyed →
    (value.transform scalar sortKeys = value.sorted ↔
      value.Every (fun value => scalar value = value) fun _ => True)
  | .list items, keyed => by
    rw [transform, sorted, transform, list.injEq]
    exact transformItems_eq items keyed
  | .dict fields, keyed => by
    rw [transform, sorted, transform, dict.injEq, sortKeys_inj (by simp) (by simpa using keyed.1)]
    exact (transformFields_eq_sorted fields keyed.2).trans (and_iff_right trivial).symm
  | .null, _ | .bool _, _ | .int _, _ | .float _, _ | .text _, _ | .datetime _, _ => Iff.rfl

theorem transformItems_eq : (items : List Value) → EveryItem (fun _ => True) List.Nodup items →
    (transformItems scalar sortKeys items = transformItems id sortKeys items ↔
      EveryItem (fun value => scalar value = value) (fun _ => True) items)
  | [], _ => iff_of_true rfl trivial
  | item :: items, keyed => by
    rw [transformItems, transformItems, cons.injEq]
    exact and_congr (transform_eq_sorted item keyed.1) (transformItems_eq items keyed.2)

theorem transformFields_eq_sorted : (fields : Fields) → EveryField (fun _ => True) List.Nodup fields →
    (transformFields scalar sortKeys fields = transformFields id sortKeys fields ↔
      EveryField (fun value => scalar value = value) (fun _ => True) fields)
  | [], _ => iff_of_true rfl trivial
  | (key, value) :: fields, keyed => by
    rw [transformFields, transformFields, cons.injEq, Prod.mk.injEq, eq_self_iff_true, true_and]
    exact and_congr (transform_eq_sorted value keyed.1) (transformFields_eq_sorted fields keyed.2)

end

/-- A natural number as a double: 53 significant bits, ties to even. -/
def nearestDouble (number : ℕ) : ℕ :=
  let unit := 2 ^ (number.log2 - 52)
  let down := number / unit
  let rest := 2 * (number % unit)
  (if unit < rest ∨ (unit = rest ∧ down % 2 = 1) then down + 1 else down) * unit

def number : Value → Value
  | .bool value => .int (if value then 1 else 0)
  | .float value =>
    if 0 ≤ value.exponent then
      .int ((if value.negative then -1 else 1) * nearestDouble (value.digits * 10 ^ value.exponent.toNat))
    else .float value
  | value => value

/-- `==`: numbers by what they stand for, objects without the order of their fields. -/
def Equal (first second : Value) : Prop :=
  first.sorted.transform number id = second.sorted.transform number id

instance (first second : Value) : Decidable (first.Equal second) := inferInstanceAs (Decidable (_ = _))

theorem Equal.refl (value : Value) : value.Equal value := rfl

theorem Equal.symm {first second : Value} (equal : first.Equal second) : second.Equal first := Eq.symm equal

theorem Equal.trans {first second third : Value} (earlier : first.Equal second) (later : second.Equal third) :
    first.Equal third := Eq.trans earlier later

theorem everyField_iff {leaf : Value → Prop} {keys : List String → Prop} :
    EveryField leaf keys fields ↔ ∀ field ∈ fields, field.2.Every leaf keys := by
  induction fields with
  | nil => simp [EveryField]
  | cons _ _ ih => simp [EveryField, ih]

theorem every_of_scalar {keys : List String → Prop} (leaf : value.Scalar) : value.Every (fun _ => True) keys := by
  cases value with
  | list => cases leaf
  | dict => cases leaf
  | _ => trivial

mutual

theorem transform_keyed (leaf : ∀ value : Value, value.Scalar → (scalar value).Scalar)
    (perm : ∀ fields : Fields, (fields.map Prod.fst).Nodup → (arrange fields).Perm fields) :
    (value : Value) → value.Keyed → (value.transform scalar arrange).Keyed
  | .list items, keyed => by
    rw [transform]
    exact transformItems_keyed leaf perm items keyed
  | .dict fields, keyed => by
    rw [transform]
    have distinct : ((transformFields scalar arrange fields).map Prod.fst).Nodup := by
      rw [transformFields_keys]
      exact keyed.1
    have below := everyField_iff.mp (transformFields_keyed leaf perm fields keyed.2)
    refine ⟨((perm _ distinct).map _).nodup_iff.mpr distinct, everyField_iff.mpr fun field member => ?_⟩
    exact below field ((perm _ distinct).mem_iff.mp member)
  | .null, _ | .bool _, _ | .int _, _ | .float _, _ | .text _, _ | .datetime _, _ =>
    every_of_scalar (leaf _ trivial)

theorem transformItems_keyed (leaf : ∀ value : Value, value.Scalar → (scalar value).Scalar)
    (perm : ∀ fields : Fields, (fields.map Prod.fst).Nodup → (arrange fields).Perm fields) :
    (items : List Value) → EveryItem (fun _ => True) List.Nodup items →
      EveryItem (fun _ => True) List.Nodup (transformItems scalar arrange items)
  | [], _ => trivial
  | item :: items, keyed =>
    ⟨transform_keyed leaf perm item keyed.1, transformItems_keyed leaf perm items keyed.2⟩

theorem transformFields_keyed (leaf : ∀ value : Value, value.Scalar → (scalar value).Scalar)
    (perm : ∀ fields : Fields, (fields.map Prod.fst).Nodup → (arrange fields).Perm fields) :
    (fields : Fields) → EveryField (fun _ => True) List.Nodup fields →
      EveryField (fun _ => True) List.Nodup (transformFields scalar arrange fields)
  | [], _ => trivial
  | (_, value) :: fields, keyed =>
    ⟨transform_keyed leaf perm value keyed.1, transformFields_keyed leaf perm fields keyed.2⟩

end

end Value

/-- A `dict`, whose keys are distinct, and so are those of the objects in it. -/
structure Dict where
  fields : Fields
  keyed : (Value.dict fields).Keyed

namespace Fields

variable {fields : Fields} {key : String} {value : Value}

/-- `fields.get(key)`. -/
def get (fields : Fields) (key : String) : Value :=
  ((find Prod.fst key fields).map Prod.snd).getD .null

/-- `{**fields, key: value}`. -/
def set (fields : Fields) (key : String) (value : Value) : Fields :=
  upsert Prod.fst (key, value) fields

theorem get_set : (set fields key value).get key = value := by
  simp [get, set, find_upsert]

theorem every_set {leaf : Value → Prop} {keys : List String → Prop}
    (before : (Value.dict fields).Every leaf keys) (new : value.Every leaf keys)
    (keep : keys (fields.map Prod.fst) → keys ((set fields key value).map Prod.fst)) :
    (Value.dict (set fields key value)).Every leaf keys := by
  refine ⟨keep before.1, Value.everyField_iff.mpr fun field member => ?_⟩
  rcases mem_upsert member with rfl | older
  · exact new
  · exact Value.everyField_iff.mp before.2 field older

theorem keyed_set (before : (Value.dict fields).Keyed) (new : value.Keyed) :
    (Value.dict (set fields key value)).Keyed :=
  every_set before new fun distinct => distinct_upsert distinct _

theorem get_perm {others : Fields} (perm : fields.Perm others) (distinct : (fields.map Prod.fst).Nodup) :
    fields.get key = others.get key := by
  rw [get, get, find_perm perm distinct]

theorem get_transform (nothing : scalar .null = .null)
    (perm : ∀ fields : Fields, (fields.map Prod.fst).Nodup → (arrange fields).Perm fields)
    (distinct : (fields.map Prod.fst).Nodup) :
    get (arrange (Value.transformFields scalar arrange fields)) key =
      (fields.get key).transform scalar arrange := by
  have kept : ((Value.transformFields scalar arrange fields).map Prod.fst).Nodup := by
    rwa [Value.transformFields_keys]
  have mapped : find Prod.fst key (fields.map fun field => (field.1, field.2.transform scalar arrange)) =
      (find Prod.fst key fields).map fun field => (field.1, field.2.transform scalar arrange) :=
    find_map fun _ => rfl
  rw [get_perm (perm _ kept) (((perm _ kept).map _).nodup_iff.mpr kept), Value.transformFields_eq, get, get,
    mapped]
  cases find Prod.fst key fields with
  | none => exact nothing.symm
  | some => rfl

end Fields

end Liki.Json
