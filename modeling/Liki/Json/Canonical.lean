import Liki.Json.Numbers

/-! The canonical text of a value, whose digest is its content hash, and what `jsonb` gives
back of a value. The text is a function of the value's sorted form, so a value has the hash
that it was stored under as long as its sorted form comes back. -/
namespace Liki.Json
open Prod

def padded (width : ℕ) (digits : List Char) : List Char :=
  List.replicate (width - digits.length) '0' ++ digits

def decimalText (number : ℕ) : List Char := Nat.toDigits 10 number

namespace NumberText

def fractionText (number : NumberText) : List Char :=
  match number.fraction with
  | none => []
  | some (places, digits) => ".".toList ++ padded places (decimalText digits)

/-- An exponent has a sign and at least two digits. -/
def exponentText (number : NumberText) : List Char :=
  match number.exponent with
  | none => []
  | some exponent =>
    (if exponent < 0 then "e-" else "e+").toList ++ padded 2 (decimalText exponent.natAbs)

def chars (number : NumberText) : List Char :=
  (if number.negative then "-" else "").toList ++ decimalText number.whole ++ number.fractionText ++
    number.exponentText

end NumberText

/-- `\uXXXX`. -/
def unicodeEscape (unit : ℕ) : List Char := "\\u".toList ++ padded 4 (Nat.toDigits 16 unit)

/-- A character of a string, where everything but printable ASCII is escaped; characters
outside the basic plane take a pair of units. -/
def escaped (character : Char) : List Char :=
  if character = '"' then "\\\"".toList
  else if character = '\\' then "\\\\".toList
  else if character = '\n' then "\\n".toList
  else if character = '\r' then "\\r".toList
  else if character = '\t' then "\\t".toList
  else if character.toNat = 12 then "\\f".toList
  else if character.toNat = 8 then "\\b".toList
  else if 32 ≤ character.toNat ∧ character.toNat ≤ 126 then [character]
  else if character.toNat < 65536 then unicodeEscape character.toNat
  else
    let offset := character.toNat - 65536
    unicodeEscape (55296 + offset / 1024) ++ unicodeEscape (56320 + offset % 1024)

def quoted (text : String) : List Char := "\"".toList ++ text.toList.flatMap escaped ++ "\"".toList

namespace Value

mutual

/-- `json.dumps` with `separators=(",", ":")`; an instant is written by `isoformat`. -/
def dumps (isoFormat : Time → String) : Value → List Char
  | .null => "null".toList
  | .bool value => (if value then "true" else "false").toList
  | .int value => (intText value).chars
  | .float value => value.repr.chars
  | .text value => quoted value
  | .datetime instant => quoted (isoFormat instant)
  | .list items => "[".toList ++ (dumpsItems isoFormat items).flatten ++ "]".toList
  | .dict fields => "\x7b".toList ++ (dumpsFields isoFormat fields).flatten ++ "\x7d".toList

/-- The items, each but the first behind its comma. -/
def dumpsItems (isoFormat : Time → String) : List Value → List (List Char)
  | [] => []
  | [item] => [item.dumps isoFormat]
  | item :: items => item.dumps isoFormat :: ",".toList :: dumpsItems isoFormat items

def dumpsFields (isoFormat : Time → String) : Fields → List (List Char)
  | [] => []
  | [(key, value)] => [quoted key, ":".toList, value.dumps isoFormat]
  | (key, value) :: fields =>
    quoted key :: ":".toList :: value.dumps isoFormat :: ",".toList :: dumpsFields isoFormat fields

end

end Value

/-- What hashing takes from the standard library. -/
structure Hashing where
  /-- The hexadecimal SHA-256 digest of a text. -/
  sha256 : String → String
  /-- `astimezone(UTC).isoformat()`. -/
  isoFormat : Time → String

variable (hashing : Hashing)

/-- `canonical`. -/
def canonical (value : Value) : String := String.ofList (value.sorted.dumps hashing.isoFormat)

/-- `content_hash`. -/
def contentHash (value : Value) : String := "sha256:" ++ hashing.sha256 (canonical hashing value)

variable {hashing}

theorem contentHash_congr (same : first.sorted = second.sorted) :
    contentHash hashing first = contentHash hashing second := by
  rw [contentHash, contentHash, canonical, canonical, same]

def lastFields : Fields → Fields
  | [] => []
  | field :: fields =>
    if field.1 ∈ fields.map fst then lastFields fields else field :: lastFields fields

/-- `jsonb` orders keys by their length in bytes first. -/
def storedOrder (first second : String × Value) : Prop :=
  first.1.utf8ByteSize < second.1.utf8ByteSize ∨
    first.1.utf8ByteSize = second.1.utf8ByteSize ∧ first.1 ≤ second.1

instance : DecidableRel storedOrder := fun _ _ => inferInstanceAs (Decidable (_ ∨ _))

instance : Std.Total storedOrder := ⟨fun first second => by
  rcases lt_trichotomy first.1.utf8ByteSize second.1.utf8ByteSize with less | same | more
  · exact .inl (.inl less)
  · exact (le_total first.1 second.1).imp (fun below => .inr ⟨same, below⟩) fun above => .inr ⟨same.symm, above⟩
  · exact .inr (.inl more)⟩

instance : IsTrans _ storedOrder := ⟨fun first second third below above => by
  rcases below with shorter | ⟨same, below⟩
  · exact .inl (by rcases above with less | ⟨equal, -⟩ <;> omega)
  · rcases above with less | ⟨equal, above⟩
    · exact .inl (by omega)
    · exact .inr ⟨same.trans equal, le_trans below above⟩⟩

theorem storedOrder_antisymm (first second : String × Value) (below : storedOrder first second)
    (above : storedOrder second first) : first.1 = second.1 := by
  rcases below with shorter | ⟨_, below⟩
  · rcases above with longer | ⟨_, -⟩ <;> omega
  · rcases above with longer | ⟨-, above⟩
    · omega
    · exact le_antisymm below above

def storedFields (fields : Fields) : Fields := (lastFields fields).insertionSort storedOrder

/-- The value that is read back from a `jsonb` column. -/
def Value.jsonb (value : Value) : Value := value.transform Value.restored storedFields

theorem lastFields_eq (distinct : (fields.map fst).Nodup) : lastFields fields = fields := by
  induction fields with
  | nil => rfl
  | cons _ _ ih =>
    obtain ⟨fresh, rest⟩ := List.nodup_cons.mp distinct
    rw [lastFields, if_neg fresh, ih rest]

theorem storedFields_perm (distinct : (fields.map fst).Nodup) :
    (storedFields fields).Perm fields := by
  rw [storedFields, lastFields_eq distinct]
  exact List.perm_insertionSort storedOrder fields

theorem storedFields_congr (perm : fields.Perm others) (distinct : (fields.map fst).Nodup) :
    storedFields fields = storedFields others := by
  rw [storedFields, storedFields, lastFields_eq distinct,
    lastFields_eq ((perm.map fst).nodup_iff.mp distinct)]
  exact Value.insertionSort_congr storedOrder_antisymm perm distinct

namespace Value

variable {value other : Value}

/-- No float in the value is changed by the way through the database. -/
def Plain (value : Value) : Prop := value.Every Kept fun _ => True

instance (value : Value) : Decidable value.Plain := inferInstanceAs (Decidable (value.Every _ _))

theorem jsonb_sorted (keyed : value.Keyed) :
    value.jsonb.sorted = value.transform restored sortKeys :=
  transform_transform restored_scalar (fun _ => storedFields_perm) (fun _ _ => sortKeys_congr) value keyed

theorem jsonb_kept (keyed : value.Keyed) : value.jsonb.sorted = value.sorted ↔ value.Plain := by
  have scalars : (fun value : Value => value.restored = value) = Kept :=
    funext fun value => propext (restored_eq value)
  rw [jsonb_sorted keyed, transform_eq_sorted value keyed, scalars]
  exact Iff.rfl

theorem jsonb_congr (keyed : value.Keyed) (otherKeyed : other.Keyed) (same : value.sorted = other.sorted) :
    value.jsonb.sorted = other.jsonb.sorted := by
  rw [jsonb_sorted keyed, jsonb_sorted otherKeyed, ← sorted_transform (fun _ _ => sortKeys_congr) keyed, same,
    sorted_transform (fun _ _ => sortKeys_congr) otherKeyed]

/-- The value is arranged as `jsonb` arranges it. -/
def Arranged (value : Value) : Prop := value.Keyed ∧ value.transform id storedFields = value

instance (value : Value) : Decidable value.Keyed := inferInstanceAs (Decidable (value.Every _ _))

instance (value : Value) : Decidable value.Arranged := inferInstanceAs (Decidable (value.Keyed ∧ _))

theorem jsonb_arranged (keyed : value.Keyed) : value.jsonb.Arranged :=
  ⟨transform_keyed restored_scalar (fun _ => storedFields_perm) value keyed,
    transform_transform restored_scalar (fun _ => storedFields_perm) (fun _ _ => storedFields_congr) value keyed⟩

theorem Arranged.eq_of_sorted (arranged : value.Arranged) (otherArranged : other.Arranged)
    (same : value.sorted = other.sorted) : value = other := by
  have canonical : ∀ fields others : Fields, fields.Perm others → (fields.map fst).Nodup →
      storedFields fields = storedFields others := fun _ _ => storedFields_congr
  calc value = value.sorted.transform id storedFields := by
        rw [sorted_transform canonical arranged.1, arranged.2]
    _ = other.sorted.transform id storedFields := by rw [same]
    _ = other := by rw [sorted_transform canonical otherArranged.1, otherArranged.2]

end Value

/-- What a `jsonb` column holds, as it is read. -/
@[ext] structure Jsonb where
  value : Value
  arranged : value.Arranged
  deriving DecidableEq

/-- `Jsonb(dict)`, as it is read back. -/
def Dict.jsonb (dict : Dict) : Jsonb := ⟨(Value.dict dict.fields).jsonb, Value.jsonb_arranged dict.keyed⟩

end Liki.Json
