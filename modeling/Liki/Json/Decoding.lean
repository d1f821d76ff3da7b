import Liki.Library.BinaryFloat
import Liki.Library.Checks
import Liki.Library.KeyedRows
import Mathlib.Data.List.Sort

/-! What `json.JSONDecoder` reads. A scan begins at a position of a text and ends at a
later one; a text is what is left of it at its position. Integers with too many digits and
containers nested too deeply raise, and these errors are no `JSONDecodeError`. -/
namespace Liki.Json
open Checks DecimalArithmetic

abbrev Text := List Char

inductive FloatValue where
  | nan
  | infinite (negative : Bool)
  | negativeZero
  | finite (value : ℚ)
  deriving DecidableEq

/-- A decoded value. Texts are code points, which may be lone surrogates. -/
inductive Decoded where
  | null
  | bool (value : Bool)
  | int (value : ℤ)
  | float (value : FloatValue)
  | text (value : List ℕ)
  | list (items : List Decoded)
  | dict (fields : List (List ℕ × Decoded))

abbrev DecodedFields := List (List ℕ × Decoded)

/-- Values are written in tokens so that equal ones have the same tokens. -/
inductive Token where
  | null
  | number (value : FloatValue)
  | text (value : List ℕ)
  | list (length : ℕ)
  | dict (length : ℕ)
  deriving DecidableEq

mutual

/-- Truth values and numbers go by what they stand for and fields by their keys. The decoder
makes a single `NaN`, which is the same as itself. -/
def Decoded.tokens : Decoded → List Token
  | .null => [.null]
  | .bool value => [.number (.finite (if value then 1 else 0))]
  | .int value => [.number (.finite value)]
  | .float value => [.number (if value = .negativeZero then .finite 0 else value)]
  | .text value => [.text value]
  | .list items => .list items.length :: itemTokens items
  | .dict fields =>
    .dict fields.length ::
      ((fieldTokens fields).insertionSort fun first second => first.1 ≤ second.1).flatMap
        fun (key, tokens) => .text key :: tokens

def itemTokens : List Decoded → List Token
  | [] => []
  | item :: items => item.tokens ++ itemTokens items

def fieldTokens : DecodedFields → List (List ℕ × List Token)
  | [] => []
  | (key, value) :: fields => (key, value.tokens) :: fieldTokens fields

end

/-- `==` of two objects. -/
def Same (first second : DecodedFields) : Prop := (Decoded.dict first).tokens = (Decoded.dict second).tokens

instance (first second : DecodedFields) : Decidable (Same first second) :=
  inferInstanceAs (Decidable (_ = _))

inductive Failure where
  /-- `JSONDecodeError`. -/
  | malformed
  /-- The `ValueError` of an integer with too many digits. -/
  | valueError
  | recursionError

/-- A scanned value and what is left of the text. -/
abbrev Scan (α : Type) := Text → Except Failure (α × Text)

/-- `sys.get_int_max_str_digits()` and how deeply containers may be nested. -/
structure Limits where
  digits : ℕ
  depth : ℕ

def hexDigit (digit : Char) : Option ℕ := "0123456789abcdef".toList.idxOf? digit.toLower

def escapes : List (Char × ℕ) :=
  [('"', 34), ('\\', 92), ('/', 47), ('b', 8), ('f', 12), ('n', 10), ('r', 13), ('t', 9)]

/-- `scanstring` behind the opening quotation mark, strictly, with surrogates still apart. -/
def scanUnits : Scan (List ℕ)
  | [] => .error .malformed
  | '"' :: rest => .ok ([], rest)
  | '\\' :: 'u' :: first :: second :: third :: fourth :: rest => do
    let digits ← expect ([first, second, third, fourth].mapM hexDigit) .malformed
    let (units, left) ← scanUnits rest
    return (digits.foldl (fun unit digit => 16 * unit + digit) 0 :: units, left)
  | '\\' :: escape :: rest => do
    let unit ← expect (escapes.lookup escape) .malformed
    let (units, left) ← scanUnits rest
    return (unit :: units, left)
  | character :: rest => do
    refuseIf (character.toNat < 32) .malformed
    let (units, left) ← scanUnits rest
    return (character.toNat :: units, left)

def joined : List ℕ → List ℕ
  | high :: low :: units =>
    if 0xD800 ≤ high ∧ high < 0xDC00 ∧ 0xDC00 ≤ low ∧ low < 0xE000 then
      (0x10000 + (high - 0xD800) * 0x400 + (low - 0xDC00)) :: joined units
    else high :: joined (low :: units)
  | units => units

def scanString : Scan (List ℕ) := fun text => (scanUnits text).map fun (units, left) => (joined units, left)

def decimal (digits : Text) : ℕ := digits.foldl (fun value digit => 10 * value + (digit.toNat - 48)) 0

/-- The nearest float to `digits * 10 ^ exponent`. -/
def readFloat (negative : Bool) (digits : ℕ) (exponent : ℤ) : FloatValue :=
  let magnitude : ℚ := digits * 10 ^ exponent
  let unit := max (BinaryFloat.unit magnitude) (2 ^ (-1074 : ℤ))
  let nearest := roundHalfEven (magnitude / unit) * unit
  if 2 ^ 1024 ≤ nearest then .infinite negative
  else if negative ∧ nearest = 0 then .negativeZero
  else .finite (if negative then -nearest else nearest)

def scanExponent (text : Text) : Option ℤ × Text :=
  let signed := text.tail
  let unsigned := if signed.head? ∈ [some '+', some '-'] then signed.tail else signed
  let digits := unsigned.takeWhile Char.isDigit
  if text.head? ∈ [some 'e', some 'E'] ∧ digits ≠ [] then
    (some (if signed.head? = some '-' then -decimal digits else decimal digits),
      unsigned.drop digits.length)
  else (none, text)

/-- `_match_number`. -/
def scanNumber (limits : Limits) : Scan Decoded := fun text =>
  let negative : Bool := text.head? = some '-'
  let unsigned := if negative then text.tail else text
  let whole := if unsigned.head? = some '0' then ['0'] else unsigned.takeWhile Char.isDigit
  let rest := unsigned.drop whole.length
  let fraction := if rest.head? = some '.' then rest.tail.takeWhile Char.isDigit else []
  let (exponent, left) := scanExponent (if fraction = [] then rest else rest.drop (fraction.length + 1))
  if whole = [] then .error .malformed
  else if fraction = [] ∧ exponent = none then
    if limits.digits < whole.length then .error .valueError
    else .ok (.int (if negative then -decimal whole else decimal whole), left)
  else
    .ok (.float (readFloat negative (decimal (whole ++ fraction)) (exponent.getD 0 - fraction.length)), left)

def constants : List (String × Decoded) :=
  [("null", .null), ("true", .bool true), ("false", .bool false), ("NaN", .float .nan),
    ("Infinity", .float (.infinite false)), ("-Infinity", .float (.infinite true))]

def afterBlanks (text : Text) : Text := text.dropWhile (· ∈ [' ', '\t', '\n', '\r'])

def scanChar (expected : Char) (text : Text) : Except Failure Text :=
  if text.head? = some expected then .ok text.tail else .error .malformed

/-- The loop over the items of a container, along the text: an item begins where the
characters to skip end. -/
def scanItems {α : Type} (close : Char) (item : Scan α) : ℕ → Scan (List α)
  | _, [] => .error .malformed
  | skip + 1, _ :: rest => scanItems close item skip rest
  | 0, first :: rest => do
    let (value, left) ← item (first :: rest)
    let left := afterBlanks left
    if left.head? = some ',' then
      let (values, left) ← scanItems close item (rest.length - (afterBlanks left.tail).length) rest
      return (value :: values, left)
    else return ([value], ← scanChar close left)

def scanContainer {α : Type} (close : Char) (item : Scan α) : Scan (List α) := fun text =>
  let text := afterBlanks text
  if text.head? = some close then .ok ([], text.tail) else scanItems close item 0 text

def scanMember (scan : Scan Decoded) : Scan (List ℕ × Decoded) := fun text => do
  let (key, left) ← scanString (← scanChar '"' text)
  let (value, left) ← scan (afterBlanks (← scanChar ':' (afterBlanks left)))
  return ((key, value), left)

/-- `dict(pairs)`: of one key the last value stays. -/
def dictOf (pairs : DecodedFields) : DecodedFields :=
  pairs.foldl (fun fields pair => KeyedRows.upsert Prod.fst pair fields) []

/-- `scan_once`, with the scan of what is nested in a container if there may be containers. -/
def scanValue (limits : Limits) (nested : Option (Scan Decoded)) : Scan Decoded
  | '"' :: rest => do
    let (value, left) ← scanString rest
    return (.text value, left)
  | '{' :: rest => do
    let scan ← expect nested .recursionError
    let (pairs, left) ← scanContainer '}' (scanMember scan) rest
    return (.dict (dictOf pairs), left)
  | '[' :: rest => do
    let scan ← expect nested .recursionError
    let (items, left) ← scanContainer ']' scan rest
    return (.list items, left)
  | text =>
    match constants.find? fun (name, _) => name.toList.isPrefixOf text with
    | some (name, value) => .ok (value, text.drop name.length)
    | none => scanNumber limits text

def scanNested (limits : Limits) : ℕ → Scan Decoded
  | 0 => scanValue limits none
  | depth + 1 => scanValue limits (some (scanNested limits depth))

/-- `raw_decode`. -/
def rawDecode (limits : Limits) : Scan Decoded := scanNested limits limits.depth

/-- `json.loads`. -/
def loads (limits : Limits) (text : Text) : Except Failure Decoded := do
  let (value, left) ← rawDecode limits (afterBlanks text)
  refuseIf (afterBlanks left ≠ []) .malformed
  return value

variable {limits : Limits} {nested : Option (Scan Decoded)} {text left : Text} {fields : DecodedFields}

theorem scanNumber_scalar (ok : scanNumber limits text = .ok (value, left)) :
    value ≠ .dict fields := by
  rintro rfl
  dsimp only [scanNumber] at ok
  simp [ite_eq_iff] at ok

theorem rawDecode_brace (ok : rawDecode limits text = .ok (.dict fields, left)) :
    text.head? = some '{' := by
  have general : ∀ nested, scanValue limits nested text = .ok (.dict fields, left) →
      text.head? = some '{' := by
    intro nested ok
    unfold scanValue at ok
    split at ok
    · obtain ⟨scanned, -, impossible⟩ := bind_ok.mp ok
      cases impossible
    · rfl
    · obtain ⟨scan, -, scanned⟩ := bind_ok.mp ok
      obtain ⟨items, -, impossible⟩ := bind_ok.mp scanned
      cases impossible
    · split at ok
      · rename_i name value named
        have listed := List.mem_of_find?_eq_some named
        cases ok
        simp [constants] at listed
      · exact absurd rfl (scanNumber_scalar ok)
  unfold rawDecode at ok
  cases depth : limits.depth with
  | zero => exact general none (by rwa [depth] at ok)
  | succ depth' => exact general (some (scanNested limits depth')) (by rwa [depth] at ok)

end Liki.Json
