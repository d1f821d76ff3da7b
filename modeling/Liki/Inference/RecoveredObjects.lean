import Liki.Core
import Liki.Json.Decoding
import Mathlib.Data.List.DropRight

/-! The object in a provider's text. A text or the body of its fence may be an object; else
every brace is tried, and the objects that can be read there must all be equal. A brace
within an object competes with it, so an object in prose is lost when another one is nested
in it; and the body of a fence is not held against the rest of the text. -/
namespace Liki.Inference
open Checks Json List

/-- The line boundaries of `splitlines`. -/
def lineBreaks : List Char := [10, 11, 12, 13, 28, 29, 30, 133, 8232, 8233].map Char.ofNat

/-- `splitlines`, behind the beginning of a line. -/
def splitLines (line : Text) : Text → List Text
  | [] => if line = [] then [] else [line]
  | '\r' :: '\n' :: rest => line :: splitLines [] rest
  | character :: rest =>
    if character ∈ lineBreaks then line :: splitLines [] rest
    else splitLines (line ++ [character]) rest

def fence : Text := ['`', '`', '`']

def candidates (text : Text) : List Text :=
  if fence.isPrefixOf text ∧ fence.isSuffixOf text then
    let body := intercalate ['\n'] (splitLines [] text).tail.dropLast
    [text, (body.dropWhile (whitespace.contains ·)).rdropWhile (whitespace.contains ·)]
  else [text]

/-- The object that was read; a `JSONDecodeError` is caught. -/
def objectOf : Except Failure Decoded → Except Failure (Option DecodedFields)
  | .ok (.dict fields) => .ok (some fields)
  | .ok _ => .ok none
  | .error .malformed => .ok none
  | .error failure => .error failure

def firstObject (limits : Limits) : List Text → Except Failure (Option DecodedFields)
  | [] => return none
  | candidate :: candidates => do
    match ← objectOf (loads limits candidate) with
    | some fields => return some fields
    | none => firstObject limits candidates

/-- What is read at a position if there is a brace. -/
def objectAt (limits : Limits) (text : Text) : Except Failure (Option DecodedFields) :=
  if text.head? = some '{' then objectOf ((rawDecode limits text).map Prod.fst) else .ok none

/-- The objects that are read at the braces. -/
def braceObjects (limits : Limits) : Text → Except Failure (List DecodedFields)
  | [] => return []
  | first :: rest => do
    let here ← objectAt limits (first :: rest)
    return here.toList ++ (← braceObjects limits rest)

/-- One step of the loop over the braces. -/
def recover (recovered : List DecodedFields) (fields : DecodedFields) : List DecodedFields :=
  if ∃ other ∈ recovered, Same other fields then recovered else recovered ++ [fields]

def onlyOne (objects : List DecodedFields) : Option DecodedFields :=
  let recovered := objects.foldl recover []
  if recovered.length = 1 then recovered.head? else none

/-- `_recover_json_object`. -/
def recoverJsonObject (limits : Limits) (text : Text) : Except Failure (Option DecodedFields) := do
  match ← firstObject limits (candidates text) with
  | some fields => return some fields
  | none => return onlyOne (← braceObjects limits text)

def objectFrom (limits : Limits) (text : Text) : Option (DecodedFields × Text) :=
  match rawDecode limits text with
  | .ok (.dict fields, left) => some (fields, left)
  | _ => none

def topLevel (limits : Limits) : ℕ → Text → List DecodedFields
  | _, [] => []
  | skip + 1, _ :: rest => topLevel limits skip rest
  | 0, first :: rest =>
    match objectFrom limits (first :: rest) with
    | some (fields, left) => fields :: topLevel limits (rest.length - left.length) rest
    | none => topLevel limits 0 rest

/-- One complete object in prose without a brace; the lines of a fence are such prose. -/
def Single (limits : Limits) (text : Text) (fields : DecodedFields) : Prop :=
  ∃ before found after, text = before ++ found ∧
    objectFrom limits found = some (fields, after) ∧
    (∀ brace ∈ ['{', '}'], brace ∉ before ∧ brace ∉ after)

/-- No two of the top-level objects differ. -/
def Unambiguous (limits : Limits) (text : Text) : Prop :=
  ∀ first ∈ topLevel limits 0 text, ∀ second ∈ topLevel limits 0 text, Same first second

structure Recovers (limits : Limits) (text : Text) : Prop where
  single : ∀ fields, Single limits text fields →
    ∃ found, recoverJsonObject limits text = .ok (some found) ∧ Same found fields
  ambiguous : ¬Unambiguous limits text → recoverJsonObject limits text = .ok none
  whole : ∀ found, recoverJsonObject limits text = .ok (some found) →
    ∃ fields ∈ topLevel limits 0 text, Same found fields

/-- A limit of the interpreter ends the recovery. -/
def Raises (limits : Limits) (text : Text) : Prop :=
  ∃ failure, firstObject limits (candidates text) = .error failure ∨
    firstObject limits (candidates text) = .ok none ∧ braceObjects limits text = .error failure

structure Recoverable (limits : Limits) (text : Text) : Prop where
  candidate : ∀ found, firstObject limits (candidates text) = .ok (some found) →
    topLevel limits 0 text ≠ [] ∧ ∀ fields ∈ topLevel limits 0 text, Same found fields
  /-- Nothing nested in an object in prose differs from it. -/
  braces : ∀ objects, firstObject limits (candidates text) = .ok none →
    braceObjects limits text = .ok objects →
      ∀ fields, Single limits text fields → ∀ other ∈ objects, Same fields other
  raising : Raises limits text → Unambiguous limits text ∧ ∀ fields, ¬Single limits text fields

variable {limits : Limits} {text : Text} {objects : List DecodedFields} {fields found : DecodedFields}

theorem objectFrom_of_other (other : text.head? ≠ some '{') : objectFrom limits text = none := by
  unfold objectFrom
  split
  · rename_i decoded
    exact absurd (rawDecode_brace decoded) other
  · rfl

theorem objectAt_ok (ok : objectAt limits text = .ok here) :
    here = (objectFrom limits text).map Prod.fst := by
  unfold objectAt at ok
  split at ok
  · unfold objectFrom
    cases read : rawDecode limits text with
    | error failure =>
      rw [read] at ok
      cases failure <;> cases ok
      rfl
    | ok pair =>
      obtain ⟨value, left⟩ := pair
      rw [read] at ok
      cases value <;> cases ok <;> rfl
  · rename_i other
    cases ok
    rw [objectFrom_of_other other]
    rfl

theorem mem_of_topLevel (ok : braceObjects limits text = .ok objects)
    (member : fields ∈ topLevel limits skip text) : fields ∈ objects := by
  induction text generalizing skip objects with
  | nil => simp [topLevel] at member
  | cons first rest ih =>
    simp only [braceObjects, bind_ok, pure_ok] at ok
    obtain ⟨here, read, later, others, rfl⟩ := ok
    obtain rfl := objectAt_ok read
    cases skip with
    | succ => exact mem_append_right _ (ih others member)
    | zero =>
      rw [topLevel] at member
      split at member
      · rename_i object left begins
        rw [begins]
        rcases mem_cons.mp member with rfl | behind
        · exact mem_cons_self
        · exact mem_cons_of_mem _ (ih others behind)
      · exact mem_append_right _ (ih others member)

theorem head_braceObjects (ok : braceObjects limits text = .ok objects) :
    objects.head? = (topLevel limits 0 text).head? := by
  induction text generalizing objects with
  | nil =>
    cases ok
    rfl
  | cons first rest ih =>
    simp only [braceObjects, bind_ok, pure_ok] at ok
    obtain ⟨_, read, _, others, rfl⟩ := ok
    obtain rfl := objectAt_ok read
    rw [topLevel]
    cases objectFrom limits (first :: rest) with
    | none => exact ih others
    | some => rfl

theorem Single.head (single : Single limits text fields) : (topLevel limits 0 text).head? = some fields := by
  obtain ⟨before, found, _, rfl, object, prose⟩ := single
  have plain : '{' ∉ before := (prose '{' (by simp)).1
  induction before with
  | nil =>
    cases found with
    | nil => cases object.symm.trans (objectFrom_of_other (by simp))
    | cons =>
      rw [nil_append, topLevel, object]
      rfl
  | cons _ _ ih =>
    obtain ⟨differs, others⟩ := not_or.mp (mt mem_cons.mpr plain)
    rw [cons_append, topLevel, objectFrom_of_other (by simpa using Ne.symm differs)]
    exact ih (fun brace among =>
      ⟨fun member => (prose brace among).1 (mem_cons_of_mem _ member), (prose brace among).2⟩) others

theorem recover_keeps (objects recovered : List DecodedFields) :
    recovered <+: objects.foldl recover recovered := by
  induction objects generalizing recovered with
  | nil => exact prefix_refl _
  | cons _ _ ih =>
    refine List.IsPrefix.trans ?_ (ih _)
    unfold recover
    split
    · exact prefix_refl _
    · exact prefix_append _ _

theorem onlyOne_cons (fields : DecodedFields) (objects : List DecodedFields) :
    onlyOne (fields :: objects) = some fields ∧ (∀ other ∈ objects, Same fields other) ∨
      onlyOne (fields :: objects) = none ∧ ¬∀ other ∈ objects, Same fields other := by
  induction objects with
  | nil => exact .inl ⟨rfl, by simp⟩
  | cons next objects ih =>
    by_cases same : Same fields next
    · have absorbed : onlyOne (fields :: next :: objects) = onlyOne (fields :: objects) := by
        simp [onlyOne, recover, same]
      rw [absorbed]
      simpa [same] using ih
    · have longer := (recover_keeps objects [fields, next]).length_le
      refine .inr ⟨?_, fun all => same (all next mem_cons_self)⟩
      have counted : onlyOne (fields :: next :: objects) =
          if (objects.foldl recover [fields, next]).length = 1 then
            (objects.foldl recover [fields, next]).head? else none := by
        simp [onlyOne, recover, same]
      rw [counted, if_neg]
      simp only [length_cons, length_nil] at longer
      omega

theorem onlyOne_eq_some : onlyOne objects = some found ↔
    objects.head? = some found ∧ ∀ other ∈ objects, Same found other := by
  cases objects with
  | nil => simp [onlyOne]
  | cons fields objects =>
    rcases onlyOne_cons fields objects with ⟨one, all⟩ | ⟨none, differs⟩
    · rw [one]
      constructor
      · rintro ⟨⟩
        exact ⟨rfl, forall_mem_cons.mpr ⟨rfl, all⟩⟩
      · rintro ⟨⟨⟩, -⟩
        rfl
    · rw [none]
      constructor
      · rintro ⟨⟩
      · rintro ⟨⟨⟩, all⟩
        exact absurd (forall_mem_cons.mp all).2 differs

theorem recoverJsonObject_of_candidate (read : firstObject limits (candidates text) = .ok (some found)) :
    recoverJsonObject limits text = .ok (some found) := by
  rw [recoverJsonObject, read]
  rfl

theorem recoverJsonObject_of_braces (read : firstObject limits (candidates text) = .ok none)
    (ok : braceObjects limits text = .ok objects) :
    recoverJsonObject limits text = .ok (onlyOne objects) := by
  rw [recoverJsonObject, read, ok_bind, ok]
  rfl

theorem recoverJsonObject_of_raises (raises : Raises limits text) :
    ∃ failure, recoverJsonObject limits text = .error failure := by
  obtain ⟨failure, refused | ⟨read, refused⟩⟩ := raises
  · exact ⟨failure, by rw [recoverJsonObject, refused]; rfl⟩
  · exact ⟨failure, by rw [recoverJsonObject, read, ok_bind, refused]; rfl⟩

/-- Recovery goes as it should in exactly these texts. -/
theorem recovers_iff (limits : Limits) (text : Text) : Recovers limits text ↔ Recoverable limits text := by
  constructor
  · rintro ⟨single, ambiguous, whole⟩
    refine ⟨fun found read => ?candidate, fun objects read ok => ?braces, fun raises => ?raising⟩
    case candidate =>
      have result := recoverJsonObject_of_candidate read
      have agree : Unambiguous limits text := by
        by_contra differ
        cases result.symm.trans (ambiguous differ)
      obtain ⟨fields, member, same⟩ := whole found result
      exact ⟨ne_nil_of_mem member, fun other among => Eq.trans same (agree fields member other among)⟩
    case braces =>
      intro fields alone other member
      obtain ⟨found, result, same⟩ := single fields alone
      have one : onlyOne objects = some found := by
        simpa using (recoverJsonObject_of_braces read ok).symm.trans result
      exact Eq.trans (Eq.symm same) ((onlyOne_eq_some.mp one).2 other member)
    case raising =>
      obtain ⟨failure, result⟩ := recoverJsonObject_of_raises raises
      constructor
      · by_contra differ
        cases result.symm.trans (ambiguous differ)
      · intro fields alone
        obtain ⟨found, returned, -⟩ := single fields alone
        cases result.symm.trans returned
  · rintro ⟨candidate, braces, raising⟩
    cases read : firstObject limits (candidates text) with
    | error failure =>
      have raises : Raises limits text := ⟨failure, .inl read⟩
      obtain ⟨failure, result⟩ := recoverJsonObject_of_raises raises
      exact ⟨fun fields alone => absurd alone ((raising raises).2 fields),
        fun differ => absurd (raising raises).1 differ, by simp [result]⟩
    | ok here =>
      cases here with
      | some found =>
        have result := recoverJsonObject_of_candidate read
        obtain ⟨present, all⟩ := candidate found read
        refine ⟨fun fields alone => ⟨found, result, all fields (mem_of_mem_head? alone.head)⟩,
          fun differ => absurd ?_ differ, ?_⟩
        · exact fun first member second among => Eq.trans (Eq.symm (all first member)) (all second among)
        · intro other returned
          cases result.symm.trans returned
          obtain ⟨fields, member⟩ := exists_mem_of_ne_nil _ present
          exact ⟨fields, member, all fields member⟩
      | none =>
        cases ok : braceObjects limits text with
        | error failure =>
          have raises : Raises limits text := ⟨failure, .inr ⟨read, ok⟩⟩
          obtain ⟨_, result⟩ := recoverJsonObject_of_raises raises
          exact ⟨fun fields alone => absurd alone ((raising raises).2 fields),
            fun differ => absurd (raising raises).1 differ, by simp [result]⟩
        | ok objects =>
          have result := recoverJsonObject_of_braces read ok
          refine ⟨fun fields alone => ?single, fun differ => ?ambiguous, fun found returned => ?whole⟩
          case single =>
            have first := (head_braceObjects ok).trans alone.head
            exact ⟨fields, by rw [result, onlyOne_eq_some.mpr ⟨first, braces objects read ok fields alone⟩], rfl⟩
          case ambiguous =>
            rw [result]
            cases one : onlyOne objects with
            | none => rfl
            | some =>
              have all := (onlyOne_eq_some.mp one).2
              refine absurd (fun first member second among => ?_) differ
              exact Eq.trans (Eq.symm (all first (mem_of_topLevel ok member)))
                (all second (mem_of_topLevel ok among))
          case whole =>
            have one : onlyOne objects = some found := by simpa using result.symm.trans returned
            exact ⟨found, mem_of_mem_head? ((head_braceObjects ok).symm.trans (onlyOne_eq_some.mp one).1), rfl⟩

def nestedText : Text := "Here: \x7b\"a\": \x7b\"b\": 1\x7d\x7d".toList

theorem nested_object_lost : ¬Recovers ⟨4300, 50⟩ nestedText := by
  intro recovers
  have begins : ((objectFrom ⟨4300, 50⟩ (nestedText.drop 6)).filter (·.2 = [])).isSome := by decide +kernel
  obtain ⟨⟨fields, left⟩, kept⟩ := Option.isSome_iff_exists.mp begins
  obtain ⟨object, nothing⟩ := Option.filter_eq_some_iff.mp kept
  obtain rfl : left = [] := by simpa using nothing
  have plain : '{' ∉ nestedText.take 6 ∧ '}' ∉ nestedText.take 6 := by decide +kernel
  have alone : Single ⟨4300, 50⟩ nestedText fields :=
    ⟨nestedText.take 6, _, [], (take_append_drop 6 nestedText).symm, object, by simpa using plain⟩
  obtain ⟨_, returned, -⟩ := recovers.single fields alone
  have lost : (recoverJsonObject ⟨4300, 50⟩ nestedText).toOption.join = none := by decide +kernel
  rw [returned] at lost
  cases lost

end Liki.Inference
