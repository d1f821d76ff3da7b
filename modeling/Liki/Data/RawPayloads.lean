import Mathlib.Logic.Function.Basic
import Liki.Library.CallSystem
import Liki.Library.Checks

/-! Raw payloads under the hash of their content. A file is created at its final name before it
is written, so what an interrupted `put` leaves is what every later one finds: nothing changes a
file that exists. A payload can be stored again exactly when the call that created its file wrote
all of it. -/
namespace Liki.Data
open CallSystem Checks Function Option

inductive PayloadError where
  | runtime (message : String)
  | value (message : String)
  | fileNotFound (digest : String)

/-- The store's files by digest. -/
abbrev PayloadFiles := String → Option (List UInt8)

/-- A call of `put`, through to its end or stopped by a crash or an I/O error: before the file
was created, or when that many bytes were written. -/
inductive PutCall where
  | put (payload : List UInt8)
  | interrupted (payload : List UInt8) (written : Option ℕ)

namespace RawPayloadStore

variable (sha256 : List UInt8 → String)

/-- `put`. -/
def put (files : PayloadFiles) (payload : List UInt8) :
    Except PayloadError (Option String × PayloadFiles) :=
  let digest := sha256 payload
  match files digest with
  | none => .ok (some ("sha256:" ++ digest), update files digest (some payload))
  | some content => do
    refuseIf (content ≠ payload) (.runtime "content-address collision or storage corruption")
    return (some ("sha256:" ++ digest), files)

/-- What a stopped `put` leaves behind. -/
def interruptedPut (files : PayloadFiles) (payload : List UInt8) : Option ℕ → PayloadFiles
  | none => files
  | some written =>
    if files (sha256 payload) = none then
      update files (sha256 payload) (some (payload.take written))
    else files

def answer : Handler PayloadFiles PutCall PayloadError (Option String)
  | files, .put payload => put sha256 files payload
  | files, .interrupted payload written => .ok (none, interruptedPut sha256 files payload written)

/-- `content_hash.split(":", 1)`. -/
def split (contentHash : String) : Option (List Char × List Char) :=
  match contentHash.toList.dropWhile (· ≠ ':') with
  | [] => none
  | _ :: digest => some (contentHash.toList.takeWhile (· ≠ ':'), digest)

/-- `get`. -/
def get (files : PayloadFiles) (contentHash : String) : Except PayloadError (List UInt8) := do
  let (kind, digest) ← expect (split contentHash)
    (.value "not enough values to unpack (expected 2, got 1)")
  refuseIf (kind ≠ "sha256".toList ∨ digest.length ≠ 64) (.value "invalid content hash")
  let content ← expect (files (String.ofList digest)) (.fileNotFound (String.ofList digest))
  refuseIf (sha256 content ≠ String.ofList digest)
    (.runtime "raw payload integrity verification failed")
  return content

def writes : PutCall → Option (List UInt8)
  | .put payload => some payload
  | .interrupted payload written => written.map payload.take

def payloadOf : PutCall → List UInt8
  | .put payload | .interrupted payload _ => payload

def firstWrite (digest : String) (calls : List PutCall) : Option (List UInt8) :=
  (calls.filter fun call => sha256 (payloadOf call) = digest).findSome? writes

def Restores (files : PayloadFiles) (payload : List UInt8) : Prop :=
  ∃ contentHash after, put sha256 files payload = .ok (some contentHash, after) ∧
    get sha256 after contentHash = .ok payload

variable {sha256} {files after : PayloadFiles} {payload : List UInt8} {call : PutCall}
  {calls : List PutCall} {digest contentHash : String}

/-- A call creates the file of its own digest, unless it exists. -/
theorem next_files (files : PayloadFiles) (call : PutCall) (digest : String) :
    next (answer sha256) files call digest =
      (files digest).or (if sha256 (payloadOf call) = digest then writes call else none) := by
  have created (content : List UInt8) (absent : files (sha256 (payloadOf call)) = none) :
      update files (sha256 (payloadOf call)) (some content) digest =
        (files digest).or (if sha256 (payloadOf call) = digest then some content else none) := by
    by_cases same : sha256 (payloadOf call) = digest
    · subst same
      rw [update_self, absent, if_pos rfl, none_or]
    · rw [update_of_ne (Ne.symm same), if_neg same, or_none]
  have kept {content : List UInt8} (held : files (sha256 (payloadOf call)) = some content) :
      files digest =
        (files digest).or (if sha256 (payloadOf call) = digest then writes call else none) := by
    by_cases same : sha256 (payloadOf call) = digest
    · rw [← same, held, some_or]
    · rw [if_neg same, or_none]
  cases call with
  | put payload =>
    cases held : files (sha256 payload) with
    | none =>
      have ok : answer sha256 files (.put payload) = .ok (some ("sha256:" ++ sha256 payload),
          update files (sha256 payload) (some payload)) := by
        rw [answer, put, held]
      rw [next_of_ok ok]
      exact created payload held
    | some content =>
      have unchanged : next (answer sha256) files (.put payload) = files := by
        by_cases same : content = payload <;> simp [next, answer, put, held, same, refuseIf]
      rw [unchanged]
      exact kept held
  | interrupted payload written =>
    change interruptedPut sha256 files payload written digest = _
    cases written with
    | none => simp [interruptedPut, writes]
    | some written =>
      cases held : files (sha256 payload) with
      | none =>
        rw [interruptedPut, if_pos held]
        exact created _ held
      | some content =>
        rw [interruptedPut, if_neg (by simp [held])]
        exact kept held

/-- A file holds what the first call that created it wrote. -/
theorem run_files (files : PayloadFiles) (calls : List PutCall) (digest : String) :
    run (answer sha256) files calls digest = (files digest).or (firstWrite sha256 digest calls) := by
  induction calls generalizing files with
  | nil => exact Option.or_none.symm
  | cons call calls ih =>
    rw [run_cons, ih, next_files, Option.or_assoc, firstWrite, firstWrite, List.filter_cons]
    by_cases same : sha256 (payloadOf call) = digest
    · rw [if_pos same, if_pos (decide_eq_true same), List.findSome?_cons]
      cases writes call <;> rfl
    · rw [if_neg same, if_neg (by simpa using same), Option.none_or]

theorem split_sha256 (digest : String) :
    split ("sha256:" ++ digest) = some ("sha256".toList, digest.toList) := by
  rw [split, String.toList_append]
  rfl

theorem get_ok : get sha256 files contentHash = .ok content ↔
    ∃ digest, split contentHash = some ("sha256".toList, digest) ∧ digest.length = 64 ∧
      files (String.ofList digest) = some content ∧ sha256 content = String.ofList digest := by
  simp only [get, bind_ok, expect_ok, guard_ok, pure_ok, Prod.exists, not_or, not_not]
  constructor
  · rintro ⟨_, digest, parsed, ⟨rfl, sized⟩, _, held, hashed, rfl⟩
    exact ⟨digest, parsed, sized, held, hashed⟩
  · rintro ⟨digest, parsed, sized, held, hashed⟩
    exact ⟨_, digest, parsed, ⟨rfl, sized⟩, content, held, hashed, rfl⟩

/-- What is read has the hash it was asked for under. -/
theorem hash_of_get (ok : get sha256 files contentHash = .ok content) :
    contentHash = "sha256:" ++ sha256 content := by
  obtain ⟨digest, parsed, -, -, hashed⟩ := get_ok.mp ok
  rw [split] at parsed
  split at parsed
  · cases parsed
  · next colon rest after =>
    have separator : colon = ':' := by
      have stops := List.head?_dropWhile_not (fun char => decide (char ≠ ':')) contentHash.toList
      rw [after] at stops
      simpa using stops
    have whole := @List.takeWhile_append_dropWhile _ (fun char => decide (char ≠ ':'))
      contentHash.toList
    obtain ⟨kind, rfl⟩ := Prod.mk.inj (some.inj parsed)
    rw [after, kind, separator] at whole
    rw [hashed, ← String.toList_inj, String.toList_append, ← whole]
    simp

/-- A payload can be put through and read where its file is missing or holds it. -/
theorem restores_iff (length : ∀ payload, (sha256 payload).length = 64) :
    Restores sha256 files payload ↔
      ∀ content, files (sha256 payload) = some content → content = payload := by
  have read {after : PayloadFiles} (held : after (sha256 payload) = some payload) :
      get sha256 after ("sha256:" ++ sha256 payload) = .ok payload := by
    refine get_ok.mpr ⟨(sha256 payload).toList, split_sha256 _, length payload, ?_, ?_⟩ <;>
      rw [String.ofList_toList]
    exact held
  constructor
  · rintro ⟨contentHash, after, ok, -⟩ content held
    rw [put, held] at ok
    simp only [bind_ok, refuseIf_ok, not_not] at ok
    exact ok.choose_spec.1
  · intro same
    cases held : files (sha256 payload) with
    | none =>
      refine ⟨_, update files (sha256 payload) (some payload), by rw [put, held], read ?_⟩
      exact update_self _ _ _
    | some content =>
      obtain rfl := same content held
      refine ⟨_, files, ?_, read held⟩
      rw [put, held]
      simp [refuseIf]

/-- A payload can be stored again after a run exactly when the first call that created its file
wrote all of it; and whatever was stopped where, no content is read under another hash. -/
theorem restored_after_puts_iff (sha256 : List UInt8 → String)
    (length : ∀ payload, (sha256 payload).length = 64) (start : PayloadFiles)
    (fresh : ∀ payload, start (sha256 payload) = none) (calls : List PutCall)
    (payload : List UInt8) :
    (Restores sha256 (run (answer sha256) start calls) payload ↔
        ∀ content, firstWrite sha256 (sha256 payload) calls = some content → content = payload) ∧
      ∀ contentHash content, get sha256 (run (answer sha256) start calls) contentHash = .ok content →
        contentHash = "sha256:" ++ sha256 content := by
  refine ⟨?_, fun contentHash content => hash_of_get⟩
  rw [restores_iff length, run_files, fresh, none_or]

namespace Small

/-- The digests of two bytes and of nothing. -/
def digestOf (payload : List UInt8) : String :=
  if payload = [1, 2] then "a12871fee210fb8619291eaea194581cbd2531e4b23759d225f6806923f63222"
  else "e3b0c44298fc1c149afbf4c8996fb92427ae41e4649b934ca495991b7852b855"

theorem digestOf_length (payload : List UInt8) : (digestOf payload).length = 64 := by
  rw [digestOf]
  split <;> rfl

end Small

/-- A crash right after the file was created: the payload can never be put again. -/
theorem interrupted_put_refused :
    (put Small.digestOf (run (answer Small.digestOf) (fun _ => none) [.interrupted [1, 2] (some 0)])
        [1, 2]).map Prod.fst =
      .error (.runtime "content-address collision or storage corruption") ∧
      ¬Restores Small.digestOf
        (run (answer Small.digestOf) (fun _ => none) [.interrupted [1, 2] (some 0)]) [1, 2] := by
  have held : run (answer Small.digestOf) (fun _ => none) [.interrupted [1, 2] (some 0)]
      (Small.digestOf [1, 2]) = some [] := by
    rw [run_files]
    rfl
  refine ⟨?_, fun restored => ?_⟩
  · rw [put, held]
    rfl
  · exact absurd ((restores_iff Small.digestOf_length).mp restored [] held) (List.cons_ne_nil _ _).symm

theorem restored_after_puts_iff_pair :
    Restores Small.digestOf (run (answer Small.digestOf) (fun _ => none)
      [.interrupted [1, 2] none, .put [1, 2]]) [1, 2] :=
  (restored_after_puts_iff Small.digestOf Small.digestOf_length (fun _ => none) (fun _ => rfl)
    [.interrupted [1, 2] none, .put [1, 2]] [1, 2]).1.mpr fun content written => by
      have whole : firstWrite Small.digestOf (Small.digestOf [1, 2])
          [.interrupted [1, 2] none, .put [1, 2]] = some [1, 2] := rfl
      rw [whole] at written
      exact (some.inj written).symm

end RawPayloadStore

end Liki.Data
