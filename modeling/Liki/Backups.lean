import Mathlib.Logic.Function.Basic
import Liki.Library.CallSystem

/-! Backups. A writer publishes the ciphertext and then its manifest, each by a link that never
overwrites. Only the writer whose ciphertext was linked gets to the manifest, so concurrent
writers cannot mix two backups; but a writer that stops between its links leaves a ciphertext
without a manifest, and the destination is refused from then on. -/
namespace Liki.Backups
open CallSystem Function

inductive FileName where
  | backup | manifest
  | temporary (writer : ℕ) (ofManifest : Bool)
  deriving DecidableEq

abbrev Directory := FileName → Option (List UInt8)

/-- Where a call of `backup_database` is. -/
inductive Stage where
  | starting | dumping | ciphertextWritten | ciphertextPublished | manifestWritten | finished
  /-- `BACKUP_ALREADY_EXISTS`. -/
  | refused
  | stopped
  deriving DecidableEq

/-- Between the two links. -/
def Stage.halfway (stage : Stage) : Bool := stage = .ciphertextPublished ∨ stage = .manifestWritten

structure Destination where
  files : Directory
  stages : ℕ → Stage

/-- What every writer makes of its own dump. -/
structure Dumps where
  ciphertext : ℕ → List UInt8
  manifest : ℕ → List UInt8

/-- `_publish_atomically`: the link fails where the target exists, and the temporary goes. -/
def publish (files : Directory) (temporary target : FileName) : Option Directory :=
  if files target = none then
    (files temporary).map fun content =>
      update (update files target (some content)) temporary none
  else none

/-- The next step of a writer. -/
def advance (dumps : Dumps) (files : Directory) (writer : ℕ) : Stage → Directory × Stage
  | .starting =>
    if files .backup = none ∧ files .manifest = none then (files, .dumping) else (files, .refused)
  | .dumping =>
    (update files (.temporary writer false) (some (dumps.ciphertext writer)),
      .ciphertextWritten)
  | .ciphertextWritten =>
    match publish files (.temporary writer false) .backup with
    | some published => (published, .ciphertextPublished)
    | none => (update files (.temporary writer false) none, .refused)
  | .ciphertextPublished =>
    (update files (.temporary writer true) (some (dumps.manifest writer)), .manifestWritten)
  | .manifestWritten =>
    match publish files (.temporary writer true) .manifest with
    | some published => (published, .finished)
    | none => (update files (.temporary writer true) none, .refused)
  | .finished => (files, .finished)
  | .refused => (files, .refused)
  | .stopped => (files, .stopped)

/-- One step of a writer, or a crash or an OSError there, which leaves any residue in the writer's
own temporaries. -/
inductive BackupCall where
  | step (writer : ℕ)
  | stop (writer : ℕ) (ciphertext manifest : Option (List UInt8))

def answer (dumps : Dumps) : Handler Destination BackupCall Empty Unit
  | state, .step writer =>
    let (files, stage) := advance dumps state.files writer (state.stages writer)
    .ok ((), ⟨files, update state.stages writer stage⟩)
  | state, .stop writer ciphertext manifest =>
    .ok ((), ⟨update (update state.files (.temporary writer false) ciphertext)
        (.temporary writer true) manifest,
      update state.stages writer .stopped⟩)

/-- An empty directory and writers that have not begun. -/
def start : Destination := ⟨fun _ => none, fun _ => .starting⟩

def Complete (dumps : Dumps) (files : Directory) : Prop :=
  files .backup = none ∧ files .manifest = none ∨
    ∃ writer, files .backup = some (dumps.ciphertext writer) ∧
      files .manifest = some (dumps.manifest writer)

def SparesLinks (state : Destination) : BackupCall → Prop
  | .step _ => True
  | .stop writer _ _ => (state.stages writer).halfway = false

def Destination.AtRest (state : Destination) : Prop :=
  ∀ writer, state.stages writer ∈ [Stage.starting, .finished, .refused, .stopped]

/-- What has been published so far. -/
inductive Phase where
  | clear
  | halfway (writer : ℕ)
  | whole (writer : ℕ)
  | broken (writer : ℕ)

def Phase.isBroken : Phase → Bool
  | .broken _ => true
  | _ => false

def Phase.backup (dumps : Dumps) : Phase → Option (List UInt8)
  | .clear => none
  | .halfway writer | .whole writer | .broken writer => some (dumps.ciphertext writer)

def Phase.manifest (dumps : Dumps) : Phase → Option (List UInt8)
  | .whole writer => some (dumps.manifest writer)
  | .clear | .halfway _ | .broken _ => none

variable {dumps : Dumps} {state after : Destination} {phase : Phase} {calls : List BackupCall}

structure Phase.Holds (dumps : Dumps) (phase : Phase) (state : Destination) : Prop where
  backup : state.files .backup = phase.backup dumps
  manifest : state.files .manifest = phase.manifest dumps
  halfway : ∀ other, (state.stages other).halfway = true ↔ phase = .halfway other
  ciphertexts : ∀ other, state.stages other = .ciphertextWritten →
    state.files (.temporary other false) = some (dumps.ciphertext other)
  manifests : ∀ other, state.stages other = .manifestWritten →
    state.files (.temporary other true) = some (dumps.manifest other)

theorem Phase.Holds.moved {after : Phase} {files : Directory} {writer : ℕ} {stage : Stage}
    (holds : phase.Holds dumps state)
    (backup : files .backup = after.backup dumps) (manifest : files .manifest = after.manifest dumps)
    (own : stage.halfway = true ↔ after = .halfway writer)
    (others : ∀ other, other ≠ writer → (phase = .halfway other ↔ after = .halfway other))
    (kept : ∀ other ofManifest, other ≠ writer →
      files (.temporary other ofManifest) = state.files (.temporary other ofManifest))
    (ciphertext : stage = .ciphertextWritten →
      files (.temporary writer false) = some (dumps.ciphertext writer))
    (manifests : stage = .manifestWritten →
      files (.temporary writer true) = some (dumps.manifest writer)) :
    after.Holds dumps ⟨files, update state.stages writer stage⟩ := by
  refine ⟨backup, manifest, fun other => ?_, fun other => ?_, fun other => ?_⟩ <;> dsimp only <;>
    by_cases same : other = writer
  · subst same
    rwa [update_self]
  · rw [update_of_ne same]
    exact (holds.halfway other).trans (others other same)
  · subst same
    rwa [update_self]
  · rw [update_of_ne same, kept other false same]
    exact holds.ciphertexts other
  · subst same
    rwa [update_self]
  · rw [update_of_ne same, kept other true same]
    exact holds.manifests other

/-- One call: the phase goes on, and it breaks where a writer stops between its links. -/
theorem Phase.Holds.next (holds : phase.Holds dumps state) (call : BackupCall) :
    ∃ after : Phase, after.Holds dumps (next (answer dumps) state call) ∧
      (after.isBroken = true ↔ phase.isBroken = true ∨ ¬SparesLinks state call) := by
  cases call with
  | step writer =>
    have spared : ¬¬SparesLinks state (.step writer) := not_not.mpr trivial
    have stays {files : Directory} {stage : Stage} (backup : files .backup = state.files .backup)
        (manifest : files .manifest = state.files .manifest)
        (own : stage.halfway = (state.stages writer).halfway)
        (kept : ∀ other ofManifest, other ≠ writer →
          files (.temporary other ofManifest) = state.files (.temporary other ofManifest))
        (ciphertext : stage = .ciphertextWritten →
          files (.temporary writer false) = some (dumps.ciphertext writer))
        (manifests : stage = .manifestWritten →
          files (.temporary writer true) = some (dumps.manifest writer)) :
        ∃ after : Phase, after.Holds dumps ⟨files, update state.stages writer stage⟩ ∧
          (after.isBroken = true ↔ phase.isBroken = true ∨ ¬SparesLinks state (.step writer)) :=
      ⟨phase, holds.moved (backup.trans holds.backup) (manifest.trans holds.manifest)
        (by rw [own]; exact holds.halfway writer) (fun _ _ => Iff.rfl) kept ciphertext manifests,
        by rw [or_iff_left spared]⟩
    change ∃ after : Phase, after.Holds dumps ⟨(advance dumps state.files writer
      (state.stages writer)).1, update state.stages writer (advance dumps state.files writer
      (state.stages writer)).2⟩ ∧ _
    cases stage : state.stages writer with
    | starting =>
      rw [advance]
      split
      · exact stays rfl rfl (by rw [stage]; rfl) (fun _ _ _ => rfl) nofun nofun
      · exact stays rfl rfl (by rw [stage]; rfl) (fun _ _ _ => rfl) nofun nofun
    | dumping =>
      refine stays rfl rfl (by rw [stage]; rfl) (fun other ofManifest differ => ?_) (fun _ => ?_) nofun
      · exact update_of_ne (by simp [differ]) _ _
      · exact update_self _ _ _
    | ciphertextWritten =>
      have written := holds.ciphertexts writer stage
      rw [advance, publish]
      by_cases absent : state.files .backup = none
      · rw [if_pos absent, written]
        have clear : phase = .clear := by
          cases phase <;> first | rfl | cases holds.backup.symm.trans absent
        subst clear
        refine ⟨.halfway writer, holds.moved ?_ ?_ ?_ ?_ ?_ nofun nofun, ?_⟩
        · simp [Phase.backup]
        · exact holds.manifest
        · simp [Stage.halfway]
        · exact fun other differ => ⟨nofun, fun same => absurd (Phase.halfway.inj same).symm differ⟩
        · exact fun other ofManifest differ => by simp [differ]
        · simp [Phase.isBroken, SparesLinks]
      · rw [if_neg absent]
        refine stays rfl rfl (by rw [stage]; rfl) (fun other ofManifest differ => ?_) nofun nofun
        exact update_of_ne (by simp [differ]) _ _
    | ciphertextPublished =>
      refine stays rfl rfl (by rw [stage]; rfl) (fun other ofManifest differ => ?_) nofun (fun _ => ?_)
      · exact update_of_ne (by simp [differ]) _ _
      · exact update_self _ _ _
    | manifestWritten =>
      have written := holds.manifests writer stage
      obtain rfl : phase = .halfway writer := (holds.halfway writer).mp (by rw [stage]; rfl)
      have absent : state.files .manifest = none := holds.manifest
      rw [advance, publish, if_pos absent, written]
      refine ⟨.whole writer, holds.moved ?_ ?_ ?_ ?_ ?_ nofun nofun, ?_⟩
      · exact holds.backup
      · simp [Phase.manifest]
      · simp [Stage.halfway]
      · exact fun other differ => ⟨fun same => absurd (Phase.halfway.inj same).symm differ, nofun⟩
      · exact fun other ofManifest differ => by simp [differ]
      · simp [Phase.isBroken, SparesLinks]
    | finished | refused | stopped =>
      exact stays rfl rfl (by rw [stage]; rfl) (fun _ _ _ => rfl) nofun nofun
  | stop writer ciphertext manifest =>
    have kept : ∀ other ofManifest, other ≠ writer →
        update (update state.files (.temporary writer false) ciphertext)
          (.temporary writer true) manifest (.temporary other ofManifest) =
            state.files (.temporary other ofManifest) :=
      fun other ofManifest differ => by simp [differ]
    by_cases between : (state.stages writer).halfway = true
    · obtain rfl := (holds.halfway writer).mp between
      refine ⟨.broken writer, holds.moved holds.backup holds.manifest ?_ ?_ kept nofun nofun, ?_⟩
      · simp [Stage.halfway]
      · exact fun other differ => ⟨fun same => absurd (Phase.halfway.inj same).symm differ, nofun⟩
      · simp [Phase.isBroken, SparesLinks, between]
    · refine ⟨phase, holds.moved holds.backup holds.manifest ?_ (fun _ _ => Iff.rfl) kept nofun nofun, ?_⟩
      · rw [← holds.halfway writer]
        simpa [Stage.halfway] using between
      · simp [SparesLinks, between]

theorem holds_start : Phase.clear.Holds dumps start :=
  ⟨rfl, rfl, fun _ => ⟨nofun, nofun⟩, fun _ => nofun, fun _ => nofun⟩

/-- A run breaks the destination exactly where some writer stops between its links. -/
theorem Phase.Holds.run (holds : phase.Holds dumps state) (calls : List BackupCall) :
    ∃ after : Phase, after.Holds dumps (run (answer dumps) state calls) ∧
      (after.isBroken = true ↔
        phase.isBroken = true ∨ ¬Along (answer dumps) SparesLinks state calls) := by
  induction calls generalizing phase state with
  | nil => exact ⟨phase, holds, by simp [Along]⟩
  | cons call calls ih =>
    obtain ⟨between, moved, first⟩ := holds.next call
    obtain ⟨after, ended, rest⟩ := ih moved
    refine ⟨after, ended, ?_⟩
    rw [rest, first, Along, not_and_or, or_assoc]

theorem complete_iff (holds : phase.Holds dumps state) (rest : state.AtRest) :
    Complete dumps state.files ↔ ¬phase.isBroken = true := by
  cases phase with
  | clear => exact ⟨fun _ => nofun, fun _ => .inl ⟨holds.backup, holds.manifest⟩⟩
  | halfway writer =>
    have between := (holds.halfway writer).mpr rfl
    have stage := rest writer
    simp only [List.mem_cons, List.not_mem_nil, or_false] at stage
    obtain same | same | same | same := stage <;> rw [same] at between <;> cases between
  | whole writer => exact ⟨fun _ => nofun, fun _ => .inr ⟨writer, holds.backup, holds.manifest⟩⟩
  | broken writer =>
    refine ⟨fun complete => ?_, fun whole => absurd rfl whole⟩
    obtain ⟨absent, -⟩ | ⟨_, -, present⟩ := complete
    · cases holds.backup.symm.trans absent
    · cases holds.manifest.symm.trans present

theorem publish_keeps (ok : publish files temporary target = some published)
    (held : files name = some content) (differs : name ≠ temporary) :
    published name = some content := by
  rw [publish] at ok
  split at ok
  · next absent =>
    obtain ⟨_, -, rfl⟩ := Option.map_eq_some_iff.mp ok
    have other : name ≠ target := by
      rintro rfl
      rw [absent] at held
      cases held
    rw [update_of_ne differs, update_of_ne other, held]
  · cases ok

theorem published_kept (published : ∀ writer ofManifest, name ≠ .temporary writer ofManifest)
    (held : state.files name = some content) (call : BackupCall) :
    (next (answer dumps) state call).files name = some content := by
  cases call with
  | stop writer =>
    change update (update _ _ _) _ _ name = _
    rw [update_of_ne (published _ _), update_of_ne (published _ _), held]
  | step writer =>
    change (advance dumps state.files writer (state.stages writer)).1 name = _
    cases state.stages writer <;> rw [advance]
    case starting => split <;> exact held
    case dumping | ciphertextPublished => exact (update_of_ne (published _ _) _ _).trans held
    case ciphertextWritten | manifestWritten =>
      split
      · next ok => exact publish_keeps ok held (published _ _)
      · exact (update_of_ne (published _ _) _ _).trans held
    all_goals exact held

theorem published_kept_run (published : ∀ writer ofManifest, name ≠ .temporary writer ofManifest)
    (held : state.files name = some content) (calls : List BackupCall) :
    (run (answer dumps) state calls).files name = some content := by
  induction calls generalizing state with
  | nil => exact held
  | cons call calls ih => exact ih (published_kept published held call)

/-- With nothing published, a writer that is left alone gets through. -/
theorem retried (backup : state.files .backup = none) (manifest : state.files .manifest = none)
    (begins : state.stages writer = .starting) :
    let after := run (answer dumps) state (List.replicate 5 (.step writer))
    after.stages writer = .finished ∧ after.files .backup = some (dumps.ciphertext writer) ∧
      after.files .manifest = some (dumps.manifest writer) := by
  simp [run, next, answer, advance, publish, backup, manifest, begins, List.replicate]

/-- Once no writer is on its way, the destination has both files of one backup or neither exactly
when no writer stopped between its links; what is published stays; and with nothing published a
further writer gets through. -/
theorem complete_iff_spared (dumps : Dumps) (calls : List BackupCall)
    (rest : (run (answer dumps) start calls).AtRest) :
    let state := run (answer dumps) start calls
    (Complete dumps state.files ↔ Along (answer dumps) SparesLinks start calls) ∧
      (∀ name content later, name = .backup ∨ name = .manifest → state.files name = some content →
        (run (answer dumps) state later).files name = some content) ∧
      ∀ writer, state.files .backup = none → state.files .manifest = none →
        state.stages writer = .starting →
          let after := run (answer dumps) state (List.replicate 5 (.step writer))
          after.stages writer = .finished ∧ after.files .backup = some (dumps.ciphertext writer) ∧
            after.files .manifest = some (dumps.manifest writer) := by
  refine ⟨?_, fun name content later named held => ?_, fun writer => retried⟩
  · obtain ⟨phase, holds, broken⟩ := holds_start.run calls
    rw [complete_iff holds rest, broken]
    simp [Phase.isBroken]
  · refine published_kept_run (fun writer ofManifest => ?_) held later
    obtain rfl | rfl := named <;> exact nofun

namespace Small

def written : Dumps := ⟨fun _ => [1], fun _ => [2]⟩

/-- The first writer publishes its ciphertext and stops. -/
def cut : List BackupCall := [.step 0, .step 0, .step 0, .stop 0 none none]

end Small

/-- A ciphertext without a manifest, and the next writer is refused. -/
theorem cut_incomplete :
    (run (answer Small.written) start Small.cut).AtRest ∧
      ¬Complete Small.written (run (answer Small.written) start Small.cut).files ∧
      (run (answer Small.written) start (Small.cut ++ [.step 1])).stages 1 = .refused := by
  refine ⟨fun writer => ?_, fun complete => ?_, rfl⟩
  · match writer with
    | 0 => decide
    | _ + 1 => exact List.mem_cons_self
  · obtain ⟨absent, -⟩ | ⟨_, -, present⟩ := complete
    · cases absent
    · cases present

theorem complete_iff_spared_empty :
    Complete Small.written (run (answer Small.written) start [.step 0, .stop 0 none none]).files :=
  (complete_iff_spared Small.written [.step 0, .stop 0 none none] fun writer =>
    match writer with
    | 0 => by decide
    | _ + 1 => List.mem_cons_self).1.mpr ⟨trivial, rfl, trivial⟩

end Liki.Backups
