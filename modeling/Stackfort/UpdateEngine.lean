import Stackfort.Interruption
import Stackfort.UpdateJournal

/-! The transaction of an update. The engine calls its journal store and its runner one after the other and
may be killed between any two calls; a later invocation reads the journal it left. The host keeps what
these calls leave behind, the journal on disk, the snapshots and the database of the panel, and beside
that a log of the calls. A call may fail, and what it does may have happened even so: a journal is in
place once it is renamed, a snapshot once it is linked, and the directory is synchronised after that. A
process that is killed in the middle of a call is one that is killed after a failed one. -/

namespace Stackfort.UpdateApply

open Interruption
open Program hiding done

/-- The calls of the engine. Where a call may fail it answers with its error. -/
inductive EngineOp : Type → Type where
  | load : EngineOp (Except String (Option Journal))
  | save (journal : Journal) : EngineOp (Option String)
  | preflight (current target : Source) : EngineOp (Option String)
  | apply (stage : StageID) (current target : Source) : EngineOp (Option String)
  | verify (stage : StageID) (current target : Source) : EngineOp (Option String)
  | rollback (current target : Source) (journal : Journal) : EngineOp (Option String)
  | now : EngineOp Time

/-- The calls of the runner. -/
def EngineOp.isRunner {β : Type} : EngineOp β → Bool
  | .preflight _ _ | .apply _ _ _ | .verify _ _ _ | .rollback _ _ _ => true
  | .load | .save _ | .now => false

abbrev Engine := Program EngineOp

structure Result where
  status : JournalStatus
  (currentVersion targetVersion : String)
  recovered : Bool
  stages : List StageState
  deriving DecidableEq

/-- A result and an error, each of them possibly absent. -/
abbrev Outcome := Option Result × Option String

def resultFromJournal (journal : Journal) (recovered : Bool) : Option Result :=
  some ⟨journal.status, journal.currentVersion, journal.targetVersion, recovered, journal.stages⟩

/-- The source looks at the two releases in no fixed order. -/
def validateSourcePair (current target : Source) : Option String :=
  match [("current", current), ("target", target)].find? fun named =>
      decide (named.2.root = "" ∨ named.2.version = "") || !isSHA256Text named.2.digest.toList with
  | some (name, _) => some (name ++ " immutable release source is incomplete")
  | none =>
    match compareVersions current.version target.version with
    | .error message => some message
    | .ok comparison =>
      if 0 ≤ comparison then some "target release must be newer than the installed release" else none

/-! ### The engine -/

def rollback (current target : Source) (journal : Journal) : Engine (Journal × Option String) := do
  let failure ← perform (.rollback current target journal)
  let now ← perform .now
  let journal := { journal with
    completedAt := some now, updatedAt := some now, status := if failure.isSome then .rollbackFailed else .rolledBack
    errorCode := if failure.isSome then "rollback-failed" else journal.errorCode }
  let saveFailure ← perform (.save journal)
  let failure := joinErrors [failure, saveFailure.map ("record rollback result: " ++ ·)]
  pure (journal, failure.map ("roll back update: " ++ ·))

def recoverInterrupted (current target : Source) (journal : Journal) : Engine Outcome := do
  let now ← perform .now
  let journal := { journal with status := .rollingBack, errorCode := "interrupted", updatedAt := some now }
  match ← perform (.save journal) with
  | some message => pure (resultFromJournal journal true, some ("record interrupted update recovery: " ++ message))
  | none =>
    let (journal, failure) ← rollback current target journal
    pure (resultFromJournal journal true,
      joinErrors [some "interrupted update was rolled back; retry explicitly", failure])

def StageState.start (stage : StageState) (now : Time) : StageState :=
  { stage with status := .applying, attempts := stage.attempts + 1, startedAt := some now, completedAt := none, errorCode := "" }

/-- The stage is applied and, if that succeeds, verified. -/
def applyAndVerify (stage : StageID) (current target : Source) : Engine (Option String) := do
  match ← perform (.apply stage current target) with
  | some message => pure (some message)
  | none => perform (.verify stage current target)

/-- An error of the loop, after the rollback it leads to. -/
def abandon (current target : Source) (journal : Journal) (errors : List (Option String)) : Engine Outcome := do
  let (journal, failure) ← rollback current target journal
  pure (resultFromJournal journal false, joinErrors (errors ++ [failure]))

/-- The loop over the stages. The stages of the journal are those of `done`, the one at hand and the rest. -/
def applyStages (current target : Source) :
    List StageState → List StageState → Journal → Engine (Except Outcome Journal)
  | _, [], journal => pure (.ok journal)
  | done, stage :: rest, journal => do
      let started ← perform .now
      let stage := stage.start started
      let journal := { journal with stages := done ++ stage :: rest, updatedAt := some started }
      match ← perform (.save journal) with
      | some message =>
        let outcome ← abandon current target journal
          [some ("record update stage " ++ stage.id.text ++ " start: " ++ message)]
        pure (.error outcome)
      | none =>
        match ← applyAndVerify stage.id current target with
        | some message =>
          let failed ← perform .now
          let stage := { stage with status := .failed, errorCode := "stage-failed" }
          let journal := { journal with
            stages := done ++ stage :: rest, status := .rollingBack, errorCode := "stage-failed"
            updatedAt := some failed }
          let saveFailure ← perform (.save journal)
          let outcome ← abandon current target journal
            [some ("apply update stage " ++ stage.id.text ++ ": " ++ message),
              saveFailure.map ("record update failure: " ++ ·)]
          pure (.error outcome)
        | none =>
          let completed ← perform .now
          let stage := { stage with status := .complete, completedAt := some completed }
          let journal := { journal with stages := done ++ stage :: rest, updatedAt := some completed }
          match ← perform (.save journal) with
          | some message =>
            let outcome ← abandon current target journal
              [some ("record update stage " ++ stage.id.text ++ " completion: " ++ message)]
            pure (.error outcome)
          | none => applyStages current target (done ++ [stage]) rest journal

/-- The journal of an update that begins. -/
def newJournal (current target : Source) (now : Time) : Journal :=
  ⟨journalSchemaVersion, .applying, current.version, current.digest, target.version, target.digest, some now, some now,
    none, "", orderedStages.map fun id => ⟨id, .pending, 0, none, none, ""⟩⟩

/-- The update is recorded as complete. -/
def commit (current target : Source) (journal : Journal) : Engine Outcome := do
  let now ← perform .now
  let journal := { journal with status := .complete, errorCode := "", completedAt := some now, updatedAt := some now }
  match ← perform (.save journal) with
  | some message =>
    abandon current target { journal with status := .rollingBack, errorCode := "commit-failed" }
      [some ("record completed update: " ++ message)]
  | none => pure (resultFromJournal journal false, none)

/-- The part of `Apply` that begins an update. -/
def beginUpdate (current target : Source) : Engine Outcome := do
  match ← perform (.preflight current target) with
  | some message => pure (none, some ("update preflight: " ++ message))
  | none =>
    let now ← perform .now
    let journal := newJournal current target now
    match ← perform (.save journal) with
    | some message => pure (none, some ("initialize update journal: " ++ message))
    | none =>
      match ← applyStages current target [] journal.stages journal with
      | .error outcome => pure outcome
      | .ok journal => commit current target journal

/-- What `Apply` does with the journal it finds. -/
def resumeUpdate (current target : Source) (journal : Journal) : Engine Outcome :=
  match journal.status with
  | .complete => do
      match ← perform (.verify .health current target) with
      | some message => pure (resultFromJournal journal false, some ("verify completed update: " ++ message))
      | none => pure (resultFromJournal journal false, none)
  | .applying | .rollingBack | .rollbackFailed => recoverInterrupted current target journal
  | .rolledBack => beginUpdate current target

/-- `Engine.Apply` for an installed and a target release. -/
def apply (request : Source × Source) : Engine Outcome :=
  let (current, target) := request
  match validateSourcePair current target with
  | some message => pure (none, some message)
  | none => do
      match ← perform .load with
      | .error message => pure (none, some ("load update journal: " ++ message))
      | .ok none => beginUpdate current target
      | .ok (some journal) =>
        match validateJournal journal with
        | .error message => pure (none, some ("validate update journal: " ++ message))
        | .ok () =>
          if journalMatches journal current target then resumeUpdate current target journal
          else if terminalJournalMatchesInstalled journal current then beginUpdate current target
          else pure (none, some "update journal belongs to another immutable source pair")

/-! ### The host -/

/-- The decision of `Rollback`: the stages say whether a snapshot is to be restored. -/
def rollbackRequiresBackup (journal : Journal) : Bool :=
  journal.stages.zipIdx.any fun place =>
    (decide (place.1.id = .backupState) && decide (place.1.status = .applying ∨ place.1.status = .complete)) ||
      (decide (orderedStages.idxOf .backupState < place.2) && decide (place.1.status ≠ .pending))

/-- The stages that run against the database of the panel. -/
def StageID.onDatabase (stage : StageID) : Bool :=
  decide (stage = .migration ∨ stage = .startServices ∨ stage = .health)

/-- A snapshot of the database, with the attempt that took it. -/
structure Snapshot where
  (attempt content : Nat)
  deriving DecidableEq

inductive Act where
  | save (journal : Journal)
  | preflight (pair : ReleasePair)
  | apply (stage : StageID) (pair : ReleasePair)
  | verify (stage : StageID) (pair : ReleasePair)
  | rollback (pair : ReleasePair) (journal : Journal)
  deriving DecidableEq

/-- The releases an act is about. -/
def Act.pair : Act → ReleasePair
  | .save journal => journal.pair
  | .preflight pair | .apply _ pair | .verify _ pair | .rollback pair _ => pair

/-- A line of the log: an act and its error, and what was there when it began. -/
structure Entry where
  act : Act
  failure : Option String
  (saved found : Option Journal)
  calls : List (Act × Option String)
  attempt : Nat
  migrated : Bool
  snapshot : Option Snapshot
  database : Nat
  deriving DecidableEq

/-- The host of an updater. The journal, the snapshots by the digest of their target release and the
database are on disk; the attempts are counted, `migrated` says that the current one came to the
database, `found` is the journal the current invocation read and `calls` are its calls of the runner. -/
structure UpdaterHost where
  journal : Option Journal
  snapshots : String → Option Snapshot
  database : Nat
  clock : Time
  attempts : Nat
  migrated : Bool
  found : Option Journal
  calls : List (Act × Option String)
  log : List Entry

/-- What is left open about a call: whether it fails, whether a failing call has had its effect, the time
that passes and what is written to the database. -/
structure Choice where
  failure : Option String
  effect : Bool
  (elapsed content : Nat)
  deriving DecidableEq

def Choice.took (choice : Choice) : Bool := choice.failure.isNone || choice.effect

namespace UpdaterHost

/-- The log after an act. -/
def noted (host : UpdaterHost) (act : Act) (failure : Option String) (next : UpdaterHost) : UpdaterHost :=
  { next with
    log := host.log ++ [⟨act, failure, host.journal, host.found, host.calls, host.attempts, host.migrated,
      host.snapshots act.pair.targetDigest, next.database⟩] }

/-- `FileStore.Save`: the journal is checked, written beside the old one and renamed over it. -/
def save (host : UpdaterHost) (journal : Journal) (choice : Choice) : Option String × UpdaterHost :=
  match validateJournal journal with
  | .error message => (some message, host.noted (.save journal) (some message) host)
  | .ok () => (choice.failure, host.noted (.save journal) choice.failure
      (if choice.took then { host with journal := some journal } else host))

/-- `LinuxRunner.Preflight`: after its checks it removes the snapshot of an earlier attempt. -/
def preflight (host : UpdaterHost) (pair : ReleasePair) (choice : Choice) : Option String × UpdaterHost :=
  let snapshots :=
    if choice.took then Function.update host.snapshots pair.targetDigest none else host.snapshots
  match choice.failure with
  | some message => (some message, { host with snapshots := snapshots })
  | none => (none, { host with snapshots := snapshots, attempts := host.attempts + 1, migrated := false })

/-- `backupState`. A snapshot is published by linking it to a path that must not exist. -/
def backupState (host : UpdaterHost) (pair : ReleasePair) (choice : Choice) : Option String × UpdaterHost :=
  match host.snapshots pair.targetDigest with
  | some _ =>
    (some (choice.failure.getD "create pre-migration state backup: backup destination already exists"), host)
  | none =>
    let published := Function.update host.snapshots pair.targetDigest (some ⟨host.attempts, host.database⟩)
    (choice.failure, { host with snapshots := if choice.took then published else host.snapshots })

/-- `LinuxRunner.Apply`. -/
def apply (host : UpdaterHost) (stage : StageID) (pair : ReleasePair) (choice : Choice) :
    Option String × UpdaterHost :=
  if stage = .backupState then host.backupState pair choice
  else if stage.onDatabase then
    (choice.failure,
      { host with migrated := true, database := if choice.took then choice.content else host.database })
  else (choice.failure, host)

/-- `LinuxRunner.Verify`. -/
def verify (host : UpdaterHost) (stage : StageID) (pair : ReleasePair) (choice : Choice) :
    Option String × UpdaterHost :=
  if stage = .backupState ∧ host.snapshots pair.targetDigest = none then
    (some (choice.failure.getD "file has unsafe metadata"), host)
  else (choice.failure, host)

/-- `LinuxRunner.Rollback`: the database is replaced by the snapshot where the journal says so; the other
commands go on if that fails. -/
def rollback (host : UpdaterHost) (pair : ReleasePair) (journal : Journal) (choice : Choice) :
    Option String × UpdaterHost :=
  if rollbackRequiresBackup journal then
    match host.snapshots pair.targetDigest with
    | none => (some (choice.failure.getD "verify rollback database: file has unsafe metadata"), host)
    | some snapshot =>
      (choice.failure, { host with database := if choice.took then snapshot.content else host.database })
  else (choice.failure, host)

/-- The log and the calls after a call of the runner. -/
def called (host : UpdaterHost) (act : Act) (outcome : Option String × UpdaterHost) : Option String × UpdaterHost :=
  (outcome.1, { host.noted act outcome.1 outcome.2 with calls := host.calls ++ [(act, outcome.1)] })

/-- A new invocation reads the journal. -/
def load (host : UpdaterHost) (choice : Choice) : Except String (Option Journal) × UpdaterHost :=
  match choice.failure with
  | some message => (.error message, { host with found := none, calls := [] })
  | none => (.ok host.journal, { host with found := host.journal, calls := [] })

def now (host : UpdaterHost) (choice : Choice) : Time × UpdaterHost :=
  (host.clock + choice.elapsed, { host with clock := host.clock + choice.elapsed })

def react : {β : Type} → UpdaterHost → EngineOp β → Choice → β × UpdaterHost
  | _, host, .load, choice => host.load choice
  | _, host, .save journal, choice => host.save journal choice
  | _, host, .preflight current target, choice =>
    host.called (.preflight (pairOf current target)) (host.preflight (pairOf current target) choice)
  | _, host, .apply stage current target, choice =>
    host.called (.apply stage (pairOf current target)) (host.apply stage (pairOf current target) choice)
  | _, host, .verify stage current target, choice =>
    host.called (.verify stage (pairOf current target)) (host.verify stage (pairOf current target) choice)
  | _, host, .rollback current target journal, choice =>
    host.called (.rollback (pairOf current target) journal) (host.rollback (pairOf current target) journal choice)
  | _, host, .now, choice => host.now choice

/-- What a call of the runner leaves alone. -/
structure Untouched (host next : UpdaterHost) : Prop where
  journal : next.journal = host.journal
  found : next.found = host.found
  clock : next.clock = host.clock

section

variable (host : UpdaterHost)

include host

theorem preflight_untouched (pair : ReleasePair) (choice : Choice) :
    host.Untouched (host.preflight pair choice).2 := by
  unfold preflight
  dsimp only
  split <;> exact ⟨rfl, rfl, rfl⟩

section

variable (stage : StageID) (pair : ReleasePair) (choice : Choice)

include stage pair choice

theorem apply_untouched : host.Untouched (host.apply stage pair choice).2 := by
  unfold apply backupState
  split
  · split <;> exact ⟨rfl, rfl, rfl⟩
  · split <;> exact ⟨rfl, rfl, rfl⟩

theorem verify_eq_host : (host.verify stage pair choice).2 = host := by
  unfold verify
  split <;> rfl

theorem verify_untouched : host.Untouched (host.verify stage pair choice).2 := by
  rw [verify_eq_host]
  exact ⟨rfl, rfl, rfl⟩

end

theorem rollback_untouched (pair : ReleasePair) (journal : Journal) (choice : Choice) :
    host.Untouched (host.rollback pair journal choice).2 := by
  unfold rollback
  split
  · split <;> exact ⟨rfl, rfl, rfl⟩
  · exact ⟨rfl, rfl, rfl⟩

theorem react_untouched {β : Type} (op : EngineOp β) (hrunner : op.isRunner = true) (choice : Choice) :
    host.Untouched (host.react op choice).2 := by
  cases op with
  | load | save | now => cases hrunner
  | preflight current target =>
    obtain ⟨hjournal, hfound, hclock⟩ := host.preflight_untouched (pairOf current target) choice
    exact ⟨hjournal, hfound, hclock⟩
  | apply stage current target =>
    obtain ⟨hjournal, hfound, hclock⟩ := host.apply_untouched stage (pairOf current target) choice
    exact ⟨hjournal, hfound, hclock⟩
  | verify stage current target =>
    obtain ⟨hjournal, hfound, hclock⟩ := host.verify_untouched stage (pairOf current target) choice
    exact ⟨hjournal, hfound, hclock⟩
  | rollback current target journal =>
    obtain ⟨hjournal, hfound, hclock⟩ := host.rollback_untouched (pairOf current target) journal choice
    exact ⟨hjournal, hfound, hclock⟩

/-- The journal after `Save` is the old one or the new one, and the new one where it succeeds. -/
theorem save_cases (journal : Journal) (choice : Choice) :
    ∃ failure next, host.save journal choice = (failure, host.noted (.save journal) failure next) ∧
      (next = host ∧ failure.isSome ∨
        next = { host with journal := some journal } ∧ validateJournal journal = .ok ()) := by
  unfold save
  split
  next message hinvalid => exact ⟨_, _, rfl, .inl ⟨rfl, rfl⟩⟩
  next hvalid =>
    refine ⟨_, _, rfl, ?_⟩
    cases htook : choice.took with
    | true => exact .inr ⟨rfl, hvalid⟩
    | false =>
      refine .inl ⟨rfl, ?_⟩
      unfold Choice.took at htook
      rw [Bool.or_eq_false_iff] at htook
      cases hfailure : choice.failure with
      | none =>
        rw [hfailure] at htook
        cases htook.1
      | some message => rfl

end

end UpdaterHost

/-- The environment of the engine. -/
def updater : Environment EngineOp UpdaterHost Choice := ⟨UpdaterHost.react⟩

/-! ### Invocations -/

/-- An invocation that has read the journal. -/
def UpdaterHost.opened (host : UpdaterHost) : UpdaterHost := { host with found := host.journal, calls := [] }

/-- The ways an invocation goes: it is refused, it begins an update while none is unfinished, it takes up
the unfinished one of its releases, or it verifies the one that is complete. -/
theorem apply_ensures {T : Terms EngineOp UpdaterHost Choice} {Stopped : UpdaterHost → Prop}
    {Post : Outcome → UpdaterHost → Prop} {host : UpdaterHost} {current target : Source}
    (hstopped : Stopped host) (hrefused : ∀ outcome, Post outcome host)
    (hunread : ∀ outcome, Post outcome { host with found := none, calls := [] })
    (hread : ∀ outcome, Post outcome host.opened)
    (hbegin : validateSourcePair current target = none →
      (∀ journal, host.journal = some journal → validateJournal journal = .ok () ∧ ¬journal.Unfinished) →
      (beginUpdate current target).Ensures updater T Stopped Post host.opened)
    (hrecover : ∀ journal, validateSourcePair current target = none → host.journal = some journal →
      validateJournal journal = .ok () → journal.pair = pairOf current target → journal.Unfinished →
      (recoverInterrupted current target journal).Ensures updater T Stopped Post host.opened)
    (hverify : ∀ journal, host.journal = some journal → journal.status = .complete →
      (resumeUpdate current target journal).Ensures updater T Stopped Post host.opened) :
    (apply (current, target)).Ensures updater T Stopped Post host := by
  unfold apply
  dsimp only
  split
  · exact hrefused _
  next hsources =>
    refine Ensures.perform hstopped fun choice _ => ?_
    show Program.Ensures updater T Stopped Post (host.load choice).2 (match (host.load choice).1 with
      | .error message => _
      | .ok none => _
      | .ok (some journal) => _)
    unfold UpdaterHost.load
    cases choice.failure with
    | some message => exact hunread _
    | none =>
      show Program.Ensures updater T Stopped Post host.opened _
      cases hjournal : host.journal with
      | none => exact hbegin hsources fun journal hsaved => nomatch hjournal.symm.trans hsaved
      | some journal =>
        have hended : validateJournal journal = .ok () → ¬journal.Unfinished →
            ∀ saved, host.journal = some saved → validateJournal saved = .ok () ∧ ¬saved.Unfinished := by
          intro hvalid hended saved hsaved
          rw [← some.inj (hjournal.symm.trans hsaved)]
          exact ⟨hvalid, hended⟩
        dsimp only
        cases hvalid : validateJournal journal with
        | error message => exact hread _
        | ok _ =>
          dsimp only
          split_ifs with hpair hterminal
          · have hrecover := hrecover journal hsources hjournal hvalid (journalMatches_iff.mp hpair)
            cases hstatus : journal.status with
            | complete => exact hverify journal hjournal hstatus
            | applying =>
              rw [resumeUpdate, hstatus]
              exact hrecover (.inl hstatus)
            | rollingBack =>
              rw [resumeUpdate, hstatus]
              exact hrecover (.inr (.inl hstatus))
            | rollbackFailed =>
              rw [resumeUpdate, hstatus]
              exact hrecover (.inr (.inr hstatus))
            | rolledBack =>
              rw [resumeUpdate, hstatus]
              exact hbegin hsources (hended hvalid (by simp [Journal.Unfinished, hstatus]))
          · exact hbegin hsources (hended hvalid (not_unfinished_of_terminalJournalMatchesInstalled hterminal))
          · exact hread _

/-! ### A host -/

namespace UpdateSample

def installed : Source := ⟨"/releases/1.0.0", "1.0.0", String.ofList (List.replicate 64 'a')⟩

def next : Source := ⟨"/releases/1.1.0", "1.1.0", String.ofList (List.replicate 64 'b')⟩

def untouched : UpdaterHost := ⟨none, fun _ => none, 0, 1, 0, false, none, [], []⟩

def passes : Choice := ⟨none, false, 1, 0⟩

def fails : Choice := ⟨some "failed", false, 0, 0⟩

end UpdateSample

end Stackfort.UpdateApply
