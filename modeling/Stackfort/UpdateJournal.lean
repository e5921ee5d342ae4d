import Stackfort.ReleaseDiscovery

/-! The journal of an update. It says between which two releases the update runs, how far its stages came
and how it ended; the store checks it whenever it is written. The times of a journal are texts: the
absent one is the empty text, and a reading of the clock is a time that `time.Parse` takes back as long
as its year has four digits. -/

namespace Stackfort.UpdateApply

/-- An immutable release on the host. -/
structure Source where
  (root version digest : String)
  deriving DecidableEq

inductive StageID where
  | stopServices
  | backupState
  | nativePackages
  | payload
  | configuration
  | migration
  | startServices
  | health
  deriving DecidableEq

def StageID.text : StageID → String
  | .stopServices => "stop-services"
  | .backupState => "backup-state"
  | .nativePackages => "native-packages"
  | .payload => "release-payload"
  | .configuration => "system-configuration"
  | .migration => "database-migration"
  | .startServices => "start-services"
  | .health => "health-gate"

def orderedStages : List StageID :=
  [.stopServices, .backupState, .nativePackages, .payload, .configuration, .migration, .startServices, .health]

inductive JournalStatus where
  | applying
  | rollingBack
  | rolledBack
  | rollbackFailed
  | complete
  deriving DecidableEq

inductive StageStatus where
  | pending
  | applying
  | failed
  | complete
  deriving DecidableEq

structure StageState where
  id : StageID
  status : StageStatus
  attempts : Int
  (startedAt completedAt : Option Time)
  errorCode : String
  deriving DecidableEq

structure Journal where
  schemaVersion : Int
  status : JournalStatus
  (currentVersion currentDigest targetVersion targetDigest : String)
  (startedAt updatedAt completedAt : Option Time)
  errorCode : String
  stages : List StageState
  deriving DecidableEq

def journalSchemaVersion : Int := 1

/-! ### Validation -/

/-- The first instant whose year has five digits. -/
def yearTenThousand : Time := daysBeforeYear 10000 * 86400 * second

def parseJournalTime (value : Option Time) : Option Time :=
  value.filter fun time => decide (time ≠ 0 ∧ time < yearTenThousand)

def validJournalTime (value : Option Time) : Bool := (parseJournalTime value).isSome

/-- The pattern `[a-z][a-z0-9_-]{0,79}`. -/
def isJournalErrorCode (code : String) : Bool :=
  match code.toList with
  | [] => false
  | first :: rest => decide ('a' ≤ first ∧ first ≤ 'z') && decide (rest.length ≤ 79) &&
      rest.all fun c => decide ('a' ≤ c ∧ c ≤ 'z' ∨ '0' ≤ c ∧ c ≤ '9' ∨ c = '_' ∨ c = '-')

/-- The errors of `validateJournal` about one stage, which is to be the one of its place. -/
def validateStage (stage : StageState) (id : StageID) : Except String Unit := do
  if stage.id ≠ id then throw "update journal stage ordering is invalid"
  if stage.attempts < 0 ∨ 100 < stage.attempts then throw "update journal stage attempts are invalid"
  if stage.errorCode ≠ "" ∧ ¬isJournalErrorCode stage.errorCode then throw "update journal error code is invalid"
  match stage.status with
  | .pending =>
    if stage.attempts ≠ 0 ∨ stage.startedAt ≠ none ∨ stage.completedAt ≠ none ∨ stage.errorCode ≠ "" then
      throw "pending update stage carries execution state"
  | .applying =>
    if stage.attempts < 1 ∨ ¬validJournalTime stage.startedAt ∨ stage.completedAt ≠ none ∨ stage.errorCode ≠ "" then
      throw "applying update stage state is invalid"
  | .failed =>
    if stage.attempts < 1 ∨ ¬validJournalTime stage.startedAt ∨ stage.completedAt ≠ none ∨ stage.errorCode = "" then
      throw "failed update stage state is invalid"
  | .complete =>
    match parseJournalTime stage.startedAt, parseJournalTime stage.completedAt with
    | some started, some completed =>
      if stage.attempts < 1 ∨ completed < started ∨ stage.errorCode ≠ "" then
        throw "completed update stage state is invalid"
    | _, _ => throw "completed update stage state is invalid"

def JournalStatus.terminal (status : JournalStatus) : Bool :=
  decide (status = .complete ∨ status = .rolledBack ∨ status = .rollbackFailed)

/-- The checks of `validateJournal` on the times of a journal. -/
def validateTimes (journal : Journal) : Except String Unit :=
  match parseJournalTime journal.startedAt with
  | none => throw "update journal start time is invalid"
  | some startedAt =>
    match parseJournalTime journal.updatedAt with
    | none => throw "update journal update time is invalid"
    | some updatedAt =>
      if updatedAt < startedAt then throw "update journal update time is invalid"
      else if journal.status.terminal then
        match parseJournalTime journal.completedAt with
        | none => throw "terminal update journal completion time is invalid"
        | some completedAt =>
          if completedAt < startedAt ∨ completedAt < updatedAt then
            throw "terminal update journal completion time is invalid"
          else pure ()
      else if journal.completedAt ≠ none then throw "non-terminal update journal has a completion time"
      else pure ()

/-- The checks of `validateJournal` on the two releases. -/
def validateReleases (journal : Journal) : Except String Unit := do
  let _ ← (parseVersion journal.currentVersion).mapError ("invalid journal current version: " ++ ·)
  let _ ← (parseVersion journal.targetVersion).mapError ("invalid journal target version: " ++ ·)
  match compareVersions journal.currentVersion journal.targetVersion with
  | .error _ => throw "update journal version transition is invalid"
  | .ok comparison => if 0 ≤ comparison then throw "update journal version transition is invalid"
  if ¬isSHA256Text journal.currentDigest.toList ∨ ¬isSHA256Text journal.targetDigest.toList then
    throw "update journal source digest is invalid"

def validateJournal (journal : Journal) : Except String Unit := do
  if journal.schemaVersion ≠ journalSchemaVersion then throw "unsupported update journal schema"
  validateReleases journal
  validateTimes journal
  if journal.errorCode ≠ "" ∧ ¬isJournalErrorCode journal.errorCode then throw "update journal error code is invalid"
  if journal.stages.length ≠ orderedStages.length then throw "update journal stage inventory is invalid"
  (journal.stages.zip orderedStages).forM fun place => validateStage place.1 place.2

/-! ### Pairs of releases -/

/-- The two releases of a journal, by version and digest. -/
structure ReleasePair where
  (currentVersion currentDigest targetVersion targetDigest : String)
  deriving DecidableEq

def Journal.pair (journal : Journal) : ReleasePair :=
  ⟨journal.currentVersion, journal.currentDigest, journal.targetVersion, journal.targetDigest⟩

def pairOf (current target : Source) : ReleasePair :=
  ⟨current.version, current.digest, target.version, target.digest⟩

def journalMatches (journal : Journal) (current target : Source) : Bool :=
  decide (journal.currentVersion = current.version ∧ journal.currentDigest = current.digest ∧
    journal.targetVersion = target.version ∧ journal.targetDigest = target.digest)

def terminalJournalMatchesInstalled (journal : Journal) (current : Source) : Bool :=
  match journal.status with
  | .complete => decide (journal.targetVersion = current.version ∧ journal.targetDigest = current.digest)
  | .rolledBack => decide (journal.currentVersion = current.version ∧ journal.currentDigest = current.digest)
  | .applying | .rollingBack | .rollbackFailed => false

/-- The statuses of an update that has not come to an end. -/
def Journal.Unfinished (journal : Journal) : Prop :=
  journal.status = .applying ∨ journal.status = .rollingBack ∨ journal.status = .rollbackFailed

instance (journal : Journal) : Decidable journal.Unfinished :=
  inferInstanceAs (Decidable (_ ∨ _ ∨ _))

variable {journal : Journal}

theorem journalMatches_iff {current target : Source} :
    journalMatches journal current target = true ↔ journal.pair = pairOf current target := by
  unfold journalMatches Journal.pair pairOf
  rw [decide_eq_true_eq, ReleasePair.mk.injEq]

theorem not_unfinished_of_terminalJournalMatchesInstalled {current : Source}
    (h : terminalJournalMatchesInstalled journal current = true) : ¬journal.Unfinished := by
  unfold terminalJournalMatchesInstalled at h
  unfold Journal.Unfinished
  cases hstatus : journal.status <;> rw [hstatus] at h <;> simp_all

/-! ### What a valid journal says -/

theorem parseJournalTime_eq_some_iff {value : Option Time} {time : Time} :
    parseJournalTime value = some time ↔ value = some time ∧ time ≠ 0 ∧ time < yearTenThousand := by
  unfold parseJournalTime
  rw [Option.filter_eq_some_iff, decide_eq_true_eq]

/-- The times of a journal that passes. -/
structure TimesValid (journal : Journal) (startedAt updatedAt : Time) : Prop where
  started : parseJournalTime journal.startedAt = some startedAt
  updated : parseJournalTime journal.updatedAt = some updatedAt
  order : startedAt ≤ updatedAt
  terminal : journal.status.terminal = true →
    ∃ completedAt, parseJournalTime journal.completedAt = some completedAt ∧ updatedAt ≤ completedAt
  unended : journal.status.terminal = false → journal.completedAt = none

theorem validateTimes_eq_ok_iff :
    validateTimes journal = .ok () ↔ ∃ startedAt updatedAt, TimesValid journal startedAt updatedAt := by
  unfold validateTimes
  constructor
  · intro h
    split at h
    · cases h
    next startedAt hstarted =>
      split at h
      · cases h
      next updatedAt hupdated =>
        split_ifs at h with horder hterminal hcompleted
        · split at h
          · cases h
          next completedAt hcompletedAt =>
            split_ifs at h with hlate
            rw [not_or, not_lt, not_lt] at hlate
            refine ⟨startedAt, updatedAt, hstarted, hupdated, not_lt.mp horder, fun _ => ?_, fun hopen => ?_⟩
            · exact ⟨completedAt, hcompletedAt, hlate.2⟩
            · rw [hterminal] at hopen
              cases hopen
        · refine ⟨startedAt, updatedAt, hstarted, hupdated, not_lt.mp horder, fun hclosed => ?_, fun _ => ?_⟩
          · exact absurd hclosed hterminal
          · exact not_not.mp hcompleted
  · rintro ⟨startedAt, updatedAt, hstarted, hupdated, horder, hterminal, hopen⟩
    rw [hstarted, hupdated]
    dsimp only
    rw [if_neg (not_lt.mpr horder)]
    cases hstatus : journal.status.terminal with
    | true =>
      obtain ⟨completedAt, hcompleted, hlate⟩ := hterminal hstatus
      rw [if_pos rfl, hcompleted]
      dsimp only
      rw [if_neg (by rw [not_or, not_lt, not_lt]; exact ⟨horder.trans hlate, hlate⟩)]
      rfl
    | false =>
      rw [if_neg Bool.false_ne_true, if_neg (not_not.mpr (hopen hstatus))]
      rfl

theorem validateJournal_eq_ok_iff :
    validateJournal journal = .ok () ↔ journal.schemaVersion = journalSchemaVersion ∧
      validateReleases journal = .ok () ∧ validateTimes journal = .ok () ∧
      (journal.errorCode = "" ∨ isJournalErrorCode journal.errorCode = true) ∧
      journal.stages.length = orderedStages.length ∧
      (journal.stages.zip orderedStages).forM (fun place => validateStage place.1 place.2) = .ok () := by
  unfold validateJournal
  simp only [bind_eq_ok_iff, guard_eq_ok_iff, ne_eq, not_not, not_and]
  constructor
  · rintro ⟨hschema, ⟨⟩, hreleases, ⟨⟩, htimes, hcode, hlength, hstages⟩
    exact ⟨hschema, hreleases, htimes, or_iff_not_imp_left.mpr hcode, hlength, hstages⟩
  · rintro ⟨hschema, hreleases, htimes, hcode, hlength, hstages⟩
    exact ⟨hschema, (), hreleases, (), htimes, or_iff_not_imp_left.mp hcode, hlength, hstages⟩

end Stackfort.UpdateApply
