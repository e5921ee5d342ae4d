import Stackfort.OperationTransitions

/-! The life of one operation. Its view is its own row with its attempts and events; the machine says
how a view may change, one constructor for each way a transition can end, and leaves out everything
about keys, statements and other operations. Two facts carry every later argument: a step keeps a
view consistent, which means that the columns fit the status, the attempts are numbered without
gaps and the newest attempt alone may run or have succeeded; and a step never reopens a settled
attempt. The store is shown to follow the machine in `OperationRefinement`. -/

namespace Stackfort

open List

/-- An operation with the attempts and events recorded for it, oldest first. -/
structure OperationView where
  row : Operation
  attempts : List OperationAttempt
  events : List OperationEvent

variable {row : Operation} {attempts : List OperationAttempt} {status : OperationStatus}
  {workerInstanceID attemptID : ID} {progress : Int} {now : Time}

namespace OperationView

variable {v w : OperationView}

/-- The view once the event with these parameters is appended to it. -/
def record (v : OperationView) (event : AppendOperationEventParams) (now : Time) : OperationView :=
  { v with events := v.events ++ [event.event v.events now] }

def setRow (v : OperationView) (f : Operation → Operation) : OperationView := { v with row := f v.row }

def setAttempts (v : OperationView) (p : OperationAttempt → Bool)
    (f : OperationAttempt → OperationAttempt) : OperationView :=
  { v with attempts := updateWhere p f v.attempts }

def withEvents (v : OperationView) (events : List OperationEvent) : OperationView :=
  { v with events := events }

def addAttempt (v : OperationView) (attempt : OperationAttempt) : OperationView :=
  { v with attempts := v.attempts ++ [attempt] }

@[simp] theorem row_record (event : AppendOperationEventParams) (now : Time) : (v.record event now).row = v.row := rfl

@[simp] theorem row_setRow (f : Operation → Operation) : (v.setRow f).row = f v.row := rfl

@[simp] theorem attempts_setRow (f : Operation → Operation) : (v.setRow f).attempts = v.attempts := rfl

section

variable (p : OperationAttempt → Bool) (f : OperationAttempt → OperationAttempt)

include p f

@[simp] theorem row_setAttempts : (v.setAttempts p f).row = v.row := rfl

@[simp] theorem attempts_setAttempts : (v.setAttempts p f).attempts = updateWhere p f v.attempts := rfl

end

@[simp] theorem row_addAttempt (attempt : OperationAttempt) : (v.addAttempt attempt).row = v.row := rfl

@[simp] theorem attempts_addAttempt (attempt : OperationAttempt) :
    (v.addAttempt attempt).attempts = v.attempts ++ [attempt] := rfl

/-! ### Consistent views -/

/-- Attempts that neither run nor have succeeded. -/
def Settled (attempts : List OperationAttempt) : Prop :=
  ∀ attempt ∈ attempts, attempt.outcome ≠ .running ∧ attempt.outcome ≠ .succeeded

/-- The newest attempt runs and is the one the row names. -/
structure IsCurrent (row : Operation) (attempt : OperationAttempt) : Prop where
  running : attempt.outcome = .running
  unfinished : attempt.completedAt = none
  blameless : attempt.errorCode = none
  attemptID : row.currentAttemptID = some attempt.id
  worker : row.workerInstanceID = some attempt.workerInstanceID
  lease : row.leaseExpiresAt = some attempt.leaseExpiresAt

/-- Which outcomes the attempts may have under each status. -/
def AttemptsFit (row : Operation) (attempts : List OperationAttempt) : Prop :=
  match row.status with
  | .running | .cancelling =>
    ∃ earlier attempt, attempts = earlier ++ [attempt] ∧ Settled earlier ∧ IsCurrent row attempt
  | .succeeded =>
    ∃ earlier attempt, attempts = earlier ++ [attempt] ∧ Settled earlier ∧
      attempt.outcome = .succeeded
  | .pending | .failed | .cancelled => Settled attempts

/-- Full progress is reserved to success. -/
def ProgressFits (row : Operation) : Prop :=
  0 ≤ row.progressPercent ∧
    if row.status = .succeeded then row.progressPercent = 100 else row.progressPercent ≤ 99

/-- What every reachable view satisfies. -/
structure Consistent (v : OperationView) : Prop where
  owner : ∀ attempt ∈ v.attempts, attempt.operationID = v.row.id
  attemptIDs : (v.attempts.map OperationAttempt.id).Nodup
  numbered : v.attempts.map OperationAttempt.attemptNumber = List.range' 1 v.row.attemptCount
  bounded : v.row.attemptCount ≤ v.row.maxAttempts
  single : v.row.retryClass = .none → v.row.maxAttempts = 1
  columns : columnsFitStatus v.row = true
  progress : ProgressFits v.row
  attemptsFit : AttemptsFit v.row v.attempts
  sequences : v.events.map OperationEvent.sequence = List.range' 1 v.events.length

theorem attemptsFit_active (hactive : row.status.isActive = true) :
    AttemptsFit row attempts ↔
      ∃ earlier attempt, attempts = earlier ++ [attempt] ∧ Settled earlier ∧ IsCurrent row attempt := by
  unfold AttemptsFit
  cases hstatus : row.status <;> simp [OperationStatus.isActive, hstatus] at hactive ⊢

/-- The current attempt of a held operation, with the attempts before it. -/
theorem Consistent.current (hv : v.Consistent) (hactive : v.row.status.isActive = true) :
    ∃ earlier attempt, v.attempts = earlier ++ [attempt] ∧ Settled earlier ∧ IsCurrent v.row attempt :=
  (attemptsFit_active hactive).mp hv.attemptsFit

/-! ### Events -/

theorem foldl_max_range' (n start : Nat) : (List.range' 1 n).foldl max start = max start n := by
  induction n with
  | zero => simp
  | succ n ih =>
    rw [List.range'_1_concat, foldl_append, ih]
    simp only [foldl_cons, foldl_nil]
    omega

theorem nextSequence_eq {events : List OperationEvent}
    (h : events.map OperationEvent.sequence = List.range' 1 events.length) :
    nextSequence events = events.length + 1 := by
  rw [nextSequence, h, foldl_max_range', Nat.zero_max]

theorem Consistent.record (hv : v.Consistent) (event : AppendOperationEventParams) (now : Time) :
    (v.record event now).Consistent := by
  refine ⟨hv.owner, hv.attemptIDs, hv.numbered, hv.bounded, hv.single, hv.columns, hv.progress, hv.attemptsFit, ?_⟩
  simp only [OperationView.record, map_append, map_cons, map_nil, length_append,
    length_cons, length_nil, AppendOperationEventParams.event]
  rw [hv.sequences, nextSequence_eq hv.sequences, Nat.zero_add, List.range'_1_concat, Nat.add_comm 1]

/-! ### Steps -/

/-- The caller's attempt and worker are the ones the row names. -/
structure Held (v : OperationView) (attemptID workerInstanceID : ID) : Prop where
  active : v.row.status.isActive = true
  attempt : v.row.currentAttemptID = some attemptID
  worker : v.row.workerInstanceID = some workerInstanceID

/-- The next attempt of an operation that has one left. -/
structure Opens (v : OperationView) (attempt : OperationAttempt) : Prop where
  budget : v.row.attemptCount < v.row.maxAttempts
  number : attempt.attemptNumber = v.row.attemptCount + 1
  owner : attempt.operationID = v.row.id
  running : attempt.outcome = .running
  unfinished : attempt.completedAt = none
  blameless : attempt.errorCode = none
  fresh : ∀ other ∈ v.attempts, other.id ≠ attempt.id

/-- The end of the current attempt, together with the new row. -/
def settle (v : OperationView) (held : OperationAttempt → Bool) (outcome : OperationAttemptOutcome)
    (errorCode : Option String) (g : Operation → Operation) (now : Time) : OperationView :=
  (v.setAttempts held (setOutcome outcome errorCode now)).setRow g

end OperationView

open OperationView

/-- **The operation machine.** One constructor for each way a transition of the store changes an
operation. The events are whatever the transition reports; only their order is of interest. -/
inductive OperationStep (v : OperationView) : OperationView → Prop where
  | claim (attempt : OperationAttempt) (event : AppendOperationEventParams) (now : Time)
      (hstatus : v.row.status = .pending) (hopens : v.Opens attempt) :
      OperationStep v (((v.addAttempt attempt).setRow (setClaimed attempt now)).record event now)
  | heartbeat (attemptID workerInstanceID : ID) (leaseExpiresAt now : Time)
      (hheld : v.Held attemptID workerInstanceID) :
      OperationStep v ((v.setAttempts (heldBy attemptID v.row.id workerInstanceID)
        (setHeartbeat now leaseExpiresAt)).setRow (setLease now leaseExpiresAt))
  | checkpoint (stage : String) (progress : Int) (event : AppendOperationEventParams) (now : Time)
      (hstatus : v.row.status = .running) (hgrows : v.row.progressPercent ≤ progress)
      (hbound : progress ≤ 99) :
      OperationStep v ((v.setRow (setProgress stage progress now)).record event now)
  | complete (attemptID workerInstanceID : ID) (result : JsonObject)
      (event : AppendOperationEventParams) (now : Time) (hheld : v.Held attemptID workerInstanceID)
      (hstatus : v.row.status = .running) :
      OperationStep v ((v.settle (heldBy attemptID v.row.id workerInstanceID) .succeeded
        none (setSucceeded result now) now).record event now)
  | scheduleRetry (attemptID workerInstanceID : ID) (errorCode : String) (nextAttemptAt : Time)
      (event : AppendOperationEventParams) (now : Time) (hheld : v.Held attemptID workerInstanceID)
      (hstatus : v.row.status = .running) (hclass : v.row.retryClass = .safe)
      (hbudget : v.row.attemptCount < v.row.maxAttempts) :
      OperationStep v ((v.settle (heldBy attemptID v.row.id workerInstanceID) .failed
        (some errorCode) (setRetryQueued nextAttemptAt now) now).record event now)
  | fail (attemptID workerInstanceID : ID) (errorCode : String) (result : JsonObject)
      (event : AppendOperationEventParams) (now : Time) (hheld : v.Held attemptID workerInstanceID) :
      OperationStep v ((v.settle (heldBy attemptID v.row.id workerInstanceID) .failed
        (some errorCode) (setFailed result errorCode now) now).record event now)
  | cancelPending (actorID : Option ID) (requested cancelled : AppendOperationEventParams) (now : Time)
      (hstatus : v.row.status = .pending) :
      OperationStep v (((v.setRow (setCancellation .cancelled "cancelled" (some now) actorID
        now)).record requested now).record cancelled now)
  | cancelRunning (actorID : Option ID) (event : AppendOperationEventParams) (now : Time)
      (hstatus : v.row.status = .running) :
      OperationStep v ((v.setRow (setCancellation .cancelling v.row.stage none actorID now)).record event now)
  | acknowledge (attemptID workerInstanceID : ID) (event : AppendOperationEventParams) (now : Time)
      (hheld : v.Held attemptID workerInstanceID) (hstatus : v.row.status = .cancelling) :
      OperationStep v ((v.settle (heldBy attemptID v.row.id workerInstanceID) .cancelled
        none (setCancelled now) now).record event now)
  | manualRetry (event : AppendOperationEventParams) (now : Time) (hstatus : v.row.status = .failed)
      (hclass : v.row.retryClass ≠ .none) (hbudget : v.row.attemptCount < v.row.maxAttempts) :
      OperationStep v ((v.setRow (setManualRetry now)).record event now)
  | recoverCancelled (attemptID : ID) (event : AppendOperationEventParams) (now : Time)
      (hstatus : v.row.status = .cancelling) (hattempt : v.row.currentAttemptID = some attemptID) :
      OperationStep v ((v.settle (heldByAny attemptID v.row.id) .cancelled none
        (setCancelledAfterWorkerLoss now) now).record event now)
  | recoverRetry (attemptID : ID) (errorCode : String) (nextAttemptAt : Time)
      (expired scheduled : AppendOperationEventParams) (now : Time)
      (hstatus : v.row.status = .running) (hattempt : v.row.currentAttemptID = some attemptID)
      (hclass : v.row.retryClass = .safe) (hbudget : v.row.attemptCount < v.row.maxAttempts) :
      OperationStep v (((v.settle (heldByAny attemptID v.row.id) .leaseExpired
        (some errorCode) (setRetryQueuedAfterWorkerLoss nextAttemptAt now) now).record
          expired now).record scheduled now)
  | recoverFailed (attemptID : ID) (errorCode : String)
      (expired failed : AppendOperationEventParams) (now : Time)
      (hstatus : v.row.status = .running) (hattempt : v.row.currentAttemptID = some attemptID) :
      OperationStep v (((v.settle (heldByAny attemptID v.row.id) .leaseExpired
        (some errorCode) (setFailedAfterWorkerLoss errorCode now) now).record
          expired now).record failed now)

namespace OperationView

variable {v w : OperationView} {p : OperationAttempt → Bool} {f : OperationAttempt → OperationAttempt}
  {old new : Operation}

/-! ### Steps keep views consistent -/

theorem operationsRestrictUpdate_eq_false :
    operationsRestrictUpdate old new = false ↔
      requestChanged old new = false ∧ old.progressPercent ≤ new.progressPercent ∧
        old.attemptCount ≤ new.attemptCount ∧ new.attemptCount ≤ new.maxAttempts ∧
        old.status.isTerminal = false ∧ transitionAllowed old.status new.status = true ∧
        columnsFitStatus new = true := by
  simp only [operationsRestrictUpdate, Bool.or_eq_false_iff, decide_eq_false_iff_not, not_lt, Bool.not_eq_false']
  tauto

theorem request_of_allowed (h : operationsRestrictUpdate old new = false) :
    new.id = old.id ∧ new.retryClass = old.retryClass ∧ new.maxAttempts = old.maxAttempts := by
  have hrequest := (operationsRestrictUpdate_eq_false.mp h).1
  simp only [requestChanged, decide_eq_false_iff_not, not_or, not_not] at hrequest
  exact ⟨hrequest.1, hrequest.2.2.2.2.1, hrequest.2.2.2.2.2.2.2.2.2⟩

theorem progress_le_of_status (hv : v.Consistent) (hstatus : v.row.status ≠ .succeeded) :
    0 ≤ v.row.progressPercent ∧ v.row.progressPercent ≤ 99 := by
  have h := hv.progress
  rwa [ProgressFits, if_neg hstatus] at h

/-- Progress still fits when a row that has not succeeded keeps it. -/
theorem Consistent.progress_keep (hv : v.Consistent) (hstatus : v.row.status ≠ .succeeded)
    (hkeep : row.progressPercent = v.row.progressPercent) (hnew : row.status ≠ .succeeded) :
    ProgressFits row := by
  obtain ⟨hlow, hhigh⟩ := progress_le_of_status hv hstatus
  rw [ProgressFits, if_neg hnew, hkeep]
  exact ⟨hlow, hhigh⟩

theorem ne_succeeded_of_isActive (h : status.isActive = true) : status ≠ .succeeded := by
  rintro rfl
  cases h

theorem isActive_iff : status.isActive = true ↔ status = .running ∨ status = .cancelling := by
  cases status <;> simp [OperationStatus.isActive]

section

variable (hv : v.Consistent)

include hv

/-- A view stays consistent when the attempts keep their keys and the new row fits them. -/
theorem Consistent.replace (hallowed : operationsRestrictUpdate v.row row = false)
    (hcount : row.attemptCount = v.row.attemptCount)
    (howner : attempts.map OperationAttempt.operationID = v.attempts.map OperationAttempt.operationID)
    (hid : attempts.map OperationAttempt.id = v.attempts.map OperationAttempt.id)
    (hnumber : attempts.map OperationAttempt.attemptNumber = v.attempts.map OperationAttempt.attemptNumber)
    (hprogress : ProgressFits row) (hfit : AttemptsFit row attempts) :
    ({ v with row := row, attempts := attempts } : OperationView).Consistent := by
  obtain ⟨hrow, hclass, hmax⟩ := request_of_allowed hallowed
  obtain ⟨-, -, -, hbounded, -, -, hcolumns⟩ := operationsRestrictUpdate_eq_false.mp hallowed
  have howned : ∀ k ∈ attempts.map OperationAttempt.operationID, k = v.row.id := by
    rw [howner]
    exact List.forall_mem_map.mpr hv.owner
  refine ⟨fun attempt hmem => ?_, ?_, ?_, hbounded, ?_, hcolumns, hprogress, hfit, hv.sequences⟩
  · rw [hrow]
    exact howned _ (mem_map_of_mem hmem)
  · rw [hid]
    exact hv.attemptIDs
  · rw [hnumber, hcount]
    exact hv.numbered
  · rw [hclass, hmax]
    exact hv.single

variable {g : Operation → Operation}

theorem Consistent.setRow (hallowed : operationsRestrictUpdate v.row (g v.row) = false)
    (hcount : (g v.row).attemptCount = v.row.attemptCount) (hprogress : ProgressFits (g v.row))
    (hfit : AttemptsFit (g v.row) v.attempts) : (v.setRow g).Consistent :=
  hv.replace hallowed hcount rfl rfl rfl hprogress hfit

theorem Consistent.update (howner : ∀ row, (f row).operationID = row.operationID) (hid : ∀ row, (f row).id = row.id)
    (hnumber : ∀ row, (f row).attemptNumber = row.attemptNumber)
    (hallowed : operationsRestrictUpdate v.row (g v.row) = false)
    (hcount : (g v.row).attemptCount = v.row.attemptCount) (hprogress : ProgressFits (g v.row))
    (hfit : AttemptsFit (g v.row) (updateWhere p f v.attempts)) :
    ((v.setAttempts p f).setRow g).Consistent :=
  hv.replace hallowed hcount (keys_updateWhere howner _) (keys_updateWhere hid _)
    (keys_updateWhere hnumber _) hprogress hfit

theorem Consistent.isCurrent (hactive : v.row.status.isActive = true) (hmem : attempt ∈ v.attempts)
    (hrunning : attempt.outcome = .running) : IsCurrent v.row attempt := by
  obtain ⟨earlier, current, hattempts, hsettled, hcurrent⟩ := hv.current hactive
  rw [hattempts] at hmem
  rcases mem_append.mp hmem with hearlier | hlast
  · exact absurd hrunning (hsettled attempt hearlier).1
  · rw [mem_singleton.mp hlast]
    exact hcurrent

/-- The condition selects the attempts that run, which is the current one alone. -/
def SelectsRunning (v : OperationView) (p : OperationAttempt → Bool) : Prop :=
  ∀ attempt ∈ v.attempts, p attempt = true ↔ attempt.outcome = .running

theorem Consistent.heldBy_selects (hheld : v.Held attemptID workerInstanceID) :
    v.SelectsRunning (heldBy attemptID v.row.id workerInstanceID) := by
  intro attempt hmem
  simp only [heldBy, decide_eq_true_eq]
  constructor
  · intro h
    exact h.2.2.2
  · intro hrunning
    have hcurrent := hv.isCurrent hheld.active hmem hrunning
    have hattempt := hcurrent.attemptID.symm.trans hheld.attempt
    have hworker := hcurrent.worker.symm.trans hheld.worker
    exact ⟨some.inj hattempt, hv.owner attempt hmem, some.inj hworker, hrunning⟩

theorem Consistent.heldByAny_selects (hactive : v.row.status.isActive = true)
    (hattempt : v.row.currentAttemptID = some attemptID) :
    v.SelectsRunning (heldByAny attemptID v.row.id) := by
  intro attempt hmem
  simp only [heldByAny, decide_eq_true_eq]
  refine ⟨fun h => h.2.2, fun h => ⟨?_, hv.owner attempt hmem, h⟩⟩
  exact some.inj ((hv.isCurrent hactive hmem h).attemptID.symm.trans hattempt)

end

variable {attempt : OperationAttempt}

theorem updateWhere_current (hp : v.SelectsRunning p) {earlier : List OperationAttempt}
    (hattempts : v.attempts = earlier ++ [attempt]) (hsettled : Settled earlier)
    (hrunning : attempt.outcome = .running) :
    updateWhere p f v.attempts = earlier ++ [f attempt] := by
  rw [hattempts]
  apply Rows.updateWhere_append_singleton
  · intro other hother
    have hmem : other ∈ v.attempts := by rw [hattempts]; exact mem_append_left _ hother
    exact Bool.eq_false_iff.mpr fun h => (hsettled other hother).1 ((hp other hmem).mp h)
  · have hmem : attempt ∈ v.attempts := by rw [hattempts]; simp
    exact (hp attempt hmem).mpr hrunning

/-- The outcome of the last attempt that goes with a status nobody holds. -/
def SettlesAs (status : OperationStatus) (outcome : OperationAttemptOutcome) : Prop :=
  match status with
  | .succeeded => outcome = .succeeded
  | .pending | .failed | .cancelled => outcome ≠ .running ∧ outcome ≠ .succeeded
  | .running | .cancelling => False

theorem Settled.concat (h : Settled attempts) (hrunning : attempt.outcome ≠ .running)
    (hsucceeded : attempt.outcome ≠ .succeeded) : Settled (attempts ++ [attempt]) :=
  forall_mem_append.mpr ⟨h, forall_mem_singleton.mpr ⟨hrunning, hsucceeded⟩⟩

/-- Ending the current attempt under a fitting status keeps the view consistent. -/
theorem Consistent.settle (hv : v.Consistent) (hactive : v.row.status.isActive = true) (hp : v.SelectsRunning p)
    {outcome : OperationAttemptOutcome} {errorCode : Option String}
    (hallowed : operationsRestrictUpdate v.row (g v.row) = false)
    (hcount : (g v.row).attemptCount = v.row.attemptCount) (hprogress : ProgressFits (g v.row))
    (hsettles : SettlesAs (g v.row).status outcome) :
    (v.settle p outcome errorCode g now).Consistent := by
  obtain ⟨earlier, attempt, hattempts, hsettled, hcurrent⟩ := hv.current hactive
  refine hv.update (fun _ => rfl) (fun _ => rfl) (fun _ => rfl) hallowed hcount hprogress ?_
  rw [updateWhere_current hp hattempts hsettled hcurrent.running]
  unfold SettlesAs at hsettles
  unfold AttemptsFit
  cases hstatus : (g v.row).status <;> simp only [hstatus] at hsettles ⊢
  case succeeded => exact ⟨earlier, _, rfl, hsettled, hsettles⟩
  all_goals exact hsettled.concat hsettles.1 hsettles.2

/-! ### Updates the trigger lets through -/

namespace Consistent

attribute [local simp] requestChanged columnsFitStatus transitionAllowed OperationStatus.isTerminal

variable (hv : v.Consistent)
include hv

theorem setClaimed_allowed (hstatus : v.row.status = .pending) (hopens : v.Opens attempt) (now : Time) :
    operationsRestrictUpdate v.row (setClaimed attempt now v.row) = false := by
  have hcolumns := hv.columns
  have hbudget := hopens.budget
  simp only [columnsFitStatus, hstatus, decide_eq_true_eq] at hcolumns
  rw [operationsRestrictUpdate_eq_false]
  simp only [requestChanged, setClaimed, columnsFitStatus, hstatus, hcolumns, hopens.number]
  refine ⟨by simp, le_refl _, by omega, by omega, rfl, rfl, by simp⟩

theorem setLease_allowed (hactive : v.row.status.isActive = true) (now leaseExpiresAt : Time) :
    operationsRestrictUpdate v.row (setLease now leaseExpiresAt v.row) = false := by
  have hcolumns := hv.columns
  rw [operationsRestrictUpdate_eq_false]
  rcases isActive_iff.mp hactive with hstatus | hstatus <;>
    simp_all [setLease, hv.bounded]

theorem setProgress_allowed (hstatus : v.row.status = .running) (hgrows : v.row.progressPercent ≤ progress)
    (stage : String) (now : Time) :
    operationsRestrictUpdate v.row (setProgress stage progress now v.row) = false := by
  have hcolumns := hv.columns
  rw [operationsRestrictUpdate_eq_false]
  simp_all [setProgress, hv.bounded]

theorem setSucceeded_allowed (hstatus : v.row.status = .running) (result : JsonObject)
    (now : Time) : operationsRestrictUpdate v.row (setSucceeded result now v.row) = false := by
  have hprogress := (progress_le_of_status hv (by simp [hstatus])).2
  rw [operationsRestrictUpdate_eq_false]
  simp only [requestChanged, setSucceeded, columnsFitStatus, hstatus]
  refine ⟨by simp, by omega, le_refl _, hv.bounded, rfl, rfl, by simp⟩

theorem setRetryQueued_allowed (hstatus : v.row.status = .running) (nextAttemptAt now : Time) :
    operationsRestrictUpdate v.row (setRetryQueued nextAttemptAt now v.row) = false := by
  rw [operationsRestrictUpdate_eq_false]
  simp [setRetryQueued, hstatus, hv.bounded]

theorem setFailed_allowed (hactive : v.row.status.isActive = true) (result : JsonObject)
    (errorCode : String) (now : Time) :
    operationsRestrictUpdate v.row (setFailed result errorCode now v.row) = false := by
  rw [operationsRestrictUpdate_eq_false]
  rcases isActive_iff.mp hactive with hstatus | hstatus <;>
    simp [setFailed, hstatus, hv.bounded]

theorem setCancellation_pending_allowed (hstatus : v.row.status = .pending) (stage : String)
    (actorID : Option ID) (now : Time) :
    operationsRestrictUpdate v.row
      (setCancellation .cancelled stage (some now) actorID now v.row) = false := by
  have hcolumns := hv.columns
  rw [operationsRestrictUpdate_eq_false]
  simp_all [setCancellation, hv.bounded]

theorem setCancellation_running_allowed (hstatus : v.row.status = .running) (stage : String)
    (actorID : Option ID) (now : Time) :
    operationsRestrictUpdate v.row
      (setCancellation .cancelling stage none actorID now v.row) = false := by
  have hcolumns := hv.columns
  rw [operationsRestrictUpdate_eq_false]
  simp_all [setCancellation, hv.bounded]

theorem setCancelled_allowed (hstatus : v.row.status = .cancelling) (now : Time) :
    operationsRestrictUpdate v.row (setCancelled now v.row) = false := by
  rw [operationsRestrictUpdate_eq_false]
  simp [setCancelled, hstatus, hv.bounded]

theorem setManualRetry_allowed (hstatus : v.row.status = .failed) (now : Time) :
    operationsRestrictUpdate v.row (setManualRetry now v.row) = false := by
  rw [operationsRestrictUpdate_eq_false]
  simp [setManualRetry, setRetryQueued, hstatus, hv.bounded]

theorem setCancelledAfterWorkerLoss_allowed (hstatus : v.row.status = .cancelling) (now : Time) :
    operationsRestrictUpdate v.row (setCancelledAfterWorkerLoss now v.row) = false := by
  have hcolumns := hv.columns
  rw [operationsRestrictUpdate_eq_false]
  simp_all [setCancelledAfterWorkerLoss, hv.bounded]

theorem setRetryQueuedAfterWorkerLoss_allowed (hstatus : v.row.status = .running)
    (nextAttemptAt now : Time) :
    operationsRestrictUpdate v.row
      (setRetryQueuedAfterWorkerLoss nextAttemptAt now v.row) = false := by
  have hcolumns := hv.columns
  rw [operationsRestrictUpdate_eq_false]
  simp_all [setRetryQueuedAfterWorkerLoss, hv.bounded]

theorem setFailedAfterWorkerLoss_allowed (hstatus : v.row.status = .running)
    (errorCode : String) (now : Time) :
    operationsRestrictUpdate v.row (setFailedAfterWorkerLoss errorCode now v.row) = false := by
  rw [operationsRestrictUpdate_eq_false]
  simp [setFailedAfterWorkerLoss, hstatus, hv.bounded]

end Consistent

/-! ### Each step -/

namespace Consistent

variable (hv : v.Consistent)

include hv

theorem claim (hstatus : v.row.status = .pending) (hopens : v.Opens attempt) :
    ((v.addAttempt attempt).setRow (setClaimed attempt now)).Consistent := by
  have hallowed := hv.setClaimed_allowed hstatus hopens now
  obtain ⟨-, -, -, hbounded, -, -, hcolumns⟩ := operationsRestrictUpdate_eq_false.mp hallowed
  have hsettled := hv.attemptsFit
  simp only [AttemptsFit, hstatus] at hsettled
  refine ⟨?_, ?_, ?_, hbounded, hv.single, hcolumns, ?_, ?_, hv.sequences⟩
  · exact forall_mem_append.mpr ⟨hv.owner, forall_mem_singleton.mpr hopens.owner⟩
  · exact nodup_keys_append hv.attemptIDs hopens.fresh
  · simp only [attempts_setRow, attempts_addAttempt, map_append, map_cons, map_nil,
      row_setRow, row_addAttempt, setClaimed, hopens.number]
    rw [hv.numbered, List.range'_1_concat, Nat.add_comm 1]
  · exact hv.progress_keep (by simp [hstatus]) rfl (by simp [setClaimed])
  · exact ⟨v.attempts, attempt, rfl, hsettled, hopens.running, hopens.unfinished, hopens.blameless, rfl, rfl, rfl⟩

theorem heartbeat (hheld : v.Held attemptID workerInstanceID) (leaseExpiresAt now : Time) :
    ((v.setAttempts (heldBy attemptID v.row.id workerInstanceID) (setHeartbeat now leaseExpiresAt)).setRow
        (setLease now leaseExpiresAt)).Consistent := by
  obtain ⟨earlier, attempt, hattempts, hsettled, hcurrent⟩ := hv.current hheld.active
  refine hv.update (fun _ => rfl) (fun _ => rfl) (fun _ => rfl)
    (hv.setLease_allowed hheld.active now leaseExpiresAt) rfl hv.progress ?_
  rw [updateWhere_current (hv.heldBy_selects hheld) hattempts hsettled hcurrent.running]
  have hactive : (setLease now leaseExpiresAt v.row).status.isActive = true := hheld.active
  exact (attemptsFit_active hactive).mpr ⟨earlier, _, rfl, hsettled,
    ⟨hcurrent.running, hcurrent.unfinished, hcurrent.blameless, hcurrent.attemptID, hcurrent.worker, rfl⟩⟩

/-- A row that stays held by the same attempt under the same lease still fits the attempts. -/
theorem fit_keep (hactive : v.row.status.isActive = true) (hstatus : row.status.isActive = true)
    (hattempt : row.currentAttemptID = v.row.currentAttemptID)
    (hworker : row.workerInstanceID = v.row.workerInstanceID) (hlease : row.leaseExpiresAt = v.row.leaseExpiresAt) :
    AttemptsFit row v.attempts := by
  obtain ⟨earlier, attempt, hattempts, hsettled, hcurrent⟩ := hv.current hactive
  exact (attemptsFit_active hstatus).mpr ⟨earlier, attempt, hattempts, hsettled, hcurrent.running,
    hcurrent.unfinished, hcurrent.blameless, hattempt.trans hcurrent.attemptID, hworker.trans hcurrent.worker, hlease.trans hcurrent.lease⟩

theorem checkpoint {stage : String} (hstatus : v.row.status = .running)
    (hgrows : v.row.progressPercent ≤ progress) (hbound : progress ≤ 99) (now : Time) :
    (v.setRow (setProgress stage progress now)).Consistent := by
  have hactive := isActive_iff.mpr (.inl hstatus)
  refine hv.setRow (hv.setProgress_allowed hstatus hgrows stage now) rfl ?_
    (hv.fit_keep hactive hactive rfl rfl rfl)
  have hlow := hv.progress.1
  simp only [ProgressFits, setProgress, hstatus]
  exact ⟨by omega, hbound⟩

/-- **A step keeps the view consistent.** -/
theorem step (hstep : OperationStep v w) : w.Consistent := by
  cases hstep with
  | claim attempt event now hstatus hopens => exact (hv.claim hstatus hopens).record event now
  | heartbeat attemptID workerInstanceID leaseExpiresAt now hheld =>
    exact hv.heartbeat hheld leaseExpiresAt now
  | checkpoint stage progress event now hstatus hgrows hbound =>
    exact (hv.checkpoint hstatus hgrows hbound now).record event now
  | complete attemptID workerInstanceID result event now hheld hstatus =>
    refine record (hv.settle hheld.active (hv.heldBy_selects hheld)
      (hv.setSucceeded_allowed hstatus result now) rfl ?_ ?_) event now
    · simp [ProgressFits, setSucceeded]
    · simp [SettlesAs, setSucceeded]
  | scheduleRetry attemptID workerInstanceID errorCode nextAttemptAt event now hheld hstatus hclass hbudget =>
    refine record (hv.settle hheld.active (hv.heldBy_selects hheld)
      (hv.setRetryQueued_allowed hstatus nextAttemptAt now) rfl ?_ ?_) event now
    · exact hv.progress_keep (by simp [hstatus]) rfl (by simp [setRetryQueued])
    · simp [SettlesAs, setRetryQueued]
  | fail attemptID workerInstanceID errorCode result event now hheld =>
    refine record (hv.settle hheld.active (hv.heldBy_selects hheld)
      (hv.setFailed_allowed hheld.active result errorCode now) rfl ?_ ?_) event now
    · exact hv.progress_keep (ne_succeeded_of_isActive hheld.active) rfl (by simp [setFailed])
    · simp [SettlesAs, setFailed]
  | cancelPending actorID requested cancelled now hstatus =>
    have hsettled := hv.attemptsFit
    simp only [AttemptsFit, hstatus] at hsettled
    refine record (record (hv.setRow
      (hv.setCancellation_pending_allowed hstatus "cancelled" actorID now) rfl ?_ hsettled)
      requested now) cancelled now
    exact hv.progress_keep (by simp [hstatus]) rfl (by simp [setCancellation])
  | cancelRunning actorID event now hstatus =>
    refine record (hv.setRow (hv.setCancellation_running_allowed hstatus v.row.stage actorID now) rfl ?_
      (hv.fit_keep (isActive_iff.mpr (.inl hstatus)) rfl rfl rfl rfl)) event now
    exact hv.progress_keep (by simp [hstatus]) rfl (by simp [setCancellation])
  | acknowledge attemptID workerInstanceID event now hheld hstatus =>
    refine record (hv.settle hheld.active (hv.heldBy_selects hheld)
      (hv.setCancelled_allowed hstatus now) rfl ?_ ?_) event now
    · exact hv.progress_keep (by simp [hstatus]) rfl (by simp [setCancelled])
    · simp [SettlesAs, setCancelled]
  | manualRetry event now hstatus hclass hbudget =>
    have hsettled := hv.attemptsFit
    simp only [AttemptsFit, hstatus] at hsettled
    refine record (hv.setRow (hv.setManualRetry_allowed hstatus now) rfl ?_ hsettled) event now
    exact hv.progress_keep (by simp [hstatus]) rfl
      (by simp [setManualRetry, setRetryQueued])
  | recoverCancelled attemptID event now hstatus hattempt =>
    have hactive := isActive_iff.mpr (.inr hstatus)
    refine record (hv.settle hactive (hv.heldByAny_selects hactive hattempt)
      (hv.setCancelledAfterWorkerLoss_allowed hstatus now) rfl ?_ ?_) event now
    · exact hv.progress_keep (by simp [hstatus]) rfl (by simp [setCancelledAfterWorkerLoss])
    · simp [SettlesAs, setCancelledAfterWorkerLoss]
  | recoverRetry attemptID errorCode nextAttemptAt expired scheduled now hstatus hattempt hclass hbudget =>
    have hactive := isActive_iff.mpr (.inl hstatus)
    refine record (record (hv.settle hactive (hv.heldByAny_selects hactive hattempt)
      (hv.setRetryQueuedAfterWorkerLoss_allowed hstatus nextAttemptAt now) rfl ?_ ?_)
      expired now) scheduled now
    · exact hv.progress_keep (by simp [hstatus]) rfl (by simp [setRetryQueuedAfterWorkerLoss])
    · simp [SettlesAs, setRetryQueuedAfterWorkerLoss]
  | recoverFailed attemptID errorCode expired failed now hstatus hattempt =>
    have hactive := isActive_iff.mpr (.inl hstatus)
    refine record (record (hv.settle hactive (hv.heldByAny_selects hactive hattempt)
      (hv.setFailedAfterWorkerLoss_allowed hstatus errorCode now) rfl ?_ ?_) expired now) failed now
    · exact hv.progress_keep (by simp [hstatus]) rfl (by simp [setFailedAfterWorkerLoss])
    · simp [SettlesAs, setFailedAfterWorkerLoss]

end Consistent

/-- Where a step can start: a waiting or held operation, or a failed one that may be retried. -/
theorem step_source (hstep : OperationStep v w) :
    v.row.status = .pending ∨ v.row.status.isActive = true ∨
      v.row.status = .failed ∧ v.row.retryClass ≠ .none := by
  cases hstep with
  | claim _ _ _ hstatus | cancelPending _ _ _ _ hstatus => exact .inl hstatus
  | heartbeat _ _ _ _ hheld | complete _ _ _ _ _ hheld | scheduleRetry _ _ _ _ _ _ hheld | fail _ _ _ _ _ _ hheld
  | acknowledge _ _ _ _ hheld =>
    exact .inr (.inl hheld.active)
  | checkpoint _ _ _ _ hstatus | cancelRunning _ _ _ hstatus => exact .inr (.inl (isActive_iff.mpr (.inl hstatus)))
  | recoverCancelled _ _ _ hstatus => exact .inr (.inl (isActive_iff.mpr (.inr hstatus)))
  | recoverRetry _ _ _ _ _ _ hstatus | recoverFailed _ _ _ _ _ hstatus =>
    exact .inr (.inl (isActive_iff.mpr (.inl hstatus)))
  | manualRetry _ _ hstatus hclass => exact .inr (.inr ⟨hstatus, hclass⟩)

/-- Steps of one operation, any number of them. -/
abbrev Steps : OperationView → OperationView → Prop := Relation.ReflTransGen OperationStep

theorem eq_of_steps (hstuck : ∀ u, ¬OperationStep v u) (hsteps : Steps v w) : w = v := by
  induction hsteps with
  | refl => rfl
  | tail _ hstep ih => exact absurd (ih ▸ hstep) (hstuck _)

end OperationView

end Stackfort
