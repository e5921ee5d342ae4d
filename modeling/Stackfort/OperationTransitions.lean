import Mathlib.Data.List.Destutter
import Stackfort.OperationRows

/-! The ten transitions of the operation store. A call checks its arguments, then runs one
transaction against the store; the writer of the store is serialized, so a transaction sees one
state and leaves one state, and an error rolls it back. The transaction of a call is a function in
`Except TxError` that threads the store through the statements in source order, and a column
assignment of an `UPDATE` is a function of its own. A transaction may commit and still make the call
report an error (`ErrOperationCancellationRequested`, `ErrNoOperationAvailable`), so its reply is an
`Except` as well; on success the reply is the updated row, which the code rebuilds field by field.
Clock readings and fresh identifiers are arguments, and no order among them is assumed. -/

namespace Stackfort

def minimumOperationLease : Duration := 5 * second

def maximumOperationLease : Duration := 5 * minute

def maximumWorkerKinds : Nat := 32

def RetryClass.text : RetryClass → String
  | .none => "none"
  | .safe => "safe"
  | .manual => "manual"

/-! ### Arguments -/

structure CreateOperationParams where
  (accountID actorID : Option ID)
  kind : String
  retryClass : RetryClass
  (requestID idempotencyKey : String)
  payload : JsonObject
  maxAttempts : Int

structure ClaimOperationParams where
  workerInstanceID : ID
  kinds : List String
  leaseDuration : Duration

structure HeartbeatOperationParams where
  (operationID attemptID workerInstanceID : ID)
  leaseDuration : Duration

structure CheckpointOperationParams where
  (operationID attemptID workerInstanceID : ID)
  stage : String
  progressPercent : Int
  messageCode : String
  details : JsonObject

structure CompleteOperationParams where
  (operationID attemptID workerInstanceID : ID)
  result : JsonObject

structure FailOperationParams where
  (operationID attemptID workerInstanceID : ID)
  errorCode : String
  result : JsonObject
  retry : Bool

structure OperationScope where
  operationID : ID
  accountID : Option ID

structure RequestOperationCancellationParams where
  scope : OperationScope
  actorID : Option ID
  requestID : String

structure AcknowledgeOperationCancellationParams where
  (operationID attemptID workerInstanceID : ID)

structure RetryOperationParams where
  scope : OperationScope
  actorID : Option ID
  requestID : String

structure ClaimedOperation where
  operation : Operation
  attempt : OperationAttempt

/-! ### Checks before a transaction -/

def normalizeMaxAttempts (retryClass : RetryClass) (value : Int) : Except CoreError Nat :=
  if value = 0 then pure (if retryClass = .none then 1 else 3)
  else if value < 1 ∨ 100 < value then
    throw (.invalidInput "maxAttempts must be between 1 and 100")
  else if retryClass = .none ∧ value ≠ 1 then
    throw (.invalidInput "non-retryable operation must have exactly one attempt")
  else pure value.toNat

def validateOperationScope (scope : OperationScope) : Except CoreError Unit := do
  validateID scope.operationID "operationId"
  validateOptionalID scope.accountID "accountId"

def validateLeaseDuration (value : Duration) : Except CoreError Unit :=
  if value < minimumOperationLease ∨ maximumOperationLease < value then
    throw (.invalidInput "lease duration must be between 5s and 5m0s")
  else pure ()

def normalizeWorkerKinds (values : List String) : Except CoreError (List String) :=
  if values.length = 0 ∨ maximumWorkerKinds < values.length then
    throw (.invalidInput ("worker must support between 1 and " ++ toString maximumWorkerKinds ++
      " operation kinds"))
  else do
    let result ← values.mapM fun value => validateAction value "kind" 80
    pure ((result.insertionSort (· ≤ ·)).destutter (· ≠ ·))

def validateAttemptIdentity (operationID attemptID workerInstanceID : ID) : Except CoreError Unit := do
  validateID operationID "operationId"
  validateID attemptID "attemptId"
  validateID workerInstanceID "workerInstanceId"

/-! ### Checks inside a transaction -/

/-- The caller holds the operation: status, attempt and worker match and the lease has not run out. -/
def validateActiveAttempt (operation : Operation) (attemptID workerInstanceID : ID) (now : Time) :
    Except TxError Unit :=
  if operation.status ≠ .running ∧ operation.status ≠ .cancelling then throw (.core .operationLeaseLost)
  else if operation.currentAttemptID ≠ some attemptID ∨
      operation.workerInstanceID ≠ some workerInstanceID ∨
      ¬(operation.leaseExpiresAt.any fun expires => decide (now < expires)) then
    throw (.core .operationLeaseLost)
  else pure ()

def expectAffected (affected : Nat) : Except TxError Unit :=
  if affected ≠ 1 then throw (.other "unexpected affected row count") else pure ()

/-- The same check where the code reports a lost lease instead. -/
def expectLease (affected : Nat) : Except TxError Unit :=
  if affected ≠ 1 then throw (.core .operationLeaseLost) else pure ()

/-- The doubling loop of `retryDelay`, run for `count` further rounds. -/
def retryDelayLoop : (count : Nat) → (delay : Duration) → Duration
  | 0, delay => delay
  | count + 1, delay => if delay < maximumOperationLease then retryDelayLoop count (delay * 2) else delay

def retryDelay (attemptNumber : Nat) : Duration :=
  min (retryDelayLoop (attemptNumber - 1) (5 * second)) maximumOperationLease

namespace OperationStore

variable (db : OperationStore)

def loadOperationByID (operationID : ID) : Except TxError Operation :=
  match db.findOperation operationID with
  | some operation => pure operation
  | none => throw .noRows

def loadScopedOperation (scope : OperationScope) : Except TxError Operation :=
  match db.operations.find? fun row =>
      decide (row.id = scope.operationID ∧ row.accountID = scope.accountID) with
  | some operation => pure operation
  | none => throw .noRows

end OperationStore

/-! ### Column assignments -/

/-- `id = ? AND operation_id = ? AND worker_instance_id = ? AND outcome = 'running'`. -/
def OperationAttempt.heldBy (attemptID operationID workerInstanceID : ID) (row : OperationAttempt) : Bool :=
  decide (row.id = attemptID ∧ row.operationID = operationID ∧ row.workerInstanceID = workerInstanceID ∧
    row.outcome = .running)

/-- The recovery updates an attempt whatever its worker. -/
def OperationAttempt.heldByAny (attemptID operationID : ID) (row : OperationAttempt) : Bool :=
  decide (row.id = attemptID ∧ row.operationID = operationID ∧ row.outcome = .running)

def OperationAttempt.setHeartbeat (now leaseExpiresAt : Time) (row : OperationAttempt) : OperationAttempt :=
  { row with heartbeatAt := now, leaseExpiresAt := leaseExpiresAt }

/-- The end of an attempt; only failures write an error code. -/
def OperationAttempt.setOutcome (outcome : OperationAttemptOutcome) (errorCode : Option String) (now : Time)
    (row : OperationAttempt) : OperationAttempt :=
  { row with
    outcome := outcome, errorCode := errorCode.or row.errorCode, completedAt := some now }

namespace Operation

/-- `id = ? AND current_attempt_id = ? AND worker_instance_id = ?` and one of the given statuses. -/
def heldBy (operationID attemptID workerInstanceID : ID) (statuses : List OperationStatus)
    (row : Operation) : Bool :=
  decide (row.id = operationID) && decide (row.currentAttemptID = some attemptID ∧
    row.workerInstanceID = some workerInstanceID ∧ row.status ∈ statuses)

/-- `id = ? AND status = ?`. -/
def hasStatus (operationID : ID) (status : OperationStatus) (row : Operation) : Bool :=
  decide (row.id = operationID) && decide (row.status = status)

def setClaimed (attempt : OperationAttempt) (now : Time) (row : Operation) : Operation :=
  { row with
    status := .running, attemptCount := attempt.attemptNumber, currentAttemptID := some attempt.id
    workerInstanceID := some attempt.workerInstanceID, leaseExpiresAt := some attempt.leaseExpiresAt
    nextAttemptAt := none, startedAt := row.startedAt.or (some now), updatedAt := now }

def setLease (now leaseExpiresAt : Time) (row : Operation) : Operation :=
  { row with leaseExpiresAt := some leaseExpiresAt, updatedAt := now }

def setProgress (stage : String) (progress : Int) (now : Time) (row : Operation) : Operation :=
  { row with stage := stage, progressPercent := progress, updatedAt := now }

def setSucceeded (result : JsonObject) (now : Time) (row : Operation) : Operation :=
  { row with
    status := .succeeded, stage := "completed", progressPercent := 100, result := some result, errorCode := none
    currentAttemptID := none, workerInstanceID := none, leaseExpiresAt := none, nextAttemptAt := none
    completedAt := some now, updatedAt := now }

def setRetryQueued (nextAttemptAt now : Time) (row : Operation) : Operation :=
  { row with
    status := .pending, stage := "retry_queued", result := none, errorCode := none, currentAttemptID := none
    workerInstanceID := none, leaseExpiresAt := none, nextAttemptAt := some nextAttemptAt, completedAt := none
    updatedAt := now }

def setFailed (result : JsonObject) (errorCode : String) (now : Time) (row : Operation) : Operation :=
  { row with
    status := .failed, stage := "failed", result := some result, errorCode := some errorCode, currentAttemptID := none
    workerInstanceID := none, leaseExpiresAt := none, nextAttemptAt := none, completedAt := some now
    updatedAt := now }

/-- `cancelled` for an operation that waits, `cancelling` for one that runs. -/
def setCancellation (status : OperationStatus) (stage : String) (completedAt : Option Time)
    (actorID : Option ID) (now : Time) (row : Operation) : Operation :=
  { row with
    status := status, stage := stage, nextAttemptAt := none, cancellationRequestedAt := some now
    cancellationRequestedBy := actorID, completedAt := completedAt, updatedAt := now }

def setCancelled (now : Time) (row : Operation) : Operation :=
  { row with
    status := .cancelled, stage := "cancelled", result := none, errorCode := none, currentAttemptID := none
    workerInstanceID := none, leaseExpiresAt := none, nextAttemptAt := none, completedAt := some now
    updatedAt := now }

/-- A retry on request also clears the earlier cancellation request. -/
def setManualRetry (now : Time) (row : Operation) : Operation :=
  { row.setRetryQueued now now with cancellationRequestedAt := none, cancellationRequestedBy := none }

def setCancelledAfterWorkerLoss (now : Time) (row : Operation) : Operation :=
  { row with
    status := .cancelled, stage := "cancelled", currentAttemptID := none, workerInstanceID := none
    leaseExpiresAt := none, nextAttemptAt := none, completedAt := some now, updatedAt := now }

def setRetryQueuedAfterWorkerLoss (nextAttemptAt now : Time) (row : Operation) : Operation :=
  { row with
    status := .pending, stage := "retry_queued", currentAttemptID := none, workerInstanceID := none
    leaseExpiresAt := none, nextAttemptAt := some nextAttemptAt, updatedAt := now }

def setFailedAfterWorkerLoss (errorCode : String) (now : Time) (row : Operation) : Operation :=
  { row with
    status := .failed, stage := "failed", errorCode := some errorCode, currentAttemptID := none
    workerInstanceID := none, leaseExpiresAt := none, nextAttemptAt := none, completedAt := some now
    updatedAt := now }

end Operation

export Operation (setClaimed setLease setProgress setSucceeded setRetryQueued setFailed setCancellation setCancelled
  setManualRetry setCancelledAfterWorkerLoss setRetryQueuedAfterWorkerLoss setFailedAfterWorkerLoss)

export OperationAttempt (heldBy heldByAny setHeartbeat setOutcome)

/-! ### Transactions -/

/-- What a committed transaction leaves: the store and the reply of the call. -/
abbrev Committed (α : Type) := OperationStore × Except CoreError α

/-- The audit record of a transition; the worker's transitions have no actor. -/
def operationAudit (operation : Operation) (action requestID : String) (actorID : Option ID)
    (result : AuditResult) (details : JsonObject) (now : Time) : AuditEvent where
  occurredAt := now
  actorID := actorID
  action := action
  targetType := "operation"
  targetID := operation.id
  accountID := operation.accountID
  requestID := requestID
  operationID := some operation.id
  result := result
  details := details

/-- The row `CreateOperation` builds; an absent key is stored as NULL. -/
def prepareOperation (params : CreateOperationParams) (newID : ID) (now : Time) :
    Except CoreError Operation := do
  validateOptionalID params.accountID "accountId"
  validateOptionalID params.actorID "actorId"
  let kind ← validateAction params.kind "kind" 80
  let requestID ← validateText params.requestID "requestId" 1 128
  let idempotencyKey ← validateOptionalText params.idempotencyKey "idempotencyKey" 128
  let _ ← encodeSafeOperationObject params.payload maxOperationJSONBytes
  let maxAttempts ← normalizeMaxAttempts params.retryClass params.maxAttempts
  pure
    { id := newID
      accountID := params.accountID, actorID := params.actorID, kind := kind, status := .pending, stage := "queued"
      progressPercent := 0, retryClass := params.retryClass, requestID := requestID
      idempotencyKey := if idempotencyKey = "" then none else some idempotencyKey
      payload := Json.canonicalFields params.payload, result := none, errorCode := none, createdAt := now
      updatedAt := now, startedAt := none, completedAt := none, maxAttempts := maxAttempts, attemptCount := 0
      nextAttemptAt := some now, currentAttemptID := none, workerInstanceID := none, leaseExpiresAt := none
      cancellationRequestedAt := none, cancellationRequestedBy := none }

/-- Whether an operation stored under a key answers a repeated request for it. -/
def sameOperationInput (existing operation : Operation) : Bool :=
  decide (existing.kind = operation.kind ∧ existing.retryClass = operation.retryClass ∧
    existing.maxAttempts = operation.maxAttempts ∧ existing.actorID = operation.actorID) &&
    objectsEqual existing.payload operation.payload

def insertNewOperationTx (db : OperationStore) (operation : Operation) (now : Time) :
    Except TxError (Committed Operation) := do
  let details : JsonObject :=
    [("kind", .string operation.kind), ("maxAttempts", .number operation.maxAttempts),
      ("retryClass", .string operation.retryClass.text)]
  let db ← db.insertOperation operation
  let db ← db.appendOperationEventTx
    { operationID := operation.id, attemptID := none, type := .created, stage := operation.stage,
      progress := operation.progressPercent, messageCode := "operation.created", details := details } now
  let db := db.appendAudit
    (operationAudit operation "operation.created" operation.requestID operation.actorID .success details now)
  pure (db, .ok operation)

def createOperationTx (db : OperationStore) (operation : Operation) (now : Time) :
    Except TxError (Committed Operation) :=
  match operation.idempotencyKey.bind (db.findOperationByIdempotencyKeyTx operation.accountID) with
  | some existing =>
    if sameOperationInput existing operation then pure (db, .ok existing)
    else throw (.core (.conflict "idempotency key was already used for different operation input"))
  | none => insertNewOperationTx db operation now

/-- A held operation whose worker stopped: its attempt is fenced and the operation waits again when
its class allows it. -/
def recoverExpiredOperationTx (now : Time) (db : OperationStore) (operationID : ID) :
    Except TxError OperationStore := do
  let operation ← db.loadOperationByID operationID
  match operation.currentAttemptID with
  | none => throw (.other ("operation " ++ operation.id ++ " has an active status without an attempt"))
  | some attemptID =>
    let held := heldByAny attemptID operation.id
    if operation.status = .cancelling then
      let db ← db.updateAttempts held (setOutcome .cancelled none now)
      let (db, _) ← db.updateOperations (Operation.hasStatus operation.id .cancelling)
        (setCancelledAfterWorkerLoss now)
      let db ← db.appendOperationEventTx
        { operationID := operation.id, attemptID := some attemptID, type := .cancelled,
          stage := "cancelled", progress := operation.progressPercent,
          messageCode := "operation.cancelled_after_worker_loss", details := [] } now
      pure (db.appendAudit (operationAudit operation "operation.cancelled" operation.requestID none
        .success [("reason", .string "worker_lease_expired")] now))
    else
      let leaseErrorCode := "operation.worker_lease_expired"
      let db ← db.updateAttempts held (setOutcome .leaseExpired (some leaseErrorCode) now)
      let db ← db.appendOperationEventTx
        { operationID := operation.id, attemptID := some attemptID, type := .leaseExpired,
          stage := operation.stage, progress := operation.progressPercent,
          messageCode := "operation.worker_lease_expired",
          details := [("attempt", .number operation.attemptCount)] } now
      if operation.retryClass = .safe ∧ operation.attemptCount < operation.maxAttempts then
        let nextAttemptAt := now.add (retryDelay operation.attemptCount)
        let (db, _) ← db.updateOperations (Operation.hasStatus operation.id .running)
          (setRetryQueuedAfterWorkerLoss nextAttemptAt now)
        db.appendOperationEventTx
          { operationID := operation.id, attemptID := some attemptID, type := .retryScheduled,
            stage := "retry_queued", progress := operation.progressPercent,
            messageCode := "operation.retry_scheduled_after_worker_loss",
            details := [("nextAttempt", .string (formatTime nextAttemptAt))] } now
      else
        let (db, _) ← db.updateOperations (Operation.hasStatus operation.id .running)
          (setFailedAfterWorkerLoss leaseErrorCode now)
        let db ← db.appendOperationEventTx
          { operationID := operation.id, attemptID := some attemptID, type := .failed,
            stage := "failed", progress := operation.progressPercent,
            messageCode := "operation.failed_after_worker_loss",
            details := [("retryClass", .string operation.retryClass.text)] } now
        pure (db.appendAudit (operationAudit operation "operation.failed" operation.requestID none
          .failure [("errorCode", .string leaseErrorCode),
            ("retryClass", .string operation.retryClass.text)] now))

/-- `julianday(lease_expires_at) <= julianday(?)` for a held operation. -/
def leaseExpired (now : Time) (row : Operation) : Bool :=
  row.status.isActive && row.leaseExpiresAt.any fun expires => decide (julianday expires ≤ julianday now)

/-- `ORDER BY julianday(lease_expires_at), id`; the selected rows all have a lease. -/
def leaseOrder (left right : Operation) : Bool :=
  let leftKey := left.leaseExpiresAt.elim 0 julianday
  let rightKey := right.leaseExpiresAt.elim 0 julianday
  decide (leftKey < rightKey ∨ leftKey = rightKey ∧ left.id ≤ right.id)

def expiredOperationIDs (now : Time) (db : OperationStore) : List ID :=
  ((db.operations.filter (leaseExpired now)).insertionSort fun left right => leaseOrder left right).map
    Operation.id

def recoverExpiredOperationsTx (now : Time) (db : OperationStore) :
    Except TxError (OperationStore × Nat) := do
  let operationIDs := expiredOperationIDs now db
  let db ← operationIDs.foldlM (recoverExpiredOperationTx now) db
  pure (db, operationIDs.length)

/-- An operation a worker may claim now. -/
def claimable (kinds : List String) (now : Time) (row : Operation) : Bool :=
  decide (row.status = .pending ∧ row.attemptCount < row.maxAttempts ∧ row.kind ∈ kinds) &&
    row.nextAttemptAt.any fun next => decide (julianday next ≤ julianday now)

/-- `ORDER BY julianday(next_attempt_at), created_at, id`, where `created_at` is compared as text. -/
def claimOrder (left right : Operation) : Bool :=
  let leftKey := left.nextAttemptAt.elim 0 julianday
  let rightKey := right.nextAttemptAt.elim 0 julianday
  let leftCreated := formatTime left.createdAt
  let rightCreated := formatTime right.createdAt
  decide (leftKey < rightKey ∨ leftKey = rightKey ∧
    (leftCreated < rightCreated ∨ leftCreated = rightCreated ∧ left.id ≤ right.id))

def nextClaimableID (kinds : List String) (now : Time) (db : OperationStore) : Option ID :=
  ((db.operations.filter (claimable kinds now)).insertionSort fun left right =>
    claimOrder left right).head?.map Operation.id

/-- Inserts the next attempt of an operation and hands the operation to it. -/
def claimOperationTx (db : OperationStore) (operationID workerInstanceID newID : ID)
    (leaseExpiresAt now : Time) : Except TxError (Committed ClaimedOperation) := do
  let operation ← db.loadOperationByID operationID
  let attempt : OperationAttempt :=
    { id := newID
      operationID := operation.id, attemptNumber := operation.attemptCount + 1, workerInstanceID := workerInstanceID
      claimedAt := now, heartbeatAt := now, leaseExpiresAt := leaseExpiresAt, completedAt := none, outcome := .running
      errorCode := none }
  let db ← db.insertAttempt attempt
  let (db, affected) ← db.updateOperations (Operation.hasStatus operation.id .pending)
    (setClaimed attempt now)
  expectAffected affected
  let db ← db.appendOperationEventTx
    { operationID := operation.id, attemptID := some attempt.id, type := .claimed,
      stage := operation.stage, progress := operation.progressPercent,
      messageCode := "operation.claimed",
      details := [("attempt", .number attempt.attemptNumber)] } now
  let operation ← db.loadOperationByID operation.id
  pure (db, .ok { operation := operation, attempt := attempt })

def claimNextOperationTx (db : OperationStore) (workerInstanceID : ID) (kinds : List String)
    (newID : ID) (leaseExpiresAt now : Time) : Except TxError (Committed ClaimedOperation) := do
  let (db, _) ← recoverExpiredOperationsTx now db
  match nextClaimableID kinds now db with
  | none => pure (db, .error .noOperationAvailable)
  | some operationID => claimOperationTx db operationID workerInstanceID newID leaseExpiresAt now

def heartbeatOperationTx (db : OperationStore) (params : HeartbeatOperationParams)
    (leaseExpiresAt now : Time) : Except TxError (Committed Operation) := do
  let operation ← db.loadOperationByID params.operationID
  validateActiveAttempt operation params.attemptID params.workerInstanceID now
  let db ← db.updateAttempts
    (heldBy params.attemptID params.operationID params.workerInstanceID)
    (setHeartbeat now leaseExpiresAt)
  let (db, affected) ← db.updateOperations
    (Operation.heldBy params.operationID params.attemptID params.workerInstanceID [.running, .cancelling])
    (setLease now leaseExpiresAt)
  expectLease affected
  pure (db, if operation.status = .cancelling then .error .operationCancellationRequested
    else .ok (operation.setLease now leaseExpiresAt))

def checkpointOperationTx (db : OperationStore) (params : CheckpointOperationParams)
    (stage messageCode : String) (now : Time) : Except TxError (Committed Operation) := do
  let operation ← db.loadOperationByID params.operationID
  validateActiveAttempt operation params.attemptID params.workerInstanceID now
  if operation.status = .cancelling then
    return (db, .error .operationCancellationRequested)
  if params.progressPercent < operation.progressPercent then
    throw (.core (.conflict "operation progress cannot decrease"))
  let (db, affected) ← db.updateOperations
    (Operation.heldBy params.operationID params.attemptID params.workerInstanceID [.running])
    (setProgress stage params.progressPercent now)
  expectLease affected
  let db ← db.appendOperationEventTx
    { operationID := operation.id, attemptID := some params.attemptID, type := .progress,
      stage := stage, progress := params.progressPercent, messageCode := messageCode,
      details := params.details } now
  pure (db, .ok (operation.setProgress stage params.progressPercent now))

def completeOperationTx (db : OperationStore) (params : CompleteOperationParams) (now : Time) :
    Except TxError (Committed Operation) := do
  let operation ← db.loadOperationByID params.operationID
  validateActiveAttempt operation params.attemptID params.workerInstanceID now
  if operation.status = .cancelling then
    return (db, .error .operationCancellationRequested)
  let db ← db.updateAttempts
    (heldBy params.attemptID params.operationID params.workerInstanceID)
    (setOutcome .succeeded none now)
  let (db, affected) ← db.updateOperations
    (Operation.heldBy params.operationID params.attemptID params.workerInstanceID [.running])
    (setSucceeded params.result now)
  expectLease affected
  let db ← db.appendOperationEventTx
    { operationID := operation.id, attemptID := some params.attemptID, type := .succeeded,
      stage := "completed", progress := 100, messageCode := "operation.succeeded", details := [] } now
  let db := db.appendAudit (operationAudit operation "operation.succeeded" operation.requestID none .success
    [("attempts", .number operation.attemptCount), ("kind", .string operation.kind)] now)
  pure (db, .ok (operation.setSucceeded params.result now))

/-- The end of `FailOperation` that queues another attempt. -/
def scheduleRetryTx (db : OperationStore) (params : FailOperationParams) (operation : Operation)
    (errorCode : String) (now : Time) : Except TxError (Committed Operation) := do
  let nextAttemptAt := now.add (retryDelay operation.attemptCount)
  let (db, affected) ← db.updateOperations
    (Operation.heldBy params.operationID params.attemptID params.workerInstanceID [.running])
    (setRetryQueued nextAttemptAt now)
  expectLease affected
  let db ← db.appendOperationEventTx
    { operationID := operation.id, attemptID := some params.attemptID, type := .retryScheduled,
      stage := "retry_queued", progress := operation.progressPercent,
      messageCode := "operation.retry_scheduled",
      details := [("attempt", .number operation.attemptCount), ("errorCode", .string errorCode),
        ("nextAttempt", .string (formatTime nextAttemptAt))] } now
  pure (db, .ok (operation.setRetryQueued nextAttemptAt now))

/-- The end of `FailOperation` that gives the operation up. -/
def recordFailureTx (db : OperationStore) (params : FailOperationParams) (operation : Operation)
    (errorCode : String) (now : Time) : Except TxError (Committed Operation) := do
  let (db, affected) ← db.updateOperations
    (Operation.heldBy params.operationID params.attemptID params.workerInstanceID [.running, .cancelling])
    (setFailed params.result errorCode now)
  expectLease affected
  let db ← db.appendOperationEventTx
    { operationID := operation.id, attemptID := some params.attemptID, type := .failed,
      stage := "failed", progress := operation.progressPercent, messageCode := "operation.failed",
      details := [("errorCode", .string errorCode)] } now
  let db := db.appendAudit (operationAudit operation "operation.failed" operation.requestID none .failure
    [("attempts", .number operation.attemptCount), ("errorCode", .string errorCode),
      ("kind", .string operation.kind)] now)
  pure (db, .ok (operation.setFailed params.result errorCode now))

def failOperationTx (db : OperationStore) (params : FailOperationParams) (errorCode : String)
    (now : Time) : Except TxError (Committed Operation) := do
  let operation ← db.loadOperationByID params.operationID
  validateActiveAttempt operation params.attemptID params.workerInstanceID now
  if params.retry ∧ (operation.status ≠ .running ∨ operation.retryClass ≠ .safe) then
    throw (.core (.invalidInput "only a running safe-retry operation may be retried automatically"))
  let db ← db.updateAttempts
    (heldBy params.attemptID params.operationID params.workerInstanceID)
    (setOutcome .failed (some errorCode) now)
  if params.retry ∧ operation.attemptCount < operation.maxAttempts then
    scheduleRetryTx db params operation errorCode now
  else recordFailureTx db params operation errorCode now

def requestOperationCancellationTx (db : OperationStore) (params : RequestOperationCancellationParams)
    (requestID : String) (now : Time) : Except TxError (Committed Operation) := do
  let operation ← db.loadScopedOperation params.scope
  match operation.status with
  | .cancelling | .cancelled => pure (db, .ok operation)
  | .succeeded | .failed => throw (.core (.conflict "completed operation cannot be cancelled"))
  | .pending =>
    let update := setCancellation .cancelled "cancelled" (some now) params.actorID now
    let (db, affected) ← db.updateOperations (Operation.hasStatus operation.id .pending) update
    expectAffected affected
    let db ← db.appendOperationEventTx
      { operationID := operation.id, attemptID := operation.currentAttemptID,
        type := .cancellationRequested, stage := "cancelled", progress := operation.progressPercent,
        messageCode := "operation.cancellation_requested", details := [] } now
    let db ← db.appendOperationEventTx
      { operationID := operation.id, attemptID := none, type := .cancelled, stage := "cancelled",
        progress := operation.progressPercent, messageCode := "operation.cancelled",
        details := [("beforeStart", .bool true)] } now
    let db := db.appendAudit (operationAudit operation "operation.cancellation_requested" requestID
      params.actorID .success [("immediate", .bool true), ("kind", .string operation.kind)] now)
    pure (db, .ok (update operation))
  | .running =>
    let update := setCancellation .cancelling operation.stage none params.actorID now
    let (db, affected) ← db.updateOperations (Operation.hasStatus operation.id .running) update
    expectAffected affected
    let db ← db.appendOperationEventTx
      { operationID := operation.id, attemptID := operation.currentAttemptID,
        type := .cancellationRequested, stage := operation.stage,
        progress := operation.progressPercent,
        messageCode := "operation.cancellation_requested", details := [] } now
    let db := db.appendAudit (operationAudit operation "operation.cancellation_requested" requestID
      params.actorID .success [("immediate", .bool false), ("kind", .string operation.kind)] now)
    pure (db, .ok (update operation))

def acknowledgeOperationCancellationTx (db : OperationStore)
    (params : AcknowledgeOperationCancellationParams) (now : Time) :
    Except TxError (Committed Operation) := do
  let operation ← db.loadOperationByID params.operationID
  validateActiveAttempt operation params.attemptID params.workerInstanceID now
  if operation.status ≠ .cancelling then
    throw (.core (.conflict "operation has no cancellation request"))
  let db ← db.updateAttempts
    (heldBy params.attemptID params.operationID params.workerInstanceID)
    (setOutcome .cancelled none now)
  let (db, affected) ← db.updateOperations
    (Operation.heldBy params.operationID params.attemptID params.workerInstanceID [.cancelling])
    (setCancelled now)
  expectLease affected
  let db ← db.appendOperationEventTx
    { operationID := operation.id, attemptID := some params.attemptID, type := .cancelled,
      stage := "cancelled", progress := operation.progressPercent,
      messageCode := "operation.cancelled", details := [] } now
  let db := db.appendAudit (operationAudit operation "operation.cancelled" operation.requestID none .success
    [("kind", .string operation.kind)] now)
  pure (db, .ok (operation.setCancelled now))

def retryOperationTx (db : OperationStore) (params : RetryOperationParams) (requestID : String)
    (now : Time) : Except TxError (Committed Operation) := do
  let operation ← db.loadScopedOperation params.scope
  if operation.status ≠ .failed then
    throw (.core (.conflict "only a failed operation can be retried"))
  if operation.retryClass = .none then
    throw (.core (.conflict "operation is classified as non-retryable"))
  if operation.maxAttempts ≤ operation.attemptCount then
    throw (.core (.conflict "operation has exhausted its attempt limit"))
  let (db, affected) ← db.updateOperations (Operation.hasStatus operation.id .failed)
    (setManualRetry now)
  expectAffected affected
  let db ← db.appendOperationEventTx
    { operationID := operation.id, attemptID := none, type := .retryScheduled, stage := "retry_queued",
      progress := operation.progressPercent, messageCode := "operation.manual_retry_scheduled",
      details := [("attemptsUsed", .number operation.attemptCount)] } now
  let db := db.appendAudit (operationAudit operation "operation.retry_scheduled" requestID params.actorID
    .success [("attemptsUsed", .number operation.attemptCount), ("kind", .string operation.kind),
      ("retryClass", .string operation.retryClass.text)] now)
  pure (db, .ok (operation.setManualRetry now))

/-! ### Calls -/

/-- One call: arguments are checked, the transaction runs, and an error rolls it back. -/
def transact {α β : Type} (db : OperationStore) (checked : Except CoreError α)
    (tx : α → Except TxError (Committed β)) : Committed β :=
  match checked with
  | .error error => (db, .error error)
  | .ok arguments =>
    match tx arguments with
    | .error error => (db, .error (classifyOperationTransitionError error))
    | .ok committed => committed

def createOperation (db : OperationStore) (params : CreateOperationParams) (newID : ID) (now : Time) :
    Committed Operation :=
  transact db (prepareOperation params newID now) fun operation => createOperationTx db operation now

def checkClaim (params : ClaimOperationParams) : Except CoreError (List String) := do
  validateID params.workerInstanceID "workerInstanceId"
  let kinds ← normalizeWorkerKinds params.kinds
  validateLeaseDuration params.leaseDuration
  pure kinds

def claimNextOperation (db : OperationStore) (params : ClaimOperationParams) (newID : ID) (now : Time) :
    Committed ClaimedOperation :=
  transact db (checkClaim params) fun kinds =>
    claimNextOperationTx db params.workerInstanceID kinds newID (now.add params.leaseDuration) now

def checkHeartbeat (params : HeartbeatOperationParams) : Except CoreError Unit := do
  validateAttemptIdentity params.operationID params.attemptID params.workerInstanceID
  validateLeaseDuration params.leaseDuration

def heartbeatOperation (db : OperationStore) (params : HeartbeatOperationParams) (now : Time) :
    Committed Operation :=
  transact db (checkHeartbeat params) fun _ =>
    heartbeatOperationTx db params (now.add params.leaseDuration) now

/-- The stage and message code come back trimmed. -/
def checkCheckpoint (params : CheckpointOperationParams) : Except CoreError (String × String) := do
  validateAttemptIdentity params.operationID params.attemptID params.workerInstanceID
  let stage ← validateAction params.stage "stage" 80
  let messageCode ← validateAction params.messageCode "messageCode" 80
  if params.progressPercent < 0 ∨ 99 < params.progressPercent then
    throw (.invalidInput "running progress must be between 0 and 99")
  let _ ← encodeSafeOperationObject params.details maxOperationEventDetailsBytes
  pure (stage, messageCode)

def checkpointOperation (db : OperationStore) (params : CheckpointOperationParams) (now : Time) :
    Committed Operation :=
  transact db (checkCheckpoint params) fun texts => checkpointOperationTx db params texts.1 texts.2 now

def checkComplete (params : CompleteOperationParams) : Except CoreError String := do
  validateAttemptIdentity params.operationID params.attemptID params.workerInstanceID
  encodeSafeOperationObject params.result maxOperationJSONBytes

def completeOperation (db : OperationStore) (params : CompleteOperationParams) (now : Time) :
    Committed Operation :=
  transact db (checkComplete params) fun _ => completeOperationTx db params now

def checkFail (params : FailOperationParams) : Except CoreError String := do
  validateAttemptIdentity params.operationID params.attemptID params.workerInstanceID
  let errorCode ← validateAction params.errorCode "errorCode" 80
  let _ ← encodeSafeOperationObject params.result maxOperationJSONBytes
  pure errorCode

def failOperation (db : OperationStore) (params : FailOperationParams) (now : Time) :
    Committed Operation :=
  transact db (checkFail params) fun errorCode => failOperationTx db params errorCode now

/-- The checks a cancellation request and a retry have in common. -/
def checkUserRequest (scope : OperationScope) (actorID : Option ID) (requestID : String) :
    Except CoreError String := do
  validateOperationScope scope
  validateOptionalID actorID "actorId"
  validateOptionalText requestID "requestId" 128

def requestOperationCancellation (db : OperationStore) (params : RequestOperationCancellationParams)
    (now : Time) : Committed Operation :=
  transact db (checkUserRequest params.scope params.actorID params.requestID) fun requestID =>
    requestOperationCancellationTx db params requestID now

def checkAcknowledge (params : AcknowledgeOperationCancellationParams) : Except CoreError Unit :=
  validateAttemptIdentity params.operationID params.attemptID params.workerInstanceID

def acknowledgeOperationCancellation (db : OperationStore)
    (params : AcknowledgeOperationCancellationParams) (now : Time) : Committed Operation :=
  transact db (checkAcknowledge params) fun _ => acknowledgeOperationCancellationTx db params now

def retryOperation (db : OperationStore) (params : RetryOperationParams) (now : Time) :
    Committed Operation :=
  transact db (checkUserRequest params.scope params.actorID params.requestID) fun requestID =>
    retryOperationTx db params requestID now

def recoverExpiredOperations (db : OperationStore) (now : Time) : Committed Nat :=
  transact db (pure ()) fun _ => do
    let (db, recovered) ← recoverExpiredOperationsTx now db
    pure (db, .ok recovered)

/-! ### Runs -/

/-- A call of the operation store, with the clock reading and the identifier it draws. -/
inductive OperationCall where
  | create (params : CreateOperationParams) (newID : ID) (now : Time)
  | claim (params : ClaimOperationParams) (newID : ID) (now : Time)
  | heartbeat (params : HeartbeatOperationParams) (now : Time)
  | checkpoint (params : CheckpointOperationParams) (now : Time)
  | complete (params : CompleteOperationParams) (now : Time)
  | fail (params : FailOperationParams) (now : Time)
  | requestCancellation (params : RequestOperationCancellationParams) (now : Time)
  | acknowledgeCancellation (params : AcknowledgeOperationCancellationParams) (now : Time)
  | retry (params : RetryOperationParams) (now : Time)
  | recoverExpired (now : Time)

inductive OperationReply where
  | operation (operation : Operation)
  | claimed (claimed : ClaimedOperation)
  | recovered (count : Nat)

/-- A reply with the value of a call put under its constructor. -/
def Committed.reply {α : Type} (wrap : α → OperationReply) (committed : Committed α) :
    Committed OperationReply :=
  (committed.1, committed.2.map wrap)

def OperationCall.execute (db : OperationStore) : OperationCall → Committed OperationReply
  | .create params newID now => (createOperation db params newID now).reply .operation
  | .claim params newID now => (claimNextOperation db params newID now).reply .claimed
  | .heartbeat params now => (heartbeatOperation db params now).reply .operation
  | .checkpoint params now => (checkpointOperation db params now).reply .operation
  | .complete params now => (completeOperation db params now).reply .operation
  | .fail params now => (failOperation db params now).reply .operation
  | .requestCancellation params now => (requestOperationCancellation db params now).reply .operation
  | .acknowledgeCancellation params now =>
    (acknowledgeOperationCancellation db params now).reply .operation
  | .retry params now => (retryOperation db params now).reply .operation
  | .recoverExpired now => (recoverExpiredOperations db now).reply .recovered

/-- The checks a call makes on its arguments before it opens a transaction. -/
def OperationCall.checked : OperationCall → Except CoreError Unit
  | .create params newID now => (prepareOperation params newID now).map fun _ => ()
  | .claim params _ _ => (checkClaim params).map fun _ => ()
  | .heartbeat params _ => checkHeartbeat params
  | .checkpoint params _ => (checkCheckpoint params).map fun _ => ()
  | .complete params _ => (checkComplete params).map fun _ => ()
  | .fail params _ => (checkFail params).map fun _ => ()
  | .requestCancellation params _ =>
    (checkUserRequest params.scope params.actorID params.requestID).map fun _ => ()
  | .acknowledgeCancellation params _ => checkAcknowledge params
  | .retry params _ => (checkUserRequest params.scope params.actorID params.requestID).map fun _ => ()
  | .recoverExpired _ => pure ()

/-- The error a call reports. -/
def Committed.error {α : Type} (committed : Committed α) : Option CoreError :=
  match committed.2 with
  | .error error => some error
  | .ok _ => none

namespace OperationStore

/-- The store after a sequence of calls, by whomever they are made. -/
def run (db : OperationStore) (calls : List OperationCall) : OperationStore :=
  calls.foldl (fun state call => (call.execute state).1) db

/-- The store after a sequence of calls on a fresh installation. -/
def after (calls : List OperationCall) : OperationStore := empty.run calls

end OperationStore

end Stackfort
