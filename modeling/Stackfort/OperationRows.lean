import Stackfort.CoreValues
import Stackfort.CoreTime

/-! The tables of the operation store and the statements that change them. Rows carry the columns
the transitions read or write; a NULL column is `none`. The triggers of the persisted-operations
migration are predicates on the old and the new row, and a statement that meets one aborts. The
unique and foreign keys among the three tables are checked by the inserts. The remaining CHECK
clauses bound texts and percentages that every caller has already bounded in the same way, so they
are not repeated; keys into tables outside the store (accounts, identities) and the random keys of
event and audit rows, which nothing reads, are left out. -/

namespace Stackfort

inductive OperationStatus where
  | pending
  | running
  | succeeded
  | failed
  | cancelling
  | cancelled
  deriving DecidableEq

namespace OperationStatus

/-- Some worker holds the operation. -/
def isActive (status : OperationStatus) : Bool := status == .running || status == .cancelling

/-- Nothing changes the operation any more. -/
def isTerminal (status : OperationStatus) : Bool := status == .succeeded || status == .cancelled

end OperationStatus

inductive RetryClass where
  | none
  | safe
  | manual
  deriving DecidableEq

inductive OperationAttemptOutcome where
  | running
  | succeeded
  | failed
  | cancelled
  | leaseExpired
  deriving DecidableEq

inductive OperationEventType where
  | created
  | claimed
  | progress
  | retryScheduled
  | cancellationRequested
  | succeeded
  | failed
  | cancelled
  | leaseExpired
  deriving DecidableEq

inductive AuditResult where
  | success
  | failure
  | denied
  deriving DecidableEq

/-- A row of `operations`. -/
structure Operation where
  id : ID
  (accountID actorID : Option ID)
  kind : String
  status : OperationStatus
  stage : String
  progressPercent : Int
  retryClass : RetryClass
  requestID : String
  idempotencyKey : Option String
  payload : JsonObject
  result : Option JsonObject
  errorCode : Option String
  (createdAt updatedAt : Time)
  (startedAt completedAt : Option Time)
  (maxAttempts attemptCount : Nat)
  nextAttemptAt : Option Time
  (currentAttemptID workerInstanceID : Option ID)
  (leaseExpiresAt cancellationRequestedAt : Option Time)
  cancellationRequestedBy : Option ID

/-- A row of `operation_attempts`. -/
structure OperationAttempt where
  (id operationID : ID)
  attemptNumber : Nat
  workerInstanceID : ID
  (claimedAt heartbeatAt leaseExpiresAt : Time)
  completedAt : Option Time
  outcome : OperationAttemptOutcome
  errorCode : Option String

/-- A row of `operation_events`. -/
structure OperationEvent where
  operationID : ID
  sequence : Nat
  attemptID : Option ID
  type : OperationEventType
  stage : String
  progressPercent : Int
  messageCode : String
  details : JsonObject
  occurredAt : Time

/-- A row of `audit_events`, without the hash chain over it. -/
structure AuditEvent where
  occurredAt : Time
  actorID : Option ID
  (action targetType targetID : String)
  accountID : Option ID
  requestID : String
  operationID : Option ID
  result : AuditResult
  details : JsonObject

structure OperationStore where
  operations : List Operation
  attempts : List OperationAttempt
  events : List OperationEvent
  audit : List AuditEvent

/-! ### Errors inside a transaction -/

inductive Trigger where
  | operationsRestrictUpdate
  | operationsValidateCurrentAttempt
  | operationsValidateReleasedAttempt
  | operationAttemptsValidateInsert
  | operationAttemptsRestrictUpdate
  deriving DecidableEq

/-- The text a trigger raises. -/
def Trigger.message : Trigger → String
  | .operationsRestrictUpdate => "invalid operation mutation or state transition"
  | .operationsValidateCurrentAttempt =>
    "current attempt must be running and belong to the worker and operation"
  | .operationsValidateReleasedAttempt => "current attempt must be terminal before its lease is released"
  | .operationAttemptsValidateInsert => "attempt must be the next bounded claim of a pending operation"
  | .operationAttemptsRestrictUpdate => "invalid operation attempt mutation"

/-- What ends a transaction early: a query without a row, a violated key or check, an aborting
trigger, or an error of the Go code. -/
inductive TxError where
  | noRows
  | constraint (message : String)
  | trigger (trigger : Trigger)
  | core (error : CoreError)
  | other (message : String)
  deriving DecidableEq

/-- SQLite reports an aborting trigger under the constraint code as well. -/
def classifyDatabaseError : TxError → CoreError
  | .noRows => .notFound ""
  | .constraint message => .conflict message
  | .trigger trigger => .conflict trigger.message
  | .core error => error
  | .other message => .internal message

/-- The lease and cancellation sentinels, which the source passes through first, are errors of the
Go code and come back unchanged here too. -/
def classifyOperationTransitionError (error : TxError) : CoreError := classifyDatabaseError error

/-! ### Triggers -/

/-- A column that identifies the request changed. -/
def requestChanged (old new : Operation) : Bool :=
  decide (new.id ≠ old.id ∨ new.accountID ≠ old.accountID ∨ new.actorID ≠ old.actorID ∨
    new.kind ≠ old.kind ∨ new.retryClass ≠ old.retryClass ∨ new.requestID ≠ old.requestID ∨
    new.idempotencyKey ≠ old.idempotencyKey ∨
    (Json.object new.payload).encode ≠ (Json.object old.payload).encode ∨
    new.createdAt ≠ old.createdAt ∨ new.maxAttempts ≠ old.maxAttempts)

/-- The transitions between different stored statuses that an update may make. -/
def transitionAllowed : OperationStatus → OperationStatus → Bool
  | .pending, .running | .pending, .cancelled => true
  | .running, .running | .running, .pending | .running, .cancelling | .running, .succeeded
  | .running, .failed => true
  | .cancelling, .cancelling | .cancelling, .cancelled | .cancelling, .failed => true
  | .failed, .pending => true
  | _, _ => false

/-- The columns that are NULL, and those that are not, under each status. -/
def columnsFitStatus (row : Operation) : Bool :=
  match row.status with
  | .pending =>
    decide (row.currentAttemptID = none ∧ row.workerInstanceID = none ∧ row.leaseExpiresAt = none ∧
      row.nextAttemptAt ≠ none ∧ row.result.isNone ∧ row.errorCode = none ∧ row.completedAt = none)
  | .running | .cancelling =>
    decide (row.currentAttemptID ≠ none ∧ row.workerInstanceID ≠ none ∧ row.leaseExpiresAt ≠ none ∧
      row.nextAttemptAt = none ∧ row.result.isNone ∧ row.errorCode = none ∧ row.completedAt = none)
  | .succeeded =>
    decide (row.currentAttemptID = none ∧ row.workerInstanceID = none ∧ row.leaseExpiresAt = none ∧
      row.nextAttemptAt = none ∧ row.errorCode = none ∧ row.completedAt ≠ none ∧
      row.progressPercent = 100)
  | .failed =>
    decide (row.currentAttemptID = none ∧ row.workerInstanceID = none ∧ row.leaseExpiresAt = none ∧
      row.nextAttemptAt = none ∧ row.errorCode ≠ none ∧ row.completedAt ≠ none)
  | .cancelled =>
    decide (row.currentAttemptID = none ∧ row.workerInstanceID = none ∧ row.leaseExpiresAt = none ∧
      row.nextAttemptAt = none ∧ row.result.isNone ∧ row.errorCode = none ∧ row.completedAt ≠ none)

/-- `operations_restrict_update`: the request never changes, progress and attempts never decrease,
and status and columns fit one of the allowed transitions. -/
def operationsRestrictUpdate (old new : Operation) : Bool :=
  requestChanged old new || decide (new.progressPercent < old.progressPercent) ||
    decide (new.attemptCount < old.attemptCount) || decide (new.maxAttempts < new.attemptCount) ||
    old.status.isTerminal || !transitionAllowed old.status new.status || !columnsFitStatus new

/-- `operations_validate_current_attempt`. -/
def operationsValidateCurrentAttempt (attempts : List OperationAttempt) (new : Operation) : Bool :=
  match new.currentAttemptID with
  | none => false
  | some attemptID =>
    !attempts.any fun row =>
      decide (row.id = attemptID ∧ row.operationID = new.id ∧
        new.workerInstanceID = some row.workerInstanceID ∧ row.outcome = .running)

/-- `operations_validate_released_attempt`. -/
def operationsValidateReleasedAttempt (attempts : List OperationAttempt) (old new : Operation) : Bool :=
  match old.currentAttemptID, new.currentAttemptID with
  | some attemptID, none =>
    attempts.any fun row =>
      decide (row.id = attemptID ∧ row.operationID = old.id ∧ row.outcome = .running)
  | _, _ => false

/-- `operation_attempts_validate_insert`. -/
def operationAttemptsValidateInsert (operations : List Operation) (new : OperationAttempt) : Bool :=
  !operations.any fun row =>
    decide (row.id = new.operationID ∧ row.status = .pending ∧
      new.attemptNumber = row.attemptCount + 1 ∧ new.attemptNumber ≤ row.maxAttempts)

/-- `operation_attempts_restrict_update`. The two timestamps of a heartbeat are compared as the
texts that are stored. -/
def operationAttemptsRestrictUpdate (old new : OperationAttempt) : Bool :=
  decide (old.outcome ≠ .running ∨ new.id ≠ old.id ∨ new.operationID ≠ old.operationID ∨
    new.attemptNumber ≠ old.attemptNumber ∨ new.workerInstanceID ≠ old.workerInstanceID ∨
    new.claimedAt ≠ old.claimedAt ∨
    ¬((new.outcome = .running ∧ new.completedAt = none ∧ new.errorCode = none ∧
        formatTime old.heartbeatAt ≤ formatTime new.heartbeatAt ∧
        formatTime old.leaseExpiresAt ≤ formatTime new.leaseExpiresAt) ∨
      ((new.outcome = .succeeded ∨ new.outcome = .cancelled) ∧ new.completedAt ≠ none ∧
        new.errorCode = none ∧ new.heartbeatAt = old.heartbeatAt ∧
        new.leaseExpiresAt = old.leaseExpiresAt) ∨
      ((new.outcome = .failed ∨ new.outcome = .leaseExpired) ∧ new.completedAt ≠ none ∧
        new.errorCode ≠ none ∧ new.heartbeatAt = old.heartbeatAt ∧
        new.leaseExpiresAt = old.leaseExpiresAt)))

/-- The trigger an update of an operation row runs into. -/
def operationUpdateAbort (attempts : List OperationAttempt) (old new : Operation) : Option Trigger :=
  if operationsRestrictUpdate old new then some .operationsRestrictUpdate
  else if operationsValidateCurrentAttempt attempts new then some .operationsValidateCurrentAttempt
  else if operationsValidateReleasedAttempt attempts old new then some .operationsValidateReleasedAttempt
  else none

/-! ### Events -/

/-- `COALESCE(MAX(sequence), 0) + 1` over the events of one operation. -/
def nextSequence (events : List OperationEvent) : Nat :=
  (events.map OperationEvent.sequence).foldl max 0 + 1

structure AppendOperationEventParams where
  operationID : ID
  attemptID : Option ID
  type : OperationEventType
  stage : String
  progress : Int
  messageCode : String
  details : JsonObject

/-- The row that follows the earlier events of the operation. -/
def AppendOperationEventParams.event (params : AppendOperationEventParams)
    (earlier : List OperationEvent) (now : Time) : OperationEvent where
  operationID := params.operationID
  sequence := nextSequence earlier
  attemptID := params.attemptID
  type := params.type
  stage := params.stage
  progressPercent := params.progress
  messageCode := params.messageCode
  details := params.details
  occurredAt := now

namespace OperationStore

def empty : OperationStore := ⟨[], [], [], []⟩

variable (db : OperationStore)

/-- The rows of `operation_attempts` and `operation_events` of an operation, oldest first. -/
def attemptsOf (operationID : ID) : List OperationAttempt :=
  Rows.owned OperationAttempt.operationID operationID db.attempts

def eventsOf (operationID : ID) : List OperationEvent :=
  Rows.owned OperationEvent.operationID operationID db.events

def findOperation (operationID : ID) : Option Operation :=
  Rows.lookup Operation.id operationID db.operations

/-! ### Effects of statements -/

def mapOperations (p : Operation → Bool) (f : Operation → Operation) : OperationStore :=
  { db with operations := updateWhere p f db.operations }

def mapAttempts (p : OperationAttempt → Bool) (f : OperationAttempt → OperationAttempt) : OperationStore :=
  { db with attempts := updateWhere p f db.attempts }

def addOperation (row : Operation) : OperationStore := { db with operations := db.operations ++ [row] }

def addAttempt (row : OperationAttempt) : OperationStore := { db with attempts := db.attempts ++ [row] }

def addEvent (row : OperationEvent) : OperationStore := { db with events := db.events ++ [row] }

/-- Appends an audit record. -/
def appendAudit (event : AuditEvent) : OperationStore := { db with audit := db.audit ++ [event] }

/-! ### Statements -/

/-- `UPDATE operations SET f WHERE p`, with the number of affected rows. -/
def updateOperations (p : Operation → Bool) (f : Operation → Operation) :
    Except TxError (OperationStore × Nat) :=
  match db.operations.findSome? fun row =>
      if p row then operationUpdateAbort db.attempts row (f row) else none with
  | some trigger => throw (.trigger trigger)
  | none => pure (db.mapOperations p f, db.operations.countP p)

/-- `UPDATE operation_attempts SET f WHERE p`. -/
def updateAttempts (p : OperationAttempt → Bool) (f : OperationAttempt → OperationAttempt) :
    Except TxError OperationStore :=
  if db.attempts.any fun row => p row && operationAttemptsRestrictUpdate row (f row) then
    throw (.trigger .operationAttemptsRestrictUpdate)
  else pure (db.mapAttempts p f)

/-- An operation that already uses the key in the same scope, which is one account or the global
administrator scope. -/
def findOperationByIdempotencyKeyTx (accountID : Option ID) (key : String) : Option Operation :=
  db.operations.find? fun row => decide (row.accountID = accountID ∧ row.idempotencyKey = some key)

def insertOperation (row : Operation) : Except TxError OperationStore :=
  if db.operations.any fun other => decide (other.id = row.id) then
    throw (.constraint "UNIQUE constraint failed: operations.id")
  else if db.operations.any fun other =>
      decide (row.idempotencyKey ≠ none ∧ other.accountID = row.accountID ∧
        other.idempotencyKey = row.idempotencyKey) then
    throw (.constraint "UNIQUE constraint failed: operations.idempotency_key")
  else pure (db.addOperation row)

def insertAttempt (row : OperationAttempt) : Except TxError OperationStore :=
  if operationAttemptsValidateInsert db.operations row then
    throw (.trigger .operationAttemptsValidateInsert)
  else if db.attempts.any fun other => decide (other.id = row.id) then
    throw (.constraint "UNIQUE constraint failed: operation_attempts.id")
  else if db.attempts.any fun other =>
      decide (other.operationID = row.operationID ∧ other.attemptNumber = row.attemptNumber) then
    throw (.constraint "UNIQUE constraint failed: operation_attempts.attempt_number")
  else pure (db.addAttempt row)

/-- Appends the next event of an operation. The source checks type, texts, progress and details
again; every caller passes constants or values it has checked with the same bounds. -/
def appendOperationEventTx (params : AppendOperationEventParams) (now : Time) :
    Except TxError OperationStore :=
  if db.operations.all fun row => decide (row.id ≠ params.operationID) then
    throw (.constraint "FOREIGN KEY constraint failed")
  else if params.attemptID.any fun attemptID => db.attempts.all fun row =>
      decide (¬(row.operationID = params.operationID ∧ row.id = attemptID)) then
    throw (.constraint "FOREIGN KEY constraint failed")
  else pure (db.addEvent (params.event (db.eventsOf params.operationID) now))

end OperationStore

end Stackfort
