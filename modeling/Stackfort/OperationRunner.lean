import Stackfort.EventRuns
import Stackfort.OperationTransitions

/-! The worker. `RunOnce` claims an operation, runs its handler next to a goroutine that renews the
lease, and settles the attempt with one or two more calls. A handler is known by what it does to the
store and to its context: it reports checkpoints, it may look at its context, and it returns. The
worker is a system that moves by events. Each call of the repository is one event with its clock
reading, the goroutine and the handler take their events in any order, and calls of everybody else
may fall between any two of them. -/

namespace Stackfort

/-! ### Handlers -/

/-- `*Failure`: a stable code, and whether another attempt may help. -/
structure Failure where
  code : String
  retryable : Bool

/-- What the worker can learn of a handler's error through `errors.As` and `errors.Is`. -/
structure HandlerError where
  failure : Option Failure
  (cancellationRequested canceled : Bool)

/-- An error of a repository call: one of the core errors, or that of a cancelled context. -/
inductive CallError where
  | core (error : CoreError)
  | canceled
  deriving DecidableEq

/-- A handler that hands on the error of a call. -/
def HandlerError.ofCall (error : CallError) : HandlerError where
  failure := none
  cancellationRequested := decide (error = .core .operationCancellationRequested)
  canceled := decide (error = .canceled)

inductive HandlerReturn where
  | result (result : JsonObject)
  | error (error : HandlerError)
  | panic

/-- The arguments of `ProgressReporter.Checkpoint`. -/
structure ProgressUpdate where
  stage : String
  progressPercent : Int
  messageCode : String
  details : JsonObject

/-- A run of a handler. A checkpoint is reported under the handler's own context, or under one that
does not end with it, and the handler goes on with the error it is answered with. -/
inductive HandlerRun where
  | checkpoint (detached : Bool) (update : ProgressUpdate) (next : Option CallError → HandlerRun)
  | observe (next : Option CallError → HandlerRun)
  | done (value : HandlerReturn)

/-- `callHandler`: a panic is recovered as a failure. -/
def HandlerReturn.outcome : HandlerReturn → Except HandlerError JsonObject
  | .result value => .ok value
  | .error reason => .error reason
  | .panic => .error ⟨some ⟨"operation.handler_panic", false⟩, false, false⟩

/-- The error `callHandler` returns. -/
def HandlerReturn.handlerErr (value : HandlerReturn) : Option HandlerError :=
  match value.outcome with
  | .error reason => some reason
  | .ok _ => none

/-! ### Runners -/

def defaultLeaseDuration : Duration := 30 * second

def defaultHeartbeatInterval : Duration := 10 * second

structure RunnerOptions where
  workerInstanceID : ID
  (leaseDuration heartbeatInterval : Duration)

/-- Handlers by the kind of operation they run. -/
abbrev Handlers := List (String × (ClaimedOperation → HandlerRun))

structure Runner where
  workerInstanceID : ID
  (leaseDuration heartbeatInterval : Duration)
  handlers : Handlers
  kinds : List String

/-- `NewRunner`; an absent worker is named by a fresh identifier. -/
def newRunner (handlers : Handlers) (options : RunnerOptions) (newID : ID) : Except String Runner := do
  if handlers.length = 0 then throw "operation runner requires at least one handler"
  let workerInstanceID := if options.workerInstanceID = "" then newID else options.workerInstanceID
  if options.workerInstanceID ≠ "" ∧ ¬isCanonicalUUIDv7 options.workerInstanceID then
    throw "worker instance ID: identifier must be a canonical UUIDv7"
  let leaseDuration := if options.leaseDuration = 0 then defaultLeaseDuration else options.leaseDuration
  let heartbeatInterval :=
    if options.heartbeatInterval = 0 then defaultHeartbeatInterval else options.heartbeatInterval
  if leaseDuration < 5 * second ∨ 5 * minute < leaseDuration then
    throw "operation lease must be between 5 seconds and 5 minutes"
  if heartbeatInterval ≤ 0 ∨ leaseDuration.tdiv 2 ≤ heartbeatInterval then
    throw "heartbeat interval must be positive and less than half the lease duration"
  let kinds := (handlers.map Prod.fst).insertionSort (· ≤ ·)
  if "" ∈ kinds then throw "operation handler kind and implementation must be non-empty"
  pure
    { workerInstanceID := workerInstanceID
      leaseDuration := leaseDuration, heartbeatInterval := heartbeatInterval, handlers := handlers, kinds := kinds }

/-- The run of the handler for a claimed operation. Calling a missing handler panics. -/
def Runner.handlerRun (runner : Runner) (claimed : ClaimedOperation) : HandlerRun :=
  match runner.handlers.find? fun entry => decide (entry.1 = claimed.operation.kind) with
  | some entry => entry.2 claimed
  | none => .done .panic

/-! ### One run -/

/-- The goroutine that renews the lease, and what it sends when it ends. -/
inductive Heartbeat where
  | beating
  | ended (error : Option CallError)

/-- The call that ends an attempt. -/
inductive Settlement where
  | acknowledge
  | fail (failure : Failure)
  | complete (result : JsonObject)

/-- What `RunOnce` returns, `*RunError` included. -/
inductive RunnerError where
  | call (error : CallError)
  | run (operationID : ID) (code : String)

inductive RunPhase where
  | handling (handler : HandlerRun)
  | stopping (value : HandlerReturn)
  | settling (settlement : Settlement)
  | returned (error : Option RunnerError)

/-- A run of `RunOnce` after its claim: the store, whether the parent context has ended, the cause of
the handler's context once that has ended, the goroutine, and where the run itself is. -/
structure RunState where
  db : OperationStore
  shutdown : Bool
  cause : Option CallError
  heartbeat : Heartbeat
  phase : RunPhase

inductive RunEvent where
  | other (call : OperationCall)
  | shutdown
  | checkpoint (now : Time)
  | observe
  | handlerReturn
  | tick (now : Time)
  | stop
  | conclude
  | settle (now : Time)

/-- A repository call under a context. Arguments are checked first; an ended context then keeps the
transaction from beginning. -/
def OperationCall.invoke (call : OperationCall) (ended : Bool) (db : OperationStore) :
    OperationStore × Option CallError :=
  if ended then
    match call.checked with
    | .error error => (db, some (.core error))
    | .ok _ => (db, some .canceled)
  else ((call.execute db).1, (call.execute db).error.map CallError.core)

namespace Runner

variable (runner : Runner) (claimed : ClaimedOperation)

/-- `RunOnce` up to the start of the handler. -/
def begin (db : OperationStore) (newID : ID) (now : Time) :
    OperationStore × Except CoreError (ClaimedOperation × RunState) :=
  let (db, reply) := claimNextOperation db ⟨runner.workerInstanceID, runner.kinds, runner.leaseDuration⟩ newID now
  (db, reply.map fun claimed =>
    (claimed, ⟨db, false, none, .beating, .handling (runner.handlerRun claimed)⟩))

def heartbeatParams : HeartbeatOperationParams where
  operationID := claimed.operation.id
  attemptID := claimed.attempt.id
  workerInstanceID := runner.workerInstanceID
  leaseDuration := runner.leaseDuration

def heartbeatCall (now : Time) : OperationCall := .heartbeat (runner.heartbeatParams claimed) now

/-- `repositoryReporter` takes the worker from the attempt. -/
def checkpointParams (update : ProgressUpdate) : CheckpointOperationParams where
  operationID := claimed.operation.id
  attemptID := claimed.attempt.id
  workerInstanceID := claimed.attempt.workerInstanceID
  stage := update.stage
  progressPercent := update.progressPercent
  messageCode := update.messageCode
  details := update.details

def checkpointCall (update : ProgressUpdate) (now : Time) : OperationCall :=
  .checkpoint (checkpointParams claimed update) now

def completeParams (result : JsonObject) : CompleteOperationParams where
  operationID := claimed.operation.id
  attemptID := claimed.attempt.id
  workerInstanceID := runner.workerInstanceID
  result := result

def failParams (failure : Failure) : FailOperationParams where
  operationID := claimed.operation.id
  attemptID := claimed.attempt.id
  workerInstanceID := runner.workerInstanceID
  errorCode := failure.code
  result := []
  retry := failure.retryable

def acknowledgeParams : AcknowledgeOperationCancellationParams where
  operationID := claimed.operation.id
  attemptID := claimed.attempt.id
  workerInstanceID := runner.workerInstanceID

def settlementCall (now : Time) : Settlement → OperationCall
  | .acknowledge => .acknowledgeCancellation (runner.acknowledgeParams claimed) now
  | .fail failure => .fail (runner.failParams claimed failure) now
  | .complete result => .complete (runner.completeParams claimed result) now

/-- Whether the run ends on a request of the user. -/
def userCancellation (cause heartbeatErr : Option CallError) (handlerErr : Option HandlerError) : Bool :=
  decide (heartbeatErr = some (.core .operationCancellationRequested)) ||
    handlerErr.any HandlerError.cancellationRequested ||
    decide (cause = some (.core .operationCancellationRequested))

/-- `failClaim` takes the failure out of the error, or one of its own. -/
def failureOf (error : HandlerError) : Failure := error.failure.getD ⟨"operation.handler_failed", false⟩

/-- What `RunOnce` does once the handler and the goroutine have ended. -/
def concluded (shutdown : Bool) (cause heartbeatErr : Option CallError) (value : HandlerReturn) : RunPhase :=
  if heartbeatErr = some (.core .operationLeaseLost) then
    .returned (some (.call (.core .operationLeaseLost)))
  else if shutdown && !userCancellation cause heartbeatErr value.handlerErr then
    .returned (some (.call .canceled))
  else if userCancellation cause heartbeatErr value.handlerErr then
    if value.handlerErr.any fun error => !error.cancellationRequested && !error.canceled then
      .settling (.fail ⟨"operation.cancellation_cleanup_failed", false⟩)
    else .settling .acknowledge
  else
    match heartbeatErr, value.outcome with
    | some error, _ => .returned (some (.call error))
    | none, .error error => .settling (.fail (failureOf error))
    | none, .ok result => .settling (.complete result)

/-- Where a settlement leads, given what its call answers. -/
def settled (settlement : Settlement) (reply : Option CallError) : RunPhase :=
  match settlement, reply with
  | .complete _, some (.core .operationCancellationRequested) => .settling .acknowledge
  | .fail failure, none => .returned (some (.run claimed.operation.id failure.code))
  | _, reply => .returned (reply.map RunnerError.call)

/-- Where an event leads while `RunOnce` is at work. -/
def next (s : RunState) : RunEvent → Option RunState
  | .other call => some { s with db := (call.execute s.db).1 }
  | .shutdown => some { s with shutdown := true, cause := s.cause.or (some .canceled) }
  | .checkpoint now =>
    match s.phase with
    | .handling (.checkpoint detached update next) =>
      let answer := (checkpointCall claimed update now).invoke (!detached && s.cause.isSome) s.db
      some { s with db := answer.1, phase := .handling (next answer.2) }
    | _ => none
  | .observe =>
    match s.phase with
    | .handling (.observe next) => some { s with phase := .handling (next s.cause) }
    | _ => none
  | .handlerReturn =>
    match s.phase with
    | .handling (.done value) => some { s with phase := .stopping value }
    | _ => none
  | .tick now =>
    match s.heartbeat with
    | .beating =>
      let answer := (runner.heartbeatCall claimed now).invoke s.cause.isSome s.db
      match answer.2 with
      | none => some { s with db := answer.1 }
      | some error =>
        some { s with db := answer.1, heartbeat := .ended (some error), cause := s.cause.or (some error) }
    | .ended _ => none
  | .stop =>
    match s.heartbeat, s.phase with
    | .beating, .handling _ => if s.cause.isSome then some { s with heartbeat := .ended none } else none
    | .beating, _ => some { s with heartbeat := .ended none }
    | .ended _, _ => none
  | .conclude =>
    match s.phase, s.heartbeat with
    | .stopping value, .ended heartbeatErr =>
      some { s with phase := concluded s.shutdown s.cause heartbeatErr value }
    | _, _ => none
  | .settle now =>
    match s.phase with
    | .settling settlement =>
      let answer := (runner.settlementCall claimed now settlement).invoke s.shutdown s.db
      some { s with db := answer.1, phase := settled claimed settlement answer.2 }
    | _ => none

/-- The run is over once `RunOnce` has returned. -/
def step (s : RunState) (event : RunEvent) : Option RunState :=
  match s.phase with
  | .returned _ => none
  | _ => runner.next claimed s event

end Runner

end Stackfort
