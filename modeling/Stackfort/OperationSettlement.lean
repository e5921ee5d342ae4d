import Stackfort.OperationRunner
import Stackfort.OperationTriggers

/-! How a run of the worker ends its attempt. While the handler works, the operation stays with the
attempt: heartbeats and checkpoints leave it there, other calls can at most ask for its cancellation.
The attempt then ends with the settlement the worker chooses, and that is where it can be stranded:
`FailOperation` turns down a retry of an operation that is being cancelled or is not safe to repeat,
an acknowledgement needs a request, and codes and results have to pass their checks. The worker
returns either way. -/

namespace Stackfort

open OperationView OperationStore

/-- The attempt has ended, and its operation waits, has succeeded, has failed or was cancelled. -/
def AttemptEnded (db : OperationStore) (claimed : ClaimedOperation) : Prop :=
  (∃ operation, db.findOperation claimed.operation.id = some operation ∧
    operation.status ∈ [.pending, .succeeded, .failed, .cancelled]) ∧
  ∃ attempt ∈ db.attemptsOf claimed.operation.id,
    attempt.id = claimed.attempt.id ∧ attempt.outcome ≠ .running

section Ends

variable {db db' : OperationStore} {claimed : ClaimedOperation} {v w : OperationView} {workerInstanceID : ID}

theorem not_attemptEnded (hview : db.view claimed.operation.id = some v)
    (hactive : v.row.status.isActive = true) : ¬AttemptEnded db claimed := by
  rintro ⟨⟨operation, hfound, hstatus⟩, -⟩
  rw [(view_eq_some.mp hview).1] at hfound
  cases hfound
  rcases isActive_iff.mp hactive with h | h <;> simp [h] at hstatus

theorem attemptEnded_of_settle (hv : v.Consistent)
    (hheld : v.Held claimed.attempt.id workerInstanceID) {outcome : OperationAttemptOutcome}
    (houtcome : outcome ≠ .running) {errorCode : Option String} {g : Operation → Operation}
    (hstatus : (g v.row).status ∈ [.pending, .succeeded, .failed, .cancelled])
    {event : AppendOperationEventParams} {now : Time}
    (hreplaces : db.Replaces db' claimed.operation.id
      ((v.settle (heldBy claimed.attempt.id v.row.id workerInstanceID) outcome errorCode g now).record event now)) :
    AttemptEnded db' claimed := by
  obtain ⟨earlier, attempt, hattempts, hsettled, hcurrent⟩ := hv.current hheld.active
  obtain ⟨hfound, hmem, -⟩ := view_eq_some.mp hreplaces.self
  refine ⟨⟨_, hfound, hstatus⟩, setOutcome outcome errorCode now attempt, ?_,
    some.inj (hcurrent.attemptID.symm.trans hheld.attempt), houtcome⟩
  rw [← hmem]
  show _ ∈ (v.setAttempts _ _).attempts
  rw [attempts_setAttempts, updateWhere_current (hv.heldBy_selects hheld) hattempts hsettled hcurrent.running]
  simp

end Ends

/-! ### Calls while the attempt runs -/

/-- The operation is with the attempt, and the store is sound. -/
structure Holds (runner : Runner) (claimed : ClaimedOperation) (db : OperationStore) (v : OperationView) :
    Prop where
  wellFormed : db.WellFormed
  view : db.view claimed.operation.id = some v
  held : v.Held claimed.attempt.id runner.workerInstanceID

/-- What the worker's arguments are checked for: identifiers and lease. -/
structure Runner.Valid (runner : Runner) (claimed : ClaimedOperation) : Prop where
  identity : validateAttemptIdentity claimed.operation.id claimed.attempt.id runner.workerInstanceID = .ok ()
  lease : validateLeaseDuration runner.leaseDuration = .ok ()
  worker : claimed.attempt.workerInstanceID = runner.workerInstanceID

variable {call : OperationCall} {worker : Runner}

section Calls

variable {runner : Runner} {claimed : ClaimedOperation} {db : OperationStore} {v : OperationView} {now : Time}

theorem Holds.consistent (h : Holds runner claimed db v) : v.Consistent := h.wellFormed.consistent _ _ h.view

theorem Holds.heldAt (h : Holds runner claimed db v) (hlease : v.Unexpired now) :
    db.HeldAt claimed.operation.id claimed.attempt.id runner.workerInstanceID now v :=
  ⟨h.wellFormed, h.view, h.held, hlease⟩

/-- What the operation becomes when a call replaces its view. -/
theorem Holds.replaced (h : Holds runner claimed db v) {db' : OperationStore} {w : OperationView}
    (hcall : (call.execute db).1 = db') (hreplaces : db.Replaces db' claimed.operation.id w)
    (hheld : w.Held claimed.attempt.id runner.workerInstanceID) :
    Holds runner claimed (call.execute db).1 w := by
  refine ⟨(execute_moves h.wellFormed call).advances.wellFormed h.wellFormed, ?_, hheld⟩
  rw [hcall]
  exact hreplaces.self

theorem Holds.untouched (h : Holds runner claimed db v) (hnot : ¬call.Touches v) :
    Holds runner claimed (call.execute db).1 v :=
  ⟨(execute_moves h.wellFormed call).advances.wellFormed h.wellFormed,
    (execute_moves h.wellFormed call).untouched _ _ h.view hnot, h.held⟩

variable {α β : Type} {checked : Except CoreError α} {tx : α → Except TxError (Committed β)}

theorem transact_of_ok {arguments : α} (hchecked : checked = .ok arguments) {committed : Committed β}
    (htx : tx arguments = .ok committed) : transact db checked tx = committed := by
  simp only [transact, hchecked, htx]

theorem Holds.requestCancellation (h : Holds runner claimed db v) (params : RequestOperationCancellationParams)
    (now : Time) :
    ∃ w, Holds runner claimed ((OperationCall.requestCancellation params now).execute db).1 w ∧
      (w = v ∨ w.row.status = .cancelling) := by
  by_cases htouch : (OperationCall.requestCancellation params now).Touches v
  · obtain ⟨hid, hstatus⟩ := htouch
    have hrunning : v.row.status = .running := by
      rcases isActive_iff.mp h.held.active with hs | hs <;> simp [hs] at hstatus ⊢
    have hscope : params.scope.operationID = claimed.operation.id := by
      rw [← hid]
      exact row_id_of_view h.view
    rcases transact_cases db (checkUserRequest params.scope params.actorID params.requestID) fun requestID =>
      requestOperationCancellationTx db params requestID now with hsame | ⟨requestID, db', reply, -, htx, hresult⟩
    · exact ⟨v, h.replaced hsame (.refl h.view) h.held, .inl rfl⟩
    · rcases loadScopedOperation_cases h.wellFormed.keyed params.scope with hnone | ⟨u, hview, haccount, -⟩
      · simp only [requestOperationCancellationTx, hnone, error_bind] at htx
        cases htx
      · rw [hscope, h.view] at hview
        cases hview
        obtain ⟨db'', event, hrun, hreplaces⟩ := requestOperationCancellationTx_running h.wellFormed.keyed
          (by rw [hscope]; exact h.view) h.consistent haccount hrunning requestID now
        rw [htx] at hrun
        cases hrun
        rw [hscope] at hreplaces
        have hcommit := congrArg Prod.fst hresult
        exact ⟨_, h.replaced hcommit hreplaces ⟨rfl, h.held.attempt, h.held.worker⟩, .inr rfl⟩
  · exact ⟨v, h.untouched htouch, .inl rfl⟩

section

variable (h : Holds runner claimed db v) (hvalid : runner.Valid claimed) (hlease : v.Unexpired now)

include h hvalid hlease

/-- A heartbeat in order renews the lease, and tells of a request for cancellation. -/
theorem Holds.heartbeat (hordered : (runner.heartbeatCall claimed now).BeatsInOrder db) :
    ∃ w, Holds runner claimed ((runner.heartbeatCall claimed now).execute db).1 w ∧
      w.row = v.row.setLease now (now.add runner.leaseDuration) ∧
      ((runner.heartbeatCall claimed now).execute db).error =
        if v.row.status = .cancelling then some .operationCancellationRequested else none := by
  have hv := h.consistent
  have hchecked : checkHeartbeat (runner.heartbeatParams claimed) = .ok () := by
    simp only [checkHeartbeat, Runner.heartbeatParams, hvalid.identity, hvalid.lease, ok_bind]
  obtain ⟨earlier, attempt, hattempts, hsettled, hcurrent⟩ := hv.current h.held.active
  have hbeat := hordered attempt (beatsAlive_of_held hchecked (h.heldAt hlease) hattempts hcurrent)
  obtain ⟨db', htx, hreplaces⟩ := heartbeatOperationTx_held (runner.heartbeatParams claimed) (h.heldAt hlease)
    (now.add runner.leaseDuration) (heartbeat_accepted hattempts hsettled hcurrent hbeat)
  have hexecute : heartbeatOperation db (runner.heartbeatParams claimed) now = _ := transact_of_ok hchecked htx
  have hcommit := congrArg Prod.fst hexecute
  refine ⟨_, h.replaced hcommit hreplaces ⟨h.held.active, h.held.attempt, h.held.worker⟩, rfl, ?_⟩
  show ((heartbeatOperation db _ now).reply .operation).error = _
  rw [hexecute]
  split <;> rfl

/-- A checkpoint names the worker of the attempt. -/
theorem Holds.checkpointHeld (update : ProgressUpdate) :
    db.HeldAt (Runner.checkpointParams claimed update).operationID (Runner.checkpointParams claimed update).attemptID
      (Runner.checkpointParams claimed update).workerInstanceID now v := by
  show db.HeldAt claimed.operation.id claimed.attempt.id claimed.attempt.workerInstanceID now v
  rw [hvalid.worker]
  exact h.heldAt hlease

theorem Holds.checkpoint (update : ProgressUpdate) :
    ∃ w, Holds runner claimed ((Runner.checkpointCall claimed update now).execute db).1 w ∧
      w.row.status = v.row.status := by
  have hheld := h.checkpointHeld hvalid hlease update
  rcases transact_cases db (checkCheckpoint (Runner.checkpointParams claimed update)) fun texts =>
    checkpointOperationTx db (Runner.checkpointParams claimed update) texts.1 texts.2 now with
    hsame | ⟨texts, db', reply, -, htx, hresult⟩
  · exact ⟨v, h.replaced hsame (.refl h.view) h.held, rfl⟩
  · rcases isActive_iff.mp h.held.active with hstatus | hstatus
    · by_cases hgrows : v.row.progressPercent ≤ update.progressPercent
      · obtain ⟨db'', event, hrun, hreplaces⟩ := checkpointOperationTx_running hheld hstatus hgrows texts.1 texts.2
        rw [htx] at hrun
        cases hrun
        have hcommit := congrArg Prod.fst hresult
        exact ⟨_, h.replaced hcommit hreplaces ⟨h.held.active, h.held.attempt, h.held.worker⟩, rfl⟩
      · rw [checkpointOperationTx_decreasing hheld hstatus (not_le.mp hgrows)] at htx
        cases htx
    · rw [checkpointOperationTx_cancelling hheld hstatus] at htx
      cases htx
      have hcommit := congrArg Prod.fst hresult
      exact ⟨v, h.replaced hcommit (.refl h.view) h.held, rfl⟩

end

/-! ### Settlements -/

/-- What the repository asks of a settlement: a request to acknowledge, a code that passes its check
and a retry the operation allows, a result that passes its check. -/
def Settlement.Fits (operation : Operation) : Settlement → Prop
  | .acknowledge => operation.status = .cancelling
  | .fail failure => (∃ code, validateAction failure.code "errorCode" 80 = .ok code) ∧
      (failure.retryable = true → operation.status = .running ∧ operation.retryClass = .safe)
  | .complete result => ∃ text, encodeSafeOperationObject result maxOperationJSONBytes = .ok text

/-- The call changes nothing and reports an error other than a request for cancellation. -/
def OperationCall.Refused (db : OperationStore) (call : OperationCall) : Prop :=
  (call.execute db).1 = db ∧
    ∃ error, (call.execute db).error = some error ∧ error ≠ .operationCancellationRequested

/-- The call ends the attempt. -/
def OperationCall.Ends (db : OperationStore) (claimed : ClaimedOperation) (call : OperationCall) : Prop :=
  AttemptEnded (call.execute db).1 claimed ∧ (call.execute db).error = none

variable {error : CoreError}

theorem transact_invalid (hchecked : checked = .error error) : transact db checked tx = (db, .error error) := by
  simp only [transact, hchecked]

theorem transact_rollback {arguments : α} (hchecked : checked = .ok arguments)
    (htx : tx arguments = .error (.core error)) : transact db checked tx = (db, .error error) := by
  simp only [transact, hchecked, htx]
  rfl

section

variable {tx : α → Except TxError (Committed Operation)}
  (hexecute : call.execute db = (transact db checked tx).reply .operation)

include hexecute

theorem refused_of_reply (hreply : transact db checked tx = (db, .error error))
    (hne : error ≠ .operationCancellationRequested) : call.Refused db := by
  rw [OperationCall.Refused, hexecute, hreply]
  exact ⟨rfl, error, rfl, hne⟩

variable {arguments : α} (hchecked : checked = .ok arguments) {reply : Operation}

include hchecked

variable (call) in
/-- A call whose transaction records a view stores its row. -/
theorem OperationCall.stores {operationID : ID}
    (hrecords : db.Records operationID (tx arguments) (·, .ok reply) v now) :
    (call.execute db).error = none ∧ (call.execute db).1.findOperation operationID = some v.row := by
  obtain ⟨db', event, htx, hreplaces⟩ := hrecords
  rw [hexecute, transact_of_ok hchecked htx]
  exact ⟨rfl, (view_eq_some.mp hreplaces.self).1⟩

/-- A call whose transaction settles the attempt ends it. -/
theorem Holds.ends (h : Holds runner claimed db v) {outcome : OperationAttemptOutcome} {errorCode : Option String}
    {g : Operation → Operation}
    (hrecords : db.Records claimed.operation.id (tx arguments) (·, .ok reply)
      (v.settle (heldBy claimed.attempt.id v.row.id runner.workerInstanceID) outcome errorCode g now) now)
    (houtcome : outcome ≠ .running) (hstatus : (g v.row).status ∈ [.pending, .succeeded, .failed, .cancelled]) :
    call.Ends db claimed := by
  obtain ⟨db', event, htx, hreplaces⟩ := hrecords
  rw [OperationCall.Ends, hexecute, transact_of_ok hchecked htx]
  exact ⟨attemptEnded_of_settle h.consistent h.held houtcome hstatus hreplaces, rfl⟩

end

theorem CoreError.IsInvalidInput.ne (h : error.IsInvalidInput) : error ≠ .operationCancellationRequested := by
  rintro rfl
  exact h

section Settle

variable (h : Holds runner claimed db v) (hvalid : runner.Valid claimed) (hlease : v.Unexpired now)

include h hvalid hlease

theorem Holds.acknowledge_ends (hstatus : v.row.status = .cancelling) :
    (runner.settlementCall claimed now .acknowledge).Ends db claimed := by
  have hrecords := acknowledgeOperationCancellationTx_cancelling (runner.acknowledgeParams claimed) (h.heldAt hlease)
    hstatus
  exact h.ends rfl hvalid.identity hrecords (by simp) (by simp [setCancelled])

theorem Holds.acknowledge_refused (hstatus : v.row.status ≠ .cancelling) :
    (runner.settlementCall claimed now .acknowledge).Refused db := by
  have htx := acknowledgeOperationCancellationTx_running (runner.acknowledgeParams claimed) (h.heldAt hlease) hstatus
  exact refused_of_reply rfl (transact_rollback hvalid.identity htx) (by simp)

variable {failure : Failure} {code text : String} {result : JsonObject}

section

variable (hcode : validateAction failure.code "errorCode" 80 = .ok code)

include hcode

omit h hlease in
theorem checkFail_of_code : checkFail (runner.failParams claimed failure) = .ok code := by
  have hresult : encodeSafeOperationObject [] maxOperationJSONBytes = .ok (Json.object []).encode := rfl
  simp only [checkFail, Runner.failParams, hvalid.identity, hcode, hresult, ok_bind, pure_eq_ok]

theorem Holds.fail_ends (hretry : failure.retryable = true → v.row.status = .running ∧ v.row.retryClass = .safe) :
    (runner.settlementCall claimed now (.fail failure)).Ends db claimed := by
  have hchecked := checkFail_of_code hvalid hcode
  by_cases hagain : failure.retryable = true ∧ v.row.attemptCount < v.row.maxAttempts
  · obtain ⟨hstatus, hclass⟩ := hretry hagain.1
    have hrecords := failOperationTx_retry (runner.failParams claimed failure) (h.heldAt hlease) hagain.1 hstatus hclass
      hagain.2 code
    exact h.ends rfl hchecked hrecords (by simp) (by simp [setRetryQueued])
  · have hfinal : failure.retryable = false ∨ v.row.status = .running ∧ v.row.retryClass = .safe ∧
        v.row.maxAttempts ≤ v.row.attemptCount := by
      cases hretryable : failure.retryable with
      | false => exact .inl rfl
      | true =>
        obtain ⟨hstatus, hclass⟩ := hretry hretryable
        exact .inr ⟨hstatus, hclass, not_lt.mp fun hbudget => hagain ⟨hretryable, hbudget⟩⟩
    have hrecords := failOperationTx_final (runner.failParams claimed failure) (h.heldAt hlease) hfinal code
    exact h.ends rfl hchecked hrecords (by simp) (by simp [setFailed])

end

theorem Holds.fail_refused (hnot : ¬(Settlement.fail failure).Fits v.row) :
    (runner.settlementCall claimed now (.fail failure)).Refused db := by
  cases hcode : validateAction failure.code "errorCode" 80 with
  | error error =>
    refine refused_of_reply rfl (transact_invalid ?_) (validateAction_error hcode).ne
    simp only [checkFail, Runner.failParams, hvalid.identity, hcode, ok_bind, error_bind]
  | ok code =>
    have hblocked : ¬(failure.retryable = true → v.row.status = .running ∧ v.row.retryClass = .safe) :=
      fun hretry => hnot ⟨⟨code, hcode⟩, hretry⟩
    obtain ⟨hretry, hboth⟩ := Classical.not_imp.mp hblocked
    have hrefused := not_and_or.mp hboth
    have htx := failOperationTx_refused (runner.failParams claimed failure) (h.heldAt hlease) hretry hrefused code
    exact refused_of_reply rfl (transact_rollback (checkFail_of_code hvalid hcode) htx) (by simp)

section

variable (hresult : encodeSafeOperationObject result maxOperationJSONBytes = .ok text)

include hresult

omit h hlease in
theorem checkComplete_of_text : checkComplete (runner.completeParams claimed result) = .ok text := by
  simp only [checkComplete, Runner.completeParams, hvalid.identity, hresult, ok_bind]

theorem Holds.complete_ends (hstatus : v.row.status = .running) :
    (runner.settlementCall claimed now (.complete result)).Ends db claimed := by
  have hrecords := completeOperationTx_running (runner.completeParams claimed result) (h.heldAt hlease) hstatus
  exact h.ends rfl (checkComplete_of_text hvalid hresult) hrecords (by simp) (by simp [setSucceeded])

/-- Completion finds the request for cancellation and leaves it to an acknowledgement. -/
theorem Holds.complete_cancelling (hstatus : v.row.status = .cancelling) :
    ((runner.settlementCall claimed now (.complete result)).execute db).1 = db ∧
      ((runner.settlementCall claimed now (.complete result)).execute db).error =
        some .operationCancellationRequested := by
  have hcommit : completeOperation db (runner.completeParams claimed result) now = _ :=
    transact_of_ok (checkComplete_of_text hvalid hresult) (completeOperationTx_cancelling (h.heldAt hlease) hstatus)
  show (completeOperation db _ now).1 = db ∧ ((completeOperation db _ now).reply .operation).error = _
  rw [hcommit]
  exact ⟨rfl, rfl⟩

end

omit h hlease in
theorem complete_refused (hnot : ¬(Settlement.complete result).Fits v.row) :
    (runner.settlementCall claimed now (.complete result)).Refused db := by
  cases hresult : encodeSafeOperationObject result maxOperationJSONBytes with
  | ok text => exact absurd ⟨text, hresult⟩ hnot
  | error error =>
    refine refused_of_reply rfl (transact_invalid ?_) (encodeSafeOperationObject_error hresult).ne
    simp only [checkComplete, Runner.completeParams, hvalid.identity, hresult, ok_bind]

/-- **A settlement ends the attempt exactly when it fits.** A completion that meets a request for
cancellation changes nothing yet. -/
theorem Holds.settle (settlement : Settlement) :
    (settlement.Fits v.row → (runner.settlementCall claimed now settlement).Ends db claimed ∨
      (∃ result, settlement = .complete result) ∧ v.row.status = .cancelling ∧
        ((runner.settlementCall claimed now settlement).execute db).1 = db ∧
        ((runner.settlementCall claimed now settlement).execute db).error =
          some .operationCancellationRequested) ∧
      (¬settlement.Fits v.row → (runner.settlementCall claimed now settlement).Refused db) := by
  cases settlement with
  | acknowledge =>
    exact ⟨fun hfits => .inl (h.acknowledge_ends hvalid hlease hfits),
      fun hnot => h.acknowledge_refused hvalid hlease hnot⟩
  | fail failure =>
    refine ⟨fun hfits => ?_, fun hnot => h.fail_refused hvalid hlease hnot⟩
    obtain ⟨⟨code, hcode⟩, hretry⟩ := hfits
    exact .inl (h.fail_ends hvalid hlease hcode hretry)
  | complete result =>
    refine ⟨fun hfits => ?_, fun hnot => complete_refused hvalid hnot⟩
    obtain ⟨text, hresult⟩ := hfits
    rcases isActive_iff.mp h.held.active with hstatus | hstatus
    · exact .inl (h.complete_ends hvalid hlease hresult hstatus)
    · exact .inr ⟨⟨result, rfl⟩, hstatus, h.complete_cancelling hvalid hlease hresult hstatus⟩

end Settle

end Calls

/-! ### Runs -/

namespace RunEvent

variable (runner : Runner) (claimed : ClaimedOperation) (s : RunState)

/-- The parent context lives, the lease is alive at every call of the worker, and among the calls of
others only requests for cancellation touch the operation. -/
def Timely : RunEvent → Prop
  | .other call => ∀ v, s.db.view claimed.operation.id = some v → call.Touches v →
      ∃ params now, call = .requestCancellation params now
  | .shutdown => False
  | .checkpoint now | .tick now | .settle now =>
    ∀ v, s.db.view claimed.operation.id = some v → v.Unexpired now
  | .observe | .handlerReturn | .stop | .conclude => True

/-- The triggers let the heartbeat through. -/
def BeatsInOrder : RunEvent → Prop
  | .tick now => (runner.heartbeatCall claimed now).BeatsInOrder s.db
  | _ => True

/-- The settlement is one the repository accepts. -/
def Fits : RunEvent → Prop
  | .settle _ => ∀ settlement operation, s.phase = .settling settlement →
      s.db.findOperation claimed.operation.id = some operation → settlement.Fits operation
  | _ => True

end RunEvent

/-- `RunOnce` is at work: it holds its operation, and its goroutine has not ended but on a request for
cancellation. -/
structure Working (runner : Runner) (claimed : ClaimedOperation) (s : RunState) : Prop where
  holds : ∃ v, Holds runner claimed s.db v
  alive : s.shutdown = false
  beating : s.heartbeat = .beating → s.cause = none
  ended : ∀ error, s.heartbeat = .ended (some error) → error = .core .operationCancellationRequested
  pending : ∀ error, s.phase ≠ .returned error

section Runs

variable {runner : Runner} {claimed : ClaimedOperation} {s s' : RunState} {now : Time} {error : Option RunnerError}
  {events : List RunEvent}

theorem OperationCall.invoke_alive (call : OperationCall) (db : OperationStore) :
    call.invoke false db = ((call.execute db).1, (call.execute db).error.map CallError.core) := rfl

theorem OperationCall.invoke_ended (call : OperationCall) (db : OperationStore) : (call.invoke true db).1 = db := by
  unfold OperationCall.invoke
  rw [if_pos rfl]
  split <;> rfl

theorem Working.other (h : Working runner claimed s) (htimely : (RunEvent.other call).Timely claimed s) :
    Working runner claimed { s with db := (call.execute s.db).1 } := by
  obtain ⟨v, hv⟩ := h.holds
  refine ⟨?_, h.alive, h.beating, h.ended, h.pending⟩
  by_cases htouch : call.Touches v
  · obtain ⟨params, now, rfl⟩ := htimely v hv.view htouch
    obtain ⟨w, hw, -⟩ := hv.requestCancellation params now
    exact ⟨w, hw⟩
  · exact ⟨v, hv.untouched htouch⟩

theorem Working.checkpoint (h : Working runner claimed s) (hvalid : runner.Valid claimed)
    (htimely : (RunEvent.checkpoint now).Timely claimed s) (hstep : runner.next claimed s (.checkpoint now) = some s') :
    Working runner claimed s' := by
  obtain ⟨v, hv⟩ := h.holds
  simp only [Runner.next] at hstep
  split at hstep
  · next detached update next hphase =>
    cases hstep
    refine ⟨?_, h.alive, h.beating, h.ended, by simp⟩
    cases hended : (!detached && s.cause.isSome) with
    | true => exact ⟨v, by rw [OperationCall.invoke_ended]; exact hv⟩
    | false =>
      obtain ⟨w, hw, -⟩ := hv.checkpoint hvalid (htimely v hv.view) update
      exact ⟨w, hw⟩
  · cases hstep

theorem Working.tick (h : Working runner claimed s) (hvalid : runner.Valid claimed)
    (htimely : (RunEvent.tick now).Timely claimed s) (hordered : (RunEvent.tick now).BeatsInOrder runner claimed s)
    (hstep : runner.next claimed s (.tick now) = some s') : Working runner claimed s' := by
  obtain ⟨v, hv⟩ := h.holds
  obtain ⟨w, hw, -, herror⟩ := hv.heartbeat hvalid (htimely v hv.view) hordered
  simp only [Runner.next] at hstep
  split at hstep
  · next hbeating =>
    rw [h.beating hbeating, Option.isSome_none, OperationCall.invoke_alive] at hstep
    simp only [herror] at hstep
    split at hstep
    · cases hstep
      exact ⟨⟨w, hw⟩, h.alive, fun _ => rfl, h.ended, h.pending⟩
    next error hsome =>
    cases hstep
    refine ⟨⟨w, hw⟩, h.alive, by simp, fun reason hreason => ?_, h.pending⟩
    have hsame : error = reason := by simpa using hreason
    by_cases hcancelling : v.row.status = .cancelling
    · rw [if_pos hcancelling] at hsome
      rw [← hsame]
      exact (some.inj hsome).symm
    · rw [if_neg hcancelling] at hsome
      cases hsome
  · cases hstep

/-- A goroutine that ended without an error, or on a request for cancellation, leads to a settlement. -/
theorem concluded_settling (cause : Option CallError) (value : HandlerReturn) {heartbeatErr : Option CallError}
    (hended : heartbeatErr = none ∨ heartbeatErr = some (.core .operationCancellationRequested)) :
    ∃ settlement, Runner.concluded false cause heartbeatErr value = .settling settlement := by
  have hlost : heartbeatErr ≠ some (.core .operationLeaseLost) := by
    rcases hended with rfl | rfl <;> simp
  unfold Runner.concluded
  rw [if_neg hlost, Bool.false_and, if_neg (by simp)]
  by_cases hcancel : Runner.userCancellation cause heartbeatErr value.handlerErr = true
  · rw [if_pos hcancel]
    split
    · exact ⟨_, rfl⟩
    · exact ⟨_, rfl⟩
  · rw [if_neg hcancel]
    rcases hended with rfl | rfl
    · cases value.outcome with
      | error | ok => exact ⟨_, rfl⟩
    · simp [Runner.userCancellation] at hcancel

/-- Every event but a settlement leaves the worker at work. -/
theorem Working.next (h : Working runner claimed s) (hvalid : runner.Valid claimed) {event : RunEvent}
    (htimely : event.Timely claimed s) (hordered : event.BeatsInOrder runner claimed s)
    (hsettle : ∀ now, event ≠ .settle now) (hstep : runner.next claimed s event = some s') :
    Working runner claimed s' := by
  cases event with
  | other call =>
    cases hstep
    exact h.other htimely
  | shutdown => exact htimely.elim
  | checkpoint now => exact h.checkpoint hvalid htimely hstep
  | observe | handlerReturn =>
    simp only [Runner.next] at hstep
    split at hstep
    · cases hstep
      exact ⟨h.holds, h.alive, h.beating, h.ended, by simp⟩
    · cases hstep
  | tick now => exact h.tick hvalid htimely hordered hstep
  | stop =>
    simp only [Runner.next] at hstep
    split at hstep
    · split at hstep
      · cases hstep
        exact ⟨h.holds, h.alive, by simp, by simp, h.pending⟩
      · cases hstep
    · cases hstep
      exact ⟨h.holds, h.alive, by simp, by simp, h.pending⟩
    · cases hstep
  | conclude =>
    simp only [Runner.next] at hstep
    split at hstep
    · next value heartbeatErr hphase hheartbeat =>
      cases hstep
      have hended : heartbeatErr = none ∨ heartbeatErr = some (.core .operationCancellationRequested) := by
        cases heartbeatErr with
        | none => exact .inl rfl
        | some reason => exact .inr (congrArg some (h.ended reason hheartbeat))
      obtain ⟨settlement, hsettling⟩ := concluded_settling s.cause value hended
      refine ⟨h.holds, h.alive, h.beating, h.ended, fun error => ?_⟩
      simp only [h.alive, hsettling, ne_eq, reduceCtorEq, not_false_eq_true]
    · cases hstep
  | settle now => exact absurd rfl (hsettle now)

/-- A settlement ends the attempt, or leaves an acknowledgement to be made, when it fits; otherwise
the worker returns and the operation stays held. -/
theorem Working.settle (h : Working runner claimed s) (hvalid : runner.Valid claimed)
    (htimely : (RunEvent.settle now).Timely claimed s) (hstep : runner.next claimed s (.settle now) = some s') :
    ((RunEvent.settle now).Fits claimed s →
      Working runner claimed s' ∨ AttemptEnded s'.db claimed ∧ ∃ error, s'.phase = .returned error) ∧
      (¬(RunEvent.settle now).Fits claimed s →
        ¬AttemptEnded s'.db claimed ∧ ∃ error, s'.phase = .returned error) := by
  obtain ⟨v, hv⟩ := h.holds
  simp only [Runner.next] at hstep
  split at hstep
  · next settlement hphase =>
    rw [h.alive, OperationCall.invoke_alive] at hstep
    cases hstep
    have hfits : (RunEvent.settle now).Fits claimed s ↔ settlement.Fits v.row := by
      constructor
      · exact fun hall => hall settlement v.row hphase (view_eq_some.mp hv.view).1
      · intro hfits settlement' operation hphase' hfound
        rw [hphase] at hphase'
        cases hphase'
        rw [(view_eq_some.mp hv.view).1] at hfound
        cases hfound
        exact hfits
    obtain ⟨hends, hrefuses⟩ := hv.settle hvalid (htimely v hv.view) settlement
    rw [hfits]
    refine ⟨fun hfit => ?_, fun hnot => ?_⟩
    · rcases hends hfit with ⟨hended, herror⟩ | ⟨⟨result, rfl⟩, -, hsame, herror⟩
      · refine .inr ⟨hended, ?_⟩
        simp only [herror, Option.map_none]
        cases settlement <;> exact ⟨_, rfl⟩
      · left
        simp only [herror, hsame, Option.map_some]
        exact ⟨⟨v, hv⟩, rfl, h.beating, h.ended, by simp [Runner.settled]⟩
    · obtain ⟨hsame, error, herror, hne⟩ := hrefuses hnot
      simp only [herror, hsame, Option.map_some]
      refine ⟨not_attemptEnded hv.view hv.held.active, ?_⟩
      cases settlement with
      | acknowledge | fail => exact ⟨_, rfl⟩
      | complete result =>
        refine ⟨some (.call (.core error)), ?_⟩
        unfold Runner.settled
        split <;> simp_all
  · cases hstep

theorem run_of_returned (hphase : s.phase = .returned error)
    (hrun : Events.run (runner.step claimed) s events = some s') :
    events = [] ∧ s' = s := by
  cases events with
  | nil =>
    cases hrun
    exact ⟨rfl, rfl⟩
  | cons event rest =>
    obtain ⟨mid, hstep, -⟩ := Events.run_cons hrun
    simp only [Runner.step, hphase, reduceCtorEq] at hstep

theorem Working.step_eq (h : Working runner claimed s) (event : RunEvent) :
    runner.step claimed s event = runner.next claimed s event := by
  unfold Runner.step
  split
  · next error hphase => exact absurd hphase (h.pending error)
  · rfl

/-- **Runs.** When the worker returns, its attempt has ended exactly when every settlement fitted. -/
theorem Working.run_ends_iff (hvalid : runner.Valid claimed)
    (hreturned : s'.phase = .returned error) (h : Working runner claimed s)
    (hrun : Events.run (runner.step claimed) s events = some s')
    (htimely : Events.Along (runner.step claimed) (RunEvent.Timely claimed) s events)
    (hordered : Events.Along (runner.step claimed) (RunEvent.BeatsInOrder runner claimed) s events) :
    AttemptEnded s'.db claimed ↔ Events.Along (runner.step claimed) (RunEvent.Fits claimed) s events := by
  induction events generalizing s with
  | nil =>
    cases hrun
    exact absurd hreturned (h.pending error)
  | cons event rest ih =>
    obtain ⟨mid, hstep, hrest⟩ := Events.run_cons hrun
    have hnext := hstep
    rw [h.step_eq] at hnext
    have hlater := fun hmid => ih hmid hrest (htimely.2 mid hstep) (hordered.2 mid hstep)
    rw [Events.along_cons hstep]
    by_cases hsettle : ∃ now, event = .settle now
    · obtain ⟨now, rfl⟩ := hsettle
      obtain ⟨hends, hrefuses⟩ := h.settle hvalid htimely.1 hnext
      by_cases hfits : (RunEvent.settle now).Fits claimed s
      · rcases hends hfits with hmid | ⟨hended, reason, hover⟩
        · rw [hlater hmid]
          exact ⟨fun hall => ⟨hfits, hall⟩, fun hall => hall.2⟩
        · obtain ⟨rfl, rfl⟩ := run_of_returned hover hrest
          exact iff_of_true hended ⟨hfits, trivial⟩
      · obtain ⟨hstranded, reason, hover⟩ := hrefuses hfits
        obtain ⟨rfl, rfl⟩ := run_of_returned hover hrest
        exact iff_of_false hstranded fun hall => hfits hall.1
    · have hmid := h.next hvalid htimely.1 hordered.1 (fun now heq => hsettle ⟨now, heq⟩) hnext
      have hfits : event.Fits claimed s := by
        cases event with
        | settle now => exact absurd ⟨now, rfl⟩ hsettle
        | _ => trivial
      rw [hlater hmid]
      exact ⟨fun hall => ⟨hfits, hall⟩, fun hall => hall.2⟩

end Runs

/-! ### The claim -/

variable {newID : ID} {claimed : ClaimedOperation} {db : OperationStore}

/-- A claim that succeeds hands a running operation to the attempt it opens. -/
theorem claimNextOperation_ok {db db' : OperationStore} (hdb : db.WellFormed) {params : ClaimOperationParams}
    {now : Time} (h : claimNextOperation db params newID now = (db', .ok claimed)) :
    db'.WellFormed ∧ validateLeaseDuration params.leaseDuration = .ok () ∧
      claimed.attempt.workerInstanceID = params.workerInstanceID ∧
      ∃ w, db'.view claimed.operation.id = some w ∧ w.Held claimed.attempt.id params.workerInstanceID ∧
        w.row = claimed.operation ∧ w.row.status = .running := by
  have hmoves := execute_moves hdb (.claim params newID now)
  have hwellFormed : db'.WellFormed := by
    have hcommit : ((OperationCall.claim params newID now).execute db).1 = db' := congrArg Prod.fst h
    rw [← hcommit]
    exact hmoves.advances.wellFormed hdb
  unfold claimNextOperation transact at h
  split at h
  · cases h
  next kinds hchecked =>
  simp only [checkClaim, bind_eq_ok_iff] at hchecked
  obtain ⟨_, -, _, -, _, hlease, -⟩ := hchecked
  split at h
  · cases h
  next htx =>
  subst h
  obtain ⟨db₁, hrecover, hadvances, -⟩ := recoverExpiredOperationsTx_moves hdb now
  have hdb₁ := hadvances.wellFormed hdb
  simp only [claimNextOperationTx, hrecover, ok_bind] at htx
  split at htx
  · cases htx
  next operationID hnext =>
  obtain ⟨row, hmem, hclaimable, rfl⟩ := nextClaimableID_some hnext
  obtain ⟨⟨hstatus, hbudget, -⟩, -⟩ := claimable_iff.mp hclaimable
  have hview := view_of_mem hdb₁.keyed hmem
  by_cases htaken : ∃ other ∈ db₁.attempts, other.id = newID
  · rw [claimOperationTx_taken hview hstatus hbudget htaken] at htx
    cases htx
  · have hfresh : ∀ other ∈ db₁.attempts, other.id ≠ newID :=
      fun other hother heq => htaken ⟨other, hother, heq⟩
    obtain ⟨db₂, event, hclaim, hreplaces⟩ := claimOperationTx_pending hdb₁.keyed hview
      (hdb₁.consistent _ _ hview) hstatus hbudget hfresh params.workerInstanceID
      (now.add params.leaseDuration) now
    rw [htx] at hclaim
    cases hclaim
    exact ⟨hwellFormed, hlease, rfl, _, hreplaces.self, ⟨rfl, rfl, rfl⟩, rfl, rfl⟩

theorem Runner.claim_of_begin {runner : Runner} {now : Time}
    {s : RunState} (hbegin : (runner.begin db newID now).2 = .ok (claimed, s)) :
    ∃ db', claimNextOperation db ⟨runner.workerInstanceID, runner.kinds, runner.leaseDuration⟩ newID now =
        (db', .ok claimed) ∧
      s = ⟨db', false, none, .beating, .handling (runner.handlerRun claimed)⟩ := by
  unfold Runner.begin at hbegin
  split at hbegin
  next db' reply hclaim =>
    cases reply with
    | error error => cases hbegin
    | ok claimed' =>
      cases hbegin
      exact ⟨db', hclaim, rfl⟩

theorem Runner.begin_working {runner : Runner} (hdb : db.WellFormed) {now : Time}
    {s : RunState} (hbegin : (runner.begin db newID now).2 = .ok (claimed, s))
    (hids : validateAttemptIdentity claimed.operation.id claimed.attempt.id runner.workerInstanceID = .ok ()) :
    runner.Valid claimed ∧ Working runner claimed s := by
  obtain ⟨db', hclaim, rfl⟩ := Runner.claim_of_begin hbegin
  obtain ⟨hdb', hlease, hworker, w, hview, hheld, -, -⟩ := claimNextOperation_ok hdb hclaim
  exact ⟨⟨hids, hlease, hworker⟩, ⟨w, hdb', hview, hheld⟩, rfl, fun _ => rfl, by simp, by simp⟩

namespace Sample

/-- A worker whose handler returns at once. -/
def runner (value : HandlerReturn) : Runner where
  workerInstanceID := workerID
  leaseDuration := 30 * second
  heartbeatInterval := 10 * second
  handlers := [("sample.job", fun _ => .done value)]
  kinds := ["sample.job"]

/-- A handler that fails. -/
def failing (retryable : Bool) : HandlerReturn := .error ⟨some ⟨"sample.failed", retryable⟩, false, false⟩

/-- The handler returns, the goroutine stops, and the attempt is settled. -/
def events (now : Time) : List RunEvent := [.handlerReturn, .stop, .conclude, .settle now]

/-- A test for runs without the calls of others and without heartbeats: the lease is alive. -/
def leaseTest (claimed : ClaimedOperation) (s : RunState) : RunEvent → Bool
  | .checkpoint now | .settle now =>
    (s.db.view claimed.operation.id).all fun v => v.row.leaseExpiresAt.any fun expires => decide (now < expires)
  | .handlerReturn | .stop | .conclude => true
  | _ => false

theorem timely_of_leaseTest (s : RunState) (event : RunEvent)
    (h : leaseTest claimed s event = true) : event.Timely claimed s := by
  cases event with
  | checkpoint now | settle now =>
    intro v hview
    rw [leaseTest, hview] at h
    exact h
  | handlerReturn | stop | conclude => trivial
  | _ => cases h

theorem inOrder_of_leaseTest (s : RunState) (event : RunEvent)
    (h : leaseTest claimed s event = true) : event.BeatsInOrder worker claimed s := by
  cases event with
  | tick now => cases h
  | _ => trivial

/-- Evaluates an attempt after a history: its claim, its run over the events, and a test of what they give. -/
def evaluated (worker : Runner) (calls : List OperationCall) (newID : ID) (now : Time) (events : List RunEvent)
    (test : ClaimedOperation → RunState → RunState → Bool) : Bool :=
  match (worker.begin (after calls) newID now).2 with
  | .error _ => false
  | .ok (claimed, s) =>
    (validateAttemptIdentity claimed.operation.id claimed.attempt.id worker.workerInstanceID).isOk &&
      Events.alongTest (worker.step claimed) (leaseTest claimed) s events &&
      (Events.run (worker.step claimed) s events).any fun s' =>
        (match s'.phase with
          | .returned _ => true
          | _ => false) && test claimed s s'

theorem of_evaluated {calls : List OperationCall} {now : Time} {events : List RunEvent}
    {test : ClaimedOperation → RunState → RunState → Bool} (h : evaluated worker calls newID now events test = true) :
    ∃ claimed s s' error, (worker.begin (after calls) newID now).2 = .ok (claimed, s) ∧
      validateAttemptIdentity claimed.operation.id claimed.attempt.id worker.workerInstanceID = .ok () ∧
      Events.Along (worker.step claimed) (fun s event => leaseTest claimed s event = true) s events ∧
      Events.run (worker.step claimed) s events = some s' ∧ s'.phase = .returned error ∧
      test claimed s s' = true := by
  unfold evaluated at h
  split at h
  · cases h
  next claimed s hbegin =>
  simp only [and_eq_true, Option.any_eq_true] at h
  obtain ⟨⟨hids, halong⟩, s', hrun, hreturned, htest⟩ := h
  obtain ⟨_, hvalid⟩ := Except.exists_of_isOk hids
  split at hreturned
  · next error hphase =>
    exact ⟨claimed, s, s', error, hbegin, hvalid, Events.along_of_test (fun _ _ h => h) halong, hrun, hphase, htest⟩
  · cases hreturned

/-- A test for the settlement of a failure that asks for another attempt. -/
def retryTest (claimed : ClaimedOperation) (s : RunState) : RunEvent → Bool
  | .settle _ =>
    match s.phase with
    | .settling (.fail failure) => (validateAction failure.code "errorCode" 80).isOk &&
        (s.db.findOperation claimed.operation.id).all fun operation =>
          decide (operation.status = .running ∧ operation.retryClass = .safe)
    | _ => false
  | _ => true

theorem fits_of_retryTest (s : RunState) (event : RunEvent)
    (h : retryTest claimed s event = true) : event.Fits claimed s := by
  cases event with
  | settle now =>
    intro settlement operation hphase hfound
    simp only [retryTest, hphase] at h
    cases settlement with
    | fail failure =>
      rw [hfound, and_eq_true] at h
      refine ⟨?_, fun _ => of_decide_eq_true h.2⟩
      exact Except.exists_of_isOk h.1
    | _ => cases h
  | _ => trivial

end Sample

open Sample

end Stackfort
