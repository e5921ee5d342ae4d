import Stackfort.OperationRuns

/-! Who writes which column. The heartbeat and the lease of an attempt are written when it is claimed
and when it beats; the progress of an operation is written when it is created, at a checkpoint and at
its completion; its request is written when it is created and never again. A transaction is a sequence
of statements, and each is taken apart once: what is stored afterwards was stored before, or is what the
call writes. By induction everything stored after a run is traced back to the calls of the run. -/

namespace Stackfort

open OperationStore List

/-- The columns of an attempt that its holder renews. -/
def OperationAttempt.leaseColumns (attempt : OperationAttempt) : ID × Time × Time :=
  (attempt.id, attempt.heartbeatAt, attempt.leaseExpiresAt)

/-- The progress of an operation, with its key. -/
def Operation.progressColumns (operation : Operation) : ID × Int := (operation.id, operation.progressPercent)

/-- The columns that only the creation of an operation writes. -/
structure OperationRequest where
  id : ID
  (accountID actorID : Option ID)
  kind : String
  retryClass : RetryClass
  requestID : String
  idempotencyKey : Option String
  payload : JsonObject
  createdAt : Time
  maxAttempts : Nat

def Operation.request (operation : Operation) : OperationRequest where
  id := operation.id
  accountID := operation.accountID
  actorID := operation.actorID
  kind := operation.kind
  retryClass := operation.retryClass
  requestID := operation.requestID
  idempotencyKey := operation.idempotencyKey
  payload := operation.payload
  createdAt := operation.createdAt
  maxAttempts := operation.maxAttempts

/-- Requests that do not share a key in one scope. -/
def OperationRequest.Distinct (left right : OperationRequest) : Prop :=
  left.idempotencyKey ≠ none → left.accountID = right.accountID → left.idempotencyKey ≠ right.idempotencyKey

namespace OperationStore

def leaseColumns (db : OperationStore) : List (ID × Time × Time) :=
  db.attempts.map OperationAttempt.leaseColumns

def progressColumns (db : OperationStore) : List (ID × Int) := db.operations.map Operation.progressColumns

def requests (db : OperationStore) : List OperationRequest := db.operations.map Operation.request

/-- What is stored after some statements was stored before, or is among the values they write. Requests stay
in place, and no two of them get to share a key. -/
structure Traced (leases : ID × Time × Time → Prop) (progress : ID × Int → Prop)
    (created : OperationRequest → Prop) (db db' : OperationStore) : Prop where
  lease : ∀ columns ∈ db'.leaseColumns, columns ∈ db.leaseColumns ∨ leases columns
  progress : ∀ columns ∈ db'.progressColumns, columns ∈ db.progressColumns ∨ progress columns
  requests : ∃ added, db'.requests = db.requests ++ added ∧ ∀ request ∈ added, created request
  distinct : db.requests.Pairwise OperationRequest.Distinct → db'.requests.Pairwise OperationRequest.Distinct

variable {leases : ID × Time × Time → Prop} {progress : ID × Int → Prop} {created : OperationRequest → Prop}
  {db db' db'' : OperationStore} {p : OperationAttempt → Bool} {requestID : String} {now : Time}

/-- Statements that keep the requests as they are. -/
theorem Traced.of_requests (lease : ∀ columns ∈ db'.leaseColumns, columns ∈ db.leaseColumns ∨ leases columns)
    (progress' : ∀ columns ∈ db'.progressColumns, columns ∈ db.progressColumns ∨ progress columns)
    (hrequests : db'.requests = db.requests) : Traced leases progress created db db' := by
  refine ⟨lease, progress', ⟨[], by rw [hrequests, append_nil], nofun⟩, ?_⟩
  rw [hrequests]
  exact id

theorem Traced.refl : Traced leases progress created db db :=
  .of_requests (fun _ hmem => .inl hmem) (fun _ hmem => .inl hmem) rfl

theorem Traced.trans (h : Traced leases progress created db db') (h' : Traced leases progress created db' db'') :
    Traced leases progress created db db'' := by
  refine ⟨fun columns hmem => ?_, fun columns hmem => ?_, ?_, fun hdistinct => h'.distinct (h.distinct hdistinct)⟩
  · rcases h'.lease columns hmem with hold | hnew
    · exact h.lease columns hold
    · exact .inr hnew
  · rcases h'.progress columns hmem with hold | hnew
    · exact h.progress columns hold
    · exact .inr hnew
  · obtain ⟨added, hadded, hcreated⟩ := h.requests
    obtain ⟨added', hadded', hcreated'⟩ := h'.requests
    exact ⟨added ++ added', by rw [hadded', hadded, append_assoc], forall_mem_append.mpr ⟨hcreated, hcreated'⟩⟩

/-- Statements that write nothing of interest leave the columns as they are. -/
theorem Traced.of_eq (hattempts : db'.attempts = db.attempts) (hoperations : db'.operations = db.operations) :
    Traced leases progress created db db' := by
  refine .of_requests (fun columns hmem => .inl ?_) (fun columns hmem => .inl ?_) ?_
  · rwa [leaseColumns, hattempts] at hmem
  · rwa [progressColumns, hoperations] at hmem
  · rw [OperationStore.requests, OperationStore.requests, hoperations]

theorem mem_map_updateWhere {ρ κ : Type} {key : ρ → κ} {p : ρ → Bool} {f : ρ → ρ} {written : κ → Prop}
    (hwrites : ∀ row, p row = true → key (f row) = key row ∨ written (key (f row))) {rows : List ρ} {c : κ}
    (hmem : c ∈ (updateWhere p f rows).map key) : c ∈ rows.map key ∨ written c := by
  obtain ⟨row, hrow, rfl⟩ := mem_map.mp hmem
  obtain ⟨old, hold, rfl⟩ := mem_map.mp hrow
  by_cases hsel : p old = true
  · rw [if_pos hsel]
    rcases hwrites old hsel with hsame | hnew
    · exact .inl (mem_map.mpr ⟨old, hold, hsame.symm⟩)
    · exact .inr hnew
  · rw [if_neg hsel]
    exact .inl (mem_map_of_mem hold)

/-! ### Statements -/

theorem traced_updateOperations {p : Operation → Bool} {f : Operation → Operation} {affected : Nat}
    (h : db.updateOperations p f = .ok (db', affected)) (hrequest : ∀ row, (f row).request = row.request)
    (hwrites : ∀ row, p row = true →
      (f row).progressColumns = row.progressColumns ∨ progress (f row).progressColumns) :
    Traced leases progress created db db' := by
  unfold updateOperations at h
  split at h
  · cases h
  · cases h
    exact .of_requests (fun _ hmem => .inl hmem) (fun _ hmem => mem_map_updateWhere hwrites hmem)
      (keys_updateWhere hrequest db.operations)

theorem traced_updateAttempts {f : OperationAttempt → OperationAttempt} (h : db.updateAttempts p f = .ok db')
    (hwrites : ∀ row, p row = true → (f row).leaseColumns = row.leaseColumns ∨ leases (f row).leaseColumns) :
    Traced leases progress created db db' := by
  unfold updateAttempts at h
  split at h
  · cases h
  · cases h
    exact .of_requests (fun _ hmem => mem_map_updateWhere hwrites hmem) (fun _ hmem => .inl hmem) rfl

theorem traced_setOutcome {outcome : OperationAttemptOutcome} {errorCode : Option String}
    (h : db.updateAttempts p (setOutcome outcome errorCode now) = .ok db') :
    Traced leases progress created db db' :=
  traced_updateAttempts h fun _ _ => .inl rfl

theorem Traced.event {event : AppendOperationEventParams} (h : Traced leases progress created db db')
    (hevent : db'.appendOperationEventTx event now = .ok db'') : Traced leases progress created db db'' := by
  refine h.trans ?_
  unfold appendOperationEventTx at hevent
  split at hevent
  · cases hevent
  · split at hevent <;> cases hevent
    exact .of_eq rfl rfl

theorem Traced.audit {event : AuditEvent} (h : Traced leases progress created db db') :
    Traced leases progress created db (db'.appendAudit event) :=
  h.trans (.of_eq rfl rfl)

theorem traced_insertOperation {row : Operation} (h : db.insertOperation row = .ok db')
    (hwrites : progress row.progressColumns) (hcreated : created row.request) :
    Traced leases progress created db db' := by
  unfold insertOperation at h
  split at h
  · cases h
  split at h
  · cases h
  next hkey =>
  cases h
  have hrequests : (db.addOperation row).requests = db.requests ++ [row.request] := map_append
  refine ⟨fun _ hmem => .inl hmem, fun columns hmem => ?_, ⟨[row.request], hrequests, ?_⟩, fun hdistinct => ?_⟩
  · rw [progressColumns, addOperation, map_append, mem_append] at hmem
    rcases hmem with hold | hnew
    · exact .inl hold
    · rw [mem_singleton.mp hnew]
      exact .inr hwrites
  · intro request hmem
    rwa [mem_singleton.mp hmem]
  · rw [hrequests, pairwise_append]
    refine ⟨hdistinct, pairwise_singleton _ _, fun left hleft right hright => ?_⟩
    rw [mem_singleton.mp hright]
    obtain ⟨other, hother, rfl⟩ := mem_map.mp hleft
    intro hsome haccount heq
    simp only [any_eq_true, decide_eq_true_eq, not_exists, not_and] at hkey
    refine hkey other hother ?_ haccount heq
    intro hnone
    exact hsome (heq.trans hnone)

theorem traced_insertAttempt {row : OperationAttempt} (h : db.insertAttempt row = .ok db')
    (hwrites : leases row.leaseColumns) : Traced leases progress created db db' := by
  unfold insertAttempt at h
  split at h
  · cases h
  split at h
  · cases h
  split at h <;> cases h
  refine .of_requests (fun columns hmem => ?_) (fun _ hmem => .inl hmem) rfl
  rw [leaseColumns, addAttempt, map_append, mem_append] at hmem
  rcases hmem with hold | hnew
  · exact .inl hold
  · rw [mem_singleton.mp hnew]
    exact .inr hwrites

/-! ### Transactions -/

section Transactions

variable {now leaseExpiresAt : Time}

variable {reply : Except CoreError Operation}

theorem traced_createOperationTx {operation : Operation} (h : createOperationTx db operation now = .ok (db', reply))
    (hwrites : progress operation.progressColumns) (hcreated : created operation.request) :
    Traced leases progress created db db' := by
  unfold createOperationTx at h
  split at h
  · split at h <;> cases h
    exact .refl
  · simp only [insertNewOperationTx, bind_eq_ok_iff] at h
    obtain ⟨db₁, hinsert, db₂, hevent, h⟩ := h
    cases h
    exact ((traced_insertOperation hinsert hwrites hcreated).event hevent).audit

theorem traced_recoverExpiredOperationTx {operationID : ID}
    (h : recoverExpiredOperationTx now db operationID = .ok db') : Traced leases progress created db db' := by
  simp only [recoverExpiredOperationTx, bind_eq_ok_iff] at h
  obtain ⟨operation, -, h⟩ := h
  split at h
  · cases h
  split at h
  · simp only [bind_eq_ok_iff] at h
    obtain ⟨db₁, hattempts, ⟨db₂, _⟩, hupdate, db₃, hevent, h⟩ := h
    cases h
    exact (traced_setOutcome hattempts).trans
      ((traced_updateOperations hupdate (fun _ => rfl) fun _ _ => .inl rfl).event hevent).audit
  · simp only [bind_eq_ok_iff] at h
    obtain ⟨db₁, hattempts, db₂, hexpired, h⟩ := h
    refine ((traced_setOutcome hattempts).event hexpired).trans ?_
    split at h
    · simp only [bind_eq_ok_iff] at h
      obtain ⟨⟨db₃, _⟩, hupdate, hevent⟩ := h
      exact (traced_updateOperations hupdate (fun _ => rfl) fun _ _ => .inl rfl).event hevent
    · simp only [bind_eq_ok_iff] at h
      obtain ⟨⟨db₃, _⟩, hupdate, db₄, hevent, h⟩ := h
      cases h
      exact ((traced_updateOperations hupdate (fun _ => rfl) fun _ _ => .inl rfl).event hevent).audit

theorem traced_recoverExpiredOperationsTx {count : Nat}
    (h : recoverExpiredOperationsTx now db = .ok (db', count)) : Traced leases progress created db db' := by
  simp only [recoverExpiredOperationsTx, bind_eq_ok_iff] at h
  obtain ⟨last, hloop, h⟩ := h
  cases h
  generalize expiredOperationIDs now db = operationIDs at hloop
  induction operationIDs generalizing db with
  | nil =>
    cases hloop
    exact .refl
  | cons operationID rest ih =>
    rw [List.foldlM_cons, bind_eq_ok_iff] at hloop
    obtain ⟨db₁, hfirst, hrest⟩ := hloop
    exact (traced_recoverExpiredOperationTx hfirst).trans (ih hrest)

theorem traced_claimNextOperationTx {workerInstanceID newID : ID} {kinds : List String}
    {reply : Except CoreError ClaimedOperation}
    (h : claimNextOperationTx db workerInstanceID kinds newID leaseExpiresAt now = .ok (db', reply))
    (hwrites : leases (newID, now, leaseExpiresAt)) : Traced leases progress created db db' := by
  simp only [claimNextOperationTx, bind_eq_ok_iff] at h
  obtain ⟨⟨db₁, count⟩, hrecover, h⟩ := h
  refine (traced_recoverExpiredOperationsTx hrecover).trans ?_
  split at h
  · cases h
    exact .refl
  · simp only [claimOperationTx, bind_eq_ok_iff] at h
    obtain ⟨operation, -, db₂, hinsert, ⟨db₃, _⟩, hupdate, _, -, db₄, hevent, _, -, h⟩ := h
    cases h
    exact ((traced_insertAttempt hinsert hwrites).trans
      (traced_updateOperations hupdate (fun _ => rfl) fun _ _ => .inl rfl)).event hevent

theorem traced_heartbeatOperationTx {params : HeartbeatOperationParams}
    (h : heartbeatOperationTx db params leaseExpiresAt now = .ok (db', reply))
    (hwrites : leases (params.attemptID, now, leaseExpiresAt)) : Traced leases progress created db db' := by
  simp only [heartbeatOperationTx, bind_eq_ok_iff] at h
  obtain ⟨operation, -, _, -, db₁, hbeat, ⟨db₂, _⟩, hupdate, _, -, h⟩ := h
  cases h
  refine (traced_updateAttempts hbeat fun row hrow => .inr ?_).trans
    (traced_updateOperations hupdate (fun _ => rfl) fun _ _ => .inl rfl)
  have hid : row.id = params.attemptID := (of_decide_eq_true hrow).1
  rw [← hid] at hwrites
  exact hwrites

theorem traced_checkpointOperationTx {params : CheckpointOperationParams} {stage messageCode : String}
    (h : checkpointOperationTx db params stage messageCode now = .ok (db', reply))
    (hwrites : progress (params.operationID, params.progressPercent)) : Traced leases progress created db db' := by
  simp only [checkpointOperationTx, bind_eq_ok_iff] at h
  obtain ⟨operation, -, _, -, h⟩ := h
  split at h
  · cases h
    exact .refl
  split at h
  · cases h
  simp only [bind_eq_ok_iff] at h
  obtain ⟨⟨db₁, _⟩, hupdate, _, -, db₂, hevent, h⟩ := h
  cases h
  refine (traced_updateOperations hupdate (fun _ => rfl) fun row hrow => .inr ?_).event hevent
  rw [← heldBy_id row hrow] at hwrites
  exact hwrites

theorem traced_completeOperationTx {params : CompleteOperationParams}
    (h : completeOperationTx db params now = .ok (db', reply)) (hwrites : progress (params.operationID, 100)) :
    Traced leases progress created db db' := by
  simp only [completeOperationTx, bind_eq_ok_iff] at h
  obtain ⟨operation, -, _, -, h⟩ := h
  split at h
  · cases h
    exact .refl
  simp only [bind_eq_ok_iff] at h
  obtain ⟨db₁, hattempts, ⟨db₂, _⟩, hupdate, _, -, db₃, hevent, h⟩ := h
  cases h
  refine (traced_setOutcome hattempts).trans
    ((traced_updateOperations hupdate (fun _ => rfl) fun row hrow => .inr ?_).event hevent).audit
  rw [← heldBy_id row hrow] at hwrites
  exact hwrites

theorem traced_failOperationTx {params : FailOperationParams} {errorCode : String}
    (h : failOperationTx db params errorCode now = .ok (db', reply)) :
    Traced leases progress created db db' := by
  simp only [failOperationTx, bind_eq_ok_iff] at h
  obtain ⟨operation, -, _, -, h⟩ := h
  split at h
  · cases h
  simp only [bind_eq_ok_iff] at h
  obtain ⟨db₁, hattempts, h⟩ := h
  refine (traced_setOutcome hattempts).trans ?_
  split at h
  · simp only [scheduleRetryTx, bind_eq_ok_iff] at h
    obtain ⟨⟨db₂, _⟩, hupdate, _, -, db₃, hevent, h⟩ := h
    cases h
    exact (traced_updateOperations hupdate (fun _ => rfl) fun _ _ => .inl rfl).event hevent
  · simp only [recordFailureTx, bind_eq_ok_iff] at h
    obtain ⟨⟨db₂, _⟩, hupdate, _, -, db₃, hevent, h⟩ := h
    cases h
    exact ((traced_updateOperations hupdate (fun _ => rfl) fun _ _ => .inl rfl).event hevent).audit

theorem traced_requestOperationCancellationTx {params : RequestOperationCancellationParams}
    (h : requestOperationCancellationTx db params requestID now = .ok (db', reply)) :
    Traced leases progress created db db' := by
  simp only [requestOperationCancellationTx, bind_eq_ok_iff] at h
  obtain ⟨operation, -, h⟩ := h
  split at h
  · cases h
    exact .refl
  · cases h
    exact .refl
  · cases h
  · cases h
  · simp only [bind_eq_ok_iff] at h
    obtain ⟨⟨db₁, _⟩, hupdate, _, -, db₂, hrequested, db₃, hcancelled, h⟩ := h
    cases h
    exact (((traced_updateOperations hupdate (fun _ => rfl) fun _ _ => .inl rfl).event hrequested).event hcancelled).audit
  · simp only [bind_eq_ok_iff] at h
    obtain ⟨⟨db₁, _⟩, hupdate, _, -, db₂, hrequested, h⟩ := h
    cases h
    exact ((traced_updateOperations hupdate (fun _ => rfl) fun _ _ => .inl rfl).event hrequested).audit

theorem traced_acknowledgeOperationCancellationTx {params : AcknowledgeOperationCancellationParams}
    (h : acknowledgeOperationCancellationTx db params now = .ok (db', reply)) :
    Traced leases progress created db db' := by
  simp only [acknowledgeOperationCancellationTx, bind_eq_ok_iff] at h
  obtain ⟨operation, -, _, -, h⟩ := h
  split at h
  · cases h
  · simp only [bind_eq_ok_iff] at h
    obtain ⟨db₁, hattempts, ⟨db₂, _⟩, hupdate, _, -, db₃, hevent, h⟩ := h
    cases h
    exact (traced_setOutcome hattempts).trans
      ((traced_updateOperations hupdate (fun _ => rfl) fun _ _ => .inl rfl).event hevent).audit

theorem traced_retryOperationTx {params : RetryOperationParams}
    (h : retryOperationTx db params requestID now = .ok (db', reply)) : Traced leases progress created db db' := by
  simp only [retryOperationTx, bind_eq_ok_iff] at h
  obtain ⟨operation, -, h⟩ := h
  split at h
  · cases h
  split at h
  · cases h
  split at h
  · cases h
  · simp only [bind_eq_ok_iff] at h
    obtain ⟨⟨db₁, _⟩, hupdate, _, -, db₂, hevent, h⟩ := h
    cases h
    exact ((traced_updateOperations hupdate (fun _ => rfl) fun _ _ => .inl rfl).event hevent).audit

end Transactions

end OperationStore

/-! ### Calls -/

/-- The clock reading of a call. -/
def OperationCall.now : OperationCall → Time
  | .create _ _ now | .claim _ _ now | .heartbeat _ now | .checkpoint _ now | .complete _ now
  | .fail _ now | .requestCancellation _ now | .acknowledgeCancellation _ now | .retry _ now
  | .recoverExpired now => now

/-- The lease duration a call asks for an attempt. -/
def OperationCall.leaseFor (attemptID : ID) : OperationCall → Option Duration
  | .claim params newID _ => if newID = attemptID then some params.leaseDuration else none
  | .heartbeat params _ => if params.attemptID = attemptID then some params.leaseDuration else none
  | _ => none

/-- The progress a call may write for an operation. -/
def OperationCall.progressFor (operationID : ID) : OperationCall → Option Int
  | .create _ newID _ => if newID = operationID then some 0 else none
  | .checkpoint params _ => if params.operationID = operationID then some params.progressPercent else none
  | .complete params _ => if params.operationID = operationID then some 100 else none
  | _ => none

/-- The request a call may add. -/
def OperationCall.Creates : OperationCall → OperationRequest → Prop
  | .create params newID now, request =>
    ∃ operation, prepareOperation params newID now = .ok operation ∧ operation.request = request
  | _, _ => False

/-- What a call may leave in the columns: what was there, or what it writes itself. -/
abbrev OperationCall.Traces (call : OperationCall) (db db' : OperationStore) : Prop :=
  Traced (fun columns => ∃ lease, call.leaseFor columns.1 = some lease ∧
      columns.2 = (call.now, call.now.add lease))
    (fun columns => call.progressFor columns.1 = some columns.2) call.Creates db db'

theorem prepareOperation_progress {params : CreateOperationParams} {newID : ID} {now : Time}
    {operation : Operation} (h : prepareOperation params newID now = .ok operation) :
    operation.progressColumns = (newID, 0) := by
  simp only [prepareOperation, bind_eq_ok_iff] at h
  obtain ⟨_, -, _, -, _, -, _, -, _, -, _, -, _, -, hrow⟩ := h
  cases hrow
  rfl

theorem execute_traces (db : OperationStore) (call : OperationCall) : call.Traces db (call.execute db).1 := by
  have hsame : call.Traces db db := .refl
  cases call with
  | create params newID now =>
    refine transact_keeps hsame fun operation db' reply hprepared h =>
      traced_createOperationTx h ?_ ⟨operation, hprepared, rfl⟩
    rw [prepareOperation_progress hprepared]
    exact if_pos rfl
  | claim params newID now =>
    exact transact_keeps hsame fun kinds db' reply _ h =>
      traced_claimNextOperationTx h ⟨params.leaseDuration, if_pos rfl, rfl⟩
  | heartbeat params now =>
    exact transact_keeps hsame fun _ db' reply _ h =>
      traced_heartbeatOperationTx h ⟨params.leaseDuration, if_pos rfl, rfl⟩
  | checkpoint params now =>
    exact transact_keeps hsame fun _ _ _ _ h => traced_checkpointOperationTx h (if_pos rfl)
  | complete params now =>
    exact transact_keeps hsame fun _ _ _ _ h => traced_completeOperationTx h (if_pos rfl)
  | fail params now => exact transact_keeps hsame fun _ _ _ _ h => traced_failOperationTx h
  | requestCancellation params now =>
    exact transact_keeps hsame fun _ _ _ _ h => traced_requestOperationCancellationTx h
  | acknowledgeCancellation params now =>
    exact transact_keeps hsame fun _ _ _ _ h => traced_acknowledgeOperationCancellationTx h
  | retry params now => exact transact_keeps hsame fun _ _ _ _ h => traced_retryOperationTx h
  | recoverExpired now =>
    show (OperationCall.recoverExpired now).Traces db (recoverExpiredOperations db now).1
    refine transact_keeps hsame fun _ db' reply _ h => ?_
    obtain ⟨⟨db₁, count⟩, hrecover, h⟩ := bind_eq_ok_iff.mp h
    cases h
    exact traced_recoverExpiredOperationsTx hrecover

/-- Every lease in a run was written by one of its calls. -/
theorem leaseColumns_of_run {calls : List OperationCall} {columns : ID × Time × Time}
    (hmem : columns ∈ (after calls).leaseColumns) :
    ∃ call ∈ calls, ∃ lease,
      call.leaseFor columns.1 = some lease ∧ columns.2 = (call.now, call.now.add lease) := by
  induction calls using List.reverseRecOn with
  | nil => cases hmem
  | append_singleton calls call ih =>
    rw [after_append] at hmem
    rcases (execute_traces (after calls) call).lease columns hmem with hold | ⟨lease, hwrote⟩
    · obtain ⟨earlier, hearlier, hwrote⟩ := ih hold
      exact ⟨earlier, mem_append_left _ hearlier, hwrote⟩
    · exact ⟨call, mem_append_right _ (mem_singleton_self call), lease, hwrote⟩

end Stackfort
