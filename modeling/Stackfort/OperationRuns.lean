import Stackfort.KeyedViews
import Stackfort.OperationQueue

/-! Runs of the operation store. A call advances every operation along the machine: views take steps,
and an operation that was not there starts fresh. With the exception of heartbeats, no call is
aborted by a trigger on a well-formed store, so the guards written in Go and the triggers written in
SQL describe one machine. By induction every store reached from an empty one is well formed. -/

namespace Stackfort

open OperationView OperationStore

namespace OperationStore

variable {db db' db'' : OperationStore} {touches : OperationView → Prop} {v w : OperationView} {operationID : ID}

/-- Every operation moves along the machine, and new ones start fresh. -/
structure Advances (db db' : OperationStore) : Prop where
  keyed : db'.Keyed
  steps : ∀ k v, db.view k = some v → ∃ w, db'.view k = some w ∧ Steps v w
  fresh : ∀ k w, db.view k = none → db'.view k = some w → ∃ v, Fresh v ∧ Steps v w

theorem advances_iff : db.Advances db' ↔ db'.Keyed ∧ Views.Advances view OperationStep Fresh db db' :=
  ⟨fun h => ⟨h.keyed, h.steps, h.fresh⟩, fun h => ⟨h.1, h.2.steps, h.2.fresh⟩⟩

theorem Advances.refl (hkeyed : db.Keyed) : db.Advances db :=
  advances_iff.mpr ⟨hkeyed, .of_eq fun _ => rfl⟩

theorem Advances.trans (h : db.Advances db') (h' : db'.Advances db'') : db.Advances db'' :=
  advances_iff.mpr ⟨h'.keyed, (advances_iff.mp h).2.trans (advances_iff.mp h').2⟩

theorem Advances.wellFormed (hdb : db.WellFormed) (h : db.Advances db') : db'.WellFormed :=
  ⟨h.keyed, (advances_iff.mp h).2.invariant (fun _ hfresh => hfresh.consistent) (fun _ _ hv => hv.step) hdb.consistent⟩

theorem Replaces.advances (hkeyed : db.Keyed)
    (hview : db.view operationID = some v) (hstep : OperationStep v w)
    (h : db.Replaces db' operationID w) : db.Advances db' :=
  advances_iff.mpr ⟨h.keyed hkeyed, .of_step hview h.self h.other hstep⟩

/-- The store advances, and only in operations it is touched in. -/
structure Moves (db db' : OperationStore) (touches : OperationView → Prop) : Prop where
  advances : db.Advances db'
  untouched : ∀ k v, db.view k = some v → ¬touches v → db'.view k = some v

theorem Moves.refl (hkeyed : db.Keyed) : db.Moves db touches :=
  ⟨.refl hkeyed, fun _ _ hview _ => hview⟩

theorem Replaces.moves
    (hkeyed : db.Keyed) (hview : db.view operationID = some v) (htouches : touches v)
    (hstep : OperationStep v w) (h : db.Replaces db' operationID w) : db.Moves db' touches := by
  refine ⟨h.advances hkeyed hview hstep, fun k u hk hnot => ?_⟩
  have hne : k ≠ operationID := by
    rintro rfl
    rw [hview] at hk
    cases hk
    exact hnot htouches
  rw [h.other k hne, hk]

/-- A transaction that no trigger aborts and that advances the store when it commits, in the
operations it may touch. -/
structure TxSound {α : Type} (db : OperationStore) (touches : OperationView → Prop)
    (tx : Except TxError (Committed α)) : Prop where
  noAbort : ∀ trigger, tx ≠ .error (.trigger trigger)
  moves : ∀ db' reply, tx = .ok (db', reply) → db.Moves db' touches

section TxSound

variable {α : Type} {touches : OperationView → Prop} {tx : Except TxError (Committed α)}

theorem TxSound.of_error {error : TxError} (h : tx = .error error)
    (hne : ∀ trigger, error ≠ .trigger trigger) : db.TxSound touches tx := by
  subst h
  exact ⟨fun trigger htrigger => hne trigger (Except.error.inj htrigger), fun _ _ hok => by cases hok⟩

theorem TxSound.of_ok {reply : Except CoreError α} (h : tx = .ok (db', reply))
    (hmoves : db.Moves db' touches) : db.TxSound touches tx := by
  subst h
  refine ⟨fun trigger habort => ?_, fun db'' reply' hok => ?_⟩
  · cases habort
  · cases hok
    exact hmoves

end TxSound

end OperationStore

/-- The view is that of an operation a worker holds with an attempt. -/
def HeldFor (operationID attemptID workerInstanceID : ID) (v : OperationView) : Prop :=
  v.row.id = operationID ∧ v.Held attemptID workerInstanceID

theorem OperationStore.HeldAt.moves {db db' : OperationStore} {operationID attemptID workerInstanceID : ID} {now : Time}
    {v w : OperationView} (h : db.HeldAt operationID attemptID workerInstanceID now v)
    (hreplaces : db.Replaces db' operationID w) (hstep : OperationStep v w) :
    db.Moves db' (HeldFor operationID attemptID workerInstanceID) :=
  hreplaces.moves h.wellFormed.keyed h.view ⟨row_id_of_view h.view, h.held⟩ hstep

section Transactions

variable {db : OperationStore} (hdb : db.WellFormed) (now : Time)

include hdb

theorem createOperationTx_sound {params : CreateOperationParams} {newID : ID} {operation : Operation}
    (hprepared : prepareOperation params newID now = .ok operation) :
    db.TxSound (fun _ => False) (createOperationTx db operation now) := by
  rcases createOperationTx_cases hdb.keyed hprepared with
    ⟨existing, h⟩ | ⟨error, h, hne⟩ | ⟨db', w, h, -, hfresh, hnone, hreplaces⟩
  · exact .of_ok h (.refl hdb.keyed)
  · exact .of_error h hne
  · have hkept : ∀ k v, db.view k = some v → db'.view k = some v := by
      intro k v hview
      have hne : k ≠ newID := by
        rintro rfl
        rw [hnone] at hview
        cases hview
      rw [hreplaces.other k hne, hview]
    exact .of_ok h ⟨advances_iff.mpr ⟨hreplaces.keyed hdb.keyed, .of_fresh hnone hreplaces.self hreplaces.other hfresh⟩,
      fun k v hview _ => hkept k v hview⟩

theorem recoverExpiredOperationsTx_moves :
    ∃ db', recoverExpiredOperationsTx now db = .ok (db', (expiredOperationIDs now db).length) ∧
      db.Moves db' fun v => leaseExpired now v.row = true := by
  obtain ⟨db', h, hkeyed, hnone, hsome⟩ := recoverExpiredOperationsTx_ok hdb now
  refine ⟨db', h, ⟨hkeyed, fun k v hview => ?_, fun k w hold hnew => ?_⟩, fun k v hview hlive => ?_⟩
  · obtain ⟨w, hviewed, hcases⟩ := hsome k v hview
    refine ⟨w, hviewed, ?_⟩
    split at hcases
    · exact .single hcases.step
    · rw [hcases]
  · rw [hnone k hold] at hnew
    cases hnew
  · obtain ⟨w, hviewed, hcases⟩ := hsome k v hview
    rw [if_neg hlive] at hcases
    rw [hviewed, hcases]

theorem claimNextOperationTx_sound (workerInstanceID : ID) (kinds : List String) (newID : ID)
    (leaseExpiresAt : Time) :
    db.TxSound (fun v => leaseExpired now v.row = true ∨ v.row.status = .pending)
      (claimNextOperationTx db workerInstanceID kinds newID leaseExpiresAt now) := by
  obtain ⟨db₁, hrecover, hadvances, huntouched⟩ := recoverExpiredOperationsTx_moves hdb now
  have hdb₁ := hadvances.wellFormed hdb
  simp only [claimNextOperationTx, hrecover, ok_bind]
  cases hnext : nextClaimableID kinds now db₁ with
  | none => exact .of_ok rfl ⟨hadvances, fun k v hview hnot => huntouched k v hview (not_or.mp hnot).1⟩
  | some operationID =>
    obtain ⟨row, hmem, hclaimable, rfl⟩ := nextClaimableID_some hnext
    obtain ⟨⟨hstatus, hbudget, -⟩, -⟩ := claimable_iff.mp hclaimable
    have hview := view_of_mem hdb₁.keyed hmem
    by_cases htaken : ∃ other ∈ db₁.attempts, other.id = newID
    · exact .of_error (claimOperationTx_taken hview hstatus hbudget htaken workerInstanceID leaseExpiresAt now)
        (by simp)
    · have hfresh : ∀ other ∈ db₁.attempts, other.id ≠ newID :=
        fun other hother heq => htaken ⟨other, hother, heq⟩
      have hown : ∀ other ∈ db₁.attemptsOf row.id, other.id ≠ newID :=
        fun other hother => hfresh other (mem_owned.mp hother).1
      obtain ⟨db₂, event, hclaim, hreplaces⟩ := claimOperationTx_pending hdb₁.keyed hview
        (hdb₁.consistent _ _ hview) hstatus hbudget hfresh workerInstanceID leaseExpiresAt now
      refine .of_ok hclaim ⟨hadvances.trans (hreplaces.advances hdb₁.keyed hview (.claim _ event now hstatus
        (openedAttempt_opens hbudget hown workerInstanceID leaseExpiresAt now))), fun k v hk hnot => ?_⟩
      have hkept := huntouched k v hk (not_or.mp hnot).1
      have hne : k ≠ row.id := by
        rintro rfl
        rw [hview] at hkept
        cases hkept
        exact hnot (.inr hstatus)
      rw [hreplaces.other k hne, hkept]

theorem checkpointOperationTx_sound (params : CheckpointOperationParams) (hbound : params.progressPercent ≤ 99)
    (stage messageCode : String) :
    db.TxSound (HeldFor params.operationID params.attemptID params.workerInstanceID)
      (checkpointOperationTx db params stage messageCode now) := by
  rcases heldTx_cases hdb (rfl : checkpointOperationTx db params stage messageCode now = _) with ⟨error, h, hne⟩ | ⟨v, hv⟩
  · exact .of_error h hne
  · rcases isActive_iff.mp hv.held.active with hstatus | hstatus
    · by_cases hgrows : v.row.progressPercent ≤ params.progressPercent
      · obtain ⟨db', event, h, hreplaces⟩ := checkpointOperationTx_running hv hstatus hgrows stage messageCode
        exact .of_ok h (hv.moves hreplaces (.checkpoint stage _ event now hstatus hgrows hbound))
      · exact .of_error (checkpointOperationTx_decreasing hv hstatus (by omega) stage messageCode) (by simp)
    · exact .of_ok (checkpointOperationTx_cancelling hv hstatus stage messageCode) (.refl hdb.keyed)

theorem completeOperationTx_sound (params : CompleteOperationParams) :
    db.TxSound (HeldFor params.operationID params.attemptID params.workerInstanceID)
      (completeOperationTx db params now) := by
  rcases heldTx_cases hdb (rfl : completeOperationTx db params now = _) with ⟨error, h, hne⟩ | ⟨v, hv⟩
  · exact .of_error h hne
  · rcases isActive_iff.mp hv.held.active with hstatus | hstatus
    · obtain ⟨db', event, h, hreplaces⟩ := completeOperationTx_running params hv hstatus
      exact .of_ok h (hv.moves hreplaces (.complete _ _ params.result event now hv.held hstatus))
    · exact .of_ok (completeOperationTx_cancelling hv hstatus) (.refl hdb.keyed)

theorem failOperationTx_sound (params : FailOperationParams) (errorCode : String) :
    db.TxSound (HeldFor params.operationID params.attemptID params.workerInstanceID)
      (failOperationTx db params errorCode now) := by
  rcases heldTx_cases hdb (rfl : failOperationTx db params errorCode now = _) with ⟨error, h, hne⟩ | ⟨v, hv⟩
  · exact .of_error h hne
  · by_cases hrefused : params.retry = true ∧ (v.row.status ≠ .running ∨ v.row.retryClass ≠ .safe)
    · exact .of_error (failOperationTx_refused params hv hrefused.1 hrefused.2 errorCode) (by simp)
    · by_cases hagain : params.retry = true ∧ v.row.attemptCount < v.row.maxAttempts
      · obtain ⟨hstatus, hclass⟩ : v.row.status = .running ∧ v.row.retryClass = .safe := by
          simpa [hagain.1] using hrefused
        obtain ⟨db', event, h, hreplaces⟩ := failOperationTx_retry params hv hagain.1 hstatus hclass hagain.2 errorCode
        exact .of_ok h (hv.moves hreplaces (.scheduleRetry _ _ errorCode _ event now hv.held hstatus hclass hagain.2))
      · have hfinal : params.retry = false ∨ v.row.status = .running ∧ v.row.retryClass = .safe ∧
            v.row.maxAttempts ≤ v.row.attemptCount := by
          cases hretry : params.retry with
          | false => exact .inl rfl
          | true => exact .inr (by simpa [hretry, and_assoc] using And.intro hrefused hagain)
        obtain ⟨db', event, h, hreplaces⟩ := failOperationTx_final params hv hfinal errorCode
        exact .of_ok h (hv.moves hreplaces (.fail _ _ errorCode params.result event now hv.held))

theorem acknowledgeOperationCancellationTx_sound (params : AcknowledgeOperationCancellationParams) :
    db.TxSound (HeldFor params.operationID params.attemptID params.workerInstanceID)
      (acknowledgeOperationCancellationTx db params now) := by
  rcases heldTx_cases hdb (rfl : acknowledgeOperationCancellationTx db params now = _) with ⟨error, h, hne⟩ | ⟨v, hv⟩
  · exact .of_error h hne
  · by_cases hstatus : v.row.status = .cancelling
    · obtain ⟨db', event, h, hreplaces⟩ := acknowledgeOperationCancellationTx_cancelling params hv hstatus
      exact .of_ok h (hv.moves hreplaces (.acknowledge _ _ event now hv.held hstatus))
    · exact .of_error (acknowledgeOperationCancellationTx_running params hv hstatus) (by simp)

theorem requestOperationCancellationTx_sound (params : RequestOperationCancellationParams) (requestID : String) :
    db.TxSound (fun v => v.row.id = params.scope.operationID ∧ v.row.status ∈ [.pending, .running])
      (requestOperationCancellationTx db params requestID now) := by
  rcases loadScopedOperation_cases hdb.keyed params.scope with hnone | ⟨v, hview, haccount, hload⟩
  · exact .of_error (by simp [requestOperationCancellationTx, hnone]; rfl) (by simp)
  · have hv := hdb.consistent _ _ hview
    cases hstatus : v.row.status with
    | pending =>
      obtain ⟨requested, db', cancelled, h, hreplaces⟩ := requestOperationCancellationTx_pending hdb.keyed
        hview hv haccount hstatus requestID now
      exact .of_ok h (hreplaces.moves hdb.keyed hview ⟨row_id_of_view hview, by simp [hstatus]⟩
            (.cancelPending params.actorID requested cancelled now hstatus))
    | running =>
      obtain ⟨db', event, h, hreplaces⟩ := requestOperationCancellationTx_running hdb.keyed hview hv haccount
        hstatus requestID now
      exact .of_ok h (hreplaces.moves hdb.keyed hview ⟨row_id_of_view hview, by simp [hstatus]⟩
            (.cancelRunning params.actorID event now hstatus))
    | cancelling | cancelled =>
      have h : requestOperationCancellationTx db params requestID now = .ok (db, .ok v.row) := by
        simp [requestOperationCancellationTx, hload, hstatus]
        rfl
      exact .of_ok h (.refl hdb.keyed)
    | succeeded | failed => exact .of_error (by simp [requestOperationCancellationTx, hload, hstatus]; rfl) (by simp)

theorem retryOperationTx_sound (params : RetryOperationParams) (requestID : String) :
    db.TxSound (fun v => v.row.id = params.scope.operationID ∧ v.row.status = .failed)
      (retryOperationTx db params requestID now) := by
  rcases loadScopedOperation_cases hdb.keyed params.scope with hnone | ⟨v, hview, haccount, hload⟩
  · exact .of_error (by simp [retryOperationTx, hnone]; rfl) (by simp)
  · by_cases hstatus : v.row.status = .failed
    · by_cases hclass : v.row.retryClass = .none
      · exact .of_error (by simp [retryOperationTx, hload, hstatus, hclass]; rfl) (by simp)
      · by_cases hbudget : v.row.attemptCount < v.row.maxAttempts
        · obtain ⟨db', event, h, hreplaces⟩ := retryOperationTx_failed hdb.keyed hview
            (hdb.consistent _ _ hview) haccount hstatus hclass hbudget requestID now
          exact .of_ok h (hreplaces.moves hdb.keyed hview ⟨row_id_of_view hview, by simp [hstatus]⟩
              (.manualRetry event now hstatus hclass hbudget))
        · exact .of_error (by simp [retryOperationTx, hload, hstatus, hclass, not_lt.mp hbudget]; rfl)
            (by simp)
    · exact .of_error (by simp [retryOperationTx, hload, hstatus]; rfl) (by simp)

theorem heartbeatOperationTx_moves (params : HeartbeatOperationParams) (leaseExpiresAt : Time) {db' : OperationStore}
    {reply : Except CoreError Operation} (h : heartbeatOperationTx db params leaseExpiresAt now = .ok (db', reply)) :
    db.Moves db' (HeldFor params.operationID params.attemptID params.workerInstanceID) := by
  rcases heldTx_cases hdb (rfl : heartbeatOperationTx db params leaseExpiresAt now = _) with
    ⟨error, hrefused, -⟩ | ⟨v, hv⟩
  · cases h.symm.trans hrefused
  · obtain ⟨earlier, attempt, hattempts, hsettled, hcurrent⟩ := hv.consistent.current hv.held.active
    by_cases hordered : HeartbeatOrdered attempt leaseExpiresAt now
    · obtain ⟨db'', h', hreplaces⟩ := heartbeatOperationTx_held params hv leaseExpiresAt
        (heartbeat_accepted hattempts hsettled hcurrent hordered)
      rw [h] at h'
      cases h'
      exact hv.moves hreplaces (.heartbeat _ _ leaseExpiresAt now hv.held)
    · rw [heartbeatOperationTx_aborted hv hattempts hcurrent hordered] at h
      cases h

end Transactions

/-! ### Calls -/

section Calls

variable {db : OperationStore} {α β : Type}

/-- A call leaves the store as it was, or as its transaction committed it. -/
theorem transact_cases (db : OperationStore) (checked : Except CoreError α)
    (tx : α → Except TxError (Committed β)) :
    (transact db checked tx).1 = db ∨
      ∃ arguments db' reply, checked = .ok arguments ∧ tx arguments = .ok (db', reply) ∧
        transact db checked tx = (db', reply) := by
  unfold transact
  cases hchecked : checked with
  | error error => exact .inl rfl
  | ok arguments =>
    cases htx : tx arguments with
    | error error => exact .inl (by simp only [htx])
    | ok committed =>
      obtain ⟨db', reply⟩ := committed
      exact .inr ⟨arguments, db', reply, rfl, htx, by simp only [htx]⟩

/-- What holds of the store and of all its transaction may commit holds after the call. -/
theorem transact_keeps {P : OperationStore → Prop} (hsame : P db)
    {checked : Except CoreError α} {tx : α → Except TxError (Committed β)}
    (h : ∀ arguments db' reply, checked = .ok arguments → tx arguments = .ok (db', reply) → P db') :
    P (transact db checked tx).1 := by
  rcases transact_cases db checked tx with hkept | ⟨arguments, db', reply, hchecked, htx, hresult⟩
  · rw [hkept]
    exact hsame
  · rw [hresult]
    exact h arguments db' reply hchecked htx

theorem checkCheckpoint_bound {params : CheckpointOperationParams} {texts : String × String}
    (h : checkCheckpoint params = .ok texts) : 0 ≤ params.progressPercent ∧ params.progressPercent ≤ 99 := by
  simp only [checkCheckpoint, bind_eq_ok_iff] at h
  obtain ⟨_, -, stage, -, messageCode, -, h⟩ := h
  by_cases hrange : params.progressPercent < 0 ∨ 99 < params.progressPercent
  · rw [if_pos hrange] at h
    cases h
  · omega

/-- The operations a call can change: a claim takes pending operations and, like recovery, those whose
lease has run out; a worker's call takes the operation the worker holds. -/
def OperationCall.Touches : OperationCall → OperationView → Prop
  | .create _ _ _, _ => False
  | .claim _ _ now, v => leaseExpired now v.row = true ∨ v.row.status = .pending
  | .heartbeat params _, v => HeldFor params.operationID params.attemptID params.workerInstanceID v
  | .checkpoint params _, v => HeldFor params.operationID params.attemptID params.workerInstanceID v
  | .complete params _, v => HeldFor params.operationID params.attemptID params.workerInstanceID v
  | .fail params _, v => HeldFor params.operationID params.attemptID params.workerInstanceID v
  | .requestCancellation params _, v =>
    v.row.id = params.scope.operationID ∧ v.row.status ∈ [.pending, .running]
  | .acknowledgeCancellation params _, v =>
    HeldFor params.operationID params.attemptID params.workerInstanceID v
  | .retry params _, v => v.row.id = params.scope.operationID ∧ v.row.status = .failed
  | .recoverExpired now, v => leaseExpired now v.row = true

/-- **A call advances the store** in the operations it touches. -/
theorem execute_moves (hdb : db.WellFormed) (call : OperationCall) : db.Moves (call.execute db).1 call.Touches := by
  have hsame : db.Moves db call.Touches := .refl hdb.keyed
  cases call with
  | create params newID now =>
    exact transact_keeps hsame fun operation db' reply hprepared h =>
      (createOperationTx_sound hdb now hprepared).moves db' reply h
  | claim params newID now =>
    exact transact_keeps hsame fun kinds db' reply _ h =>
      (claimNextOperationTx_sound hdb now _ kinds newID _).moves db' reply h
  | heartbeat params now =>
    exact transact_keeps hsame fun _ db' reply _ h => heartbeatOperationTx_moves hdb now params _ h
  | checkpoint params now =>
    exact transact_keeps hsame fun texts db' reply hchecked h =>
      (checkpointOperationTx_sound hdb now params (checkCheckpoint_bound hchecked).2 _ _).moves db' reply h
  | complete params now =>
    exact transact_keeps hsame fun _ db' reply _ h =>
      (completeOperationTx_sound hdb now params).moves db' reply h
  | fail params now =>
    exact transact_keeps hsame fun errorCode db' reply _ h =>
      (failOperationTx_sound hdb now params errorCode).moves db' reply h
  | requestCancellation params now =>
    exact transact_keeps hsame fun requestID db' reply _ h =>
      (requestOperationCancellationTx_sound hdb now params requestID).moves db' reply h
  | acknowledgeCancellation params now =>
    exact transact_keeps hsame fun _ db' reply _ h =>
      (acknowledgeOperationCancellationTx_sound hdb now params).moves db' reply h
  | retry params now =>
    exact transact_keeps hsame fun requestID db' reply _ h =>
      (retryOperationTx_sound hdb now params requestID).moves db' reply h
  | recoverExpired now =>
    obtain ⟨db₁, hrecover, hmoves⟩ := recoverExpiredOperationsTx_moves hdb now
    show db.Moves (recoverExpiredOperations db now).1 _
    refine transact_keeps (P := fun db' => db.Moves db' _) hsame fun _ db' reply _ h => ?_
    simp only [hrecover, ok_bind] at h
    cases h
    exact hmoves

/-- **A run advances the store.** -/
theorem run_advances (hdb : db.WellFormed) (calls : List OperationCall) : db.Advances (db.run calls) := by
  induction calls generalizing db with
  | nil => exact .refl hdb.keyed
  | cons call rest ih =>
    have hstep := (execute_moves hdb call).advances
    exact hstep.trans (ih (hstep.wellFormed hdb))

theorem empty_wellFormed : OperationStore.empty.WellFormed :=
  ⟨⟨by simp [empty], by simp [empty], by simp [empty],
    by simp [empty]⟩, fun k v h => by cases h⟩

theorem after_wellFormed (calls : List OperationCall) : (after calls).WellFormed :=
  (run_advances empty_wellFormed calls).wellFormed empty_wellFormed

theorem run_append (db : OperationStore) (calls later : List OperationCall) :
    db.run (calls ++ later) = (db.run calls).run later :=
  List.foldl_append

theorem after_append (calls later : List OperationCall) : after (calls ++ later) = (after calls).run later :=
  run_append empty calls later

end Calls

/-! ### A sample run

Values for the concrete runs that show the general theorems at work. -/

namespace Sample

def operationID : ID := "01900000-0000-7000-8000-000000000001"

def attemptID : ID := "01900000-0000-7000-8000-000000000002"

def workerID : ID := "01900000-0000-7000-8000-000000000003"

/-- Some day in 2025. -/
def time : Time := 63900000000 * second

def create (retryClass : RetryClass) : OperationCall :=
  .create ⟨none, none, "sample.job", retryClass, "request-1", "", [], 0⟩ operationID time

def claim : OperationCall := .claim ⟨workerID, ["sample.job"], 30 * second⟩ attemptID time

def complete : OperationCall := .complete ⟨operationID, attemptID, workerID, []⟩ time

def fail (retry : Bool) : OperationCall :=
  .fail ⟨operationID, attemptID, workerID, "sample.failed", [], retry⟩ time

end Sample

end Stackfort
