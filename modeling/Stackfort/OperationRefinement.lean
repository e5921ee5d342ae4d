import Stackfort.OperationStatements

/-! The transitions follow the operation machine. For a store with sound keys and consistent views,
each transaction is evaluated outright: it reports the error its guards call for, or it commits and
replaces the view of one operation by the view a step of the machine leads to. The only statement a
trigger can still abort is the heartbeat of an attempt, whose timestamps the trigger compares as
text; its lemma carries that comparison as a hypothesis. -/

namespace Stackfort

open OperationView OperationStore

variable {attempt : OperationAttempt} {workerInstanceID attemptID : ID} {earlier : List OperationAttempt}
  {status : OperationStatus} {row : Operation} {errorCode : Option String} {p : OperationAttempt → Bool}

namespace OperationView

variable {v : OperationView} {outcome : OperationAttemptOutcome} {now : Time}

/-- The lease of the row has not run out. -/
def Unexpired (v : OperationView) (now : Time) : Prop :=
  v.row.leaseExpiresAt.any (fun expires => decide (now < expires)) = true

/-- Whether an outcome is recorded with an error code. -/
def CodeFits (outcome : OperationAttemptOutcome) (errorCode : Option String) : Prop :=
  match outcome with
  | .succeeded | .cancelled => errorCode = none
  | .failed | .leaseExpired => errorCode ≠ none
  | .running => False

theorem validateActiveAttempt_lost (hlost : ¬(v.Held attemptID workerInstanceID ∧ v.Unexpired now)) :
    validateActiveAttempt v.row attemptID workerInstanceID now = .error (.core .operationLeaseLost) := by
  unfold validateActiveAttempt
  split
  · rfl
  next hstatus =>
  split
  · rfl
  · next hcolumns =>
    simp only [not_or, not_not] at hcolumns
    refine absurd ⟨⟨?_, hcolumns.1, hcolumns.2.1⟩, hcolumns.2.2⟩ hlost
    rw [isActive_iff]
    tauto

theorem setOutcome_accepted (hcurrent : IsCurrent row attempt)
    (hcode : CodeFits outcome errorCode) (now : Time) :
    operationAttemptsRestrictUpdate attempt (setOutcome outcome errorCode now attempt) =
      false := by
  have hblameless := hcurrent.blameless
  cases outcome <;> cases errorCode <;>
    simp_all [CodeFits, operationAttemptsRestrictUpdate, setOutcome, hcurrent.running]

theorem Consistent.none_running (hv : v.Consistent) (hactive : v.row.status.isActive = true)
    (hp : v.SelectsRunning p) (hout : outcome ≠ .running) (errorCode : Option String)
    (now : Time) :
    ∀ attempt ∈ (v.setAttempts p (setOutcome outcome errorCode now)).attempts,
      attempt.outcome ≠ .running := by
  obtain ⟨earlier, current, hattempts, hsettled, hcurrent⟩ := hv.current hactive
  rw [attempts_setAttempts, updateWhere_current hp hattempts hsettled hcurrent.running]
  exact List.forall_mem_append.mpr
    ⟨fun attempt hold => (hsettled attempt hold).1, List.forall_mem_singleton.mpr hout⟩

theorem Consistent.current_mem (hv : v.Consistent) (hactive : v.row.status.isActive = true)
    (hattempt : v.row.currentAttemptID = some attemptID) :
    attemptID ∈ v.attempts.map OperationAttempt.id := by
  obtain ⟨earlier, attempt, hattempts, -, hcurrent⟩ := hv.current hactive
  rw [some.inj (hattempt.symm.trans hcurrent.attemptID), hattempts]
  simp

end OperationView

namespace OperationStore

variable {db : OperationStore} {operationID : ID} {v : OperationView}

theorem loadOperationByID_of_view (hview : db.view operationID = some v) :
    db.loadOperationByID operationID = .ok v.row := by
  rw [loadOperationByID, (view_eq_some.mp hview).1]
  rfl

theorem loadOperationByID_of_none (hview : db.view operationID = none) :
    db.loadOperationByID operationID = .error .noRows := by
  rw [loadOperationByID, view_eq_none.mp hview]
  rfl

/-- Keys are sound and every operation is consistent. -/
structure WellFormed (db : OperationStore) : Prop where
  keyed : db.Keyed
  consistent : ∀ k v, db.view k = some v → v.Consistent

/-- A worker holds the operation with an attempt whose lease has not run out. -/
structure HeldAt (db : OperationStore) (operationID attemptID workerInstanceID : ID) (now : Time) (v : OperationView) :
    Prop where
  wellFormed : db.WellFormed
  view : db.view operationID = some v
  held : v.Held attemptID workerInstanceID
  unexpired : v.Unexpired now

namespace HeldAt

variable {now : Time} (h : db.HeldAt operationID attemptID workerInstanceID now v)

include h

theorem consistent : v.Consistent :=
  h.wellFormed.consistent _ _ h.view

theorem load : db.loadOperationByID operationID = .ok v.row :=
  loadOperationByID_of_view h.view

theorem named : ∀ named, some attemptID = some named → named ∈ v.attempts.map OperationAttempt.id :=
  fun _ hnamed => some.inj hnamed ▸ h.consistent.current_mem h.held.active h.held.attempt

theorem valid : validateActiveAttempt v.row attemptID workerInstanceID now = .ok () := by
  have hstatus : ¬(v.row.status ≠ .running ∧ v.row.status ≠ .cancelling) := by
    rintro ⟨hrunning, hcancelling⟩
    rcases isActive_iff.mp h.held.active with h | h
    · exact hrunning h
    · exact hcancelling h
  have hlease := h.unexpired
  unfold Unexpired at hlease
  rw [validateActiveAttempt, if_neg hstatus, if_neg]
  · rfl
  · simp [h.held.attempt, h.held.worker, hlease]

end HeldAt

theorem settleAttempts_ok (hview : db.view operationID = some v) (hv : v.Consistent)
    (hactive : v.row.status.isActive = true) (hp : v.SelectsRunning p)
    (howner : ∀ row, p row = true → row.operationID = operationID) {outcome : OperationAttemptOutcome}
    (hcode : CodeFits outcome errorCode) (now : Time) :
    ∃ db', db.updateAttempts p (setOutcome outcome errorCode now) = .ok db' ∧
      db.Replaces db' operationID (v.setAttempts p (setOutcome outcome errorCode now)) := by
  refine ⟨_, updateAttempts_ok hview (fun _ => rfl) (fun _ => rfl) howner fun row hmem hprow => ?_⟩
  exact setOutcome_accepted (hv.isCurrent hactive hmem ((hp row hmem).mp hprow)) hcode now

section Settle

variable (hkeyed : db.Keyed) (hv : v.Consistent) (hactive : v.row.status.isActive = true)
  {p : OperationAttempt → Bool} (hp : v.SelectsRunning p) {outcome : OperationAttemptOutcome}
  {errorCode : Option String} (hcode : CodeFits outcome errorCode) {q : Operation → Bool}
  (hq : ∀ row, q row = true → row.id = operationID) (hrow : q v.row = true)
  {g : Operation → Operation} (hid : ∀ row, (g row).id = row.id)
  (hallowed : operationsRestrictUpdate v.row (g v.row) = false)
  (hnew : (g v.row).currentAttemptID = none) (now : Time)

include hkeyed hv hactive hp hcode hq hrow hid hallowed hnew

/-- The update that releases the operation succeeds, whatever events are recorded after the end of its attempt. -/
theorem release_ok {db₁ db₂ : OperationStore} {events : List OperationEvent}
    (hsettled : db.Replaces db₁ operationID (v.setAttempts p (setOutcome outcome errorCode now)))
    (hevents : db₁.Replaces db₂ operationID
      ((v.setAttempts p (setOutcome outcome errorCode now)).withEvents events)) :
    ∃ db₃, db₂.updateOperations q g = .ok (db₃, 1) ∧
      db.Replaces db₃ operationID ((v.settle p outcome errorCode g now).withEvents events) := by
  have hout : outcome ≠ .running := by
    rintro rfl
    exact hcode
  obtain ⟨hrelease, hreleased⟩ := updateOperations_ok (hevents.keyed (hsettled.keyed hkeyed)) hevents.self
    hid hq hrow (abort_of_released hallowed hnew (hv.none_running hactive hp hout errorCode now))
  exact ⟨_, hrelease, (hsettled.trans hevents).trans hreleased⟩

/-- **The end of an attempt.** The updates that end the current attempt and release the operation succeed. -/
theorem settle_ok (hview : db.view operationID = some v)
    (howner : ∀ row, p row = true → row.operationID = operationID) :
    ∃ db₁ db₂, db.updateAttempts p (setOutcome outcome errorCode now) = .ok db₁ ∧
      db₁.updateOperations q g = .ok (db₂, 1) ∧
      db.Replaces db₂ operationID (v.settle p outcome errorCode g now) := by
  obtain ⟨db₁, hattempts, hsettled⟩ := settleAttempts_ok hview hv hactive hp howner hcode now
  obtain ⟨db₂, hupdate, hreplaced⟩ := release_ok hkeyed hv hactive hp hcode hq hrow hid hallowed hnew now hsettled
    (.refl hsettled.self)
  exact ⟨db₁, db₂, hattempts, hupdate, hreplaced⟩

end Settle

end OperationStore

section Held

/-! ### Transactions of the holder -/

variable {db : OperationStore} {v : OperationView} {now leaseExpiresAt : Time} {operationID : ID}
  {errorCode : Option String} {g : Operation → Operation} {outcome : OperationAttemptOutcome}

theorem heldBy_owner (row : OperationAttempt) (h : heldBy attemptID operationID workerInstanceID row = true) :
    row.operationID = operationID :=
  (of_decide_eq_true h).2.1

theorem heldByAny_owner (row : OperationAttempt) (h : heldByAny attemptID operationID row = true) :
    row.operationID = operationID :=
  (of_decide_eq_true h).2.1

variable {statuses : List OperationStatus} {params : HeartbeatOperationParams}

theorem heldBy_id (row : Operation) (h : Operation.heldBy operationID attemptID workerInstanceID statuses row = true) :
    row.id = operationID :=
  of_decide_eq_true (Bool.and_eq_true_iff.mp h).1

theorem hasStatus_id (row : Operation) (h : Operation.hasStatus operationID status row = true) : row.id = operationID :=
  of_decide_eq_true (Bool.and_eq_true_iff.mp h).1

theorem OperationView.Held.heldBy (hheld : v.Held attemptID workerInstanceID) (hid : v.row.id = operationID)
    (hmem : v.row.status ∈ statuses) :
    v.row.heldBy operationID attemptID workerInstanceID statuses = true := by
  simp [Operation.heldBy, hid, hheld.attempt, hheld.worker, hmem]

section HeldTx

variable {α : Type} {rest : Operation → Except TxError α}

/-- The transactions of a holder begin with the same check. -/
theorem heldTx_lost (hview : db.view operationID = some v)
    (hlost : ¬(v.Held attemptID workerInstanceID ∧ v.Unexpired now)) :
    (do let operation ← db.loadOperationByID operationID
        validateActiveAttempt operation attemptID workerInstanceID now
        rest operation) = .error (.core .operationLeaseLost) := by
  simp only [loadOperationByID_of_view hview, ok_bind, validateActiveAttempt_lost hlost, error_bind]

/-- The check fails without a trigger, or the attempt is held. -/
theorem heldTx_cases (hdb : db.WellFormed) {tx : Except TxError α}
    (htx : tx = do
      let operation ← db.loadOperationByID operationID
      validateActiveAttempt operation attemptID workerInstanceID now
      rest operation) :
    (∃ error, tx = .error error ∧ ∀ trigger, error ≠ .trigger trigger) ∨
      ∃ v, db.HeldAt operationID attemptID workerInstanceID now v := by
  cases hview : db.view operationID with
  | none =>
    rw [loadOperationByID_of_none hview, error_bind] at htx
    exact .inl ⟨_, htx, by simp⟩
  | some v =>
    by_cases hheld : v.Held attemptID workerInstanceID ∧ v.Unexpired now
    · exact .inr ⟨v, hdb, hview, hheld.1, hheld.2⟩
    · exact .inl ⟨_, htx.trans (heldTx_lost hview hheld), by simp⟩

end HeldTx

theorem heartbeatOperationTx_held (params : HeartbeatOperationParams)
    (h : db.HeldAt params.operationID params.attemptID params.workerInstanceID now v)
    (leaseExpiresAt : Time)
    (haccept : ∀ attempt ∈ v.attempts, attempt.outcome = .running →
      operationAttemptsRestrictUpdate attempt (attempt.setHeartbeat now leaseExpiresAt) = false) :
    ∃ db', heartbeatOperationTx db params leaseExpiresAt now =
        .ok (db', if v.row.status = .cancelling then .error .operationCancellationRequested
          else .ok (v.row.setLease now leaseExpiresAt)) ∧
      db.Replaces db' params.operationID
        ((v.setAttempts (heldBy params.attemptID v.row.id params.workerInstanceID)
          (setHeartbeat now leaseExpiresAt)).setRow
            (setLease now leaseExpiresAt)) := by
  have hid := row_id_of_view h.view
  have hv := h.consistent
  have hselects := hv.heldBy_selects h.held
  obtain ⟨earlier, attempt, hattempts, hsettled, hcurrent⟩ := hv.current h.held.active
  obtain ⟨hbeat, hbeaten⟩ := updateAttempts_ok h.view (fun _ => rfl) (fun _ => rfl)
    heldBy_owner (f := setHeartbeat now leaseExpiresAt)
    (p := heldBy params.attemptID params.operationID params.workerInstanceID)
    fun row hmem hrow => haccept row hmem ((hselects row hmem).mp (hid ▸ hrow))
  rw [hid] at hselects ⊢
  have hnewest : attempt.setHeartbeat now leaseExpiresAt ∈ (v.setAttempts
      (heldBy params.attemptID params.operationID params.workerInstanceID)
      (setHeartbeat now leaseExpiresAt)).attempts := by
    rw [attempts_setAttempts, updateWhere_current hselects hattempts hsettled hcurrent.running]
    simp
  obtain ⟨hupdate, hupdated⟩ := updateOperations_ok (hbeaten.keyed h.wellFormed.keyed) hbeaten.self
    (p := Operation.heldBy params.operationID params.attemptID params.workerInstanceID
      [.running, .cancelling]) (f := setLease now leaseExpiresAt) (fun _ => rfl) heldBy_id
    (h.held.heldBy hid (by simpa using isActive_iff.mp h.held.active))
    (abort_of_current (hv.setLease_allowed h.held.active now leaseExpiresAt) hnewest
      ⟨hcurrent.running, hcurrent.unfinished, hcurrent.blameless, hcurrent.attemptID, hcurrent.worker, rfl⟩
      (hv.owner attempt (by rw [hattempts]; simp)))
  refine ⟨_, ?_, hbeaten.trans hupdated⟩
  simp only [heartbeatOperationTx, h.load, ok_bind, h.valid, hbeat, hupdate]
  rfl

/-- The texts of a heartbeat do not sort before the stored ones. -/
def HeartbeatOrdered (attempt : OperationAttempt) (leaseExpiresAt now : Time) : Prop :=
  formatTime attempt.heartbeatAt ≤ formatTime now ∧
    formatTime attempt.leaseExpiresAt ≤ formatTime leaseExpiresAt

theorem setHeartbeat_accepted_iff (hcurrent : IsCurrent row attempt) (leaseExpiresAt now : Time) :
    operationAttemptsRestrictUpdate attempt (attempt.setHeartbeat now leaseExpiresAt) = false ↔
      HeartbeatOrdered attempt leaseExpiresAt now := by
  simp [operationAttemptsRestrictUpdate, setHeartbeat, HeartbeatOrdered, hcurrent.running,
    hcurrent.unfinished, hcurrent.blameless, -String.lt_iff_ltb]

/-- The trigger accepts the heartbeat of every running attempt, as the current one is in order. -/
theorem heartbeat_accepted (hattempts : v.attempts = earlier ++ [attempt]) (hsettled : Settled earlier)
    (hcurrent : IsCurrent v.row attempt) (hordered : HeartbeatOrdered attempt leaseExpiresAt now) :
    ∀ other ∈ v.attempts, other.outcome = .running →
      operationAttemptsRestrictUpdate other (other.setHeartbeat now leaseExpiresAt) = false := by
  intro other hmem hrunning
  rw [hattempts] at hmem
  rcases mem_append.mp hmem with hold | hnew
  · exact absurd hrunning (hsettled other hold).1
  · rw [mem_singleton.mp hnew]
    exact (setHeartbeat_accepted_iff hcurrent leaseExpiresAt now).mpr hordered

/-- **A heartbeat whose texts sort before the stored ones is aborted.** -/
theorem heartbeatOperationTx_aborted (h : db.HeldAt params.operationID params.attemptID params.workerInstanceID now v)
    (hattempts : v.attempts = earlier ++ [attempt]) (hcurrent : IsCurrent v.row attempt)
    (hunordered : ¬HeartbeatOrdered attempt leaseExpiresAt now) :
    heartbeatOperationTx db params leaseExpiresAt now =
      .error (.trigger .operationAttemptsRestrictUpdate) := by
  have hid := row_id_of_view h.view
  have hmem : attempt ∈ v.attempts := by rw [hattempts]; simp
  have hrefused : operationAttemptsRestrictUpdate attempt (attempt.setHeartbeat now leaseExpiresAt) = true := by
    rw [← Bool.not_eq_false, setHeartbeat_accepted_iff hcurrent]
    exact hunordered
  simp only [heartbeatOperationTx, h.load, ok_bind, h.valid, updateAttempts]
  rw [any_eq_true.mpr ⟨attempt, ?_, ?_⟩]
  · rfl
  · rw [(view_eq_some.mp h.view).2.1] at hmem
    exact (mem_owned.mp hmem).1
  · rw [and_eq_true, ← hid]
    exact ⟨(h.consistent.heldBy_selects h.held attempt hmem).mpr hcurrent.running, hrefused⟩

variable {params : CheckpointOperationParams}

theorem checkpointOperationTx_running (h : db.HeldAt params.operationID params.attemptID params.workerInstanceID now v)
    (hstatus : v.row.status = .running) (hgrows : v.row.progressPercent ≤ params.progressPercent)
    (stage messageCode : String) :
    db.Records params.operationID (checkpointOperationTx db params stage messageCode now)
      (·, .ok (v.row.setProgress stage params.progressPercent now))
      (v.setRow (setProgress stage params.progressPercent now)) now := by
  have hid := row_id_of_view h.view
  have hv := h.consistent
  obtain ⟨earlier, attempt, hattempts, hsettled, hcurrent⟩ := hv.current h.held.active
  obtain ⟨hupdate, hupdated⟩ := updateOperations_ok h.wellFormed.keyed h.view
    (p := Operation.heldBy params.operationID params.attemptID params.workerInstanceID [.running])
    (f := setProgress stage params.progressPercent now) (fun _ => rfl) heldBy_id
    (h.held.heldBy hid (by simp [hstatus]))
    (abort_of_current (hv.setProgress_allowed hstatus hgrows stage now)
      (by rw [hattempts]; simp)
      ⟨hcurrent.running, hcurrent.unfinished, hcurrent.blameless, hcurrent.attemptID, hcurrent.worker, hcurrent.lease⟩
      (hv.owner attempt (by rw [hattempts]; simp)))
  have hnot : ¬params.progressPercent < v.row.progressPercent := by omega
  simp only [checkpointOperationTx, h.load, ok_bind, h.valid, hstatus, reduceCtorEq, if_false, hnot, hupdate,
    expectLease, ne_eq, not_true, pure_eq_ok]
  exact hupdated.records hid h.named fun _ => ⟨_, rfl, fun _ => id⟩

theorem OperationView.settle_mem (hmem : attemptID ∈ v.attempts.map OperationAttempt.id) :
    attemptID ∈ (v.settle p outcome errorCode g now).attempts.map OperationAttempt.id := by
  have hkeys : (v.settle p outcome errorCode g now).attempts.map OperationAttempt.id =
      v.attempts.map OperationAttempt.id :=
    keys_updateWhere (f := setOutcome outcome errorCode now) (fun _ => rfl) _
  rwa [hkeys]

/-- **The end of a held attempt.** Its holder ends the attempt and releases the operation. -/
theorem OperationStore.HeldAt.ends (h : db.HeldAt operationID attemptID workerInstanceID now v)
    (hcode : CodeFits outcome errorCode) (hmem : v.row.status ∈ statuses) (hkeeps : ∀ row, (g row).id = row.id)
    (hallowed : operationsRestrictUpdate v.row (g v.row) = false) (hnew : (g v.row).currentAttemptID = none) :
    ∃ db₁ db₂, db.updateAttempts (heldBy attemptID operationID workerInstanceID)
        (setOutcome outcome errorCode now) = .ok db₁ ∧
      db₁.updateOperations (Operation.heldBy operationID attemptID workerInstanceID statuses) g = .ok (db₂, 1) ∧
      db.Replaces db₂ operationID
        (v.settle (heldBy attemptID v.row.id workerInstanceID) outcome errorCode g now) := by
  have hid := row_id_of_view h.view
  have hselects := h.consistent.heldBy_selects h.held
  rw [hid] at hselects ⊢
  exact settle_ok h.wellFormed.keyed h.consistent h.held.active hselects hcode heldBy_id (h.held.heldBy hid hmem) hkeeps
    hallowed hnew now h.view heldBy_owner

theorem completeOperationTx_running (params : CompleteOperationParams)
    (h : db.HeldAt params.operationID params.attemptID params.workerInstanceID now v)
    (hstatus : v.row.status = .running) :
    db.Records params.operationID (completeOperationTx db params now) (·, .ok (v.row.setSucceeded params.result now))
      (v.settle (heldBy params.attemptID v.row.id params.workerInstanceID) .succeeded none
        (setSucceeded params.result now) now) now := by
  obtain ⟨db₁, db₂, hattempts, hupdate, hreplaced⟩ := h.ends
    (show CodeFits .succeeded none from rfl) (mem_singleton.mpr hstatus)
    (g := setSucceeded params.result now) (fun _ => rfl)
    (h.consistent.setSucceeded_allowed hstatus params.result now) rfl
  simp only [completeOperationTx, h.load, ok_bind, h.valid, hstatus, reduceCtorEq, if_false, hattempts, hupdate,
    expectLease, ne_eq, not_true, pure_eq_ok]
  exact hreplaced.records (row_id_of_view h.view) (fun _ hnamed => settle_mem (h.named _ hnamed))
    fun _ => ⟨_, rfl, fun _ h => h.appendAudit _⟩

section

variable (params : FailOperationParams) (h : db.HeldAt params.operationID params.attemptID params.workerInstanceID now v)

include h

theorem failOperationTx_retry (hretry : params.retry = true) (hstatus : v.row.status = .running) (hclass : v.row.retryClass = .safe)
    (hbudget : v.row.attemptCount < v.row.maxAttempts) (errorCode : String) :
    db.Records params.operationID (failOperationTx db params errorCode now)
      (·, .ok (v.row.setRetryQueued (now.add (retryDelay v.row.attemptCount)) now))
      (v.settle (heldBy params.attemptID v.row.id params.workerInstanceID) .failed (some errorCode)
        (setRetryQueued (now.add (retryDelay v.row.attemptCount)) now) now) now := by
  obtain ⟨db₁, db₂, hattempts, hupdate, hreplaced⟩ := h.ends
    (show CodeFits .failed (some errorCode) from by simp [CodeFits]) (mem_singleton.mpr hstatus)
    (g := setRetryQueued (now.add (retryDelay v.row.attemptCount)) now) (fun _ => rfl)
    (h.consistent.setRetryQueued_allowed hstatus _ now) rfl
  simp only [failOperationTx, scheduleRetryTx, h.load, ok_bind, h.valid, hretry, hstatus, hclass, hbudget, ne_eq,
    not_true, or_self, if_false, true_and, if_true, hattempts, hupdate, expectLease, pure_eq_ok]
  exact hreplaced.records (row_id_of_view h.view) (fun _ hnamed => settle_mem (h.named _ hnamed))
    fun _ => ⟨_, rfl, fun _ => id⟩

theorem failOperationTx_final
    (hfinal : params.retry = false ∨ v.row.status = .running ∧ v.row.retryClass = .safe ∧ v.row.maxAttempts ≤ v.row.attemptCount)
    (errorCode : String) :
    db.Records params.operationID (failOperationTx db params errorCode now)
      (·, .ok (v.row.setFailed params.result errorCode now))
      (v.settle (heldBy params.attemptID v.row.id params.workerInstanceID) .failed (some errorCode)
        (setFailed params.result errorCode now) now) now := by
  have hmem : v.row.status ∈ [.running, .cancelling] := by simpa using isActive_iff.mp h.held.active
  obtain ⟨db₁, db₂, hattempts, hupdate, hreplaced⟩ := h.ends
    (show CodeFits .failed (some errorCode) from by simp [CodeFits]) hmem
    (g := setFailed params.result errorCode now) (fun _ => rfl)
    (h.consistent.setFailed_allowed h.held.active params.result errorCode now) rfl
  have hguard : ¬(params.retry = true ∧ (v.row.status ≠ .running ∨ v.row.retryClass ≠ .safe)) := by
    rcases hfinal with h | h
    · simp [h]
    · simp [h.1, h.2.1]
  have hlast : ¬(params.retry = true ∧ v.row.attemptCount < v.row.maxAttempts) := by
    rcases hfinal with h | h
    · simp [h]
    · simp [h.2.2]
  simp only [failOperationTx, recordFailureTx, h.load, ok_bind, h.valid, if_neg hguard, if_neg hlast, hattempts, hupdate,
    expectLease, ne_eq, not_true, if_false, pure_eq_ok]
  exact hreplaced.records (row_id_of_view h.view) (fun _ hnamed => settle_mem (h.named _ hnamed))
    fun _ => ⟨_, rfl, fun _ h => h.appendAudit _⟩

theorem failOperationTx_refused (hretry : params.retry = true)
    (hrefused : v.row.status ≠ .running ∨ v.row.retryClass ≠ .safe) (errorCode : String) :
    failOperationTx db params errorCode now = .error (.core (.invalidInput
      "only a running safe-retry operation may be retried automatically")) := by
  simp only [failOperationTx, h.load, ok_bind, h.valid, if_pos (And.intro hretry hrefused), throw_eq_error, error_bind]

end

section

variable (params : AcknowledgeOperationCancellationParams)
  (h : db.HeldAt params.operationID params.attemptID params.workerInstanceID now v)

include h

theorem acknowledgeOperationCancellationTx_cancelling (hstatus : v.row.status = .cancelling) :
    db.Records params.operationID (acknowledgeOperationCancellationTx db params now) (·, .ok (v.row.setCancelled now))
      (v.settle (heldBy params.attemptID v.row.id params.workerInstanceID) .cancelled none (setCancelled now) now)
      now := by
  obtain ⟨db₁, db₂, hattempts, hupdate, hreplaced⟩ := h.ends
    (show CodeFits .cancelled none from rfl) (mem_singleton.mpr hstatus) (g := setCancelled now)
    (fun _ => rfl) (h.consistent.setCancelled_allowed hstatus now) rfl
  simp only [acknowledgeOperationCancellationTx, h.load, ok_bind, h.valid, hstatus, ne_eq, not_true, if_false, hattempts,
    hupdate, expectLease, pure_eq_ok]
  exact hreplaced.records (row_id_of_view h.view) (fun _ hnamed => settle_mem (h.named _ hnamed))
    fun _ => ⟨_, rfl, fun _ h => h.appendAudit _⟩

theorem acknowledgeOperationCancellationTx_running (hstatus : v.row.status ≠ .cancelling) :
    acknowledgeOperationCancellationTx db params now =
      .error (.core (.conflict "operation has no cancellation request")) := by
  simp only [acknowledgeOperationCancellationTx, h.load, ok_bind, h.valid, if_pos hstatus, throw_eq_error, error_bind]

end

/-! ### Transactions that change nothing -/

theorem checkpointOperationTx_cancelling
    (h : db.HeldAt params.operationID params.attemptID params.workerInstanceID now v)
    (hstatus : v.row.status = .cancelling) (stage messageCode : String) :
    checkpointOperationTx db params stage messageCode now =
      .ok (db, .error .operationCancellationRequested) := by
  simp only [checkpointOperationTx, h.load, ok_bind, h.valid, hstatus, if_true, pure_eq_ok]

theorem checkpointOperationTx_decreasing
    (h : db.HeldAt params.operationID params.attemptID params.workerInstanceID now v)
    (hstatus : v.row.status = .running) (hless : params.progressPercent < v.row.progressPercent)
    (stage messageCode : String) :
    checkpointOperationTx db params stage messageCode now =
      .error (.core (.conflict "operation progress cannot decrease")) := by
  simp only [checkpointOperationTx, h.load, ok_bind, h.valid, hstatus, reduceCtorEq, if_false, hless, if_true,
    throw_eq_error, error_bind]

theorem completeOperationTx_cancelling {params : CompleteOperationParams}
    (h : db.HeldAt params.operationID params.attemptID params.workerInstanceID now v)
    (hstatus : v.row.status = .cancelling) :
    completeOperationTx db params now = .ok (db, .error .operationCancellationRequested) := by
  simp only [completeOperationTx, h.load, ok_bind, h.valid, hstatus, if_true, pure_eq_ok]

end Held

section Users

/-! ### Transactions of users -/

variable {db : OperationStore} {v : OperationView} {now : Time} {params : RequestOperationCancellationParams}

theorem loadScopedOperation_ok {scope : OperationScope} (hkeyed : db.Keyed)
    (hview : db.view scope.operationID = some v) (haccount : v.row.accountID = scope.accountID) :
    db.loadScopedOperation scope = .ok v.row := by
  have hid := row_id_of_view hview
  have hmem := mem_operations_of_view hview
  have hfind : (db.operations.find? fun row =>
      decide (row.id = scope.operationID ∧ row.accountID = scope.accountID)) = some v.row := by
    cases hfound : db.operations.find? fun row =>
        decide (row.id = scope.operationID ∧ row.accountID = scope.accountID) with
    | none =>
      have h := List.find?_eq_none.mp hfound v.row hmem
      simp [hid, haccount] at h
    | some found =>
      have hmatches := List.find?_some hfound
      have hfoundID := (of_decide_eq_true hmatches).1
      have hlookup := lookup_of_mem hkeyed.operationIDs (List.mem_of_find?_eq_some hfound)
      rw [hfoundID] at hlookup
      exact hlookup.symm.trans (view_eq_some.mp hview).1
  rw [loadScopedOperation, hfind]
  rfl

/-- A scoped load finds the operation in its scope, or no row. -/
theorem loadScopedOperation_cases (hkeyed : db.Keyed) (scope : OperationScope) :
    db.loadScopedOperation scope = .error .noRows ∨
      ∃ v, db.view scope.operationID = some v ∧ v.row.accountID = scope.accountID ∧
        db.loadScopedOperation scope = .ok v.row := by
  cases hfound : db.operations.find? fun row =>
      decide (row.id = scope.operationID ∧ row.accountID = scope.accountID) with
  | none =>
    left
    rw [loadScopedOperation, hfound]
    rfl
  | some found =>
    right
    have hmatches := List.find?_some hfound
    obtain ⟨hid, haccount⟩ := of_decide_eq_true hmatches
    have hview := view_of_mem hkeyed (List.mem_of_find?_eq_some hfound)
    rw [hid] at hview
    exact ⟨_, hview, haccount, loadScopedOperation_ok hkeyed hview haccount⟩

theorem hasStatus_self {operationID : ID} (hid : v.row.id = operationID) (hstatus : v.row.status = status) :
    v.row.hasStatus operationID status = true := by
  simp [Operation.hasStatus, hid, hstatus]

theorem OperationView.Consistent.none_running_of_inactive (hv : v.Consistent)
    (hinactive : v.row.status.isActive = false) :
    ∀ attempt ∈ v.attempts, attempt.outcome ≠ .running := by
  intro attempt hmem
  have hfit := hv.attemptsFit
  unfold AttemptsFit at hfit
  cases hstatus : v.row.status <;> simp only [hstatus] at hfit
  case running => simp [hstatus, OperationStatus.isActive] at hinactive
  case cancelling => simp [hstatus, OperationStatus.isActive] at hinactive
  case succeeded =>
    obtain ⟨earlier, last, hattempts, hsettled, hlast⟩ := hfit
    rw [hattempts] at hmem
    rcases mem_append.mp hmem with hold | hnew
    · exact (hsettled attempt hold).1
    · rw [mem_singleton.mp hnew, hlast]
      simp
  all_goals exact (hfit attempt hmem).1

theorem OperationView.Consistent.currentAttemptID_eq_none (hv : v.Consistent)
    (hinactive : v.row.status.isActive = false) : v.row.currentAttemptID = none := by
  have hcolumns := hv.columns
  unfold columnsFitStatus at hcolumns
  cases hstatus : v.row.status <;> simp_all [OperationStatus.isActive]

section

variable (hkeyed : db.Keyed) (hview : db.view params.scope.operationID = some v) (hv : v.Consistent)
  (haccount : v.row.accountID = params.scope.accountID)

include hkeyed hview hv haccount

theorem requestOperationCancellationTx_pending (hstatus : v.row.status = .pending) (requestID : String) (now : Time) :
    ∃ requested, db.Records params.scope.operationID (requestOperationCancellationTx db params requestID now)
      (·, .ok (v.row.setCancellation .cancelled "cancelled" (some now) params.actorID now))
      ((v.setRow (setCancellation .cancelled "cancelled" (some now) params.actorID now)).record requested now) now := by
  have hid := row_id_of_view hview
  have hinactive : v.row.status.isActive = false := by rw [hstatus]; rfl
  have hcurrent := hv.currentAttemptID_eq_none hinactive
  obtain ⟨hupdate, hupdated⟩ := updateOperations_ok hkeyed hview
    (p := Operation.hasStatus v.row.id .pending)
    (f := setCancellation .cancelled "cancelled" (some now) params.actorID now) (fun _ => rfl)
    (fun row h => (hasStatus_id row h).trans hid) (hasStatus_self rfl hstatus)
    (abort_of_released (hv.setCancellation_pending_allowed hstatus "cancelled" params.actorID now) hcurrent
      (hv.none_running_of_inactive hinactive))
  obtain ⟨db₂, hrequested, hrecorded⟩ := appendOperationEventTx_ok hupdated.self
    ⟨v.row.id, v.row.currentAttemptID, .cancellationRequested, "cancelled", v.row.progressPercent,
      "operation.cancellation_requested", []⟩ hid (fun attemptID h => by simp [hcurrent] at h) now
  simp only [requestOperationCancellationTx, loadScopedOperation_ok hkeyed hview haccount, ok_bind,
    hstatus, hupdate, expectAffected, ne_eq, not_true, if_false, hrequested, pure_eq_ok]
  exact ⟨_, (hupdated.trans hrecorded).records hid nofun fun _ => ⟨_, rfl, fun _ h => h.appendAudit _⟩⟩

theorem requestOperationCancellationTx_running (hstatus : v.row.status = .running) (requestID : String) (now : Time) :
    db.Records params.scope.operationID (requestOperationCancellationTx db params requestID now)
      (·, .ok (v.row.setCancellation .cancelling v.row.stage none params.actorID now))
      (v.setRow (setCancellation .cancelling v.row.stage none params.actorID now)) now := by
  have hid := row_id_of_view hview
  have hactive := isActive_iff.mpr (.inl hstatus)
  obtain ⟨earlier, attempt, hattempts, hsettled, hcurrent⟩ := hv.current hactive
  have hmem : attempt ∈ v.attempts := by rw [hattempts]; simp
  obtain ⟨hupdate, hupdated⟩ := updateOperations_ok hkeyed hview
    (p := Operation.hasStatus v.row.id .running)
    (f := setCancellation .cancelling v.row.stage none params.actorID now) (fun _ => rfl)
    (fun row h => (hasStatus_id row h).trans hid) (hasStatus_self rfl hstatus)
    (abort_of_current (hv.setCancellation_running_allowed hstatus v.row.stage params.actorID now) hmem
      ⟨hcurrent.running, hcurrent.unfinished, hcurrent.blameless, hcurrent.attemptID, hcurrent.worker,
        hcurrent.lease⟩ (hv.owner attempt hmem))
  simp only [requestOperationCancellationTx, loadScopedOperation_ok hkeyed hview haccount, ok_bind,
    hstatus, hupdate, expectAffected, ne_eq, not_true, if_false, pure_eq_ok]
  exact hupdated.records hid (fun _ => hv.current_mem hactive) fun _ => ⟨_, rfl, fun _ h => h.appendAudit _⟩

end

theorem retryOperationTx_failed {params : RetryOperationParams} (hkeyed : db.Keyed)
    (hview : db.view params.scope.operationID = some v) (hv : v.Consistent)
    (haccount : v.row.accountID = params.scope.accountID) (hstatus : v.row.status = .failed)
    (hclass : v.row.retryClass ≠ .none) (hbudget : v.row.attemptCount < v.row.maxAttempts)
    (requestID : String) (now : Time) :
    db.Records params.scope.operationID (retryOperationTx db params requestID now)
      (·, .ok (v.row.setManualRetry now)) (v.setRow (setManualRetry now)) now := by
  have hid := row_id_of_view hview
  have hinactive : v.row.status.isActive = false := by rw [hstatus]; rfl
  obtain ⟨hupdate, hupdated⟩ := updateOperations_ok hkeyed hview
    (p := Operation.hasStatus v.row.id .failed) (f := setManualRetry now) (fun _ => rfl)
    (fun row h => (hasStatus_id row h).trans hid) (hasStatus_self rfl hstatus)
    (abort_of_released (hv.setManualRetry_allowed hstatus now) rfl (hv.none_running_of_inactive hinactive))
  have hleft : ¬v.row.maxAttempts ≤ v.row.attemptCount := by omega
  simp only [retryOperationTx, loadScopedOperation_ok hkeyed hview haccount, ok_bind, hstatus,
    ne_eq, not_true, if_false, hclass, hleft, hupdate, expectAffected, pure_eq_ok]
  exact hupdated.records hid nofun fun _ => ⟨_, rfl, fun _ h => h.appendAudit _⟩

end Users

end Stackfort
