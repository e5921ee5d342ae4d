import Stackfort.OperationRefinement

/-! Creation, recovery and claims: the transactions that are not made by the holder of an operation.
Recovery walks over the operations whose lease has run out; since it replaces the view of one
operation at a time and each appears once in its list, every one of them takes exactly one step of
the machine. A claim recovers first and then opens the next attempt of the operation that sorts
first. -/

namespace Stackfort

open OperationView OperationStore List

/-! ### Creation -/

variable {row operation : Operation} {newID k : ID} {params : CreateOperationParams} {attempt : OperationAttempt}
  {kinds : List String}

section Create

variable {db : OperationStore} {now : Time}

/-- A view that has just been created. -/
structure OperationView.Fresh (v : OperationView) : Prop where
  consistent : v.Consistent
  pending : v.row.status = .pending
  attempts : v.attempts = []

theorem replaces_addOperation (hkeyed : db.Keyed) (hnone : db.view row.id = none) :
    db.Replaces (db.addOperation row) row.id ⟨row, [], []⟩ := by
  have hfind := view_eq_none.mp hnone
  have hfresh : ∀ other ∈ db.operations, other.id ≠ row.id := lookup_eq_none.mp hfind
  have hlookup : ∀ otherID, (db.addOperation row).findOperation otherID =
      (db.findOperation otherID).or (if row.id = otherID then some row else none) :=
    fun otherID => lookup_append otherID db.operations row
  have hother : ∀ otherID, otherID ≠ row.id → (db.addOperation row).view otherID = db.view otherID := by
    intro otherID hne
    simp only [view, hlookup, if_neg (Ne.symm hne), Option.or_none]
    rfl
  have hkeep : ∀ otherID, (db.view otherID).isSome → ((db.addOperation row).view otherID).isSome := by
    intro otherID hsome
    have hne : otherID ≠ row.id := by
      rintro rfl
      rw [hnone] at hsome
      cases hsome
    rwa [hother otherID hne]
  refine ⟨fun _ => ⟨nodup_keys_append hkeyed.operationIDs hfresh, hkeyed.attemptIDs,
    fun attempt hmem => hkeep _ (hkeyed.attemptOwners attempt hmem),
    fun event hmem => hkeep _ (hkeyed.eventOwners event hmem)⟩, ?_, hother⟩
  rw [view_eq_some]
  refine ⟨?_, (attemptsOf_eq_nil hkeyed hnone).symm, (eventsOf_eq_nil hkeyed hnone).symm⟩
  rw [hlookup, hfind, if_pos rfl]
  rfl

/-- What `prepareOperation` returns: a waiting operation whose attempt limit fits its class. -/
theorem prepareOperation_fresh (h : prepareOperation params newID now = .ok operation) :
    operation.id = newID ∧ ∀ event, (OperationView.record ⟨operation, [], []⟩ event now).Fresh := by
  simp only [prepareOperation, bind_eq_ok_iff] at h
  obtain ⟨_, -, _, -, kind, -, requestID, -, key, -, _, -, maxAttempts, hmax, hrow⟩ := h
  have hpositive : 1 ≤ maxAttempts ∧ (params.retryClass = .none → maxAttempts = 1) := by
    unfold normalizeMaxAttempts at hmax
    split at hmax
    · cases hmax
      split
      · simp
      · simp_all
    · split at hmax
      · cases hmax
      split at hmax
      · cases hmax
      · cases hmax
        constructor
        · omega
        · intro hclass
          simp_all
  cases hrow
  refine ⟨rfl, fun event => ⟨Consistent.record ⟨?_, ?_, rfl, Nat.zero_le _, hpositive.2, ?_, ?_, ?_, rfl⟩ event now, rfl, rfl⟩⟩
  · simp
  · simp
  · simp [columnsFitStatus]
  · simp [ProgressFits]
  · simp [AttemptsFit, Settled]

/-- **Creation.** An accepted request answers with the stored operation of its key, or is refused, or
adds one fresh view. -/
theorem createOperationTx_cases (hkeyed : db.Keyed) (hprepared : prepareOperation params newID now = .ok operation) :
    (∃ existing, createOperationTx db operation now = .ok (db, .ok existing)) ∨
      (∃ error, createOperationTx db operation now = .error error ∧ ∀ trigger, error ≠ .trigger trigger) ∨
      ∃ db' w, createOperationTx db operation now = .ok (db', .ok operation) ∧ w.row = operation ∧
        w.Fresh ∧ db.view newID = none ∧ db.Replaces db' newID w := by
  cases hfound : operation.idempotencyKey.bind
      (db.findOperationByIdempotencyKeyTx operation.accountID) with
  | some existing =>
    simp only [createOperationTx, hfound]
    by_cases hsame : sameOperationInput existing operation = true
    · left
      exact ⟨existing, by rw [if_pos hsame]; rfl⟩
    · right; left
      exact ⟨_, by rw [if_neg hsame]; rfl, by simp⟩
  | none =>
    right
    simp only [createOperationTx, hfound, insertNewOperationTx, insertOperation]
    split
    · left
      exact ⟨_, rfl, by simp⟩
    next hid =>
    split
    · left
      exact ⟨_, rfl, by simp⟩
    right
    obtain ⟨heq, hfresh⟩ := prepareOperation_fresh hprepared
    have hnone : db.view operation.id = none := by
      rw [view_eq_none]
      refine lookup_eq_none.mpr fun other hmem h => hid ?_
      simp only [any_eq_true, decide_eq_true_eq]
      exact ⟨other, hmem, h⟩
    have hadded := replaces_addOperation hkeyed hnone
    obtain ⟨db₂, hevent, hrecorded⟩ := appendOperationEventTx_ok hadded.self
      ⟨operation.id, none, .created, operation.stage, operation.progressPercent, "operation.created",
        [("kind", .string operation.kind), ("maxAttempts", .number operation.maxAttempts),
          ("retryClass", .string operation.retryClass.text)]⟩ rfl
      (fun attemptID h => by simp at h) now
    rw [← heq]
    simp only [pure_eq_ok, ok_bind, hevent]
    exact ⟨_, _, rfl, rfl, hfresh _, hnone, (hadded.trans hrecorded).appendAudit _⟩

end Create

/-! ### Recovery -/

section Recover

variable {db : OperationStore} {operationID : ID} {v : OperationView} {now : Time}

/-- The row recovery leaves behind. -/
def recoveredRow (now : Time) (row : Operation) : Operation :=
  if row.status = .cancelling then row.setCancelledAfterWorkerLoss now
  else if row.retryClass = .safe ∧ row.attemptCount < row.maxAttempts then
    row.setRetryQueuedAfterWorkerLoss (now.add (retryDelay row.attemptCount)) now
  else row.setFailedAfterWorkerLoss "operation.worker_lease_expired" now

/-- The outcome of recovering one view. -/
structure Recovered (now : Time) (v w : OperationView) : Prop where
  step : OperationStep v w
  row : w.row = recoveredRow now v.row

/-- The transaction recovers the operation. -/
abbrev RecoversTx (now : Time) (db : OperationStore) (operationID : ID) (v : OperationView) : Prop :=
  ∃ db' w, recoverExpiredOperationTx now db operationID = .ok db' ∧ Recovered now v w ∧ db.Replaces db' operationID w

section

variable (hkeyed : db.Keyed) (hview : db.view operationID = some v) (hv : v.Consistent)

include hkeyed hview hv

theorem recoverExpiredOperationTx_cancelling (hstatus : v.row.status = .cancelling) :
    RecoversTx now db operationID v := by
  have hid := row_id_of_view hview
  have hactive := isActive_iff.mpr (.inr hstatus)
  obtain ⟨earlier, attempt, -, -, hcurrent⟩ := hv.current hactive
  obtain ⟨db₁, db₂, hattempts, hupdate, hreplaced⟩ := settle_ok hkeyed hv hactive
    (hv.heldByAny_selects hactive hcurrent.attemptID) (show CodeFits .cancelled none from rfl)
    (q := Operation.hasStatus v.row.id .cancelling) (fun row h => (hasStatus_id row h).trans hid)
    (hasStatus_self rfl hstatus) (g := setCancelledAfterWorkerLoss now) (fun _ => rfl)
    (hv.setCancelledAfterWorkerLoss_allowed hstatus now) rfl now hview
    fun row h => (heldByAny_owner row h).trans hid
  obtain ⟨db', event, hrun, hrecovered⟩ : db.Records operationID (recoverExpiredOperationTx now db operationID) id _ now := by
    simp only [recoverExpiredOperationTx, loadOperationByID_of_view hview, ok_bind,
      hcurrent.attemptID, hstatus, if_true, hattempts, hupdate, pure_eq_ok]
    exact hreplaced.records hid (fun _ hnamed => settle_mem (hv.current_mem hactive (hcurrent.attemptID.trans hnamed)))
      fun _ => ⟨_, rfl, fun _ h => h.appendAudit _⟩
  refine ⟨db', _, hrun, ⟨.recoverCancelled attempt.id event now hstatus hcurrent.attemptID, ?_⟩, hrecovered⟩
  simp [recoveredRow, hstatus, OperationView.settle]

theorem recoverExpiredOperationTx_running (hstatus : v.row.status = .running) :
    RecoversTx now db operationID v := by
  have hid := row_id_of_view hview
  have hactive := isActive_iff.mpr (.inl hstatus)
  obtain ⟨earlier, attempt, -, -, hcurrent⟩ := hv.current hactive
  have hselects := hv.heldByAny_selects hactive hcurrent.attemptID
  have hmem : ∀ named, some attempt.id = some named → named ∈ ((v.settle (heldByAny attempt.id v.row.id) .leaseExpired
      (some "operation.worker_lease_expired") id now).attempts.map OperationAttempt.id) :=
    fun named heq => settle_mem (hv.current_mem hactive (hcurrent.attemptID.trans heq))
  have hnot : v.row.status ≠ .cancelling := by simp [hstatus]
  have hfits : CodeFits .leaseExpired (some "operation.worker_lease_expired") := by simp [CodeFits]
  obtain ⟨db₁, hattempts, hsettled⟩ := settleAttempts_ok hview hv hactive hselects
    (fun row h => (heldByAny_owner row h).trans hid) hfits now
  obtain ⟨db₂, hexpired, hrecorded⟩ := appendOperationEventTx_ok hsettled.self
    ⟨v.row.id, some attempt.id, .leaseExpired, v.row.stage, v.row.progressPercent,
      "operation.worker_lease_expired", [("attempt", .number v.row.attemptCount)]⟩ hid
    hmem now
  have hselected : ∀ row, Operation.hasStatus v.row.id .running row = true → row.id = operationID :=
    fun row h => (hasStatus_id row h).trans hid
  by_cases hretry : v.row.retryClass = .safe ∧ v.row.attemptCount < v.row.maxAttempts
  · obtain ⟨db₃, hupdate, hreplaced⟩ := release_ok hkeyed hv hactive hselects hfits hselected
      (hasStatus_self rfl hstatus)
      (g := setRetryQueuedAfterWorkerLoss (now.add (retryDelay v.row.attemptCount)) now)
      (fun _ => rfl) (hv.setRetryQueuedAfterWorkerLoss_allowed hstatus _ now) rfl now hsettled hrecorded
    obtain ⟨db', event, hrun, hrecovered⟩ : db.Records operationID (recoverExpiredOperationTx now db operationID) id _ now := by
      simp only [recoverExpiredOperationTx, loadOperationByID_of_view hview, ok_bind, hcurrent.attemptID, if_neg hnot,
        hattempts, hexpired, if_pos hretry, hupdate]
      rw [← bind_pure (appendOperationEventTx _ _ _)]
      exact hreplaced.records hid hmem fun _ => ⟨_, rfl, fun _ => id⟩
    refine ⟨db', _, hrun, ⟨.recoverRetry attempt.id "operation.worker_lease_expired" _ _ event now hstatus
      hcurrent.attemptID hretry.1 hretry.2, ?_⟩, hrecovered⟩
    simp [recoveredRow, hnot, hretry, OperationView.settle]
  · obtain ⟨db₃, hupdate, hreplaced⟩ := release_ok hkeyed hv hactive hselects hfits hselected
      (hasStatus_self rfl hstatus) (g := setFailedAfterWorkerLoss "operation.worker_lease_expired" now)
      (fun _ => rfl) (hv.setFailedAfterWorkerLoss_allowed hstatus _ now) rfl now hsettled hrecorded
    obtain ⟨db', event, hrun, hrecovered⟩ : db.Records operationID (recoverExpiredOperationTx now db operationID) id _ now := by
      simp only [recoverExpiredOperationTx, loadOperationByID_of_view hview, ok_bind, hcurrent.attemptID, if_neg hnot,
        hattempts, hexpired, if_neg hretry, hupdate, pure_eq_ok]
      exact hreplaced.records hid hmem fun _ => ⟨_, rfl, fun _ h => h.appendAudit _⟩
    refine ⟨db', _, hrun, ⟨.recoverFailed attempt.id "operation.worker_lease_expired" _ event now hstatus
      hcurrent.attemptID, ?_⟩, hrecovered⟩
    simp [recoveredRow, hnot, hretry, OperationView.settle]

theorem recoverExpiredOperationTx_ok (hactive : v.row.status.isActive = true) (now : Time) :
    RecoversTx now db operationID v := by
  rcases isActive_iff.mp hactive with hstatus | hstatus
  · exact recoverExpiredOperationTx_running hkeyed hview hv hstatus
  · exact recoverExpiredOperationTx_cancelling hkeyed hview hv hstatus

end

/-- **The recovery loop.** Over distinct held operations it takes one step for each and leaves the
rest alone. -/
theorem foldlM_recover_ok (now : Time) (operationIDs : List ID) (hnodup : operationIDs.Nodup) :
    ∀ db : OperationStore, db.Keyed →
      (∀ k ∈ operationIDs, ∃ v, db.view k = some v ∧ v.Consistent ∧ v.row.status.isActive = true) →
      ∃ db', operationIDs.foldlM (recoverExpiredOperationTx now) db = .ok db' ∧ db'.Keyed ∧
        (∀ k, k ∉ operationIDs → db'.view k = db.view k) ∧
        ∀ k ∈ operationIDs, ∃ v w, db.view k = some v ∧ db'.view k = some w ∧ Recovered now v w := by
  induction operationIDs with
  | nil => exact fun db hkeyed _ => ⟨db, rfl, hkeyed, fun _ _ => rfl, by simp⟩
  | cons operationID rest ih =>
    intro db hkeyed hheld
    obtain ⟨hhead, htail⟩ := List.nodup_cons.mp hnodup
    obtain ⟨v, hview, hv, hactive⟩ := hheld operationID (mem_cons_self ..)
    obtain ⟨db₁, w, hrun, hrecovered, hreplaces⟩ := recoverExpiredOperationTx_ok hkeyed hview hv hactive now
    have hne : ∀ k ∈ rest, k ≠ operationID := fun k hmem heq => hhead (heq ▸ hmem)
    obtain ⟨db₂, hloop, hkeyed₂, hframe, hsteps⟩ := ih htail db₁ (hreplaces.keyed hkeyed) fun k hmem => by
      rw [hreplaces.other k (hne k hmem)]
      exact hheld k (mem_cons_of_mem _ hmem)
    refine ⟨db₂, ?_, hkeyed₂, fun k hmem => ?_, fun k hmem => ?_⟩
    · rw [List.foldlM_cons, hrun]
      exact hloop
    · obtain ⟨hkhead, hkrest⟩ := not_or.mp (fun h => hmem (mem_cons.mpr h))
      rw [hframe k hkrest, hreplaces.other k hkhead]
    · rcases mem_cons.mp hmem with rfl | hrest
      · exact ⟨v, w, hview, by rw [hframe k hhead, hreplaces.self], hrecovered⟩
      · obtain ⟨v', w', hview', hview'', hrecovered'⟩ := hsteps k hrest
        rw [hreplaces.other k (hne k hrest)] at hview'
        exact ⟨v', w', hview', hview'', hrecovered'⟩

theorem mem_expiredOperationIDs :
    k ∈ expiredOperationIDs now db ↔ ∃ row ∈ db.operations, leaseExpired now row = true ∧ row.id = k := by
  simp [expiredOperationIDs, mem_insertionSort, and_assoc]

theorem nodup_expiredOperationIDs (hkeyed : db.Keyed) : (expiredOperationIDs now db).Nodup := by
  have hperm := perm_insertionSort (fun left right => leaseOrder left right = true)
    (db.operations.filter (leaseExpired now))
  refine (hperm.map Operation.id).nodup_iff.mpr ?_
  exact hkeyed.operationIDs.sublist (List.filter_sublist.map Operation.id)

theorem leaseExpired_iff (hkeyed : db.Keyed) (hview : db.view k = some v) :
    k ∈ expiredOperationIDs now db ↔ leaseExpired now v.row = true := by
  rw [mem_expiredOperationIDs]
  constructor
  · rintro ⟨row, hmem, hexpired, rfl⟩
    have h := view_of_mem hkeyed hmem
    rw [hview] at h
    rw [some.inj h]
    exact hexpired
  · intro hexpired
    exact ⟨v.row, mem_operations_of_view hview, hexpired, row_id_of_view hview⟩

theorem isActive_of_leaseExpired (h : leaseExpired now row = true) : row.status.isActive = true :=
  (Bool.and_eq_true_iff.mp h).1

/-- **Recovery** never fails on a well-formed store: an operation whose lease has run out takes one
step, every other operation stays. -/
theorem recoverExpiredOperationsTx_ok (hdb : db.WellFormed) (now : Time) :
    ∃ db', recoverExpiredOperationsTx now db = .ok (db', (expiredOperationIDs now db).length) ∧ db'.Keyed ∧
      (∀ k, db.view k = none → db'.view k = none) ∧
      ∀ k v, db.view k = some v → ∃ w, db'.view k = some w ∧
        if leaseExpired now v.row = true then Recovered now v w else w = v := by
  have hheld : ∀ k ∈ expiredOperationIDs now db,
      ∃ v, db.view k = some v ∧ v.Consistent ∧ v.row.status.isActive = true := by
    intro k hmem
    obtain ⟨row, hstored, hexpired, rfl⟩ := mem_expiredOperationIDs.mp hmem
    have hview := view_of_mem hdb.keyed hstored
    exact ⟨_, hview, hdb.consistent _ _ hview, isActive_of_leaseExpired hexpired⟩
  obtain ⟨db', hloop, hkeyed, hframe, hsteps⟩ := foldlM_recover_ok now _
    (nodup_expiredOperationIDs hdb.keyed) db hdb.keyed hheld
  refine ⟨db', ?_, hkeyed, fun k hnone => ?_, fun k v hview => ?_⟩
  · simp only [recoverExpiredOperationsTx, hloop, ok_bind, pure_eq_ok]
  · rw [hframe k, hnone]
    intro hmem
    obtain ⟨v, hview, -⟩ := hheld k hmem
    rw [hnone] at hview
    cases hview
  · by_cases hexpired : leaseExpired now v.row = true
    · obtain ⟨v', w, hview', hviewed, hrecovered⟩ := hsteps k ((leaseExpired_iff hdb.keyed hview).mpr hexpired)
      rw [hview] at hview'
      cases hview'
      exact ⟨w, hviewed, by rwa [if_pos hexpired]⟩
    · refine ⟨v, ?_, by rw [if_neg hexpired]⟩
      rw [hframe k fun hmem => hexpired ((leaseExpired_iff hdb.keyed hview).mp hmem), hview]

end Recover

/-! ### Claims -/

section Claim

variable {db : OperationStore} {operationID : ID} {v : OperationView} {now : Time}

/-- The attempt a claim opens. -/
def openedAttempt (v : OperationView) (newID workerInstanceID : ID) (leaseExpiresAt now : Time) :
    OperationAttempt where
  id := newID
  operationID := v.row.id
  attemptNumber := v.row.attemptCount + 1
  workerInstanceID := workerInstanceID
  claimedAt := now
  heartbeatAt := now
  leaseExpiresAt := leaseExpiresAt
  completedAt := none
  outcome := .running
  errorCode := none

theorem openedAttempt_opens (hbudget : v.row.attemptCount < v.row.maxAttempts)
    (hfresh : ∀ other ∈ v.attempts, other.id ≠ newID) (workerInstanceID : ID) (leaseExpiresAt now : Time) :
    v.Opens (openedAttempt v newID workerInstanceID leaseExpiresAt now) :=
  ⟨hbudget, rfl, rfl, rfl, rfl, rfl, hfresh⟩

/-- The attempt number a claim uses is not taken. -/
theorem OperationView.Consistent.number_lt (hv : v.Consistent) (hmem : attempt ∈ v.attempts) :
    attempt.attemptNumber < v.row.attemptCount + 1 := by
  have hnumber := mem_map_of_mem (f := OperationAttempt.attemptNumber) hmem
  rw [hv.numbered, mem_range'_1] at hnumber
  omega

theorem validateInsert_of_view (hview : db.view operationID = some v) (hstatus : v.row.status = .pending)
    (hbudget : v.row.attemptCount < v.row.maxAttempts) (howner : attempt.operationID = v.row.id)
    (hnumber : attempt.attemptNumber = v.row.attemptCount + 1) :
    operationAttemptsValidateInsert db.operations attempt = false := by
  simp only [operationAttemptsValidateInsert, Bool.not_eq_false', any_eq_true, decide_eq_true_eq]
  refine ⟨v.row, mem_operations_of_view hview, howner.symm, hstatus, hnumber, ?_⟩
  rw [hnumber]
  exact hbudget

theorem insertAttempt_ok (hview : db.view operationID = some v) (hv : v.Consistent)
    (hstatus : v.row.status = .pending) (hopens : v.Opens attempt)
    (hfresh : ∀ other ∈ db.attempts, other.id ≠ attempt.id) :
    db.insertAttempt attempt = .ok (db.addAttempt attempt) := by
  have hid := row_id_of_view hview
  have hvalid := validateInsert_of_view hview hstatus hopens.budget hopens.owner hopens.number
  rw [insertAttempt, hvalid, any_eq_false.mpr, any_eq_false.mpr]
  · rfl
  · simp only [decide_eq_true_eq]
    rintro other hmem ⟨howner, hnumber⟩
    have hown : other ∈ v.attempts := by
      rw [(view_eq_some.mp hview).2.1]
      exact mem_owned.mpr ⟨hmem, howner.trans (hopens.owner.trans hid)⟩
    have hlt := hv.number_lt hown
    rw [hnumber, hopens.number] at hlt
    exact lt_irrefl _ hlt
  · simpa using hfresh

/-- The view a claim leads to. -/
def claimedView (v : OperationView) (attempt : OperationAttempt) (event : AppendOperationEventParams)
    (now : Time) : OperationView :=
  ((v.addAttempt attempt).setRow (setClaimed attempt now)).record event now

theorem claimOperationTx_pending (hkeyed : db.Keyed) (hview : db.view operationID = some v) (hv : v.Consistent)
    (hstatus : v.row.status = .pending) (hbudget : v.row.attemptCount < v.row.maxAttempts)
    (hfresh : ∀ other ∈ db.attempts, other.id ≠ newID) (workerInstanceID : ID) (leaseExpiresAt now : Time) :
    ∃ db' event, claimOperationTx db operationID workerInstanceID newID leaseExpiresAt now =
        .ok (db', .ok ⟨v.row.setClaimed (openedAttempt v newID workerInstanceID leaseExpiresAt now) now,
          openedAttempt v newID workerInstanceID leaseExpiresAt now⟩) ∧
      db.Replaces db' operationID
        (claimedView v (openedAttempt v newID workerInstanceID leaseExpiresAt now) event now) := by
  have hid := row_id_of_view hview
  have hown : ∀ other ∈ v.attempts, other.id ≠ newID := by
    intro other hmem
    rw [(view_eq_some.mp hview).2.1] at hmem
    exact hfresh other (mem_owned.mp hmem).1
  have hopens := openedAttempt_opens hbudget hown workerInstanceID leaseExpiresAt now
  have hinsert := insertAttempt_ok hview hv hstatus hopens hfresh
  have hadded := replaces_addAttempt hview (hopens.owner.trans hid) hfresh
  obtain ⟨hupdate, hupdated⟩ := updateOperations_ok (hadded.keyed hkeyed) hadded.self
    (p := Operation.hasStatus v.row.id .pending)
    (f := setClaimed (openedAttempt v newID workerInstanceID leaseExpiresAt now) now)
    (fun _ => rfl) (fun row h => (hasStatus_id row h).trans hid) (hasStatus_self rfl hstatus)
    (abort_of_current (hv.setClaimed_allowed hstatus hopens now)
      (mem_append_right _ (mem_singleton.mpr rfl)) ⟨rfl, rfl, rfl, rfl, rfl, rfl⟩ rfl)
  obtain ⟨db₃, hevent, hrecorded⟩ := appendOperationEventTx_ok hupdated.self
    ⟨v.row.id, some newID, .claimed, v.row.stage, v.row.progressPercent, "operation.claimed",
      [("attempt", .number (v.row.attemptCount + 1 : Nat))]⟩ hid
    (fun attemptID h => by
      rw [← some.inj h]
      simp [openedAttempt]) now
  have hclaimed := (hadded.trans hupdated).trans hrecorded
  have hload := loadOperationByID_of_view hrecorded.self
  rw [← hid] at hload
  refine ⟨db₃, _, ?_, hclaimed⟩
  unfold openedAttempt at hinsert hupdate hevent hload ⊢
  simp only [claimOperationTx, loadOperationByID_of_view hview, ok_bind, hinsert, hupdate,
    expectAffected, ne_eq, not_true, if_false, hevent, hload, pure_eq_ok]
  rfl

theorem claimOperationTx_taken (hview : db.view operationID = some v) (hstatus : v.row.status = .pending)
    (hbudget : v.row.attemptCount < v.row.maxAttempts) (htaken : ∃ other ∈ db.attempts, other.id = newID)
    (workerInstanceID : ID) (leaseExpiresAt now : Time) :
    claimOperationTx db operationID workerInstanceID newID leaseExpiresAt now =
      .error (.constraint "UNIQUE constraint failed: operation_attempts.id") := by
  obtain ⟨other, hmem, hother⟩ := htaken
  have hids : (db.attempts.any fun row => decide (row.id = newID)) = true := by
    simp only [any_eq_true, decide_eq_true_eq]
    exact ⟨other, hmem, hother⟩
  simp only [claimOperationTx, loadOperationByID_of_view hview, ok_bind, insertAttempt, hids, if_true]
  rw [validateInsert_of_view hview hstatus hbudget rfl rfl]
  rfl

theorem nextClaimableID_some (h : nextClaimableID kinds now db = some k) :
    ∃ row ∈ db.operations, claimable kinds now row = true ∧ row.id = k := by
  simp only [nextClaimableID, map_eq_some_iff] at h
  obtain ⟨row, hhead, rfl⟩ := h
  have hmem := mem_of_mem_head? hhead
  rw [mem_insertionSort, mem_filter] at hmem
  exact ⟨row, hmem.1, hmem.2, rfl⟩

theorem claimable_iff :
    claimable kinds now row = true ↔
      (row.status = .pending ∧ row.attemptCount < row.maxAttempts ∧ row.kind ∈ kinds) ∧
        row.nextAttemptAt.any (fun next => decide (julianday next ≤ julianday now)) = true := by
  simp only [claimable, and_eq_true, decide_eq_true_eq]

end Claim

end Stackfort
