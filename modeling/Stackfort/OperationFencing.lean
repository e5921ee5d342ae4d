import Stackfort.OperationInvariant

/-! Fencing. Once an attempt is no longer the running attempt its operation names, nothing that
carries its identifier has an effect: the machine never reopens a settled attempt, identifiers of
attempts are unique, and every call of a worker compares its attempt with the one the row names. A
worker that was delayed past the end of its attempt is told so, unless its arguments do not even
pass the checks made before the transaction. Operations that have succeeded or were cancelled keep
every row they have. -/

namespace Stackfort

open OperationView OperationStore

namespace OperationView

variable {v w : OperationView}

variable {attempt : OperationAttempt}

/-- A step leaves the attempts that no longer run as they are. -/
theorem mem_of_step (hstep : OperationStep v w) (hmem : attempt ∈ v.attempts) (hsettled : attempt.outcome ≠ .running) :
    attempt ∈ w.attempts := by
  have hheld : ∀ attemptID operationID workerInstanceID,
      heldBy attemptID operationID workerInstanceID attempt = false := by
    intro attemptID operationID workerInstanceID
    simp [heldBy, hsettled]
  have hany : ∀ attemptID operationID, heldByAny attemptID operationID attempt = false := by
    intro attemptID operationID
    simp [heldByAny, hsettled]
  cases hstep with
  | claim => exact List.mem_append_left _ hmem
  | checkpoint | cancelPending | cancelRunning | manualRetry => exact hmem
  | heartbeat | complete | scheduleRetry | fail | acknowledge => exact mem_updateWhere_of_not hmem (hheld ..)
  | recoverCancelled | recoverRetry | recoverFailed => exact mem_updateWhere_of_not hmem (hany ..)

/-- **A settled attempt stays settled.** -/
theorem mem_of_steps (hsteps : Steps v w) (hmem : attempt ∈ v.attempts) (hsettled : attempt.outcome ≠ .running) :
    attempt ∈ w.attempts := by
  induction hsteps with
  | refl => exact hmem
  | tail _ hstep ih => exact mem_of_step hstep ih hsettled

theorem Consistent.not_held (hv : v.Consistent) (hmem : attempt ∈ v.attempts) (hsettled : attempt.outcome ≠ .running)
    (workerInstanceID : ID) :
    ¬v.Held attempt.id workerInstanceID := by
  intro hheld
  obtain ⟨earlier, current, hattempts, -, hcurrent⟩ := hv.current hheld.active
  have hcurrentMem : current ∈ v.attempts := by rw [hattempts]; simp
  have hid : current.id = attempt.id := some.inj (hcurrent.attemptID.symm.trans hheld.attempt)
  have hsame := List.inj_on_of_nodup_map hv.attemptIDs hcurrentMem hmem hid
  exact hsettled (hsame ▸ hcurrent.running)

theorem Consistent.current_of_running (hv : v.Consistent) (hmem : attempt ∈ v.attempts)
    (hrunning : attempt.outcome = .running) :
    v.row.currentAttemptID = some attempt.id := by
  have hactive : v.row.status.isActive = true := by
    by_contra hinactive
    exact hv.none_running_of_inactive (Bool.eq_false_iff.mpr hinactive) attempt hmem hrunning
  exact (hv.isCurrent hactive hmem hrunning).attemptID

theorem no_step_of_terminal (hterminal : v.row.status.isTerminal = true) : ¬OperationStep v w := by
  intro hstep
  rcases step_source hstep with h | h | h
  · rw [h] at hterminal
    cases hterminal
  · rcases isActive_iff.mp h with h | h <;> rw [h] at hterminal <;> cases hterminal
  · rw [h.1] at hterminal
    cases hterminal

/-- The attempts that succeeded. -/
def succeededAttempts (attempts : List OperationAttempt) : List OperationAttempt :=
  attempts.filter fun attempt => decide (attempt.outcome = .succeeded)

theorem Consistent.length_succeededAttempts (hv : v.Consistent) : (succeededAttempts v.attempts).length ≤ 1 := by
  have hsettled : ∀ attempts, Settled attempts → succeededAttempts attempts = [] := by
    intro attempts h
    rw [succeededAttempts, List.filter_eq_nil_iff]
    intro attempt hmem
    simpa using (h attempt hmem).2
  have hconcat : ∀ earlier attempt, Settled earlier →
      (succeededAttempts (earlier ++ [attempt])).length ≤ 1 := by
    intro earlier attempt h
    have hnone := hsettled earlier h
    rw [succeededAttempts] at hnone ⊢
    rw [List.filter_append, hnone, List.nil_append]
    exact List.length_filter_le _ _
  have hfit := hv.attemptsFit
  unfold AttemptsFit at hfit
  cases hstatus : v.row.status <;> simp only [hstatus] at hfit
  case running | cancelling | succeeded =>
    obtain ⟨earlier, attempt, hattempts, hearlier, -⟩ := hfit
    rw [hattempts]
    exact hconcat earlier attempt hearlier
  all_goals
    rw [hsettled _ hfit]
    exact Nat.zero_le _

end OperationView

/-- The attempt runs and is the one its operation names. -/
def IsRunningCurrent (db : OperationStore) (operationID attemptID : ID) : Prop :=
  (∃ attempt ∈ db.attemptsOf operationID, attempt.id = attemptID ∧ attempt.outcome = .running) ∧
    ∃ operation, db.findOperation operationID = some operation ∧ operation.currentAttemptID = some attemptID

/-- The calls of a worker that carry an attempt. -/
def OperationCall.Carries (operationID attemptID : ID) : OperationCall → Prop
  | .heartbeat params _ => params.operationID = operationID ∧ params.attemptID = attemptID
  | .checkpoint params _ => params.operationID = operationID ∧ params.attemptID = attemptID
  | .complete params _ => params.operationID = operationID ∧ params.attemptID = attemptID
  | .fail params _ => params.operationID = operationID ∧ params.attemptID = attemptID
  | .acknowledgeCancellation params _ => params.operationID = operationID ∧ params.attemptID = attemptID
  | _ => False

/-- What a call answers when its transaction finds the lease lost. -/
def OperationCall.lostReply (call : OperationCall) : CoreError :=
  match call.checked with
  | .error error => error
  | .ok _ => .operationLeaseLost

theorem transact_lost {α : Type} {db : OperationStore} (call : OperationCall) (checked : Except CoreError α)
    {tx : α → Except TxError (Committed Operation)}
    (htx : ∀ arguments, tx arguments = .error (.core .operationLeaseLost))
    (hchecked : call.checked = checked.map fun _ => ()) :
    (transact db checked tx).reply .operation = (db, .error call.lostReply) := by
  rw [OperationCall.lostReply, hchecked]
  unfold transact
  cases checked with
  | error error => rfl
  | ok arguments =>
    simp only [htx]
    rfl

/-- A call that carries an attempt nobody holds changes nothing. -/
theorem execute_lost {db : OperationStore} {operationID attemptID : ID} {v : OperationView}
    (hview : db.view operationID = some v) (hlost : ∀ workerInstanceID, ¬v.Held attemptID workerInstanceID)
    {call : OperationCall} (hcarries : call.Carries operationID attemptID) :
    call.execute db = (db, .error call.lostReply) := by
  have hnot : ∀ workerInstanceID now, ¬(v.Held attemptID workerInstanceID ∧ v.Unexpired now) :=
    fun workerInstanceID now h => hlost workerInstanceID h.1
  cases call with
  | heartbeat params now =>
    obtain ⟨rfl, rfl⟩ := hcarries
    refine transact_lost (.heartbeat params now) (checkHeartbeat params)
      (fun _ => heldTx_lost hview (hnot _ now)) ?_
    cases h : checkHeartbeat params <;> simp [OperationCall.checked, h, Except.map]
  | checkpoint params now | complete params now | fail params now =>
    obtain ⟨rfl, rfl⟩ := hcarries
    exact transact_lost _ _ (fun _ => heldTx_lost hview (hnot _ now)) rfl
  | acknowledgeCancellation params now =>
    obtain ⟨rfl, rfl⟩ := hcarries
    refine transact_lost (.acknowledgeCancellation params now) (checkAcknowledge params)
      (fun _ => heldTx_lost hview (hnot _ now)) ?_
    cases h : checkAcknowledge params <;> simp [OperationCall.checked, h, Except.map]
  | create | claim | requestCancellation | retry | recoverExpired => exact hcarries.elim

/-- **Fencing.** Once an attempt has stopped being the running attempt of its operation, every later
call that carries it reports the lost lease, or the argument its own checks reject, and changes no
row. Every operation records one success at most, and an operation that has succeeded or was
cancelled keeps its row, its attempts and its events. -/
theorem fenced_attempts (calls later : List OperationCall) :
    (∀ operationID, ∀ attempt ∈ (after calls).attemptsOf operationID,
      ¬IsRunningCurrent (after calls) operationID attempt.id →
      ∀ call : OperationCall, call.Carries operationID attempt.id →
        call.execute (after (calls ++ later)) =
          (after (calls ++ later), .error call.lostReply)) ∧
      (∀ operationID, (succeededAttempts ((after calls).attemptsOf operationID)).length ≤ 1) ∧
      ∀ operationID v, (after calls).view operationID = some v →
        v.row.status.isTerminal = true →
        (after (calls ++ later)).view operationID = some v := by
  have hdb := after_wellFormed calls
  have hadvances := run_advances hdb later
  have hlater := hadvances.wellFormed hdb
  rw [after_append]
  refine ⟨fun operationID attempt hmem hstopped call hcarries => ?_, fun operationID => ?_,
    fun operationID v hview hterminal => ?_⟩
  · obtain ⟨hstored, howner⟩ := mem_owned.mp hmem
    obtain ⟨v, hview⟩ := Option.isSome_iff_exists.mp (hdb.keyed.attemptOwners attempt hstored)
    rw [howner] at hview
    have hmem' : attempt ∈ v.attempts := (view_eq_some.mp hview).2.1 ▸ hmem
    have hsettled : attempt.outcome ≠ .running := fun hrunning =>
      hstopped ⟨⟨attempt, hmem, rfl, hrunning⟩, v.row, (view_eq_some.mp hview).1,
        (hdb.consistent _ _ hview).current_of_running hmem' hrunning⟩
    obtain ⟨w, hviewed, hsteps⟩ := hadvances.steps _ _ hview
    exact execute_lost hviewed ((hlater.consistent _ _ hviewed).not_held (mem_of_steps hsteps hmem' hsettled)
      hsettled) hcarries
  · cases hview : (after calls).view operationID with
    | none =>
      rw [attemptsOf_eq_nil hdb.keyed hview]
      exact Nat.zero_le _
    | some v =>
      rw [← (view_eq_some.mp hview).2.1]
      exact (hdb.consistent _ _ hview).length_succeededAttempts
  · obtain ⟨w, hviewed, hsteps⟩ := hadvances.steps _ _ hview
    rw [hviewed, eq_of_steps (fun u => no_step_of_terminal hterminal) hsteps]

open Sample

/-- No attempt of a run that completes its only attempt is still running. -/
theorem completed_not_current (attemptID : ID) :
    ¬IsRunningCurrent (after [create .safe, claim, complete])
      operationID attemptID := by
  have hnone : ∀ attempt ∈ (after [create .safe, claim, complete]).attemptsOf operationID,
      attempt.outcome ≠ .running := by decide
  rintro ⟨⟨attempt, hmem, -, hrunning⟩, -⟩
  exact hnone attempt hmem hrunning

theorem completed_attempt :
    ∃ attempt ∈ (after [create .safe, claim, complete]).attemptsOf operationID, attempt.id = attemptID := by decide

/-- Completing twice reports the lost lease the second time. -/
theorem fenced_attempts_completed :
    complete.execute (after [create .safe, claim, complete]) =
      (after [create .safe, claim, complete],
        .error .operationLeaseLost) := by
  obtain ⟨attempt, hmem, hid⟩ := completed_attempt
  have hfenced := (fenced_attempts [create .safe, claim, complete] []).1
    operationID attempt hmem (completed_not_current _) complete ⟨rfl, hid.symm⟩
  have hreply : complete.lostReply = .operationLeaseLost := by decide
  rw [hreply] at hfenced
  exact hfenced

/-- A late heartbeat that asks for a lease of one second is turned down before the store is read. -/
theorem late_heartbeat_invalid :
    ∃ attempt ∈ (after [create .safe, claim, complete]).attemptsOf operationID,
      ¬IsRunningCurrent (after [create .safe, claim, complete])
          operationID attempt.id ∧
        ∃ call : OperationCall, call.Carries operationID attempt.id ∧
          (call.execute (after [create .safe, claim, complete])).error =
            some (.invalidInput "lease duration must be between 5s and 5m0s") := by
  obtain ⟨attempt, hmem, hid⟩ := completed_attempt
  exact ⟨attempt, hmem, completed_not_current _, .heartbeat ⟨operationID, attemptID, workerID, second⟩ time,
    ⟨rfl, hid.symm⟩, by decide⟩

end Stackfort
