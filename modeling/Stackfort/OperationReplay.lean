import Stackfort.OperationSettlement

/-! What a retry starts from. The progress of an operation is never taken back: neither the failure of
an attempt nor the loss of its lease resets it, so an attempt finds the percentage of the last
checkpoint an earlier one got accepted. A handler starts over with its own first percentage. The
replay goes through when that is not below what is stored; otherwise its first checkpoint is a
conflict, which the worker records as a failure that is not to be repeated. -/

namespace Stackfort

open OperationView OperationStore

/-! ### Accepted checkpoints -/

/-- The percentage a call reports for an operation, if it is a checkpoint that is accepted. -/
def OperationCall.acceptedFor (operationID : ID) (db : OperationStore) : OperationCall → Option Int
  | .checkpoint params now =>
    if params.operationID = operationID ∧ ((OperationCall.checkpoint params now).execute db).error = none then
      some params.progressPercent
    else none
  | _ => none

/-- The percentages of the checkpoints accepted for an operation in a run, in their order. -/
def acceptedCheckpoints (operationID : ID) : OperationStore → List OperationCall → List Int
  | _, [] => []
  | db, call :: rest =>
    (call.acceptedFor operationID db).toList ++ acceptedCheckpoints operationID (call.execute db).1 rest

/-- The stored progress of an operation; one that is not there has made none. -/
def OperationStore.progressOf (db : OperationStore) (operationID : ID) : Int :=
  ((db.findOperation operationID).map Operation.progressPercent).getD 0

/-- The operation has succeeded. -/
def OperationStore.HasSucceeded (db : OperationStore) (operationID : ID) : Prop :=
  ∃ row, db.findOperation operationID = some row ∧ row.status = .succeeded

section Progress

variable {db db' : OperationStore} {operationID : ID} {v w : OperationView}

theorem progressOf_of_view (h : db.view operationID = some v) :
    db.progressOf operationID = v.row.progressPercent := by
  rw [progressOf, (view_eq_some.mp h).1]
  rfl

theorem progressOf_of_none (h : db.view operationID = none) : db.progressOf operationID = 0 := by
  rw [progressOf, view_eq_none.mp h]
  rfl

theorem progressOf_congr (h : db'.view operationID = db.view operationID) :
    db'.progressOf operationID = db.progressOf operationID := by
  cases hview : db.view operationID with
  | none => rw [progressOf_of_none hview, progressOf_of_none (h.trans hview)]
  | some v => rw [progressOf_of_view hview, progressOf_of_view (h.trans hview)]

theorem checkpoint_cases (hdb : db.WellFormed) (params : CheckpointOperationParams) (now : Time) :
    ((OperationCall.checkpoint params now).execute db).error = none ∧
        (∃ w, db.Replaces ((OperationCall.checkpoint params now).execute db).1 params.operationID w ∧
          w.row.progressPercent = params.progressPercent) ∨
      ((OperationCall.checkpoint params now).execute db).error ≠ none ∧
        ((OperationCall.checkpoint params now).execute db).1 = db := by
  show ((checkpointOperation db params now).reply .operation).error = none ∧
      (∃ w, db.Replaces (checkpointOperation db params now).1 params.operationID w ∧ _) ∨
    ((checkpointOperation db params now).reply .operation).error ≠ none ∧ (checkpointOperation db params now).1 = db
  have hreplied : ∀ error, checkpointOperation db params now = (db, .error error) →
      ((checkpointOperation db params now).reply .operation).error ≠ none ∧
        (checkpointOperation db params now).1 = db := by
    intro error hreply
    rw [hreply]
    exact ⟨by simp [Committed.error, Committed.reply, Except.map], rfl⟩
  cases hchecked : checkCheckpoint params with
  | error error => exact .inr (hreplied error (transact_invalid hchecked))
  | ok texts =>
    have hrefused := fun error (htx : checkpointOperationTx db params texts.1 texts.2 now = .error error) =>
      hreplied (classifyOperationTransitionError error) (by simp only [checkpointOperation, transact, hchecked, htx])
    rcases heldTx_cases hdb (rfl : checkpointOperationTx db params texts.1 texts.2 now = _) with
      ⟨error, htx, -⟩ | ⟨v, hheld⟩
    · exact .inr (hrefused error htx)
    · rcases isActive_iff.mp hheld.held.active with hstatus | hstatus
      · by_cases hgrows : v.row.progressPercent ≤ params.progressPercent
        · obtain ⟨db', event, htx, hreplaces⟩ := checkpointOperationTx_running hheld hstatus hgrows texts.1
            texts.2
          have hcommit : checkpointOperation db params now = _ := transact_of_ok hchecked htx
          rw [hcommit]
          exact .inl ⟨rfl, _, hreplaces, rfl⟩
        · exact .inr (hrefused _ (checkpointOperationTx_decreasing hheld hstatus (not_le.mp hgrows) texts.1 texts.2))
      · exact .inr (hreplied _ (transact_of_ok hchecked (checkpointOperationTx_cancelling hheld hstatus texts.1 texts.2)))

theorem complete_cases (hdb : db.WellFormed) (params : CompleteOperationParams) (now : Time) :
    ((OperationCall.complete params now).execute db).1 = db ∨
      ∃ w, db.Replaces ((OperationCall.complete params now).execute db).1 params.operationID w ∧
        w.row.status = .succeeded := by
  show (completeOperation db params now).1 = db ∨ ∃ w, db.Replaces (completeOperation db params now).1 _ w ∧ _
  rcases transact_cases db (checkComplete params) fun _ => completeOperationTx db params now with
    hsame | ⟨text, db', reply, -, htx, hresult⟩
  · exact .inl hsame
  · have hcommit : (completeOperation db params now).1 = db' := congrArg Prod.fst hresult
    rw [hcommit]
    rcases heldTx_cases hdb (rfl : completeOperationTx db params now = _) with
      ⟨error, hrefused, -⟩ | ⟨v, hheld⟩
    · cases htx.symm.trans hrefused
    · rcases isActive_iff.mp hheld.held.active with hstatus | hstatus
      · obtain ⟨db'', event, hrun, hreplaces⟩ := completeOperationTx_running params hheld hstatus
        rw [htx] at hrun
        cases hrun
        exact .inr ⟨_, hreplaces, rfl⟩
      · rw [completeOperationTx_cancelling hheld hstatus] at htx
        cases htx
        exact .inl rfl

theorem hasSucceeded_of_advances (h : db.Advances db') (hdone : db.HasSucceeded operationID) :
    db'.HasSucceeded operationID := by
  obtain ⟨row, hfound, hstatus⟩ := hdone
  have hview : db.view operationID = some ⟨row, db.attemptsOf operationID, db.eventsOf operationID⟩ :=
    view_eq_some.mpr ⟨hfound, rfl, rfl⟩
  obtain ⟨w, hview', hsteps⟩ := h.steps operationID _ hview
  have hstuck : ∀ u, ¬OperationStep ⟨row, db.attemptsOf operationID, db.eventsOf operationID⟩ u := by
    intro u hstep
    rcases step_source hstep with hsource | hsource | ⟨hsource, -⟩ <;> simp [hstatus, OperationStatus.isActive] at hsource
  rw [eq_of_steps hstuck hsteps] at hview'
  exact ⟨row, (view_eq_some.mp hview').1, hstatus⟩

/-- Rows that were there keep their progress when no statement writes it. -/
theorem progressOf_of_traced (hdb : db.WellFormed) (h : db.Advances db')
    (htraced : ∀ columns ∈ db'.progressColumns, columns ∈ db.progressColumns ∨ columns = (operationID, 0) ∧
      db.view operationID = none ∨ columns.1 ≠ operationID) :
    db'.progressOf operationID = db.progressOf operationID := by
  cases hview' : db'.view operationID with
  | none =>
    cases hview : db.view operationID with
    | none => rw [progressOf_of_none hview', progressOf_of_none hview]
    | some v =>
      obtain ⟨w, hsome, -⟩ := h.steps operationID v hview
      rw [hview'] at hsome
      cases hsome
  | some w =>
    rw [progressOf_of_view hview']
    have hid := row_id_of_view hview'
    have hmem : (operationID, w.row.progressPercent) ∈ db'.progressColumns := by
      rw [← hid]
      exact List.mem_map_of_mem (mem_operations_of_view hview')
    rcases htraced _ hmem with hold | ⟨hzero, hnone⟩ | hne
    · obtain ⟨row, hrow, hcolumns⟩ := mem_map.mp hold
      obtain ⟨rfl, hprogress⟩ := Prod.mk.inj hcolumns
      rw [progressOf_of_view (view_of_mem hdb.keyed hrow), hprogress]
    · rw [progressOf_of_none hnone]
      exact (Prod.mk.inj hzero).2
    · exact absurd rfl hne

/-- **Progress is what was accepted last.** A call stores the percentage of a checkpoint it accepts and
otherwise leaves the progress of every operation that has not succeeded. -/
theorem progressOf_execute (hdb : db.WellFormed) (call : OperationCall)
    (hopen : ¬(call.execute db).1.HasSucceeded operationID) :
    (call.execute db).1.progressOf operationID =
      (call.acceptedFor operationID db).getD (db.progressOf operationID) := by
  have hmoves := execute_moves hdb call
  have htraces := (execute_traces db call).progress
  -- every call but three writes no progress at all
  have hkeeps : call.acceptedFor operationID db = none → call.progressFor operationID = none →
      (call.execute db).1.progressOf operationID = (call.acceptedFor operationID db).getD (db.progressOf operationID) := by
    intro hnone hwrites
    rw [hnone, Option.getD_none]
    refine progressOf_of_traced hdb hmoves.advances fun columns hmem => ?_
    rcases htraces columns hmem with hold | hnew
    · exact .inl hold
    · refine .inr (.inr ?_)
      rintro rfl
      rw [hwrites] at hnew
      cases hnew
  cases call with
  | create params newID now =>
    show _ = db.progressOf operationID
    cases hview : db.view operationID with
    | some v => exact progressOf_congr ((hmoves.untouched _ v hview id).trans hview.symm)
    | none =>
      refine progressOf_of_traced hdb hmoves.advances fun columns hmem => ?_
      rcases htraces columns hmem with hold | hnew
      · exact .inl hold
      · by_cases hid : columns.1 = operationID
        · simp only [OperationCall.progressFor] at hnew
          split at hnew
          · exact .inr (.inl ⟨Prod.ext hid (some.inj hnew).symm, hview⟩)
          · cases hnew
        · exact .inr (.inr hid)
  | checkpoint params now =>
    by_cases hid : params.operationID = operationID
    · rcases checkpoint_cases hdb params now with ⟨haccepted, w, hreplaces, hprogress⟩ | ⟨hrefused, hsame⟩
      · rw [OperationCall.acceptedFor, if_pos ⟨hid, haccepted⟩, Option.getD_some, ← hid,
          progressOf_of_view hreplaces.self, hprogress]
      · rw [OperationCall.acceptedFor, if_neg fun h => hrefused h.2, hsame]
        rfl
    · exact hkeeps (if_neg fun h => hid h.1) (if_neg hid)
  | complete params now =>
    by_cases hid : params.operationID = operationID
    · rcases complete_cases hdb params now with hsame | ⟨w, hreplaces, hstatus⟩
      · rw [hsame]
        rfl
      · rw [hid] at hreplaces
        exact absurd ⟨w.row, (view_eq_some.mp hreplaces.self).1, hstatus⟩ hopen
    · exact hkeeps rfl (if_neg hid)
  | claim | heartbeat | fail | requestCancellation | acknowledgeCancellation | retry | recoverExpired =>
    exact hkeeps rfl rfl

/-- The same over a run: what is stored is the last percentage accepted in it. -/
theorem progressOf_run (hdb : db.WellFormed) (calls : List OperationCall)
    (hopen : ¬(db.run calls).HasSucceeded operationID) :
    (db.run calls).progressOf operationID =
      (acceptedCheckpoints operationID db calls).getLast?.getD (db.progressOf operationID) := by
  induction calls generalizing db with
  | nil => rfl
  | cons call rest ih =>
    have hadvances := (execute_moves hdb call).advances
    have hdb' := hadvances.wellFormed hdb
    have hopen' : ¬(call.execute db).1.HasSucceeded operationID :=
      fun hdone => hopen (hasSucceeded_of_advances (run_advances hdb' rest) hdone)
    show ((call.execute db).1.run rest).progressOf operationID = _
    rw [ih hdb' hopen, progressOf_execute hdb call hopen', acceptedCheckpoints, List.getLast?_append]
    cases (acceptedCheckpoints operationID (call.execute db).1 rest).getLast? with
    | some percent => rfl
    | none => cases call.acceptedFor operationID db <;> rfl

end Progress

/-- **Progress is what was accepted last.** After any run an operation that has succeeded shows full progress, and any
other the last percentage it accepted. -/
theorem progress_last_accepted (calls : List OperationCall) (operationID : ID) :
    ((after calls).HasSucceeded operationID ∧ (after calls).progressOf operationID = 100) ∨
      (after calls).progressOf operationID = (acceptedCheckpoints operationID empty calls).getLast?.getD 0 := by
  by_cases hdone : (after calls).HasSucceeded operationID
  · obtain ⟨row, hfound, hstatus⟩ := hdone
    have hdb := after_wellFormed calls
    have hview := view_of_mem hdb.keyed (mem_of_lookup hfound)
    have hprogress := (hdb.consistent _ _ hview).progress.2
    rw [if_pos hstatus] at hprogress
    refine .inl ⟨⟨row, hfound, hstatus⟩, ?_⟩
    rw [progressOf, hfound]
    exact hprogress
  · exact .inr (progressOf_run empty_wellFormed calls hdone)

/-! ### A handler that starts over -/

/-- A handler that reports its checkpoints in order, hands on the first error it is answered with, and
otherwise returns its result. -/
def replay (updates : List ProgressUpdate) (result : JsonObject) : HandlerRun :=
  match updates with
  | [] => .done (.result result)
  | update :: rest => .checkpoint false update fun
      | none => replay rest result
      | some error => .done (.error (.ofCall error))

/-- The error a handler returns when its checkpoint is below the stored progress. -/
def decreased : HandlerError := .ofCall (.core (.conflict "operation progress cannot decrease"))

/-- The operation has failed with a code. -/
def OperationStore.HasFailed (db : OperationStore) (operationID : ID) (code : String) : Prop :=
  ∃ row, db.findOperation operationID = some row ∧ row.status = .failed ∧ row.errorCode = some code

namespace RunEvent

variable (claimed : ClaimedOperation) (s : RunState)

/-- The parent context lives, the lease is alive at every call of the worker, and nobody else touches
the operation, not even to cancel it. -/
def Undisturbed : RunEvent → Prop
  | .other call => ∀ v, s.db.view claimed.operation.id = some v → ¬call.Touches v
  | event => event.Timely claimed s

/-- A checkpoint made now is accepted. -/
def CheckpointAccepted : RunEvent → Prop
  | .checkpoint now => ∀ detached update next, s.phase = .handling (.checkpoint detached update next) →
      ((Runner.checkpointCall claimed update now).execute s.db).error = none
  | _ => True

/-- The event is none of the handler or of what follows it. -/
def IsAside : RunEvent → Prop
  | .other _ | .tick _ | .stop => True
  | _ => False

end RunEvent

/-- The worker holds a running operation, and nothing has ended its handler's context. -/
structure Steady (runner : Runner) (claimed : ClaimedOperation) (s : RunState) (v : OperationView) : Prop where
  holds : Holds runner claimed s.db v
  running : v.row.status = .running
  alive : s.shutdown = false
  cause : s.cause = none
  heartbeat : ∀ error, s.heartbeat ≠ .ended (some error)

section Replay

variable {runner : Runner} {claimed : ClaimedOperation} {s s' : RunState} {v : OperationView}
  {update : ProgressUpdate} {now : Time} {text : String}

section

variable {texts : String × String} (h : Holds runner claimed s.db v) (hvalid : runner.Valid claimed)
  (hlease : v.Unexpired now) (hstatus : v.row.status = .running)
  (hchecked : checkCheckpoint (Runner.checkpointParams claimed update) = .ok texts)

include h hvalid hlease hstatus hchecked

theorem Holds.checkpoint_accepted (hgrows : v.row.progressPercent ≤ update.progressPercent) :
    ∃ w, Holds runner claimed ((Runner.checkpointCall claimed update now).execute s.db).1 w ∧
      w.row.status = .running ∧ w.row.progressPercent = update.progressPercent ∧
      ((Runner.checkpointCall claimed update now).execute s.db).error = none := by
  obtain ⟨db', event, htx, hreplaces⟩ := checkpointOperationTx_running (h.checkpointHeld hvalid hlease update)
    hstatus hgrows texts.1 texts.2
  have hexecute : checkpointOperation s.db (Runner.checkpointParams claimed update) now = _ :=
    transact_of_ok hchecked htx
  have hcommit := congrArg Prod.fst hexecute
  refine ⟨_, h.replaced hcommit hreplaces ⟨h.held.active, h.held.attempt, h.held.worker⟩, hstatus, rfl, ?_⟩
  show ((checkpointOperation s.db _ now).reply .operation).error = none
  rw [hexecute]
  rfl

theorem Holds.checkpoint_decreasing (hless : update.progressPercent < v.row.progressPercent) :
    ((Runner.checkpointCall claimed update now).execute s.db).1 = s.db ∧
      ((Runner.checkpointCall claimed update now).execute s.db).error =
        some (.conflict "operation progress cannot decrease") := by
  have hheld := h.checkpointHeld hvalid hlease update
  have hreply : checkpointOperation s.db (Runner.checkpointParams claimed update) now =
      (s.db, .error (.conflict "operation progress cannot decrease")) :=
    transact_rollback hchecked (checkpointOperationTx_decreasing hheld hstatus hless texts.1 texts.2)
  show (checkpointOperation s.db _ now).1 = s.db ∧ ((checkpointOperation s.db _ now).reply .operation).error = _
  rw [hreply]
  exact ⟨rfl, rfl⟩

end

theorem next_checkpoint (db : OperationStore) (heartbeat : Heartbeat) (rest : List ProgressUpdate)
    (result : JsonObject) (now : Time) :
    runner.next claimed ⟨db, false, none, heartbeat, .handling (replay (update :: rest) result)⟩ (.checkpoint now) =
      some ⟨((Runner.checkpointCall claimed update now).execute db).1, false, none, heartbeat,
        .handling (match ((Runner.checkpointCall claimed update now).execute db).error with
          | none => replay rest result
          | some error => .done (.error (.ofCall (.core error))))⟩ := by
  simp only [Runner.next, replay, Option.isSome_none, Bool.and_false, OperationCall.invoke_alive]
  cases ((Runner.checkpointCall claimed update now).execute db).error <;> rfl

variable {event : RunEvent}

section

variable {result : JsonObject} (h : Steady runner claimed s v) (hvalid : runner.Valid claimed)

include h hvalid

/-- What happens aside changes neither the progress nor where the worker is. -/
theorem Steady.aside (haside : event.IsAside) (hundisturbed : event.Undisturbed claimed s)
    (hordered : event.BeatsInOrder runner claimed s) (hstep : runner.next claimed s event = some s') :
    ∃ w, Steady runner claimed s' w ∧ w.row.progressPercent = v.row.progressPercent ∧ s'.phase = s.phase := by
  cases event with
  | other call =>
    cases hstep
    exact ⟨v, ⟨h.holds.untouched (hundisturbed v h.holds.view), h.running, h.alive, h.cause, h.heartbeat⟩, rfl, rfl⟩
  | tick now =>
    obtain ⟨w, hw, hrow, herror⟩ := h.holds.heartbeat hvalid (hundisturbed v h.holds.view) hordered
    rw [if_neg (by simp [h.running])] at herror
    simp only [Runner.next] at hstep
    split at hstep
    · rw [h.cause, Option.isSome_none, OperationCall.invoke_alive, herror] at hstep
      cases hstep
      refine ⟨w, ⟨hw, ?_, h.alive, rfl, h.heartbeat⟩, ?_, rfl⟩
      · rw [hrow]
        exact h.running
      · rw [hrow]
        rfl
    · cases hstep
  | stop =>
    simp only [Runner.next] at hstep
    split at hstep
    · rw [h.cause] at hstep
      cases hstep
    · cases hstep
      exact ⟨v, ⟨h.holds, h.running, h.alive, h.cause, by simp⟩, rfl, rfl⟩
    · cases hstep
  | shutdown | checkpoint | observe | handlerReturn | conclude | settle => exact haside.elim

/-- The percentages are reported in order, and each checkpoint passes the check of its arguments. -/
structure Replayable (claimed : ClaimedOperation) (updates : List ProgressUpdate) : Prop where
  sorted : updates.Pairwise fun earlier later => earlier.progressPercent ≤ later.progressPercent
  checked : ∀ update ∈ updates, ∃ texts, checkCheckpoint (Runner.checkpointParams claimed update) = .ok texts

/-- Where a replay is that goes through. -/
inductive Accepting (claimed : ClaimedOperation) (result : JsonObject) (progress : Int) : RunPhase → Prop where
  | handling {updates : List ProgressUpdate} (hreplayable : Replayable claimed updates)
      (hfits : ∀ update ∈ updates, progress ≤ update.progressPercent) :
      Accepting claimed result progress (.handling (replay updates result))
  | stopping : Accepting claimed result progress (.stopping (.result result))
  | settling : Accepting claimed result progress (.settling (.complete result))

/-- Where a replay is whose first checkpoint is turned down. -/
inductive Rejecting (claimed : ClaimedOperation) (result : JsonObject) (progress : Int) : RunPhase → Prop where
  | handling {update : ProgressUpdate} {rest : List ProgressUpdate}
      (hreplayable : Replayable claimed (update :: rest)) (hless : update.progressPercent < progress) :
      Rejecting claimed result progress (.handling (replay (update :: rest) result))
  | rejected : Rejecting claimed result progress (.handling (.done (.error decreased)))
  | stopping : Rejecting claimed result progress (.stopping (.error decreased))
  | settling : Rejecting claimed result progress (.settling (.fail ⟨"operation.handler_failed", false⟩))

/-- The worker has returned, and the operation has succeeded. -/
def Completed (claimed : ClaimedOperation) (s : RunState) : Prop :=
  s.phase = .returned none ∧ s.db.HasSucceeded claimed.operation.id

/-- The worker has returned, and the operation has failed for good. -/
def HandlerFailed (claimed : ClaimedOperation) (s : RunState) : Prop :=
  s.phase = .returned (some (.run claimed.operation.id "operation.handler_failed")) ∧
    s.db.HasFailed claimed.operation.id "operation.handler_failed"

/-- The steps of a replay that goes through: every checkpoint is accepted, and the last step completes
the operation. -/
theorem Steady.accepting (hresult : encodeSafeOperationObject result maxOperationJSONBytes = .ok text)
    (hphase : Accepting claimed result v.row.progressPercent s.phase) (haside : ¬event.IsAside)
    (hundisturbed : event.Undisturbed claimed s) (hstep : runner.next claimed s event = some s') :
    event.CheckpointAccepted claimed s ∧
      ((∃ w, Steady runner claimed s' w ∧ Accepting claimed result w.row.progressPercent s'.phase) ∨
        Completed claimed s') := by
  obtain ⟨db, shutdown, cause, heartbeat, phase⟩ := s
  obtain rfl : shutdown = false := h.alive
  obtain rfl : cause = none := h.cause
  cases event with
  | other | tick | stop => exact absurd trivial haside
  | shutdown => exact hundisturbed.elim
  | checkpoint now =>
    cases hphase with
    | stopping | settling => cases hstep
    | @handling updates hreplayable hfits =>
      cases updates with
      | nil => cases hstep
      | cons update rest =>
        obtain ⟨texts, hchecked⟩ := hreplayable.checked update List.mem_cons_self
        obtain ⟨w, hw, hrunning, hprogress, herror⟩ := h.holds.checkpoint_accepted hvalid
          (hundisturbed v h.holds.view) h.running hchecked (hfits update List.mem_cons_self)
        have hsorted := List.pairwise_cons.mp hreplayable.sorted
        refine ⟨fun detached update' next heq => ?_, .inl ⟨w, ?_⟩⟩
        · cases heq
          exact herror
        · simp only [next_checkpoint, herror] at hstep
          cases hstep
          refine ⟨⟨hw, hrunning, rfl, rfl, h.heartbeat⟩, .handling ⟨hsorted.2, fun u hu =>
            hreplayable.checked u (List.mem_cons_of_mem _ hu)⟩ fun u hu => ?_⟩
          rw [hprogress]
          exact hsorted.1 u hu
  | observe =>
    cases hphase with
    | stopping | settling => cases hstep
    | @handling updates => cases updates <;> cases hstep
  | handlerReturn =>
    cases hphase with
    | stopping | settling => cases hstep
    | @handling updates =>
      cases updates with
      | cons => cases hstep
      | nil =>
        cases hstep
        exact ⟨trivial, .inl ⟨v, ⟨h.holds, h.running, rfl, rfl, h.heartbeat⟩, .stopping⟩⟩
  | conclude =>
    cases hphase with
    | handling | settling => cases hstep
    | stopping =>
      obtain _ | heartbeatErr := heartbeat
      · cases hstep
      · cases heartbeatErr with
        | some error => exact absurd rfl (h.heartbeat error)
        | none =>
          cases hstep
          exact ⟨trivial, .inl ⟨v, ⟨h.holds, h.running, rfl, rfl, h.heartbeat⟩, .settling⟩⟩
  | settle now =>
    cases hphase with
    | handling | stopping => cases hstep
    | settling =>
      have hrecords := completeOperationTx_running (runner.completeParams claimed result)
        (h.holds.heldAt (hundisturbed v h.holds.view)) h.running
      obtain ⟨hreply, hfound⟩ := (runner.settlementCall claimed now (.complete result)).stores rfl
        (checkComplete_of_text hvalid hresult) hrecords
      simp only [Runner.next, OperationCall.invoke_alive, hreply] at hstep
      cases hstep
      exact ⟨trivial, .inr ⟨rfl, _, hfound, rfl⟩⟩

/-- The steps of a replay that does not: its first checkpoint is turned down, and the last step fails the
operation. -/
theorem Steady.rejecting (hphase : Rejecting claimed result v.row.progressPercent s.phase) (haside : ¬event.IsAside)
    (hundisturbed : event.Undisturbed claimed s) (hstep : runner.next claimed s event = some s') :
    (∃ w, Steady runner claimed s' w ∧ Rejecting claimed result w.row.progressPercent s'.phase) ∨
      HandlerFailed claimed s' := by
  obtain ⟨db, shutdown, cause, heartbeat, phase⟩ := s
  obtain rfl : shutdown = false := h.alive
  obtain rfl : cause = none := h.cause
  cases event with
  | other | tick | stop => exact absurd trivial haside
  | shutdown => exact hundisturbed.elim
  | observe => cases hphase <;> cases hstep
  | checkpoint now =>
    cases hphase with
    | rejected | stopping | settling => cases hstep
    | @handling update rest hreplayable hless =>
      obtain ⟨texts, hchecked⟩ := hreplayable.checked update List.mem_cons_self
      obtain ⟨hsame, herror⟩ := h.holds.checkpoint_decreasing hvalid (hundisturbed v h.holds.view) h.running
        hchecked hless
      simp only [next_checkpoint, hsame, herror] at hstep
      cases hstep
      exact .inl ⟨v, ⟨h.holds, h.running, rfl, rfl, h.heartbeat⟩, .rejected⟩
  | handlerReturn =>
    cases hphase with
    | handling | stopping | settling => cases hstep
    | rejected =>
      cases hstep
      exact .inl ⟨v, ⟨h.holds, h.running, rfl, rfl, h.heartbeat⟩, .stopping⟩
  | conclude =>
    cases hphase with
    | handling | rejected | settling => cases hstep
    | stopping =>
      obtain _ | heartbeatErr := heartbeat
      · cases hstep
      · cases heartbeatErr with
        | some error => exact absurd rfl (h.heartbeat error)
        | none =>
          cases hstep
          exact .inl ⟨v, ⟨h.holds, h.running, rfl, rfl, h.heartbeat⟩, .settling⟩
  | settle now =>
    cases hphase with
    | handling | rejected | stopping => cases hstep
    | settling =>
      have hcode : validateAction (Failure.mk "operation.handler_failed" false).code "errorCode" 80 =
          .ok "operation.handler_failed" := by decide
      have hrecords := failOperationTx_final (runner.failParams claimed ⟨"operation.handler_failed", false⟩)
        (h.holds.heldAt (hundisturbed v h.holds.view)) (.inl rfl) "operation.handler_failed"
      obtain ⟨hreply, hfound⟩ := (runner.settlementCall claimed now (.fail ⟨_, false⟩)).stores rfl
        (checkFail_of_code hvalid hcode) hrecords
      simp only [Runner.next, OperationCall.invoke_alive, hreply] at hstep
      cases hstep
      exact .inr ⟨rfl, _, hfound, rfl, rfl⟩

end

theorem step_of_returned {error : Option RunnerError} (hphase : s.phase = .returned error) (event : RunEvent) :
    runner.step claimed s event = none := by
  simp only [Runner.step, hphase]

/-- The worker is replaying, somewhere in the given phases. -/
def Replaying (runner : Runner) (claimed : ClaimedOperation) (phases : Int → RunPhase → Prop) (s : RunState) :
    Prop :=
  ∃ v, Steady runner claimed s v ∧ phases v.row.progressPercent s.phase

section Runs

variable {phases : Int → RunPhase → Prop} {result : JsonObject} {events : List RunEvent}

/-- What a replay asks of the events beside it. -/
def RunEvent.Quiet (runner : Runner) (claimed : ClaimedOperation) (s : RunState) (event : RunEvent) : Prop :=
  event.Undisturbed claimed s ∧ event.BeatsInOrder runner claimed s

/-- Asides keep a replay going, so only the steps of the handler and of what follows need to be looked
at. -/
theorem Replaying.step (hvalid : runner.Valid claimed) {P : Prop} {R : RunState → Prop}
    (h : Replaying runner claimed phases s) (hquiet : event.Quiet runner claimed s)
    (hstep : runner.step claimed s event = some s') (haside : event.IsAside → P)
    (hown : ∀ v, Steady runner claimed s v → phases v.row.progressPercent s.phase → ¬event.IsAside → runner.next claimed s event = some s' → P ∧ (Replaying runner claimed phases s' ∨ R s')) :
    P ∧ (Replaying runner claimed phases s' ∨ R s') := by
  obtain ⟨v, hsteady, hphase⟩ := h
  have hnext : runner.next claimed s event = some s' := by
    unfold Runner.step at hstep
    split at hstep
    · cases hstep
    · exact hstep
  by_cases hcase : event.IsAside
  · obtain ⟨w, hw, hprogress, hsame⟩ := hsteady.aside hvalid hcase hquiet.1 hquiet.2 hnext
    refine ⟨haside hcase, .inl ⟨w, hw, ?_⟩⟩
    rw [hprogress, hsame]
    exact hphase
  · exact hown v hsteady hphase hcase hnext

theorem checkpointAccepted_of_isAside (haside : event.IsAside) : event.CheckpointAccepted claimed s := by
  cases event with
  | checkpoint now => exact haside.elim
  | _ => trivial

variable (hvalid : runner.Valid claimed)
  (hquiet : Events.Along (runner.step claimed) (RunEvent.Quiet runner claimed) s events)
  (hrun : Events.run (runner.step claimed) s events = some s') {error : Option RunnerError}
  (hreturned : s'.phase = .returned error)

include hvalid hquiet hrun hreturned

/-- A replay that does not fall below the stored progress gets all its checkpoints accepted and
completes. -/
theorem Replaying.completes (h : Replaying runner claimed (Accepting claimed result) s)
    (hresult : encodeSafeOperationObject result maxOperationJSONBytes = .ok text) :
    Events.Along (runner.step claimed) (RunEvent.CheckpointAccepted claimed) s events ∧ Completed claimed s' := by
  obtain ⟨haccepted, ⟨v, -, hphase⟩ | hdone⟩ := Events.run_until (R := Completed claimed)
    (fun s event s' h hevent hstep => h.step hvalid hevent hstep checkpointAccepted_of_isAside
      fun v hsteady hphase haside hnext => hsteady.accepting hvalid hresult hphase haside hevent.1 hnext)
    (fun s event hdone => step_of_returned hdone.1 event) h hquiet hrun
  · rw [hreturned] at hphase
    cases hphase
  · exact ⟨haccepted, hdone⟩

/-- A replay that starts below the stored progress fails the operation. -/
theorem Replaying.fails (h : Replaying runner claimed (Rejecting claimed result) s) : HandlerFailed claimed s' := by
  obtain ⟨-, ⟨v, -, hphase⟩ | hdone⟩ := Events.run_until (R := HandlerFailed claimed) (Q := fun _ _ => True)
    (fun s event s' h hevent hstep => h.step hvalid hevent hstep (fun _ => trivial)
      fun v hsteady hphase haside hnext => ⟨trivial, hsteady.rejecting hvalid hphase haside hevent.1 hnext⟩)
    (fun s event hdone => step_of_returned hdone.1 event) h hquiet hrun
  · rw [hreturned] at hphase
    cases hphase
  · exact hdone

theorem Replaying.not_accepted {rest : List ProgressUpdate} (hreplayable : Replayable claimed (update :: rest))
    (h : Replaying runner claimed (fun progress phase => update.progressPercent < progress ∧ phase = .handling (replay (update :: rest) result)) s) :
    ¬Events.Along (runner.step claimed) (RunEvent.CheckpointAccepted claimed) s events := by
  -- before the checkpoint nothing but the checkpoint can happen, and it is not accepted
  have hrefused : ∀ s v event s', Steady runner claimed s v → update.progressPercent < v.row.progressPercent →
      s.phase = .handling (replay (update :: rest) result) → ¬event.IsAside → event.Undisturbed claimed s →
      runner.next claimed s event = some s' → ¬event.CheckpointAccepted claimed s := by
    intro s v event s' hsteady hless hphase haside hundisturbed hnext haccepted
    obtain ⟨db, shutdown, cause, heartbeat, phase⟩ := s
    subst hphase
    cases event with
    | other | tick | stop => exact haside trivial
    | shutdown => exact hundisturbed
    | observe | handlerReturn | conclude | settle => cases hnext
    | checkpoint now =>
      obtain ⟨texts, hchecked⟩ := hreplayable.checked update List.mem_cons_self
      have hconflict := (hsteady.holds.checkpoint_decreasing hvalid (hundisturbed v hsteady.holds.view)
        hsteady.running hchecked hless).2
      rw [haccepted false update _ rfl] at hconflict
      cases hconflict
  intro haccepted
  obtain ⟨-, ⟨v, -, -, hphase⟩ | himpossible⟩ := Events.run_until (R := fun _ => False) (Q := fun _ _ => True)
    (fun s event s' h hevent hstep => h.step (R := fun _ => False) hvalid hevent.1 hstep (fun _ => trivial)
      fun v hsteady hphase haside hnext =>
        absurd hevent.2 (hrefused s v event s' hsteady hphase.1 hphase.2 haside hevent.1.1 hnext))
    (fun s event himpossible => himpossible.elim) h (hquiet.and haccepted) hrun
  · rw [hreturned] at hphase
    cases hphase
  · exact himpossible

end Runs

end Replay

/-- The replay goes through: what was accepted last in earlier attempts is not above the percentage the
handler starts with. -/
def ReplayFits (accepted : List Int) (updates : List ProgressUpdate) : Prop :=
  ∀ percent ∈ accepted.getLast?, ∀ update ∈ updates.head?, percent ≤ update.progressPercent

variable {accepted : List Int}

/-- The condition says how the first percentage of the handler compares with what is stored. -/
theorem replayFits_cons {claimed : ClaimedOperation} {update : ProgressUpdate} {rest : List ProgressUpdate}
    (h : Replayable claimed (update :: rest)) :
    ReplayFits accepted (update :: rest) ↔ accepted.getLast?.getD 0 ≤ update.progressPercent := by
  obtain ⟨texts, hchecked⟩ := h.checked update List.mem_cons_self
  have hpositive : 0 ≤ update.progressPercent := (checkCheckpoint_bound hchecked).1
  unfold ReplayFits
  cases accepted.getLast? with
  | none => simpa using hpositive
  | some percent => simp

/-- A list in order stays above what its first percentage is above. -/
theorem ReplayFits.le {claimed : ClaimedOperation} {updates : List ProgressUpdate}
    (hreplayable : Replayable claimed updates) (hfits : ReplayFits accepted updates) :
    ∀ update ∈ updates, accepted.getLast?.getD 0 ≤ update.progressPercent := by
  cases updates with
  | nil => simp
  | cons first rest =>
    have hfirst := (replayFits_cons hreplayable).mp hfits
    intro update hmem
    rcases mem_cons.mp hmem with rfl | hmem
    · exact hfirst
    · exact hfirst.trans ((List.pairwise_cons.mp hreplayable.sorted).1 update hmem)

/-- What an attempt starts from: the last percentage accepted in earlier ones. -/
theorem Runner.begin_steady {runner : Runner} {calls : List OperationCall} {newID : ID} {now : Time}
    {claimed : ClaimedOperation} {s : RunState} (hbegin : (runner.begin (after calls) newID now).2 = .ok (claimed, s))
    (hids : validateAttemptIdentity claimed.operation.id claimed.attempt.id runner.workerInstanceID = .ok ()) :
    runner.Valid claimed ∧ s.phase = .handling (runner.handlerRun claimed) ∧
      ∃ v, Steady runner claimed s v ∧ v.row.progressPercent =
        (acceptedCheckpoints claimed.operation.id empty calls).getLast?.getD 0 := by
  obtain ⟨db', hclaim, rfl⟩ := Runner.claim_of_begin hbegin
  have hdb := after_wellFormed calls
  obtain ⟨hdb', hlease, hworker, w, hview, hheld, -, hrunning⟩ := claimNextOperation_ok hdb hclaim
  refine ⟨⟨hids, hlease, hworker⟩, rfl, w, ⟨⟨hdb', hview, hheld⟩, hrunning, rfl, rfl, by simp⟩, ?_⟩
  have hopen : ¬db'.HasSucceeded claimed.operation.id := by
    rintro ⟨row, hfound, hstatus⟩
    rw [(view_eq_some.mp hview).1] at hfound
    cases hfound
    rw [hrunning] at hstatus
    cases hstatus
  have hstored : ((OperationCall.claim ⟨runner.workerInstanceID, runner.kinds, runner.leaseDuration⟩ newID
      now).execute (after calls)).1 = db' := congrArg Prod.fst hclaim
  have hadvances := (execute_moves hdb (.claim ⟨runner.workerInstanceID, runner.kinds, runner.leaseDuration⟩ newID
    now)).advances
  have hopen' := hopen
  rw [← hstored] at hopen'
  have hkept := progressOf_execute hdb _ hopen'
  rw [hstored] at hadvances hkept
  rw [← progressOf_of_view hview, hkept]
  exact progressOf_run empty_wellFormed calls fun hdone => hopen (hasSucceeded_of_advances hadvances hdone)

namespace Sample

def loading : ProgressUpdate := ⟨"loading", 10, "sample.loading", []⟩

def reconciling : ProgressUpdate := ⟨"reconciling", 35, "sample.reconciling", []⟩

/-- Two checkpoints, as a handler reports them. -/
def updates : List ProgressUpdate := [loading, reconciling]

/-- A worker whose handler reports them and returns. -/
def replayer : Runner where
  workerInstanceID := workerID
  leaseDuration := 30 * second
  heartbeatInterval := 10 * second
  handlers := [("sample.job", fun _ => replay updates [])]
  kinds := ["sample.job"]

def secondAttemptID : ID := "01900000-0000-7000-8000-000000000004"

/-- A minute later, when the retry is due. -/
def later : Time := time + minute

def checkpoint (attemptID : ID) (now : Time) (update : ProgressUpdate) : OperationCall :=
  .checkpoint ⟨operationID, attemptID, workerID, update.stage, update.progressPercent, update.messageCode,
    update.details⟩ now

/-- A first attempt that fails after some of its checkpoints, and asks for another. -/
def retried (count : Nat) : List OperationCall :=
  [create .safe, claim] ++ (updates.take count).map (checkpoint attemptID time) ++ [fail true]

theorem quiet_of_leaseTest {worker : Runner} {claimed : ClaimedOperation} (s : RunState) (event : RunEvent)
    (h : leaseTest claimed s event = true) : event.Quiet worker claimed s := by
  refine ⟨?_, inOrder_of_leaseTest s event h⟩
  cases event with
  | other call => cases h
  | _ => exact timely_of_leaseTest s _ h

/-- A test of what the second claim returns. -/
def replayTest (count : Nat) (accepted : List Int) (claimed : ClaimedOperation) : Bool :=
  decide (claimed.operation.kind = "sample.job" ∧
    acceptedCheckpoints claimed.operation.id empty (retried count) = accepted) &&
    updates.all fun update => (checkCheckpoint (Runner.checkpointParams claimed update)).isOk

theorem of_replayTest {count : Nat} {claimed : ClaimedOperation} (h : replayTest count accepted claimed = true) :
    replayer.handlerRun claimed = replay updates [] ∧
      acceptedCheckpoints claimed.operation.id empty (retried count) = accepted ∧
      Replayable claimed updates := by
  rw [replayTest, and_eq_true, decide_eq_true_eq, all_eq_true] at h
  obtain ⟨⟨hkind, haccepted⟩, hchecked⟩ := h
  refine ⟨by simp [Runner.handlerRun, replayer, hkind], haccepted, by simp [updates, loading, reconciling],
    fun update hmem => ?_⟩
  exact Except.exists_of_isOk (hchecked update hmem)

end Sample

open Sample

end Stackfort
