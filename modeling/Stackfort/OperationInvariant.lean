import Stackfort.OperationRuns

/-! The invariant of the operation store. Whatever calls are made, by however many workers and users
and at whatever clock readings, an operation is held exactly while one of its attempts runs, its
attempts are numbered without gaps up to its limit, full progress means success, its events are
numbered without gaps, and an operation that must not be retried is attempted once and stays
failed. All of it is read off the consistency of the view. -/

namespace Stackfort

open OperationView OperationStore

namespace OperationView

variable {v w : OperationView}

/-- The attempts that run. -/
def runningAttempts (attempts : List OperationAttempt) : List OperationAttempt :=
  attempts.filter fun attempt => decide (attempt.outcome = .running)

theorem runningAttempts_settled {attempts : List OperationAttempt} (h : Settled attempts) :
    runningAttempts attempts = [] := by
  rw [runningAttempts, List.filter_eq_nil_iff]
  intro attempt hmem
  simpa using (h attempt hmem).1

theorem Consistent.runningAttempts_active (hv : v.Consistent) (hactive : v.row.status.isActive = true) :
    ∃ attempt, runningAttempts v.attempts = [attempt] ∧ IsCurrent v.row attempt := by
  obtain ⟨earlier, attempt, hattempts, hsettled, hcurrent⟩ := hv.current hactive
  refine ⟨attempt, ?_, hcurrent⟩
  have hnone := runningAttempts_settled hsettled
  rw [runningAttempts] at hnone ⊢
  rw [hattempts, List.filter_append, hnone]
  simp [hcurrent.running]

theorem Consistent.runningAttempts_inactive (hv : v.Consistent) (hinactive : v.row.status.isActive = false) :
    runningAttempts v.attempts = [] := by
  rw [runningAttempts, List.filter_eq_nil_iff]
  intro attempt hmem
  simpa using hv.none_running_of_inactive hinactive attempt hmem

/-- Success is recorded on the row and on the newest attempt together. -/
theorem Consistent.succeeded_iff (hv : v.Consistent) :
    v.row.status = .succeeded ↔ ∃ attempt, v.attempts.getLast? = some attempt ∧ attempt.outcome = .succeeded := by
  have hfit := hv.attemptsFit
  constructor
  · intro hstatus
    simp only [AttemptsFit, hstatus] at hfit
    obtain ⟨earlier, attempt, hattempts, -, hsucceeded⟩ := hfit
    exact ⟨attempt, by simp [hattempts], hsucceeded⟩
  · rintro ⟨attempt, hlast, hsucceeded⟩
    have hmem := List.mem_of_getLast? hlast
    unfold AttemptsFit at hfit
    cases hstatus : v.row.status <;> simp only [hstatus] at hfit
    case succeeded => rfl
    case running | cancelling =>
      obtain ⟨earlier, current, hattempts, -, hcurrent⟩ := hfit
      rw [hattempts, List.getLast?_concat] at hlast
      rw [← some.inj hlast, hcurrent.running] at hsucceeded
      cases hsucceeded
    case pending | failed | cancelled => exact absurd hsucceeded (hfit attempt hmem).2

theorem Consistent.length_attempts (hv : v.Consistent) : v.attempts.length = v.row.attemptCount := by
  have h := congrArg List.length hv.numbered
  simpa using h

theorem no_step_of_failed (hstatus : v.row.status = .failed) (hclass : v.row.retryClass = .none) :
    ¬OperationStep v w := by
  intro hstep
  rcases step_source hstep with h | h | h
  · rw [hstatus] at h
    cases h
  · rw [hstatus] at h
    cases h
  · exact h.2 hclass

end OperationView

/-- What holds of a stored operation. -/
structure OperationSound (db : OperationStore) (o : Operation) : Prop where
  /-- Some worker holds the operation iff exactly one of its attempts runs. -/
  held : o.status.isActive = true ↔ ∃ attempt, runningAttempts (db.attemptsOf o.id) = [attempt]
  /-- The attempt that runs is the one the operation names, with its worker. -/
  holder : ∀ attempt ∈ runningAttempts (db.attemptsOf o.id),
    o.currentAttemptID = some attempt.id ∧ o.workerInstanceID = some attempt.workerInstanceID
  /-- Attempts are numbered from one without gaps. -/
  numbered : (db.attemptsOf o.id).map OperationAttempt.attemptNumber = List.range' 1 o.attemptCount
  bounded : o.attemptCount ≤ o.maxAttempts
  /-- Full progress means success. -/
  progress : o.progressPercent = 100 ↔ o.status = .succeeded
  succeeded : o.status = .succeeded ↔
    ∃ attempt, (db.attemptsOf o.id).getLast? = some attempt ∧ attempt.outcome = .succeeded
  /-- Events are numbered from one without gaps. -/
  sequences : (db.eventsOf o.id).map OperationEvent.sequence = List.range' 1 (db.eventsOf o.id).length
  /-- An operation that must not be retried has one attempt at most. -/
  single : o.retryClass = .none → (db.attemptsOf o.id).length ≤ 1

theorem OperationView.Consistent.sound {db : OperationStore} {o : Operation}
    (hv : (OperationView.mk o (db.attemptsOf o.id) (db.eventsOf o.id)).Consistent) : OperationSound db o := by
  have hprogress := hv.progress
  refine ⟨⟨fun hactive => ?_, fun ⟨attempt, hrunning⟩ => ?_⟩, fun attempt hmem => ?_, hv.numbered, hv.bounded,
    ?_, hv.succeeded_iff, hv.sequences, fun hclass => ?_⟩
  · obtain ⟨attempt, hrunning, -⟩ := hv.runningAttempts_active hactive
    exact ⟨attempt, hrunning⟩
  · by_contra hinactive
    have hnone := hv.runningAttempts_inactive (Bool.eq_false_iff.mpr hinactive)
    simp only [hrunning] at hnone
    cases hnone
  · have hactive : o.status.isActive = true := by
      by_contra hinactive
      rw [hv.runningAttempts_inactive (Bool.eq_false_iff.mpr hinactive)] at hmem
      cases hmem
    obtain ⟨current, hrunning, hcurrent⟩ := hv.runningAttempts_active hactive
    simp only at hrunning
    rw [hrunning, mem_singleton] at hmem
    rw [hmem]
    exact ⟨hcurrent.attemptID, hcurrent.worker⟩
  · by_cases hstatus : o.status = .succeeded
    · simp only [ProgressFits, hstatus, if_true] at hprogress
      exact ⟨fun _ => hstatus, fun _ => hprogress.2⟩
    · simp only [ProgressFits, hstatus, if_false] at hprogress
      constructor
      · intro h
        omega
      · exact fun h => absurd h hstatus
  · have hlength := hv.length_attempts
    have hbounded := hv.bounded
    have hsingle := hv.single hclass
    simp only at hlength hbounded hsingle
    omega

/-- **The operation store invariant.** In every reachable state every operation is sound, and an
operation of class `none` that has failed never waits again. -/
theorem operations_sound (calls : List OperationCall) :
    (∀ o ∈ (after calls).operations, OperationSound (after calls) o) ∧
      ∀ o ∈ (after calls).operations, o.retryClass = .none → o.status = .failed →
        ∀ later, ∃ o' ∈ (after (calls ++ later)).operations,
          o'.id = o.id ∧ o'.status = .failed := by
  have hdb := after_wellFormed calls
  constructor
  · intro o hmem
    have hview := view_of_mem hdb.keyed hmem
    exact (hdb.consistent _ _ hview).sound
  · intro o hmem hclass hstatus later
    have hview := view_of_mem hdb.keyed hmem
    obtain ⟨w, hviewed, hsteps⟩ := (run_advances hdb later).steps _ _ hview
    have hsame := eq_of_steps (fun u => no_step_of_failed hstatus hclass) hsteps
    subst hsame
    rw [after_append]
    exact ⟨o, mem_operations_of_view hviewed, rfl, hstatus⟩

/-- The operation of a run that fails its only attempt is sound and stays failed. -/
theorem operations_sound_failed :
    ∃ o ∈ (after [Sample.create .none, Sample.claim, Sample.fail false]).operations,
      o.retryClass = .none ∧ o.status = .failed ∧
        OperationSound (after [Sample.create .none, Sample.claim, Sample.fail false]) o ∧
        ∀ later, ∃ o' ∈ (after ([Sample.create .none, Sample.claim, Sample.fail false] ++ later)).operations,
            o'.id = o.id ∧ o'.status = .failed := by
  have hfailed : ∃ o ∈ (after [Sample.create .none, Sample.claim, Sample.fail false]).operations,
      o.retryClass = .none ∧ o.status = .failed := by decide
  obtain ⟨o, hmem, hclass, hstatus⟩ := hfailed
  obtain ⟨hsound, hstays⟩ := operations_sound [Sample.create .none, Sample.claim, Sample.fail false]
  exact ⟨o, hmem, hclass, hstatus, hsound o hmem, hstays o hmem hclass hstatus⟩

/-! ### Histories -/

/-- A step only adds events. -/
theorem OperationView.events_step {v w : OperationView} (hstep : OperationStep v w) : v.events <+: w.events := by
  cases hstep with
  | heartbeat => exact List.prefix_rfl
  | cancelPending | recoverRetry | recoverFailed => exact (List.prefix_append _ _).trans (List.prefix_append _ _)
  | _ => exact List.prefix_append _ _

theorem OperationView.events_steps {v w : OperationView} (hsteps : Steps v w) : v.events <+: w.events := by
  induction hsteps with
  | refl => exact List.prefix_rfl
  | tail _ hstep ih => exact ih.trans (events_step hstep)

theorem leaseExpired_recoveredRow (now : Time) (row : Operation) : leaseExpired now (recoveredRow now row) = false := by
  unfold recoveredRow
  split_ifs <;> rfl

end Stackfort
