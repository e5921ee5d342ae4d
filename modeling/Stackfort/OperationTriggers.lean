import Stackfort.CoreTimeOrder
import Stackfort.OperationColumns

/-! The transitions against the triggers. Of all the statements the transitions issue once their own
checks have passed, the triggers abort one: the heartbeat of an attempt. Its trigger compares the
stored timestamps with the new ones as text, and `formatTime` drops trailing zeros, so a time that is
cut short at some digit sorts after the times it was cut from. A holder whose stored heartbeat or
lease is such a cut of the new one loses its heartbeat although its lease is alive. -/

namespace Stackfort

open OperationView OperationStore Text

/-- The error a transaction is rolled back with once the arguments have passed their checks. -/
def rolledBack {α β : Type} (checked : Except CoreError α) (tx : α → Except TxError β) : Option TxError :=
  match checked with
  | .error _ => none
  | .ok arguments =>
    match tx arguments with
    | .error error => some error
    | .ok _ => none

def OperationCall.rollback (db : OperationStore) : OperationCall → Option TxError
  | .create params newID now =>
    rolledBack (prepareOperation params newID now) fun operation => createOperationTx db operation now
  | .claim params newID now =>
    rolledBack (checkClaim params) fun kinds =>
      claimNextOperationTx db params.workerInstanceID kinds newID (now.add params.leaseDuration) now
  | .heartbeat params now =>
    rolledBack (checkHeartbeat params) fun _ =>
      heartbeatOperationTx db params (now.add params.leaseDuration) now
  | .checkpoint params now =>
    rolledBack (checkCheckpoint params) fun texts => checkpointOperationTx db params texts.1 texts.2 now
  | .complete params now => rolledBack (checkComplete params) fun _ => completeOperationTx db params now
  | .fail params now =>
    rolledBack (checkFail params) fun errorCode => failOperationTx db params errorCode now
  | .requestCancellation params now =>
    rolledBack (checkUserRequest params.scope params.actorID params.requestID) fun requestID =>
      requestOperationCancellationTx db params requestID now
  | .acknowledgeCancellation params now =>
    rolledBack (checkAcknowledge params) fun _ => acknowledgeOperationCancellationTx db params now
  | .retry params now =>
    rolledBack (checkUserRequest params.scope params.actorID params.requestID) fun requestID =>
      retryOperationTx db params requestID now
  | .recoverExpired now => rolledBack (pure ()) fun _ => recoverExpiredOperationsTx now db

theorem rolledBack_eq_some {α β : Type} {checked : Except CoreError α} {tx : α → Except TxError β} {error : TxError} :
    rolledBack checked tx = some error ↔ ∃ arguments, checked = .ok arguments ∧ tx arguments = .error error := by
  unfold rolledBack
  cases checked with
  | error reason => simp
  | ok arguments => cases htx : tx arguments <;> simp [htx]

/-- A heartbeat that passes the checks of its call: the attempt holds its operation, and the lease is
alive. -/
structure BeatsAlive (db : OperationStore) (params : HeartbeatOperationParams) (now : Time)
    (attempt : OperationAttempt) : Prop where
  checked : checkHeartbeat params = .ok ()
  active : (db.loadOperationByID params.operationID).bind (fun operation =>
    validateActiveAttempt operation params.attemptID params.workerInstanceID now) = .ok ()
  mem : attempt ∈ db.attemptsOf params.operationID
  id : attempt.id = params.attemptID

/-- The triggers let a call through, and the heartbeat of a living attempt commits. -/
structure OperationCall.Accepted (call : OperationCall) (db : OperationStore) : Prop where
  noAbort : ∀ trigger, call.rollback db ≠ some (.trigger trigger)
  heartbeat : ∀ params now attempt, call = .heartbeat params now → BeatsAlive db params now attempt →
    call.rollback db = none

/-- The texts of a heartbeat do not sort before the stored ones. -/
def OperationCall.BeatsInOrder (db : OperationStore) : OperationCall → Prop
  | .heartbeat params now => ∀ attempt, BeatsAlive db params now attempt →
      HeartbeatOrdered attempt (now.add params.leaseDuration) now
  | _ => True

/-- The stored heartbeat or lease of a living attempt is the new one cut short at some digit. -/
def OperationCall.BeatsOnCut (db : OperationStore) : OperationCall → Prop
  | .heartbeat params now => ∃ attempt, BeatsAlive db params now attempt ∧ attempt.heartbeatAt ≠ now ∧
      (IsCut 9 attempt.heartbeatAt now ∨ IsCut 9 attempt.leaseExpiresAt (now.add params.leaseDuration))
  | _ => False

/-! ### The heartbeat -/

section Heartbeat

variable {db : OperationStore} {params : HeartbeatOperationParams} {now : Time} {attempt : OperationAttempt}

/-- What a living attempt is: the current one of the view of its operation. -/
theorem BeatsAlive.current (hdb : db.WellFormed) (h : BeatsAlive db params now attempt) :
    ∃ v earlier, db.HeldAt params.operationID params.attemptID params.workerInstanceID now v ∧
      v.attempts = earlier ++ [attempt] ∧ Settled earlier ∧ IsCurrent v.row attempt := by
  cases hview : db.view params.operationID with
  | none =>
    have hactive := h.active
    rw [loadOperationByID_of_none hview] at hactive
    cases hactive
  | some v =>
    have hv := hdb.consistent _ _ hview
    have hactive := h.active
    rw [loadOperationByID_of_view hview] at hactive
    have hlive : v.Held params.attemptID params.workerInstanceID ∧ v.Unexpired now := by
      by_contra hlost
      rw [Except.bind, validateActiveAttempt_lost hlost] at hactive
      cases hactive
    obtain ⟨earlier, current, hattempts, hsettled, hcurrent⟩ := hv.current hlive.1.active
    have hmem : attempt ∈ v.attempts := (view_eq_some.mp hview).2.1 ▸ h.mem
    have hcurrentMem : current ∈ v.attempts := by rw [hattempts]; simp
    have hid : current.id = attempt.id := by
      rw [h.id]
      exact some.inj (hcurrent.attemptID.symm.trans hlive.1.attempt)
    have hsame := List.inj_on_of_nodup_map hv.attemptIDs hcurrentMem hmem hid
    exact ⟨v, earlier, ⟨hdb, hview, hlive.1, hlive.2⟩, hsame ▸ hattempts, hsettled, hsame ▸ hcurrent⟩

/-- The holder of a living lease beats with the current attempt. -/
theorem beatsAlive_of_held {v : OperationView} (hchecked : checkHeartbeat params = .ok ())
    (h : db.HeldAt params.operationID params.attemptID params.workerInstanceID now v) {earlier : List OperationAttempt}
    (hattempts : v.attempts = earlier ++ [attempt]) (hcurrent : IsCurrent v.row attempt) :
    BeatsAlive db params now attempt where
  checked := hchecked
  active := by
    rw [h.load]
    exact h.valid
  mem := by
    show attempt ∈ db.attemptsOf params.operationID
    rw [← (view_eq_some.mp h.view).2.1, hattempts]
    simp
  id := some.inj (hcurrent.attemptID.symm.trans h.held.attempt)

theorem heartbeat_commits (hdb : db.WellFormed)
    (halive : BeatsAlive db params now attempt)
    (hordered : HeartbeatOrdered attempt (now.add params.leaseDuration) now) :
    (OperationCall.heartbeat params now).rollback db = none := by
  obtain ⟨v, earlier, hheld, hattempts, hsettled, hcurrent⟩ := halive.current hdb
  obtain ⟨db', htx, -⟩ := heartbeatOperationTx_held params hheld
    (now.add params.leaseDuration) (heartbeat_accepted hattempts hsettled hcurrent hordered)
  simp only [OperationCall.rollback, rolledBack, halive.checked, htx]

theorem heartbeat_aborts (hdb : db.WellFormed)
    (halive : BeatsAlive db params now attempt)
    (hunordered : ¬HeartbeatOrdered attempt (now.add params.leaseDuration) now) :
    (OperationCall.heartbeat params now).rollback db =
      some (.trigger .operationAttemptsRestrictUpdate) := by
  obtain ⟨v, earlier, hheld, hattempts, -, hcurrent⟩ := halive.current hdb
  exact rolledBack_eq_some.mpr
    ⟨(), halive.checked, heartbeatOperationTx_aborted hheld hattempts hcurrent hunordered⟩

/-- A trigger aborts the heartbeats of living attempts only. -/
theorem alive_of_abort (hdb : db.WellFormed) {trigger : Trigger}
    (h : (OperationCall.heartbeat params now).rollback db = some (.trigger trigger)) :
    ∃ attempt, BeatsAlive db params now attempt := by
  obtain ⟨_, hchecked, htx⟩ := rolledBack_eq_some.mp h
  rcases heldTx_cases hdb (rfl : heartbeatOperationTx db params _ now = _) with
    ⟨error, hrefused, hne⟩ | ⟨v, hheld⟩
  · cases htx.symm.trans hrefused
    exact absurd rfl (hne trigger)
  · obtain ⟨earlier, attempt, hattempts, -, hcurrent⟩ := hheld.consistent.current hheld.held.active
    exact ⟨attempt, beatsAlive_of_held hchecked hheld hattempts hcurrent⟩

theorem accepted_heartbeat_iff (hdb : db.WellFormed) :
    (OperationCall.heartbeat params now).Accepted db ↔ (OperationCall.heartbeat params now).BeatsInOrder db := by
  constructor
  · intro haccepted attempt halive
    by_contra hunordered
    exact haccepted.noAbort _ (heartbeat_aborts hdb halive hunordered)
  · intro hinOrder
    refine ⟨fun trigger habort => ?_, fun params' now' attempt hcall halive => ?_⟩
    · obtain ⟨attempt, halive⟩ := alive_of_abort hdb habort
      rw [heartbeat_commits hdb halive (hinOrder attempt halive)] at habort
      cases habort
    · cases hcall
      exact heartbeat_commits hdb halive (hinOrder attempt halive)

end Heartbeat

/-! ### The other calls -/

theorem accepted_of_sound {α β : Type} {db : OperationStore} {call : OperationCall}
    {touches : OperationView → Prop} {checked : Except CoreError α} {tx : α → Except TxError (Committed β)}
    (hcall : call.rollback db = rolledBack checked tx) (hbeats : ∀ params now, call ≠ .heartbeat params now)
    (hsound : ∀ arguments, checked = .ok arguments → db.TxSound touches (tx arguments)) : call.Accepted db where
  noAbort := by
    intro trigger habort
    rw [hcall] at habort
    obtain ⟨arguments, hchecked, htx⟩ := rolledBack_eq_some.mp habort
    exact (hsound arguments hchecked).noAbort trigger htx
  heartbeat := fun params now _ h => absurd h (hbeats params now)

/-- **One statement can be aborted.** A trigger aborts a heartbeat whose texts are out of order, and
nothing else. -/
theorem accepted_iff {db : OperationStore} (hdb : db.WellFormed) (call : OperationCall) :
    call.Accepted db ↔ call.BeatsInOrder db := by
  cases call with
  | heartbeat params now => exact accepted_heartbeat_iff hdb
  | create params newID now =>
    exact iff_of_true (accepted_of_sound rfl (by simp) fun operation hprepared =>
      createOperationTx_sound hdb now hprepared) trivial
  | claim params newID now =>
    exact iff_of_true (accepted_of_sound rfl (by simp) fun kinds _ =>
      claimNextOperationTx_sound hdb now _ kinds newID _) trivial
  | checkpoint params now =>
    exact iff_of_true (accepted_of_sound rfl (by simp) fun texts hchecked =>
      checkpointOperationTx_sound hdb now params (checkCheckpoint_bound hchecked).2 _ _) trivial
  | complete params now =>
    exact iff_of_true (accepted_of_sound rfl (by simp) fun _ _ =>
      completeOperationTx_sound hdb now params) trivial
  | fail params now =>
    exact iff_of_true (accepted_of_sound rfl (by simp) fun errorCode _ =>
      failOperationTx_sound hdb now params errorCode) trivial
  | requestCancellation params now =>
    exact iff_of_true (accepted_of_sound rfl (by simp) fun requestID _ =>
      requestOperationCancellationTx_sound hdb now params requestID) trivial
  | acknowledgeCancellation params now =>
    exact iff_of_true (accepted_of_sound rfl (by simp) fun _ _ =>
      acknowledgeOperationCancellationTx_sound hdb now params) trivial
  | retry params now =>
    exact iff_of_true (accepted_of_sound rfl (by simp) fun requestID _ =>
      retryOperationTx_sound hdb now params requestID) trivial
  | recoverExpired now =>
    obtain ⟨db', hrecover, -⟩ := recoverExpiredOperationsTx_moves hdb now
    refine iff_of_true ⟨fun trigger habort => ?_, fun _ _ _ h => by cases h⟩ trivial
    change rolledBack (pure ()) (fun _ : Unit => recoverExpiredOperationsTx now db) = _ at habort
    obtain ⟨_, -, htx⟩ := rolledBack_eq_some.mp habort
    rw [hrecover] at htx
    cases htx

/-! ### Clocks and leases -/

/-- The clock readings of a run never decrease. -/
def Clocked (calls : List OperationCall) : Prop := calls.Pairwise fun earlier later => earlier.now ≤ later.now

/-- Every attempt is claimed and renewed with one lease duration. -/
def LeaseKept (calls : List OperationCall) : Prop :=
  ∀ attemptID, ∀ call ∈ calls, ∀ other ∈ calls, ∀ lease otherLease,
    call.leaseFor attemptID = some lease → other.leaseFor attemptID = some otherLease → lease = otherLease

theorem add_lt_add_iff {a b : Nat} {d : Int} (hd : 0 ≤ d) : Time.add a d < Time.add b d ↔ a < b := by
  show (a + d).toNat < (b + d).toNat ↔ a < b
  omega

theorem add_le_add_of_le {a : Nat} {d e : Int} (h : d ≤ e) : Time.add a d ≤ Time.add a e := by
  show (a + d).toNat ≤ (a + e).toNat
  omega

/-- Timestamps that grow stay in order as texts, unless the earlier one is a cut of the later one. -/
theorem formatTime_le_iff {a b : Time} (hab : a < b) (hb : b < endOfFormat) :
    formatTime a ≤ formatTime b ↔ ¬IsCut 9 a b := by
  rw [← formatTime_lt_iff hab hb]
  exact Iff.rfl

theorem checkHeartbeat_lease {params : HeartbeatOperationParams} (h : checkHeartbeat params = .ok ()) :
    0 ≤ params.leaseDuration ∧ params.leaseDuration ≤ maximumOperationLease := by
  simp only [checkHeartbeat, bind_eq_ok_iff] at h
  obtain ⟨_, -, h⟩ := h
  unfold validateLeaseDuration at h
  split at h
  · cases h
  · next hbounds =>
    have hpos : 0 ≤ minimumOperationLease := by decide
    rw [not_or, not_lt, not_lt] at hbounds
    exact ⟨hpos.trans hbounds.1, hbounds.2⟩

section Clock

variable {calls : List OperationCall} {params : HeartbeatOperationParams} {now : Time}
  (hclock : Clocked (calls ++ [.heartbeat params now])) (hkept : LeaseKept (calls ++ [.heartbeat params now]))
  {attempt : OperationAttempt}

include hclock hkept

/-- The stored times of a living attempt are those of an earlier reading and of the same lease. -/
theorem BeatsAlive.stored (h : BeatsAlive (after calls) params now attempt) :
    attempt.heartbeatAt ≤ now ∧ attempt.leaseExpiresAt = attempt.heartbeatAt.add params.leaseDuration := by
  have hmem : attempt.leaseColumns ∈ (after calls).leaseColumns :=
    List.mem_map_of_mem (mem_owned.mp h.mem).1
  obtain ⟨call, hcall, lease, hlease, hcolumns⟩ := leaseColumns_of_run hmem
  have hsame : lease = params.leaseDuration :=
    hkept attempt.id call (List.mem_append_left _ hcall) (.heartbeat params now) (by simp) _ _ hlease
      (if_pos h.id.symm)
  have hlater : call.now ≤ now := (List.pairwise_append.mp hclock).2.2 call hcall _ (List.mem_singleton_self _)
  obtain ⟨hbeat, hexpires⟩ := Prod.mk.inj hcolumns
  exact ⟨hbeat ▸ hlater, by rw [hexpires, hbeat, hsame]⟩

/-- Between two readings of one clock a heartbeat is out of order exactly on a cut. -/
theorem HeartbeatOrdered_iff_of_stored (h : BeatsAlive (after calls) params now attempt)
    (hformat : now.add maximumOperationLease < endOfFormat) :
    HeartbeatOrdered attempt (now.add params.leaseDuration) now ↔
      ¬(attempt.heartbeatAt ≠ now ∧
        (IsCut 9 attempt.heartbeatAt now ∨ IsCut 9 attempt.leaseExpiresAt (now.add params.leaseDuration))) := by
  obtain ⟨hle, hexpires⟩ := h.stored hclock hkept
  obtain ⟨hpos, hmax⟩ := checkHeartbeat_lease h.checked
  have hlease : now.add params.leaseDuration < endOfFormat := lt_of_le_of_lt (add_le_add_of_le hmax) hformat
  have hnow : now < endOfFormat := by
    refine lt_of_le_of_lt ?_ hformat
    have hmaximum : (0 : Int) ≤ maximumOperationLease := by decide
    have := add_le_add_of_le (a := now) hmaximum
    simpa [Time.add] using this
  unfold HeartbeatOrdered
  rcases Nat.lt_or_eq_of_le hle with hlt | heq
  · rw [formatTime_le_iff hlt hnow, hexpires, formatTime_le_iff ((add_lt_add_iff hpos).mpr hlt) hlease]
    simp only [ne_eq, Nat.ne_of_lt hlt, not_false_eq_true, true_and, not_or]
  · rw [hexpires, heq]
    simp

end Clock

/-- **The transitions against the triggers.** After every run, a call is let through by the triggers,
and commits when it is the heartbeat of a living attempt, exactly when the texts of the heartbeat do
not sort before the stored ones. With clock readings that never decrease and one lease per attempt,
that is so exactly when neither stored text is a cut of the new one. -/
theorem triggers_accept_iff (calls : List OperationCall) (call : OperationCall) :
    (call.Accepted (after calls) ↔ call.BeatsInOrder (after calls)) ∧
      (Clocked (calls ++ [call]) → LeaseKept (calls ++ [call]) → call.now.add maximumOperationLease < endOfFormat →
        (call.Accepted (after calls) ↔ ¬call.BeatsOnCut (after calls))) := by
  have haccepted := accepted_iff (after_wellFormed calls) call
  refine ⟨haccepted, fun hclock hkept hformat => haccepted.trans ?_⟩
  cases call with
  | heartbeat params now =>
    simp only [OperationCall.BeatsInOrder, OperationCall.BeatsOnCut, not_exists]
    refine forall_congr' fun attempt => ?_
    rw [not_and]
    exact forall_congr' fun halive => HeartbeatOrdered_iff_of_stored hclock hkept halive hformat
  | create | claim | checkpoint | complete | fail | requestCancellation | acknowledgeCancellation
  | retry | recoverExpired => exact iff_of_true trivial not_false

namespace Sample

/-- A heartbeat of the sample attempt, some time after its claim. -/
def heartbeat (elapsed : Nat) : OperationCall :=
  .heartbeat ⟨operationID, attemptID, workerID, 30 * second⟩ (time + elapsed)

theorem heartbeat_clocked (elapsed : Nat) : Clocked [create .safe, claim, heartbeat elapsed] := by
  have hbefore : OperationCall.now (create .safe) ≤ (heartbeat elapsed).now ∧
      OperationCall.now claim ≤ (heartbeat elapsed).now :=
    ⟨Nat.le_add_right _ _, Nat.le_add_right _ _⟩
  have hsame : (create .safe).now ≤ claim.now := Nat.le_refl _
  simp [Clocked, hbefore, hsame]

theorem heartbeat_leaseKept (elapsed : Nat) : LeaseKept [create .safe, claim, heartbeat elapsed] := by
  have hlease : ∀ call ∈ [create .safe, claim, heartbeat elapsed], ∀ attemptID lease,
      call.leaseFor attemptID = some lease → lease = 30 * second := by
    intro call hmem attemptID lease h
    simp only [mem_cons, List.not_mem_nil, or_false] at hmem
    rcases hmem with rfl | rfl | rfl
    · cases h
    all_goals
      simp only [claim, heartbeat, OperationCall.leaseFor] at h
      split at h
      · exact (some.inj h).symm
      · cases h
  intro attemptID call hcall other hother lease otherLease h h'
  rw [hlease call hcall _ _ h, hlease other hother _ _ h']

/-- The sample attempt as its claim left it. -/
def attempt : OperationAttempt where
  id := attemptID
  operationID := operationID
  attemptNumber := 1
  workerInstanceID := workerID
  claimedAt := time
  heartbeatAt := time
  leaseExpiresAt := time.add (30 * second)
  completedAt := none
  outcome := .running
  errorCode := none

theorem attemptsOf_claimed : (after [create .safe, claim]).attemptsOf operationID = [attempt] := rfl

end Sample

open Sample

/-- A heartbeat ten whole seconds after the claim commits. -/
theorem triggers_accept_ten_seconds : (heartbeat (10 * second)).Accepted (after [create .safe, claim]) := by
  refine ((triggers_accept_iff [create .safe, claim] (heartbeat (10 * second))).2
    (heartbeat_clocked _) (heartbeat_leaseKept _) (by decide)).mpr ?_
  rintro ⟨attempt, halive, -, hcut⟩
  have hmem : attempt ∈ (after [create .safe, claim]).attemptsOf
    operationID := halive.mem
  rw [attemptsOf_claimed, mem_singleton] at hmem
  subst hmem
  -- A cut keeps the whole seconds.
  rcases hcut with hcut | hcut
  · exact absurd (div_eq_of_isCut hcut) (by decide)
  · exact absurd (div_eq_of_isCut hcut) (by decide)

/-- A heartbeat half a second after the claim is aborted, although clocks and leases are in order. -/
theorem half_second_heartbeat_aborted :
    Clocked [create .safe, claim, heartbeat (second / 2)] ∧
      LeaseKept [create .safe, claim, heartbeat (second / 2)] ∧
      (∃ attempt, BeatsAlive (after [create .safe, claim])
        ⟨operationID, attemptID, workerID, 30 * second⟩ (time + second / 2) attempt) ∧
      (heartbeat (second / 2)).rollback (after [create .safe, claim]) =
        some (.trigger .operationAttemptsRestrictUpdate) ∧
      ((heartbeat (second / 2)).execute (after [create .safe, claim])).error =
        some (.conflict "invalid operation attempt mutation") := by
  refine ⟨heartbeat_clocked _, heartbeat_leaseKept _, ⟨attempt, ?_⟩, by decide, by decide⟩
  exact ⟨by decide, by decide, by rw [attemptsOf_claimed]; simp, rfl⟩

end Stackfort
