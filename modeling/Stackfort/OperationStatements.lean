import Stackfort.OperationMachine

/-! Statements and views. Every statement of a transition acts on the view of one operation and
leaves the others alone; `Replaces` says so for a store and its successor, and composes along the
statements of a transaction. For each statement there is one lemma: under the conditions its
trigger and its keys ask for, it succeeds, and the view it leaves is the one the machine computes. -/

namespace Stackfort

open OperationView List

variable {new : Operation} {attempt : OperationAttempt} {event : AppendOperationEventParams}

namespace OperationStore

variable {db db' db'' : OperationStore} {operationID : ID} {v w : OperationView}

/-- What the store holds for an operation. -/
def view (db : OperationStore) (operationID : ID) : Option OperationView :=
  (db.findOperation operationID).map fun row =>
    ⟨row, db.attemptsOf operationID, db.eventsOf operationID⟩

theorem view_eq_some :
    db.view operationID = some v ↔
      db.findOperation operationID = some v.row ∧ v.attempts = db.attemptsOf operationID ∧
        v.events = db.eventsOf operationID := by
  obtain ⟨row, attempts, events⟩ := v
  simp only [view, map_eq_some_iff, OperationView.mk.injEq]
  constructor
  · rintro ⟨found, hfound, rfl, rfl, rfl⟩
    exact ⟨hfound, rfl, rfl⟩
  · rintro ⟨hfound, rfl, rfl⟩
    exact ⟨row, hfound, rfl, rfl, rfl⟩

theorem view_eq_none : db.view operationID = none ↔ db.findOperation operationID = none := by
  simp [view]

theorem row_id_of_view (h : db.view operationID = some v) : v.row.id = operationID :=
  key_of_lookup (view_eq_some.mp h).1

theorem mem_operations_of_view (h : db.view operationID = some v) : v.row ∈ db.operations :=
  mem_of_lookup (view_eq_some.mp h).1

/-! ### Keys -/

/-- Primary keys are unique and every attempt and event belongs to a stored operation. -/
structure Keyed (db : OperationStore) : Prop where
  operationIDs : (db.operations.map Operation.id).Nodup
  attemptIDs : (db.attempts.map OperationAttempt.id).Nodup
  attemptOwners : ∀ attempt ∈ db.attempts, (db.view attempt.operationID).isSome
  eventOwners : ∀ event ∈ db.events, (db.view event.operationID).isSome

theorem view_of_mem (hkeyed : db.Keyed) {row : Operation} (hmem : row ∈ db.operations) :
    db.view row.id = some ⟨row, db.attemptsOf row.id, db.eventsOf row.id⟩ :=
  view_eq_some.mpr ⟨lookup_of_mem hkeyed.operationIDs hmem, rfl, rfl⟩

theorem attemptsOf_eq_nil (hkeyed : db.Keyed) (hnone : db.view operationID = none) :
    db.attemptsOf operationID = [] := by
  rw [eq_nil_iff_forall_not_mem]
  intro attempt hmem
  obtain ⟨hstored, howner⟩ := mem_owned.mp hmem
  have hsome := hkeyed.attemptOwners attempt hstored
  rw [howner, hnone] at hsome
  cases hsome

theorem eventsOf_eq_nil (hkeyed : db.Keyed) (hnone : db.view operationID = none) : db.eventsOf operationID = [] := by
  rw [eq_nil_iff_forall_not_mem]
  intro event hmem
  obtain ⟨hstored, howner⟩ := mem_owned.mp hmem
  have hsome := hkeyed.eventOwners event hstored
  rw [howner, hnone] at hsome
  cases hsome

/-- The successor holds `w` for one operation and is otherwise unchanged. -/
structure Replaces (db db' : OperationStore) (operationID : ID) (w : OperationView) : Prop where
  keyed : db.Keyed → db'.Keyed
  self : db'.view operationID = some w
  other : ∀ otherID, otherID ≠ operationID → db'.view otherID = db.view otherID

theorem Replaces.trans {w' : OperationView} (h : db.Replaces db' operationID w)
    (h' : db'.Replaces db'' operationID w') : db.Replaces db'' operationID w' :=
  ⟨fun hkeyed => h'.keyed (h.keyed hkeyed), h'.self,
    fun otherID hne => (h'.other otherID hne).trans (h.other otherID hne)⟩

theorem Replaces.refl (h : db.view operationID = some v) : db.Replaces db operationID v :=
  ⟨id, h, fun _ _ => rfl⟩

theorem Replaces.appendAudit (h : db.Replaces db' operationID w) (event : AuditEvent) :
    db.Replaces (db'.appendAudit event) operationID w :=
  ⟨fun hkeyed => ⟨(h.keyed hkeyed).1, (h.keyed hkeyed).2, (h.keyed hkeyed).3, (h.keyed hkeyed).4⟩,
    h.self, h.other⟩

/-! ### Effects on views -/

variable {p : Operation → Bool} {f : Operation → Operation}

theorem view_mapOperations (hid : ∀ row, (f row).id = row.id) :
    (db.mapOperations p f).view operationID =
      (db.view operationID).map fun v => v.setRow fun row => if p row then f row else row := by
  simp only [mapOperations, view, findOperation, attemptsOf, eventsOf, Rows.lookup_updateWhere hid, Option.map_map]
  rfl

theorem view_mapAttempts {p : OperationAttempt → Bool} {f : OperationAttempt → OperationAttempt}
    (howner : ∀ row, (f row).operationID = row.operationID) :
    (db.mapAttempts p f).view operationID = (db.view operationID).map fun v => v.setAttempts p f := by
  simp only [mapAttempts, view, findOperation, attemptsOf, eventsOf, Rows.owned_updateWhere howner, Option.map_map]
  rfl

theorem view_addAttempt (attempt : OperationAttempt) :
    (db.addAttempt attempt).view operationID =
      (db.view operationID).map fun v =>
        if attempt.operationID = operationID then v.addAttempt attempt else v := by
  simp only [addAttempt, view, findOperation, attemptsOf, eventsOf, owned_append, Option.map_map]
  congr 1
  funext row
  by_cases h : attempt.operationID = operationID <;> simp [h, OperationView.addAttempt]

theorem view_addEvent (event : OperationEvent) :
    (db.addEvent event).view operationID =
      (db.view operationID).map fun v =>
        if event.operationID = operationID then { v with events := v.events ++ [event] } else v := by
  simp only [addEvent, view, findOperation, attemptsOf, eventsOf, owned_append, Option.map_map]
  congr 1
  funext row
  by_cases h : event.operationID = operationID <;> simp [h]

/-- Keys survive a change that keeps the key columns and loses no operation. -/
theorem Keyed.of_maps (h : db.Keyed) (hoperations : db'.operations.map Operation.id = db.operations.map Operation.id)
    (hattempts : db'.attempts.map OperationAttempt.id = db.attempts.map OperationAttempt.id)
    (howners : db'.attempts.map OperationAttempt.operationID = db.attempts.map OperationAttempt.operationID)
    (hevents : db'.events = db.events)
    (hsome : ∀ otherID, (db.view otherID).isSome → (db'.view otherID).isSome) : db'.Keyed := by
  refine ⟨hoperations ▸ h.operationIDs, hattempts ▸ h.attemptIDs, ?_, ?_⟩
  · have hall : ∀ k ∈ db'.attempts.map OperationAttempt.operationID, (db'.view k).isSome := by
      rw [howners]
      exact List.forall_mem_map.mpr fun attempt hmem => hsome _ (h.attemptOwners attempt hmem)
    exact List.forall_mem_map.mp hall
  · rw [hevents]
    exact fun event hmem => hsome _ (h.eventOwners event hmem)

section

variable (hview : db.view operationID = some v)

include hview

theorem replaces_mapOperations (hid : ∀ row, (f row).id = row.id) (hp : ∀ row, p row = true → row.id = operationID)
    (hrow : p v.row = true) :
    db.Replaces (db.mapOperations p f) operationID (v.setRow f) := by
  refine ⟨fun hkeyed => hkeyed.of_maps (keys_updateWhere hid _) rfl rfl rfl fun otherID hsome => ?_,
    ?_, fun otherID hne => ?_⟩
  · rw [view_mapOperations hid]
    simpa using hsome
  · rw [view_mapOperations hid, hview]
    simp [OperationView.setRow, hrow]
  · rw [view_mapOperations hid]
    cases hother : db.view otherID with
    | none => rfl
    | some other =>
      have hfalse : p other.row = false :=
        Bool.eq_false_iff.mpr fun h => hne ((row_id_of_view hother).symm.trans (hp _ h))
      simp [OperationView.setRow, hfalse]

theorem replaces_mapAttempts {p : OperationAttempt → Bool} {f : OperationAttempt → OperationAttempt}
    (hid : ∀ row, (f row).id = row.id) (howner : ∀ row, (f row).operationID = row.operationID)
    (hp : ∀ row, p row = true → row.operationID = operationID) :
    db.Replaces (db.mapAttempts p f) operationID (v.setAttempts p f) := by
  refine ⟨fun hkeyed => hkeyed.of_maps rfl (keys_updateWhere hid _) (keys_updateWhere howner _)
    rfl fun otherID hsome => ?_, ?_, fun otherID hne => ?_⟩
  · rw [view_mapAttempts howner]
    simpa using hsome
  · rw [view_mapAttempts howner, hview]
    rfl
  · rw [view_mapAttempts howner]
    cases hother : db.view otherID with
    | none => rfl
    | some other =>
      have hnone : ∀ row ∈ other.attempts, p row = false := by
        intro row hrow
        rw [(view_eq_some.mp hother).2.1] at hrow
        exact Bool.eq_false_iff.mpr fun h => hne ((mem_owned.mp hrow).2.symm.trans (hp row h))
      simp only [Option.map_some, OperationView.setAttempts, updateWhere_of_forall_not hnone]

theorem replaces_addAttempt (howner : attempt.operationID = operationID)
    (hfresh : ∀ other ∈ db.attempts, other.id ≠ attempt.id) :
    db.Replaces (db.addAttempt attempt) operationID (v.addAttempt attempt) := by
  have hkeep : ∀ otherID, (db.view otherID).isSome → ((db.addAttempt attempt).view otherID).isSome := by
    intro otherID hsome
    rw [view_addAttempt]
    simpa using hsome
  refine ⟨fun hkeyed => ⟨hkeyed.operationIDs, nodup_keys_append hkeyed.attemptIDs hfresh, ?_,
    fun event hmem => hkeep _ (hkeyed.eventOwners event hmem)⟩, ?_, fun otherID hne => ?_⟩
  · refine forall_mem_append.mpr ⟨fun other hold => hkeep _ (hkeyed.attemptOwners other hold),
      forall_mem_singleton.mpr ?_⟩
    rw [howner]
    exact hkeep _ (by rw [hview]; rfl)
  · rw [view_addAttempt, hview]
    simp [howner]
  · rw [view_addAttempt]
    have hfalse : attempt.operationID ≠ otherID := fun h => hne (h.symm.trans howner)
    simp [hfalse]

theorem replaces_addEvent (howner : event.operationID = operationID) (now : Time) :
    db.Replaces (db.addEvent (event.event (db.eventsOf event.operationID) now)) operationID
      (v.record event now) := by
  have hkeep : ∀ otherID, (db.view otherID).isSome →
      ((db.addEvent (event.event (db.eventsOf event.operationID) now)).view otherID).isSome := by
    intro otherID hsome
    rw [view_addEvent]
    simpa using hsome
  refine ⟨fun hkeyed => ⟨hkeyed.operationIDs, hkeyed.attemptIDs, fun attempt hmem =>
    hkeep _ (hkeyed.attemptOwners attempt hmem), ?_⟩, ?_, fun otherID hne => ?_⟩
  · refine forall_mem_append.mpr ⟨fun other hold => hkeep _ (hkeyed.eventOwners other hold),
      forall_mem_singleton.mpr (hkeep _ ?_)⟩
    simp only [AppendOperationEventParams.event, howner, hview]
    rfl
  · rw [view_addEvent, hview]
    simp only [Option.map_some, AppendOperationEventParams.event, howner, if_true,
      OperationView.record, (view_eq_some.mp hview).2.2]
  · rw [view_addEvent]
    have hfalse : event.operationID ≠ otherID := fun h => hne (h.symm.trans howner)
    simp [AppendOperationEventParams.event, hfalse]

/-! ### Statements that succeed -/

/-- A trigger reads only the attempts of the operation it guards. -/
theorem operationUpdateAbort_of_view (hid : new.id = v.row.id) :
    operationUpdateAbort db.attempts v.row new = operationUpdateAbort v.attempts v.row new := by
  have hrow := row_id_of_view hview
  have hattempts : v.attempts = db.attempts.filter fun row => decide (row.operationID = operationID) :=
    (view_eq_some.mp hview).2.1
  have hcurrent : operationsValidateCurrentAttempt db.attempts new =
      operationsValidateCurrentAttempt v.attempts new := by
    unfold operationsValidateCurrentAttempt
    cases new.currentAttemptID with
    | none => rfl
    | some attemptID =>
      simp only [hattempts, any_filter, hid, hrow]
      congr 2
      funext row
      by_cases h : row.operationID = operationID <;> simp [h]
  have hreleased : operationsValidateReleasedAttempt db.attempts v.row new =
      operationsValidateReleasedAttempt v.attempts v.row new := by
    unfold operationsValidateReleasedAttempt
    cases v.row.currentAttemptID <;> cases new.currentAttemptID <;> try rfl
    simp only [hattempts, any_filter, hrow]
    congr 1
    funext row
    by_cases h : row.operationID = operationID <;> simp [h]
  simp only [operationUpdateAbort, hcurrent, hreleased]

end

/-- **An update of an operation row succeeds** when no trigger objects to it at the operation's view. -/
theorem updateOperations_ok (hkeyed : db.Keyed) (hview : db.view operationID = some v)
    (hid : ∀ row, (f row).id = row.id) (hp : ∀ row, p row = true → row.id = operationID) (hrow : p v.row = true)
    (habort : operationUpdateAbort v.attempts v.row (f v.row) = none) :
    db.updateOperations p f = .ok (db.mapOperations p f, 1) ∧
      db.Replaces (db.mapOperations p f) operationID (v.setRow f) := by
  have hlookup := (view_eq_some.mp hview).1
  have hnone : (db.operations.findSome? fun row =>
      if p row then operationUpdateAbort db.attempts row (f row) else none) = none := by
    rw [List.findSome?_eq_none_iff]
    intro row hmem
    by_cases hprow : p row = true
    · have hsame : row = v.row := by
        have h := lookup_of_mem hkeyed.operationIDs hmem
        rw [hp row hprow] at h
        exact some.inj (h.symm.trans hlookup)
      rw [if_pos hprow, hsame, operationUpdateAbort_of_view hview (hid v.row), habort]
    · rw [if_neg hprow]
  refine ⟨?_, replaces_mapOperations hview hid hp hrow⟩
  rw [updateOperations, hnone, countP_of_lookup hkeyed.operationIDs hlookup (fun other _ => hp other) hrow]
  rfl

theorem updateAttempts_ok (hview : db.view operationID = some v) {p : OperationAttempt → Bool}
    {f : OperationAttempt → OperationAttempt} (hid : ∀ row, (f row).id = row.id)
    (howner : ∀ row, (f row).operationID = row.operationID) (hp : ∀ row, p row = true → row.operationID = operationID)
    (haccept : ∀ row ∈ v.attempts, p row = true → operationAttemptsRestrictUpdate row (f row) = false) :
    db.updateAttempts p f = .ok (db.mapAttempts p f) ∧
      db.Replaces (db.mapAttempts p f) operationID (v.setAttempts p f) := by
  refine ⟨?_, replaces_mapAttempts hview hid howner hp⟩
  rw [updateAttempts, any_eq_false.mpr]
  · rfl
  · intro row hmem
    rw [and_eq_true, not_and, Bool.not_eq_true]
    intro hprow
    refine haccept row ?_ hprow
    rw [(view_eq_some.mp hview).2.1]
    exact mem_owned.mpr ⟨hmem, hp row hprow⟩

/-- An event of a stored operation is appended, provided the attempt it names is one of its own. -/
theorem appendOperationEventTx_ok (hview : db.view operationID = some v)
    (event : AppendOperationEventParams) (howner : event.operationID = operationID)
    (hattempt : ∀ attemptID, event.attemptID = some attemptID →
      attemptID ∈ v.attempts.map OperationAttempt.id) (now : Time) :
    ∃ db', db.appendOperationEventTx event now = .ok db' ∧
      db.Replaces db' operationID (v.record event now) := by
  refine ⟨_, ?_, replaces_addEvent hview howner now⟩
  rw [appendOperationEventTx, all_eq_false.mpr ⟨v.row, mem_operations_of_view hview, ?_⟩, if_neg (by simp), if_neg]
  · rfl
  · cases hid : event.attemptID with
    | none => simp
    | some attemptID =>
      obtain ⟨attempt, hmem, heq⟩ := mem_map.mp (hattempt attemptID hid)
      rw [(view_eq_some.mp hview).2.1] at hmem
      obtain ⟨hstored, hop⟩ := mem_owned.mp hmem
      rw [Option.any_some, Bool.not_eq_true, all_eq_false]
      exact ⟨attempt, hstored, by simp [hop, howner, heq]⟩
  · simp [row_id_of_view hview, howner]

/-- The transaction commits, with an event as the last change of the operation. -/
abbrev Records {α : Type} (db : OperationStore) (operationID : ID) (tx : Except TxError α) (out : OperationStore → α)
    (w : OperationView) (now : Time) : Prop :=
  ∃ db' event, tx = .ok (out db') ∧ db.Replaces db' operationID (w.record event now)

/-- The event is appended, and what follows keeps the operation. -/
theorem Replaces.records {α : Type} {db₁ : OperationStore} {w : OperationView}
    {now : Time} {rest : OperationStore → Except TxError α} {out : OperationStore → α}
    (h : db.Replaces db₁ operationID w) (howner : event.operationID = operationID)
    (hattempt : ∀ attemptID, event.attemptID = some attemptID → attemptID ∈ w.attempts.map OperationAttempt.id)
    (hrest : ∀ db₂, ∃ db', rest db₂ = .ok (out db') ∧
      ∀ u, db.Replaces db₂ operationID u → db.Replaces db' operationID u) :
    db.Records operationID (db₁.appendOperationEventTx event now >>= rest) out w now := by
  obtain ⟨db₂, hevent, hrecorded⟩ := appendOperationEventTx_ok h.self event howner hattempt now
  obtain ⟨db', hcommit, hkeeps⟩ := hrest db₂
  refine ⟨db', event, ?_, hkeeps _ (h.trans hrecorded)⟩
  rw [hevent]
  exact hcommit

end OperationStore

namespace OperationView

variable {v : OperationView}

/-! ### Aborts at a view -/

/-- A row that stays with the newest attempt passes the triggers. -/
theorem abort_of_current (hallowed : operationsRestrictUpdate v.row new = false) (hmem : attempt ∈ v.attempts)
    (hcurrent : IsCurrent new attempt) (howner : attempt.operationID = new.id) :
    operationUpdateAbort v.attempts v.row new = none := by
  have hvalid : operationsValidateCurrentAttempt v.attempts new = false := by
    rw [operationsValidateCurrentAttempt, hcurrent.attemptID]
    simp only [Bool.not_eq_false', any_eq_true, decide_eq_true_eq]
    exact ⟨attempt, hmem, rfl, howner, hcurrent.worker, hcurrent.running⟩
  have hreleased : operationsValidateReleasedAttempt v.attempts v.row new = false := by
    rw [operationsValidateReleasedAttempt, hcurrent.attemptID]
    cases v.row.currentAttemptID <;> rfl
  rw [operationUpdateAbort, hallowed, hvalid, hreleased]
  rfl

/-- A row that names no attempt passes the triggers once no attempt runs. -/
theorem abort_of_released (hallowed : operationsRestrictUpdate v.row new = false) (hnew : new.currentAttemptID = none)
    (hnone : ∀ attempt ∈ v.attempts, attempt.outcome ≠ .running) :
    operationUpdateAbort v.attempts v.row new = none := by
  have hvalid : operationsValidateCurrentAttempt v.attempts new = false := by
    rw [operationsValidateCurrentAttempt, hnew]
  have hreleased : operationsValidateReleasedAttempt v.attempts v.row new = false := by
    rw [operationsValidateReleasedAttempt, hnew]
    cases v.row.currentAttemptID with
    | none => rfl
    | some attemptID =>
      simp only [any_eq_false, decide_eq_true_eq]
      exact fun attempt hmem h => hnone attempt hmem h.2.2
  rw [operationUpdateAbort, hallowed, hvalid, hreleased]
  rfl

end OperationView

end Stackfort
