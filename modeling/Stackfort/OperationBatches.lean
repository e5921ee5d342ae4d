import Stackfort.CertificateScheduler
import Stackfort.OperationCreation

/-! Batches of requests. The services that scan the store ask for one operation after the other and stop at the
first error. A request is prepared the same way under every identifier, so whether a batch goes through is
decided by the store it starts from: every key is free or held by an operation that the request repeats. The
operations that were there stay as they are, and each request ends up with a holder of its key. -/

namespace Stackfort

open OperationStore List

namespace Operation

/-- The columns of a prepared operation that do not come from the request. -/
def stamp (newID : ID) (now : Time) (operation : Operation) : Operation :=
  { operation with id := newID, createdAt := now, updatedAt := now, nextAttemptAt := some now }

@[simp] theorem sameOperationInput_stamp (existing operation : Operation) (newID : ID) (now : Time) :
    sameOperationInput existing (operation.stamp newID now) = sameOperationInput existing operation := rfl

@[simp] theorem keyHolder_stamp (db : OperationStore) (operation : Operation) (newID : ID) (now : Time) :
    db.keyHolder (operation.stamp newID now) = db.keyHolder operation := rfl

/-- Requests that do not share a key in one scope. -/
abbrev Distinct (left right : Operation) : Prop := OperationRequest.Distinct left.request right.request

end Operation

/-- A request asks for an operation, whatever identifier and clock reading it draws. -/
def CreateOperationParams.Asks (params : CreateOperationParams) (operation : Operation) : Prop :=
  ∀ newID now, prepareOperation params newID now = .ok (operation.stamp newID now)

section Batches

variable {draws : SchedulerDraws} {db : OperationStore} {queued count : Nat} {operation existing : Operation}
  {now : Time}

/-- The identifiers a batch draws are new and differ from each other. -/
structure SchedulerDraws.Fresh (draws : SchedulerDraws) (db : OperationStore) (queued count : Nat) : Prop where
  unused : ∀ i < count, ∀ row ∈ db.operations, row.id ≠ draws.newID (queued + i)
  different : ∀ i < count, ∀ j < count, draws.newID (queued + i) = draws.newID (queued + j) → i = j

/-- The key of a request is free or held by an operation that the request repeats. -/
def OperationStore.Answers (db : OperationStore) (operation : Operation) : Prop :=
  ∀ existing, db.keyHolder operation = some existing → sameOperationInput existing operation = true

theorem SchedulerDraws.Fresh.skip (h : draws.Fresh db queued (count + 1)) : draws.Fresh db (queued + 1) count := by
  refine ⟨fun i hi row hrow => ?_, fun i hi j hj heq => ?_⟩
  · rw [Nat.add_assoc, Nat.add_comm 1 i]
    exact h.unused (i + 1) (by omega) row hrow
  · rw [Nat.add_assoc, Nat.add_assoc, Nat.add_comm 1 i, Nat.add_comm 1 j] at heq
    have := h.different (i + 1) (by omega) (j + 1) (by omega) heq
    omega

theorem SchedulerDraws.Fresh.tail (h : draws.Fresh db queued (count + 1))
    (hid : operation.id = draws.newID queued) :
    draws.Fresh (db.withCreated operation now) (queued + 1) count := by
  refine ⟨fun i hi row hrow => ?_, h.skip.different⟩
  rw [operations_withCreated, mem_append, mem_singleton] at hrow
  rcases hrow with hold | rfl
  · exact h.skip.unused i hi row hold
  · rw [hid, Nat.add_assoc, Nat.add_comm 1 i]
    intro heq
    have := h.different 0 (by omega) (i + 1) (by omega) heq
    omega

/-- A new operation becomes the holder of its own key and of no other. -/
theorem keyHolder_withCreated_of_distinct {created : Operation} (h : created.Distinct operation) :
    (db.withCreated created now).keyHolder operation = db.keyHolder operation := by
  unfold keyHolder
  cases hkey : operation.idempotencyKey with
  | none => rfl
  | some key =>
    simp only [Option.bind_some, findOperationByIdempotencyKeyTx, operations_withCreated]
    refine find?_append_of_not fun row hrow => ?_
    rw [mem_singleton.mp hrow, decide_eq_false_iff_not]
    rintro ⟨haccount, hcreated⟩
    refine h ?_ haccount (hcreated.trans hkey.symm)
    show created.idempotencyKey ≠ none
    rw [hcreated]
    exact some_ne_none key

theorem keyHolder_withCreated_self (hnone : db.keyHolder operation = none)
    (hkey : operation.idempotencyKey ≠ none) : (db.withCreated operation now).keyHolder operation = some operation := by
  obtain ⟨key, hsome⟩ := Option.ne_none_iff_exists'.mp hkey
  have hfree := keyHolder_eq_none.mp hnone
  rw [keyHolder, hsome, Option.bind_some, findOperationByIdempotencyKeyTx, operations_withCreated]
  refine find?_append_new (fun row hrow => ?_) ?_
  · rw [decide_eq_false_iff_not]
    rintro ⟨haccount, hrowKey⟩
    exact hfree row hrow hkey haccount (hrowKey.trans hsome.symm)
  · rw [decide_eq_true_eq]
    exact ⟨rfl, hsome⟩

/-- What a batch of requests does to a store: it goes through exactly when every request is answered, it keeps
the operations that are there, and if it goes through, the holder of each key is the one that was there or
a new waiting operation. -/
structure BatchOutcome (draws : SchedulerDraws) (db : OperationStore) (operations : List Operation) (queued : Nat)
    (outcome : OperationStore × Except CoreError Nat) : Prop where
  goesThrough : (∃ count, outcome.2 = .ok count) ↔ ∀ operation ∈ operations, db.Answers operation
  counted : ∀ count, outcome.2 = .ok count → count = queued + operations.length
  kept : db.operations <+: outcome.1.operations
  holders : ∀ count, outcome.2 = .ok count → ∀ operation ∈ operations, operation.idempotencyKey ≠ none →
    ∃ row, outcome.1.keyHolder operation = some row ∧
      (db.keyHolder operation = some row ∨
        db.keyHolder operation = none ∧ ∃ newID now, row = operation.stamp newID now)
  others : ∀ operation, (∀ other ∈ operations, other.Distinct operation) →
    outcome.1.keyHolder operation = db.keyHolder operation

theorem Operation.Distinct.symm {left right : Operation} (h : left.Distinct right) : right.Distinct left := by
  intro hkey haccount hsame
  refine h ?_ haccount.symm hsame.symm
  intro hnone
  exact hkey (hsame.trans hnone)

section Steps

variable {rest : List Operation} {outcome : OperationStore × Except CoreError Nat}

/-- The first request is answered by a holder of its key, with a step that leaves the other keys alone. -/
theorem BatchOutcome.answered {db₁ : OperationStore} (hfirst : ∀ other ∈ rest, operation.Distinct other)
    (hanswers : db.Answers operation) (hkept : db.operations <+: db₁.operations)
    (hother : ∀ other, operation.Distinct other → db₁.keyHolder other = db.keyHolder other)
    (hholder : operation.idempotencyKey ≠ none → ∃ row, db₁.keyHolder operation = some row ∧
      (db.keyHolder operation = some row ∨
        db.keyHolder operation = none ∧ ∃ newID now, row = operation.stamp newID now))
    (h : BatchOutcome draws db₁ rest (queued + 1) outcome) : BatchOutcome draws db (operation :: rest) queued outcome := by
  refine ⟨?_, fun count hcount => ?_, hkept.trans h.kept, fun count hcount other hmem hkey => ?_,
    fun other hdistinct => ?_⟩
  · rw [h.goesThrough, forall_mem_cons, and_iff_right hanswers]
    refine forall₂_congr fun other hmem => ?_
    rw [OperationStore.Answers, hother other (hfirst other hmem), OperationStore.Answers]
  · rw [h.counted count hcount, length_cons]
    omega
  · rcases mem_cons.mp hmem with rfl | hmem
    · rw [h.others other fun next hnext => (hfirst next hnext).symm]
      exact hholder hkey
    · obtain ⟨row, hrow, hcases⟩ := h.holders count hcount other hmem hkey
      rw [hother other (hfirst other hmem)] at hcases
      exact ⟨row, hrow, hcases⟩
  · rw [h.others other fun next hnext => hdistinct next (mem_cons_of_mem _ hnext)]
    exact hother other (hdistinct operation mem_cons_self)

/-- The first request asks for something else than the operation that holds its key. -/
theorem BatchOutcome.refused (hsome : db.keyHolder operation = some existing)
    (hsame : sameOperationInput existing operation ≠ true) (error : CoreError) :
    BatchOutcome draws db (operation :: rest) queued (db, .error error) := by
  refine ⟨⟨fun ⟨count, hcount⟩ => (nomatch hcount), fun hanswers => ?_⟩, nofun,
    prefix_rfl, nofun, fun _ _ => rfl⟩
  exact absurd (hanswers operation mem_cons_self existing hsome) hsame

end Steps

/-- **Batches.** The loop of a scan over requests with different keys. -/
theorem queueOperations_outcome (draws : SchedulerDraws) {requests : List CreateOperationParams}
    {operations : List Operation} (hasks : List.Forall₂ CreateOperationParams.Asks requests operations)
    (hdistinct : operations.Pairwise Operation.Distinct) (hfresh : draws.Fresh db queued operations.length) :
    BatchOutcome draws db operations queued (queueOperations draws queued (requests.map .ok) db) := by
  induction hasks generalizing queued db with
  | nil =>
    exact ⟨⟨fun _ _ hmem => absurd hmem not_mem_nil, fun _ => ⟨queued, rfl⟩⟩,
      fun count h => (Except.ok.inj h).symm, prefix_rfl, fun _ _ _ hmem => absurd hmem not_mem_nil,
      fun _ _ => rfl⟩
  | @cons params operation requests rest hfirst _ ih =>
    obtain ⟨hfirstDistinct, hrestDistinct⟩ := List.pairwise_cons.mp hdistinct
    have hcreate := createOperation_eq (hfirst (draws.newID queued) (draws.createdAt queued))
      (hfresh.unused 0 (Nat.succ_pos _))
    rw [Operation.keyHolder_stamp] at hcreate
    simp only [map_cons, queueOperations]
    cases hholder : db.keyHolder operation with
    | none =>
      rw [hholder] at hcreate
      rw [hcreate]
      refine .answered hfirstDistinct (by simp [OperationStore.Answers, hholder]) (prefix_append _ _)
        (fun other hdistinct => ?_) (fun hkey => ⟨_, ?_, .inr ⟨hholder, draws.newID queued, draws.createdAt queued, rfl⟩⟩)
        (ih hrestDistinct (hfresh.tail rfl))
      · exact keyHolder_withCreated_of_distinct hdistinct
      · rw [← Operation.keyHolder_stamp _ _ (draws.newID queued) (draws.createdAt queued)]
        exact keyHolder_withCreated_self hholder hkey
    | some existing =>
      rw [hholder] at hcreate
      dsimp only at hcreate
      rw [Operation.sameOperationInput_stamp] at hcreate
      by_cases hsame : sameOperationInput existing operation = true
      · rw [if_pos hsame] at hcreate
        rw [hcreate]
        exact .answered hfirstDistinct (by simpa [OperationStore.Answers, hholder] using hsame) prefix_rfl
          (fun _ _ => rfl) (fun _ => ⟨existing, hholder, .inl hholder⟩) (ih hrestDistinct hfresh.skip)
      · rw [if_neg hsame] at hcreate
        rw [hcreate]
        exact .refused hholder hsame _

end Batches

end Stackfort
