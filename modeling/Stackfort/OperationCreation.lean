import Stackfort.OperationColumns

/-! Creation under an idempotency key. A request whose key is free adds an operation with its first event and
its audit record; a request whose key is held is answered with the operation that holds it, or refused.
No two operations of a scope ever share a key, and the columns that a request is compared with are never
written again, so the answer to a request does not depend on what has become of the operation. The
comparison encodes the stored payload anew, and the bound on payloads is checked on that text too. -/

namespace Stackfort

open OperationStore List

namespace OperationStore

section Answers

variable (db : OperationStore)

/-- The operation that holds the key of a request in its scope. -/
def keyHolder (operation : Operation) : Option Operation :=
  operation.idempotencyKey.bind (db.findOperationByIdempotencyKeyTx operation.accountID)

/-- What the event and the audit record of a creation say about the operation. -/
def creationDetails (operation : Operation) : JsonObject :=
  [("kind", .string operation.kind), ("maxAttempts", .number operation.maxAttempts),
    ("retryClass", .string operation.retryClass.text)]

/-- The store with a new operation, its first event and its audit record. -/
def withCreated (operation : Operation) (now : Time) : OperationStore :=
  let event : AppendOperationEventParams :=
    { operationID := operation.id, attemptID := none, type := .created, stage := operation.stage,
      progress := operation.progressPercent, messageCode := "operation.created",
      details := creationDetails operation }
  ((db.addOperation operation).addEvent (event.event (db.eventsOf operation.id) now)).appendAudit
    (operationAudit operation "operation.created" operation.requestID operation.actorID .success
      (creationDetails operation) now)

end Answers

variable {db : OperationStore} {operation existing : Operation} {params : CreateOperationParams} {newID : ID}
  {now : Time}

@[simp] theorem operations_withCreated : (db.withCreated operation now).operations = db.operations ++ [operation] :=
  rfl

theorem keyHolder_eq_none :
    db.keyHolder operation = none ↔
      ∀ row ∈ db.operations, operation.idempotencyKey ≠ none → row.accountID = operation.accountID →
        row.idempotencyKey ≠ operation.idempotencyKey := by
  cases hkey : operation.idempotencyKey with
  | none => simp [keyHolder, hkey]
  | some key => simp [keyHolder, hkey, findOperationByIdempotencyKeyTx]

theorem keyHolder_eq_some (h : db.keyHolder operation = some existing) :
    existing ∈ db.operations ∧ existing.accountID = operation.accountID ∧ operation.idempotencyKey ≠ none ∧
      existing.idempotencyKey = operation.idempotencyKey := by
  obtain ⟨key, hkey, hfind⟩ := Option.bind_eq_some_iff.mp h
  unfold findOperationByIdempotencyKeyTx at hfind
  have hrow := find?_some hfind
  rw [decide_eq_true_eq] at hrow
  exact ⟨mem_of_find?_eq_some hfind, hrow.1, by rw [hkey]; simp, hrow.2.trans hkey.symm⟩

theorem insertNewOperationTx_eq (hid : ∀ row ∈ db.operations, row.id ≠ operation.id)
    (hkey : db.keyHolder operation = none) :
    insertNewOperationTx db operation now = .ok (db.withCreated operation now, .ok operation) := by
  have hinsert : db.insertOperation operation = .ok (db.addOperation operation) := by
    rw [insertOperation, if_neg, if_neg]
    · rfl
    · simpa using keyHolder_eq_none.mp hkey
    · simpa using hid
  simp only [insertNewOperationTx, hinsert, ok_bind, appendOperationEventTx]
  rw [all_eq_false.mpr ⟨operation, ?_, by simp⟩]
  · rfl
  · exact mem_append_right _ (mem_singleton_self operation)

/-- **Answers.** What a request that passes the checks is answered with, and the store it leaves. -/
theorem createOperation_eq (hprepared : prepareOperation params newID now = .ok operation)
    (hid : ∀ row ∈ db.operations, row.id ≠ operation.id) :
    createOperation db params newID now =
      match db.keyHolder operation with
      | some existing =>
        if sameOperationInput existing operation then (db, .ok existing)
        else (db, .error (.conflict "idempotency key was already used for different operation input"))
      | none => (db.withCreated operation now, .ok operation) := by
  rw [createOperation, hprepared]
  show transact db (.ok operation) (fun operation => createOperationTx db operation now) = _
  rw [transact, createOperationTx]
  cases hholder : db.keyHolder operation with
  | none =>
    rw [keyHolder] at hholder
    rw [hholder]
    dsimp only
    rw [insertNewOperationTx_eq hid hholder]
  | some existing =>
    rw [keyHolder] at hholder
    rw [hholder]
    dsimp only
    by_cases hsame : sameOperationInput existing operation = true
    · rw [if_pos hsame, if_pos hsame]
      rfl
    · rw [if_neg hsame, if_neg hsame]
      rfl

/-! ### Runs -/

/-- What the creations of a run leave: no shared keys, and payloads in the form in which they are stored. -/
structure Creations (db : OperationStore) : Prop where
  distinct : db.requests.Pairwise OperationRequest.Distinct
  stored : ∀ request ∈ db.requests, StoredObject request.payload

theorem prepareOperation_stored (h : prepareOperation params newID now = .ok operation) :
    operation.id = newID ∧ StoredObject operation.payload := by
  simp only [prepareOperation, bind_eq_ok_iff] at h
  obtain ⟨_, -, _, -, _, -, _, -, _, -, text, hpayload, _, -, hrow⟩ := h
  cases hrow
  exact ⟨rfl, storedObject_of_encode hpayload⟩

theorem Creations.execute (h : db.Creations) (call : OperationCall) : (call.execute db).1.Creations := by
  have htraces := execute_traces db call
  obtain ⟨added, hrequests, hcreated⟩ := htraces.requests
  refine ⟨htraces.distinct h.distinct, fun request hmem => ?_⟩
  rw [hrequests, mem_append] at hmem
  rcases hmem with hold | hnew
  · exact h.stored request hold
  · have hcreates := hcreated request hnew
    cases call with
    | create params newID now =>
      obtain ⟨operation, hprepared, rfl⟩ := hcreates
      exact (prepareOperation_stored hprepared).2
    | _ => exact hcreates.elim

theorem Creations.run (h : db.Creations) (calls : List OperationCall) : (db.run calls).Creations := by
  induction calls generalizing db with
  | nil => exact h
  | cons call rest ih => exact ih (h.execute call)

theorem after_creations (calls : List OperationCall) : (after calls).Creations :=
  Creations.run ⟨List.Pairwise.nil, forall_mem_nil _⟩ calls

theorem requests_run (db : OperationStore) (calls : List OperationCall) :
    ∃ added, (db.run calls).requests = db.requests ++ added := by
  induction calls generalizing db with
  | nil => exact ⟨[], (append_nil _).symm⟩
  | cons call rest ih =>
    obtain ⟨added, hadded, -⟩ := (execute_traces db call).requests
    obtain ⟨added', hadded'⟩ := ih (call.execute db).1
    refine ⟨added ++ added', ?_⟩
    calc ((call.execute db).1.run rest).requests = (call.execute db).1.requests ++ added' := hadded'
      _ = db.requests ++ (added ++ added') := by rw [hadded, append_assoc]

theorem exists_request_run (calls : List OperationCall) (hmem : existing ∈ db.operations) :
    ∃ row ∈ (db.run calls).operations, row.request = existing.request := by
  obtain ⟨added, hadded⟩ := requests_run db calls
  have hrequest : existing.request ∈ (db.run calls).requests := by
    rw [hadded]
    exact mem_append_left _ (mem_map_of_mem hmem)
  exact mem_map.mp hrequest

theorem Creations.eq_of_key (h : db.Creations) {left right : Operation} (hleft : left ∈ db.operations)
    (hright : right ∈ db.operations) (hkey : left.idempotencyKey ≠ none)
    (haccount : left.accountID = right.accountID) (hsame : left.idempotencyKey = right.idempotencyKey) :
    left = right := by
  have hpairwise := List.pairwise_map.mp h.distinct
  rw [pairwise_iff_getElem] at hpairwise
  obtain ⟨i, hi, rfl⟩ := getElem_of_mem hleft
  obtain ⟨j, hj, rfl⟩ := getElem_of_mem hright
  rcases Nat.lt_trichotomy i j with hlt | rfl | hlt
  · exact absurd hsame (hpairwise i j hi hj hlt hkey haccount)
  · rfl
  · refine absurd hsame.symm (hpairwise j i hj hi hlt ?_ haccount.symm)
    exact fun hnone => hkey (hsame.trans hnone)

end OperationStore

/-! ### Secrets -/

/-- The key occurs in the value, at whatever depth. -/
inductive Json.HasKey (key : String) : Json → Prop
  | here {fields : JsonObject} {child : Json} (hmem : (key, child) ∈ fields) : HasKey key (.object fields)
  | field {fields : JsonObject} {entry : String × Json} (hmem : entry ∈ fields) (hchild : HasKey key entry.2) :
    HasKey key (.object fields)
  | element {elements : List Json} {child : Json} (hmem : child ∈ elements) (hchild : HasKey key child) :
    HasKey key (.array elements)

theorem rejectSecretFields_mem {fields : JsonObject} {path : String} {entry : String × Json}
    (h : rejectSecretFields fields path = .ok ()) (hmem : entry ∈ fields) :
    isSecretKey entry.1 = false ∧ rejectAuditSecrets entry.2 (path ++ "." ++ entry.1) = .ok () := by
  induction fields with
  | nil => cases hmem
  | cons first rest ih =>
    simp only [rejectSecretFields, bind_eq_ok_iff, guard_eq_ok_iff] at h
    obtain ⟨hkey, _, hchild, hrest⟩ := h
    rcases mem_cons.mp hmem with rfl | hmem
    · exact ⟨Bool.eq_false_iff.mpr hkey, hchild⟩
    · exact ih hrest hmem

theorem rejectSecretElements_mem {elements : List Json} {path : String} {index : Nat} {child : Json}
    (h : rejectSecretElements elements path index = .ok ()) (hmem : child ∈ elements) :
    ∃ path, rejectAuditSecrets child path = .ok () := by
  induction elements generalizing index with
  | nil => cases hmem
  | cons first rest ih =>
    simp only [rejectSecretElements, bind_eq_ok_iff] at h
    obtain ⟨_, hchild, hrest⟩ := h
    rcases mem_cons.mp hmem with rfl | hmem
    · exact ⟨_, hchild⟩
    · exact ih hrest hmem

theorem Json.HasKey.not_secret {key path : String} {value : Json} (hkey : value.HasKey key)
    (h : rejectAuditSecrets value path = .ok ()) : isSecretKey key = false := by
  induction hkey generalizing path with
  | here hmem => exact (rejectSecretFields_mem h hmem).1
  | field hmem _ ih => exact ih (rejectSecretFields_mem h hmem).2
  | element hmem _ ih =>
    obtain ⟨_, hchild⟩ := rejectSecretElements_mem h hmem
    exact ih hchild

/-- A request asks for what an operation was created for: kind, retry class, attempts, actor and canonical
payload agree. -/
def SameRequest (existing operation : Operation) : Prop :=
  existing.kind = operation.kind ∧ existing.retryClass = operation.retryClass ∧
    existing.maxAttempts = operation.maxAttempts ∧ existing.actorID = operation.actorID ∧
    (Json.object existing.payload).encode = (Json.object operation.payload).encode

instance (existing operation : Operation) : Decidable (SameRequest existing operation) :=
  inferInstanceAs (Decidable (_ ∧ _))

/-- How a request is to be answered: by the operation that holds its key if that is what it asks for, by a
conflict if it asks for something else, and by a new operation if its key is free or absent. -/
def OperationStore.contract (db : OperationStore) (operation : Operation) (now : Time) : Committed Operation :=
  match db.keyHolder operation with
  | some existing =>
    if SameRequest existing operation then (db, .ok existing)
    else (db, .error (.conflict "idempotency key was already used for different operation input"))
  | none => (db.withCreated operation now, .ok operation)

/-- The comparison of the repository is the one of the contract, and it bounds the stored text. -/
theorem sameOperationInput_iff {existing operation : Operation} (hexisting : StoredObject existing.payload)
    (hoperation : StoredObject operation.payload) :
    sameOperationInput existing operation = true ↔
      SameRequest existing operation ∧
        (Json.object operation.payload).encode.utf8ByteSize ≤ maxOperationJSONBytes := by
  simp only [sameOperationInput, SameRequest, and_eq_true, decide_eq_true_eq, objectsEqual_iff hexisting hoperation]
  constructor
  · rintro ⟨⟨hkind, hclass, hmax, hactor⟩, htext, hsize⟩
    rw [htext] at hsize
    exact ⟨⟨hkind, hclass, hmax, hactor, htext⟩, hsize⟩
  · rintro ⟨⟨hkind, hclass, hmax, hactor, htext⟩, hsize⟩
    rw [← htext] at hsize
    exact ⟨⟨hkind, hclass, hmax, hactor⟩, htext, hsize⟩

namespace CreationSample

/-- A request for an operation of the global scope with one attempt. -/
def request (payload : JsonObject) : CreateOperationParams :=
  ⟨none, none, "sample.run", .none, "request-1", "key-1", payload, 1⟩

def firstID : ID := "01890000-0000-7000-8000-000000000001"

def secondID : ID := "01890000-0000-7000-8000-000000000002"

/-- The row such a request is stored as. -/
def row (payload : JsonObject) (newID : ID) : Operation :=
  ⟨newID, none, none, "sample.run", .pending, "queued", 0, .none, "request-1", some "key-1", payload, none, none, 0, 0,
    none, none, 1, 0, some 0, none, none, none, none, none⟩

/-- A number, listed one time more than `count`. -/
def repeated (value : Int) (count : Nat) : JsonObject :=
  [("values", .array (List.replicate (count + 1) (.number value)))]

end CreationSample

open CreationSample

section Growth

variable (value : Int) (count : Nat)

theorem encodeElements_replicate (element : Json) (count : Nat) :
    Json.encodeElements (List.replicate count element) = List.replicate count element.encode := by
  induction count with
  | zero => rfl
  | succ count ih => rw [replicate_succ, Json.encodeElements, ih, replicate_succ]

theorem canonicalElements_replicate (element : Json) (count : Nat) :
    Json.canonicalElements (List.replicate count element) = List.replicate count element.canonical := by
  induction count with
  | zero => rfl
  | succ count ih => rw [replicate_succ, Json.canonicalElements, ih, replicate_succ]

theorem elementsDepth_replicate (value : Int) (count : Nat) :
    Json.elementsDepth (List.replicate count (.number value)) = 0 := by
  induction count with
  | zero => rfl
  | succ count ih => simp only [replicate_succ, Json.elementsDepth, Json.depth, ih, Nat.max_self]

theorem rejectSecretElements_replicate (value : Int) (path : String) (count index : Nat) :
    rejectSecretElements (List.replicate count (.number value)) path index = .ok () := by
  induction count generalizing index with
  | zero => rfl
  | succ count ih =>
    simp only [replicate_succ, rejectSecretElements, rejectAuditSecrets]
    exact ih (index + 1)

theorem utf8ByteSize_intercalate_replicate (separator text : String) (count : Nat) :
    (separator.intercalate (List.replicate (count + 1) text)).utf8ByteSize =
      (count + 1) * text.utf8ByteSize + count * separator.utf8ByteSize := by
  induction count with
  | zero => simp
  | succ count ih =>
    rw [replicate_succ] at ih ⊢
    rw [replicate_succ, String.intercalate_cons_cons, String.utf8ByteSize_append, String.utf8ByteSize_append, ih]
    ring

theorem canonicalFields_repeated :
    Json.canonicalFields (repeated value count) = repeated (Json.canonicalInteger value) count := by
  rw [repeated, Json.canonicalFields, Json.canonicalFields, Json.canonical, canonicalElements_replicate, Json.canonical]
  rfl

theorem utf8ByteSize_encode_repeated :
    (Json.object (repeated value count)).encode.utf8ByteSize =
      (count + 1) * (toString value).utf8ByteSize + count + 13 := by
  have hkey : (Json.quote "values").utf8ByteSize = 8 := by decide +kernel
  rw [repeated, Json.encode, Json.encodeFields, Json.encodeFields, Json.encode, encodeElements_replicate, Json.encode]
  simp only [insertionSort_cons, insertionSort_nil, List.orderedInsert_nil, map_cons, map_nil,
    String.intercalate_singleton, String.utf8ByteSize_append, utf8ByteSize_intercalate_replicate, hkey]
  have hsizes : ("\x7b".utf8ByteSize, "\x7d".utf8ByteSize, ":".utf8ByteSize, "[".utf8ByteSize, "]".utf8ByteSize,
      ",".utf8ByteSize) = (1, 1, 1, 1, 1, 1) := by decide +kernel
  simp only [Prod.mk.injEq] at hsizes
  obtain ⟨h1, h2, h3, h4, h5, h6⟩ := hsizes
  rw [h1, h2, h3, h4, h5, h6]
  ring

theorem encodeSafeOperationObject_repeated
    (hsize : (Json.object (repeated value count)).encode.utf8ByteSize ≤ maxOperationJSONBytes) :
    ∃ text, encodeSafeOperationObject (repeated value count) maxOperationJSONBytes = .ok text := by
  have hdepth : (Json.object (repeated value count)).depth = 2 := by
    simp only [repeated, Json.depth, Json.fieldsDepth, elementsDepth_replicate]
    rfl
  have hsafe : rejectAuditSecrets (.object (Json.canonicalFields (repeated value count))) "operation" = .ok () := by
    have hkey : isSecretKey "values" = false := by decide +kernel
    rw [canonicalFields_repeated]
    simp only [repeated, rejectAuditSecrets, rejectSecretFields, hkey, rejectSecretElements_replicate]
    rfl
  refine ⟨(Json.object (Json.canonicalFields (repeated value count))).encode, ?_⟩
  rw [encodeSafeOperationObject, encodeObject, if_neg (Nat.not_lt.mpr hsize), hdepth, if_neg (by decide),
    pure_eq_ok, ok_bind, hsafe]
  rfl

theorem prepareOperation_request {payload : JsonObject} {text : String}
    (h : encodeSafeOperationObject payload maxOperationJSONBytes = .ok text) (newID : ID) :
    prepareOperation (request payload) newID 0 = .ok (row (Json.canonicalFields payload) newID) := by
  have hkind : validateAction "sample.run" "kind" 80 = .ok "sample.run" := by decide +kernel
  have hrequest : validateText "request-1" "requestId" 1 128 = .ok "request-1" := by decide +kernel
  have hkey : validateOptionalText "key-1" "idempotencyKey" 128 = .ok "key-1" := by decide +kernel
  have hattempts : normalizeMaxAttempts .none 1 = .ok 1 := rfl
  simp only [prepareOperation, request, validateOptionalID, pure_eq_ok, ok_bind, hkind, hrequest, hkey, h, hattempts]
  rfl

end Growth

end Stackfort
