import Stackfort.CertificateActivation
import Stackfort.OperationBatches
import Stackfort.TextBounds

/-! What a tick of the certificate scheduler queues. The work lists are read from the TLS states and from the
certificates, the operations are created under keys, and a key that was used once is answered with its
old operation for good. So a renewal that has failed is never queued again, and a pending domain gets work from a
tick exactly when its key is free or somebody is at work on it. -/

namespace Stackfort

open PanelStore OperationStore List

/-! ### Added operations -/

section Added

variable {db : OperationStore} {params : CreateOperationParams} {newID : ID} {now : Time} {row : Operation}

theorem createOperation_adds (db : OperationStore) (params : CreateOperationParams) (newID : ID) (now : Time) :
    (createOperation db params newID now).1.operations = db.operations ∨
      ∃ operation, prepareOperation params newID now = .ok operation ∧
        (createOperation db params newID now).1.operations = db.operations ++ [operation] := by
  refine transact_keeps (P := fun db' => db'.operations = db.operations ∨
    ∃ operation, prepareOperation params newID now = .ok operation ∧ db'.operations = db.operations ++ [operation])
    (.inl rfl) fun operation db' reply hprepared h => ?_
  unfold createOperationTx at h
  split at h
  · split at h <;> cases h
    exact .inl rfl
  simp only [insertNewOperationTx, bind_eq_ok_iff] at h
  obtain ⟨db₁, hinsert, db₂, hevent, h⟩ := h
  cases h
  refine .inr ⟨operation, hprepared, ?_⟩
  unfold insertOperation at hinsert
  split at hinsert
  · cases hinsert
  split at hinsert <;> cases hinsert
  unfold appendOperationEventTx at hevent
  split at hevent
  · cases hevent
  split at hevent <;> cases hevent
  rfl

section

variable (draws : SchedulerDraws) (queued : Nat) (requests : List (Except CoreError CreateOperationParams))

include draws queued requests

/-- A batch adds operations that its requests prepare, each under an identifier of its own draw. -/
theorem queueOperations_adds (db : OperationStore) :
    ∃ added, (queueOperations draws queued requests db).1.operations = db.operations ++ added ∧
      ∀ row ∈ added, ∃ params i, .ok params ∈ requests ∧ i < requests.length ∧
        prepareOperation params (draws.newID (queued + i)) (draws.createdAt (queued + i)) = .ok row := by
  induction requests generalizing queued db with
  | nil => exact ⟨[], (append_nil _).symm, forall_mem_nil _⟩
  | cons request rest ih =>
    cases request with
    | error error => exact ⟨[], (append_nil _).symm, forall_mem_nil _⟩
    | ok params =>
      have hfirst : ∃ first, (createOperation db params (draws.newID queued) (draws.createdAt queued)).1.operations =
          db.operations ++ first ∧ ∀ row ∈ first,
            prepareOperation params (draws.newID queued) (draws.createdAt queued) = .ok row := by
        rcases createOperation_adds db params (draws.newID queued) (draws.createdAt queued) with
          hsame | ⟨operation, hprepared, hadded⟩
        · exact ⟨[], by rw [hsame, append_nil], forall_mem_nil _⟩
        · exact ⟨[operation], hadded, fun row hmem => mem_singleton.mp hmem ▸ hprepared⟩
      obtain ⟨first, hoperations, hprepared⟩ := hfirst
      have hown : ∀ row ∈ first, ∃ params' i, .ok params' ∈ Except.ok params :: rest ∧
          i < (Except.ok params :: rest).length ∧
          prepareOperation params' (draws.newID (queued + i)) (draws.createdAt (queued + i)) = .ok row :=
        fun row hmem => ⟨params, 0, mem_cons_self, Nat.succ_pos _, hprepared row hmem⟩
      unfold queueOperations
      split
      · rename_i db' error hcreate
        rw [hcreate] at hoperations
        exact ⟨first, hoperations, hown⟩
      · rename_i db' operation hcreate
        rw [hcreate] at hoperations
        obtain ⟨later, hlater, hrest⟩ := ih (queued + 1) db'
        refine ⟨first ++ later, by rw [hlater, hoperations, append_assoc], fun row hmem => ?_⟩
        rcases mem_append.mp hmem with hmem | hmem
        · exact hown row hmem
        · obtain ⟨params', i, hrequest, hi, hrow⟩ := hrest row hmem
          refine ⟨params', i + 1, mem_cons_of_mem _ hrequest, Nat.succ_lt_succ hi, ?_⟩
          rw [Nat.add_assoc, Nat.add_comm 1 i] at hrow
          exact hrow

theorem queueOperations_creations (h : db.Creations) : (queueOperations draws queued requests db).1.Creations := by
  induction requests generalizing queued db with
  | nil => exact h
  | cons request rest ih =>
    cases request with
    | error error => exact h
    | ok params =>
      have hcreated := h.execute (.create params (draws.newID queued) (draws.createdAt queued))
      change (createOperation db params (draws.newID queued) (draws.createdAt queued)).1.Creations at hcreated
      unfold queueOperations
      split
      · rename_i hcreate
        rwa [hcreate] at hcreated
      · rename_i hcreate
        rw [hcreate] at hcreated
        exact ih (queued + 1) hcreated

end

end Added

/-! ### Requests of the scheduler -/

/-- The fields of a lifecycle payload. -/
def lifecycleFields (domainID : ID) (environment : ACMEEnvironment) (replacesCertificateID : Option ID) : JsonObject :=
  [("domainId", .string domainID), ("environment", .string environment.text)] ++
    replacesCertificateID.toList.map fun certificateID => ("replacesCertificateId", .string certificateID)

variable {environment : ACMEEnvironment} {replaces : Option ID} {operations : OperationStore}

theorem lifecyclePayload_eq_ok {domainID : ID} {payload : JsonObject} :
    lifecyclePayload domainID environment replaces = .ok payload ↔
      (isCanonicalUUIDv7 domainID = true ∧ replaces.all isCanonicalUUIDv7 = true) ∧
        lifecycleFields domainID environment replaces = payload := by
  unfold lifecyclePayload
  split
  next hvalid => exact ⟨fun h => ⟨hvalid, Except.ok.inj h⟩, fun h => by rw [← h.2]; rfl⟩
  next hinvalid => exact ⟨nofun, fun h => absurd h.1 hinvalid⟩

theorem canonicalFields_lifecycleFields (domainID : ID) (environment : ACMEEnvironment) (replaces : Option ID) :
    Json.canonicalFields (lifecycleFields domainID environment replaces) =
      lifecycleFields domainID environment replaces := by
  cases replaces <;> rfl

/-- The request of the scheduler for an operation. -/
def scheduledRequest (accountID : ID) (key : String) (domainID : ID) (environment : ACMEEnvironment)
    (replaces : Option ID) : CreateOperationParams :=
  lifecycleRequest accountID none key key (lifecycleFields domainID environment replaces)

/-- The operation the scheduler asks for. Its identifier and its times are those of the creation. -/
def scheduledOperation (accountID : ID) (key : String) (domainID : ID) (environment : ACMEEnvironment)
    (replaces : Option ID) : Operation where
  id := ""
  accountID := some accountID
  actorID := none
  kind := tlsCertificateLifecycleKind
  status := .pending
  stage := "queued"
  progressPercent := 0
  retryClass := .safe
  requestID := key
  idempotencyKey := some key
  payload := lifecycleFields domainID environment replaces
  result := none
  errorCode := none
  createdAt := 0
  updatedAt := 0
  startedAt := none
  completedAt := none
  maxAttempts := 4
  attemptCount := 0
  nextAttemptAt := some 0
  currentAttemptID := none
  workerInstanceID := none
  leaseExpiresAt := none
  cancellationRequestedAt := none
  cancellationRequestedBy := none

variable {key : String} {params : CreateOperationParams}

/-- What a request of the scheduler prepares, if it passes the checks. -/
theorem prepareOperation_scheduled {accountID : ID} (hchars : ∀ c ∈ key.toList, isSpace c = false) (hkey : key ≠ "")
    {domainID : ID} {newID : ID} {now : Time} {row : Operation}
    (h : prepareOperation (scheduledRequest accountID key domainID environment replaces) newID now = .ok row) :
    row = (scheduledOperation accountID key domainID environment replaces).stamp newID now := by
  simp only [prepareOperation, bind_eq_ok_iff] at h
  obtain ⟨_, -, _, -, kind, hkind, requestID, hrequest, stored, hstored, text, -, attempts, hattempts, hrow⟩ := h
  have htrim := trimSpace_of_forall hchars
  have hkind' : kind = tlsCertificateLifecycleKind := by
    have hvalid : validateAction tlsCertificateLifecycleKind "kind" 80 = .ok tlsCertificateLifecycleKind := by decide
    exact (Except.ok.inj (hvalid.symm.trans hkind)).symm
  have hattempts' : attempts = 4 := by
    have hvalid : normalizeMaxAttempts .safe 4 = .ok 4 := by decide
    exact (Except.ok.inj (hvalid.symm.trans hattempts)).symm
  have htext : ∀ {field : String} {value : String}, validateText key field 1 128 = .ok value → value = key := by
    intro field value hvalue
    unfold validateText at hvalue
    rw [htrim] at hvalue
    dsimp only at hvalue
    split at hvalue
    · cases hvalue
    · exact (Except.ok.inj hvalue).symm
  have hrequest' : requestID = key := htext hrequest
  have hstored' : stored = key := by
    unfold validateOptionalText at hstored
    change (if trimSpace key = "" then _ else _) = _ at hstored
    rw [htrim, if_neg hkey] at hstored
    exact htext hstored
  cases hrow
  subst hkind' hattempts' hrequest' hstored'
  rw [if_neg hkey]
  simp only [scheduledRequest, lifecycleRequest, canonicalFields_lifecycleFields]
  rfl

theorem request_issuance {item : PendingTLSCertificateIssuance}
    (h : item.request = .ok params) :
    isCanonicalUUIDv7 item.domainID = true ∧
      params = scheduledRequest item.accountID item.key item.domainID item.environment none := by
  obtain ⟨payload, hpayload, hparams⟩ := bind_eq_ok_iff.mp h
  obtain ⟨hvalid, rfl⟩ := lifecyclePayload_eq_ok.mp hpayload
  cases hparams
  exact ⟨hvalid.1, rfl⟩

theorem request_renewal {item : DueTLSCertificateRenewal}
    (h : item.request = .ok params) :
    isCanonicalUUIDv7 item.certificateID = true ∧
      params = scheduledRequest item.accountID item.key item.domainID item.environment (some item.certificateID) := by
  obtain ⟨payload, hpayload, hparams⟩ := bind_eq_ok_iff.mp h
  obtain ⟨hvalid, rfl⟩ := lifecyclePayload_eq_ok.mp hpayload
  cases hparams
  exact ⟨hvalid.2, rfl⟩

namespace PendingTLSCertificateIssuance

variable {item : PendingTLSCertificateIssuance}

/-- The operation a tick asks for on behalf of a pending domain. -/
def operation (item : PendingTLSCertificateIssuance) : Operation :=
  scheduledOperation item.accountID item.key item.domainID item.environment none

theorem isSpace_key (h : isCanonicalUUIDv7 item.domainID = true) : ∀ c ∈ item.key.toList, isSpace c = false := by
  intro c hc
  rw [key, String.toList_append, mem_append] at hc
  rcases hc with hc | hc
  · have hall : ("tls-auto-issue-".toList.all fun c => !isSpace c) = true := by decide
    simpa using all_eq_true.mp hall c hc
  · exact (isCanonicalUUIDv7_chars h).2 c hc

theorem length_key (h : isCanonicalUUIDv7 item.domainID = true) : item.key.length = 51 := by
  have hhead : "tls-auto-issue-".length = 15 := rfl
  rw [key, String.length_append, hhead, (isCanonicalUUIDv7_chars h).1]

end PendingTLSCertificateIssuance

namespace DueTLSCertificateRenewal

variable {item : DueTLSCertificateRenewal}

/-- The operation a tick asks for on behalf of a certificate. -/
def operation (item : DueTLSCertificateRenewal) : Operation :=
  scheduledOperation item.accountID item.key item.domainID item.environment (some item.certificateID)

theorem isSpace_unix (value : Time) : ∀ c ∈ (toString value.unix).toList, isSpace c = false := by
  intro c hc
  cases hunix : value.unix with
  | ofNat n =>
    rw [hunix] at hc
    exact isSpace_of_mem_toString (n := n) hc
  | negSucc n =>
    rw [hunix] at hc
    have htext : toString (Int.negSucc n) = "-" ++ toString (n + 1) := rfl
    rw [htext, String.toList_append, mem_append] at hc
    rcases hc with hc | hc
    · rw [mem_singleton.mp hc]
      decide
    · exact isSpace_of_mem_toString hc

theorem isSpace_key (h : isCanonicalUUIDv7 item.certificateID = true) : ∀ c ∈ item.key.toList, isSpace c = false := by
  intro c hc
  simp only [key, String.toList_append, mem_append] at hc
  rcases hc with ((hc | hc) | hc) | hc
  · have hall : ("tls-renew-".toList.all fun c => !isSpace c) = true := by decide
    simpa using all_eq_true.mp hall c hc
  · exact (isCanonicalUUIDv7_chars h).2 c hc
  · rw [mem_singleton.mp hc]
    decide
  · exact isSpace_unix item.nextRenewalAt c hc

theorem key_ne_empty (item : DueTLSCertificateRenewal) : item.key ≠ "" := by
  intro hempty
  have hlength := congrArg String.length hempty
  have hhead : "tls-renew-".length = 10 := rfl
  simp only [key, String.length_append, hhead] at hlength
  rw [String.length_empty] at hlength
  omega

end DueTLSCertificateRenewal

/-! ### What a tick adds -/

section Tick

variable {services : NameServices} {db db' : PanelStore} {limit : Int} {draws : SchedulerDraws}
  {item : DueTLSCertificateRenewal} {now : Time} {newID : ID}

variable {pending : List PendingTLSCertificateIssuance} {renewals : List DueTLSCertificateRenewal}
  {accountID domainID : ID}

theorem mem_pendingIssuances (h : db.listPendingTLSCertificateIssuances limit = .ok pending)
    {item : PendingTLSCertificateIssuance} (hmem : item ∈ pending) :
    ∃ tls ∈ db.tlsStates, db.issuancePending tls = true ∧ tls.accountID = item.accountID ∧
      tls.domainID = item.domainID := by
  unfold listPendingTLSCertificateIssuances at h
  split at h
  · cases h
  · cases h
    obtain ⟨tls, htls, rfl⟩ := mem_map.mp hmem
    obtain ⟨hstored, hpending⟩ := mem_filter.mp ((mem_insertionSort _).mp (mem_of_mem_take htls))
    exact ⟨tls, hstored, hpending, rfl, rfl⟩

/-- A certificate in the work list of the renewals. -/
structure DueTLSCertificateRenewal.Of (item : DueTLSCertificateRenewal) (db : PanelStore)
    (certificate : TLSCertificate) : Prop where
  id : item.certificateID = certificate.id
  accountID : item.accountID = certificate.accountID
  domainID : item.domainID = certificate.domainID
  due : certificate.nextRenewalAt = some item.nextRenewalAt
  serving : ∃ tls ∈ db.tlsStates, tls.domainID = item.domainID ∧ tls.activeCertificateRef = some certificate.id

theorem dueRenewal_eq_some {certificate : TLSCertificate} (h : db.dueRenewal now certificate = some item) :
    item.Of db certificate := by
  obtain ⟨renewalAt, hrenewal, h⟩ := Option.bind_eq_some_iff.mp h
  obtain ⟨account, -, h⟩ := Option.bind_eq_some_iff.mp h
  split at h
  next hdue =>
    cases h
    obtain ⟨tls, htls, hserves⟩ := any_eq_true.mp hdue.2.2.2.1
    simp only [ofDomain, and_eq_true, decide_eq_true_eq] at hserves
    exact ⟨rfl, rfl, rfl, hrenewal, tls, htls, hserves.1.1.2, hserves.2⟩
  next => cases h

theorem mem_dueRenewals (h : db.listDueTLSCertificateRenewals now limit = .ok renewals) (hmem : item ∈ renewals) :
    ∃ certificate ∈ db.certificates, item.Of db certificate := by
  unfold listDueTLSCertificateRenewals at h
  split at h
  · cases h
  · cases h
    obtain ⟨certificate, hstored, hdue⟩ :=
      List.mem_filterMap.mp ((mem_insertionSort _).mp (mem_of_mem_take hmem))
    exact ⟨certificate, hstored, dueRenewal_eq_some hdue⟩

/-- Where a tick takes an operation from: a pending domain, or a certificate that is due. -/
inductive ScheduledFrom (db : PanelStore) (row : Operation) : Prop where
  | issuance (item : PendingTLSCertificateIssuance) (newID : ID) (now : Time)
      (hpending : ∃ tls ∈ db.tlsStates, db.issuancePending tls = true ∧ tls.accountID = item.accountID ∧
        tls.domainID = item.domainID)
      (hrow : row = item.operation.stamp newID now)
  | renewal (item : DueTLSCertificateRenewal) (newID : ID) (now : Time) (certificate : TLSCertificate)
      (hmem : certificate ∈ db.certificates) (hdue : item.Of db certificate) (hrow : row = item.operation.stamp newID now)

/-- A tick is two batches at most: what the first leaves and what the second leaves of that is what it leaves. -/
theorem queueAutomaticWork_keeps {P : OperationStore → Prop} (hstart : P db.operations)
    (hissue : ∀ pending, db.listPendingTLSCertificateIssuances limit = .ok pending →
      P (queueOperations draws 0 (pending.map PendingTLSCertificateIssuance.request) db.operations).1)
    (hrenew : ∀ operations queued renewals, P operations →
      { db with operations := operations }.listDueTLSCertificateRenewals draws.now limit = .ok renewals →
      P (queueOperations draws queued (renewals.map DueTLSCertificateRenewal.request) operations).1) :
    P (queueAutomaticWork db limit draws).1.operations := by
  unfold queueAutomaticWork
  split
  · exact hstart
  split
  · exact hstart
  rename_i pending hpending
  have hfirst := hissue pending hpending
  split
  · rename_i hqueued
    rwa [hqueued] at hfirst
  rename_i operations queued hqueued
  rw [hqueued] at hfirst
  dsimp only
  split
  · exact hfirst
  rename_i renewals hrenewals
  exact hrenew operations queued renewals hfirst hrenewals

theorem queueAutomaticWork_creations (limit : Int) (draws : SchedulerDraws) (h : db.operations.Creations) :
    (queueAutomaticWork db limit draws).1.operations.Creations :=
  queueAutomaticWork_keeps h (fun _ _ => queueOperations_creations draws _ _ h)
    fun _ _ _ hfirst _ => queueOperations_creations draws _ _ hfirst

/-- Every operation after a tick was there before, or the tick took it from one of its lists. -/
theorem queueAutomaticWork_adds (db : PanelStore) (limit : Int) (draws : SchedulerDraws) :
    ∃ added, (queueAutomaticWork db limit draws).1.operations.operations = db.operations.operations ++ added ∧
      ∀ row ∈ added, ScheduledFrom db row := by
  refine queueAutomaticWork_keeps (P := fun operations =>
      ∃ added, operations.operations = db.operations.operations ++ added ∧ ∀ row ∈ added, ScheduledFrom db row)
    ⟨[], (append_nil _).symm, forall_mem_nil _⟩ ?_ ?_
  · intro pending hpending
    obtain ⟨added, hadded, hfrom⟩ := queueOperations_adds draws 0 (pending.map PendingTLSCertificateIssuance.request)
      db.operations
    refine ⟨added, hadded, fun row hmem => ?_⟩
    obtain ⟨params, i, hrequest, -, hprepared⟩ := hfrom row hmem
    obtain ⟨item, hitem, hparams⟩ := mem_map.mp hrequest
    obtain ⟨hvalid, rfl⟩ := request_issuance hparams
    have hkey : item.key ≠ "" := by
      intro hempty
      have hlength := item.length_key hvalid
      rw [hempty, String.length_empty] at hlength
      omega
    exact .issuance item _ _ (mem_pendingIssuances hpending hitem)
      (prepareOperation_scheduled (item.isSpace_key hvalid) hkey hprepared)
  · rintro operations queued renewals ⟨first, hfirst, hfromFirst⟩ hrenewals
    obtain ⟨added, hadded, hfrom⟩ := queueOperations_adds draws queued
      (renewals.map DueTLSCertificateRenewal.request) operations
    refine ⟨first ++ added, by rw [hadded, hfirst, append_assoc], fun row hmem => ?_⟩
    rcases mem_append.mp hmem with hmem | hmem
    · exact hfromFirst row hmem
    · obtain ⟨params, i, hrequest, -, hprepared⟩ := hfrom row hmem
      obtain ⟨item, hitem, hparams⟩ := mem_map.mp hrequest
      obtain ⟨hvalid, rfl⟩ := request_renewal hparams
      obtain ⟨certificate, hcertificate, hdue⟩ := mem_dueRenewals hrenewals hitem
      exact .renewal item _ _ certificate hcertificate
        ⟨hdue.id, hdue.accountID, hdue.domainID, hdue.due, hdue.serving⟩
        (prepareOperation_scheduled (item.isSpace_key hvalid) item.key_ne_empty hprepared)

/-! ### Keys along a run -/

theorem OperationStore.Creations.of_operations {operations' : OperationStore} (h : operations.Creations)
    (hsame : operations'.operations = operations.operations) : operations'.Creations := by
  have hrequests : operations'.requests = operations.requests := by
    rw [OperationStore.requests, OperationStore.requests, hsame]
  exact ⟨hrequests ▸ h.distinct, hrequests ▸ h.stored⟩

theorem Effect.creations {call : PanelCall} (h : Effect services db call db') (hdb : db.operations.Creations) :
    db'.operations.Creations := by
  cases h with
  | unchanged => exact hdb
  | operation call other => exact hdb.execute call
  | issueQueued command authorization newID now hqueued =>
    rename_i operations
    have hstore : operations = (queueIssue db command authorization newID now).1.operations := by rw [hqueued]
    show operations.Creations
    rw [hstore]
    unfold queueIssue
    split
    · exact hdb
    · exact hdb.execute (.create _ newID now)
  | workQueued limit draws hqueued =>
    have hcreations := queueAutomaticWork_creations limit draws hdb
    rwa [hqueued] at hcreations
  | edited _ h | removed h | ordered h | staged h | activated h | created _ h | suspended h | resumed h
  | exceptionAdded _ h | exceptionRemoved h | revisionCreated h | appliedRecorded h | confirmed h | failed h =>
    exact hdb.of_operations h.operations
  | urlRecorded h =>
    rw [h.rest]
    exact hdb
  | acmeAccountPut | accountPut | applicationPut => exact hdb

theorem PanelStore.creations_after (services : NameServices) (calls : List PanelCall) :
    (after services calls).operations.Creations :=
  run_invariant (fun db => db.operations.Creations) Effect.creations calls
    ⟨List.Pairwise.nil, forall_mem_nil _⟩

/-! ### Failed renewals -/

/-- The operation renews a certificate. -/
def Operation.Renews (operation : Operation) (certificateID : ID) : Prop :=
  operation.kind = tlsCertificateLifecycleKind ∧ ("replacesCertificateId", Json.string certificateID) ∈ operation.payload

/-- The scheduled renewal of an active certificate has failed for good, and the failure set a time for the next one. -/
structure PanelStore.FailedRenewal (db : PanelStore) (certificate : TLSCertificate) (failed : Operation)
    (retryAt : Time) : Prop where
  mem : certificate ∈ db.certificates
  active : certificate.status = .active
  operation : failed ∈ db.operations.operations
  status : failed.status = .failed
  scheduled : ∃ item : DueTLSCertificateRenewal, item.Of db certificate ∧
    failed.accountID = some item.accountID ∧ failed.idempotencyKey = some item.key
  retry : ∃ tls ∈ db.tlsStates, tls.ofDomain certificate.accountID certificate.domainID = true ∧
    tls.nextRenewalAt = some retryAt

theorem not_renews_issuance (item : PendingTLSCertificateIssuance) (newID : ID) (now : Time) (certificateID : ID) :
    ¬(item.operation.stamp newID now).Renews certificateID := by
  rintro ⟨-, hfield⟩
  change _ ∈ [("domainId", Json.string item.domainID), ("environment", Json.string item.environment.text)] at hfield
  simp at hfield

theorem eq_of_renews {certificateID : ID} (h : (item.operation.stamp newID now).Renews certificateID) :
    item.certificateID = certificateID := by
  obtain ⟨-, hfield⟩ := h
  change _ ∈ [("domainId", Json.string item.domainID), ("environment", Json.string item.environment.text),
    ("replacesCertificateId", Json.string item.certificateID)] at hfield
  have hsame : certificateID = item.certificateID := by simpa using hfield
  exact hsame.symm

/-- What has to be evaluated of a store to see that a renewal has failed. -/
def PanelStore.failedRenewalTest (db : PanelStore) (certificateID operationID : ID) (retryAt : Time) : Bool :=
  (db.findCertificate certificateID).any fun certificate =>
    (db.operations.findOperation operationID).any fun failed =>
      decide (certificate.status = .active ∧ failed.status = .failed) &&
        ((db.dueRenewal retryAt certificate).any fun item =>
          decide (failed.accountID = some item.accountID ∧ failed.idempotencyKey = some item.key)) &&
        db.tlsStates.any fun tls =>
          tls.ofDomain certificate.accountID certificate.domainID && decide (tls.nextRenewalAt = some retryAt)

theorem PanelStore.failedRenewal_of_test {certificateID operationID : ID} {retryAt : Time}
    (h : db.failedRenewalTest certificateID operationID retryAt = true) :
    ∃ certificate failed, certificate.id = certificateID ∧ db.FailedRenewal certificate failed retryAt := by
  obtain ⟨certificate, hcertificate, h⟩ := (Option.any_eq_true _ _).mp h
  obtain ⟨failed, hfailed, h⟩ := (Option.any_eq_true _ _).mp h
  simp only [and_eq_true, decide_eq_true_eq, Option.any_eq_true, any_eq_true] at h
  obtain ⟨⟨⟨hactive, hstatus⟩, item, hitem, hscheduled⟩, hretry⟩ := h
  have hmem := mem_of_lookup hcertificate
  exact ⟨certificate, failed, key_of_lookup hcertificate, hmem, hactive, mem_of_lookup hfailed, hstatus,
    ⟨item, dueRenewal_eq_some hitem, hscheduled⟩, hretry⟩

/-! ### Pending domains -/

/-- What the identifiers and the times of a store are like that are drawn by the panel and by the authority. -/
structure PanelStore.Drawn (db : PanelStore) : Prop where
  states : ∀ tls ∈ db.tlsStates, isCanonicalUUIDv7 tls.accountID = true ∧ isCanonicalUUIDv7 tls.domainID = true
  certificates : ∀ certificate ∈ db.certificates, isCanonicalUUIDv7 certificate.id = true ∧
    isCanonicalUUIDv7 certificate.accountID = true ∧ isCanonicalUUIDv7 certificate.domainID = true
  times : ∀ certificate ∈ db.certificates, ∀ renewalAt, certificate.nextRenewalAt = some renewalAt →
    renewalAt.unix < 10 ^ 20

theorem encodeSafeOperationObject_lifecycleFields {domainID : ID} (hdomain : domainID.length = 36)
    (environment : ACMEEnvironment) (hreplaces : ∀ id ∈ replaces, id.length = 36) :
    ∃ text, encodeSafeOperationObject (lifecycleFields domainID environment replaces) maxOperationJSONBytes =
      .ok text := by
  have hsecrets : rejectAuditSecrets (.object (lifecycleFields domainID environment replaces)) "operation" = .ok () := by
    cases replaces <;> rfl
  have hquote : ∀ value : String, value.length ≤ 36 → (Json.quote value).utf8ByteSize ≤ 872 := fun value h =>
    Nat.le_trans (Json.utf8ByteSize_quote_le value) (by omega)
  have hkeys : (Json.quote "domainId").utf8ByteSize ≤ 872 ∧ (Json.quote "environment").utf8ByteSize ≤ 872 ∧
      (Json.quote "replacesCertificateId").utf8ByteSize ≤ 872 ∧ (Json.quote environment.text).utf8ByteSize ≤ 872 :=
    ⟨hquote _ (by decide), hquote _ (by decide), hquote _ (by decide), hquote _ (by cases environment <;> decide)⟩
  have hsize : (Json.object (lifecycleFields domainID environment replaces)).encode.utf8ByteSize ≤
      maxOperationJSONBytes := by
    refine Nat.le_trans (Json.utf8ByteSize_encode_le _) ?_
    have hvalue := hquote domainID (by omega)
    cases replaces with
    | none =>
      simp only [lifecycleFields, Option.toList_none, map_nil, append_nil, Json.sizeBound,
        Json.fieldsBound, maxOperationJSONBytes]
      omega
    | some id =>
      have hid := hquote id (by rw [hreplaces id rfl])
      simp only [lifecycleFields, Option.toList_some, map_cons, map_nil, cons_append, nil_append,
        Json.sizeBound, Json.fieldsBound, maxOperationJSONBytes]
      omega
  have hdepth : (Json.object (lifecycleFields domainID environment replaces)).depth = 1 := by
    cases replaces <;> rfl
  refine ⟨(Json.object (lifecycleFields domainID environment replaces)).encode, ?_⟩
  rw [encodeSafeOperationObject, encodeObject, if_neg (Nat.not_lt.mpr hsize), hdepth, if_neg (by decide),
    canonicalFields_lifecycleFields, pure_eq_ok, ok_bind, hsecrets]
  rfl

theorem asks_scheduled (haccount : isCanonicalUUIDv7 accountID = true)
    (hdomain : isCanonicalUUIDv7 domainID = true) (hreplaces : ∀ id ∈ replaces, isCanonicalUUIDv7 id = true)
    (hchars : ∀ c ∈ key.toList, isSpace c = false) (hkey : key ≠ "") (hlength : key.length ≤ 128) :
    (scheduledRequest accountID key domainID environment replaces).Asks
      (scheduledOperation accountID key domainID environment replaces) := by
  intro newID now
  obtain ⟨text, hpayload⟩ := encodeSafeOperationObject_lifecycleFields (isCanonicalUUIDv7_chars hdomain).1 environment
    fun id hid => (isCanonicalUUIDv7_chars (hreplaces id hid)).1
  have hoptional := validateOptionalText_of_forall "idempotencyKey" hchars hlength
  have hrequest : validateText key "requestId" 1 128 = .ok key := by
    have hsame := validateOptionalText_of_forall "requestId" hchars hlength
    rwa [validateOptionalText, trimSpace_of_forall hchars, if_neg hkey] at hsame
  have hkind : validateAction tlsCertificateLifecycleKind "kind" 80 = .ok tlsCertificateLifecycleKind := by decide
  have haccount' : validateOptionalID (some accountID) "accountId" = .ok () := validateID_eq_ok_iff.mpr haccount
  have hactor : validateOptionalID none "actorId" = .ok () := rfl
  have hattempts : normalizeMaxAttempts .safe 4 = .ok 4 := by decide
  simp only [prepareOperation, scheduledRequest, lifecycleRequest, haccount', hactor, hkind, hrequest, hoptional,
    hpayload, hattempts, pure_eq_ok, ok_bind, if_neg hkey, canonicalFields_lifecycleFields]
  rfl

theorem PanelStore.Drawn.issuance (h : db.Drawn)
    (hpending : db.listPendingTLSCertificateIssuances limit = .ok pending) {item : PendingTLSCertificateIssuance}
    (hmem : item ∈ pending) :
    item.request = .ok (scheduledRequest item.accountID item.key item.domainID item.environment none) ∧
      (scheduledRequest item.accountID item.key item.domainID item.environment none).Asks item.operation := by
  obtain ⟨tls, hstored, -, haccount, hdomain⟩ := mem_pendingIssuances hpending hmem
  have hvalid := h.states tls hstored
  rw [haccount, hdomain] at hvalid
  have hlength := item.length_key hvalid.2
  have hkey : item.key ≠ "" := by
    intro hempty
    rw [hempty, String.length_empty] at hlength
    omega
  refine ⟨?_, asks_scheduled hvalid.1 hvalid.2 nofun (item.isSpace_key hvalid.2) hkey
    (by omega)⟩
  rw [PendingTLSCertificateIssuance.request, lifecyclePayload_eq_ok.mpr ⟨⟨hvalid.2, rfl⟩, rfl⟩]
  rfl

theorem DueTLSCertificateRenewal.length_key (hid : isCanonicalUUIDv7 item.certificateID = true)
    (htime : item.nextRenewalAt.unix < 10 ^ 20) :
    item.key.length ≤ 128 := by
  have hunix : (toString item.nextRenewalAt.unix).length ≤ 21 := by
    cases hvalue : item.nextRenewalAt.unix with
    | ofNat n =>
      have hn : n < 10 ^ 20 := by
        rw [hvalue] at htime
        exact Int.ofNat_lt.mp htime
      exact Nat.le_trans (length_toString_le (n := n) (by omega) hn) (by omega)
    | negSucc n =>
      have hn : n + 1 < 10 ^ 20 := by
        have hlow : (-62135596800 : Int) ≤ item.nextRenewalAt.unix := by
          have hpositive := Int.natCast_nonneg (item.nextRenewalAt / second)
          rw [Time.unix]
          linarith
        omega
      have htext : toString (Int.negSucc n) = "-" ++ toString (n + 1) := rfl
      have hdash : "-".length = 1 := rfl
      have hdigits := length_toString_le (n := n + 1) (by omega) hn
      rw [htext, String.length_append, hdash]
      omega
  have hhead : "tls-renew-".length = 10 := rfl
  have hdash : "-".length = 1 := rfl
  have hlength := (isCanonicalUUIDv7_chars hid).1
  simp only [key, String.length_append, hhead, hdash]
  omega

theorem PanelStore.Drawn.renewal (h : db.Drawn)
    (hrenewals : db.listDueTLSCertificateRenewals now limit = .ok renewals) (hmem : item ∈ renewals) :
    item.request =
        .ok (scheduledRequest item.accountID item.key item.domainID item.environment (some item.certificateID)) ∧
      (scheduledRequest item.accountID item.key item.domainID item.environment (some item.certificateID)).Asks
        item.operation := by
  obtain ⟨certificate, hcertificate, hdue⟩ := mem_dueRenewals hrenewals hmem
  obtain ⟨hid, haccount, hdomain⟩ := h.certificates certificate hcertificate
  rw [← hdue.id] at hid
  rw [← hdue.accountID] at haccount
  rw [← hdue.domainID] at hdomain
  refine ⟨?_, asks_scheduled haccount hdomain (fun id hid' => ?_) (item.isSpace_key hid) item.key_ne_empty
    (item.length_key hid (h.times certificate hcertificate _ hdue.due))⟩
  · have hpayload : lifecyclePayload item.domainID item.environment (some item.certificateID) = .ok _ :=
      lifecyclePayload_eq_ok.mpr ⟨⟨hdomain, hid⟩, rfl⟩
    rw [DueTLSCertificateRenewal.request, hpayload]
    rfl
  · cases hid'
    exact hid

theorem queueOperations_append (draws : SchedulerDraws) (queued : Nat)
    (first second : List (Except CoreError CreateOperationParams)) (operations : OperationStore) :
    queueOperations draws queued (first ++ second) operations =
      match queueOperations draws queued first operations with
      | (operations', .error error) => (operations', .error error)
      | (operations', .ok queued') => queueOperations draws queued' second operations' := by
  induction first generalizing queued operations with
  | nil => rfl
  | cons request rest ih =>
    cases request with
    | error error => rfl
    | ok params =>
      rw [cons_append, queueOperations, queueOperations]
      split
      · rfl
      · exact ih _ _

/-- New operations without orders change nothing about which certificates are due. -/
theorem listDueTLSCertificateRenewals_congr {added : List Operation}
    (hadded : operations.operations = db.operations.operations ++ added)
    (hnew : ∀ row ∈ added, ∀ order ∈ db.orders, order.operationID ≠ row.id) :
    { db with operations := operations }.listDueTLSCertificateRenewals now limit =
      db.listDueTLSCertificateRenewals now limit := by
  have hlive : ∀ order ∈ db.orders, { db with operations := operations }.orderLive order = db.orderLive order := by
    intro order horder
    rw [orderLive, hadded, any_append, (any_eq_false (l := added)).mpr, Bool.or_false]
    · rfl
    · intro row hrow
      simp [(hnew row hrow order horder).symm]
  have hdue : { db with operations := operations }.dueRenewal now = db.dueRenewal now := by
    funext certificate
    have horders : (db.orders.any fun order =>
          decide (order.replacesCertificateID = some certificate.id) &&
            { db with operations := operations }.orderLive order) =
        db.orders.any fun order =>
          decide (order.replacesCertificateID = some certificate.id) && db.orderLive order := by
      rw [Bool.eq_iff_iff, any_eq_true, any_eq_true]
      refine exists_congr fun order => and_congr_right fun horder => ?_
      rw [hlive order horder]
    unfold dueRenewal
    simp only [horders]
    rfl
  unfold listDueTLSCertificateRenewals
  rw [hdue]

theorem queueAutomaticWork_eq_batch (hpending : db.listPendingTLSCertificateIssuances limit = .ok pending)
    (hrenewals : db.listDueTLSCertificateRenewals draws.now limit = .ok renewals)
    (hnew : ∀ i, ∀ order ∈ db.orders, order.operationID ≠ draws.newID i) :
    queueAutomaticWork db limit draws =
      let outcome := queueOperations draws 0
        (pending.map PendingTLSCertificateIssuance.request ++ renewals.map DueTLSCertificateRenewal.request) db.operations
      ({ db with operations := outcome.1 }, outcome.2) := by
  have hlimit : ¬(limit < 1 ∨ 1000 < limit) := by
    intro hlimit
    rw [listPendingTLSCertificateIssuances, if_pos hlimit] at hpending
    cases hpending
  obtain ⟨added, hadded, hfrom⟩ := queueOperations_adds draws 0 (pending.map PendingTLSCertificateIssuance.request)
    db.operations
  have hdue : ∀ row ∈ added, ∀ order ∈ db.orders, order.operationID ≠ row.id := by
    intro row hrow order horder
    obtain ⟨params, i, -, -, hprepared⟩ := hfrom row hrow
    rw [(prepareOperation_stored hprepared).1]
    exact hnew _ order horder
  rw [queueAutomaticWork, if_neg hlimit, hpending, queueOperations_append]
  dsimp only
  rcases hfirst : queueOperations draws 0 (pending.map PendingTLSCertificateIssuance.request) db.operations with
    ⟨operations, error | queued⟩
  · rfl
  · rw [hfirst] at hadded
    dsimp only
    rw [listDueTLSCertificateRenewals_congr hadded hdue, hrenewals]

/-- The requests of a tick have different keys: the domains and the certificates of its lists are different, and the
keys of the two lists begin differently. -/
theorem pairwise_tick (hdb : db.Keyed) (hdrawn : db.Drawn)
    (hpending : db.listPendingTLSCertificateIssuances limit = .ok pending)
    (hrenewals : db.listDueTLSCertificateRenewals now limit = .ok renewals) :
    (pending.map PendingTLSCertificateIssuance.operation ++
      renewals.map DueTLSCertificateRenewal.operation).Pairwise Operation.Distinct := by
  rw [pairwise_append]
  refine ⟨?_, ?_, ?_⟩
  · rw [pairwise_map]
    unfold listPendingTLSCertificateIssuances at hpending
    split at hpending
    · cases hpending
    cases hpending
    rw [pairwise_map]
    refine List.Pairwise.sublist (take_sublist _ _) ?_
    have hdomains := List.Pairwise.sublist (filter_sublist (p := db.issuancePending))
      (List.pairwise_map.mp hdb.tlsStates)
    refine ((perm_insertionSort _ _).pairwise_iff fun h => Ne.symm h).mpr hdomains |>.imp ?_
    intro left right hne _ _ hkeys
    exact hne (String.append_right_inj _ |>.mp (some.inj hkeys))
  · rw [pairwise_map]
    have hvalid : ∀ item ∈ renewals, isCanonicalUUIDv7 item.certificateID = true := by
      intro item hmem
      obtain ⟨certificate, hcertificate, hdue⟩ := mem_dueRenewals hrenewals hmem
      rw [hdue.id]
      exact (hdrawn.certificates certificate hcertificate).1
    have hids : renewals.Pairwise fun left right => left.certificateID ≠ right.certificateID := by
      unfold listDueTLSCertificateRenewals at hrenewals
      split at hrenewals
      · cases hrenewals
      cases hrenewals
      refine List.Pairwise.sublist (take_sublist _ _) ?_
      refine ((perm_insertionSort _ _).pairwise_iff fun h => Ne.symm h).mpr ?_
      refine (List.pairwise_map.mp hdb.certificates).filterMap (db.dueRenewal now) ?_
      intro left right hne item hitem other hother
      rw [(dueRenewal_eq_some hitem).id, (dueRenewal_eq_some hother).id]
      exact hne
    refine hids.imp_of_mem fun {left right} hleft hright hne _ _ hkeys => hne ?_
    have hlengths : left.certificateID.toList.length = right.certificateID.toList.length := by
      rw [String.length_toList, String.length_toList, (isCanonicalUUIDv7_chars (hvalid left hleft)).1,
        (isCanonicalUUIDv7_chars (hvalid right hright)).1]
    have hlists := congrArg String.toList (some.inj hkeys)
    simp only [DueTLSCertificateRenewal.key, String.toList_append, append_assoc, append_cancel_left_eq]
      at hlists
    exact String.toList_inj.mp (append_inj_left hlists hlengths)
  · intro left hleft right hright _ _ hkeys
    obtain ⟨item, -, rfl⟩ := mem_map.mp hleft
    obtain ⟨other, -, rfl⟩ := mem_map.mp hright
    have hlists := congrArg String.toList (some.inj hkeys)
    simp only [PendingTLSCertificateIssuance.key, DueTLSCertificateRenewal.key, String.toList_append] at hlists
    have hhead := congrArg (fun characters => characters.take 5) hlists
    have htexts : "tls-auto-issue-".toList = ['t', 'l', 's', '-', 'a', 'u', 't', 'o', '-', 'i', 's', 's', 'u', 'e', '-'] ∧
        "tls-renew-".toList = ['t', 'l', 's', '-', 'r', 'e', 'n', 'e', 'w', '-'] := ⟨rfl, rfl⟩
    rw [htexts.1, htexts.2] at hhead
    simp at hhead

/-- A worker is or will be at work on the certificate of the domain. -/
def PendingTLSCertificateIssuance.Served (item : PendingTLSCertificateIssuance) (operation : Operation) : Prop :=
  operation.kind = tlsCertificateLifecycleKind ∧ operation.accountID = some item.accountID ∧
    ("domainId", Json.string item.domainID) ∈ operation.payload ∧ operation.status.isLive = true

/-- A tick finds the key of the domain free, or held by an operation it asks for again while one is at work. -/
def OperationStore.Reaches (operations : OperationStore) (item : PendingTLSCertificateIssuance) : Prop :=
  operations.Answers item.operation ∧
    (operations.keyHolder item.operation = none ∨ ∃ operation ∈ operations.operations, item.Served operation)

theorem domainID_of_served {item : PendingTLSCertificateIssuance}
    (h : item.Served ((scheduledOperation accountID key domainID environment replaces).stamp newID now)) :
    accountID = item.accountID ∧ domainID = item.domainID := by
  obtain ⟨-, haccount, hfield, -⟩ := h
  refine ⟨some.inj haccount, ?_⟩
  have hsame : item.domainID = domainID := by
    cases replaces with
    | none =>
      change _ ∈ [("domainId", Json.string domainID), ("environment", Json.string environment.text)] at hfield
      simpa using hfield
    | some id =>
      change _ ∈ [("domainId", Json.string domainID), ("environment", Json.string environment.text),
        ("replacesCertificateId", Json.string id)] at hfield
      simpa using hfield
  exact hsame.symm

/-- **Pending domains.** In every reachable store a tick goes through and leaves every domain of its list with an
operation at work exactly when each of them is reached, and no renewal meets a key that was used for something else. -/
theorem queueAutomaticWork_serves_iff (services : NameServices) (calls : List PanelCall)
    {pending : List PendingTLSCertificateIssuance} {renewals : List DueTLSCertificateRenewal}
    (hpending : (after services calls).listPendingTLSCertificateIssuances limit = .ok pending)
    (hrenewals : (after services calls).listDueTLSCertificateRenewals draws.now limit = .ok renewals)
    (hdrawn : (after services calls).Drawn)
    (hfresh : draws.Fresh (after services calls).operations 0 (pending.length + renewals.length))
    (hnew : ∀ i, ∀ order ∈ (after services calls).orders, order.operationID ≠ draws.newID i) :
    ((∃ count, (queueAutomaticWork (after services calls) limit draws).2 = .ok count) ∧
        ∀ item ∈ pending, ∃ operation ∈ (queueAutomaticWork (after services calls) limit draws).1.operations.operations,
          item.Served operation) ↔
      (∀ item ∈ pending, (after services calls).operations.Reaches item) ∧
        ∀ item ∈ renewals, (after services calls).operations.Answers item.operation := by
  have hsound := sound_after services calls
  have hcreations := queueAutomaticWork_creations limit draws (creations_after services calls)
  generalize after services calls = db at *
  obtain ⟨added, hadded, hfrom⟩ := queueAutomaticWork_adds db limit draws
  have hrequests : ∃ requests, List.Forall₂ CreateOperationParams.Asks requests
      (pending.map PendingTLSCertificateIssuance.operation ++ renewals.map DueTLSCertificateRenewal.operation) ∧
      pending.map PendingTLSCertificateIssuance.request ++ renewals.map DueTLSCertificateRenewal.request =
        requests.map .ok := by
    refine ⟨pending.map (fun item => scheduledRequest item.accountID item.key item.domainID item.environment none) ++
      renewals.map fun item => scheduledRequest item.accountID item.key item.domainID item.environment
        (some item.certificateID), rel_append ?_ ?_, ?_⟩
    · exact List.forall₂_map_left_iff.mpr (List.forall₂_map_right_iff.mpr
        (List.forall₂_same.mpr fun item hmem => (hdrawn.issuance hpending hmem).2))
    · exact List.forall₂_map_left_iff.mpr (List.forall₂_map_right_iff.mpr
        (List.forall₂_same.mpr fun item hmem => (hdrawn.renewal hrenewals hmem).2))
    · rw [map_append, map_map, map_map]
      exact congrArg₂ _ (map_congr_left fun item hmem => (hdrawn.issuance hpending hmem).1)
        (map_congr_left fun item hmem => (hdrawn.renewal hrenewals hmem).1)
  obtain ⟨requests, hasks, hrequests⟩ := hrequests
  have houtcome : BatchOutcome draws db.operations _ 0 (queueOperations draws 0 (requests.map .ok) db.operations) :=
    queueOperations_outcome draws hasks (pairwise_tick hsound.keyed hdrawn hpending hrenewals)
      (by rw [length_append, length_map, length_map]; exact hfresh)
  have hbatch := queueAutomaticWork_eq_batch hpending hrenewals hnew
  rw [hrequests] at hbatch
  rw [hbatch] at hadded hcreations ⊢
  generalize queueOperations draws 0 (requests.map .ok) db.operations = outcome at *
  dsimp only at hadded hcreations ⊢
  have hissue : ∀ item ∈ pending, item.operation ∈ pending.map PendingTLSCertificateIssuance.operation ++
      renewals.map DueTLSCertificateRenewal.operation := fun item hmem =>
    mem_append_left _ (mem_map_of_mem hmem)
  constructor
  · rintro ⟨hcount, hserved⟩
    have hanswers := houtcome.goesThrough.mp hcount
    refine ⟨fun item hmem => ⟨hanswers _ (hissue item hmem), ?_⟩,
      fun item hmem => hanswers _ (mem_append_right _ (mem_map_of_mem hmem))⟩
    obtain ⟨operation, hoperation, hserves⟩ := hserved item hmem
    rw [hadded, mem_append] at hoperation
    rcases hoperation with hold | hadd
    · exact .inr ⟨operation, hold, hserves⟩
    cases hfrom operation hadd with
    | issuance other newID now hother hrow =>
      subst hrow
      obtain ⟨haccount, hdomain⟩ := domainID_of_served hserves
      cases hholder : db.operations.keyHolder item.operation with
      | none => exact .inl rfl
      | some existing =>
        -- the operation that was added has the key of the domain, so it is the one that was there
        obtain ⟨hexisting, hscope, hkey, hsame⟩ := keyHolder_eq_some hholder
        have hexists : existing = other.operation.stamp newID now := by
          refine hcreations.eq_of_key (by rw [hadded]; exact mem_append_left _ hexisting)
            (by rw [hadded]; exact mem_append_right _ hadd) (hsame ▸ hkey) ?_ ?_
          · rw [hscope]
            exact congrArg some haccount.symm
          · rw [hsame]
            exact congrArg (fun id => some ("tls-auto-issue-" ++ id)) hdomain.symm
        exact .inr ⟨existing, hexisting, hexists ▸ hserves⟩
    | renewal other newID now certificate _ hdue hrow =>
      subst hrow
      obtain ⟨-, hdomain⟩ := domainID_of_served hserves
      obtain ⟨tls, htls, howner, hactive⟩ := hdue.serving
      obtain ⟨state, hstate, hwaits, -, howner'⟩ := mem_pendingIssuances hpending hmem
      have hsame : tls = state :=
        inj_on_of_nodup_map hsound.keyed.tlsStates htls hstate (howner.trans (hdomain.trans howner'.symm))
      simp only [issuancePending, ← hsame, hactive, and_eq_true, decide_eq_true_eq] at hwaits
      exact absurd hwaits.1.2.2 (some_ne_none _)
  · rintro ⟨hreaches, hanswers⟩
    have hcount : ∃ count, outcome.2 = .ok count := by
      refine houtcome.goesThrough.mpr fun operation hmem => ?_
      rcases mem_append.mp hmem with hmem | hmem
      · obtain ⟨item, hitem, rfl⟩ := mem_map.mp hmem
        exact (hreaches item hitem).1
      · obtain ⟨item, hitem, rfl⟩ := mem_map.mp hmem
        exact hanswers item hitem
    refine ⟨hcount, fun item hmem => ?_⟩
    obtain ⟨count, hcount⟩ := hcount
    rcases (hreaches item hmem).2 with hfree | ⟨operation, hoperation, hserves⟩
    · obtain ⟨row, hrow, hcases⟩ := houtcome.holders count hcount _ (hissue item hmem) (some_ne_none _)
      obtain ⟨-, newID, now, rfl⟩ := hcases.resolve_left (by rw [hfree]; exact (some_ne_none row).symm)
      exact ⟨_, (keyHolder_eq_some hrow).1, rfl, rfl, mem_cons_self, rfl⟩
    · exact ⟨operation, houtcome.kept.subset hoperation, hserves⟩

end Tick

namespace PanelSample

def worker : ID := sampleID 21

def renewalID : ID := sampleID 30

def attemptID : ID := sampleID 31

def drawing (newID : ID) (now : Time) : SchedulerDraws := ⟨now, fun _ => newID, fun _ => now⟩

def draft : OrderDraft := ⟨["a.com", "www.a.com"], by decide, ⟨sampleID 15, .letsEncryptProduction, .valid⟩⟩

/-- The domain gets a certificate that is to be renewed at 500. -/
def activated : List PanelCall :=
  setup "a.com" ++
    [.prepareOrder order draft certificateID 200,
      .stage ⟨operationID, certificateID, "chain", "", String.ofList (List.replicate 64 '0'), "issuer", "01", 0, 900,
        500, none, "request"⟩ 200,
      .activate ⟨accountID, domainID, certificateID, revisionID, operationID, none, "request"⟩ 200,
      .operation (.requestCancellation ⟨⟨operationID, some accountID⟩, none, "request"⟩ 300) rfl]

/-- The renewal is queued at 600 and fails at 650; it is to be retried at 700. -/
def renewalFailed : List PanelCall :=
  activated ++
    [.queueAutomaticWork 10 (drawing renewalID 600),
      .operation (.claim ⟨worker, [tlsCertificateLifecycleKind], 60 * second⟩ attemptID 600) rfl,
      .prepareOrder { order with operationID := renewalID, replacesCertificateID := some certificateID } draft
        (sampleID 32) 600,
      .failOrder ⟨renewalID, "acme.order_failed", true, some 700, none, "request"⟩ 650,
      .operation (.fail ⟨renewalID, attemptID, worker, "acme.order_failed", [], false⟩ 650) rfl]

/-- What has to be evaluated of the run, and of the tick at the time that was set. -/
def NotQueued (db : PanelStore) : Prop :=
  (db.listDueTLSCertificateRenewals 700 10).map (List.map DueTLSCertificateRenewal.certificateID) =
      .ok [certificateID] ∧
    (queueAutomaticWork db 10 (drawing (sampleID 33) 700)).2 = .ok 1 ∧
    (queueAutomaticWork db 10 (drawing (sampleID 33) 700)).1.operations.operations.map Operation.status =
      [.cancelled, .failed]

instance (db : PanelStore) : Decidable (NotQueued db) := inferInstanceAs (Decidable (_ ∧ _))

theorem renewalFailed_run :
    (after plainNames renewalFailed).failedRenewalTest certificateID renewalID 700 = true ∧
      NotQueued (after plainNames renewalFailed) := by decide +kernel

end PanelSample

namespace PanelSample

def waiting : PendingTLSCertificateIssuance := ⟨accountID, domainID, .letsEncryptProduction⟩

/-- What has to be evaluated of a store in which the domain waits and the tick draws one identifier. -/
def Waits (db : PanelStore) : Prop :=
  db.listPendingTLSCertificateIssuances 10 = .ok [waiting] ∧ db.listDueTLSCertificateRenewals 300 10 = .ok [] ∧
    db.certificates.length = 0 ∧ db.orders.length = 0 ∧
    (∀ tls ∈ db.tlsStates, isCanonicalUUIDv7 tls.accountID = true ∧ isCanonicalUUIDv7 tls.domainID = true) ∧
    (∀ row ∈ db.operations.operations, row.id ≠ renewalID) ∧
    ∀ row ∈ db.operations.operations, row.idempotencyKey ≠ waiting.operation.idempotencyKey

instance (db : PanelStore) : Decidable (Waits db) := inferInstanceAs (Decidable (_ ∧ _))

/-- The operations that the user and a tick have asked for are both cancelled. -/
def bothCancelled : List PanelCall :=
  setup "a.com" ++
    [.operation (.requestCancellation ⟨⟨operationID, some accountID⟩, none, "request"⟩ 200) rfl,
      .queueAutomaticWork 10 (drawing renewalID 200),
      .operation (.requestCancellation ⟨⟨renewalID, some accountID⟩, none, "request"⟩ 250) rfl]

end PanelSample

open PanelSample in
/-- The domain `a.com` waits for its first certificate, and a tick queues an operation for it. -/
theorem queueAutomaticWork_serves_iff_first :
    ∃ operation ∈ (queueAutomaticWork (after plainNames (setup "a.com")) 10 (drawing renewalID 300)).1.operations.operations,
      waiting.Served operation := by
  have hwaits : Waits (after plainNames (setup "a.com")) := by decide +kernel
  obtain ⟨hpending, hrenewals, hcertificates, horders, hstates, hunused, hkeys⟩ := hwaits
  rw [length_eq_zero_iff] at hcertificates horders
  have hdue : (after plainNames (setup "a.com")).listDueTLSCertificateRenewals (drawing renewalID 300).now 10 = .ok [] :=
    hrenewals
  have hserves := queueAutomaticWork_serves_iff plainNames (setup "a.com") hpending hdue
    ⟨hstates, by rw [hcertificates]; exact forall_mem_nil _,
      by rw [hcertificates]; exact forall_mem_nil _⟩
    ⟨fun _ _ => hunused, fun i hi j hj _ => by rw [length_singleton, length_nil] at hi hj; omega⟩
    (by rw [horders]; exact fun _ _ hmem => absurd hmem not_mem_nil)
  have hfree : (after plainNames (setup "a.com")).operations.keyHolder waiting.operation = none :=
    keyHolder_eq_none.mpr fun row hrow _ _ => hkeys row hrow
  refine (hserves.mpr ⟨fun item hmem => ?_, forall_mem_nil _⟩).2 waiting
    (mem_singleton_self _)
  rw [mem_singleton.mp hmem]
  exact ⟨fun existing hexisting => absurd (hfree.symm.trans hexisting) (some_ne_none existing).symm, .inl hfree⟩

open PanelSample in
/-- Once the operation of an earlier tick was cancelled, the domain is listed, the tick reports an operation for it,
and there is none. -/
theorem pending_domain_not_served :
    (after plainNames bothCancelled).listPendingTLSCertificateIssuances 10 = .ok [waiting] ∧
      (queueAutomaticWork (after plainNames bothCancelled) 10 (drawing (sampleID 33) 300)).2 = .ok 1 ∧
      (queueAutomaticWork (after plainNames bothCancelled) 10
        (drawing (sampleID 33) 300)).1.operations.operations.map Operation.status = [.cancelled, .cancelled] := by
  decide +kernel

end Stackfort
