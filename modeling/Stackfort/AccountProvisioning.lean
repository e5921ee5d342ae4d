import Stackfort.HostingSnapshots

/-! The provisioning of accounts. A user's request creates an account and queues its first reconciliation; a scan
queues one for every account whose host state is not confirmed. Both derive the key of the operation from the
revisions of the account, so for each pair of revisions there is one operation, whatever becomes of it. The module
puts the calls on the store together and shows that every reconciliation carries a snapshot of its account, and the
current one if its revisions are current. -/

namespace Stackfort.Hosting

open OperationStore List

/-! ### The service -/

structure CreateCommand where
  actorID : ID
  (name slug : String)
  (ownerIdentityID packageID : ID)
  requestID : String

/-- A user creates an account. The decision of the authorization is an argument. -/
def create (db : HostingStore) (command : CreateCommand) (authorization : Except CoreError Unit) (ownerKnown : Bool)
    (accountID operationID : ID) (created queued : Time) :
    HostingStore × Except CoreError (Account × Except CoreError Operation) :=
  let requestID := trimSpace command.requestID
  if requestID = "" ∨ requestID ≠ command.requestID ∨ 128 < requestID.utf8ByteSize then (db, .error (.invalidInput ""))
  else
    match authorization with
    | .error error => (db, .error error)
    | .ok () =>
      match createHostingAccount db
        ⟨command.name, command.slug, command.ownerIdentityID, command.packageID, some command.actorID, requestID⟩
        ownerKnown accountID created with
      | (db', .error error) => (db', .error error)
      | (db', .ok account) =>
        let (db'', reply) := queueSnapshot db' account.id (some command.actorID) requestID operationID queued
        (db'', .ok (account, reply))

/-- The scan. Creating an operation does not change an account, so the requests are those of the store the scan
starts from. -/
def queuePending (db : HostingStore) (limit : Int) (draws : SchedulerDraws) : HostingStore × Except CoreError Nat :=
  match db.listHostingAccountsNeedingHostReconcile limit with
  | .error error => (db, .error error)
  | .ok accounts =>
    let (operations, reply) := queueOperations draws 0
      (accounts.map fun accountID => db.snapshotRequest accountID none systemRequestID) db.operations
    ({ db with operations := operations }, reply)

/-! ### Runs -/

/-- The call asks for a reconciliation. -/
def createsReconcile : OperationCall → Bool
  | .create params _ _ => decide (trimSpace params.kind = hostingAccountReconcileKind)
  | _ => false

/-- A call on the store of the accounts. Reconciliations are created by the service only. The two transactions of a
user's request are calls of their own, since the process may stop or others may run between them. -/
inductive HostingCall where
  | operation (call : OperationCall) (other : createsReconcile call = false)
  | createPackage (params : CreatePackageParams) (newID : ID)
  | updatePackage (params : UpdatePackageParams)
  | createHostingAccount (params : CreateHostingAccountParams) (ownerKnown : Bool) (newID : ID) (now : Time)
  | queueSnapshot (accountID actorID : ID) (requestID : String) (newID : ID) (now : Time)
  | queuePending (limit : Int) (draws : SchedulerDraws)
  | assignPackage (params : AssignPackageParams) (now : Time)
  | confirmFilesystemApplied (params : ConfirmParams) (now : Time)
  | confirmFilesystemBlocked (params : ConfirmParams) (capability : HostCapability) (reasonCode : String) (now : Time)
  | confirmResourcesApplied (params : ConfirmParams) (now : Time)
  | confirmResourcesBlocked (params : ConfirmParams) (capability : HostCapability) (reasonCode : String) (now : Time)
  | markReconciled (params : LifecycleParams) (now : Time)
  | requestArchive (params : LifecycleParams) (now : Time)
  | confirmArchive (params : LifecycleParams) (archiveReference : String) (now : Time)
  | requestDeletion (params : LifecycleParams) (now : Time)
  | confirmDeleted (params : LifecycleParams) (now : Time)

/-- The store a call leaves. -/
def HostingCall.execute (db : HostingStore) : HostingCall → HostingStore
  | .operation call _ => { db with operations := (call.execute db.operations).1 }
  | .createPackage params newID => (Hosting.createPackage db params newID).1
  | .updatePackage params => (Hosting.updatePackage db params).1
  | .createHostingAccount params ownerKnown newID now => (Hosting.createHostingAccount db params ownerKnown newID now).1
  | .queueSnapshot accountID actorID requestID newID now =>
    (Hosting.queueSnapshot db accountID (some actorID) requestID newID now).1
  | .queuePending limit draws => (Hosting.queuePending db limit draws).1
  | .assignPackage params now => (Hosting.assignPackage db params now).1
  | .confirmFilesystemApplied params now => (confirmHostingFilesystemApplied db params now).1
  | .confirmFilesystemBlocked params capability reasonCode now =>
    (confirmHostingFilesystemBlocked db params capability reasonCode now).1
  | .confirmResourcesApplied params now => (confirmHostingResourcesApplied db params now).1
  | .confirmResourcesBlocked params capability reasonCode now =>
    (confirmHostingResourcesBlocked db params capability reasonCode now).1
  | .markReconciled params now => (markHostingUnixIdentityReconciled db params now).1
  | .requestArchive params now => (requestHostingAccountArchive db params now).1
  | .confirmArchive params archiveReference now => (confirmHostingAccountArchive db params archiveReference now).1
  | .requestDeletion params now => (requestHostingAccountDeletion db params now).1
  | .confirmDeleted params now => (confirmHostingAccountDeleted db params now).1

namespace HostingStore

def empty : HostingStore := ⟨[], [], ⟨[], [], [], []⟩⟩

/-- The store after a sequence of calls, by whomever they are made. -/
def run (db : HostingStore) (calls : List HostingCall) : HostingStore := calls.foldl HostingCall.execute db

/-- The store after a sequence of calls on a fresh installation. -/
def after (calls : List HostingCall) : HostingStore := empty.run calls

end HostingStore

open HostingStore (after)

/-- A user's request is a run of its two calls. -/
theorem create_eq_run (db : HostingStore) (command : CreateCommand) (authorization : Except CoreError Unit)
    (ownerKnown : Bool) (accountID operationID : ID) (created queued : Time) :
    ∃ calls : List HostingCall,
      (create db command authorization ownerKnown accountID operationID created queued).1 = db.run calls := by
  unfold create
  dsimp only
  split
  · exact ⟨[], rfl⟩
  cases authorization with
  | error error => exact ⟨[], rfl⟩
  | ok _ =>
    dsimp only
    generalize hparams : (⟨command.name, command.slug, command.ownerIdentityID, command.packageID,
      some command.actorID, trimSpace command.requestID⟩ : CreateHostingAccountParams) = params
    have hfirst : (createHostingAccount db params ownerKnown accountID created).1 =
        db.run [.createHostingAccount params ownerKnown accountID created] := rfl
    cases hcreate : createHostingAccount db params ownerKnown accountID created with
    | mk db' reply =>
      rw [hcreate] at hfirst
      cases reply with
      | error error => exact ⟨_, hfirst⟩
      | ok account =>
        refine ⟨[.createHostingAccount params ownerKnown accountID created,
          .queueSnapshot account.id command.actorID (trimSpace command.requestID) operationID queued], ?_⟩
        dsimp only at hfirst ⊢
        rw [hfirst]
        rfl

/-! ### What a call does to the accounts -/

/-- A record keeps its desired limits or moves on to a later revision. -/
def HostRecord.Evolves {α : Type} (old new : HostRecord α) : Prop :=
  (new.revision = old.revision ∧ new.desired = old.desired) ∨ old.revision < new.revision

/-- What a call may change in an account. -/
structure Account.Evolves (old new : Account) : Prop where
  id : new.id = old.id
  identity : new.identity = old.identity
  filesystem : old.filesystem.Evolves new.filesystem
  resources : old.resources.Evolves new.resources

variable {α β : Type} {p : Account → Bool} {value field requestID : String} {call : OperationCall}
  {actorID : Option ID} {maximum revision : Nat} {failure : TxError} {limit : Int}

theorem HostRecord.Evolves.refl (record : HostRecord α) : record.Evolves record := .inl ⟨rfl, rfl⟩

theorem Account.Evolves.refl (account : Account) : account.Evolves account := ⟨rfl, rfl, .refl _, .refl _⟩

/-- Every account stays, with what it may change; identifiers stay different. -/
structure AccountsEvolve (accounts accounts' : List Account) : Prop where
  kept : ∀ old ∈ accounts, ∃ new ∈ accounts', old.Evolves new
  nodup : (accounts.map Account.id).Nodup → (accounts'.map Account.id).Nodup

/-- What a call does to the accounts: it updates some of them, or adds one with its own identifier and number. -/
inductive AccountsStep (accounts : List Account) : List Account → Prop where
  | same : AccountsStep accounts accounts
  | updated {p f} (h : ∀ row : Account, row.Evolves (f row)) : AccountsStep accounts (updateWhere p f accounts)
  | added {row : Account} (hid : ∀ other ∈ accounts, other.id ≠ row.id)
      (huid : ∀ other ∈ accounts, other.identity.uid < row.identity.uid) : AccountsStep accounts (accounts ++ [row])

variable {f : Account → Account} {result : String} {accounts accounts' : List Account} {checks : Except CoreError β}

theorem AccountsStep.evolve (h : AccountsStep accounts accounts') : AccountsEvolve accounts accounts' := by
  cases h with
  | same => exact ⟨fun old hmem => ⟨old, hmem, .refl old⟩, id⟩
  | updated h =>
    refine ⟨fun old hmem => ⟨_, mem_map_of_mem hmem, ?_⟩, fun hnodup => ?_⟩
    · split
      · exact h old
      · exact .refl old
    · rwa [keys_updateWhere fun row => (h row).id]
  | added hid => exact ⟨fun old hmem => ⟨old, mem_append_left _ hmem, .refl old⟩, fun hnodup => nodup_keys_append hnodup hid⟩

theorem updateAccount_eq_ok {db db' : HostingStore} (h : db.updateAccount p f failure = .ok db') :
    db' = { db with accounts := updateWhere p f db.accounts } := by
  unfold HostingStore.updateAccount at h
  split at h
  · cases h
  · exact (Except.ok.inj h).symm

/-- Calls that only update accounts. -/
structure UpdatesAccounts (db db' : HostingStore) : Prop where
  accounts : AccountsEvolve db.accounts db'.accounts
  operations : db'.operations = db.operations

structure StepsAccounts (db db' : HostingStore) : Prop where
  accounts : AccountsStep db.accounts db'.accounts
  operations : db'.operations = db.operations

theorem StepsAccounts.refl (db : HostingStore) : StepsAccounts db db := ⟨.same, rfl⟩

/-- What a transaction does when it commits. -/
theorem stepsAccounts_of_tx {db : HostingStore} {tx : β → Except TxError (HostingStore × α)}
    (h : ∀ checked db' reply, tx checked = .ok (db', reply) → StepsAccounts db db') :
    StepsAccounts db (write db checks tx).1 := by
  unfold write
  cases checks with
  | error error => exact .refl db
  | ok checked =>
    dsimp only
    cases htx : tx checked with
    | error error => exact .refl db
    | ok committed => exact h checked committed.1 committed.2 htx

theorem stepsAccounts_write (db : HostingStore)
    (h : ∀ row : Account, row.Evolves (f row)) :
    StepsAccounts db (write db checks fun _ => do
      let db ← db.updateAccount p f failure
      pure (db, ())).1 := by
  refine stepsAccounts_of_tx fun _ db' _ htx => ?_
  simp only [bind_eq_ok_iff, pure_eq_ok_iff, Prod.mk.injEq] at htx
  obtain ⟨db₁, hupdate, rfl, -⟩ := htx
  rw [updateAccount_eq_ok hupdate]
  exact ⟨.updated h, rfl⟩

theorem evolves_mapFilesystem {f : HostRecord StorageLimits → HostRecord StorageLimits}
    (hdesired : ∀ record, (f record).desired = record.desired) (hrevision : ∀ record, (f record).revision = record.revision)
    (row : Account) : row.Evolves (row.mapFilesystem f hdesired) :=
  ⟨rfl, rfl, .inl ⟨hrevision _, hdesired _⟩, .refl _⟩

theorem evolves_mapResources {f : HostRecord ResourceLimits → HostRecord ResourceLimits}
    (hdesired : ∀ record, (f record).desired = record.desired) (hrevision : ∀ record, (f record).revision = record.revision)
    (row : Account) : row.Evolves (row.mapResources f hdesired) :=
  ⟨rfl, rfl, .refl _, .inl ⟨hrevision _, hdesired _⟩⟩

theorem evolves_setLifecycle (lifecycle : IdentityLifecycle) (status : AccountStatus) (row : Account) :
    row.Evolves (row.setLifecycle lifecycle status) := ⟨rfl, rfl, .refl _, .refl _⟩

theorem evolves_setAssignment (assignment : PackageAssignment) (now : Time) (row : Account) :
    row.Evolves (row.setAssignment assignment now) :=
  ⟨rfl, rfl, .inr (Nat.lt_succ_self _), .inr (Nat.lt_succ_self _)⟩

theorem newIdentity_uid {accountID : ID} {numericID : Nat}
    {spec : { spec : IdentitySpec // validateIdentity spec = .ok () ∧ spec.accountID = accountID }}
    (h : newIdentity accountID numericID = .ok spec) : spec.val.uid = numericID := by
  unfold newIdentity at h
  split at h
  · dsimp only at h
    split at h <;> cases h
    rfl
  · cases h
  · cases h

theorem le_foldl_max (rest : List Nat) (first : Nat) : ∀ number ∈ first :: rest, number ≤ rest.foldl max first := by
  induction rest generalizing first with
  | nil => simp
  | cons second rest ih =>
    have hmax := ih (max first second)
    simp only [mem_cons, forall_eq_or_imp, max_le_iff] at hmax ⊢
    exact ⟨hmax.1.1, hmax.1.2, hmax.2⟩

theorem uid_lt_nextNumericID {db : HostingStore} {row : Account} (hmem : row ∈ db.accounts) :
    row.identity.uid < db.nextNumericID := by
  have huid : row.identity.uid ∈ db.accounts.map fun row => row.identity.uid := mem_map_of_mem hmem
  unfold HostingStore.nextNumericID
  split
  · next hnil =>
    rw [hnil] at huid
    cases huid
  · next first rest hcons =>
    rw [hcons] at huid
    exact Nat.lt_succ_of_le (le_foldl_max rest first _ huid)

section

variable (db : HostingStore)

include db

theorem stepsAccounts_createPackage (params : CreatePackageParams) (newID : ID) :
    StepsAccounts db (createPackage db params newID).1 := by
  refine stepsAccounts_of_tx fun ⟨slug, limits⟩ db' _ htx => ?_
  dsimp only at htx
  split at htx
  · cases htx
  · split at htx <;> cases htx
    exact ⟨.same, rfl⟩

theorem stepsAccounts_updatePackage (params : UpdatePackageParams) :
    StepsAccounts db (updatePackage db params).1 := by
  refine stepsAccounts_of_tx fun limits db' _ htx => ?_
  split at htx
  · cases htx
  · split at htx
    · cases htx
    · split at htx <;> cases htx
      exact ⟨.same, rfl⟩

theorem stepsAccounts_assignPackage (params : AssignPackageParams) (now : Time) :
    StepsAccounts db (assignPackage db params now).1 := by
  refine stepsAccounts_of_tx fun _ db' _ htx => ?_
  simp only [assignPackageTx, bind_eq_ok_iff, guard_eq_ok_iff, pure_eq_ok_iff, Prod.mk.injEq] at htx
  obtain ⟨account, -, -, assignment, -, -, db₁, hupdate, rfl, -⟩ := htx
  rw [updateAccount_eq_ok hupdate]
  exact ⟨.updated (evolves_setAssignment assignment now), rfl⟩

theorem stepsAccounts_createHostingAccount (params : CreateHostingAccountParams) (ownerKnown : Bool) (newID : ID)
    (now : Time) :
    StepsAccounts db (createHostingAccount db params ownerKnown newID now).1 := by
  refine stepsAccounts_of_tx fun slug db' _ htx => ?_
  simp only [createHostingAccountTx, bind_eq_ok_iff, guard_eq_ok_iff, pure_eq_ok_iff, Prod.mk.injEq] at htx
  obtain ⟨assignment, -, spec, hspec, db₁, hinsert, -, rfl, -⟩ := htx
  unfold HostingStore.insertAccount at hinsert
  split at hinsert
  · cases hinsert
  next hfresh =>
  split at hinsert
  · cases hinsert
  split at hinsert <;> cases hinsert
  refine ⟨.added (fun other hother heq => hfresh ?_) fun other hother => ?_, rfl⟩
  · rw [any_eq_true]
    exact ⟨other, hother, decide_eq_true heq⟩
  · have huid := newIdentity_uid (Except.mapError_eq_ok_iff.mp hspec)
    have hlt := uid_lt_nextNumericID hother
    rwa [← huid] at hlt

theorem stepsAccounts_markReconciled (params : LifecycleParams) (now : Time) :
    StepsAccounts db (markHostingUnixIdentityReconciled db params now).1 := by
  unfold markHostingUnixIdentityReconciled
  split
  · exact .refl db
  · exact .refl db
  · split
    · exact .refl db
    · exact stepsAccounts_write db fun row => evolves_setLifecycle _ _ row

end

/-! ### Snapshots in the operations -/

/-- A request carries the snapshot of an account at given revisions, and the current one if they are current. -/
structure Account.SnapshotAt (account : Account) (request : OperationRequest) (filesystemRevision : Nat)
    (storage : StorageLimits) (resourceRevision : Nat) (resources : ResourceLimits) : Prop where
  accountID : request.accountID = some account.id
  key : request.idempotencyKey = some (reconcileKey account.id filesystemRevision resourceRevision)
  retryClass : request.retryClass = .safe
  maxAttempts : request.maxAttempts = 3
  payload : request.payload =
    (snapshotPayload account.identity filesystemRevision storage resourceRevision resources).rounded.object
  filesystem_le : filesystemRevision ≤ account.filesystem.revision
  resources_le : resourceRevision ≤ account.resources.revision
  storage_eq : filesystemRevision = account.filesystem.revision → storage = account.filesystem.desired
  resources_eq : resourceRevision = account.resources.revision → resources = account.resources.desired

def Account.Snapshot (account : Account) (request : OperationRequest) : Prop :=
  ∃ filesystemRevision storage resourceRevision resources,
    account.SnapshotAt request filesystemRevision storage resourceRevision resources

section Evolution

variable {old new : Account} {request : OperationRequest}

theorem HostRecord.Evolves.le {old new : HostRecord α} (h : old.Evolves new) (hle : revision ≤ old.revision) :
    revision ≤ new.revision := by
  rcases h with ⟨hrevision, -⟩ | hlater <;> omega

theorem HostRecord.Evolves.eq {old new : HostRecord α} (h : old.Evolves new) {limits : α}
    (hle : revision ≤ old.revision) (heq : revision = old.revision → limits = old.desired) :
    revision = new.revision → limits = new.desired := by
  intro hnew
  rcases h with ⟨hrevision, hdesired⟩ | hlater
  · rw [hdesired]
    exact heq (by omega)
  · omega

/-- A snapshot stays one of its account, whatever revision the account moves on to. -/
theorem Account.Snapshot.evolves (h : old.Snapshot request) (hevolves : old.Evolves new) : new.Snapshot request := by
  obtain ⟨f, storage, r, resources, h⟩ := h
  exact ⟨f, storage, r, resources, by rw [h.accountID, hevolves.id], by rw [h.key, hevolves.id], h.retryClass,
    h.maxAttempts, by rw [h.payload, hevolves.identity], hevolves.filesystem.le h.filesystem_le,
    hevolves.resources.le h.resources_le, hevolves.filesystem.eq h.filesystem_le h.storage_eq,
    hevolves.resources.eq h.resources_le h.resources_eq⟩

end Evolution

theorem validateText_eq_ok {minimum : Nat} (h : validateText value field minimum maximum = .ok result) :
    result = trimSpace value := by
  unfold validateText at h
  dsimp only at h
  split at h
  · cases h
  · exact (Except.ok.inj h).symm

theorem validateOptionalText_eq_ok (h : validateOptionalText value field maximum = .ok result) :
    result = trimSpace value := by
  unfold validateOptionalText at h
  split at h
  · next hempty =>
    rw [hempty]
    exact (Except.ok.inj h).symm
  · exact validateText_eq_ok h

theorem validateAction_eq_ok (h : validateAction value field maximum = .ok result) : result = trimSpace value := by
  simp only [validateAction, bind_eq_ok_iff] at h
  obtain ⟨normalized, htext, h⟩ := h
  split at h
  · rw [← Except.ok.inj h]
    exact validateText_eq_ok htext
  · cases h

theorem Account.snapshot_of_prepareOperation {account : Account} {newID : ID} {now : Time} {operation : Operation}
    (h : prepareOperation (account.request actorID requestID) newID now = .ok operation) :
    account.Snapshot operation.request := by
  simp only [prepareOperation, bind_eq_ok_iff] at h
  obtain ⟨_, -, _, -, kind, -, _, -, key, hkey, _, -, attempts, hattempts, hrow⟩ := h
  cases hrow
  have hkey := validateOptionalText_eq_ok hkey
  simp only [Account.request] at hkey hattempts
  rw [trimSpace_of_forall (account.isSpace_key _ _)] at hkey
  have hattempts : attempts = 3 := by
    have hthree : normalizeMaxAttempts .safe 3 = .ok 3 := by decide
    exact Except.ok.inj (hattempts.symm.trans hthree)
  refine ⟨account.filesystem.revision, account.filesystem.desired, account.resources.revision,
    account.resources.desired, rfl, ?_, rfl, hattempts, canonicalFields_object account.payload, le_refl _, le_refl _,
    fun _ => rfl, fun _ => rfl⟩
  show (if key = "" then none else some key) = _
  rw [hkey, if_neg (reconcileKey_ne_empty _ _ _)]

/-- What the calls keep: accounts have their own identifiers, creations their own keys, and every reconciliation
carries a snapshot of its account. -/
structure Reconciliations (db : HostingStore) : Prop where
  nodup : (db.accounts.map Account.id).Nodup
  creations : db.operations.Creations
  snapshots : ∀ request ∈ db.operations.requests, request.kind = hostingAccountReconcileKind →
    ∃ account ∈ db.accounts, account.Snapshot request

namespace Reconciliations

variable {db db' : HostingStore}

theorem updates (h : Reconciliations db) (hupdates : UpdatesAccounts db db') : Reconciliations db' := by
  refine ⟨hupdates.accounts.nodup h.nodup, by rw [hupdates.operations]; exact h.creations, fun request hmem hkind => ?_⟩
  rw [hupdates.operations] at hmem
  obtain ⟨old, hold, hsnapshot⟩ := h.snapshots request hmem hkind
  obtain ⟨new, hnew, hevolves⟩ := hupdates.accounts.kept old hold
  exact ⟨new, hnew, hsnapshot.evolves hevolves⟩

theorem steps (h : Reconciliations db) (hsteps : StepsAccounts db db') : Reconciliations db' :=
  h.updates ⟨hsteps.accounts.evolve, hsteps.operations⟩

/-- A call on the operations whose creations are no reconciliations, or snapshots of an account. -/
theorem operation (h : Reconciliations db)
    (hcreates : ∀ request, call.Creates request → request.kind = hostingAccountReconcileKind → ∃ account ∈ db.accounts, account.Snapshot request) :
    Reconciliations { db with operations := (call.execute db.operations).1 } := by
  refine ⟨h.nodup, h.creations.execute call, fun request hmem hkind => ?_⟩
  obtain ⟨added, hrequests, hcreated⟩ := (execute_traces db.operations call).requests
  rw [hrequests, mem_append] at hmem
  rcases hmem with hold | hnew
  · exact h.snapshots request hold hkind
  · exact hcreates request (hcreated request hnew) hkind

theorem other (h : Reconciliations db) (hother : createsReconcile call = false) :
    Reconciliations { db with operations := (call.execute db.operations).1 } := by
  refine h.operation fun request hcreates hkind => ?_
  cases call with
  | create params newID now =>
    obtain ⟨operation, hprepared, rfl⟩ := hcreates
    simp only [prepareOperation, bind_eq_ok_iff] at hprepared
    obtain ⟨_, -, _, -, kind, hvalid, _, -, _, -, _, -, _, -, hrow⟩ := hprepared
    cases hrow
    have hkind : kind = hostingAccountReconcileKind := hkind
    rw [createsReconcile, decide_eq_false_iff_not, ← validateAction_eq_ok hvalid] at hother
    exact absurd hkind hother
  | _ => exact hcreates.elim

theorem create (h : Reconciliations db) {account : Account} (hmem : account ∈ db.accounts) (actorID : Option ID)
    (requestID : String) (newID : ID) (now : Time) :
    Reconciliations
      { db with operations := (createOperation db.operations (account.request actorID requestID) newID now).1 } := by
  have hcall : ∀ request, (OperationCall.create (account.request actorID requestID) newID now).Creates request →
      request.kind = hostingAccountReconcileKind → ∃ account ∈ db.accounts, account.Snapshot request := by
    rintro request ⟨operation, hprepared, rfl⟩ -
    exact ⟨account, hmem, Account.snapshot_of_prepareOperation hprepared⟩
  exact h.operation hcall

end Reconciliations

theorem snapshotRequest_cases {db : HostingStore} {accountID : ID} {params : CreateOperationParams}
    (h : db.snapshotRequest accountID actorID requestID = .ok params) :
    ∃ account ∈ db.accounts, db.findAccount accountID = some account ∧ account.id = accountID ∧
      params = account.request actorID requestID := by
  cases hfind : db.findAccount accountID with
  | none =>
    have hload : db.loadAccount accountID = .error .noRows := by
      rw [HostingStore.loadAccount, hfind]
      rfl
    simp only [HostingStore.snapshotRequest, HostingStore.getHostingAccount, bind_eq_ok_iff, hload,
      Except.mapError] at h
    obtain ⟨_, ⟨_, -, _, hnone, -⟩, -⟩ := h
    cases hnone
  | some account =>
    have hid : account.id = accountID := key_of_lookup hfind
    subst hid
    refine ⟨account, mem_of_lookup hfind, rfl, rfl, ?_⟩
    rw [snapshotRequest_eq hfind] at h
    exact (Except.ok.inj h).symm

namespace Reconciliations

variable {db : HostingStore}

section

variable (h : Reconciliations db)

include h

theorem queueSnapshot (accountID : ID) (actorID : Option ID) (requestID : String) (newID : ID) (now : Time) :
    Reconciliations (queueSnapshot db accountID actorID requestID newID now).1 := by
  unfold Hosting.queueSnapshot
  cases hrequest : db.snapshotRequest accountID actorID requestID with
  | error error => exact h
  | ok params =>
    obtain ⟨account, hmem, -, -, rfl⟩ := snapshotRequest_cases hrequest
    exact h.create hmem actorID requestID newID now

/-- The loop of a scan, over any list of requests of the service. -/
theorem queueOperations (draws : SchedulerDraws) {requests : List (Except CoreError CreateOperationParams)}
    (hrequests : ∀ params, .ok params ∈ requests → ∃ account ∈ db.accounts, ∃ actorID requestID, params = account.request actorID requestID)
    (queued : Nat) :
    Reconciliations { db with operations := (queueOperations draws queued requests db.operations).1 } := by
  induction requests generalizing db queued with
  | nil => exact h
  | cons first rest ih =>
    cases first with
    | error error => exact h
    | ok params =>
      obtain ⟨account, hmem, actorID, requestID, rfl⟩ := hrequests _ mem_cons_self
      have hnext := h.create hmem actorID requestID (draws.newID queued) (draws.createdAt queued)
      simp only [Stackfort.queueOperations]
      cases hcreate : createOperation db.operations (account.request actorID requestID) (draws.newID queued)
          (draws.createdAt queued) with
      | mk operations reply =>
        rw [hcreate] at hnext
        cases reply with
        | error error => exact hnext
        | ok operation =>
          exact ih hnext (fun params hparams => hrequests params (mem_cons_of_mem _ hparams)) (queued + 1)

theorem queuePending (limit : Int) (draws : SchedulerDraws) : Reconciliations (queuePending db limit draws).1 := by
  unfold Hosting.queuePending
  cases db.listHostingAccountsNeedingHostReconcile limit with
  | error error => exact h
  | ok accounts =>
    refine h.queueOperations draws (fun params hparams => ?_) 0
    obtain ⟨accountID, -, hrequest⟩ := mem_map.mp hparams
    obtain ⟨account, hmem, -, -, rfl⟩ := snapshotRequest_cases hrequest
    exact ⟨account, hmem, none, systemRequestID, rfl⟩

end

/-- Every call steps the accounts, or leaves them and works on the operations. -/
theorem execute_steps (db : HostingStore) (call : HostingCall) : StepsAccounts db (call.execute db) ∨
    (call.execute db).accounts = db.accounts ∧ (Reconciliations db → Reconciliations (call.execute db)) := by
  cases call with
  | operation call other => exact .inr ⟨rfl, fun h => h.other other⟩
  | createPackage params newID => exact .inl (stepsAccounts_createPackage db params newID)
  | updatePackage params => exact .inl (stepsAccounts_updatePackage db params)
  | createHostingAccount params ownerKnown newID now =>
    exact .inl (stepsAccounts_createHostingAccount db params ownerKnown newID now)
  | queueSnapshot accountID actorID requestID newID now =>
    refine .inr ⟨?_, fun h => h.queueSnapshot accountID (some actorID) requestID newID now⟩
    simp only [HostingCall.execute, Hosting.queueSnapshot]
    split <;> rfl
  | queuePending limit draws =>
    refine .inr ⟨?_, fun h => h.queuePending limit draws⟩
    simp only [HostingCall.execute, Hosting.queuePending]
    split <;> rfl
  | assignPackage params now => exact .inl (stepsAccounts_assignPackage db params now)
  | confirmFilesystemApplied | confirmFilesystemBlocked =>
    exact .inl (stepsAccounts_write db (evolves_mapFilesystem _ fun _ => rfl))
  | confirmResourcesApplied | confirmResourcesBlocked =>
    exact .inl (stepsAccounts_write db (evolves_mapResources _ fun _ => rfl))
  | markReconciled params now => exact .inl (stepsAccounts_markReconciled db params now)
  | requestArchive | confirmArchive | requestDeletion | confirmDeleted =>
    exact .inl (stepsAccounts_write db fun row => evolves_setLifecycle _ _ row)

section

variable (h : Reconciliations db)

include h

theorem execute (call : HostingCall) : Reconciliations (call.execute db) := by
  rcases execute_steps db call with hsteps | ⟨-, hkeeps⟩
  · exact h.steps hsteps
  · exact hkeeps h

theorem run (calls : List HostingCall) : Reconciliations (db.run calls) := by
  induction calls generalizing db with
  | nil => exact h
  | cons call rest ih => exact ih (h.execute call)

end

end Reconciliations

theorem after_reconciliations (calls : List HostingCall) : Reconciliations (after calls) := by
  have hempty : Reconciliations HostingStore.empty := by
    refine ⟨nodup_nil, ⟨List.Pairwise.nil, ?_⟩, ?_⟩
    · exact forall_mem_nil _
    · exact forall_mem_nil _
  exact hempty.run calls

/-! ### Coverage -/

/-- The number under a name of a payload. -/
def payloadNumber (name : String) (payload : JsonObject) : Option Int :=
  match payload.lookup name with
  | some (.number value) => some value
  | _ => none

/-- The operation reconciles an account at its current revisions, and a worker holds it or will claim it. -/
def Account.Reconciling (account : Account) (operation : Operation) : Prop :=
  operation.accountID = some account.id ∧ operation.kind = hostingAccountReconcileKind ∧
    operation.status.isLive = true ∧
    payloadNumber "filesystemRevision" operation.payload = some (account.filesystem.revision : Int) ∧
    payloadNumber "resourceRevision" operation.payload = some (account.resources.revision : Int)

instance (account : Account) (operation : Operation) : Decidable (account.Reconciling operation) :=
  inferInstanceAs (Decidable (_ ∧ _))

/-- The key of the operation for an account at its current revisions. -/
def Account.currentKey (account : Account) : String :=
  reconcileKey account.id account.filesystem.revision account.resources.revision

/-- A scan covers an account: the key of its current revisions is free, or the operation that holds it is a
reconciliation without an actor that a worker holds or will claim. -/
def HostingStore.Covers (db : HostingStore) (account : Account) : Prop :=
  ∀ existing, db.operations.findOperationByIdempotencyKeyTx (some account.id) account.currentKey = some existing →
    existing.kind = hostingAccountReconcileKind ∧ existing.actorID = none ∧ existing.status.isLive = true

theorem mem_list {db : HostingStore} {ids : List ID} (h : db.listHostingAccountsNeedingHostReconcile limit = .ok ids) :
    ∃ rows : List Account, ids = rows.map Account.id ∧ (∀ row ∈ rows, row ∈ db.accounts) ∧
      ((db.accounts.map Account.id).Nodup → ids.Nodup) := by
  unfold HostingStore.listHostingAccountsNeedingHostReconcile at h
  split at h
  · cases h
  cases h
  refine ⟨_, rfl, fun row hrow => ?_, fun hnodup => ?_⟩
  · have hsorted := (mem_insertionSort _).mp (mem_of_mem_take hrow)
    exact (mem_filter.mp hsorted).1
  · refine (List.Sublist.map _ (take_sublist _ _)).nodup ?_
    rw [((perm_insertionSort _ _).map Account.id).nodup_iff]
    exact (List.Sublist.map _ filter_sublist).nodup hnodup

section Coverage

variable {db : HostingStore} {account : Account} {operation : Operation}

theorem payloadNumber_rounded (payload : ReconcilePayload) :
    payloadNumber "filesystemRevision" payload.rounded.object = some (roundedNumber payload.filesystemRevision : Int) ∧
      payloadNumber "resourceRevision" payload.rounded.object = some (roundedNumber payload.resourceRevision : Int) := by
  constructor <;> rfl

section

variable (h : Reconciliations db) (haccount : account ∈ db.accounts)

include h haccount

/-- A reconciliation of an account belongs to the account it is a snapshot of. -/
theorem Reconciliations.snapshotAt (hmem : operation ∈ db.operations.operations)
    (hkind : operation.kind = hostingAccountReconcileKind) (hid : operation.accountID = some account.id) :
    account.Snapshot operation.request := by
  obtain ⟨other, hother, hsnapshot⟩ := h.snapshots operation.request (mem_map_of_mem hmem) hkind
  obtain ⟨f, storage, r, resources, hat⟩ := hsnapshot
  have hsame : other.id = account.id := some.inj (hat.accountID.symm.trans hid)
  rw [inj_on_of_nodup_map h.nodup hother haccount hsame] at hat
  exact ⟨f, storage, r, resources, hat⟩

theorem Reconciliations.key_of_reconciling (hfilesystem : account.filesystem.revision < 2 ^ 53)
    (hresources : account.resources.revision < 2 ^ 53) (hmem : operation ∈ db.operations.operations)
    (hreconciling : account.Reconciling operation) :
    operation.idempotencyKey = some account.currentKey := by
  obtain ⟨hid, hkind, -, hfirst, hsecond⟩ := hreconciling
  obtain ⟨f, storage, r, resources, hat⟩ := h.snapshotAt haccount hmem hkind hid
  have hpayload : operation.payload = _ := hat.payload
  have hf := hat.filesystem_le
  have hr := hat.resources_le
  rw [hpayload, (payloadNumber_rounded _).1] at hfirst
  rw [hpayload, (payloadNumber_rounded _).2] at hsecond
  simp only [snapshotPayload, some.injEq, Int.natCast_inj] at hfirst hsecond
  rw [roundedNumber_of_lt (by omega)] at hfirst hsecond
  have hkey : operation.idempotencyKey = _ := hat.key
  rw [hkey, hfirst, hsecond]
  rfl

theorem Reconciliations.payload_of_key (hmem : operation ∈ db.operations.operations)
    (hkind : operation.kind = hostingAccountReconcileKind) (hid : operation.accountID = some account.id)
    (hkey : operation.idempotencyKey = some account.currentKey) :
    operation.payload = account.payload.rounded.object ∧ operation.retryClass = .safe ∧ operation.maxAttempts = 3 := by
  obtain ⟨f, storage, r, resources, hat⟩ := h.snapshotAt haccount hmem hkind hid
  have hkeys : reconcileKey account.id f r = account.currentKey := some.inj (hat.key.symm.trans hkey)
  obtain ⟨rfl, rfl⟩ := reconcileKey_inj hkeys
  have hpayload : operation.payload = _ := hat.payload
  rw [hat.storage_eq rfl, hat.resources_eq rfl] at hpayload
  exact ⟨hpayload, hat.retryClass, hat.maxAttempts⟩

/-- The request of a scan is answered exactly when the holder of the key is a reconciliation without an actor. -/
theorem Reconciliations.answers_iff (hfilesystem : account.filesystem.revision < 2 ^ 53)
    (hresources : account.resources.revision < 2 ^ 53) :
    db.operations.Answers account.scanOperation ↔
      ∀ existing, db.operations.keyHolder account.scanOperation = some existing →
        existing.kind = hostingAccountReconcileKind ∧ existing.actorID = none := by
  refine forall₂_congr fun existing hholder => ?_
  obtain ⟨hmem, hid, -, hkey⟩ := keyHolder_eq_some hholder
  have hstored := h.creations.stored _ (mem_map_of_mem hmem)
  have hscan : StoredObject account.scanOperation.payload :=
    (prepareOperation_stored (Account.asks hfilesystem hresources "" 0)).2
  rw [sameOperationInput_iff hstored hscan]
  constructor
  · rintro ⟨⟨hkind, -, -, hactor, -⟩, -⟩
    exact ⟨hkind, hactor⟩
  · rintro ⟨hkind, hactor⟩
    obtain ⟨hpayload, hclass, hattempts⟩ := h.payload_of_key haccount hmem hkind hid hkey
    have hsize := Nat.le_trans (Json.utf8ByteSize_encode_le _) (Account.small_rounded hfilesystem hresources).sizeBound
    refine ⟨⟨hkind, hclass, hattempts, hactor, ?_⟩, hsize⟩
    rw [hpayload]
    rfl

end

theorem payloadNumber_payload (hfilesystem : account.filesystem.revision < 2 ^ 53)
    (hresources : account.resources.revision < 2 ^ 53) :
    payloadNumber "filesystemRevision" account.payload.rounded.object = some (account.filesystem.revision : Int) ∧
      payloadNumber "resourceRevision" account.payload.rounded.object = some (account.resources.revision : Int) := by
  obtain ⟨hfirst, hsecond⟩ := payloadNumber_rounded account.payload
  rw [hfirst, hsecond]
  simp only [Account.payload, snapshotPayload, roundedNumber_of_lt hfilesystem, roundedNumber_of_lt hresources,
    and_self]

theorem queuePending_outcome {draws : SchedulerDraws} {rows : List Account}
    (hlist : db.listHostingAccountsNeedingHostReconcile limit = .ok (rows.map Account.id))
    (hfind : ∀ row ∈ rows, db.findAccount row.id = some row) (hnodup : (rows.map Account.id).Nodup)
    (hcounters : ∀ row ∈ rows, row.filesystem.revision < 2 ^ 53 ∧ row.resources.revision < 2 ^ 53)
    (hfresh : draws.Fresh db.operations 0 rows.length) :
    (queuePending db limit draws).1.accounts = db.accounts ∧
      BatchOutcome draws db.operations (rows.map Account.scanOperation) 0
        ((queuePending db limit draws).1.operations, (queuePending db limit draws).2) := by
  have hrequests : ((rows.map Account.id).map fun accountID => db.snapshotRequest accountID none systemRequestID) =
      (rows.map fun row => row.request none systemRequestID).map .ok := by
    rw [map_map, map_map]
    exact map_congr_left fun row hrow => snapshotRequest_eq (hfind row hrow) none systemRequestID
  have hasks : List.Forall₂ CreateOperationParams.Asks (rows.map fun row => row.request none systemRequestID)
      (rows.map Account.scanOperation) := by
    rw [List.forall₂_map_left_iff, List.forall₂_map_right_iff, List.forall₂_same]
    exact fun row hrow => Account.asks (hcounters row hrow).1 (hcounters row hrow).2
  have hdistinct : (rows.map Account.scanOperation).Pairwise Operation.Distinct := by
    rw [pairwise_map]
    refine (List.pairwise_map.mp hnodup).imp fun hne => ?_
    exact fun _ haccount _ => hne (some.inj haccount)
  have hlength : (rows.map Account.scanOperation).length = rows.length := length_map _
  rw [queuePending, hlist]
  dsimp only
  rw [hrequests]
  exact ⟨rfl, queueOperations_outcome draws hasks hdistinct (by rwa [hlength])⟩

end Coverage

/-- After any calls, a scan goes through and leaves every account it lists with a live reconciliation at the
current revisions exactly when it covers each of them. -/
theorem queuePending_covers_iff (calls : List HostingCall) {limit : Int} {ids : List ID}
    (hlist : (after calls).listHostingAccountsNeedingHostReconcile limit = .ok ids)
    {draws : SchedulerDraws} (hfresh : draws.Fresh (after calls).operations 0 ids.length)
    (hcounters : ∀ account ∈ (after calls).accounts,
      account.filesystem.revision < 2 ^ 53 ∧ account.resources.revision < 2 ^ 53) :
    ((∃ count, (queuePending (after calls) limit draws).2 = .ok count) ∧
        ∀ account ∈ (after calls).accounts, account.id ∈ ids →
          ∃ operation ∈ (queuePending (after calls) limit draws).1.operations.operations,
            account.Reconciling operation) ↔
      ∀ account ∈ (after calls).accounts, account.id ∈ ids →
        (after calls).Covers account := by
  have hstore := after_reconciliations calls
  have hafter := hstore.queuePending limit draws
  generalize after calls = db at *
  obtain ⟨rows, rfl, hrows, hnodup⟩ := mem_list hlist
  have hfind : ∀ row ∈ rows, db.findAccount row.id = some row := fun row hrow =>
    lookup_of_mem hstore.nodup (hrows row hrow)
  rw [length_map] at hfresh
  obtain ⟨haccounts, houtcome⟩ := queuePending_outcome hlist hfind (hnodup hstore.nodup)
    (fun row hrow => hcounters row (hrows row hrow)) hfresh
  generalize queuePending db limit draws = outcome at *
  -- every listed identifier is that of a row of the list
  have hlisted : ∀ account ∈ db.accounts, account.id ∈ rows.map Account.id →
      account.scanOperation ∈ rows.map Account.scanOperation := by
    intro account haccount hid
    obtain ⟨row, hrow, hsame⟩ := mem_map.mp hid
    rw [← inj_on_of_nodup_map hstore.nodup (hrows row hrow) haccount hsame]
    exact mem_map_of_mem hrow
  constructor
  · rintro ⟨⟨count, hcount⟩, hreconciling⟩ account haccount hid existing hholder
    have hmember := hlisted account haccount hid
    obtain ⟨hfilesystem, hresources⟩ := hcounters account haccount
    obtain ⟨operation, hoperation, hreconciling⟩ := hreconciling account haccount hid
    have hanswers := houtcome.goesThrough.mp ⟨count, hcount⟩ _ hmember
    obtain ⟨hkind, hactor⟩ :=
      (hstore.answers_iff haccount hfilesystem hresources).mp hanswers existing hholder
    refine ⟨hkind, hactor, ?_⟩
    obtain ⟨row, hrow, hcases⟩ := houtcome.holders count hcount _ hmember (some_ne_none _)
    have hexisting : row = existing := by
      rcases hcases with hold | ⟨hnone, -⟩
      · exact some.inj (hold.symm.trans hholder)
      · exact absurd (hnone.symm.trans hholder) (some_ne_none existing).symm
    obtain ⟨hrowMem, hrowID, -, hrowKey⟩ := keyHolder_eq_some hrow
    have hkey := hafter.key_of_reconciling (by rwa [haccounts]) hfilesystem hresources hoperation hreconciling
    have hsame : operation = row := by
      refine hafter.creations.eq_of_key hoperation hrowMem (by rw [hkey]; exact some_ne_none _) ?_ ?_
      · rw [hreconciling.1, hrowID]
        rfl
      · rw [hkey, hrowKey]
        rfl
    rw [← hexisting, ← hsame]
    exact hreconciling.2.2.1
  · intro hcovers
    have hok : ∃ count, outcome.2 = .ok count := by
      refine houtcome.goesThrough.mpr fun operation hoperation => ?_
      obtain ⟨row, hrow, rfl⟩ := mem_map.mp hoperation
      have hmem := hrows row hrow
      refine (hstore.answers_iff hmem (hcounters row hmem).1 (hcounters row hmem).2).mpr fun existing hholder => ?_
      have hcovered := hcovers row hmem (mem_map_of_mem hrow) existing hholder
      exact ⟨hcovered.1, hcovered.2.1⟩
    refine ⟨hok, fun account haccount hid => ?_⟩
    obtain ⟨count, hcount⟩ := hok
    obtain ⟨hfilesystem, hresources⟩ := hcounters account haccount
    obtain ⟨row, hrow, hcases⟩ := houtcome.holders count hcount _ (hlisted account haccount hid)
      (some_ne_none _)
    have hnumbers := payloadNumber_payload hfilesystem hresources
    refine ⟨row, (keyHolder_eq_some hrow).1, ?_⟩
    rcases hcases with hold | ⟨-, newID, now, rfl⟩
    · obtain ⟨hkind, -, hlive⟩ := hcovers account haccount hid row hold
      obtain ⟨hmem, hrowID, -, hrowKey⟩ := keyHolder_eq_some hold
      obtain ⟨hpayload, -⟩ := hstore.payload_of_key haccount hmem hkind hrowID hrowKey
      refine ⟨hrowID, hkind, hlive, ?_, ?_⟩
      · rw [hpayload, hnumbers.1]
      · rw [hpayload, hnumbers.2]
    · exact ⟨rfl, rfl, rfl, hnumbers.1, hnumbers.2⟩

/-! ### Scans of two accounts -/

namespace ProvisioningSample

def packageID : ID := "01890000-0000-7000-8000-0000000000a0"

def ownerID : ID := "01890000-0000-7000-8000-0000000000b0"

def firstID : ID := "01890000-0000-7000-8000-000000000001"

def secondID : ID := "01890000-0000-7000-8000-000000000002"

def operationID : ID := "01890000-0000-7000-8000-0000000000c0"

def package : HostingCall :=
  .createPackage ⟨"Basic", "basic", ⟨none, none, none, none, none, none, none⟩, some ownerID, "request-0"⟩ packageID

/-- The first half of a user's request. -/
def account (slug : String) (accountID : ID) : HostingCall :=
  .createHostingAccount ⟨"Account", slug, ownerID, packageID, some ownerID, "request-1"⟩ true accountID 0

/-- The process stops before the reconciliation of the account is queued. -/
def interrupted : List HostingCall := [package, account "first" firstID]

/-- A user's request goes through for the first account and is interrupted for the second. -/
def secondInterrupted : List HostingCall :=
  [package, account "first" firstID, .queueSnapshot firstID ownerID "request-1" operationID 0,
    account "second" secondID]

def draws : SchedulerDraws := ⟨0, fun _ => "01890000-0000-7000-8000-0000000000d0", fun _ => 0⟩

end ProvisioningSample

open ProvisioningSample in
/-- A scan repairs an interrupted request. -/
theorem queuePending_covers_iff_interrupted :
    (∃ count, (queuePending (after interrupted) 10 draws).2 = .ok count) ∧
      ∀ account ∈ (after interrupted).accounts, account.id ∈ [firstID] →
        ∃ operation ∈ (queuePending (after interrupted) 10 draws).1.operations.operations,
          account.Reconciling operation := by
  have hlist : (after interrupted).listHostingAccountsNeedingHostReconcile 10 = .ok [firstID] := by
    decide +kernel
  have hstart : (after interrupted).operations.operations = [] ∧
      ∀ account ∈ (after interrupted).accounts,
        account.filesystem.revision < 2 ^ 53 ∧ account.resources.revision < 2 ^ 53 := by
    decide +kernel
  obtain ⟨hnone, hcounters⟩ := hstart
  have hfresh : draws.Fresh (after interrupted).operations 0 [firstID].length := by
    refine ⟨fun i hi row hrow => ?_, fun i hi j hj _ => ?_⟩
    · rw [hnone] at hrow
      exact absurd hrow not_mem_nil
    · rw [length_singleton] at hi hj
      omega
  refine (queuePending_covers_iff interrupted hlist hfresh hcounters).mpr fun account _ _ existing hexisting => ?_
  have hmem := mem_of_find?_eq_some hexisting
  rw [hnone] at hmem
  exact absurd hmem not_mem_nil

open ProvisioningSample in
/-- The scan stops at the first account, whose operation a user has asked for, and the second is left without one. -/
theorem queuePending_stops_at_user_request :
    (after secondInterrupted).listHostingAccountsNeedingHostReconcile 10 = .ok [firstID, secondID] ∧
      (queuePending (after secondInterrupted) 10 draws).2 =
        .error (.conflict "idempotency key was already used for different operation input") ∧
      ((queuePending (after secondInterrupted) 10 draws).1.operations.operations.all fun operation =>
        decide (operation.accountID ≠ some secondID)) = true := by
  decide +kernel

end Stackfort.Hosting
