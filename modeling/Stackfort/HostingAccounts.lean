import Stackfort.OperationBatches

/-! Hosting accounts as the repository stores them. The tables of an account, its Unix identity, its filesystem
and its resources have one row each for an account, and exactly one assignment of a package is current, so
they are joined into one row here. The row carries what the statements and the keys of the tables keep: the identity
passes its own check, the project of the quota is the user, and the desired limits are those of the
assignment. The audit records of these functions, the memberships and the texts that nothing reads again are left
out; whether the owner of a new account is registered is an argument. -/

namespace Stackfort.Hosting

/-! ### Identities -/

def managedAccountsRoot : String := "/srv/hosting/accounts"

def minimumID : Nat := 200000

def maximumID : Nat := 249999

/-- `hostingidentity.Spec`. -/
structure IdentitySpec where
  (accountID username : String)
  (uid gid : Nat)
  homeDirectory : String
  deriving DecidableEq

def parseAccountID (value : String) : Except String Unit :=
  if isCanonicalUUIDv7 value then pure () else throw "accountId must be a canonical UUIDv7"

/-- The last 26 hexadecimal digits of the identifier. -/
def usernameForAccount (accountID : String) : Except String String := do
  parseAccountID accountID
  let compact := accountID.toList.filter fun c => c != '-'
  pure ("sf_" ++ String.ofList (compact.drop (compact.length - 26)))

def homeDirectoryForAccount (accountID : String) : Except String String := do
  parseAccountID accountID
  pure (managedAccountsRoot ++ "/" ++ accountID)

def validateIdentity (spec : IdentitySpec) : Except String Unit := do
  let expectedUsername ← usernameForAccount spec.accountID
  let expectedHome ← homeDirectoryForAccount spec.accountID
  if spec.username ≠ expectedUsername then throw "username does not match accountId"
  if spec.homeDirectory ≠ expectedHome then throw "homeDirectory does not match accountId"
  if spec.uid < minimumID ∨ maximumID < spec.uid then throw "uid is outside the reserved range"
  if spec.gid ≠ spec.uid then throw "gid must equal uid"
  pure ()

/-! ### Limits -/

/-- The limits of a package that are enforced on the host. The other limits are counted by the panel. -/
structure PackageLimits where
  (cpuQuotaPercent cpuWeight memoryBytes swapBytes processLimit storageBytes storageInodes : Option Int)
  deriving DecidableEq

def maxInt64 : Int := 2 ^ 63 - 1

def validateOptionalRange (name : String) (value : Option Int) (minimum maximum : Int) : Except CoreError Unit :=
  if value.any fun limit => decide (limit < minimum ∨ maximum < limit) then
    throw (.invalidInput (name ++ " must be between " ++ toString minimum ++ " and " ++ toString maximum))
  else pure ()

def validateLimits (limits : PackageLimits) : Except CoreError Unit := do
  validateOptionalRange "cpuQuotaPercent" limits.cpuQuotaPercent 1 100000
  validateOptionalRange "cpuWeight" limits.cpuWeight 1 10000
  validateOptionalRange "memoryBytes" limits.memoryBytes 1 maxInt64
  validateOptionalRange "processLimit" limits.processLimit 1 maxInt64
  validateOptionalRange "storageInodes" limits.storageInodes 1 maxInt64
  validateOptionalRange "storageBytes" limits.storageBytes 1024 maxInt64
  if limits.storageBytes.any fun bytes => decide (bytes % 1024 ≠ 0) then
    throw (.invalidInput "storageBytes must be a whole number of 1024-byte quota blocks")
  validateOptionalRange "swapBytes" limits.swapBytes 0 maxInt64

/-- Limits as they are stored. -/
abbrev StoredLimits := { limits : PackageLimits // validateLimits limits = .ok () }

def encodeLimits (limits : PackageLimits) : Except CoreError StoredLimits :=
  match h : validateLimits limits with
  | .ok () => .ok ⟨limits, h⟩
  | .error error => .error error

/-- The limits of the project quota. -/
structure StorageLimits where
  (bytes inodes : Option Int)
  deriving DecidableEq

/-- The limits of the control group. -/
structure ResourceLimits where
  (cpuQuotaPercent cpuWeight memoryBytes swapBytes processLimit : Option Int)
  deriving DecidableEq

def PackageLimits.storage (limits : PackageLimits) : StorageLimits := ⟨limits.storageBytes, limits.storageInodes⟩

def PackageLimits.resources (limits : PackageLimits) : ResourceLimits :=
  ⟨limits.cpuQuotaPercent, limits.cpuWeight, limits.memoryBytes, limits.swapBytes, limits.processLimit⟩

/-! ### Rows -/

inductive HostStatus where
  | pending
  | applied
  | blocked
  deriving DecidableEq

inductive HostCapability where
  | pending
  | available
  | unavailable
  | unsupported
  | unknown
  deriving DecidableEq

/-- A row of `hosting_account_filesystems` or `hosting_account_resources`, by the limits it is about. -/
structure HostRecord (α : Type) where
  desired : α
  applied : Option α
  revision : Nat
  status : HostStatus
  capabilityStatus : HostCapability
  reasonCode : Option String
  updatedAt : Time
  appliedAt : Option Time
  lastOperationID : Option ID
  positive : 0 < revision

namespace HostRecord

variable {α : Type}

def initial (desired : α) (now : Time) : HostRecord α where
  desired := desired
  applied := none
  revision := 1
  status := .pending
  capabilityStatus := .pending
  reasonCode := none
  updatedAt := now
  appliedAt := none
  lastOperationID := none
  positive := Nat.one_pos

def setDesired (desired : α) (now : Time) (record : HostRecord α) : HostRecord α :=
  { record with
    desired := desired, revision := record.revision + 1, status := .pending, capabilityStatus := .pending
    reasonCode := none, updatedAt := now, positive := Nat.succ_pos _ }

def setApplied (operationID : ID) (now : Time) (record : HostRecord α) : HostRecord α :=
  { record with
    applied := some record.desired, status := .applied, capabilityStatus := .available, reasonCode := none
    updatedAt := now, appliedAt := some now, lastOperationID := some operationID }

def setBlocked (operationID : ID) (capability : HostCapability) (reasonCode : String) (now : Time)
    (record : HostRecord α) : HostRecord α :=
  { record with
    status := .blocked, capabilityStatus := capability, reasonCode := some reasonCode, updatedAt := now
    lastOperationID := some operationID }

end HostRecord

inductive UnixIdentityState where
  | allocated
  | reconciled
  | archiveRequested
  | archived
  | deletionRequested
  | deleted
  deriving DecidableEq

/-- The columns of `hosting_account_unix_identities` that change. -/
structure IdentityLifecycle where
  state : UnixIdentityState
  (reconciledAt ociRuntimeReconciledAt archiveRequestedAt archivedAt : Option Time)
  archiveReference : Option String
  (deletionRequestedAt deletedAt : Option Time)
  deriving DecidableEq

/-- The current row of `account_package_assignments`. -/
structure PackageAssignment where
  packageID : ID
  packageRevision : Nat
  effectiveLimits : StoredLimits

/-- An account with its identity, filesystem, resources and current assignment. -/
structure Account where
  id : ID
  slug : String
  status : AccountStatus
  createdAt : Time
  assignment : PackageAssignment
  identity : IdentitySpec
  lifecycle : IdentityLifecycle
  projectID : Nat
  filesystem : HostRecord StorageLimits
  resources : HostRecord ResourceLimits
  identityValid : validateIdentity identity = .ok ()
  identityOwn : identity.accountID = id
  projectOwn : projectID = identity.uid
  desiredStorage : filesystem.desired = assignment.effectiveLimits.val.storage
  desiredResources : resources.desired = assignment.effectiveLimits.val.resources

namespace Account

def setAssignment (assignment : PackageAssignment) (now : Time) (row : Account) : Account :=
  { row with
    assignment := assignment, filesystem := row.filesystem.setDesired assignment.effectiveLimits.val.storage now
    resources := row.resources.setDesired assignment.effectiveLimits.val.resources now, desiredStorage := rfl
    desiredResources := rfl }

/-- A change of the filesystem record that keeps the desired limits. -/
def mapFilesystem (f : HostRecord StorageLimits → HostRecord StorageLimits)
    (hdesired : ∀ record, (f record).desired = record.desired) (row : Account) : Account :=
  { row with
    filesystem := f row.filesystem, desiredStorage := (hdesired row.filesystem).trans row.desiredStorage }

/-- A change of the resource record that keeps the desired limits. -/
def mapResources (f : HostRecord ResourceLimits → HostRecord ResourceLimits)
    (hdesired : ∀ record, (f record).desired = record.desired) (row : Account) : Account :=
  { row with
    resources := f row.resources, desiredResources := (hdesired row.resources).trans row.desiredResources }

def setLifecycle (lifecycle : IdentityLifecycle) (status : AccountStatus) (row : Account) : Account :=
  { row with lifecycle := lifecycle, status := status }

end Account

inductive PackageStatus where
  | active
  | archived
  deriving DecidableEq

/-- A row of `packages` with its current revision. -/
structure Package where
  id : ID
  slug : String
  status : PackageStatus
  currentRevision : Nat
  limits : StoredLimits

structure HostingStore where
  packages : List Package
  accounts : List Account
  operations : OperationStore

/-! ### Transactions -/

/-- One call: arguments are checked, the transaction runs, and an error rolls it back. -/
def write {α β : Type} (db : HostingStore) (checks : Except CoreError β)
    (tx : β → Except TxError (HostingStore × α)) : HostingStore × Except CoreError α :=
  match checks with
  | .error error => (db, .error error)
  | .ok checked =>
    match tx checked with
    | .error error => (db, .error (classifyDatabaseError error))
    | .ok (db', reply) => (db', .ok reply)

def isLowerLetter (c : Char) : Bool := 'a' ≤ c && c ≤ 'z'

def isDigitChar (c : Char) : Bool := '0' ≤ c && c ≤ '9'

/-- The pattern `^[a-z](?:[a-z0-9-]{0,61}[a-z0-9])?$`. -/
def matchesSlugPattern (value : String) : Bool :=
  match value.toList with
  | [] => false
  | first :: rest =>
    isLowerLetter first && decide (rest.length ≤ 62) &&
      (rest.all fun c => isLowerLetter c || isDigitChar c || c == '-') &&
      (rest.getLast?.all fun c => isLowerLetter c || isDigitChar c)

def validateSlug (value : String) : Except CoreError String :=
  if matchesSlugPattern value then pure value
  else throw (.invalidInput "slug must be lowercase ASCII, start with a letter, and contain at most 63 characters")

namespace HostingStore

variable (db : HostingStore)

def findAccount (accountID : ID) : Option Account := Rows.lookup Account.id accountID db.accounts

def loadAccount (accountID : ID) : Except TxError Account :=
  match db.findAccount accountID with
  | some row => pure row
  | none => throw .noRows

/-- An `UPDATE` of one account that must affect exactly one row. -/
def updateAccount (p : Account → Bool) (f : Account → Account) (failure : TxError) : Except TxError HostingStore :=
  if db.accounts.countP p ≠ 1 then throw failure
  else pure { db with accounts := updateWhere p f db.accounts }

/-! ### Packages -/

end HostingStore

structure CreatePackageParams where
  (name slug : String)
  limits : PackageLimits
  actorID : Option ID
  requestID : String

def checkCreatePackage (params : CreatePackageParams) : Except CoreError (String × StoredLimits) := do
  let _ ← validateText params.name "name" 1 120
  let slug ← validateSlug params.slug
  validateOptionalID params.actorID "actorId"
  let _ ← validateOptionalText params.requestID "requestId" 128
  let limits ← encodeLimits params.limits
  pure (slug, limits)

def createPackage (db : HostingStore) (params : CreatePackageParams) (newID : ID) :
    HostingStore × Except CoreError Package :=
  write db (checkCreatePackage params) fun (slug, limits) =>
    if db.packages.any fun row => decide (row.id = newID) then throw (.constraint "packages.id")
    else if db.packages.any fun row => decide (row.slug = slug) then throw (.constraint "packages.slug")
    else
      let row : Package := ⟨newID, slug, .active, 1, limits⟩
      pure ({ db with packages := db.packages ++ [row] }, row)

structure UpdatePackageParams where
  packageID : ID
  expectedRevision : Int
  name : String
  limits : PackageLimits
  actorID : Option ID
  requestID : String

def checkUpdatePackage (params : UpdatePackageParams) : Except CoreError StoredLimits := do
  validateID params.packageID "packageId"
  if params.expectedRevision < 1 then throw (.invalidInput "expectedRevision must be positive")
  let _ ← validateText params.name "name" 1 120
  validateOptionalID params.actorID "actorId"
  let _ ← validateOptionalText params.requestID "requestId" 128
  encodeLimits params.limits

def updatePackage (db : HostingStore) (params : UpdatePackageParams) : HostingStore × Except CoreError Package :=
  write db (checkUpdatePackage params) fun limits =>
    match Rows.lookup Package.id params.packageID db.packages with
    | none => throw .noRows
    | some row =>
      if (row.currentRevision : Int) ≠ params.expectedRevision then
        throw (.core (.conflict ("package revision is " ++ toString row.currentRevision ++ ", expected " ++
          toString params.expectedRevision)))
      else if row.status ≠ .active then throw (.core (.conflict "archived package cannot be updated"))
      else
        let updated := { row with currentRevision := row.currentRevision + 1, limits := limits }
        let selected := fun other : Package => decide (other.id = params.packageID)
        pure ({ db with packages := updateWhere selected (fun _ => updated) db.packages }, updated)

def HostingStore.currentPackageRevision (db : HostingStore) (packageID : ID) : Except TxError PackageAssignment :=
  match Rows.lookup Package.id packageID db.packages with
  | none => throw .noRows
  | some row =>
    if row.status ≠ .active then throw (.core (.conflict "archived package cannot be assigned"))
    else pure ⟨packageID, row.currentRevision, row.limits⟩

/-! ### Accounts -/

structure CreateHostingAccountParams where
  (name slug : String)
  (ownerIdentityID packageID : ID)
  actorID : Option ID
  requestID : String

def checkCreateHostingAccount (params : CreateHostingAccountParams) : Except CoreError String := do
  let _ ← validateText params.name "name" 1 120
  let slug ← validateSlug params.slug
  validateID params.ownerIdentityID "ownerIdentityId"
  validateID params.packageID "packageId"
  validateOptionalID params.actorID "actorId"
  let _ ← validateOptionalText params.requestID "requestId" 128
  pure slug

/-- `SELECT COALESCE(MAX(uid) + 1, ?)`. -/
def HostingStore.nextNumericID (db : HostingStore) : Nat :=
  match db.accounts.map fun row => row.identity.uid with
  | [] => minimumID
  | first :: rest => rest.foldl max first + 1

/-- The identity of a new account, which passes its check. -/
def newIdentity (accountID : ID) (numericID : Nat) :
    Except CoreError { spec : IdentitySpec // validateIdentity spec = .ok () ∧ spec.accountID = accountID } :=
  match usernameForAccount accountID, homeDirectoryForAccount accountID with
  | .ok username, .ok home =>
    let spec : IdentitySpec := ⟨accountID, username, numericID, numericID, home⟩
    if h : validateIdentity spec = .ok () then .ok ⟨spec, h, rfl⟩
    else .error (.conflict "reserved hosting Unix identity range is exhausted")
  | .error message, _ => .error (.internal ("derive hosting account username: " ++ message))
  | _, .error message => .error (.internal ("derive hosting account home: " ++ message))

def newAccount (accountID : ID) (slug : String) (assignment : PackageAssignment)
    (spec : { spec : IdentitySpec // validateIdentity spec = .ok () ∧ spec.accountID = accountID }) (now : Time) :
    Account where
  id := accountID
  slug := slug
  status := .active
  createdAt := now
  assignment := assignment
  identity := spec.val
  lifecycle := ⟨.allocated, none, none, none, none, none, none, none⟩
  projectID := spec.val.uid
  filesystem := .initial assignment.effectiveLimits.val.storage now
  resources := .initial assignment.effectiveLimits.val.resources now
  identityValid := spec.property.1
  identityOwn := spec.property.2
  projectOwn := rfl
  desiredStorage := rfl
  desiredResources := rfl

/-- The unique columns of the tables of an account. -/
def HostingStore.insertAccount (db : HostingStore) (row : Account) : Except TxError HostingStore :=
  if db.accounts.any fun other => decide (other.id = row.id) then throw (.constraint "hosting_accounts.id")
  else if db.accounts.any fun other => decide (other.slug = row.slug) then
    throw (.constraint "hosting_accounts.slug")
  else if db.accounts.any fun other => decide (other.identity.username = row.identity.username) then
    throw (.constraint "hosting_account_unix_identities.username")
  else pure { db with accounts := db.accounts ++ [row] }

def createHostingAccountTx (db : HostingStore) (params : CreateHostingAccountParams) (slug : String)
    (ownerKnown : Bool) (newID : ID) (now : Time) : Except TxError (HostingStore × Account) := do
  let assignment ← db.currentPackageRevision params.packageID
  let spec ← (newIdentity newID db.nextNumericID).mapError .core
  let row := newAccount newID slug assignment spec now
  let db ← db.insertAccount row
  if ownerKnown = false then throw (.constraint "account_memberships.identity_id")
  pure (db, row)

def createHostingAccount (db : HostingStore) (params : CreateHostingAccountParams) (ownerKnown : Bool) (newID : ID)
    (now : Time) : HostingStore × Except CoreError Account :=
  write db (checkCreateHostingAccount params) fun slug => createHostingAccountTx db params slug ownerKnown newID now

structure AssignPackageParams where
  (accountID packageID : ID)
  actorID : Option ID
  requestID : String

def checkAssignPackage (params : AssignPackageParams) : Except CoreError Unit := do
  validateID params.accountID "accountId"
  validateID params.packageID "packageId"
  validateOptionalID params.actorID "actorId"
  let _ ← validateOptionalText params.requestID "requestId" 128
  pure ()

def assignPackageTx (db : HostingStore) (params : AssignPackageParams) (now : Time) :
    Except TxError (HostingStore × PackageAssignment) := do
  let account ← db.loadAccount params.accountID
  if account.status = .archived then throw (.core (.conflict "archived account cannot receive a package"))
  let assignment ← db.currentPackageRevision params.packageID
  if account.assignment.packageID = params.packageID ∧
      account.assignment.packageRevision = assignment.packageRevision then
    throw (.core (.conflict "account already has this package revision"))
  let db ← db.updateAccount (fun row => decide (row.id = params.accountID)) (Account.setAssignment assignment now)
    (.other "unexpected affected row count")
  pure (db, assignment)

def assignPackage (db : HostingStore) (params : AssignPackageParams) (now : Time) :
    HostingStore × Except CoreError PackageAssignment :=
  write db (checkAssignPackage params) fun _ => assignPackageTx db params now

/-! ### Confirmations -/

structure ConfirmParams where
  accountID : ID
  expectedRevision : Int
  operationID : ID
  actorID : Option ID
  requestID : String

/-- `validateFilesystemConfirmation` and `validateResourceConfirmation`, which make the same checks, and the check
of the request that follows them. -/
def checkConfirmation (params : ConfirmParams) : Except CoreError Unit := do
  validateID params.accountID "accountId"
  if params.expectedRevision < 1 then throw (.invalidInput "expectedRevision must be positive")
  validateID params.operationID "operationId"
  validateOptionalID params.actorID "actorId"

def checkConfirmApplied (params : ConfirmParams) : Except CoreError Unit := do
  checkConfirmation params
  let _ ← validateOptionalText params.requestID "requestId" 128
  pure ()

/-- The pattern `^[a-z0-9][a-z0-9-]{0,63}$`. -/
def matchesReasonPattern (value : String) : Bool :=
  match value.toList with
  | [] => false
  | first :: rest =>
    (isLowerLetter first || isDigitChar first) && decide (rest.length ≤ 63) &&
      rest.all fun c => isLowerLetter c || isDigitChar c || c == '-'

def checkConfirmBlocked (params : ConfirmParams) (capability : HostCapability) (reasonCode capabilityMessage
    reasonMessage : String) : Except CoreError Unit := do
  checkConfirmation params
  if capability ≠ .unavailable ∧ capability ≠ .unsupported ∧ capability ≠ .unknown then
    throw (.invalidInput capabilityMessage)
  if matchesReasonPattern reasonCode = false then throw (.invalidInput reasonMessage)
  let _ ← validateOptionalText params.requestID "requestId" 128
  pure ()

/-- The rows a confirmation updates: the account at the expected revision, if the operation is one of it. -/
def HostingStore.confirms (db : HostingStore) (params : ConfirmParams) (revision : Account → Nat) (row : Account) :
    Bool :=
  decide (row.id = params.accountID ∧ (revision row : Int) = params.expectedRevision) &&
    db.operations.operations.any fun operation =>
      decide (operation.id = params.operationID ∧ operation.accountID = some row.id)

/-- A confirmation that replies with the updated account. -/
def confirmRecord (db : HostingStore) (checks : Except CoreError Unit) (params : ConfirmParams)
    (revision : Account → Nat) (f : Account → Account) (message : String) : HostingStore × Except CoreError Unit :=
  write db checks fun _ => do
    let db ← db.updateAccount (db.confirms params revision) f (.core (.conflict message))
    pure (db, ())

def filesystemRevision (row : Account) : Nat := row.filesystem.revision

def resourceRevision (row : Account) : Nat := row.resources.revision

def confirmHostingFilesystemApplied (db : HostingStore) (params : ConfirmParams) (now : Time) :
    HostingStore × Except CoreError Unit :=
  confirmRecord db (checkConfirmApplied params) params filesystemRevision
    (Account.mapFilesystem (.setApplied params.operationID now) fun _ => rfl) "hosting filesystem revision changed"

def confirmHostingFilesystemBlocked (db : HostingStore) (params : ConfirmParams) (capability : HostCapability)
    (reasonCode : String) (now : Time) : HostingStore × Except CoreError Unit :=
  confirmRecord db
    (checkConfirmBlocked params capability reasonCode "blocked filesystem requires a non-available capability status"
      "filesystem reasonCode is malformed") params filesystemRevision
    (Account.mapFilesystem (.setBlocked params.operationID capability reasonCode now) fun _ => rfl)
    "hosting filesystem revision changed"

def confirmHostingResourcesApplied (db : HostingStore) (params : ConfirmParams) (now : Time) :
    HostingStore × Except CoreError Unit :=
  confirmRecord db (checkConfirmApplied params) params resourceRevision
    (Account.mapResources (.setApplied params.operationID now) fun _ => rfl) "hosting resource revision changed"

def confirmHostingResourcesBlocked (db : HostingStore) (params : ConfirmParams) (capability : HostCapability)
    (reasonCode : String) (now : Time) : HostingStore × Except CoreError Unit :=
  confirmRecord db
    (checkConfirmBlocked params capability reasonCode "blocked resources require a non-available capability status"
      "resource reasonCode is malformed") params resourceRevision
    (Account.mapResources (.setBlocked params.operationID capability reasonCode now) fun _ => rfl)
    "hosting resource revision changed"

/-! ### The lifecycle of an identity -/

structure LifecycleParams where
  accountID : ID
  (actorID operationID : Option ID)
  requestID : String

def validateHostingLifecycleParams (params : LifecycleParams) : Except CoreError String := do
  validateID params.accountID "accountId"
  validateOptionalID params.actorID "actorId"
  validateOptionalID params.operationID "operationId"
  validateOptionalText params.requestID "requestId" 128

/-- An update of the lifecycle of one account that is in given states. -/
def advanceLifecycle (db : HostingStore) (checks : Except CoreError String) (accountID : ID)
    (states : List UnixIdentityState) (statuses : List AccountStatus)
    (lifecycle : IdentityLifecycle → IdentityLifecycle) (status : AccountStatus → AccountStatus) :
    HostingStore × Except CoreError Unit :=
  write db checks fun _ => do
    let db ← db.updateAccount
      (fun row => decide (row.id = accountID ∧ row.lifecycle.state ∈ states ∧ row.status ∈ statuses))
      (fun row => row.setLifecycle (lifecycle row.lifecycle) (status row.status))
      (.other "unexpected affected row count")
    pure (db, ())

/-- A repetition changes nothing and succeeds. -/
def markHostingUnixIdentityReconciled (db : HostingStore) (params : LifecycleParams) (now : Time) :
    HostingStore × Except CoreError Unit :=
  match validateHostingLifecycleParams params, db.findAccount params.accountID with
  | .error error, _ => (db, .error error)
  | .ok _, none => (db, .error (classifyDatabaseError .noRows))
  | .ok requestID, some row =>
    if row.lifecycle.state = .reconciled ∧ row.lifecycle.ociRuntimeReconciledAt ≠ none then (db, .ok ())
    else
      advanceLifecycle db (.ok requestID) params.accountID [.allocated, .reconciled] [.active, .suspended]
        (fun lifecycle => { lifecycle with
          state := .reconciled, reconciledAt := lifecycle.reconciledAt.or (some now)
          ociRuntimeReconciledAt := lifecycle.ociRuntimeReconciledAt.or (some now) }) id

def requestHostingAccountArchive (db : HostingStore) (params : LifecycleParams) (now : Time) :
    HostingStore × Except CoreError Unit :=
  advanceLifecycle db (validateHostingLifecycleParams params) params.accountID [.allocated, .reconciled]
    [.active, .suspended]
    (fun lifecycle => { lifecycle with state := .archiveRequested, archiveRequestedAt := some now })
    fun _ => .archived

/-- The pattern `^[A-Za-z0-9][A-Za-z0-9._:-]{0,511}$`. -/
def matchesArchiveReferencePattern (value : String) : Bool :=
  let alphanumeric := fun c : Char => isLowerLetter c || ('A' ≤ c && c ≤ 'Z') || isDigitChar c
  match value.toList with
  | [] => false
  | first :: rest =>
    alphanumeric first && decide (rest.length ≤ 511) &&
      rest.all fun c => alphanumeric c || c == '.' || c == '_' || c == ':' || c == '-'

def checkArchiveReference (params : LifecycleParams) (archiveReference : String) : Except CoreError String := do
  let _ ← validateHostingLifecycleParams params
  let reference ← validateText archiveReference "archiveReference" 1 512
  if matchesArchiveReferencePattern reference then pure reference
  else throw (.invalidInput "archiveReference must be an opaque bounded identifier")

def confirmHostingAccountArchive (db : HostingStore) (params : LifecycleParams) (archiveReference : String)
    (now : Time) : HostingStore × Except CoreError Unit :=
  advanceLifecycle db (checkArchiveReference params archiveReference) params.accountID [.archiveRequested] [.archived]
    (fun lifecycle => { lifecycle with
      state := .archived, archivedAt := some now, archiveReference := some (trimSpace archiveReference) }) id

def requestHostingAccountDeletion (db : HostingStore) (params : LifecycleParams) (now : Time) :
    HostingStore × Except CoreError Unit :=
  advanceLifecycle db (validateHostingLifecycleParams params) params.accountID [.archived] [.archived]
    (fun lifecycle => { lifecycle with state := .deletionRequested, deletionRequestedAt := some now }) id

def confirmHostingAccountDeleted (db : HostingStore) (params : LifecycleParams) (now : Time) :
    HostingStore × Except CoreError Unit :=
  advanceLifecycle db (validateHostingLifecycleParams params) params.accountID [.deletionRequested] [.archived]
    (fun lifecycle => { lifecycle with state := .deleted, deletedAt := some now }) id

/-! ### Reads -/

def hostingUnixNumericID (value : Nat) : Except CoreError Nat :=
  if value < minimumID ∨ maximumID < value then
    throw (.internal "stored hosting Unix identity numeric ID is outside the reserved range")
  else pure value

def HostingStore.getHostingAccount (db : HostingStore) (accountID : ID) : Except CoreError Account := do
  validateID accountID "accountId"
  let account ← (db.loadAccount accountID).mapError classifyDatabaseError
  let uid ← hostingUnixNumericID account.identity.uid
  let gid ← hostingUnixNumericID account.identity.gid
  if gid ≠ uid then throw (.internal "stored hosting Unix identity numeric IDs are invalid")
  pure account

def HostingStore.getHostingFilesystemState (db : HostingStore) (accountID : ID) :
    Except CoreError (Nat × HostRecord StorageLimits) := do
  validateID accountID "accountId"
  let account ← (db.loadAccount accountID).mapError classifyDatabaseError
  if account.projectID < minimumID ∨ maximumID < account.projectID then
    throw (.internal "stored hosting filesystem state is invalid")
  pure (account.projectID, account.filesystem)

def HostingStore.getHostingResourceState (db : HostingStore) (accountID : ID) :
    Except CoreError (HostRecord ResourceLimits) := do
  validateID accountID "accountId"
  let account ← (db.loadAccount accountID).mapError classifyDatabaseError
  pure account.resources

/-- An active account whose host state has not been confirmed. -/
def Account.needsHostReconcile (row : Account) : Bool :=
  decide (row.status = .active ∧ (row.lifecycle.state = .allocated ∨ row.lifecycle.ociRuntimeReconciledAt = none ∨
      row.filesystem.status = .pending ∨ row.resources.status = .pending))

def HostingStore.listHostingAccountsNeedingHostReconcile (db : HostingStore) (limit : Int) :
    Except CoreError (List ID) :=
  if limit < 1 ∨ 100 < limit then throw (.invalidInput "reconciliation limit must be between 1 and 100")
  else
    let rows := (db.accounts.filter Account.needsHostReconcile).insertionSort fun left right =>
      formatTime left.createdAt < formatTime right.createdAt ∨
        (formatTime left.createdAt = formatTime right.createdAt ∧ left.id ≤ right.id)
    pure ((rows.take limit.toNat).map Account.id)

end Stackfort.Hosting
