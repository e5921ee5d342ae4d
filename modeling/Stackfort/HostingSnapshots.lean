import Stackfort.HostingAccounts
import Stackfort.TextBounds

/-! The payload of a reconciliation. It is a snapshot of what an account wants from the host: its identity,
its quota and its control group, with the revisions they were read at. The snapshot of every stored account passes
the checks of the payload, and the request that carries it passes those of the repository. The numbers of a
payload are stored as the integers that survive the JSON encoding of the repository. -/

namespace Stackfort.Hosting

open List

def hostingAccountReconcileKind : String := "hosting.account.reconcile"

def hostingAccountSchemaVersion : Nat := 1

def quotaBlockBytes : Nat := 1024

/-! ### Specifications -/

/-- `hostingstorage.Spec`. Zero stands for an unlimited dimension. -/
structure StorageSpec where
  identity : IdentitySpec
  (projectID byteLimit inodeLimit : Nat)
  deriving DecidableEq

def validateStorage (spec : StorageSpec) : Bool :=
  decide (validateIdentity spec.identity = .ok () ∧ spec.projectID = spec.identity.uid ∧
    (spec.byteLimit : Int) ≤ maxInt64 ∧ (spec.inodeLimit : Int) ≤ maxInt64 ∧
    (spec.byteLimit = 0 ∨ (quotaBlockBytes ≤ spec.byteLimit ∧ spec.byteLimit % quotaBlockBytes = 0)))

structure OptionalUint64 where
  set : Bool
  value : Nat
  deriving DecidableEq

/-- `hostingresources.Spec`. -/
structure ResourceSpec where
  identity : IdentitySpec
  (cpuQuotaPercent cpuWeight memoryBytes swapBytes processLimit : OptionalUint64)
  deriving DecidableEq

def validateOptional (limit : OptionalUint64) (minimum maximum : Int) : Bool :=
  if limit.set then decide (minimum ≤ limit.value ∧ (limit.value : Int) ≤ maximum) else decide (limit.value = 0)

def validateResources (spec : ResourceSpec) : Bool :=
  decide (validateIdentity spec.identity = .ok ()) && validateOptional spec.cpuQuotaPercent 1 100000 &&
    validateOptional spec.cpuWeight 1 10000 && validateOptional spec.memoryBytes 1 maxInt64 &&
    validateOptional spec.swapBytes 0 maxInt64 && validateOptional spec.processLimit 1 maxInt64

/-- `HostingAccountReconcilePayload`. -/
structure ReconcilePayload where
  schemaVersion : Nat
  identity : IdentitySpec
  filesystemRevision : Nat
  storage : StorageSpec
  resourceRevision : Nat
  resources : ResourceSpec
  deriving DecidableEq

def validateReconcilePayload (payload : ReconcilePayload) : Bool :=
  decide (payload.schemaVersion = hostingAccountSchemaVersion ∧ 1 ≤ payload.filesystemRevision ∧
    1 ≤ payload.resourceRevision ∧ validateIdentity payload.identity = .ok ()) &&
    validateStorage payload.storage && validateResources payload.resources &&
    decide (payload.storage.identity = payload.identity ∧ payload.resources.identity = payload.identity)

/-! ### JSON -/

def IdentitySpec.object (spec : IdentitySpec) : JsonObject :=
  [("accountId", .string spec.accountID), ("username", .string spec.username), ("uid", .number spec.uid),
    ("gid", .number spec.gid), ("homeDirectory", .string spec.homeDirectory)]

def StorageSpec.object (spec : StorageSpec) : JsonObject :=
  [("identity", .object spec.identity.object), ("projectId", .number spec.projectID),
    ("byteLimit", .number spec.byteLimit), ("inodeLimit", .number spec.inodeLimit)]

def OptionalUint64.object (limit : OptionalUint64) : JsonObject :=
  [("set", .bool limit.set), ("value", .number limit.value)]

def ResourceSpec.object (spec : ResourceSpec) : JsonObject :=
  [("identity", .object spec.identity.object), ("cpuQuotaPercent", .object spec.cpuQuotaPercent.object),
    ("cpuWeight", .object spec.cpuWeight.object), ("memoryBytes", .object spec.memoryBytes.object),
    ("swapBytes", .object spec.swapBytes.object), ("processLimit", .object spec.processLimit.object)]

def ReconcilePayload.object (payload : ReconcilePayload) : JsonObject :=
  [("schemaVersion", .number payload.schemaVersion), ("identity", .object payload.identity.object),
    ("filesystemRevision", .number payload.filesystemRevision), ("storage", .object payload.storage.object),
    ("resourceRevision", .number payload.resourceRevision), ("resources", .object payload.resources.object)]

/-- `NewHostingAccountReconcilePayload`. -/
def newReconcilePayload (payload : ReconcilePayload) : Except CoreError JsonObject :=
  let payload :=
    if payload.schemaVersion = 0 then { payload with schemaVersion := hostingAccountSchemaVersion } else payload
  if validateReconcilePayload payload then pure payload.object
  else throw (.conflict "invalid account host intent")

/-! ### Requests -/

/-- `HostSpec`, with the error of the service around it. -/
def Account.hostSpec (account : Account) : Except CoreError IdentitySpec :=
  match validateIdentity account.identity with
  | .ok () => pure account.identity
  | .error _ => throw (.conflict "invalid hosting identity")

def optionalLimit (value : Option Int) : Except CoreError Nat :=
  match value with
  | none => pure 0
  | some limit => if limit < 0 then throw (.conflict "negative account storage intent") else pure limit.toNat

def optionalResource (value : Option Int) : Except CoreError OptionalUint64 :=
  match value with
  | none => pure ⟨false, 0⟩
  | some limit =>
    if limit < 0 then throw (.conflict "negative account resource intent") else pure ⟨true, limit.toNat⟩

def resourceSpec (identity : IdentitySpec) (desired : ResourceLimits) : Except CoreError ResourceSpec := do
  let cpuQuotaPercent ← optionalResource desired.cpuQuotaPercent
  let cpuWeight ← optionalResource desired.cpuWeight
  let memoryBytes ← optionalResource desired.memoryBytes
  let swapBytes ← optionalResource desired.swapBytes
  let processLimit ← optionalResource desired.processLimit
  pure ⟨identity, cpuQuotaPercent, cpuWeight, memoryBytes, swapBytes, processLimit⟩

/-- The key of the operation for an account at the given revisions. -/
def reconcileKey (accountID : ID) (filesystemRevision resourceRevision : Nat) : String :=
  "account-host-" ++ accountID ++ "-" ++ toString filesystemRevision ++ "-" ++ toString resourceRevision

theorem reconcileKey_eq (accountID : ID) (f r : Nat) :
    reconcileKey accountID f r = "account-host-" ++ accountID ++ "-" ++ toString f ++ "-" ++ toString r := by
  unfold reconcileKey
  rfl

/-- The request of `queueSnapshot`, up to the call of the repository that creates the operation. -/
def HostingStore.snapshotRequest (db : HostingStore) (accountID : ID) (actorID : Option ID) (requestID : String) :
    Except CoreError CreateOperationParams := do
  let account ← db.getHostingAccount accountID
  let identity ← account.hostSpec
  let (projectID, filesystem) ← db.getHostingFilesystemState accountID
  let resources ← db.getHostingResourceState accountID
  let byteLimit ← optionalLimit filesystem.desired.bytes
  let inodeLimit ← optionalLimit filesystem.desired.inodes
  let spec ← resourceSpec identity resources.desired
  let payload ← newReconcilePayload
    ⟨0, identity, filesystem.revision, ⟨identity, projectID, byteLimit, inodeLimit⟩, resources.revision, spec⟩
  pure
    { accountID := some accountID
      actorID := actorID, kind := hostingAccountReconcileKind, retryClass := .safe, requestID := requestID
      idempotencyKey := reconcileKey accountID filesystem.revision resources.revision, payload := payload
      maxAttempts := 3 }

def queueSnapshot (db : HostingStore) (accountID : ID) (actorID : Option ID) (requestID : String) (newID : ID)
    (now : Time) : HostingStore × Except CoreError Operation :=
  match db.snapshotRequest accountID actorID requestID with
  | .error error => (db, .error error)
  | .ok params =>
    let (operations, reply) := createOperation db.operations params newID now
    ({ db with operations := operations }, reply)

/-! ### Snapshots -/

def limitValue (value : Option Int) : Nat := (value.map Int.toNat).getD 0

def resourceValue (value : Option Int) : OptionalUint64 := ⟨value.isSome, limitValue value⟩

/-- The payload for an identity at given revisions with given limits. -/
def snapshotPayload (identity : IdentitySpec) (filesystemRevision : Nat) (storage : StorageLimits)
    (resourceRevision : Nat) (resources : ResourceLimits) : ReconcilePayload where
  schemaVersion := hostingAccountSchemaVersion
  identity := identity
  filesystemRevision := filesystemRevision
  storage := ⟨identity, identity.uid, limitValue storage.bytes, limitValue storage.inodes⟩
  resourceRevision := resourceRevision
  resources := ⟨identity, resourceValue resources.cpuQuotaPercent, resourceValue resources.cpuWeight,
    resourceValue resources.memoryBytes, resourceValue resources.swapBytes, resourceValue resources.processLimit⟩

/-- The payload for an account as it is stored. -/
def Account.payload (account : Account) : ReconcilePayload :=
  snapshotPayload account.identity account.filesystem.revision account.filesystem.desired account.resources.revision
    account.resources.desired

/-- The request for an account as it is stored. -/
def Account.request (account : Account) (actorID : Option ID) (requestID : String) : CreateOperationParams where
  accountID := some account.id
  actorID := actorID
  kind := hostingAccountReconcileKind
  retryClass := .safe
  requestID := requestID
  idempotencyKey := reconcileKey account.id account.filesystem.revision account.resources.revision
  payload := account.payload.object
  maxAttempts := 3

/-! ### Stored limits -/

/-- A limit that is absent or in a range. -/
def Within (value : Option Int) (minimum maximum : Int) : Prop :=
  ∀ limit, value = some limit → minimum ≤ limit ∧ limit ≤ maximum

variable {value : Option Int} {minimum maximum : Int} {spec : IdentitySpec} {n : Nat} {payload : ReconcilePayload}

theorem validateOptionalRange_eq_ok {name : String} :
    validateOptionalRange name value minimum maximum = .ok () ↔ Within value minimum maximum := by
  unfold validateOptionalRange Within
  cases value with
  | none => exact ⟨nofun, fun _ => rfl⟩
  | some limit =>
    by_cases hrange : limit < minimum ∨ maximum < limit
    · simp only [Option.any_some, decide_eq_true_eq, if_pos hrange, some.injEq, forall_eq']
      exact ⟨nofun, fun h => by omega⟩
    · simp only [Option.any_some, decide_eq_true_eq, if_neg hrange, some.injEq, forall_eq']
      exact ⟨fun _ => by omega, fun _ => rfl⟩

/-- What the check of limits establishes. -/
structure InRange (limits : PackageLimits) : Prop where
  cpuQuotaPercent : Within limits.cpuQuotaPercent 1 100000
  cpuWeight : Within limits.cpuWeight 1 10000
  memoryBytes : Within limits.memoryBytes 1 maxInt64
  processLimit : Within limits.processLimit 1 maxInt64
  storageInodes : Within limits.storageInodes 1 maxInt64
  storageBytes : Within limits.storageBytes 1024 maxInt64
  storageBlocks : ∀ bytes, limits.storageBytes = some bytes → bytes % 1024 = 0
  swapBytes : Within limits.swapBytes 0 maxInt64

theorem inRange_of_validateLimits {limits : PackageLimits} (h : validateLimits limits = .ok ()) : InRange limits := by
  simp only [validateLimits, bind_eq_ok_iff, guard_eq_ok_iff] at h
  obtain ⟨_, hquota, _, hweight, _, hmemory, _, hprocess, _, hinodes, _, hbytes, hblocks, hswap⟩ := h
  refine ⟨validateOptionalRange_eq_ok.mp hquota, validateOptionalRange_eq_ok.mp hweight,
    validateOptionalRange_eq_ok.mp hmemory, validateOptionalRange_eq_ok.mp hprocess,
    validateOptionalRange_eq_ok.mp hinodes, validateOptionalRange_eq_ok.mp hbytes, fun bytes hsome => ?_,
    validateOptionalRange_eq_ok.mp hswap⟩
  rw [hsome] at hblocks
  simpa using hblocks

theorem StoredLimits.inRange (limits : StoredLimits) : InRange limits.val := inRange_of_validateLimits limits.property

section

variable (h : Within value minimum maximum)

include h

theorem optionalLimit_of_within (hminimum : 0 ≤ minimum) : optionalLimit value = .ok (limitValue value) := by
  cases value with
  | none => rfl
  | some limit =>
    have := h limit rfl
    rw [optionalLimit, if_neg (by omega)]
    rfl

theorem optionalResource_of_within (hminimum : 0 ≤ minimum) : optionalResource value = .ok (resourceValue value) := by
  cases value with
  | none => rfl
  | some limit =>
    have := h limit rfl
    rw [optionalResource, if_neg (by omega)]
    rfl

theorem limitValue_le (hmaximum : 0 ≤ maximum) : (limitValue value : Int) ≤ maximum := by
  cases value with
  | none => exact hmaximum
  | some limit =>
    have := h limit rfl
    show ((limit.toNat : Nat) : Int) ≤ maximum
    omega

theorem validateOptional_of_within (hminimum : 0 ≤ minimum) :
    validateOptional (resourceValue value) minimum maximum = true := by
  cases value with
  | none => rfl
  | some limit =>
    have := h limit rfl
    show decide (minimum ≤ (limit.toNat : Int) ∧ (limit.toNat : Int) ≤ maximum) = true
    rw [decide_eq_true_eq]
    omega

end

section Stored

variable (account : Account)

theorem validateIdentity_eq_ok (h : validateIdentity spec = .ok ()) :
    isCanonicalUUIDv7 spec.accountID = true ∧ usernameForAccount spec.accountID = .ok spec.username ∧
      homeDirectoryForAccount spec.accountID = .ok spec.homeDirectory ∧ minimumID ≤ spec.uid ∧
        spec.uid ≤ maximumID ∧ spec.gid = spec.uid := by
  simp only [validateIdentity, bind_eq_ok_iff, guard_eq_ok_iff] at h
  obtain ⟨username, husername, home, hhome, hname, hdirectory, huid, hgid, -⟩ := h
  rw [not_not] at hname hdirectory hgid
  have hcanonical : isCanonicalUUIDv7 spec.accountID = true := by
    by_contra hcon
    rw [usernameForAccount, parseAccountID, if_neg hcon] at husername
    cases husername
  rw [← hname] at husername
  rw [← hdirectory] at hhome
  refine ⟨hcanonical, husername, hhome, ?_, ?_, hgid⟩ <;> omega

theorem Account.canonical : isCanonicalUUIDv7 account.id = true := by
  rw [← account.identityOwn]
  exact (validateIdentity_eq_ok account.identityValid).1

theorem Account.validateID (field : String) : validateID account.id field = .ok () := by
  rw [Stackfort.validateID, if_pos account.canonical]
  rfl

theorem Account.inRange : InRange account.assignment.effectiveLimits.val := account.assignment.effectiveLimits.inRange

theorem Account.validateStorage_payload : validateStorage account.payload.storage = true := by
  have hrange := account.inRange
  have hbytes := limitValue_le hrange.storageBytes (by decide)
  have hinodes := limitValue_le hrange.storageInodes (by decide)
  rw [validateStorage, decide_eq_true_eq]
  simp only [Account.payload, snapshotPayload, account.desiredStorage, PackageLimits.storage, true_and]
  refine ⟨account.identityValid, hbytes, hinodes, ?_⟩
  cases hvalue : account.assignment.effectiveLimits.val.storageBytes with
  | none => exact .inl rfl
  | some bytes =>
    have hmin := (hrange.storageBytes bytes hvalue).1
    have hblock := hrange.storageBlocks bytes hvalue
    refine .inr ⟨?_, ?_⟩
    · show 1024 ≤ bytes.toNat
      omega
    · show bytes.toNat % 1024 = 0
      omega

theorem Account.validateResources_payload : validateResources account.payload.resources = true := by
  have hrange := account.inRange
  simp only [validateResources, Account.payload, snapshotPayload, account.desiredResources, PackageLimits.resources,
    and_eq_true, decide_eq_true_eq]
  exact ⟨⟨⟨⟨⟨account.identityValid, validateOptional_of_within hrange.cpuQuotaPercent (by decide)⟩,
    validateOptional_of_within hrange.cpuWeight (by decide)⟩,
    validateOptional_of_within hrange.memoryBytes (by decide)⟩,
    validateOptional_of_within hrange.swapBytes (by decide)⟩,
    validateOptional_of_within hrange.processLimit (by decide)⟩

theorem Account.validateReconcilePayload_payload : validateReconcilePayload account.payload = true := by
  rw [validateReconcilePayload, account.validateStorage_payload, account.validateResources_payload]
  rw [Bool.and_true, Bool.and_true, and_eq_true]
  exact ⟨decide_eq_true ⟨rfl, account.filesystem.positive, account.resources.positive, account.identityValid⟩,
    decide_eq_true ⟨rfl, rfl⟩⟩

end Stored

theorem snapshotRequest_eq {db : HostingStore} {account : Account} (h : db.findAccount account.id = some account)
    (actorID : Option ID) (requestID : String) :
    db.snapshotRequest account.id actorID requestID = .ok (account.request actorID requestID) := by
  have hload : db.loadAccount account.id = .ok account := by
    rw [HostingStore.loadAccount, h]
    rfl
  have hrange := account.inRange
  obtain ⟨-, -, -, hlow, hhigh, hgid⟩ := validateIdentity_eq_ok account.identityValid
  have hnumeric : hostingUnixNumericID account.identity.uid = .ok account.identity.uid := by
    rw [hostingUnixNumericID, if_neg (by omega)]
    rfl
  have hread : db.getHostingAccount account.id = .ok account := by
    rw [HostingStore.getHostingAccount, account.validateID, hload]
    simp only [Except.mapError, ok_bind, hgid, hnumeric]
    rw [if_neg fun hne => hne rfl]
    rfl
  have hfilesystem : db.getHostingFilesystemState account.id = .ok (account.projectID, account.filesystem) := by
    have hproject := account.projectOwn
    rw [HostingStore.getHostingFilesystemState, account.validateID, hload]
    simp only [Except.mapError, ok_bind]
    rw [if_neg (by omega)]
    rfl
  have hresources : db.getHostingResourceState account.id = .ok account.resources := by
    rw [HostingStore.getHostingResourceState, account.validateID, hload]
    rfl
  have hidentity : account.hostSpec = .ok account.identity := by
    rw [Account.hostSpec, account.identityValid]
    rfl
  have hbytes : optionalLimit account.filesystem.desired.bytes = .ok (limitValue account.filesystem.desired.bytes) := by
    rw [account.desiredStorage]
    exact optionalLimit_of_within hrange.storageBytes (by decide)
  have hinodes : optionalLimit account.filesystem.desired.inodes =
      .ok (limitValue account.filesystem.desired.inodes) := by
    rw [account.desiredStorage]
    exact optionalLimit_of_within hrange.storageInodes (by decide)
  have hspec : resourceSpec account.identity account.resources.desired = .ok account.payload.resources := by
    rw [Account.payload, account.desiredResources, resourceSpec, PackageLimits.resources,
      optionalResource_of_within hrange.cpuQuotaPercent (by decide),
      optionalResource_of_within hrange.cpuWeight (by decide), optionalResource_of_within hrange.memoryBytes (by decide),
      optionalResource_of_within hrange.swapBytes (by decide),
      optionalResource_of_within hrange.processLimit (by decide)]
    rfl
  have hpayload : newReconcilePayload
      ⟨0, account.identity, account.filesystem.revision,
        ⟨account.identity, account.projectID, limitValue account.filesystem.desired.bytes,
          limitValue account.filesystem.desired.inodes⟩, account.resources.revision, account.payload.resources⟩ =
      .ok account.payload.object := by
    rw [account.projectOwn]
    show (if validateReconcilePayload account.payload then _ else _) = _
    rw [if_pos account.validateReconcilePayload_payload]
    rfl
  simp only [HostingStore.snapshotRequest, hread, hidentity, hfilesystem, hresources, hbytes, hinodes, hspec, hpayload,
    ok_bind]
  rfl

/-! ### Stored payloads -/

section Rounding

/-- A number of a payload as it is stored. -/
def roundedNumber (n : Nat) : Nat := Binary.printed 53 n

def IdentitySpec.rounded (spec : IdentitySpec) : IdentitySpec :=
  { spec with uid := roundedNumber spec.uid, gid := roundedNumber spec.gid }

def StorageSpec.rounded (spec : StorageSpec) : StorageSpec :=
  ⟨spec.identity.rounded, roundedNumber spec.projectID, roundedNumber spec.byteLimit, roundedNumber spec.inodeLimit⟩

def OptionalUint64.rounded (limit : OptionalUint64) : OptionalUint64 := ⟨limit.set, roundedNumber limit.value⟩

def ResourceSpec.rounded (spec : ResourceSpec) : ResourceSpec :=
  ⟨spec.identity.rounded, spec.cpuQuotaPercent.rounded, spec.cpuWeight.rounded, spec.memoryBytes.rounded,
    spec.swapBytes.rounded, spec.processLimit.rounded⟩

/-- The payload that is stored for a payload. -/
def ReconcilePayload.rounded (payload : ReconcilePayload) : ReconcilePayload :=
  ⟨roundedNumber payload.schemaVersion, payload.identity.rounded, roundedNumber payload.filesystemRevision,
    payload.storage.rounded, roundedNumber payload.resourceRevision, payload.resources.rounded⟩

theorem roundedNumber_of_lt (h : n < 2 ^ 53) : roundedNumber n = n := Binary.printed_of_lt (by omega) h

theorem canonicalFields_object (payload : ReconcilePayload) :
    Json.canonicalFields payload.object = payload.rounded.object := by
  simp only [ReconcilePayload.object, ResourceSpec.object, StorageSpec.object, OptionalUint64.object,
    IdentitySpec.object, Json.canonicalFields, Json.canonical]
  rfl

end Rounding

section Sizes

def IdentitySpec.numbers (spec : IdentitySpec) : List Nat := [spec.uid, spec.gid]

def IdentitySpec.strings (spec : IdentitySpec) : List String := [spec.accountID, spec.username, spec.homeDirectory]

/-- The numbers of a payload. -/
def ReconcilePayload.numbers (payload : ReconcilePayload) : List Nat :=
  [payload.schemaVersion, payload.filesystemRevision, payload.resourceRevision, payload.storage.projectID,
    payload.storage.byteLimit, payload.storage.inodeLimit, payload.resources.cpuQuotaPercent.value,
    payload.resources.cpuWeight.value, payload.resources.memoryBytes.value, payload.resources.swapBytes.value,
    payload.resources.processLimit.value] ++ payload.identity.numbers ++ payload.storage.identity.numbers ++
    payload.resources.identity.numbers

def ReconcilePayload.strings (payload : ReconcilePayload) : List String :=
  payload.identity.strings ++ payload.storage.identity.strings ++ payload.resources.identity.strings

theorem ReconcilePayload.numbers_rounded (payload : ReconcilePayload) :
    payload.rounded.numbers = payload.numbers.map roundedNumber := by
  simp only [numbers, rounded, StorageSpec.rounded, ResourceSpec.rounded, OptionalUint64.rounded, IdentitySpec.rounded,
    IdentitySpec.numbers, map_append, map_cons, map_nil]

theorem ReconcilePayload.strings_rounded (payload : ReconcilePayload) : payload.rounded.strings = payload.strings := by
  simp only [strings, rounded, StorageSpec.rounded, ResourceSpec.rounded, IdentitySpec.rounded, IdentitySpec.strings]

/-- A payload with short texts and numbers of at most twenty digits. -/
structure ReconcilePayload.Small (payload : ReconcilePayload) : Prop where
  numbers : ∀ n ∈ payload.numbers, n < 10 ^ 20
  strings : ∀ text ∈ payload.strings, text.length ≤ 64

theorem sizeBound_number_small (h : n < 10 ^ 20) : (Json.number n).sizeBound ≤ 1544 :=
  Nat.le_trans (Json.sizeBound_number_le (by omega) h) (by omega)

theorem sizeBound_string_small {text : String} (h : text.length ≤ 64) : (Json.string text).sizeBound ≤ 1544 := by
  have := Json.utf8ByteSize_quote_le text
  rw [Json.sizeBound]
  omega

theorem IdentitySpec.sizeBound_object (hnumbers : ∀ n ∈ spec.numbers, n < 10 ^ 20)
    (hstrings : ∀ text ∈ spec.strings, text.length ≤ 64) : (Json.object spec.object).sizeBound ≤ 10172 := by
  simp only [IdentitySpec.numbers, IdentitySpec.strings, forall_mem_cons] at hnumbers hstrings
  have hfields : Json.fieldsBound spec.object ≤ 5 * (1544 + 490) := by
    refine Json.fieldsBound_le ?_
    simp only [IdentitySpec.object, forall_mem_cons]
    exact ⟨⟨by decide, sizeBound_string_small hstrings.1⟩, ⟨by decide, sizeBound_string_small hstrings.2.1⟩,
      ⟨by decide, sizeBound_number_small hnumbers.1⟩, ⟨by decide, sizeBound_number_small hnumbers.2.1⟩,
      ⟨by decide, sizeBound_string_small hstrings.2.2.1⟩, forall_mem_nil _⟩
  rw [Json.sizeBound]
  omega

theorem OptionalUint64.sizeBound_object {limit : OptionalUint64} (h : limit.value < 10 ^ 20) :
    (Json.object limit.object).sizeBound ≤ 10172 := by
  have hfields : Json.fieldsBound limit.object ≤ 2 * (1544 + 490) := by
    refine Json.fieldsBound_le ?_
    simp only [OptionalUint64.object, forall_mem_cons]
    refine ⟨⟨by decide, ?_⟩, ⟨by decide, sizeBound_number_small h⟩, forall_mem_nil _⟩
    rw [Json.sizeBound]
    omega
  rw [Json.sizeBound]
  omega

theorem ReconcilePayload.Small.sizeBound (h : payload.Small) :
    (Json.object payload.object).sizeBound ≤ maxOperationJSONBytes := by
  obtain ⟨hnumbers, hstrings⟩ := h
  simp only [ReconcilePayload.numbers, ReconcilePayload.strings, forall_mem_append, forall_mem_cons]
    at hnumbers hstrings
  obtain ⟨⟨⟨⟨hversion, hfilesystem, hresource, hproject, hbytes, hinodes, hquota, hweight, hmemory, hswap, hprocess, -⟩,
    hidentityNumbers⟩, hstorageNumbers⟩, hresourceNumbers⟩ := hnumbers
  obtain ⟨⟨hidentityStrings, hstorageStrings⟩, hresourceStrings⟩ := hstrings
  have hidentity := IdentitySpec.sizeBound_object hidentityNumbers hidentityStrings
  have hstorage : Json.fieldsBound payload.storage.object ≤ 4 * (10172 + 490) := by
    refine Json.fieldsBound_le ?_
    simp only [StorageSpec.object, forall_mem_cons]
    have hsmall : ∀ {n : Nat}, n < 10 ^ 20 → (Json.number n).sizeBound ≤ 10172 := fun hn =>
      Nat.le_trans (sizeBound_number_small hn) (by omega)
    exact ⟨⟨by decide, IdentitySpec.sizeBound_object hstorageNumbers hstorageStrings⟩, ⟨by decide, hsmall hproject⟩,
      ⟨by decide, hsmall hbytes⟩, ⟨by decide, hsmall hinodes⟩, forall_mem_nil _⟩
  have hresources : Json.fieldsBound payload.resources.object ≤ 6 * (10172 + 490) := by
    refine Json.fieldsBound_le ?_
    simp only [ResourceSpec.object, forall_mem_cons]
    exact ⟨⟨by decide, IdentitySpec.sizeBound_object hresourceNumbers hresourceStrings⟩,
      ⟨by decide, OptionalUint64.sizeBound_object hquota⟩, ⟨by decide, OptionalUint64.sizeBound_object hweight⟩,
      ⟨by decide, OptionalUint64.sizeBound_object hmemory⟩, ⟨by decide, OptionalUint64.sizeBound_object hswap⟩,
      ⟨by decide, OptionalUint64.sizeBound_object hprocess⟩, forall_mem_nil _⟩
  have hfields : Json.fieldsBound payload.object ≤ 6 * (63974 + 490) := by
    refine Json.fieldsBound_le ?_
    simp only [ReconcilePayload.object, forall_mem_cons]
    have hsmall : ∀ {n : Nat}, n < 10 ^ 20 → (Json.number n).sizeBound ≤ 63974 := fun hn =>
      Nat.le_trans (sizeBound_number_small hn) (by omega)
    refine ⟨⟨by decide, hsmall hversion⟩, ⟨by decide, Nat.le_trans hidentity (by omega)⟩,
      ⟨by decide, hsmall hfilesystem⟩, ⟨by decide, ?_⟩, ⟨by decide, hsmall hresource⟩, ⟨by decide, ?_⟩,
      forall_mem_nil _⟩
    · rw [Json.sizeBound]
      omega
    · rw [Json.sizeBound]
      omega
  rw [Json.sizeBound, maxOperationJSONBytes]
  omega

/-- The names of the fields are fixed, so the check on them can be run. -/
theorem ReconcilePayload.rejectAuditSecrets_object (payload : ReconcilePayload) (path : String) :
    rejectAuditSecrets (.object payload.object) path = .ok () :=
  rfl

theorem ReconcilePayload.depth_object (payload : ReconcilePayload) :
    (Json.object payload.object).depth ≤ maxNestingDepth := by
  have hdepth : (Json.object payload.object).depth = 3 := rfl
  rw [hdepth]
  decide

theorem encodeSafeOperationObject_object (h : payload.Small) :
    encodeSafeOperationObject payload.object maxOperationJSONBytes =
      .ok (Json.object payload.rounded.object).encode := by
  have hsize : (Json.object payload.object).encode.utf8ByteSize ≤ maxOperationJSONBytes :=
    Nat.le_trans (Json.utf8ByteSize_encode_le _) h.sizeBound
  rw [encodeSafeOperationObject, encodeObject, if_neg (Nat.not_lt.mpr hsize),
    if_neg (Nat.not_lt.mpr payload.depth_object), canonicalFields_object, pure_eq_ok, ok_bind,
    ReconcilePayload.rejectAuditSecrets_object]
  rfl

/-- An identity that passes its check has short texts and is stored as it is. -/
theorem IdentitySpec.strings_le (h : validateIdentity spec = .ok ()) : ∀ text ∈ spec.strings, text.length ≤ 64 := by
  obtain ⟨hcanonical, husername, hhome, -⟩ := validateIdentity_eq_ok h
  have hid := (isCanonicalUUIDv7_chars hcanonical).1
  simp only [usernameForAccount, homeDirectoryForAccount, parseAccountID, if_pos hcanonical, pure_eq_ok,
    ok_bind, Except.ok.injEq] at husername hhome
  simp only [IdentitySpec.strings, forall_mem_cons]
  refine ⟨by omega, ?_, ?_, forall_mem_nil _⟩
  · have hprefix : "sf_".length = 3 := rfl
    rw [← husername, String.length_append, hprefix, String.length_ofList, length_drop]
    omega
  · have hroot : managedAccountsRoot.length = 21 := rfl
    have hslash : "/".length = 1 := rfl
    rw [← hhome, String.length_append, String.length_append, hroot, hslash]
    omega

theorem Account.strings_payload (account : Account) : ∀ text ∈ account.payload.strings, text.length ≤ 64 := by
  have hstrings := IdentitySpec.strings_le account.identityValid
  simp only [ReconcilePayload.strings, forall_mem_append]
  exact ⟨⟨hstrings, hstrings⟩, hstrings⟩

/-- A key is made of the characters of identifiers and numbers. -/
theorem Account.isSpace_key (account : Account) (filesystemRevision resourceRevision : Nat) :
    ∀ c ∈ (reconcileKey account.id filesystemRevision resourceRevision).toList, isSpace c = false := by
  intro c hc
  simp only [reconcileKey_eq, String.toList_append, mem_append] at hc
  rcases hc with ((((hc | hc) | hc) | hc) | hc) | hc
  · have hall : ("account-host-".toList.all fun c => !isSpace c) = true := by decide
    simpa using all_eq_true.mp hall c hc
  · exact (isCanonicalUUIDv7_chars account.canonical).2 c hc
  · rw [mem_singleton.mp hc]
    decide
  · exact isSpace_of_mem_toString hc
  · rw [mem_singleton.mp hc]
    decide
  · exact isSpace_of_mem_toString hc

/-- The revisions can be read back from a key. -/
theorem reconcileKey_inj {accountID : ID} {f r f' r' : Nat} (h : reconcileKey accountID f r = reconcileKey accountID f' r') :
    f = f' ∧ r = r' := by
  refine joined_toString_inj ?_
  simp only [reconcileKey_eq, String.append_assoc] at h ⊢
  exact String.append_right_inj _ |>.mp (String.append_right_inj _ |>.mp (String.append_right_inj _ |>.mp h))

theorem reconcileKey_ne_empty (accountID : ID) (f r : Nat) : reconcileKey accountID f r ≠ "" := by
  intro hempty
  have hlength := congrArg String.length hempty
  have hhead : "account-host-".length = 13 := rfl
  simp only [reconcileKey_eq, String.length_append, hhead] at hlength
  rw [String.length_empty] at hlength
  omega

section Counters

variable {account : Account} (hfilesystem : account.filesystem.revision < 2 ^ 53)
  (hresources : account.resources.revision < 2 ^ 53)

include hfilesystem hresources

theorem Account.numbers_payload : ∀ n ∈ account.payload.numbers, n < 2 ^ 63 := by
  have hrange := account.inRange
  obtain ⟨-, -, -, -, hhigh, hgid⟩ := validateIdentity_eq_ok account.identityValid
  have hmaximum : maximumID = 249999 := rfl
  have hint : maxInt64 = 2 ^ 63 - 1 := rfl
  have hbytes := limitValue_le hrange.storageBytes (by decide)
  have hinodes := limitValue_le hrange.storageInodes (by decide)
  have hquota := limitValue_le hrange.cpuQuotaPercent (by decide)
  have hweight := limitValue_le hrange.cpuWeight (by decide)
  have hmemory := limitValue_le hrange.memoryBytes (by decide)
  have hswap := limitValue_le hrange.swapBytes (by decide)
  have hprocess := limitValue_le hrange.processLimit (by decide)
  simp only [ReconcilePayload.numbers, Account.payload, snapshotPayload, IdentitySpec.numbers, resourceValue,
    account.desiredStorage, account.desiredResources, PackageLimits.storage, PackageLimits.resources,
    hostingAccountSchemaVersion, forall_mem_append, forall_mem_cons]
  refine ⟨⟨⟨⟨?_, ?_, ?_, ?_, ?_, ?_, ?_, ?_, ?_, ?_, ?_, forall_mem_nil _⟩,
    ?_, ?_, forall_mem_nil _⟩, ?_, ?_, forall_mem_nil _⟩,
    ?_, ?_, forall_mem_nil _⟩ <;> omega

theorem Account.small_payload : account.payload.Small := by
  refine ⟨fun n hn => ?_, account.strings_payload⟩
  have := Account.numbers_payload hfilesystem hresources n hn
  omega

theorem Account.small_rounded : account.payload.rounded.Small := by
  constructor
  · rw [ReconcilePayload.numbers_rounded]
    intro n hn
    obtain ⟨m, hm, rfl⟩ := mem_map.mp hn
    have := Json.printed_lt 63 (Account.numbers_payload hfilesystem hresources m hm)
    rw [roundedNumber]
    omega
  · rw [ReconcilePayload.strings_rounded]
    exact account.strings_payload

/-- The key of an operation is a text that the repository stores as it is. -/
theorem Account.validateOptionalText_key :
    validateOptionalText (reconcileKey account.id account.filesystem.revision account.resources.revision)
        "idempotencyKey" 128 =
      .ok (reconcileKey account.id account.filesystem.revision account.resources.revision) := by
  have hlength := (isCanonicalUUIDv7_chars account.canonical).1
  have hfirst := @length_toString_le account.filesystem.revision 20 (by omega) (by omega)
  have hsecond := @length_toString_le account.resources.revision 20 (by omega) (by omega)
  refine validateOptionalText_of_forall _ (account.isSpace_key _ _) ?_
  have hhead : "account-host-".length = 13 := rfl
  have hdash : "-".length = 1 := rfl
  simp only [reconcileKey_eq, String.length_append, hhead, hdash]
  omega

end Counters

def systemRequestID : String := "system-account-reconcile"

/-- The operation a scan asks for. Its identifier and its times are those of the creation. -/
def Account.scanOperation (account : Account) : Operation where
  id := ""
  accountID := some account.id
  actorID := none
  kind := hostingAccountReconcileKind
  status := .pending
  stage := "queued"
  progressPercent := 0
  retryClass := .safe
  requestID := systemRequestID
  idempotencyKey := some (reconcileKey account.id account.filesystem.revision account.resources.revision)
  payload := account.payload.rounded.object
  result := none
  errorCode := none
  createdAt := 0
  updatedAt := 0
  startedAt := none
  completedAt := none
  maxAttempts := 3
  attemptCount := 0
  nextAttemptAt := some 0
  currentAttemptID := none
  workerInstanceID := none
  leaseExpiresAt := none
  cancellationRequestedAt := none
  cancellationRequestedBy := none

section

variable {account : Account} (hfilesystem : account.filesystem.revision < 2 ^ 53)
  (hresources : account.resources.revision < 2 ^ 53)

include hfilesystem hresources

theorem Account.asks_of {actorID : Option ID} {requestID : String}
    (hactor : validateOptionalID actorID "actorId" = .ok ())
    (hrequest : validateText requestID "requestId" 1 128 = .ok requestID) :
    (account.request actorID requestID).Asks
      { account.scanOperation with actorID := actorID, requestID := requestID } := by
  intro newID now
  have hkey := Account.validateOptionalText_key hfilesystem hresources
  have hpayload := encodeSafeOperationObject_object (Account.small_payload hfilesystem hresources)
  have hkind : validateAction hostingAccountReconcileKind "kind" 80 = .ok hostingAccountReconcileKind := by decide
  have haccount : validateOptionalID (some account.id) "accountId" = .ok () := account.validateID _
  have hattempts : normalizeMaxAttempts .safe 3 = .ok 3 := by decide
  simp only [prepareOperation, Account.request, haccount, hactor, hkind, hrequest, hkey, hpayload,
    hattempts, pure_eq_ok, ok_bind, if_neg (reconcileKey_ne_empty _ _ _), canonicalFields_object]
  rfl

theorem Account.asks : (account.request none systemRequestID).Asks account.scanOperation :=
  Account.asks_of hfilesystem hresources rfl (by decide)

end

end Sizes

end Stackfort.Hosting
