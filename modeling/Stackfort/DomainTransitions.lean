import Stackfort.DomainRows

/-! Domains. A domain is created pending with a target and a TLS state that follows from its name and
its target; it is edited, suspended, resumed and removed, and it becomes active when the revision
that carries its current target has been applied. Each call checks its arguments and runs one
transaction; a call that belongs to an operation is recorded, and the same operation replays it
without a second effect. -/

namespace Stackfort

open Nginx (DomainActivationExpectation)

/-! ### Arguments -/

structure RedirectSpec where
  statusCode : Int
  targetURL : String
  hostMode : Choice RedirectHostMode
  (preservePath preserveQuery wildcardSubdomains : Bool)

structure DomainTargetSpec where
  type : Choice DomainTargetType
  rootMode : Choice DocumentRootMode
  documentRoot : String
  sharedWithDomainID : Option ID
  phpVersion : String
  applicationID : Option ID
  redirect : Option RedirectSpec

structure CreateDomainParams where
  accountID : ID
  domainID : Option ID
  name : String
  canonicalMode : Choice CanonicalMode
  target : DomainTargetSpec
  disableTLS : Bool
  tlsMode : Choice TLSMode
  wafMode : Choice WAFMode
  cachePreset : Choice CachePreset
  (operationID actorID : Option ID)
  requestID : String

structure UpdateDomainParams where
  (accountID domainID : ID)
  canonicalMode : Option (Choice CanonicalMode)
  target : Option DomainTargetSpec
  wafMode : Option (Choice WAFMode)
  cachePreset : Option (Choice CachePreset)
  rotateCache : Bool
  (operationID actorID : Option ID)
  requestID : String

/-- The arguments of a suspension, a resumption and a removal. -/
structure ChangeDomainStatusParams where
  (accountID domainID : ID)
  (operationID actorID : Option ID)
  requestID : String

structure ConfirmDomainActivationParams where
  (accountID desiredStateRevisionID operationID : ID)
  expected : List DomainActivationExpectation
  actorID : Option ID
  requestID : String

/-- The identifiers a domain call draws. -/
structure DomainIDs where
  (domainID targetID rootCandidateID redirectCandidateID : ID)

/-! ### Targets -/

structure PreparedRedirect where
  statusCode : Int
  hostMode : RedirectHostMode
  (preservePath preserveQuery wildcardSubdomains : Bool)
  url : RedirectURL

structure PreparedDomainTarget where
  type : DomainTargetType
  rootMode : DocumentRootMode
  documentRootPath : String
  sharedWithDomainID : Option ID
  phpVersion : String
  applicationID : Option ID
  redirect : Option PreparedRedirect

def PreparedDomainTarget.hasWildcard (target : PreparedDomainTarget) : Bool :=
  decide (target.type = .redirect) && target.redirect.any PreparedRedirect.wildcardSubdomains

def normalizeCanonicalMode (value : Choice CanonicalMode) : Except CoreError CanonicalMode :=
  value.normalize .preferApex "unsupported canonical host mode"

def normalizeTLSMode (value : Choice TLSMode) : Except CoreError TLSMode :=
  value.normalize .acme "unsupported TLS mode"

def normalizeWAFMode (value : Choice WAFMode) : Except CoreError WAFMode :=
  value.normalize .off "unsupported WAF mode"

def normalizeCachePreset (value : Choice CachePreset) : Except CoreError CachePreset :=
  value.normalize .disabled "unsupported cache preset"

/-- The document root of a static or PHP target: its mode and, for a custom one, its path. -/
def prepareDocumentRoot (spec : DomainTargetSpec) : Except CoreError (DocumentRootMode × String) := do
  match ← spec.rootMode.normalize .default "unsupported document-root mode" with
  | .default =>
    if spec.documentRoot ≠ "" ∨ spec.sharedWithDomainID.isSome then
      throw (.invalidInput "default root must not include a custom or shared root")
    pure (.default, "")
  | .custom =>
    if spec.sharedWithDomainID.isSome then
      throw (.invalidInput "custom root must not reference another domain")
    let root ← normalizeDocumentRoot spec.documentRoot
    pure (.custom, root)
  | .shared =>
    match spec.sharedWithDomainID with
    | none => throw (.invalidInput "shared root requires one source domain and no path")
    | some sharedWith =>
      if spec.documentRoot ≠ "" then
        throw (.invalidInput "shared root requires one source domain and no path")
      validateID sharedWith "sharedWithDomainId"
      pure (.shared, "")

def prepareRootTarget (spec : DomainTargetSpec) (type : DomainTargetType) :
    Except CoreError PreparedDomainTarget := do
  if spec.applicationID.isSome ∨ spec.redirect.isSome then
    throw (.invalidInput "document-root target has incompatible fields")
  if type = .php ∧ !matchesPHPVersionPattern spec.phpVersion then
    throw (.invalidInput "PHP target requires a major.minor version")
  if type ≠ .php ∧ spec.phpVersion ≠ "" then
    throw (.invalidInput "static target must not specify a PHP version")
  let (rootMode, documentRootPath) ← prepareDocumentRoot spec
  pure ⟨type, rootMode, documentRootPath, spec.sharedWithDomainID, spec.phpVersion, none, none⟩

def prepareApplicationTarget (spec : DomainTargetSpec) : Except CoreError PreparedDomainTarget :=
  match spec.applicationID with
  | none => throw (.invalidInput "OCI target requires only an application ID")
  | some applicationID => do
      if spec.redirect.isSome ∨ spec.phpVersion ≠ "" ∨ spec.documentRoot ≠ "" ∨
          spec.sharedWithDomainID.isSome then
        throw (.invalidInput "OCI target requires only an application ID")
      validateID applicationID "applicationId"
      pure ⟨.ociApplication, .default, "", none, "", some applicationID, none⟩

def prepareRedirect (services : NameServices) (redirect : RedirectSpec) (source : NormalizedDomainName) :
    Except CoreError PreparedRedirect := do
  if redirect.statusCode ≠ 301 ∧ redirect.statusCode ≠ 302 then
    throw (.invalidInput "redirect status must be 301 or 302")
  let hostMode ← redirect.hostMode.normalize .both "unsupported redirect host mode"
  if redirect.wildcardSubdomains ∧ hostMode ≠ .both then
    throw (.invalidInput "wildcard redirects require both exact source hosts")
  let url ← normalizeRedirectURL services redirect.targetURL
  let isSourceHost := url.asciiHost = source.ascii ∨ url.asciiHost = "www." ++ source.ascii
  let isWildcardChild := redirect.wildcardSubdomains ∧ isSubdomainOf url.asciiHost source.ascii
  if url.port = "" ∧ (isSourceHost ∨ isWildcardChild) then
    throw (.invalidInput "redirect target would loop to the source domain")
  pure ⟨redirect.statusCode, hostMode, redirect.preservePath, redirect.preserveQuery,
    redirect.wildcardSubdomains, url⟩

def prepareRedirectTarget (services : NameServices) (spec : DomainTargetSpec) (source : NormalizedDomainName) :
    Except CoreError PreparedDomainTarget :=
  match spec.redirect with
  | none => throw (.invalidInput "redirect target has missing or incompatible fields")
  | some redirect => do
      if spec.applicationID.isSome ∨ spec.phpVersion ≠ "" ∨ spec.documentRoot ≠ "" ∨
          spec.sharedWithDomainID.isSome then
        throw (.invalidInput "redirect target has missing or incompatible fields")
      let prepared ← prepareRedirect services redirect source
      pure ⟨.redirect, .default, "", none, "", none, some prepared⟩

def prepareDomainTarget (services : NameServices) (spec : DomainTargetSpec) (source : NormalizedDomainName) :
    Except CoreError PreparedDomainTarget := do
  match ← spec.type.normalize .static "unsupported domain target type" with
  | .static => prepareRootTarget spec .static
  | .php => prepareRootTarget spec .php
  | .ociApplication => prepareApplicationTarget spec
  | .redirect => prepareRedirectTarget services spec source

def validateCacheTarget (preset : CachePreset) (type : DomainTargetType) : Except CoreError Unit :=
  if preset ≠ .disabled ∧ type ≠ .php ∧ type ≠ .ociApplication then
    throw (.invalidInput "page caching is supported only for dynamic application targets")
  else pure ()

/-- The names a certificate of the domain has to carry and the challenge that proves them. -/
def tlsIntent (name : NormalizedDomainName) (target : PreparedDomainTarget) : List String × TLSChallengeType :=
  let names := [name.ascii, "www." ++ name.ascii]
  if target.hasWildcard then (names ++ ["*." ++ name.ascii], .dns01) else (names, .http01)

/-! ### Checks against the store -/

namespace PanelStore

variable (db : PanelStore)

def mutableAccountLimits (accountID : ID) : Except TxError PackageLimits :=
  match db.findAccount accountID with
  | none => throw .noRows
  | some account =>
    if account.status ≠ .active then
      throw (.core (.conflict "only active accounts may change domains"))
    else pure account.limits

def validateTargetAgainstPackage (accountID : ID) (target : PreparedDomainTarget) (limits : PackageLimits) :
    Except TxError Unit :=
  match target.type with
  | .static => pure ()
  | .php =>
    if limits.allowedPHPVersions.contains target.phpVersion then pure ()
    else throw (.core (.conflict ("PHP " ++ target.phpVersion ++ " is not allowed by the account package")))
  | .redirect =>
    if limits.customRedirects then pure ()
    else throw (.core (.conflict "redirects are not enabled by the account package"))
  | .ociApplication =>
    if !limits.ociApplications then
      throw (.core (.conflict "OCI applications are not enabled by the account package"))
    else if db.applications.any fun row =>
        decide (row.accountID = accountID ∧ some row.id = target.applicationID) && row.routable then
      pure ()
    else throw (.core (.conflict "OCI application target is not active for this account"))

/-- The current target of a domain redirects its subdomains. -/
def hasWildcardRedirect (domain : DomainRow) : Bool :=
  (db.currentTarget domain.accountID domain.id).any fun target =>
    db.redirects.any fun redirect =>
      decide (redirect.accountID = target.accountID ∧ redirect.domainID = target.domainID ∧
        some redirect.id = target.redirectID) && redirect.wildcardSubdomains

/-- `excluded` is the domain being edited; a new one excludes nothing. -/
def ensureNoWildcardConflict (asciiName : String) (excluded : Option ID) (target : PreparedDomainTarget) :
    Except TxError Unit := do
  if db.domains.any fun domain =>
      decide (domain.removedAt = none ∧ some domain.id ≠ excluded) && db.hasWildcardRedirect domain &&
        (decide (asciiName = domain.asciiName) || isSubdomainOf asciiName domain.asciiName) then
    throw (.core (.conflict "host is already covered by a wildcard redirect"))
  if target.hasWildcard ∧ db.domains.any fun domain =>
      decide (domain.removedAt = none ∧ some domain.id ≠ excluded) &&
        isSubdomainOf domain.asciiName asciiName then
    throw (.core (.conflict "wildcard redirect overlaps an existing domain"))

/-! ### Targets and TLS intent -/

/-- The document root of another live domain of the account. -/
def sharedDocumentRoot (accountID sourceID : ID) : Option DocumentRoot := do
  let domain ← db.domains.find? fun row =>
    decide (row.accountID = accountID ∧ row.id = sourceID ∧ row.removedAt = none)
  let target ← db.currentTarget domain.accountID domain.id
  db.documentRoots.find? fun root =>
    decide (root.accountID = target.accountID ∧ some root.id = target.documentRootID)

def resolveDocumentRootTx (accountID domainID rootCandidateID : ID) (asciiName : String)
    (target : PreparedDomainTarget) (actorID : Option ID) (now : Time) : Except TxError (PanelStore × ID) := do
  if target.rootMode = .shared then
    if target.sharedWithDomainID = some domainID then
      throw (.core (.invalidInput "domain cannot declare itself as a shared-root source"))
    match target.sharedWithDomainID.bind (db.sharedDocumentRoot accountID) with
    | none => throw .noRows
    | some root => pure (db, root.id)
  else
    let hasParent := db.domains.any fun domain =>
      decide (domain.accountID = accountID ∧ domain.removedAt = none ∧ domain.id ≠ domainID) &&
        isSubdomainOf asciiName domain.asciiName
    let rootPath :=
      if target.rootMode = .default then (if hasParent then asciiName else "public_html")
      else target.documentRootPath
    let rootPath ← (normalizeDocumentRoot rootPath).mapError TxError.core
    let db ← db.insertDocumentRoot ⟨rootCandidateID, accountID, rootPath, now, actorID⟩
    match db.documentRoots.find? fun root =>
        decide (root.accountID = accountID ∧ root.relativePath = rootPath) with
    | none => throw .noRows
    | some root => pure (db, root.id)

/-- The row of `domain_redirects` for a redirect target. -/
def redirectRow (accountID domainID redirectID : ID) (redirect : PreparedRedirect) (actorID : Option ID)
    (now : Time) : DomainRedirect :=
  ⟨redirectID, accountID, domainID, redirect.statusCode.toNat, redirect.url.url, redirect.url.asciiHost,
    redirect.hostMode, redirect.preservePath, redirect.preserveQuery, redirect.wildcardSubdomains, now, actorID⟩

/-- The document root of a target that serves files. -/
def targetRootTx (accountID domainID : ID) (ids : DomainIDs) (name : NormalizedDomainName)
    (target : PreparedDomainTarget) (actorID : Option ID) (now : Time) :
    Except TxError (PanelStore × Option ID) :=
  if target.type = .static ∨ target.type = .php then do
    let (db, rootID) ← db.resolveDocumentRootTx accountID domainID ids.rootCandidateID name.ascii target actorID
      now
    pure (db, some rootID)
  else pure (db, none)

/-- The redirect of a target that has one. -/
def targetRedirectTx (accountID domainID : ID) (ids : DomainIDs) (target : PreparedDomainTarget)
    (actorID : Option ID) (now : Time) : Except TxError (PanelStore × Option ID) :=
  match target.redirect with
  | some redirect => do
      let db ← db.insertRedirect (redirectRow accountID domainID ids.redirectCandidateID redirect actorID now)
      pure (db, some ids.redirectCandidateID)
  | none => pure (db, none)

/-- The row of `domain_targets` for a target. -/
def targetRow (accountID domainID : ID) (ids : DomainIDs) (target : PreparedDomainTarget)
    (rootID redirectID : Option ID) (actorID : Option ID) (now : Time) : DomainTarget :=
  ⟨ids.targetID, accountID, domainID, target.type, rootID,
    if target.phpVersion = "" then none else some target.phpVersion, target.applicationID, redirectID, now,
    actorID, none⟩

def insertTargetTx (accountID domainID : ID) (ids : DomainIDs) (name : NormalizedDomainName)
    (target : PreparedDomainTarget) (actorID : Option ID) (now : Time) : Except TxError PanelStore := do
  let (db, rootID) ← db.targetRootTx accountID domainID ids name target actorID now
  let (db, redirectID) ← db.targetRedirectTx accountID domainID ids target actorID now
  db.insertTarget (targetRow accountID domainID ids target rootID redirectID actorID now)

/-- The TLS state of a new domain. -/
def initialTLSState (accountID domainID : ID) (name : NormalizedDomainName) (target : PreparedDomainTarget)
    (disabled : Bool) (mode : TLSMode) (now : Time) : DomainTLSState where
  accountID := accountID
  domainID := domainID
  enabled := !disabled
  mode := mode
  challengeType := if mode = .imported then .imported else (tlsIntent name target).2
  issuanceStatus := if disabled then .disabled else .pending
  names := (tlsIntent name target).1
  activeCertificateRef := none
  issuer := none
  notBefore := none
  expiresAt := none
  nextRenewalAt := none
  lastErrorCode := none
  lastErrorAt := none
  updatedAt := now

end PanelStore

/-- The challenge a TLS state asks for when the target asks for `challenge`. -/
def DomainTLSState.intendedChallenge (row : DomainTLSState) (challenge : TLSChallengeType) : TLSChallengeType :=
  if row.mode = .imported then .imported else challenge

/-- The names or the challenge of the state differ from the intent of the target. -/
def DomainTLSState.differsFrom (row : DomainTLSState) (intent : List String × TLSChallengeType) : Bool :=
  decide (row.names ≠ intent.1 ∨ row.challengeType ≠ row.intendedChallenge intent.2)

def DomainTLSState.ofDomain (accountID domainID : ID) (row : DomainTLSState) : Bool :=
  decide (row.accountID = accountID ∧ row.domainID = domainID)

/-- The columns a certificate had filled are cleared. -/
def DomainTLSState.detach (now : Time) (row : DomainTLSState) : DomainTLSState :=
  { row with
    activeCertificateRef := none, issuer := none, notBefore := none, expiresAt := none, nextRenewalAt := none
    lastErrorCode := none, lastErrorAt := none, updatedAt := now }

def DomainTLSState.setIntent (intent : List String × TLSChallengeType) (now : Time) (row : DomainTLSState) :
    DomainTLSState :=
  { row.detach now with
    challengeType := row.intendedChallenge intent.2, names := intent.1
    issuanceStatus := if row.enabled then .pending else .disabled }

def DomainTLSState.setRemoved (now : Time) (row : DomainTLSState) : DomainTLSState :=
  { row.detach now with enabled := false, issuanceStatus := .disabled }

/-- The active certificates of a domain. -/
def TLSCertificate.activeOf (accountID domainID : ID) (row : TLSCertificate) : Bool :=
  decide (row.accountID = accountID ∧ row.domainID = domainID ∧ row.status = .active)

def TLSCertificate.setRetired (now : Time) (row : TLSCertificate) : TLSCertificate :=
  { row with status := .retired, retiredAt := some now }

namespace PanelStore

variable (db : PanelStore)

def refreshTLSIntentTx (accountID domainID : ID) (name : NormalizedDomainName) (target : PreparedDomainTarget)
    (now : Time) : Except TxError PanelStore := do
  let intent := tlsIntent name target
  let changed := fun row : DomainTLSState => row.ofDomain accountID domainID && row.differsFrom intent
  let stale := db.tlsStates.any changed
  let (db, _) ← db.updateCertificates (fun row => row.activeOf accountID domainID && stale)
    (TLSCertificate.setRetired now)
  db.updateTLSStates changed (DomainTLSState.setIntent intent now)

/-! ### Replays -/

/-- The operation has already made this change. -/
def domainMutationReplayTx (accountID : ID) (operationID : Option ID) (action : DomainLifecycleAction)
    (domainID : ID) : Except TxError Bool :=
  match operationID with
  | none => pure false
  | some operationID =>
    match db.mutations.find? fun row =>
        decide (row.accountID = accountID ∧ row.operationID = operationID) with
    | some row =>
      if row.domainID ≠ domainID ∨ row.action ≠ action then
        throw (.core (.conflict "operation was already used for a different domain mutation"))
      else pure true
    | none =>
      if db.hasOperation accountID operationID then pure false
      else throw (.core (.notFound "operation does not belong to the account"))

def recordDomainMutationTx (accountID : ID) (operationID : Option ID) (action : DomainLifecycleAction)
    (domainID : ID) (now : Time) : Except TxError PanelStore :=
  match operationID with
  | none => pure db
  | some operationID => db.insertMutation ⟨operationID, accountID, domainID, action, now⟩

end PanelStore

/-- The audit record of a change to a domain. -/
def domainAudit (accountID : ID) (targetID action requestID : String) (operationID actorID : Option ID)
    (details : JsonObject) (now : Time) : AuditEvent where
  occurredAt := now
  actorID := actorID
  action := action
  targetType := "domain"
  targetID := targetID
  accountID := some accountID
  requestID := requestID
  operationID := operationID
  result := .success
  details := details

/-! ### Reading a domain -/

/-- A domain with its current target, its TLS state and its policies, as read at a clock reading. -/
structure Domain where
  row : DomainRow
  target : DomainTarget
  documentRoot : Option DocumentRoot
  rootReferences : Nat
  redirect : Option DomainRedirect
  tls : DomainTLSState
  waf : DomainWAFPolicy
  exceptions : List DomainWAFException
  cache : DomainCachePolicy

namespace PanelStore

variable (db : PanelStore)

/-- The joins of the query; `none` when one of them finds no row. -/
def domainRecord (accountID domainID : ID) (now : Time) : Option Domain := do
  let row ← db.domains.find? fun row => decide (row.accountID = accountID ∧ row.id = domainID)
  let target ← db.currentTarget accountID domainID
  let tls ← db.tlsStates.find? fun tls => tls.ofDomain accountID domainID
  let waf ← db.wafPolicies.find? fun waf => decide (waf.accountID = accountID ∧ waf.domainID = domainID)
  let cache ← db.cachePolicies.find? fun cache =>
    decide (cache.accountID = accountID ∧ cache.domainID = domainID)
  let documentRoot := db.documentRoots.find? fun root =>
    decide (root.accountID = accountID ∧ some root.id = target.documentRootID)
  let rootReferences := db.targets.countP fun other =>
    decide (other.accountID = accountID ∧ other.documentRootID = target.documentRootID ∧ other.supersededAt = none) &&
      db.domains.any fun domain =>
        decide (domain.accountID = accountID ∧ domain.id = other.domainID ∧ domain.removedAt = none)
  let redirect := db.redirects.find? fun redirect =>
    decide (redirect.accountID = accountID ∧ redirect.domainID = domainID ∧ some redirect.id = target.redirectID)
  pure ⟨row, target, documentRoot, if documentRoot.isSome then rootReferences else 0, redirect, tls, waf,
    db.activeWAFExceptions accountID domainID now, cache⟩

def getDomain (accountID domainID : ID) (now : Time) : Except CoreError Domain := do
  validateID accountID "accountId"
  validateID domainID "domainId"
  match db.domainRecord accountID domainID now with
  | some domain => pure domain
  | none => throw (classifyDatabaseError .noRows)

/-- One transaction with its reply, rolled back on an error. -/
def write {α : Type} (tx : Except TxError (PanelStore × α)) : PanelStore × Except CoreError α :=
  match tx with
  | .ok (db', reply) => (db', .ok reply)
  | .error error => (db, .error (classifyDatabaseError error))

/-- The same after checks on the arguments. -/
def checkedWrite {α β : Type} (checks : Except CoreError β) (tx : β → Except TxError (PanelStore × α)) :
    PanelStore × Except CoreError α :=
  match checks with
  | .error error => (db, .error error)
  | .ok checked => db.write (tx checked)

/-- The reply of a call that reads it from the store its transaction has left. -/
def rereads {α β : Type} (committed : PanelStore × Except CoreError β)
    (read : β → PanelStore → Except CoreError α) : PanelStore × Except CoreError α :=
  (committed.1, committed.2.bind fun value => read value committed.1)

end PanelStore

/-! ### Creation -/

/-- The arguments of a creation after their checks. -/
structure CheckedCreation where
  domainID : ID
  requestID : String
  name : NormalizedDomainName
  canonicalMode : CanonicalMode
  tlsMode : TLSMode
  wafMode : WAFMode
  cachePreset : CachePreset
  target : PreparedDomainTarget

def checkCreateDomain (services : NameServices) (params : CreateDomainParams) (ids : DomainIDs) :
    Except CoreError CheckedCreation := do
  validateID params.accountID "accountId"
  validateOptionalID params.actorID "actorId"
  validateOptionalID params.operationID "operationId"
  validateOptionalID params.domainID "domainId"
  if params.operationID.isSome ∧ params.domainID.isNone then
    throw (.invalidInput "operation-correlated domain creation requires a stable domainId")
  let requestID ← validateOptionalText params.requestID "requestId" 128
  let name ← normalizeDomainBase services params.name
  let canonicalMode ← normalizeCanonicalMode params.canonicalMode
  let tlsMode ← normalizeTLSMode params.tlsMode
  let wafMode ← normalizeWAFMode params.wafMode
  let cachePreset ← normalizeCachePreset params.cachePreset
  let target ← prepareDomainTarget services params.target name
  validateCacheTarget cachePreset target.type
  pure ⟨params.domainID.getD ids.domainID, requestID, name, canonicalMode, tlsMode, wafMode, cachePreset, target⟩

/-- The row of a new domain. -/
def CheckedCreation.row (checked : CheckedCreation) (params : CreateDomainParams) (now : Time) : DomainRow where
  id := checked.domainID
  accountID := params.accountID
  displayName := checked.name.display
  asciiName := checked.name.ascii
  status := .pending
  canonicalMode := checked.canonicalMode
  createdAt := now
  updatedAt := now
  removedAt := none
  createdBy := params.actorID

def insertDomainRecordsTx (db : PanelStore) (params : CreateDomainParams) (checked : CheckedCreation)
    (ids : DomainIDs) (now : Time) : Except TxError PanelStore := do
  let domainID := checked.domainID
  let db ← db.insertDomain (checked.row params now)
  let db ← db.insertTargetTx params.accountID domainID ids checked.name checked.target params.actorID now
  let db ← db.insertTLSState (PanelStore.initialTLSState params.accountID domainID checked.name checked.target
    params.disableTLS checked.tlsMode now)
  let db ← db.insertWAFPolicy ⟨params.accountID, domainID, checked.wafMode, now⟩
  db.insertCachePolicy ⟨params.accountID, domainID, checked.cachePreset, domainID, now⟩

def createDomainTx (db : PanelStore) (params : CreateDomainParams) (checked : CheckedCreation) (ids : DomainIDs)
    (now : Time) : Except TxError PanelStore := do
  let domainID := checked.domainID
  if ← db.domainMutationReplayTx params.accountID params.operationID .create domainID then return db
  let limits ← db.mutableAccountLimits params.accountID
  if limits.maxDomains ≤ db.domains.countP fun row =>
      decide (row.accountID = params.accountID ∧ row.removedAt = none) then
    throw (.core (.conflict ("package domain limit of " ++ toString limits.maxDomains ++ " reached")))
  db.validateTargetAgainstPackage params.accountID checked.target limits
  db.ensureNoWildcardConflict checked.name.ascii none checked.target
  let db ← insertDomainRecordsTx db params checked ids now
  let db ← db.recordDomainMutationTx params.accountID params.operationID .create domainID now
  pure (db.appendAudit (domainAudit params.accountID domainID "domain.created" checked.requestID
    params.operationID params.actorID
    [("asciiName", .string checked.name.ascii), ("canonicalMode", .string checked.canonicalMode.text),
      ("targetType", .string checked.target.type.text), ("wafMode", .string checked.wafMode.text),
      ("cachePreset", .string checked.cachePreset.text)] now))

def createDomain (services : NameServices) (db : PanelStore) (params : CreateDomainParams) (ids : DomainIDs)
    (now : Time) : PanelStore × Except CoreError Domain :=
  PanelStore.rereads
    (db.checkedWrite (checkCreateDomain services params ids) fun checked => do
      let db' ← createDomainTx db params checked ids now
      pure (db', checked.domainID))
    fun domainID db' => db'.getDomain params.accountID domainID now

/-! ### Edits -/

/-- The arguments of an edit after their checks; `none` leaves the column as it is. -/
structure CheckedUpdate where
  canonicalMode : Option CanonicalMode
  wafMode : Option WAFMode
  cachePreset : Option CachePreset
  requestID : String

def checkUpdateDomain (params : UpdateDomainParams) : Except CoreError CheckedUpdate := do
  validateID params.accountID "accountId"
  validateID params.domainID "domainId"
  validateOptionalID params.actorID "actorId"
  validateOptionalID params.operationID "operationId"
  if params.target.isNone ∧ params.canonicalMode.isNone ∧ params.wafMode.isNone ∧ params.cachePreset.isNone ∧
      !params.rotateCache then
    throw (.invalidInput "domain update contains no changes")
  let canonicalMode ← params.canonicalMode.mapM normalizeCanonicalMode
  let wafMode ← params.wafMode.mapM normalizeWAFMode
  let cachePreset ← params.cachePreset.mapM normalizeCachePreset
  let requestID ← validateOptionalText params.requestID "requestId" 128
  pure ⟨canonicalMode, wafMode, cachePreset, requestID⟩

/-- An edited domain has to be activated again, unless it is suspended. -/
def DomainRow.setEdited (canonicalMode : Option CanonicalMode) (now : Time) (row : DomainRow) : DomainRow :=
  { row with
    canonicalMode := canonicalMode.getD row.canonicalMode
    status := if row.status = .suspended then .suspended else .pending
    updatedAt := now }

def DomainRow.ofAccount (accountID domainID : ID) (row : DomainRow) : Bool :=
  decide (row.accountID = accountID ∧ row.id = domainID)

/-- The change of target an edit makes. -/
def updateTargetTx (services : NameServices) (db : PanelStore) (params : UpdateDomainParams)
    (limits : PackageLimits) (name : NormalizedDomainName) (spec : DomainTargetSpec) (ids : DomainIDs)
    (now : Time) : Except TxError (PanelStore × DomainTargetType) := do
  let target ← (prepareDomainTarget services spec name).mapError TxError.core
  db.validateTargetAgainstPackage params.accountID target limits
  db.ensureNoWildcardConflict name.ascii (some params.domainID) target
  let (db, affected) := db.supersedeTarget params.accountID params.domainID now
  expectAffected affected
  let db ← db.insertTargetTx params.accountID params.domainID ids name target params.actorID now
  let db ← db.refreshTLSIntentTx params.accountID params.domainID name target now
  pure (db, target.type)

/-- The same, with the type of the new target, if the edit names a target. -/
def retargetTx (services : NameServices) (db : PanelStore) (params : UpdateDomainParams)
    (limits : PackageLimits) (name : NormalizedDomainName) (ids : DomainIDs) (now : Time) :
    Except TxError (PanelStore × Option DomainTargetType) :=
  match params.target with
  | some spec => do
      let (db, type) ← updateTargetTx services db params limits name spec ids now
      pure (db, some type)
  | none => pure (db, none)

/-- The changes of an edit to the policies of the domain. -/
def updatePoliciesTx (db : PanelStore) (params : UpdateDomainParams) (wafMode : Option WAFMode)
    (preset : CachePreset) (generation : ID) (now : Time) : Except TxError PanelStore := do
  let db ←
    match wafMode with
    | some mode => do
        let (db, affected) := db.updateWAFPolicies
          (fun row => decide (row.accountID = params.accountID ∧ row.domainID = params.domainID))
          fun row => { row with mode := mode, updatedAt := now }
        expectAffected affected
        pure db
    | none => pure db
  let (db, affected) := db.updateCachePolicies
    (fun row => decide (row.accountID = params.accountID ∧ row.domainID = params.domainID))
    fun row => { row with preset := preset, generation := generation, updatedAt := now }
  expectAffected affected
  pure db

/-- The audit details of an edit. -/
def updateDetails (params : UpdateDomainParams) (checked : CheckedUpdate) (ids : DomainIDs)
    (targetType : Option DomainTargetType) : JsonObject :=
  [("canonicalModeChanged", .bool checked.canonicalMode.isSome), ("targetChanged", .bool targetType.isSome),
    ("wafModeChanged", .bool checked.wafMode.isSome), ("cachePresetChanged", .bool checked.cachePreset.isSome),
    ("cacheGenerationRotated", .bool true), ("cachePurge", .bool params.rotateCache)] ++
    (checked.wafMode.toList.map fun mode => ("wafMode", .string mode.text)) ++
    (checked.cachePreset.toList.map fun preset => ("cachePreset", .string preset.text)) ++
    targetType.toList.flatMap fun type =>
      [("targetRevisionId", .string ids.targetID), ("targetType", .string type.text)]

/-- The columns an edit reads: those of the domain, of its current target and of its cache policy. -/
def PanelStore.editedDomain (db : PanelStore) (accountID domainID : ID) :
    Except TxError (DomainRow × DomainTarget × DomainCachePolicy) :=
  match db.domains.find? (DomainRow.ofAccount accountID domainID), db.currentTarget accountID domainID,
    db.cachePolicies.find? fun row => decide (row.accountID = accountID ∧ row.domainID = domainID) with
  | some domain, some target, some cache => pure (domain, target, cache)
  | _, _, _ => throw .noRows

def updateDomainTx (services : NameServices) (db : PanelStore) (params : UpdateDomainParams)
    (checked : CheckedUpdate) (ids : DomainIDs) (now : Time) : Except TxError PanelStore := do
  let accountID := params.accountID
  let domainID := params.domainID
  if ← db.domainMutationReplayTx accountID params.operationID .edit domainID then return db
  let limits ← db.mutableAccountLimits accountID
  let (domain, current, cache) ← db.editedDomain accountID domainID
  if domain.status = .removed then
    throw (.core (.conflict "removed domain cannot be updated"))
  if params.rotateCache ∧ (!cache.preset.isFastCGI ∨ params.target.isSome ∨ params.canonicalMode.isSome ∨
      params.wafMode.isSome ∨ params.cachePreset.isSome) then
    throw (.core (.conflict "FastCGI purge requires an unchanged FastCGI policy"))
  let (db, targetType) ← retargetTx services db params limits ⟨domain.displayName, domain.asciiName⟩ ids now
  let preset := checked.cachePreset.getD cache.preset
  (validateCacheTarget preset (targetType.getD current.type)).mapError TxError.core
  let (db, _) ← db.updateDomains (DomainRow.ofAccount accountID domainID)
    (DomainRow.setEdited checked.canonicalMode now)
  let db ← updatePoliciesTx db params checked.wafMode preset ids.targetID now
  let db ← db.recordDomainMutationTx accountID params.operationID .edit domainID now
  pure (db.appendAudit (domainAudit accountID domainID "domain.updated" checked.requestID params.operationID
    params.actorID (updateDetails params checked ids targetType) now))

def updateDomain (services : NameServices) (db : PanelStore) (params : UpdateDomainParams) (ids : DomainIDs)
    (now : Time) : PanelStore × Except CoreError Domain :=
  PanelStore.rereads
    (db.checkedWrite (checkUpdateDomain params) fun checked => do
      let db' ← updateDomainTx services db params checked ids now
      pure (db', ()))
    fun _ db' => db'.getDomain params.accountID params.domainID now

/-! ### Suspension, resumption and removal -/

def checkChangeDomainStatus (params : ChangeDomainStatusParams) : Except CoreError String := do
  validateID params.accountID "accountId"
  validateID params.domainID "domainId"
  validateOptionalID params.operationID "operationId"
  validateOptionalID params.actorID "actorId"
  validateOptionalText params.requestID "requestId" 128

def DomainRow.setStatus (status : DomainStatus) (now : Time) (row : DomainRow) : DomainRow :=
  { row with status := status, updatedAt := now }

def changeDomainStatusTx (db : PanelStore) (params : ChangeDomainStatusParams) (requestID : String)
    (action : DomainLifecycleAction) (targetStatus : DomainStatus) (allowed : List DomainStatus) (now : Time) :
    Except TxError PanelStore := do
  if ← db.domainMutationReplayTx params.accountID params.operationID action params.domainID then return db
  let _ ← db.mutableAccountLimits params.accountID
  let (db, affected) ← db.updateDomains
    (fun row => row.ofAccount params.accountID params.domainID && decide (row.status ∈ allowed))
    (DomainRow.setStatus targetStatus now)
  if affected ≠ 1 then throw .noRows
  let db ← db.recordDomainMutationTx params.accountID params.operationID action params.domainID now
  pure (db.appendAudit (domainAudit params.accountID params.domainID ("domain." ++ action.text ++ "d") requestID
    params.operationID params.actorID [("status", .string targetStatus.text)] now))

def changeDomainStatus (db : PanelStore) (params : ChangeDomainStatusParams) (action : DomainLifecycleAction)
    (targetStatus : DomainStatus) (allowed : List DomainStatus) (now : Time) :
    PanelStore × Except CoreError Domain :=
  PanelStore.rereads
    (db.checkedWrite (checkChangeDomainStatus params) fun requestID => do
      let db' ← changeDomainStatusTx db params requestID action targetStatus allowed now
      pure (db', ()))
    fun _ db' => db'.getDomain params.accountID params.domainID now

def suspendDomain (db : PanelStore) (params : ChangeDomainStatusParams) (now : Time) :
    PanelStore × Except CoreError Domain :=
  changeDomainStatus db params .suspend .suspended [.pending, .active] now

def resumeDomain (db : PanelStore) (params : ChangeDomainStatusParams) (now : Time) :
    PanelStore × Except CoreError Domain :=
  changeDomainStatus db params .resume .pending [.suspended] now

def DomainRow.setRemoved (now : Time) (row : DomainRow) : DomainRow :=
  { row with status := .removed, removedAt := some now, updatedAt := now }

def removeDomainTx (db : PanelStore) (params : ChangeDomainStatusParams) (requestID : String) (now : Time) :
    Except TxError PanelStore := do
  let accountID := params.accountID
  let domainID := params.domainID
  if ← db.domainMutationReplayTx accountID params.operationID .remove domainID then return db
  let _ ← db.mutableAccountLimits accountID
  let (db, affected) ← db.updateDomains
    (fun row => row.ofAccount accountID domainID && decide (row.removedAt = none)) (DomainRow.setRemoved now)
  if affected ≠ 1 then throw .noRows
  let db ← db.recordDomainMutationTx accountID params.operationID .remove domainID now
  let (db, _) ← db.updateCertificates (TLSCertificate.activeOf accountID domainID) (TLSCertificate.setRetired now)
  let db ← db.updateTLSStates (DomainTLSState.ofDomain accountID domainID) (DomainTLSState.setRemoved now)
  pure (db.appendAudit (domainAudit accountID domainID "domain.removed" requestID params.operationID
    params.actorID [("historyRetained", .bool true)] now))

def removeDomain (db : PanelStore) (params : ChangeDomainStatusParams) (now : Time) :
    PanelStore × Except CoreError Unit :=
  db.checkedWrite (checkChangeDomainStatus params) fun requestID => do
    let db' ← removeDomainTx db params requestID now
    pure (db', ())

/-! ### Desired revisions -/

structure CreateDesiredStateRevisionParams where
  accountID : ID
  document : Option Nginx.DomainDocument
  reason : String
  (operationID actorID : Option ID)
  requestID : String

def checkCreateRevision (params : CreateDesiredStateRevisionParams) : Except CoreError String := do
  validateID params.accountID "accountId"
  validateOptionalID params.actorID "actorId"
  validateOptionalID params.operationID "operationId"
  let _ ← validateOptionalText params.reason "reason" 500
  validateOptionalText params.requestID "requestId" 128

/-- The revision an operation has captured. -/
def PanelStore.revisionForOperation (db : PanelStore) (accountID operationID : ID) :
    Option DesiredStateRevision := do
  let link ← db.revisionLinks.find? fun link =>
    decide (link.accountID = accountID ∧ link.operationID = operationID)
  db.desiredRevisions.find? fun row =>
    decide (row.accountID = link.accountID ∧ row.id = link.desiredStateRevisionID)

/-- `COALESCE(MAX(sequence), 0) + 1` over the revisions of an account. -/
def PanelStore.nextRevisionSequence (db : PanelStore) (accountID : ID) : Nat :=
  ((db.desiredRevisions.filter fun row => decide (row.accountID = accountID)).map
    DesiredStateRevision.sequence).foldl max 0 + 1

def insertRevisionTx (db : PanelStore) (params : CreateDesiredStateRevisionParams) (requestID : String)
    (newID : ID) (now : Time) : Except TxError (PanelStore × DesiredStateRevision) := do
  let revision : DesiredStateRevision :=
    ⟨newID, params.accountID, db.nextRevisionSequence params.accountID, params.document, now⟩
  if db.desiredRevisions.any fun row => decide (row.id = newID) then
    throw (.constraint "UNIQUE constraint failed: desired_state_revisions.id")
  let db := { db with desiredRevisions := db.desiredRevisions ++ [revision] }
  let db ←
    match params.operationID with
    | none => pure db
    | some operationID =>
      if db.revisionLinks.any fun link => decide (link.operationID = operationID) then
        throw (.constraint "UNIQUE constraint failed: operation_desired_state_revisions.operation_id")
      else
        let link : OperationRevisionLink := ⟨operationID, params.accountID, newID, now⟩
        pure { db with revisionLinks := db.revisionLinks ++ [link] }
  let event := domainAudit params.accountID newID "desired_state.revised" requestID params.operationID
    params.actorID [("sequence", .number revision.sequence)] now
  pure (db.appendAudit { event with targetType := "desired_state_revision" }, revision)

/-- An operation captures one revision; a replay returns the captured one. -/
def createRevisionTx (db : PanelStore) (params : CreateDesiredStateRevisionParams) (requestID : String)
    (newID : ID) (now : Time) : Except TxError (PanelStore × DesiredStateRevision) :=
  match params.operationID with
  | none => insertRevisionTx db params requestID newID now
  | some operationID =>
    match db.revisionForOperation params.accountID operationID with
    | some existing => pure (db, existing)
    | none =>
      if db.hasOperation params.accountID operationID then insertRevisionTx db params requestID newID now
      else throw (.core (.notFound "operation does not belong to the account"))

def createDesiredStateRevision (db : PanelStore) (params : CreateDesiredStateRevisionParams) (newID : ID)
    (now : Time) : PanelStore × Except CoreError DesiredStateRevision :=
  db.checkedWrite (checkCreateRevision params)
    fun requestID => createRevisionTx db params requestID newID now

/-! ### Applied revisions -/

structure RecordAppliedStateRevisionParams where
  (accountID desiredStateRevisionID : ID)
  operationID : Option ID
  configDigest : List UInt8
  actorID : Option ID
  requestID : String

def checkRecordAppliedState (params : RecordAppliedStateRevisionParams) : Except CoreError String := do
  validateID params.accountID "accountId"
  validateID params.desiredStateRevisionID "desiredStateRevisionId"
  validateOptionalID params.operationID "operationId"
  validateOptionalID params.actorID "actorId"
  if params.configDigest.length ≠ 32 then
    throw (.invalidInput "config digest must be a SHA-256 digest")
  validateOptionalText params.requestID "requestId" 128

/-- What an operation has already recorded: nothing, the same state, or a conflict. -/
def PanelStore.recordedByOperation (db : PanelStore) (params : RecordAppliedStateRevisionParams) :
    Except TxError (Option AppliedStateRevision) :=
  match params.operationID with
  | none => pure none
  | some operationID =>
    if !db.hasOperation params.accountID operationID then
      throw (.core (.notFound "operation does not belong to the account"))
    else
      match db.appliedRevisions.find? fun row =>
          decide (row.accountID = params.accountID ∧ row.operationID = some operationID) with
      | none => pure none
      | some existing =>
        if existing.desiredStateRevisionID ≠ params.desiredStateRevisionID ∨
            existing.configDigest ≠ params.configDigest then
          throw (.core (.conflict "operation was already recorded with different applied state"))
        else if existing.status ≠ .active then
          throw (.core (.conflict "operation's applied state is no longer active"))
        else pure (some existing)

def recordAppliedStateRevisionTx (db : PanelStore) (params : RecordAppliedStateRevisionParams)
    (requestID : String) (newID : ID) (now : Time) : Except TxError (PanelStore × AppliedStateRevision) := do
  if (db.findAccount params.accountID).isNone then
    throw (.core (.notFound "hosting account does not exist"))
  if db.desiredRevisions.all fun row =>
      decide (¬(row.accountID = params.accountID ∧ row.id = params.desiredStateRevisionID)) then
    throw (.core (.notFound "desired-state revision does not belong to the account"))
  match ← db.recordedByOperation params with
  | some existing => pure (db, existing)
  | none =>
    if db.appliedRevisions.any fun row => decide (row.id = newID) then
      throw (.constraint "UNIQUE constraint failed: applied_state_revisions.id")
    let current := fun row : AppliedStateRevision =>
      decide (row.accountID = params.accountID ∧ row.status = .active)
    let revision : AppliedStateRevision :=
      ⟨newID, params.accountID, params.desiredStateRevisionID, params.operationID, params.configDigest,
        .active, now, none⟩
    let superseded := updateWhere current
      (fun row => { row with status := .superseded, supersededAt := some now }) db.appliedRevisions
    let event := domainAudit params.accountID newID "applied_state.recorded" requestID params.operationID
      params.actorID [("desiredStateRevisionId", .string params.desiredStateRevisionID)] now
    pure ({ db with appliedRevisions := superseded ++ [revision] }.appendAudit
      { event with targetType := "applied_state_revision" }, revision)

def recordAppliedStateRevision (db : PanelStore) (params : RecordAppliedStateRevisionParams) (newID : ID)
    (now : Time) : PanelStore × Except CoreError AppliedStateRevision :=
  db.checkedWrite (checkRecordAppliedState params)
    fun requestID => recordAppliedStateRevisionTx db params requestID newID now

/-! ### Activation -/

/-- The applied revision of the account is the one the operation recorded. -/
def PanelStore.appliedMatches (db : PanelStore) (accountID desiredStateRevisionID operationID : ID) : Bool :=
  db.appliedRevisions.any fun row =>
    decide (row.accountID = accountID ∧ row.desiredStateRevisionID = desiredStateRevisionID ∧
      row.operationID = some operationID ∧ row.status = .active)

/-- The loop that checks the expectations and that no domain occurs twice. -/
def checkExpectations : (seen : List ID) → List DomainActivationExpectation → Except CoreError Unit
  | _, [] => pure ()
  | seen, expected :: rest => do
      validateID expected.domainID "domainId"
      validateID expected.targetID "targetId"
      if expected.domainID ∈ seen then
        throw (.invalidInput "duplicate domain activation expectation")
      checkExpectations (expected.domainID :: seen) rest

def checkConfirmDomainActivation (params : ConfirmDomainActivationParams) : Except CoreError String := do
  validateID params.accountID "accountId"
  validateID params.desiredStateRevisionID "desiredStateRevisionId"
  validateID params.operationID "operationId"
  validateOptionalID params.actorID "actorId"
  if 10000 < params.expected.length then
    throw (.invalidInput "too many domain activation expectations")
  checkExpectations [] params.expected
  validateOptionalText params.requestID "requestId" 128

/-- The domain waits for activation and its current target is the one that was applied. -/
def PanelStore.activatable (db : PanelStore) (accountID : ID) (expected : DomainActivationExpectation)
    (row : DomainRow) : Bool :=
  row.ofAccount accountID expected.domainID && decide (row.status = .pending) &&
    db.targets.any fun target =>
      decide (target.accountID = accountID ∧ target.domainID = expected.domainID ∧
        target.id = expected.targetID ∧ target.supersededAt = none)

/-- The loop over the expectations, with the number of activated domains. -/
def activateDomainsTx (accountID : ID) (now : Time) :
    List DomainActivationExpectation → PanelStore → Except TxError (PanelStore × Nat)
  | [], db => pure (db, 0)
  | expected :: rest, db => do
      let (db, count) ← db.updateDomains (db.activatable accountID expected) (DomainRow.setStatus .active now)
      let (db, activated) ← activateDomainsTx accountID now rest db
      pure (db, count + activated)

def confirmDomainActivationTx (db : PanelStore) (params : ConfirmDomainActivationParams) (requestID : String)
    (now : Time) : Except TxError (PanelStore × Nat) := do
  if !db.appliedMatches params.accountID params.desiredStateRevisionID params.operationID then
    throw (.core (.conflict "applied state does not match the activation confirmation"))
  let (db, activated) ← activateDomainsTx params.accountID now params.expected db
  if activated = 0 then return (db, 0)
  let event := domainAudit params.accountID params.desiredStateRevisionID "domains.activation_confirmed"
    requestID (some params.operationID) params.actorID [("activatedDomains", .number activated)] now
  pure (db.appendAudit { event with targetType := "desired_state_revision" }, activated)

def confirmDomainActivation (db : PanelStore) (params : ConfirmDomainActivationParams) (now : Time) :
    PanelStore × Except CoreError Nat :=
  db.checkedWrite (checkConfirmDomainActivation params)
    fun requestID => confirmDomainActivationTx db params requestID now

export TLSCertificate (activeOf setRetired)

export DomainTLSState (ofDomain)

export DomainRow (ofAccount setStatus)

end Stackfort
