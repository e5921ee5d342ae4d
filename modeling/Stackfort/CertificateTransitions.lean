import Stackfort.DomainTransitions

/-! The life of a certificate. An operation prepares an order: the names of the domain are read and
sorted, and a transaction compares them with the stored ones, inserts a certificate and its order
and marks the domain as issuing or renewing. The issued chain is staged, and once the revision that
serves it is applied the certificate is activated in place of its predecessor. A failing attempt
marks the domain as failed. Several of the calls read the store before they open their transaction,
and other calls may come in between; `OrderDraft` is what such a read hands to the transaction of
an order. The order in which Go ranges over a map of fields to check is not fixed; here it is the
order of the text. -/

namespace Stackfort

/-! ### Arguments -/

structure PrepareTLSCertificateOrderParams where
  (accountID domainID operationID : ID)
  environment : Choice ACMEEnvironment
  (replacesCertificateID actorID : Option ID)
  requestID : String

structure StageTLSCertificateParams where
  (operationID certificateID : ID)
  (fullChainPEM certificateURL fingerprintSHA256 issuer serialHex : String)
  (notBefore expiresAt nextRenewalAt : Time)
  actorID : Option ID
  requestID : String

structure ActivateTLSCertificateParams where
  (accountID domainID certificateID desiredStateRevisionID operationID : ID)
  actorID : Option ID
  requestID : String

structure FailTLSCertificateOrderParams where
  operationID : ID
  errorCode : String
  final : Bool
  retryAt : Option Time
  actorID : Option ID
  requestID : String

/-- An order with its certificate and the ACME account it is placed under. -/
structure LoadedOrder where
  order : TLSCertificateOrder
  certificate : TLSCertificate
  acmeAccount : ACMEAccount

/-- What `PrepareTLSCertificateOrder` has read before its transaction. -/
structure OrderDraft where
  names : List String
  sorted : names.Pairwise (· ≤ ·)
  account : ACMEAccount

/-- `ACMEDirectoryURL`, which accepts the two known environments. -/
def supportedEnvironment : Choice ACMEEnvironment → Except CoreError ACMEEnvironment
  | .known environment => pure environment
  | _ => throw (.invalidInput "unsupported ACME environment")

/-! ### Reading orders -/

namespace PanelStore

variable (db : PanelStore)

/-- A stored certificate whose names are not sorted cannot be read. -/
def tlsCertificateByIDTx (certificateID : ID) : Except TxError TLSCertificate :=
  match db.findCertificate certificateID with
  | none => throw .noRows
  | some certificate =>
    if certificate.names = [] ∨ ¬certificate.names.Pairwise (· ≤ ·) then
      throw (.other "stored TLS certificate names are invalid")
    else pure certificate

def findACMEAccountByIDTx (accountID : ID) : Except TxError ACMEAccount :=
  match db.findACMEAccount accountID with
  | none => throw .noRows
  | some account => pure account

def tlsCertificateOrderForOperationTx (operationID : ID) : Except TxError LoadedOrder :=
  match db.findOrder operationID with
  | none => throw .noRows
  | some order => do
      let certificate ← db.tlsCertificateByIDTx order.certificateID
      let account ← db.findACMEAccountByIDTx certificate.acmeAccountID
      pure ⟨order, certificate, account⟩

def tlsCertificateOrderForOperation (operationID : ID) : Except CoreError LoadedOrder := do
  validateID operationID "operationId"
  (db.tlsCertificateOrderForOperationTx operationID).mapError classifyDatabaseError

def getTLSCertificate (certificateID : ID) : Except CoreError TLSCertificate := do
  validateID certificateID "certificateId"
  (db.tlsCertificateByIDTx certificateID).mapError classifyDatabaseError

end PanelStore

/-- The audit record of a change to a certificate. -/
def certificateAudit (accountID certificateID : ID) (action requestID : String) (operationID : ID)
    (actorID : Option ID) (result : AuditResult) (details : JsonObject) (now : Time) : AuditEvent where
  occurredAt := now
  actorID := actorID
  action := action
  targetType := "tls_certificate"
  targetID := certificateID
  accountID := some accountID
  requestID := requestID
  operationID := some operationID
  result := result
  details := details

/-! ### Preparing an order -/

def checkPrepareOrder (params : PrepareTLSCertificateOrderParams) :
    Except CoreError (ACMEEnvironment × String) := do
  validateID params.accountID "accountId"
  validateID params.domainID "domainId"
  validateID params.operationID "operationId"
  validateOptionalID params.replacesCertificateID "replacesCertificateId"
  validateOptionalID params.actorID "actorId"
  let requestID ← validateText params.requestID "requestId" 1 128
  let environment ← supportedEnvironment params.environment
  pure (environment, requestID)

/-- HTTP-01 can prove the names of the domain, and TLS is wanted for it. -/
def Domain.eligible (domain : Domain) : Bool :=
  decide (domain.row.status = .active ∧ domain.tls.enabled = true ∧ domain.tls.mode = .acme ∧
    domain.tls.challengeType = .http01 ∧ domain.tls.names ≠ [])

def isWildcardName (name : String) : Bool := "*.".toList.isPrefixOf name.toList

/-- The reads before the transaction: the domain, its names sorted, and the ACME account. -/
def PanelStore.draftOrder (db : PanelStore) (accountID domainID : ID) (environment : ACMEEnvironment)
    (now : Time) : Except CoreError OrderDraft := do
  let domain ← db.getDomain accountID domainID now
  if !domain.eligible then
    throw (.conflict "domain is not eligible for HTTP-01 issuance")
  let names := domain.tls.names.insertionSort (· ≤ ·)
  if names.any isWildcardName then
    throw (.conflict "wildcard names require DNS-01")
  match db.acmeAccounts.find? fun account => decide (account.environment = environment) with
  | none => throw .acmeAccountRequired
  | some account =>
    if account.status ≠ .valid then throw .acmeAccountRequired
    pure ⟨names, List.pairwise_insertionSort _ _, account⟩

/-- The state of the domain does not allow the order. -/
def orderRefusal (replacesCertificateID : Option ID) (tls : DomainTLSState) : Option CoreError :=
  match replacesCertificateID with
  | none =>
    if tls.activeCertificateRef.isSome then
      some (.conflict "initial issue cannot replace an active certificate")
    else if tls.issuanceStatus ≠ .pending ∧ tls.issuanceStatus ≠ .failed then
      some (.conflict "initial issuance is already in progress")
    else none
  | some certificateID =>
    if tls.activeCertificateRef ≠ some certificateID then
      some (.conflict "renewal does not replace the active certificate")
    else if tls.issuanceStatus ≠ .active ∧ tls.issuanceStatus ≠ .failed then
      some (.conflict "renewal is already in progress")
    else none

def purposeOf (replacesCertificateID : Option ID) : TLSCertificatePurpose :=
  if replacesCertificateID.isSome then .renew else .issue

/-- The status of a domain while an order is open. -/
def TLSCertificatePurpose.status : TLSCertificatePurpose → TLSIssuanceStatus
  | .issue => .issuing
  | .renew => .renewing

def DomainTLSState.setOrdered (status : TLSIssuanceStatus) (now : Time) (row : DomainTLSState) : DomainTLSState :=
  { row with issuanceStatus := status, lastErrorCode := none, lastErrorAt := none, updatedAt := now }

/-- The row of a certificate that has been ordered. -/
def orderedCertificate (params : PrepareTLSCertificateOrderParams) (draft : OrderDraft) (certificateID : ID)
    (now : Time) : TLSCertificate where
  id := certificateID
  accountID := params.accountID
  domainID := params.domainID
  acmeAccountID := draft.account.id
  status := .ordering
  names := draft.names
  fullChainPEM := none
  certificateURL := none
  fingerprintSHA256 := none
  issuer := none
  serialHex := none
  notBefore := none
  expiresAt := none
  nextRenewalAt := none
  createdAt := now
  issuedAt := none
  activatedAt := none
  retiredAt := none

def preparedOrder (params : PrepareTLSCertificateOrderParams) (certificateID : ID) (now : Time) :
    TLSCertificateOrder where
  operationID := params.operationID
  accountID := params.accountID
  domainID := params.domainID
  certificateID := certificateID
  purpose := purposeOf params.replacesCertificateID
  replacesCertificateID := params.replacesCertificateID
  orderURL := none
  createdAt := now

/-- The TLS state of an active domain, as the transaction of an order reads it. -/
def PanelStore.activeDomainTLS (db : PanelStore) (accountID domainID : ID) : Option DomainTLSState :=
  db.tlsStates.find? fun tls =>
    tls.ofDomain accountID domainID &&
      db.domains.any fun row => row.ofAccount accountID domainID && decide (row.status = .active)

/-- The statements of a new order. -/
def insertOrderTx (db : PanelStore) (params : PrepareTLSCertificateOrderParams) (requestID : String)
    (draft : OrderDraft) (certificateID : ID) (now : Time) : Except TxError PanelStore := do
  let order := preparedOrder params certificateID now
  let db ← db.insertCertificate (orderedCertificate params draft certificateID now)
  let db ← db.insertOrder order
  let db ← db.updateTLSStates (ofDomain params.accountID params.domainID)
    (DomainTLSState.setOrdered order.purpose.status now)
  pure (db.appendAudit (certificateAudit params.accountID certificateID "tls.certificate_order_prepared"
    requestID params.operationID params.actorID .success
    [("purpose", .string order.purpose.text), ("names", .number draft.names.length)] now))

def prepareOrderTx (db : PanelStore) (params : PrepareTLSCertificateOrderParams)
    (environment : ACMEEnvironment) (requestID : String) (draft : OrderDraft) (certificateID : ID)
    (now : Time) : Except TxError PanelStore :=
  match db.tlsCertificateOrderForOperationTx params.operationID with
  | .ok existing =>
    if existing.order.accountID ≠ params.accountID ∨ existing.order.domainID ≠ params.domainID ∨
        existing.order.replacesCertificateID ≠ params.replacesCertificateID then
      throw (.core (.conflict "TLS order replay differs from retained state"))
    else pure db
  | .error .noRows =>
    match db.activeDomainTLS params.accountID params.domainID with
    | none => throw .noRows
    | some tls => do
        if tls.names ≠ draft.names ∨ tls.enabled = false ∨ tls.mode ≠ .acme ∨ tls.challengeType ≠ .http01 then
          throw (.core (.conflict "TLS intent changed while preparing the order"))
        if let some refusal := orderRefusal params.replacesCertificateID tls then
          throw (.core refusal)
        match db.acmeAccounts.find? fun account =>
            decide (account.id = draft.account.id ∧ account.environment = environment) with
        | none => throw .noRows
        | some account =>
          if account.status ≠ .valid then throw (.core (.conflict "ACME account is not valid"))
          insertOrderTx db params requestID draft certificateID now
  | .error error => throw error

/-- The retained order answers a repeated request. -/
def LoadedOrder.answers (existing : LoadedOrder) (params : PrepareTLSCertificateOrderParams)
    (environment : ACMEEnvironment) : Bool :=
  decide (existing.order.accountID = params.accountID ∧ existing.order.domainID = params.domainID ∧
    existing.acmeAccount.environment = environment ∧
    existing.order.replacesCertificateID = params.replacesCertificateID)

def prepareTLSCertificateOrder (db : PanelStore) (params : PrepareTLSCertificateOrderParams)
    (certificateID : ID) (now : Time) : PanelStore × Except CoreError LoadedOrder :=
  match checkPrepareOrder params with
  | .error error => (db, .error error)
  | .ok (environment, requestID) =>
    match db.tlsCertificateOrderForOperation params.operationID with
    | .ok existing =>
      if existing.answers params environment then (db, .ok existing)
      else (db, .error (.conflict "TLS order replay differs from retained state"))
    | .error (.notFound _) =>
      match db.draftOrder params.accountID params.domainID environment now with
      | .error error => (db, .error error)
      | .ok draft =>
        PanelStore.rereads
          (db.write do
            let db' ← prepareOrderTx db params environment requestID draft certificateID now
            pure (db', ()))
          fun _ db' => db'.tlsCertificateOrderForOperation params.operationID
    | .error error => (db, .error error)

/-! ### The URL of an order -/

def recordOrderURLTx (db : PanelStore) (operationID : ID) (url : String) : Except TxError PanelStore :=
  match db.findOrder operationID with
  | none => throw .noRows
  | some order =>
    match order.orderURL with
    | some existing =>
      if existing ≠ url then throw (.core (.conflict "ACME order URL differs from retained state"))
      else pure db
    | none =>
      pure { db with
        orders := updateWhere (fun row => decide (row.operationID = operationID ∧ row.orderURL = none))
          (fun row => { row with orderURL := some url }) db.orders }

def recordTLSCertificateOrderURL (services : NameServices) (db : PanelStore) (operationID : ID)
    (orderURL : String) : PanelStore × Except CoreError Unit :=
  db.checkedWrite
    (do
      validateID operationID "operationId"
      validateACMEURL services orderURL "orderUrl" false)
    fun url => do
      let db' ← recordOrderURLTx db operationID url
      pure (db', ())

/-! ### Staging -/

/-- The arguments of a staging after their checks. -/
structure CheckedStaging where
  (requestID certificateURL : String)

def issuedMetadataInvalid (params : StageTLSCertificateParams) : Bool :=
  decide (params.fullChainPEM.utf8ByteSize = 0 ∨ 64 * 2 ^ 10 < params.fullChainPEM.utf8ByteSize ∨
    2048 < params.certificateURL.utf8ByteSize ∨ params.fingerprintSHA256.utf8ByteSize ≠ 64 ∨
    params.issuer.utf8ByteSize = 0 ∨ 253 < params.issuer.utf8ByteSize ∨
    params.serialHex.utf8ByteSize = 0 ∨ 128 < params.serialHex.utf8ByteSize ∨
    params.expiresAt ≤ params.notBefore ∨ params.nextRenewalAt < params.notBefore ∨
    params.expiresAt ≤ params.nextRenewalAt)

def checkStage (services : NameServices) (params : StageTLSCertificateParams) : Except CoreError CheckedStaging := do
  validateID params.operationID "operationId"
  validateID params.certificateID "certificateId"
  validateOptionalID params.actorID "actorId"
  let requestID ← validateText params.requestID "requestId" 1 128
  if issuedMetadataInvalid params then
    throw (.invalidInput "issued certificate metadata is invalid")
  let certificateURL ←
    if params.certificateURL ≠ "" then validateACMEURL services params.certificateURL "certificateUrl" false
    else pure ""
  pure ⟨requestID, certificateURL⟩

def TLSCertificate.setStaged (params : StageTLSCertificateParams) (certificateURL : String) (now : Time)
    (row : TLSCertificate) : TLSCertificate :=
  { row with
    status := .staged, fullChainPEM := some params.fullChainPEM
    certificateURL := if certificateURL = "" then none else some certificateURL
    fingerprintSHA256 := some params.fingerprintSHA256, issuer := some params.issuer
    serialHex := some params.serialHex, notBefore := some params.notBefore, expiresAt := some params.expiresAt
    nextRenewalAt := some params.nextRenewalAt, issuedAt := some now }

/-- `id = ? AND status = ?`. -/
def TLSCertificate.hasStatus (certificateID : ID) (status : TLSCertificateStatus) (row : TLSCertificate) : Bool :=
  decide (row.id = certificateID ∧ row.status = status)

def stageTx (db : PanelStore) (params : StageTLSCertificateParams) (checked : CheckedStaging) (now : Time) :
    Except TxError PanelStore := do
  let loaded ← db.tlsCertificateOrderForOperationTx params.operationID
  if loaded.order.certificateID ≠ params.certificateID then
    throw (.core (.conflict "certificate does not belong to operation"))
  if loaded.certificate.status ≠ .ordering then
    if loaded.certificate.fullChainPEM.getD "" = params.fullChainPEM ∧
        loaded.certificate.fingerprintSHA256.getD "" = params.fingerprintSHA256 then
      return db
    throw (.core (.conflict "certificate staging conflicts with retained state"))
  let (db, _) ← db.updateCertificates (TLSCertificate.hasStatus params.certificateID .ordering)
    (TLSCertificate.setStaged params checked.certificateURL now)
  pure (db.appendAudit (certificateAudit loaded.order.accountID params.certificateID "tls.certificate_staged"
    checked.requestID params.operationID params.actorID .success
    [("expiresAt", .string (formatTime params.expiresAt)), ("names", .number loaded.certificate.names.length)]
    now))

def stageTLSCertificate (services : NameServices) (db : PanelStore) (params : StageTLSCertificateParams)
    (now : Time) : PanelStore × Except CoreError TLSCertificate :=
  PanelStore.rereads
    (db.checkedWrite (checkStage services params) fun checked => do
      let db' ← stageTx db params checked now
      pure (db', ()))
    fun _ db' => db'.getTLSCertificate params.certificateID

/-! ### Activation -/

def checkActivate (params : ActivateTLSCertificateParams) : Except CoreError String := do
  validateID params.accountID "accountId"
  validateID params.domainID "domainId"
  validateID params.certificateID "certificateId"
  validateID params.desiredStateRevisionID "desiredStateRevisionId"
  validateID params.operationID "operationId"
  validateOptionalID params.actorID "actorId"
  validateText params.requestID "requestId" 1 128

def TLSCertificate.setActive (now : Time) (row : TLSCertificate) : TLSCertificate :=
  { row with status := .active, activatedAt := some now }

def DomainTLSState.setActivated (certificate : TLSCertificate) (now : Time) (row : DomainTLSState) :
    DomainTLSState :=
  { row with
    issuanceStatus := .active, activeCertificateRef := some certificate.id
    issuer := some (certificate.issuer.getD ""), notBefore := certificate.notBefore
    expiresAt := certificate.expiresAt, nextRenewalAt := certificate.nextRenewalAt, lastErrorCode := none
    lastErrorAt := none, updatedAt := now }

/-- The certificate a domain has so far gives way to the new one. -/
def retirePredecessorTx (db : PanelStore) (params : ActivateTLSCertificateParams) (activeRef : Option ID)
    (now : Time) : Except TxError PanelStore :=
  match activeRef with
  | none => pure db
  | some predecessor =>
    if predecessor = params.certificateID then pure db
    else do
      let (db, affected) ← db.updateCertificates
        (fun row => row.activeOf params.accountID params.domainID && decide (row.id = predecessor))
        (setRetired now)
      if affected ≠ 1 then throw (.core (.conflict "active predecessor is unavailable"))
      pure db

/-- The statements of an activation. -/
def replaceCertificateTx (db : PanelStore) (params : ActivateTLSCertificateParams) (certificate : TLSCertificate)
    (activeRef : Option ID) (now : Time) : Except TxError PanelStore := do
  let db ← retirePredecessorTx db params activeRef now
  let (db, affected) ← db.updateCertificates (TLSCertificate.hasStatus params.certificateID .staged)
    (TLSCertificate.setActive now)
  expectAffected affected
  db.updateTLSStates (ofDomain params.accountID params.domainID)
    (DomainTLSState.setActivated certificate now)

def activateTx (db : PanelStore) (params : ActivateTLSCertificateParams) (requestID : String) (now : Time) :
    Except TxError PanelStore := do
  let loaded ← db.tlsCertificateOrderForOperationTx params.operationID
  if loaded.order.accountID ≠ params.accountID ∨ loaded.order.domainID ≠ params.domainID ∨
      loaded.order.certificateID ≠ params.certificateID then
    throw (.core (.conflict "certificate activation operation differs"))
  let certificate ← db.tlsCertificateByIDTx params.certificateID
  if certificate.accountID ≠ params.accountID ∨ certificate.domainID ≠ params.domainID then
    throw (.core (.conflict "certificate scope differs"))
  if certificate.status = .active then return db
  if certificate.status ≠ .staged ∨ ¬certificate.expiresAt.any fun expires => decide (now < expires) then
    throw (.core (.conflict "staged certificate is not activatable"))
  if !db.appliedMatches params.accountID params.desiredStateRevisionID params.operationID then
    throw (.core (.conflict "TLS NGINX revision is not active"))
  match db.tlsStates.find? (ofDomain params.accountID params.domainID) with
  | none => throw .noRows
  | some tls =>
    if tls.names ≠ certificate.names then
      throw (.core (.conflict "certificate names no longer match domain intent"))
    let db ← replaceCertificateTx db params certificate tls.activeCertificateRef now
    pure (db.appendAudit (certificateAudit params.accountID params.certificateID "tls.certificate_activated"
      requestID params.operationID params.actorID .success
      [("expiresAt", .string ((certificate.expiresAt.map formatTime).getD ""))] now))

def activateTLSCertificate (db : PanelStore) (params : ActivateTLSCertificateParams) (now : Time) :
    PanelStore × Except CoreError TLSCertificate :=
  PanelStore.rereads
    (db.checkedWrite (checkActivate params) fun requestID => do
      let db' ← activateTx db params requestID now
      pure (db', ()))
    fun _ db' => db'.getTLSCertificate params.certificateID

/-! ### Failure -/

/-- The arguments of a failure after their checks. -/
structure CheckedFailure where
  (errorCode requestID : String)

def checkFailOrder (params : FailTLSCertificateOrderParams) : Except CoreError CheckedFailure := do
  validateID params.operationID "operationId"
  let errorCode ← validateAction params.errorCode "errorCode" 80
  validateOptionalID params.actorID "actorId"
  let requestID ← validateText params.requestID "requestId" 1 128
  if params.retryAt.isSome ∧ !params.final then
    throw (.invalidInput "retryAt requires a final operation attempt")
  pure ⟨errorCode, requestID⟩

def DomainTLSState.setFailed (errorCode : String) (retryAt : Option Time) (now : Time) (row : DomainTLSState) :
    DomainTLSState :=
  { row with
    issuanceStatus := .failed, lastErrorCode := some errorCode, lastErrorAt := some now
    nextRenewalAt := retryAt.or row.nextRenewalAt, updatedAt := now }

def failOrderTx (db : PanelStore) (params : FailTLSCertificateOrderParams) (checked : CheckedFailure)
    (now : Time) : Except TxError PanelStore := do
  let loaded ← db.tlsCertificateOrderForOperationTx params.operationID
  let order := loaded.order
  let retryAt := if order.replacesCertificateID.isSome then params.retryAt else none
  let db ← db.updateTLSStates (ofDomain order.accountID order.domainID)
    (DomainTLSState.setFailed checked.errorCode retryAt now)
  if !params.final then return db
  pure (db.appendAudit (certificateAudit order.accountID order.certificateID "tls.certificate_order_failed"
    checked.requestID params.operationID params.actorID .failure
    [("errorCode", .string checked.errorCode),
      ("validPredecessorRetained", .bool order.replacesCertificateID.isSome)] now))

def failTLSCertificateOrder (db : PanelStore) (params : FailTLSCertificateOrderParams) (now : Time) :
    PanelStore × Except CoreError Unit :=
  db.checkedWrite (checkFailOrder params) fun checked => do
    let db' ← failOrderTx db params checked now
    pure (db', ())

/-! ### The domains of an activation -/

/-- The live domains of an account, by name. -/
def PanelStore.listDomains (db : PanelStore) (accountID : ID) (now : Time) : Except CoreError (List Domain) := do
  validateID accountID "accountId"
  let rows := db.domains.filter fun row => decide (row.accountID = accountID ∧ row.removedAt = none)
  let sorted := rows.insertionSort fun left right =>
    left.asciiName < right.asciiName ∨
      left.asciiName = right.asciiName ∧ formatTime left.createdAt ≤ formatTime right.createdAt
  sorted.mapM fun row => db.getDomain accountID row.id now

/-- The loop of `activationRevision` over the domains of the account: the domain of the certificate is
served with it, provided it is active and asks for exactly its names. -/
def attachCertificate (certificate : TLSCertificate) : List Domain → Except CoreError (List Domain)
  | [] => pure []
  | domain :: rest => do
      let domain ←
        if domain.row.id ≠ certificate.domainID then pure domain
        else if domain.row.status ≠ .active ∨ domain.tls.names ≠ certificate.names then throw (.conflict "")
        else pure { domain with
          tls := { domain.tls with activeCertificateRef := some certificate.id, issuanceStatus := .active } }
      let rest ← attachCertificate certificate rest
      pure (domain :: rest)

/-- The domains that go into the revision which activates the certificate. -/
def activationDomains (db : PanelStore) (accountID : ID) (certificate : TLSCertificate) (now : Time) :
    Except CoreError (List Domain) := do
  let domains ← db.listDomains accountID now
  let attached ← attachCertificate certificate domains
  if domains.all fun domain => decide (domain.row.id ≠ certificate.domainID) then throw (.notFound "")
  pure attached

export TLSCertificate (setStaged hasStatus setActive)

export DomainTLSState (setOrdered setActivated)

end Stackfort
