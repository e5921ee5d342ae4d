import Stackfort.NginxSpecs
import Stackfort.OperationTransitions

/-! The tables of domains and of their certificates, next to those of the operations. A domain has one
current target, one TLS state and two policies; a certificate belongs to a domain and to the order
of one operation. Names are stored as the JSON text of a list, which determines the list, so a
column of names holds the list itself. What other services own (hosting accounts with their
package limits, OCI applications, ACME accounts, desired-state revisions) is here as the columns
the domain and certificate code reads. Key material and hashes are left out. -/

namespace Stackfort

/-! ### Rows -/

/-- The limits of the package assigned to an account that bear on domains. -/
structure PackageLimits where
  maxDomains : Nat
  allowedPHPVersions : List String
  (customRedirects ociApplications wafExceptions : Bool)

/-- A row of `hosting_accounts` with its current package assignment. -/
structure HostingAccount where
  id : ID
  status : AccountStatus
  limits : PackageLimits

/-- A row of `oci_applications` with its allocation; it can be routed to while it is active, applied and not
removed. -/
structure OCIApplication where
  (id accountID : ID)
  routable : Bool
  loopbackPort : Option Int

structure ACMEAccount where
  id : ID
  environment : ACMEEnvironment
  status : ACMEAccountStatus

/-- A row of `desired_state_revisions`. The documents of operations other than those of a domain are not
told apart. -/
structure DesiredStateRevision where
  (id accountID : ID)
  sequence : Nat
  document : Option Nginx.DomainDocument
  createdAt : Time

/-- A row of `operation_desired_state_revisions`. -/
structure OperationRevisionLink where
  (operationID accountID desiredStateRevisionID : ID)
  linkedAt : Time

/-- A row of `domains`. -/
structure DomainRow where
  (id accountID : ID)
  (displayName asciiName : String)
  status : DomainStatus
  canonicalMode : CanonicalMode
  (createdAt updatedAt : Time)
  removedAt : Option Time
  createdBy : Option ID
  deriving DecidableEq

structure DocumentRoot where
  (id accountID : ID)
  relativePath : String
  createdAt : Time
  createdBy : Option ID

structure DomainRedirect where
  (id accountID domainID : ID)
  statusCode : Nat
  (targetURL targetASCIIHost : String)
  hostMode : RedirectHostMode
  (preservePath preserveQuery wildcardSubdomains : Bool)
  createdAt : Time
  createdBy : Option ID

/-- A row of `domain_targets`. -/
structure DomainTarget where
  (id accountID domainID : ID)
  type : DomainTargetType
  documentRootID : Option ID
  phpVersion : Option String
  (applicationID redirectID : Option ID)
  createdAt : Time
  createdBy : Option ID
  supersededAt : Option Time

/-- A row of `domain_tls_states`. -/
structure DomainTLSState where
  (accountID domainID : ID)
  enabled : Bool
  mode : TLSMode
  challengeType : TLSChallengeType
  issuanceStatus : TLSIssuanceStatus
  names : List String
  activeCertificateRef : Option ID
  issuer : Option String
  (notBefore expiresAt nextRenewalAt : Option Time)
  lastErrorCode : Option String
  lastErrorAt : Option Time
  updatedAt : Time

structure DomainWAFPolicy where
  (accountID domainID : ID)
  mode : WAFMode
  updatedAt : Time

/-- A row of `domain_waf_exceptions`. -/
structure DomainWAFException where
  (id accountID domainID : ID)
  ruleID : Nat
  (requestPath parameter : String)
  (expiresAt createdAt : Time)
  createdBy : Option ID
  creationOperationID : ID
  removedAt : Option Time
  (removedBy removalOperationID : Option ID)

structure DomainCachePolicy where
  (accountID domainID : ID)
  preset : CachePreset
  generation : ID
  updatedAt : Time

structure DomainLifecycleMutation where
  (operationID accountID domainID : ID)
  action : DomainLifecycleAction
  appliedAt : Time

structure AppliedStateRevision where
  (id accountID desiredStateRevisionID : ID)
  operationID : Option ID
  configDigest : List UInt8
  status : AppliedStateStatus
  appliedAt : Time
  supersededAt : Option Time

/-- A row of `tls_certificates`, without its key. -/
structure TLSCertificate where
  (id accountID domainID acmeAccountID : ID)
  status : TLSCertificateStatus
  names : List String
  (fullChainPEM certificateURL fingerprintSHA256 issuer serialHex : Option String)
  (notBefore expiresAt nextRenewalAt : Option Time)
  createdAt : Time
  (issuedAt activatedAt retiredAt : Option Time)

/-- A row of `tls_certificate_orders`. -/
structure TLSCertificateOrder where
  (operationID accountID domainID certificateID : ID)
  purpose : TLSCertificatePurpose
  replacesCertificateID : Option ID
  orderURL : Option String
  createdAt : Time

/-- The database of the panel, as far as domains and certificates reach. -/
structure PanelStore where
  operations : OperationStore
  accounts : List HostingAccount
  applications : List OCIApplication
  acmeAccounts : List ACMEAccount
  desiredRevisions : List DesiredStateRevision
  revisionLinks : List OperationRevisionLink
  domains : List DomainRow
  documentRoots : List DocumentRoot
  redirects : List DomainRedirect
  targets : List DomainTarget
  tlsStates : List DomainTLSState
  wafPolicies : List DomainWAFPolicy
  wafExceptions : List DomainWAFException
  cachePolicies : List DomainCachePolicy
  mutations : List DomainLifecycleMutation
  appliedRevisions : List AppliedStateRevision
  certificates : List TLSCertificate
  orders : List TLSCertificateOrder

/-! ### Checks and keys -/

/-- The CHECK on the identifiers of domains, which asks for the variant bits of a UUID as well. -/
def domainIDAllowed (id : ID) : Bool :=
  isCanonicalUUIDv7 id && id.toList[19]?.any fun c => "89ab".toList.contains c

/-- The CHECK on `ascii_name`. -/
def asciiNameAllowed (name : String) : Bool :=
  let characters := name.toList
  let alphanumeric := fun c : Char => ('a' ≤ c && c ≤ 'z') || ('0' ≤ c && c ≤ '9')
  decide (3 ≤ characters.length ∧ characters.length ≤ 253) &&
    characters.all (fun c => alphanumeric c || c == '.' || c == '-') &&
    characters.head?.any alphanumeric && characters.getLast?.any alphanumeric

/-- The two CHECKs of `domain_tls_states` that relate its columns. -/
def DomainTLSState.allowed (row : DomainTLSState) : Bool :=
  decide ((row.enabled = false → row.issuanceStatus = .disabled) ∧
    (row.mode = .imported ↔ row.challengeType = .imported))

/-- The CHECK of `tls_certificates` that relates status and columns. -/
def TLSCertificate.allowed (row : TLSCertificate) : Bool :=
  match row.status with
  | .ordering =>
    decide (row.fullChainPEM = none ∧ row.issuedAt = none ∧ row.activatedAt = none ∧ row.retiredAt = none)
  | .staged =>
    decide (row.fullChainPEM ≠ none ∧ row.issuedAt ≠ none ∧ row.activatedAt = none ∧ row.retiredAt = none)
  | .active =>
    decide (row.fullChainPEM ≠ none ∧ row.issuedAt ≠ none ∧ row.activatedAt ≠ none ∧ row.retiredAt = none)
  | .retired =>
    decide (row.fullChainPEM ≠ none ∧ row.issuedAt ≠ none ∧ row.activatedAt ≠ none ∧ row.retiredAt ≠ none)

/-- The two rows are active certificates of one domain, which `tls_certificates_active_domain_idx` rules
out. -/
def TLSCertificate.clash (left right : TLSCertificate) : Bool :=
  decide (left.id ≠ right.id ∧ left.status = .active ∧ right.status = .active ∧
    left.accountID = right.accountID ∧ left.domainID = right.domainID)

namespace PanelStore

def empty : PanelStore :=
  ⟨OperationStore.empty, [], [], [], [], [], [], [], [], [], [], [], [], [], [], [], [], []⟩

variable (db : PanelStore)

def appendAudit (event : AuditEvent) : PanelStore := { db with operations := db.operations.appendAudit event }

/-! ### Queries -/

def findAccount (accountID : ID) : Option HostingAccount := Rows.lookup HostingAccount.id accountID db.accounts

def findDomain (domainID : ID) : Option DomainRow := Rows.lookup DomainRow.id domainID db.domains

def findTLSState (domainID : ID) : Option DomainTLSState :=
  Rows.lookup DomainTLSState.domainID domainID db.tlsStates

def findCertificate (certificateID : ID) : Option TLSCertificate :=
  Rows.lookup TLSCertificate.id certificateID db.certificates

def findOrder (operationID : ID) : Option TLSCertificateOrder :=
  Rows.lookup TLSCertificateOrder.operationID operationID db.orders

def findACMEAccount (accountID : ID) : Option ACMEAccount :=
  Rows.lookup ACMEAccount.id accountID db.acmeAccounts

/-- The target of a domain that no later one has superseded. -/
def currentTarget (accountID domainID : ID) : Option DomainTarget :=
  db.targets.find? fun row =>
    decide (row.accountID = accountID ∧ row.domainID = domainID ∧ row.supersededAt = none)

/-- The exceptions of a domain that are in force at a clock reading, by expiry. -/
def activeWAFExceptions (accountID domainID : ID) (now : Time) : List DomainWAFException :=
  (db.wafExceptions.filter fun row =>
    decide (row.accountID = accountID ∧ row.domainID = domainID ∧ row.removedAt = none ∧
      formatTime now < formatTime row.expiresAt)).insertionSort fun left right =>
    formatTime left.expiresAt < formatTime right.expiresAt ∨
      formatTime left.expiresAt = formatTime right.expiresAt ∧ left.id ≤ right.id

/-- An operation of the account. -/
def hasOperation (accountID operationID : ID) : Bool :=
  db.operations.operations.any fun row => decide (row.accountID = some accountID ∧ row.id = operationID)

/-! ### Statements -/

def insertDomain (row : DomainRow) : Except TxError PanelStore :=
  if db.domains.any fun other => decide (other.id = row.id) then
    throw (.constraint "UNIQUE constraint failed: domains.id")
  else if db.domains.any fun other => decide (other.asciiName = row.asciiName ∧ other.removedAt = none) then
    throw (.constraint "UNIQUE constraint failed: domains.ascii_name")
  else if !(domainIDAllowed row.id && asciiNameAllowed row.asciiName &&
      decide (3 ≤ row.displayName.length ∧ row.displayName.length ≤ 253)) then
    throw (.constraint "CHECK constraint failed")
  else pure { db with domains := db.domains ++ [row] }

/-- `UPDATE domains SET f WHERE p`. The trigger `domains_restrict_update` keeps removed rows as they are;
no statement writes the other columns it protects. -/
def updateDomains (p : DomainRow → Bool) (f : DomainRow → DomainRow) : Except TxError (PanelStore × Nat) :=
  if db.domains.any fun row => p row && row.removedAt.isSome then
    throw (.constraint "domain identity and removal history are immutable")
  else pure ({ db with domains := updateWhere p f db.domains }, db.domains.countP p)

/-- `INSERT … ON CONFLICT(account_id, relative_path) DO NOTHING`. -/
def insertDocumentRoot (row : DocumentRoot) : Except TxError PanelStore :=
  if db.documentRoots.any fun other =>
      decide (other.accountID = row.accountID ∧ other.relativePath = row.relativePath) then
    pure db
  else if db.documentRoots.any fun other => decide (other.id = row.id) then
    throw (.constraint "UNIQUE constraint failed: document_roots.id")
  else pure { db with documentRoots := db.documentRoots ++ [row] }

def insertRedirect (row : DomainRedirect) : Except TxError PanelStore :=
  if db.redirects.any fun other => decide (other.id = row.id) then
    throw (.constraint "UNIQUE constraint failed: domain_redirects.id")
  else if !decide (9 ≤ row.targetURL.length ∧ row.targetURL.length ≤ 2048 ∧
      1 ≤ row.targetASCIIHost.length ∧ row.targetASCIIHost.length ≤ 253) then
    throw (.constraint "CHECK constraint failed")
  else pure { db with redirects := db.redirects ++ [row] }

def insertTarget (row : DomainTarget) : Except TxError PanelStore :=
  if db.targets.any fun other => decide (other.id = row.id) then
    throw (.constraint "UNIQUE constraint failed: domain_targets.id")
  else if (db.currentTarget row.accountID row.domainID).isSome then
    throw (.constraint "UNIQUE constraint failed: domain_targets_current_idx")
  else if row.phpVersion.any fun version => decide (¬(3 ≤ version.length ∧ version.length ≤ 16)) then
    throw (.constraint "CHECK constraint failed")
  else pure { db with targets := db.targets ++ [row] }

/-- `UPDATE domain_targets SET superseded_at = ?` on the current target. -/
def supersedeTarget (accountID domainID : ID) (now : Time) : PanelStore × Nat :=
  let current := fun row : DomainTarget =>
    decide (row.accountID = accountID ∧ row.domainID = domainID ∧ row.supersededAt = none)
  ({ db with targets := updateWhere current (fun row => { row with supersededAt := some now }) db.targets },
    db.targets.countP current)

def insertWAFPolicy (row : DomainWAFPolicy) : Except TxError PanelStore :=
  if db.wafPolicies.any fun other => decide (other.domainID = row.domainID) then
    throw (.constraint "UNIQUE constraint failed: domain_waf_policies.domain_id")
  else pure { db with wafPolicies := db.wafPolicies ++ [row] }

def updateWAFPolicies (p : DomainWAFPolicy → Bool) (f : DomainWAFPolicy → DomainWAFPolicy) : PanelStore × Nat :=
  ({ db with wafPolicies := updateWhere p f db.wafPolicies }, db.wafPolicies.countP p)

def insertWAFException (row : DomainWAFException) : Except TxError PanelStore :=
  if db.wafExceptions.any fun other => decide (other.id = row.id) then
    throw (.constraint "UNIQUE constraint failed: domain_waf_exceptions.id")
  else if db.wafExceptions.any fun other =>
      decide (other.accountID = row.accountID ∧ other.creationOperationID = row.creationOperationID) then
    throw (.constraint "UNIQUE constraint failed: domain_waf_exceptions.creation_operation_id")
  else if !domainIDAllowed row.id then throw (.constraint "CHECK constraint failed")
  else if !db.hasOperation row.accountID row.creationOperationID then
    throw (.constraint "FOREIGN KEY constraint failed")
  else pure { db with wafExceptions := db.wafExceptions ++ [row] }

/-- `UPDATE domain_waf_exceptions SET removed_at = ?, …` on one exception that is not removed yet. -/
def removeWAFException (accountID domainID exceptionID operationID : ID) (actorID : Option ID) (now : Time) :
    Except TxError PanelStore :=
  if db.wafExceptions.any fun other =>
      decide (other.accountID = accountID ∧ other.removalOperationID = some operationID) then
    throw (.constraint "UNIQUE constraint failed: domain_waf_exceptions.removal_operation_id")
  else if !db.hasOperation accountID operationID then throw (.constraint "FOREIGN KEY constraint failed")
  else
    let present := fun row : DomainWAFException =>
      decide (row.accountID = accountID ∧ row.domainID = domainID ∧ row.id = exceptionID ∧ row.removedAt = none)
    pure { db with
      wafExceptions := updateWhere present
        (fun row => { row with
          removedAt := some now, removedBy := actorID, removalOperationID := some operationID }) db.wafExceptions }

def insertCachePolicy (row : DomainCachePolicy) : Except TxError PanelStore :=
  if db.cachePolicies.any fun other => decide (other.domainID = row.domainID) then
    throw (.constraint "UNIQUE constraint failed: domain_cache_policies.domain_id")
  else pure { db with cachePolicies := db.cachePolicies ++ [row] }

def updateCachePolicies (p : DomainCachePolicy → Bool) (f : DomainCachePolicy → DomainCachePolicy) :
    PanelStore × Nat :=
  ({ db with cachePolicies := updateWhere p f db.cachePolicies }, db.cachePolicies.countP p)

def insertMutation (row : DomainLifecycleMutation) : Except TxError PanelStore :=
  if db.mutations.any fun other => decide (other.operationID = row.operationID) then
    throw (.constraint "UNIQUE constraint failed: domain_lifecycle_mutations.operation_id")
  else pure { db with mutations := db.mutations ++ [row] }

def insertTLSState (row : DomainTLSState) : Except TxError PanelStore :=
  if db.tlsStates.any fun other => decide (other.domainID = row.domainID) then
    throw (.constraint "UNIQUE constraint failed: domain_tls_states.domain_id")
  else if !row.allowed then throw (.constraint "CHECK constraint failed")
  else pure { db with tlsStates := db.tlsStates ++ [row] }

/-- `UPDATE domain_tls_states SET f WHERE p`. -/
def updateTLSStates (p : DomainTLSState → Bool) (f : DomainTLSState → DomainTLSState) :
    Except TxError PanelStore :=
  if db.tlsStates.any fun row => p row && !(f row).allowed then throw (.constraint "CHECK constraint failed")
  else pure { db with tlsStates := updateWhere p f db.tlsStates }

/-- The account, domain, ACME account and key of the row exist or are new, as the keys of the table ask. -/
def insertCertificate (row : TLSCertificate) : Except TxError PanelStore :=
  if db.certificates.any fun other => decide (other.id = row.id) then
    throw (.constraint "UNIQUE constraint failed: tls_certificates.id")
  else if !row.allowed || db.certificates.any row.clash then
    throw (.constraint "CHECK or UNIQUE constraint failed: tls_certificates")
  else if (!db.domains.any fun other => decide (other.id = row.domainID ∧ other.accountID = row.accountID)) ||
      !db.acmeAccounts.any fun other => decide (other.id = row.acmeAccountID) then
    throw (.constraint "FOREIGN KEY constraint failed")
  else pure { db with certificates := db.certificates ++ [row] }

/-- `UPDATE tls_certificates SET f WHERE p`. No statement writes a column that the trigger on the table
protects. -/
def updateCertificates (p : TLSCertificate → Bool) (f : TLSCertificate → TLSCertificate) :
    Except TxError (PanelStore × Nat) :=
  let updated := updateWhere p f db.certificates
  if db.certificates.any fun row => p row && !(f row).allowed then throw (.constraint "CHECK constraint failed")
  else if updated.any fun row => updated.any row.clash then
    throw (.constraint "UNIQUE constraint failed: tls_certificates_active_domain_idx")
  else pure ({ db with certificates := updated }, db.certificates.countP p)

def insertOrder (row : TLSCertificateOrder) : Except TxError PanelStore :=
  let certificate := fun certificateID => db.certificates.any fun other =>
    decide (other.id = certificateID ∧ other.domainID = row.domainID ∧ other.accountID = row.accountID)
  if db.orders.any fun other => decide (other.operationID = row.operationID) then
    throw (.constraint "UNIQUE constraint failed: tls_certificate_orders.operation_id")
  else if db.orders.any fun other => decide (other.certificateID = row.certificateID) then
    throw (.constraint "UNIQUE constraint failed: tls_certificate_orders.certificate_id")
  else if !db.hasOperation row.accountID row.operationID || !certificate row.certificateID ||
      !row.replacesCertificateID.all certificate then
    throw (.constraint "FOREIGN KEY constraint failed")
  else pure { db with orders := db.orders ++ [row] }

end PanelStore

end Stackfort
