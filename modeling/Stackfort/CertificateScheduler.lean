import Stackfort.CertificateTransitions
import Stackfort.DomainExceptions

/-! The certificate service. It queues operations of one kind, on request of a user or on a tick of the
scheduler; a worker later carries them out with the transitions of the certificates. The scheduler
derives the idempotency key of an operation from the domain, or from the certificate to renew and
its renewal time. The second half of the module puts all calls on the panel's store together, so
that a run is any sequence of them. -/

namespace Stackfort

def tlsCertificateLifecycleKind : String := "tls.certificate.lifecycle"

/-- A worker holds the operation or will claim it. -/
def OperationStatus.isLive (status : OperationStatus) : Bool :=
  status == .pending || status == .running || status == .cancelling

/-- Seconds since 1970. -/
def Time.unix (value : Time) : Int := (value / second : Nat) - 62135596800

/-! ### Work lists -/

structure PendingTLSCertificateIssuance where
  (accountID domainID : ID)
  environment : ACMEEnvironment
  deriving DecidableEq

structure DueTLSCertificateRenewal where
  (accountID domainID certificateID : ID)
  environment : ACMEEnvironment
  nextRenewalAt : Time
  deriving DecidableEq

/-- The columns the scheduler asks of a TLS state it may act on. -/
def DomainTLSState.automatable (tls : DomainTLSState) : Bool :=
  decide (tls.enabled = true ∧ tls.mode = .acme ∧ tls.challengeType = .http01)

namespace PanelStore

variable (db : PanelStore)

/-- The operation of an order is live. -/
def orderLive (order : TLSCertificateOrder) : Bool :=
  db.operations.operations.any fun row => decide (row.id = order.operationID) && row.status.isLive

def hasActiveDomain (accountID domainID : ID) : Bool :=
  db.domains.any fun row => row.ofAccount accountID domainID && decide (row.status = .active)

def issuancePending (tls : DomainTLSState) : Bool :=
  db.hasActiveDomain tls.accountID tls.domainID &&
    (db.acmeAccounts.any fun account =>
      decide (account.environment = .letsEncryptProduction ∧ account.status = .valid)) &&
    tls.automatable && decide (tls.issuanceStatus = .pending ∧ tls.activeCertificateRef = none) &&
    !db.orders.any fun order =>
      decide (order.accountID = tls.accountID ∧ order.domainID = tls.domainID) && db.orderLive order

def listPendingTLSCertificateIssuances (limit : Int) : Except CoreError (List PendingTLSCertificateIssuance) :=
  if limit < 1 ∨ 1000 < limit then throw (.invalidInput "issuance limit is invalid")
  else
    let rows := (db.tlsStates.filter db.issuancePending).insertionSort fun left right =>
      formatTime left.updatedAt ≤ formatTime right.updatedAt
    pure ((rows.take limit.toNat).map fun tls => ⟨tls.accountID, tls.domainID, .letsEncryptProduction⟩)

/-- The row of the query for a certificate that is due for renewal. -/
def dueRenewal (now : Time) (certificate : TLSCertificate) : Option DueTLSCertificateRenewal := do
  let renewalAt ← certificate.nextRenewalAt
  let account ← db.acmeAccounts.find? fun account =>
    decide (account.id = certificate.acmeAccountID ∧ account.status = .valid)
  if certificate.status = .active ∧ formatTime renewalAt ≤ formatTime now ∧
      db.hasActiveDomain certificate.accountID certificate.domainID ∧
      (db.tlsStates.any fun tls =>
        tls.ofDomain certificate.accountID certificate.domainID && tls.automatable &&
          decide (tls.activeCertificateRef = some certificate.id)) ∧
      ¬(db.orders.any fun order =>
        decide (order.replacesCertificateID = some certificate.id) && db.orderLive order) then
    some ⟨certificate.accountID, certificate.domainID, certificate.id, account.environment, renewalAt⟩
  else none

def listDueTLSCertificateRenewals (now : Time) (limit : Int) : Except CoreError (List DueTLSCertificateRenewal) :=
  if limit < 1 ∨ 1000 < limit then throw (.invalidInput "renewal limit is invalid")
  else
    let rows := (db.certificates.filterMap (db.dueRenewal now)).insertionSort fun left right =>
      formatTime left.nextRenewalAt ≤ formatTime right.nextRenewalAt
    pure (rows.take limit.toNat)

end PanelStore

/-! ### Requests -/

/-- `NewTLSCertificateLifecyclePayload`. An empty `replacesCertificateId` is omitted. -/
def lifecyclePayload (domainID : ID) (environment : ACMEEnvironment) (replacesCertificateID : Option ID) :
    Except CoreError JsonObject :=
  if isCanonicalUUIDv7 domainID ∧ replacesCertificateID.all isCanonicalUUIDv7 then
    pure ([("domainId", .string domainID), ("environment", .string environment.text)] ++
      replacesCertificateID.toList.map fun certificateID => ("replacesCertificateId", .string certificateID))
  else throw (.invalidInput "")

/-- A request for an operation of the lifecycle; every one may be attempted four times. -/
def lifecycleRequest (accountID : ID) (actorID : Option ID) (requestID key : String) (payload : JsonObject) :
    CreateOperationParams where
  accountID := some accountID
  actorID := actorID
  kind := tlsCertificateLifecycleKind
  retryClass := .safe
  requestID := requestID
  idempotencyKey := key
  payload := payload
  maxAttempts := 4

def PendingTLSCertificateIssuance.key (item : PendingTLSCertificateIssuance) : String :=
  "tls-auto-issue-" ++ item.domainID

def PendingTLSCertificateIssuance.request (item : PendingTLSCertificateIssuance) :
    Except CoreError CreateOperationParams := do
  let payload ← lifecyclePayload item.domainID item.environment none
  pure (lifecycleRequest item.accountID none item.key item.key payload)

def DueTLSCertificateRenewal.key (item : DueTLSCertificateRenewal) : String :=
  "tls-renew-" ++ item.certificateID ++ "-" ++ toString item.nextRenewalAt.unix

def DueTLSCertificateRenewal.request (item : DueTLSCertificateRenewal) :
    Except CoreError CreateOperationParams := do
  let payload ← lifecyclePayload item.domainID item.environment (some item.certificateID)
  pure (lifecycleRequest item.accountID none item.key item.key payload)

/-- What a tick of the scheduler draws: its clock reading, and for each operation it asks for an identifier
and the clock reading of the repository. -/
structure SchedulerDraws where
  now : Time
  newID : Nat → ID
  createdAt : Nat → Time

/-- The loops over the work lists. The first error ends the tick; what was queued stays queued. -/
def queueOperations (draws : SchedulerDraws) :
    (queued : Nat) → List (Except CoreError CreateOperationParams) → OperationStore →
      OperationStore × Except CoreError Nat
  | queued, [], db => (db, .ok queued)
  | _, .error error :: _, db => (db, .error error)
  | queued, .ok params :: rest, db =>
    match createOperation db params (draws.newID queued) (draws.createdAt queued) with
    | (db', .error error) => (db', .error error)
    | (db', .ok _) => queueOperations draws (queued + 1) rest db'

def queueAutomaticWork (db : PanelStore) (limit : Int) (draws : SchedulerDraws) :
    PanelStore × Except CoreError Nat :=
  if limit < 1 ∨ 1000 < limit then (db, .error (.invalidInput ""))
  else
    match db.listPendingTLSCertificateIssuances limit with
    | .error error => (db, .error error)
    | .ok pending =>
      match queueOperations draws 0 (pending.map PendingTLSCertificateIssuance.request) db.operations with
      | (operations, .error error) => ({ db with operations := operations }, .error error)
      | (operations, .ok queued) =>
        let db := { db with operations := operations }
        match db.listDueTLSCertificateRenewals draws.now limit with
        | .error error => (db, .error error)
        | .ok renewals =>
          let (operations, reply) :=
            queueOperations draws queued (renewals.map DueTLSCertificateRenewal.request) db.operations
          ({ db with operations := operations }, reply)

structure IssueCommand where
  (accountID domainID actorID : ID)
  (requestID idempotencyKey : String)

def checkIssueCommand (command : IssueCommand) : Except CoreError Unit :=
  if isCanonicalUUIDv7 command.accountID ∧ isCanonicalUUIDv7 command.domainID ∧
      trimSpace command.requestID = command.requestID ∧ command.requestID ≠ "" ∧
      command.requestID.utf8ByteSize ≤ 128 ∧ trimSpace command.idempotencyKey = command.idempotencyKey ∧
      command.idempotencyKey ≠ "" ∧ command.idempotencyKey.utf8ByteSize ≤ 128 then
    pure ()
  else throw (.invalidInput "")

/-- A user asks for a certificate. The decision of the authorization is an argument. -/
def queueIssue (db : PanelStore) (command : IssueCommand) (authorization : Except CoreError Unit) (newID : ID)
    (now : Time) : PanelStore × Except CoreError Operation :=
  match (do checkIssueCommand command; authorization;
            lifecyclePayload command.domainID .letsEncryptProduction none : Except CoreError JsonObject) with
  | .error error => (db, .error error)
  | .ok payload =>
    let (operations, reply) := createOperation db.operations
      (lifecycleRequest command.accountID (some command.actorID) command.requestID command.idempotencyKey
        payload) newID now
    ({ db with operations := operations }, reply)

/-! ### Other services -/

namespace PanelStore

variable (db : PanelStore)

/-- A hosting account is created, or its status or its package changes. -/
def putAccount (row : HostingAccount) : PanelStore :=
  { db with accounts := (db.accounts.filter fun other => decide (other.id ≠ row.id)) ++ [row] }

def putApplication (row : OCIApplication) : PanelStore :=
  { db with applications := (db.applications.filter fun other => decide (other.id ≠ row.id)) ++ [row] }

/-- There is one ACME account for each environment, and only its status changes. -/
def putACMEAccount (row : ACMEAccount) : PanelStore :=
  if db.acmeAccounts.any fun other => decide (other.id = row.id) then
    { db with
      acmeAccounts := updateWhere (fun other => decide (other.id = row.id))
        (fun other => { other with status := row.status }) db.acmeAccounts }
  else if db.acmeAccounts.any fun other => decide (other.environment = row.environment) then db
  else { db with acmeAccounts := db.acmeAccounts ++ [row] }

end PanelStore

/-! ### Runs -/

/-- The call asks for an operation of the certificate lifecycle. -/
def OperationCall.createsLifecycle : OperationCall → Bool
  | .create params _ _ => decide (trimSpace params.kind = tlsCertificateLifecycleKind)
  | _ => false

/-- A call on the panel's store. Operations of the lifecycle are created by the certificate service only.
The transaction of an order is a call of its own, with whatever an earlier read has drafted. -/
inductive PanelCall where
  | operation (call : OperationCall) (other : call.createsLifecycle = false)
  | createDomain (params : CreateDomainParams) (ids : DomainIDs) (now : Time)
  | updateDomain (params : UpdateDomainParams) (ids : DomainIDs) (now : Time)
  | suspendDomain (params : ChangeDomainStatusParams) (now : Time)
  | resumeDomain (params : ChangeDomainStatusParams) (now : Time)
  | removeDomain (params : ChangeDomainStatusParams) (now : Time)
  | createWAFException (params : CreateDomainWAFExceptionParams) (now : Time)
  | removeWAFException (params : RemoveDomainWAFExceptionParams) (now : Time)
  | createRevision (params : CreateDesiredStateRevisionParams) (newID : ID) (now : Time)
  | recordAppliedState (params : RecordAppliedStateRevisionParams) (newID : ID) (now : Time)
  | confirmActivation (params : ConfirmDomainActivationParams) (now : Time)
  | prepareOrder (params : PrepareTLSCertificateOrderParams) (draft : OrderDraft) (certificateID : ID) (now : Time)
  | recordOrderURL (operationID : ID) (url : String)
  | stage (params : StageTLSCertificateParams) (now : Time)
  | activate (params : ActivateTLSCertificateParams) (now : Time)
  | failOrder (params : FailTLSCertificateOrderParams) (now : Time)
  | queueIssue (command : IssueCommand) (authorization : Except CoreError Unit) (newID : ID) (now : Time)
  | queueAutomaticWork (limit : Int) (draws : SchedulerDraws)
  | account (row : HostingAccount)
  | application (row : OCIApplication)
  | acmeAccount (row : ACMEAccount)

/-- The transaction of an order. -/
def commitOrder (db : PanelStore) (params : PrepareTLSCertificateOrderParams) (draft : OrderDraft)
    (certificateID : ID) (now : Time) : PanelStore × Except CoreError Unit :=
  db.checkedWrite (checkPrepareOrder params) fun (environment, requestID) => do
    let db' ← prepareOrderTx db params environment requestID draft certificateID now
    pure (db', ())

/-- The store a call leaves. -/
def PanelCall.execute (services : NameServices) (db : PanelStore) : PanelCall → PanelStore
  | .operation call _ => { db with operations := (call.execute db.operations).1 }
  | .createDomain params ids now => (Stackfort.createDomain services db params ids now).1
  | .updateDomain params ids now => (Stackfort.updateDomain services db params ids now).1
  | .suspendDomain params now => (Stackfort.suspendDomain db params now).1
  | .resumeDomain params now => (Stackfort.resumeDomain db params now).1
  | .removeDomain params now => (Stackfort.removeDomain db params now).1
  | .createWAFException params now => (createDomainWAFException db params now).1
  | .removeWAFException params now => (removeDomainWAFException db params now).1
  | .createRevision params newID now => (createDesiredStateRevision db params newID now).1
  | .recordAppliedState params newID now => (recordAppliedStateRevision db params newID now).1
  | .confirmActivation params now => (confirmDomainActivation db params now).1
  | .prepareOrder params draft certificateID now => (commitOrder db params draft certificateID now).1
  | .recordOrderURL operationID url => (recordTLSCertificateOrderURL services db operationID url).1
  | .stage params now => (stageTLSCertificate services db params now).1
  | .activate params now => (activateTLSCertificate db params now).1
  | .failOrder params now => (failTLSCertificateOrder db params now).1
  | .queueIssue command authorization newID now => (Stackfort.queueIssue db command authorization newID now).1
  | .queueAutomaticWork limit draws => (Stackfort.queueAutomaticWork db limit draws).1
  | .account row => db.putAccount row
  | .application row => db.putApplication row
  | .acmeAccount row => db.putACMEAccount row

namespace PanelStore

/-- The store after a sequence of calls, by whomever they are made. -/
def run (services : NameServices) (db : PanelStore) (calls : List PanelCall) : PanelStore :=
  calls.foldl (PanelCall.execute services) db

/-- The store after a sequence of calls on a fresh installation. -/
def after (services : NameServices) (calls : List PanelCall) : PanelStore := empty.run services calls

end PanelStore

end Stackfort
