import Stackfort.DomainTransitions

/-! Exceptions of the web application firewall. An exception takes one rule of the core rule set out of
force for one path or one parameter of a domain, for at most thirty days; it has the identifier of
the operation that created it, and a removed one is kept. -/

namespace Stackfort

def minimumExceptionRuleID : Nat := 920000

def maximumExceptionRuleID : Nat := 944999

def maximumExceptions : Nat := 64

def maximumExceptionTTL : Nat := 30 * 24 * hour

/-- The pattern `^/[A-Za-z0-9/_.~,!$&()+;=:@%-]{0,511}$`. -/
def matchesExceptionPath (path : String) : Bool :=
  match path.toList with
  | [] => false
  | first :: rest =>
    first == '/' && decide (rest.length ≤ 511) &&
      rest.all fun c => c.isAlphanum || "/_.~,!$&()+;=:@%-".toList.contains c

/-- The pattern `^[A-Za-z0-9_.:-]{1,128}$`. -/
def matchesParameterName (parameter : String) : Bool :=
  let characters := parameter.toList
  decide (1 ≤ characters.length ∧ characters.length ≤ 128) &&
    characters.all fun c => c.isAlphanum || "_.:-".toList.contains c

def containsDoubleSlash (path : String) : Bool := path.toList.tails.any "//".toList.isPrefixOf

/-- The text `ValidateExceptionScope` reports, if it reports one. -/
def exceptionScopeError (ruleID : Nat) (requestPath parameter : String) : Option String :=
  if ruleID < minimumExceptionRuleID ∨ maximumExceptionRuleID < ruleID then
    some "WAF exception rule ID is outside the supported inbound CRS range"
  else if requestPath = "" ∧ parameter = "" then some "WAF exception requires an exact path or parameter"
  else if requestPath ≠ trimSpace requestPath ∨
      requestPath ≠ "" ∧ (!matchesExceptionPath requestPath ∨ containsDoubleSlash requestPath) then
    some "WAF exception path is invalid"
  else if parameter ≠ trimSpace parameter ∨ parameter ≠ "" ∧ !matchesParameterName parameter then
    some "WAF exception parameter is invalid"
  else none

structure CreateDomainWAFExceptionParams where
  (accountID domainID exceptionID : ID)
  ruleID : Nat
  (requestPath parameter : String)
  expiresAt : Time
  operationID : ID
  actorID : Option ID
  requestID : String

structure RemoveDomainWAFExceptionParams where
  (accountID domainID exceptionID operationID : ID)
  actorID : Option ID
  requestID : String

def validateWAFExceptionIDs (accountID domainID exceptionID operationID : ID) (actorID : Option ID) :
    Except CoreError Unit := do
  validateID accountID "accountId"
  validateID domainID "domainId"
  validateID exceptionID "exceptionId"
  validateID operationID "operationId"
  validateOptionalID actorID "actorId"

def checkCreateException (params : CreateDomainWAFExceptionParams) (now : Time) : Except CoreError String := do
  validateWAFExceptionIDs params.accountID params.domainID params.exceptionID params.operationID params.actorID
  if params.exceptionID ≠ params.operationID then
    throw (.invalidInput "exception creation must use the operation ID")
  let requestID ← validateOptionalText params.requestID "requestId" 128
  if let some message := exceptionScopeError params.ruleID params.requestPath params.parameter then
    throw (.invalidInput message)
  if params.expiresAt < now.add second ∨ now.add maximumExceptionTTL < params.expiresAt then
    throw (.invalidInput "invalid WAF exception expiry")
  pure requestID

/-- The audit record of a change to an exception. -/
def exceptionAudit (accountID exceptionID : ID) (action requestID : String) (operationID : ID)
    (actorID : Option ID) (details : JsonObject) (now : Time) : AuditEvent :=
  let event := domainAudit accountID exceptionID action requestID (some operationID) actorID details now
  { event with targetType := "domain_waf_exception" }

/-- The policy of a live domain. -/
def PanelStore.liveDomainWAFMode (db : PanelStore) (accountID domainID : ID) : Option WAFMode :=
  if db.domains.any fun row => row.ofAccount accountID domainID && decide (row.removedAt = none) then
    (db.wafPolicies.find? fun row => decide (row.accountID = accountID ∧ row.domainID = domainID)).map
      DomainWAFPolicy.mode
  else none

/-- The row of a new exception. -/
def newException (params : CreateDomainWAFExceptionParams) (now : Time) : DomainWAFException :=
  ⟨params.exceptionID, params.accountID, params.domainID, params.ruleID, params.requestPath, params.parameter,
    params.expiresAt, now, params.actorID, params.operationID, none, none, none⟩

def createExceptionTx (db : PanelStore) (params : CreateDomainWAFExceptionParams) (requestID : String)
    (now : Time) : Except TxError PanelStore :=
  match db.wafExceptions.find? fun row =>
      decide (row.accountID = params.accountID ∧ row.id = params.exceptionID) with
  | some existing =>
    if existing.creationOperationID = params.operationID then pure db
    else throw (.core (.conflict "WAF exception ID already exists"))
  | none => do
      let limits ← db.mutableAccountLimits params.accountID
      if !limits.wafExceptions then
        throw (.core (.conflict "WAF exceptions are not enabled by the account package"))
      match db.liveDomainWAFMode params.accountID params.domainID with
      | none => throw .noRows
      | some mode =>
        if mode = .off then
          throw (.core (.conflict "WAF exceptions require an enabled domain WAF policy"))
        let active := db.activeWAFExceptions params.accountID params.domainID now
        if maximumExceptions ≤ active.length then
          throw (.core (.conflict "WAF exception limit reached"))
        if active.any fun row => decide (row.ruleID = params.ruleID ∧
            row.requestPath = params.requestPath ∧ row.parameter = params.parameter) then
          throw (.core (.conflict "an active WAF exception already has this scope"))
        let db ← db.insertWAFException (newException params now)
        pure (db.appendAudit (exceptionAudit params.accountID params.exceptionID
          "domain.waf_exception.created" requestID params.operationID params.actorID
          [("domainId", .string params.domainID), ("ruleId", .number params.ruleID),
            ("hasExactPath", .bool (params.requestPath != "")), ("parameter", .string params.parameter),
            ("expiresAt", .string (formatTime params.expiresAt))] now))

def createDomainWAFException (db : PanelStore) (params : CreateDomainWAFExceptionParams) (now : Time) :
    PanelStore × Except CoreError DomainWAFException :=
  PanelStore.rereads
    (db.checkedWrite (checkCreateException params now) fun requestID => do
      let db' ← createExceptionTx db params requestID now
      pure (db', ()))
    fun _ db' =>
      match db'.wafExceptions.find? fun row =>
          decide (row.accountID = params.accountID ∧ row.domainID = params.domainID ∧
            row.id = params.exceptionID) with
      | some row => pure row
      | none => throw (classifyDatabaseError .noRows)

def removeExceptionTx (db : PanelStore) (params : RemoveDomainWAFExceptionParams) (requestID : String)
    (now : Time) : Except TxError PanelStore := do
  let _ ← db.mutableAccountLimits params.accountID
  match db.wafExceptions.find? fun row =>
      decide (row.accountID = params.accountID ∧ row.domainID = params.domainID ∧ row.id = params.exceptionID) with
  | none => throw .noRows
  | some existing =>
    if existing.removedAt.isSome then
      if existing.removalOperationID = some params.operationID then return db
      throw (.core (.conflict "WAF exception is already removed"))
    let db ← db.removeWAFException params.accountID params.domainID params.exceptionID params.operationID
      params.actorID now
    pure (db.appendAudit (exceptionAudit params.accountID params.exceptionID "domain.waf_exception.removed"
      requestID params.operationID params.actorID [("domainId", .string params.domainID)] now))

def removeDomainWAFException (db : PanelStore) (params : RemoveDomainWAFExceptionParams) (now : Time) :
    PanelStore × Except CoreError Unit :=
  db.checkedWrite
    (do
      validateWAFExceptionIDs params.accountID params.domainID params.exceptionID params.operationID
        params.actorID
      validateOptionalText params.requestID "requestId" 128)
    fun requestID => do
      let db' ← removeExceptionTx db params requestID now
      pure (db', ())

end Stackfort
