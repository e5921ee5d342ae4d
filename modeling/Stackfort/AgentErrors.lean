import Stackfort.OperationRunner

/-! What becomes of an error of a host manager on its way to the worker. The agent maps it to a status, a
code and a message; its client decodes the reply into a remote error, or rejects it as malformed; the
handler of the operation classifies what the client returns as a failure that another attempt may
repair or as a final one. The mappers and the classifiers are tables, and each keeps its own. -/

namespace Stackfort

/-! ### Capabilities and codes -/

inductive CapabilityStatus where
  | available
  | unavailable
  | unsupported
  | unknown
  deriving DecidableEq

structure Capability where
  status : CapabilityStatus
  reasonCode : String
  deriving DecidableEq

def isIdentifierStart (c : Char) : Bool := ('A' ≤ c && c ≤ 'Z') || ('a' ≤ c && c ≤ 'z') || ('0' ≤ c && c ≤ '9')

/-- `^[A-Za-z0-9][A-Za-z0-9._:-]{0,127}$`. -/
def validBoundedIdentifier (value : String) : Bool :=
  match value.toList with
  | [] => false
  | first :: rest =>
    isIdentifierStart first && rest.length ≤ 127 &&
      rest.all fun c => isIdentifierStart c || c = '.' || c = '_' || c = ':' || c = '-'

def validateCapability (capability : Capability) : Bool :=
  match capability.status with
  | .available => capability.reasonCode = ""
  | .unavailable | .unsupported | .unknown => validBoundedIdentifier capability.reasonCode

inductive ErrorCode where
  | invalidRequest
  | idempotencyConflict
  | identityConflict
  | ociRuntimeUnavailable
  | archiveRequired
  | filesystemConflict
  | filesystemMigration
  | quotaUnavailable
  | resourceControlConflict
  | resourceControlUnavailable
  | nginxConflict
  | nginxUnavailable
  | nginxValidation
  | nginxActivation
  | nginxHealthCheck
  | acmeHTTP01Conflict
  | acmeHTTP01Unavailable
  | tlsCertificateConflict
  | tlsCertificateUnavailable
  | phpConflict
  | phpUnavailable
  | phpValidation
  | phpActivation
  | databaseConflict
  | databaseUnavailable
  | databaseValidation
  | databaseMutation
  | scheduledJobInvalid
  | scheduledJobNotFound
  | scheduledJobConflict
  | scheduledJobUnavailable
  | cacheConflict
  | cacheUnavailable
  | ociImageInvalid
  | ociImageUnavailable
  | ociImageRejected
  | ociResourceInvalid
  | ociResourceConflict
  | ociResourceUnavailable
  | ociDeploymentInvalid
  | ociDeploymentConflict
  | ociDeploymentUnhealthy
  | ociDeploymentUnavailable
  | mutationFailed
  deriving DecidableEq

structure ResponseError where
  code : ErrorCode
  message : String
  capability : Option Capability
  deriving DecidableEq

/-! ### Errors of the host managers -/

/-- The errors a manager wraps, as `errors.Is` finds them. Every manager has sentinels of its own, and the
kinds of a database error are told apart in the same way. -/
inductive Sentinel where
  | invalid
  | conflict
  | notFound
  | unavailable
  | validation
  | healthCheckFailed
  | unhealthy
  | scanRejected
  | buildContext
  | buildFailed
  | pullFailed
  | inspectFailed
  | scanFailed
  | migrationRequired
  | archiveRequired
  | runtimeUnavailable
  deriving DecidableEq

/-- An error of a manager: the capability error in its chain, and the sentinels it wraps. -/
structure HostError where
  capability : Option Capability
  sentinels : List Sentinel

/-- A test of a mapper's switch. -/
inductive ErrorTest where
  | hasCapability
  | is (sentinels : List Sentinel)
  deriving DecidableEq

def HostError.passes (error : HostError) : ErrorTest → Bool
  | .hasCapability => error.capability.isSome
  | .is sentinels => sentinels.any fun sentinel => error.sentinels.contains sentinel

/-- The status, code and message of a reply. -/
structure Verdict where
  status : Nat
  code : ErrorCode
  message : String
  deriving DecidableEq

/-- A mapper: the tests in their order, what stands when none of them is passed, and the capability of a
reply that was not made from a capability error. -/
structure ErrorMapper where
  fallback : Verdict
  cases : List (ErrorTest × Verdict)
  detail : HostError → ErrorCode → Option Capability

def ErrorMapper.respond (mapper : ErrorMapper) (error : HostError) : Nat × ResponseError :=
  match mapper.cases.find? fun case => error.passes case.1 with
  | some (.hasCapability, verdict) => (verdict.status, ⟨verdict.code, verdict.message, error.capability⟩)
  | some (.is _, verdict) => (verdict.status, ⟨verdict.code, verdict.message, mapper.detail error verdict.code⟩)
  | none =>
    (mapper.fallback.status, ⟨mapper.fallback.code, mapper.fallback.message,
      mapper.detail error mapper.fallback.code⟩)

/-- Replies that carry no capability of their own. -/
def noDetail : HostError → ErrorCode → Option Capability := fun _ _ => none

/-- Replies that carry a fixed capability under one code. -/
def detailUnder (code : ErrorCode) (capability : Capability) : HostError → ErrorCode → Option Capability :=
  fun _ found => if found = code then some capability else none

def identityError : ErrorMapper where
  fallback := ⟨500, .mutationFailed, "The managed hosting identity could not be changed."⟩
  cases := [ (.is [.conflict], ⟨409, .identityConflict,
      "The managed hosting identity conflicts with existing host state."⟩),
    (.is [.archiveRequired], ⟨409, .archiveRequired,
      "The managed account directory must be archived before identity deletion."⟩),
    (.is [.runtimeUnavailable], ⟨422, .ociRuntimeUnavailable, "The required rootless OCI runtime is unavailable."⟩)]
  detail := fun error code =>
    -- The capability is attached whatever the code is.
    match error.capability with
    | some capability => some capability
    | none => if code = .ociRuntimeUnavailable then some ⟨.unknown, "runtime-inspection-failed"⟩ else none

def filesystemError : ErrorMapper where
  fallback := ⟨500, .mutationFailed, "The managed account filesystem could not be changed."⟩
  cases := [ (.hasCapability, ⟨422, .quotaUnavailable,
      "Project quota enforcement is unavailable on the managed filesystem."⟩),
    (.is [.conflict], ⟨409, .filesystemConflict,
      "The managed account filesystem conflicts with existing host state."⟩),
    (.is [.migrationRequired], ⟨409, .filesystemMigration,
      "The existing account tree requires an offline project quota migration."⟩)]
  detail := noDetail

def resourceError : ErrorMapper where
  fallback := ⟨500, .mutationFailed, "The managed account resource boundary could not be changed."⟩
  cases := [
    (.hasCapability, ⟨422, .resourceControlUnavailable, "Systemd cgroup-v2 resource control is unavailable."⟩),
    (.is [.conflict], ⟨409, .resourceControlConflict,
      "The managed account resource unit conflicts with existing host state."⟩)]
  detail := noDetail

def phpPoolError : ErrorMapper where
  fallback := ⟨500, .phpActivation, "The managed PHP-FPM pools could not be activated."⟩
  cases := [ (.hasCapability, ⟨422, .phpUnavailable, "The requested PHP runtime is unavailable on this host."⟩),
    (.is [.conflict], ⟨409, .phpConflict, "The managed PHP-FPM state conflicts with existing host state."⟩),
    (.is [.validation], ⟨500, .phpValidation, "The generated PHP-FPM configuration did not pass validation."⟩)]
  detail := noDetail

def nginxActivationError : ErrorMapper where
  fallback := ⟨500, .nginxActivation, "The managed NGINX site revision could not be activated."⟩
  cases := [ (.hasCapability, ⟨422, .nginxUnavailable, "NGINX site activation is unavailable on this host."⟩),
    (.is [.conflict], ⟨409, .nginxConflict, "The managed NGINX site state conflicts with the activation request."⟩),
    (.is [.validation], ⟨500, .nginxValidation,
      "The complete candidate NGINX configuration did not pass validation."⟩),
    (.is [.healthCheckFailed], ⟨502, .nginxHealthCheck,
      "The activated NGINX site revision did not pass its local health check."⟩)]
  detail := noDetail

def acmeHTTP01Error : ErrorMapper where
  fallback := ⟨500, .acmeHTTP01Unavailable, "The ACME HTTP-01 response could not be reconciled."⟩
  cases := [
    (.is [.conflict], ⟨409, .acmeHTTP01Conflict, "The ACME HTTP-01 response conflicts with managed host state."⟩)]
  detail := noDetail

def tlsCertificateError : ErrorMapper where
  fallback := ⟨500, .tlsCertificateUnavailable, "The TLS certificate artifact could not be staged."⟩
  cases := [ (.is [.conflict], ⟨409, .tlsCertificateConflict,
      "The TLS certificate artifact conflicts with managed host state."⟩)]
  detail := noDetail

def databaseError : ErrorMapper where
  fallback := ⟨500, .databaseMutation, "The managed database operation failed."⟩
  cases := [
    (.is [.conflict], ⟨409, .databaseConflict, "The managed database state conflicts with the requested account."⟩),
    (.is [.unavailable], ⟨503, .databaseUnavailable, "The local MariaDB service is unavailable."⟩),
    (.is [.validation], ⟨422, .databaseValidation, "The managed database intent is invalid."⟩)]
  detail := noDetail

def scheduledJobError : ErrorMapper where
  fallback := ⟨500, .mutationFailed, "The scheduled job could not be reconciled."⟩
  cases := [ (.hasCapability, ⟨422, .scheduledJobUnavailable, "Scheduled jobs are unavailable on this host."⟩),
    (.is [.invalid], ⟨400, .scheduledJobInvalid, "The scheduled job intent is invalid."⟩),
    (.is [.notFound], ⟨404, .scheduledJobNotFound, "The scheduled job script was not found."⟩),
    (.is [.conflict], ⟨409, .scheduledJobConflict, "The scheduled job conflicts with existing host state."⟩),
    (.is [.unavailable], ⟨503, .scheduledJobUnavailable, "Scheduled jobs are temporarily unavailable."⟩)]
  detail := detailUnder .scheduledJobUnavailable ⟨.unavailable, "scheduled-job-host-unavailable"⟩

/-- The reason of a failed preparation, from the closed sentinels of the image policy. -/
def ociImageFailureReason (error : HostError) : String :=
  if error.passes (.is [.buildFailed]) then "oci-image-build-failed"
  else if error.passes (.is [.pullFailed]) then "oci-image-pull-failed"
  else if error.passes (.is [.inspectFailed]) then "oci-image-inspect-failed"
  else if error.passes (.is [.scanFailed]) then "oci-image-scan-failed"
  else "oci-image-operation-failed"

def ociImageError : ErrorMapper where
  fallback := ⟨503, .ociImageUnavailable, "The OCI image could not be prepared and scanned."⟩
  cases := [ (.hasCapability, ⟨422, .ociImageUnavailable, "OCI image preparation is unavailable on this host."⟩),
    (.is [.invalid, .buildContext], ⟨400, .ociImageInvalid,
      "The OCI image or Containerfile source is outside the supported safety contract."⟩),
    (.is [.conflict], ⟨409, .ociImageInvalid, "The OCI image operation conflicts with existing managed host state."⟩),
    (.is [.scanRejected], ⟨422, .ociImageRejected,
      "The OCI image contains HIGH or CRITICAL vulnerabilities and was rejected."⟩)]
  detail := fun error code =>
    if code = .ociImageUnavailable then some ⟨.unknown, ociImageFailureReason error⟩ else none

def ociResourceError : ErrorMapper where
  fallback := ⟨503, .ociResourceUnavailable, "OCI private resources could not be reconciled."⟩
  cases := [ (.hasCapability, ⟨422, .ociResourceUnavailable, "OCI private resources are unavailable on this host."⟩),
    (.is [.invalid], ⟨400, .ociResourceInvalid, "The OCI private-resource intent is invalid."⟩),
    (.is [.conflict], ⟨409, .ociResourceConflict, "OCI private resources conflict with unmanaged host state."⟩)]
  detail := detailUnder .ociResourceUnavailable ⟨.unknown, "oci-resource-operation-failed"⟩

def ociDeploymentError : ErrorMapper where
  fallback := ⟨503, .ociDeploymentUnavailable, "The OCI application deployment is unavailable."⟩
  cases := [ (.hasCapability, ⟨422, .ociDeploymentUnavailable, "OCI deployment is unavailable on this host."⟩),
    (.is [.invalid], ⟨400, .ociDeploymentInvalid, "The OCI deployment intent is invalid."⟩),
    (.is [.conflict], ⟨409, .ociDeploymentConflict, "The OCI deployment conflicts with managed host state."⟩),
    (.is [.unhealthy], ⟨422, .ociDeploymentUnhealthy,
      "The OCI application did not become healthy; the previous Quadlet was restored."⟩)]
  detail := detailUnder .ociDeploymentUnavailable ⟨.unknown, "oci-deployment-operation-failed"⟩

def cacheError : ErrorMapper where
  fallback := ⟨503, .cacheUnavailable, "Vinyl Cache is temporarily unavailable."⟩
  cases := [ (.is [.invalid], ⟨400, .invalidRequest, "The cache request is invalid."⟩),
    (.is [.conflict], ⟨409, .cacheConflict, "The cache state conflicts with managed host policy."⟩)]
  detail := detailUnder .cacheUnavailable ⟨.unavailable, "vinyl-cache-unavailable"⟩

/-- Every error of the panel has one reply. -/
def panelError : ErrorMapper where
  fallback := ⟨503, .nginxUnavailable,
    "Panel hostname operation failed; check DNS, HTTP reachability, conflicts and issuance cooldown."⟩
  cases := []
  detail := noDetail

/-! ### The client -/

structure RemoteError where
  statusCode : Nat
  code : ErrorCode
  message : String
  capability : Option Capability
  deriving DecidableEq

/-- What a call of the client can return besides a reply. -/
inductive AgentClientError where
  | remote (error : RemoteError)
  | invalidRequest
  | interrupted
  | other

/-- The codes whose errors name a capability that is not available. -/
def ErrorCode.namesCapability : ErrorCode → Bool
  | .quotaUnavailable | .resourceControlUnavailable | .ociRuntimeUnavailable | .ociImageUnavailable
  | .ociResourceUnavailable | .ociDeploymentUnavailable | .nginxUnavailable | .phpUnavailable
  | .scheduledJobUnavailable | .cacheUnavailable => true
  | _ => false

/-- A capability an error may name. -/
def Capability.missing (capability : Capability) : Bool :=
  validateCapability capability && decide (capability.status ≠ .available)

/-- The error part of `ValidateResponse`. -/
def validateResponseError (error : ResponseError) : Bool :=
  error.message ≠ "" && error.message.utf8ByteSize ≤ 256 &&
    if error.code.namesCapability then error.capability.any Capability.missing else error.capability.isNone

/-- A reply with an error, as the client returns it. -/
def remoteError (status : Nat) (error : ResponseError) : AgentClientError :=
  if validateResponseError error then
    if 400 ≤ status ∧ status ≤ 599 then .remote ⟨status, error.code, error.message, error.capability⟩ else .other
  else .other

/-! ### The classifiers

A classifier that is handed the error of an ended context returns it as it is. -/

/-- An error that is no reply of the agent. -/
def agentUnreachable (code : String) : Option Failure := some ⟨code, true⟩

/-- `classifyHostingAccountAgentFailure`, which is called without an error when a reply is not the one that
was asked for. -/
def classifyHostingAccountAgentFailure : Option AgentClientError → Option Failure
  | none => some ⟨"hosting_account.agent_response_invalid", true⟩
  | some .interrupted => none
  | some (.remote remote) =>
    if 400 ≤ remote.statusCode ∧ remote.statusCode < 500 then some ⟨"hosting_account.host_conflict", false⟩
    else some ⟨"hosting_account.agent_unavailable", true⟩
  | some _ => agentUnreachable "hosting_account.agent_unavailable"

def classifyDomainFilesystemFailure : AgentClientError → Option Failure
  | .invalidRequest => some ⟨"domain.document_root_rejected", false⟩
  | .remote remote =>
    match remote.code with
    | .filesystemConflict | .filesystemMigration | .identityConflict | .idempotencyConflict | .invalidRequest =>
      some ⟨"domain.document_root_rejected", false⟩
    | _ => some ⟨"domain.document_root_failed", true⟩
  | _ => agentUnreachable "domain.agent_unreachable"

def classifyDomainPHPFailure : AgentClientError → Option Failure
  | .invalidRequest => some ⟨"domain.php_pool_rejected", false⟩
  | .remote remote =>
    match remote.code with
    | .phpConflict | .invalidRequest | .idempotencyConflict => some ⟨"domain.php_pool_rejected", false⟩
    | .phpUnavailable =>
      if remote.capability.any fun capability => capability.status = .unsupported then
        some ⟨"domain.php_runtime_unsupported", false⟩
      else some ⟨"domain.php_runtime_unavailable", true⟩
    | .phpValidation => some ⟨"domain.php_pool_validation_failed", false⟩
    | _ => some ⟨"domain.php_pool_failed", true⟩
  | _ => agentUnreachable "domain.agent_unreachable"

def classifyNGINXAgentFailure : AgentClientError → Option Failure
  | .invalidRequest => some ⟨"nginx.activation_rejected", false⟩
  | .remote remote =>
    match remote.code with
    | .nginxConflict | .nginxValidation | .idempotencyConflict | .invalidRequest =>
      some ⟨"nginx.activation_rejected", false⟩
    | .nginxUnavailable => some ⟨"nginx.capability_unavailable", true⟩
    | .nginxHealthCheck => some ⟨"nginx.activation_health_failed", true⟩
    | _ => some ⟨"nginx.activation_failed", true⟩
  | _ => agentUnreachable "nginx.agent_unreachable"

def classifyTLSAgentFailure (fallback : String) : Option AgentClientError → Option Failure
  | none => some ⟨fallback, true⟩
  | some .invalidRequest => some ⟨"tls.agent_request_rejected", false⟩
  | some (.remote remote) =>
    match remote.code with
    | .acmeHTTP01Conflict | .tlsCertificateConflict | .idempotencyConflict | .invalidRequest =>
      some ⟨"tls.agent_state_conflict", false⟩
    | _ => some ⟨fallback, true⟩
  | some _ => agentUnreachable fallback

def classifyDatabaseAgentFailure : AgentClientError → Option Failure
  | .remote remote =>
    match remote.code with
    | .databaseConflict => some ⟨"database.host_state_conflict", false⟩
    | .databaseValidation => some ⟨"database.host_intent_invalid", false⟩
    | .databaseUnavailable => some ⟨"database.service_unavailable", true⟩
    | _ => some ⟨"database.host_mutation_failed", true⟩
  | _ => agentUnreachable "database.agent_unavailable"

def classifyScheduledJobAgentFailure : AgentClientError → Option Failure
  | .remote remote =>
    match remote.code with
    | .scheduledJobInvalid => some ⟨"scheduled_job.host_intent_invalid", false⟩
    | .scheduledJobNotFound => some ⟨"scheduled_job.script_not_found", false⟩
    | .scheduledJobConflict => some ⟨"scheduled_job.host_state_conflict", false⟩
    | .scheduledJobUnavailable => some ⟨"scheduled_job.host_unavailable", true⟩
    | _ => some ⟨"scheduled_job.host_mutation_failed", true⟩
  | _ => agentUnreachable "scheduled_job.agent_unavailable"

def classifyOCIImageAgentFailure : AgentClientError → Option Failure
  | .interrupted => none
  | .remote remote =>
    match remote.code with
    | .ociImageInvalid => some ⟨"oci_image.source_rejected", false⟩
    | .ociImageRejected => some ⟨"oci_image.scan_rejected", false⟩
    | .ociImageUnavailable => some ⟨"oci_image.host_unavailable", true⟩
    | _ => some ⟨"oci_image.agent_unavailable", decide (500 ≤ remote.statusCode)⟩
  | _ => agentUnreachable "oci_image.agent_unavailable"

def classifyOCIResourceAgentFailure : AgentClientError → Option Failure
  | .interrupted => none
  | .remote remote =>
    match remote.code with
    | .ociResourceInvalid => some ⟨"oci_resources.intent_rejected", false⟩
    | .ociResourceConflict => some ⟨"oci_resources.host_conflict", false⟩
    | .ociResourceUnavailable => some ⟨"oci_resources.host_unavailable", true⟩
    | _ => some ⟨"oci_resources.agent_unavailable", decide (500 ≤ remote.statusCode)⟩
  | _ => agentUnreachable "oci_resources.agent_unavailable"

def classifyOCIDeploymentAgentFailure : AgentClientError → Option Failure
  | .interrupted => none
  | .remote remote =>
    match remote.code with
    | .ociDeploymentInvalid => some ⟨"oci_deployment.intent_rejected", false⟩
    | .ociDeploymentConflict => some ⟨"oci_deployment.host_conflict", false⟩
    | .ociDeploymentUnhealthy => some ⟨"oci_deployment.health_failed", false⟩
    | .ociDeploymentUnavailable => some ⟨"oci_deployment.agent_unavailable", true⟩
    | _ => some ⟨"oci_deployment.agent_unavailable", decide (500 ≤ remote.statusCode)⟩
  | _ => agentUnreachable "oci_deployment.agent_unavailable"

/-! ### Calls -/

/-- The requests the handlers of operations send. -/
inductive AgentCall where
  | reconcileHostingIdentityBase
  | reconcileHostingOCIRuntime
  | reconcileHostingFilesystem
  | reconcileHostingResources
  | ensureHostingDocumentRoot
  | reconcilePHPPools
  | activateNGINXSiteSpecs
  | presentHTTP01
  | cleanupHTTP01
  | stageTLSCertificate
  | provisionDatabase
  | rotateDatabasePassword
  | dropDatabase
  | reconcileScheduledJob
  | prepareOCIImage
  | reconcileOCIResources
  | reconcileOCIDeployment
  | purgeCache
  | issuePanel
  deriving DecidableEq

namespace AgentCall

/-- How the agent replies to an error of the call's manager. -/
def mapper : AgentCall → ErrorMapper
  | .reconcileHostingIdentityBase | .reconcileHostingOCIRuntime => identityError
  | .reconcileHostingFilesystem | .ensureHostingDocumentRoot => filesystemError
  | .reconcileHostingResources => resourceError
  | .reconcilePHPPools => phpPoolError
  | .activateNGINXSiteSpecs => nginxActivationError
  | .presentHTTP01 | .cleanupHTTP01 => acmeHTTP01Error
  | .stageTLSCertificate => tlsCertificateError
  | .provisionDatabase | .rotateDatabasePassword | .dropDatabase => databaseError
  | .reconcileScheduledJob => scheduledJobError
  | .prepareOCIImage => ociImageError
  | .reconcileOCIResources => ociResourceError
  | .reconcileOCIDeployment => ociDeploymentError
  | .purgeCache => cacheError
  | .issuePanel => panelError

/-- How the handler of the operation takes an error of the call. -/
def classify : AgentCall → AgentClientError → Option Failure
  | .reconcileHostingIdentityBase, error | .reconcileHostingOCIRuntime, error | .reconcileHostingFilesystem, error
  | .reconcileHostingResources, error => classifyHostingAccountAgentFailure (some error)
  | .ensureHostingDocumentRoot, error => classifyDomainFilesystemFailure error
  | .reconcilePHPPools, error => classifyDomainPHPFailure error
  | .activateNGINXSiteSpecs, error => classifyNGINXAgentFailure error
  | .presentHTTP01, error => classifyTLSAgentFailure "tls.http01_present_failed" (some error)
  | .cleanupHTTP01, error => classifyTLSAgentFailure "tls.http01_cleanup_failed" (some error)
  | .stageTLSCertificate, error => classifyTLSAgentFailure "tls.certificate_stage_failed" (some error)
  | .provisionDatabase, error | .rotateDatabasePassword, error | .dropDatabase, error =>
    classifyDatabaseAgentFailure error
  | .reconcileScheduledJob, error => classifyScheduledJobAgentFailure error
  | .prepareOCIImage, error => classifyOCIImageAgentFailure error
  | .reconcileOCIResources, error => classifyOCIResourceAgentFailure error
  | .reconcileOCIDeployment, error => classifyOCIDeploymentAgentFailure error
  | .purgeCache, _ => some ⟨"cache.purge_failed", true⟩
  | .issuePanel, _ => some ⟨"panel.issuance_failed", false⟩

/-- The handler retries after the agent's reply to an error of its manager. -/
def retries (call : AgentCall) (reply : Nat × ResponseError) : Bool :=
  match remoteError reply.1 reply.2 with
  | .remote remote => (call.classify (.remote remote)).any Failure.retryable
  | _ => false

end AgentCall

end Stackfort
