import Stackfort.CertificateTransitions
import Stackfort.NginxWire

/-! The document of a desired-state revision: the specs of the account's domains, the directories and
interpreters they need and the domains that wait for the activation. It is made from domains and
upstreams that were read before, and everything the host is asked to do is derived from it. -/

namespace Stackfort

open Nginx

/-! ### Records -/

def DocumentRoot.core (root : DocumentRoot) : CoreDocumentRoot := ⟨root.accountID, root.relativePath⟩

def DomainRedirect.core (redirect : DomainRedirect) : CoreRedirect :=
  ⟨redirect.statusCode, redirect.targetURL, redirect.targetASCIIHost, .known redirect.hostMode,
    redirect.preservePath, redirect.preserveQuery, redirect.wildcardSubdomains⟩

def DomainWAFException.core (exception : DomainWAFException) : CoreWAFException :=
  ⟨exception.id, exception.accountID, exception.domainID, exception.ruleID, exception.requestPath,
    exception.parameter, exception.expiresAt⟩

/-- The target of a record, with the rows it names. -/
def coreTarget (target : DomainTarget) (root : Option DocumentRoot) (redirect : Option DomainRedirect) :
    CoreTarget :=
  ⟨.known target.type, root.map DocumentRoot.core, target.phpVersion.getD "", target.applicationID,
    redirect.map DomainRedirect.core⟩

/-- A stored domain as the renderer reads it. -/
def Domain.core (domain : Domain) : CoreDomain where
  id := domain.row.id
  accountID := domain.row.accountID
  name := ⟨domain.row.displayName, domain.row.asciiName⟩
  status := .known domain.row.status
  canonicalMode := .known domain.row.canonicalMode
  target := coreTarget domain.target domain.documentRoot domain.redirect
  tls := ⟨domain.tls.enabled, .known domain.tls.mode, .known domain.tls.challengeType, domain.tls.names,
    domain.tls.activeCertificateRef.getD ""⟩
  wafMode := .known domain.waf.mode
  wafExceptions := domain.exceptions.map DomainWAFException.core
  cachePreset := .known domain.cache.preset
  cacheGeneration := domain.cache.generation

/-! ### Upstreams -/

/-- The routed applications of an account with their ports, by identifier. -/
def PanelStore.listOCIApplicationUpstreams (db : PanelStore) (accountID : ID) :
    Except CoreError (List OCIApplicationUpstream) :=
  if !isCanonicalUUIDv7 accountID then throw (.invalidInput "")
  else
    let rows := db.applications.filter fun row => decide (row.accountID = accountID) && row.routable
    let upstreams := rows.filterMap fun row => row.loopbackPort.map fun port => ⟨row.id, port⟩
    if upstreams.any fun upstream => !isCanonicalUUIDv7 upstream.applicationID ||
        decide (upstream.loopbackPort < minimumLoopbackPort ∨ maximumLoopbackPort < upstream.loopbackPort) then
      throw (classifyDatabaseError (.other "stored OCI application upstream is invalid"))
    else pure (upstreams.insertionSort fun left right => left.applicationID ≤ right.applicationID)

/-! ### Documents -/

/-- A directory that PHP runs in stays one. -/
def addDocumentRoot (roots : List DocumentRootIntent) (root : DocumentRootIntent) : List DocumentRootIntent :=
  if roots.any fun other => decide (other.relativePath = root.relativePath) then
    roots.map fun other =>
      if other.relativePath = root.relativePath ∧ other.access = .static then root else other
  else roots ++ [root]

/-- The directory a domain serves, with what is done there. -/
def Domain.rootIntent (domain : Domain) : Option DocumentRootIntent :=
  match domain.target.type, domain.documentRoot with
  | .static, some root => some ⟨root.relativePath, .static⟩
  | .php, some root => some ⟨root.relativePath, .php⟩
  | _, _ => none

def Domain.expectation (domain : Domain) : Option DomainActivationExpectation :=
  if domain.row.status = .pending then some ⟨domain.row.id, domain.target.id⟩ else none

def Domain.phpVersion (domain : Domain) : Option String :=
  if domain.target.type = .php then some (domain.target.phpVersion.getD "") else none

def makeDomainDesiredStateDocument (services : RenderServices) (identity : Identity) (domains : List Domain)
    (upstreams : List OCIApplicationUpstream) : Except RenderError DomainDocument := do
  let options := { defaultOptions with ociUpstreams := upstreams }
  let specs ← specsFromDomains services identity (domains.map Domain.core) options
  let live := domains.filter fun domain => !domain.core.inactive
  let roots := (live.filterMap Domain.rootIntent).foldl addDocumentRoot []
  let phpVersions := (live.filterMap Domain.phpVersion).insertionSort (· ≤ ·)
  let pending := live.filterMap Domain.expectation
  pure ⟨specs, options, roots.insertionSort fun left right => left.relativePath ≤ right.relativePath,
    phpVersions.destutter (· ≠ ·), pending.insertionSort fun left right => left.domainID ≤ right.domainID⟩

end Stackfort
