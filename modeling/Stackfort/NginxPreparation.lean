import Stackfort.DomainExceptions

/-! What the renderer of web server configurations checks before it writes a line. It takes the identity
of an account, domains as the repository returns them (or as the agent puts them together again from
the wire) and options; it validates every record once more and reduces each live domain to a
prepared one. The values of enumerated columns are texts in the source and may be absent or unknown
here. SHA-256 enters as a parameter, like the libraries of the normalisation. -/

namespace Stackfort.Nginx

def maximumDomains : Nat := 10000

def maximumRenderedBytes : Nat := 4 * 2 ^ 20

def maximumHeaderPolicies : Nat := 3

def minimumLoopbackPort : Int := 20000

def maximumLoopbackPort : Int := 29999

inductive RenderError where
  | invalidSpec
  | unsupportedTarget
  | renderedTooLarge
  deriving DecidableEq

/-- The libraries the renderer calls. -/
structure RenderServices extends NameServices where
  sha256 : List UInt8 → Vector UInt8 32

def RenderServices.digest (services : RenderServices) (value : String) : Vector UInt8 32 :=
  services.sha256 value.toUTF8.toList

/-! ### Domains as the renderer reads them -/

structure CoreDocumentRoot where
  (accountID relativePath : String)
  deriving DecidableEq

structure CoreRedirect where
  statusCode : Int
  (targetURL targetASCIIHost : String)
  hostMode : Choice RedirectHostMode
  (preservePath preserveQuery wildcardSubdomains : Bool)
  deriving DecidableEq

structure CoreTarget where
  type : Choice DomainTargetType
  documentRoot : Option CoreDocumentRoot
  phpVersion : String
  applicationID : Option String
  redirect : Option CoreRedirect
  deriving DecidableEq

structure CoreTLSState where
  enabled : Bool
  mode : Choice TLSMode
  challengeType : Choice TLSChallengeType
  names : List String
  activeCertificateRef : String
  deriving DecidableEq

structure CoreWAFException where
  (id accountID domainID : String)
  ruleID : Nat
  (requestPath parameter : String)
  expiresAt : Time
  deriving DecidableEq

/-- `core.Domain`, with the fields the renderer reads. -/
structure CoreDomain where
  (id accountID : String)
  name : NormalizedDomainName
  status : Choice DomainStatus
  canonicalMode : Choice CanonicalMode
  target : CoreTarget
  tls : CoreTLSState
  wafMode : Choice WAFMode
  wafExceptions : List CoreWAFException
  cachePreset : Choice CachePreset
  cacheGeneration : String
  deriving DecidableEq

/-! ### Identities and paths -/

/-- `hostingidentity.Spec`. -/
structure Identity where
  (accountID username : String)
  (uid gid : Nat)
  homeDirectory : String
  deriving DecidableEq

def withoutDashes (value : String) : String := String.ofList (value.toList.filter (· ≠ '-'))

def usernameForAccount (accountID : String) : String :=
  "sf_" ++ String.ofList ((withoutDashes accountID).toList.drop 6)

def homeDirectoryForAccount (accountID : String) : String := "/srv/hosting/accounts/" ++ accountID

def Identity.valid (identity : Identity) : Bool :=
  isCanonicalUUIDv7 identity.accountID &&
    decide (identity.username = usernameForAccount identity.accountID ∧
      identity.homeDirectory = homeDirectoryForAccount identity.accountID ∧
      200000 ≤ identity.uid ∧ identity.uid ≤ 249999 ∧ identity.gid = identity.uid)

/-- One segment of `path.Clean`, on the segments kept so far, last one first. -/
def cleanSegment (rooted : Bool) (kept : List String) (segment : String) : List String :=
  if segment = "" ∨ segment = "." then kept
  else if segment = ".." then
    match kept with
    | [] => if rooted then [] else [".."]
    | ".." :: _ => ".." :: kept
    | _ :: rest => rest
  else segment :: kept

def cleanPath (value : String) : String :=
  let rooted := value.toList.head? == some '/'
  let body := "/".intercalate ((splitText '/' value).foldl (cleanSegment rooted) []).reverse
  if rooted then "/" ++ body else if body = "" then "." else body

def joinPath (elements : List String) : String :=
  let elements := elements.filter (· ≠ "")
  if elements = [] then "" else cleanPath ("/".intercalate elements)

def isApprovedVersion (version : String) : Bool :=
  version == "8.3" || version == "8.4" || version == "8.5"

def socketPath (identity : Identity) (version : String) : Except RenderError String :=
  if identity.valid && isApprovedVersion version then
    pure (joinPath ["/run/stackfort-php", "account-" ++ toString identity.uid ++ "-php" ++ version ++ ".sock"])
  else throw .invalidSpec

def certificatePath (certificateID : String) : Except RenderError String :=
  if isCanonicalUUIDv7 certificateID then
    pure (joinPath ["/etc/nginx/stackfort/certificates", certificateID, "fullchain.pem"])
  else throw .invalidSpec

def privateKeyPath (certificateID : String) : Except RenderError String :=
  if isCanonicalUUIDv7 certificateID then
    pure (joinPath ["/etc/nginx/stackfort/certificates", certificateID, "private-key.pem"])
  else throw .invalidSpec

/-- `wafconfig.ProfilePath`; the empty path stands for a firewall that is off. -/
def profilePath : Choice WAFMode → Except RenderError String
  | .unset | .known .off => pure ""
  | .known .detectionOnly => pure "/etc/nginx/stackfort/coraza/profiles/detection-pl1.conf"
  | .known .blockingPL1 => pure "/etc/nginx/stackfort/coraza/profiles/blocking-pl1.conf"
  | .unsupported _ => throw .invalidSpec

/-! ### Headers and upstreams -/

def HeaderPolicy.text : HeaderPolicy → String
  | .noSniff => "x-content-type-options-nosniff"
  | .referrerStrictOrigin => "referrer-policy-strict-origin"
  | .permissionsSensitiveOff => "permissions-sensitive-features-off"
  | .unsupported text => text

structure RenderedHeader where
  policy : HeaderPolicy
  (name value : String)
  deriving DecidableEq

def prepareHeader : HeaderPolicy → Except RenderError RenderedHeader
  | .noSniff => pure ⟨.noSniff, "X-Content-Type-Options", "nosniff"⟩
  | .referrerStrictOrigin => pure ⟨.referrerStrictOrigin, "Referrer-Policy", "strict-origin-when-cross-origin"⟩
  | .permissionsSensitiveOff =>
    pure ⟨.permissionsSensitiveOff, "Permissions-Policy", "camera=(), microphone=(), geolocation=()"⟩
  | .unsupported _ => throw .invalidSpec

def prepareHeaders (policies : List HeaderPolicy) : Except RenderError (List RenderedHeader) := do
  if maximumHeaderPolicies < policies.length ∨ ¬policies.Nodup then throw .invalidSpec
  let headers ← policies.mapM prepareHeader
  pure (headers.insertionSort fun left right => left.policy.text ≤ right.policy.text)

/-- The upstreams come in the order of their applications and no two share a port. -/
def prepareOCIUpstreams (values : List OCIApplicationUpstream) :
    Except RenderError (List OCIApplicationUpstream) :=
  if maximumDomains < values.length ∨
      (values.any fun value => !isCanonicalUUIDv7 value.applicationID ||
        decide (value.loopbackPort < minimumLoopbackPort ∨ maximumLoopbackPort < value.loopbackPort)) ∨
      ¬(values.map (·.applicationID)).IsChain (· < ·) ∨ ¬(values.map (·.loopbackPort)).Nodup then
    throw .invalidSpec
  else pure values

def upstreamPort (upstreams : List OCIApplicationUpstream) (applicationID : String) : Option Int :=
  (upstreams.find? fun upstream => decide (upstream.applicationID = applicationID)).map
    (·.loopbackPort)

/-! ### Prepared domains -/

structure PreparedWAFException where
  (localRuleID ruleID : Nat)
  (requestPath parameter : String)
  expiresUnix : Int
  deriving DecidableEq

structure PreparedRedirect where
  statusCode : Int
  target : String
  hostMode : RedirectHostMode
  (preservePath preserveQuery wildcard requiresQueryMap : Bool)
  queryVariable : String
  deriving DecidableEq

structure PreparedDomain where
  domain : CoreDomain
  (base documentRoot phpSocket : String)
  http01 : Bool
  (certificateID wafProfile : String)
  wafExceptions : List PreparedWAFException
  cachePreset : CachePreset
  activationVariable : String
  redirect : Option PreparedRedirect
  upstreamPort : Int
  applicationID : String
  deriving DecidableEq

/-- `value.UTC().Unix()`. -/
def unixSeconds (value : Time) : Int := (value / second : Nat) - 62135596800

section

variable (services : RenderServices)

/-- The identifier of the rule an exception is rendered as, below those of the core rule set. -/
def exceptionRuleID (exceptionID : String) : Nat :=
  let digest := services.digest exceptionID
  100000 + (((digest[0].toNat * 256 + digest[1].toNat) * 256 + digest[2].toNat) * 256 + digest[3].toNat) % 100000

/-- The record of an exception is well formed and belongs to its domain. -/
def exceptionAllowed (domain : CoreDomain) (exception : CoreWAFException) : Bool :=
  isCanonicalUUIDv7 exception.id && decide (exception.expiresAt ≠ 0) &&
    (exceptionScopeError exception.ruleID exception.requestPath exception.parameter).isNone &&
    decide ((exception.accountID = "" ∨ exception.accountID = domain.accountID) ∧
      (exception.domainID = "" ∨ domain.id = "" ∨ exception.domainID = domain.id))

def prepareException (exception : CoreWAFException) : PreparedWAFException :=
  ⟨exceptionRuleID services exception.id, exception.ruleID, exception.requestPath, exception.parameter,
    unixSeconds exception.expiresAt⟩

def prepareWAFExceptions (domain : CoreDomain) : Except RenderError (List PreparedWAFException) := do
  if maximumExceptions < domain.wafExceptions.length ∨
      domain.wafMode = .known .off ∧ domain.wafExceptions ≠ [] then
    throw .invalidSpec
  if !domain.wafExceptions.all (exceptionAllowed domain) then throw .invalidSpec
  if ¬(domain.wafExceptions.map (·.id)).Nodup ∨
      ¬(domain.wafExceptions.map fun exception => exceptionRuleID services exception.id).Nodup then
    throw .invalidSpec
  pure ((domain.wafExceptions.map (prepareException services)).insertionSort
    fun left right => left.localRuleID ≤ right.localRuleID)

def prepareRedirect (target : CoreTarget) : Except RenderError PreparedRedirect :=
  match target.redirect with
  | none => throw .invalidSpec
  | some redirect => do
      if target.documentRoot.isSome ∨ target.applicationID.isSome ∨ target.phpVersion ≠ "" then
        throw .invalidSpec
      if redirect.statusCode ≠ 301 ∧ redirect.statusCode ≠ 302 then throw .invalidSpec
      let hostMode ← (redirect.hostMode.normalize .both "").mapError fun _ => RenderError.invalidSpec
      if redirect.wildcardSubdomains ∧ hostMode ≠ .both then throw .invalidSpec
      let normalized ← (normalizeRedirectURL services.toNameServices redirect.targetURL).mapError
        fun _ => RenderError.invalidSpec
      if normalized.url ≠ redirect.targetURL ∨ normalized.asciiHost ≠ redirect.targetASCIIHost then
        throw .invalidSpec
      match services.parseURL normalized.url with
      | none => throw .invalidSpec
      | some parsed =>
        pure ⟨redirect.statusCode, normalized.url, hostMode, redirect.preservePath, redirect.preserveQuery,
          redirect.wildcardSubdomains, redirect.preserveQuery && decide (parsed.rawQuery ≠ ""), ""⟩

/-- The directory a static or PHP target serves and the socket of its interpreter. -/
def prepareRoot (identity : Identity) (target : CoreTarget) : Except RenderError (String × String) :=
  match target.documentRoot with
  | none => throw .invalidSpec
  | some root => do
      if target.redirect.isSome ∨ target.applicationID.isSome ∨
          (target.type = .known .static ∧ target.phpVersion ≠ "") ∨
          (target.type = .known .php ∧ target.phpVersion = "") ∨ root.accountID ≠ identity.accountID then
        throw .invalidSpec
      let relative ← (normalizeDocumentRoot root.relativePath).mapError fun _ => RenderError.invalidSpec
      if relative ≠ root.relativePath then throw .invalidSpec
      let socket ← if target.type = .known .php then socketPath identity target.phpVersion else pure ""
      pure (joinPath [identity.homeDirectory, relative], socket)

/-- The port and the identifier of a routed application. -/
def prepareApplication (upstreams : List OCIApplicationUpstream) (target : CoreTarget) :
    Except RenderError (Int × String) :=
  match target.applicationID with
  | none => throw .invalidSpec
  | some applicationID =>
    if target.documentRoot.isSome ∨ target.redirect.isSome ∨ target.phpVersion ≠ "" then throw .invalidSpec
    else
      match upstreamPort upstreams applicationID with
      | none => throw .invalidSpec
      | some port => pure (port, applicationID)

/-- Both forms of the name are their own normal form, and it is not the name of a `www` alias. -/
def nameAllowed (name : NormalizedDomainName) : Bool :=
  match normalizeDomainName services.toNameServices name.ascii,
      normalizeDomainName services.toNameServices name.display with
  | .ok ascii, .ok display =>
    decide (ascii.ascii = name.ascii ∧ display = name) && !"www.".toList.isPrefixOf name.ascii.toList
  | _, _ => false

def CoreTLSState.http01 (tls : CoreTLSState) : Bool :=
  tls.enabled && decide (tls.mode = .known .acme ∧ tls.challengeType = .known .http01)

/-- A certificate in use has an identifier and covers the two exact hosts of the domain. -/
def certificateAllowed (domain : CoreDomain) : Bool :=
  decide (domain.tls.activeCertificateRef = "") ||
    (isCanonicalUUIDv7 domain.tls.activeCertificateRef &&
      decide (domain.tls.names = [domain.name.ascii, "www." ++ domain.name.ascii]))

/-- A page cache needs a PHP target, and the one in the web server a generation. -/
def cacheAllowed (domain : CoreDomain) (preset : CachePreset) : Bool :=
  decide (preset = .disabled ∨ domain.target.type = .known .php) &&
    (!preset.isFastCGI || isCanonicalUUIDv7 domain.cacheGeneration)

/-- A live domain before its target is looked at. -/
def checkedItem (domain : CoreDomain) (wafProfile : String) (wafExceptions : List PreparedWAFException)
    (cachePreset : CachePreset) : PreparedDomain :=
  ⟨domain, domain.name.ascii, "", "", domain.tls.http01, domain.tls.activeCertificateRef, wafProfile, wafExceptions,
    cachePreset, "", none, 0, ""⟩

def prepareTarget (identity : Identity) (upstreams : List OCIApplicationUpstream) (item : PreparedDomain) :
    Except RenderError PreparedDomain :=
  match item.domain.target.type with
  | .known .static | .known .php => do
      let (documentRoot, phpSocket) ← prepareRoot identity item.domain.target
      pure { item with documentRoot := documentRoot, phpSocket := phpSocket }
  | .known .redirect => do
      let redirect ← prepareRedirect services item.domain.target
      pure { item with redirect := some redirect }
  | .known .ociApplication => do
      let (port, applicationID) ← prepareApplication upstreams item.domain.target
      pure { item with upstreamPort := port, applicationID := applicationID }
  | .unset | .unsupported _ => throw .invalidSpec

/-- A pending or active domain after the checks on its names. -/
def prepareLiveDomain (identity : Identity) (domain : CoreDomain) (upstreams : List OCIApplicationUpstream) :
    Except RenderError PreparedDomain := do
  if !certificateAllowed domain then throw .invalidSpec
  let wafProfile ← profilePath domain.wafMode
  let cachePreset ← (normalizeCachePreset domain.cachePreset).mapError fun _ => RenderError.invalidSpec
  if !cacheAllowed domain cachePreset then throw .invalidSpec
  let wafExceptions ← prepareWAFExceptions services domain
  prepareTarget services identity upstreams (checkedItem domain wafProfile wafExceptions cachePreset)

def CoreDomain.live (domain : CoreDomain) : Bool :=
  decide (domain.status = .known .pending ∨ domain.status = .known .active)

def CoreDomain.inactive (domain : CoreDomain) : Bool :=
  decide (domain.status = .known .suspended ∨ domain.status = .known .removed)

/-- `none` for a domain that is checked and not rendered. -/
def prepareDomain (identity : Identity) (domain : CoreDomain) (upstreams : List OCIApplicationUpstream) :
    Except RenderError (Option PreparedDomain) := do
  if domain.accountID ≠ identity.accountID then throw .invalidSpec
  if !nameAllowed services domain.name then throw .invalidSpec
  if !domain.canonicalMode.isKnown then throw .invalidSpec
  match domain.status with
  | .known .pending | .known .active =>
    let item ← prepareLiveDomain services identity domain upstreams
    pure (some item)
  | .known .suspended | .known .removed => pure none
  | .unset | .unsupported _ => throw .invalidSpec

theorem prepareDomain_eq_ok_iff {identity : Identity} {domain : CoreDomain}
    {upstreams : List OCIApplicationUpstream} {result : Option PreparedDomain} :
    prepareDomain services identity domain upstreams = .ok result ↔
      domain.accountID = identity.accountID ∧ nameAllowed services domain.name = true ∧
        domain.canonicalMode.isKnown = true ∧
        (domain.inactive = true ∧ result = none ∨ domain.live = true ∧
            ∃ item, prepareLiveDomain services identity domain upstreams = .ok item ∧ result = some item) := by
  simp only [prepareDomain, guard_eq_ok_iff, ne_eq, not_not, Bool.not_eq_true', Bool.not_eq_false]
  refine and_congr_right fun _ => and_congr_right fun _ => and_congr_right fun _ => ?_
  cases hstatus : domain.status with
  | unset => simp [throw_eq_error, CoreDomain.inactive, CoreDomain.live, hstatus]
  | unsupported text => simp [throw_eq_error, CoreDomain.inactive, CoreDomain.live, hstatus]
  | known status =>
    cases status <;>
      simp [bind_eq_ok_iff, pure_eq_ok, CoreDomain.inactive, CoreDomain.live, hstatus,
        eq_comm (b := result)]

end

/-! ### The domains of an account together -/

/-- The names a name is a subdomain of. -/
def parentNames : List Char → List (List Char)
  | [] => []
  | c :: rest => if c = '.' then rest :: parentNames rest else parentNames rest

def wildcardParents (domains : List PreparedDomain) : List String :=
  (domains.filter fun item => item.redirect.any PreparedRedirect.wildcard).map (·.base)

/-- Expects the domains in the order of their names. -/
def validateRouteConflicts (domains : List PreparedDomain) : Except RenderError Unit := do
  if ¬(domains.map (·.base)).IsChain (· ≠ ·) then throw .invalidSpec
  let parents := wildcardParents domains
  if domains.any fun item => (parentNames item.base.toList).any fun parent => parents.contains (String.ofList parent)
    then throw .invalidSpec

/-- Numbers the redirects that join two query strings. -/
def assignQueryVariables : Nat → List PreparedDomain → List PreparedDomain
  | _, [] => []
  | next, item :: rest =>
    match item.redirect with
    | none => item :: assignQueryVariables next rest
    | some redirect =>
      if redirect.requiresQueryMap then
        let variableName := "sf_redirect_query_" ++ String.ofList (paddedDecimal 5 next)
        { item with redirect := some { redirect with queryVariable := variableName } } ::
          assignQueryVariables (next + 1) rest
      else item :: assignQueryVariables next rest

end Stackfort.Nginx
