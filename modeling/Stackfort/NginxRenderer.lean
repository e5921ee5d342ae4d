import Stackfort.NginxPreparation

/-! The text of an account's configuration. Every prepared domain becomes a few `server` blocks: one for
the alias that is redirected to the canonical host, one that sends plain requests to TLS once there
is a certificate, and one that serves files, PHP, an application or a redirect. A writer of the
source appends to a buffer; here it returns the text it appends. -/

namespace Stackfort.Nginx

/-! ### Quoting -/

def quotedCharacter (encodeURLDollar : Bool) (c : Char) : List Char :=
  if c = '$' ∧ encodeURLDollar then "%24".toList
  else if c = '\\' ∨ c = '"' then ['\\', c]
  else [c]

def quotedContent (literal : String) (encodeURLDollar : Bool) : String :=
  String.ofList (literal.toList.flatMap (quotedCharacter encodeURLDollar))

def quote (literal trustedVariables : String) (encodeURLDollar : Bool) : String :=
  "\"" ++ quotedContent literal encodeURLDollar ++ trustedVariables ++ "\""

def quoteLiteral (value : String) : String := quote value "" false

def quoteDynamic (literal trustedVariables : String) : String := quote literal trustedVariables true

/-- `regexp.QuoteMeta`. -/
def quoteMeta (value : String) : String :=
  String.ofList (value.toList.flatMap fun c =>
    if "\\.+*?()|[]\x7b\x7d^$".toList.contains c then ['\\', c] else [c])

def encodeHex (bytes : List UInt8) : String :=
  String.ofList (bytes.flatMap fun byte => [Nat.digitChar (byte.toNat / 16), Nat.digitChar (byte.toNat % 16)])

section

variable (services : RenderServices)

/-- The value of a redirect: its URL without the query, then the path and the query of the request where
they are kept. -/
def quoteRedirectValue (redirect : PreparedRedirect) : String :=
  match services.parseURL redirect.target with
  | none => ""
  | some parsed =>
    let address := services.formatURL { parsed with rawQuery := "" }
    let path := if redirect.preservePath then "$uri" else ""
    let query :=
      if parsed.rawQuery ≠ "" then
        quotedContent ("?" ++ parsed.rawQuery) true ++
          if redirect.preserveQuery then "$" ++ redirect.queryVariable else ""
      else if redirect.preserveQuery then "$is_args$args" else ""
    "\"" ++ quotedContent address true ++ path ++ query ++ "\""

/-- The log of a domain, under a name that hides the domain. -/
def domainLogFile (accountID domainASCII kind : String) : String :=
  joinPath ["/var/log/stackfort/accounts", accountID,
    "domain-" ++ encodeHex (services.digest domainASCII).toList ++ "." ++ kind ++ ".log"]

/-! ### Maps and upstreams -/

def writeQueryMap (variableName : String) : String :=
  "map $args $" ++ variableName ++ " \x7b\n    \"\" \"\";\n    default \"&$args\";\n\x7d\n\n"

def writeActivationMap (variableName revisionID : String) : String :=
  "map $request_uri " ++ variableName ++ " \x7b\n    default \"\";\n    \"/.__stackfort_activation_probe__\" " ++
    quoteLiteral revisionID ++ ";\n\x7d\n\n"

def ociUpstreamName (applicationID : String) : String := "sf_app_" ++ withoutDashes applicationID

def ociUpstreamBlock (item : PreparedDomain) : String :=
  "upstream " ++ ociUpstreamName item.applicationID ++ " \x7b\n    server 127.0.0.1:" ++
    toString item.upstreamPort ++ ";\n    keepalive 32;\n\x7d\n\n"

/-- One block for each application, where its first domain stands. -/
def writeOCIUpstreamBlocks (seen : List String) : List PreparedDomain → String
  | [] => ""
  | item :: rest =>
    if item.applicationID = "" ∨ item.applicationID ∈ seen then writeOCIUpstreamBlocks seen rest
    else ociUpstreamBlock item ++ writeOCIUpstreamBlocks (item.applicationID :: seen) rest

/-! ### Parts of a server -/

def writeHTTPServerStart (hosts : List String) : String :=
  "server \x7b\n    listen 80;\n    listen [::]:80;\n    server_name " ++ " ".intercalate hosts ++ ";\n"

/-- The identifier has been checked, so both paths exist. -/
def writeHTTPSServerStart (hosts : List String) (certificateID : String) : String :=
  let path := fun result : Except RenderError String => result.toOption.getD ""
  "server \x7b\n    listen 443 ssl;\n    listen [::]:443 ssl;\n    server_name " ++ " ".intercalate hosts ++
    ";\n    ssl_certificate " ++ quoteLiteral (path (certificatePath certificateID)) ++
    ";\n    ssl_certificate_key " ++ quoteLiteral (path (privateKeyPath certificateID)) ++
    ";\n    ssl_protocols TLSv1.2 TLSv1.3;\n    ssl_session_tickets off;\n"

def writeHeader (header : RenderedHeader) : String :=
  "    add_header " ++ header.name ++ " " ++ quoteLiteral header.value ++ " always;\n"

def writeHeaders (headers : List RenderedHeader) (activationVariable : String) : String :=
  "".intercalate (headers.map writeHeader) ++
    if activationVariable ≠ "" then "    add_header X-Stackfort-Activation " ++ activationVariable ++ " always;\n"
    else ""

def writeDomainLogs (item : PreparedDomain) : String :=
  let accountID := item.domain.accountID
  "    access_log " ++ quoteLiteral (domainLogFile services accountID item.base "access") ++
    " stackfort_redacted;\n    error_log " ++ quoteLiteral (domainLogFile services accountID item.base "error") ++
    " warn;\n"

def writeWAFExceptionRules (exception : PreparedWAFException) : String :=
  let requestPattern :=
    if exception.requestPath ≠ "" then "^" ++ quoteMeta exception.requestPath ++ "(?:\\?.*)?$" else "^/"
  let action :=
    if exception.parameter ≠ "" then
      "ctl:ruleRemoveTargetById=" ++ toString exception.ruleID ++ ";ARGS:" ++ exception.parameter
    else "ctl:ruleRemoveById=" ++ toString exception.ruleID
  "        SecRule TIME_EPOCH \"@lt " ++ toString exception.expiresUnix ++ "\" \"id:" ++
    toString exception.localRuleID ++ ",phase:1,pass,nolog,chain\"\n        SecRule REQUEST_URI \"@rx " ++
    requestPattern ++ "\" \"t:none," ++ action ++ "\"\n"

def writeWAFPolicy (item : PreparedDomain) : String :=
  if item.wafProfile = "" then ""
  else
    "    coraza on;\n    coraza_transaction_id $request_id;\n" ++
      if item.wafExceptions = [] then "    coraza_rules_file " ++ quoteLiteral item.wafProfile ++ ";\n"
      else
        "    coraza_rules '\n" ++ "".intercalate (item.wafExceptions.map writeWAFExceptionRules) ++
          "        Include " ++ item.wafProfile ++ "\n    ';\n"

def writeHTTP01Location (disableWAF : Bool) : String :=
  "\n    # Root-owned ACME HTTP-01 responses bypass site redirects and caches.\n" ++
    "    location ^~ /.well-known/acme-challenge/ \x7b\n" ++
    (if disableWAF then "        coraza off;\n" else "") ++
    "        alias /var/lib/stackfort-agent/acme-http01/;\n        default_type application/octet-stream;\n" ++
    "        add_header Cache-Control \"no-store\" always;\n" ++
    "        add_header X-Content-Type-Options \"nosniff\" always;\n" ++
    "        limit_except GET HEAD \x7b deny all; \x7d\n" ++
    "        autoindex off;\n        disable_symlinks on;\n    \x7d\n"

def writeQuotedReturnLocation (statusCode : Int) (value : String) : String :=
  "\n    location / \x7b\n        return " ++ toString statusCode ++ " " ++ value ++ ";\n    \x7d\n"

/-- A return is carried out before the firewall sees the request, so here it stands in a named location
that is reached after it. -/
def writeWAFQuotedReturnLocation (statusCode : Int) (value : String) : String :=
  "\n    location / \x7b\n        try_files /.__stackfort_waf_redirect_never_exists__ @stackfort_waf_redirect;\n    \x7d\n" ++
    "\n    location @stackfort_waf_redirect \x7b\n        return " ++ toString statusCode ++ " " ++ value ++
    ";\n    \x7d\n"

def writeReturnLocation (statusCode : Int) (literal trusted : String) : String :=
  writeQuotedReturnLocation statusCode (quoteDynamic literal trusted)

def writeWAFReturnLocation (statusCode : Int) (literal trusted : String) : String :=
  writeWAFQuotedReturnLocation statusCode (quoteDynamic literal trusted)

def writeNotFoundLocation : String := "\n    location / \x7b\n        return 404;\n    \x7d\n"

def canonicalHosts (base : String) : CanonicalMode → String × String
  | .preferWWW => ("www." ++ base, base)
  | .serveBoth => (base, "")
  | .preferApex => (base, "www." ++ base)

/-- What the switch of `canonicalHosts` makes of a mode that is not one of the known ones. -/
def canonicalModeOf (item : PreparedDomain) : CanonicalMode :=
  match item.domain.canonicalMode with
  | .known mode => mode
  | .unset | .unsupported _ => .preferApex

def redirectHosts (base : String) : RedirectHostMode → List String × List String
  | .apexOnly => ([base], ["www." ++ base])
  | .wwwOnly => (["www." ++ base], [base])
  | .both => ([base, "www." ++ base], [])

/-! ### Servers shared by the kinds of target -/

/-- The lines every server of a domain begins with. -/
def writePolicies (item : PreparedDomain) (headers : List RenderedHeader) : String :=
  writeDomainLogs services item ++ writeWAFPolicy item ++ writeHeaders headers item.activationVariable

def writeChallenge (item : PreparedDomain) : String :=
  if item.http01 then writeHTTP01Location (item.wafProfile ≠ "") else ""

/-- A permanent redirect in a location of its own. -/
def writeRedirectLocation (item : PreparedDomain) (literal trusted : String) : String :=
  if item.wafProfile ≠ "" then writeWAFReturnLocation 301 literal trusted
  else writeReturnLocation 301 literal trusted

/-- A permanent redirect of the whole server, which needs no location unless the firewall is on. -/
def writeServerRedirect (item : PreparedDomain) (literal trusted : String) : String :=
  if item.wafProfile ≠ "" then writeWAFReturnLocation 301 literal trusted
  else "    return 301 " ++ quoteDynamic literal trusted ++ ";\n"

/-- The servers of the alias in front of a proxied target. -/
def writeProxyAlias (item : PreparedDomain) (headers : List RenderedHeader) : String :=
  let (canonical, aliasHost) := canonicalHosts item.base (canonicalModeOf item)
  if aliasHost = "" then ""
  else
    writeHTTPServerStart [aliasHost] ++ writePolicies services item headers ++ writeChallenge item ++
      writeRedirectLocation item ("https://" ++ canonical) "$request_uri" ++ "\x7d\n\n" ++
      if item.certificateID = "" then ""
      else
        writeHTTPSServerStart [aliasHost] item.certificateID ++ writePolicies services item headers ++
          writeRedirectLocation item ("https://" ++ canonical) "$request_uri" ++ "\x7d\n\n"

/-- The servers of the alias in front of a static or PHP target. -/
def writeStaticAlias (item : PreparedDomain) (headers : List RenderedHeader) : String :=
  let (canonical, aliasHost) := canonicalHosts item.base (canonicalModeOf item)
  if aliasHost = "" then ""
  else
    writeHTTPServerStart [aliasHost] ++ writePolicies services item headers ++
      (if item.http01 then
        writeHTTP01Location (item.wafProfile ≠ "") ++
          writeRedirectLocation item ("https://" ++ canonical) "$request_uri"
      else writeServerRedirect item ("https://" ++ canonical) "$request_uri") ++ "\x7d\n\n" ++
      if item.certificateID = "" then ""
      else
        writeHTTPSServerStart [aliasHost] item.certificateID ++ writePolicies services item headers ++
          writeServerRedirect item ("https://" ++ canonical) "$request_uri" ++ "\x7d\n\n"

def servedHosts (item : PreparedDomain) : List String :=
  if item.domain.canonicalMode = .known .serveBoth then [item.base, "www." ++ item.base]
  else [(canonicalHosts item.base (canonicalModeOf item)).1]

/-- The start of the server that serves; with a certificate, a server that redirects to it comes first. -/
def writeServingStart (item : PreparedDomain) (headers : List RenderedHeader) : String :=
  let canonical := (canonicalHosts item.base (canonicalModeOf item)).1
  if item.certificateID = "" then writeHTTPServerStart (servedHosts item)
  else
    writeHTTPServerStart (servedHosts item) ++ writePolicies services item headers ++ writeChallenge item ++
      (if item.domain.canonicalMode = .known .serveBoth then
        writeRedirectLocation item "https://" "$host$request_uri"
      else writeRedirectLocation item ("https://" ++ canonical) "$request_uri") ++
      "\x7d\n\n" ++ writeHTTPSServerStart (servedHosts item) item.certificateID

/-- The challenge location of the serving server, unless the redirecting one has it. -/
def writeServingChallenge (item : PreparedDomain) : String :=
  if item.certificateID = "" then writeChallenge item else ""

/-! ### The kinds of target -/

def writeOCIApplicationDomain (item : PreparedDomain) (headers : List RenderedHeader) : String :=
  writeProxyAlias services item headers ++ writeServingStart services item headers ++
    writePolicies services item headers ++ writeServingChallenge item ++
    "\n    location / \x7b\n        proxy_http_version 1.1;\n" ++
    "        proxy_set_header Connection \"\";\n        proxy_set_header Host $host;\n" ++
    "        proxy_set_header X-Forwarded-Proto $scheme;\n" ++
    "        proxy_set_header X-Forwarded-For $remote_addr;\n" ++
    "        proxy_set_header X-Forwarded-Host $host;\n" ++
    "        proxy_connect_timeout 2s;\n        proxy_send_timeout 60s;\n        proxy_read_timeout 60s;\n" ++
    "        proxy_pass http://" ++ ociUpstreamName item.applicationID ++ ";\n    \x7d\n\x7d\n\n"

def writeFastCGICache (item : PreparedDomain) : String :=
  "        fastcgi_cache StackfortFastCGI;\n        fastcgi_cache_key " ++
    quoteDynamic (item.domain.accountID ++ ":" ++ item.base ++ ":" ++ item.domain.cacheGeneration ++ ":")
      "$scheme:$host:$request_uri" ++
    ";\n        fastcgi_cache_methods GET;\n" ++
    "        fastcgi_cache_bypass $stackfort_fastcgi_request_bypass $stackfort_fastcgi_path_bypass;\n" ++
    "        fastcgi_no_cache $stackfort_fastcgi_request_bypass $stackfort_fastcgi_path_bypass $stackfort_fastcgi_response_bypass" ++
    (if item.cachePreset = .fastCGIRespectOrigin then " $stackfort_fastcgi_origin_bypass" else "") ++
    ";\n        fastcgi_cache_valid 200 120s;\n        fastcgi_cache_lock on;\n" ++
    "        fastcgi_cache_lock_timeout 5s;\n        fastcgi_cache_lock_age 5s;\n" ++
    "        fastcgi_cache_background_update off;\n        fastcgi_cache_use_stale off;\n" ++
    "        # Preserve NGINX's Cache-Control, Expires, Set-Cookie and Vary handling.\n" ++
    "        # Do not let an application override that policy using X-Accel-Expires.\n" ++
    "        fastcgi_ignore_headers X-Accel-Expires;\n        fastcgi_hide_header X-Stackfort-Cache;\n" ++
    "        fastcgi_param HTTP_X_FORWARDED_HOST $host;\n        fastcgi_param HTTP_X_FORWARDED_PROTO $scheme;\n" ++
    "        fastcgi_param HTTP_X_FORWARDED_FOR $remote_addr;\n        fastcgi_param HTTP_FORWARDED \"\";\n" ++
    "        fastcgi_param HTTP_X_ORIGINAL_URL \"\";\n        fastcgi_param HTTP_X_REWRITE_URL \"\";\n"

/-- The locations of a PHP site; `cache` stands between the parameters. -/
def writePHPLocations (item : PreparedDomain) (cache : String) : String :=
  "\n    location / \x7b\n        try_files $uri $uri/ /index.php?$query_string;\n    \x7d\n" ++
    "\n    location ~ \\.php$ \x7b\n        try_files $uri =404;\n" ++
    "        include /etc/nginx/fastcgi_params;\n" ++
    "        fastcgi_param SCRIPT_FILENAME $document_root$fastcgi_script_name;\n" ++ cache ++
    "        fastcgi_param HTTP_PROXY \"\";\n        fastcgi_pass " ++ quoteLiteral ("unix:" ++ item.phpSocket) ++
    ";\n    \x7d\n\x7d\n\n"

def writeStaticDomain (item : PreparedDomain) (headers : List RenderedHeader) : String :=
  writeStaticAlias services item headers ++ writeServingStart services item headers ++
    writeDomainLogs services item ++ writeWAFPolicy item ++
    "    root " ++ quoteLiteral item.documentRoot ++ ";\n    disable_symlinks on from=$document_root;\n" ++
    (if item.phpSocket = "" then "    index index.html;\n" else "    index index.php index.html;\n") ++
    writeHeaders headers item.activationVariable ++
    (if item.cachePreset.isFastCGI then "    add_header X-Stackfort-Cache $upstream_cache_status always;\n"
      else "") ++
    writeServingChallenge item ++
    if item.phpSocket = "" then "\n    location / \x7b\n        try_files $uri $uri/ =404;\n    \x7d\n\x7d\n\n"
    else writePHPLocations item (if item.cachePreset.isFastCGI then writeFastCGICache item else "")

def writeVinylProxyLocation (preset : CachePreset) : String :=
  "\n    location / \x7b\n" ++
    "        proxy_http_version 1.1;\n        proxy_set_header Connection \"\";\n" ++
    "        proxy_set_header Host $host;\n        proxy_set_header Authorization $http_authorization;\n" ++
    "        proxy_set_header Cookie $http_cookie;\n        proxy_set_header X-Forwarded-Proto $scheme;\n" ++
    "        proxy_set_header X-Forwarded-For $remote_addr;\n        proxy_set_header X-Stackfort-Cache-Preset " ++
    quoteLiteral preset.text ++ ";\n        proxy_pass http://127.0.0.1:6081;\n    \x7d\n"

/-- The server behind the cache. -/
def writeCachedOrigin (item : PreparedDomain) : String :=
  "server \x7b\n    listen 127.0.0.1:9000;\n    server_name " ++ item.base ++ " www." ++ item.base ++
    ";\n    access_log off;\n    error_log " ++
    quoteLiteral (domainLogFile services item.domain.accountID item.base "error") ++
    " warn;\n    root " ++ quoteLiteral item.documentRoot ++
    ";\n    disable_symlinks on from=$document_root;\n    index index.php index.html;\n" ++
    writePHPLocations item ""

def writeCachedDomain (item : PreparedDomain) (headers : List RenderedHeader) : String :=
  writeProxyAlias services item headers ++ writeServingStart services item headers ++
    writePolicies services item headers ++ writeServingChallenge item ++
    writeVinylProxyLocation item.cachePreset ++ "\x7d\n\n" ++ writeCachedOrigin services item

/-- The hosts of a redirect domain that do not redirect. -/
def writeInactiveRedirectHosts (item : PreparedDomain) (hosts : List String) (headers : List RenderedHeader) :
    String :=
  writeHTTPServerStart hosts ++ writePolicies services item headers ++ writeChallenge item ++
    writeNotFoundLocation ++ "\x7d\n\n" ++
    if item.certificateID = "" then ""
    else
      writeHTTPSServerStart hosts item.certificateID ++ writePolicies services item headers ++
        writeNotFoundLocation ++ "\x7d\n\n"

def writeRedirectDomain (item : PreparedDomain) (redirect : PreparedRedirect) (headers : List RenderedHeader) :
    String :=
  let (active, inactive) := redirectHosts item.base redirect.hostMode
  let hosts := if redirect.wildcard then active ++ ["*." ++ item.base] else active
  let value := quoteRedirectValue services redirect
  let serverReturn :=
    if item.wafProfile ≠ "" then writeWAFQuotedReturnLocation redirect.statusCode value
    else "    return " ++ toString redirect.statusCode ++ " " ++ value ++ ";\n"
  writeHTTPServerStart hosts ++ writePolicies services item headers ++
    (if item.http01 then
      writeHTTP01Location (item.wafProfile ≠ "") ++
        if item.wafProfile ≠ "" then writeWAFQuotedReturnLocation redirect.statusCode value
        else writeQuotedReturnLocation redirect.statusCode value
    else serverReturn) ++ "\x7d\n\n" ++
    (if item.certificateID = "" then ""
    else
      writeHTTPSServerStart hosts item.certificateID ++ writePolicies services item headers ++ serverReturn ++
        "\x7d\n\n") ++
    if inactive = [] then "" else writeInactiveRedirectHosts services item inactive headers

/-! ### An account -/

structure Rendered where
  (fileName content : String)
  digest : Vector UInt8 32
  renderedDomains : Nat
  deriving DecidableEq

def writeDomain (headers : List RenderedHeader) (item : PreparedDomain) : String :=
  if item.upstreamPort ≠ 0 then writeOCIApplicationDomain services item headers
  else if item.cachePreset ≠ .disabled ∧ !item.cachePreset.isFastCGI then writeCachedDomain services item headers
  else
    match item.redirect with
    | none => writeStaticDomain services item headers
    | some redirect => writeRedirectDomain services item redirect headers

/-- Appends the domains one after the other, as long as the text stays within its limit. -/
def appendDomains (output : String) : List String → Except RenderError String
  | [] => pure output
  | domain :: rest =>
    if maximumRenderedBytes < (output ++ domain).utf8ByteSize then throw .renderedTooLarge
    else appendDomains (output ++ domain) rest

def activationVariable (identity : Identity) (options : Options) : Except RenderError String :=
  if options.activationRevisionID = "" then pure ""
  else if isCanonicalUUIDv7 options.activationRevisionID then
    pure ("$sf_activation_" ++ withoutDashes identity.accountID)
  else throw .invalidSpec

/-- The map of a redirect that joins two query strings. -/
def domainQueryMap (item : PreparedDomain) : String :=
  match item.redirect with
  | none => ""
  | some redirect => if redirect.queryVariable ≠ "" then writeQueryMap redirect.queryVariable else ""

/-- What stands before the domains. -/
def writePreamble (identity : Identity) (options : Options) (activation : String)
    (prepared : List PreparedDomain) : String :=
  "# Managed by Stackfort. Do not edit.\n# Account: " ++ identity.accountID ++ "\n\n" ++
    (if activation ≠ "" then writeActivationMap activation options.activationRevisionID else "") ++
    "".intercalate (prepared.map domainQueryMap) ++ writeOCIUpstreamBlocks [] prepared

def sortPrepared (prepared : List PreparedDomain) : List PreparedDomain :=
  prepared.insertionSort fun left right => left.base ≤ right.base

/-- The live domains of a list, prepared. -/
def prepareDomains (identity : Identity) (upstreams : List OCIApplicationUpstream) (domains : List CoreDomain) :
    Except RenderError (List PreparedDomain) := do
  let items ← domains.mapM fun domain => prepareDomain services identity domain upstreams
  pure (items.filterMap id)

theorem prepareDomains_cons (identity : Identity) (upstreams : List OCIApplicationUpstream) (domain : CoreDomain)
    (domains : List CoreDomain) :
    prepareDomains services identity upstreams (domain :: domains) =
      (do
        let item ← prepareDomain services identity domain upstreams
        let rest ← prepareDomains services identity upstreams domains
        pure (item.toList ++ rest)) := by
  unfold prepareDomains
  rw [List.mapM_cons]
  cases prepareDomain services identity domain upstreams with
  | error error => rfl
  | ok item =>
    cases domains.mapM fun domain => prepareDomain services identity domain upstreams with
    | error error => rfl
    | ok rest => cases item <;> rfl

/-- The text of the prepared domains. -/
def renderPrepared (identity : Identity) (options : Options) (headers : List RenderedHeader)
    (activation : String) (prepared : List PreparedDomain) : Except RenderError Rendered := do
  let prepared := sortPrepared (prepared.map fun item => { item with activationVariable := activation })
  validateRouteConflicts prepared
  let prepared := assignQueryVariables 1 prepared
  let preamble := writePreamble identity options activation prepared
  if maximumRenderedBytes < preamble.utf8ByteSize then throw .renderedTooLarge
  let content ← appendDomains preamble (prepared.map (writeDomain services headers))
  pure ⟨"account-" ++ identity.accountID ++ ".conf", content, services.digest content, prepared.length⟩

def renderAccount (identity : Identity) (domains : List CoreDomain) (options : Options) :
    Except RenderError Rendered := do
  if !identity.valid ∨ maximumDomains < domains.length then throw .invalidSpec
  let headers ← prepareHeaders options.headerPolicies
  let upstreams ← prepareOCIUpstreams options.ociUpstreams
  let activation ← activationVariable identity options
  let prepared ← prepareDomains services identity upstreams domains
  renderPrepared services identity options headers activation prepared

end

end Stackfort.Nginx
