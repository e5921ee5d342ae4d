import Stackfort.NginxRenderer

/-! The wire form. The control plane sends the agent a reduced record of every live domain, and the agent
puts domains together again and renders them itself; the activation is refused when the two texts
differ. A domain loses on the way its own identifier, the owner of its exceptions and most of its TLS
state. `CoreDomain.wired` is what arrives: preparing it gives the same item up to the domain it
carries, and no writer reads what was lost. -/

namespace Stackfort.Nginx

open List

/-! ### Specs -/

def exceptionSpec (exception : CoreWAFException) : WAFExceptionSpec :=
  ⟨exception.id, exception.ruleID, exception.requestPath, exception.parameter, exception.expiresAt⟩

def redirectSpec (redirect : CoreRedirect) : RedirectSpec :=
  ⟨redirect.statusCode, redirect.targetURL, redirect.targetASCIIHost, redirect.hostMode, redirect.preservePath,
    redirect.preserveQuery, redirect.wildcardSubdomains⟩

/-- The source reads a document root and a redirect that the rendering has found to be there. -/
def targetSpec (target : CoreTarget) : Except RenderError TargetSpec :=
  match target.type with
  | .known .static | .known .php =>
    pure ⟨target.type, (target.documentRoot.map (·.relativePath)).getD "", target.phpVersion, none, ""⟩
  | .known .redirect => pure ⟨target.type, "", "", target.redirect.map redirectSpec, ""⟩
  | .known .ociApplication =>
    match target.applicationID with
    | none => throw .invalidSpec
    | some applicationID => pure ⟨target.type, "", "", none, applicationID⟩
  | .unset | .unsupported _ => throw .unsupportedTarget

def domainSpec (domain : CoreDomain) : Except RenderError DomainSpec := do
  let target ← targetSpec domain.target
  pure ⟨domain.name, domain.status, domain.canonicalMode, domain.tls.http01, domain.tls.activeCertificateRef,
    domain.wafMode, domain.wafExceptions.map exceptionSpec, domain.cachePreset, domain.cacheGeneration, target⟩

def specsFromDomains (services : RenderServices) (identity : Identity) (domains : List CoreDomain)
    (options : Options) : Except RenderError (List DomainSpec) := do
  let _ ← renderAccount services identity domains options
  (domains.filter fun domain => !domain.inactive).mapM domainSpec

/-! ### Domains put together again -/

def rehydrateException (accountID : String) (exception : WAFExceptionSpec) : CoreWAFException :=
  ⟨exception.id, accountID, "", exception.ruleID, exception.requestPath, exception.parameter, exception.expiresAt⟩

def rehydrateRedirect (redirect : RedirectSpec) : CoreRedirect :=
  ⟨redirect.statusCode, redirect.targetURL, redirect.targetASCIIHost, redirect.hostMode, redirect.preservePath,
    redirect.preserveQuery, redirect.wildcardSubdomains⟩

/-- The TLS state: none, one that waits for a challenge, or one with a certificate. -/
def rehydrateTLS (asciiName : String) (http01 : Bool) (certificateID : String) : CoreTLSState :=
  if certificateID ≠ "" then
    ⟨true, .known .acme, .known .http01, [asciiName, "www." ++ asciiName], certificateID⟩
  else if http01 then ⟨true, .known .acme, .known .http01, [], ""⟩
  else ⟨false, .unset, .unset, [], ""⟩

def rehydrateTarget (accountID : String) (target : TargetSpec) : Except RenderError CoreTarget :=
  match target.type with
  | .known .static | .known .php =>
    if target.documentRoot = "" ∨ target.redirect.isSome ∨
        (target.type = .known .static ∧ target.phpVersion ≠ "") ∨
        (target.type = .known .php ∧ target.phpVersion = "") then
      throw .invalidSpec
    else pure ⟨target.type, some ⟨accountID, target.documentRoot⟩, target.phpVersion, none, none⟩
  | .known .redirect =>
    match target.redirect with
    | none => throw .invalidSpec
    | some redirect =>
      if target.documentRoot ≠ "" then throw .invalidSpec
      else pure ⟨target.type, none, "", none, some (rehydrateRedirect redirect)⟩
  | .known .ociApplication =>
    if !isCanonicalUUIDv7 target.applicationID ∨ target.documentRoot ≠ "" ∨ target.phpVersion ≠ "" ∨
        target.redirect.isSome then
      throw .invalidSpec
    else pure ⟨target.type, none, "", some target.applicationID, none⟩
  | .unset | .unsupported _ => throw .invalidSpec

def rehydrateDomain (identity : Identity) (spec : DomainSpec) : Except RenderError CoreDomain := do
  let target ← rehydrateTarget identity.accountID spec.target
  pure ⟨"", identity.accountID, spec.name, spec.status, spec.canonicalMode, target,
    rehydrateTLS spec.name.ascii spec.http01Challenge spec.tlsCertificateID, spec.wafMode,
    spec.wafExceptions.map (rehydrateException identity.accountID), spec.cachePreset, spec.cacheGeneration⟩

def renderSpecs (services : RenderServices) (identity : Identity) (specs : List DomainSpec) (options : Options) :
    Except RenderError Rendered := do
  let domains ← specs.mapM (rehydrateDomain identity)
  renderAccount services identity domains options

/-! ### What arrives -/

/-- A domain after the way through its spec. -/
def CoreDomain.wired (domain : CoreDomain) : CoreDomain :=
  { domain with
    id := "", tls := rehydrateTLS domain.name.ascii domain.tls.http01 domain.tls.activeCertificateRef
    wafExceptions := domain.wafExceptions.map fun exception =>
      rehydrateException domain.accountID (exceptionSpec exception) }

def PreparedDomain.wired (item : PreparedDomain) : PreparedDomain := { item with domain := item.domain.wired }

/-- A domain without what no writer reads of it. -/
def CoreDomain.plain (domain : CoreDomain) : CoreDomain :=
  { domain with id := "", tls := ⟨false, .unset, .unset, [], ""⟩, wafExceptions := [] }

def PreparedDomain.plain (item : PreparedDomain) : PreparedDomain := { item with domain := item.domain.plain }

open PreparedDomain (plain)

/-- A certificate is in use only where a challenge over HTTP proves the names. -/
def CoreDomain.HTTP01Certificates (domain : CoreDomain) : Prop :=
  domain.tls.activeCertificateRef ≠ "" → domain.tls.http01 = true

theorem rehydrateTLS_ref (asciiName : String) (http01 : Bool) (certificateID : String) :
    (rehydrateTLS asciiName http01 certificateID).activeCertificateRef = certificateID := by
  by_cases hcertificate : certificateID = ""
  · cases http01 <;> simp [rehydrateTLS, hcertificate]
  · simp [rehydrateTLS, hcertificate]

theorem CoreDomain.HTTP01Certificates.http01_wired {domain : CoreDomain} (h : domain.HTTP01Certificates) :
    domain.wired.tls.http01 = domain.tls.http01 := by
  show (rehydrateTLS domain.name.ascii domain.tls.http01 domain.tls.activeCertificateRef).http01 = _
  by_cases hcertificate : domain.tls.activeCertificateRef = ""
  · cases hhttp : domain.tls.http01 <;> simp [rehydrateTLS, hcertificate, CoreTLSState.http01]
  · rw [h hcertificate]
    simp [rehydrateTLS, hcertificate, CoreTLSState.http01]

theorem certificateAllowed_wired {domain : CoreDomain} (h : certificateAllowed domain = true) :
    certificateAllowed domain.wired = true := by
  have href := rehydrateTLS_ref domain.name.ascii domain.tls.http01 domain.tls.activeCertificateRef
  simp only [certificateAllowed, CoreDomain.wired, href] at h ⊢
  by_cases hcertificate : domain.tls.activeCertificateRef = ""
  · simp [hcertificate]
  · simp only [hcertificate, decide_false, Bool.false_or, and_eq_true] at h
    simp [h.1, rehydrateTLS, hcertificate]

/-! ### Preparing what arrives -/

section

variable {services : RenderServices} {identity : Identity} {upstreams : List OCIApplicationUpstream}
  {domain : CoreDomain}

theorem prepareException_wired (domain : CoreDomain) :
    domain.wired.wafExceptions.map (prepareException services) =
      domain.wafExceptions.map (prepareException services) := by
  simp only [CoreDomain.wired, map_map]
  rfl

theorem exceptionAllowed_wired {exception : CoreWAFException}
    (h : exceptionAllowed domain exception = true) :
    exceptionAllowed domain.wired (rehydrateException domain.accountID (exceptionSpec exception)) = true := by
  simp only [exceptionAllowed, and_eq_true] at h ⊢
  obtain ⟨⟨⟨hid, hexpires⟩, hscope⟩, -⟩ := h
  refine ⟨⟨⟨hid, hexpires⟩, hscope⟩, ?_⟩
  simp [rehydrateException, CoreDomain.wired]

/-- The exceptions keep their identifiers and get the owner they are checked against. -/
theorem prepareWAFExceptions_wired {prepared : List PreparedWAFException}
    (h : prepareWAFExceptions services domain = .ok prepared) :
    prepareWAFExceptions services domain.wired = .ok prepared := by
  simp only [prepareWAFExceptions, guard_eq_ok_iff, pure_eq_ok_iff] at h ⊢
  obtain ⟨hsize, hallowed, hdistinct, hprepared⟩ := h
  refine ⟨?_, ?_, ?_, ?_⟩
  · simpa [CoreDomain.wired] using hsize
  · simp only [Bool.not_eq_true, Bool.not_eq_false', all_eq_true] at hallowed ⊢
    intro exception hmem
    obtain ⟨original, horiginal, rfl⟩ := mem_map.mp hmem
    exact exceptionAllowed_wired (by simpa using hallowed original horiginal)
  · simpa [CoreDomain.wired, Function.comp_def, rehydrateException, exceptionSpec] using hdistinct
  · rw [prepareException_wired]
    exact hprepared

/-- The target is prepared without a look at the rest of the domain. -/
theorem prepareTarget_relabel {f : CoreDomain → CoreDomain} (hf : ∀ domain, (f domain).target = domain.target)
    (item : PreparedDomain) :
    prepareTarget services identity upstreams { item with domain := f item.domain } =
      (prepareTarget services identity upstreams item).map fun item => { item with domain := f item.domain } := by
  unfold prepareTarget
  simp only [hf]
  cases item.domain.target.type with
  | unset | unsupported => rfl
  | known type =>
    cases type with
    | static => cases prepareRoot identity item.domain.target <;> rfl
    | php => cases prepareRoot identity item.domain.target <;> rfl
    | redirect => cases prepareRedirect services item.domain.target <;> rfl
    | ociApplication => cases prepareApplication upstreams item.domain.target <;> rfl

variable {item : PreparedDomain}

section

variable {domain : CoreDomain} (hcertificates : domain.HTTP01Certificates)

include hcertificates

theorem checkedItem_wired (wafProfile : String) (wafExceptions : List PreparedWAFException)
    (cachePreset : CachePreset) :
    checkedItem domain.wired wafProfile wafExceptions cachePreset =
      (checkedItem domain wafProfile wafExceptions cachePreset).wired := by
  have hhttp := hcertificates.http01_wired
  have href := rehydrateTLS_ref domain.name.ascii domain.tls.http01 domain.tls.activeCertificateRef
  unfold checkedItem PreparedDomain.wired
  rw [hhttp]
  simp only [CoreDomain.wired, href]

theorem prepareLiveDomain_wired (h : prepareLiveDomain services identity domain upstreams = .ok item) :
    prepareLiveDomain services identity domain.wired upstreams = .ok item.wired := by
  simp only [prepareLiveDomain, bind_eq_ok_iff, guard_eq_ok_iff] at h ⊢
  obtain ⟨hcertificate, profile, hprofile, preset, hpreset, hcache, exceptions, hexceptions, htarget⟩ := h
  refine ⟨?_, profile, hprofile, preset, hpreset, hcache, exceptions, prepareWAFExceptions_wired hexceptions, ?_⟩
  · have hallowed : certificateAllowed domain = true := by simpa using hcertificate
    simp [certificateAllowed_wired hallowed]
  · rw [checkedItem_wired hcertificates]
    refine (@prepareTarget_relabel services identity upstreams CoreDomain.wired (fun _ => rfl) _).trans ?_
    rw [htarget]
    rfl

/-- A live domain is prepared the same after the way through its spec. -/
theorem prepareDomain_wired (h : prepareDomain services identity domain upstreams = .ok (some item)) :
    prepareDomain services identity domain.wired upstreams = .ok (some item.wired) := by
  obtain ⟨haccount, hname, hmode, ⟨-, hnone⟩ | ⟨hlive, item', hitem, hsome⟩⟩ :=
    (prepareDomain_eq_ok_iff services).mp h
  · cases hnone
  · cases hsome
    refine (prepareDomain_eq_ok_iff services).mpr ⟨haccount, hname, hmode, .inr ⟨hlive, ?_⟩⟩
    exact ⟨item.wired, prepareLiveDomain_wired hcertificates hitem, rfl⟩

end

/-! ### The way through a spec -/

variable {target : CoreTarget}

theorem prepareRoot_fields {roots : String × String} (h : prepareRoot identity target = .ok roots) :
    ∃ path, target.documentRoot = some ⟨identity.accountID, path⟩ ∧ path ≠ "" ∧ target.redirect = none ∧
      target.applicationID = none ∧ ¬(target.type = .known .static ∧ target.phpVersion ≠ "") ∧
      ¬(target.type = .known .php ∧ target.phpVersion = "") := by
  unfold prepareRoot at h
  cases hroot : target.documentRoot with
  | none => simp [hroot, throw_eq_error] at h
  | some root =>
    simp only [hroot, guard_eq_ok_iff, bind_eq_ok_iff, mapError_eq_ok_iff] at h
    obtain ⟨hfields, relative, hrelative, -⟩ := h
    simp only [not_or, Option.not_isSome_iff_eq_none, ne_eq, not_not] at hfields
    obtain ⟨hredirect, happlication, hstatic, hphp, haccount⟩ := hfields
    obtain ⟨accountID, path⟩ := root
    have hpath : path ≠ "" := by
      intro hempty
      simp [hempty, normalizeDocumentRoot, throw_eq_error] at hrelative
    exact ⟨path, by rw [← haccount], hpath, hredirect, happlication, hstatic, hphp⟩

theorem prepareRedirect_fields {redirect : PreparedRedirect} (h : prepareRedirect services target = .ok redirect) :
    target.redirect.isSome ∧ target.documentRoot = none ∧ target.applicationID = none ∧
      target.phpVersion = "" := by
  unfold prepareRedirect at h
  cases hredirect : target.redirect with
  | none => simp [hredirect, throw_eq_error] at h
  | some stored =>
    simp only [hredirect, guard_eq_ok_iff] at h
    obtain ⟨hfields, -⟩ := h
    simpa using hfields

section

variable (hcanonical : ∀ upstream ∈ upstreams, isCanonicalUUIDv7 upstream.applicationID = true)

include hcanonical

theorem prepareApplication_fields {result : Int × String} (h : prepareApplication upstreams target = .ok result) :
    ∃ applicationID, target.applicationID = some applicationID ∧ isCanonicalUUIDv7 applicationID = true ∧
      target.documentRoot = none ∧ target.redirect = none ∧ target.phpVersion = "" := by
  unfold prepareApplication at h
  cases happlication : target.applicationID with
  | none => simp [happlication, throw_eq_error] at h
  | some applicationID =>
    simp only [happlication, ite_throw_eq_ok_iff] at h
    obtain ⟨hfields, hport⟩ := h
    refine ⟨applicationID, rfl, ?_, by simpa using hfields⟩
    cases hfound : upstreamPort upstreams applicationID with
    | none => simp [hfound, throw_eq_error] at hport
    | some port =>
      obtain ⟨upstream, hfind, -⟩ := Option.map_eq_some_iff.mp hfound
      have hid : upstream.applicationID = applicationID := by simpa using find?_some hfind
      rw [← hid]
      exact hcanonical upstream (mem_of_find?_eq_some hfind)

/-- A target that can be prepared is the one that arrives. -/
theorem target_arrives {item item' : PreparedDomain} (h : prepareTarget services identity upstreams item = .ok item') :
    ∃ spec, targetSpec item.domain.target = .ok spec ∧
      rehydrateTarget identity.accountID spec = .ok item.domain.target := by
  unfold prepareTarget at h
  generalize item.domain.target = target at h ⊢
  obtain ⟨type, documentRoot, phpVersion, applicationID, redirect⟩ := target
  cases type with
  | unset => simp [throw_eq_error] at h
  | unsupported text => simp [throw_eq_error] at h
  | known type =>
    cases type with
    | static | php =>
      obtain ⟨roots, hroots, -⟩ := bind_eq_ok_iff.mp h
      obtain ⟨path, hroot, hpath, hredirect, happlication, hversion, hversion'⟩ := prepareRoot_fields hroots
      simp only at hroot hredirect happlication hversion hversion'
      subst hroot hredirect happlication
      refine ⟨_, rfl, ?_⟩
      simp_all [rehydrateTarget, pure_eq_ok]
    | redirect =>
      obtain ⟨prepared, hprepared, -⟩ := bind_eq_ok_iff.mp h
      obtain ⟨hredirect, hroot, happlication, hversion⟩ := prepareRedirect_fields hprepared
      simp only at hroot hredirect happlication hversion
      obtain ⟨stored, rfl⟩ := Option.isSome_iff_exists.mp hredirect
      subst hroot happlication hversion
      exact ⟨_, rfl, rfl⟩
    | ociApplication =>
      obtain ⟨result, hresult, -⟩ := bind_eq_ok_iff.mp h
      obtain ⟨id, happlication, hid, hroot, hredirect, hversion⟩ := prepareApplication_fields hcanonical hresult
      simp only at hroot hredirect happlication hversion
      subst hroot happlication hversion hredirect
      refine ⟨_, rfl, ?_⟩
      simp [rehydrateTarget, hid, pure_eq_ok]

theorem domain_arrives (h : prepareDomain services identity domain upstreams = .ok (some item)) :
    ∃ spec, domainSpec domain = .ok spec ∧ rehydrateDomain identity spec = .ok domain.wired := by
  obtain ⟨haccount, -, -, ⟨-, hnone⟩ | ⟨-, item', hitem, -⟩⟩ := (prepareDomain_eq_ok_iff services).mp h
  · cases hnone
  · simp only [prepareLiveDomain, bind_eq_ok_iff, guard_eq_ok_iff] at hitem
    obtain ⟨-, profile, -, preset, -, -, exceptions, -, htarget⟩ := hitem
    obtain ⟨spec, hspec, hback⟩ := target_arrives hcanonical htarget
    refine ⟨_, bind_eq_ok_iff.mpr ⟨spec, hspec, rfl⟩, bind_eq_ok_iff.mpr ⟨_, hback, ?_⟩⟩
    simp only [pure_eq_ok, CoreDomain.wired, map_map, ← haccount]
    rfl

theorem domains_arrive {domains : List CoreDomain} (hcertificates : ∀ domain ∈ domains, domain.HTTP01Certificates)
    {prepared : List PreparedDomain} (h : prepareDomains services identity upstreams domains = .ok prepared) :
    ∃ specs, (domains.filter fun domain => !domain.inactive).mapM domainSpec = .ok specs ∧
      specs.mapM (rehydrateDomain identity) =
        .ok ((domains.filter fun domain => !domain.inactive).map CoreDomain.wired) ∧
      prepareDomains services identity upstreams
        ((domains.filter fun domain => !domain.inactive).map CoreDomain.wired) =
          .ok (prepared.map PreparedDomain.wired) := by
  induction domains generalizing prepared with
  | nil =>
    cases h
    exact ⟨[], rfl, rfl, rfl⟩
  | cons domain domains ih =>
    simp only [prepareDomains_cons, bind_eq_ok_iff, pure_eq_ok_iff] at h
    obtain ⟨result, hresult, rest, hrest, rfl⟩ := h
    obtain ⟨specs, hspecs, hback, hagain⟩ :=
      ih (fun other hother => hcertificates other (mem_cons_of_mem domain hother)) hrest
    cases result with
    | none =>
      -- a suspended or removed domain is neither sent nor rendered
      obtain ⟨-, -, -, ⟨hinactive, -⟩ | ⟨-, item, -, hnone⟩⟩ := (prepareDomain_eq_ok_iff services).mp hresult
      · rw [filter_cons_of_neg (by simp [hinactive])]
        exact ⟨specs, hspecs, hback, hagain⟩
      · cases hnone
    | some item =>
      have hlive : domain.inactive = false := by
        obtain ⟨-, -, -, ⟨-, hsome⟩ | ⟨hlive, -⟩⟩ := (prepareDomain_eq_ok_iff services).mp hresult
        · cases hsome
        · cases hstatus : domain.status with
          | known status => cases status <;> simp_all [CoreDomain.live, CoreDomain.inactive]
          | unset | unsupported => simp_all [CoreDomain.live]
      obtain ⟨spec, hspec, hdomain⟩ := domain_arrives hcanonical hresult
      have hwired := prepareDomain_wired (hcertificates domain mem_cons_self) hresult
      rw [filter_cons_of_pos (by simp [hlive])]
      refine ⟨spec :: specs, ?_, ?_, ?_⟩
      · simp [mapM_cons, hspec, hspecs, pure_eq_ok]
      · simp [mapM_cons, hdomain, hback, pure_eq_ok]
      · simp [prepareDomains_cons, hwired, hagain, pure_eq_ok]

end

end

/-! ### What the writers read -/

section

variable (services : RenderServices) (identity : Identity) (options : Options) (headers : List RenderedHeader)

theorem writeDomain_plain (item : PreparedDomain) :
    writeDomain services headers item.plain = writeDomain services headers item := rfl

theorem sortPrepared_plain (prepared : List PreparedDomain) :
    sortPrepared (prepared.map plain) = (sortPrepared prepared).map plain := by
  symm
  apply map_insertionSort
  intro left _ right _
  exact Iff.rfl

theorem wildcardParents_plain (prepared : List PreparedDomain) :
    wildcardParents (prepared.map plain) = wildcardParents prepared := by
  simp only [wildcardParents, filter_map, map_map]
  rfl

theorem validateRouteConflicts_plain (prepared : List PreparedDomain) :
    validateRouteConflicts (prepared.map plain) = validateRouteConflicts prepared := by
  simp only [validateRouteConflicts, wildcardParents_plain, map_map, any_map]
  rfl

theorem assignQueryVariables_plain (next : Nat) (prepared : List PreparedDomain) :
    assignQueryVariables next (prepared.map plain) =
      (assignQueryVariables next prepared).map plain := by
  induction prepared generalizing next with
  | nil => rfl
  | cons item rest ih =>
    have hredirect : item.plain.redirect = item.redirect := rfl
    simp only [map_cons, assignQueryVariables, hredirect]
    cases item.redirect with
    | none => simp only [ih, map_cons]
    | some redirect =>
      by_cases hmap : redirect.requiresQueryMap = true
      · simp only [hmap, if_true, ih, map_cons]
        rfl
      · simp only [hmap, Bool.false_eq_true, if_false, ih, map_cons]

theorem writeOCIUpstreamBlocks_plain (seen : List String) (prepared : List PreparedDomain) :
    writeOCIUpstreamBlocks seen (prepared.map plain) = writeOCIUpstreamBlocks seen prepared := by
  induction prepared generalizing seen with
  | nil => rfl
  | cons item rest ih =>
    have happlication : item.plain.applicationID = item.applicationID := rfl
    have hblock : ociUpstreamBlock item.plain = ociUpstreamBlock item := rfl
    simp only [map_cons, writeOCIUpstreamBlocks, happlication, hblock, ih]

section

variable (activation : String) (prepared : List PreparedDomain)

include activation prepared

theorem writePreamble_plain :
    writePreamble identity options activation (prepared.map plain) =
      writePreamble identity options activation prepared := by
  have hmaps : (prepared.map plain).map domainQueryMap = prepared.map domainQueryMap := by
    rw [map_map]
    rfl
  unfold writePreamble
  rw [writeOCIUpstreamBlocks_plain, hmaps]

theorem renderPrepared_plain :
    renderPrepared services identity options headers activation (prepared.map plain) =
      renderPrepared services identity options headers activation prepared := by
  have hactivation : (prepared.map plain).map
        (fun item => { item with activationVariable := activation }) =
      (prepared.map fun item => { item with activationVariable := activation }).map plain := by
    rw [map_map, map_map]
    rfl
  have hwritten : ∀ items : List PreparedDomain,
      (items.map plain).map (writeDomain services headers) =
        items.map (writeDomain services headers) := by
    intro items
    rw [map_map]
    apply map_congr_left
    intro item _
    exact writeDomain_plain services headers item
  simp only [renderPrepared, hactivation, sortPrepared_plain, validateRouteConflicts_plain,
    assignQueryVariables_plain, writePreamble_plain, hwritten, length_map]

theorem renderPrepared_wired :
    renderPrepared services identity options headers activation (prepared.map PreparedDomain.wired) =
      renderPrepared services identity options headers activation prepared := by
  have hwired := renderPrepared_plain services identity options headers activation (prepared.map PreparedDomain.wired)
  rw [map_map] at hwired
  exact hwired.symm.trans (renderPrepared_plain services identity options headers activation prepared)

end

end

theorem canonical_upstreams {values upstreams : List OCIApplicationUpstream}
    (h : prepareOCIUpstreams values = .ok upstreams) :
    ∀ upstream ∈ upstreams, isCanonicalUUIDv7 upstream.applicationID = true := by
  simp only [prepareOCIUpstreams, ite_throw_eq_ok_iff, pure_eq_ok_iff] at h
  obtain ⟨hallowed, rfl⟩ := h
  intro upstream hupstream
  by_contra hid
  apply hallowed
  refine .inr (.inl (any_eq_true.mpr ⟨upstream, hupstream, ?_⟩))
  rw [Bool.not_eq_true] at hid
  simp only [hid, Bool.not_false, Bool.true_or]

/-- **The agent renders what the control plane rendered.** An account that can be rendered can be sent, and
what the agent renders from the specs is the same text with the same digest and the same number of
domains; an account that cannot be rendered is not sent. -/
theorem renderSpecs_of_renderAccount (services : RenderServices) (identity : Identity)
    (domains : List CoreDomain) (options : Options) (hcertificates : ∀ domain ∈ domains, domain.HTTP01Certificates) :
    (∀ rendered, renderAccount services identity domains options = .ok rendered →
      ∃ specs, specsFromDomains services identity domains options = .ok specs ∧
        renderSpecs services identity specs options = .ok rendered) ∧
    ∀ error, renderAccount services identity domains options = .error error →
      specsFromDomains services identity domains options = .error error := by
  constructor
  · intro rendered h
    have hrendered := h
    simp only [renderAccount, guard_eq_ok_iff, bind_eq_ok_iff] at h
    obtain ⟨hidentity, headers, hheaders, upstreams, hupstreams, activation, hactivation, prepared, hprepared,
      htext⟩ := h
    obtain ⟨specs, hspecs, hback, hagain⟩ :=
      domains_arrive (canonical_upstreams hupstreams) hcertificates hprepared
    refine ⟨specs, bind_eq_ok_iff.mpr ⟨rendered, hrendered, hspecs⟩, bind_eq_ok_iff.mpr ⟨_, hback, ?_⟩⟩
    simp only [renderAccount, guard_eq_ok_iff, bind_eq_ok_iff]
    refine ⟨?_, headers, hheaders, upstreams, hupstreams, activation, hactivation, _, hagain, ?_⟩
    · have hlength := length_filter_le (fun domain : CoreDomain => !domain.inactive) domains
      simp only [length_map]
      intro hlimit
      apply hidentity
      rcases hlimit with hvalid | hlimit
      · exact .inl hvalid
      · exact .inr (by omega)
    · rw [renderPrepared_wired]
      exact htext
  · intro error h
    simp [specsFromDomains, h]

namespace RenderSample

open PanelSample (plainNames sampleID)

def services : RenderServices := { plainNames with sha256 := fun _ => Vector.replicate 32 0 }

def identity : Identity :=
  ⟨sampleID 10, usernameForAccount (sampleID 10), 200000, 200000, homeDirectoryForAccount (sampleID 10)⟩

/-- A static site with a certificate and an exception. -/
def domain : CoreDomain :=
  { id := sampleID 11
    accountID := sampleID 10, name := ⟨"a.com", "a.com"⟩, status := .known .active
    canonicalMode := .known .preferApex, target := ⟨.known .static, some ⟨sampleID 10, "public_html"⟩, "", none, none⟩
    tls := ⟨true, .known .acme, .known .http01, ["a.com", "www.a.com"], sampleID 14⟩, wafMode := .known .blockingPL1
    wafExceptions := [⟨sampleID 15, sampleID 10, sampleID 11, 920100, "/form", "", 1⟩]
    cachePreset := .known .disabled, cacheGeneration := sampleID 16 }

end RenderSample

open RenderSample in
/-- A site with a certificate and an exception of the firewall can be prepared, and both sides render it alike. -/
theorem renderSpecs_of_renderAccount_static :
    (prepareDomains services identity [] [domain]).isOk = true ∧
      (∀ rendered, renderAccount services identity [domain] defaultOptions = .ok rendered →
        ∃ specs, specsFromDomains services identity [domain] defaultOptions = .ok specs ∧
          renderSpecs services identity specs defaultOptions = .ok rendered) ∧
      ∀ error, renderAccount services identity [domain] defaultOptions = .error error →
        specsFromDomains services identity [domain] defaultOptions = .error error := by
  have hcertificates : ∀ item ∈ [domain], item.HTTP01Certificates := by
    intro item hitem _
    rw [mem_singleton.mp hitem]
    decide
  exact ⟨by decide +kernel, renderSpecs_of_renderAccount services identity [domain] defaultOptions hcertificates⟩

end Stackfort.Nginx
