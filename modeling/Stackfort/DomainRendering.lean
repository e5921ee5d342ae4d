import Stackfort.DomainHosts
import Stackfort.NginxDocuments

/-! The repository and the renderer check the same domains with two sets of rules, and a domain that only
the repository accepts blocks every later operation of its account. The renderer refuses a base name
that begins with `www.`, a cached application, a firewall that is off while the domain has exceptions,
two exceptions that hash to one rule and a redirect whose normal form is not its own normal form. A
run that stays clear of these leaves every account renderable. -/

namespace Stackfort

open Nginx PanelStore List

/-! ### What the renderer asks for -/

/-- The address is stored in its normal form. -/
def RedirectStable (services : RenderServices) (url asciiHost : String) : Prop :=
  (∃ port, normalizeRedirectURL services.toNameServices url = .ok ⟨url, asciiHost, port⟩) ∧
    (services.parseURL url).isSome = true

/-- A cache needs PHP. -/
def CacheServed (preset : CachePreset) (type : DomainTargetType) : Prop := preset = .disabled ∨ type = .php

structure PreparedDomainTarget.Renderable (services : RenderServices) (target : PreparedDomainTarget) : Prop where
  php : target.type = .php → isApprovedVersion target.phpVersion = true
  redirect : ∀ redirect, target.redirect = some redirect →
    RedirectStable services redirect.url.url redirect.url.asciiHost

/-- The exceptions of a domain that have not been removed, expired or not. -/
def PanelStore.keptExceptions (db : PanelStore) (domainID : ID) : List DomainWAFException :=
  db.wafExceptions.filter fun row => decide (row.domainID = domainID ∧ row.removedAt = none)

/-- An application that is routed to has an upstream of its own. -/
structure OCIApplication.Served (db : PanelStore) (application : OCIApplication) : Prop where
  id : isCanonicalUUIDv7 application.id = true
  port : ∃ port, application.loopbackPort = some port ∧ minimumLoopbackPort ≤ port ∧ port ≤ maximumLoopbackPort ∧
    ∀ other ∈ db.applications, other.id ≠ application.id → other.routable = true → other.loopbackPort ≠ some port

/-- What a call has to observe so that the renderer can follow it. -/
def PanelCall.KeepsRenderable (services : RenderServices) (db : PanelStore) : PanelCall → Prop
  | .createDomain params ids _ =>
    ∀ checked, checkCreateDomain services.toNameServices params ids = .ok checked →
      isAlias checked.name.ascii = false ∧ CacheServed checked.cachePreset checked.target.type ∧
        checked.target.Renderable services
  | .updateDomain params ids _ =>
    isCanonicalUUIDv7 ids.targetID = true ∧
      ∀ checked, checkUpdateDomain params = .ok checked →
        (checked.wafMode = some .off → db.keptExceptions params.domainID = []) ∧
        ∀ row ∈ db.domains, row.id = params.domainID →
          ∀ settings, db.settings row.accountID row.id = some settings →
            (params.target = none →
              CacheServed (checked.cachePreset.getD settings.cache.preset) settings.target.type) ∧
            ∀ spec target, params.target = some spec →
              prepareDomainTarget services.toNameServices spec ⟨row.displayName, row.asciiName⟩ = .ok target →
                CacheServed (checked.cachePreset.getD settings.cache.preset) target.type ∧
                  target.Renderable services
  | .createWAFException params _ =>
    ∀ exception ∈ db.keptExceptions params.domainID, exception.id ≠ params.exceptionID →
      exceptionRuleID services exception.id ≠ exceptionRuleID services params.exceptionID
  | .prepareOrder _ _ certificateID _ => isCanonicalUUIDv7 certificateID = true
  | .application routed =>
    (routed.routable = true → routed.Served db) ∧
      ∀ row ∈ db.domains, row.removedAt = none → ∀ target, db.currentTarget row.accountID row.id = some target →
        target.type = .ociApplication → target.applicationID = some routed.id →
          routed.accountID = row.accountID ∧ routed.routable = true
  | _ => True

/-! ### Renderable stores -/

structure DomainSettings.Renderable (services : RenderServices) (settings : DomainSettings) : Prop where
  cache : CacheServed settings.cache.preset settings.target.type
  generation : isCanonicalUUIDv7 settings.cache.generation = true
  php : settings.target.type = .php → isApprovedVersion (settings.target.phpVersion.getD "") = true
  redirect : ∀ redirect, settings.redirect = some redirect →
    RedirectStable services redirect.targetURL redirect.targetASCIIHost

/-- The exception passes the checks of the renderer. -/
def DomainWAFException.wellFormed (exception : DomainWAFException) : Bool :=
  isCanonicalUUIDv7 exception.id && decide (exception.expiresAt ≠ 0) &&
    (exceptionScopeError exception.ruleID exception.requestPath exception.parameter).isNone

namespace PanelStore

/-- The tables the renderer's rules are about. -/
structure Renderable (services : RenderServices) (db : PanelStore) : Prop where
  names : ∀ row ∈ db.domains, isAlias row.asciiName = false
  settings : ∀ row ∈ db.domains, ∀ settings, db.settings row.accountID row.id = some settings →
    settings.Renderable services
  exceptions : ∀ exception ∈ db.wafExceptions, exception.wellFormed = true
  exceptionIDs : (db.wafExceptions.map DomainWAFException.id).Nodup
  owners : ∀ exception ∈ db.wafExceptions, ∃ row ∈ db.domains, row.id = exception.domainID
  rules : ∀ domainID, ∀ left ∈ db.keptExceptions domainID, ∀ right ∈ db.keptExceptions domainID,
    left.id ≠ right.id → exceptionRuleID services left.id ≠ exceptionRuleID services right.id
  off : ∀ row ∈ db.domains, ∀ settings, db.settings row.accountID row.id = some settings →
    settings.waf.mode = .off → db.keptExceptions row.id = []
  certificates : ∀ certificate ∈ db.certificates, isCanonicalUUIDv7 certificate.id = true

/-- Applications have their upstreams, and a domain routes to none that is gone. -/
structure Routed (db : PanelStore) : Prop where
  ids : (db.applications.map OCIApplication.id).Nodup
  served : ∀ application ∈ db.applications, application.routable = true → application.Served db
  routes : ∀ row ∈ db.domains, row.removedAt = none → ∀ settings, db.settings row.accountID row.id = some settings →
    settings.target.type = .ociApplication → ∃ application ∈ db.applications,
      application.accountID = row.accountID ∧ settings.target.applicationID = some application.id ∧
        application.routable = true

end PanelStore

/-! ### Settings -/

section

variable {services : RenderServices} {db db' : PanelStore} {ids : DomainIDs} {now : Time}

variable {settings : DomainSettings} {row : DomainRow} {target : PreparedDomainTarget} {actorID : Option ID}
  {call : PanelCall} {domainID : ID} {exception : DomainWAFException}

section

variable (h : settings.Carries row ids target actorID now) (htarget : target.Renderable services)

include h htarget

theorem DomainSettings.Carries.redirectStable {redirect : DomainRedirect}
    (hredirect : settings.redirect = some redirect) :
    RedirectStable services redirect.targetURL redirect.targetASCIIHost := by
  rw [h.redirect] at hredirect
  obtain ⟨prepared, hprepared, rfl⟩ := Option.map_eq_some_iff.mp hredirect
  exact htarget.redirect prepared hprepared

theorem DomainSettings.Carries.approved (hphp : settings.target.type = .php) :
    isApprovedVersion (settings.target.phpVersion.getD "") = true := by
  have hversion := htarget.php (h.type ▸ hphp)
  obtain ⟨rootID, hrow⟩ := h.target
  rw [hrow]
  simp only [targetRow]
  split
  next hempty => simpa [hempty] using hversion
  next => exact hversion

end

theorem SettingsChange.renderable (h : SettingsChange services.toNameServices db call row settings)
    (hcall : call.KeepsRenderable services db) (hdb : db.Renderable services) : settings.Renderable services := by
  cases h with
  | kept call hmem hid haccount hdisplay hascii hmode hlive hsettings => exact hdb.settings _ hmem _ hsettings
  | created hchecked h hwaf hcache hcarries =>
    obtain ⟨-, hserved, htarget⟩ := hcall _ hchecked
    refine ⟨?_, ?_, hcarries.approved htarget, fun redirect => hcarries.redirectStable htarget⟩
    · rw [hcache, hcarries.type]
      exact hserved
    · rw [hcache]
      have hid := h.idAllowed
      rw [domainIDAllowed, and_eq_true] at hid
      exact hid.1
  | @edited params ids now checked db' row settings edited hchecked h hmem hid haccount hsettings hedited =>
    obtain ⟨hcanonical, hchecks⟩ := hcall
    obtain ⟨hkept, hchanged⟩ := (hchecks checked hchecked).2 row hmem hid settings hsettings
    have hold := hdb.settings row hmem settings hsettings
    cases htarget : params.target with
    | none =>
      obtain ⟨hsame, -, hredirect⟩ := hedited.kept htarget
      refine ⟨?_, ?_, ?_, ?_⟩
      · rw [hedited.preset, hsame]
        exact hkept htarget
      · rw [hedited.generation]
        exact hcanonical
      · rw [hsame]
        exact hold.php
      · rw [hredirect]
        exact hold.redirect
    | some spec =>
      obtain ⟨target, hprepared, -, -, hcarries⟩ := hedited.changed spec htarget
      obtain ⟨hserved, hrenderable⟩ := hchanged spec target htarget hprepared
      refine ⟨?_, ?_, hcarries.approved hrenderable, fun redirect => hcarries.redirectStable hrenderable⟩
      · rw [hedited.preset, hcarries.type]
        exact hserved
      · rw [hedited.generation]
        exact hcanonical

/-! ### Exceptions -/

theorem PanelStore.mem_keptExceptions :
    exception ∈ db.keptExceptions domainID ↔
      exception ∈ db.wafExceptions ∧ exception.domainID = domainID ∧ exception.removedAt = none := by
  rw [keptExceptions, mem_filter, decide_eq_true_eq]

/-- What a call can do to the exceptions. -/
theorem Effect.exceptions {services : NameServices} (h : Effect services db call db') :
    db'.wafExceptions = db.wafExceptions ∨
      (∃ params now requestID, call = .createWAFException params now ∧
        checkCreateException params now = .ok requestID ∧ ExceptionAdded db params now db') ∨
      ∃ params now, call = .removeWAFException params now ∧ ExceptionRemoved db params now db' := by
  cases h with
  | exceptionAdded hchecked h => exact .inr (.inl ⟨_, _, _, rfl, hchecked, h⟩)
  | exceptionRemoved h => exact .inr (.inr ⟨_, _, rfl, h⟩)
  | created _ h | edited _ h | suspended h | resumed h | removed h | revisionCreated h | appliedRecorded h
  | confirmed h | ordered h | urlRecorded h | staged h | activated h | failed h =>
    rw [h.rest]
    exact .inl rfl
  | unchanged | operation | issueQueued | workQueued | accountPut | applicationPut | acmeAccountPut => exact .inl rfl

variable {params : CreateDomainWAFExceptionParams}

theorem ExceptionAdded.mem_kept (h : ExceptionAdded db params now db')
    (hmem : exception ∈ db'.keptExceptions domainID) :
    exception ∈ db.keptExceptions domainID ∨ (exception = newException params now ∧ params.domainID = domainID) := by
  obtain ⟨hmem, hdomain, hkept⟩ := mem_keptExceptions.mp hmem
  rw [h.wafExceptions] at hmem
  rcases mem_append.mp hmem with hold | hnew
  · exact .inl (mem_keptExceptions.mpr ⟨hold, hdomain, hkept⟩)
  · obtain rfl := mem_singleton.mp hnew
    exact .inr ⟨rfl, hdomain⟩

theorem ExceptionRemoved.mem_kept {params : RemoveDomainWAFExceptionParams} (h : ExceptionRemoved db params now db')
    (hmem : exception ∈ db'.keptExceptions domainID) : exception ∈ db.keptExceptions domainID := by
  obtain ⟨hmem, hdomain, hkept⟩ := mem_keptExceptions.mp hmem
  rw [h.wafExceptions] at hmem
  exact mem_keptExceptions.mpr ⟨(mem_of_mem_updateWhere hmem hkept (fun _ h => by cases h)).1, hdomain, hkept⟩

/-- The exceptions that are kept are old ones or the one that a call adds to a domain whose firewall is on. -/
theorem Effect.mem_kept {services : NameServices} (h : Effect services db call db')
    (hmem : exception ∈ db'.keptExceptions domainID) :
    exception ∈ db.keptExceptions domainID ∨ ∃ params now requestID, call = .createWAFException params now ∧
      checkCreateException params now = .ok requestID ∧ ExceptionAdded db params now db' ∧
      exception = newException params now ∧ params.domainID = domainID := by
  rcases h.exceptions with hsame | ⟨params, now, requestID, hcall, hchecked, hadded⟩ | ⟨params, now, -, hremoved⟩
  · rw [keptExceptions, hsame] at hmem
    exact .inl hmem
  · rcases hadded.mem_kept hmem with hold | ⟨hnew, hdomain⟩
    · exact .inl hold
    · exact .inr ⟨params, now, requestID, hcall, hchecked, hadded, hnew, hdomain⟩
  · exact .inl (hremoved.mem_kept hmem)

theorem checkCreateException_ok {requestID : String} (h : checkCreateException params now = .ok requestID) :
    (newException params now).wellFormed = true := by
  simp only [checkCreateException, validateWAFExceptionIDs, bind_eq_ok_iff, guard_eq_ok_iff] at h
  obtain ⟨⟨⟩, ⟨⟨⟩, -, ⟨⟩, -, ⟨⟩, hid, -⟩, -, _, -, h⟩ := h
  have hcanonical := validateID_eq_ok_iff.mp hid
  cases hscope : exceptionScopeError params.ruleID params.requestPath params.parameter with
  | some message => simp [hscope, throw_eq_error] at h
  | none =>
    simp only [hscope, guard_eq_ok_iff] at h
    have hexpires : params.expiresAt ≠ 0 := by
      intro hzero
      apply h.1
      left
      rw [hzero]
      exact Nat.lt_of_lt_of_le (by decide : 0 < second) (by unfold Time.add; omega)
    simp [DomainWAFException.wellFormed, newException, hcanonical, hscope, hexpires]

theorem ExceptionAdded.domain (h : ExceptionAdded db params now db') :
    ∃ row ∈ db.domains, row.id = params.domainID := by
  obtain ⟨mode, hfound, -⟩ := h.mode
  unfold liveDomainWAFMode at hfound
  split at hfound
  next hlive =>
    obtain ⟨row, hmem, howner⟩ := any_eq_true.mp hlive
    rw [and_eq_true] at howner
    exact ⟨row, hmem, (ofAccount_iff.mp howner.1).2⟩
  next => cases hfound

theorem Effect.domainIDs {services : NameServices} (h : Effect services db call db') :
    ∀ row ∈ db.domains, ∃ row' ∈ db'.domains, row'.id = row.id := by
  have hmapped : ∀ {f : DomainRow → DomainRow}, KeepsName f → db'.domains = db.domains.map f →
      ∀ row ∈ db.domains, ∃ row' ∈ db'.domains, row'.id = row.id := by
    intro f hf hdomains row hmem
    rw [hdomains]
    exact ⟨f row, mem_map_of_mem hmem, hf.id row⟩
  rcases h.domains_cases with ⟨_, _, _, _, -, -, h⟩ | ⟨_, _, _, _, -, -, h⟩ | ⟨f, h⟩
  · intro row hmem
    rw [h.domains]
    exact ⟨row, mem_append_left _ hmem, rfl⟩
  · exact hmapped (keepsName_updateWhere (keepsName_setEdited _ _)) h.domains
  · exact hmapped h.rows.toKeepsName h.domains

theorem Effect.certificateIDs {services : NameServices} (h : Effect services db call db') :
    db'.certificates.map TLSCertificate.id = db.certificates.map TLSCertificate.id ∨
      ∃ params draft certificateID now, call = .prepareOrder params draft certificateID now ∧
        db'.certificates.map TLSCertificate.id = db.certificates.map TLSCertificate.id ++ [certificateID] := by
  cases h with
  | ordered h =>
    refine .inr ⟨_, _, _, _, rfl, ?_⟩
    rw [h.certificates, map_append]
    rfl
  | edited hchecked h =>
    obtain ⟨domain, current, cache, db₁, type, -, -, -, -, hmaybe, -, -, -, -, -, -, hcertificates⟩ := h.read
    left
    rw [hcertificates]
    cases hmaybe with
    | kept => rfl
    | changed hsome hretargeted =>
      rw [hretargeted.certificates, keys_updateWhere]
      exact fun _ => rfl
  | removed h | staged h =>
    left
    rw [h.certificates, keys_updateWhere]
    exact fun _ => rfl
  | activated h =>
    left
    rw [h.certificates, keys_updateWhere fun row => (rfl : (setActive _ row).id = row.id)]
    unfold withoutPredecessor
    split
    · rfl
    · split
      · rfl
      · rw [keys_updateWhere]
        exact fun _ => rfl
  | created _ h | suspended h | resumed h | exceptionAdded _ h | exceptionRemoved h | revisionCreated h
  | appliedRecorded h | confirmed h | urlRecorded h | failed h =>
    left
    rw [h.rest]
  | unchanged | operation | issueQueued | workQueued | accountPut | applicationPut | acmeAccountPut => exact .inl rfl

/-! ### Along a run -/

section

variable (h : Effect services.toNameServices db call db') (hcall : call.KeepsRenderable services db)
  (hfurnished : db.Furnished services.toNameServices) (hdb : db.Renderable services)

include h hcall hfurnished hdb

/-- A domain that has exceptions has its firewall on, also when a call changes one or the other. -/
theorem Effect.off {row' : DomainRow} (hmem' : row' ∈ db'.domains) {settings' : DomainSettings}
    (hsettings' : db'.settings row'.accountID row'.id = some settings') (hoff : settings'.waf.mode = .off) :
    db'.keptExceptions row'.id = [] := by
  obtain ⟨settings, hfound, hchange⟩ := h.settingsChange hfurnished hmem'
  rw [hsettings', some.injEq] at hfound
  subst hfound
  rw [eq_nil_iff_forall_not_mem]
  intro exception hexception
  -- in each case the old exceptions of the domain are none
  have hnone : exception ∉ db.keptExceptions row'.id := by
    intro hold
    cases hchange with
    | kept call hmem hid haccount hdisplay hascii hmode hlive hsettings =>
      rw [hid, hdb.off _ hmem _ hsettings hoff] at hold
      cases hold
    | created hchecked hcreated =>
      obtain ⟨hmem, hdomain, -⟩ := mem_keptExceptions.mp hold
      obtain ⟨row, hrow, hid⟩ := hdb.owners exception hmem
      exact hcreated.freshID row hrow (hid.trans hdomain)
    | @edited params ids now checked db'' row settings edited hchecked _ hmem hid haccount hsettings hedited =>
      have hids : (row.setEdited checked.canonicalMode now).id = params.domainID := hid
      rw [hids] at hold
      rw [hedited.waf] at hoff
      cases hmode : checked.wafMode with
      | some mode =>
        rw [hmode, Option.getD_some] at hoff
        rw [(hcall.2 checked hchecked).1 (hmode.trans (congrArg some hoff))] at hold
        cases hold
      | none =>
        rw [hmode, Option.getD_none] at hoff
        rw [← hid, hdb.off row hmem settings hsettings hoff] at hold
        cases hold
  rcases h.mem_kept hexception with hold | ⟨params, now, requestID, rfl, -, hadded, -, hdomain⟩
  · exact hnone hold
  · cases hchange with
    | @kept _ row _ _ hmem hid haccount hdisplay hascii hmode hlive hsettings =>
      obtain ⟨mode, hfound, hon⟩ := hadded.mode
      unfold liveDomainWAFMode at hfound
      split at hfound
      next hlive =>
        obtain ⟨domain, hdomainMem, howner⟩ := any_eq_true.mp hlive
        rw [and_eq_true] at howner
        obtain ⟨howner, hownerID⟩ := ofAccount_iff.mp howner.1
        have hsame : domain = row := inj_on_of_nodup_map hfurnished.domains hdomainMem hmem
          ((hownerID.trans hdomain).trans hid)
        obtain ⟨-, hwaf, -⟩ := settings_eq_some.mp hsettings
        rw [wafPolicy, ← hsame, howner, hownerID] at hwaf
        rw [hwaf, Option.map_some, some.injEq] at hfound
        exact hon (hfound.symm.trans hoff)
      next => cases hfound

theorem Effect.renderable : db'.Renderable services := by
  refine ⟨?_, ?_, ?_, ?_, ?_, ?_, ?_, ?_⟩
  · intro row' hmem'
    rcases h.names hmem' with ⟨row, hmem, hname⟩ | ⟨params, ids, now, checked, rfl, hchecked, hname⟩
    · rw [hname]
      exact hdb.names row hmem
    · rw [hname]
      exact (hcall checked hchecked).1
  · intro row' hmem' settings' hsettings'
    obtain ⟨settings, hfound, hchange⟩ := h.settingsChange hfurnished hmem'
    rw [hsettings', some.injEq] at hfound
    subst hfound
    exact hchange.renderable hcall hdb
  · rcases h.exceptions with hsame | ⟨params, now, requestID, -, hchecked, hadded⟩ | ⟨params, now, -, hremoved⟩
    · rw [hsame]
      exact hdb.exceptions
    · rw [hadded.wafExceptions]
      exact forall_mem_append.mpr ⟨hdb.exceptions, forall_mem_singleton.mpr (checkCreateException_ok hchecked)⟩
    · rw [hremoved.wafExceptions, updateWhere, forall_mem_map]
      intro old hold
      have hwell := hdb.exceptions old hold
      split <;> exact hwell
  · rcases h.exceptions with hsame | ⟨params, now, requestID, -, -, hadded⟩ | ⟨params, now, -, hremoved⟩
    · rw [hsame]
      exact hdb.exceptionIDs
    · rw [hadded.wafExceptions]
      exact nodup_keys_append hdb.exceptionIDs hadded.fresh
    · rw [hremoved.wafExceptions, keys_updateWhere]
      · exact hdb.exceptionIDs
      · exact fun _ => rfl
  · have howners : ∀ exception ∈ db'.wafExceptions, ∃ row ∈ db.domains, row.id = exception.domainID := by
      rcases h.exceptions with hsame | ⟨params, now, requestID, -, -, hadded⟩ | ⟨params, now, -, hremoved⟩
      · rw [hsame]
        exact hdb.owners
      · rw [hadded.wafExceptions]
        exact forall_mem_append.mpr ⟨hdb.owners, forall_mem_singleton.mpr hadded.domain⟩
      · rw [hremoved.wafExceptions, updateWhere, forall_mem_map]
        intro old hold
        have howner := hdb.owners old hold
        split <;> exact howner
    intro exception hmem
    obtain ⟨row, hmem, hid⟩ := howners exception hmem
    obtain ⟨row', hmem', hid'⟩ := h.domainIDs row hmem
    exact ⟨row', hmem', hid'.trans hid⟩
  · intro domainID left hleft right hright hne
    rcases h.mem_kept hleft with hleft | ⟨params, now, requestID, rfl, -, hadded, rfl, rfl⟩
    · rcases h.mem_kept hright with hright | ⟨params, now, requestID, rfl, -, hadded, rfl, rfl⟩
      · exact hdb.rules domainID left hleft right hright hne
      · exact hcall left hleft hne
    · rcases h.mem_kept hright with hright | ⟨params', now', requestID', heq, -, -, rfl, -⟩
      · exact (hcall right hright hne.symm).symm
      · cases heq
        exact absurd rfl hne
  · intro row' hmem' settings' hsettings' hoff
    exact h.off hcall hfurnished hdb hmem' hsettings' hoff
  · have hcanonical : ∀ id ∈ db.certificates.map TLSCertificate.id, isCanonicalUUIDv7 id = true :=
      forall_mem_map.mpr hdb.certificates
    refine (forall_mem_map (P := fun id => isCanonicalUUIDv7 id = true)).mp ?_
    rcases h.certificateIDs with hsame | ⟨params, draft, certificateID, now, rfl, hadded⟩
    · rw [hsame]
      exact hcanonical
    · rw [hadded]
      exact forall_mem_append.mpr ⟨hcanonical, forall_mem_singleton.mpr hcall⟩

end

/-! ### Routed applications -/

theorem validateTargetAgainstPackage_routable {accountID : ID} {limits : PackageLimits}
    (h : db.validateTargetAgainstPackage accountID target limits = .ok ()) (htype : target.type = .ociApplication) :
    ∃ application ∈ db.applications, application.accountID = accountID ∧
      target.applicationID = some application.id ∧ application.routable = true := by
  unfold validateTargetAgainstPackage at h
  rw [htype] at h
  simp only [ite_throw_eq_ok_iff] at h
  obtain ⟨-, h⟩ := h
  split at h
  next hany =>
    obtain ⟨application, hmem, happlication⟩ := any_eq_true.mp hany
    rw [and_eq_true, decide_eq_true_eq] at happlication
    exact ⟨application, hmem, happlication.1.1, happlication.1.2.symm, happlication.2⟩
  next => cases h

theorem DomainSettings.Carries.applicationID (h : settings.Carries row ids target actorID now) :
    settings.target.applicationID = target.applicationID := by
  obtain ⟨rootID, hrow⟩ := h.target
  rw [hrow]
  rfl

/-- A target that routes to an application was checked against the store when it was set. -/
theorem SettingsChange.routes {services : NameServices} (h : SettingsChange services db call row settings)
    (hdb : db.Routed) (hlive : row.removedAt = none) (htype : settings.target.type = .ociApplication) :
    ∃ application ∈ db.applications, application.accountID = row.accountID ∧
      settings.target.applicationID = some application.id ∧ application.routable = true := by
  cases h with
  | kept call hmem hid haccount hdisplay hascii hmode hstays hsettings =>
    rw [haccount]
    exact hdb.routes _ hmem (hstays hlive) _ hsettings htype
  | created hchecked h hwaf hcache hcarries =>
    obtain ⟨limits, -, hpackage⟩ := h.limits
    rw [hcarries.applicationID]
    exact validateTargetAgainstPackage_routable hpackage (hcarries.type.symm.trans htype)
  | @edited params ids now checked db' row settings edited hchecked h hmem hid haccount hsettings hedited =>
    cases htarget : params.target with
    | none =>
      rw [(hedited.kept htarget).1] at htype ⊢
      exact hdb.routes row hmem hlive settings hsettings htype
    | some spec =>
      obtain ⟨target, -, ⟨limits, hpackage⟩, -, hcarries⟩ := hedited.changed spec htarget
      rw [hcarries.applicationID, show (row.setEdited checked.canonicalMode now).accountID = params.accountID from
        haccount]
      exact validateTargetAgainstPackage_routable hpackage (hcarries.type.symm.trans htype)

theorem Effect.applications {services : NameServices} (h : Effect services db call db') :
    db'.applications = db.applications ∨ ∃ row, call = .application row ∧ db' = db.putApplication row := by
  cases h with
  | applicationPut row => exact .inr ⟨row, rfl, rfl⟩
  | created _ h | edited _ h | suspended h | resumed h | removed h | confirmed h | exceptionAdded _ h
  | exceptionRemoved h | revisionCreated h | appliedRecorded h | ordered h | urlRecorded h | staged h | activated h
  | failed h => exact .inl (by rw [h.rest])
  | unchanged | operation | issueQueued | workQueued | accountPut | acmeAccountPut => exact .inl rfl

theorem PanelStore.Routed.put {routed : OCIApplication} (hdb : db.Routed)
    (hcall : (PanelCall.application routed).KeepsRenderable services db) : (db.putApplication routed).Routed := by
  have hmem : ∀ other, other ∈ (db.putApplication routed).applications ↔
      (other ∈ db.applications ∧ other.id ≠ routed.id) ∨ other = routed := by
    intro other
    rw [putApplication, mem_append, mem_filter, decide_eq_true_eq, mem_singleton]
  refine ⟨?_, ?_, ?_⟩
  · refine nodup_keys_append (hdb.ids.sublist (List.filter_sublist.map _)) ?_
    intro other hother
    exact of_decide_eq_true (mem_filter.mp hother).2
  · intro application happlication hroutable
    rcases (hmem application).mp happlication with ⟨hold, hne⟩ | rfl
    · obtain ⟨hid, port, hport, hlow, hhigh, hothers⟩ := hdb.served application hold hroutable
      refine ⟨hid, port, hport, hlow, hhigh, ?_⟩
      intro other hother hdiffers hrouted
      rcases (hmem other).mp hother with ⟨hother, -⟩ | rfl
      · exact hothers other hother hdiffers hrouted
      · -- the new application took care of the ports in use
        obtain ⟨-, taken, htaken, -, -, hfree⟩ := hcall.1 hrouted
        intro heq
        exact hfree application hold hne hroutable (hport.trans (heq.symm.trans htaken))
    · obtain ⟨hid, port, hport, hlow, hhigh, hothers⟩ := hcall.1 hroutable
      refine ⟨hid, port, hport, hlow, hhigh, ?_⟩
      intro other hother hdiffers
      rcases (hmem other).mp hother with ⟨hother, -⟩ | rfl
      · exact hothers other hother hdiffers
      · exact absurd rfl hdiffers
  · intro row hrow hlive settings hsettings htype
    obtain ⟨application, happlication, haccount, hid, hroutable⟩ := hdb.routes row hrow hlive settings hsettings htype
    by_cases hsame : application.id = routed.id
    · have hcurrent := (settings_eq_some.mp hsettings).1
      obtain ⟨howner, hstays⟩ := hcall.2 row hrow hlive settings.target hcurrent htype (hid.trans (congrArg some hsame))
      exact ⟨routed, (hmem routed).mpr (.inr rfl), howner, hid.trans (congrArg some hsame), hstays⟩
    · exact ⟨application, (hmem application).mpr (.inl ⟨happlication, hsame⟩), haccount, hid, hroutable⟩

theorem Effect.routed (h : Effect services.toNameServices db call db') (hcall : call.KeepsRenderable services db)
    (hfurnished : db.Furnished services.toNameServices) (hdb : db.Routed) : db'.Routed := by
  rcases h.applications with hsame | ⟨routed, rfl, rfl⟩
  · refine ⟨?_, ?_, ?_⟩
    · rw [hsame]
      exact hdb.ids
    · rw [hsame]
      intro application hmem hroutable
      obtain ⟨hid, port, hport⟩ := hdb.served application hmem hroutable
      refine ⟨hid, port, ?_⟩
      rw [hsame]
      exact hport
    · rw [hsame]
      intro row' hmem' hlive settings' hsettings' htype
      obtain ⟨settings, hfound, hchange⟩ := h.settingsChange hfurnished hmem'
      rw [hsettings', some.injEq] at hfound
      subst hfound
      exact hchange.routes hdb hlive htype
  · exact hdb.put hcall

/-! ### Runs -/

theorem renderable_after {calls : List PanelCall}
    (h : Along services.toNameServices (fun db call => call.KeepsRenderable services db) .empty calls) :
    (after services.toNameServices calls).Renderable services ∧ (after services.toNameServices calls).Routed := by
  have hempty : PanelStore.empty.Renderable services ∧ PanelStore.empty.Routed :=
    ⟨⟨by simp [empty], by simp [empty], by simp [empty], by simp [empty], by simp [empty],
      by simp [empty, keptExceptions], by simp [empty], by simp [empty]⟩, by simp [empty], by simp [empty],
      by simp [empty]⟩
  refine (Along.invariant (fun db => db.Furnished services.toNameServices ∧ db.Renderable services ∧ db.Routed)
    (fun hcall heffect hdb => ?_) h ⟨furnished_empty _, hempty⟩).2
  exact ⟨heffect.furnished hdb.1, heffect.renderable hcall hdb.1 hdb.2.1, heffect.routed hcall hdb.1 hdb.2.2⟩

end

end Stackfort
