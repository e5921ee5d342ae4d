import Stackfort.DomainEffects

/-! What a domain is configured with: its current target with the document root or the redirect the
target names, its firewall policy and its cache policy. Along every run each domain has such
settings, they were accepted for its name by the checks on targets and caching, and no call changes
the settings of another domain. -/

namespace Stackfort

open PanelStore List

structure DomainSettings where
  target : DomainTarget
  root : Option DocumentRoot
  redirect : Option DomainRedirect
  waf : DomainWAFPolicy
  cache : DomainCachePolicy

variable {services : NameServices} {db db' base : PanelStore} {ids : DomainIDs} {now : Time} {row : DomainRow}
  {otherDomain otherAccount owner : ID} {waf : DomainWAFPolicy} {root : DocumentRoot}

namespace PanelStore

variable {accountID domainID : ID}

def wafPolicy (db : PanelStore) (accountID domainID : ID) : Option DomainWAFPolicy :=
  db.wafPolicies.find? fun row => decide (row.accountID = accountID ∧ row.domainID = domainID)

def cachePolicy (db : PanelStore) (accountID domainID : ID) : Option DomainCachePolicy :=
  db.cachePolicies.find? fun row => decide (row.accountID = accountID ∧ row.domainID = domainID)

def targetRoot (db : PanelStore) (accountID : ID) (target : DomainTarget) : Option DocumentRoot :=
  db.documentRoots.find? fun root => decide (root.accountID = accountID ∧ some root.id = target.documentRootID)

def targetRedirect (db : PanelStore) (accountID domainID : ID) (target : DomainTarget) : Option DomainRedirect :=
  db.redirects.find? fun redirect =>
    decide (redirect.accountID = accountID ∧ redirect.domainID = domainID ∧ some redirect.id = target.redirectID)

def settings (db : PanelStore) (accountID domainID : ID) : Option DomainSettings := do
  let target ← db.currentTarget accountID domainID
  let waf ← db.wafPolicy accountID domainID
  let cache ← db.cachePolicy accountID domainID
  pure ⟨target, db.targetRoot accountID target, db.targetRedirect accountID domainID target, waf, cache⟩

theorem settings_eq_some {settings : DomainSettings} :
    db.settings accountID domainID = some settings ↔
      db.currentTarget accountID domainID = some settings.target ∧
      db.wafPolicy accountID domainID = some settings.waf ∧
      db.cachePolicy accountID domainID = some settings.cache ∧
      db.targetRoot accountID settings.target = settings.root ∧
      db.targetRedirect accountID domainID settings.target = settings.redirect := by
  simp only [PanelStore.settings, Option.bind_eq_bind, bind_eq_some_iff, Option.pure_def, some.injEq]
  constructor
  · rintro ⟨target, htarget, waf, hwaf, cache, hcache, rfl⟩
    exact ⟨htarget, hwaf, hcache, rfl, rfl⟩
  · rintro ⟨htarget, hwaf, hcache, hroot, hredirect⟩
    exact ⟨_, htarget, _, hwaf, _, hcache, by rw [hroot, hredirect]⟩

theorem settings_congr (htargets : db'.targets = db.targets) (hroots : db'.documentRoots = db.documentRoots)
    (hredirects : db'.redirects = db.redirects) (hwaf : db'.wafPolicy accountID domainID = db.wafPolicy accountID domainID)
    (hcache : db'.cachePolicy accountID domainID = db.cachePolicy accountID domainID) :
    db'.settings accountID domainID = db.settings accountID domainID := by
  unfold PanelStore.settings currentTarget targetRoot targetRedirect
  rw [htargets, hroots, hredirects, hwaf, hcache]

/-- A domain is read from its row, its settings, its TLS state and its exceptions. -/
theorem domainRecord_of_settings (now : Time) {settings : DomainSettings} {tls : DomainTLSState}
    (hrow : db.domains.find? (fun row => decide (row.accountID = accountID ∧ row.id = domainID)) = some row)
    (hsettings : db.settings accountID domainID = some settings)
    (htls : db.tlsStates.find? (ofDomain accountID domainID) = some tls) :
    ∃ domain, db.domainRecord accountID domainID now = some domain ∧ domain.row = row ∧
      domain.target = settings.target ∧ domain.documentRoot = settings.root ∧
      domain.redirect = settings.redirect ∧ domain.tls = tls ∧ domain.waf = settings.waf ∧
      domain.cache = settings.cache ∧ domain.exceptions = db.activeWAFExceptions accountID domainID now := by
  obtain ⟨htarget, hwaf, hcache, hroot, hredirect⟩ := settings_eq_some.mp hsettings
  simp only [wafPolicy] at hwaf
  simp only [cachePolicy] at hcache
  unfold domainRecord
  simp only [hrow, htarget, htls, hwaf, hcache, Option.bind_eq_bind, Option.bind_some, Option.pure_def,
    some.injEq, exists_eq_left', true_and]
  exact ⟨hroot, hredirect, trivial⟩

end PanelStore

/-- The record is what the store holds of its domain. -/
structure Domain.ReadFrom (domain : Domain) (db : PanelStore) (now : Time) : Prop where
  row : domain.row ∈ db.domains
  tls : db.findTLSState domain.row.id = some domain.tls
  settings : db.settings domain.row.accountID domain.row.id =
    some ⟨domain.target, domain.documentRoot, domain.redirect, domain.waf, domain.cache⟩
  exceptions : domain.exceptions = db.activeWAFExceptions domain.row.accountID domain.row.id now

/-- The settings were accepted for the domain: the target was prepared from some specification under its
name, the rows the target names are there, and caching fits the target. -/
structure DomainSettings.Valid (services : NameServices) (row : DomainRow) (settings : DomainSettings) : Prop where
  target : ∃ spec prepared ids rootID actorID createdAt,
    prepareDomainTarget services spec ⟨row.displayName, row.asciiName⟩ = .ok prepared ∧
    settings.target = targetRow row.accountID row.id ids prepared rootID
      (prepared.redirect.map fun _ => ids.redirectCandidateID) actorID createdAt ∧
    (prepared.type = .static ∨ prepared.type = .php → ∃ root, settings.root = some root ∧
      root.accountID = row.accountID ∧ rootID = some root.id) ∧
    (¬(prepared.type = .static ∨ prepared.type = .php) → rootID = none) ∧
    settings.redirect = prepared.redirect.map fun redirect =>
      redirectRow row.accountID row.id ids.redirectCandidateID redirect actorID createdAt
  cache : validateCacheTarget settings.cache.preset settings.target.type = .ok ()

namespace PanelStore

/-- Every domain has valid settings, and the tables they are read from have unique keys. -/
structure Furnished (services : NameServices) (db : PanelStore) : Prop where
  domains : (db.domains.map DomainRow.id).Nodup
  roots : (db.documentRoots.map DocumentRoot.id).Nodup
  rootPaths : ∀ root ∈ db.documentRoots, normalizeDocumentRoot root.relativePath = .ok root.relativePath
  targets : (db.targets.map DomainTarget.id).Nodup
  /-- A domain has at most one target that is not superseded. -/
  single : ∀ target ∈ db.targets, target.supersededAt = none →
    db.currentTarget target.accountID target.domainID = some target
  valid : ∀ row ∈ db.domains, ∃ settings, db.settings row.accountID row.id = some settings ∧
    settings.Valid services row
  ids : ∀ row ∈ db.domains, isCanonicalUUIDv7 row.id = true ∧ isCanonicalUUIDv7 row.accountID = true
  named : ∀ row ∈ db.domains, asciiNameAllowed row.asciiName = true ∧
    ∃ given, normalizeDomainBase services given = .ok ⟨row.displayName, row.asciiName⟩

/-! ### A new target -/

/-- The rows that are current for a domain. -/
def currentOf (accountID domainID : ID) (row : DomainTarget) : Bool :=
  decide (row.accountID = accountID ∧ row.domainID = domainID ∧ row.supersededAt = none)

theorem currentOf_iff {accountID domainID : ID} {row : DomainTarget} :
    currentOf accountID domainID row = true ↔
      row.accountID = accountID ∧ row.domainID = domainID ∧ row.supersededAt = none :=
  decide_eq_true_iff

theorem currentTarget_eq (accountID domainID : ID) :
    db.currentTarget accountID domainID = db.targets.find? (currentOf accountID domainID) := rfl

namespace TargetSet

variable {accountID domainID : ID} {target : PreparedDomainTarget} {actorID : Option ID}

section

variable (h : TargetSet db accountID domainID ids target actorID now db')

include h

/-- Only the three tables of targets matter. -/
theorem congr {later : PanelStore} (htargets : later.targets = db'.targets)
    (hroots : later.documentRoots = db'.documentRoots) (hredirects : later.redirects = db'.redirects) :
    TargetSet db accountID domainID ids target actorID now later := by
  obtain ⟨hrow, hfresh, hvacant, hnew, hfreshRedirect, hadded⟩ := h
  rw [← htargets, ← hroots] at hrow
  rw [← hredirects] at hnew
  rw [← hroots] at hadded
  exact ⟨hrow, hfresh, hvacant, hnew, hfreshRedirect, hadded⟩

theorem currentTarget_self :
    ∃ rootID, db'.currentTarget accountID domainID = some (targetRow accountID domainID ids target rootID
        (target.redirect.map fun _ => ids.redirectCandidateID) actorID now) ∧
      (target.type = .static ∨ target.type = .php → ∃ root ∈ db'.documentRoots,
        root.accountID = accountID ∧ rootID = some root.id) ∧
      (¬(target.type = .static ∨ target.type = .php) → rootID = none) := by
  obtain ⟨rootID, redirectID, htargets, hroot, hnoRoot, rfl⟩ := h.row
  refine ⟨rootID, ?_, hroot, hnoRoot⟩
  have hvacant := h.vacant
  rw [currentTarget_eq] at hvacant ⊢
  rw [htargets, find?_append, hvacant]
  simp [currentOf, targetRow]

theorem currentTarget_other (hne : ¬(otherAccount = accountID ∧ otherDomain = domainID)) :
    db'.currentTarget otherAccount otherDomain = db.currentTarget otherAccount otherDomain := by
  obtain ⟨rootID, redirectID, htargets, -⟩ := h.row
  rw [currentTarget_eq, currentTarget_eq, htargets]
  apply find?_append_of_not
  intro row hmem
  rw [mem_singleton.mp hmem]
  simp only [currentOf, targetRow, decide_eq_false_iff_not]
  exact fun hrow => hne ⟨hrow.1.symm, hrow.2.1.symm⟩

/-- The domain of the new target had no current one, so a domain still has at most one. -/
theorem single
    (hdb : ∀ target ∈ db.targets, target.supersededAt = none → db.currentTarget target.accountID target.domainID = some target) :
    ∀ target ∈ db'.targets, target.supersededAt = none →
      db'.currentTarget target.accountID target.domainID = some target := by
  obtain ⟨rootID, redirectID, htargets, -⟩ := h.row
  intro other hmem hcurrent
  rw [htargets] at hmem
  rw [currentTarget_eq, htargets]
  rcases mem_append.mp hmem with hold | hnew
  · exact Rows.find?_append_of_some (hdb other hold hcurrent) _
  · rw [mem_singleton.mp hnew]
    apply find?_append_new
    · intro earlier hearlier
      exact Bool.eq_false_iff.mpr (List.find?_eq_none.mp h.vacant earlier hearlier)
    · simp [currentOf, targetRow]

theorem targetKeys (hdb : (db.targets.map DomainTarget.id).Nodup) : (db'.targets.map DomainTarget.id).Nodup := by
  obtain ⟨rootID, redirectID, htargets, -⟩ := h.row
  rw [htargets]
  exact nodup_keys_append hdb h.fresh

theorem targetRoot_keep {other : DomainTarget} (hroot : db.targetRoot owner other = some root) :
    db'.targetRoot owner other = some root := by
  rcases h.roots with hroots | ⟨given, path, -, hroots, -⟩
  · rw [targetRoot, hroots]
    exact hroot
  · rw [targetRoot, hroots]
    exact Rows.find?_append_of_some hroot _

theorem targetRedirect_other (hne : otherDomain ≠ domainID) (other : DomainTarget) :
    db'.targetRedirect owner otherDomain other = db.targetRedirect owner otherDomain other := by
  rw [targetRedirect, h.redirects]
  apply find?_append_of_not
  intro row hmem
  obtain ⟨redirect, -, rfl⟩ := Option.map_eq_some_iff.mp (Option.mem_toList.mp hmem)
  refine decide_eq_false ?_
  rintro ⟨-, hdomain, -⟩
  exact hne hdomain.symm

theorem targetRedirect_self (rootID : Option ID) :
    db'.targetRedirect accountID domainID (targetRow accountID domainID ids target rootID
        (target.redirect.map fun _ => ids.redirectCandidateID) actorID now) =
      target.redirect.map fun redirect =>
        redirectRow accountID domainID ids.redirectCandidateID redirect actorID now := by
  rw [targetRedirect, h.redirects]
  cases hredirect : target.redirect with
  | none =>
    apply List.find?_eq_none.mpr
    intro row hmem
    simp [targetRow]
  | some redirect =>
    have hfresh := h.freshRedirect (by simp [hredirect])
    rw [find?_append, List.find?_eq_none.mpr, Option.none_or]
    · simp [redirectRow, targetRow]
    · intro row hmem
      simp only [targetRow, Option.map_some, some.injEq, decide_eq_true_eq]
      exact fun hrow => hfresh row hmem hrow.2.2

end

end TargetSet

/-! ### Preservation -/

theorem normalizeDocumentRoot_eq {given path : String} (h : normalizeDocumentRoot given = .ok path) :
    path = given := by
  simp only [normalizeDocumentRoot, ite_throw_eq_ok_iff, pure_eq_ok_iff] at h
  exact h.2.symm

theorem TargetSet.rootTables {accountID domainID : ID} {target : PreparedDomainTarget} {actorID : Option ID}
    (h : TargetSet db accountID domainID ids target actorID now db')
    (hids : (db.documentRoots.map DocumentRoot.id).Nodup)
    (hpaths : ∀ root ∈ db.documentRoots, normalizeDocumentRoot root.relativePath = .ok root.relativePath) :
    (db'.documentRoots.map DocumentRoot.id).Nodup ∧
      ∀ root ∈ db'.documentRoots, normalizeDocumentRoot root.relativePath = .ok root.relativePath := by
  rcases h.roots with hroots | ⟨given, path, hpath, hroots, hfresh⟩
  · rw [hroots]
    exact ⟨hids, hpaths⟩
  · rw [hroots]
    obtain rfl := normalizeDocumentRoot_eq hpath
    exact ⟨nodup_keys_append hids hfresh, forall_mem_append.mpr ⟨hpaths, forall_mem_singleton.mpr hpath⟩⟩

/-- With unique identifiers, a root of the account is found by the target that names it. -/
theorem targetRoot_of_mem (hids : (db.documentRoots.map DocumentRoot.id).Nodup) (hmem : root ∈ db.documentRoots)
    {target : DomainTarget} (hroot : target.documentRootID = some root.id) :
    db.targetRoot root.accountID target = some root := by
  apply find?_of_mem hids hmem
  · simp [hroot]
  · intro other _ hother
    rw [hroot] at hother
    exact some.inj (of_decide_eq_true hother).2

end PanelStore

variable {f : DomainRow → DomainRow}

namespace PanelStore

/-- The change of a row keeps what the settings of the domain depend on. -/
structure KeepsName (f : DomainRow → DomainRow) : Prop where
  id : ∀ row, (f row).id = row.id
  accountID : ∀ row, (f row).accountID = row.accountID
  displayName : ∀ row, (f row).displayName = row.displayName
  asciiName : ∀ row, (f row).asciiName = row.asciiName

theorem KeepsName.valid (hf : KeepsName f) {settings : DomainSettings} (h : settings.Valid services row) :
    settings.Valid services (f row) := by
  refine ⟨?_, h.cache⟩
  rw [hf.id, hf.accountID, hf.displayName, hf.asciiName]
  exact h.target

theorem KeepsName.checked (hf : KeepsName f) (hdb : db.Furnished services) :
    (∀ row ∈ db.domains.map f, isCanonicalUUIDv7 row.id = true ∧ isCanonicalUUIDv7 row.accountID = true) ∧
      ∀ row ∈ db.domains.map f, asciiNameAllowed row.asciiName = true ∧
        ∃ given, normalizeDomainBase services given = .ok ⟨row.displayName, row.asciiName⟩ := by
  simp only [forall_mem_map, hf.id, hf.accountID, hf.displayName, hf.asciiName]
  exact ⟨hdb.ids, hdb.named⟩

theorem keepsName_updateWhere {p : DomainRow → Bool} (hf : KeepsName f) :
    KeepsName fun row => if p row then f row else row := by
  refine ⟨fun row => ?_, fun row => ?_, fun row => ?_, fun row => ?_⟩
  all_goals
    split
    · simp only [hf.id, hf.accountID, hf.displayName, hf.asciiName]
    · rfl

/-- The change of a row also keeps its mode and does not bring it back. -/
structure KeepsRow (f : DomainRow → DomainRow) : Prop extends KeepsName f where
  mode : ∀ row, (f row).canonicalMode = row.canonicalMode
  live : ∀ row, (f row).removedAt = none → row.removedAt = none

theorem KeepsRow.updateWhere {p : DomainRow → Bool} (hf : KeepsRow f) : KeepsRow fun row => if p row then f row else row := by
  refine ⟨keepsName_updateWhere hf.toKeepsName, fun row => ?_, fun row => ?_⟩
  · split
    · exact hf.mode row
    · rfl
  · split
    · exact hf.live row
    · exact id

/-- Of domains and settings only rows of the domains were changed. -/
structure RowsChanged (f : DomainRow → DomainRow) (db db' : PanelStore) : Prop where
  rows : KeepsRow f
  domains : db'.domains = db.domains.map f
  targets : db'.targets = db.targets
  roots : db'.documentRoots = db.documentRoots
  redirects : db'.redirects = db.redirects
  waf : db'.wafPolicies = db.wafPolicies
  cache : db'.cachePolicies = db.cachePolicies

theorem RowsChanged.settings (h : RowsChanged f db db') (accountID domainID : ID) :
    db'.settings accountID domainID = db.settings accountID domainID := by
  refine settings_congr h.targets h.roots h.redirects ?_ ?_
  · rw [wafPolicy, h.waf]
    rfl
  · rw [cachePolicy, h.cache]
    rfl

theorem RowsChanged.furnished (h : RowsChanged f db db') (hdb : db.Furnished services) : db'.Furnished services := by
  obtain ⟨hids, hnamed⟩ := h.rows.checked hdb
  rw [← h.domains] at hids hnamed
  refine ⟨?_, ?_, ?_, ?_, ?_, ?_, hids, hnamed⟩
  · rw [h.domains, keys_map h.rows.id]
    exact hdb.domains
  · rw [h.roots]
    exact hdb.roots
  · rw [h.roots]
    exact hdb.rootPaths
  · rw [h.targets]
    exact hdb.targets
  · unfold currentTarget
    rw [h.targets]
    exact hdb.single
  · rw [h.domains, forall_mem_map]
    intro row hmem
    obtain ⟨settings, hfound, hvalid⟩ := hdb.valid row hmem
    refine ⟨settings, ?_, h.rows.valid hvalid⟩
    rw [h.rows.id, h.rows.accountID, h.settings]
    exact hfound

end PanelStore

section

theorem validateID_eq_ok_iff {value : ID} {field : String} :
    validateID value field = .ok () ↔ isCanonicalUUIDv7 value = true := by
  unfold validateID
  split
  next hvalid => simp [hvalid, pure_eq_ok]
  next hvalid => simp [hvalid, throw_eq_error]

theorem checkCreateDomain_ok {params : CreateDomainParams} {checked : CheckedCreation}
    (h : checkCreateDomain services params ids = .ok checked) :
    isCanonicalUUIDv7 params.accountID = true ∧
      normalizeDomainBase services params.name = .ok checked.name ∧
      prepareDomainTarget services params.target checked.name = .ok checked.target ∧
      validateCacheTarget checked.cachePreset checked.target.type = .ok () := by
  simp only [checkCreateDomain, bind_eq_ok_iff, guard_eq_ok_iff, pure_eq_ok_iff] at h
  obtain ⟨⟨⟩, haccount, ⟨⟩, -, ⟨⟩, -, ⟨⟩, -, -, requestID, -, name, hname, canonicalMode, -, tlsMode, -, wafMode, -,
    cachePreset, -, target, htarget, ⟨⟩, hcache, rfl⟩ := h
  exact ⟨validateID_eq_ok_iff.mp haccount, hname, htarget, hcache⟩

/-- The settings are those of a prepared target. -/
structure DomainSettings.Carries (settings : DomainSettings) (row : DomainRow) (ids : DomainIDs)
    (prepared : PreparedDomainTarget) (actorID : Option ID) (now : Time) : Prop where
  target : ∃ rootID, settings.target = targetRow row.accountID row.id ids prepared rootID
    (prepared.redirect.map fun _ => ids.redirectCandidateID) actorID now
  redirect : settings.redirect = prepared.redirect.map fun redirect =>
    redirectRow row.accountID row.id ids.redirectCandidateID redirect actorID now

theorem DomainSettings.Carries.type {settings : DomainSettings} {target : PreparedDomainTarget} {actorID : Option ID}
    (h : settings.Carries row ids target actorID now) :
    settings.target.type = target.type := by
  obtain ⟨rootID, htarget⟩ := h.target
  rw [htarget]
  rfl

theorem valid_of_targetSet (row : DomainRow) {spec : DomainTargetSpec} {target : PreparedDomainTarget}
    {actorID : Option ID} {cache : DomainCachePolicy}
    (h : TargetSet base row.accountID row.id ids target actorID now db')
    (hids : (db'.documentRoots.map DocumentRoot.id).Nodup)
    (hprepared : prepareDomainTarget services spec ⟨row.displayName, row.asciiName⟩ = .ok target)
    (hwaf : db'.wafPolicy row.accountID row.id = some waf)
    (hcache : db'.cachePolicy row.accountID row.id = some cache)
    (hfits : validateCacheTarget cache.preset target.type = .ok ()) :
    ∃ settings, db'.settings row.accountID row.id = some settings ∧ settings.Valid services row ∧
      settings.waf = waf ∧ settings.cache = cache ∧ settings.Carries row ids target actorID now := by
  obtain ⟨rootID, hcurrent, hroot, hnoRoot⟩ := h.currentTarget_self
  have hredirect := h.targetRedirect_self rootID
  generalize hrow : targetRow row.accountID row.id ids target rootID
    (target.redirect.map fun _ => ids.redirectCandidateID) actorID now = current at hcurrent hredirect
  refine ⟨⟨current, db'.targetRoot row.accountID current, _, waf, cache⟩,
    settings_eq_some.mpr ⟨hcurrent, hwaf, hcache, rfl, hredirect⟩, ⟨?_, ?_⟩, rfl, rfl, ⟨⟨rootID, hrow.symm⟩, rfl⟩⟩
  rotate_left
  · rw [← hrow]
    exact hfits
  refine ⟨spec, target, ids, rootID, actorID, now, hprepared, hrow.symm, fun hserves => ?_, hnoRoot, rfl⟩
  obtain ⟨root, hmem, haccount, hid⟩ := hroot hserves
  refine ⟨root, ?_, haccount, hid⟩
  rw [← haccount]
  exact targetRoot_of_mem hids hmem (hrow ▸ hid)

/-- The settings of a domain other than the one whose target is set stay the same. -/
theorem DomainSettings.Valid.keep {settings : DomainSettings} {accountID domainID : ID}
    {target : PreparedDomainTarget} {actorID : Option ID} (hvalid : settings.Valid services row)
    (hset : TargetSet base accountID domainID ids target actorID now db') (hne : row.id ≠ domainID)
    (hroots : base.documentRoots = db.documentRoots) (hredirects : base.redirects = db.redirects)
    (hcurrent : base.currentTarget row.accountID row.id = db.currentTarget row.accountID row.id)
    (hwaf : db'.wafPolicy row.accountID row.id = db.wafPolicy row.accountID row.id)
    (hcache : db'.cachePolicy row.accountID row.id = db.cachePolicy row.accountID row.id)
    (hsettings : db.settings row.accountID row.id = some settings) :
    db'.settings row.accountID row.id = some settings := by
  obtain ⟨htarget, hfoundWAF, hfoundCache, hroot, hredirect⟩ := settings_eq_some.mp hsettings
  refine settings_eq_some.mpr ⟨?_, hwaf.trans hfoundWAF, hcache.trans hfoundCache, ?_, ?_⟩
  · rw [hset.currentTarget_other fun heq => hne heq.2, hcurrent]
    exact htarget
  · -- A root that the target names was there before, and a target without a root finds none.
    obtain ⟨spec, prepared, otherIDs, rootID, otherActor, createdAt, -, htargetRow, hserves, hnoRoot, -⟩ :=
      hvalid.target
    by_cases hfiles : prepared.type = .static ∨ prepared.type = .php
    · obtain ⟨root, hsome, -, -⟩ := hserves hfiles
      rw [hsome] at hroot ⊢
      apply hset.targetRoot_keep
      rw [targetRoot, hroots]
      exact hroot
    · have hnone : settings.target.documentRootID = none := by rw [htargetRow]; exact hnoRoot hfiles
      have hmissing : ∀ store : PanelStore, store.targetRoot row.accountID settings.target = none := by
        intro store
        apply List.find?_eq_none.mpr
        simp [hnone]
      rw [hmissing db'] at *
      rw [← hroot, hmissing db]
  · rw [hset.targetRedirect_other hne, ← hredirect, targetRedirect, hredirects]
    rfl

namespace Created

variable {params : CreateDomainParams} {checked : CheckedCreation}

theorem settings_other (h : Created db params checked ids now db') (hmem : row ∈ db.domains)
    {settings : DomainSettings} (hsettings : db.settings row.accountID row.id = some settings)
    (hvalid : settings.Valid services row) : db'.settings row.accountID row.id = some settings := by
  have hne := h.freshID row hmem
  refine hvalid.keep h.target hne rfl rfl rfl ?_ ?_ hsettings
  · rw [wafPolicy, h.wafPolicies]
    exact find?_append_of_not (forall_mem_singleton.mpr (decide_eq_false fun heq => hne heq.2.symm))
  · rw [cachePolicy, h.cachePolicies]
    exact find?_append_of_not (forall_mem_singleton.mpr (decide_eq_false fun heq => hne heq.2.symm))

section

variable (hchecked : checkCreateDomain services params ids = .ok checked) (h : Created db params checked ids now db')
  (hdb : db.Furnished services)

include hchecked h hdb

/-- A new domain is configured with what the creation asked for; its cache begins with a generation named
after the domain. -/
theorem settings_self :
    ∃ settings, db'.settings params.accountID checked.domainID = some settings ∧
      settings.Valid services (checked.row params now) ∧
      settings.waf = ⟨params.accountID, checked.domainID, checked.wafMode, now⟩ ∧
      settings.cache = ⟨params.accountID, checked.domainID, checked.cachePreset, checked.domainID, now⟩ ∧
      settings.Carries (checked.row params now) ids checked.target params.actorID now := by
  obtain ⟨-, -, hprepared, hfits⟩ := checkCreateDomain_ok hchecked
  obtain ⟨hids, -⟩ := h.target.rootTables hdb.roots hdb.rootPaths
  have hwaf : db'.wafPolicy params.accountID checked.domainID =
      some ⟨params.accountID, checked.domainID, checked.wafMode, now⟩ := by
    rw [wafPolicy, h.wafPolicies]
    apply find?_append_new
    · exact fun other hother => decide_eq_false fun heq => h.freshWAF other hother heq.2
    · simp
  have hcache : db'.cachePolicy params.accountID checked.domainID =
      some ⟨params.accountID, checked.domainID, checked.cachePreset, checked.domainID, now⟩ := by
    rw [cachePolicy, h.cachePolicies]
    apply find?_append_new
    · exact fun other hother => decide_eq_false fun heq => h.freshCache other hother heq.2
    · simp
  exact valid_of_targetSet (checked.row params now) h.target hids hprepared hwaf hcache hfits

theorem furnished : db'.Furnished services := by
  obtain ⟨haccount, hname, -, -⟩ := checkCreateDomain_ok hchecked
  obtain ⟨hids, hpaths⟩ := h.target.rootTables hdb.roots hdb.rootPaths
  refine ⟨?_, hids, hpaths, h.target.targetKeys hdb.targets, h.target.single hdb.single, ?_, ?_, ?_⟩
  · rw [h.domains]
    exact nodup_keys_append hdb.domains h.freshID
  · rw [h.domains]
    intro row hmem
    rcases mem_append.mp hmem with hold | hnew
    · obtain ⟨settings, hsettings, hvalid⟩ := hdb.valid row hold
      exact ⟨settings, h.settings_other hold hsettings hvalid, hvalid⟩
    · rw [mem_singleton.mp hnew]
      obtain ⟨settings, hsettings, hvalid, -⟩ := settings_self hchecked h hdb
      exact ⟨settings, hsettings, hvalid⟩
  · rw [h.domains]
    have hid := h.idAllowed
    rw [domainIDAllowed, and_eq_true] at hid
    exact forall_mem_append.mpr ⟨hdb.ids, forall_mem_singleton.mpr ⟨hid.1, haccount⟩⟩
  · rw [h.domains]
    exact forall_mem_append.mpr ⟨hdb.named, forall_mem_singleton.mpr ⟨h.nameAllowed, params.name, hname⟩⟩

end

end Created

/-! ### Edits -/

theorem keepsName_setEdited (canonicalMode : Option CanonicalMode) (now : Time) :
    KeepsName (DomainRow.setEdited canonicalMode now) :=
  ⟨fun _ => rfl, fun _ => rfl, fun _ => rfl, fun _ => rfl⟩

namespace Edited

variable {params : UpdateDomainParams} {checked : CheckedUpdate} {domainID : ID}

section

variable (h : Edited services db params checked ids now db')

include h

theorem wafPolicy_self (hwaf : db.wafPolicy params.accountID params.domainID = some waf) :
    ∃ waf', db'.wafPolicy params.accountID params.domainID = some waf' ∧
      waf'.mode = checked.wafMode.getD waf.mode := by
  rw [wafPolicy, h.wafPolicies]
  cases checked.wafMode with
  | none => exact ⟨waf, hwaf, rfl⟩
  | some mode =>
    have hselected := find?_some hwaf
    refine ⟨{ waf with mode := mode, updatedAt := now }, ?_, rfl⟩
    rw [wafPolicy] at hwaf
    rw [Option.elim_some, Rows.find?_updateWhere, hwaf, Option.map_some, if_pos hselected]
    exact fun _ => rfl

theorem wafPolicy_other (accountID : ID) (hne : domainID ≠ params.domainID) :
    db'.wafPolicy accountID domainID = db.wafPolicy accountID domainID := by
  rw [wafPolicy, h.wafPolicies]
  cases checked.wafMode with
  | none => rfl
  | some mode =>
    apply Rows.find?_updateWhere_of_not
    · exact fun _ => rfl
    · intro row hrow
      have hdomain := (of_decide_eq_true hrow).2
      exact decide_eq_false fun heq => hne (hdomain.symm.trans heq.2)

theorem cachePolicy_other (accountID : ID) (hne : domainID ≠ params.domainID) :
    db'.cachePolicy accountID domainID = db.cachePolicy accountID domainID := by
  obtain ⟨domain, current, cache, db₁, type, -, -, -, -, -, -, hpolicies, -⟩ := h.read
  rw [cachePolicy, hpolicies]
  apply Rows.find?_updateWhere_of_not
  · exact fun _ => rfl
  · intro row hrow
    have hdomain := (of_decide_eq_true hrow).2
    exact decide_eq_false fun heq => hne (hdomain.symm.trans heq.2)

end

end Edited

theorem supersedeTarget_other (db : PanelStore) (now : Time) {accountID domainID : ID}
    (hne : ¬(otherAccount = accountID ∧ otherDomain = domainID)) :
    (db.supersedeTarget accountID domainID now).1.currentTarget otherAccount otherDomain =
      db.currentTarget otherAccount otherDomain := by
  rw [currentTarget_eq, currentTarget_eq]
  simp only [supersedeTarget, updateWhere, find?_map]
  -- A row that the query accepts is not superseded, and a superseded one is never accepted.
  have hcomp : (currentOf otherAccount otherDomain ∘ fun row : DomainTarget =>
      if decide (row.accountID = accountID ∧ row.domainID = domainID ∧ row.supersededAt = none) then
        { row with supersededAt := some now } else row) = currentOf otherAccount otherDomain := by
    funext row
    simp only [Function.comp]
    split
    next hselected =>
      have hrow := of_decide_eq_true hselected
      simp only [currentOf]
      rw [decide_eq_false (by simp), decide_eq_false]
      exact fun heq => hne ⟨heq.1.symm.trans hrow.1, heq.2.1.symm.trans hrow.2.1⟩
    next => rfl
  rw [hcomp]
  cases hfound : db.targets.find? (currentOf otherAccount otherDomain) with
  | none => rfl
  | some row =>
    have hrow := currentOf_iff.mp (find?_some hfound)
    rw [Option.map_some, if_neg]
    intro hselected
    have heq := of_decide_eq_true hselected
    exact hne ⟨hrow.1.symm.trans heq.1, hrow.2.1.symm.trans heq.2.1⟩

theorem supersedeTarget_ids (db : PanelStore) (accountID domainID : ID) (now : Time) :
    (db.supersedeTarget accountID domainID now).1.targets.map DomainTarget.id = db.targets.map DomainTarget.id := by
  apply keys_updateWhere
  exact fun _ => rfl

theorem supersedeTarget_single (db : PanelStore) (accountID domainID : ID) (now : Time)
    (hdb : ∀ target ∈ db.targets, target.supersededAt = none →
      db.currentTarget target.accountID target.domainID = some target) :
    ∀ target ∈ (db.supersedeTarget accountID domainID now).1.targets, target.supersededAt = none →
      (db.supersedeTarget accountID domainID now).1.currentTarget target.accountID target.domainID =
        some target := by
  intro target hmem hcurrent
  obtain ⟨hold, hother⟩ := mem_of_mem_updateWhere hmem hcurrent fun _ h => by cases h
  rw [supersedeTarget_other]
  · exact hdb target hold hcurrent
  · exact fun heq => hother (decide_eq_true ⟨heq.1, heq.2, hcurrent⟩)

/-- What an edit leaves a domain configured with. -/
structure EditedSettings (services : NameServices) (db : PanelStore) (row : DomainRow) (params : UpdateDomainParams)
    (checked : CheckedUpdate) (ids : DomainIDs) (now : Time) (settings edited : DomainSettings) : Prop where
  waf : edited.waf.mode = checked.wafMode.getD settings.waf.mode
  preset : edited.cache.preset = checked.cachePreset.getD settings.cache.preset
  generation : edited.cache.generation = ids.targetID
  kept : params.target = none →
    edited.target = settings.target ∧ edited.root = settings.root ∧ edited.redirect = settings.redirect
  changed : ∀ spec, params.target = some spec → ∃ target,
    prepareDomainTarget services spec ⟨row.displayName, row.asciiName⟩ = .ok target ∧
    (∃ limits, db.validateTargetAgainstPackage params.accountID target limits = .ok ()) ∧
    (∀ other ∈ db.targets, other.id ≠ ids.targetID) ∧ edited.Carries row ids target params.actorID now

section

variable {params : UpdateDomainParams} {checked : CheckedUpdate} (h : Edited services db params checked ids now db')

include h

theorem Edited.settings_self (hdb : db.Furnished services) (hmem : row ∈ db.domains) (hid : row.id = params.domainID)
    {settings : DomainSettings} (hsettings : db.settings row.accountID row.id = some settings)
    (hvalid : settings.Valid services row) :
    row.accountID = params.accountID ∧ ∃ edited, db'.settings row.accountID row.id = some edited ∧
      edited.Valid services row ∧ EditedSettings services db row params checked ids now settings edited := by
  obtain ⟨domain, current, cache, db₁, type, hdomain, hcurrent, hcache, -, hmaybe, hfits, hpolicies, hroots,
    hredirects, htargets, -, -⟩ := h.read
  have hnamed := ofAccount_iff.mp (find?_some hdomain)
  obtain rfl : domain = row := inj_on_of_nodup_map hdb.domains (mem_of_find?_eq_some hdomain) hmem
    (hnamed.2.trans hid.symm)
  refine ⟨hnamed.1, ?_⟩
  rw [hnamed.1, hid] at hsettings ⊢
  obtain ⟨htarget, hwaf, hcachePolicy, hroot, hredirect⟩ := settings_eq_some.mp hsettings
  rw [htarget, some.injEq] at hcurrent
  rw [cachePolicy, hcache, some.injEq] at hcachePolicy
  subst hcurrent hcachePolicy
  obtain ⟨waf', hwaf', hmode⟩ := h.wafPolicy_self hwaf
  have hcache' : db'.cachePolicy params.accountID params.domainID = some { settings.cache with
      preset := checked.cachePreset.getD settings.cache.preset, generation := ids.targetID, updatedAt := now } := by
    rw [cachePolicy, hpolicies, Rows.find?_updateWhere, hcache, Option.map_some,
      if_pos (find?_some hcache)]
    exact fun _ => rfl
  cases hmaybe with
  | kept hnone =>
    refine ⟨⟨settings.target, settings.root, settings.redirect, waf', _⟩, settings_eq_some.mpr
      ⟨?_, hwaf', hcache', ?_, ?_⟩, ⟨hvalid.target, hfits⟩, ⟨hmode, rfl, rfl, fun _ => ⟨rfl, rfl, rfl⟩, ?_⟩⟩
    · rw [currentTarget_eq, htargets]
      exact htarget
    · rw [targetRoot, hroots]
      exact hroot
    · rw [targetRedirect, hredirects]
      exact hredirect
    · simp [hnone]
  | @changed spec target _ hsome hretargeted =>
    have hset := hretargeted.set.congr htargets hroots hredirects
    obtain ⟨hids, -⟩ := hset.rootTables hdb.roots hdb.rootPaths
    rw [← hnamed.1, ← hid] at hwaf' hcache' hset ⊢
    obtain ⟨edited, hedited, hvalid', hwafEq, hcacheEq, hcarries⟩ :=
      valid_of_targetSet domain hset hids hretargeted.prepared hwaf' hcache' hfits
    refine ⟨edited, hedited, hvalid', ⟨?_, ?_, ?_, ?_, ?_⟩⟩
    · rw [hwafEq]
      exact hmode
    · rw [hcacheEq]
    · rw [hcacheEq]
    · simp [hsome]
    · intro given hgiven
      rw [hsome, some.injEq] at hgiven
      subst hgiven
      obtain ⟨limits, -, hpackage⟩ := hretargeted.limits
      refine ⟨target, hretargeted.prepared, ⟨limits, hpackage⟩, ?_, hcarries⟩
      -- superseding keeps the identifiers, among which the new one is fresh
      intro other hother heq
      have hkept : other.id ∈ (db.supersedeTarget params.accountID params.domainID now).1.targets.map
          DomainTarget.id := by
        rw [supersedeTarget_ids]
        exact mem_map_of_mem hother
      obtain ⟨row, hrow, hid⟩ := mem_map.mp hkept
      exact hretargeted.set.fresh row hrow (hid.trans heq)

theorem Edited.settings_other (hne : row.id ≠ params.domainID) {settings : DomainSettings}
    (hsettings : db.settings row.accountID row.id = some settings) (hvalid : settings.Valid services row) :
    db'.settings row.accountID row.id = some settings := by
  have hwaf := h.wafPolicy_other row.accountID hne
  have hcache := h.cachePolicy_other row.accountID hne
  obtain ⟨domain, current, cache, db₁, type, -, -, -, -, hmaybe, -, -, hroots, hredirects, htargets, -, -⟩ := h.read
  cases hmaybe with
  | kept =>
    rw [settings_congr htargets hroots hredirects hwaf hcache]
    exact hsettings
  | @changed spec target _ hsome hretargeted =>
    have hset := hretargeted.set.congr htargets hroots hredirects
    have hcurrent : ¬(row.accountID = params.accountID ∧ row.id = params.domainID) := fun heq => hne heq.2
    exact hvalid.keep hset hne (Eq.refl db.documentRoots) (Eq.refl db.redirects)
      (supersedeTarget_other db now hcurrent) hwaf hcache hsettings

theorem Edited.tables (hdb : db.Furnished services) :
    (db'.documentRoots.map DocumentRoot.id).Nodup ∧
      (∀ root ∈ db'.documentRoots, normalizeDocumentRoot root.relativePath = .ok root.relativePath) ∧
      (db'.targets.map DomainTarget.id).Nodup ∧
      ∀ target ∈ db'.targets, target.supersededAt = none →
        db'.currentTarget target.accountID target.domainID = some target := by
  obtain ⟨domain, current, cache, db₁, type, -, -, -, -, hmaybe, -, -, hroots, hredirects, htargets, -, -⟩ := h.read
  cases hmaybe with
  | kept =>
    unfold currentTarget
    rw [hroots, htargets]
    exact ⟨hdb.roots, hdb.rootPaths, hdb.targets, hdb.single⟩
  | @changed spec target _ hsome hretargeted =>
    have hset := hretargeted.set.congr htargets hroots hredirects
    obtain ⟨hids, hpaths⟩ := hset.rootTables hdb.roots hdb.rootPaths
    refine ⟨hids, hpaths, hset.targetKeys ?_, hset.single (supersedeTarget_single db _ _ now hdb.single)⟩
    rw [supersedeTarget_ids]
    exact hdb.targets

theorem Edited.furnished (hdb : db.Furnished services) : db'.Furnished services := by
  have hkeeps := keepsName_updateWhere (p := ofAccount params.accountID params.domainID)
    (keepsName_setEdited checked.canonicalMode now)
  obtain ⟨hroots, hpaths, hkeys, hsingle⟩ := h.tables hdb
  obtain ⟨hids, hnamed⟩ := hkeeps.checked hdb
  rw [← updateWhere, ← h.domains] at hids hnamed
  refine ⟨?_, hroots, hpaths, hkeys, hsingle, ?_, hids, hnamed⟩
  · rw [h.domains, keys_updateWhere]
    · exact hdb.domains
    · exact (keepsName_setEdited _ _).id
  · rw [h.domains, updateWhere, forall_mem_map]
    intro row hmem
    obtain ⟨settings, hsettings, hvalid⟩ := hdb.valid row hmem
    rw [hkeeps.id, hkeeps.accountID]
    by_cases hid : row.id = params.domainID
    · obtain ⟨-, edited, hedited, hvalid', -⟩ := h.settings_self hdb hmem hid hsettings hvalid
      exact ⟨edited, hedited, hkeeps.valid hvalid'⟩
    · exact ⟨settings, h.settings_other hid hsettings hvalid, hkeeps.valid hvalid⟩

end

end

/-! ### Runs -/

section

/-- What a call can do to one domain and its settings. -/
inductive SettingsChange (services : NameServices) (db : PanelStore) :
    PanelCall → DomainRow → DomainSettings → Prop where
  /-- The domain was there, with the same names and the same settings. -/
  | kept (call : PanelCall) {row row' : DomainRow} {settings : DomainSettings} (hmem : row ∈ db.domains)
      (hid : row'.id = row.id) (haccount : row'.accountID = row.accountID)
      (hdisplay : row'.displayName = row.displayName) (hascii : row'.asciiName = row.asciiName)
      (hmode : row'.canonicalMode = row.canonicalMode) (hlive : row'.removedAt = none → row.removedAt = none)
      (hsettings : db.settings row.accountID row.id = some settings) : SettingsChange services db call row' settings
  | created {params : CreateDomainParams} {ids : DomainIDs} {now : Time} {checked : CheckedCreation}
      {db' : PanelStore} {settings : DomainSettings} (hchecked : checkCreateDomain services params ids = .ok checked)
      (h : Created db params checked ids now db')
      (hwaf : settings.waf = ⟨params.accountID, checked.domainID, checked.wafMode, now⟩)
      (hcache : settings.cache = ⟨params.accountID, checked.domainID, checked.cachePreset, checked.domainID, now⟩)
      (hcarries : settings.Carries (checked.row params now) ids checked.target params.actorID now) :
      SettingsChange services db (.createDomain params ids now) (checked.row params now) settings
  | edited {params : UpdateDomainParams} {ids : DomainIDs} {now : Time} {checked : CheckedUpdate}
      {db' : PanelStore} {row : DomainRow} {settings edited : DomainSettings}
      (hchecked : checkUpdateDomain params = .ok checked) (h : Edited services db params checked ids now db')
      (hmem : row ∈ db.domains) (hid : row.id = params.domainID) (haccount : row.accountID = params.accountID)
      (hsettings : db.settings row.accountID row.id = some settings)
      (hedited : EditedSettings services db row params checked ids now settings edited) :
      SettingsChange services db (.updateDomain params ids now) (row.setEdited checked.canonicalMode now) edited

variable {call : PanelCall} {row' : DomainRow}

theorem Edited.settingsChange {params : UpdateDomainParams} {checked : CheckedUpdate}
    (hchecked : checkUpdateDomain params = .ok checked) (h : Edited services db params checked ids now db')
    (hdb : db.Furnished services) (hmem' : row' ∈ db'.domains) :
    ∃ settings, db'.settings row'.accountID row'.id = some settings ∧
      SettingsChange services db (.updateDomain params ids now) row' settings := by
  rw [h.domains] at hmem'
  obtain ⟨row, hmem, rfl⟩ := mem_map.mp hmem'
  obtain ⟨settings, hsettings, hvalid⟩ := hdb.valid row hmem
  by_cases hid : row.id = params.domainID
  · obtain ⟨haccount, edited, hedited, -, hchange⟩ := h.settings_self hdb hmem hid hsettings hvalid
    rw [if_pos (ofAccount_iff.mpr ⟨haccount, hid⟩)]
    exact ⟨edited, hedited, .edited hchecked h hmem hid haccount hsettings hchange⟩
  · rw [if_neg fun howner => hid (ofAccount_iff.mp howner).2]
    exact ⟨settings, h.settings_other hid hsettings hvalid, .kept _ hmem rfl rfl rfl rfl rfl id hsettings⟩

theorem keepsRow_setStatus (status : DomainStatus) : KeepsRow (setStatus status now) :=
  ⟨⟨fun _ => rfl, fun _ => rfl, fun _ => rfl, fun _ => rfl⟩, fun _ => rfl, fun _ => id⟩

/-- What a call does to domains and settings: it creates a domain, edits one, or changes rows of domains only. -/
theorem Effect.domains_cases (h : Effect services db call db') :
    (∃ params ids now checked, call = .createDomain params ids now ∧
        checkCreateDomain services params ids = .ok checked ∧ Created db params checked ids now db') ∨
      (∃ params ids now checked, call = .updateDomain params ids now ∧ checkUpdateDomain params = .ok checked ∧
        Edited services db params checked ids now db') ∨
      ∃ f, RowsChanged f db db' := by
  have hid : KeepsRow id := ⟨⟨fun _ => rfl, fun _ => rfl, fun _ => rfl, fun _ => rfl⟩, fun _ => rfl, fun _ => id⟩
  cases h with
  | created hchecked h => exact .inl ⟨_, _, _, _, rfl, hchecked, h⟩
  | edited hchecked h => exact .inr (.inl ⟨_, _, _, _, rfl, hchecked, h⟩)
  | suspended h | resumed h | confirmed h =>
    refine .inr (.inr ⟨_, (keepsRow_setStatus _).updateWhere, h.domains, ?_, ?_, ?_, ?_, ?_⟩)
    all_goals rw [h.rest]
  | @removed _ now _ h =>
    have hremoved : KeepsRow (DomainRow.setRemoved now) :=
      ⟨⟨fun _ => rfl, fun _ => rfl, fun _ => rfl, fun _ => rfl⟩, fun _ => rfl, nofun⟩
    refine .inr (.inr ⟨_, hremoved.updateWhere, h.domains, ?_, ?_, ?_, ?_, ?_⟩)
    all_goals rw [h.rest]
  | exceptionAdded _ h | exceptionRemoved h | revisionCreated h | appliedRecorded h | ordered h | urlRecorded h
  | staged h | activated h | failed h =>
    refine .inr (.inr ?_)
    rw [h.rest]
    exact ⟨id, hid, (map_id _).symm, rfl, rfl, rfl, rfl, rfl⟩
  | unchanged | operation | issueQueued | workQueued | accountPut | applicationPut | acmeAccountPut =>
    exact .inr (.inr ⟨id, hid, (map_id _).symm, rfl, rfl, rfl, rfl, rfl⟩)

theorem Effect.settingsChange (h : Effect services db call db') (hdb : db.Furnished services)
    (hmem' : row' ∈ db'.domains) :
    ∃ settings, db'.settings row'.accountID row'.id = some settings ∧ SettingsChange services db call row' settings := by
  rcases h.domains_cases with ⟨params, ids, now, checked, rfl, hchecked, h⟩ |
    ⟨params, ids, now, checked, rfl, hchecked, h⟩ | ⟨f, h⟩
  · rw [h.domains] at hmem'
    rcases mem_append.mp hmem' with hold | hnew
    · obtain ⟨settings, hsettings, hvalid⟩ := hdb.valid row' hold
      exact ⟨settings, h.settings_other hold hsettings hvalid, .kept _ hold rfl rfl rfl rfl rfl id hsettings⟩
    · rw [mem_singleton.mp hnew]
      obtain ⟨settings, hsettings, -, hwaf, hcache, hcarries⟩ := Created.settings_self hchecked h hdb
      exact ⟨settings, hsettings, .created hchecked h hwaf hcache hcarries⟩
  · exact h.settingsChange hchecked hdb hmem'
  · rw [h.domains] at hmem'
    obtain ⟨row, hmem, rfl⟩ := mem_map.mp hmem'
    obtain ⟨settings, hsettings, -⟩ := hdb.valid row hmem
    refine ⟨settings, ?_, .kept call hmem (h.rows.id row) (h.rows.accountID row) (h.rows.displayName row)
      (h.rows.asciiName row) (h.rows.mode row) (h.rows.live row) hsettings⟩
    rw [h.rows.id, h.rows.accountID, h.settings]
    exact hsettings

theorem Effect.furnished (h : Effect services db call db') (hdb : db.Furnished services) :
    db'.Furnished services := by
  rcases h.domains_cases with ⟨_, _, _, _, -, hchecked, h⟩ | ⟨_, _, _, _, -, -, h⟩ | ⟨f, h⟩
  · exact h.furnished hchecked hdb
  · exact h.furnished hdb
  · exact h.furnished hdb

theorem PanelStore.furnished_empty (services : NameServices) : PanelStore.empty.Furnished services where
  domains := nodup_nil
  roots := nodup_nil
  rootPaths := by simp [empty]
  targets := nodup_nil
  single := by simp [empty]
  valid := by simp [empty]
  ids := by simp [empty]
  named := by simp [empty]

theorem PanelStore.furnished_after (services : NameServices) (calls : List PanelCall) :
    (after services calls).Furnished services :=
  run_invariant _ Effect.furnished calls (furnished_empty services)

end

end Stackfort
