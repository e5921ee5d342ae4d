import Stackfort.DomainStatements

/-! What each call on domains and certificates leaves behind. A call either changes nothing or commits
one transaction; the structures below state what is known of the store before such a transaction and
what the tables are after it. Tables that a structure does not mention stay as they were. -/

namespace Stackfort

open PanelStore

variable {services : NameServices} {db db' : PanelStore} {ids : DomainIDs} {now : Time}
  {type : Option DomainTargetType} {reply : DesiredStateRevision} {limits : PackageLimits} {calls : List PanelCall}
  {draft : OrderDraft} {params : CreateDomainParams}

/-! ### Creation -/

/-- The TLS state a creation inserts. -/
def CheckedCreation.tls (checked : CheckedCreation) (params : CreateDomainParams) (now : Time) : DomainTLSState :=
  initialTLSState params.accountID checked.domainID checked.name checked.target params.disableTLS
    checked.tlsMode now

structure Created (db : PanelStore) (params : CreateDomainParams) (checked : CheckedCreation) (ids : DomainIDs)
    (now : Time) (db' : PanelStore) : Prop where
  limits : ∃ limits, db.mutableAccountLimits params.accountID = .ok limits ∧
    db.validateTargetAgainstPackage params.accountID checked.target limits = .ok ()
  noConflict : db.ensureNoWildcardConflict checked.name.ascii none checked.target = .ok ()
  freshID : ∀ other ∈ db.domains, other.id ≠ checked.domainID
  freshName : ∀ other ∈ db.domains, other.removedAt = none → other.asciiName ≠ checked.name.ascii
  idAllowed : domainIDAllowed checked.domainID = true
  nameAllowed : asciiNameAllowed checked.name.ascii = true
  freshTLS : ∀ other ∈ db.tlsStates, other.domainID ≠ checked.domainID
  freshWAF : ∀ other ∈ db.wafPolicies, other.domainID ≠ checked.domainID
  freshCache : ∀ other ∈ db.cachePolicies, other.domainID ≠ checked.domainID
  target : TargetSet db params.accountID checked.domainID ids checked.target params.actorID now db'
  domains : db'.domains = db.domains ++ [checked.row params now]
  tlsStates : db'.tlsStates = db.tlsStates ++ [checked.tls params now]
  wafPolicies : db'.wafPolicies = db.wafPolicies ++ [⟨params.accountID, checked.domainID, checked.wafMode, now⟩]
  cachePolicies : db'.cachePolicies = db.cachePolicies ++
    [⟨params.accountID, checked.domainID, checked.cachePreset, checked.domainID, now⟩]
  operations : db'.operations.operations = db.operations.operations
  rest : db' = { db with
    operations := db'.operations, domains := db'.domains, documentRoots := db'.documentRoots
    redirects := db'.redirects, targets := db'.targets, tlsStates := db'.tlsStates, wafPolicies := db'.wafPolicies
    cachePolicies := db'.cachePolicies, mutations := db'.mutations }

/-- A mutation that was recorded before changes nothing. -/
theorem of_mutation {replayed : Except TxError Bool} {tx : Except TxError PanelStore}
    (h : (do if ← replayed then return db else tx) = .ok db') : db' = db ∨ tx = .ok db' := by
  obtain ⟨replay, -, h⟩ := bind_eq_ok_iff.mp h
  split at h
  · cases h
    exact .inl rfl
  · exact .inr h

theorem createDomainTx_ok {checked : CheckedCreation}
    (h : createDomainTx db params checked ids now = .ok db') :
    db' = db ∨ Created db params checked ids now db' := by
  refine (of_mutation h).imp_right fun h => ?_
  simp only [bind_eq_ok_iff, guard_eq_ok_iff, pure_eq_ok_iff] at h
  obtain ⟨limits, hlimits, -, ⟨⟩, hpackage, ⟨⟩, hconflict, db₆, hrecords, db₇, hmutation, rfl⟩ := h
  simp only [insertDomainRecordsTx, bind_eq_ok_iff] at hrecords
  obtain ⟨db₁, hdomain, db₂, htarget, db₃, htls, db₄, hwaf, hcache⟩ := hrecords
  obtain ⟨hid, hname, hidAllowed, hallowed, rfl⟩ := insertDomain_ok hdomain
  obtain ⟨hset, hrest₂⟩ := insertTargetTx_ok htarget
  obtain ⟨hfreshTLS, -, rfl⟩ := insertTLSState_ok htls
  obtain ⟨hfreshWAF, rfl⟩ := insertWAFPolicy_ok hwaf
  obtain ⟨hfreshCache, rfl⟩ := insertCachePolicy_ok hcache
  have hrest₇ := recordDomainMutationTx_ok hmutation
  rw [hrest₂] at hrest₇ hfreshTLS hfreshWAF hfreshCache
  rw [hrest₇]
  exact
    { limits := ⟨limits, hlimits, hpackage⟩
      noConflict := hconflict, freshID := hid, freshName := hname, idAllowed := hidAllowed, nameAllowed := hallowed
      freshTLS := hfreshTLS, freshWAF := hfreshWAF, freshCache := hfreshCache
      target := ⟨hset.row, hset.fresh, hset.vacant, hset.redirects, hset.freshRedirect, hset.roots⟩, domains := rfl
      tlsStates := rfl, wafPolicies := rfl, cachePolicies := rfl, operations := rfl, rest := rfl }

/-! ### Edits -/

/-- An edit has set a new target and, where it changes them, new names and a new challenge. -/
structure Retargeted (services : NameServices) (db : PanelStore) (params : UpdateDomainParams)
    (name : NormalizedDomainName) (ids : DomainIDs) (now : Time) (spec : DomainTargetSpec)
    (target : PreparedDomainTarget) (db' : PanelStore) : Prop where
  prepared : prepareDomainTarget services spec name = .ok target
  limits : ∃ limits, db.mutableAccountLimits params.accountID = .ok limits ∧
    db.validateTargetAgainstPackage params.accountID target limits = .ok ()
  noConflict : db.ensureNoWildcardConflict name.ascii (some params.domainID) target = .ok ()
  set : TargetSet (db.supersedeTarget params.accountID params.domainID now).1 params.accountID params.domainID ids
    target params.actorID now db'
  certificates : db'.certificates = updateWhere
    (fun row => row.activeOf params.accountID params.domainID &&
      db.stale params.accountID params.domainID (tlsIntent name target))
    (setRetired now) db.certificates
  tlsStates : db'.tlsStates = updateWhere
    (fun row => row.ofDomain params.accountID params.domainID && row.differsFrom (tlsIntent name target))
    (DomainTLSState.setIntent (tlsIntent name target) now) db.tlsStates
  rest : db' = { db with
    documentRoots := db'.documentRoots, redirects := db'.redirects, targets := db'.targets, tlsStates := db'.tlsStates
    certificates := db'.certificates }

variable {name : NormalizedDomainName} {requestID : String} {certificateID operationID accountID : ID}

variable {params : UpdateDomainParams} {newID : ID}

theorem updateTargetTx_ok {spec : DomainTargetSpec} {type : DomainTargetType}
    (hlimits : db.mutableAccountLimits params.accountID = .ok limits)
    (h : updateTargetTx services db params limits name spec ids now = .ok (db', type)) :
    ∃ target, target.type = type ∧ Retargeted services db params name ids now spec target db' := by
  simp only [updateTargetTx, bind_eq_ok_iff, pure_eq_ok_iff, Prod.mk.injEq] at h
  obtain ⟨target, hprepared, ⟨⟩, hpackage, ⟨⟩, hconflict, ⟨⟩, -, db₂, hset, db₃, hrefresh, rfl, htype⟩ := h
  obtain ⟨hset, hrest₂⟩ := insertTargetTx_ok hset
  have hrest₃ := refreshTLSIntentTx_ok hrefresh
  rw [hrest₂] at hrest₃
  refine ⟨target, htype, ?_⟩
  rw [hrest₃]
  exact
    { prepared := Except.mapError_eq_ok_iff.mp hprepared
      limits := ⟨limits, hlimits, hpackage⟩, noConflict := hconflict
      set := ⟨hset.row, hset.fresh, hset.vacant, hset.redirects, hset.freshRedirect, hset.roots⟩, certificates := rfl
      tlsStates := rfl, rest := rfl }

/-- The store between the change of target and the other changes of an edit. -/
inductive MaybeRetargeted (services : NameServices) (db : PanelStore) (params : UpdateDomainParams)
    (name : NormalizedDomainName) (ids : DomainIDs) (now : Time) :
    PanelStore → Option DomainTargetType → Prop where
  | kept (hnone : params.target = none) : MaybeRetargeted services db params name ids now db none
  | changed {spec : DomainTargetSpec} {target : PreparedDomainTarget} {db' : PanelStore}
      (hsome : params.target = some spec) (h : Retargeted services db params name ids now spec target db') :
      MaybeRetargeted services db params name ids now db' (some target.type)

structure Edited (services : NameServices) (db : PanelStore) (params : UpdateDomainParams)
    (checked : CheckedUpdate) (ids : DomainIDs) (now : Time) (db' : PanelStore) : Prop where
  /-- The domain is read, with its target and its cache policy, and may get another target. -/
  read : ∃ domain current cache db₁ type,
    db.domains.find? (ofAccount params.accountID params.domainID) = some domain ∧
    db.currentTarget params.accountID params.domainID = some current ∧
    (db.cachePolicies.find? fun row =>
      decide (row.accountID = params.accountID ∧ row.domainID = params.domainID)) = some cache ∧
    domain.status ≠ .removed ∧
    MaybeRetargeted services db params ⟨domain.displayName, domain.asciiName⟩ ids now db₁ type ∧
    validateCacheTarget (checked.cachePreset.getD cache.preset) (type.getD current.type) = .ok () ∧
    db'.cachePolicies = updateWhere
      (fun row => decide (row.accountID = params.accountID ∧ row.domainID = params.domainID))
      (fun row => { row with
        preset := checked.cachePreset.getD cache.preset, generation := ids.targetID
        updatedAt := now }) db.cachePolicies ∧
    db'.documentRoots = db₁.documentRoots ∧ db'.redirects = db₁.redirects ∧ db'.targets = db₁.targets ∧
    db'.tlsStates = db₁.tlsStates ∧ db'.certificates = db₁.certificates
  live : ∀ row ∈ db.domains, row.ofAccount params.accountID params.domainID = true → row.removedAt = none
  domains : db'.domains = updateWhere (ofAccount params.accountID params.domainID)
    (DomainRow.setEdited checked.canonicalMode now) db.domains
  wafPolicies : db'.wafPolicies = checked.wafMode.elim db.wafPolicies fun mode => updateWhere
    (fun row => decide (row.accountID = params.accountID ∧ row.domainID = params.domainID))
    (fun row => { row with mode := mode, updatedAt := now }) db.wafPolicies
  operations : db'.operations.operations = db.operations.operations
  rest : db' = { db with
    operations := db'.operations, domains := db'.domains, documentRoots := db'.documentRoots
    redirects := db'.redirects, targets := db'.targets, tlsStates := db'.tlsStates, wafPolicies := db'.wafPolicies
    cachePolicies := db'.cachePolicies, mutations := db'.mutations, certificates := db'.certificates }

theorem updatePoliciesTx_ok {wafMode : Option WAFMode} {preset : CachePreset} {generation : ID}
    (h : updatePoliciesTx db params wafMode preset generation now = .ok db') :
    db' = { db with
      wafPolicies := wafMode.elim db.wafPolicies fun mode => updateWhere
        (fun row => decide (row.accountID = params.accountID ∧ row.domainID = params.domainID))
        (fun row => { row with mode := mode, updatedAt := now }) db.wafPolicies
      cachePolicies := updateWhere
        (fun row => decide (row.accountID = params.accountID ∧ row.domainID = params.domainID))
        (fun row => { row with preset := preset, generation := generation, updatedAt := now })
        db.cachePolicies } := by
  cases wafMode with
  | none =>
    simp only [updatePoliciesTx, bind_eq_ok_iff, pure_eq_ok_iff] at h
    obtain ⟨db₁, rfl, ⟨⟩, -, rfl⟩ := h
    rfl
  | some mode =>
    simp only [updatePoliciesTx, bind_eq_ok_iff, pure_eq_ok_iff] at h
    obtain ⟨⟨⟩, -, db₁, rfl, ⟨⟩, -, rfl⟩ := h
    rfl

theorem retargetTx_ok (hlimits : db.mutableAccountLimits params.accountID = .ok limits)
    (h : retargetTx services db params limits name ids now = .ok (db', type)) :
    MaybeRetargeted services db params name ids now db' type := by
  unfold retargetTx at h
  split at h
  next spec hsome =>
    simp only [bind_eq_ok_iff, pure_eq_ok_iff, Prod.mk.injEq] at h
    obtain ⟨⟨db₁, found⟩, hupdate, rfl, rfl⟩ := h
    obtain ⟨target, rfl, hretargeted⟩ := updateTargetTx_ok hlimits hupdate
    exact .changed hsome hretargeted
  next hnone =>
    cases h
    exact .kept hnone

theorem MaybeRetargeted.rest (h : MaybeRetargeted services db params name ids now db' type) :
    db' = { db with
      documentRoots := db'.documentRoots, redirects := db'.redirects, targets := db'.targets
      tlsStates := db'.tlsStates, certificates := db'.certificates } := by
  cases h with
  | kept => rfl
  | changed _ h => exact h.rest

theorem editedDomain_ok {domainID : ID} {domain : DomainRow} {current : DomainTarget} {cache : DomainCachePolicy}
    (h : db.editedDomain accountID domainID = .ok (domain, current, cache)) :
    db.domains.find? (ofAccount accountID domainID) = some domain ∧
      db.currentTarget accountID domainID = some current ∧
      (db.cachePolicies.find? fun row =>
        decide (row.accountID = accountID ∧ row.domainID = domainID)) = some cache := by
  unfold editedDomain at h
  split at h
  next found target policy hdomain htarget hcache =>
    cases h
    exact ⟨hdomain, htarget, hcache⟩
  next => cases h

theorem updateDomainTx_ok {checked : CheckedUpdate} (h : updateDomainTx services db params checked ids now = .ok db') :
    db' = db ∨ Edited services db params checked ids now db' := by
  refine (of_mutation h).imp_right fun h => ?_
  simp only [bind_eq_ok_iff, guard_eq_ok_iff, pure_eq_ok_iff] at h
  obtain ⟨limits, hlimits, ⟨domain, current, cache⟩, hread, hstatus, -, ⟨db₁, type⟩, hretarget, ⟨⟩, hcache,
    ⟨db₂, count⟩, hdomains, db₃, hpolicies, db₄, hmutation, rfl⟩ := h
  obtain ⟨hdomain, hcurrent, hfound⟩ := editedDomain_ok hread
  have hmaybe := retargetTx_ok hlimits hretarget
  have hrest₁ := hmaybe.rest
  obtain ⟨hlive, rfl, -⟩ := updateDomains_ok hdomains
  have hrest₃ := updatePoliciesTx_ok hpolicies
  have hrest₄ := recordDomainMutationTx_ok hmutation
  rw [hrest₃] at hrest₄
  dsimp only at hrest₄ hlive
  rw [hrest₁] at hrest₄ hlive
  rw [hrest₄]
  exact
    { read := ⟨domain, current, cache, db₁, type, hdomain, hcurrent, hfound, hstatus, hmaybe,
        Except.mapError_eq_ok_iff.mp hcache, rfl, rfl, rfl, rfl, rfl, rfl⟩
      live := hlive, domains := rfl, wafPolicies := rfl, operations := rfl, rest := rfl }

/-! ### Suspension, resumption and removal -/

structure StatusChanged (db : PanelStore) (params : ChangeDomainStatusParams) (status : DomainStatus)
    (allowed : List DomainStatus) (now : Time) (db' : PanelStore) : Prop where
  live : ∀ row ∈ db.domains,
    (row.ofAccount params.accountID params.domainID && decide (row.status ∈ allowed)) = true → row.removedAt = none
  domains : db'.domains = updateWhere
    (fun row => row.ofAccount params.accountID params.domainID && decide (row.status ∈ allowed))
    (setStatus status now) db.domains
  operations : db'.operations.operations = db.operations.operations
  rest : db' = { db with operations := db'.operations, domains := db'.domains, mutations := db'.mutations }

theorem changeDomainStatusTx_ok {params : ChangeDomainStatusParams} {action : DomainLifecycleAction}
    {status : DomainStatus} {allowed : List DomainStatus}
    (h : changeDomainStatusTx db params requestID action status allowed now = .ok db') :
    db' = db ∨ StatusChanged db params status allowed now db' := by
  refine (of_mutation h).imp_right fun h => ?_
  simp only [bind_eq_ok_iff, guard_eq_ok_iff, pure_eq_ok_iff] at h
  obtain ⟨limits, -, ⟨db₁, count⟩, hdomains, -, db₂, hmutation, rfl⟩ := h
  obtain ⟨hlive, rfl, -⟩ := updateDomains_ok hdomains
  have hrest := recordDomainMutationTx_ok hmutation
  rw [hrest]
  exact ⟨hlive, rfl, rfl, rfl⟩

structure Removed (db : PanelStore) (params : ChangeDomainStatusParams) (now : Time) (db' : PanelStore) :
    Prop where
  domains : db'.domains = updateWhere
    (fun row => row.ofAccount params.accountID params.domainID && decide (row.removedAt = none))
    (DomainRow.setRemoved now) db.domains
  affected : (db.domains.countP fun row =>
    row.ofAccount params.accountID params.domainID && decide (row.removedAt = none)) = 1
  certificates : db'.certificates = updateWhere
    (activeOf params.accountID params.domainID) (setRetired now) db.certificates
  tlsStates : db'.tlsStates = updateWhere (ofDomain params.accountID params.domainID)
    (DomainTLSState.setRemoved now) db.tlsStates
  operations : db'.operations.operations = db.operations.operations
  rest : db' = { db with
    operations := db'.operations, domains := db'.domains, tlsStates := db'.tlsStates, mutations := db'.mutations
    certificates := db'.certificates }

theorem removeDomainTx_ok {params : ChangeDomainStatusParams} (h : removeDomainTx db params requestID now = .ok db') :
    db' = db ∨ Removed db params now db' := by
  refine (of_mutation h).imp_right fun h => ?_
  simp only [bind_eq_ok_iff, guard_eq_ok_iff, pure_eq_ok_iff] at h
  obtain ⟨limits, -, ⟨db₁, count⟩, hdomains, hcount, db₂, hmutation, ⟨db₃, retired⟩, hcertificates, db₄, htls,
    rfl⟩ := h
  obtain ⟨-, rfl, rfl⟩ := updateDomains_ok hdomains
  have hrest := recordDomainMutationTx_ok hmutation
  obtain ⟨rfl, -⟩ := updateCertificates_ok hcertificates
  obtain ⟨-, rfl⟩ := updateTLSStates_ok htls
  rw [hrest]
  exact ⟨rfl, not_not.mp hcount, rfl, rfl, rfl, rfl⟩

/-! ### Orders -/

namespace PanelStore

theorem tlsCertificateByIDTx_ok {certificate : TLSCertificate}
    (h : db.tlsCertificateByIDTx certificateID = .ok certificate) :
    db.findCertificate certificateID = some certificate := by
  unfold tlsCertificateByIDTx at h
  split at h
  next => cases h
  next found hfound =>
    simp only [ite_throw_eq_ok_iff, pure_eq_ok_iff] at h
    rw [hfound, h.2]

theorem tlsCertificateOrderForOperationTx_ok {loaded : LoadedOrder}
    (h : db.tlsCertificateOrderForOperationTx operationID = .ok loaded) :
    db.findOrder operationID = some loaded.order ∧
      db.findCertificate loaded.order.certificateID = some loaded.certificate := by
  unfold tlsCertificateOrderForOperationTx at h
  split at h
  next => cases h
  next order horder =>
    simp only [bind_eq_ok_iff, pure_eq_ok_iff] at h
    obtain ⟨certificate, hcertificate, account, -, rfl⟩ := h
    exact ⟨horder, tlsCertificateByIDTx_ok hcertificate⟩

end PanelStore

structure Ordered (db : PanelStore) (params : PrepareTLSCertificateOrderParams) (draft : OrderDraft)
    (certificateID : ID) (now : Time) (db' : PanelStore) : Prop where
  tls : ∃ tls, db.activeDomainTLS params.accountID params.domainID = some tls ∧ tls.names = draft.names ∧
    tls.enabled = true ∧ tls.mode = .acme ∧ tls.challengeType = .http01 ∧
    orderRefusal params.replacesCertificateID tls = none
  freshCertificate : ∀ other ∈ db.certificates, other.id ≠ certificateID
  domain : ∃ row ∈ db.domains, row.id = params.domainID ∧ row.accountID = params.accountID
  acmeAccount : ∃ account ∈ db.acmeAccounts, account.id = draft.account.id
  freshOperation : ∀ other ∈ db.orders, other.operationID ≠ params.operationID
  freshOrder : ∀ other ∈ db.orders, other.certificateID ≠ certificateID
  operation : db.hasOperation params.accountID params.operationID = true
  certificates : db'.certificates = db.certificates ++ [orderedCertificate params draft certificateID now]
  orders : db'.orders = db.orders ++ [preparedOrder params certificateID now]
  tlsStates : db'.tlsStates = updateWhere (ofDomain params.accountID params.domainID)
    (setOrdered (preparedOrder params certificateID now).purpose.status now) db.tlsStates
  operations : db'.operations.operations = db.operations.operations
  rest : db' = { db with
    operations := db'.operations, tlsStates := db'.tlsStates, certificates := db'.certificates, orders := db'.orders }

theorem prepareOrderTx_ok {params : PrepareTLSCertificateOrderParams} {environment : ACMEEnvironment}
    (h : prepareOrderTx db params environment requestID draft certificateID now = .ok db') :
    (db' = db ∧ (db.findOrder params.operationID).isSome) ∨ Ordered db params draft certificateID now db' := by
  unfold prepareOrderTx at h
  split at h
  next existing hexisting =>
    split at h
    · cases h
    · cases h
      have hfound := (tlsCertificateOrderForOperationTx_ok hexisting).1
      exact .inl ⟨rfl, by rw [hfound]; rfl⟩
  next hnone =>
    split at h
    next => cases h
    next tls htls =>
      simp only [guard_eq_ok_iff, not_or, ne_eq, not_not, Bool.not_eq_false] at h
      obtain ⟨⟨hnames, henabled, hmode, hchallenge⟩, h⟩ := h
      split at h
      next refusal hrefusal => cases h
      next hrefusal =>
        split at h
        next => cases h
        next account haccount =>
          simp only [guard_eq_ok_iff, insertOrderTx, bind_eq_ok_iff, pure_eq_ok_iff] at h
          obtain ⟨-, db₁, hcertificate, db₂, horder, db₃, hstates, rfl⟩ := h
          obtain ⟨hfresh, hdomain, hacme, rfl⟩ := insertCertificate_ok hcertificate
          obtain ⟨hoperation, hnew, hlinked, rfl⟩ := insertOrder_ok horder
          obtain ⟨-, rfl⟩ := updateTLSStates_ok hstates
          exact .inr
            { tls := ⟨tls, htls, hnames, henabled, hmode, hchallenge,
                Option.eq_none_iff_forall_ne_some.mpr hrefusal⟩
              freshCertificate := hfresh, domain := hdomain, acmeAccount := hacme, freshOperation := hoperation
              freshOrder := hnew, operation := hlinked, certificates := rfl, orders := rfl, tlsStates := rfl
              operations := rfl, rest := rfl }
  next => cases h

structure URLRecorded (db : PanelStore) (operationID : ID) (url : String) (db' : PanelStore) : Prop where
  orders : db'.orders = updateWhere
    (fun row => decide (row.operationID = operationID ∧ row.orderURL = none))
    (fun row => { row with orderURL := some url }) db.orders
  rest : db' = { db with orders := db'.orders }

theorem recordOrderURLTx_ok {url : String} (h : recordOrderURLTx db operationID url = .ok db') :
    db' = db ∨ URLRecorded db operationID url db' := by
  unfold recordOrderURLTx at h
  split at h
  next => cases h
  next order horder =>
    split at h
    next existing =>
      split at h
      · cases h
      · cases h
        exact .inl rfl
    next =>
      cases h
      exact .inr ⟨rfl, rfl⟩

/-! ### Staging, activation and failure -/

structure Staged (db : PanelStore) (params : StageTLSCertificateParams) (url : String) (now : Time)
    (db' : PanelStore) : Prop where
  order : ∃ order, db.findOrder params.operationID = some order ∧ order.certificateID = params.certificateID
  certificates : db'.certificates = updateWhere (hasStatus params.certificateID .ordering)
    (setStaged params url now) db.certificates
  operations : db'.operations.operations = db.operations.operations
  rest : db' = { db with operations := db'.operations, certificates := db'.certificates }

theorem stageTx_ok {params : StageTLSCertificateParams} {checked : CheckedStaging}
    (h : stageTx db params checked now = .ok db') :
    db' = db ∨ Staged db params checked.certificateURL now db' := by
  simp only [stageTx, bind_eq_ok_iff, guard_eq_ok_iff] at h
  obtain ⟨loaded, hloaded, horder, h⟩ := h
  split at h
  · split at h
    · cases h
      exact .inl rfl
    · cases h
  · simp only [bind_eq_ok_iff, pure_eq_ok_iff] at h
    obtain ⟨⟨db₁, count⟩, hupdate, rfl⟩ := h
    obtain ⟨rfl, -⟩ := updateCertificates_ok hupdate
    have hfound := (tlsCertificateOrderForOperationTx_ok hloaded).1
    exact .inr ⟨⟨loaded.order, hfound, not_not.mp horder⟩, rfl, rfl, rfl⟩

/-- The certificates once the predecessor has given way. -/
def withoutPredecessor (params : ActivateTLSCertificateParams) (activeRef : Option ID) (now : Time)
    (certificates : List TLSCertificate) : List TLSCertificate :=
  match activeRef with
  | none => certificates
  | some predecessor =>
    if predecessor = params.certificateID then certificates
    else updateWhere
      (fun row => row.activeOf params.accountID params.domainID && decide (row.id = predecessor))
      (setRetired now) certificates

structure Activated (db : PanelStore) (params : ActivateTLSCertificateParams) (certificate : TLSCertificate)
    (tls : DomainTLSState) (now : Time) (db' : PanelStore) : Prop where
  order : ∃ order, db.findOrder params.operationID = some order ∧ order.accountID = params.accountID ∧
    order.domainID = params.domainID ∧ order.certificateID = params.certificateID
  found : db.findCertificate params.certificateID = some certificate
  scope : certificate.accountID = params.accountID ∧ certificate.domainID = params.domainID
  staged : certificate.status = .staged
  applied : db.appliedMatches params.accountID params.desiredStateRevisionID params.operationID = true
  state : db.tlsStates.find? (ofDomain params.accountID params.domainID) = some tls
  names : tls.names = certificate.names
  allowed : ∀ row ∈ db.tlsStates, row.ofDomain params.accountID params.domainID = true →
    (row.setActivated certificate now).allowed = true
  certificates : db'.certificates = updateWhere
    (hasStatus params.certificateID .staged) (setActive now)
    (withoutPredecessor params tls.activeCertificateRef now db.certificates)
  tlsStates : db'.tlsStates = updateWhere (ofDomain params.accountID params.domainID)
    (setActivated certificate now) db.tlsStates
  operations : db'.operations.operations = db.operations.operations
  rest : db' = { db with
    operations := db'.operations, tlsStates := db'.tlsStates, certificates := db'.certificates }

theorem retirePredecessorTx_ok {params : ActivateTLSCertificateParams} {activeRef : Option ID}
    (h : retirePredecessorTx db params activeRef now = .ok db') :
    db' = { db with certificates := withoutPredecessor params activeRef now db.certificates } := by
  cases activeRef with
  | none =>
    cases h
    rfl
  | some predecessor =>
    by_cases hown : predecessor = params.certificateID
    · simp only [retirePredecessorTx, if_pos hown, pure_eq_ok_iff] at h
      simp only [withoutPredecessor, if_pos hown, h]
    · simp only [retirePredecessorTx, if_neg hown, bind_eq_ok_iff, guard_eq_ok_iff, pure_eq_ok_iff] at h
      obtain ⟨⟨db₁, count⟩, hupdate, -, rfl⟩ := h
      simp only [withoutPredecessor, if_neg hown]
      exact (updateCertificates_ok hupdate).1

theorem activateTx_ok {params : ActivateTLSCertificateParams} (h : activateTx db params requestID now = .ok db') :
    db' = db ∨ ∃ certificate tls, Activated db params certificate tls now db' := by
  simp only [activateTx, bind_eq_ok_iff, guard_eq_ok_iff] at h
  obtain ⟨loaded, hloaded, horder, certificate, hfound, hscope, h⟩ := h
  split at h
  · cases h
    exact .inl rfl
  simp only [guard_eq_ok_iff] at h
  obtain ⟨hstaged, happlied, h⟩ := h
  split at h
  next => cases h
  next tls htls =>
    simp only [guard_eq_ok_iff, replaceCertificateTx, bind_eq_ok_iff, pure_eq_ok_iff] at h
    obtain ⟨hnames, db₃, ⟨db₁, hretire, ⟨db₂, count⟩, hactivate, ⟨⟩, -, hstates⟩, rfl⟩ := h
    have hrest := retirePredecessorTx_ok hretire
    subst hrest
    obtain ⟨rfl, -⟩ := updateCertificates_ok hactivate
    obtain ⟨hallowed, rfl⟩ := updateTLSStates_ok hstates
    simp only [ne_eq, not_or, not_not] at horder hscope hstaged hnames
    exact .inr ⟨certificate, tls,
      { order := ⟨loaded.order, (tlsCertificateOrderForOperationTx_ok hloaded).1, horder⟩
        found := tlsCertificateByIDTx_ok hfound, scope := hscope, staged := hstaged.1
        applied := by simpa using happlied
        state := htls, names := hnames, allowed := hallowed, certificates := rfl, tlsStates := rfl, operations := rfl
        rest := rfl }⟩

structure Failed (db : PanelStore) (params : FailTLSCertificateOrderParams) (order : TLSCertificateOrder)
    (errorCode : String) (now : Time) (db' : PanelStore) : Prop where
  found : db.findOrder params.operationID = some order
  allowed : ∀ row ∈ db.tlsStates, row.ofDomain order.accountID order.domainID = true →
    (row.setFailed errorCode (if order.replacesCertificateID.isSome then params.retryAt else none) now).allowed =
      true
  tlsStates : db'.tlsStates = updateWhere (ofDomain order.accountID order.domainID)
    (DomainTLSState.setFailed errorCode (if order.replacesCertificateID.isSome then params.retryAt else none) now)
    db.tlsStates
  operations : db'.operations.operations = db.operations.operations
  rest : db' = { db with operations := db'.operations, tlsStates := db'.tlsStates }

theorem failOrderTx_ok {params : FailTLSCertificateOrderParams} {checked : CheckedFailure}
    (h : failOrderTx db params checked now = .ok db') :
    ∃ order, Failed db params order checked.errorCode now db' := by
  simp only [failOrderTx, bind_eq_ok_iff] at h
  obtain ⟨loaded, hloaded, db₁, hstates, h⟩ := h
  obtain ⟨hallowed, rfl⟩ := updateTLSStates_ok hstates
  have hfound := (tlsCertificateOrderForOperationTx_ok hloaded).1
  refine ⟨loaded.order, ?_⟩
  split at h <;> cases h <;> exact ⟨hfound, hallowed, rfl, rfl, rfl⟩

/-! ### Exceptions -/

structure ExceptionAdded (db : PanelStore) (params : CreateDomainWAFExceptionParams) (now : Time)
    (db' : PanelStore) : Prop where
  mode : ∃ mode, db.liveDomainWAFMode params.accountID params.domainID = some mode ∧ mode ≠ .off
  room : (db.activeWAFExceptions params.accountID params.domainID now).length < maximumExceptions
  scope : ∀ row ∈ db.activeWAFExceptions params.accountID params.domainID now,
    ¬(row.ruleID = params.ruleID ∧ row.requestPath = params.requestPath ∧ row.parameter = params.parameter)
  fresh : ∀ other ∈ db.wafExceptions, other.id ≠ params.exceptionID
  wafExceptions : db'.wafExceptions = db.wafExceptions ++ [newException params now]
  operations : db'.operations.operations = db.operations.operations
  rest : db' = { db with operations := db'.operations, wafExceptions := db'.wafExceptions }

theorem insertWAFException_ok {row : DomainWAFException} (h : db.insertWAFException row = .ok db') :
    (∀ other ∈ db.wafExceptions, other.id ≠ row.id) ∧
      db' = { db with wafExceptions := db.wafExceptions ++ [row] } := by
  simp only [insertWAFException, ite_throw_eq_ok_iff, pure_eq_ok_iff] at h
  obtain ⟨hid, -, -, -, rfl⟩ := h
  exact ⟨not_of_not_any hid, rfl⟩

theorem createExceptionTx_ok {params : CreateDomainWAFExceptionParams}
    (h : createExceptionTx db params requestID now = .ok db') : db' = db ∨ ExceptionAdded db params now db' := by
  unfold createExceptionTx at h
  split at h
  next existing hexisting =>
    split at h
    · cases h
      exact .inl rfl
    · cases h
  next =>
    simp only [bind_eq_ok_iff, guard_eq_ok_iff] at h
    obtain ⟨limits, -, -, h⟩ := h
    split at h
    next => cases h
    next mode hmode =>
      simp only [guard_eq_ok_iff, bind_eq_ok_iff, pure_eq_ok_iff] at h
      obtain ⟨hoff, hroom, hscope, db₁, hinsert, rfl⟩ := h
      obtain ⟨hfresh, rfl⟩ := insertWAFException_ok hinsert
      exact .inr
        { mode := ⟨mode, hmode, hoff⟩
          room := not_le.mp hroom, scope := not_of_not_any hscope, fresh := hfresh, wafExceptions := rfl
          operations := rfl, rest := rfl }

structure ExceptionRemoved (db : PanelStore) (params : RemoveDomainWAFExceptionParams) (now : Time)
    (db' : PanelStore) : Prop where
  wafExceptions : db'.wafExceptions = updateWhere
    (fun row => decide (row.accountID = params.accountID ∧ row.domainID = params.domainID ∧
      row.id = params.exceptionID ∧ row.removedAt = none))
    (fun row => { row with
      removedAt := some now, removedBy := params.actorID
      removalOperationID := some params.operationID }) db.wafExceptions
  operations : db'.operations.operations = db.operations.operations
  rest : db' = { db with operations := db'.operations, wafExceptions := db'.wafExceptions }

theorem removeExceptionTx_ok {params : RemoveDomainWAFExceptionParams}
    (h : removeExceptionTx db params requestID now = .ok db') : db' = db ∨ ExceptionRemoved db params now db' := by
  simp only [removeExceptionTx, bind_eq_ok_iff] at h
  obtain ⟨limits, -, h⟩ := h
  split at h
  next => cases h
  next existing hexisting =>
    split at h
    · split at h
      · cases h
        exact .inl rfl
      · cases h
    · simp only [bind_eq_ok_iff, removeWAFException, ite_throw_eq_ok_iff, pure_eq_ok_iff] at h
      obtain ⟨db₁, ⟨-, -, rfl⟩, rfl⟩ := h
      exact .inr ⟨rfl, rfl, rfl⟩

/-! ### Revisions -/

/-- The row of a new revision. -/
def newRevision (db : PanelStore) (params : CreateDesiredStateRevisionParams) (newID : ID) (now : Time) :
    DesiredStateRevision :=
  ⟨newID, params.accountID, db.nextRevisionSequence params.accountID, params.document, now⟩

structure RevisionCreated (db : PanelStore) (params : CreateDesiredStateRevisionParams) (newID : ID)
    (now : Time) (db' : PanelStore) : Prop where
  unlinked : ∀ operationID, params.operationID = some operationID →
    (∀ link ∈ db.revisionLinks, link.operationID ≠ operationID) ∧
      db.hasOperation params.accountID operationID = true
  fresh : ∀ row ∈ db.desiredRevisions, row.id ≠ newID
  desiredRevisions : db'.desiredRevisions = db.desiredRevisions ++ [newRevision db params newID now]
  revisionLinks : db'.revisionLinks = db.revisionLinks ++
    (params.operationID.map fun operationID =>
      (⟨operationID, params.accountID, newID, now⟩ : OperationRevisionLink)).toList
  operations : db'.operations.operations = db.operations.operations
  rest : db' = { db with
    operations := db'.operations, desiredRevisions := db'.desiredRevisions, revisionLinks := db'.revisionLinks }

theorem insertRevisionTx_ok {params : CreateDesiredStateRevisionParams}
    (hoperation : ∀ operationID, params.operationID = some operationID → db.hasOperation params.accountID operationID = true)
    (h : insertRevisionTx db params requestID newID now = .ok (db', reply)) :
    RevisionCreated db params newID now db' ∧ reply = newRevision db params newID now := by
  simp only [insertRevisionTx, guard_eq_ok_iff, pure_eq_ok] at h
  obtain ⟨hfresh, h⟩ := h
  cases hsome : params.operationID with
  | none =>
    simp only [hsome, ok_bind, Except.ok.injEq, Prod.mk.injEq] at h
    obtain ⟨rfl, rfl⟩ := h
    refine ⟨⟨?_, not_of_not_any hfresh, rfl, ?_, rfl, rfl⟩, rfl⟩
    · simp [hsome]
    · simp [hsome, PanelStore.appendAudit]
  | some operationID =>
    simp only [hsome, guard_eq_ok_iff, ok_bind, Except.ok.injEq, Prod.mk.injEq] at h
    obtain ⟨hlinks, rfl, rfl⟩ := h
    refine ⟨⟨?_, not_of_not_any hfresh, rfl, ?_, rfl, rfl⟩, rfl⟩
    · intro other hoperationID
      rw [hsome] at hoperationID
      cases hoperationID
      exact ⟨not_of_not_any hlinks, hoperation operationID hsome⟩
    · simp [hsome, PanelStore.appendAudit]

theorem createRevisionTx_ok {params : CreateDesiredStateRevisionParams}
    (h : createRevisionTx db params requestID newID now = .ok (db', reply)) :
    (db' = db ∧ ∃ operationID, params.operationID = some operationID ∧
        db.revisionForOperation params.accountID operationID = some reply) ∨
      RevisionCreated db params newID now db' ∧ reply = newRevision db params newID now := by
  unfold createRevisionTx at h
  split at h
  next hnone =>
    refine .inr (insertRevisionTx_ok (fun operationID hsome => ?_) h)
    rw [hnone] at hsome
    cases hsome
  next operationID hsome =>
    split at h
    next existing hexisting =>
      cases h
      exact .inl ⟨rfl, operationID, hsome, hexisting⟩
    next =>
      split at h
      next hoperation =>
        refine .inr (insertRevisionTx_ok (fun other hother => ?_) h)
        rw [hsome] at hother
        cases hother
        exact hoperation
      next => cases h

structure AppliedRecorded (db : PanelStore) (params : RecordAppliedStateRevisionParams) (newID : ID)
    (now : Time) (db' : PanelStore) : Prop where
  desired : ∃ row ∈ db.desiredRevisions, row.accountID = params.accountID ∧ row.id = params.desiredStateRevisionID
  unrecorded : ∀ operationID, params.operationID = some operationID → ∀ row ∈ db.appliedRevisions,
    ¬(row.accountID = params.accountID ∧ row.operationID = some operationID)
  appliedRevisions : db'.appliedRevisions = updateWhere
      (fun row => decide (row.accountID = params.accountID ∧ row.status = .active))
      (fun row => { row with status := .superseded, supersededAt := some now }) db.appliedRevisions ++
    [⟨newID, params.accountID, params.desiredStateRevisionID, params.operationID, params.configDigest, .active,
      now, none⟩]
  operations : db'.operations.operations = db.operations.operations
  rest : db' = { db with operations := db'.operations, appliedRevisions := db'.appliedRevisions }

theorem recordAppliedStateRevisionTx_ok {params : RecordAppliedStateRevisionParams} {reply : AppliedStateRevision}
    (h : recordAppliedStateRevisionTx db params requestID newID now = .ok (db', reply)) :
    db' = db ∨ AppliedRecorded db params newID now db' := by
  simp only [recordAppliedStateRevisionTx, guard_eq_ok_iff, bind_eq_ok_iff] at h
  obtain ⟨-, hdesired, recorded, hrecorded, h⟩ := h
  split at h
  next existing =>
    cases h
    exact .inl rfl
  next =>
    simp only [guard_eq_ok_iff, pure_eq_ok_iff, Prod.mk.injEq] at h
    obtain ⟨-, rfl, -⟩ := h
    refine .inr ⟨?_, fun operationID hsome => ?_, rfl, rfl, rfl⟩
    · simpa [all_eq_true] using hdesired
    · simp only [recordedByOperation, hsome] at hrecorded
      split at hrecorded
      · cases hrecorded
      · split at hrecorded
        next hnone => simpa [List.find?_eq_none] using hnone
        next existing hexisting =>
          split_ifs at hrecorded
          all_goals cases hrecorded

/-- Some expectation activates the domain. -/
def PanelStore.activatedBy (db : PanelStore) (accountID : ID) (expectations : List Nginx.DomainActivationExpectation)
    (row : DomainRow) : Bool :=
  expectations.any fun expected => db.activatable accountID expected row

/-- A domain that has been activated does not wait any more, so the loop is one update. -/
theorem activateDomainsTx_ok {expectations : List Nginx.DomainActivationExpectation} :
    ∀ {db db' : PanelStore} {count : Nat}, activateDomainsTx accountID now expectations db = .ok (db', count) →
      (∀ row ∈ db.domains, db.activatedBy accountID expectations row = true → row.removedAt = none) ∧
        db' = { db with
          domains := updateWhere (db.activatedBy accountID expectations) (setStatus .active now)
            db.domains } := by
  induction expectations with
  | nil =>
    intro db db' count h
    cases h
    refine ⟨fun row _ hnone => ?_, ?_⟩
    · cases hnone
    · rw [updateWhere_of_forall_not]
      exact fun _ _ => rfl
  | cons expected rest ih =>
    intro db db' count h
    simp only [activateDomainsTx, bind_eq_ok_iff, pure_eq_ok_iff, Prod.mk.injEq] at h
    obtain ⟨⟨db₁, first⟩, hupdate, ⟨db₂, others⟩, hrest, rfl, -⟩ := h
    obtain ⟨hlive, rfl, -⟩ := updateDomains_ok hupdate
    obtain ⟨hliveRest, hdb₂⟩ := ih hrest
    -- The loop writes no target, so the rest selects the same rows, except those activated already.
    have hrow : ∀ row : DomainRow, db.activatedBy accountID rest (if db.activatable accountID expected row then
        row.setStatus .active now else row) =
          (!db.activatable accountID expected row && db.activatedBy accountID rest row) := by
      intro row
      split
      next hselected =>
        rw [hselected]
        apply List.any_eq_false.mpr
        intro other _
        simp [activatable, setStatus]
      next hselected => simp [hselected]
    have hsame : ∀ row : DomainRow, db.activatedBy accountID (expected :: rest) row =
        (db.activatable accountID expected row || db.activatedBy accountID rest row) := fun row => rfl
    refine ⟨fun row hmem hselected => ?_, ?_⟩
    · rw [hsame, or_eq_true] at hselected
      by_cases hfirst : db.activatable accountID expected row = true
      · exact hlive row hmem hfirst
      · have hlater := hliveRest row (mem_updateWhere_of_not hmem (by simpa using hfirst))
        exact hlater (hselected.resolve_left hfirst)
    · rw [hdb₂]
      simp only [PanelStore.mk.injEq, and_true, true_and]
      unfold updateWhere
      rw [List.map_map]
      refine List.map_congr_left fun row _ => ?_
      refine (if_congr (Bool.eq_iff_iff.mp (hrow row)) rfl rfl).trans ?_
      rw [hsame row]
      by_cases hfirst : db.activatable accountID expected row = true
      · simp [hfirst]
      · simp [hfirst]

structure Confirmed (db : PanelStore) (params : ConfirmDomainActivationParams) (now : Time) (db' : PanelStore) :
    Prop where
  applied : db.appliedMatches params.accountID params.desiredStateRevisionID params.operationID = true
  live : ∀ row ∈ db.domains, db.activatedBy params.accountID params.expected row = true → row.removedAt = none
  domains : db'.domains = updateWhere (db.activatedBy params.accountID params.expected)
    (setStatus .active now) db.domains
  operations : db'.operations.operations = db.operations.operations
  rest : db' = { db with operations := db'.operations, domains := db'.domains }

theorem confirmDomainActivationTx_ok {params : ConfirmDomainActivationParams} {count : Nat}
    (h : confirmDomainActivationTx db params requestID now = .ok (db', count)) : Confirmed db params now db' := by
  simp only [confirmDomainActivationTx, guard_eq_ok_iff, bind_eq_ok_iff] at h
  obtain ⟨happlied, ⟨db₁, count⟩, hloop, h⟩ := h
  obtain ⟨hlive, rfl⟩ := activateDomainsTx_ok hloop
  have happlied' := by simpa using happlied
  split at h <;> cases h <;> exact ⟨happlied', hlive, rfl, rfl, rfl⟩

/-! ### Every call -/

/-- What a call on the panel's store can do. -/
inductive Effect (services : NameServices) (db : PanelStore) : PanelCall → PanelStore → Prop where
  | unchanged (call : PanelCall) : Effect services db call db
  | operation (call : OperationCall) (other : call.createsLifecycle = false) :
      Effect services db (.operation call other) { db with operations := (call.execute db.operations).1 }
  | created {params : CreateDomainParams} {ids : DomainIDs} {now : Time} {checked : CheckedCreation}
      {db' : PanelStore} (hchecked : checkCreateDomain services params ids = .ok checked)
      (h : Created db params checked ids now db') : Effect services db (.createDomain params ids now) db'
  | edited {params : UpdateDomainParams} {ids : DomainIDs} {now : Time} {checked : CheckedUpdate}
      {db' : PanelStore} (hchecked : checkUpdateDomain params = .ok checked)
      (h : Edited services db params checked ids now db') : Effect services db (.updateDomain params ids now) db'
  | suspended {params : ChangeDomainStatusParams} {now : Time} {db' : PanelStore}
      (h : StatusChanged db params .suspended [.pending, .active] now db') :
      Effect services db (.suspendDomain params now) db'
  | resumed {params : ChangeDomainStatusParams} {now : Time} {db' : PanelStore}
      (h : StatusChanged db params .pending [.suspended] now db') :
      Effect services db (.resumeDomain params now) db'
  | removed {params : ChangeDomainStatusParams} {now : Time} {db' : PanelStore}
      (h : Removed db params now db') : Effect services db (.removeDomain params now) db'
  | exceptionAdded {params : CreateDomainWAFExceptionParams} {now : Time} {requestID : String}
      {db' : PanelStore} (hchecked : checkCreateException params now = .ok requestID)
      (h : ExceptionAdded db params now db') : Effect services db (.createWAFException params now) db'
  | exceptionRemoved {params : RemoveDomainWAFExceptionParams} {now : Time} {db' : PanelStore}
      (h : ExceptionRemoved db params now db') : Effect services db (.removeWAFException params now) db'
  | revisionCreated {params : CreateDesiredStateRevisionParams} {newID : ID} {now : Time} {db' : PanelStore}
      (h : RevisionCreated db params newID now db') : Effect services db (.createRevision params newID now) db'
  | appliedRecorded {params : RecordAppliedStateRevisionParams} {newID : ID} {now : Time} {db' : PanelStore}
      (h : AppliedRecorded db params newID now db') :
      Effect services db (.recordAppliedState params newID now) db'
  | confirmed {params : ConfirmDomainActivationParams} {now : Time} {db' : PanelStore}
      (h : Confirmed db params now db') : Effect services db (.confirmActivation params now) db'
  | ordered {params : PrepareTLSCertificateOrderParams} {draft : OrderDraft} {certificateID : ID} {now : Time}
      {db' : PanelStore} (h : Ordered db params draft certificateID now db') :
      Effect services db (.prepareOrder params draft certificateID now) db'
  | urlRecorded {operationID : ID} {given url : String} {db' : PanelStore}
      (h : URLRecorded db operationID url db') : Effect services db (.recordOrderURL operationID given) db'
  | staged {params : StageTLSCertificateParams} {now : Time} {url : String} {db' : PanelStore}
      (h : Staged db params url now db') : Effect services db (.stage params now) db'
  | activated {params : ActivateTLSCertificateParams} {now : Time} {certificate : TLSCertificate}
      {tls : DomainTLSState} {db' : PanelStore} (h : Activated db params certificate tls now db') :
      Effect services db (.activate params now) db'
  | failed {params : FailTLSCertificateOrderParams} {now : Time} {order : TLSCertificateOrder}
      {errorCode : String} {db' : PanelStore} (h : Failed db params order errorCode now db') :
      Effect services db (.failOrder params now) db'
  | issueQueued (command : IssueCommand) (authorization : Except CoreError Unit) (newID : ID) (now : Time)
      {operations : OperationStore}
      (h : (queueIssue db command authorization newID now).1 = { db with operations := operations }) :
      Effect services db (.queueIssue command authorization newID now) { db with operations := operations }
  | workQueued (limit : Int) (draws : SchedulerDraws) {operations : OperationStore}
      (h : (queueAutomaticWork db limit draws).1 = { db with operations := operations }) :
      Effect services db (.queueAutomaticWork limit draws) { db with operations := operations }
  | accountPut (row : HostingAccount) : Effect services db (.account row) (db.putAccount row)
  | applicationPut (row : OCIApplication) : Effect services db (.application row) (db.putApplication row)
  | acmeAccountPut (row : ACMEAccount) {acmeAccounts : List ACMEAccount}
      (h : db.putACMEAccount row = { db with acmeAccounts := acmeAccounts }) :
      Effect services db (.acmeAccount row) { db with acmeAccounts := acmeAccounts }

theorem queueIssue_eq (db : PanelStore) (command : IssueCommand) (authorization : Except CoreError Unit)
    (newID : ID) (now : Time) :
    ∃ operations, (queueIssue db command authorization newID now).1 = { db with operations := operations } := by
  unfold queueIssue
  split
  · exact ⟨db.operations, rfl⟩
  · exact ⟨_, rfl⟩

theorem queueAutomaticWork_eq (db : PanelStore) (limit : Int) (draws : SchedulerDraws) :
    ∃ operations, (queueAutomaticWork db limit draws).1 = { db with operations := operations } := by
  unfold queueAutomaticWork
  split
  · exact ⟨db.operations, rfl⟩
  split
  · exact ⟨db.operations, rfl⟩
  split
  · exact ⟨_, rfl⟩
  · dsimp only
    split
    · exact ⟨_, rfl⟩
    · exact ⟨_, rfl⟩

theorem putACMEAccount_eq (db : PanelStore) (row : ACMEAccount) :
    ∃ acmeAccounts, db.putACMEAccount row = { db with acmeAccounts := acmeAccounts } := by
  unfold putACMEAccount
  split
  · exact ⟨_, rfl⟩
  · split
    · exact ⟨db.acmeAccounts, rfl⟩
    · exact ⟨_, rfl⟩

theorem execute_effect (services : NameServices) (db : PanelStore) (call : PanelCall) :
    Effect services db call (call.execute services db) := by
  have hkept : Effect services db call db := .unchanged call
  cases call with
  | operation call other => exact .operation call other
  | createDomain params ids now =>
    exact rereads_of_tx hkept fun _ _ hchecks htx => (createDomainTx_ok htx).imp_right (.created hchecks)
  | updateDomain params ids now =>
    exact rereads_of_tx hkept fun _ _ hchecks htx => (updateDomainTx_ok htx).imp_right (.edited hchecks)
  | suspendDomain params now =>
    exact rereads_of_tx hkept fun _ _ _ htx => (changeDomainStatusTx_ok htx).imp_right .suspended
  | resumeDomain params now =>
    exact rereads_of_tx hkept fun _ _ _ htx => (changeDomainStatusTx_ok htx).imp_right .resumed
  | removeDomain params now =>
    exact checkedWrite_map_of_tx hkept fun _ _ _ htx => (removeDomainTx_ok htx).imp_right .removed
  | createWAFException params now =>
    exact rereads_of_tx hkept fun _ _ hchecks htx => (createExceptionTx_ok htx).imp_right (.exceptionAdded hchecks)
  | removeWAFException params now =>
    exact checkedWrite_map_of_tx hkept fun _ _ _ htx => (removeExceptionTx_ok htx).imp_right .exceptionRemoved
  | createRevision params newID now =>
    exact checkedWrite_of_tx hkept fun _ _ _ _ htx =>
      (createRevisionTx_ok htx).imp And.left fun h => .revisionCreated h.1
  | recordAppliedState params newID now =>
    exact checkedWrite_of_tx hkept fun _ _ _ _ htx =>
      (recordAppliedStateRevisionTx_ok htx).imp_right .appliedRecorded
  | confirmActivation params now =>
    exact checkedWrite_of_tx hkept fun _ _ _ _ htx => .inr (.confirmed (confirmDomainActivationTx_ok htx))
  | prepareOrder params draft certificateID now =>
    exact checkedWrite_map_of_tx hkept fun _ _ _ htx => (prepareOrderTx_ok htx).imp And.left .ordered
  | recordOrderURL operationID url =>
    exact checkedWrite_map_of_tx hkept fun _ _ _ htx => (recordOrderURLTx_ok htx).imp_right .urlRecorded
  | stage params now =>
    exact rereads_of_tx hkept fun _ _ _ htx => (stageTx_ok htx).imp_right .staged
  | activate params now =>
    exact rereads_of_tx hkept fun _ _ _ htx => (activateTx_ok htx).imp_right fun ⟨_, _, h⟩ => .activated h
  | failOrder params now =>
    exact checkedWrite_map_of_tx hkept fun _ _ _ htx => .inr ((failOrderTx_ok htx).elim fun _ => .failed)
  | queueIssue command authorization newID now =>
    obtain ⟨operations, h⟩ := queueIssue_eq db command authorization newID now
    rw [PanelCall.execute, h]
    exact .issueQueued command authorization newID now h
  | queueAutomaticWork limit draws =>
    obtain ⟨operations, h⟩ := queueAutomaticWork_eq db limit draws
    rw [PanelCall.execute, h]
    exact .workQueued limit draws h
  | account row => exact .accountPut row
  | application row => exact .applicationPut row
  | acmeAccount row =>
    obtain ⟨acmeAccounts, h⟩ := putACMEAccount_eq db row
    rw [PanelCall.execute, h]
    exact .acmeAccountPut row h

/-! ### Runs -/

namespace PanelStore

/-- Every call of a run meets a condition on the store it is made on. -/
def Along (services : NameServices) (Meets : PanelStore → PanelCall → Prop) : PanelStore → List PanelCall → Prop
  | _, [] => True
  | db, call :: rest => Meets db call ∧ Along services Meets (call.execute services db) rest

/-- What every call that meets the condition preserves holds after the run. -/
theorem Along.invariant {Meets : PanelStore → PanelCall → Prop} (Inv : PanelStore → Prop)
    (hstep : ∀ {db db' : PanelStore} {call : PanelCall}, Meets db call → Effect services db call db' → Inv db → Inv db') :
    ∀ {db : PanelStore}, Along services Meets db calls → Inv db → Inv (db.run services calls) := by
  induction calls with
  | nil => exact fun _ hdb => hdb
  | cons call rest ih =>
    intro db halong hdb
    exact ih halong.2 (hstep halong.1 (execute_effect services db call) hdb)

theorem along_of_forall {Meets : PanelCall → Prop} :
    ∀ {db : PanelStore}, (∀ call ∈ calls, Meets call) → Along services (fun _ => Meets) db calls := by
  induction calls with
  | nil => exact fun _ => trivial
  | cons call rest ih =>
    intro db hcalls
    exact ⟨hcalls call List.mem_cons_self, ih fun other hother => hcalls other (List.mem_cons_of_mem _ hother)⟩

/-- What every call preserves holds after any run. -/
theorem run_invariant (Inv : PanelStore → Prop)
    (hstep : ∀ {db db' : PanelStore} {call : PanelCall}, Effect services db call db' → Inv db → Inv db')
    (calls : List PanelCall) (hdb : Inv db) : Inv (db.run services calls) := by
  have halong : Along services (fun _ _ => True) db calls := along_of_forall fun _ _ => trivial
  exact Along.invariant Inv (fun _ heffect hinv => hstep heffect hinv) halong hdb

end PanelStore

end Stackfort
