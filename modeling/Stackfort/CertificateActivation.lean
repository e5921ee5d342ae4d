import Stackfort.CertificateIssuance

/-! When a staged certificate takes over. Its names are those of an HTTP-01 order, so they differ from the
names of the domain only if the domain asks for a wildcard now; otherwise the revision that carries
the certificate is built and, once it is applied, the certificate replaces its predecessor. -/

namespace Stackfort

open PanelStore List

variable {services : NameServices} {db db' : PanelStore} {now : Time}

/-! ### Names -/

variable {v : DomainView} {params : ActivateTLSCertificateParams} {certificate : TLSCertificate}

/-- A certificate and its domain never list the same names in another order. -/
theorem DomainView.Consistent.names_of_perm (hv : v.Consistent) (hmem : certificate ∈ v.certificates)
    (hperm : v.tls.names.Perm certificate.names) :
    v.tls.names = certificate.names := by
  obtain ⟨wildcard, hnames, -⟩ := hv.intent
  have hlength := hperm.length_eq
  rw [hnames, hv.stock.named certificate hmem] at hlength
  cases wildcard with
  | false => rw [hnames, hv.stock.named certificate hmem]
  | true => simp [intentOf] at hlength

theorem DomainView.Consistent.live_of_active (hv : v.Consistent) (hactive : v.row.status = .active) :
    v.row.removedAt = none := by
  have hnot : ¬v.row.removedAt.isSome := by
    intro hremoved
    rw [hv.removed.mpr hremoved] at hactive
    cases hactive
  simpa using hnot

/-! ### The revision of an activation -/

/-- The operation has an order for the certificate. -/
def PanelStore.HasOrder (db : PanelStore) (params : ActivateTLSCertificateParams) : Prop :=
  ∃ order, db.findOrder params.operationID = some order ∧ order.accountID = params.accountID ∧
    order.domainID = params.domainID ∧ order.certificateID = params.certificateID

/-- All that the activation of a staged certificate needs of the store, apart from its order and from the
order of its names. -/
structure Activatable (db : PanelStore) (params : ActivateTLSCertificateParams) (certificate : TLSCertificate)
    (now : Time) : Prop where
  checked : ∃ requestID, checkActivate params = .ok requestID
  found : db.findCertificate params.certificateID = some certificate
  staged : certificate.status = .staged
  unexpired : ∃ expires, certificate.expiresAt = some expires ∧ now < expires
  applied : db.appliedMatches params.accountID params.desiredStateRevisionID params.operationID = true
  domain : ∃ row ∈ db.domains, row.id = params.domainID ∧ row.status = .active
  /-- The domain asks for the names of the certificate, in some order. -/
  names : ∃ tls, db.findTLSState params.domainID = some tls ∧ tls.names.Perm certificate.names

theorem checkActivate_ok {requestID : String} (h : checkActivate params = .ok requestID) :
    isCanonicalUUIDv7 params.accountID = true ∧ isCanonicalUUIDv7 params.certificateID = true := by
  simp only [checkActivate, bind_eq_ok_iff] at h
  obtain ⟨⟨⟩, haccount, ⟨⟩, -, ⟨⟩, hcertificate, -⟩ := h
  exact ⟨validateID_eq_ok_iff.mp haccount, validateID_eq_ok_iff.mp hcertificate⟩

namespace PanelStore

/-- In a sound and furnished store the domains of an account can be listed: each of its live domains, once. -/
theorem listDomains_of (hdb : db.Sound) (hfurnished : db.Furnished services) {accountID : ID}
    (hid : isCanonicalUUIDv7 accountID = true) (now : Time) :
    ∃ domains, db.listDomains accountID now = .ok domains ∧
      (∀ domain ∈ domains, domain.ReadFrom db now ∧ domain.row.accountID = accountID ∧ domain.row.removedAt = none) ∧
      (∀ row ∈ db.domains, row.accountID = accountID → row.removedAt = none → ∃ domain ∈ domains, domain.row = row) ∧
      (domains.map fun domain => domain.row.id).Nodup := by
  let rows := (db.domains.filter fun row => decide (row.accountID = accountID ∧ row.removedAt = none)).insertionSort
    fun left right => left.asciiName < right.asciiName ∨
      left.asciiName = right.asciiName ∧ formatTime left.createdAt ≤ formatTime right.createdAt
  have hrows : ∀ row, row ∈ rows ↔ row ∈ db.domains ∧ row.accountID = accountID ∧ row.removedAt = none := by
    intro row
    rw [mem_insertionSort, mem_filter, decide_eq_true_eq]
  have hread : ∀ row ∈ rows, ∃ domain, db.getDomain accountID row.id now = .ok domain ∧
      (domain.row = row ∧ domain.ReadFrom db now) := by
    intro row hrow
    obtain ⟨hmem, haccount, -⟩ := (hrows row).mp hrow
    obtain ⟨domain, hdomain, hown, hfrom⟩ := getDomain_of hdb hfurnished hmem now
    rw [haccount] at hdomain
    exact ⟨domain, hdomain, hown, hfrom⟩
  obtain ⟨domains, hlisted, hfrom, hto⟩ := Except.mapM_of_forall hread
  refine ⟨domains, ?_, ?_, ?_, ?_⟩
  · unfold listDomains
    rw [validateID_eq_ok_iff.mpr hid]
    exact hlisted
  · intro domain hdomain
    obtain ⟨row, hrow, rfl, hreads⟩ := hfrom domain hdomain
    exact ⟨hreads, ((hrows _).mp hrow).2⟩
  · intro row hmem haccount hlive
    obtain ⟨domain, hdomain, hrow, -⟩ := hto row ((hrows row).mpr ⟨hmem, haccount, hlive⟩)
    exact ⟨domain, hdomain, hrow⟩
  · -- the identifiers are those of the rows, in the order of the loop
    have hids : (domains.map fun domain => domain.row.id) = rows.map DomainRow.id := by
      have hpairs := Except.forall₂_of_mapM hlisted
      clear hlisted hfrom hto
      generalize rows = items at hread hpairs
      induction hpairs with
      | nil => rfl
      | @cons row domain items domains hdomain _ ih =>
        obtain ⟨other, hother, hown, -⟩ := hread row mem_cons_self
        rw [hdomain, Except.ok.injEq] at hother
        subst hother
        rw [map_cons, map_cons, hown, ih fun item hitem => hread item (mem_cons_of_mem _ hitem)]
    rw [hids]
    have hperm := perm_insertionSort (fun left right : DomainRow => left.asciiName < right.asciiName ∨
      left.asciiName = right.asciiName ∧ formatTime left.createdAt ≤ formatTime right.createdAt)
      (db.domains.filter fun row => decide (row.accountID = accountID ∧ row.removedAt = none))
    apply (hperm.map DomainRow.id).nodup_iff.mpr
    exact hfurnished.domains.sublist (List.filter_sublist.map _)

/-- **Domains can always be listed.** After any run, the list of an account has each of its live domains once, as
stored. -/
theorem domains_listed (services : NameServices) (calls : List PanelCall)
    (accountID : { id : ID // isCanonicalUUIDv7 id = true }) (now : Time) :
    ∃ domains, (after services calls).listDomains accountID.1 now = .ok domains ∧
      (∀ domain ∈ domains, domain.ReadFrom (after services calls) now ∧ domain.row.accountID = accountID.1 ∧
        domain.row.removedAt = none) ∧
      (∀ row ∈ (after services calls).domains, row.accountID = accountID.1 → row.removedAt = none →
        ∃ domain ∈ domains, domain.row = row) ∧ (domains.map fun domain => domain.row.id).Nodup :=
  listDomains_of (sound_after services calls) (furnished_after services calls) accountID.2 now

end PanelStore

/-- The loop over the domains succeeds when the domain of the certificate may be served with it. -/
theorem attachCertificate_of {domains : List Domain}
    (h : ∀ domain ∈ domains, domain.row.id = certificate.domainID → domain.row.status = .active ∧ domain.tls.names = certificate.names) :
    ∃ attached, attachCertificate certificate domains = .ok attached := by
  induction domains with
  | nil => exact ⟨[], rfl⟩
  | cons domain rest ih =>
    obtain ⟨attached, hattached⟩ := ih fun other hother => h other (mem_cons_of_mem _ hother)
    unfold attachCertificate
    by_cases hown : domain.row.id = certificate.domainID
    · obtain ⟨hactive, hnames⟩ := h domain mem_cons_self hown
      simp [hown, hactive, hnames, hattached, pure_eq_ok]
    · simp [hown, hattached, pure_eq_ok]

namespace Activatable

section

variable (h : Activatable db params certificate now) (horder : db.HasOrder params) (hdb : db.Sound)

include h horder hdb

/-- The view of the domain: the certificate is one of its own and carries exactly its names. -/
theorem view :
    ∃ v, db.domainView params.domainID = some v ∧ v.Named params.accountID params.domainID ∧
      v.row.status = .active ∧ certificate ∈ v.certificates ∧ v.tls.names = certificate.names := by
  obtain ⟨row, hrow, hid, hactive⟩ := h.domain
  obtain ⟨v, hview, rfl⟩ := domainView_of_mem hdb.keyed hrow
  rw [hid] at hview
  have hv := hdb.consistent _ v hview
  obtain ⟨-, htls, hcertificates, -⟩ := domainView_eq_some.mp hview
  obtain ⟨order, hfoundOrder, haccount, hdomain, hcertificateID⟩ := horder
  obtain ⟨certificate', hfound, haccount', hdomain'⟩ := certificate_of_order hdb hfoundOrder
  rw [hcertificateID, h.found, some.injEq] at hfound
  subst hfound
  have hmem : certificate ∈ v.certificates := by
    rw [hcertificates, mem_owned]
    exact ⟨mem_of_lookup h.found, hdomain'.trans hdomain⟩
  obtain ⟨tls, htls', hperm⟩ := h.names
  rw [htls, some.injEq] at htls'
  subst htls'
  have howner := (hv.stock.owner certificate hmem).1
  exact ⟨v, hview, ⟨howner.symm.trans (haccount'.trans haccount), hid⟩, hactive, hmem, hv.names_of_perm hmem hperm⟩

/-- The domains of the revision are found, with the certificate attached. -/
theorem activationDomains (hfurnished : db.Furnished services) :
    ∃ domains, activationDomains db params.accountID certificate now = .ok domains := by
  obtain ⟨requestID, hchecked⟩ := h.checked
  obtain ⟨v, hview, hnamed, hactive, hmem, hnames⟩ := h.view horder hdb
  have hv := hdb.consistent _ v hview
  have hlive := hv.live_of_active hactive
  have hown : certificate.domainID = v.row.id := (hv.stock.owner certificate hmem).2
  obtain ⟨domains, hlisted, hfrom, hto, -⟩ := listDomains_of hdb hfurnished (checkActivate_ok hchecked).1 now
  have hattach : ∃ attached, attachCertificate certificate domains = .ok attached := by
    apply attachCertificate_of
    intro domain hdomain hid
    obtain ⟨hread, -⟩ := hfrom domain hdomain
    have htls := hread.tls
    have hsame : domain.row = v.row := inj_on_of_nodup_map hdb.keyed.domains hread.row
      (mem_domains_of_domainView hview) (hid.trans hown)
    rw [hsame, hnamed.2, (domainView_eq_some.mp hview).2.1, some.injEq] at htls
    rw [hsame, ← htls]
    exact ⟨hactive, hnames⟩
  obtain ⟨attached, hattached⟩ := hattach
  obtain ⟨domain, hdomain, hrow⟩ := hto v.row (mem_domains_of_domainView hview) hnamed.1 hlive
  refine ⟨attached, ?_⟩
  unfold Stackfort.activationDomains
  simp only [bind_eq_ok_iff, guard_eq_ok_iff]
  refine ⟨domains, hlisted, attached, hattached, fun hall => ?_, rfl⟩
  exact of_decide_eq_true (all_eq_true.mp hall domain hdomain) (by rw [hrow, hown])

end

end Activatable

/-! ### The activation -/

theorem PanelStore.OneActive.retire {certificates : List TLSCertificate} (h : OneActive certificates)
    (p : TLSCertificate → Bool) (now : Time) :
    OneActive (updateWhere p (setRetired now) certificates) := by
  have hold : ∀ row ∈ updateWhere p (setRetired now) certificates,
      row.status = .active → row ∈ certificates :=
    fun row hmem hactive => (mem_of_mem_updateWhere hmem hactive (fun _ h => by cases h)).1
  intro left hleft right hright hactive hactive' hdomain
  exact h left (hold left hleft hactive) right (hold right hright hactive') hactive hactive' hdomain

namespace Activatable

/-- The store an activation leaves. -/
def result (db : PanelStore) (params : ActivateTLSCertificateParams) (certificate : TLSCertificate)
    (tls : DomainTLSState) (now : Time) : PanelStore :=
  { db with
    tlsStates := updateWhere (ofDomain params.accountID params.domainID)
      (setActivated certificate now) db.tlsStates
    certificates := updateWhere (hasStatus params.certificateID .staged)
      (setActive now) (withoutPredecessor params tls.activeCertificateRef now db.certificates) }

section

variable (h : Activatable db params certificate now) (horder : db.HasOrder params) (hdb : db.Sound)
  (hview : db.domainView params.domainID = some v)

include h horder hdb hview

theorem activated (hwanted : v.Wanted) :
    Activated db params certificate v.tls now (result db params certificate v.tls now) := by
  obtain ⟨w, hview', hnamed, hactive, hmem, hnames⟩ := h.view horder hdb
  rw [hview, some.injEq] at hview'
  subst hview'
  have hv := hdb.consistent _ v hview
  have hlive := hv.live_of_active hactive
  have henabled := hwanted (ne_nil_of_mem hmem) hlive
  have hstate := find_tls_of_view hdb hview
  rw [hnamed.1, hnamed.2] at hstate
  obtain ⟨haccount, hdomain⟩ := hv.stock.owner certificate hmem
  refine ⟨horder, h.found, ⟨haccount.trans hnamed.1, hdomain.trans hnamed.2⟩, h.staged, h.applied, hstate, hnames, ?_,
    rfl, rfl, rfl, rfl⟩
  intro tls htls hown
  rw [tls_eq_of_ofDomain hdb hview htls hown]
  obtain ⟨wildcard, -, hchallenge⟩ := hv.intent
  have himported : v.tls.mode = .imported ↔ v.tls.challengeType = .imported := by
    rw [hchallenge]
    unfold DomainTLSState.intendedChallenge
    split
    next hmode => simp [hmode]
    next hmode => cases wildcard <;> simp [hmode, intentOf]
  unfold DomainTLSState.allowed
  refine decide_eq_true ⟨fun hoff => ?_, himported⟩
  rw [show (v.tls.setActivated certificate now).enabled = v.tls.enabled from rfl, henabled] at hoff
  cases hoff

theorem retirePredecessorTx :
    retirePredecessorTx db params v.tls.activeCertificateRef now = .ok { db with
      certificates := withoutPredecessor params v.tls.activeCertificateRef now db.certificates } := by
  obtain ⟨w, hview', hnamed, -⟩ := h.view horder hdb
  rw [hview, some.injEq] at hview'
  subst hview'
  have hv := hdb.consistent _ v hview
  unfold Stackfort.retirePredecessorTx withoutPredecessor
  cases href : v.tls.activeCertificateRef with
  | none => rfl
  | some predecessor =>
    dsimp only
    by_cases hown : predecessor = params.certificateID
    · rw [if_pos hown, if_pos hown]
      rfl
    rw [if_neg hown, if_neg hown]
    obtain ⟨-, active, hactive, hid, hstatus⟩ := hv.attached predecessor href
    obtain ⟨haccount, hdomain⟩ := hv.stock.owner active hactive
    rw [(domainView_eq_some.mp hview).2.2.1, mem_owned] at hactive
    have hone := hdb.oneActive.retire
      (fun row => row.activeOf params.accountID params.domainID && decide (row.id = predecessor)) now
    rw [updateCertificates_of ?_ hone,
      countP_of_lookup hdb.keyed.certificates (lookup_of_mem hdb.keyed.certificates hactive.1)]
    · rfl
    · intro other _ hother
      exact (of_decide_eq_true (Bool.and_eq_true_iff.mp hother).2).trans hid.symm
    · rw [activeOf_iff.mpr ⟨haccount.trans hnamed.1, hdomain.trans hnamed.2, hstatus⟩, hid]
      simp
    · intro row hmem hrow
      have hselected := activeOf_iff.mp (Bool.and_eq_true_iff.mp hrow).1
      exact ((hdb.readable hmem).setRetired hselected.2.2 now).columns

theorem replaceCertificateTx (hwanted : v.Wanted) :
    replaceCertificateTx db params certificate v.tls.activeCertificateRef now =
      .ok (result db params certificate v.tls now) := by
  have hactivated := h.activated horder hdb hview hwanted
  have hsound := (hactivated.moves hdb).sound hdb
  have hfound : Rows.lookup TLSCertificate.id params.certificateID
      (withoutPredecessor params v.tls.activeCertificateRef now db.certificates) = some certificate := by
    have hlookup : Rows.lookup TLSCertificate.id params.certificateID db.certificates = some certificate := h.found
    unfold withoutPredecessor
    split
    · exact hlookup
    · split
      · exact hlookup
      · rw [Rows.lookup_updateWhere, hlookup, Option.map_some, if_neg]
        · simp [activeOf, h.staged]
        · exact fun _ => rfl
  have hkeys : ((withoutPredecessor params v.tls.activeCertificateRef now db.certificates).map
      TLSCertificate.id).Nodup := by
    unfold withoutPredecessor
    split
    · exact hdb.keyed.certificates
    · split
      · exact hdb.keyed.certificates
      · rw [keys_updateWhere]
        · exact hdb.keyed.certificates
        · exact fun _ => rfl
  unfold Stackfort.replaceCertificateTx
  simp only [bind_eq_ok_iff]
  refine ⟨_, h.retirePredecessorTx horder hdb hview, (_, _), updateCertificates_of ?_ hsound.oneActive, ⟨⟩, ?_,
    updateTLSStates_of hactivated.allowed⟩
  · intro row hmem hrow
    have hsame : row = certificate := inj_on_of_nodup_map hkeys hmem (mem_of_lookup hfound)
      ((hasStatus_iff.mp hrow).1.trans (key_of_lookup hfound).symm)
    rw [hsame]
    exact ((hdb.readable (mem_of_lookup h.found)).setActive h.staged now).columns
  · rw [countP_of_lookup hkeys hfound]
    · rfl
    · exact fun other _ hother => (hasStatus_iff.mp hother).1
    · exact hasStatus_iff.mpr ⟨key_of_lookup hfound, h.staged⟩

end

theorem activate (h : Activatable db params certificate now) (horder : db.HasOrder params) (hdb : db.Sound) (haccounted : db.Accounted)
    (hwanted : ∀ domainID v, db.domainView domainID = some v → v.Wanted) :
    ∃ active, (activateTLSCertificate db params now).2 = .ok active := by
  obtain ⟨requestID, hchecked⟩ := h.checked
  obtain ⟨v, hview, -⟩ := h.view horder hdb
  have hactivated := h.activated horder hdb hview (hwanted _ v hview)
  have hsound := (hactivated.moves hdb).sound hdb
  have hreplaced := h.replaceCertificateTx horder hdb hview (hwanted _ v hview)
  obtain ⟨order, hfoundOrder, haccount, hdomain, hcertificateID⟩ := horder
  obtain ⟨loaded, hloaded, rfl⟩ := loadedOrder_of hdb haccounted hfoundOrder
  obtain ⟨expires, hexpires, hunexpired⟩ := h.unexpired
  have hread := tlsCertificateByIDTx_of hdb h.found
  have htx : ∃ db', activateTx db params requestID now = .ok db' ∧
      db' = { result db params certificate v.tls now with operations := db'.operations } := by
    unfold activateTx
    simp only [hloaded, hread, hactivated.state, haccount, hdomain, hcertificateID, hactivated.scope, h.staged, hexpires,
      h.applied, hactivated.names, ok_bind, hreplaced]
    simp [hunexpired, pure_eq_ok]
    rfl
  obtain ⟨db', hcommitted, hdb'⟩ := htx
  have hmoves : db.Moves db' := by
    rw [hdb']
    exact (hactivated.moves hdb).trans (moves_of_eq rfl rfl rfl rfl hsound)
  obtain ⟨active, hactive, -⟩ := hmoves.continues hdb h.found
  have hreread : db'.getTLSCertificate params.certificateID = .ok active := by
    unfold getTLSCertificate
    rw [validateID_eq_ok_iff.mpr (checkActivate_ok hchecked).2, tlsCertificateByIDTx_of (hmoves.sound hdb) hactive]
    rfl
  refine ⟨active, ?_⟩
  unfold activateTLSCertificate rereads checkedWrite
  simp only [hchecked, hcommitted]
  exact hreread

end Activatable

/-! ### Orders and their certificates -/

theorem PanelStore.after_append (services : NameServices) (calls later : List PanelCall) :
    after services (calls ++ later) = (after services calls).run services later :=
  foldl_append

/-- A prepared request leaves a reachable store, and whatever calls follow, the operation keeps its order. -/
theorem Orderable.order_after {params : PrepareTLSCertificateOrderParams} {certificateID : ID} {row : DomainRow}
    {calls : List PanelCall} (h : Orderable (after services calls) params certificateID row)
    (hprepared : ∃ loaded, (prepareTLSCertificateOrder (after services calls) params certificateID now).2 = .ok loaded)
    (later : List PanelCall) :
    ∃ reached, (prepareTLSCertificateOrder (after services calls) params certificateID now).1.run services later =
        after services reached ∧
      ∀ activation : ActivateTLSCertificateParams, activation.operationID = params.operationID →
        activation.accountID = params.accountID → activation.domainID = params.domainID →
        activation.certificateID = certificateID → (after services reached).HasOrder activation := by
  have hdb := sound_after services calls
  obtain ⟨environment, requestID, hchecked, -⟩ := h.checked
  obtain ⟨draft, hdraft, -⟩ := h.draft hdb (furnished_after services calls) (accounted_after services calls) hchecked now
  have hordered := h.ordered_of_prepared hchecked hdraft hprepared
  have hstore : (prepareTLSCertificateOrder (after services calls) params certificateID now).1 =
      after services (calls ++ [.prepareOrder params draft certificateID now]) := by
    rw [h.prepare_eq hchecked hdraft, after_append]
    rfl
  rw [hstore] at hordered ⊢
  have hsound := (hordered.moves hdb).sound hdb
  have hmoves := run_moves services later hsound
  rw [← after_append] at hmoves ⊢
  refine ⟨calls ++ [.prepareOrder params draft certificateID now] ++ later, rfl, ?_⟩
  rintro activation hoperation haccount hdomain hcertificate
  obtain ⟨order, hfound, hcontinues⟩ := hmoves.order hsound hordered.findOrder
  refine ⟨order, hoperation ▸ hfound, ?_⟩
  rw [hcontinues, haccount, hdomain, hcertificate]
  exact ⟨rfl, rfl, rfl⟩

/-- **Ordering depends on how the name sorts.** In every reachable store and for every domain that is
eligible for an initial certificate, the order is placed, and its staged certificate is accepted by
the revision and by the activation for as long as the domain asks for its names, exactly when the
base name sorts before its `www` alias. -/
theorem eligible_domain_orders_iff (services : NameServices) (calls : List PanelCall)
    (params : PrepareTLSCertificateOrderParams) (certificateID : ID) (row : DomainRow) (now : Time)
    (h : Orderable (after services calls) params certificateID row) :
    ((∃ loaded, (prepareTLSCertificateOrder (after services calls) params certificateID now).2 = .ok loaded) ∧
      ∀ (later : List PanelCall) (activation : ActivateTLSCertificateParams) (certificate : TLSCertificate)
        (moment : Time), activation.operationID = params.operationID → activation.accountID = params.accountID →
        activation.domainID = params.domainID → activation.certificateID = certificateID →
        Activatable ((prepareTLSCertificateOrder (after services calls) params certificateID now).1.run services later)
          activation certificate moment →
        (∃ domains, activationDomains
          ((prepareTLSCertificateOrder (after services calls) params certificateID now).1.run services later)
          activation.accountID certificate moment = .ok domains) ∧
        ∃ active, (activateTLSCertificate
          ((prepareTLSCertificateOrder (after services calls) params certificateID now).1.run services later)
          activation moment).2 = .ok active) ↔
      row.namesSorted := by
  have hprepared := h.prepared_iff (sound_after services calls) (furnished_after services calls)
    (accounted_after services calls) now
  refine ⟨fun hall => hprepared.mp hall.1, fun hsorted => ⟨hprepared.mpr hsorted, ?_⟩⟩
  intro later activation certificate moment hoperation haccount hdomain hcertificate hactivatable
  obtain ⟨reached, hreached, horder⟩ := h.order_after (hprepared.mpr hsorted) later
  rw [hreached] at hactivatable ⊢
  have hown := horder activation hoperation haccount hdomain hcertificate
  exact ⟨hactivatable.activationDomains hown (sound_after services reached) (furnished_after services reached),
    hactivatable.activate hown (sound_after services reached) (accounted_after services reached)
      fun domainID v hview => wanted_after services reached hview⟩

/-! ### Two domains -/

namespace PanelSample

def accountID : ID := sampleID 10

def domainID : ID := sampleID 11

def operationID : ID := sampleID 12

def revisionID : ID := sampleID 13

def certificateID : ID := sampleID 14

def staticTarget : DomainTargetSpec := ⟨.unset, .unset, "", none, "", none, none⟩

def creation (name : String) : CreateDomainParams :=
  ⟨accountID, none, name, .unset, staticTarget, false, .unset, .unset, .unset, none, none, ""⟩

/-- A domain is created, a certificate is asked for, and the domain becomes active. -/
def setup (name : String) : List PanelCall :=
  [.account ⟨accountID, .active, ⟨10, [], true, true, true⟩⟩,
    .acmeAccount ⟨sampleID 15, .letsEncryptProduction, .valid⟩,
    .createDomain (creation name) ⟨domainID, sampleID 16, sampleID 17, sampleID 18⟩ 100,
    .queueIssue ⟨accountID, domainID, sampleID 19, "request", "key"⟩ (.ok ()) operationID 100,
    .createRevision ⟨accountID, none, "", none, none, ""⟩ revisionID 100,
    .recordAppliedState ⟨accountID, revisionID, some operationID, List.replicate 32 0, none, ""⟩ (sampleID 20) 100,
    .confirmActivation ⟨accountID, revisionID, operationID, [⟨domainID, sampleID 16⟩], none, ""⟩ 100]

def activeRow (name : String) : DomainRow :=
  ⟨domainID, accountID, name, name, .active, .preferApex, 100, 100, none, none⟩

def order : PrepareTLSCertificateOrderParams :=
  ⟨accountID, domainID, operationID, .known .letsEncryptProduction, none, none, "request"⟩

/-- What has to be evaluated of the run to see that the domain can order. -/
def Ready (name : String) : Prop :=
  activeRow name ∈ (after plainNames (setup name)).domains ∧
    ((after plainNames (setup name)).acmeAccounts.any fun account =>
      decide (account.environment = .letsEncryptProduction ∧ account.status = .valid)) = true ∧
    (((after plainNames (setup name)).findTLSState domainID).any fun tls =>
      decide (tls.enabled = true ∧ tls.mode = .acme ∧ tls.challengeType = .http01 ∧ tls.activeCertificateRef = none ∧
        (tls.issuanceStatus = .pending ∨ tls.issuanceStatus = .failed))) = true ∧
    (after plainNames (setup name)).hasOperation accountID operationID = true ∧
    ((after plainNames (setup name)).findOrder operationID).isNone = true ∧
    ((after plainNames (setup name)).findCertificate certificateID).isNone = true ∧
    checkPrepareOrder order = .ok (.letsEncryptProduction, "request")

instance (name : String) : Decidable (Ready name) := inferInstanceAs (Decidable (_ ∧ _))

theorem Ready.orderable {name : String} (h : Ready name) :
    Orderable (after plainNames (setup name)) order certificateID (activeRow name) := by
  obtain ⟨hrow, haccount, htls, hoperation, horder, hcertificate, hchecked⟩ := h
  obtain ⟨account, hmem, hvalid⟩ := any_eq_true.mp haccount
  obtain ⟨tls, hfound, hstate⟩ := (Option.any_eq_true _ _).mp htls
  exact
    { checked := ⟨.letsEncryptProduction, "request", hchecked, account, hmem, of_decide_eq_true hvalid⟩
      initial := rfl, domain := ⟨hrow, rfl, rfl⟩, active := rfl, tls := ⟨tls, hfound, of_decide_eq_true hstate⟩
      operation := hoperation, fresh := Option.isNone_iff_eq_none.mp horder
      freshCertificate := Option.isNone_iff_eq_none.mp hcertificate }

end PanelSample

open PanelSample in
/-- The order for `a.com` is placed. -/
theorem eligible_domain_orders_iff_early :
    Orderable (after plainNames (setup "a.com")) order certificateID (activeRow "a.com") ∧
      ∃ loaded, (prepareTLSCertificateOrder (after plainNames (setup "a.com")) order certificateID 200).2 =
        .ok loaded := by
  have hready : Ready "a.com" := by decide +kernel
  exact ⟨hready.orderable, ((eligible_domain_orders_iff plainNames (setup "a.com") order certificateID
    (activeRow "a.com") 200 hready.orderable).mpr (by decide +kernel)).1⟩

open PanelSample in
/-- The same calls for `x.com`, which sorts after `www.x.com`, leave a domain that is eligible and cannot
order. -/
theorem late_name_cannot_order :
    Orderable (after plainNames (setup "x.com")) order certificateID (activeRow "x.com") ∧
      (prepareTLSCertificateOrder (after plainNames (setup "x.com")) order certificateID 200).2.map (fun _ => ()) =
        .error (.conflict "TLS intent changed while preparing the order") := by
  exact And.imp_left Ready.orderable (by decide +kernel)

end Stackfort
