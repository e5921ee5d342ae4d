import Stackfort.CertificateOrders

/-! Every eligible domain should be able to order a certificate. The order compares the stored names,
base name first and `www` alias second, with the same names sorted; so it is placed exactly for
those domains whose base name sorts before its alias. A certificate that was ordered is then
accepted by the activation for as long as the domain asks for its names. -/

namespace Stackfort

open Relation PanelStore

variable {services : NameServices} {db db' : PanelStore} {now : Time} {order : TLSCertificateOrder}
  {operationID domainID : ID} {row : DomainRow} {certificateID : ID}

/-! ### Statements that succeed -/

variable {v : DomainView} {environment : ACMEEnvironment} {params : PrepareTLSCertificateOrderParams}
  {requestID : String}

namespace PanelStore

theorem insertCertificate_of {row : TLSCertificate} (hfresh : ∀ other ∈ db.certificates, other.id ≠ row.id)
    (hallowed : row.allowed = true) (hinactive : row.status ≠ .active)
    (hdomain : ∃ domain ∈ db.domains, domain.id = row.domainID ∧ domain.accountID = row.accountID)
    (haccount : ∃ account ∈ db.acmeAccounts, account.id = row.acmeAccountID) :
    db.insertCertificate row = .ok { db with certificates := db.certificates ++ [row] } := by
  rw [insertCertificate, if_neg, if_neg, if_neg]
  · rfl
  · simpa using ⟨hdomain, haccount⟩
  · simp [hallowed, TLSCertificate.clash, hinactive]
  · simpa using hfresh

theorem insertOrder_of {row : TLSCertificateOrder} (hfresh : ∀ other ∈ db.orders, other.operationID ≠ row.operationID)
    (hunique : ∀ other ∈ db.orders, other.certificateID ≠ row.certificateID)
    (hoperation : db.hasOperation row.accountID row.operationID = true)
    (hcertificate : ∃ certificate ∈ db.certificates, certificate.id = row.certificateID ∧
      certificate.domainID = row.domainID ∧ certificate.accountID = row.accountID)
    (hinitial : row.replacesCertificateID = none) :
    db.insertOrder row = .ok { db with orders := db.orders ++ [row] } := by
  unfold insertOrder
  dsimp only
  rw [if_neg, if_neg, if_neg]
  · rfl
  · rw [hoperation, hinitial]
    simpa using hcertificate
  · simpa using hunique
  · simpa using hfresh

theorem updateTLSStates_of {p : DomainTLSState → Bool} {f : DomainTLSState → DomainTLSState}
    (hallowed : ∀ row ∈ db.tlsStates, p row = true → (f row).allowed = true) :
    db.updateTLSStates p f = .ok { db with tlsStates := updateWhere p f db.tlsStates } := by
  unfold updateTLSStates
  rw [if_neg]
  · rfl
  · simpa using hallowed

/-- No two active certificates belong to one domain. -/
def OneActive (certificates : List TLSCertificate) : Prop :=
  ∀ left ∈ certificates, ∀ right ∈ certificates, left.status = .active → right.status = .active →
    left.domainID = right.domainID → left.id = right.id

theorem updateCertificates_of {p : TLSCertificate → Bool} {f : TLSCertificate → TLSCertificate}
    (hallowed : ∀ row ∈ db.certificates, p row = true → (f row).allowed = true)
    (hone : OneActive (updateWhere p f db.certificates)) :
    db.updateCertificates p f =
      .ok ({ db with certificates := updateWhere p f db.certificates }, db.certificates.countP p) := by
  unfold updateCertificates
  dsimp only
  rw [if_neg, if_neg]
  · rfl
  · intro hany
    obtain ⟨left, hleft, hclash⟩ := any_eq_true.mp hany
    obtain ⟨right, hright, hrow⟩ := any_eq_true.mp hclash
    obtain ⟨hne, hactive, hactive', -, hdomain⟩ := of_decide_eq_true hrow
    exact hne (hone left hleft right hright hactive hactive' hdomain)
  · simpa using hallowed

section

variable (hdb : db.Sound)

include hdb

theorem Sound.oneActive : OneActive db.certificates := by
  intro left hleft right hright hactive hactive' hdomain
  obtain ⟨row, hrow, hid⟩ := hdb.keyed.domainOfCertificate left hleft
  obtain ⟨v, hview, -⟩ := domainView_of_mem hdb.keyed hrow
  have hv := hdb.consistent row.id v hview
  have howned : ∀ certificate ∈ db.certificates, certificate.domainID = row.id → certificate ∈ v.certificates := by
    intro certificate hmem hown
    rw [(domainView_eq_some.mp hview).2.2.1, mem_owned]
    exact ⟨hmem, hown⟩
  have hleft' := (hv.active left (howned left hleft hid.symm) hactive).1
  have hright' := (hv.active right (howned right hright (hdomain.symm.trans hid.symm)) hactive').1
  rw [hleft', some.injEq] at hright'
  exact hright'

/-! ### Reads that succeed -/

theorem find_row_of_view (hview : db.domainView domainID = some v) :
    db.domains.find? (ofAccount v.row.accountID v.row.id) = some v.row := by
  apply find?_of_mem hdb.keyed.domains (mem_domains_of_domainView hview)
  · exact ofAccount_iff.mpr ⟨rfl, rfl⟩
  · exact fun other _ hother => (ofAccount_iff.mp hother).2

theorem find_tls_of_view (hview : db.domainView domainID = some v) :
    db.tlsStates.find? (ofDomain v.row.accountID v.row.id) = some v.tls := by
  have howner := (hdb.consistent _ v hview).owner
  apply find?_of_mem hdb.keyed.tlsStates (mem_of_lookup (domainView_eq_some.mp hview).2.1)
  · exact ofDomain_iff.mpr howner
  · exact fun other _ hother => (ofDomain_iff.mp hother).2.trans howner.2.symm

/-- In a sound and furnished store every domain can be read, at any clock reading. -/
theorem getDomain_of (hfurnished : db.Furnished services) (hmem : row ∈ db.domains) (now : Time) :
    ∃ domain, db.getDomain row.accountID row.id now = .ok domain ∧ domain.row = row ∧ domain.ReadFrom db now := by
  obtain ⟨v, hview, rfl⟩ := domainView_of_mem hdb.keyed hmem
  have htls := (domainView_eq_some.mp hview).2.1
  obtain ⟨settings, hsettings, -⟩ := hfurnished.valid v.row hmem
  have hrow := find_row_of_view hdb hview
  have hstate := find_tls_of_view hdb hview
  obtain ⟨domain, hdomain, hown, htarget, hroot, hredirect, hdomainTLS, hwaf, hcache, hexceptions⟩ :=
    domainRecord_of_settings now hrow hsettings hstate
  refine ⟨domain, ?_, hown, ?_⟩
  · obtain ⟨hid, haccount⟩ := hfurnished.ids v.row hmem
    unfold getDomain
    rw [validateID_eq_ok_iff.mpr haccount, validateID_eq_ok_iff.mpr hid, hdomain]
    rfl
  · refine ⟨?_, ?_, ?_, ?_⟩
    · rw [hown]
      exact hmem
    · rw [hown, hdomainTLS]
      exact htls
    · rw [hown, htarget, hroot, hredirect, hwaf, hcache]
      exact hsettings
    · rw [hown]
      exact hexceptions

theorem Sound.readable {certificate : TLSCertificate} (hmem : certificate ∈ db.certificates) : certificate.Readable := by
  obtain ⟨row, hrow, hid⟩ := hdb.keyed.domainOfCertificate certificate hmem
  obtain ⟨v, hview, -⟩ := domainView_of_mem hdb.keyed hrow
  apply (hdb.consistent row.id v hview).stock.readable
  rw [(domainView_eq_some.mp hview).2.2.1, mem_owned]
  exact ⟨hmem, hid.symm⟩

theorem tlsCertificateByIDTx_of {certificate : TLSCertificate}
    (hfound : db.findCertificate certificateID = some certificate) :
    db.tlsCertificateByIDTx certificateID = .ok certificate := by
  have hreadable := hdb.readable (mem_of_lookup hfound)
  unfold tlsCertificateByIDTx
  rw [hfound]
  exact if_neg (not_or.mpr ⟨hreadable.nonempty, not_not.mpr hreadable.sorted⟩)

/-- The certificate of an order, which belongs to the same domain. -/
theorem certificate_of_order (horder : db.findOrder operationID = some order) :
    ∃ certificate, db.findCertificate order.certificateID = some certificate ∧
      certificate.accountID = order.accountID ∧ certificate.domainID = order.domainID := by
  have hmem := mem_of_lookup horder
  obtain ⟨row, hrow, hid⟩ := hdb.keyed.domainOfOrder order hmem
  obtain ⟨v, hview, -⟩ := domainView_of_mem hdb.keyed hrow
  have hstock := (hdb.consistent row.id v hview).stock
  have howned : order ∈ v.orders := by
    rw [(domainView_eq_some.mp hview).2.2.2, mem_owned]
    exact ⟨hmem, hid.symm⟩
  obtain ⟨certificate, hcertificate, hcertificateID⟩ := hstock.orderCertificate order howned
  obtain ⟨haccount, hdomain⟩ := hstock.owner certificate hcertificate
  obtain ⟨haccount', hdomain'⟩ := hstock.orderOwner order howned
  rw [(domainView_eq_some.mp hview).2.2.1, mem_owned] at hcertificate
  refine ⟨certificate, ?_, haccount.trans haccount'.symm, hdomain.trans hdomain'.symm⟩
  rw [← hcertificateID]
  exact lookup_of_mem hdb.keyed.certificates hcertificate.1

/-- A retained order is read with its certificate and its ACME account. -/
theorem loadedOrder_of (haccounted : db.Accounted) (horder : db.findOrder operationID = some order) :
    ∃ loaded, db.tlsCertificateOrderForOperationTx operationID = .ok loaded ∧ loaded.order = order := by
  obtain ⟨certificate, hfound, -⟩ := certificate_of_order hdb horder
  obtain ⟨account, haccount, haccountID⟩ := haccounted.issued certificate (mem_of_lookup hfound)
  have hreadAccount : db.findACMEAccountByIDTx certificate.acmeAccountID = .ok account := by
    have hlookup : db.findACMEAccount account.id = some account := lookup_of_mem haccounted.ids haccount
    unfold findACMEAccountByIDTx
    rw [← haccountID, hlookup]
    rfl
  refine ⟨⟨order, certificate, account⟩, ?_, rfl⟩
  unfold tlsCertificateOrderForOperationTx
  simp only [horder, bind_eq_ok_iff]
  exact ⟨certificate, tlsCertificateByIDTx_of hdb hfound, account, hreadAccount, rfl⟩

end

end PanelStore

/-! ### Placing an order -/

/-- All that an initial order needs, apart from the order of the stored names. -/
structure Orderable (db : PanelStore) (params : PrepareTLSCertificateOrderParams) (certificateID : ID)
    (row : DomainRow) : Prop where
  checked : ∃ environment requestID, checkPrepareOrder params = .ok (environment, requestID) ∧
    ∃ account ∈ db.acmeAccounts, account.environment = environment ∧ account.status = .valid
  initial : params.replacesCertificateID = none
  domain : row ∈ db.domains ∧ row.accountID = params.accountID ∧ row.id = params.domainID
  active : row.status = .active
  tls : ∃ tls, db.findTLSState row.id = some tls ∧ tls.enabled = true ∧ tls.mode = .acme ∧
    tls.challengeType = .http01 ∧ tls.activeCertificateRef = none ∧
    (tls.issuanceStatus = .pending ∨ tls.issuanceStatus = .failed)
  operation : db.hasOperation params.accountID params.operationID = true
  /-- The operation has no order yet, and the identifier drawn for the certificate is new. -/
  fresh : db.findOrder params.operationID = none
  freshCertificate : db.findCertificate certificateID = none

/-- The base name of a domain sorts before its alias. -/
def DomainRow.namesSorted (row : DomainRow) : Prop := row.asciiName ≤ "www." ++ row.asciiName

instance (row : DomainRow) : Decidable row.namesSorted := inferInstanceAs (Decidable (_ ≤ _))

theorem insertionSort_pair (first second : String) :
    [first, second].insertionSort (· ≤ ·) = if first ≤ second then [first, second] else [second, first] := by
  by_cases hle : first ≤ second <;> simp [hle]

theorem names_eq_sorted_iff (row : DomainRow) :
    (intentOf row.asciiName false).1 = (intentOf row.asciiName false).1.insertionSort (· ≤ ·) ↔
      row.namesSorted := by
  have hnames : (intentOf row.asciiName false).1 = [row.asciiName, "www." ++ row.asciiName] := rfl
  rw [hnames, insertionSort_pair, DomainRow.namesSorted]
  constructor
  · intro heq
    by_contra hnot
    rw [if_neg hnot] at heq
    have hsame : row.asciiName = "www." ++ row.asciiName := (List.cons.inj heq).1
    have hlength := congrArg String.length hsame
    rw [String.length_append] at hlength
    simp at hlength
  · intro hsorted
    rw [if_pos hsorted]

/-- A stored name starts with a letter or a digit, its alias with a letter. -/
theorem not_isWildcardName (hallowed : asciiNameAllowed row.asciiName = true) {name : String}
    (hname : name ∈ (intentOf row.asciiName false).1) : isWildcardName name = false := by
  have hnames : (intentOf row.asciiName false).1 = [row.asciiName, "www." ++ row.asciiName] := rfl
  rw [hnames, mem_cons, mem_singleton] at hname
  rcases hname with rfl | rfl
  · simp only [asciiNameAllowed, and_eq_true] at hallowed
    obtain ⟨⟨-, hhead⟩, -⟩ := hallowed
    unfold isWildcardName
    cases hlist : row.asciiName.toList with
    | nil => rfl
    | cons first rest =>
      rw [hlist, List.head?_cons, Option.any_some] at hhead
      have hstar : first ≠ '*' := by
        rintro rfl
        revert hhead
        decide
      have hpattern : "*.".toList = ['*', '.'] := rfl
      rw [hpattern, List.isPrefixOf_cons_cons]
      simp [hstar.symm]
  · unfold isWildcardName
    rw [String.toList_append]
    rfl

theorem Ordered.findOrder {draft : OrderDraft}
    (h : Ordered db params draft certificateID now db') :
    db'.findOrder params.operationID = some (preparedOrder params certificateID now) := by
  rw [PanelStore.findOrder, h.orders]
  exact find?_append_new (fun other hother => decide_eq_false (h.freshOperation other hother))
    (decide_eq_true rfl)

theorem checkPrepareOrder_ok
    (h : checkPrepareOrder params = .ok (environment, requestID)) :
    isCanonicalUUIDv7 params.accountID = true ∧ isCanonicalUUIDv7 params.domainID = true ∧
      isCanonicalUUIDv7 params.operationID = true := by
  simp only [checkPrepareOrder, bind_eq_ok_iff] at h
  obtain ⟨⟨⟩, haccount, ⟨⟩, hdomain, ⟨⟩, hoperation, -⟩ := h
  exact ⟨validateID_eq_ok_iff.mp haccount, validateID_eq_ok_iff.mp hdomain, validateID_eq_ok_iff.mp hoperation⟩

namespace Orderable

variable {params : PrepareTLSCertificateOrderParams} {certificateID : ID} {row : DomainRow}

section

variable (h : Orderable db params certificateID row)

include h

theorem view (hdb : db.Sound) :
    ∃ v, db.domainView row.id = some v ∧ v.row = row ∧ v.tls.enabled = true ∧ v.tls.mode = .acme ∧
      v.tls.challengeType = .http01 ∧ v.tls.names = (intentOf row.asciiName false).1 ∧
      orderRefusal params.replacesCertificateID v.tls = none := by
  obtain ⟨v, hview, rfl⟩ := domainView_of_mem hdb.keyed h.domain.1
  obtain ⟨tls, hfound, henabled, hmode, hchallenge, hdetached, hstatus⟩ := h.tls
  have htls := (domainView_eq_some.mp hview).2.1
  rw [htls, some.injEq] at hfound
  subst hfound
  have hnames := (hdb.consistent _ v hview).intent.names_of_http01 hmode hchallenge
  refine ⟨v, hview, rfl, henabled, hmode, hchallenge, hnames, ?_⟩
  rw [h.initial]
  unfold orderRefusal
  rcases hstatus with hstatus | hstatus <;> simp [hdetached, hstatus]

/-- The reads before the transaction succeed; they hand over the names sorted and a valid account. -/
theorem draft (hdb : db.Sound) (hfurnished : db.Furnished services) (haccounted : db.Accounted)
    (hchecked : checkPrepareOrder params = .ok (environment, requestID)) (now : Time) :
    ∃ draft, db.draftOrder params.accountID params.domainID environment now = .ok draft ∧
      draft.names = (intentOf row.asciiName false).1.insertionSort (· ≤ ·) ∧
      draft.account ∈ db.acmeAccounts ∧ draft.account.environment = environment ∧
      draft.account.status = .valid := by
  obtain ⟨environment', requestID', hchecked', account, haccount, henvironment, hvalid⟩ := h.checked
  rw [hchecked, Except.ok.injEq, Prod.mk.injEq] at hchecked'
  obtain ⟨rfl, rfl⟩ := hchecked'
  obtain ⟨v, hview, rfl, henabled, hmode, hchallenge, hnames, -⟩ := h.view hdb
  obtain ⟨hmem, haccountID, hdomainID⟩ := h.domain
  obtain ⟨domain, hdomain, hrow, hread⟩ := getDomain_of hdb hfurnished hmem now
  have htls := hread.tls
  rw [hrow] at htls
  rw [(domainView_eq_some.mp hview).2.1, some.injEq] at htls
  have heligible : domain.eligible = true := by
    unfold Domain.eligible
    rw [hrow, ← htls, hnames]
    simp [h.active, henabled, hmode, hchallenge, intentOf]
  have hplain : (domain.tls.names.insertionSort (· ≤ ·)).any isWildcardName = false := by
    rw [← htls, hnames]
    apply List.any_eq_false.mpr
    intro name hname
    rw [not_isWildcardName (hfurnished.named v.row hmem).1 ((List.mem_insertionSort _).mp hname)]
    simp
  have hfound := lookup_of_mem haccounted.environments haccount
  rw [henvironment, Rows.lookup] at hfound
  refine ⟨⟨domain.tls.names.insertionSort (· ≤ ·), List.pairwise_insertionSort _ _, account⟩, ?_, ?_, haccount,
    henvironment, hvalid⟩
  · rw [← haccountID, ← hdomainID]
    unfold draftOrder
    refine bind_eq_ok_iff.mpr ⟨domain, hdomain, ?_⟩
    simp only [heligible, hplain, hfound, hvalid]
    rfl
  · rw [← htls, hnames]

theorem activeDomainTLS (hdb : db.Sound) (hview : db.domainView row.id = some v) (hrow : v.row = row) :
    db.activeDomainTLS params.accountID params.domainID = some v.tls := by
  have htls := find_tls_of_view hdb hview
  unfold PanelStore.activeDomainTLS
  rw [hrow, h.domain.2.1, h.domain.2.2] at htls
  rw [any_eq_true.mpr ⟨row, h.domain.1, ?_⟩]
  · simpa only [Bool.and_true] using htls
  · simp [ofAccount_iff.mpr h.domain.2, h.active]

theorem insertOrderTx (hdb : db.Sound) {draft : OrderDraft} (haccount : draft.account ∈ db.acmeAccounts)
    (requestID : String) (now : Time) :
    ∃ db', insertOrderTx db params requestID draft certificateID now = .ok db' := by
  obtain ⟨v, hview, rfl, henabled, hmode, hchallenge, -⟩ := h.view hdb
  obtain ⟨hmem, haccountID, hdomainID⟩ := h.domain
  have hfresh : ∀ other ∈ db.certificates, other.id ≠ certificateID := lookup_eq_none.mp h.freshCertificate
  -- An order names a certificate that exists, so the new identifier occurs in no order either.
  have hunique : ∀ other ∈ db.orders, other.certificateID ≠ certificateID := by
    intro order horder heq
    obtain ⟨certificate, hfound, -⟩ := certificate_of_order hdb (lookup_of_mem hdb.keyed.orders horder)
    rw [heq, h.freshCertificate] at hfound
    cases hfound
  have hcertificate : db.insertCertificate (orderedCertificate params draft certificateID now) = .ok _ :=
    insertCertificate_of hfresh rfl (by simp [orderedCertificate]) ⟨v.row, hmem, hdomainID, haccountID⟩
      ⟨_, haccount, rfl⟩
  generalize hdb₁ : { db with
    certificates := db.certificates ++ [orderedCertificate params draft certificateID now] } = db₁ at hcertificate
  have horder : db₁.insertOrder (preparedOrder params certificateID now) =
      .ok { db₁ with orders := db₁.orders ++ [preparedOrder params certificateID now] } := by
    subst hdb₁
    exact insertOrder_of (lookup_eq_none.mp h.fresh) hunique h.operation
      ⟨_, List.mem_append_right _ (mem_singleton.mpr rfl), rfl, rfl, rfl⟩ h.initial
  generalize hdb₂ : { db₁ with orders := db₁.orders ++ [preparedOrder params certificateID now] } = db₂ at horder
  have hstates : db₂.tlsStates = db.tlsStates := by
    rw [← hdb₂, ← hdb₁]
  unfold Stackfort.insertOrderTx
  simp only [bind_eq_ok_iff]
  refine ⟨_, _, hcertificate, _, horder, _, updateTLSStates_of fun tls htls hown => ?_, rfl⟩
  rw [hstates] at htls
  rw [← hdomainID] at hown
  rw [tls_eq_of_ofDomain hdb hview htls hown]
  simp [DomainTLSState.allowed, setOrdered, henabled, hmode, hchallenge]

/-- The transaction succeeds exactly when the names it reads are those of the draft. -/
theorem prepareOrderTx_iff (hdb : db.Sound) {draft : OrderDraft}
    (hnames : draft.names = (intentOf row.asciiName false).1.insertionSort (· ≤ ·))
    (haccount : draft.account ∈ db.acmeAccounts) (haccounted : db.Accounted) (hvalid : draft.account.status = .valid)
    (requestID : String) (now : Time) :
    (∃ db', prepareOrderTx db params draft.account.environment requestID draft certificateID now = .ok db') ↔
      row.namesSorted := by
  obtain ⟨v, hview, hrow, henabled, hmode, hchallenge, hstored, hrefusal⟩ := h.view hdb
  have hunknown : db.tlsCertificateOrderForOperationTx params.operationID = .error .noRows := by
    unfold tlsCertificateOrderForOperationTx
    rw [h.fresh]
    rfl
  unfold prepareOrderTx
  rw [find?_of_mem haccounted.ids haccount (by simp) fun other _ hother => (of_decide_eq_true hother).1]
  simp only [hunknown, h.activeDomainTLS hdb hview hrow, hrefusal, hstored, henabled, hmode, hchallenge, hvalid,
    guard_eq_ok_iff]
  rw [← names_eq_sorted_iff, ← hnames]
  constructor
  · rintro ⟨db', hsame, -⟩
    simpa using hsame
  · intro hsame
    obtain ⟨db', hdb'⟩ := h.insertOrderTx hdb haccount requestID now
    exact ⟨db', by simp [hsame], by simp, hdb'⟩

section

variable {requestID : String} {draft : OrderDraft}
  (hchecked : checkPrepareOrder params = .ok (environment, requestID))
  (hdraft : db.draftOrder params.accountID params.domainID environment now = .ok draft)

include hchecked hdraft

/-- With the reads done, the call is the transaction followed by a read of its order. -/
theorem prepare_eq :
    prepareTLSCertificateOrder db params certificateID now =
      PanelStore.rereads (commitOrder db params draft certificateID now)
        fun _ db' => db'.tlsCertificateOrderForOperation params.operationID := by
  have hunknown : db.tlsCertificateOrderForOperation params.operationID = .error (.notFound "") := by
    have hid := (checkPrepareOrder_ok hchecked).2.2
    unfold tlsCertificateOrderForOperation tlsCertificateOrderForOperationTx
    rw [validateID_eq_ok_iff.mpr hid, h.fresh]
    rfl
  unfold prepareTLSCertificateOrder commitOrder checkedWrite
  simp only [hchecked, hunknown, hdraft]

theorem ordered_of_prepared
    (hprepared : ∃ loaded, (prepareTLSCertificateOrder db params certificateID now).2 = .ok loaded) :
    Ordered db params draft certificateID now (prepareTLSCertificateOrder db params certificateID now).1 := by
  obtain ⟨loaded, hloaded⟩ := hprepared
  rw [h.prepare_eq hchecked hdraft] at hloaded ⊢
  unfold rereads commitOrder checkedWrite at hloaded ⊢
  simp only [hchecked] at hloaded ⊢
  cases hcommitted : prepareOrderTx db params environment requestID draft certificateID now with
  | error error =>
    rw [hcommitted] at hloaded
    cases hloaded
  | ok db' =>
    rcases prepareOrderTx_ok hcommitted with ⟨-, hreplayed⟩ | hordered
    · rw [h.fresh] at hreplayed
      cases hreplayed
    · exact hordered

end

theorem prepared_iff (hdb : db.Sound) (hfurnished : db.Furnished services) (haccounted : db.Accounted) (now : Time) :
    (∃ loaded, (prepareTLSCertificateOrder db params certificateID now).2 = .ok loaded) ↔ row.namesSorted := by
  obtain ⟨environment, requestID, hchecked, -⟩ := h.checked
  obtain ⟨draft, hdraft, hnames, haccount, henvironment, hvalid⟩ := h.draft hdb hfurnished haccounted hchecked now
  have htx := h.prepareOrderTx_iff hdb hnames haccount haccounted hvalid requestID now
  rw [henvironment] at htx
  rw [h.prepare_eq hchecked hdraft, ← htx]
  unfold rereads commitOrder checkedWrite
  simp only [hchecked]
  constructor
  · rintro ⟨loaded, hloaded⟩
    cases hcommitted : prepareOrderTx db params environment requestID draft certificateID now with
    | error error =>
      rw [hcommitted] at hloaded
      cases hloaded
    | ok db' => exact ⟨db', rfl⟩
  · rintro ⟨db', hcommitted⟩
    rcases prepareOrderTx_ok hcommitted with ⟨-, hreplayed⟩ | hordered
    · rw [h.fresh] at hreplayed
      cases hreplayed
    obtain ⟨loaded, hloaded, -⟩ := loadedOrder_of ((hordered.moves hdb).sound hdb) (hordered.accounted haccounted)
      hordered.findOrder
    have hread : db'.tlsCertificateOrderForOperation params.operationID = .ok loaded := by
      unfold tlsCertificateOrderForOperation
      rw [validateID_eq_ok_iff.mpr (checkPrepareOrder_ok hchecked).2.2, hloaded]
      rfl
    refine ⟨loaded, ?_⟩
    rw [hcommitted]
    exact hread

end

end Orderable

end Stackfort
