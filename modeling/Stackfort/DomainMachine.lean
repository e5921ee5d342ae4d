import Stackfort.DomainStatements
import Stackfort.KeyedViews

/-! The machine behind the tables of one domain. A view is what the store holds for a domain: its row,
its TLS state, its certificates and their orders, oldest first. The steps are those of the domain
and certificate transitions as seen from one domain, with the conditions the transactions check. A
consistent view is one whose active certificate is the one the TLS state refers to, carries the
names the domain asks for, and belongs to a domain that is not removed; every step keeps that. -/

namespace Stackfort

open List

structure DomainView where
  row : DomainRow
  tls : DomainTLSState
  certificates : List TLSCertificate
  orders : List TLSCertificateOrder

/-- The order of a certificate's life. -/
def TLSCertificateStatus.rank : TLSCertificateStatus → Nat
  | .ordering => 0
  | .staged => 1
  | .active => 2
  | .retired => 3

/-- Names and challenge of a base name, with or without its subdomains. -/
def intentOf (asciiName : String) (wildcard : Bool) : List String × TLSChallengeType :=
  if wildcard then ([asciiName, "www." ++ asciiName, "*." ++ asciiName], .dns01)
  else ([asciiName, "www." ++ asciiName], .http01)

theorem tlsIntent_eq (name : NormalizedDomainName) (target : PreparedDomainTarget) :
    tlsIntent name target = intentOf name.ascii target.hasWildcard := by
  cases h : target.hasWildcard <;> simp [tlsIntent, intentOf, h]

namespace DomainView

/-- The active certificates of the domain give way. -/
def retireAll (v : DomainView) (now : Time) : List TLSCertificate :=
  updateWhere (activeOf v.row.accountID v.row.id) (setRetired now)
    v.certificates

/-- The certificate the domain has so far gives way to another one. -/
def retirePredecessor (v : DomainView) (certificateID : ID) (now : Time) : List TLSCertificate :=
  match v.tls.activeCertificateRef with
  | none => v.certificates
  | some predecessor =>
    if predecessor = certificateID then v.certificates
    else updateWhere
      (fun row => row.activeOf v.row.accountID v.row.id && decide (row.id = predecessor))
      (setRetired now) v.certificates

end DomainView

/-- One step of a domain. -/
inductive DomainStep (v : DomainView) : DomainView → Prop where
  | edit (row : DomainRow) (hlive : v.row.removedAt = none) (hid : row.id = v.row.id)
      (haccount : row.accountID = v.row.accountID) (hname : row.asciiName = v.row.asciiName)
      (hkept : row.removedAt = none) (hstatus : row.status ≠ .removed) :
      DomainStep v { v with row := row }
  | intend (wildcard : Bool) (now : Time) (hlive : v.row.removedAt = none)
      (hchanged : v.tls.differsFrom (intentOf v.row.asciiName wildcard) = true) :
      DomainStep v { v with
        tls := v.tls.setIntent (intentOf v.row.asciiName wildcard) now, certificates := v.retireAll now }
  | remove (now : Time) (hlive : v.row.removedAt = none) :
      DomainStep v { v with
        row := v.row.setRemoved now, tls := v.tls.setRemoved now, certificates := v.retireAll now }
  | order (params : PrepareTLSCertificateOrderParams) (draft : OrderDraft) (certificateID : ID) (now : Time)
      (howner : params.accountID = v.row.accountID ∧ params.domainID = v.row.id)
      (hactive : v.row.status = .active) (henabled : v.tls.enabled = true) (hmode : v.tls.mode = .acme)
      (hchallenge : v.tls.challengeType = .http01) (hnames : v.tls.names = draft.names)
      (hrefusal : orderRefusal params.replacesCertificateID v.tls = none)
      (hfresh : ∀ certificate ∈ v.certificates, certificate.id ≠ certificateID) :
      DomainStep v { v with
        tls := v.tls.setOrdered (preparedOrder params certificateID now).purpose.status now
        certificates := v.certificates ++ [orderedCertificate params draft certificateID now]
        orders := v.orders ++ [preparedOrder params certificateID now] }
  | recordURL (operationID : ID) (url : String) :
      DomainStep v { v with
        orders := updateWhere (fun row => decide (row.operationID = operationID ∧ row.orderURL = none))
          (fun row => { row with orderURL := some url }) v.orders }
  | stage (params : StageTLSCertificateParams) (certificateURL : String) (now : Time) :
      DomainStep v { v with
        certificates := updateWhere (hasStatus params.certificateID .ordering)
          (setStaged params certificateURL now) v.certificates }
  | activate (certificate : TLSCertificate) (now : Time) (hmem : certificate ∈ v.certificates)
      (hstaged : certificate.status = .staged) (hnames : v.tls.names = certificate.names)
      (henabled : v.tls.enabled = true) :
      DomainStep v { v with
        tls := v.tls.setActivated certificate now
        certificates := updateWhere (hasStatus certificate.id .staged)
          (setActive now) (v.retirePredecessor certificate.id now) }
  | fail (order : TLSCertificateOrder) (errorCode : String) (retryAt : Option Time) (now : Time)
      (hmem : order ∈ v.orders) (henabled : v.tls.enabled = true) :
      DomainStep v { v with tls := v.tls.setFailed errorCode retryAt now }

/-! ### Certificates -/

variable {row : TLSCertificate} {params : PrepareTLSCertificateOrderParams} {f : TLSCertificate → TLSCertificate}
  {draft : OrderDraft} {certificateID : ID}

namespace TLSCertificate

/-- The later row is the same certificate, further along its life. -/
structure Continues (old new : TLSCertificate) : Prop where
  id : new.id = old.id
  accountID : new.accountID = old.accountID
  domainID : new.domainID = old.domainID
  acmeAccountID : new.acmeAccountID = old.acmeAccountID
  names : new.names = old.names
  rank : old.status.rank ≤ new.status.rank
  nextRenewalAt : old.status ≠ .ordering → new.nextRenewalAt = old.nextRenewalAt

theorem Continues.refl (row : TLSCertificate) : row.Continues row :=
  ⟨rfl, rfl, rfl, rfl, rfl, le_rfl, fun _ => rfl⟩

theorem Continues.trans {first second third : TLSCertificate} (h : first.Continues second)
    (h' : second.Continues third) : first.Continues third := by
  refine ⟨h'.id.trans h.id, h'.accountID.trans h.accountID, h'.domainID.trans h.domainID,
    h'.acmeAccountID.trans h.acmeAccountID, h'.names.trans h.names, h.rank.trans h'.rank, fun hstatus => ?_⟩
  have hsecond : second.status ≠ .ordering := by
    intro hordering
    have hrank := h.rank
    rw [hordering] at hrank
    cases hfirst : first.status with
    | ordering => exact hstatus hfirst
    | staged | active | retired => simp [hfirst, TLSCertificateStatus.rank] at hrank
  exact (h'.nextRenewalAt hsecond).trans (h.nextRenewalAt hstatus)

theorem continues_setRetired (row : TLSCertificate) (now : Time) : row.Continues (row.setRetired now) := by
  refine ⟨rfl, rfl, rfl, rfl, rfl, ?_, fun _ => rfl⟩
  cases h : row.status <;> simp [setRetired, TLSCertificateStatus.rank]

theorem continues_setStaged (hstatus : row.status = .ordering) (params : StageTLSCertificateParams)
    (certificateURL : String) (now : Time) :
    row.Continues (row.setStaged params certificateURL now) :=
  ⟨rfl, rfl, rfl, rfl, rfl, by simp [hstatus, TLSCertificateStatus.rank], fun h => absurd hstatus h⟩

theorem continues_setActive (hstatus : row.status = .staged) (now : Time) : row.Continues (row.setActive now) :=
  ⟨rfl, rfl, rfl, rfl, rfl, by simp [hstatus, setActive, TLSCertificateStatus.rank], fun _ => rfl⟩

end TLSCertificate

variable {certificate : TLSCertificate} {p : TLSCertificate → Bool}

namespace DomainView

variable {v w u : DomainView}

/-- Every certificate of a domain is still there, further along its life. -/
def Extends (v w : DomainView) : Prop :=
  ∀ certificate ∈ v.certificates, ∃ later ∈ w.certificates, certificate.Continues later

theorem Extends.of_eq (h : w.certificates = v.certificates) : v.Extends w :=
  fun certificate hmem => ⟨certificate, h ▸ hmem, .refl certificate⟩

theorem Extends.trans (h : v.Extends w) (h' : w.Extends u) : v.Extends u := by
  intro certificate hmem
  obtain ⟨second, hsecond, hcontinues⟩ := h certificate hmem
  obtain ⟨third, hthird, hcontinues'⟩ := h' second hsecond
  exact ⟨third, hthird, hcontinues.trans hcontinues'⟩

/-- An update that carries each certificate it selects on keeps them all. -/
theorem continues_updateWhere (hf : ∀ row, p row = true → row.Continues (f row)) {rows : List TLSCertificate}
    (hmem : certificate ∈ rows) :
    ∃ later ∈ updateWhere p f rows, certificate.Continues later := by
  refine ⟨if p certificate then f certificate else certificate, mem_map_of_mem hmem, ?_⟩
  by_cases hp : p certificate = true
  · rw [if_pos hp]
    exact hf certificate hp
  · rw [if_neg hp]
    exact .refl certificate

theorem continues_retireAll (now : Time) (hmem : certificate ∈ v.certificates) :
    ∃ later ∈ v.retireAll now, certificate.Continues later :=
  continues_updateWhere (fun row _ => row.continues_setRetired now) hmem

theorem continues_retirePredecessor (certificateID : ID) (now : Time) (hmem : certificate ∈ v.certificates) :
    ∃ later ∈ v.retirePredecessor certificateID now, certificate.Continues later := by
  unfold retirePredecessor
  split
  · exact ⟨certificate, hmem, .refl certificate⟩
  · split
    · exact ⟨certificate, hmem, .refl certificate⟩
    · exact continues_updateWhere (fun row _ => row.continues_setRetired now) hmem

theorem extends_of_step (hstep : DomainStep v w) : v.Extends w := by
  cases hstep with
  | edit row => exact .of_eq rfl
  | intend _ now | remove now => exact fun certificate hmem => continues_retireAll now hmem
  | order params draft certificateID now =>
    exact fun certificate hmem => ⟨certificate, mem_append_left _ hmem, .refl certificate⟩
  | recordURL operationID url => exact .of_eq rfl
  | stage params certificateURL now =>
    intro certificate hmem
    refine continues_updateWhere (fun row hrow => ?_) hmem
    exact TLSCertificate.continues_setStaged (hasStatus_iff.mp hrow).2 _ _ _
  | activate certificate now =>
    intro other hmem
    obtain ⟨second, hsecond, hcontinues⟩ := continues_retirePredecessor certificate.id now hmem
    obtain ⟨third, hthird, hcontinues'⟩ := continues_updateWhere
      (p := hasStatus certificate.id .staged) (f := setActive now)
      (fun row hrow => TLSCertificate.continues_setActive (hasStatus_iff.mp hrow).2 now)
      hsecond
    exact ⟨third, hthird, hcontinues.trans hcontinues'⟩
  | fail order errorCode retryAt now => exact .of_eq rfl

end DomainView

/-! ### Consistency -/

/-- The names of a certificate can be read back, and once it is issued its validity is known. -/
structure TLSCertificate.Readable (row : TLSCertificate) : Prop where
  nonempty : row.names ≠ []
  sorted : row.names.Pairwise (· ≤ ·)
  columns : row.allowed = true
  issued : row.status ≠ .ordering →
    row.expiresAt.isSome ∧ row.nextRenewalAt.isSome

/-- The certificates and orders that belong to one domain. -/
structure Stock (accountID domainID : ID) (asciiName : String) (certificates : List TLSCertificate)
    (orders : List TLSCertificateOrder) : Prop where
  owner : ∀ certificate ∈ certificates, certificate.accountID = accountID ∧ certificate.domainID = domainID
  ids : (certificates.map TLSCertificate.id).Nodup
  readable : ∀ certificate ∈ certificates, certificate.Readable
  /-- Orders are placed for HTTP-01 only, so a certificate carries the base name and its alias. -/
  named : ∀ certificate ∈ certificates, certificate.names = (intentOf asciiName false).1
  orderOwner : ∀ order ∈ orders, order.accountID = accountID ∧ order.domainID = domainID
  orderCertificate : ∀ order ∈ orders, ∃ certificate ∈ certificates, certificate.id = order.certificateID

namespace Stock

variable {accountID domainID : ID} {asciiName : String} {certificates : List TLSCertificate}
  {orders : List TLSCertificateOrder}

/-- An update of the certificates that keeps what identifies them and leaves them readable. -/
theorem update (h : Stock accountID domainID asciiName certificates orders) (hid : ∀ row, (f row).id = row.id)
    (howner : ∀ row, (f row).accountID = row.accountID ∧ (f row).domainID = row.domainID)
    (hnames : ∀ row, (f row).names = row.names) (hread : ∀ row, p row = true → row.Readable → (f row).Readable) :
    Stock accountID domainID asciiName (updateWhere p f certificates) orders := by
  refine ⟨fun certificate hmem => ?_, ?_, fun certificate hmem => ?_, fun certificate hmem => ?_, h.orderOwner,
    fun order horder => ?_⟩
  · obtain ⟨old, hold, rfl⟩ := mem_map.mp hmem
    have hrow := h.owner old hold
    split
    · rw [(howner old).1, (howner old).2]
      exact hrow
    · exact hrow
  · rw [keys_updateWhere hid]
    exact h.ids
  · obtain ⟨old, hold, rfl⟩ := mem_map.mp hmem
    split
    next hp => exact hread old hp (h.readable old hold)
    next => exact h.readable old hold
  · obtain ⟨old, hold, rfl⟩ := mem_map.mp hmem
    have hnamed := h.named old hold
    split
    · rw [hnames]
      exact hnamed
    · exact hnamed
  · obtain ⟨certificate, hmem, heq⟩ := h.orderCertificate order horder
    refine ⟨_, mem_map_of_mem hmem, ?_⟩
    split
    · rw [hid, heq]
    · exact heq

theorem eq_of_id (h : Stock accountID domainID asciiName certificates orders) {first second : TLSCertificate}
    (hfirst : first ∈ certificates) (hsecond : second ∈ certificates) (hid : first.id = second.id) :
    first = second :=
  inj_on_of_nodup_map h.ids hfirst hsecond hid

end Stock

theorem TLSCertificate.Readable.setRetired (h : row.Readable) (hstatus : row.status = .active) (now : Time) :
    (row.setRetired now).Readable := by
  refine ⟨h.nonempty, h.sorted, ?_, fun _ => h.issued (by simp [hstatus])⟩
  have hcolumns := h.columns
  simp only [TLSCertificate.allowed, hstatus, decide_eq_true_eq] at hcolumns
  simp [TLSCertificate.allowed, TLSCertificate.setRetired, hcolumns.1, hcolumns.2.1, hcolumns.2.2.1]

theorem TLSCertificate.Readable.setStaged (h : row.Readable) (hstatus : row.status = .ordering)
    (params : StageTLSCertificateParams) (certificateURL : String) (now : Time) :
    (row.setStaged params certificateURL now).Readable := by
  refine ⟨h.nonempty, h.sorted, ?_, fun _ => ⟨rfl, rfl⟩⟩
  have hcolumns := h.columns
  simp only [TLSCertificate.allowed, hstatus, decide_eq_true_eq] at hcolumns
  simp [TLSCertificate.allowed, TLSCertificate.setStaged, hcolumns.2.2.1, hcolumns.2.2.2]

theorem TLSCertificate.Readable.setActive (h : row.Readable) (hstatus : row.status = .staged) (now : Time) :
    (row.setActive now).Readable := by
  refine ⟨h.nonempty, h.sorted, ?_, fun _ => h.issued (by simp [hstatus])⟩
  have hcolumns := h.columns
  simp only [TLSCertificate.allowed, hstatus, decide_eq_true_eq] at hcolumns
  simp [TLSCertificate.allowed, TLSCertificate.setActive, hcolumns.1, hcolumns.2.1, hcolumns.2.2.2]

namespace DomainView

variable {v w : DomainView}

/-- Names and challenge are those of the base name. -/
def Intended (v : DomainView) : Prop :=
  ∃ wildcard, v.tls.names = (intentOf v.row.asciiName wildcard).1 ∧
    v.tls.challengeType = v.tls.intendedChallenge (intentOf v.row.asciiName wildcard).2

structure Consistent (v : DomainView) : Prop where
  owner : v.tls.accountID = v.row.accountID ∧ v.tls.domainID = v.row.id
  stock : Stock v.row.accountID v.row.id v.row.asciiName v.certificates v.orders
  removed : v.row.status = .removed ↔ v.row.removedAt.isSome
  removedOff : v.row.removedAt.isSome → v.tls.enabled = false
  disabled : v.tls.issuanceStatus = .disabled ↔ v.tls.enabled = false
  /-- An active certificate is the one the TLS state refers to, and it carries the names. -/
  active : ∀ certificate ∈ v.certificates, certificate.status = .active →
    v.tls.activeCertificateRef = some certificate.id ∧ certificate.names = v.tls.names
  /-- What the TLS state refers to is an active certificate. -/
  attached : ∀ ref, v.tls.activeCertificateRef = some ref →
    v.tls.enabled = true ∧ ∃ certificate ∈ v.certificates, certificate.id = ref ∧ certificate.status = .active
  pending : v.tls.issuanceStatus = .pending → v.tls.activeCertificateRef = none
  serving : v.tls.issuanceStatus = .active → v.tls.activeCertificateRef ≠ none
  intent : v.Intended

/-- A new domain: nothing has been ordered for it. -/
structure Fresh (v : DomainView) : Prop where
  owner : v.tls.accountID = v.row.accountID ∧ v.tls.domainID = v.row.id
  certificates : v.certificates = []
  orders : v.orders = []
  live : v.row.removedAt = none
  status : v.row.status = .pending
  detached : v.tls.activeCertificateRef = none
  issuance : v.tls.issuanceStatus = if v.tls.enabled then .pending else .disabled
  intent : v.Intended

theorem Fresh.consistent (h : v.Fresh) : v.Consistent where
  owner := h.owner
  stock := by
    rw [h.certificates, h.orders]
    exact ⟨by simp, by simp, by simp, by simp, by simp, by simp⟩
  removed := by simp [h.status, h.live]
  removedOff := by simp [h.live]
  disabled := by
    rw [h.issuance]
    cases v.tls.enabled <;> simp
  active := by simp [h.certificates]
  attached := by simp [h.detached]
  pending := fun _ => h.detached
  serving := by
    rw [h.issuance]
    cases v.tls.enabled <;> simp
  intent := h.intent

/-! ### Every step keeps a view consistent -/

theorem Consistent.stock_retireAll (hv : v.Consistent) (now : Time) :
    Stock v.row.accountID v.row.id v.row.asciiName (v.retireAll now) v.orders :=
  hv.stock.update (fun _ => rfl) (fun _ => ⟨rfl, rfl⟩) (fun _ => rfl) fun _ hrow hread =>
    hread.setRetired (activeOf_iff.mp hrow).2.2 now

theorem Consistent.retireAll_inactive (hv : v.Consistent) (now : Time) :
    ∀ certificate ∈ v.retireAll now, certificate.status ≠ .active := by
  intro certificate hmem hactive
  obtain ⟨hold, hnot⟩ := mem_of_mem_updateWhere hmem hactive fun _ h => by cases h
  obtain ⟨haccount, hdomain⟩ := hv.stock.owner certificate hold
  exact hnot (activeOf_iff.mpr ⟨haccount, hdomain, hactive⟩)

theorem Consistent.stock_retirePredecessor (hv : v.Consistent) (certificateID : ID) (now : Time) :
    Stock v.row.accountID v.row.id v.row.asciiName (v.retirePredecessor certificateID now) v.orders := by
  unfold retirePredecessor
  split
  · exact hv.stock
  · split
    · exact hv.stock
    · refine hv.stock.update (fun _ => rfl) (fun _ => ⟨rfl, rfl⟩) (fun _ => rfl) fun row hrow hread => ?_
      exact hread.setRetired (activeOf_iff.mp (Bool.and_eq_true_iff.mp hrow).1).2.2 now

/-- A staged certificate is untouched when the predecessor retires. -/
theorem mem_retirePredecessor (hmem : certificate ∈ v.certificates) (hstaged : certificate.status = .staged)
    (certificateID : ID) (now : Time) :
    certificate ∈ v.retirePredecessor certificateID now := by
  unfold retirePredecessor
  split
  · exact hmem
  · split
    · exact hmem
    · refine mem_updateWhere_of_not hmem ?_
      simp [activeOf, hstaged]

/-- Next to a staged certificate, nothing is active once the predecessor has retired. -/
theorem Consistent.retirePredecessor_inactive (hv : v.Consistent) (hmem : certificate ∈ v.certificates)
    (hstaged : certificate.status = .staged) (now : Time) :
    ∀ other ∈ v.retirePredecessor certificate.id now, other.status ≠ .active := by
  intro other hother hactive
  cases href : v.tls.activeCertificateRef with
  | none =>
    simp only [retirePredecessor, href] at hother
    have := (hv.active other hother hactive).1
    rw [href] at this
    cases this
  | some predecessor =>
    by_cases hown : predecessor = certificate.id
    · obtain ⟨-, found, hfound, hid, hstatus⟩ := hv.attached predecessor href
      have heq := hv.stock.eq_of_id hfound hmem (hid.trans hown)
      rw [heq, hstaged] at hstatus
      cases hstatus
    · simp only [retirePredecessor, href, if_neg hown] at hother
      obtain ⟨hold, hnot⟩ := mem_of_mem_updateWhere hother hactive fun _ h => by cases h
      obtain ⟨haccount, hdomain⟩ := hv.stock.owner other hold
      have hpredecessor := (hv.active other hold hactive).1
      rw [href, some.injEq] at hpredecessor
      refine hnot (Bool.and_eq_true_iff.mpr ⟨?_, by simp [hpredecessor]⟩)
      exact activeOf_iff.mpr ⟨haccount, hdomain, hactive⟩

/-- A view whose row and TLS state were replaced, with no certificate active. -/
theorem Consistent.detach (hv : v.Consistent) {row : DomainRow} {tls : DomainTLSState} (now : Time)
    (hid : row.id = v.row.id) (haccount : row.accountID = v.row.accountID)
    (howner : tls.accountID = v.tls.accountID ∧ tls.domainID = v.tls.domainID)
    (hremoved : row.status = .removed ↔ row.removedAt.isSome) (hoff : row.removedAt.isSome → tls.enabled = false)
    (hname : row.asciiName = v.row.asciiName)
    (hissuance : tls.issuanceStatus = if tls.enabled then .pending else .disabled)
    (hdetached : tls.activeCertificateRef = none)
    (hintent : (DomainView.mk row tls (v.retireAll now) v.orders).Intended) :
    (DomainView.mk row tls (v.retireAll now) v.orders).Consistent where
  owner := by
    rw [howner.1, howner.2, hid, haccount]
    exact hv.owner
  stock := by
    rw [hid, haccount, hname]
    exact hv.stock_retireAll now
  removed := hremoved
  removedOff := hoff
  disabled := by
    show tls.issuanceStatus = _ ↔ tls.enabled = _
    rw [hissuance]
    cases tls.enabled <;> simp
  active := fun certificate hmem hactive => absurd hactive (hv.retireAll_inactive now certificate hmem)
  attached := by simp [hdetached]
  pending := fun _ => hdetached
  serving := by
    show tls.issuanceStatus = _ → _
    rw [hissuance]
    cases tls.enabled <;> simp
  intent := hintent

variable {now : Time}

theorem Consistent.activate (hv : v.Consistent) (hmem : certificate ∈ v.certificates)
    (hstaged : certificate.status = .staged) (hnames : v.tls.names = certificate.names)
    (henabled : v.tls.enabled = true) :
    (DomainView.mk v.row (v.tls.setActivated certificate now)
      (updateWhere (hasStatus certificate.id .staged) (setActive now)
        (v.retirePredecessor certificate.id now)) v.orders).Consistent := by
  have hstock := hv.stock_retirePredecessor certificate.id now
  have hkept := mem_retirePredecessor hmem hstaged certificate.id now
  refine
    { owner := hv.owner
      stock := hstock.update (fun _ => rfl) (fun _ => ⟨rfl, rfl⟩) (fun _ => rfl) fun row hrow hread =>
        hread.setActive (hasStatus_iff.mp hrow).2 now
      removed := hv.removed, removedOff := hv.removedOff, disabled := by simp [setActivated, henabled]
      active := fun other hother hactive => ?_
      attached := fun ref href => ?_
      pending := by simp [setActivated]
      serving := by simp [setActivated]
      intent := hv.intent }
  · obtain ⟨old, hold, rfl⟩ := mem_map.mp hother
    split at hactive
    next hselected =>
      rw [if_pos hselected]
      have hid := (hasStatus_iff.mp hselected).1
      have heq := hstock.eq_of_id hold hkept hid
      subst heq
      exact ⟨rfl, hnames.symm⟩
    next => exact absurd hactive (hv.retirePredecessor_inactive hmem hstaged now old hold)
  · cases href
    have hselected : certificate.hasStatus certificate.id .staged = true :=
      hasStatus_iff.mpr ⟨rfl, hstaged⟩
    exact ⟨henabled, _, mem_map_of_mem hkept, by rw [if_pos hselected]; exact ⟨rfl, rfl⟩⟩

theorem Intended.nonempty (h : v.Intended) : v.tls.names ≠ [] := by
  obtain ⟨wildcard, hnames, -⟩ := h
  rw [hnames]
  cases wildcard <;> simp [intentOf]

theorem Intended.names_of_http01 (h : v.Intended) (hmode : v.tls.mode = .acme)
    (hchallenge : v.tls.challengeType = .http01) : v.tls.names = (intentOf v.row.asciiName false).1 := by
  obtain ⟨wildcard, hnames, hintended⟩ := h
  cases wildcard with
  | false => exact hnames
  | true => simp [DomainTLSState.intendedChallenge, hmode, hchallenge, intentOf] at hintended

section

variable (hv : v.Consistent)

include hv

theorem Consistent.stock_order (howner : params.accountID = v.row.accountID ∧ params.domainID = v.row.id)
    (hmode : v.tls.mode = .acme) (hchallenge : v.tls.challengeType = .http01) (hnames : v.tls.names = draft.names)
    (hfresh : ∀ certificate ∈ v.certificates, certificate.id ≠ certificateID) :
    Stock v.row.accountID v.row.id v.row.asciiName (v.certificates ++ [orderedCertificate params draft certificateID now])
      (v.orders ++ [preparedOrder params certificateID now]) where
  owner := forall_mem_append.mpr ⟨hv.stock.owner, forall_mem_singleton.mpr howner⟩
  ids := by
    exact nodup_keys_append hv.stock.ids hfresh
  readable := by
    refine forall_mem_append.mpr ⟨hv.stock.readable, forall_mem_singleton.mpr ?_⟩
    exact ⟨fun h => hv.intent.nonempty (hnames.trans h), draft.sorted, rfl, fun h => absurd rfl h⟩
  named := by
    refine forall_mem_append.mpr ⟨hv.stock.named, forall_mem_singleton.mpr ?_⟩
    exact hnames.symm.trans (hv.intent.names_of_http01 hmode hchallenge)
  orderOwner := forall_mem_append.mpr ⟨hv.stock.orderOwner, forall_mem_singleton.mpr howner⟩
  orderCertificate := by
    intro order hmem
    rcases mem_append.mp hmem with hold | hnew
    · obtain ⟨certificate, hcertificate, hid⟩ := hv.stock.orderCertificate order hold
      exact ⟨certificate, mem_append_left _ hcertificate, hid⟩
    · rw [mem_singleton.mp hnew]
      exact ⟨_, mem_append_right _ (mem_singleton_self _), rfl⟩

/-- The new certificate is not active yet, so the view stays as consistent as it was. -/
theorem Consistent.order (howner : params.accountID = v.row.accountID ∧ params.domainID = v.row.id)
    (henabled : v.tls.enabled = true) (hmode : v.tls.mode = .acme) (hchallenge : v.tls.challengeType = .http01)
    (hnames : v.tls.names = draft.names) (hfresh : ∀ certificate ∈ v.certificates, certificate.id ≠ certificateID) :
    (DomainView.mk v.row (v.tls.setOrdered (preparedOrder params certificateID now).purpose.status now)
      (v.certificates ++ [orderedCertificate params draft certificateID now])
      (v.orders ++ [preparedOrder params certificateID now])).Consistent where
  owner := hv.owner
  stock := hv.stock_order howner hmode hchallenge hnames hfresh
  removed := hv.removed
  removedOff := hv.removedOff
  disabled := by
    cases (preparedOrder params certificateID now).purpose <;>
      simp [setOrdered, TLSCertificatePurpose.status, henabled]
  active := by
    intro certificate hmem hactive
    rcases mem_append.mp hmem with hold | hnew
    · exact hv.active certificate hold hactive
    · rw [mem_singleton.mp hnew] at hactive
      cases hactive
  attached := by
    intro ref href
    obtain ⟨henabled, certificate, hmem, hid, hactive⟩ := hv.attached ref href
    exact ⟨henabled, certificate, mem_append_left _ hmem, hid, hactive⟩
  pending := by
    cases (preparedOrder params certificateID now).purpose <;>
      simp [setOrdered, TLSCertificatePurpose.status]
  serving := by
    cases (preparedOrder params certificateID now).purpose <;>
      simp [setOrdered, TLSCertificatePurpose.status]
  intent := hv.intent

theorem Consistent.stage (params : StageTLSCertificateParams) (certificateURL : String) (now : Time) :
    (DomainView.mk v.row v.tls (updateWhere (hasStatus params.certificateID .ordering)
      (setStaged params certificateURL now) v.certificates) v.orders).Consistent where
  owner := hv.owner
  stock := hv.stock.update (fun _ => rfl) (fun _ => ⟨rfl, rfl⟩) (fun _ => rfl) fun row hrow hread =>
    hread.setStaged (hasStatus_iff.mp hrow).2 params certificateURL now
  removed := hv.removed
  removedOff := hv.removedOff
  disabled := hv.disabled
  active := fun certificate hmem hactive =>
    hv.active certificate (mem_of_mem_updateWhere hmem hactive (fun _ h => by cases h)).1 hactive
  attached := by
    intro ref href
    obtain ⟨henabled, certificate, hmem, hid, hactive⟩ := hv.attached ref href
    refine ⟨henabled, certificate, mem_updateWhere_of_not hmem ?_, hid, hactive⟩
    simp [hasStatus, hactive]
  pending := hv.pending
  serving := hv.serving
  intent := hv.intent

theorem Consistent.recordURL (operationID : ID) (url : String) :
    (DomainView.mk v.row v.tls v.certificates
      (updateWhere (fun row => decide (row.operationID = operationID ∧ row.orderURL = none))
        (fun row => { row with orderURL := some url }) v.orders)).Consistent where
  owner := hv.owner
  stock := by
    refine ⟨hv.stock.owner, hv.stock.ids, hv.stock.readable, hv.stock.named, fun order hmem => ?_, fun order hmem => ?_⟩
    · obtain ⟨old, hold, rfl⟩ := mem_map.mp hmem
      split <;> exact hv.stock.orderOwner old hold
    · obtain ⟨old, hold, rfl⟩ := mem_map.mp hmem
      split <;> exact hv.stock.orderCertificate old hold
  removed := hv.removed
  removedOff := hv.removedOff
  disabled := hv.disabled
  active := hv.active
  attached := hv.attached
  pending := hv.pending
  serving := hv.serving
  intent := hv.intent

theorem Consistent.fail (henabled : v.tls.enabled = true) (errorCode : String) (retryAt : Option Time) (now : Time) :
    { v with tls := v.tls.setFailed errorCode retryAt now : DomainView }.Consistent where
  owner := hv.owner
  stock := hv.stock
  removed := hv.removed
  removedOff := hv.removedOff
  disabled := by simp [DomainTLSState.setFailed, henabled]
  active := hv.active
  attached := hv.attached
  pending := by simp [DomainTLSState.setFailed]
  serving := by simp [DomainTLSState.setFailed]
  intent := hv.intent

theorem Consistent.edit {row : DomainRow} (hid : row.id = v.row.id) (haccount : row.accountID = v.row.accountID)
    (hname : row.asciiName = v.row.asciiName) (hkept : row.removedAt = none) (hstatus : row.status ≠ .removed) :
    { v with row := row : DomainView }.Consistent where
  owner := by simpa [hid, haccount] using hv.owner
  stock := by simpa [hid, haccount, hname] using hv.stock
  removed := by simp [hkept, hstatus]
  removedOff := by simp [hkept]
  disabled := hv.disabled
  active := hv.active
  attached := hv.attached
  pending := hv.pending
  serving := hv.serving
  intent := by simpa [Intended, hname] using hv.intent

theorem Consistent.step (hstep : DomainStep v w) : w.Consistent := by
  cases hstep with
  | edit row hlive hid haccount hname hkept hstatus => exact hv.edit hid haccount hname hkept hstatus
  | intend wildcard now hlive hchanged =>
    refine hv.detach now rfl rfl ⟨rfl, rfl⟩ hv.removed ?_ rfl rfl rfl ⟨wildcard, rfl, rfl⟩
    simp [hlive]
  | remove now hlive =>
    obtain ⟨wildcard, hnames, hchallenge⟩ := hv.intent
    refine hv.detach now rfl rfl ⟨rfl, rfl⟩ ?_ (fun _ => rfl) rfl rfl rfl ⟨wildcard, hnames, hchallenge⟩
    simp [DomainRow.setRemoved]
  | order params draft certificateID now howner hactive henabled hmode hchallenge hnames hrefusal hfresh =>
    exact hv.order howner henabled hmode hchallenge hnames hfresh
  | recordURL operationID url => exact hv.recordURL operationID url
  | stage params certificateURL now => exact hv.stage params certificateURL now
  | activate certificate now hmem hstaged hnames henabled => exact hv.activate hmem hstaged hnames henabled
  | fail order errorCode retryAt now hmem henabled => exact hv.fail henabled errorCode retryAt now

end

end DomainView

end Stackfort
