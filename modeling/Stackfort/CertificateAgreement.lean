import Stackfort.DomainRuns

/-! The certificates of a domain agree with its TLS state. Along every run the active certificate, the
reference to it, the names it carries and the life of the domain go together, and a certificate only
moves forward along its life. -/

namespace Stackfort

open Relation PanelStore

variable {services : NameServices} {db db' : PanelStore} {v : DomainView}

/-- The active certificates of a domain. -/
def PanelStore.activeCertificates (db : PanelStore) (domainID : ID) : Nat :=
  db.certificates.countP fun row => decide (row.domainID = domainID ∧ row.status = .active)

theorem DomainView.Consistent.not_removed (hv : v.Consistent) {ref : ID}
    (href : v.tls.activeCertificateRef = some ref) : v.row.removedAt = none ∧ v.row.status ≠ .removed := by
  have henabled := (hv.attached ref href).1
  have hlive : ¬v.row.removedAt.isSome := by
    intro hremoved
    rw [hv.removedOff hremoved] at henabled
    cases henabled
  exact ⟨by simpa using hlive, fun hstatus => hlive (hv.removed.mp hstatus)⟩

/-- The domain of a view has an active certificate exactly when its TLS state refers to one. -/
theorem activeCertificates_eq_one_iff (hdb : db.Sound) {domainID : ID} (hview : db.domainView domainID = some v) :
    db.activeCertificates domainID = 1 ↔ v.tls.activeCertificateRef.isSome := by
  have hv := hdb.consistent domainID v hview
  have hcertificates := (domainView_eq_some.mp hview).2.2.1
  have hactive : ∀ row ∈ db.certificates, row.domainID = domainID ∧ row.status = .active →
      v.tls.activeCertificateRef = some row.id := by
    intro row hmem hrow
    refine (hv.active row ?_ hrow.2).1
    rw [hcertificates, mem_owned]
    exact ⟨hmem, hrow.1⟩
  constructor
  · intro hone
    have hpos : 0 < db.activeCertificates domainID := by omega
    obtain ⟨row, hmem, hrow⟩ := List.countP_pos_iff.mp hpos
    rw [hactive row hmem (of_decide_eq_true hrow)]
    rfl
  · intro hsome
    obtain ⟨ref, href⟩ := Option.isSome_iff_exists.mp hsome
    obtain ⟨-, certificate, hmem, hid, hstatus⟩ := hv.attached ref href
    rw [hcertificates, mem_owned] at hmem
    have hfound := lookup_of_mem hdb.keyed.certificates hmem.1
    refine countP_of_lookup hdb.keyed.certificates hfound ?_ (decide_eq_true ⟨hmem.2, hstatus⟩)
    intro row hrow hselected
    have href' := hactive row hrow (of_decide_eq_true hselected)
    rw [href, some.injEq] at href'
    exact href'.symm.trans hid.symm

theorem DomainView.extends_of_steps {w : DomainView} (h : ReflTransGen DomainStep v w) : v.Extends w := by
  induction h with
  | refl => exact .of_eq rfl
  | tail _ hstep ih => exact ih.trans (extends_of_step hstep)

theorem PanelStore.Moves.continues (h : db.Moves db') (hdb : db.Sound) {certificateID : ID}
    {certificate : TLSCertificate} (hfound : db.findCertificate certificateID = some certificate) :
    ∃ later, db'.findCertificate certificateID = some later ∧ certificate.Continues later := by
  have hmem := mem_of_lookup hfound
  obtain ⟨row, hrow, hid⟩ := hdb.keyed.domainOfCertificate certificate hmem
  obtain ⟨v, hview, -⟩ := domainView_of_mem hdb.keyed hrow
  obtain ⟨w, hview', hsteps⟩ := h.advances.steps row.id v hview
  have howned : certificate ∈ v.certificates := by
    rw [(domainView_eq_some.mp hview).2.2.1, mem_owned]
    exact ⟨hmem, hid.symm⟩
  obtain ⟨later, hlater, hcontinues⟩ := DomainView.extends_of_steps hsteps certificate howned
  rw [(domainView_eq_some.mp hview').2.2.1, mem_owned] at hlater
  refine ⟨later, ?_, hcontinues⟩
  have hkey : later.id = certificateID := hcontinues.id.trans (key_of_lookup hfound)
  rw [← hkey]
  exact lookup_of_mem h.keyed.certificates hlater.1

/-- **Certificates and domains agree.** After any calls, every domain has a TLS state; it refers to a
certificate exactly when the domain has one active certificate, and an active certificate is the
one referred to, carries the names of the TLS state, and belongs to an enabled domain that is not
removed. Whatever calls follow, each certificate keeps its place or moves forward. -/
theorem certificates_agree (services : NameServices) (calls later : List PanelCall) :
    (∀ row ∈ (after services calls).domains, ∃ tls, (after services calls).findTLSState row.id = some tls ∧
      (tls.activeCertificateRef.isSome ↔ (after services calls).activeCertificates row.id = 1) ∧
      ∀ certificate ∈ (after services calls).certificates, certificate.domainID = row.id →
        certificate.status = .active →
          tls.activeCertificateRef = some certificate.id ∧ certificate.names = tls.names ∧
            tls.enabled = true ∧ row.removedAt = none ∧ row.status ≠ .removed) ∧
      ∀ certificateID certificate, (after services calls).findCertificate certificateID = some certificate →
        ∃ moved, ((after services calls).run services later).findCertificate certificateID = some moved ∧
          certificate.status.rank ≤ moved.status.rank := by
  have hdb := sound_after services calls
  refine ⟨fun row hmem => ?_, fun certificateID certificate hfound => ?_⟩
  · obtain ⟨v, hview, rfl⟩ := domainView_of_mem hdb.keyed hmem
    obtain ⟨-, htls, hcertificates, -⟩ := domainView_eq_some.mp hview
    have hv := hdb.consistent _ _ hview
    refine ⟨v.tls, htls, (activeCertificates_eq_one_iff hdb hview).symm, ?_⟩
    intro certificate hcertificate hdomain hactive
    have howned : certificate ∈ v.certificates := by
      rw [hcertificates, mem_owned]
      exact ⟨hcertificate, hdomain⟩
    obtain ⟨href, hnames⟩ := hv.active certificate howned hactive
    exact ⟨href, hnames, (hv.attached _ href).1, hv.not_removed href⟩
  · obtain ⟨moved, hmoved, hcontinues⟩ := (run_moves services later hdb).continues hdb hfound
    exact ⟨moved, hmoved, hcontinues.rank⟩

end Stackfort
