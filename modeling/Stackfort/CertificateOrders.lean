import Stackfort.CertificateAgreement
import Stackfort.DomainSettings

/-! When an order can be placed, and when its certificate can take over. An order needs a domain that is
read completely, an ACME account of the environment and an operation that has no order yet; then
everything depends on one comparison, of the stored names with the same names sorted. Along every
run orders keep what identifies them, certificates keep the account they were ordered under, and a
live domain with certificates has TLS enabled. -/

namespace Stackfort

open Relation PanelStore

/-! ### Orders along a run -/

/-- The later row is the same order; only its URL may have been recorded. -/
def TLSCertificateOrder.Continues (old new : TLSCertificateOrder) : Prop :=
  new = { old with orderURL := new.orderURL }

namespace TLSCertificateOrder

theorem Continues.trans {first second third : TLSCertificateOrder} (h : first.Continues second)
    (h' : second.Continues third) : first.Continues third := by
  unfold Continues at *
  rw [h', h]

end TLSCertificateOrder

namespace DomainView

variable {v w : DomainView} {order : TLSCertificateOrder}

theorem orders_of_step (hstep : DomainStep v w) (hmem : order ∈ v.orders) :
    ∃ later ∈ w.orders, order.Continues later := by
  cases hstep with
  | edit | intend | remove | stage | activate | fail => exact ⟨order, hmem, rfl⟩
  | order => exact ⟨order, List.mem_append_left _ hmem, rfl⟩
  | recordURL operationID url =>
    refine ⟨_, List.mem_map_of_mem hmem, ?_⟩
    split
    · rfl
    · rfl

theorem orders_of_steps (h : ReflTransGen DomainStep v w) (hmem : order ∈ v.orders) :
    ∃ later ∈ w.orders, order.Continues later := by
  induction h with
  | refl => exact ⟨order, hmem, rfl⟩
  | tail _ hstep ih =>
    obtain ⟨second, hsecond, hcontinues⟩ := ih
    obtain ⟨third, hthird, hcontinues'⟩ := orders_of_step hstep hsecond
    exact ⟨third, hthird, hcontinues.trans hcontinues'⟩

/-- Certificates are ordered with TLS enabled, and only a removal disables it. -/
def Wanted (v : DomainView) : Prop := v.certificates ≠ [] → v.row.removedAt = none → v.tls.enabled = true

theorem Wanted.step (hv : v.Wanted) (hstep : DomainStep v w) : w.Wanted := by
  cases hstep with
  | edit row hlive => exact fun hsome _ => hv hsome hlive
  | intend wildcard now hlive => exact fun hsome _ => hv (by simpa [retireAll, updateWhere] using hsome) hlive
  | remove now => exact fun _ hlive => by simp [DomainRow.setRemoved] at hlive
  | order params draft certificateID now howner hactive henabled => exact fun _ _ => henabled
  | recordURL => exact hv
  | stage => exact fun hsome hlive => hv (by simpa [updateWhere] using hsome) hlive
  | activate _ _ _ _ _ henabled | fail _ _ _ _ _ henabled => exact fun _ _ => henabled

end DomainView

section

variable {services : NameServices} {db db' : PanelStore} {now : Time}

theorem PanelStore.Moves.order (h : db.Moves db') (hdb : db.Sound) {operationID : ID}
    {order : TLSCertificateOrder} (hfound : db.findOrder operationID = some order) :
    ∃ later, db'.findOrder operationID = some later ∧ order.Continues later := by
  have hmem := mem_of_lookup hfound
  obtain ⟨row, hrow, hid⟩ := hdb.keyed.domainOfOrder order hmem
  obtain ⟨v, hview, -⟩ := domainView_of_mem hdb.keyed hrow
  obtain ⟨w, hview', hsteps⟩ := h.advances.steps row.id v hview
  have howned : order ∈ v.orders := by
    rw [(domainView_eq_some.mp hview).2.2.2, mem_owned]
    exact ⟨hmem, hid.symm⟩
  obtain ⟨later, hlater, hcontinues⟩ := DomainView.orders_of_steps hsteps howned
  rw [(domainView_eq_some.mp hview').2.2.2, mem_owned] at hlater
  refine ⟨later, ?_, hcontinues⟩
  have hown : order.operationID = operationID := key_of_lookup hfound
  have hkey : later.operationID = operationID := by
    rw [hcontinues]
    exact hown
  rw [← hkey]
  exact lookup_of_mem h.keyed.orders hlater.1

theorem PanelStore.wanted_after (services : NameServices) (calls : List PanelCall) {domainID : ID} {v : DomainView}
    (hview : (after services calls).domainView domainID = some v) : v.Wanted := by
  have hmoves := run_moves services calls sound_empty
  have hfresh : ∀ u : DomainView, u.Fresh → u.Wanted := fun u hu hsome => absurd hu.certificates hsome
  have hstep : ∀ u w : DomainView, u.Wanted → DomainStep u w → w.Wanted := fun u w hu hstep => hu.step hstep
  refine Views.Advances.invariant hfresh hstep hmoves.advances ?_ domainID v hview
  intro domainID u hnone
  cases hnone

/-! ### ACME accounts along a run -/

/-- There is one ACME account for an environment, and every certificate was ordered under one. -/
structure PanelStore.Accounted (db : PanelStore) : Prop where
  ids : (db.acmeAccounts.map ACMEAccount.id).Nodup
  environments : (db.acmeAccounts.map ACMEAccount.environment).Nodup
  issued : ∀ certificate ∈ db.certificates, ∃ account ∈ db.acmeAccounts, account.id = certificate.acmeAccountID

namespace PanelStore.Accounted

theorem of_eq (h : db.Accounted) (haccounts : db'.acmeAccounts = db.acmeAccounts)
    (hcertificates : db'.certificates = db.certificates) : db'.Accounted := by
  refine ⟨?_, ?_, ?_⟩
  · rw [haccounts]
    exact h.ids
  · rw [haccounts]
    exact h.environments
  · rw [haccounts, hcertificates]
    exact h.issued

/-- An update of certificates that keeps the account they were ordered under. -/
theorem update (h : db.Accounted) {p : TLSCertificate → Bool} {f : TLSCertificate → TLSCertificate}
    (hf : ∀ row, (f row).acmeAccountID = row.acmeAccountID) (haccounts : db'.acmeAccounts = db.acmeAccounts)
    (hcertificates : db'.certificates = updateWhere p f db.certificates) : db'.Accounted := by
  refine ⟨?_, ?_, ?_⟩
  · rw [haccounts]
    exact h.ids
  · rw [haccounts]
    exact h.environments
  · rw [haccounts, hcertificates, updateWhere, List.forall_mem_map]
    intro old hold
    obtain ⟨account, haccount, hid⟩ := h.issued old hold
    refine ⟨account, haccount, ?_⟩
    split
    · rw [hf, hid]
    · exact hid

theorem put (h : db.Accounted) (row : ACMEAccount) : (db.putACMEAccount row).Accounted := by
  unfold putACMEAccount
  split
  next =>
    refine ⟨?_, ?_, ?_⟩
    · rw [keys_updateWhere]
      · exact h.ids
      · exact fun _ => rfl
    · rw [keys_updateWhere]
      · exact h.environments
      · exact fun _ => rfl
    · intro certificate hmem
      obtain ⟨account, haccount, hid⟩ := h.issued certificate hmem
      refine ⟨_, List.mem_map_of_mem haccount, ?_⟩
      split
      · exact hid
      · exact hid
  next hid =>
    split
    next => exact h
    next henvironment =>
      refine ⟨nodup_keys_append h.ids (not_of_not_any hid),
        nodup_keys_append h.environments (not_of_not_any henvironment), ?_⟩
      intro certificate hmem
      obtain ⟨account, haccount, hid⟩ := h.issued certificate hmem
      exact ⟨account, List.mem_append_left _ haccount, hid⟩

end PanelStore.Accounted

theorem Ordered.accounted {params : PrepareTLSCertificateOrderParams} {draft : OrderDraft} {certificateID : ID}
    (h : Ordered db params draft certificateID now db') (hdb : db.Accounted) : db'.Accounted := by
  have haccounts : db'.acmeAccounts = db.acmeAccounts := by rw [h.rest]
  refine ⟨?_, ?_, ?_⟩
  · rw [haccounts]
    exact hdb.ids
  · rw [haccounts]
    exact hdb.environments
  · rw [haccounts, h.certificates]
    exact List.forall_mem_append.mpr ⟨hdb.issued, List.forall_mem_singleton.mpr h.acmeAccount⟩

theorem Edited.accounted {params : UpdateDomainParams} {checked : CheckedUpdate} {ids : DomainIDs}
    (h : Edited services db params checked ids now db') (hdb : db.Accounted) : db'.Accounted := by
  have haccounts : db'.acmeAccounts = db.acmeAccounts := by rw [h.rest]
  obtain ⟨domain, current, cache, db₁, type, -, -, -, -, hmaybe, -, -, -, -, -, -, hcertificates⟩ := h.read
  cases hmaybe with
  | kept => exact hdb.of_eq haccounts hcertificates
  | changed hsome hretargeted =>
    refine hdb.update (f := setRetired now) ?_ haccounts (hcertificates.trans hretargeted.certificates)
    exact fun _ => rfl

theorem Activated.accounted {params : ActivateTLSCertificateParams} {certificate : TLSCertificate}
    {tls : DomainTLSState} (h : Activated db params certificate tls now db') (hdb : db.Accounted) :
    db'.Accounted := by
  have haccounts : db'.acmeAccounts = db.acmeAccounts := by rw [h.rest]
  have hretired : { db with
      certificates := withoutPredecessor params tls.activeCertificateRef now db.certificates }.Accounted := by
    unfold withoutPredecessor
    split
    · exact hdb
    · split
      · exact hdb
      · exact hdb.update (f := setRetired now) (fun _ => rfl) rfl rfl
  exact hretired.update (f := setActive now) (fun _ => rfl) haccounts h.certificates

theorem Effect.accounted {call : PanelCall} (h : Effect services db call db') (hdb : db.Accounted) :
    db'.Accounted := by
  cases h with
  | unchanged => exact hdb
  | edited hchecked h => exact h.accounted hdb
  | removed h => exact hdb.update (f := setRetired _) (fun _ => rfl) (by rw [h.rest]) h.certificates
  | ordered h => exact h.accounted hdb
  | staged h => exact hdb.update (f := setStaged _ _ _) (fun _ => rfl) (by rw [h.rest]) h.certificates
  | activated h => exact h.accounted hdb
  | created _ h | suspended h | resumed h | exceptionAdded _ h | exceptionRemoved h | revisionCreated h
  | appliedRecorded h | confirmed h | urlRecorded h | failed h =>
    rw [h.rest]
    exact hdb.of_eq rfl rfl
  | acmeAccountPut row h =>
    rw [← h]
    exact hdb.put row
  | operation | issueQueued | workQueued | accountPut | applicationPut => exact hdb.of_eq rfl rfl

theorem PanelStore.accounted_after (services : NameServices) (calls : List PanelCall) :
    (after services calls).Accounted :=
  run_invariant Accounted Effect.accounted calls ⟨List.nodup_nil, List.nodup_nil, by simp [empty]⟩

end

end Stackfort
