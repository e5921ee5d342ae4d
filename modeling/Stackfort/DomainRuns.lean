import Stackfort.DomainEffects
import Stackfort.DomainMachine

/-! Every call on the panel's store advances every domain by steps of its machine. The view of a domain
gathers its rows from four tables whose keys are unique; a call updates these tables row by row,
or appends a new domain, or appends a certificate with its order. In each case the view of the one
domain concerned takes the steps of the machine and all other views stay, so that along every run
every view is consistent. -/

namespace Stackfort

open Relation PanelStore List

namespace PanelStore

variable {db db' : PanelStore} {domainID : ID} {v : DomainView}

def domainView (db : PanelStore) (domainID : ID) : Option DomainView :=
  match db.findDomain domainID, db.findTLSState domainID with
  | some row, some tls => some ⟨row, tls, Rows.owned TLSCertificate.domainID domainID db.certificates,
      Rows.owned TLSCertificateOrder.domainID domainID db.orders⟩
  | _, _ => none

/-- Keys are unique, each domain has its TLS state, and nothing belongs to a domain that is not there. -/
structure Keyed (db : PanelStore) : Prop where
  domains : (db.domains.map DomainRow.id).Nodup
  tlsStates : (db.tlsStates.map DomainTLSState.domainID).Nodup
  certificates : (db.certificates.map TLSCertificate.id).Nodup
  orders : (db.orders.map TLSCertificateOrder.operationID).Nodup
  tlsOf : ∀ row ∈ db.domains, ∃ tls ∈ db.tlsStates, tls.domainID = row.id
  domainOfTLS : ∀ tls ∈ db.tlsStates, ∃ row ∈ db.domains, row.id = tls.domainID
  domainOfCertificate : ∀ certificate ∈ db.certificates, ∃ row ∈ db.domains, row.id = certificate.domainID
  domainOfOrder : ∀ order ∈ db.orders, ∃ row ∈ db.domains, row.id = order.domainID

theorem domainView_eq_some :
    db.domainView domainID = some v ↔ db.findDomain domainID = some v.row ∧
      db.findTLSState domainID = some v.tls ∧
      v.certificates = Rows.owned TLSCertificate.domainID domainID db.certificates ∧
      v.orders = Rows.owned TLSCertificateOrder.domainID domainID db.orders := by
  unfold domainView
  constructor
  · intro h
    split at h
    next row tls hrow htls =>
      cases h
      exact ⟨hrow, htls, rfl, rfl⟩
    next => cases h
  · rintro ⟨hrow, htls, hcertificates, horders⟩
    rw [hrow, htls, ← hcertificates, ← horders]

theorem domainView_of_mem (hkeyed : db.Keyed) {row : DomainRow} (hmem : row ∈ db.domains) :
    ∃ v, db.domainView row.id = some v ∧ v.row = row := by
  obtain ⟨tls, htls, hid⟩ := hkeyed.tlsOf row hmem
  have hfound : db.findDomain row.id = some row := lookup_of_mem hkeyed.domains hmem
  have hstate : db.findTLSState row.id = some tls := by
    rw [← hid]
    exact lookup_of_mem hkeyed.tlsStates htls
  exact ⟨⟨row, tls, _, _⟩, domainView_eq_some.mpr ⟨hfound, hstate, rfl, rfl⟩, rfl⟩

theorem domainView_eq_none (hkeyed : db.Keyed) :
    db.domainView domainID = none ↔ ∀ row ∈ db.domains, row.id ≠ domainID := by
  constructor
  · intro hnone row hmem hid
    obtain ⟨v, hview, -⟩ := domainView_of_mem hkeyed hmem
    rw [hid, hnone] at hview
    cases hview
  · intro hfresh
    have hmissing : db.findDomain domainID = none := lookup_eq_none.mpr hfresh
    unfold domainView
    rw [hmissing]

theorem row_id_of_domainView (hview : db.domainView domainID = some v) : v.row.id = domainID :=
  key_of_lookup (domainView_eq_some.mp hview).1

end PanelStore

/-! ### Updates row by row -/

/-- A change of each row of the four tables that keeps the keys. -/
structure ViewUpdate where
  row : DomainRow → DomainRow := id
  tls : DomainTLSState → DomainTLSState := id
  certificate : TLSCertificate → TLSCertificate := id
  order : TLSCertificateOrder → TLSCertificateOrder := id
  row_id : ∀ value, (row value).id = value.id := by intro value; rfl
  tls_id : ∀ value, (tls value).domainID = value.domainID := by intro value; rfl
  certificate_id : ∀ value, (certificate value).id = value.id ∧
    (certificate value).domainID = value.domainID := by intro value; exact ⟨rfl, rfl⟩
  order_id : ∀ value, (order value).operationID = value.operationID ∧
    (order value).domainID = value.domainID := by intro value; exact ⟨rfl, rfl⟩

namespace ViewUpdate

variable {db db' : PanelStore} {update : ViewUpdate}

def apply (update : ViewUpdate) (v : DomainView) : DomainView :=
  ⟨update.row v.row, update.tls v.tls, v.certificates.map update.certificate, v.orders.map update.order⟩

/-- The tables of the later store are those of the earlier one, updated. -/
structure Relates (update : ViewUpdate) (db db' : PanelStore) : Prop where
  domains : db'.domains = db.domains.map update.row
  tlsStates : db'.tlsStates = db.tlsStates.map update.tls
  certificates : db'.certificates = db.certificates.map update.certificate
  orders : db'.orders = db.orders.map update.order

theorem Relates.domainView (h : update.Relates db db') (domainID : ID) :
    db'.domainView domainID = (db.domainView domainID).map update.apply := by
  have hrow : db'.findDomain domainID = (db.findDomain domainID).map update.row := by
    rw [findDomain, h.domains]
    exact Rows.lookup_map update.row_id domainID db.domains
  have htls : db'.findTLSState domainID = (db.findTLSState domainID).map update.tls := by
    rw [findTLSState, h.tlsStates]
    exact Rows.lookup_map update.tls_id domainID db.tlsStates
  have hcertificates := Rows.owned_map (fun value => (update.certificate_id value).2) domainID db.certificates
  have horders := Rows.owned_map (fun value => (update.order_id value).2) domainID db.orders
  rw [← h.certificates] at hcertificates
  rw [← h.orders] at horders
  unfold PanelStore.domainView
  rw [hrow, htls, hcertificates, horders]
  cases db.findDomain domainID with
  | none => rfl
  | some row => cases db.findTLSState domainID <;> rfl

theorem Relates.keyed (h : update.Relates db db') (hkeyed : db.Keyed) : db'.Keyed := by
  refine ⟨?_, ?_, ?_, ?_, ?_, ?_, ?_, ?_⟩
  · rw [h.domains, keys_map update.row_id]
    exact hkeyed.domains
  · rw [h.tlsStates, keys_map update.tls_id]
    exact hkeyed.tlsStates
  · rw [h.certificates, keys_map fun row => (update.certificate_id row).1]
    exact hkeyed.certificates
  · rw [h.orders, keys_map fun order => (update.order_id order).1]
    exact hkeyed.orders
  · rw [h.domains, h.tlsStates]
    exact refers_map hkeyed.tlsOf update.tls_id update.row_id
  · rw [h.domains, h.tlsStates]
    exact refers_map hkeyed.domainOfTLS update.row_id update.tls_id
  · rw [h.domains, h.certificates]
    exact refers_map hkeyed.domainOfCertificate update.row_id fun row => (update.certificate_id row).2
  · rw [h.domains, h.orders]
    exact refers_map hkeyed.domainOfOrder update.row_id fun order => (update.order_id order).2

end ViewUpdate

namespace PanelStore

variable {db db' : PanelStore}

/-- Keys are in order and every view is consistent. -/
structure Sound (db : PanelStore) : Prop where
  keyed : db.Keyed
  consistent : ∀ domainID v, db.domainView domainID = some v → v.Consistent

/-- Every domain takes steps of its machine. -/
def Advances (db db' : PanelStore) : Prop :=
  Views.Advances domainView DomainStep DomainView.Fresh db db'

/-- A sound store to which a sound store has advanced. -/
structure Moves (db db' : PanelStore) : Prop where
  keyed : db'.Keyed
  advances : db.Advances db'

theorem Moves.sound (h : db.Moves db') (hdb : db.Sound) : db'.Sound :=
  ⟨h.keyed, Views.Advances.invariant (fun _ hfresh => hfresh.consistent) (fun _ _ hv hstep => hv.step hstep)
    h.advances hdb.consistent⟩

theorem Moves.refl (hdb : db.Sound) : db.Moves db := ⟨hdb.keyed, .of_eq fun _ => rfl⟩

theorem Moves.trans {db'' : PanelStore} (h : db.Moves db') (h' : db'.Moves db'') : db.Moves db'' :=
  ⟨h'.keyed, h.advances.trans h'.advances⟩

end PanelStore

theorem ViewUpdate.Relates.moves {update : ViewUpdate} {db db' : PanelStore} (h : update.Relates db db')
    (hdb : db.Sound) (hsteps : ∀ domainID v, db.domainView domainID = some v → v.Consistent →
      ReflTransGen DomainStep v (update.apply v)) : db.Moves db' :=
  ⟨h.keyed hdb.keyed, .of_map h.domainView fun domainID v hview =>
    hsteps domainID v hview (hdb.consistent domainID v hview)⟩

/-! ### Which rows a call selects -/

namespace DomainView

variable {v : DomainView} {accountID domainID : ID}

/-- The domain of the view is the one named by an account and an identifier. -/
def Named (v : DomainView) (accountID domainID : ID) : Prop := v.row.accountID = accountID ∧ v.row.id = domainID

instance : Decidable (v.Named accountID domainID) := inferInstanceAs (Decidable (_ ∧ _))

theorem Consistent.ofDomain_iff (hv : v.Consistent) :
    v.tls.ofDomain accountID domainID = true ↔ v.Named accountID domainID := by
  rw [DomainTLSState.ofDomain_iff, hv.owner.1, hv.owner.2]
  rfl

theorem Consistent.activeOf_iff (hv : v.Consistent) {certificate : TLSCertificate}
    (hmem : certificate ∈ v.certificates) :
    certificate.activeOf accountID domainID = true ↔ v.Named accountID domainID ∧ certificate.status = .active := by
  rw [TLSCertificate.activeOf_iff, (hv.stock.owner certificate hmem).1, (hv.stock.owner certificate hmem).2,
    Named, and_assoc]

/-- What selects active certificates of another domain changes none of this one. -/
theorem Consistent.map_of_not_named (hv : v.Consistent) (hnot : ¬v.Named accountID domainID)
    {p : TLSCertificate → Bool} (hp : ∀ row, p row = true → row.activeOf accountID domainID = true)
    (f : TLSCertificate → TLSCertificate) : updateWhere p f v.certificates = v.certificates := by
  apply updateWhere_of_forall_not
  intro certificate hmem
  by_contra hselected
  exact hnot ((hv.activeOf_iff hmem).mp (hp certificate (by simpa using hselected))).1

end DomainView

/-! ### Calls that change domains row by row -/

variable {services : NameServices} {db db' : PanelStore} {ids : DomainIDs} {now : Time}
  {params : PrepareTLSCertificateOrderParams} {f : DomainRow → DomainRow} {checked : CheckedCreation}
  {status : DomainStatus} {draft : OrderDraft} {certificateID : ID} {url : String} {v : DomainView}
  {domainID accountID : ID}

theorem mem_domains_of_domainView {domainID : ID} (hview : db.domainView domainID = some v) :
    v.row ∈ db.domains :=
  mem_of_lookup (domainView_eq_some.mp hview).1

/-- The change of a row keeps what identifies the domain, and does not remove it. -/
structure DomainRow.Edits (f : DomainRow → DomainRow) : Prop where
  id : ∀ row, (f row).id = row.id
  accountID : ∀ row, (f row).accountID = row.accountID
  asciiName : ∀ row, (f row).asciiName = row.asciiName
  removedAt : ∀ row, (f row).removedAt = row.removedAt
  status : ∀ row, (f row).status ≠ .removed

theorem DomainRow.edits_setStatus (hstatus : status ≠ .removed) :
    DomainRow.Edits (setStatus status now) :=
  ⟨fun _ => rfl, fun _ => rfl, fun _ => rfl, fun _ => rfl, fun _ => hstatus⟩

theorem DomainRow.edits_setEdited (canonicalMode : Option CanonicalMode) (now : Time) :
    DomainRow.Edits (DomainRow.setEdited canonicalMode now) := by
  refine ⟨fun _ => rfl, fun _ => rfl, fun _ => rfl, fun _ => rfl, fun row => ?_⟩
  unfold DomainRow.setEdited
  split <;> simp

theorem DomainRow.Edits.step (hf : DomainRow.Edits f) (hlive : v.row.removedAt = none) :
    DomainStep v { v with row := f v.row } :=
  .edit _ hlive (hf.id _) (hf.accountID _) (hf.asciiName _) ((hf.removedAt _).trans hlive) (hf.status _)

theorem moves_of_edits {p : DomainRow → Bool} (hf : DomainRow.Edits f)
    (hlive : ∀ row ∈ db.domains, p row = true → row.removedAt = none)
    (hdomains : db'.domains = updateWhere p f db.domains) (htls : db'.tlsStates = db.tlsStates)
    (hcertificates : db'.certificates = db.certificates) (horders : db'.orders = db.orders) (hdb : db.Sound) :
    db.Moves db' := by
  let update : ViewUpdate :=
    { row := fun row => if p row then f row else row
      row_id := fun row => by split <;> simp [hf.id] }
  have hrelates : update.Relates db db' := by
    rw [← map_id db.tlsStates] at htls
    rw [← map_id db.certificates] at hcertificates
    rw [← map_id db.orders] at horders
    exact ⟨hdomains, htls, hcertificates, horders⟩
  apply hrelates.moves hdb
  intro domainID v hview hv
  have happly : update.apply v = { v with row := update.row v.row } := by
    simp [ViewUpdate.apply, update]
  rw [happly]
  by_cases hselected : p v.row = true
  · have hrow : update.row v.row = f v.row := if_pos hselected
    rw [hrow]
    exact .single (hf.step (hlive v.row (mem_domains_of_domainView hview) hselected))
  · have hrow : update.row v.row = v.row := if_neg hselected
    rw [hrow]

theorem moves_of_eq (hdomains : db'.domains = db.domains) (htls : db'.tlsStates = db.tlsStates)
    (hcertificates : db'.certificates = db.certificates) (horders : db'.orders = db.orders) (hdb : db.Sound) :
    db.Moves db' := by
  have hf : DomainRow.Edits (setStatus .pending 0) := DomainRow.edits_setStatus (by decide)
  rw [← map_id db.domains] at hdomains
  exact moves_of_edits (p := fun _ => false) hf (by simp) hdomains htls hcertificates horders hdb

theorem StatusChanged.moves {params : ChangeDomainStatusParams} {allowed : List DomainStatus}
    (h : StatusChanged db params status allowed now db') (hstatus : status ≠ .removed) (hdb : db.Sound) :
    db.Moves db' := by
  apply moves_of_edits (DomainRow.edits_setStatus hstatus) h.live h.domains ?_ ?_ ?_ hdb
  all_goals rw [h.rest]

theorem Confirmed.moves {params : ConfirmDomainActivationParams} (h : Confirmed db params now db') (hdb : db.Sound) :
    db.Moves db' := by
  apply moves_of_edits (DomainRow.edits_setStatus (by decide)) h.live h.domains ?_ ?_ ?_ hdb
  all_goals rw [h.rest]

theorem Removed.moves {params : ChangeDomainStatusParams} (h : Removed db params now db') (hdb : db.Sound) :
    db.Moves db' := by
  let selects := fun row : DomainRow =>
    row.ofAccount params.accountID params.domainID && decide (row.removedAt = none)
  let update : ViewUpdate :=
    { row := fun row => if selects row then row.setRemoved now else row
      tls := fun tls => if tls.ofDomain params.accountID params.domainID then tls.setRemoved now else tls
      certificate := fun row =>
        if row.activeOf params.accountID params.domainID then row.setRetired now else row
      row_id := fun row => by split <;> rfl
      tls_id := fun tls => by split <;> rfl
      certificate_id := fun row => by split <;> exact ⟨rfl, rfl⟩ }
  have hrelates : update.Relates db db' :=
    ⟨h.domains, h.tlsStates, h.certificates,
      by rw [h.rest]; exact (map_id db.orders).symm⟩
  apply hrelates.moves hdb
  intro domainID v hview hv
  by_cases hnamed : v.Named params.accountID params.domainID
  · -- The statement has found one live row of that name, which is the one of this view.
    have hlive : v.row.removedAt = none := by
      obtain ⟨row, hmem, hrow⟩ := List.countP_pos_iff.mp (by rw [h.affected]; exact Nat.one_pos)
      simp only [and_eq_true, ofAccount_iff, decide_eq_true_eq] at hrow
      have hsame : row = v.row := inj_on_of_nodup_map hdb.keyed.domains hmem
        (mem_domains_of_domainView hview) (hrow.1.2.trans hnamed.2.symm)
      rw [← hsame]
      exact hrow.2
    have hselected : selects v.row = true := by
      simp only [selects, and_eq_true, ofAccount_iff, decide_eq_true_eq]
      exact ⟨hnamed, hlive⟩
    have happly : update.apply v =
        { v with row := v.row.setRemoved now, tls := v.tls.setRemoved now, certificates := v.retireAll now } := by
      simp only [ViewUpdate.apply, update, if_pos hselected, if_pos (hv.ofDomain_iff.mpr hnamed), map_id]
      simp only [DomainView.retireAll, updateWhere, hnamed.1, hnamed.2]
    rw [happly]
    exact .single (.remove now hlive)
  · have hnot : ¬selects v.row = true := by
      simp only [selects, and_eq_true, ofAccount_iff]
      exact fun hselected => hnamed hselected.1
    have happly : update.apply v = v := by
      have hcertificates := hv.map_of_not_named hnamed (fun _ hp => hp) (setRetired now)
      simp only [updateWhere] at hcertificates
      simp only [ViewUpdate.apply, update, if_neg hnot, if_neg (mt hv.ofDomain_iff.mp hnamed), map_id, hcertificates]
    rw [happly]

theorem row_eq_of_find? (hdb : db.Sound) {row : DomainRow}
    (hview : db.domainView domainID = some v) (hfound : db.domains.find? (ofAccount accountID domainID) = some row) :
    row = v.row ∧ v.Named accountID domainID := by
  have hnamed := ofAccount_iff.mp (find?_some hfound)
  have hid := row_id_of_domainView hview
  have hsame : row = v.row := inj_on_of_nodup_map hdb.keyed.domains (mem_of_find?_eq_some hfound)
    (mem_domains_of_domainView hview) (hnamed.2.trans hid.symm)
  exact ⟨hsame, hsame ▸ hnamed.1, hid⟩

variable {tls : DomainTLSState}

theorem tls_eq_of_ofDomain (hdb : db.Sound)
    (hview : db.domainView domainID = some v) (hmem : tls ∈ db.tlsStates)
    (htls : tls.ofDomain accountID domainID = true) : tls = v.tls := by
  have hfound := (domainView_eq_some.mp hview).2.1
  refine inj_on_of_nodup_map hdb.keyed.tlsStates hmem (mem_of_lookup hfound) ?_
  rw [(ofDomain_iff.mp htls).2]
  exact (key_of_lookup hfound).symm

theorem stale_iff (hdb : db.Sound)
    (intent : List String × TLSChallengeType) (hview : db.domainView domainID = some v)
    (hnamed : v.Named accountID domainID) :
    db.stale accountID domainID intent = true ↔ v.tls.differsFrom intent = true := by
  have hv := hdb.consistent domainID v hview
  unfold stale
  rw [any_eq_true]
  constructor
  · rintro ⟨tls, hmem, hselected⟩
    obtain ⟨htls, hdiffers⟩ := Bool.and_eq_true_iff.mp hselected
    rw [← tls_eq_of_ofDomain hdb hview hmem htls]
    exact hdiffers
  · intro hdiffers
    refine ⟨v.tls, mem_of_lookup (domainView_eq_some.mp hview).2.1, ?_⟩
    exact Bool.and_eq_true_iff.mpr ⟨hv.ofDomain_iff.mpr hnamed, hdiffers⟩

theorem Edited.moves {params : UpdateDomainParams} {checked : CheckedUpdate}
    (h : Edited services db params checked ids now db') (hdb : db.Sound) : db.Moves db' := by
  have hf := DomainRow.edits_setEdited checked.canonicalMode now
  have horders : db'.orders = db.orders := by rw [h.rest]
  obtain ⟨domain, current, cache, db₁, type, hdomain, -, -, -, hmaybe, -, -, -, -, -, htls, hcertificates⟩ := h.read
  cases hmaybe with
  | kept => exact moves_of_edits hf h.live h.domains htls hcertificates horders hdb
  | @changed spec target _ hsome hretargeted =>
    rw [hretargeted.tlsStates] at htls
    rw [hretargeted.certificates] at hcertificates
    generalize hintent : tlsIntent ⟨domain.displayName, domain.asciiName⟩ target = intent at htls hcertificates
    let update : ViewUpdate :=
      { row := fun row => if row.ofAccount params.accountID params.domainID then
          row.setEdited checked.canonicalMode now else row
        tls := fun tls => if tls.ofDomain params.accountID params.domainID && tls.differsFrom intent then
          tls.setIntent intent now else tls
        certificate := fun row => if row.activeOf params.accountID params.domainID &&
          db.stale params.accountID params.domainID intent then row.setRetired now else row
        row_id := fun row => by split <;> rfl
        tls_id := fun tls => by split <;> rfl
        certificate_id := fun row => by split <;> exact ⟨rfl, rfl⟩ }
    have hrelates : update.Relates db db' :=
      ⟨h.domains, htls, hcertificates, horders.trans (map_id db.orders).symm⟩
    apply hrelates.moves hdb
    intro domainID v hview hv
    by_cases hnamed : v.Named params.accountID params.domainID
    · obtain rfl : domainID = params.domainID := (row_id_of_domainView hview).symm.trans hnamed.2
      obtain ⟨rfl, -⟩ := row_eq_of_find? hdb hview hdomain
      rw [tlsIntent_eq] at hintent
      have hrow := h.live v.row (mem_domains_of_domainView hview) (ofAccount_iff.mpr hnamed)
      have hedited : update.row v.row = v.row.setEdited checked.canonicalMode now :=
        if_pos (ofAccount_iff.mpr hnamed)
      have hstale := stale_iff hdb intent hview hnamed
      by_cases hdiffers : v.tls.differsFrom intent = true
      · -- The new target changes the intent first, then the row is edited.
        have happly : update.apply v =
            { v with
              row := v.row.setEdited checked.canonicalMode now, tls := v.tls.setIntent intent now
              certificates := v.retireAll now } := by
          simp only [ViewUpdate.apply, hedited]
          simp only [update, hv.ofDomain_iff.mpr hnamed, hdiffers, hstale.mpr hdiffers, Bool.and_true,
            if_true, map_id]
          simp only [DomainView.retireAll, updateWhere, hnamed.1, hnamed.2]
        rw [happly]
        subst hintent
        exact .head (.intend target.hasWildcard now hrow hdiffers) (.single (hf.step hrow))
      · have hfresh : db.stale params.accountID params.domainID intent = false :=
          Bool.eq_false_iff.mpr (mt hstale.mp hdiffers)
        have happly : update.apply v = { v with row := v.row.setEdited checked.canonicalMode now } := by
          simp only [ViewUpdate.apply, hedited]
          simp [update, hdiffers, hfresh]
        rw [happly]
        exact .single (hf.step hrow)
    · have happly : update.apply v = v := by
        have hkept := hv.map_of_not_named hnamed (p := fun row =>
          row.activeOf params.accountID params.domainID && db.stale params.accountID params.domainID intent)
          (fun _ hp => (Bool.and_eq_true_iff.mp hp).1) (setRetired now)
        have hrow : ¬v.row.ofAccount params.accountID params.domainID = true :=
          mt ofAccount_iff.mp hnamed
        have hstate : ¬(v.tls.ofDomain params.accountID params.domainID && v.tls.differsFrom intent) = true :=
          fun hp => hnamed (hv.ofDomain_iff.mp (Bool.and_eq_true_iff.mp hp).1)
        simp only [updateWhere] at hkept
        simp only [ViewUpdate.apply, update, if_neg hrow, if_neg hstate, hkept, map_id]
      rw [happly]

/-! ### A new domain -/

theorem PanelStore.Keyed.owned_eq_nil (hkeyed : db.Keyed) {domainID : ID}
    (hfresh : ∀ row ∈ db.domains, row.id ≠ domainID) :
    Rows.owned TLSCertificate.domainID domainID db.certificates = [] ∧
      Rows.owned TLSCertificateOrder.domainID domainID db.orders = [] := by
  refine ⟨List.eq_nil_iff_forall_not_mem.mpr fun certificate hmem => ?_,
    List.eq_nil_iff_forall_not_mem.mpr fun order hmem => ?_⟩
  · obtain ⟨hmem, hdomain⟩ := mem_owned.mp hmem
    obtain ⟨row, hrow, hid⟩ := hkeyed.domainOfCertificate certificate hmem
    exact hfresh row hrow (hid.trans hdomain)
  · obtain ⟨hmem, hdomain⟩ := mem_owned.mp hmem
    obtain ⟨row, hrow, hid⟩ := hkeyed.domainOfOrder order hmem
    exact hfresh row hrow (hid.trans hdomain)

theorem Created.keyed {params : CreateDomainParams} (h : Created db params checked ids now db') (hkeyed : db.Keyed) :
    db'.Keyed := by
  have hcertificates : db'.certificates = db.certificates := by rw [h.rest]
  have horders : db'.orders = db.orders := by rw [h.rest]
  have hkept : ∀ {id : ID}, (∃ row ∈ db.domains, row.id = id) → ∃ row ∈ db'.domains, row.id = id := by
    rintro id ⟨row, hmem, hid⟩
    rw [h.domains]
    exact ⟨row, mem_append_left _ hmem, hid⟩
  refine ⟨?_, ?_, ?_, ?_, ?_, ?_, ?_, ?_⟩
  · rw [h.domains]
    exact nodup_keys_append hkeyed.domains h.freshID
  · rw [h.tlsStates]
    exact nodup_keys_append hkeyed.tlsStates h.freshTLS
  · rw [hcertificates]
    exact hkeyed.certificates
  · rw [horders]
    exact hkeyed.orders
  · rw [h.domains, h.tlsStates]
    exact refers_append hkeyed.tlsOf rfl
  · rw [h.tlsStates, h.domains]
    exact refers_append hkeyed.domainOfTLS rfl
  · rw [hcertificates]
    exact fun certificate hmem => hkept (hkeyed.domainOfCertificate certificate hmem)
  · rw [horders]
    exact fun order hmem => hkept (hkeyed.domainOfOrder order hmem)

theorem CheckedCreation.fresh (params : CreateDomainParams) (checked : CheckedCreation) :
    (DomainView.mk (checked.row params now) (checked.tls params now) [] []).Fresh where
  owner := ⟨rfl, rfl⟩
  certificates := rfl
  orders := rfl
  live := rfl
  status := rfl
  detached := rfl
  issuance := by
    cases h : params.disableTLS <;> simp [CheckedCreation.tls, initialTLSState, h]
  intent := by
    refine ⟨checked.target.hasWildcard, ?_, ?_⟩
    · simp only [CheckedCreation.tls, initialTLSState, CheckedCreation.row, tlsIntent_eq]
    · simp only [CheckedCreation.tls, initialTLSState, CheckedCreation.row, tlsIntent_eq,
        DomainTLSState.intendedChallenge]

theorem Created.moves {params : CreateDomainParams} (h : Created db params checked ids now db') (hdb : db.Sound) :
    db.Moves db' := by
  refine ⟨h.keyed hdb.keyed, ?_⟩
  have hcertificates : db'.certificates = db.certificates := by rw [h.rest]
  have horders : db'.orders = db.orders := by rw [h.rest]
  obtain ⟨hnoCertificates, hnoOrders⟩ := hdb.keyed.owned_eq_nil h.freshID
  apply Views.Advances.of_fresh (k := checked.domainID)
    (w := ⟨checked.row params now, checked.tls params now, [], []⟩)
  · exact (domainView_eq_none hdb.keyed).mpr h.freshID
  · refine domainView_eq_some.mpr ⟨?_, ?_, ?_, ?_⟩
    · rw [findDomain, h.domains, lookup_append, lookup_eq_none.mpr h.freshID]
      simp [CheckedCreation.row]
    · rw [findTLSState, h.tlsStates, lookup_append, lookup_eq_none.mpr h.freshTLS]
      simp [CheckedCreation.tls, initialTLSState]
    · rw [hcertificates, hnoCertificates]
    · rw [horders, hnoOrders]
  · intro domainID hne
    have hrow : db'.findDomain domainID = db.findDomain domainID := by
      rw [findDomain, h.domains, lookup_append, if_neg (by simpa [CheckedCreation.row] using hne.symm),
        Option.or_none]
      rfl
    have htls : db'.findTLSState domainID = db.findTLSState domainID := by
      rw [findTLSState, h.tlsStates, lookup_append,
        if_neg (by simpa [CheckedCreation.tls, initialTLSState] using hne.symm), Option.or_none]
      rfl
    rw [domainView, hrow, htls, hcertificates, horders]
    rfl
  · exact checked.fresh params

/-! ### Orders and certificates -/

theorem DomainTLSState.setOrdered_domainID (status : TLSIssuanceStatus) (tls : DomainTLSState) :
    (tls.setOrdered status now).domainID = tls.domainID := rfl

theorem Ordered.keyed (h : Ordered db params draft certificateID now db') (hkeyed : db.Keyed) : db'.Keyed := by
  have hdomains : db'.domains = db.domains := by rw [h.rest]
  have hdomain : ∃ row ∈ db.domains, row.id = params.domainID :=
    h.domain.imp fun row hrow => ⟨hrow.1, hrow.2.1⟩
  refine ⟨?_, ?_, ?_, ?_, ?_, ?_, ?_, ?_⟩
  · rw [hdomains]
    exact hkeyed.domains
  · rw [h.tlsStates, keys_updateWhere (DomainTLSState.setOrdered_domainID _)]
    exact hkeyed.tlsStates
  · rw [h.certificates]
    exact nodup_keys_append hkeyed.certificates h.freshCertificate
  · rw [h.orders]
    exact nodup_keys_append hkeyed.orders h.freshOperation
  · rw [hdomains, h.tlsStates]
    intro row hmem
    obtain ⟨tls, htls, hid⟩ := hkeyed.tlsOf row hmem
    refine ⟨_, mem_map_of_mem htls, ?_⟩
    split <;> exact hid
  · rw [hdomains, h.tlsStates, updateWhere, forall_mem_map]
    intro tls hmem
    obtain ⟨row, hrow, hid⟩ := hkeyed.domainOfTLS tls hmem
    refine ⟨row, hrow, ?_⟩
    split <;> exact hid
  · rw [hdomains, h.certificates]
    exact forall_mem_append.mpr ⟨hkeyed.domainOfCertificate, forall_mem_singleton.mpr hdomain⟩
  · rw [hdomains, h.orders]
    exact forall_mem_append.mpr ⟨hkeyed.domainOfOrder, forall_mem_singleton.mpr hdomain⟩

/-- The transaction of an order reads the TLS state of an active domain. -/
theorem activeDomainTLS_eq_some (hdb : db.Sound) {accountID domainID : ID}
    (h : db.activeDomainTLS accountID domainID = some tls) :
    ∃ v, db.domainView domainID = some v ∧ v.tls = tls ∧ v.Named accountID domainID ∧ v.row.status = .active := by
  have hselected := find?_some h
  obtain ⟨htls, hactive⟩ := Bool.and_eq_true_iff.mp hselected
  obtain ⟨row, hmem, hrow⟩ := any_eq_true.mp hactive
  obtain ⟨hnamed, hstatus⟩ := Bool.and_eq_true_iff.mp hrow
  obtain ⟨haccount, rfl⟩ := ofAccount_iff.mp hnamed
  obtain ⟨v, hview, rfl⟩ := domainView_of_mem hdb.keyed hmem
  refine ⟨v, hview, ?_, ⟨haccount, rfl⟩, of_decide_eq_true hstatus⟩
  exact (tls_eq_of_ofDomain hdb hview (mem_of_find?_eq_some h) htls).symm

theorem Ordered.moves (h : Ordered db params draft certificateID now db') (hdb : db.Sound) : db.Moves db' := by
  refine ⟨h.keyed hdb.keyed, ?_⟩
  have hdomains : db'.domains = db.domains := by rw [h.rest]
  obtain ⟨tls, hfound, hnames, henabled, hmode, hchallenge, hrefusal⟩ := h.tls
  obtain ⟨v, hview, rfl, hnamed, hactive⟩ := activeDomainTLS_eq_some hdb hfound
  have hv := hdb.consistent _ _ hview
  obtain ⟨hrow, htls, hcertificates, horders⟩ := domainView_eq_some.mp hview
  apply Views.Advances.of_step (k := params.domainID) (v := v)
    (w := { v with
      tls := v.tls.setOrdered (preparedOrder params certificateID now).purpose.status now
      certificates := v.certificates ++ [orderedCertificate params draft certificateID now]
      orders := v.orders ++ [preparedOrder params certificateID now] }) hview
  · refine domainView_eq_some.mpr ⟨?_, ?_, ?_, ?_⟩
    · rw [findDomain, hdomains]
      exact hrow
    · have hselected := hv.ofDomain_iff.mpr hnamed
      have hlookup : Rows.lookup DomainTLSState.domainID params.domainID db.tlsStates = some v.tls := htls
      rw [findTLSState, h.tlsStates, Rows.lookup_updateWhere (DomainTLSState.setOrdered_domainID _), hlookup,
        Option.map_some, if_pos hselected]
    · rw [h.certificates, owned_append, ← hcertificates]
      simp [orderedCertificate]
    · rw [h.orders, owned_append, ← horders]
      simp [preparedOrder]
  · intro domainID hne
    have hother : db'.findTLSState domainID = db.findTLSState domainID := by
      rw [findTLSState, h.tlsStates]
      apply Rows.lookup_updateWhere_of_ne (DomainTLSState.setOrdered_domainID _) ?_ hne
      exact fun row hselected => (ofDomain_iff.mp hselected).2
    have hsame : db'.findDomain domainID = db.findDomain domainID := by rw [findDomain, hdomains]; rfl
    rw [domainView, hsame, hother, h.certificates, h.orders, owned_append, owned_append,
      if_neg (by simpa [orderedCertificate] using hne.symm), if_neg (by simpa [preparedOrder] using hne.symm),
      append_nil, append_nil]
    rfl
  · refine .order params draft certificateID now ⟨hnamed.1.symm, hnamed.2.symm⟩ hactive henabled hmode
      hchallenge hnames hrefusal ?_
    intro certificate hmem
    rw [hcertificates] at hmem
    exact h.freshCertificate certificate (mem_owned.mp hmem).1

theorem URLRecorded.moves {operationID : ID} (h : URLRecorded db operationID url db') (hdb : db.Sound) :
    db.Moves db' := by
  let update : ViewUpdate :=
    { order := fun row => if decide (row.operationID = operationID ∧ row.orderURL = none) then
        { row with orderURL := some url } else row
      order_id := fun row => by split <;> exact ⟨rfl, rfl⟩ }
  have hrelates : update.Relates db db' := by
    refine ⟨?_, ?_, ?_, h.orders⟩ <;> rw [h.rest] <;> exact (map_id _).symm
  apply hrelates.moves hdb
  intro domainID v hview hv
  have hstep := DomainStep.recordURL (v := v) operationID url
  have happly : update.apply v = { v with
      orders := updateWhere (fun row => decide (row.operationID = operationID ∧ row.orderURL = none))
        (fun row => { row with orderURL := some url }) v.orders } := by
    simp [ViewUpdate.apply, update, updateWhere]
  rw [happly]
  exact .single hstep

theorem Staged.moves {params : StageTLSCertificateParams} (h : Staged db params url now db') (hdb : db.Sound) :
    db.Moves db' := by
  let update : ViewUpdate :=
    { certificate := fun row => if row.hasStatus params.certificateID .ordering then
        row.setStaged params url now else row
      certificate_id := fun row => by split <;> exact ⟨rfl, rfl⟩ }
  have hrelates : update.Relates db db' := by
    refine ⟨?_, ?_, h.certificates, ?_⟩ <;> rw [h.rest] <;> exact (map_id _).symm
  apply hrelates.moves hdb
  intro domainID v hview hv
  have happly : update.apply v = { v with
      certificates := updateWhere (hasStatus params.certificateID .ordering)
        (setStaged params url now) v.certificates } := by
    simp [ViewUpdate.apply, update, updateWhere]
  rw [happly]
  exact .single (.stage params url now)

/-- A state that is not disabled may only be written for an enabled domain. -/
theorem DomainTLSState.enabled_of_allowed (h : tls.allowed = true) (hstatus : tls.issuanceStatus ≠ .disabled) :
    tls.enabled = true := by
  simp only [DomainTLSState.allowed, decide_eq_true_eq] at h
  by_contra hdisabled
  exact hstatus (h.1 (by simpa using hdisabled))

theorem Failed.moves {params : FailTLSCertificateOrderParams} {order : TLSCertificateOrder}
    {errorCode : String} (h : Failed db params order errorCode now db') (hdb : db.Sound) : db.Moves db' := by
  let update : ViewUpdate :=
    { tls := fun tls => if tls.ofDomain order.accountID order.domainID then
        tls.setFailed errorCode (if order.replacesCertificateID.isSome then params.retryAt else none) now else tls
      tls_id := fun tls => by split <;> rfl }
  have hrelates : update.Relates db db' := by
    refine ⟨?_, h.tlsStates, ?_, ?_⟩ <;> rw [h.rest] <;> exact (map_id _).symm
  apply hrelates.moves hdb
  intro domainID v hview hv
  have happly : update.apply v = { v with tls := update.tls v.tls } := by
    simp [ViewUpdate.apply, update]
  obtain ⟨-, htls, -, horders⟩ := domainView_eq_some.mp hview
  rw [happly]
  by_cases hnamed : v.Named order.accountID order.domainID
  · have hselected := hv.ofDomain_iff.mpr hnamed
    have hstate : update.tls v.tls = v.tls.setFailed errorCode
        (if order.replacesCertificateID.isSome then params.retryAt else none) now := if_pos hselected
    have hallowed := h.allowed v.tls (mem_of_lookup htls) hselected
    have henabled := DomainTLSState.enabled_of_allowed hallowed (by simp [DomainTLSState.setFailed])
    have hmem : order ∈ v.orders := by
      rw [horders, mem_owned]
      exact ⟨mem_of_lookup h.found, hnamed.2.symm.trans (row_id_of_domainView hview)⟩
    rw [hstate]
    exact .single (.fail order errorCode _ now hmem henabled)
  · have hstate : update.tls v.tls = v.tls := if_neg (mt hv.ofDomain_iff.mp hnamed)
    rw [hstate]

/-- The change of one certificate by an activation. -/
def activatedRow (params : ActivateTLSCertificateParams) (activeRef : Option ID) (now : Time)
    (row : TLSCertificate) : TLSCertificate :=
  let retired := match activeRef with
    | none => row
    | some predecessor =>
      if predecessor = params.certificateID then row
      else if row.activeOf params.accountID params.domainID && decide (row.id = predecessor) then
        row.setRetired now
      else row
  if retired.hasStatus params.certificateID .staged then retired.setActive now else retired

theorem activatedRow_keys (params : ActivateTLSCertificateParams) (activeRef : Option ID) (row : TLSCertificate) :
    (activatedRow params activeRef now row).id = row.id ∧
      (activatedRow params activeRef now row).domainID = row.domainID := by
  unfold activatedRow
  cases activeRef with
  | none => dsimp only; split <;> exact ⟨rfl, rfl⟩
  | some predecessor =>
    dsimp only
    split
    · split <;> exact ⟨rfl, rfl⟩
    · split <;> split <;> exact ⟨rfl, rfl⟩

theorem map_activatedRow (params : ActivateTLSCertificateParams) (activeRef : Option ID)
    (certificates : List TLSCertificate) :
    certificates.map (activatedRow params activeRef now) =
      updateWhere (hasStatus params.certificateID .staged) (setActive now)
        (withoutPredecessor params activeRef now certificates) := by
  unfold withoutPredecessor updateWhere
  cases activeRef with
  | none => rfl
  | some predecessor =>
    by_cases hown : predecessor = params.certificateID
    · simp only [if_pos hown]
      refine map_congr_left fun row _ => ?_
      simp only [activatedRow, if_pos hown]
    · simp only [if_neg hown, List.map_map]
      refine map_congr_left fun row _ => ?_
      simp only [activatedRow, if_neg hown, Function.comp]

theorem Activated.moves {params : ActivateTLSCertificateParams} {certificate : TLSCertificate}
    (h : Activated db params certificate tls now db') (hdb : db.Sound) :
    db.Moves db' := by
  let update : ViewUpdate :=
    { tls := fun state => if state.ofDomain params.accountID params.domainID then
        state.setActivated certificate now else state
      certificate := activatedRow params tls.activeCertificateRef now, tls_id := fun state => by split <;> rfl
      certificate_id := activatedRow_keys params tls.activeCertificateRef }
  have hrelates : update.Relates db db' := by
    refine ⟨?_, h.tlsStates, h.certificates.trans (map_activatedRow ..).symm, ?_⟩
    all_goals rw [h.rest]
    all_goals exact (map_id _).symm
  apply hrelates.moves hdb
  intro domainID v hview hv
  obtain ⟨-, htls, hcertificates, -⟩ := domainView_eq_some.mp hview
  have hid : certificate.id = params.certificateID := key_of_lookup h.found
  have happly : update.apply v = { v with
      tls := update.tls v.tls
      certificates := updateWhere (hasStatus params.certificateID .staged)
        (setActive now)
        (withoutPredecessor params tls.activeCertificateRef now v.certificates) } := by
    simp only [ViewUpdate.apply, update, map_activatedRow, map_id]
    rfl
  rw [happly]
  by_cases hnamed : v.Named params.accountID params.domainID
  · obtain rfl : domainID = params.domainID := (row_id_of_domainView hview).symm.trans hnamed.2
    have hselected := hv.ofDomain_iff.mpr hnamed
    have hstate : update.tls v.tls = v.tls.setActivated certificate now := if_pos hselected
    obtain rfl : tls = v.tls :=
      tls_eq_of_ofDomain hdb hview (mem_of_find?_eq_some h.state) (find?_some h.state)
    have hallowed := h.allowed v.tls (mem_of_lookup htls) hselected
    have henabled := DomainTLSState.enabled_of_allowed hallowed (by simp [setActivated])
    have hmem : certificate ∈ v.certificates := by
      rw [hcertificates, mem_owned]
      exact ⟨mem_of_lookup h.found, h.scope.2⟩
    have hretired : withoutPredecessor params v.tls.activeCertificateRef now v.certificates =
        v.retirePredecessor certificate.id now := by
      rw [hid]
      unfold withoutPredecessor DomainView.retirePredecessor
      cases v.tls.activeCertificateRef with
      | none => rfl
      | some previous =>
        dsimp only
        rw [hnamed.1, hnamed.2]
    rw [hstate, hretired, ← hid]
    exact .single (.activate certificate now hmem h.staged h.names henabled)
  · -- The certificate belongs to the named domain, so nothing of this view is selected.
    have hstate : update.tls v.tls = v.tls := if_neg (mt hv.ofDomain_iff.mp hnamed)
    have hretired : withoutPredecessor params tls.activeCertificateRef now v.certificates = v.certificates := by
      unfold withoutPredecessor
      split
      · rfl
      · split
        · rfl
        · exact hv.map_of_not_named hnamed (fun _ hp => (Bool.and_eq_true_iff.mp hp).1) _
    have hkept : updateWhere (hasStatus params.certificateID .staged)
        (setActive now) v.certificates = v.certificates := by
      apply updateWhere_of_forall_not
      intro row hmem
      by_contra hselected
      have hrow := (hasStatus_iff.mp (by simpa using hselected)).1
      have howned := hmem
      rw [hcertificates, mem_owned] at howned
      have hsame : row = certificate := inj_on_of_nodup_map hdb.keyed.certificates howned.1
        (mem_of_lookup h.found) (hrow.trans hid.symm)
      obtain ⟨haccount, hdomain⟩ := hv.stock.owner row hmem
      rw [hsame, h.scope.1] at haccount
      rw [hsame, h.scope.2] at hdomain
      exact hnamed ⟨haccount.symm, hdomain.symm⟩
    rw [hstate, hretired, hkept]

/-! ### Every call -/

theorem Effect.moves {call : PanelCall} (h : Effect services db call db') (hdb : db.Sound) : db.Moves db' := by
  cases h with
  | unchanged => exact .refl hdb
  | suspended h | resumed h => exact h.moves (by decide) hdb
  | created _ h | edited _ h | removed h | confirmed h | ordered h | urlRecorded h | staged h | activated h | failed h =>
    exact h.moves hdb
  | exceptionAdded _ h | exceptionRemoved h | revisionCreated h | appliedRecorded h =>
    apply moves_of_eq _ _ _ _ hdb
    all_goals rw [h.rest]
  | operation | issueQueued | workQueued | accountPut | applicationPut | acmeAccountPut =>
    exact moves_of_eq rfl rfl rfl rfl hdb

theorem PanelCall.execute_moves (services : NameServices) (hdb : db.Sound) (call : PanelCall) :
    db.Moves (call.execute services db) :=
  (execute_effect services db call).moves hdb

/-! ### Runs -/

theorem PanelStore.sound_empty : PanelStore.empty.Sound where
  keyed := by constructor <;> simp [PanelStore.empty]
  consistent := by simp [PanelStore.empty, domainView, findDomain, Rows.lookup]

theorem PanelStore.run_moves (services : NameServices) (calls : List PanelCall) :
    ∀ {db : PanelStore}, db.Sound → db.Moves (db.run services calls) := by
  induction calls with
  | nil => exact fun hdb => .refl hdb
  | cons call calls ih =>
    intro db hdb
    have hmoves := call.execute_moves services hdb
    exact hmoves.trans (ih (hmoves.sound hdb))

theorem PanelStore.sound_run (services : NameServices) (calls : List PanelCall) (hdb : db.Sound) :
    (db.run services calls).Sound :=
  (run_moves services calls hdb).sound hdb

theorem PanelStore.sound_after (services : NameServices) (calls : List PanelCall) : (after services calls).Sound :=
  sound_run services calls sound_empty

end Stackfort
