import Stackfort.CertificateScheduler

/-! What a committed transaction has done to the tables. Each statement and each transaction of the domain
and certificate code gets one lemma that reads its guards and its effect off a successful result; the
proofs about whole runs use these and do not unfold a transaction again. -/

namespace Stackfort

variable {db db' : PanelStore} {now : Time} {name : NormalizedDomainName} {actorID : Option ID} {count : Nat}

/-! ### Selections -/

variable {row : TLSCertificate}

theorem TLSCertificate.hasStatus_iff {certificateID : ID} {status : TLSCertificateStatus} :
    row.hasStatus certificateID status = true ↔ row.id = certificateID ∧ row.status = status := by
  simp [hasStatus]

variable {accountID domainID : ID}

theorem TLSCertificate.activeOf_iff :
    row.activeOf accountID domainID = true ↔
      row.accountID = accountID ∧ row.domainID = domainID ∧ row.status = .active := by
  simp [activeOf]

theorem DomainTLSState.ofDomain_iff {row : DomainTLSState} :
    row.ofDomain accountID domainID = true ↔ row.accountID = accountID ∧ row.domainID = domainID := by
  simp [ofDomain]

theorem DomainRow.ofAccount_iff {row : DomainRow} :
    row.ofAccount accountID domainID = true ↔ row.accountID = accountID ∧ row.id = domainID := by
  simp [ofAccount]

/-! ### Statements -/

namespace PanelStore

theorem insertDomain_ok {row : DomainRow} (h : db.insertDomain row = .ok db') :
    (∀ other ∈ db.domains, other.id ≠ row.id) ∧
      (∀ other ∈ db.domains, other.removedAt = none → other.asciiName ≠ row.asciiName) ∧
      domainIDAllowed row.id = true ∧ asciiNameAllowed row.asciiName = true ∧
      db' = { db with domains := db.domains ++ [row] } := by
  simp only [insertDomain, ite_throw_eq_ok_iff, pure_eq_ok_iff] at h
  obtain ⟨hid, hname, hchecks, rfl⟩ := h
  simp only [Bool.not_eq_true', Bool.not_eq_false, and_eq_true] at hchecks
  refine ⟨not_of_not_any hid, fun other hmem hlive heq => ?_, hchecks.1.1, hchecks.1.2, rfl⟩
  exact not_of_not_any hname other hmem ⟨heq, hlive⟩

theorem updateDomains_ok {p : DomainRow → Bool} {f : DomainRow → DomainRow}
    (h : db.updateDomains p f = .ok (db', count)) :
    (∀ row ∈ db.domains, p row = true → row.removedAt = none) ∧
      db' = { db with domains := updateWhere p f db.domains } ∧ count = db.domains.countP p := by
  simp only [updateDomains, ite_throw_eq_ok_iff, pure_eq_ok_iff, Prod.mk.injEq] at h
  obtain ⟨hlive, rfl, rfl⟩ := h
  refine ⟨fun row hmem hp => ?_, rfl, rfl⟩
  by_contra hremoved
  apply hlive
  rw [any_eq_true]
  exact ⟨row, hmem, by simp [hp, Option.isSome_iff_ne_none, hremoved]⟩

theorem insertTLSState_ok {row : DomainTLSState} (h : db.insertTLSState row = .ok db') :
    (∀ other ∈ db.tlsStates, other.domainID ≠ row.domainID) ∧ row.allowed = true ∧
      db' = { db with tlsStates := db.tlsStates ++ [row] } := by
  simp only [insertTLSState, ite_throw_eq_ok_iff, pure_eq_ok_iff] at h
  obtain ⟨hid, hallowed, rfl⟩ := h
  exact ⟨not_of_not_any hid, by simpa using hallowed, rfl⟩

theorem updateTLSStates_ok {p : DomainTLSState → Bool} {f : DomainTLSState → DomainTLSState}
    (h : db.updateTLSStates p f = .ok db') :
    (∀ row ∈ db.tlsStates, p row = true → (f row).allowed = true) ∧
      db' = { db with tlsStates := updateWhere p f db.tlsStates } := by
  simp only [updateTLSStates, ite_throw_eq_ok_iff, pure_eq_ok_iff] at h
  obtain ⟨hallowed, rfl⟩ := h
  refine ⟨fun row hmem hp => ?_, rfl⟩
  by_contra hnot
  exact hallowed (any_eq_true.mpr ⟨row, hmem, by simp [hp, hnot]⟩)

theorem insertWAFPolicy_ok {row : DomainWAFPolicy} (h : db.insertWAFPolicy row = .ok db') :
    (∀ other ∈ db.wafPolicies, other.domainID ≠ row.domainID) ∧
      db' = { db with wafPolicies := db.wafPolicies ++ [row] } := by
  simp only [insertWAFPolicy, ite_throw_eq_ok_iff, pure_eq_ok_iff] at h
  obtain ⟨hid, rfl⟩ := h
  exact ⟨not_of_not_any hid, rfl⟩

theorem insertCachePolicy_ok {row : DomainCachePolicy} (h : db.insertCachePolicy row = .ok db') :
    (∀ other ∈ db.cachePolicies, other.domainID ≠ row.domainID) ∧
      db' = { db with cachePolicies := db.cachePolicies ++ [row] } := by
  simp only [insertCachePolicy, ite_throw_eq_ok_iff, pure_eq_ok_iff] at h
  obtain ⟨hid, rfl⟩ := h
  exact ⟨not_of_not_any hid, rfl⟩

theorem updateCertificates_ok {p : TLSCertificate → Bool} {f : TLSCertificate → TLSCertificate}
    (h : db.updateCertificates p f = .ok (db', count)) :
    db' = { db with certificates := updateWhere p f db.certificates } ∧
      count = db.certificates.countP p := by
  simp only [updateCertificates, ite_throw_eq_ok_iff, pure_eq_ok_iff, Prod.mk.injEq] at h
  obtain ⟨-, -, rfl, rfl⟩ := h
  exact ⟨rfl, rfl⟩

theorem insertCertificate_ok (h : db.insertCertificate row = .ok db') :
    (∀ other ∈ db.certificates, other.id ≠ row.id) ∧
      (∃ domain ∈ db.domains, domain.id = row.domainID ∧ domain.accountID = row.accountID) ∧
      (∃ account ∈ db.acmeAccounts, account.id = row.acmeAccountID) ∧
      db' = { db with certificates := db.certificates ++ [row] } := by
  simp only [insertCertificate, ite_throw_eq_ok_iff, pure_eq_ok_iff] at h
  obtain ⟨hid, -, hkeys, rfl⟩ := h
  simp only [or_eq_true, Bool.not_eq_true', not_or, Bool.not_eq_false, any_eq_true, decide_eq_true_eq] at hkeys
  exact ⟨not_of_not_any hid, hkeys.1, hkeys.2, rfl⟩

theorem insertOrder_ok {row : TLSCertificateOrder} (h : db.insertOrder row = .ok db') :
    (∀ other ∈ db.orders, other.operationID ≠ row.operationID) ∧
      (∀ other ∈ db.orders, other.certificateID ≠ row.certificateID) ∧
      db.hasOperation row.accountID row.operationID = true ∧
      db' = { db with orders := db.orders ++ [row] } := by
  simp only [insertOrder, ite_throw_eq_ok_iff, pure_eq_ok_iff] at h
  obtain ⟨hoperation, hcertificate, hkeys, rfl⟩ := h
  simp only [or_eq_true, Bool.not_eq_true', not_or, Bool.not_eq_false] at hkeys
  exact ⟨not_of_not_any hoperation, not_of_not_any hcertificate, hkeys.1.1, rfl⟩

/-! ### Targets -/

/-- What a new target has left: its row, and where it needs them a document root and a redirect. -/
structure TargetSet (db : PanelStore) (accountID domainID : ID) (ids : DomainIDs)
    (target : PreparedDomainTarget) (actorID : Option ID) (now : Time) (db' : PanelStore) : Prop where
  /-- The target is the last one, and the domain had no current one. -/
  row : ∃ rootID redirectID,
    db'.targets = db.targets ++ [targetRow accountID domainID ids target rootID redirectID actorID now] ∧
    (target.type = .static ∨ target.type = .php → ∃ root ∈ db'.documentRoots,
      root.accountID = accountID ∧ rootID = some root.id) ∧
    (¬(target.type = .static ∨ target.type = .php) → rootID = none) ∧
    redirectID = target.redirect.map fun _ => ids.redirectCandidateID
  fresh : ∀ other ∈ db.targets, other.id ≠ ids.targetID
  vacant : db.currentTarget accountID domainID = none
  redirects : db'.redirects = db.redirects ++ (target.redirect.map fun redirect =>
    redirectRow accountID domainID ids.redirectCandidateID redirect actorID now).toList
  freshRedirect : target.redirect.isSome → ∀ other ∈ db.redirects, other.id ≠ ids.redirectCandidateID
  roots : db'.documentRoots = db.documentRoots ∨ ∃ given path, normalizeDocumentRoot given = .ok path ∧
    db'.documentRoots = db.documentRoots ++ [⟨ids.rootCandidateID, accountID, path, now, actorID⟩] ∧
    ∀ other ∈ db.documentRoots, other.id ≠ ids.rootCandidateID

theorem insertDocumentRoot_ok {row : DocumentRoot} (h : db.insertDocumentRoot row = .ok db') :
    db' = db ∨ (∀ other ∈ db.documentRoots, other.id ≠ row.id) ∧
      db' = { db with documentRoots := db.documentRoots ++ [row] } := by
  unfold insertDocumentRoot at h
  split at h
  · cases h
    exact .inl rfl
  · simp only [ite_throw_eq_ok_iff, pure_eq_ok_iff] at h
    obtain ⟨hid, rfl⟩ := h
    exact .inr ⟨not_of_not_any hid, rfl⟩

/-- A domain of the account that is not removed shares a root of the account. -/
theorem mem_of_sharedDocumentRoot {sourceID : ID} {root : DocumentRoot}
    (h : db.sharedDocumentRoot accountID sourceID = some root) :
    root ∈ db.documentRoots ∧ root.accountID = accountID := by
  simp only [sharedDocumentRoot, Option.bind_eq_bind, bind_eq_some_iff] at h
  obtain ⟨domain, hdomain, target, htarget, hroot⟩ := h
  have haccount := List.find?_some hdomain
  have hcurrent := List.find?_some htarget
  have hfound := List.find?_some hroot
  simp only [decide_eq_true_eq] at haccount hcurrent hfound
  exact ⟨List.mem_of_find?_eq_some hroot, hfound.1.trans (hcurrent.1.trans haccount.1)⟩

variable {target : PreparedDomainTarget} {result : PanelStore}

theorem resolveDocumentRootTx_ok {rootCandidateID rootID : ID} {asciiName : String}
    (h : db.resolveDocumentRootTx accountID domainID rootCandidateID asciiName target actorID now = .ok (db', rootID)) :
    (∃ root ∈ db'.documentRoots, root.accountID = accountID ∧ root.id = rootID) ∧
      (db'.documentRoots = db.documentRoots ∨ ∃ given path, normalizeDocumentRoot given = .ok path ∧
        db'.documentRoots = db.documentRoots ++ [⟨rootCandidateID, accountID, path, now, actorID⟩] ∧
        ∀ other ∈ db.documentRoots, other.id ≠ rootCandidateID) ∧
      db' = { db with documentRoots := db'.documentRoots } := by
  unfold resolveDocumentRootTx at h
  split at h
  · simp only [guard_eq_ok_iff] at h
    obtain ⟨-, h⟩ := h
    split at h
    · cases h
    next root hroot =>
      cases h
      obtain ⟨source, -, hsource⟩ := Option.bind_eq_some_iff.mp hroot
      obtain ⟨hmem, haccount⟩ := mem_of_sharedDocumentRoot hsource
      exact ⟨⟨root, hmem, haccount, rfl⟩, .inl rfl, rfl⟩
  · simp only [bind_eq_ok_iff] at h
    obtain ⟨path, hpath, db₁, hinsert, h⟩ := h
    have hpath := Except.mapError_eq_ok_iff.mp hpath
    split at h
    · cases h
    next root hroot =>
      cases h
      have hfound := List.find?_some hroot
      simp only [decide_eq_true_eq] at hfound
      refine ⟨⟨root, List.mem_of_find?_eq_some hroot, hfound.1, rfl⟩, ?_⟩
      rcases insertDocumentRoot_ok hinsert with rfl | ⟨hfresh, rfl⟩
      · exact ⟨.inl rfl, rfl⟩
      · exact ⟨.inr ⟨_, path, hpath, rfl, hfresh⟩, rfl⟩

theorem insertRedirect_ok {row : DomainRedirect} (h : db.insertRedirect row = .ok db') :
    (∀ other ∈ db.redirects, other.id ≠ row.id) ∧ db' = { db with redirects := db.redirects ++ [row] } := by
  simp only [insertRedirect, ite_throw_eq_ok_iff, pure_eq_ok_iff] at h
  obtain ⟨hid, -, rfl⟩ := h
  exact ⟨not_of_not_any hid, rfl⟩

theorem insertTarget_ok {row : DomainTarget} (h : db.insertTarget row = .ok db') :
    (∀ other ∈ db.targets, other.id ≠ row.id) ∧ db.currentTarget row.accountID row.domainID = none ∧
      db' = { db with targets := db.targets ++ [row] } := by
  simp only [insertTarget, ite_throw_eq_ok_iff, pure_eq_ok_iff] at h
  obtain ⟨hid, hvacant, -, rfl⟩ := h
  exact ⟨not_of_not_any hid, by simpa using hvacant, rfl⟩

theorem insertTargetTx_ok {ids : DomainIDs}
    (h : db.insertTargetTx accountID domainID ids name target actorID now = .ok db') :
    TargetSet db accountID domainID ids target actorID now db' ∧ db' = { db with
      documentRoots := db'.documentRoots, redirects := db'.redirects, targets := db'.targets } := by
  simp only [insertTargetTx, bind_eq_ok_iff] at h
  obtain ⟨⟨db₁, rootID⟩, hroot, ⟨db₂, redirectID⟩, hredirect, htarget⟩ := h
  obtain ⟨hfresh, hvacant, rfl⟩ := insertTarget_ok htarget
  -- The root comes first and only adds a document root.
  have hroots : (target.type = .static ∨ target.type = .php →
        ∃ root ∈ db₁.documentRoots, root.accountID = accountID ∧ rootID = some root.id) ∧
      (¬(target.type = .static ∨ target.type = .php) → rootID = none) ∧
      (db₁.documentRoots = db.documentRoots ∨ ∃ given path, normalizeDocumentRoot given = .ok path ∧
        db₁.documentRoots = db.documentRoots ++ [⟨ids.rootCandidateID, accountID, path, now, actorID⟩] ∧
        ∀ other ∈ db.documentRoots, other.id ≠ ids.rootCandidateID) ∧
      db₁ = { db with documentRoots := db₁.documentRoots } := by
    unfold targetRootTx at hroot
    split at hroot
    next htype =>
      simp only [bind_eq_ok_iff, pure_eq_ok_iff, Prod.mk.injEq] at hroot
      obtain ⟨⟨db₀, found⟩, hresolve, rfl, rfl⟩ := hroot
      obtain ⟨⟨root, hmem, haccount, hid⟩, hadded, hrest⟩ := resolveDocumentRootTx_ok hresolve
      exact ⟨fun _ => ⟨root, hmem, haccount, by rw [hid]⟩, fun hnot => absurd htype hnot, hadded, hrest⟩
    next htype =>
      cases hroot
      exact ⟨fun h => absurd h htype, fun _ => rfl, .inl rfl, rfl⟩
  have hredirects : redirectID = (target.redirect.map fun _ => ids.redirectCandidateID) ∧
      (target.redirect.isSome → ∀ other ∈ db₁.redirects, other.id ≠ ids.redirectCandidateID) ∧
      db₂ = { db₁ with redirects := db₁.redirects ++ (target.redirect.map fun redirect =>
        redirectRow accountID domainID ids.redirectCandidateID redirect actorID now).toList } := by
    unfold targetRedirectTx at hredirect
    split at hredirect
    next redirect hsome =>
      simp only [bind_eq_ok_iff, pure_eq_ok_iff, Prod.mk.injEq] at hredirect
      obtain ⟨db₀, hinsert, rfl, rfl⟩ := hredirect
      obtain ⟨hnew, rfl⟩ := insertRedirect_ok hinsert
      simp only [hsome]
      exact ⟨rfl, fun _ => hnew, rfl⟩
    next hnone =>
      cases hredirect
      simp [hnone]
  obtain ⟨hserves, hserves', hadded, hrest⟩ := hroots
  obtain ⟨hid, hnew, rfl⟩ := hredirects
  rw [hrest] at hnew hfresh hvacant ⊢
  refine ⟨?_, rfl⟩
  exact
    { row := ⟨rootID, redirectID, rfl, hserves, hserves', hid⟩
      fresh := hfresh, vacant := hvacant, redirects := rfl, freshRedirect := hnew, roots := hadded }

/-! ### The TLS intent -/

/-- The TLS state of the domain differs from the intent of its target. -/
def stale (db : PanelStore) (accountID domainID : ID) (intent : List String × TLSChallengeType) : Bool :=
  db.tlsStates.any fun row => row.ofDomain accountID domainID && row.differsFrom intent

theorem refreshTLSIntentTx_ok (h : db.refreshTLSIntentTx accountID domainID name target now = .ok db') :
    db' = { db with
      certificates := updateWhere
        (fun row => row.activeOf accountID domainID && db.stale accountID domainID (tlsIntent name target))
        (setRetired now) db.certificates
      tlsStates := updateWhere
        (fun row => row.ofDomain accountID domainID && row.differsFrom (tlsIntent name target))
        (DomainTLSState.setIntent (tlsIntent name target) now) db.tlsStates } := by
  simp only [refreshTLSIntentTx, bind_eq_ok_iff] at h
  obtain ⟨⟨db₁, count⟩, hretire, hintent⟩ := h
  obtain ⟨rfl, -⟩ := updateCertificates_ok hretire
  exact (updateTLSStates_ok hintent).2

/-! ### Replays -/

theorem recordDomainMutationTx_ok {operationID : Option ID} {action : DomainLifecycleAction}
    (h : db.recordDomainMutationTx accountID operationID action domainID now = .ok db') :
    db' = { db with mutations := db'.mutations } := by
  unfold recordDomainMutationTx at h
  split at h
  · cases h
    rfl
  · simp only [insertMutation, ite_throw_eq_ok_iff, pure_eq_ok_iff] at h
    obtain ⟨-, rfl⟩ := h
    rfl

/-! ### Replies -/

section CheckedWrite

variable {α β : Type} {checks : Except CoreError β} {P : PanelStore → Prop}

/-- What a checked call leaves is what its transaction commits, or the store as it was. -/
theorem checkedWrite_of_tx {tx : β → Except TxError (PanelStore × α)} (hkept : P db)
    (hcommitted : ∀ checked db' reply, checks = .ok checked → tx checked = .ok (db', reply) → db' = db ∨ P db') :
    P (db.checkedWrite checks tx).1 := by
  unfold checkedWrite
  cases checks with
  | error error => exact hkept
  | ok checked =>
    cases htx : tx checked with
    | error error => simpa [write, htx] using hkept
    | ok result =>
      simp only [write, htx]
      rcases hcommitted checked result.1 result.2 rfl htx with h | h
      · rwa [h]
      · exact h

theorem checkedWrite_map_of_tx {tx : β → Except TxError PanelStore} {reply : β → α} (hkept : P db)
    (hcommitted : ∀ checked db', checks = .ok checked → tx checked = .ok db' → db' = db ∨ P db') :
    P (db.checkedWrite checks fun checked => do
      let db' ← tx checked
      pure (db', reply checked)).1 := by
  refine checkedWrite_of_tx hkept fun checked db' value hchecks htx => ?_
  simp only [bind_eq_ok_iff, pure_eq_ok_iff, Prod.mk.injEq] at htx
  obtain ⟨db₁, htx, rfl, -⟩ := htx
  exact hcommitted checked db₁ hchecks htx

theorem rereads_of_tx {γ : Type} {tx : β → Except TxError PanelStore} {reply : β → α}
    {read : α → PanelStore → Except CoreError γ} (hkept : P db)
    (hcommitted : ∀ checked db', checks = .ok checked → tx checked = .ok db' → db' = db ∨ P db') :
    P (rereads (db.checkedWrite checks fun checked => do
      let db' ← tx checked
      pure (db', reply checked)) read).1 := by
  unfold rereads
  exact checkedWrite_map_of_tx hkept hcommitted

end CheckedWrite

end PanelStore

export TLSCertificate (hasStatus_iff activeOf_iff)

export DomainTLSState (ofDomain_iff)

export DomainRow (ofAccount_iff)

end Stackfort
