import Stackfort.SecondFactor

/-! One-time codes are used once. The codes that transactions have taken are listed in the order in which they were
taken. The invariant ties the list to the tables: a factor remembers a step no earlier than any that was
taken for it, and a recovery code that was taken is marked. A transaction can deactivate factors, take a
code of an active factor, or activate a factor with the code of its confirmation; each of these is followed once. -/

namespace Stackfort.Authentication

open List

def AcceptedCode.counter? : AcceptedCode → Option Int
  | .totp counter => some counter
  | .recovery _ => none

def AcceptedCode.codeHash? : AcceptedCode → Option Bytes
  | .totp _ => none
  | .recovery codeHash => some codeHash

/-- The steps whose codes were taken for a factor, oldest first. -/
def acceptedCounters (accepted : List Acceptance) (factorID : ID) : List Int :=
  accepted.filterMap fun acceptance => if acceptance.factorID = factorID then acceptance.code.counter? else none

/-- The digests of the recovery codes that were taken, oldest first. -/
def acceptedRecoveryCodes (accepted : List Acceptance) : List Bytes :=
  accepted.filterMap fun acceptance => acceptance.code.codeHash?

theorem acceptedCounters_append (accepted new : List Acceptance) (factorID : ID) :
    acceptedCounters (accepted ++ new) factorID = acceptedCounters accepted factorID ++ acceptedCounters new factorID :=
  filterMap_append

theorem acceptedRecoveryCodes_totp (accepted : List Acceptance) (factorID : ID) (counter : Int) (now : Time) :
    acceptedRecoveryCodes (accepted ++ [⟨factorID, .totp counter, now⟩]) = acceptedRecoveryCodes accepted := by
  rw [acceptedRecoveryCodes, filterMap_append]
  exact append_nil _

variable {factorID : ID} {counter : Int} {draws : AuthDraws} {subject : AuthorizationSubject}
  {codes : List RecoveryCode} {acceptance : Acceptance} {accepted : List Acceptance} {taken : Option Acceptance}

theorem mem_acceptedCounters :
    counter ∈ acceptedCounters accepted factorID ↔
      ∃ acceptance ∈ accepted, acceptance.factorID = factorID ∧ acceptance.code = .totp counter := by
  rw [acceptedCounters, mem_filterMap]
  refine exists_congr fun acceptance => and_congr_right fun _ => ?_
  by_cases hfactor : acceptance.factorID = factorID
  · cases hcode : acceptance.code <;> simp [hfactor, AcceptedCode.counter?]
  · simp [hfactor]

theorem mem_acceptedRecoveryCodes {codeHash : Bytes} :
    codeHash ∈ acceptedRecoveryCodes accepted ↔ ∃ acceptance ∈ accepted, acceptance.code = .recovery codeHash := by
  rw [acceptedRecoveryCodes, mem_filterMap]
  refine exists_congr fun acceptance => and_congr_right fun _ => ?_
  cases hcode : acceptance.code <;> simp [AcceptedCode.codeHash?]

variable {factor : TOTPFactor}

namespace AuthStore

variable {services : AuthServices} {db db' : AuthStore} {accepted : List Acceptance} {now : Time}

/-- The tables know the codes that were taken. -/
structure CodesUsed (db : AuthStore) (accepted : List Acceptance) : Prop where
  factorKeys : (db.factors.map TOTPFactor.id).Nodup
  codeKeys : (db.recoveryCodes.map RecoveryCode.id).Nodup
  codeHashes : (db.recoveryCodes.map RecoveryCode.codeHash).Nodup
  counted : ∀ acceptance ∈ accepted, ∀ counter, acceptance.code = .totp counter →
    ∃ factor ∈ db.factors, factor.id = acceptance.factorID ∧ ∃ last ∈ factor.lastUsedCounter, counter ≤ last
  increasing : ∀ factorID, (acceptedCounters accepted factorID).Pairwise (· < ·)
  timely : ∀ acceptance ∈ accepted, ∀ counter, acceptance.code = .totp counter →
    |counter - totpCounter acceptance.acceptedAt| ≤ 1
  marked : ∀ acceptance ∈ accepted, ∀ codeHash, acceptance.code = .recovery codeHash →
    ∃ row ∈ db.recoveryCodes, row.codeHash = codeHash ∧ row.usedAt ≠ none
  once : (acceptedRecoveryCodes accepted).Nodup

/-! ### What a transaction can do -/

/-- Active factors may be deactivated, and nothing else happens to factors and codes. -/
structure Retires (db db' : AuthStore) : Prop where
  codes : db'.recoveryCodes = db.recoveryCodes
  factors : ∃ (selects : TOTPFactor → Bool) (status : FactorStatus), status ≠ .active ∧
    (∀ row, selects row = true → row.status = .active) ∧
    db'.factors = updateWhere selects (fun row => { row with status := status }) db.factors

theorem Retires.of_eq (hfactors : db'.factors = db.factors) (hcodes : db'.recoveryCodes = db.recoveryCodes) :
    Retires db db' := by
  refine ⟨hcodes, fun _ => false, .removed 0, by simp, by simp, ?_⟩
  rw [hfactors, updateWhere_of_forall_not fun _ _ => rfl]

theorem Retires.refl (db : AuthStore) : Retires db db := .of_eq rfl rfl

theorem retires_deactivateFactor (factorID identityID : ID) {status : FactorStatus} (hstatus : status ≠ .active) :
    Retires db (db.deactivateFactor factorID identityID status) := by
  refine ⟨rfl, _, status, hstatus, fun row hrow => ?_, rfl⟩
  simp only [and_eq_true, decide_eq_true_eq] at hrow
  exact hrow.2

/-- The rows of deactivated factors stay as they are. -/
theorem Retires.mem_of_inactive (h : Retires db db') (hmem : factor ∈ db.factors)
    (hinactive : factor.status ≠ .active) : factor ∈ db'.factors := by
  obtain ⟨selects, status, -, hselects, hfactors⟩ := h.factors
  rw [hfactors]
  exact mem_updateWhere_of_not hmem (Bool.eq_false_iff.mpr fun hsel => hinactive (hselects factor hsel))

/-- What a transaction does to factors and recovery codes, and the code it takes. -/
inductive CodeStep (db db' : AuthStore) (now : Time) : Option Acceptance → Prop where
  | quiet (hretires : Retires db db') : CodeStep db db' now none
  | counter (factor : TOTPFactor) (counter : Int) (hmem : factor ∈ db.factors) (hactive : factor.status = .active)
      (hlater : ∀ used ∈ factor.lastUsedCounter, used < counter) (htimely : |counter - totpCounter now| ≤ 1)
      (hretires : Retires (db.useCounter factor counter) db') :
      CodeStep db db' now (some ⟨factor.id, .totp counter, now⟩)
  | recovery (factor : TOTPFactor) (row : RecoveryCode) (hmem : factor ∈ db.factors)
      (hactive : factor.status = .active) (hrow : row ∈ db.recoveryCodes) (howner : row.factorID = factor.id)
      (hunused : row.usedAt = none) (hretires : Retires (db.useRecoveryCode row.id now) db') :
      CodeStep db db' now (some ⟨factor.id, .recovery row.codeHash, now⟩)
  | activated (mid : AuthStore) (factor : TOTPFactor) (counter : Int) (codes : List RecoveryCode)
      (hretires : Retires db mid) (hfresh : ∀ row ∈ db.factors, row.id ≠ factor.id) (hactive : factor.status = .active)
      (hlast : factor.lastUsedCounter = some counter) (htimely : |counter - totpCounter now| ≤ 1)
      (hfactors : db'.factors = mid.factors ++ [factor]) (hcodes : db'.recoveryCodes = db.recoveryCodes ++ codes)
      (hkeys : (db'.recoveryCodes.map RecoveryCode.id).Nodup)
      (hhashes : (db'.recoveryCodes.map RecoveryCode.codeHash).Nodup) :
      CodeStep db db' now (some ⟨factor.id, .totp counter, now⟩)

/-! ### The invariant -/

theorem CodesUsed.factor_eq (h : CodesUsed db accepted) {left right : TOTPFactor} (hleft : left ∈ db.factors)
    (hright : right ∈ db.factors) (hid : left.id = right.id) : left = right :=
  inj_on_of_nodup_map h.factorKeys hleft hright hid

/-- Factors that are only changed in other columns keep what was counted. -/
theorem CodesUsed.retires (h : CodesUsed db accepted) (hretires : Retires db db') : CodesUsed db' accepted := by
  obtain ⟨selects, status, -, -, hfactors⟩ := hretires.factors
  refine ⟨?_, by rw [hretires.codes]; exact h.codeKeys, by rw [hretires.codes]; exact h.codeHashes, ?_, h.increasing,
    h.timely, by rw [hretires.codes]; exact h.marked, h.once⟩
  · rw [hfactors]
    exact nodup_keys_updateWhere h.factorKeys fun _ => rfl
  · intro acceptance hmem counter hcode
    obtain ⟨factor, hfactor, hid, last, hlast, hle⟩ := h.counted acceptance hmem counter hcode
    rw [hfactors]
    refine ⟨_, mem_map_of_mem hfactor, ?_, last, ?_, hle⟩
    · split <;> exact hid
    · split <;> exact hlast

theorem unusedAt_self (hactive : factor.status = .active) (hlater : ∀ used ∈ factor.lastUsedCounter, used < counter) :
    unusedAt factor counter factor = true := by
  cases hlast : factor.lastUsedCounter with
  | none => simp [unusedAt, hactive, hlast]
  | some last => simp [unusedAt, hactive, hlast, hlater last hlast]

section

variable (h : CodesUsed db accepted)

include h

/-- Taking the code of a step: the rows carry over, and what was counted for the factor is earlier. -/
theorem CodesUsed.takeCounter (hfactors : (db'.factors.map TOTPFactor.id).Nodup)
    (hkeys : (db'.recoveryCodes.map RecoveryCode.id).Nodup)
    (hhashes : (db'.recoveryCodes.map RecoveryCode.codeHash).Nodup)
    (hrows : ∀ row ∈ db.factors, ∀ last ∈ row.lastUsedCounter, ∃ new ∈ db'.factors, new.id = row.id ∧ ∃ later ∈ new.lastUsedCounter, last ≤ later)
    (hcodes : db.recoveryCodes ⊆ db'.recoveryCodes)
    (hnew : ∃ new ∈ db'.factors, new.id = factorID ∧ ∃ last ∈ new.lastUsedCounter, counter ≤ last)
    (hlater : ∀ row ∈ db.factors, row.id = factorID → ∀ last ∈ row.lastUsedCounter, last < counter)
    (htimely : |counter - totpCounter now| ≤ 1) : CodesUsed db' (accepted ++ [⟨factorID, .totp counter, now⟩]) := by
  refine ⟨hfactors, hkeys, hhashes, forall_mem_append.mpr ⟨?_, forall_mem_singleton.mpr ?_⟩, ?_,
    forall_mem_append.mpr ⟨h.timely, forall_mem_singleton.mpr ?_⟩,
    forall_mem_append.mpr ⟨?_, forall_mem_singleton.mpr nofun⟩, ?_⟩
  · intro acceptance hacc taken hcode
    obtain ⟨row, hrow, hid, last, hlast, hle⟩ := h.counted acceptance hacc taken hcode
    obtain ⟨new, hnew, hnewID, later, hlater, hle'⟩ := hrows row hrow last hlast
    exact ⟨new, hnew, hnewID.trans hid, later, hlater, hle.trans hle'⟩
  · intro taken hcode
    cases hcode
    exact hnew
  · intro other
    rw [acceptedCounters_append, pairwise_append]
    refine ⟨h.increasing other, ?_, fun earlier hearlier later hlast => ?_⟩
    · by_cases hfactor : factorID = other <;> simp [acceptedCounters, hfactor, AcceptedCode.counter?]
    · obtain ⟨acceptance, hacc, hid, hcode⟩ := mem_acceptedCounters.mp hearlier
      obtain ⟨new, hnew, hnewID, hnewCode⟩ := mem_acceptedCounters.mp hlast
      rw [mem_singleton] at hnew
      subst hnew
      cases hnewCode
      -- The earlier code was counted in a row of the same key.
      obtain ⟨row, hrow, hrowID, last, hrowLast, hle⟩ := h.counted acceptance hacc earlier hcode
      exact lt_of_le_of_lt hle (hlater row hrow (hrowID.trans (hid.trans hnewID.symm)) last hrowLast)
  · intro taken hcode
    cases hcode
    exact htimely
  · intro acceptance hacc codeHash hcode
    obtain ⟨row, hrow, hmarked⟩ := h.marked acceptance hacc codeHash hcode
    exact ⟨row, hcodes hrow, hmarked⟩
  · rw [acceptedRecoveryCodes_totp]
    exact h.once

theorem CodesUsed.useCounter (hmem : factor ∈ db.factors) (hactive : factor.status = .active)
    (hlater : ∀ used ∈ factor.lastUsedCounter, used < counter) (htimely : |counter - totpCounter now| ≤ 1) :
    CodesUsed (db.useCounter factor counter) (accepted ++ [⟨factor.id, .totp counter, now⟩]) := by
  refine h.takeCounter (nodup_keys_updateWhere h.factorKeys fun _ => rfl) h.codeKeys h.codeHashes
    (fun row hrow last hlast => ⟨_, mem_map_of_mem hrow, ?_⟩) (Subset.refl _) ⟨_, mem_map_of_mem hmem, ?_⟩
    (fun row hrow hid => ?_) htimely
  · by_cases hunused : unusedAt factor counter row = true
    · rw [if_pos hunused]
      have hlt : last < counter := by
        rw [Option.mem_def] at hlast
        simp [unusedAt, hlast] at hunused
        exact hunused.2
      exact ⟨rfl, counter, rfl, hlt.le⟩
    · rw [if_neg hunused]
      exact ⟨rfl, last, hlast, le_refl _⟩
  · rw [if_pos (unusedAt_self hactive hlater)]
    exact ⟨rfl, counter, rfl, le_refl _⟩
  · rw [h.factor_eq hrow hmem hid]
    exact hlater

theorem CodesUsed.useRecoveryCode {row : RecoveryCode} (hrow : row ∈ db.recoveryCodes) (hunused : row.usedAt = none) :
    CodesUsed (db.useRecoveryCode row.id now) (accepted ++ [⟨factorID, .recovery row.codeHash, now⟩]) := by
  refine ⟨h.factorKeys, nodup_keys_updateWhere h.codeKeys fun _ => rfl,
    nodup_keys_updateWhere h.codeHashes fun _ => rfl,
    forall_mem_append.mpr ⟨h.counted, forall_mem_singleton.mpr nofun⟩, ?_,
    forall_mem_append.mpr ⟨h.timely, forall_mem_singleton.mpr nofun⟩,
    forall_mem_append.mpr ⟨?_, forall_mem_singleton.mpr ?_⟩, ?_⟩
  · intro other
    rw [acceptedCounters_append]
    have hnone : acceptedCounters [⟨factorID, .recovery row.codeHash, now⟩] other = [] := by
      simp [acceptedCounters, AcceptedCode.counter?]
    rw [hnone, append_nil]
    exact h.increasing other
  · intro acceptance hacc codeHash hcode
    obtain ⟨old, hold, hhash, hused⟩ := h.marked acceptance hacc codeHash hcode
    refine ⟨_, mem_map_of_mem hold, ?_, ?_⟩
    · split <;> exact hhash
    · split
      · exact some_ne_none _
      · exact hused
  · intro codeHash hcode
    cases hcode
    refine ⟨_, mem_map_of_mem hrow, ?_, ?_⟩
    · split <;> rfl
    · rw [if_pos (by simp [hunused])]
      exact some_ne_none _
  · rw [acceptedRecoveryCodes, filterMap_append]
    refine Nodup.append h.once (by simp [AcceptedCode.codeHash?]) ?_
    simp only [AcceptedCode.codeHash?, filterMap_cons, filterMap_nil, disjoint_singleton]
    intro hagain
    -- A code that was taken before is marked, and the digest names one row.
    obtain ⟨acceptance, hacc, hcode⟩ := mem_acceptedRecoveryCodes.mp hagain
    obtain ⟨old, hold, hhash, hused⟩ := h.marked acceptance hacc row.codeHash hcode
    have heq : old = row := inj_on_of_nodup_map h.codeHashes hold hrow hhash
    exact hused (by rw [heq, hunused])

/-- Activating a factor under a new identifier, with the step of its confirmation. -/
theorem CodesUsed.activate (hfresh : ∀ row ∈ db.factors, row.id ≠ factor.id)
    (hlast : factor.lastUsedCounter = some counter) (htimely : |counter - totpCounter now| ≤ 1)
    (hfactors : db'.factors = db.factors ++ [factor]) (hcodes : db'.recoveryCodes = db.recoveryCodes ++ codes)
    (hkeys : (db'.recoveryCodes.map RecoveryCode.id).Nodup)
    (hhashes : (db'.recoveryCodes.map RecoveryCode.codeHash).Nodup) :
    CodesUsed db' (accepted ++ [⟨factor.id, .totp counter, now⟩]) := by
  have hold : db.factors ⊆ db'.factors := by
    rw [hfactors]
    exact subset_append_left _ _
  have hnew : factor ∈ db'.factors := by
    rw [hfactors]
    exact mem_append_right _ (mem_singleton_self _)
  refine h.takeCounter ?_ hkeys hhashes (fun row hrow last hused => ⟨row, hold hrow, rfl, last, hused, le_refl _⟩) ?_
    ⟨factor, hnew, rfl, counter, hlast, le_refl _⟩ (fun row hrow hid => absurd hid (hfresh row hrow)) htimely
  · rw [hfactors]
    exact nodup_keys_append h.factorKeys hfresh
  · rw [hcodes]
    exact subset_append_left _ _

theorem CodesUsed.step (hstep : CodeStep db db' now taken) :
    CodesUsed db' (accepted ++ taken.toList) := by
  cases hstep with
  | quiet hretires =>
    rw [Option.toList_none, append_nil]
    exact h.retires hretires
  | counter factor counter hmem hactive hlater htimely hretires =>
    exact (h.useCounter hmem hactive hlater htimely).retires hretires
  | recovery factor row hmem hactive hrow howner hunused hretires =>
    exact (h.useRecoveryCode hrow hunused).retires hretires
  | activated mid factor counter codes hretires hfresh hactive hlast htimely hfactors hcodes hkeys hhashes =>
    have hcodes' : db'.recoveryCodes = mid.recoveryCodes ++ codes := by rw [hcodes, hretires.codes]
    refine (h.retires hretires).activate (fun row hrow => ?_) hlast htimely hfactors hcodes' hkeys hhashes
    obtain ⟨_, _, -, -, hmid⟩ := hretires.factors
    rw [hmid] at hrow
    obtain ⟨old, hold, rfl⟩ := mem_map.mp hrow
    split <;> exact hfresh old hold

/-! ### Transactions -/

section

variable {code : String} {verified : AuthStore} {taken : Option AcceptedCode} (hmem : factor ∈ db.factors)
  (hactive : factor.status = .active)
  (hverify : db.verifyCurrentFactorTx services factor code now = (verified, taken))

include hmem hactive hverify

/-- What the check of a code against an active factor can do: refuse it and change nothing, take the code of a
later step, or take an unused recovery code of the factor. -/
theorem verifyCurrentFactorTx_cases :
    taken = none ∧ verified = db ∨
      (∃ counter, taken = some (.totp counter) ∧ verified = db.useCounter factor counter ∧
        (∀ used ∈ factor.lastUsedCounter, used < counter) ∧ |counter - totpCounter now| ≤ 1) ∨
      ∃ row ∈ db.recoveryCodes, taken = some (.recovery row.codeHash) ∧ row.factorID = factor.id ∧ row.usedAt = none ∧
        verified = db.useRecoveryCode row.id now := by
  unfold verifyCurrentFactorTx at hverify
  dsimp only at hverify
  split at hverify
  · next counter hmatched =>
    obtain ⟨totpCode, -, hmatch⟩ := Option.bind_eq_some_iff.mp hmatched
    obtain ⟨htimely, hlater⟩ := matchTOTP_bounds hmatch
    have hself := unusedAt_self hactive hlater
    have hcount : db.factors.countP (unusedAt factor counter) = 1 := by
      refine countP_of_lookup h.factorKeys (lookup_of_mem h.factorKeys hmem) (fun other _ hother => ?_) hself
      simp only [unusedAt, and_eq_true, decide_eq_true_eq] at hother
      exact hother.1.1.1
    rw [if_pos hcount] at hverify
    cases hverify
    exact .inr (.inl ⟨counter, rfl, rfl, hlater, htimely⟩)
  · split at hverify
    · cases hverify
      exact .inl ⟨rfl, rfl⟩
    split at hverify
    · cases hverify
      exact .inl ⟨rfl, rfl⟩
    next row hfound =>
    have hrow := mem_of_find?_eq_some hfound
    have hsome := find?_some hfound
    simp only [and_eq_true, decide_eq_true_eq, Option.isNone_iff_eq_none] at hsome
    have hcount : db.recoveryCodes.countP (fun other => other.id = row.id && other.usedAt.isNone) = 1 := by
      refine countP_of_lookup h.codeKeys (lookup_of_mem h.codeKeys hrow) (fun other _ hother => ?_) ?_
      · simp only [and_eq_true, decide_eq_true_eq] at hother
        exact hother.1
      · simp [hsome.2]
    rw [if_pos hcount] at hverify
    cases hverify
    exact .inr (.inr ⟨row, hrow, by rw [hsome.1.2], hsome.1.1.1, hsome.2, rfl⟩)

/-- A transaction that checks a code and then does nothing to factors and codes but deactivate. -/
theorem codeStep_verify (hretires : Retires verified db') :
    CodeStep db db' now (taken.map fun code => ⟨factor.id, code, now⟩) := by
  rcases verifyCurrentFactorTx_cases h hmem hactive hverify with
    ⟨rfl, rfl⟩ | ⟨counter, rfl, rfl, hlater, htimely⟩ | ⟨row, hrow, rfl, howner, hunused, rfl⟩
  · exact .quiet hretires
  · exact .counter factor counter hmem hactive hlater htimely hretires
  · exact .recovery factor row hmem hactive hrow howner hunused hretires

end

theorem codeStep_completeMFALogin {params : CompleteMFALoginParams} {reply : MFAReply}
    (hok : db.completeMFALoginTx services params draws now = .ok (db', reply)) :
    CodeStep db db' now reply.accepted := by
  cases completeMFALoginTx_outcome hok with
  | refused _ haccepted =>
    rw [haccepted]
    exact .quiet (.refl db)
  | ended => exact .quiet (.of_eq rfl rfl)
  | checked _ hload hverify =>
    obtain ⟨hmem, -, hactive⟩ := loadActive_eq_some hload
    exact codeStep_verify h hmem hactive hverify (.of_eq rfl rfl)
  | @opened challenge _ _ verified _ _ _ _ _ _ hload hverify hinsert =>
    obtain ⟨hmem, -, hactive⟩ := loadActive_eq_some hload
    obtain ⟨-, rfl⟩ := insertSession_eq hinsert
    obtain ⟨sessions, hrevoked⟩ := @revokePreviousSession_frame
      (verified.consumeChallenges (fun row => row.id = challenge.id) now) now challenge
    refine codeStep_verify h hmem hactive hverify ?_
    rw [hrevoked]
    exact .of_eq rfl rfl

end

theorem insertRecoveryCodes_nodup (h : db.insertRecoveryCodes codes = .ok db')
    (hkeys : (db.recoveryCodes.map RecoveryCode.id).Nodup)
    (hhashes : (db.recoveryCodes.map RecoveryCode.codeHash).Nodup) :
    (db'.recoveryCodes.map RecoveryCode.id).Nodup ∧ (db'.recoveryCodes.map RecoveryCode.codeHash).Nodup := by
  induction codes generalizing db with
  | nil =>
    cases h
    exact ⟨hkeys, hhashes⟩
  | cons code rest ih =>
    obtain ⟨mid, hcode, hrest⟩ := bind_eq_ok_iff.mp h
    obtain ⟨hfresh, rfl⟩ := insertRecoveryCode_eq hcode
    exact ih hrest (nodup_keys_append hkeys fun other hother => (hfresh other hother).1)
      (nodup_keys_append hhashes fun other hother => (hfresh other hother).2)

theorem retires_replaceFactor (identityID : ID) (current : Option ID) (now : Time) :
    Retires db (db.replaceFactor identityID current now) := by
  cases current with
  | none => exact .refl db
  | some factorID => exact retires_deactivateFactor _ _ (by simp)

theorem codeStep_activate (h : CodesUsed db accepted) {setup : TOTPSetup} {current : Option ID}
    (htimely : |counter - totpCounter now| ≤ 1)
    (hok : db.activateFactor services subject setup current counter draws now = .ok db') :
    CodeStep db db' now (some ⟨draws.factorID, .totp counter, now⟩) := by
  obtain ⟨inserted, hinsert, hok⟩ := bind_eq_ok_iff.mp hok
  obtain ⟨stocked, hstock, hok⟩ := bind_eq_ok_iff.mp hok
  cases hok
  have hretires := @retires_replaceFactor db subject.identityID current now
  obtain ⟨hfresh, rfl⟩ := insertFactor_eq hinsert
  have hcodes : (db.replaceFactor subject.identityID current now).recoveryCodes = db.recoveryCodes := hretires.codes
  obtain ⟨hkeys, hhashes⟩ := insertRecoveryCodes_nodup hstock (by rw [hcodes]; exact h.codeKeys)
    (by rw [hcodes]; exact h.codeHashes)
  have hstocked := insertRecoveryCodes_eq hstock
  subst hstocked
  refine .activated (db.replaceFactor subject.identityID current now)
    (confirmedFactor subject.identityID setup counter draws) counter (newRecoveryCodes services subject.identityID draws)
    hretires (fun row hrow hid => ?_) rfl rfl htimely rfl (by rw [← hcodes]; rfl) hkeys hhashes
  -- The row of a factor keeps its key when it is deactivated.
  obtain ⟨_, _, -, -, hmid⟩ := hretires.factors
  refine hfresh _ (by rw [hmid]; exact mem_map_of_mem hrow) ?_
  split <;> exact hid

theorem codeStep_factorRequest (h : CodesUsed db accepted) {request : FactorRequest} {reply : FactorReply}
    (hok : db.factorRequestTx services subject draws now request = .ok (db', reply)) :
    CodeStep db db' now reply.accepted := by
  cases factorRequestTx_outcome hok with
  | setups => exact .quiet (.of_eq rfl rfl)
  | checked hload hverify =>
    obtain ⟨hmem, -, hactive⟩ := loadActive_eq_some hload
    exact codeStep_verify h hmem hactive hverify (.of_eq rfl rfl)
  | activated hmatch hactivate => exact codeStep_activate h (matchTOTP_bounds hmatch).1 hactivate
  | @removed factor _ verified _ _ hload hverify =>
    obtain ⟨hmem, -, hactive⟩ := loadActive_eq_some hload
    have hretires := @retires_deactivateFactor verified factor.id subject.identityID (.removed now) (by simp)
    exact codeStep_verify h hmem hactive hverify ⟨hretires.codes, hretires.factors⟩

theorem CodeStep.mem_of_inactive (hstep : CodeStep db db' now taken)
    (hmem : factor ∈ db.factors) (hinactive : factor.status ≠ .active) : factor ∈ db'.factors := by
  cases hstep with
  | quiet hretires => exact hretires.mem_of_inactive hmem hinactive
  | counter used counter hused hactive hlater htimely hretires =>
    refine hretires.mem_of_inactive (mem_updateWhere_of_not hmem ?_) hinactive
    simp [unusedAt, hinactive]
  | recovery used row hused hactive hrow howner hunused hretires => exact hretires.mem_of_inactive hmem hinactive
  | activated mid new counter codes hretires hfresh hactive hlast htimely hfactors =>
    rw [hfactors]
    exact mem_append_left _ (hretires.mem_of_inactive hmem hinactive)

end AuthStore

/-! ### Runs -/

namespace AuthSystem

open AuthStore

variable {services : AuthServices} {s : AuthSystem} {now : Time}

/-- The codes of a system, as its tables know them. -/
def CodesUsed (s : AuthSystem) : Prop := AuthStore.CodesUsed s.db s.accepted

/-- An event takes at most one code, at its own clock reading. -/
structure TakesCode (s s' : AuthSystem) (now : Time) (taken : Option Acceptance) : Prop where
  accepted : s'.accepted = s.accepted ++ taken.toList
  step : CodeStep s.db s'.db now taken

variable {s' : AuthSystem}

theorem takesCode (h : s.CodesUsed) (event : AuthEvent) : ∃ taken, TakesCode s (s.step services event) event.now taken := by
  have houtcome := @step_outcome services s event
  generalize s.step services event = s' at houtcome ⊢
  obtain ⟨db', attempts, accepted⟩ := s'
  -- Only a sign-in with a code and a request on factors take a code.
  have hnone : db'.factors = s.db.factors → db'.recoveryCodes = s.db.recoveryCodes → accepted = s.accepted →
      ∃ taken, TakesCode s ⟨db', attempts, accepted⟩ event.now taken := by
    rintro hfactors hcodes rfl
    exact ⟨none, (append_nil _).symm, .quiet (.of_eq hfactors hcodes)⟩
  cases houtcome with
  | same | sessions | admission | passwordFailed | mfaFailed | mfaSucceeded => exact hnone rfl rfl rfl
  | passwordLogin _ _ _ hok =>
    obtain ⟨_, _, rfl⟩ := passwordLoginTx_frame hok
    exact hnone rfl rfl rfl
  | @completeMFALogin _ _ _ _ reply hevent hok =>
    subst hevent
    exact ⟨reply.accepted, rfl, codeStep_completeMFALogin h hok⟩
  | @factorRequest _ _ _ _ _ _ reply hevent hok =>
    subst hevent
    exact ⟨reply.accepted, rfl, codeStep_factorRequest h hok⟩

theorem CodesUsed.step (h : s.CodesUsed) (event : AuthEvent) : (s.step services event).CodesUsed := by
  obtain ⟨taken, htakes⟩ := @takesCode services s h event
  rw [CodesUsed, htakes.accepted]
  exact AuthStore.CodesUsed.step h htakes.step

theorem codesUsed_initial (identities : List Identity) (credentials : List PasswordCredential) :
    (initial identities credentials).CodesUsed :=
  ⟨nodup_nil, nodup_nil, nodup_nil, by simp [initial], fun _ => List.Pairwise.nil, by simp [initial],
    by simp [initial], nodup_nil⟩

/-- The factor a code was taken for was active: in the store before, or, for the code of a confirmation,
as the factor that the event activates. A recovery code was an unused one of the factor. -/
def TakenWhileActive (s s' : AuthSystem) (acceptance : Acceptance) : Prop :=
  match acceptance.code with
  | .totp _ =>
    (∃ factor ∈ s.db.factors, factor.id = acceptance.factorID ∧ factor.status = .active) ∨
      (∀ factor ∈ s.db.factors, factor.id ≠ acceptance.factorID) ∧
        ∃ factor ∈ s'.db.factors, factor.id = acceptance.factorID ∧ factor.status = .active
  | .recovery codeHash =>
    (∃ factor ∈ s.db.factors, factor.id = acceptance.factorID ∧ factor.status = .active) ∧
      ∃ row ∈ s.db.recoveryCodes, row.factorID = acceptance.factorID ∧ row.codeHash = codeHash ∧ row.usedAt = none

theorem TakesCode.whileActive (h : TakesCode s s' now (some acceptance)) :
    acceptance.acceptedAt = now ∧ TakenWhileActive s s' acceptance := by
  have hstep := h.step
  generalize htaken : some acceptance = taken at hstep
  cases hstep with
  | quiet => cases htaken
  | counter factor counter hmem hactive =>
    cases htaken
    exact ⟨rfl, .inl ⟨factor, hmem, rfl, hactive⟩⟩
  | recovery factor row hmem hactive hrow howner hunused =>
    cases htaken
    exact ⟨rfl, ⟨factor, hmem, rfl, hactive⟩, row, hrow, howner, rfl, hunused⟩
  | activated mid factor counter codes hretires hfresh hactive hlast htimely hfactors =>
    cases htaken
    refine ⟨rfl, .inr ⟨hfresh, factor, ?_, rfl, hactive⟩⟩
    rw [hfactors]
    exact mem_append_right _ (mem_singleton_self _)

/-- No code is taken for a factor that is not active any more. -/
theorem TakenWhileActive.ne_inactive (h : s.CodesUsed) (htaken : TakenWhileActive s s' acceptance)
    (hmem : factor ∈ s.db.factors) (hinactive : factor.status ≠ .active) :
    acceptance.factorID ≠ factor.id := by
  intro hid
  -- An active row with the key of the deactivated one would be that row.
  have hother : ∀ other ∈ s.db.factors, other.id = acceptance.factorID → other.status ≠ .active := by
    intro other hmem' hid' hactive
    rw [h.factor_eq hmem' hmem (hid'.trans hid)] at hactive
    exact hinactive hactive
  unfold TakenWhileActive at htaken
  split at htaken
  · rcases htaken with ⟨other, hmem', hid', hactive⟩ | ⟨hfresh, -⟩
    · exact hother other hmem' hid' hactive
    · exact hfresh factor hmem hid.symm
  · obtain ⟨⟨other, hmem', hid', hactive⟩, -⟩ := htaken
    exact hother other hmem' hid' hactive

/-- The codes a run takes after a factor was deactivated are codes of other factors. -/
theorem run_inactive (h : s.CodesUsed) (hmem : factor ∈ s.db.factors) (hinactive : factor.status ≠ .active)
    (events : List AuthEvent) :
    ∃ new, (s.run services events).accepted = s.accepted ++ new ∧ ∀ acceptance ∈ new, acceptance.factorID ≠ factor.id := by
  induction events generalizing s with
  | nil => exact ⟨[], (append_nil _).symm, forall_mem_nil _⟩
  | cons event rest ih =>
    obtain ⟨taken, htakes⟩ := @takesCode services s h event
    obtain ⟨new, hnew, hne⟩ := ih (h.step event) (htakes.step.mem_of_inactive hmem hinactive)
    refine ⟨taken.toList ++ new, ?_, fun acceptance hacc => ?_⟩
    · rw [run, foldl_cons, ← run, hnew, htakes.accepted, append_assoc]
    · rcases mem_append.mp hacc with hfirst | hlater
      · rw [Option.mem_toList] at hfirst
        subst hfirst
        exact htakes.whileActive.2.ne_inactive h hmem hinactive
      · exact hne acceptance hlater

/-- **One-time codes are used once.** After any run the steps taken for a factor, that of its confirmation
included, are strictly increasing, each within one step of the clock at that moment, and no recovery
code was taken twice. The next event takes at most one code, at its own clock reading and for a factor that is active
then; and once a factor was replaced or disabled, no later run takes a code for it. -/
theorem codes_used_once (services : AuthServices) (identities : List Identity) (credentials : List PasswordCredential)
    (events : List AuthEvent) :
    let s := (initial identities credentials).run services events
    (∀ factorID, (acceptedCounters s.accepted factorID).Pairwise (· < ·)) ∧
      (∀ acceptance ∈ s.accepted, ∀ counter, acceptance.code = .totp counter →
        |counter - totpCounter acceptance.acceptedAt| ≤ 1) ∧
      (acceptedRecoveryCodes s.accepted).Nodup ∧
      (∀ event, (s.step services event).accepted = s.accepted ∨
        ∃ acceptance, (s.step services event).accepted = s.accepted ++ [acceptance] ∧
          acceptance.acceptedAt = event.now ∧ TakenWhileActive s (s.step services event) acceptance) ∧
      ∀ factor ∈ s.db.factors, factor.status ≠ .active → ∀ later,
        ∃ new, (s.run services later).accepted = s.accepted ++ new ∧
          ∀ acceptance ∈ new, acceptance.factorID ≠ factor.id := by
  intro s
  have h : s.CodesUsed := run_induction (codesUsed_initial identities credentials) (fun _ event h => h.step event) events
  refine ⟨h.increasing, h.timely, h.once, fun event => ?_, fun factor hmem hinactive later => ?_⟩
  · obtain ⟨taken, htakes⟩ := @takesCode services s h event
    cases taken with
    | none =>
      left
      rw [htakes.accepted, Option.toList_none, append_nil]
    | some acceptance => exact .inr ⟨acceptance, htakes.accepted, htakes.whileActive⟩
  · exact run_inactive h hmem hinactive later

end AuthSystem

end Stackfort.Authentication
