import Stackfort.AuthenticationRuns

/-! The second factor is required. While an identity has an active factor, none of its open sessions was
opened with a password alone; and a session of a higher level was opened by a sign-in that consumed an open
challenge of the identity together with a code of the factor active at that moment. Every transaction
is taken apart once: the sessions it leaves go back to sessions that were there, unless it opens one, and the
active factors go back to active factors, unless it activates one. -/

namespace Stackfort.Authentication

open List

variable {factor : TOTPFactor} {params : CompleteMFALoginParams} {challenge : MFALoginChallenge} {session : Session}
  {reason : String}

namespace AuthStore

variable {services : AuthServices} {db db' db'' : AuthStore} {now : Time}

theorem SessionKept.refl (session : Session) : SessionKept session session := ⟨rfl, rfl, rfl, id⟩

theorem SessionKept.trans {a b c : Session} (h : SessionKept a b) (h' : SessionKept b c) : SessionKept a c :=
  ⟨h'.key.trans h.key, h'.identity.trans h.identity, h'.level.trans h.level, fun hc => h.revoked (h'.revoked hc)⟩

/-- Sessions are only touched and revoked, and no factor becomes active. -/
structure Continues (db db' : AuthStore) : Prop where
  keys : db'.sessions.map Session.id = db.sessions.map Session.id
  sessions : ∀ new ∈ db'.sessions, ∃ old ∈ db.sessions, SessionKept old new
  factors : ∀ new ∈ db'.factors, new.status = .active →
    ∃ old ∈ db.factors, old.status = .active ∧ old.identityID = new.identityID

theorem Continues.of_eq (hsessions : db'.sessions = db.sessions) (hfactors : db'.factors = db.factors) :
    Continues db db' := by
  refine ⟨by rw [hsessions], fun new hnew => ?_, fun new hnew hactive => ?_⟩
  · rw [hsessions] at hnew
    exact ⟨new, hnew, .refl new⟩
  · rw [hfactors] at hnew
    exact ⟨new, hnew, hactive, rfl⟩

theorem Continues.refl (db : AuthStore) : Continues db db := .of_eq rfl rfl

theorem Continues.trans (h : Continues db db') (h' : Continues db' db'') : Continues db db'' := by
  refine ⟨h'.keys.trans h.keys, fun new hnew => ?_, fun new hnew hactive => ?_⟩
  · obtain ⟨mid, hmid, hkept'⟩ := h'.sessions new hnew
    obtain ⟨old, hold, hkept⟩ := h.sessions mid hmid
    exact ⟨old, hold, hkept.trans hkept'⟩
  · obtain ⟨mid, hmid, hmidActive, hidentity'⟩ := h'.factors new hnew hactive
    obtain ⟨old, hold, holdActive, hidentity⟩ := h.factors mid hmid hmidActive
    exact ⟨old, hold, holdActive, hidentity.trans hidentity'⟩

/-! ### Statements -/

theorem continues_updateSessions {p : Session → Bool} {f : Session → Session} (hf : ∀ row, SessionKept row (f row)) :
    Continues db { db with sessions := updateWhere p f db.sessions } := by
  refine ⟨keys_updateWhere (fun row => (hf row).key) _, fun new hnew => ?_,
    fun new hnew hactive => ⟨new, hnew, hactive, rfl⟩⟩
  obtain ⟨old, hold, rfl⟩ := mem_map.mp hnew
  refine ⟨old, hold, ?_⟩
  split
  · exact hf old
  · exact .refl old

theorem continues_revokeSessions (selects : Session → Bool) (reason : String) (now : Time) :
    Continues db (db.revokeSessions selects reason now) :=
  continues_updateSessions fun _ => ⟨rfl, rfl, rfl, nofun⟩

theorem continues_updateFactors {p : TOTPFactor → Bool} {f : TOTPFactor → TOTPFactor}
    (hidentity : ∀ row, (f row).identityID = row.identityID)
    (hf : ∀ row, p row = true → (f row).status = .active → row.status = .active) :
    Continues db { db with factors := updateWhere p f db.factors } := by
  refine ⟨rfl, fun new hnew => ⟨new, hnew, .refl new⟩, fun new hnew hactive => ?_⟩
  obtain ⟨old, hold, rfl⟩ := mem_map.mp hnew
  by_cases hp : p old = true
  · rw [if_pos hp] at hactive ⊢
    exact ⟨old, hold, hf old hp hactive, (hidentity old).symm⟩
  · rw [if_neg hp] at hactive ⊢
    exact ⟨old, hold, hactive, rfl⟩

theorem continues_useCounter (factor : TOTPFactor) (counter : Int) : Continues db (db.useCounter factor counter) :=
  continues_updateFactors (fun _ => rfl) fun _ _ h => h

theorem continues_deactivateFactor (factorID identityID : ID) (status : FactorStatus) :
    Continues db (db.deactivateFactor factorID identityID status) := by
  refine continues_updateFactors (fun _ => rfl) fun row hp _ => ?_
  simp only [and_eq_true, decide_eq_true_eq] at hp
  exact hp.2

theorem continues_verify {code : String} {verified : AuthStore} {taken : Option AcceptedCode}
    (h : db.verifyCurrentFactorTx services factor code now = (verified, taken)) : Continues db verified := by
  obtain rfl : (db.verifyCurrentFactorTx services factor code now).1 = verified := congrArg Prod.fst h
  unfold verifyCurrentFactorTx
  dsimp only
  split
  · exact continues_useCounter _ _
  · split
    · exact .refl db
    · split
      · exact .refl db
      · exact .of_eq rfl rfl

/-! ### Transactions -/

variable {identityID : ID} {draws : AuthDraws}

theorem loadActive_eq_none (h : db.loadActiveTOTPFactorTx identityID = none) :
    ∀ factor ∈ db.factors, factor.status = .active → factor.identityID ≠ identityID := by
  intro factor hfactor hactive hidentity
  have hnot := List.find?_eq_none.mp h factor hfactor
  simp [hidentity, hactive] at hnot

theorem loadActive_eq_some (h : db.loadActiveTOTPFactorTx identityID = some factor) :
    factor ∈ db.factors ∧ factor.identityID = identityID ∧ factor.status = .active := by
  have hsome := find?_some h
  simp only [and_eq_true, decide_eq_true_eq] at hsome
  exact ⟨mem_of_find?_eq_some h, hsome.1, hsome.2⟩

theorem continues_rotatePreviousSession (tokenHash : Bytes) : Continues db (db.rotatePreviousSessionTx tokenHash now) := by
  unfold rotatePreviousSessionTx
  split
  · exact .refl db
  · exact continues_revokeSessions _ _ _

/-- A password sign-in opens a session only for an identity without an active factor. -/
theorem passwordLoginTx_cases {candidate : PasswordCandidate} {identityKey previousToken : String}
    (h : db.passwordLoginTx services candidate identityKey previousToken draws now = .ok db') :
    Continues db db' ∨
      ∃ mid, Continues db mid ∧ db'.sessions = mid.sessions ++ [passwordSession services candidate.identity.id draws now] ∧
        db'.factors = mid.factors ∧
        ∀ factor ∈ db.factors, factor.status = .active → factor.identityID ≠ candidate.identity.id := by
  rcases passwordLoginTx_outcome h with ⟨challenges, rfl⟩ | ⟨hnone, rotated, hrotated, rfl⟩
  · exact .inl (.of_eq rfl rfl)
  · refine .inr ⟨rotated, ?_, rfl, rfl, loadActive_eq_none hnone⟩
    rcases hrotated with rfl | ⟨tokenHash, rfl⟩
    · exact .refl _
    · exact continues_rotatePreviousSession tokenHash

/-- What it takes to open a session with a second factor, in the store before. -/
structure OpensWithFactor (services : AuthServices) (db : AuthStore) (params : CompleteMFALoginParams) (now : Time)
    (challenge : MFALoginChallenge) (factor : TOTPFactor) (code : AcceptedCode) : Prop where
  stored : challenge ∈ db.challenges
  named : challenge.tokenHash = services.sha256 params.challengeToken
  unconsumed : challenge.consumedAt = none
  unexpired : now < challenge.expiresAt
  attempts : challenge.attemptCount < totpMaximumAttempts
  factorStored : factor ∈ db.factors
  active : factor.status = .active
  owner : factor.identityID = challenge.identityID
  accepted : (db.verifyCurrentFactorTx services factor params.code now).2 = some code

theorem openChallenge_eq_some {tokenHash : Bytes} {identity : Identity}
    (h : db.openChallenge tokenHash = some (challenge, identity)) :
    challenge ∈ db.challenges ∧ challenge.tokenHash = tokenHash ∧ challenge.consumedAt = none := by
  obtain ⟨found, hfound, hjoin⟩ := Option.bind_eq_some_iff.mp h
  obtain ⟨_, -, hpair⟩ := Option.map_eq_some_iff.mp hjoin
  cases hpair
  have hsome := find?_some hfound
  simp only [and_eq_true, decide_eq_true_eq, Option.isNone_iff_eq_none] at hsome
  exact ⟨mem_of_find?_eq_some hfound, hsome.1, hsome.2⟩

/-- A session row that is left has its key from before. -/
theorem Continues.fresh (h : Continues db db') {id : ID} (hfresh : ∀ session ∈ db'.sessions, session.id ≠ id) :
    ∀ session ∈ db.sessions, session.id ≠ id := by
  intro session hsession heq
  have hmem : session.id ∈ db'.sessions.map Session.id := by
    rw [h.keys]
    exact mem_map_of_mem hsession
  obtain ⟨new, hnew, hid⟩ := mem_map.mp hmem
  exact hfresh new hnew (hid.trans heq)

theorem mem_consumeChallenges (hmem : challenge ∈ db.challenges) (hopen : challenge.consumedAt = none) :
    { challenge with consumedAt := some now } ∈ (db.consumeChallenges (fun row => row.id = challenge.id) now).challenges := by
  refine mem_map.mpr ⟨challenge, hmem, ?_⟩
  rw [if_pos (by simp [hopen])]

theorem continues_revokePreviousSession (challenge : MFALoginChallenge) (now : Time) :
    Continues db (db.revokePreviousSession challenge now) := by
  unfold revokePreviousSession
  split
  · exact .refl db
  · exact continues_revokeSessions _ _ _

/-- The transaction of a sign-in with a second factor leaves the sessions as they are, or consumes a challenge
with a code and opens one. -/
theorem completeMFALoginTx_cases {reply : MFAReply}
    (h : db.completeMFALoginTx services params draws now = .ok (db', reply)) :
    Continues db db' ∨
      ∃ mid challenge factor code, Continues db mid ∧ OpensWithFactor services db params now challenge factor code ∧
        (∀ session ∈ db.sessions, session.id ≠ draws.sessionID) ∧
        db'.sessions = mid.sessions ++ [mfaSession services challenge.identityID code draws now] ∧
        db'.factors = mid.factors ∧
        ∃ row ∈ db'.challenges, row.id = challenge.id ∧ row.consumedAt = some now := by
  cases completeMFALoginTx_outcome h with
  | refused => exact .inl (.refl db)
  | ended => exact .inl (.of_eq rfl rfl)
  | checked _ _ hverify => exact .inl ((continues_verify hverify).trans (.of_eq rfl rfl))
  | @opened challenge identity factor verified code inserted hopen _ hunexpired hattempts hload hverify hinsert =>
    obtain ⟨hstored, hnamed, hunconsumed⟩ := openChallenge_eq_some hopen
    obtain ⟨hfactor, howner, hactive⟩ := loadActive_eq_some hload
    obtain ⟨hfresh, rfl⟩ := insertSession_eq hinsert
    -- The sessions before the insert are those of the store, one of them perhaps revoked.
    have hconsumed : Continues verified (verified.consumeChallenges (fun row => row.id = challenge.id) now) :=
      .of_eq rfl rfl
    have hmid := (continues_verify hverify).trans
      (hconsumed.trans (continues_revokePreviousSession challenge now))
    refine .inr ⟨_, challenge, factor, code, hmid, ?_, hmid.fresh hfresh, rfl, rfl, ?_⟩
    · exact ⟨hstored, hnamed, hunconsumed, hunexpired, hattempts, hfactor, hactive, howner, by rw [hverify]⟩
    · refine ⟨{ challenge with consumedAt := some now }, ?_, rfl, rfl⟩
      obtain ⟨sessions, hrevoked⟩ := @revokePreviousSession_frame
        (verified.consumeChallenges (fun row => row.id = challenge.id) now) now challenge
      obtain ⟨factors, codes, rfl⟩ := verify_frame hverify
      rw [hrevoked]
      exact mem_consumeChallenges hstored hunconsumed

/-- Sessions that a full revocation leaves open belong to others. -/
theorem revoked_of_mem_revokeIdentity
    (hmem : session ∈ (db.revokeIdentitySessionsTx identityID none reason now).sessions)
    (hidentity : session.identityID = identityID) : session.revoked ≠ none := by
  intro hopen
  obtain ⟨-, hnot⟩ := mem_of_mem_updateWhere hmem hopen fun _ h => by cases h
  exact hnot (by simp [hopen, hidentity])

theorem continues_replaceFactor (identityID : ID) (current : Option ID) (now : Time) :
    Continues db (db.replaceFactor identityID current now) := by
  cases current with
  | none => exact .refl db
  | some factorID => exact continues_deactivateFactor _ _ _

/-- A request on factors activates a factor only when it ends every session of the identity. -/
theorem factorRequestTx_cases {subject : AuthorizationSubject} {request : FactorRequest}
    {reply : FactorReply} (h : db.factorRequestTx services subject draws now request = .ok (db', reply)) :
    Continues db db' ∨
      (∀ new ∈ db'.sessions, (∃ old ∈ db.sessions, SessionKept old new) ∧
        (new.identityID = subject.identityID → new.revoked ≠ none)) ∧
      ∀ new ∈ db'.factors, new.status = .active →
        (∃ old ∈ db.factors, old.status = .active ∧ old.identityID = new.identityID) ∨
          new.identityID = subject.identityID := by
  cases factorRequestTx_outcome h with
  | setups => exact .inl (.of_eq rfl rfl)
  | checked _ hverify => exact .inl ((continues_verify hverify).trans (.of_eq rfl rfl))
  | @activated _ current _ _ _ _ hactivate =>
    obtain ⟨codes, setups, rfl⟩ := activateFactor_frame hactivate
    have hreplaced := @continues_replaceFactor db subject.identityID current now
    have hended : Continues db _ := hreplaced.trans (continues_revokeSessions
      (fun row => row.identityID = subject.identityID && Option.all (fun id => row.id ≠ id) none) "factor_changed" now)
    refine .inr ⟨fun new hnew => ?_, fun new hnew hactive => ?_⟩
    · exact ⟨hended.sessions new hnew, revoked_of_mem_revokeIdentity hnew⟩
    · rcases mem_append.mp hnew with hold | hadded
      · exact .inl (hreplaced.factors new hold hactive)
      · rw [mem_singleton.mp hadded]
        exact .inr rfl
  | @removed factor _ verified _ setups _ hverify =>
    have hremoved : Continues db { verified.deactivateFactor factor.id subject.identityID (.removed now) with
        setups := setups } :=
      (continues_verify hverify).trans ((continues_deactivateFactor _ _ _).trans (.of_eq rfl rfl))
    exact .inl (hremoved.trans (continues_revokeSessions _ _ _))

end AuthStore

/-! ### Runs -/

namespace AuthSystem

open AuthStore

variable {services : AuthServices} {s : AuthSystem} {now : Time} {old new : Session}

/-- While an identity has an active factor, none of its open sessions was opened with a password alone. -/
def SecondFactorKept (db : AuthStore) : Prop :=
  ∀ factor ∈ db.factors, factor.status = .active → ∀ session ∈ db.sessions,
    session.identityID = factor.identityID → session.revoked = none → session.authenticationLevel ≠ .password

/-- What an event does to sessions and active factors. -/
inductive SessionStep (services : AuthServices) (s : AuthSystem) (event : AuthEvent) (db' : AuthStore) : Prop where
  | continues (h : Continues s.db db')
  | password (mid : AuthStore) (identityID : ID) (draws : AuthDraws) (now : Time) (hmid : Continues s.db mid)
      (hsessions : db'.sessions = mid.sessions ++ [passwordSession services identityID draws now])
      (hfactors : db'.factors = mid.factors)
      (hnone : ∀ factor ∈ s.db.factors, factor.status = .active → factor.identityID ≠ identityID)
  | mfa (params : CompleteMFALoginParams) (draws : AuthDraws) (now : Time) (mid : AuthStore)
      (challenge : MFALoginChallenge) (factor : TOTPFactor) (code : AcceptedCode)
      (hevent : event = .completeMFALogin params draws now) (hmid : Continues s.db mid)
      (hopens : OpensWithFactor services s.db params now challenge factor code)
      (hfresh : ∀ session ∈ s.db.sessions, session.id ≠ draws.sessionID)
      (hsessions : db'.sessions = mid.sessions ++ [mfaSession services challenge.identityID code draws now])
      (hfactors : db'.factors = mid.factors)
      (hconsumed : ∃ row ∈ db'.challenges, row.id = challenge.id ∧ row.consumedAt = some now)
  | activated (identityID : ID)
      (hsessions : ∀ new ∈ db'.sessions, (∃ old ∈ s.db.sessions, SessionKept old new) ∧
        (new.identityID = identityID → new.revoked ≠ none))
      (hfactors : ∀ new ∈ db'.factors, new.status = .active →
        (∃ old ∈ s.db.factors, old.status = .active ∧ old.identityID = new.identityID) ∨ new.identityID = identityID)

theorem sessionStep (s : AuthSystem) (event : AuthEvent) : SessionStep services s event (s.step services event).db := by
  have houtcome := @step_outcome services s event
  generalize (s.step services event).db = db', (s.step services event).accepted = accepted at houtcome ⊢
  cases houtcome with
  | same => exact .continues (.refl _)
  | @sessions selects f _ hf =>
    have hsessions := @continues_updateSessions s.db selects f hf
    exact .continues (hsessions.trans (.of_eq rfl rfl))
  | admission | passwordFailed | mfaFailed | mfaSucceeded => exact .continues (.of_eq rfl rfl)
  | @passwordLogin _ draws now _ candidate _ _ _ _ hok =>
    rcases passwordLoginTx_cases hok with hquiet | ⟨mid, hmid, hsessions, hfactors, hnone⟩
    · exact .continues hquiet
    · exact .password mid candidate.identity.id draws now hmid hsessions hfactors hnone
  | @completeMFALogin params draws now _ _ hevent hok =>
    rcases completeMFALoginTx_cases hok with
      hquiet | ⟨mid, challenge, factor, code, hmid, hopens, hfresh, hsessions, hfactors, hconsumed⟩
    · exact .continues hquiet
    · exact .mfa params draws now mid challenge factor code hevent hmid hopens hfresh hsessions hfactors hconsumed
  | @factorRequest _ subject _ _ _ _ _ _ hok =>
    rcases factorRequestTx_cases hok with hquiet | ⟨hsessions, hfactors⟩
    · exact .continues hquiet
    · exact .activated subject.identityID hsessions hfactors

/-- A session and an active factor that go back to rows from before. -/
theorem SecondFactorKept.level_ne (h : SecondFactorKept s.db)
    (hsession : ∃ old ∈ s.db.sessions, SessionKept old session)
    (hfactor : ∃ old ∈ s.db.factors, old.status = .active ∧ old.identityID = factor.identityID)
    (hidentity : session.identityID = factor.identityID) (hopen : session.revoked = none) :
    session.authenticationLevel ≠ .password := by
  obtain ⟨old, hold, hkept⟩ := hsession
  obtain ⟨oldFactor, hmem, hactive, howner⟩ := hfactor
  rw [hkept.level]
  exact h oldFactor hmem hactive old hold (by rw [← hkept.identity, hidentity, howner]) (hkept.revoked hopen)

theorem SecondFactorKept.step (h : SecondFactorKept s.db) (event : AuthEvent) :
    SecondFactorKept (s.step services event).db := by
  intro factor hfactor hactive session hsession hidentity hopen
  cases sessionStep s event with
  | continues hc =>
    exact h.level_ne (hc.sessions session hsession) (hc.factors factor hfactor hactive) hidentity hopen
  | password mid identityID draws now hmid hsessions hfactors hnone =>
    rw [hfactors] at hfactor
    have hold := hmid.factors factor hfactor hactive
    rw [hsessions, mem_append, mem_singleton] at hsession
    rcases hsession with hmem | rfl
    · exact h.level_ne (hmid.sessions session hmem) hold hidentity hopen
    · -- The identity that gets a session by its password alone has no active factor.
      obtain ⟨oldFactor, hfactorMem, hfactorActive, howner⟩ := hold
      exact absurd (howner.trans hidentity.symm) (hnone oldFactor hfactorMem hfactorActive)
  | mfa params draws now mid challenge used code hevent hmid hopens hfresh hsessions hfactors hconsumed =>
    rw [hfactors] at hfactor
    rw [hsessions, mem_append, mem_singleton] at hsession
    rcases hsession with hmem | rfl
    · exact h.level_ne (hmid.sessions session hmem) (hmid.factors factor hfactor hactive) hidentity hopen
    · cases code <;> nofun
  | activated identityID hsessions hfactors =>
    obtain ⟨hold, hended⟩ := hsessions session hsession
    rcases hfactors factor hfactor hactive with hfactor | hnew
    · exact h.level_ne hold hfactor hidentity hopen
    · exact absurd hopen (hended (hidentity.trans hnew))

/-- The session was opened by this sign-in: it consumed a challenge of the identity that was open, and took a
code of the factor that was active then. -/
def OpenedBy (services : AuthServices) (s : AuthSystem) (params : CompleteMFALoginParams) (draws : AuthDraws)
    (now : Time) (session : Session) : Prop :=
  ∃ challenge factor code, OpensWithFactor services s.db params now challenge factor code ∧
    challenge.identityID = session.identityID ∧ session.authenticationLevel = code.level ∧
    session.id = draws.sessionID ∧ (∀ other ∈ s.db.sessions, other.id ≠ session.id) ∧
    (∃ row ∈ (s.step services (.completeMFALogin params draws now)).db.challenges,
      row.id = challenge.id ∧ row.consumedAt = some now) ∧
    ∃ row ∈ (s.step services (.completeMFALogin params draws now)).db.sessions, SessionKept row session

theorem OpenedBy.of_kept {draws : AuthDraws} (h : OpenedBy services s params draws now old)
    (hkept : SessionKept old new) :
    OpenedBy services s params draws now new := by
  obtain ⟨challenge, factor, code, hopens, hidentity, hlevel, hid, hfresh, hconsumed, row, hrow, hrowKept⟩ := h
  refine ⟨challenge, factor, code, hopens, hidentity.trans hkept.identity.symm, hkept.level.trans hlevel,
    hkept.key.trans hid, ?_, hconsumed, row, hrow, hrowKept.trans hkept⟩
  intro other hother
  rw [hkept.key]
  exact hfresh other hother

/-- The sign-in that opened a session, in the run that led to it. -/
def OpenedIn (services : AuthServices) (start : AuthSystem) (events : List AuthEvent) (session : Session) : Prop :=
  ∃ before params draws now after, events = before ++ AuthEvent.completeMFALogin params draws now :: after ∧
    OpenedBy services (start.run services before) params draws now session

theorem OpenedIn.concat {start : AuthSystem} {events : List AuthEvent}
    (h : OpenedIn services start events old) (hkept : SessionKept old new) (event : AuthEvent) :
    OpenedIn services start (events ++ [event]) new := by
  obtain ⟨before, params, draws, now, after, rfl, hopened⟩ := h
  exact ⟨before, params, draws, now, after ++ [event], by simp, hopened.of_kept hkept⟩

/-- Every session of a higher level goes back to the sign-in that opened it. -/
theorem openedIn_of_mem (start : AuthSystem) (hstart : start.db.sessions = []) (events : List AuthEvent) :
    ∀ session ∈ (start.run services events).db.sessions, session.authenticationLevel ≠ .password →
      OpenedIn services start events session := by
  induction events using List.reverseRecOn with
  | nil =>
    intro session hsession
    rw [run, foldl_nil, hstart] at hsession
    exact absurd hsession not_mem_nil
  | append_singleton events event ih =>
    intro session hsession hlevel
    rw [run_concat] at hsession
    -- A session that was there is traced by the induction; a new one by this event.
    have hold : (∃ old ∈ (start.run services events).db.sessions, SessionKept old session) →
        OpenedIn services start (events ++ [event]) session := by
      rintro ⟨old, hmem, hkept⟩
      exact (ih old hmem (by rwa [← hkept.level])).concat hkept event
    cases sessionStep (start.run services events) event with
    | continues hc => exact hold (hc.sessions session hsession)
    | password mid identityID draws now hmid hsessions hfactors hnone =>
      rw [hsessions, mem_append, mem_singleton] at hsession
      rcases hsession with hmem | rfl
      · exact hold (hmid.sessions session hmem)
      · exact absurd rfl hlevel
    | mfa params draws now mid challenge factor code hevent hmid hopens hfresh hsessions hfactors hconsumed =>
      have hmem := hsession
      rw [hsessions, mem_append, mem_singleton] at hsession
      rcases hsession with hmem | rfl
      · exact hold (hmid.sessions session hmem)
      · subst hevent
        exact ⟨events, params, draws, now, [], rfl, challenge, factor, code, hopens, rfl, rfl, rfl, hfresh,
          hconsumed, _, hmem, .refl _⟩
    | activated identityID hsessions hfactors => exact hold (hsessions session hsession).1

/-- **The second factor cannot be bypassed.** Whatever requests interleave, an identity with an active factor has
no open session that was opened with its password alone, and every session of a higher level was opened by a
sign-in that consumed an open challenge of its identity with a code of the factor active at that moment. -/
theorem second_factor_required (services : AuthServices) (identities : List Identity)
    (credentials : List PasswordCredential) (events : List AuthEvent) :
    SecondFactorKept ((initial identities credentials).run services events).db ∧
      ∀ session ∈ ((initial identities credentials).run services events).db.sessions, session.revoked = none →
        session.authenticationLevel ≠ .password → OpenedIn services (initial identities credentials) events session := by
  constructor
  · exact run_induction (P := fun s => SecondFactorKept s.db)
      (fun factor hfactor => absurd hfactor not_mem_nil) (fun s event h => h.step event) events
  · intro session hsession _ hlevel
    exact openedIn_of_mem _ rfl events session hsession hlevel

end AuthSystem

namespace AuthSample

open AuthSystem

def subject : AuthorizationSubject := ⟨"identity", "session-1"⟩

/-- The code of the current step and the one of the next: the number of the step modulo 256. -/
def currentCode : String := hotp services [] (totpCounter start).toNat

def nextCode : String := hotp services [] ((totpCounter start).toNat + 1)

/-- A sign-in by password, the enrolment of a factor, and a sign-in with the factor half a minute later. -/
def enrolment : List AuthEvent :=
  [login "p" "192.0.2.1" start, .advance 0 (draws "1") start, .advance 0 (draws "1") start,
    .requestFactor subject (.beginEnrollment "") start, .advance 1 (draws "1") start, .advance 1 (draws "1") start,
    .requestFactor subject (.confirmEnrollment (draws "1").setupID currentCode) start, .advance 2 (draws "1") start,
    .advance 2 (draws "1") start,
    login "p" "192.0.2.2" (start + 30 * second), .advance 3 (draws "2") (start + 30 * second),
    .advance 3 (draws "2") (start + 30 * second),
    .completeMFALogin ⟨"sfm_2", nextCode, ""⟩ (draws "2") (start + 30 * second)]

/-- The run ends with a session that was opened with the second factor. -/
theorem second_factor_required_enrolled :
    ∃ session ∈ (system.run services enrolment).db.sessions, session.revoked = none ∧
      session.authenticationLevel = .totp ∧ OpenedIn services system enrolment session := by
  have hfound : ((system.run services enrolment).db.sessions.find? fun session =>
      session.revoked.isNone && session.authenticationLevel = .totp).isSome = true := by decide +kernel
  obtain ⟨session, hsession⟩ := Option.isSome_iff_exists.mp hfound
  have hmem := mem_of_find?_eq_some hsession
  have hsome := find?_some hsession
  simp only [and_eq_true, Option.isNone_iff_eq_none, decide_eq_true_eq] at hsome
  refine ⟨session, hmem, hsome.1, hsome.2, ?_⟩
  exact (second_factor_required services [identity] [credential] enrolment).2 session hmem hsome.1
    (by rw [hsome.2]; decide)

end AuthSample

end Stackfort.Authentication
