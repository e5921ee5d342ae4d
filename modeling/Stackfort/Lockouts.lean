import Stackfort.AuthenticationRuns

/-! Lockouts. A lock is the row that counts the failed password attempts of an address, or the failed codes of an
identity. While a block is stored that has not ended, an attempt is refused when it is admitted, so only attempts
that were admitted before the block was stored can still fail or succeed. Their failures are recorded
by a function that starts a new window, without a block, when the window of the row has ended: a block outlasts
its window, so a late failure ends it. As long as no failure is recorded in that gap, a block only moves to
a later end until an attempt from before it succeeds. All password attempts together share one row, which bounds how many
of them are admitted in a minute. -/

namespace Stackfort.Authentication

open List

/-! ### Rows -/

/-- A stored row, at a clock reading not before it was written: its block is counted from that moment, and there
were enough attempts. -/
structure LimitPolicy.Stored (policy : LimitPolicy) (row : LimitRow) (now : Time) : Prop where
  written : row.updatedAt ≤ now
  block : ∀ blocked ∈ row.blockedUntil, blocked = row.updatedAt + policy.block ∧ policy.limit ≤ row.attemptCount

/-- A failure is recorded before the window of its row has ended, or after its block has. -/
def LimitPolicy.InTime (policy : LimitPolicy) (row : Option LimitRow) (now : Time) : Prop :=
  ∀ stored ∈ row, policy.windowOver stored now = true → stored.blockedFor now = none

instance (policy : LimitPolicy) (row : Option LimitRow) (now : Time) : Decidable (policy.InTime row now) := by
  unfold LimitPolicy.InTime
  infer_instance

section Rows

variable {policy : LimitPolicy} {row : LimitRow} {now later blocked : Time}

theorem LimitPolicy.Stored.mono (h : policy.Stored row now) (hle : now ≤ later) : policy.Stored row later :=
  ⟨h.written.trans hle, h.block⟩

theorem LimitRow.blockedFor_of_lt (h : row.blockedUntil = some blocked) (hlt : now < blocked) :
    row.blockedFor now = some (blocked - now) := by
  rw [LimitRow.blockedFor, h]
  exact if_pos hlt

theorem stored_first (now : Time) : policy.Stored (.first now) now :=
  ⟨le_refl _, nofun⟩

theorem stored_recordFailure (stored : Option LimitRow) (now : Time) : policy.Stored (policy.recordFailure stored now) now := by
  cases stored with
  | none => exact stored_first now
  | some row =>
    unfold LimitPolicy.recordFailure
    dsimp only
    split
    · exact stored_first now
    refine ⟨le_refl _, fun blocked hblocked => ?_⟩
    dsimp only at hblocked ⊢
    split at hblocked
    · next hlimit =>
      cases hblocked
      exact ⟨rfl, hlimit⟩
    · cases hblocked

/-- **A failure in time renews the block.** The new end is not before the old one. -/
theorem recordFailure_blocked (hstored : policy.Stored row now) (hblocked : row.blockedUntil = some blocked)
    (hlt : now < blocked) (htime : policy.InTime (some row) now) :
    ∃ renewed, (policy.recordFailure (some row) now).blockedUntil = some renewed ∧ blocked ≤ renewed := by
  obtain ⟨hend, hcount⟩ := hstored.block blocked hblocked
  have hopen : ¬policy.windowOver row now = true := by
    intro hover
    have hnone := htime row rfl hover
    rw [LimitRow.blockedFor_of_lt hblocked hlt] at hnone
    cases hnone
  refine ⟨now + policy.block, ?_, ?_⟩
  · simp only [LimitPolicy.recordFailure, if_neg hopen]
    exact if_pos (Nat.le_succ_of_le hcount)
  · rw [hend]
    exact Nat.add_le_add_right hstored.written _

end Rows

/-! ### Tables -/

namespace AuthSystem

open AuthStore

variable {services : AuthServices} {s s₀ : AuthSystem} {identityKey : String} {limitedFor : Option Nat}
  {key : RateKey} {now : Time}

/-- A row whose block stops attempts. -/
inductive Lock where
  | password (identityKey : String)
  | mfa (identityID : ID)
  deriving DecidableEq

def lockRow (s : AuthSystem) : Lock → Option LimitRow
  | .password identityKey => s.db.rates (.identity identityKey)
  | .mfa identityID => s.db.mfaLimits identityID

def Lock.policy : Lock → LimitPolicy
  | .password _ => loginIdentityPolicy
  | .mfa _ => mfaAttemptPolicy

/-- The stored end of a block. -/
def blockedUntil (s : AuthSystem) (lock : Lock) : Option Time := (s.lockRow lock).bind LimitRow.blockedUntil

/-- The lock an attempt counts against once it has been admitted. -/
def admittedLock (services : AuthServices) : AuthAttempt → Option Lock
  | .passwordAdmitted params => some (.password (passwordIdentityKey services params.email).2)
  | .passwordLoaded params _ => some (.password (passwordIdentityKey services params.email).2)
  | .factorAuthorized _ _ => none
  | .factorAdmitted subject _ => some (.mfa subject.identityID)
  | .mfaFailed identityID => some (.mfa identityID)
  | .mfaSucceeded identityID => some (.mfa identityID)
  | .sessionRead _ _ => none
  | .finished => none

/-- The attempt at an index has been admitted and counts against the lock. -/
def Admitted (services : AuthServices) (attempts : List AuthAttempt) (lock : Lock) (index : Nat) : Prop :=
  (attempts[index]?).bind (admittedLock services) = some lock

instance (services : AuthServices) (attempts : List AuthAttempt) (lock : Lock) (index : Nat) :
    Decidable (Admitted services attempts lock index) := by
  unfold Admitted
  infer_instance

/-- The failure that an event records, if it records one, is recorded in time. -/
structure RecordsInTime (services : AuthServices) (s : AuthSystem) (event : AuthEvent) : Prop where
  password : ∀ index draws now params candidate, event = .advance index draws now →
    s.attempts[index]? = some (.passwordLoaded params candidate) → candidate.valid services params.password = false →
      loginIdentityPolicy.InTime (s.db.rates (.identity (passwordIdentityKey services params.email).2)) now
  mfa : ∀ index draws now identityID, event = .advance index draws now →
    s.attempts[index]? = some (.mfaFailed identityID) → mfaAttemptPolicy.InTime (s.db.mfaLimits identityID) now

/-- The same as a test. -/
def recordsInTime (services : AuthServices) (s : AuthSystem) (event : AuthEvent) : Bool :=
  match event with
  | .advance index _ now =>
    match s.attempts[index]? with
    | some (.passwordLoaded params candidate) =>
      candidate.valid services params.password ||
        loginIdentityPolicy.InTime (s.db.rates (.identity (passwordIdentityKey services params.email).2)) now
    | some (.mfaFailed identityID) => mfaAttemptPolicy.InTime (s.db.mfaLimits identityID) now
    | _ => true
  | _ => true

theorem recordsInTime_of_test {event : AuthEvent} (h : recordsInTime services s event = true) :
    RecordsInTime services s event := by
  constructor
  · rintro index draws now params candidate rfl hattempt hinvalid
    simpa [recordsInTime, hattempt, hinvalid] using h
  · rintro index draws now identityID rfl hattempt
    simpa [recordsInTime, hattempt] using h

/-- The condition holds at every event of a run. -/
def RunInTime (services : AuthServices) : AuthSystem → List AuthEvent → Prop
  | _, [] => True
  | s, event :: rest => RecordsInTime services s event ∧ RunInTime services (s.step services event) rest

/-- The event is the success of the attempt at an index, which clears its lock. -/
def Succeeds (services : AuthServices) (s : AuthSystem) (lock : Lock) (index : Nat) (event : AuthEvent) : Prop :=
  match event with
  | .advance i draws now =>
    i = index ∧
      match s.attempts[index]? with
      | some (.passwordLoaded params candidate) =>
        lock = .password (passwordIdentityKey services params.email).2 ∧
          candidate.valid services params.password = true ∧
          ∃ db', s.db.passwordLoginTx services candidate (passwordIdentityKey services params.email).2
            params.previousSessionToken draws now = .ok db'
      | some (.mfaSucceeded identityID) => lock = .mfa identityID
      | _ => False
  | _ => False

/-- No attempt that had been admitted in a first state succeeds during a run. -/
def NoneSucceeds (services : AuthServices) (s₀ : AuthSystem) (lock : Lock) : AuthSystem → List AuthEvent → Prop
  | _, [] => True
  | s, event :: rest =>
    (∀ index, Admitted services s₀.attempts lock index → ¬Succeeds services s lock index event) ∧
      NoneSucceeds services s₀ lock (s.step services event) rest

/-- The admission check that the event makes under a lock, if it makes one, refuses the attempt: a password
attempt does not join, a sign-in with a code changes nothing, and a request on factors ends. -/
def Refuses (services : AuthServices) (s : AuthSystem) (lock : Lock) (event : AuthEvent) : Prop :=
  match lock, event with
  | .password identityKey, .passwordLogin params _ =>
    (passwordIdentityKey services params.email).2 = identityKey →
      (s.step services event).attempts = s.attempts
  | .mfa identityID, .completeMFALogin params _ _ =>
    ∀ challenge identity, s.db.openChallenge (services.sha256 params.challengeToken) = some (challenge, identity) →
      challenge.identityID = identityID → s.step services event = s
  | .mfa identityID, .advance index _ _ =>
    ∀ subject request, s.attempts[index]? = some (.factorAuthorized subject request) →
      subject.identityID = identityID → (s.step services event).attempts = s.attempts.set index .finished
  | _, _ => True

/-! ### What an event does to a lock -/

/-- The row of a lock after an event. -/
inductive LockStep (services : AuthServices) (s : AuthSystem) (lock : Lock) (event : AuthEvent) :
    Option LimitRow → Prop where
  | same : LockStep services s lock event (s.lockRow lock)
  /-- The row is old enough to be deleted. -/
  | expired (hold : ∀ row ∈ s.lockRow lock, row.stale event.now = true) :
      LockStep services s lock event none
  | failed (htime : RecordsInTime services s event → lock.policy.InTime (s.lockRow lock) event.now) :
      LockStep services s lock event (some (lock.policy.recordFailure (s.lockRow lock) event.now))
  | cleared (index : Nat) (hadmitted : Admitted services s.attempts lock index)
      (hsucceeds : Succeeds services s lock index event) : LockStep services s lock event none
  /-- A sign-in with a code makes its check and clears the row in one transaction. -/
  | signedIn (hopen : ∀ row ∈ s.lockRow lock, row.blockedFor event.now = none) : LockStep services s lock event none

variable {lock : Lock} {event : AuthEvent}

theorem lockStep_of_eq {row : Option LimitRow} (h : row = s.lockRow lock) : LockStep services s lock event row := by
  rw [h]
  exact .same

variable {rates rates' : RateLimits} {sourceAddress : String}

/-- Writing a row of another key. -/
theorem write_of_ne {row : LimitRow} {other : RateKey} (h : rates.write key row = .ok rates') (hne : other ≠ key) :
    rates' other = rates other := by
  rw [RateLimits.write, ite_throw_eq_ok_iff] at h
  cases h.2
  exact Function.update_of_ne hne _ _

theorem applyLimit_self {policy : LimitPolicy}
    (h : applyAuthenticationAttemptLimitTx rates key policy now = .ok (rates', limitedFor)) :
    rates' key = some (policy.countAttempt (rates key) now).1 ∧ limitedFor = (policy.countAttempt (rates key) now).2 := by
  obtain ⟨written, hwrite, h⟩ := bind_eq_ok_iff.mp h
  rw [RateLimits.write, ite_throw_eq_ok_iff] at hwrite
  cases h
  cases hwrite.2
  exact ⟨Function.update_self .., rfl⟩

theorem applyLimit_of_ne {policy : LimitPolicy} {other : RateKey}
    (h : applyAuthenticationAttemptLimitTx rates key policy now = .ok (rates', limitedFor)) (hne : other ≠ key) :
    rates' other = rates other := by
  obtain ⟨written, hwrite, h⟩ := bind_eq_ok_iff.mp h
  cases h
  exact write_of_ne hwrite hne

/-- The admission of a password attempt leaves the rows of addresses alone, but for those it deletes, counts the attempt
in the row of all of them, and admits it only if that row does and the block of its own row has ended. -/
theorem authorizePasswordAttempt_cases
    (h : authorizePasswordAttempt rates sourceAddress identityKey now = .ok (rates', limitedFor)) :
    (∀ other, rates' (.identity other) = rates (.identity other) ∨ rates' (.identity other) = none ∧
      ∀ row ∈ rates (.identity other), row.stale now = true) ∧
    (limitedFor = none → ∀ row ∈ rates (.identity identityKey), row.blockedFor now = none) ∧
    rates' .global = some (loginGlobalPolicy.countAttempt (rates .global) now).1 ∧
    (limitedFor = none → (loginGlobalPolicy.countAttempt (rates .global) now).2 = none) := by
  unfold authorizePasswordAttempt at h
  obtain ⟨⟨rates₁, limited₁⟩, hglobal, h⟩ := bind_eq_ok_iff.mp h
  obtain ⟨hrow₁, hlimited₁⟩ := applyLimit_self hglobal
  rw [← hrow₁, ← hlimited₁]
  have h₁ : ∀ other, rates₁ (.identity other) = rates (.identity other) :=
    fun other => applyLimit_of_ne hglobal (by simp)
  dsimp only at h
  split at h
  · next hsome =>
    cases h
    exact ⟨fun other => .inl (h₁ other), fun hnone => by simp [hnone] at hsome, rfl, id⟩
  · next hadmits =>
    obtain ⟨⟨rates₂, limited₂⟩, hsource, h⟩ := bind_eq_ok_iff.mp h
    have h₂ : ∀ other, rates₂ (.identity other) = rates (.identity other) :=
      fun other => (applyLimit_of_ne hsource (by simp)).trans (h₁ other)
    have hcounted : rates₂ .global = rates₁ .global ∧ (limitedFor = none → limited₁ = none) :=
      ⟨applyLimit_of_ne hsource nofun, fun _ => Option.not_isSome_iff_eq_none.mp hadmits⟩
    dsimp only at h
    split at h
    · next hsome =>
      cases h
      exact ⟨fun other => .inl (h₂ other), fun hnone => by simp [hnone] at hsome, hcounted⟩
    · split at h
      · next hsome =>
        cases h
        exact ⟨fun other => .inl (h₂ other), fun hnone => by simp [hnone] at hsome, hcounted⟩
      · next hopen =>
        cases h
        refine ⟨fun other => ?_, fun _ row hrow => ?_, hcounted⟩
        · rw [RateLimits.expire, if_neg (by simp), h₂ other]
          cases hrow : rates (.identity other) with
          | none => exact .inl rfl
          | some row =>
            by_cases hold : row.stale now = true
            · right
              refine ⟨by simp [hold], fun stored hstored => ?_⟩
              cases hstored
              exact hold
            · exact .inl (by simp [hold])
        · rw [Option.mem_def] at hrow
          simpa [authenticationIdentityBlockedTx, h₂, hrow] using hopen

theorem lockStep_admission {params : PasswordLoginParams}
    (hok : authorizePasswordAttempt s.db.rates sourceAddress (passwordIdentityKey services params.email).2 now =
      .ok (rates, limitedFor)) (lock : Lock) :
    LockStep services s lock (.passwordLogin params now) ((s.withRates rates).lockRow lock) := by
  obtain ⟨hrows, -⟩ := authorizePasswordAttempt_cases hok
  cases lock with
  | password identityKey =>
    rcases hrows identityKey with hsame | ⟨hnone, hold⟩
    · exact lockStep_of_eq hsame
    · have hrow : (s.withRates rates).lockRow (.password identityKey) = none := hnone
      rw [hrow]
      exact .expired hold
  | mfa identityID => exact .same

theorem lockRow_of_tables {s' : AuthSystem} (hrates : s'.db.rates = s.db.rates) (hlimits : s'.db.mfaLimits = s.db.mfaLimits)
    (lock : Lock) : s'.lockRow lock = s.lockRow lock := by
  cases lock with
  | password identityKey => exact congrFun hrates _
  | mfa identityID => exact congrFun hlimits _

theorem attempts_commit (result : Except AuthError AuthStore) : (s.commit result).attempts = s.attempts := by
  cases result <;> rfl

end AuthSystem

variable {candidate : PasswordCandidate} {subject : AuthorizationSubject} {params : PasswordLoginParams}
  {identityID : ID}

namespace AuthStore

variable {services : AuthServices} {db db' : AuthStore} {now : Time} {draws : AuthDraws}

/-! ### The transactions and the limits -/

theorem verify_limits {factor : TOTPFactor} {code : String} {verified : AuthStore} {taken : Option AcceptedCode}
    (h : db.verifyCurrentFactorTx services factor code now = (verified, taken)) :
    verified.rates = db.rates ∧ verified.mfaLimits = db.mfaLimits := by
  obtain ⟨factors, codes, rfl⟩ := verify_frame h
  exact ⟨rfl, rfl⟩

theorem factorRequestTx_limits {request : FactorRequest} {reply : FactorReply}
    (h : db.factorRequestTx services subject draws now request = .ok (db', reply)) :
    db'.rates = db.rates ∧ db'.mfaLimits = db.mfaLimits := by
  cases factorRequestTx_outcome h with
  | setups => exact ⟨rfl, rfl⟩
  | @activated _ current _ _ _ _ hactivate =>
    obtain ⟨codes, setups, rfl⟩ := activateFactor_frame hactivate
    cases current <;> exact ⟨rfl, rfl⟩
  | checked _ hverify | removed _ hverify =>
    have hlimits := verify_limits hverify
    exact hlimits

/-- A sign-in with a code touches the limits only when the block of its identity has ended, and then at most
clears the row of the identity. -/
theorem completeMFALoginTx_limits {params : CompleteMFALoginParams} {reply : MFAReply}
    (h : db.completeMFALoginTx services params draws now = .ok (db', reply)) :
    db' = db ∧ reply.accepted = none ∧ (reply.failed = false ∨ reply.identityID = none) ∨
      ∃ identityID, reply.identityID = some identityID ∧ mfaAttemptRetryTx db.mfaLimits identityID now = none ∧
        db'.rates = db.rates ∧
        (db'.mfaLimits = db.mfaLimits ∨ db'.mfaLimits = clearMFAFailures db.mfaLimits identityID) := by
  cases completeMFALoginTx_outcome h with
  | refused _ haccepted hreply => exact .inl ⟨rfl, haccepted, hreply⟩
  | ended hretry => exact .inr ⟨_, rfl, hretry, rfl, .inl rfl⟩
  | checked hretry _ hverify =>
    obtain ⟨hrates, hlimits⟩ := verify_limits hverify
    exact .inr ⟨_, rfl, hretry, hrates, .inl hlimits⟩
  | @opened challenge _ _ verified _ _ _ hretry _ _ _ hverify hinsert =>
    obtain ⟨hrates, hlimits⟩ := verify_limits hverify
    obtain ⟨-, rfl⟩ := insertSession_eq hinsert
    obtain ⟨sessions, hrevoked⟩ := @revokePreviousSession_frame
      (verified.consumeChallenges (fun row => row.id = challenge.id) now) now challenge
    rw [hrevoked]
    exact .inr ⟨_, rfl, hretry, hrates, .inr (congrArg (clearMFAFailures · _) hlimits)⟩

end AuthStore

namespace AuthSystem

open AuthStore

variable {services : AuthServices} {s s₀ : AuthSystem} {lock : Lock} {event : AuthEvent} {now deadline last : Time}
  {row : LimitRow} {index : Nat}

/-- An event that writes one row. -/
theorem lockStep_of_write {s' : AuthSystem} (target : Lock) {written : Option LimitRow}
    (hwritten : s'.lockRow = Function.update s.lockRow target written) (htarget : LockStep services s target event written)
    (lock : Lock) : LockStep services s lock event (s'.lockRow lock) := by
  rw [hwritten]
  by_cases hlock : lock = target
  · subst hlock
    rwa [Function.update_self]
  · exact lockStep_of_eq (Function.update_of_ne hlock _ _)

theorem lockRow_password {s' : AuthSystem} {identityKey : String} {written : Option LimitRow}
    (hrates : s'.db.rates = Function.update s.db.rates (.identity identityKey) written)
    (hlimits : s'.db.mfaLimits = s.db.mfaLimits) :
    s'.lockRow = Function.update s.lockRow (.password identityKey) written := by
  funext lock
  cases lock <;> simp [lockRow, hrates, hlimits, Function.update_apply]

theorem lockRow_mfa {s' : AuthSystem} {written : Option LimitRow} (hrates : s'.db.rates = s.db.rates)
    (hlimits : s'.db.mfaLimits = Function.update s.db.mfaLimits identityID written) :
    s'.lockRow = Function.update s.lockRow (.mfa identityID) written := by
  funext lock
  cases lock <;> simp [lockRow, hrates, hlimits, Function.update_apply]

theorem lockStep_recordLogin {draws : AuthDraws}
    (hattempt : s.attempts[index]? = some (.passwordLoaded params candidate))
    (hinvalid : ¬candidate.valid services params.password = true) {rates : RateLimits}
    (hok : recordIdentityLoginFailure s.db.rates (passwordIdentityKey services params.email).2 now = .ok rates)
    (lock : Lock) : LockStep services s lock (.advance index draws now) ((s.withRates rates).lockRow lock) := by
  rw [recordIdentityLoginFailure, RateLimits.write, ite_throw_eq_ok_iff, pure_eq_ok] at hok
  refine lockStep_of_write (.password (passwordIdentityKey services params.email).2) ?_ (.failed fun htime => ?_) lock
  · exact lockRow_password (Except.ok.inj hok.2).symm rfl
  · exact htime.password index draws now params candidate rfl hattempt (Bool.eq_false_iff.mpr hinvalid)

theorem lockStep_recordMFA {draws : AuthDraws}
    (hattempt : s.attempts[index]? = some (.mfaFailed identityID)) (lock : Lock) :
    LockStep services s lock (.advance index draws now)
      ((s.withMFALimits (recordMFAFailure s.db.mfaLimits identityID now)).lockRow lock) := by
  refine lockStep_of_write (.mfa identityID) ?_ (.failed fun htime => htime.mfa index draws now identityID rfl hattempt) lock
  exact lockRow_mfa rfl rfl

theorem lockStep_clearMFA {draws : AuthDraws}
    (hattempt : s.attempts[index]? = some (.mfaSucceeded identityID)) (lock : Lock) :
    LockStep services s lock (.advance index draws now)
      ((s.withMFALimits (clearMFAFailures s.db.mfaLimits identityID)).lockRow lock) := by
  refine lockStep_of_write (.mfa identityID) ?_ (.cleared index ?_ ?_) lock
  · exact lockRow_mfa rfl rfl
  · simp [Admitted, hattempt, admittedLock]
  · simp [Succeeds, hattempt]

theorem lockStep_login {draws : AuthDraws} {db' : AuthStore}
    (hattempt : s.attempts[index]? = some (.passwordLoaded params candidate))
    (hvalid : candidate.valid services params.password = true)
    (hok : s.db.passwordLoginTx services candidate (passwordIdentityKey services params.email).2 params.previousSessionToken draws now = .ok db')
    (lock : Lock) :
    LockStep services s lock (.advance index draws now) (({ s with db := db' } : AuthSystem).lockRow lock) := by
  obtain ⟨challenges, sessions, hframe⟩ := passwordLoginTx_frame hok
  refine lockStep_of_write (.password (passwordIdentityKey services params.email).2) ?_ (.cleared index ?_ ?_) lock
  · rw [hframe]
    exact lockRow_password rfl rfl
  · simp [Admitted, hattempt, admittedLock]
  · simp only [Succeeds, hattempt]
    exact ⟨trivial, trivial, hvalid, _, hok⟩

theorem blockedFor_of_retry {limits : MFALimits} (h : mfaAttemptRetryTx limits identityID now = none)
    (hrow : limits identityID = some row) :
    row.blockedFor now = none := by
  simpa [mfaAttemptRetryTx, hrow] using h

theorem lockStep_completeMFALogin {params : CompleteMFALoginParams} {draws : AuthDraws} {db' : AuthStore} {reply : MFAReply}
    (hok : s.db.completeMFALoginTx services params draws now = .ok (db', reply)) (lock : Lock) :
    LockStep services s lock (.completeMFALogin params draws now) (({ s with db := db' } : AuthSystem).lockRow lock) := by
  rcases completeMFALoginTx_limits hok with ⟨rfl, -, -⟩ | ⟨identityID, -, hretry, hrates, hsame | hcleared⟩
  · exact .same
  · exact lockStep_of_eq (lockRow_of_tables hrates hsame lock)
  · exact lockStep_of_write (.mfa identityID) (lockRow_mfa hrates hcleared) (.signedIn fun _ => blockedFor_of_retry hretry) lock

/-- What every event does to every lock. -/
theorem lockStep (s : AuthSystem) (event : AuthEvent) (lock : Lock) :
    LockStep services s lock event ((s.step services event).lockRow lock) := by
  have houtcome := @step_outcome services s event
  have hstore : (s.step services event).lockRow lock =
      ({ s with db := (s.step services event).db } : AuthSystem).lockRow lock := lockRow_of_tables rfl rfl lock
  rw [hstore]
  generalize (s.step services event).db = db', (s.step services event).accepted = accepted at houtcome ⊢
  cases houtcome with
  | same => exact .same
  | sessions => exact lockStep_of_eq (lockRow_of_tables rfl rfl lock)
  | admission hevent hok =>
    subst hevent
    exact lockStep_admission hok lock
  | passwordFailed hevent hattempt hinvalid hok =>
    subst hevent
    exact lockStep_recordLogin hattempt hinvalid hok lock
  | passwordLogin hevent hattempt hvalid hok =>
    subst hevent
    exact lockStep_login hattempt hvalid hok lock
  | completeMFALogin hevent hok =>
    subst hevent
    exact lockStep_completeMFALogin hok lock
  | factorRequest _ hok =>
    obtain ⟨hrates, hlimits⟩ := factorRequestTx_limits hok
    exact lockStep_of_eq (lockRow_of_tables hrates hlimits lock)
  | mfaFailed hevent hattempt =>
    subst hevent
    exact lockStep_recordMFA hattempt lock
  | mfaSucceeded hevent hattempt =>
    subst hevent
    exact lockStep_clearMFA hattempt lock

/-! ### Admitted attempts -/

variable {attempts : List AuthAttempt} {attempt : AuthAttempt} {index i : Nat}

theorem admitted_set (h : Admitted services (attempts.set index attempt) lock i) :
    Admitted services attempts lock i ∨ (i = index ∧ admittedLock services attempt = some lock) := by
  unfold Admitted at h ⊢
  rw [List.getElem?_set] at h
  split at h
  · next heq =>
    split at h
    · exact .inr ⟨heq.symm, h⟩
    · cases h
  · exact .inl h

theorem admitted_append (h : Admitted services (attempts ++ [attempt]) lock i) :
    Admitted services attempts lock i ∨ admittedLock services attempt = some lock := by
  unfold Admitted at h ⊢
  rw [List.getElem?_append] at h
  split at h
  · exact .inl h
  · rw [List.getElem?_singleton] at h
    split at h
    · exact .inr h
    · cases h

/-- The next transaction of a request keeps the lock it counts against; a request that is admitted by it has
passed the check. -/
theorem admitted_perform {draws : AuthDraws} (hattempt : s.attempts[index]? = some attempt)
    (h : Admitted services (s.perform services index draws now attempt).attempts lock i) :
    Admitted services s.attempts lock i ∨ ∀ row ∈ s.lockRow lock, row.blockedFor now = none := by
  -- A new state of the attempt counts against the lock its old state did.
  have hset : ∀ next, admittedLock services next = none ∨ admittedLock services next = admittedLock services attempt →
      Admitted services (s.attempts.set index next) lock i → Admitted services s.attempts lock i := by
    intro next hnext hadmitted
    rcases admitted_set hadmitted with hold | ⟨rfl, hlock⟩
    · exact hold
    · rcases hnext with hnone | hsame
      · rw [hnone] at hlock
        cases hlock
      · rw [Admitted, hattempt]
        exact hsame.symm.trans hlock
  cases attempt with
  | passwordAdmitted params =>
    left
    rw [perform_passwordAdmitted, loadCandidate] at h
    split at h
    · exact hset _ (.inl rfl) h
    · next candidate _ => exact hset (.passwordLoaded params candidate) (.inr rfl) h
  | passwordLoaded params candidate =>
    left
    rw [perform_passwordLoaded, settle, attempts_commit] at h
    exact hset _ (.inl rfl) h
  | factorAuthorized subject request =>
    rw [perform_factorAuthorized, admitFactor] at h
    split at h
    · exact .inl (hset _ (.inl rfl) h)
    · next hretry =>
      rcases admitted_set h with hold | ⟨-, hlock⟩
      · exact .inl hold
      · cases hlock
        exact .inr fun row hrow => blockedFor_of_retry hretry hrow
  | factorAdmitted subject request =>
    left
    rw [perform_factorAdmitted, performFactor] at h
    split at h
    · exact hset _ (.inl rfl) h
    · refine hset _ (.inr ?_) h
      split <;> rfl
  | mfaFailed | mfaSucceeded | sessionRead => exact .inl (hset _ (.inl rfl) h)
  | finished => exact .inl h

/-- An attempt that counts against a lock did so before the event, or was admitted because the lock was open. -/
theorem admitted_step (h : Admitted services (s.step services event).attempts lock i) :
    Admitted services s.attempts lock i ∨ ∀ row ∈ s.lockRow lock, row.blockedFor event.now = none := by
  cases event with
  | passwordLogin params now =>
    simp only [step, startPassword] at h
    split at h
    · exact .inl h
    · exact .inl h
    · next rates hok =>
      rcases admitted_append h with hold | hlock
      · exact .inl hold
      · cases hlock
        obtain ⟨source, -, hok⟩ := bind_eq_ok_iff.mp hok
        exact .inr ((authorizePasswordAttempt_cases hok).2.1 rfl)
  | completeMFALogin params draws now =>
    simp only [step, completeMFALogin] at h
    split at h
    · exact .inl h
    next db' reply hresult =>
    obtain ⟨-, -, hresult⟩ := bind_eq_ok_iff.mp hresult
    split at h
    · next identityID hfailed hidentity =>
      rcases admitted_append h with hold | hlock
      · exact .inl hold
      · cases hlock
        rcases completeMFALoginTx_limits hresult with ⟨-, -, hnot⟩ | ⟨other, hother, hretry, -, -⟩
        · rw [hfailed, hidentity] at hnot
          rcases hnot with hnot | hnot <;> cases hnot
        · rw [hidentity] at hother
          cases hother
          exact .inr fun row hrow => blockedFor_of_retry hretry hrow
    · exact .inl h
  | requestFactor | authenticateSession =>
    left
    simp only [step, startFactor] at h
    split at h
    · exact h
    · rcases admitted_append h with hold | hlock
      · exact hold
      · cases hlock
  | advance index draws now =>
    simp only [step] at h
    split at h
    · exact .inl h
    · next attempt hattempt => exact admitted_perform hattempt h
  | revokeSession | revokeManagedSession | revokeAllManagedSessions | setPasswordCredential =>
    exact .inl (attempts_commit _ ▸ h)

/-! ### Runs -/

/-- Every stored row was written by its limit's policy, not after a clock reading. -/
def LimitsStored (s : AuthSystem) (now : Time) : Prop :=
  ∀ lock row, s.lockRow lock = some row → lock.policy.Stored row now

theorem LimitsStored.step (h : s.LimitsStored event.now) : (s.step services event).LimitsStored event.now := by
  intro lock row hrow
  have hstep := @lockStep services s event lock
  rw [hrow] at hstep
  generalize hstored : some row = stored at hstep
  cases hstep with
  | same => exact h lock row hstored.symm
  | expired => cases hstored
  | failed =>
    cases hstored
    exact stored_recordFailure _ _
  | cleared | signedIn => cases hstored

/-- The clock readings of a run never go back, and they and the day before them are times the store can write. -/
structure Clocked (events : List AuthEvent) : Prop where
  sorted : (events.map AuthEvent.now).Pairwise (· ≤ ·)
  written : ∀ event ∈ events, 24 * hour ≤ event.now ∧ event.now < endOfFormat

theorem LimitsStored.run (h : s.LimitsStored now) {events : List AuthEvent}
    (hsorted : (now :: events.map AuthEvent.now).Pairwise (· ≤ ·)) :
    ∃ last, (s.run services events).LimitsStored last ∧ (last = now ∨ ∃ event ∈ events, last = event.now) := by
  induction events generalizing s now with
  | nil => exact ⟨now, h, .inl rfl⟩
  | cons event rest ih =>
    rw [map_cons, pairwise_cons] at hsorted
    have hnow : s.LimitsStored event.now := fun lock row hrow =>
      (h lock row hrow).mono (hsorted.1 event.now mem_cons_self)
    obtain ⟨last, hstored, hlast⟩ := ih (@LimitsStored.step services s event hnow) hsorted.2
    refine ⟨last, hstored, .inr ?_⟩
    rcases hlast with rfl | ⟨later, hlater, rfl⟩
    · exact ⟨event, mem_cons_self, rfl⟩
    · exact ⟨later, mem_cons_of_mem _ hlater, rfl⟩

theorem add_neg_day (now : Nat) : Time.add now (-(24 * hour : Nat)) = now - 24 * hour :=
  Int.toNat_sub now (24 * hour)

/-- A cut lies within one second. -/
theorem not_isCut_of_lt {a b : Nat} (h : a + 10 ^ 9 < b) : ¬Text.IsCut 9 a b := by
  rintro ⟨places, hplaces, rfl⟩
  have hpow : 10 ^ places ≤ 10 ^ 9 := Nat.pow_le_pow_right (by decide) hplaces
  have hmod : b < b / 10 ^ places * 10 ^ places + 10 ^ places := Nat.lt_div_mul_add (Nat.pow_pos (by decide))
  exact absurd (lt_of_lt_of_le hmod (Nat.add_le_add_left hpow _)) (not_lt.mpr h.le)

theorem recent_of_block {now updatedAt block : Nat} (hblock : block ≤ 15 * minute) (hlt : now < updatedAt + block)
    (hday : 24 * hour ≤ now) : now - 24 * hour + 10 ^ 9 < updatedAt := by
  have hminute : 15 * minute + 10 ^ 9 < 24 * hour := by decide
  omega

theorem not_stale {policy : LimitPolicy} (hblock : policy.block ≤ 15 * minute) {blocked : Time}
    (hstored : policy.Stored row now) (hblocked : row.blockedUntil = some blocked) (hlt : now < blocked)
    (hday : 24 * hour ≤ now) (hend : now < endOfFormat) : row.stale now = false := by
  obtain ⟨hfrom, -⟩ := hstored.block blocked hblocked
  rw [hfrom] at hlt
  have hrecent := recent_of_block hblock hlt hday
  have hwritten : row.updatedAt < endOfFormat := lt_of_le_of_lt hstored.written hend
  rw [LimitRow.stale, decide_eq_false_iff_not, add_neg_day,
    formatTime_lt_iff (lt_of_le_of_lt (Nat.le_add_right _ _) hrecent) hwritten]
  exact not_isCut_of_lt hrecent

/-- A lock that was closed in a first state, during a run. -/
structure Locked (services : AuthServices) (s₀ s : AuthSystem) (lock : Lock) (deadline now : Time) : Prop where
  blocked : ∃ row blocked, s.lockRow lock = some row ∧ row.blockedUntil = some blocked ∧ deadline ≤ blocked
  stored : s.LimitsStored now
  admitted : ∀ i, Admitted services s.attempts lock i → Admitted services s₀.attempts lock i

theorem Lock.block_le (lock : Lock) : lock.policy.block ≤ 15 * minute := by
  cases lock <;> exact le_refl (15 * minute)

/-- **A step keeps a lock closed**, if the failure it records is recorded in time and it is not the success of an
attempt that had been admitted before. -/
theorem Locked.step (h : Locked services s₀ s lock deadline last) (hlast : last ≤ event.now)
    (hearly : event.now < deadline) (hday : 24 * hour ≤ event.now) (hend : event.now < endOfFormat)
    (htime : RecordsInTime services s event)
    (hnone : ∀ index, Admitted services s₀.attempts lock index → ¬Succeeds services s lock index event) :
    Locked services s₀ (s.step services event) lock deadline event.now := by
  obtain ⟨row, blocked, hrow, hblocked, hle⟩ := h.blocked
  have hstored : s.LimitsStored event.now := fun lock row hrow => (h.stored lock row hrow).mono hlast
  have hclosed : row.blockedFor event.now = some (blocked - event.now) :=
    LimitRow.blockedFor_of_lt hblocked (lt_of_lt_of_le hearly hle)
  refine ⟨?_, hstored.step, fun i hi => ?_⟩
  · have hstep := @lockStep services s event lock
    generalize hafter : (s.step services event).lockRow lock = after at hstep
    cases hstep with
    | same => exact ⟨row, blocked, hrow, hblocked, hle⟩
    | expired hold =>
      have hstale := hold row hrow
      rw [not_stale lock.block_le (hstored lock row hrow) hblocked (lt_of_lt_of_le hearly hle) hday hend] at hstale
      cases hstale
    | failed htimely =>
      have hintime := htimely htime
      rw [hrow] at hintime hafter ⊢
      obtain ⟨renewed, hrenewed, hge⟩ := recordFailure_blocked (hstored lock row hrow) hblocked
        (lt_of_lt_of_le hearly hle) hintime
      exact ⟨_, renewed, rfl, hrenewed, hle.trans hge⟩
    | cleared index hadmitted hsucceeds => exact absurd hsucceeds (hnone index (h.admitted index hadmitted))
    | signedIn hopen =>
      rw [hopen row hrow] at hclosed
      cases hclosed
  · rcases admitted_step hi with hold | hopen
    · exact h.admitted i hold
    · rw [hopen row hrow] at hclosed
      cases hclosed

theorem Locked.run {events : List AuthEvent} (h : Locked services s₀ s lock deadline last)
    (hsorted : (last :: events.map AuthEvent.now).Pairwise (· ≤ ·))
    (hwritten : ∀ event ∈ events, 24 * hour ≤ event.now ∧ event.now < endOfFormat)
    (hearly : ∀ event ∈ events, event.now < deadline) (htime : RunInTime services s events)
    (hnone : NoneSucceeds services s₀ lock s events) :
    ∃ last, Locked services s₀ (s.run services events) lock deadline last := by
  induction events generalizing s last with
  | nil => exact ⟨last, h⟩
  | cons event rest ih =>
    rw [map_cons, pairwise_cons] at hsorted
    have hevent := hwritten event mem_cons_self
    have hstep := h.step (hsorted.1 event.now mem_cons_self) (hearly event mem_cons_self) hevent.1
      hevent.2 htime.1 hnone.1
    exact ih hstep hsorted.2 (fun later hlater => hwritten later (mem_cons_of_mem _ hlater))
      (fun later hlater => hearly later (mem_cons_of_mem _ hlater)) htime.2 hnone.2

theorem retry_of_blocked {left : Nat} (hrow : s.lockRow (.mfa identityID) = some row)
    (hclosed : row.blockedFor now = some left) : mfaAttemptRetryTx s.db.mfaLimits identityID now = some left :=
  (congrArg (Option.bind · _) hrow).trans hclosed

theorem refuses_of_blocked {left : Nat} (hrow : s.lockRow lock = some row)
    (hclosed : row.blockedFor event.now = some left) : Refuses services s lock event := by
  unfold Refuses
  split
  · next identityKey params now =>
    intro hkey
    simp only [AuthSystem.step, startPassword]
    split
    · rfl
    · rfl
    · next rates hok =>
      obtain ⟨source, -, hok⟩ := bind_eq_ok_iff.mp hok
      rw [hkey] at hok
      have hopen := (authorizePasswordAttempt_cases hok).2.1 rfl row hrow
      have hclosed' : row.blockedFor now = some left := hclosed
      rw [hopen] at hclosed'
      cases hclosed'
  · next identityID params draws now =>
    intro challenge identity hopen hid
    subst hid
    have hretry := @retry_of_blocked challenge.identityID s now row left hrow hclosed
    have htx : s.db.completeMFALoginTx services params draws now =
        .ok (s.db, ⟨some identity.id, some left, false, none⟩) := by
      simp only [completeMFALoginTx, hopen, hretry]
      rfl
    simp only [AuthSystem.step, completeMFALogin, htx]
    cases checkCompleteMFALogin params with
    | error e => rfl
    | ok checked => simp
  · next identityID index draws now =>
    intro subject request hattempt hid
    subst hid
    have hretry := @retry_of_blocked subject.identityID s now row left hrow hclosed
    simp only [AuthSystem.step, hattempt, perform_factorAuthorized, admitFactor, hretry]
    rfl
  · trivial

/-- **A lockout holds until its deadline.** Let a block be stored that ends at the deadline, and let any
transactions follow at clock readings before it. If each failure among them is recorded before the window of its row
has ended, and no attempt that had been admitted before succeeds, then the block is still stored, with the
same end or a later one, and every attempt whose admission is checked before the deadline is refused. -/
theorem lockout_holds (services : AuthServices) (identities : List Identity) (credentials : List PasswordCredential)
    (before later : List AuthEvent) (lock : Lock) (deadline : Time) (hclock : Clocked (before ++ later))
    (hblocked : ((initial identities credentials).run services before).blockedUntil lock = some deadline)
    (hearly : ∀ event ∈ later, event.now < deadline)
    (htime : RunInTime services ((initial identities credentials).run services before) later)
    (hnone : NoneSucceeds services ((initial identities credentials).run services before) lock
      ((initial identities credentials).run services before) later) :
    (∃ blocked, ((initial identities credentials).run services (before ++ later)).blockedUntil lock = some blocked ∧
      deadline ≤ blocked) ∧
    ∀ event, event.now < deadline →
      Refuses services ((initial identities credentials).run services (before ++ later)) lock event := by
  have hstart : (initial identities credentials).LimitsStored 0 := by
    intro lock row hrow
    cases lock <;> cases hrow
  have hsorted := hclock.sorted
  rw [map_append, pairwise_append] at hsorted
  obtain ⟨last, hstored, hlast⟩ := @LimitsStored.run services _ _ hstart before
    (List.pairwise_cons.mpr ⟨fun _ _ => Nat.zero_le _, hsorted.1⟩)
  obtain ⟨row, hrow, hdeadline⟩ := Option.bind_eq_some_iff.mp hblocked
  have hlocked : Locked services ((initial identities credentials).run services before)
      ((initial identities credentials).run services before) lock deadline last :=
    ⟨⟨row, deadline, hrow, hdeadline, le_refl _⟩, hstored, fun _ hi => hi⟩
  have hchain : (last :: later.map AuthEvent.now).Pairwise (· ≤ ·) := by
    refine List.pairwise_cons.mpr ⟨fun now hnow => ?_, hsorted.2.1⟩
    rcases hlast with rfl | ⟨event, hevent, rfl⟩
    · exact Nat.zero_le _
    · exact hsorted.2.2 _ (mem_map_of_mem hevent) now hnow
  obtain ⟨_, hend⟩ := hlocked.run hchain (fun event hevent => hclock.written event (mem_append_right _ hevent))
    hearly htime hnone
  rw [run_append]
  obtain ⟨row, blocked, hrow, hblocked, hle⟩ := hend.blocked
  refine ⟨⟨blocked, Option.bind_eq_some_iff.mpr ⟨row, hrow, hblocked⟩, hle⟩, fun event hevent => ?_⟩
  exact refuses_of_blocked hrow (LimitRow.blockedFor_of_lt hblocked (lt_of_lt_of_le hevent hle))

/-- The attempt can still succeed. -/
def canSucceed (services : AuthServices) : AuthAttempt → Bool
  | .passwordLoaded params candidate => candidate.valid services params.password
  | .mfaSucceeded _ => true
  | _ => false

theorem runInTime_singleton (h : RecordsInTime services s event) : RunInTime services s [event] := ⟨h, trivial⟩

theorem noneSucceeds_singleton (h : ∀ index, ¬Succeeds services s lock index event) :
    NoneSucceeds services s₀ lock s [event] :=
  ⟨fun index _ => h index, trivial⟩

theorem not_succeeds_of_canSucceed (h : (s.attempts[index]?).any (canSucceed services) = false) (event : AuthEvent) :
    ¬Succeeds services s lock index event := by
  intro hsucceeds
  unfold Succeeds at hsucceeds
  split at hsucceeds
  · obtain ⟨-, hsucceeds⟩ := hsucceeds
    split at hsucceeds
    · next hattempt =>
      rw [hattempt] at h
      simp [canSucceed, hsucceeds.2.1] at h
    · next hattempt =>
      rw [hattempt] at h
      simp [canSucceed] at h
    · exact hsucceeds
  · exact hsucceeds

end AuthSystem

/-! ### A late failure -/

/-! ### All attempts together -/

/-- How many attempts a limit with this row can still admit before `deadline`, if that is at most one window away. -/
def LimitPolicy.credit (policy : LimitPolicy) (deadline : Time) : Option LimitRow → Nat
  | none => policy.limit
  | some row =>
    policy.limit - row.attemptCount + if row.windowStartedAt + policy.window < deadline then policy.limit else 0

theorem LimitPolicy.credit_le (policy : LimitPolicy) (deadline : Time) (row : Option LimitRow) :
    policy.credit deadline row ≤ 2 * policy.limit := by
  cases row with
  | none => simp only [credit]; omega
  | some row =>
    by_cases hends : row.windowStartedAt + policy.window < deadline <;>
      simp only [credit, hends, if_true, if_false] <;> omega

/-- An admitted attempt costs one. A new window reaches to the deadline, so it is the last one before it. -/
theorem LimitPolicy.countAttempt_credit {policy : LimitPolicy} (hlimit : 0 < policy.limit) {now deadline : Nat}
    (hnow : now < deadline) (hwindow : deadline ≤ now + policy.window) (row : Option LimitRow) :
    policy.credit deadline (some (policy.countAttempt row now).1) +
      (if (policy.countAttempt row now).2 = none then 1 else 0) ≤ policy.credit deadline row := by
  have hfirst : policy.credit deadline (some (.first now)) + 1 ≤ policy.limit := by
    have hlast : ¬now + policy.window < deadline := by omega
    simp only [credit, LimitRow.first, hlast, if_false]
    omega
  unfold countAttempt
  cases row with
  | none => exact hfirst
  | some row =>
    cases hblocked : row.blockedFor now with
    | some left => simp [hblocked]
    | none =>
      simp only [hblocked]
      split
      · next hover =>
        have hpast : row.windowStartedAt + policy.window < deadline := lt_of_le_of_lt (of_decide_eq_true hover) hnow
        have hrow : policy.limit ≤ policy.credit deadline (some row) := by
          rw [credit, if_pos hpast]
          exact Nat.le_add_left _ _
        exact hfirst.trans hrow
      · split <;> simp only [credit, reduceCtorEq, if_true, if_false] <;> omega

namespace AuthSystem

variable {services : AuthServices}

/-- How many password attempts an event admits: an admitted one joins the requests. -/
def admits (services : AuthServices) (s : AuthSystem) : AuthEvent → Nat
  | .passwordLogin params now => (s.startPassword services params now).attempts.length - s.attempts.length
  | _ => 0

def admissions (services : AuthServices) : AuthSystem → List AuthEvent → Nat
  | _, [] => 0
  | s, event :: rest => s.admits services event + (s.step services event).admissions services rest

/-- Only the admission of a password attempt touches the row that counts them all. -/
theorem step_global (s : AuthSystem) {event : AuthEvent} (hother : ∀ params now, event ≠ .passwordLogin params now) :
    (s.step services event).db.rates .global = s.db.rates .global := by
  have houtcome := @step_outcome services s event
  generalize (s.step services event).db = db', (s.step services event).accepted = accepted at houtcome ⊢
  cases houtcome with
  | same | sessions | mfaFailed | mfaSucceeded => rfl
  | admission hevent => exact absurd hevent (hother _ _)
  | passwordFailed _ _ _ hok => exact write_of_ne hok nofun
  | passwordLogin _ _ _ hok =>
    obtain ⟨challenges, sessions, rfl⟩ := AuthStore.passwordLoginTx_frame hok
    simp [AuthStore.clearIdentityRate]
  | completeMFALogin _ hok =>
    rcases AuthStore.completeMFALoginTx_limits hok with ⟨rfl, -, -⟩ | ⟨-, -, -, hrates, -⟩
    · rfl
    · rw [hrates]
  | factorRequest _ hok => rw [(AuthStore.factorRequestTx_limits hok).1]

theorem step_credit (s : AuthSystem) (event : AuthEvent) {deadline : Nat} (hnow : event.now < deadline)
    (hwindow : deadline ≤ event.now + minute) :
    s.admits services event + loginGlobalPolicy.credit deadline ((s.step services event).db.rates .global) ≤
      loginGlobalPolicy.credit deadline (s.db.rates .global) := by
  cases event with
  | passwordLogin params now =>
    have hcredit := @LimitPolicy.countAttempt_credit loginGlobalPolicy (by decide) now deadline hnow hwindow
      (s.db.rates .global)
    simp only [admits, step, startPassword]
    split
    · simp
    · next hok =>
      obtain ⟨source, -, hok⟩ := bind_eq_ok_iff.mp hok
      obtain ⟨-, -, hrow, -⟩ := authorizePasswordAttempt_cases hok
      simp only [withRates, hrow, Nat.sub_self]
      omega
    · next hok =>
      obtain ⟨source, -, hok⟩ := bind_eq_ok_iff.mp hok
      obtain ⟨-, -, hrow, hopen⟩ := authorizePasswordAttempt_cases hok
      rw [if_pos (hopen rfl)] at hcredit
      simpa [withRates, join, hrow, Nat.add_comm] using hcredit
  | _ =>
    rw [step_global s (by simp)]
    exact (Nat.zero_add _).le

/-- **All sign-ins together.** From any state of the store, the events of one minute admit at most twice the
global limit of password attempts, whatever their sources and addresses and however the requests interleave. -/
theorem admissions_per_minute (services : AuthServices) (s : AuthSystem) (start : Nat)
    (events : List { event : AuthEvent // start ≤ event.now ∧ event.now < start + minute }) :
    s.admissions services (events.map Subtype.val) ≤ 240 := by
  have hcredit : ∀ s : AuthSystem, s.admissions services (events.map Subtype.val) ≤
      loginGlobalPolicy.credit (start + minute) (s.db.rates .global) := by
    induction events with
    | nil => exact fun _ => Nat.zero_le _
    | cons event rest ih =>
      intro s
      have hspent := @step_credit services s event.1 (start + minute) event.2.2 (Nat.add_le_add_right event.2.1 _)
      exact (Nat.add_le_add_left (ih _) _).trans hspent
  exact (hcredit s).trans (loginGlobalPolicy.credit_le _ _)

end AuthSystem

namespace AuthSample

open AuthSystem

/-- Four wrong passwords, ten minutes less ten seconds later two more attempts, and the fifth failure. -/
def fiveFailures : List AuthEvent :=
  (List.range 4).flatMap (fun index =>
    [login "wrong" "192.0.2.1" start, .advance index (draws "0") start, .advance index (draws "0") start]) ++
  [login "wrong" "192.0.2.2" (start + 590 * second), .advance 4 (draws "0") (start + 590 * second),
    login "wrong" "192.0.2.3" (start + 590 * second), .advance 5 (draws "0") (start + 590 * second),
    .advance 4 (draws "0") (start + 595 * second)]

/-- The failure of the sixth attempt, which was admitted before the fifth failed. -/
def sixthFailure (now : Time) : AuthEvent := .advance 5 (draws "0") now

def sampleLock : Lock := .password (passwordIdentityKey services "a@b.c").2

def sampleDeadline : Time := start + 595 * second + 15 * minute

theorem sixthFailure_not_succeeds (now : Time) (index : Nat) :
    ¬Succeeds services (system.run services fiveFailures) sampleLock index (sixthFailure now) := by
  by_cases hindex : index = 5
  · subst hindex
    exact not_succeeds_of_canSucceed (by decide +kernel) _
  · exact fun h => hindex h.1.symm

theorem clocked_fiveFailures {now : Time} (hfrom : start + 595 * second ≤ now) (hend : now < endOfFormat) :
    Clocked (fiveFailures ++ [sixthFailure now]) := by
  have hday : 24 * hour ≤ start := by decide
  have hlast : ∀ event ∈ fiveFailures, event.now ≤ start + 595 * second ∧ 24 * hour ≤ event.now := by decide +kernel
  refine ⟨?_, fun event hevent => ?_⟩
  · rw [map_append, pairwise_append]
    refine ⟨by decide +kernel, pairwise_singleton _ _, fun earlier hearlier later hlater => ?_⟩
    obtain ⟨event, hevent, rfl⟩ := mem_map.mp hearlier
    rw [map_cons, map_nil, mem_singleton] at hlater
    rw [hlater]
    exact (hlast event hevent).1.trans hfrom
  · rcases mem_append.mp hevent with hmem | hmem
    · exact ⟨(hlast event hmem).2, lt_of_le_of_lt ((hlast event hmem).1.trans hfrom) hend⟩
    · rw [mem_singleton] at hmem
      rw [hmem]
      exact ⟨(hday.trans (Nat.le_add_right _ _)).trans hfrom, hend⟩

/-- A failure one second before the window ends renews the block. -/
theorem lockout_holds_renewed :
    (∃ blocked, (system.run services (fiveFailures ++ [sixthFailure (start + 599 * second)])).blockedUntil sampleLock =
      some blocked ∧ sampleDeadline ≤ blocked) ∧
    ∀ event, event.now < sampleDeadline →
      Refuses services (system.run services (fiveFailures ++ [sixthFailure (start + 599 * second)])) sampleLock event := by
  have hclock : Clocked (fiveFailures ++ [sixthFailure (start + 599 * second)]) :=
    clocked_fiveFailures (by decide +kernel) (by decide +kernel)
  have hblocked : (system.run services fiveFailures).blockedUntil sampleLock = some sampleDeadline := by decide +kernel
  have hearly : ∀ event ∈ [sixthFailure (start + 599 * second)], event.now < sampleDeadline := by decide +kernel
  have htest : recordsInTime services (system.run services fiveFailures) (sixthFailure (start + 599 * second)) = true := by
    decide +kernel
  have hnone : NoneSucceeds services (system.run services fiveFailures) sampleLock (system.run services fiveFailures)
      [sixthFailure (start + 599 * second)] :=
    noneSucceeds_singleton (sixthFailure_not_succeeds (start + 599 * second))
  exact lockout_holds services [identity] [credential] fiveFailures [sixthFailure (start + 599 * second)] sampleLock
    sampleDeadline hclock hblocked hearly (runInTime_singleton (recordsInTime_of_test htest)) hnone

/-- A failure at the end of the window, fourteen minutes and fifty-five seconds before the deadline, removes the
block, and the next attempt is admitted. -/
theorem lockout_removed_by_late_failure :
    Clocked (fiveFailures ++ [sixthFailure (start + 600 * second)]) ∧
    (system.run services fiveFailures).blockedUntil sampleLock = some sampleDeadline ∧
    start + 600 * second < sampleDeadline ∧
    (∀ index, ¬Succeeds services (system.run services fiveFailures) sampleLock index
      (sixthFailure (start + 600 * second))) ∧
    (system.run services (fiveFailures ++ [sixthFailure (start + 600 * second)])).blockedUntil sampleLock = none ∧
    ¬Refuses services (system.run services (fiveFailures ++ [sixthFailure (start + 600 * second)])) sampleLock
      (login "wrong" "192.0.2.4" (start + 600 * second)) := by
  refine ⟨clocked_fiveFailures (by decide +kernel) (by decide +kernel), by decide +kernel, by decide +kernel,
    sixthFailure_not_succeeds _, by decide +kernel, fun hrefuses => ?_⟩
  have hlength := congrArg List.length (hrefuses rfl)
  exact absurd hlength (by decide +kernel)

end AuthSample

end Stackfort.Authentication
