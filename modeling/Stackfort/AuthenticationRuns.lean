import Stackfort.AuthenticationStore

/-! Requests as they interleave. A sign-in is several transactions: it is admitted, its candidate is read,
and its outcome is written; a request that changes a factor is authorized, admitted, carried out and
counted. The system holds the store, every request that has passed its first transaction with what it
has read so far, and the codes that have been taken. An event is one transaction of one request, at any clock reading
and with any drawn values; a request that is never advanced again was killed. -/

namespace Stackfort.Authentication

/-- A request between two of its transactions. -/
inductive AuthAttempt where
  | passwordAdmitted (params : PasswordLoginParams)
  | passwordLoaded (params : PasswordLoginParams) (candidate : PasswordCandidate)
  | factorAuthorized (subject : AuthorizationSubject) (request : FactorRequest)
  | factorAdmitted (subject : AuthorizationSubject) (request : FactorRequest)
  /-- `recordMFAFailure` is still to run. -/
  | mfaFailed (identityID : ID)
  /-- `clearMFAFailures` is still to run. -/
  | mfaSucceeded (identityID : ID)
  | sessionRead (session : Session) (write : AuthStore.SessionWrite)
  | finished

structure AuthSystem where
  db : AuthStore
  attempts : List AuthAttempt
  /-- The codes that transactions have taken, oldest first. -/
  accepted : List Acceptance

inductive AuthEvent where
  | passwordLogin (params : PasswordLoginParams) (now : Time)
  | completeMFALogin (params : CompleteMFALoginParams) (draws : AuthDraws) (now : Time)
  | requestFactor (subject : AuthorizationSubject) (request : FactorRequest) (now : Time)
  | authenticateSession (params : AuthStore.AuthenticateSessionParams) (now : Time)
  | advance (index : Nat) (draws : AuthDraws) (now : Time)
  | revokeSession (params : AuthStore.RevokeSessionParams) (now : Time)
  | revokeManagedSession (subject : AuthorizationSubject) (targetSessionID : ID) (now : Time)
  | revokeAllManagedSessions (subject : AuthorizationSubject) (keepCurrent : Bool) (now : Time)
  | setPasswordCredential (params : AuthStore.SetPasswordCredentialParams) (now : Time)

/-- The clock reading of an event. -/
def AuthEvent.now : AuthEvent → Time
  | .passwordLogin _ now => now
  | .completeMFALogin _ _ now => now
  | .requestFactor _ _ now => now
  | .authenticateSession _ now => now
  | .advance _ _ now => now
  | .revokeSession _ now => now
  | .revokeManagedSession _ _ now => now
  | .revokeAllManagedSessions _ _ now => now
  | .setPasswordCredential _ now => now

namespace AuthStore

/-- A session row and a later version of it. A revoked session stays revoked. -/
structure SessionKept (old new : Session) : Prop where
  key : new.id = old.id
  identity : new.identityID = old.identityID
  level : new.authenticationLevel = old.authenticationLevel
  revoked : new.revoked = none → old.revoked = none

end AuthStore

namespace AuthSystem

def initial (identities : List Identity) (credentials : List PasswordCredential) : AuthSystem where
  db := .initial identities credentials
  attempts := []
  accepted := []

/-- A transaction that failed is rolled back. -/
def commit (s : AuthSystem) (result : Except AuthError AuthStore) : AuthSystem :=
  match result with
  | .ok db => { s with db := db }
  | .error _ => s

def settle (s : AuthSystem) (index : Nat) (attempt : AuthAttempt) : AuthSystem :=
  { s with attempts := s.attempts.set index attempt }

def join (s : AuthSystem) (attempt : AuthAttempt) : AuthSystem := { s with attempts := s.attempts ++ [attempt] }

def withRates (s : AuthSystem) (rates : RateLimits) : AuthSystem := { s with db := { s.db with rates := rates } }

def withMFALimits (s : AuthSystem) (limits : MFALimits) : AuthSystem := { s with db := { s.db with mfaLimits := limits } }

/-- The first transaction of `PasswordLogin`. -/
def startPassword (services : AuthServices) (s : AuthSystem) (params : PasswordLoginParams) (now : Time) :
    AuthSystem :=
  let admission := do
    let sourceAddress ← checkPasswordLogin services params
    authorizePasswordAttempt s.db.rates sourceAddress (passwordIdentityKey services params.email).2 now
  match admission with
  | .error _ => s
  | .ok (rates, some _) => s.withRates rates
  | .ok (rates, none) => (s.withRates rates).join (.passwordAdmitted params)

/-- The transaction of `CompleteMFALogin`. A failure with a known identity is still to be counted. -/
def completeMFALogin (services : AuthServices) (s : AuthSystem) (params : CompleteMFALoginParams)
    (draws : AuthDraws) (now : Time) : AuthSystem :=
  let result := do
    AuthStore.checkCompleteMFALogin params
    s.db.completeMFALoginTx services params draws now
  match result with
  | .error _ => s
  | .ok (db, reply) =>
    let done : AuthSystem := { s with db := db, accepted := s.accepted ++ reply.accepted.toList }
    match reply.failed, reply.identityID with
    | true, some identityID => done.join (.mfaFailed identityID)
    | _, _ => done

/-- The read that authorizes a request on the factors of its subject. -/
def startFactor (s : AuthSystem) (subject : AuthorizationSubject) (request : FactorRequest) (now : Time) :
    AuthSystem :=
  let authorized := do
    s.db.requireSubjectSessionTx subject now
    request.check
  match authorized with
  | .error _ => s
  | .ok _ => s.join (.factorAuthorized subject request)

/-- The read of the candidate of a password attempt. -/
def loadCandidate (services : AuthServices) (s : AuthSystem) (index : Nat) (params : PasswordLoginParams) : AuthSystem :=
  match s.db.loadPasswordCandidate services (passwordIdentityKey services params.email).1 with
  | .error _ => s.settle index .finished
  | .ok candidate => s.settle index (.passwordLoaded params candidate)

/-- The last transaction of a password attempt. -/
def finishPassword (services : AuthServices) (s : AuthSystem) (params : PasswordLoginParams)
    (candidate : PasswordCandidate) (draws : AuthDraws) (now : Time) : Except AuthError AuthStore :=
  let identityKey := (passwordIdentityKey services params.email).2
  if candidate.valid services params.password then
    s.db.passwordLoginTx services candidate identityKey params.previousSessionToken draws now
  else do
    let rates ← recordIdentityLoginFailure s.db.rates identityKey now
    pure { s.db with rates := rates }

/-- The admission of a request on factors. -/
def admitFactor (s : AuthSystem) (index : Nat) (subject : AuthorizationSubject) (request : FactorRequest) (now : Time) :
    AuthSystem :=
  match mfaAttemptRetryTx s.db.mfaLimits subject.identityID now with
  | some _ => s.settle index .finished
  | none => s.settle index (.factorAdmitted subject request)

/-- The transaction of an admitted request on factors. -/
def performFactor (services : AuthServices) (s : AuthSystem) (index : Nat) (subject : AuthorizationSubject)
    (request : FactorRequest) (draws : AuthDraws) (now : Time) : AuthSystem :=
  match s.db.factorRequestTx services subject draws now request with
  | .error _ => s.settle index .finished
  | .ok (db, reply) =>
    { s with db := db, accepted := s.accepted ++ reply.accepted.toList }.settle index
      (if reply.failed then .mfaFailed subject.identityID else .mfaSucceeded subject.identityID)

/-- The next transaction of a request. -/
def perform (services : AuthServices) (s : AuthSystem) (index : Nat) (draws : AuthDraws) (now : Time) :
    AuthAttempt → AuthSystem
  | .passwordAdmitted params => s.loadCandidate services index params
  | .passwordLoaded params candidate =>
    (s.commit (s.finishPassword services params candidate draws now)).settle index .finished
  | .factorAuthorized subject request => s.admitFactor index subject request now
  | .factorAdmitted subject request => s.performFactor services index subject request draws now
  | .mfaFailed identityID =>
    (s.withMFALimits (recordMFAFailure s.db.mfaLimits identityID now)).settle index .finished
  | .mfaSucceeded identityID =>
    (s.withMFALimits (clearMFAFailures s.db.mfaLimits identityID)).settle index .finished
  | .sessionRead session write => { s with db := s.db.sessionWriteTx session now write }.settle index .finished
  | .finished => s

section Perform

variable (services : AuthServices) (s : AuthSystem) (index : Nat) (draws : AuthDraws) (now : Time)

theorem perform_passwordAdmitted (params : PasswordLoginParams) :
    s.perform services index draws now (.passwordAdmitted params) = s.loadCandidate services index params :=
  rfl

theorem perform_passwordLoaded (params : PasswordLoginParams) (candidate : PasswordCandidate) :
    s.perform services index draws now (.passwordLoaded params candidate) =
      (s.commit (s.finishPassword services params candidate draws now)).settle index .finished :=
  rfl

theorem perform_factorAuthorized (subject : AuthorizationSubject) (request : FactorRequest) :
    s.perform services index draws now (.factorAuthorized subject request) = s.admitFactor index subject request now :=
  rfl

theorem perform_factorAdmitted (subject : AuthorizationSubject) (request : FactorRequest) :
    s.perform services index draws now (.factorAdmitted subject request) =
      s.performFactor services index subject request draws now :=
  rfl

end Perform

def step (services : AuthServices) (s : AuthSystem) : AuthEvent → AuthSystem
  | .passwordLogin params now => s.startPassword services params now
  | .completeMFALogin params draws now => s.completeMFALogin services params draws now
  | .requestFactor subject request now => s.startFactor subject request now
  | .authenticateSession params now =>
    match s.db.authenticateSession services params now with
    | .error _ => s
    | .ok (session, write) => s.join (.sessionRead session write)
  | .advance index draws now =>
    match s.attempts[index]? with
    | none => s
    | some attempt => s.perform services index draws now attempt
  | .revokeSession params now => s.commit (s.db.revokeSessionTx params now)
  | .revokeManagedSession subject targetSessionID now =>
    s.commit (s.db.revokeManagedSessionTx subject targetSessionID now)
  | .revokeAllManagedSessions subject keepCurrent now =>
    s.commit (s.db.revokeAllManagedSessionsTx subject keepCurrent now)
  | .setPasswordCredential params now => s.commit (s.db.setPasswordCredential params now)

section Outcome

variable (services : AuthServices) (s : AuthSystem) (event : AuthEvent) {now : Time}

/-- What an event can do to the store and to the codes that were taken. -/
inductive Outcome : AuthStore → List Acceptance → Prop where
  | same : Outcome s.db s.accepted
  /-- Sessions are touched or revoked, and credentials are replaced. -/
  | sessions {selects f credentials} (hf : ∀ row, AuthStore.SessionKept row (f row)) :
      Outcome { s.db with sessions := updateWhere selects f s.db.sessions, credentials := credentials } s.accepted
  | admission {params sourceAddress now rates limitedFor} (hevent : event = .passwordLogin params now)
      (hok : authorizePasswordAttempt s.db.rates sourceAddress (passwordIdentityKey services params.email).2 now =
        .ok (rates, limitedFor)) : Outcome { s.db with rates := rates } s.accepted
  | passwordFailed {index draws now params candidate rates} (hevent : event = .advance index draws now)
      (hattempt : s.attempts[index]? = some (.passwordLoaded params candidate))
      (hinvalid : ¬candidate.valid services params.password = true)
      (hok : recordIdentityLoginFailure s.db.rates (passwordIdentityKey services params.email).2 now = .ok rates) :
      Outcome { s.db with rates := rates } s.accepted
  | passwordLogin {index draws now params candidate db'} (hevent : event = .advance index draws now)
      (hattempt : s.attempts[index]? = some (.passwordLoaded params candidate))
      (hvalid : candidate.valid services params.password = true)
      (hok : s.db.passwordLoginTx services candidate (passwordIdentityKey services params.email).2
        params.previousSessionToken draws now = .ok db') : Outcome db' s.accepted
  | completeMFALogin {params draws now db' reply} (hevent : event = .completeMFALogin params draws now)
      (hok : s.db.completeMFALoginTx services params draws now = .ok (db', reply)) :
      Outcome db' (s.accepted ++ reply.accepted.toList)
  | factorRequest {index subject draws now request db' reply} (hevent : event = .advance index draws now)
      (hok : s.db.factorRequestTx services subject draws now request = .ok (db', reply)) :
      Outcome db' (s.accepted ++ reply.accepted.toList)
  | mfaFailed {index draws now identityID} (hevent : event = .advance index draws now)
      (hattempt : s.attempts[index]? = some (.mfaFailed identityID)) :
      Outcome { s.db with mfaLimits := recordMFAFailure s.db.mfaLimits identityID now } s.accepted
  | mfaSucceeded {index draws now identityID} (hevent : event = .advance index draws now)
      (hattempt : s.attempts[index]? = some (.mfaSucceeded identityID)) :
      Outcome { s.db with mfaLimits := clearMFAFailures s.db.mfaLimits identityID } s.accepted

variable {services s event}

theorem commit_outcome {result : Except AuthError AuthStore}
    (hok : ∀ db', result = .ok db' → Outcome services s event db' s.accepted) :
    Outcome services s event (s.commit result).db (s.commit result).accepted := by
  cases result with
  | error e => exact .same
  | ok db' => exact hok db' rfl

theorem revokeSessions_outcome (selects : Session → Bool) (reason : String) (now : Time) :
    Outcome services s event (s.db.revokeSessions selects reason now) s.accepted :=
  .sessions fun _ => ⟨rfl, rfl, rfl, nofun⟩

theorem revokeSession_outcome {identityID sessionID : ID} {reason : String} {db' : AuthStore}
    (h : s.db.revokeSession identityID sessionID reason now = .ok db') : Outcome services s event db' s.accepted := by
  obtain ⟨selects, rfl⟩ := AuthStore.revokeSession_eq h
  exact revokeSessions_outcome _ _ _

theorem perform_outcome {index : Nat} {draws : AuthDraws} {attempt : AuthAttempt}
    (hattempt : s.attempts[index]? = some attempt) :
    Outcome services s (.advance index draws now) (s.perform services index draws now attempt).db
      (s.perform services index draws now attempt).accepted := by
  cases attempt with
  | passwordAdmitted params =>
    rw [perform_passwordAdmitted, loadCandidate]
    split <;> exact .same
  | passwordLoaded params candidate =>
    refine commit_outcome fun db' hresult => ?_
    rw [finishPassword] at hresult
    split at hresult
    · next hvalid => exact .passwordLogin rfl hattempt hvalid hresult
    · next hinvalid =>
      obtain ⟨rates, hok, hrates⟩ := bind_eq_ok_iff.mp hresult
      cases hrates
      exact .passwordFailed rfl hattempt hinvalid hok
  | factorAuthorized subject request =>
    rw [perform_factorAuthorized, admitFactor]
    split <;> exact .same
  | factorAdmitted subject request =>
    rw [perform_factorAdmitted, performFactor]
    split
    · exact .same
    · next db' reply hok => exact .factorRequest rfl hok
  | mfaFailed identityID => exact .mfaFailed rfl hattempt
  | mfaSucceeded identityID => exact .mfaSucceeded rfl hattempt
  | sessionRead session write =>
    cases write with
    | none => exact .same
    | expire reason => exact revokeSessions_outcome _ _ _
    | touch => exact .sessions fun _ => ⟨rfl, rfl, rfl, id⟩
  | finished => exact .same

theorem step_outcome (s : AuthSystem) (event : AuthEvent) :
    Outcome services s event (s.step services event).db (s.step services event).accepted := by
  cases event with
  | passwordLogin params now =>
    simp only [step, startPassword]
    split
    · exact .same
    · next hok =>
      obtain ⟨source, -, hok⟩ := bind_eq_ok_iff.mp hok
      exact .admission rfl hok
    · next hok =>
      obtain ⟨source, -, hok⟩ := bind_eq_ok_iff.mp hok
      exact .admission rfl hok
  | completeMFALogin params draws now =>
    simp only [step, completeMFALogin]
    split
    · exact .same
    · next db' reply hresult =>
      obtain ⟨-, -, hok⟩ := bind_eq_ok_iff.mp hresult
      split <;> exact .completeMFALogin rfl hok
  | requestFactor subject request now =>
    simp only [step, startFactor]
    split <;> exact .same
  | authenticateSession params now =>
    simp only [step]
    split <;> exact .same
  | advance index draws now =>
    simp only [step]
    split
    · exact .same
    · next attempt hattempt => exact perform_outcome hattempt
  | revokeSession params now =>
    refine commit_outcome fun db' hresult => ?_
    simp only [AuthStore.revokeSessionTx, bind_eq_ok_iff] at hresult
    obtain ⟨_, -, _, -, _, -, _, -, hrevoke⟩ := hresult
    exact revokeSession_outcome hrevoke
  | revokeManagedSession subject target now =>
    refine commit_outcome fun db' hresult => ?_
    obtain ⟨-, -, hrevoke⟩ := bind_eq_ok_iff.mp hresult
    exact revokeSession_outcome (Except.mapError_eq_ok_iff.mp hrevoke)
  | revokeAllManagedSessions subject keep now =>
    refine commit_outcome fun db' hresult => ?_
    obtain ⟨-, -, hrevoke⟩ := bind_eq_ok_iff.mp hresult
    cases hrevoke
    exact revokeSessions_outcome _ _ _
  | setPasswordCredential params now =>
    refine commit_outcome fun db' hresult => ?_
    obtain ⟨-, -, hset⟩ := bind_eq_ok_iff.mp hresult
    rw [guard_eq_ok_iff] at hset
    cases hset.2
    exact .sessions fun _ => ⟨rfl, rfl, rfl, nofun⟩

end Outcome

def run (services : AuthServices) (s : AuthSystem) (events : List AuthEvent) : AuthSystem :=
  events.foldl (step services) s

theorem run_append (services : AuthServices) (s : AuthSystem) (before after : List AuthEvent) :
    s.run services (before ++ after) = (s.run services before).run services after :=
  List.foldl_append

theorem run_concat (services : AuthServices) (s : AuthSystem) (events : List AuthEvent) (event : AuthEvent) :
    s.run services (events ++ [event]) = (s.run services events).step services event := by
  rw [run_append]
  rfl

/-- **Invariants.** What holds at the start and is kept by every step holds after every run. -/
theorem run_induction {services : AuthServices} {s : AuthSystem} {P : AuthSystem → Prop} (hstart : P s)
    (hstep : ∀ s event, P s → P (s.step services event)) (events : List AuthEvent) : P (s.run services events) := by
  induction events using List.reverseRecOn with
  | nil => exact hstart
  | append_singleton events event ih =>
    rw [run_concat]
    exact hstep _ _ ih

end AuthSystem

/-! ### A small installation

One identity whose password has one letter, and functions in place of the cryptographic ones that can be
evaluated: the code of a step is its number. -/

namespace AuthSample

def services : AuthServices where
  sha256 := fun text => text.toList.map fun c => UInt8.ofNat c.toNat
  hmacSHA1 := fun _ message => [0, 0, 0, message.getLastD 0] ++ List.replicate 16 0
  derivePassword := fun password _ _ _ _ _ => List.replicate 32 (UInt8.ofNat password.length)
  toLower := id
  parseAddr := some

def identity : Identity := ⟨"identity", "a@b.c", .active⟩

def credential : PasswordCredential where
  identityID := "identity"
  hash := List.replicate 32 1
  salt := List.replicate 16 0
  memoryKiB := 65536
  iterations := 3
  parallelism := 4
  version := 19

/-- The beginning of the year 2026. -/
def start : Time := 63902822400 * second

def system : AuthSystem := .initial [identity] [credential]

/-- The values of a request, told apart by a mark. -/
def draws (mark : String) : AuthDraws where
  sessionID := "session-" ++ mark
  sessionToken := "sfs_" ++ mark
  csrfToken := "sfc_" ++ mark
  challengeID := "challenge-" ++ mark
  challengeToken := "sfm_" ++ mark
  setupID := "0190b6f2-0000-7000-8000-00000000000" ++ mark
  secret := []
  factorID := "factor-" ++ mark
  recoveryCodes := fun i => (mark ++ toString i, List.replicate 15 0 ++ [UInt8.ofNat i])

/-- A password attempt from one of the clients. -/
def login (password source : String) (now : Time) : AuthEvent :=
  .passwordLogin ⟨"a@b.c", password, source, "", "", ""⟩ now

end AuthSample

end Stackfort.Authentication
