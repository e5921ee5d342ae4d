import Stackfort.AuthenticationCodes
import Stackfort.AuthenticationLimits

/-! The tables of the sign-in and the transactions over them. Identities and credentials say who may sign in,
sessions who has; an identity may have one active TOTP factor with its recovery codes, a setup on the way to a
next one, and login challenges that wait for its code. A transaction is a function of the store, of what
the request brings, of the values drawn for it and of one clock reading; an error is a rollback. Secrets
are stored as they are: their envelopes open to what was sealed. Audit records are left out. -/

namespace Stackfort.Authentication

/-! ### Rows -/

inductive IdentityStatus where
  | active
  | suspended
  | archived
  deriving DecidableEq

structure Identity where
  id : ID
  normalizedEmail : String
  status : IdentityStatus
  deriving DecidableEq

structure PasswordCredential where
  identityID : ID
  (hash salt : Bytes)
  (memoryKiB iterations parallelism version : Nat)
  deriving DecidableEq

inductive SessionLevel where
  | password
  | totp
  | recovery
  deriving DecidableEq

/-- A row of `sessions`. The triggers of the table are the last field. -/
structure Session where
  (id identityID : ID)
  (tokenHash csrfSecretHash : Bytes)
  (authenticatedAt lastSeenAt expiresAt : Time)
  revoked : Option (Time × String)
  authenticationLevel : SessionLevel
  mfaAuthenticatedAt : Option Time
  consistent : authenticationLevel = .password ↔ mfaAuthenticatedAt = none

/-- The status of a factor, with the time it was deactivated. -/
inductive FactorStatus where
  | active
  | replaced (deactivatedAt : Time)
  | removed (deactivatedAt : Time)
  deriving DecidableEq

structure TOTPFactor where
  (id identityID : ID)
  status : FactorStatus
  secret : Bytes
  lastUsedCounter : Option Int
  deriving DecidableEq

inductive SetupCompletion where
  | activated
  | replaced
  | expired
  | attemptsExhausted
  deriving DecidableEq

structure TOTPSetup where
  (id identityID sessionID : ID)
  replacesFactorID : Option ID
  secret : Bytes
  expiresAt : Time
  consumed : Option (Time × SetupCompletion)
  attemptCount : Nat
  deriving DecidableEq

structure RecoveryCode where
  (id factorID identityID : ID)
  codeHash : Bytes
  usedAt : Option Time
  deriving DecidableEq

structure MFALoginChallenge where
  (id identityID : ID)
  tokenHash : Bytes
  previousSessionID : Option ID
  expiresAt : Time
  consumedAt : Option Time
  attemptCount : Nat
  deriving DecidableEq

structure AuthStore where
  identities : List Identity
  credentials : List PasswordCredential
  sessions : List Session
  factors : List TOTPFactor
  setups : List TOTPSetup
  recoveryCodes : List RecoveryCode
  challenges : List MFALoginChallenge
  rates : RateLimits
  mfaLimits : MFALimits

namespace AuthStore

/-- Before anybody has signed in. -/
def initial (identities : List Identity) (credentials : List PasswordCredential) : AuthStore where
  identities := identities
  credentials := credentials
  sessions := []
  factors := []
  setups := []
  recoveryCodes := []
  challenges := []
  rates := fun _ => none
  mfaLimits := fun _ => none

def findIdentity (db : AuthStore) (id : ID) : Option Identity := db.identities.find? fun row => row.id = id

/-! ### Statements -/

def revokeSessions (db : AuthStore) (selects : Session → Bool) (reason : String) (now : Time) : AuthStore :=
  { db with
    sessions := updateWhere (fun row => row.revoked.isNone && selects row)
      (fun row => { row with revoked := some (now, reason) }) db.sessions }

def insertSession (db : AuthStore) (session : Session) : Except AuthError AuthStore :=
  if db.sessions.any fun row => row.id = session.id ∨ row.tokenHash = session.tokenHash then
    throw (.core (.conflict "sessions"))
  else pure { db with sessions := db.sessions ++ [session] }

def consumeChallenges (db : AuthStore) (selects : MFALoginChallenge → Bool) (now : Time) : AuthStore :=
  { db with
    challenges := updateWhere (fun row => row.consumedAt.isNone && selects row)
      (fun row => { row with consumedAt := some now }) db.challenges }

def insertChallenge (db : AuthStore) (challenge : MFALoginChallenge) : Except AuthError AuthStore :=
  if db.challenges.any fun row => row.id = challenge.id ∨ row.tokenHash = challenge.tokenHash then
    throw (.core (.conflict "mfa_login_challenges"))
  else pure { db with challenges := db.challenges ++ [challenge] }

def consumeSetups (db : AuthStore) (selects : TOTPSetup → Bool) (reason : SetupCompletion) (now : Time) :
    AuthStore :=
  { db with
    setups := updateWhere (fun row => row.consumed.isNone && selects row)
      (fun row => { row with consumed := some (now, reason) }) db.setups }

/-- An insert into `totp_setup_challenges`, which holds one open setup for each identity. -/
def insertSetup (db : AuthStore) (setup : TOTPSetup) : Except AuthError AuthStore :=
  if db.setups.any fun row => row.id = setup.id ∨ row.identityID = setup.identityID ∧ row.consumed = none then
    throw (.core (.conflict "totp_setup_challenges"))
  else pure { db with setups := db.setups ++ [setup] }

def deactivateFactor (db : AuthStore) (factorID identityID : ID) (status : FactorStatus) : AuthStore :=
  { db with
    factors := updateWhere
      (fun row => row.id = factorID && row.identityID = identityID && row.status = .active)
      (fun row => { row with status := status }) db.factors }

/-- An insert into `totp_factors`, which holds one active factor for each identity. -/
def insertFactor (db : AuthStore) (factor : TOTPFactor) : Except AuthError AuthStore :=
  if db.factors.any fun row =>
      row.id = factor.id ∨ row.identityID = factor.identityID ∧ row.status = .active ∧ factor.status = .active then
    throw (.core (.conflict "totp_factors"))
  else pure { db with factors := db.factors ++ [factor] }

def insertRecoveryCode (db : AuthStore) (code : RecoveryCode) : Except AuthError AuthStore :=
  if db.recoveryCodes.any fun row => row.id = code.id ∨ row.codeHash = code.codeHash then
    throw (.core (.conflict "recovery_codes"))
  else pure { db with recoveryCodes := db.recoveryCodes ++ [code] }

def insertRecoveryCodes : AuthStore → List RecoveryCode → Except AuthError AuthStore
  | db, [] => pure db
  | db, code :: rest => do
      let db ← db.insertRecoveryCode code
      insertRecoveryCodes db rest

variable {db db' : AuthStore}

theorem insertSession_eq {session : Session} (h : db.insertSession session = .ok db') :
    (∀ row ∈ db.sessions, row.id ≠ session.id) ∧ db' = { db with sessions := db.sessions ++ [session] } := by
  rw [insertSession, ite_throw_eq_ok_iff] at h
  obtain ⟨hfresh, h⟩ := h
  cases h
  exact ⟨fun row hrow hid => not_of_not_any hfresh row hrow (.inl hid), rfl⟩

theorem insertChallenge_eq {challenge : MFALoginChallenge} (h : db.insertChallenge challenge = .ok db') :
    db' = { db with challenges := db.challenges ++ [challenge] } := by
  rw [insertChallenge, ite_throw_eq_ok_iff] at h
  cases h.2
  rfl

theorem insertSetup_eq {setup : TOTPSetup} (h : db.insertSetup setup = .ok db') :
    db' = { db with setups := db.setups ++ [setup] } := by
  rw [insertSetup, ite_throw_eq_ok_iff] at h
  cases h.2
  rfl

theorem insertFactor_eq {factor : TOTPFactor} (h : db.insertFactor factor = .ok db') :
    (∀ row ∈ db.factors, row.id ≠ factor.id) ∧ db' = { db with factors := db.factors ++ [factor] } := by
  rw [insertFactor, ite_throw_eq_ok_iff] at h
  obtain ⟨hfresh, h⟩ := h
  cases h
  exact ⟨fun row hrow hid => not_of_not_any hfresh row hrow (.inl hid), rfl⟩

theorem insertRecoveryCode_eq {code : RecoveryCode} (h : db.insertRecoveryCode code = .ok db') :
    (∀ row ∈ db.recoveryCodes, row.id ≠ code.id ∧ row.codeHash ≠ code.codeHash) ∧
      db' = { db with recoveryCodes := db.recoveryCodes ++ [code] } := by
  rw [insertRecoveryCode, ite_throw_eq_ok_iff] at h
  obtain ⟨hfresh, h⟩ := h
  cases h
  exact ⟨fun row hrow => not_or.mp (not_of_not_any hfresh row hrow), rfl⟩

theorem insertRecoveryCodes_eq {codes : List RecoveryCode} (h : db.insertRecoveryCodes codes = .ok db') :
    db' = { db with recoveryCodes := db.recoveryCodes ++ codes } := by
  induction codes generalizing db with
  | nil =>
    cases h
    rw [List.append_nil]
  | cons code rest ih =>
    obtain ⟨mid, hcode, hrest⟩ := bind_eq_ok_iff.mp h
    obtain ⟨-, rfl⟩ := insertRecoveryCode_eq hcode
    rw [ih hrest, List.append_assoc]
    rfl

/-! ### The current factor -/

def loadActiveTOTPFactorTx (db : AuthStore) (identityID : ID) : Option TOTPFactor :=
  db.factors.find? fun row => row.identityID = identityID && row.status = .active

end AuthStore

/-- A code that has been taken: the step of a TOTP code, or the digest of a recovery code. -/
inductive AcceptedCode where
  | totp (counter : Int)
  | recovery (codeHash : Bytes)
  deriving DecidableEq

/-- The level of a session that was opened with the code. -/
def AcceptedCode.level : AcceptedCode → SessionLevel
  | .totp _ => .totp
  | .recovery _ => .recovery

/-- A code, the factor it was taken for and the clock at that moment. -/
structure Acceptance where
  factorID : ID
  code : AcceptedCode
  acceptedAt : Time
  deriving DecidableEq

namespace AuthStore

/-- The row of the factor, unless the step or a later one has been used meanwhile. -/
def unusedAt (factor : TOTPFactor) (counter : Int) (row : TOTPFactor) : Bool :=
  row.id = factor.id && row.identityID = factor.identityID && row.status = .active &&
    row.lastUsedCounter.all (· < counter)

def useCounter (db : AuthStore) (factor : TOTPFactor) (counter : Int) : AuthStore :=
  { db with
    factors := updateWhere (unusedAt factor counter)
      (fun row => { row with lastUsedCounter := some counter }) db.factors }

def useRecoveryCode (db : AuthStore) (id : ID) (now : Time) : AuthStore :=
  { db with
    recoveryCodes := updateWhere (fun row => row.id = id && row.usedAt.isNone)
      (fun row => { row with usedAt := some now }) db.recoveryCodes }

/-- The check of a code against a factor, which uses the code up. A six-digit text that matches no step is
not a recovery code either, so it is refused by the second half. -/
def verifyCurrentFactorTx (services : AuthServices) (db : AuthStore) (factor : TOTPFactor) (code : String)
    (now : Time) : AuthStore × Option AcceptedCode :=
  let matched := (normalizeTOTPCode code).bind fun totpCode =>
    matchTOTP services factor.secret totpCode now factor.lastUsedCounter
  match matched with
  | some counter =>
    (db.useCounter factor counter,
      if db.factors.countP (unusedAt factor counter) = 1 then some (.totp counter) else none)
  | none =>
    match normalizeRecoveryCode services code with
    | none => (db, none)
    | some canonicalRecovery =>
      let codeHash := services.sha256 canonicalRecovery
      let found := db.recoveryCodes.find? fun row =>
        row.factorID = factor.id && row.identityID = factor.identityID && row.codeHash = codeHash &&
          row.usedAt.isNone
      match found with
      | none => (db, none)
      | some recovery =>
        (db.useRecoveryCode recovery.id now,
          if db.recoveryCodes.countP (fun row => row.id = recovery.id && row.usedAt.isNone) = 1 then
            some (.recovery codeHash)
          else none)

end AuthStore

/-! ### Password sign-in -/

def passwordSessionAbsoluteTTL : Nat := 12 * hour

def passwordSessionIdleTTL : Nat := 30 * minute

def passwordSessionTouch : Nat := minute

def mfaLoginChallengeTTL : Nat := 5 * minute

def recentAuthenticationTTL : Nat := 5 * minute

def totpSetupTTL : Nat := 10 * minute

def totpMaximumAttempts : Nat := 5

def recoveryCodeCount : Nat := 10

/-- The values a request draws: identifiers, tokens with their marks, a secret and recovery codes. -/
structure AuthDraws where
  sessionID : ID
  (sessionToken csrfToken : String)
  challengeID : ID
  challengeToken : String
  setupID : ID
  secret : Bytes
  factorID : ID
  recoveryCodes : Fin recoveryCodeCount → ID × Bytes

structure PasswordLoginParams where
  (email password sourceAddress userAgent requestID previousSessionToken : String)

structure PasswordCandidate where
  present : Bool
  identity : Identity
  credential : PasswordCredential

def bootstrapArgonKeyBytes : Nat := 32

/-- The candidate of an address nobody has, which costs the same derivation. -/
def dummyCandidate (services : AuthServices) : PasswordCandidate where
  present := false
  identity := ⟨"", "", .archived⟩
  credential :=
    { identityID := ""
      hash := services.sha256 "Stackfort authentication timing equalizer v1", salt := "StackfortDummyV1".toUTF8.toList
      memoryKiB := 64 * 1024, iterations := 3, parallelism := 4, version := 19 }

def countCharacter (value : String) (c : Char) : Nat := value.toList.count c

/-- The normalized form of an address. -/
def normalizeEmail (services : AuthServices) (value : String) : Except CoreError String := do
  let email ← validateText value "email" 3 254
  if countCharacter email '@' ≠ 1 ∨ email.toList.any fun c => c = ' ' || c = '\t' || c = '\r' || c = '\n' then
    throw (.invalidInput "email must contain one address without whitespace")
  let localPart := email.toList.takeWhile (· ≠ '@')
  let domainPart := (email.toList.dropWhile (· ≠ '@')).drop 1
  if localPart = [] ∨ domainPart = [] ∨ domainPart.head? = some '.' ∨ domainPart.getLast? = some '.' then
    throw (.invalidInput "email has an invalid local or domain part")
  pure (services.toLower email)

def authenticationIdentityKey (services : AuthServices) (normalizedEmail : String) : String :=
  String.ofList (hexDigits (services.sha256 normalizedEmail))

/-- The address that is looked up, if it is one, and the key its failures are counted under. -/
@[irreducible] def passwordIdentityKey (services : AuthServices) (email : String) : Option String × String :=
  match normalizeEmail services email with
  | .ok normalized => (some normalized, authenticationIdentityKey services normalized)
  | .error _ => (none, authenticationIdentityKey services (services.toLower (trimSpace email)))

def normalizeSourceAddress (services : AuthServices) (value : String) : Except AuthError String :=
  match services.parseAddr (trimSpace value) with
  | some address => pure address
  | none => throw (.core (.invalidInput "sourceAddress must be an IP address"))

def validateLoginPasswordInput (password : String) : Except AuthError Unit :=
  if 1024 < password.utf8ByteSize ∨ 128 < password.length then
    throw (.core (.invalidInput "password input exceeds supported bounds"))
  else pure ()

/-- The checks before a password attempt is counted; the result is the source it is counted under. -/
def checkPasswordLogin (services : AuthServices) (params : PasswordLoginParams) : Except AuthError String := do
  let sourceAddress ← normalizeSourceAddress services params.sourceAddress
  let _ ← (validateOptionalText params.userAgent "userAgent" 512).mapError .core
  let _ ← (validateOptionalText params.requestID "requestId" 128).mapError .core
  validateLoginPasswordInput params.password
  if 128 < params.previousSessionToken.utf8ByteSize then
    throw (.core (.invalidInput "previous session token is too long"))
  pure sourceAddress

def credentialSupported (credential : PasswordCredential) : Bool :=
  credential.hash.length = bootstrapArgonKeyBytes && 16 ≤ credential.salt.length && credential.salt.length ≤ 64 &&
    8192 ≤ credential.memoryKiB && credential.memoryKiB ≤ 256 * 1024 &&
    1 ≤ credential.iterations && credential.iterations ≤ 10 &&
    1 ≤ credential.parallelism && credential.parallelism ≤ 16 && credential.version = 19

namespace AuthStore

/-- The candidate of a normalized address: `none` is an address that did not parse. -/
@[irreducible] def loadPasswordCandidate (services : AuthServices) (db : AuthStore) (normalizedEmail : Option String) :
    Except AuthError PasswordCandidate :=
  let joined := normalizedEmail.bind fun normalized =>
    (db.identities.find? fun row => row.normalizedEmail = normalized).bind fun identity =>
      (db.credentials.find? fun row => row.identityID = identity.id).map fun credential => (identity, credential)
  match joined with
  | none => pure (dummyCandidate services)
  | some (identity, credential) =>
    if credentialSupported credential then pure ⟨true, identity, credential⟩
    else throw (.core (.internal "stored password credential uses unsupported verification parameters"))

end AuthStore

/-- The derived key is the stored one, and the identity may sign in. -/
def PasswordCandidate.valid (services : AuthServices) (candidate : PasswordCandidate) (password : String) : Bool :=
  services.derivePassword password candidate.credential.salt candidate.credential.iterations
      candidate.credential.memoryKiB candidate.credential.parallelism bootstrapArgonKeyBytes =
    candidate.credential.hash && candidate.present && candidate.identity.status = .active

namespace AuthStore

/-- The identity is still active and its credential is still the one that was verified. -/
def revalidatePasswordCandidateTx (db : AuthStore) (candidate : PasswordCandidate) : Except AuthError Unit :=
  let joined := (db.findIdentity candidate.identity.id).bind fun identity =>
    (db.credentials.find? fun row => row.identityID = identity.id).map fun credential => (identity, credential)
  match joined with
  | none => throw .authenticationDenied
  | some (identity, credential) =>
    if identity.status ≠ .active ∨ credential.hash ≠ candidate.credential.hash ∨
        credential.salt ≠ candidate.credential.salt ∨ credential.memoryKiB ≠ candidate.credential.memoryKiB ∨
        credential.iterations ≠ candidate.credential.iterations ∨
        credential.parallelism ≠ candidate.credential.parallelism ∨
        credential.version ≠ candidate.credential.version then
      throw .authenticationDenied
    else pure ()

def resolvePreviousSessionIDTx (db : AuthStore) (tokenHash : Bytes) (identityID : ID) : Option ID :=
  (db.sessions.find? fun row => row.tokenHash = tokenHash && row.identityID = identityID && row.revoked.isNone).map
    Session.id

def rotatePreviousSessionTx (db : AuthStore) (tokenHash : Bytes) (now : Time) : AuthStore :=
  match db.sessions.find? fun row => row.tokenHash = tokenHash && row.revoked.isNone with
  | none => db
  | some session => db.revokeSessions (fun row => row.id = session.id) "login_rotation" now

/-- `DELETE FROM authentication_rate_limits WHERE scope = 'identity' AND rate_key = ?`. -/
def clearIdentityRate (db : AuthStore) (identityKey : String) : AuthStore :=
  { db with rates := Function.update db.rates (.identity identityKey) none }

/-- A session opened with a password alone. -/
def passwordSession (services : AuthServices) (identityID : ID) (draws : AuthDraws) (now : Time) : Session where
  id := draws.sessionID
  identityID := identityID
  tokenHash := services.sha256 draws.sessionToken
  csrfSecretHash := services.sha256 draws.csrfToken
  authenticatedAt := now
  lastSeenAt := now
  expiresAt := now + passwordSessionAbsoluteTTL
  revoked := none
  authenticationLevel := .password
  mfaAuthenticatedAt := none
  consistent := by decide

/-- The transaction that ends a password sign-in whose password was right: a challenge where the identity has
an active factor, a session otherwise. -/
def passwordLoginTx (services : AuthServices) (db : AuthStore) (candidate : PasswordCandidate)
    (identityKey previousSessionToken : String) (draws : AuthDraws) (now : Time) : Except AuthError AuthStore := do
  db.revalidatePasswordCandidateTx candidate
  match db.loadActiveTOTPFactorTx candidate.identity.id with
  | some _ =>
    let previousSessionID :=
      if previousSessionToken = "" then none
      else db.resolvePreviousSessionIDTx (services.sha256 previousSessionToken) candidate.identity.id
    let consumed := db.consumeChallenges (fun row => row.identityID = candidate.identity.id) now
    let inserted ← consumed.insertChallenge
      { id := draws.challengeID
        identityID := candidate.identity.id, tokenHash := services.sha256 draws.challengeToken
        previousSessionID := previousSessionID, expiresAt := now + mfaLoginChallengeTTL, consumedAt := none
        attemptCount := 0 }
    pure (inserted.clearIdentityRate identityKey)
  | none =>
    let rotated :=
      if previousSessionToken = "" then db
      else db.rotatePreviousSessionTx (services.sha256 previousSessionToken) now
    let inserted ← rotated.insertSession (passwordSession services candidate.identity.id draws now)
    pure (inserted.clearIdentityRate identityKey)

end AuthStore

/-! ### Sign-in with a second factor -/

structure CompleteMFALoginParams where
  (challengeToken code requestID : String)

/-- What the transaction of `CompleteMFALogin` found. -/
structure MFAReply where
  /-- The identity of the challenge, if there is such a challenge. -/
  identityID : Option ID
  retryAfter : Option Nat
  failed : Bool
  accepted : Option Acceptance

namespace AuthStore

def checkCompleteMFALogin (params : CompleteMFALoginParams) : Except AuthError Unit := do
  if params.challengeToken = "" ∨ 128 < params.challengeToken.utf8ByteSize ∨
      ¬"sfm_".toList.isPrefixOf params.challengeToken.toList ∨ 128 < params.code.utf8ByteSize then
    throw .mfaChallengeInvalid
  let _ ← (validateOptionalText params.requestID "requestId" 128).mapError .core

/-- A session opened with a second factor. -/
def mfaSession (services : AuthServices) (identityID : ID) (code : AcceptedCode) (draws : AuthDraws) (now : Time) :
    Session where
  id := draws.sessionID
  identityID := identityID
  tokenHash := services.sha256 draws.sessionToken
  csrfSecretHash := services.sha256 draws.csrfToken
  authenticatedAt := now
  lastSeenAt := now
  expiresAt := now + passwordSessionAbsoluteTTL
  revoked := none
  authenticationLevel := code.level
  mfaAuthenticatedAt := some now
  consistent := by cases code <;> simp [AcceptedCode.level]

/-- A wrong code counts against the challenge, and the last one ends it. -/
def failChallenge (db : AuthStore) (challenge : MFALoginChallenge) (now : Time) : Except AuthError AuthStore :=
  let nextAttempts := challenge.attemptCount + 1
  if 5 < nextAttempts then throw (.core (.conflict "attempt_count"))
  else
    pure { db with
      challenges := updateWhere (fun row => row.id = challenge.id && row.consumedAt.isNone)
        (fun row => { row with
          attemptCount := nextAttempts
          consumedAt := if totpMaximumAttempts ≤ nextAttempts then some now else none }) db.challenges }

/-- The challenge a token names, if it has not been consumed, with its identity. -/
def openChallenge (db : AuthStore) (tokenHash : Bytes) : Option (MFALoginChallenge × Identity) :=
  (db.challenges.find? fun row => row.tokenHash = tokenHash && row.consumedAt.isNone).bind fun challenge =>
    (db.findIdentity challenge.identityID).map fun identity => (challenge, identity)

/-- The session the sign-in was begun from ends. -/
def revokePreviousSession (db : AuthStore) (challenge : MFALoginChallenge) (now : Time) : AuthStore :=
  match challenge.previousSessionID with
  | none => db
  | some previous =>
    db.revokeSessions (fun row => row.id = previous && row.identityID = challenge.identityID) "login_rotation" now

/-- The part of the transaction after a code was taken: whether the challenge was still open, which it is, and
the session. -/
def openMFASession (services : AuthServices) (db : AuthStore) (challenge : MFALoginChallenge) (code : AcceptedCode)
    (draws : AuthDraws) (now : Time) : Except AuthError (AuthStore × Bool) := do
  let consumed := db.consumeChallenges (fun row => row.id = challenge.id) now
  if (db.challenges.countP fun row => row.consumedAt.isNone && row.id = challenge.id) ≠ 1 then
    return (consumed, false)
  let rotated := consumed.revokePreviousSession challenge now
  let inserted ← rotated.insertSession (mfaSession services challenge.identityID code draws now)
  return ({ inserted with mfaLimits := clearMFAFailures inserted.mfaLimits challenge.identityID }, true)

def completeMFALoginTx (services : AuthServices) (db : AuthStore) (params : CompleteMFALoginParams)
    (draws : AuthDraws) (now : Time) : Except AuthError (AuthStore × MFAReply) :=
  match db.openChallenge (services.sha256 params.challengeToken) with
  | none => pure (db, ⟨none, none, true, none⟩)
  | some (challenge, identity) =>
    match mfaAttemptRetryTx db.mfaLimits challenge.identityID now with
    | some retryAfter => pure (db, ⟨some identity.id, some retryAfter, false, none⟩)
    | none =>
      if identity.status ≠ .active ∨ challenge.expiresAt ≤ now ∨
          totpMaximumAttempts ≤ challenge.attemptCount then
        pure (db.consumeChallenges (fun row => row.id = challenge.id) now,
          ⟨some identity.id, none, true, none⟩)
      else
        match db.loadActiveTOTPFactorTx challenge.identityID with
        | none =>
          pure (db.consumeChallenges (fun row => row.id = challenge.id) now,
            ⟨some identity.id, none, true, none⟩)
        | some factor =>
          match db.verifyCurrentFactorTx services factor params.code now with
          | (verified, none) => do
              let failed ← verified.failChallenge challenge now
              pure (failed, ⟨some identity.id, none, true, none⟩)
          | (verified, some code) => do
              let (opened, consumed) ← verified.openMFASession services challenge code draws now
              pure (opened, ⟨some identity.id, none, !consumed, some ⟨factor.id, code, now⟩⟩)

end AuthStore

/-! ### Requests of a session -/

/-- Who makes a request. The proof that the pair came out of `AuthenticateSession` is not modelled. -/
structure AuthorizationSubject where
  (identityID sessionID : ID)

namespace AuthStore

/-- The session of a subject, while it may be used for a change. `Authorize` makes the same checks for the
actions on one's own factors and sessions. -/
def requireSubjectSessionTx (db : AuthStore) (subject : AuthorizationSubject) (now : Time) : Except AuthError Unit :=
  let joined := (db.sessions.find? fun row =>
      row.id = subject.sessionID && row.identityID = subject.identityID && row.revoked.isNone).bind fun session =>
    (db.findIdentity session.identityID).map fun identity => (session, identity)
  match joined with
  | none => throw .sessionInvalid
  | some (session, identity) =>
    if identity.status ≠ .active ∨ now < session.authenticatedAt ∨ session.expiresAt ≤ now ∨
        session.lastSeenAt + passwordSessionIdleTTL ≤ now then
      throw .sessionInvalid
    else if session.authenticatedAt < now.add (-(recentAuthenticationTTL : Nat)) then
      throw .recentAuthenticationRequired
    else pure ()

end AuthStore

/-- A request that changes the factors of its subject. -/
inductive FactorRequest where
  | beginEnrollment (currentFactor : String)
  | confirmEnrollment (challengeID : ID) (code : String)
  | disable (currentFactor : String)

/-- The checks of the request's own values, made after it was authorized. -/
def FactorRequest.check : FactorRequest → Except AuthError Unit
  | .beginEnrollment currentFactor =>
    if 128 < currentFactor.utf8ByteSize then throw (.core (.invalidInput "current factor is too long")) else pure ()
  | .confirmEnrollment challengeID code =>
    if isCanonicalUUIDv7 challengeID ∧ (normalizeTOTPCode code).isSome then pure () else throw .mfaChallengeInvalid
  | .disable currentFactor =>
    if 128 < currentFactor.utf8ByteSize then throw (.core (.invalidInput "current factor is too long")) else pure ()

/-- How the transaction of such a request ended: whether it counts as a failed attempt, and the code it took. -/
structure FactorReply where
  failed : Bool
  accepted : Option Acceptance

namespace AuthStore

/-- The setup that replaces the open one. -/
def openSetup (db : AuthStore) (subject : AuthorizationSubject) (replaces : Option ID) (draws : AuthDraws)
    (now : Time) : Except AuthError AuthStore :=
  (db.consumeSetups (fun row => row.identityID = subject.identityID) .replaced now).insertSetup
    { id := draws.setupID
      identityID := subject.identityID, sessionID := subject.sessionID, replacesFactorID := replaces
      secret := draws.secret, expiresAt := now + totpSetupTTL, consumed := none, attemptCount := 0 }

def beginTOTPEnrollmentTx (services : AuthServices) (db : AuthStore) (subject : AuthorizationSubject)
    (currentFactor : String) (draws : AuthDraws) (now : Time) : Except AuthError (AuthStore × FactorReply) := do
  db.requireSubjectSessionTx subject now
  match db.loadActiveTOTPFactorTx subject.identityID with
  | some factor =>
    match db.verifyCurrentFactorTx services factor currentFactor now with
    | (verified, none) => pure (verified, ⟨true, none⟩)
    | (verified, some code) =>
      let opened ← verified.openSetup subject (some factor.id) draws now
      pure (opened, ⟨false, some ⟨factor.id, code, now⟩⟩)
  | none =>
    if trimSpace currentFactor ≠ "" then pure (db, ⟨true, none⟩)
    else
      let opened ← db.openSetup subject none draws now
      pure (opened, ⟨false, none⟩)

def loadTOTPSetupTx (db : AuthStore) (subject : AuthorizationSubject) (challengeID : ID) : Option TOTPSetup :=
  db.setups.find? fun row =>
    row.id = challengeID && row.identityID = subject.identityID && row.sessionID = subject.sessionID &&
      row.consumed.isNone

/-- A wrong code counts against the setup, and the last one ends it. -/
def failSetup (db : AuthStore) (setup : TOTPSetup) (now : Time) : Except AuthError AuthStore :=
  let nextAttempts := setup.attemptCount + 1
  if 5 < nextAttempts then throw (.core (.conflict "attempt_count"))
  else
    pure { db with
      setups := updateWhere (fun row => row.id = setup.id && row.consumed.isNone)
        (fun row => { row with
          attemptCount := nextAttempts
          consumed := if totpMaximumAttempts ≤ nextAttempts then some (now, .attemptsExhausted) else none })
        db.setups }

/-- The digests of the drawn recovery codes. -/
def newRecoveryCodes (services : AuthServices) (identityID : ID) (draws : AuthDraws) : List RecoveryCode :=
  (List.ofFn draws.recoveryCodes).map fun drawn =>
    { id := drawn.1
      factorID := draws.factorID, identityID := identityID
      codeHash := services.sha256 (recoveryCodeText (hexDigits drawn.2)), usedAt := none }

def revokeIdentitySessionsTx (db : AuthStore) (identityID : ID) (keep : Option ID) (reason : String) (now : Time) :
    AuthStore :=
  db.revokeSessions (fun row => row.identityID = identityID && keep.all (row.id ≠ ·)) reason now

/-- The factor that is replaced is no longer active. -/
def replaceFactor (db : AuthStore) (identityID : ID) (current : Option ID) (now : Time) : AuthStore :=
  match current with
  | none => db
  | some factorID => db.deactivateFactor factorID identityID (.replaced now)

/-- The factor of a confirmed setup, which has used the step of its confirmation. -/
def confirmedFactor (identityID : ID) (setup : TOTPSetup) (counter : Int) (draws : AuthDraws) : TOTPFactor where
  id := draws.factorID
  identityID := identityID
  status := .active
  secret := setup.secret
  lastUsedCounter := some counter

/-- A new factor takes the place of the current one, and every session of the identity ends. -/
def activateFactor (services : AuthServices) (db : AuthStore) (subject : AuthorizationSubject) (setup : TOTPSetup)
    (current : Option ID) (counter : Int) (draws : AuthDraws) (now : Time) : Except AuthError AuthStore := do
  let replaced := db.replaceFactor subject.identityID current now
  let inserted ← replaced.insertFactor (confirmedFactor subject.identityID setup counter draws)
  let stocked ← inserted.insertRecoveryCodes (newRecoveryCodes services subject.identityID draws)
  let consumed := stocked.consumeSetups (fun row => row.id = setup.id) .activated now
  pure (consumed.revokeIdentitySessionsTx subject.identityID none "factor_changed" now)

def confirmTOTPEnrollmentTx (services : AuthServices) (db : AuthStore) (subject : AuthorizationSubject)
    (challengeID : ID) (code : String) (draws : AuthDraws) (now : Time) :
    Except AuthError (AuthStore × FactorReply) := do
  db.requireSubjectSessionTx subject now
  match db.loadTOTPSetupTx subject challengeID with
  | none => pure (db, ⟨true, none⟩)
  | some setup =>
    if setup.expiresAt ≤ now then
      pure (db.consumeSetups (fun row => row.id = setup.id) .expired now, ⟨true, none⟩)
    else
      match (normalizeTOTPCode code).bind fun code => matchTOTP services setup.secret code now none with
      | none =>
        let failed ← db.failSetup setup now
        pure (failed, ⟨true, none⟩)
      | some counter =>
        let current := (db.loadActiveTOTPFactorTx subject.identityID).map TOTPFactor.id
        -- The setup was begun for the factor that is active now, or for none and there is none.
        if current ≠ setup.replacesFactorID then pure (db, ⟨true, none⟩)
        else
          let activated ← db.activateFactor services subject setup current counter draws now
          pure (activated, ⟨false, some ⟨draws.factorID, .totp counter, now⟩⟩)

def disableTOTPTx (services : AuthServices) (db : AuthStore) (subject : AuthorizationSubject) (currentFactor : String)
    (now : Time) : Except AuthError (AuthStore × FactorReply) := do
  db.requireSubjectSessionTx subject now
  match db.loadActiveTOTPFactorTx subject.identityID with
  | none => pure (db, ⟨true, none⟩)
  | some factor =>
    match db.verifyCurrentFactorTx services factor currentFactor now with
    | (verified, none) => pure (verified, ⟨true, none⟩)
    | (verified, some code) =>
      let removed := verified.deactivateFactor factor.id subject.identityID (.removed now)
      let consumed := removed.consumeSetups (fun row => row.identityID = subject.identityID) .replaced now
      pure (consumed.revokeIdentitySessionsTx subject.identityID none "factor_changed" now,
        ⟨false, some ⟨factor.id, code, now⟩⟩)

/-- The transaction of a request. -/
def factorRequestTx (services : AuthServices) (db : AuthStore) (subject : AuthorizationSubject) (draws : AuthDraws)
    (now : Time) : FactorRequest → Except AuthError (AuthStore × FactorReply)
  | .beginEnrollment currentFactor => db.beginTOTPEnrollmentTx services subject currentFactor draws now
  | .confirmEnrollment challengeID code => db.confirmTOTPEnrollmentTx services subject challengeID code draws now
  | .disable currentFactor => db.disableTOTPTx services subject currentFactor now

/-! ### Sessions and credentials -/

structure AuthenticateSessionParams where
  (sessionToken csrfHeaderToken csrfCookieToken : String)
  requireCSRF : Bool

def validSessionCSRF (services : AuthServices) (storedHash : Bytes) (headerToken cookieToken : String) : Bool :=
  storedHash.length = 32 && headerToken ≠ "" && cookieToken ≠ "" && headerToken.utf8ByteSize ≤ 128 &&
    cookieToken.utf8ByteSize ≤ 128 && services.sha256 headerToken = storedHash &&
    services.sha256 cookieToken = storedHash && headerToken = cookieToken

/-- What the authentication of a session still has to write after its read. -/
inductive SessionWrite where
  | none
  | expire (reason : String)
  | touch
  deriving DecidableEq

/-- The read of `AuthenticateSession`: the session a token names and the write it needs. -/
def authenticateSession (services : AuthServices) (db : AuthStore) (params : AuthenticateSessionParams) (now : Time) :
    Except AuthError (Session × SessionWrite) := do
  if params.sessionToken = "" ∨ 128 < params.sessionToken.utf8ByteSize then throw .sessionInvalid
  let joined :=
    (db.sessions.find? fun row =>
        row.tokenHash = services.sha256 params.sessionToken && row.revoked.isNone).bind fun session =>
      (db.findIdentity session.identityID).map fun identity => (session, identity)
  match joined with
  | none => throw .sessionInvalid
  | some (session, identity) =>
    if identity.status ≠ .active then throw .sessionInvalid
    else if session.expiresAt ≤ now then pure (session, .expire "absolute_expiry")
    else if session.lastSeenAt + passwordSessionIdleTTL ≤ now then pure (session, .expire "idle_expiry")
    else if params.requireCSRF ∧
        ¬validSessionCSRF services session.csrfSecretHash params.csrfHeaderToken params.csrfCookieToken then
      throw .csrfInvalid
    else if session.lastSeenAt + passwordSessionTouch ≤ now then pure (session, .touch)
    else pure (session, .none)

def touchSession (db : AuthStore) (sessionID identityID : ID) (now : Time) : AuthStore :=
  { db with
    sessions := updateWhere
      (fun row => row.id = sessionID && row.identityID = identityID && row.revoked.isNone)
      (fun row => { row with lastSeenAt := now }) db.sessions }

/-- Revoking one session of an identity. -/
def revokeSession (db : AuthStore) (identityID sessionID : ID) (reason : String) (now : Time) :
    Except AuthError AuthStore := do
  if (db.sessions.countP fun row => row.id = sessionID && row.identityID = identityID && row.revoked.isNone) ≠ 1 then
    throw .sessionInvalid
  pure (db.revokeSessions (fun row => row.id = sessionID && row.identityID = identityID) reason now)

/-- The write of an authenticated session. -/
def sessionWriteTx (db : AuthStore) (session : Session) (now : Time) : SessionWrite → AuthStore
  | .none => db
  | .expire reason =>
    db.revokeSessions (fun row => row.id = session.id && row.identityID = session.identityID) reason now
  | .touch => db.touchSession session.id session.identityID now

structure RevokeSessionParams where
  (identityID sessionID : ID)
  (reason requestID : String)

def revokeSessionTx (db : AuthStore) (params : RevokeSessionParams) (now : Time) : Except AuthError AuthStore := do
  (validateID params.identityID "identityId").mapError .core
  (validateID params.sessionID "sessionId").mapError .core
  let reason ← (validateAction params.reason "reason" 80).mapError .core
  let _ ← (validateOptionalText params.requestID "requestId" 128).mapError .core
  db.revokeSession params.identityID params.sessionID reason now

def revokeManagedSessionTx (db : AuthStore) (subject : AuthorizationSubject) (targetSessionID : ID) (now : Time) :
    Except AuthError AuthStore := do
  db.requireSubjectSessionTx subject now
  (db.revokeSession subject.identityID targetSessionID "user_revoked" now).mapError fun _ => .authorizationDenied

def revokeAllManagedSessionsTx (db : AuthStore) (subject : AuthorizationSubject) (keepCurrent : Bool) (now : Time) :
    Except AuthError AuthStore := do
  db.requireSubjectSessionTx subject now
  pure (db.revokeIdentitySessionsTx subject.identityID (if keepCurrent then some subject.sessionID else none)
    "user_revoked_all" now)

structure SetPasswordCredentialParams where
  credential : PasswordCredential
  actorID : Option ID
  requestID : String

def checkSetPasswordCredential (params : SetPasswordCredentialParams) : Except AuthError Unit := do
  (validateID params.credential.identityID "identityId").mapError .core
  (validateOptionalID params.actorID "actorId").mapError .core
  if params.credential.hash.length < 16 ∨ 128 < params.credential.hash.length ∨
      params.credential.salt.length < 16 ∨ 64 < params.credential.salt.length then
    throw (.core (.invalidInput "password hash or salt has an unsupported length"))
  if params.credential.memoryKiB < 8192 ∨ 4194304 < params.credential.memoryKiB ∨
      params.credential.iterations < 1 ∨ 100 < params.credential.iterations ∨
      params.credential.parallelism < 1 ∨ 64 < params.credential.parallelism ∨ params.credential.version < 1 then
    throw (.core (.invalidInput "Argon2id parameters are outside supported bounds"))
  let _ ← (validateOptionalText params.requestID "requestId" 128).mapError .core

/-- The new credential takes the place of the stored one, and every session of the identity ends. -/
def setPasswordCredential (db : AuthStore) (params : SetPasswordCredentialParams) (now : Time) :
    Except AuthError AuthStore := do
  checkSetPasswordCredential params
  let identityID := params.credential.identityID
  if (db.findIdentity identityID).isNone then throw (.core (.conflict "password_credentials"))
  let credentials :=
    if db.credentials.any fun row => row.identityID = identityID then
      updateWhere (fun row => row.identityID = identityID) (fun _ => params.credential) db.credentials
    else db.credentials ++ [params.credential]
  pure ({ db with credentials := credentials }.revokeIdentitySessionsTx identityID none "credential_changed" now)

/-! ### What the transactions can do -/

variable {services : AuthServices} {db db' : AuthStore} {now : Time}

theorem verify_frame {factor : TOTPFactor} {code : String} {verified : AuthStore} {taken : Option AcceptedCode}
    (h : db.verifyCurrentFactorTx services factor code now = (verified, taken)) :
    ∃ factors codes, verified = { db with factors := factors, recoveryCodes := codes } := by
  obtain rfl : (db.verifyCurrentFactorTx services factor code now).1 = verified := congrArg Prod.fst h
  unfold verifyCurrentFactorTx
  dsimp only
  split
  · exact ⟨_, _, rfl⟩
  · split
    · exact ⟨_, _, rfl⟩
    · split <;> exact ⟨_, _, rfl⟩

theorem revokePreviousSession_frame (challenge : MFALoginChallenge) :
    ∃ sessions, db.revokePreviousSession challenge now = { db with sessions := sessions } := by
  unfold revokePreviousSession
  split <;> exact ⟨_, rfl⟩

theorem rotatePreviousSession_frame (tokenHash : Bytes) :
    ∃ sessions, db.rotatePreviousSessionTx tokenHash now = { db with sessions := sessions } := by
  unfold rotatePreviousSessionTx
  split <;> exact ⟨_, rfl⟩

theorem revokeSession_eq {identityID sessionID : ID} {reason : String}
    (h : db.revokeSession identityID sessionID reason now = .ok db') :
    ∃ selects, db' = db.revokeSessions selects reason now := by
  unfold revokeSession at h
  rw [guard_eq_ok_iff] at h
  cases h.2
  exact ⟨_, rfl⟩

theorem openChallenge_identity {tokenHash : Bytes} {challenge : MFALoginChallenge} {identity : Identity}
    (h : db.openChallenge tokenHash = some (challenge, identity)) : identity.id = challenge.identityID := by
  obtain ⟨found, -, hjoin⟩ := Option.bind_eq_some_iff.mp h
  obtain ⟨joined, hjoined, hpair⟩ := Option.map_eq_some_iff.mp hjoin
  cases hpair
  simpa using List.find?_some hjoined

variable {draws : AuthDraws} {identityKey previousToken : String} {subject : AuthorizationSubject}
  {candidate : PasswordCandidate}

/-- A password sign-in writes a challenge, or a session where there is no active factor. -/
theorem passwordLoginTx_outcome
    (h : db.passwordLoginTx services candidate identityKey previousToken draws now = .ok db') :
    (∃ challenges, db' = { db with challenges := challenges }.clearIdentityRate identityKey) ∨
      db.loadActiveTOTPFactorTx candidate.identity.id = none ∧
        ∃ rotated, (rotated = db ∨ ∃ tokenHash, rotated = db.rotatePreviousSessionTx tokenHash now) ∧
          db' = { rotated with
            sessions := rotated.sessions ++ [passwordSession services candidate.identity.id draws now]
          }.clearIdentityRate identityKey := by
  rw [passwordLoginTx, bind_eq_ok_iff] at h
  obtain ⟨-, -, h⟩ := h
  split at h
  · obtain ⟨inserted, hinsert, h⟩ := bind_eq_ok_iff.mp h
    cases h
    rw [insertChallenge_eq hinsert]
    exact .inl ⟨_, rfl⟩
  · next hnone =>
    obtain ⟨inserted, hinsert, h⟩ := bind_eq_ok_iff.mp h
    cases h
    obtain ⟨-, rfl⟩ := insertSession_eq hinsert
    refine .inr ⟨hnone, _, ?_, rfl⟩
    split
    · exact .inl rfl
    · exact .inr ⟨_, rfl⟩

theorem passwordLoginTx_frame
    (h : db.passwordLoginTx services candidate identityKey previousToken draws now = .ok db') :
    ∃ challenges sessions,
      db' = { db with challenges := challenges, sessions := sessions }.clearIdentityRate identityKey := by
  rcases passwordLoginTx_outcome h with ⟨challenges, rfl⟩ | ⟨-, rotated, rfl | ⟨tokenHash, rfl⟩, rfl⟩
  · exact ⟨_, _, rfl⟩
  · exact ⟨_, _, rfl⟩
  · obtain ⟨sessions, hrotated⟩ := @rotatePreviousSession_frame db now tokenHash
    rw [hrotated]
    exact ⟨_, _, rfl⟩

theorem activateFactor_frame {setup : TOTPSetup} {current : Option ID} {counter : Int}
    (h : db.activateFactor services subject setup current counter draws now = .ok db') :
    ∃ codes setups, db' = { db.replaceFactor subject.identityID current now with
      factors := (db.replaceFactor subject.identityID current now).factors ++
        [confirmedFactor subject.identityID setup counter draws]
      recoveryCodes := codes, setups := setups }.revokeIdentitySessionsTx subject.identityID none "factor_changed" now := by
  obtain ⟨inserted, hinsert, h⟩ := bind_eq_ok_iff.mp h
  obtain ⟨stocked, hstock, h⟩ := bind_eq_ok_iff.mp h
  cases h
  obtain ⟨-, rfl⟩ := insertFactor_eq hinsert
  have hstocked := insertRecoveryCodes_eq hstock
  subst hstocked
  exact ⟨_, _, rfl⟩

/-- What a sign-in with a code can do: nothing, end or count the challenge, or open a session. -/
inductive MFAOutcome (services : AuthServices) (db : AuthStore) (params : CompleteMFALoginParams) (draws : AuthDraws)
    (now : Time) : AuthStore → MFAReply → Prop where
  | refused (reply : MFAReply) (haccepted : reply.accepted = none)
      (hreply : reply.failed = false ∨ reply.identityID = none) : MFAOutcome services db params draws now db reply
  | ended {identityID challenges} (hretry : mfaAttemptRetryTx db.mfaLimits identityID now = none) :
      MFAOutcome services db params draws now { db with challenges := challenges } ⟨some identityID, none, true, none⟩
  | checked {identityID factor verified taken challenges}
      (hretry : mfaAttemptRetryTx db.mfaLimits identityID now = none)
      (hload : db.loadActiveTOTPFactorTx identityID = some factor)
      (hverify : db.verifyCurrentFactorTx services factor params.code now = (verified, taken)) :
      MFAOutcome services db params draws now { verified with challenges := challenges }
        ⟨some identityID, none, true, taken.map fun code => ⟨factor.id, code, now⟩⟩
  | opened {challenge identity factor verified code inserted}
      (hopen : db.openChallenge (services.sha256 params.challengeToken) = some (challenge, identity))
      (hretry : mfaAttemptRetryTx db.mfaLimits challenge.identityID now = none) (hunexpired : now < challenge.expiresAt)
      (hattempts : challenge.attemptCount < totpMaximumAttempts)
      (hload : db.loadActiveTOTPFactorTx challenge.identityID = some factor)
      (hverify : db.verifyCurrentFactorTx services factor params.code now = (verified, some code))
      (hinsert : ((verified.consumeChallenges (fun row => row.id = challenge.id) now).revokePreviousSession challenge
        now).insertSession (mfaSession services challenge.identityID code draws now) = .ok inserted) :
      MFAOutcome services db params draws now
        { inserted with mfaLimits := clearMFAFailures inserted.mfaLimits challenge.identityID }
        ⟨some challenge.identityID, none, false, some ⟨factor.id, code, now⟩⟩

theorem completeMFALoginTx_outcome {params : CompleteMFALoginParams} {reply : MFAReply}
    (h : db.completeMFALoginTx services params draws now = .ok (db', reply)) :
    MFAOutcome services db params draws now db' reply := by
  unfold completeMFALoginTx at h
  split at h
  · cases h
    exact .refused _ rfl (.inr rfl)
  next challenge identity hopen =>
  rw [openChallenge_identity hopen] at h
  split at h
  · cases h
    exact .refused _ rfl (.inl rfl)
  next hretry =>
  split at h
  · cases h
    exact .ended hretry
  next hvalid =>
  simp only [not_or, not_le] at hvalid
  split at h
  · cases h
    exact .ended hretry
  next factor hload =>
  split at h
  · next verified hverify =>
    obtain ⟨failed, hfailed, h⟩ := bind_eq_ok_iff.mp h
    cases h
    unfold failChallenge at hfailed
    dsimp only at hfailed
    rw [ite_throw_eq_ok_iff] at hfailed
    cases hfailed.2
    exact .checked hretry hload hverify
  · next verified code hverify =>
    obtain ⟨⟨opened, consumed⟩, hopened, h⟩ := bind_eq_ok_iff.mp h
    cases h
    unfold openMFASession at hopened
    dsimp only at hopened
    split at hopened
    · cases hopened
      exact .checked hretry hload hverify
    · obtain ⟨inserted, hinsert, hopened⟩ := bind_eq_ok_iff.mp hopened
      cases hopened
      exact .opened hopen hretry hvalid.2.1 hvalid.2.2 hload hverify hinsert

/-- What a request on factors can do: change setups, after the check of a code or without one; activate the factor of
a setup; or remove the active one. -/
inductive FactorOutcome (services : AuthServices) (db : AuthStore) (subject : AuthorizationSubject) (draws : AuthDraws)
    (now : Time) : AuthStore → FactorReply → Prop where
  | setups {setups failed} : FactorOutcome services db subject draws now { db with setups := setups } ⟨failed, none⟩
  | checked {factor code verified taken setups failed}
      (hload : db.loadActiveTOTPFactorTx subject.identityID = some factor)
      (hverify : db.verifyCurrentFactorTx services factor code now = (verified, taken)) :
      FactorOutcome services db subject draws now { verified with setups := setups }
        ⟨failed, taken.map fun code => ⟨factor.id, code, now⟩⟩
  | activated {setup current code counter activated}
      (hmatch : matchTOTP services (TOTPSetup.secret setup) code now none = some counter)
      (hactivate : db.activateFactor services subject setup current counter draws now = .ok activated) :
      FactorOutcome services db subject draws now activated ⟨false, some ⟨draws.factorID, .totp counter, now⟩⟩
  | removed {factor code verified taken setups} (hload : db.loadActiveTOTPFactorTx subject.identityID = some factor)
      (hverify : db.verifyCurrentFactorTx services factor code now = (verified, some taken)) :
      FactorOutcome services db subject draws now
        ({ verified.deactivateFactor factor.id subject.identityID (.removed now) with
          setups := setups }.revokeIdentitySessionsTx subject.identityID none "factor_changed" now)
        ⟨false, some ⟨factor.id, taken, now⟩⟩

theorem factorRequestTx_outcome {request : FactorRequest} {reply : FactorReply}
    (h : db.factorRequestTx services subject draws now request = .ok (db', reply)) :
    FactorOutcome services db subject draws now db' reply := by
  cases request with
  | beginEnrollment currentFactor =>
    obtain ⟨-, -, h⟩ := bind_eq_ok_iff.mp h
    split at h
    · next factor hload =>
      split at h
      · next hverify =>
        cases h
        exact .checked hload hverify
      · next verified code hverify =>
        obtain ⟨opened, hopened, h⟩ := bind_eq_ok_iff.mp h
        cases h
        rw [insertSetup_eq hopened]
        exact .checked hload hverify
    · split at h
      · cases h
        exact .setups
      · obtain ⟨opened, hopened, h⟩ := bind_eq_ok_iff.mp h
        cases h
        rw [insertSetup_eq hopened]
        exact .setups
  | confirmEnrollment challengeID code =>
    obtain ⟨-, -, h⟩ := bind_eq_ok_iff.mp h
    split at h
    · cases h
      exact .setups
    next setup hsetup =>
    split at h
    · cases h
      exact .setups
    split at h
    · obtain ⟨failed, hfailed, h⟩ := bind_eq_ok_iff.mp h
      cases h
      unfold failSetup at hfailed
      dsimp only at hfailed
      rw [ite_throw_eq_ok_iff] at hfailed
      cases hfailed.2
      exact .setups
    · next counter hmatched =>
      obtain ⟨totpCode, -, hmatch⟩ := Option.bind_eq_some_iff.mp hmatched
      dsimp only at h
      split at h
      · cases h
        exact .setups
      · obtain ⟨activated, hactivate, h⟩ := bind_eq_ok_iff.mp h
        cases h
        exact .activated hmatch hactivate
  | disable currentFactor =>
    obtain ⟨-, -, h⟩ := bind_eq_ok_iff.mp h
    split at h
    · cases h
      exact .setups
    next factor hload =>
    split at h
    · next hverify =>
      cases h
      exact .checked hload hverify
    · next verified code hverify =>
      cases h
      exact .removed hload hverify

end AuthStore

end Stackfort.Authentication
