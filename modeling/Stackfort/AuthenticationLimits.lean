import Stackfort.CoreTimeOrder
import Stackfort.CoreValues

/-! Attempt limits of the sign-in. Two tables count attempts in a window and hold the end of a block:
`authentication_rate_limits`, keyed by a scope and a key of that scope, and `mfa_attempt_limits`, keyed by the
identity. Both recorders of a failure are the same function of the row and the clock, with the same three
durations; the counters of the global and the source scope move when an attempt is admitted. -/

namespace Stackfort.Authentication

/-- The errors of the sign-in functions. Those the rest of the repository shares are in `core`. -/
inductive AuthError where
  | core (error : CoreError)
  | authenticationDenied
  | rateLimited (retryAfter : Nat)
  | mfaChallengeInvalid
  | sessionInvalid
  | csrfInvalid
  | recentAuthenticationRequired
  | authorizationDenied
  deriving DecidableEq

/-- The columns the two tables share. -/
structure LimitRow where
  windowStartedAt : Time
  attemptCount : Nat
  blockedUntil : Option Time
  updatedAt : Time
  deriving DecidableEq

/-- The durations and the number of attempts of one limit. -/
structure LimitPolicy where
  (window limit block : Nat)

def loginGlobalPolicy : LimitPolicy := ⟨minute, 120, minute⟩

def loginSourcePolicy : LimitPolicy := ⟨minute, 10, 5 * minute⟩

def loginIdentityPolicy : LimitPolicy := ⟨10 * minute, 5, 15 * minute⟩

def mfaAttemptPolicy : LimitPolicy := ⟨10 * minute, 5, 15 * minute⟩

/-- The row of a first attempt. -/
def LimitRow.first (now : Time) : LimitRow := ⟨now, 1, none, now⟩

/-- How long the stored block still lasts, if it has not ended. -/
def LimitRow.blockedFor (row : LimitRow) (now : Time) : Option Nat :=
  match row.blockedUntil with
  | none => none
  | some blocked => if now < blocked then some (blocked - now) else none

/-- The window of the row has ended. -/
def LimitPolicy.windowOver (policy : LimitPolicy) (row : LimitRow) (now : Time) : Bool :=
  row.windowStartedAt + policy.window ≤ now

/-- What a failed attempt leaves in its row. -/
def LimitPolicy.recordFailure (policy : LimitPolicy) (row : Option LimitRow) (now : Time) : LimitRow :=
  match row with
  | none => .first now
  | some row =>
    if policy.windowOver row now then .first now
    else
      { row with
        attemptCount := row.attemptCount + 1
        blockedUntil := if policy.limit ≤ row.attemptCount + 1 then some (now + policy.block) else none
        updatedAt := now }

/-- What an attempt leaves in the row of a limit that counts all attempts, and for how long it is refused. -/
def LimitPolicy.countAttempt (policy : LimitPolicy) (row : Option LimitRow) (now : Time) :
    LimitRow × Option Nat :=
  match row with
  | none => (.first now, none)
  | some row =>
    match row.blockedFor now with
    | some limitedFor => (row, some limitedFor)
    | none =>
      if policy.windowOver row now then (.first now, none)
      else if policy.limit < row.attemptCount + 1 then
        ({ row with
            attemptCount := row.attemptCount + 1, blockedUntil := some (now + policy.block)
            updatedAt := now }, some policy.block)
      else
        ({ row with attemptCount := row.attemptCount + 1, blockedUntil := none, updatedAt := now }, none)

/-! ### The tables -/

/-- The primary key of `authentication_rate_limits`. -/
inductive RateKey where
  | global
  | source (address : String)
  | identity (key : String)
  deriving DecidableEq

abbrev RateLimits := RateKey → Option LimitRow

/-- The bound the table sets on `attempt_count`. -/
def maximumAttemptCount : Nat := 1000000

/-- Writing a row under its key, if its count is one the table accepts. -/
def RateLimits.write (rates : RateLimits) (key : RateKey) (row : LimitRow) : Except AuthError RateLimits :=
  if row.attemptCount < 1 ∨ maximumAttemptCount < row.attemptCount then
    throw (.core (.conflict "attempt_count"))
  else pure (Function.update rates key (some row))

def applyAuthenticationAttemptLimitTx (rates : RateLimits) (key : RateKey) (policy : LimitPolicy) (now : Time) :
    Except AuthError (RateLimits × Option Nat) := do
  let counted := policy.countAttempt (rates key) now
  let rates ← rates.write key counted.1
  pure (rates, counted.2)

def authenticationIdentityBlockedTx (rates : RateLimits) (identityKey : String) (now : Time) : Option Nat :=
  (rates (.identity identityKey)).bind fun row => row.blockedFor now

/-- The row was last written more than a day ago, where the times are compared as texts. -/
def LimitRow.stale (row : LimitRow) (now : Time) : Bool :=
  formatTime row.updatedAt < formatTime (now.add (-(24 * hour : Nat)))

/-- `DELETE … WHERE scope != 'global' AND updated_at < ?`. -/
def RateLimits.expire (rates : RateLimits) (now : Time) : RateLimits := fun key =>
  if key = .global then rates key else (rates key).filter fun row => !row.stale now

/-- The admission of a password attempt. A refused attempt keeps what it has counted so far. -/
def authorizePasswordAttempt (rates : RateLimits) (sourceAddress identityKey : String) (now : Time) :
    Except AuthError (RateLimits × Option Nat) := do
  let (rates, limitedFor) ← applyAuthenticationAttemptLimitTx rates .global loginGlobalPolicy now
  if limitedFor.isSome then return (rates, limitedFor)
  let (rates, limitedFor) ← applyAuthenticationAttemptLimitTx rates (.source sourceAddress) loginSourcePolicy now
  if limitedFor.isSome then return (rates, limitedFor)
  let limitedFor := authenticationIdentityBlockedTx rates identityKey now
  if limitedFor.isSome then return (rates, limitedFor)
  return (rates.expire now, none)

def recordIdentityLoginFailure (rates : RateLimits) (identityKey : String) (now : Time) :
    Except AuthError RateLimits :=
  rates.write (.identity identityKey) (loginIdentityPolicy.recordFailure (rates (.identity identityKey)) now)

abbrev MFALimits := ID → Option LimitRow

def mfaAttemptRetryTx (limits : MFALimits) (identityID : ID) (now : Time) : Option Nat :=
  (limits identityID).bind fun row => row.blockedFor now

def recordMFAFailure (limits : MFALimits) (identityID : ID) (now : Time) : MFALimits :=
  Function.update limits identityID (some (mfaAttemptPolicy.recordFailure (limits identityID) now))

def clearMFAFailures (limits : MFALimits) (identityID : ID) : MFALimits := Function.update limits identityID none

end Stackfort.Authentication
