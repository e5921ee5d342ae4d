import Mathlib.Data.List.Sort
import Stackfort.EventRuns
import Stackfort.ResponseCache

/-! Proving the control of a name. The issuer takes the pending authorizations of an ACME order one after
the other: it presents a token, asks the authority to validate it, waits, and cleans the token up. The
present and cleanup calls go through the response cache of the agent under keys made of the operation
and the token, so a later attempt that is offered the same token repeats the keys. The attempts of one
operation run one after the other, and the calls of all other operations fall between their steps. -/

namespace Stackfort.Issuing

/-! ### The challenge directory -/

/-- A file under a name of the directory: one of the agent's own, or something it does not touch. -/
inductive ChallengeFile where
  | managed (content : String)
  | foreign
  deriving DecidableEq

abbrev ChallengeDirectory := String → Option ChallengeFile

def ChallengeDirectory.write (directory : ChallengeDirectory) (name : String) (file : Option ChallengeFile) :
    ChallengeDirectory :=
  fun other => if other = name then file else directory other

inductive StorageError where
  | conflict
  | mutationFailed
  | unavailable
  deriving DecidableEq

/-- Whether the directory was changed, or why it could not be. -/
def presentAt (directory : ChallengeDirectory) (token content : String) :
    Except StorageError Bool × ChallengeDirectory :=
  match directory token with
  | none => (.ok true, directory.write token (some (.managed content)))
  | some (.managed existing) => if existing = content then (.ok false, directory) else (.error .conflict, directory)
  | some .foreign => (.error .conflict, directory)

def cleanupAt (directory : ChallengeDirectory) (token : String) : Except StorageError Bool × ChallengeDirectory :=
  match directory token with
  | none => (.ok false, directory)
  | some (.managed _) => (.ok true, directory.write token none)
  | some .foreign => (.error .conflict, directory)

inductive Intent where
  | present (token keyAuthorization : String)
  | cleanup (token : String)
  deriving DecidableEq

namespace Intent

def token : Intent → String
  | .present token _ => token
  | .cleanup token => token

def isTokenCharacter (c : Char) : Bool :=
  ('A' ≤ c && c ≤ 'Z') || ('a' ≤ c && c ≤ 'z') || ('0' ≤ c && c ≤ '9') || c = '_' || c = '-'

/-- `^[A-Za-z0-9_-]{22,256}$`. -/
def validToken (token : String) : Bool :=
  let characters := token.toList
  22 ≤ characters.length && characters.length ≤ 256 && characters.all isTokenCharacter

/-- The token, a point and a thumbprint of 43 characters. -/
def validKeyAuthorization (token keyAuthorization : String) : Bool :=
  let characters := keyAuthorization.toList
  let thumbprint := characters.drop (token.toList.length + 1)
  validToken token && keyAuthorization.utf8ByteSize ≤ 512 &&
    characters.take (token.toList.length + 1) = token.toList ++ ['.'] &&
    thumbprint.length = 43 && thumbprint.all isTokenCharacter

def valid : Intent → Bool
  | .present token keyAuthorization => validKeyAuthorization token keyAuthorization
  | .cleanup token => validToken token

end Intent

/-- How a call may fail on the host besides what it finds in the directory: before its change, or after it
when the change is not confirmed or the host cannot label it. -/
inductive HostFault where
  | none
  | before (error : StorageError)
  | after (error : StorageError)
  deriving DecidableEq

/-- `Presenter.Reconcile`: whether the directory changed, and whether the response is presented. -/
def reconcile (intent : Intent) (fault : HostFault) (directory : ChallengeDirectory) :
    Except StorageError (Bool × Bool) × ChallengeDirectory :=
  let stored :=
    match intent with
    | .present token keyAuthorization =>
      let stored := presentAt directory token keyAuthorization
      (stored.1.map (·, true), stored.2)
    | .cleanup token =>
      let stored := cleanupAt directory token
      (stored.1.map (·, false), stored.2)
  match fault with
  | .none => stored
  | .before error => (.error error, directory)
  | .after error => (.error error, stored.2)

/-! ### The agent -/

/-- What the digest of a request is taken of. -/
structure ChallengeRequest where
  operationID : String
  intent : Intent
  deriving DecidableEq

/-- A reply to a challenge call, or to a call of another kind. -/
inductive AgentReply where
  | challenge (changed presented : Bool)
  | error
  | unrelated
  deriving DecidableEq

/-- The status and the reply: a conflict is an answer of the agent, every other error a failure of it. -/
def dispatch : Except StorageError (Bool × Bool) → Nat × AgentReply
  | .ok (changed, presented) => (200, .challenge changed presented)
  | .error .conflict => (409, .error)
  | .error _ => (500, .error)

/-- The library functions, and the account key that signs the key authorizations. -/
structure Services where
  sha256 : String → List UInt8
  digest : ChallengeRequest → List UInt8
  http01ChallengeResponse : String → Option String

def encodeHex (bytes : List UInt8) : String :=
  String.ofList (bytes.flatMap fun byte => [(byte.toNat / 16).digitChar, (byte.toNat % 16).digitChar])

def tlsChallengeIdempotencyKey (services : Services) (operationID : String) (intent : Intent) : String :=
  let action := match intent with
    | .present _ _ => "present"
    | .cleanup _ => "cleanup"
  "tls-http01-" ++ action ++ "-" ++ operationID ++ "-" ++ encodeHex ((services.sha256 intent.token).take 6)

abbrev AgentCache := ResponseCache String (List UInt8) AgentReply

/-- The agent: its cache in front of the directory. -/
structure Agent where
  cache : AgentCache
  directory : ChallengeDirectory

/-- A call of an operation, whose request the client checks before it is sent. -/
def Agent.call (services : Services) (agent : Agent) (operationID : String) (intent : Intent) (fault : HostFault)
    (now : Time) : CacheAnswer AgentReply × Agent :=
  let answered := agent.cache.execute (tlsChallengeIdempotencyKey services operationID intent)
    (services.digest ⟨operationID, intent⟩) now
    (fun directory => let done := reconcile intent fault directory; (dispatch done.1, done.2)) agent.directory
  (answered.1, ⟨answered.2.1, answered.2.2⟩)

/-! ### The issuer -/

/-- The errors of the protocol client. -/
inductive ACMEError where
  | protocol (statusCode : Nat)
  | authorization
  | order
  | other
  deriving DecidableEq

/-- `acmeIssueFailure`, or the failure a callback returned. -/
structure IssueFailure where
  code : String
  retryable : Bool
  deriving DecidableEq

def classifyCertificateACMEError : ACMEError → IssueFailure
  | .protocol statusCode =>
    ⟨"tls.acme_authority_rejected", decide (statusCode = 429) || decide (500 ≤ statusCode)⟩
  | .authorization => ⟨"tls.acme_authorization_rejected", false⟩
  | .order => ⟨"tls.acme_order_rejected", false⟩
  | .other => ⟨"tls.acme_authority_unavailable", true⟩

/-- What a callback makes of the agent's answer, with `classifyTLSAgentFailure`: the expected `presented`
field, a conflict, or anything else, after which the agent is asked again. -/
def callbackResult (fallback : String) (expected : Bool) : CacheAnswer AgentReply → Except IssueFailure Unit
  | .executed 200 (.challenge _ presented) | .replayed 200 (.challenge _ presented) =>
    if presented = expected then .ok () else .error ⟨fallback, true⟩
  | .executed 409 .error | .replayed 409 .error | .conflict => .error ⟨"tls.agent_state_conflict", false⟩
  | _ => .error ⟨fallback, true⟩

inductive OrderStatus where
  | pending
  | ready
  | processing
  | valid
  | invalid
  deriving DecidableEq

structure Order where
  uri : String
  status : OrderStatus
  identifiers : List (String × String)
  authzURLs : List String
  (certURL finalizeURL : String)

def acmeOrderNamesMatch (order : Order) (expected : List String) : Bool :=
  (order.identifiers.all fun identifier => identifier.1 = "dns") &&
    (order.identifiers.map Prod.snd).insertionSort (· ≤ ·) = expected

inductive AuthorizationStatus where
  | pending
  | valid
  | other
  deriving DecidableEq

structure Challenge where
  (type token : String)

structure Authorization where
  status : AuthorizationStatus
  wildcard : Bool
  challenges : List Challenge

def selectHTTP01Challenge (challenges : List Challenge) : Option Challenge :=
  challenges.find? fun challenge => challenge.type = "http-01"

/-- Where a run of `Issue` stands: at the call it makes next, or at its end. The remaining authorizations
follow the loop. -/
inductive IssuePhase where
  | ordering
  | recording (order : Order)
  | authorizing (order : Order) (rest : List String)
  | cleaningValid (order : Order) (token : String) (rest : List String)
  | presenting (order : Order) (token response : String) (rest : List String)
  | accepting (order : Order) (token response : String) (rest : List String)
  | waiting (order : Order) (token : String) (rest : List String)
  | cleaning (order : Order) (token : String) (acceptErr : Option ACMEError) (rest : List String)
  | awaitingOrder (order : Order)
  | fetching
  | finalizing
  | returned (result : Except IssueFailure Unit)

/-- The answer to the call a phase makes. A call of the agent may be lost on its way back. -/
inductive IssueReply where
  | order (reply : Except ACMEError Order)
  | recorded (error : Option ACMEError)
  | authorization (reply : Except ACMEError Authorization)
  | agent (fault : HostFault) (now : Time) (delivered : Bool)
  | done (error : Option ACMEError)

namespace IssuePhase

def failed (code : String) (retryable : Bool) : IssuePhase := .returned (.error ⟨code, retryable⟩)

def failedWith (error : ACMEError) : IssuePhase := .returned (.error (classifyCertificateACMEError error))

/-- An order whose certificate can be fetched. -/
def issued (order : Order) : IssuePhase :=
  if order.certURL = "" then failed "tls.acme_order_invalid" false else .fetching

/-- The next authorization of the loop, or what follows it. -/
def next (order : Order) (rest : List String) : IssuePhase :=
  match rest with
  | [] => .awaitingOrder order
  | _ => .authorizing order rest

/-- What follows once the order is known. -/
def ordered (names : List String) (order : Order) : IssuePhase :=
  if ¬acmeOrderNamesMatch order names then failed "tls.acme_order_names_invalid" false
  else
    match order.status with
    | .valid => issued order
    | .invalid => failed "tls.acme_order_rejected" false
    | .pending => next order order.authzURLs
    | .ready | .processing => .awaitingOrder order

def authorized (services : Services) (order : Order) (rest : List String) (authorization : Authorization) :
    IssuePhase :=
  match authorization.status, authorization.wildcard with
  | .valid, _ =>
    match selectHTTP01Challenge authorization.challenges with
    | some challenge => .cleaningValid order challenge.token rest
    | none => next order rest
  | .pending, false =>
    match selectHTTP01Challenge authorization.challenges with
    | none => failed "tls.acme_http01_unavailable" false
    | some challenge =>
      match services.http01ChallengeResponse challenge.token with
      | none => failed "tls.acme_challenge_invalid" false
      | some response => .presenting order challenge.token response rest
  | _, _ => failed "tls.acme_authorization_rejected" false

/-- What follows the wait for the order. -/
def orderAwaited (order : Order) : IssuePhase :=
  if order.status = .valid then issued order
  else if order.status ≠ .ready ∨ order.finalizeURL = "" then failed "tls.acme_order_not_ready" true
  else .finalizing

/-- After the cleanup of an accepted challenge: the authority's error comes first. -/
def cleaned (order : Order) (rest : List String) (acceptErr : Option ACMEError) (result : Except IssueFailure Unit) :
    IssuePhase :=
  match acceptErr, result with
  | some error, _ => failedWith error
  | none, .ok _ => next order rest
  | none, .error failure => .returned (.error failure)

/-- After the presentation of a challenge. -/
def presented (order : Order) (token response : String) (rest : List String) (result : Except IssueFailure Unit) :
    IssuePhase :=
  match result with
  | .ok _ => .accepting order token response rest
  | .error failure => .returned (.error failure)

end IssuePhase

/-- The TLS order operation. -/
structure OrderOperation where
  operationID : String
  names : List String

/-- The operation's current attempt in front of the agent, the recorded order, and, for the record, the
tokens whose cleanup returned without an error and that nobody has presented since. -/
structure IssueState where
  agent : Agent
  orderURL : Option String
  attempt : Option IssuePhase
  cleaned : List String

/-- One step of an attempt, a new or a killed one, a call of another operation, of the challenge kind or
any other, or a restart of the agent, whose cache is in memory. -/
inductive Event where
  | start
  | advance (reply : IssueReply)
  | kill
  | challenge (operationID : String) (intent : Intent) (fault : HostFault) (now : Time)
  | call (key : String) (digest : List UInt8) (now : Time) (status : Nat)
  | restart

namespace IssueState

def initial (directory : ChallengeDirectory) : IssueState := ⟨⟨.fresh, directory⟩, none, none, []⟩

def moveTo (s : IssueState) (phase : IssuePhase) : IssueState := { s with attempt := some phase }

/-- A present call takes its token off the record. -/
def noteCall (s : IssueState) (intent : Intent) (agent : Agent) : IssueState :=
  match intent with
  | .present token _ => { s with agent := agent, cleaned := s.cleaned.filter (· ≠ token) }
  | .cleanup _ => { s with agent := agent }

/-- A callback of the issuer. The client rejects a malformed request; a lost answer is one the agent has
to be asked for again. -/
def callback (services : Services) (operation : OrderOperation) (s : IssueState) (intent : Intent) (fallback : String)
    (expected : Bool) (fault : HostFault) (now : Time) (delivered : Bool) : Except IssueFailure Unit × IssueState :=
  if intent.valid then
    let called := s.agent.call services operation.operationID intent fault now
    (if delivered then callbackResult fallback expected called.1 else .error ⟨fallback, true⟩,
      s.noteCall intent called.2)
  else (.error ⟨"tls.agent_request_rejected", false⟩, s)

def presentHTTP01 (services : Services) (operation : OrderOperation) (s : IssueState) (token response : String)
    (fault : HostFault) (now : Time) (delivered : Bool) : Except IssueFailure Unit × IssueState :=
  s.callback services operation (.present token response) "tls.http01_present_failed" true fault now delivered

/-- A cleanup that returns nil puts its token on the record. -/
def cleanupHTTP01 (services : Services) (operation : OrderOperation) (s : IssueState) (token : String)
    (fault : HostFault) (now : Time) (delivered : Bool) : Except IssueFailure Unit × IssueState :=
  let called := s.callback services operation (.cleanup token) "tls.http01_cleanup_failed" false fault now delivered
  match called.1 with
  | .ok _ => (called.1, { called.2 with cleaned := token :: called.2.cleaned })
  | .error _ => called

/-- One step of `Issue`. -/
def advance (services : Services) (operation : OrderOperation) (s : IssueState) :
    IssuePhase → IssueReply → Option IssueState
  | .ordering, .order (.error error) => some (s.moveTo (.failedWith error))
  | .ordering, .order (.ok order) =>
    some (s.moveTo (if s.orderURL.isSome then .ordered operation.names order else .recording order))
  | .recording order, .recorded none =>
    some ({ s with orderURL := some order.uri }.moveTo (.ordered operation.names order))
  | .recording _, .recorded (some error) => some (s.moveTo (.failedWith error))
  | .authorizing _ _, .authorization (.error error) => some (s.moveTo (.failedWith error))
  | .authorizing order (_ :: rest), .authorization (.ok authorization) =>
    some (s.moveTo (.authorized services order rest authorization))
  | .cleaningValid order token rest, .agent fault now delivered =>
    let called := s.cleanupHTTP01 services operation token fault now delivered
    some (called.2.moveTo (.cleaned order rest none called.1))
  | .presenting order token response rest, .agent fault now delivered =>
    let called := s.presentHTTP01 services operation token response fault now delivered
    some (called.2.moveTo (.presented order token response rest called.1))
  | .accepting order token _ rest, .done none => some (s.moveTo (.waiting order token rest))
  | .accepting order token _ rest, .done (some error) => some (s.moveTo (.cleaning order token (some error) rest))
  | .waiting order token rest, .done acceptErr => some (s.moveTo (.cleaning order token acceptErr rest))
  | .cleaning order token acceptErr rest, .agent fault now delivered =>
    let called := s.cleanupHTTP01 services operation token fault now delivered
    some (called.2.moveTo (.cleaned order rest acceptErr called.1))
  | .awaitingOrder _, .order (.error error) => some (s.moveTo (.failedWith error))
  | .awaitingOrder _, .order (.ok order) => some (s.moveTo (.orderAwaited order))
  | .fetching, .done none | .finalizing, .done none => some (s.moveTo (.returned (.ok ())))
  | .fetching, .done (some error) | .finalizing, .done (some error) => some (s.moveTo (.failedWith error))
  | _, _ => none

def step (services : Services) (operation : OrderOperation) (s : IssueState) : Event → Option IssueState
  | .start =>
    match s.attempt with
    | none | some (.returned _) => some (s.moveTo .ordering)
    | some _ => none
  | .advance reply => s.attempt.bind fun phase => s.advance services operation phase reply
  | .kill => some { s with attempt := none }
  | .challenge operationID intent fault now =>
    some (s.noteCall intent (s.agent.call services operationID intent fault now).2)
  | .call key digest now status =>
    let answered := s.agent.cache.execute key digest now (fun host => ((status, .unrelated), host)) ()
    some { s with agent := { s.agent with cache := answered.2.1 } }
  | .restart => some { s with agent := { s.agent with cache := .fresh } }

/-- At the moment the authority is asked to validate a challenge, the directory holds its response; and a
token that was cleaned up is absent until it is presented again. -/
structure Served (s : IssueState) : Prop where
  accepting : ∀ order token response rest, s.attempt = some (.accepting order token response rest) →
    s.agent.directory token = some (.managed response)
  cleaned : ∀ token ∈ s.cleaned, s.agent.directory token = none

/-- What the directory holds after an answered call. -/
def answered : Intent → Option ChallengeFile
  | .present _ keyAuthorization => some (.managed keyAuthorization)
  | .cleanup _ => none

/-- No unexpired answer is stored under the key of the operation's call, or the directory is still as the
call would leave it. -/
def answerCurrent (services : Services) (operation : OrderOperation) (s : IssueState) (intent : Intent)
    (now : Time) : Bool :=
  (s.agent.cache.live now (tlsChallengeIdempotencyKey services operation.operationID intent)).isNone ||
    s.agent.directory intent.token = answered intent

/-- The operation's calls are not answered with a stored reply the directory has left behind, and no other
operation cleans up a token between its presentation and the request to validate it. -/
def eventCurrent (services : Services) (operation : OrderOperation) (s : IssueState) : Event → Bool
  | .advance (.agent _ now _) =>
    match s.attempt with
    | some (.presenting _ token response _) => answerCurrent services operation s (.present token response) now
    | some (.cleaning _ token _ _) | some (.cleaningValid _ token _) =>
      answerCurrent services operation s (.cleanup token) now
    | _ => true
  | .challenge _ (.cleanup token) _ _ =>
    match s.attempt with
    | some (.accepting _ accepted _ _) => accepted ≠ token
    | _ => true
  | _ => true

end IssueState

/-! ### Calls and the directory -/

section Calls

/-- What a call may do to the directory. -/
structure Touches (intent : Intent) (before after : ChallengeDirectory) : Prop where
  others : ∀ name, name ≠ intent.token → after name = before name
  token : after intent.token = before intent.token ∨
    after intent.token = IssueState.answered intent ∧ (∀ token auth, intent = .present token auth → before token = none)

variable {services : Services} {operation : OrderOperation} {s s' : IssueState} {agent : Agent} {intent : Intent}
  {fault : HostFault} {now : Time} {file : Option ChallengeFile} {phase : IssuePhase} {rest : List String}
  {token : String} {order : Order}

theorem Touches.refl (intent : Intent) (directory : ChallengeDirectory) : Touches intent directory directory :=
  ⟨fun _ _ => rfl, .inl rfl⟩

variable {directory : ChallengeDirectory} {token response : String}

theorem write_of_ne {name other : String} (h : other ≠ name) : directory.write name file other = directory other :=
  if_neg h

theorem write_self {name : String} : directory.write name file name = file :=
  if_pos rfl

theorem presentAt_touches (directory : ChallengeDirectory) (token content : String) :
    Touches (.present token content) directory (presentAt directory token content).2 := by
  unfold presentAt
  split
  · next hnone =>
    refine ⟨fun name hname => write_of_ne hname, .inr ⟨write_self, ?_⟩⟩
    rintro found auth ⟨⟩
    exact hnone
  · split <;> exact .refl _ _
  · exact .refl _ _

theorem cleanupAt_touches (directory : ChallengeDirectory) (token : String) :
    Touches (.cleanup token) directory (cleanupAt directory token).2 := by
  unfold cleanupAt
  split
  · exact .refl _ _
  · refine ⟨fun name hname => write_of_ne hname, .inr ⟨write_self, ?_⟩⟩
    rintro found auth ⟨⟩
  · exact .refl _ _

theorem reconcile_touches (intent : Intent) (fault : HostFault) (directory : ChallengeDirectory) :
    Touches intent directory (reconcile intent fault directory).2 := by
  cases intent with
  | present token content =>
    cases fault with
    | before error => exact .refl _ _
    | none | after error => exact presentAt_touches directory token content
  | cleanup token =>
    cases fault with
    | before error => exact .refl _ _
    | none | after error => exact cleanupAt_touches directory token

theorem reconcile_ok {result : Bool × Bool} (h : (reconcile intent fault directory).1 = .ok result) :
    (reconcile intent fault directory).2 intent.token = IssueState.answered intent := by
  cases fault with
  | before | after => cases h
  | none =>
    cases intent with
    | present token content =>
      dsimp only [reconcile, presentAt, Intent.token, IssueState.answered] at h ⊢
      split at h
      · exact write_self
      · next existing hexisting =>
        split at h
        · next heq =>
          rw [if_pos heq, ← heq]
          exact hexisting
        · cases h
      · cases h
    | cleanup token =>
      dsimp only [reconcile, cleanupAt, Intent.token, IssueState.answered] at h ⊢
      split at h
      · next hnone => exact hnone
      · exact write_self
      · cases h

/-- The cache answers without a look at the directory, or the call goes through. -/
theorem call_directory (services : Services) (agent : Agent) (operationID : String) (intent : Intent)
    (fault : HostFault) (now : Time) :
    (agent.call services operationID intent fault now).2.directory = agent.directory ∨
      (agent.call services operationID intent fault now).2.directory =
        (reconcile intent fault agent.directory).2 := by
  unfold Agent.call
  cases hlive : agent.cache.live now (tlsChallengeIdempotencyKey services operationID intent) with
  | none => exact .inr (by rw [ResponseCache.execute_of_live_none hlive])
  | some entry => exact .inl (by rw [ResponseCache.execute_of_live_some hlive])

theorem call_touches {operationID : String} :
    Touches intent agent.directory (agent.call services operationID intent fault now).2.directory := by
  rcases call_directory services agent operationID intent fault now with h | h <;> rw [h]
  · exact .refl _ _
  · exact reconcile_touches intent fault agent.directory

variable {fallback : String} {delivered expected : Bool}

theorem ok_of_callbackResult {result : Except StorageError (Bool × Bool)}
    (h : callbackResult fallback expected (.executed (dispatch result).1 (dispatch result).2) = .ok ()) :
    ∃ value, result = .ok value := by
  match result, h with
  | .ok value, _ => exact ⟨value, rfl⟩
  | .error .conflict, h | .error .mutationFailed, h | .error .unavailable, h => cases h

namespace IssueState

@[simp] theorem noteCall_agent (s : IssueState) (intent : Intent) (agent : Agent) :
    (s.noteCall intent agent).agent = agent := by
  cases intent <;> rfl

@[simp] theorem noteCall_attempt (s : IssueState) (intent : Intent) (agent : Agent) :
    (s.noteCall intent agent).attempt = s.attempt := by
  cases intent <;> rfl

/-- **Callbacks.** One that returns nil leaves the directory as its call should, if a stored answer is
still current. -/
theorem callback_ok (h : (s.callback services operation intent fallback expected fault now delivered).1 = .ok ())
    (hcurrent : answerCurrent services operation s intent now = true) :
    (s.callback services operation intent fallback expected fault now delivered).2.agent.directory intent.token =
      answered intent := by
  unfold callback at h ⊢
  split at h
  · next hvalid =>
    rw [if_pos hvalid]
    cases delivered with
    | false => cases h
    | true =>
      rw [answerCurrent, Bool.or_eq_true, Option.isNone_iff_eq_none, decide_eq_true_eq] at hcurrent
      dsimp only at h ⊢
      rw [noteCall_agent]
      unfold Agent.call at h ⊢
      cases hlive : s.agent.cache.live now (tlsChallengeIdempotencyKey services operation.operationID intent) with
      | none =>
        rw [ResponseCache.execute_of_live_none hlive] at h ⊢
        obtain ⟨value, hvalue⟩ := ok_of_callbackResult h
        exact reconcile_ok hvalue
      | some entry =>
        rw [ResponseCache.execute_of_live_some hlive]
        rcases hcurrent with hnone | hheld
        · rw [hlive] at hnone
          cases hnone
        · exact hheld
  · cases h

/-- The tokens on the record. -/
def Clean (s : IssueState) : Prop := ∀ token ∈ s.cleaned, s.agent.directory token = none

theorem Clean.noteCall (h : s.Clean) (htouches : Touches intent s.agent.directory agent.directory) :
    (s.noteCall intent agent).Clean := by
  intro token htoken
  rw [noteCall_agent]
  cases intent with
  | present presented auth =>
    obtain ⟨hmem, hne⟩ := List.mem_filter.mp htoken
    rw [htouches.others token (of_decide_eq_true hne)]
    exact h token hmem
  | cleanup removed =>
    by_cases heq : token = removed
    · subst heq
      rcases htouches.token with hsame | ⟨hanswered, -⟩
      · exact hsame.trans (h token htoken)
      · exact hanswered
    · rw [htouches.others token heq]
      exact h token htoken

theorem Clean.callback (h : s.Clean) :
    (s.callback services operation intent fallback expected fault now delivered).2.Clean := by
  unfold IssueState.callback
  split
  · exact h.noteCall call_touches
  · exact h

theorem Clean.cleanupHTTP01 (h : s.Clean)
    (hcurrent : answerCurrent services operation s (.cleanup token) now = true) :
    (s.cleanupHTTP01 services operation token fault now delivered).2.Clean := by
  have hkept : (s.callback services operation (.cleanup token) "tls.http01_cleanup_failed" false fault now
      delivered).2.Clean := h.callback
  unfold IssueState.cleanupHTTP01
  dsimp only
  split
  · next hresult =>
    intro other hother
    rcases List.mem_cons.mp hother with rfl | hmem
    · exact callback_ok hresult hcurrent
    · exact hkept other hmem
  · exact hkept

/-- A presented response stays in the directory until its token is cleaned up. -/
theorem presented_noteCall (h : s.agent.directory token = some (.managed response))
    (htouches : Touches intent s.agent.directory agent.directory) (hintent : intent ≠ .cleanup token) :
    (s.noteCall intent agent).agent.directory token = some (.managed response) := by
  rw [noteCall_agent]
  by_cases heq : token = intent.token
  · subst heq
    rcases htouches.token with hsame | ⟨-, hbefore⟩
    · exact hsame.trans h
    · cases intent with
      | present presented auth =>
        rw [Intent.token, hbefore presented auth rfl] at h
        cases h
      | cleanup removed => exact absurd rfl hintent
  · rw [htouches.others token heq]
    exact h

/-- Only the presentation of a challenge leads to the request to validate it. -/
theorem Clean.served (h : s.Clean)
    (hphase : ∀ order token response rest, phase ≠ .accepting order token response rest) : (s.moveTo phase).Served := by
  refine ⟨fun order token response rest hattempt => ?_, h⟩
  cases hattempt
  exact absurd rfl (hphase order token response rest)

end IssueState

namespace IssuePhase

/-- Phases other than the request to validate. -/
def Elsewhere (phase : IssuePhase) : Prop := ∀ order token response rest, phase ≠ .accepting order token response rest

theorem elsewhere_failedWith (error : ACMEError) : (failedWith error).Elsewhere := nofun

theorem elsewhere_returned (result : Except IssueFailure Unit) : (returned result).Elsewhere := nofun

theorem elsewhere_next (order : Order) (rest : List String) : (next order rest).Elsewhere := by
  intro _ _ _ _ h
  cases rest <;> cases h

theorem elsewhere_issued (order : Order) : (issued order).Elsewhere := by
  intro _ _ _ _ h
  unfold issued at h
  split at h <;> cases h

theorem elsewhere_ordered (names : List String) (order : Order) : (ordered names order).Elsewhere := by
  unfold ordered
  split
  · exact nofun
  split
  · exact elsewhere_issued order
  · exact nofun
  · exact elsewhere_next order order.authzURLs
  · exact nofun
  · exact nofun

theorem elsewhere_authorized (order : Order) (rest : List String) (authorization : Authorization) :
    (authorized services order rest authorization).Elsewhere := by
  unfold authorized
  split
  · split
    · exact nofun
    · exact elsewhere_next order rest
  · split
    · exact nofun
    · split <;> exact nofun
  · exact nofun

theorem elsewhere_orderAwaited (order : Order) : (orderAwaited order).Elsewhere := by
  unfold orderAwaited
  split
  · exact elsewhere_issued order
  · split <;> exact nofun

theorem elsewhere_cleaned (order : Order) (rest : List String) (acceptErr : Option ACMEError)
    (result : Except IssueFailure Unit) : (cleaned order rest acceptErr result).Elsewhere := by
  unfold cleaned
  split
  · exact nofun
  · exact elsewhere_next order rest
  · exact nofun

end IssuePhase

namespace IssueState

open IssuePhase

/-- The cleanup of a token, in either branch of the loop. -/
theorem Clean.served_cleanup {acceptErr : Option ACMEError} (h : s.Clean)
    (hcurrent : answerCurrent services operation s (.cleanup token) now = true) :
    ((s.cleanupHTTP01 services operation token fault now delivered).2.moveTo (.cleaned order rest acceptErr
      (s.cleanupHTTP01 services operation token fault now delivered).1)).Served :=
  (h.cleanupHTTP01 hcurrent).served (elsewhere_cleaned order rest acceptErr _)

theorem Clean.served_present (h : s.Clean)
    (hcurrent : answerCurrent services operation s (.present token response) now = true) :
    ((s.presentHTTP01 services operation token response fault now delivered).2.moveTo (.presented order token response
      rest (s.presentHTTP01 services operation token response fault now delivered).1)).Served := by
  have hkept : (s.presentHTTP01 services operation token response fault now delivered).2.Clean := h.callback
  cases hresult : (s.presentHTTP01 services operation token response fault now delivered).1 with
  | error failure => exact hkept.served (elsewhere_returned _)
  | ok done =>
    refine ⟨fun order token response rest hattempt => ?_, hkept⟩
    cases hattempt
    exact callback_ok hresult hcurrent

theorem Served.advance {reply : IssueReply} (h : s.Served) (hphase : s.attempt = some phase)
    (hcurrent : eventCurrent services operation s (.advance reply) = true)
    (hstep : s.advance services operation phase reply = some s') : s'.Served := by
  have hclean : s.Clean := h.cleaned
  unfold IssueState.advance at hstep
  split at hstep <;> cases hstep
  · exact hclean.served (elsewhere_failedWith _)
  · split
    · exact hclean.served (elsewhere_ordered operation.names _)
    · exact hclean.served nofun
  · exact Clean.served (s := { s with orderURL := some _ }) hclean (elsewhere_ordered operation.names _)
  · exact hclean.served (elsewhere_failedWith _)
  · exact hclean.served (elsewhere_failedWith _)
  · exact hclean.served (elsewhere_authorized _ _ _)
  · rw [eventCurrent, hphase] at hcurrent
    exact hclean.served_cleanup hcurrent
  · rw [eventCurrent, hphase] at hcurrent
    exact hclean.served_present hcurrent
  · exact hclean.served nofun
  · exact hclean.served nofun
  · exact hclean.served nofun
  · rw [eventCurrent, hphase] at hcurrent
    exact hclean.served_cleanup hcurrent
  · exact hclean.served (elsewhere_failedWith _)
  · exact hclean.served (elsewhere_orderAwaited _)
  · exact hclean.served (elsewhere_returned _)
  · exact hclean.served (elsewhere_returned _)
  · exact hclean.served (elsewhere_failedWith _)
  · exact hclean.served (elsewhere_failedWith _)

theorem Served.step {event : Event} (h : s.Served) (hcurrent : eventCurrent services operation s event = true)
    (hstep : s.step services operation event = some s') : s'.Served := by
  have hclean : s.Clean := h.cleaned
  cases event with
  | start =>
    unfold IssueState.step at hstep
    dsimp only at hstep
    split at hstep <;> cases hstep <;> exact hclean.served nofun
  | advance reply =>
    obtain ⟨phase, hphase, hadvance⟩ := Option.bind_eq_some_iff.mp hstep
    exact h.advance hphase hcurrent hadvance
  | kill =>
    cases hstep
    exact ⟨nofun, h.cleaned⟩
  | challenge operationID intent fault now =>
    cases hstep
    refine ⟨fun order token response rest hattempt => ?_, hclean.noteCall call_touches⟩
    rw [noteCall_attempt] at hattempt
    refine presented_noteCall (h.accepting order token response rest hattempt) call_touches ?_
    rintro rfl
    -- The condition excludes another operation's cleanup of this token here.
    simp [eventCurrent, hattempt] at hcurrent
  | call key digest now status =>
    cases hstep
    exact ⟨h.accepting, h.cleaned⟩
  | restart =>
    cases hstep
    exact ⟨h.accepting, h.cleaned⟩

/-- **Challenges are served.** In every run whose events are current, whatever the authority answers and
wherever attempts fail or are killed, the response is in the directory whenever the authority is asked to
validate it, and a token that was cleaned up is absent until it is presented again. -/
theorem challenge_served (services : Services) (operation : OrderOperation) (directory : ChallengeDirectory)
    (events : List Event) (s : IssueState)
    (hcurrent : Events.Along (step services operation) (fun s event => eventCurrent services operation s event = true)
      (initial directory) events)
    (hrun : Events.run (step services operation) (initial directory) events = some s) : s.Served := by
  refine Events.run_keeps (fun s event s' hserved hevent hstep => hserved.step hevent hstep) ?_ hcurrent hrun
  exact ⟨fun _ _ _ _ hattempt => (by cases hattempt), fun _ htoken => absurd htoken List.not_mem_nil⟩

end IssueState

/-! ### Foreign files -/

/-- Something foreign lies under the same tokens. The temporary file of a write has no such name. -/
def KeepsForeign (before after : ChallengeDirectory) : Prop :=
  ∀ name, Intent.validToken name = true → (after name = some .foreign ↔ before name = some .foreign)

theorem write_foreign (hfile : file ≠ some .foreign) (htoken : directory token ≠ some .foreign) :
    KeepsForeign directory (directory.write token file) := by
  intro name _
  by_cases hname : name = token
  · rw [hname, write_self]
    exact iff_of_false hfile htoken
  · rw [write_of_ne hname]

theorem reconcile_foreign (intent : Intent) (fault : HostFault) (directory : ChallengeDirectory) :
    KeepsForeign directory (reconcile intent fault directory).2 := by
  have hstored : KeepsForeign directory (reconcile intent .none directory).2 := by
    cases intent <;> dsimp only [reconcile, presentAt, cleanupAt] <;> split
    · next hnone => exact write_foreign nofun (by simp [hnone])
    · split <;> exact fun _ _ => .rfl
    · exact fun _ _ => .rfl
    · exact fun _ _ => .rfl
    · next hmanaged => exact write_foreign nofun (by simp [hmanaged])
    · exact fun _ _ => .rfl
  cases fault with
  | before error => exact fun _ _ => .rfl
  | none | after error => exact hstored

theorem call_foreign {operationID : String} :
    KeepsForeign agent.directory (agent.call services operationID intent fault now).2.directory := by
  rcases call_directory services agent operationID intent fault now with h | h <;> rw [h]
  · exact fun _ _ => .rfl
  · exact reconcile_foreign intent fault agent.directory

namespace IssueState

theorem callback_foreign : KeepsForeign s.agent.directory
    (s.callback services operation intent fallback expected fault now delivered).2.agent.directory := by
  unfold callback
  split
  · rw [noteCall_agent]
    exact call_foreign
  · exact fun _ _ => .rfl

theorem cleanupHTTP01_foreign : KeepsForeign s.agent.directory
    (s.cleanupHTTP01 services operation token fault now delivered).2.agent.directory := by
  unfold cleanupHTTP01
  dsimp only
  split <;> exact callback_foreign

theorem step_foreign {event : Event} (hstep : s.step services operation event = some s') :
    KeepsForeign s.agent.directory s'.agent.directory := by
  cases event with
  | start =>
    unfold step at hstep
    dsimp only at hstep
    split at hstep <;> cases hstep <;> exact fun _ _ => .rfl
  | advance reply =>
    obtain ⟨phase, -, hadvance⟩ := Option.bind_eq_some_iff.mp hstep
    -- only the callbacks reach the directory
    unfold advance at hadvance
    split at hadvance <;> cases hadvance <;>
      first | exact callback_foreign | exact cleanupHTTP01_foreign | exact fun _ _ => .rfl
  | kill | call | restart =>
    cases hstep
    exact fun _ _ => .rfl
  | challenge operationID intent fault now =>
    cases hstep
    rw [noteCall_agent]
    exact call_foreign

end IssueState

end Calls

/-! ### One token, two attempts -/

namespace Sample

open IssueState

def letters (text : String) : List UInt8 := text.toList.map fun c => UInt8.ofNat c.toNat

def token : String := "0123456789abcdefghijkl"

def response : String := token ++ "." ++ String.ofList (List.replicate 43 'A')

def services : Services where
  sha256 := letters
  digest := fun request => letters (request.operationID ++ request.intent.token)
  http01ChallengeResponse := fun token => some (token ++ "." ++ String.ofList (List.replicate 43 'A'))

def operation : OrderOperation := ⟨"operation", ["a.example"]⟩

def order : Order := ⟨"order", .pending, [("dns", "a.example")], ["authorization"], "", ""⟩

def authorization : Authorization := ⟨.pending, false, [⟨"http-01", token⟩]⟩

def empty : IssueState := initial fun _ => none

/-- The first attempt, up to the request to validate. -/
def firstAttempt : List Event :=
  [.start, .advance (.order (.ok order)), .advance (.recorded none), .advance (.authorization (.ok authorization)),
    .advance (.agent .none 0 true)]

/-- The authority fails while the challenge is pending, and the token is cleaned up. -/
def unavailable : List Event :=
  [.advance (.done none), .advance (.done (some (.protocol 503))), .advance (.agent .none second true)]

/-- A minute later the same authorization is still pending, with the same token. -/
def secondAttempt : List Event :=
  [.start, .advance (.order (.ok order)), .advance (.authorization (.ok authorization)),
    .advance (.agent .none minute true)]

/-- The state asks the authority to validate the token. -/
def validating (s : IssueState) : Bool :=
  match s.attempt with
  | some (.accepting _ presented _ _) => presented = token
  | _ => false

theorem exists_of_any {p : IssueState → Bool} {found : Option IssueState} (h : found.any p = true) :
    ∃ s, found = some s ∧ p s = true :=
  Option.any_eq_true _ _ |>.mp h

theorem challenge_served_first :
    ∃ s, Events.run (step services operation) empty firstAttempt = some s ∧ validating s = true ∧ s.Served := by
  obtain ⟨s, hrun, hvalidating⟩ := exists_of_any
    (show (Events.run (step services operation) empty firstAttempt).any validating = true by decide +kernel)
  refine ⟨s, hrun, hvalidating, ?_⟩
  refine challenge_served services operation (fun _ => none) firstAttempt s ?_ hrun
  exact Events.along_of_test (fun _ _ h => h)
    (show Events.alongTest (step services operation) (eventCurrent services operation) empty firstAttempt = true by
      decide +kernel)

/-- The stored reply says that the response is presented, and the directory is empty. -/
theorem challenge_unserved_second :
    ∃ s, Events.run (step services operation) empty (firstAttempt ++ unavailable ++ secondAttempt) = some s ∧
      validating s = true ∧ s.agent.directory token = none ∧ ¬s.Served := by
  obtain ⟨s, hrun, hfound⟩ := exists_of_any
    (show (Events.run (step services operation) empty (firstAttempt ++ unavailable ++ secondAttempt)).any
      (fun s => validating s && (s.agent.directory token).isNone) = true by decide +kernel)
  rw [Bool.and_eq_true, Option.isNone_iff_eq_none] at hfound
  refine ⟨s, hrun, hfound.1, hfound.2, fun hserved => ?_⟩
  have hvalidating := hfound.1
  unfold validating at hvalidating
  split at hvalidating
  · next found presented response rest hattempt =>
      have hheld := hserved.accepting found presented response rest hattempt
      rw [of_decide_eq_true hvalidating, hfound.2] at hheld
      cases hheld
  · cases hvalidating

end Sample

end Stackfort.Issuing
