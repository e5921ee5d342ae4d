import Stackfort.CoreValues
import Stackfort.Interruption

/-! The preparation of native storage. `Advance` moves a journal through its phases, over several boots, and
calls the backend at two of them: it arms the conversion before a reboot and resumes it after that. Both
are recorded before they are done, and whatever cannot be told afterwards ends in recovery. The journal
may be written even where writing it reports an error, and the process may be killed before any call. -/

namespace Stackfort.StoragePrep

open Interruption
open Program hiding done

inductive Phase where
  | planned
  | arming
  | awaitingReboot
  | verifying
  | ready
  | recoveryRequired
  deriving DecidableEq

structure Plan where
  (operationID version sourceDigest distribution machineID rootUUID partitionUUID previousBootID : String)
  (kernel manifestDigest : String)
  deriving DecidableEq

structure State where
  schemaVersion : Int
  plan : Plan
  phase : Phase
  armAttempts : Int
  (resumeBootID failureCode : String)
  deriving DecidableEq

structure Observation where
  (machineID rootUUID partitionUUID bootID kernel : String)
  deriving DecidableEq

structure Decision where
  state : Option State
  (waiting ready : Bool)
  deriving DecidableEq

def currentSchemaVersion : Int := 1

/-! ### Validation -/

/-- A text that `uuid.Parse` reads and prints again, other than the nil one. -/
def canonicalUUID (value : String) : Bool :=
  let characters := value.toList
  characters.length == 36 &&
    (characters.zipIdx.all fun entry =>
      if entry.2 = 8 ∨ entry.2 = 13 ∨ entry.2 = 18 ∨ entry.2 = 23 then entry.1 == '-' else isLowerHexDigit entry.1) &&
    characters.any fun c => c ≠ '0' ∧ c ≠ '-'

/-- The pattern `[0-9a-f]{8}-0[1-4]`. -/
def isPrimaryMBR (value : List Char) : Bool :=
  decide (value.length = 11) && (value.take 8).all isLowerHexDigit && decide ((value.drop 8).take 2 = ['-', '0']) &&
    (value.drop 10).all fun c => '1' ≤ c && c ≤ '4'

def partitionTable (partitionUUID : String) : Except String String :=
  if canonicalUUID partitionUUID then pure "gpt"
  else if isPrimaryMBR partitionUUID.toList ∧ partitionUUID.toList.take 9 ≠ "00000000-".toList then pure "dos"
  else throw "invalid native PARTUUID: expected canonical GPT UUID or nonzero MBR signature with primary partition 01-04"

/-- The pattern `[0-9a-f]{64}`. -/
def isDigest (value : String) : Bool := decide (value.toList.length = 64) && value.toList.all isLowerHexDigit

/-- The pattern `[0-9][0-9A-Za-z.+_-]{0,127}`. -/
def isKernel (value : String) : Bool :=
  match value.toList with
  | [] => false
  | first :: rest => first.isDigit && decide (rest.length ≤ 127) && rest.all fun c => c.isAlphanum || ".+_-".toList.contains c

/-- What follows a run of one character or more. -/
def afterRun (allowed : Char → Bool) (text : List Char) : Option (List Char) :=
  if (text.head?.any allowed) then some (text.dropWhile allowed) else none

/-- What follows a given character. -/
def afterChar (c : Char) : List Char → Option (List Char)
  | [] => none
  | first :: rest => if first = c then some rest else none

/-- The pattern `[0-9]+\.[0-9]+\.[0-9]+(?:-[0-9A-Za-z.-]+)?(?:\+[0-9A-Za-z.-]+)?`. -/
def isVersion (value : String) : Bool :=
  let identifier := fun c : Char => c.isAlphanum || c = '.' || c = '-'
  let numbers := do
    let text ← afterRun Char.isDigit value.toList
    let text ← afterChar '.' text
    let text ← afterRun Char.isDigit text
    let text ← afterChar '.' text
    afterRun Char.isDigit text
  let prereleased := numbers.bind fun text =>
    match afterChar '-' text with
    | some rest => afterRun identifier rest
    | none => some text
  let built := prereleased.bind fun text =>
    match afterChar '+' text with
    | some rest => afterRun identifier rest
    | none => some text
  decide (built = some [])

def Plan.validate (plan : Plan) : Except String Unit := do
  let _ ← partitionTable plan.partitionUUID
  if ¬canonicalUUID plan.operationID ∨ ¬canonicalUUID plan.machineID ∨ ¬canonicalUUID plan.rootUUID ∨
      ¬canonicalUUID plan.previousBootID ∨ ¬isVersion plan.version ∨ 128 < plan.version.utf8ByteSize ∨
      ¬isDigest plan.sourceDigest ∨ ¬isDigest plan.manifestDigest ∨ ¬isKernel plan.kernel ∨
      plan.distribution ≠ "debian" then
    throw "invalid or unsupported native storage plan"

def recoveryReasons : List String :=
  ["identity-drift", "interrupted-arm", "arm-failed", "unexpected-boot", "boot-evidence-invalid",
    "interrupted-resume", "resume-failed", "readiness-lost", "release-invalid"]

def State.validate (state : State) : Except String Unit := do
  state.plan.validate
  if state.schemaVersion ≠ currentSchemaVersion ∨ state.armAttempts < 0 ∨ 1 < state.armAttempts ∨
      (state.resumeBootID ≠ "" ∧ (¬canonicalUUID state.resumeBootID ∨ state.resumeBootID = state.plan.previousBootID)) then
    throw "invalid native storage journal"
  if state.phase ≠ .recoveryRequired ∧ state.failureCode ≠ "" then throw "failure code outside recovery state"
  match state.phase with
  | .planned =>
    if state.armAttempts ≠ 0 ∨ state.resumeBootID ≠ "" then throw "invalid planned storage state"
  | .arming | .awaitingReboot =>
    if state.armAttempts ≠ 1 ∨ state.resumeBootID ≠ "" then throw "invalid armed storage state"
  | .verifying | .ready =>
    if state.armAttempts ≠ 1 ∨ state.resumeBootID = "" then throw "invalid resumed storage state"
  | .recoveryRequired =>
    if state.failureCode ∉ recoveryReasons then throw "invalid storage recovery reason"

def validateTransition (previous : Option State) (next : State) : Except String Unit := do
  next.validate
  match previous with
  | none => if next.phase ≠ .planned then throw "storage journal must start with a plan"
  | some previous =>
    previous.validate
    if previous.plan ≠ next.plan ∨ next.armAttempts < previous.armAttempts ∨
        (previous.resumeBootID ≠ "" ∧ next.resumeBootID ≠ previous.resumeBootID) then
      throw "storage journal identity or attempt latch changed"
    if next = previous then return
    if previous.phase ≠ .recoveryRequired ∧ next.phase = .recoveryRequired then return
    if previous.phase = .planned ∧ next.phase = .arming ∨ previous.phase = .arming ∧ next.phase = .awaitingReboot ∨
        previous.phase = .awaitingReboot ∧ next.phase = .verifying ∨ previous.phase = .verifying ∧ next.phase = .ready then
      return
    throw "unsafe native storage state transition"

/-! ### Advance -/

/-- The calls of `Advance`. Where a call may fail it answers with its error. -/
inductive PrepOp : Type → Type where
  | load : PrepOp (Except String (Option State))
  | save (state : State) : PrepOp (Option String)
  | context : PrepOp (Option String)
  | observe : PrepOp (Except String Observation)
  | arm (plan : Plan) : PrepOp (Option String)
  | verifyBoot (plan : Plan) (bootID : String) : PrepOp (Option String)
  | resume (plan : Plan) (bootID : String) : PrepOp (Option String)
  | verifyReady (plan : Plan) : PrepOp (Option String)

abbrev Prep := Program PrepOp

abbrev Answer := Decision × Option String

def errRecoveryRequired : String :=
  "native storage preparation requires operator recovery; automatic retry is blocked"

/-- A decision that neither waits nor is ready, with an error. -/
def refuse (state : Option State) (message : String) : Answer := (⟨state, false, false⟩, some message)

def recoverState (state : State) (code : String) (cause : Option String) : Prep Answer := do
  let state := { state with phase := .recoveryRequired, failureCode := code }
  let saveFailure ← perform (.save state)
  pure (⟨some state, false, false⟩, joinErrors [some errRecoveryRequired, cause, saveFailure])

/-- The phase `planned`. -/
def armStorage (plan : Plan) (state : State) : Prep Answer := do
  let state := { state with phase := .arming, armAttempts := 1 }
  match ← perform (.save state) with
  | some message => pure (refuse (some state) message)
  | none =>
    match ← perform .context with
    | some message => recoverState state "arm-failed" (some message)
    | none =>
      match ← perform (.arm plan) with
      | some message => recoverState state "arm-failed" (some message)
      | none =>
        let state := { state with phase := .awaitingReboot }
        match ← perform (.save state) with
        | some message => pure (refuse (some state) message)
        | none => pure (⟨some state, true, false⟩, none)

/-- The phase `awaiting-reboot`, on another boot. -/
def resumeStorage (plan : Plan) (state : State) (bootID : String) : Prep Answer := do
  match ← perform (.verifyBoot plan bootID) with
  | some message => recoverState state "boot-evidence-invalid" (some message)
  | none =>
    let state := { state with phase := .verifying, resumeBootID := bootID }
    match ← perform (.save state) with
    | some message => pure (refuse (some state) message)
    | none =>
      match ← perform .context with
      | some message => recoverState state "resume-failed" (some message)
      | none =>
        match ← perform (.resume plan bootID) with
        | some message => recoverState state "resume-failed" (some message)
        | none =>
          match ← perform (.verifyReady plan) with
          | some message => recoverState state "readiness-lost" (some message)
          | none =>
            let state := { state with phase := .ready }
            match ← perform (.save state) with
            | some message => pure (refuse (some state) message)
            | none => pure (⟨some state, false, true⟩, none)

/-- The switch over the phases. -/
def continueStorage (plan : Plan) (state : State) (bootID : String) : Prep Answer :=
  match state.phase with
  | .planned =>
    if bootID ≠ plan.previousBootID then recoverState state "unexpected-boot" none else armStorage plan state
  | .arming => recoverState state "interrupted-arm" none
  | .awaitingReboot =>
    if bootID = plan.previousBootID then pure (⟨some state, true, false⟩, none) else resumeStorage plan state bootID
  | .verifying => recoverState state "interrupted-resume" none
  | .ready => do
      match ← perform (.verifyReady plan) with
      | some message => recoverState state "readiness-lost" (some message)
      | none => pure (⟨some state, false, true⟩, none)
  | .recoveryRequired => pure (refuse none "unsupported storage preparation phase")

def identityMatches (plan : Plan) (phase : Phase) (observation : Observation) : Bool :=
  decide (observation.machineID = plan.machineID ∧ observation.rootUUID = plan.rootUUID ∧
    observation.partitionUUID = plan.partitionUUID) && isKernel observation.kernel &&
    decide (phase = .ready ∨ observation.kernel = plan.kernel) && canonicalUUID observation.bootID

/-- The host is observed afresh, and a journal that does not exist yet is written. -/
def observeStorage (plan : Plan) (existed : Bool) (state : State) : Prep Answer := do
  match ← perform .context with
  | some message => pure (refuse (some state) message)
  | none =>
    match ← perform .observe with
    | .error message => pure (refuse (some state) ("inspect storage preparation host: " ++ message))
    | .ok observation =>
      if identityMatches plan state.phase observation then
        if existed then continueStorage plan state observation.bootID
        else if observation.bootID ≠ plan.previousBootID then
          pure (refuse none "new storage preparation requires its original boot")
        else
          match ← perform (.save state) with
          | some message => pure (refuse (some state) message)
          | none => continueStorage plan state observation.bootID
      else if existed then recoverState state "identity-drift" none
      else pure (refuse none "native storage plan does not match the current host")

def plannedState (plan : Plan) : State := ⟨currentSchemaVersion, plan, .planned, 0, "", ""⟩

def advance (plan : Plan) : Prep Answer :=
  match plan.validate with
  | .error message => pure (refuse none message)
  | .ok () => do
      match ← perform .load with
      | .error message => pure (refuse none message)
      | .ok none => observeStorage plan false (plannedState plan)
      | .ok (some state) =>
        match state.validate with
        | .error message => pure (refuse none message)
        | .ok () =>
          if state.plan ≠ plan then
            pure (refuse none "storage journal cannot be rebound to another operation, host, source or manifest")
          else if state.phase = .recoveryRequired then pure (refuse (some state) errRecoveryRequired)
          else observeStorage plan true state

/-! ### The host -/

inductive Act where
  | save (state : State)
  | arm (plan : Plan)
  | verifyBoot (plan : Plan) (bootID : String)
  | resume (plan : Plan) (bootID : String)
  | verifyReady (plan : Plan)
  deriving DecidableEq

/-- A line of the log: an act and its error, the journal before and after it, the boot that this call of
`Advance` observed and the acts it made before. -/
structure Entry where
  act : Act
  failure : Option String
  (saved after : Option State)
  boot : Option String
  calls : List (Act × Option String)
  deriving DecidableEq

/-- The journal is on disk; the boot and the acts are those of the current call. -/
structure Host where
  journal : Option State
  boot : Option String
  calls : List (Act × Option String)
  log : List Entry
  deriving DecidableEq

/-- What is left open about a call: its error, whether a failing save has replaced the journal, and what is
observed. -/
structure Choice where
  failure : Option String
  effect : Bool
  observation : Observation
  deriving DecidableEq

namespace Host

def noted (host : Host) (act : Act) (failure : Option String) (journal : Option State) : Host :=
  { host with
    journal := journal, calls := host.calls ++ [(act, failure)]
    log := host.log ++ [⟨act, failure, host.journal, journal, host.boot, host.calls⟩] }

/-- `FileStore.Save`: the transition from the journal on disk is checked before it is replaced. -/
def save (host : Host) (state : State) (choice : Choice) : Option String × Host :=
  match validateTransition host.journal state with
  | .error message => (some message, host.noted (.save state) (some message) host.journal)
  | .ok () => (choice.failure, host.noted (.save state) choice.failure
      (if choice.failure.isNone || choice.effect then some state else host.journal))

/-- A new call of `Advance` reads the journal. -/
def load (host : Host) (choice : Choice) : Except String (Option State) × Host :=
  match choice.failure with
  | some message => (.error message, { host with boot := none, calls := [] })
  | none => (.ok host.journal, { host with boot := none, calls := [] })

def observe (host : Host) (choice : Choice) : Except String Observation × Host :=
  match choice.failure with
  | some message => (.error message, host)
  | none => (.ok choice.observation, { host with boot := some choice.observation.bootID })

def react : {β : Type} → Host → PrepOp β → Choice → β × Host
  | _, host, .load, choice => host.load choice
  | _, host, .save state, choice => host.save state choice
  | _, host, .context, choice => (choice.failure, host)
  | _, host, .observe, choice => host.observe choice
  | _, host, .arm plan, choice => (choice.failure, host.noted (.arm plan) choice.failure host.journal)
  | _, host, .verifyBoot plan bootID, choice =>
    (choice.failure, host.noted (.verifyBoot plan bootID) choice.failure host.journal)
  | _, host, .resume plan bootID, choice =>
    (choice.failure, host.noted (.resume plan bootID) choice.failure host.journal)
  | _, host, .verifyReady plan, choice =>
    (choice.failure, host.noted (.verifyReady plan) choice.failure host.journal)

end Host

def storage : Environment PrepOp Host Choice := ⟨Host.react⟩

end Stackfort.StoragePrep
