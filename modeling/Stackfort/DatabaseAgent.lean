import Stackfort.CoreValues
import Stackfort.EventRuns
import Stackfort.Interruption

/-! The database agent. Every object it creates in MariaDB has a marker row with the account and the operation
it belongs to. Provisioning goes on only where a marker names its own operation. A rotation sets the password
and then has the marker name the rotation, so that an older provisioning is refused from then on. The calls
hold one lock and run one after the other; each may be stopped between two statements, which is also what a
statement that fails does to a call. -/

namespace Stackfort.HostDatabase

open Interruption Program

/-! ### Identities and requests -/

def localHost : String := "localhost"

/-- The pattern `^[a-z][a-z0-9_]{0,25}$`, within the budget of the escaped privilege pattern. -/
def validateAlias (name : String) : Bool :=
  match name.toList with
  | [] => false
  | first :: rest =>
    first.isLower && decide (rest.length ≤ 25) && (rest.all fun c => c.isLower || c.isDigit || c == '_') &&
      decide (38 + name.utf8ByteSize + name.toList.count '_' ≤ 64)

def derive (accountID name : String) : Option String :=
  let physical := "sf_" ++ String.ofList (accountID.toList.filter (· != '-')) ++ "_" ++ name
  if isCanonicalUUIDv7 accountID && validateAlias name && decide (physical.utf8ByteSize ≤ 64) then some physical else none

def validateDerived (accountID name physical : String) : Bool := derive accountID name == some physical

inductive GrantPreset where
  | readOnly
  | readWrite
  deriving DecidableEq

structure ProvisionRequest where
  (databaseAlias databaseName userAlias username host : String)
  password : List UInt8
  createUser : Bool
  preset : GrantPreset

structure PasswordRotateRequest where
  (userAlias username host : String)
  password : List UInt8

def validPassword (password : List UInt8) : Bool := decide (20 ≤ password.length ∧ password.length ≤ 256)

def ProvisionRequest.valid (operationID accountID : String) (request : ProvisionRequest) : Bool :=
  isCanonicalUUIDv7 operationID && validateDerived accountID request.databaseAlias request.databaseName &&
    validateDerived accountID request.userAlias request.username && request.host == localHost &&
    if request.createUser then validPassword request.password else request.password.isEmpty

def PasswordRotateRequest.valid (operationID accountID : String) (request : PasswordRotateRequest) : Bool :=
  isCanonicalUUIDv7 operationID && validateDerived accountID request.userAlias request.username &&
    request.host == localHost && validPassword request.password

/-! ### The server -/

inductive ObjectKind where
  | database
  | user
  deriving DecidableEq

inductive MarkerState where
  | creating
  | active
  deriving DecidableEq

structure Marker where
  (accountID operationID : String)
  state : MarkerState
  deriving DecidableEq

/-- The password of a user, with the operation that set it. The server does not store the operation, and no
statement reads it. -/
structure Credential where
  password : List UInt8
  setBy : String
  deriving DecidableEq

/-- The users are those of the local host. -/
structure MariaDB where
  databases : String → Bool
  users : String → Option Credential
  markers : ObjectKind → String → Option Marker
  grants : String → String → Option GrantPreset

namespace MariaDB

variable (db : MariaDB)

def objectExists : ObjectKind → String → Bool
  | .database, name => db.databases name
  | .user, name => (db.users name).isSome

def setMarker (kind : ObjectKind) (name : String) (entry : Marker) : MariaDB :=
  { db with markers := fun k n => if k = kind ∧ n = name then some entry else db.markers k n }

def setPassword (username : String) (password : List UInt8) (operationID : String) : MariaDB :=
  { db with users := fun name => if name = username then some ⟨password, operationID⟩ else db.users name }

/-- An `UPDATE` of one row, with the number of rows it changed: a row that already holds the new values is
not counted. -/
def updateMarker (kind : ObjectKind) (name : String) (selected : Marker → Bool) (set : Marker → Marker) :
    Nat × MariaDB :=
  match db.markers kind name with
  | none => (0, db)
  | some entry => if selected entry ∧ set entry ≠ entry then (1, db.setMarker kind name (set entry)) else (0, db)

def activateMarker (kind : ObjectKind) (name accountID operationID : String) : Nat × MariaDB :=
  db.updateMarker kind name (fun entry => entry.accountID == accountID && entry.operationID == operationID)
    fun entry => { entry with state := .active }

def advanceUserMarker (name accountID operationID : String) : Nat × MariaDB :=
  db.updateMarker .user name (fun entry => entry.accountID == accountID && entry.state == .active)
    fun entry => { entry with operationID := operationID }

end MariaDB

/-- The statements of the backend, with the type of their answers. -/
inductive Statement : Type → Type where
  | marker (kind : ObjectKind) (name : String) : Statement (Option Marker)
  | objectExists (kind : ObjectKind) (name : String) : Statement Bool
  | insertMarker (kind : ObjectKind) (name accountID operationID : String) : Statement Bool
  | activateMarker (kind : ObjectKind) (name accountID operationID : String) : Statement Nat
  | advanceUserMarker (name accountID operationID : String) : Statement Nat
  | createDatabase (name : String) : Statement Bool
  | createUser (username : String) (password : List UInt8) (operationID : String) : Statement Bool
  | alterUserPassword (username : String) (password : List UInt8) (operationID : String) : Statement Bool
  | grant (databaseName username : String) (preset : GrantPreset) : Statement Bool

def Statement.execute (db : MariaDB) : {β : Type} → Statement β → β × MariaDB
  | _, .marker kind name => (db.markers kind name, db)
  | _, .objectExists kind name => (db.objectExists kind name, db)
  | _, .insertMarker kind name accountID operationID =>
    match db.markers kind name with
    | some _ => (false, db)
    | none => (true, db.setMarker kind name ⟨accountID, operationID, .creating⟩)
  | _, .activateMarker kind name accountID operationID => db.activateMarker kind name accountID operationID
  | _, .advanceUserMarker name accountID operationID => db.advanceUserMarker name accountID operationID
  | _, .createDatabase name =>
    if db.databases name then (false, db)
    else (true, { db with databases := fun other => other = name || db.databases other })
  | _, .createUser username password operationID =>
    match db.users username with
    | some _ => (false, db)
    | none => (true, db.setPassword username password operationID)
  | _, .alterUserPassword username password operationID =>
    match db.users username with
    | some _ => (true, db.setPassword username password operationID)
    | none => (false, db)
  | _, .grant databaseName username preset =>
    match db.users username with
    | some _ => (true, { db with grants := fun d u => if d = databaseName ∧ u = username then some preset else db.grants d u })
    | none => (false, db)

def server : Environment Statement MariaDB Unit := ⟨fun db statement _ => statement.execute db⟩

@[simp] theorem server_react {β : Type} (db : MariaDB) (statement : Statement β) (choice : Unit) :
    server.react db statement choice = statement.execute db := rfl

/-! ### The reconciler -/

inductive ErrorKind where
  | conflict
  | validation
  | mutation
  deriving DecidableEq

structure Result where
  (changed active : Bool)
  deriving DecidableEq

section

variable (kind : ObjectKind) (name accountID operationID : String) (create : Statement Bool)

/-- The end of `reconcileObject`: the marker becomes active. -/
def activateObject : Program Statement (Except ErrorKind Bool) := do
  let affected ← perform (.activateMarker kind name accountID operationID)
  return if affected = 1 then .ok true else .error .mutation

def createObject : Program Statement (Except ErrorKind Bool) := do
  if ← perform create then activateObject kind name accountID operationID else return .error .mutation

def reconcileObject : Program Statement (Except ErrorKind Bool) := do
  match ← perform (.marker kind name) with
  | some entry =>
    if entry.accountID ≠ accountID ∨ entry.operationID ≠ operationID then return .error .conflict
    else
      let objectExists ← perform (.objectExists kind name)
      match entry.state with
      | .active => return if objectExists then .ok false else .error .conflict
      | .creating =>
        if objectExists then activateObject kind name accountID operationID
        else createObject kind name accountID operationID create
  | none =>
    if ← perform (.objectExists kind name) then return .error .conflict
    else if ← perform (.insertMarker kind name accountID operationID) then
      createObject kind name accountID operationID create
    else return .error .mutation

end

def reconcileUser (operationID accountID : String) (request : ProvisionRequest) :
    Program Statement (Except ErrorKind Bool) := do
  match request.createUser, ← perform (.marker .user request.username) with
  | false, none => return .error .conflict
  | false, some entry =>
    if entry.accountID ≠ accountID ∨ entry.state ≠ .active then return .error .conflict
    else return if ← perform (.objectExists .user request.username) then .ok false else .error .conflict
  | true, _ =>
    match ← reconcileObject .user request.username accountID operationID
      (.createUser request.username request.password operationID) with
    | .error kind => return .error kind
    | .ok true => return .ok true
    | .ok false =>
      -- a replay resets the password of its own user
      return if ← perform (.alterUserPassword request.username request.password operationID) then .ok false
        else .error .mutation

def reconcile (operationID accountID : String) (request : ProvisionRequest) :
    Program Statement (Except ErrorKind Result) := do
  if ¬request.valid operationID accountID then return .error .validation
  else
    match ← reconcileObject .database request.databaseName accountID operationID
      (.createDatabase request.databaseName) with
    | .error kind => return .error kind
    | .ok changed =>
      match ← reconcileUser operationID accountID request with
      | .error kind => return .error kind
      | .ok userChanged =>
        return if ← perform (.grant request.databaseName request.username request.preset) then
          .ok ⟨changed || userChanged, true⟩ else .error .mutation

/-- A user that the account owns, is active and exists. -/
def rotatable (accountID : String) (marker : Option Marker) (present : Bool) : Bool :=
  present && marker.any fun entry => entry.accountID == accountID && entry.state == .active

def rotatePassword (operationID accountID : String) (request : PasswordRotateRequest) :
    Program Statement (Except ErrorKind Result) := do
  if ¬request.valid operationID accountID then return .error .validation
  else
    let marker ← perform (.marker .user request.username)
    let present ← perform (.objectExists .user request.username)
    if ¬rotatable accountID marker present then return .error .conflict
    else if ← perform (.alterUserPassword request.username request.password operationID) then
      let affected ← perform (.advanceUserMarker request.username accountID operationID)
      return if affected = 1 then .ok ⟨true, true⟩ else .error .mutation
    else return .error .mutation

inductive Action where
  | provision (request : ProvisionRequest)
  | rotate (request : PasswordRotateRequest)

structure Call where
  (operationID accountID : String)
  action : Action

def Call.program (call : Call) : Program Statement (Except ErrorKind Result) :=
  match call.action with
  | .provision request => reconcile call.operationID call.accountID request
  | .rotate request => rotatePassword call.operationID call.accountID request

/-- A call that is stopped after a number of statements, or returns before. -/
def stopped (program : Program Statement (Except ErrorKind Result)) (db : MariaDB) (statements : Nat) :
    MariaDB × Option (Except ErrorKind Result) :=
  program.run server db (List.replicate statements ())

/-- One call after the other. -/
def step (db : MariaDB) (event : Call × Nat) : Option MariaDB := some (stopped event.1.program db event.2).1

/-! ### Replays of a rotation -/

section

variable {db : MariaDB} {operationID accountID : String} {request : PasswordRotateRequest}

/-- The rotation is accepted. -/
def Accepts (db : MariaDB) (operationID accountID : String) (request : PasswordRotateRequest) : Prop :=
  request.valid operationID accountID = true ∧
    rotatable accountID (db.markers .user request.username) (db.users request.username).isSome = true

/-- The marker of the user names the operation. -/
def Names (db : MariaDB) (username operationID : String) : Prop :=
  ∃ entry, db.markers .user username = some entry ∧ entry.operationID = operationID

theorem Accepts.entry (h : Accepts db operationID accountID request) :
    ∃ entry, db.markers .user request.username = some entry ∧ entry.accountID = accountID ∧ entry.state = .active := by
  have hmarker := h.2
  rw [rotatable, and_eq_true, Option.any_eq_true] at hmarker
  simpa using hmarker.2

theorem stopped_refused (h : ¬Accepts db operationID accountID request) (statements : Nat) :
    (stopped (rotatePassword operationID accountID request) db statements).1 = db ∧
      ∀ result, (stopped (rotatePassword operationID accountID request) db statements).2 ≠ some (.ok result) := by
  rw [Accepts, not_and, Bool.not_eq_true] at h
  rw [stopped, rotatePassword]
  by_cases hvalid : request.valid operationID accountID = true
  · match statements with
    | 0 | 1 | n + 2 => simp [Statement.execute, MariaDB.objectExists, hvalid, h hvalid, List.replicate_succ]
  · simp [hvalid]

/-- An accepted one sets the password with its third statement and advances the marker with its fourth. -/
theorem stopped_accepted (h : Accepts db operationID accountID request) (statements : Nat) :
    stopped (rotatePassword operationID accountID request) db statements =
      match statements with
      | 0 | 1 | 2 => (db, none)
      | 3 => (db.setPassword request.username request.password operationID, none)
      | _ + 4 =>
        let advanced := (db.setPassword request.username request.password operationID).advanceUserMarker
          request.username accountID operationID
        (advanced.2, some (if advanced.1 = 1 then .ok ⟨true, true⟩ else .error .mutation)) := by
  obtain ⟨hvalid, hrotatable⟩ := h
  have hpresent : (db.users request.username).isSome = true := by
    rw [rotatable, and_eq_true] at hrotatable
    exact hrotatable.1
  obtain ⟨credential, hcredential⟩ := Option.isSome_iff_exists.mp hpresent
  rw [hpresent] at hrotatable
  rw [stopped, rotatePassword]
  match statements with
  | 0 | 1 | 2 | 3 => simp [Statement.execute, MariaDB.objectExists, hvalid, hrotatable, hcredential, List.replicate_succ]
  | n + 4 =>
    simp [Statement.execute, MariaDB.objectExists, hvalid, hrotatable, hcredential, List.replicate_succ]
    rfl

theorem advanceUserMarker_eq {entry : Marker} {username : String} (hentry : db.markers .user username = some entry)
    (hactive : entry.state = .active) {password : List UInt8} :
    (db.setPassword username password operationID).advanceUserMarker username entry.accountID operationID =
      let set := db.setPassword username password operationID
      if entry.operationID = operationID then (0, set)
      else (1, set.setMarker .user username { entry with operationID := operationID }) := by
  rw [MariaDB.advanceUserMarker, MariaDB.updateMarker,
    show (db.setPassword username password operationID).markers .user username = some entry from hentry]
  obtain ⟨account, operation, state⟩ := entry
  simp only [beq_self_eq_true, Bool.true_and] at hactive ⊢
  subst hactive
  by_cases hname : operation = operationID
  · simp [hname]
  · simp [hname, Ne.symm hname]

/-- The whole rotation succeeds and leaves its password. -/
def Rotates (db : MariaDB) (operationID accountID : String) (request : PasswordRotateRequest) : Prop :=
  (∃ result, (stopped (rotatePassword operationID accountID request) db 4).2 = some (.ok result)) ∧
    ((stopped (rotatePassword operationID accountID request) db 4).1.users request.username).map Credential.password =
      some request.password

theorem rotates_iff (h : Accepts db operationID accountID request) :
    Rotates db operationID accountID request ↔ ¬Names db request.username operationID := by
  obtain ⟨entry, hentry, rfl, hactive⟩ := h.entry
  rw [Rotates, stopped_accepted h]
  simp only [advanceUserMarker_eq hentry hactive]
  by_cases hname : entry.operationID = operationID
  · simp [Names, hentry, hname]
  · simp [Names, hentry, hname, MariaDB.setMarker, MariaDB.setPassword]

/-- A rotation that is stopped still finds an accepting state, and the marker names the operation only if
it did before or the fourth statement was made. -/
theorem accepts_stopped (h : Accepts db operationID accountID request) (statements : Nat) :
    Accepts (stopped (rotatePassword operationID accountID request) db statements).1 operationID accountID request ∧
      (Names (stopped (rotatePassword operationID accountID request) db statements).1 request.username operationID ↔
        Names db request.username operationID ∨ 4 ≤ statements) := by
  obtain ⟨entry, hentry, rfl, hactive⟩ := h.entry
  rw [stopped_accepted h]
  simp only [advanceUserMarker_eq hentry hactive]
  match statements with
  | 0 | 1 | 2 => simpa using h
  | 3 =>
    refine ⟨⟨h.1, ?_⟩, ?_⟩
    · simp [rotatable, MariaDB.setPassword, hentry, hactive]
    · simp [Names, MariaDB.setPassword]
  | n + 4 =>
    refine ⟨⟨h.1, ?_⟩, ?_⟩
    · by_cases hname : entry.operationID = operationID
      · simp [hname, rotatable, MariaDB.setPassword, hentry, hactive]
      · simp [hname, rotatable, MariaDB.setPassword, MariaDB.setMarker, hactive]
    · by_cases hname : entry.operationID = operationID
      · simp [hname, Names, MariaDB.setPassword, hentry]
      · simp [hname, Names, MariaDB.setPassword, MariaDB.setMarker]

theorem repeated_rotates_iff (statements : Nat) :
    Rotates (stopped (rotatePassword operationID accountID request) db statements).1 operationID accountID request ↔
      Accepts db operationID accountID request ∧ ¬Names db request.username operationID ∧ statements < 4 := by
  by_cases haccepts : Accepts db operationID accountID request
  · obtain ⟨hfirst, hnames⟩ := accepts_stopped haccepts statements
    rw [rotates_iff hfirst, hnames, not_or, not_le]
    simp only [haccepts, true_and]
  · simp only [Rotates, (stopped_refused haccepts statements).1, haccepts, false_and, iff_false, not_and]
    rintro ⟨result, hresult⟩
    exact absurd hresult ((stopped_refused haccepts 4).2 result)

end

/-! ### Superseded operations -/

section

variable {kind : ObjectKind} {create : Statement Bool} (issued : String → Nat)

/-- Of every user with a marker, the password was set by the operation the marker names. -/
def MariaDB.Attributed (db : MariaDB) : Prop :=
  ∀ username entry credential, db.markers .user username = some entry → db.users username = some credential →
    credential.setBy = entry.operationID

/-- The call does not change a password that a later operation has set. -/
def Fenced (db : MariaDB) (event : Call × Nat) : Prop :=
  ∀ username credential, db.users username = some credential →
    issued event.1.operationID < issued credential.setBy →
    (stopped event.1.program db event.2).1.users username = some credential

/-- A rotation comes no earlier than the operation the marker of its user names, and is not stopped between the
statement that sets the password and the one that advances the marker. -/
def InOrder (db : MariaDB) (event : Call × Nat) : Prop :=
  match event.1.action with
  | .provision _ => True
  | .rotate request => event.2 ≠ 3 ∧ ∀ entry, db.markers .user request.username = some entry →
      issued entry.operationID ≤ issued event.1.operationID

/-- What a call keeps, from the state it started in. -/
structure Keeps (before : MariaDB) (operationID : String) (db : MariaDB) : Prop where
  attributed : db.Attributed
  fenced : ∀ username credential, before.users username = some credential →
    issued operationID < issued credential.setBy → db.users username = some credential

variable {issued} {before db : MariaDB} {operationID accountID name : String} {request : ProvisionRequest}

section

variable (h : Keeps issued before operationID db)

include h

/-- A marker is written that names the operation of the password. -/
theorem Keeps.setMarker {entry : Marker}
    (hnames : kind = .user → ∀ credential, db.users name = some credential → credential.setBy = entry.operationID) :
    Keeps issued before operationID (db.setMarker kind name entry) := by
  refine ⟨fun username entry' credential hmarker huser => ?_, h.fenced⟩
  by_cases hsame : ObjectKind.user = kind ∧ username = name
  · obtain ⟨rfl, rfl⟩ := hsame
    simp only [MariaDB.setMarker, and_self, ↓reduceIte, some.injEq] at hmarker
    rw [← hmarker]
    exact hnames rfl credential huser
  · simp only [MariaDB.setMarker, hsame, ↓reduceIte] at hmarker
    exact h.attributed username entry' credential hmarker huser

/-- A password is set where the marker names the operation. -/
theorem Keeps.setPassword {username : String} {password : List UInt8} (hnames : Names db username operationID) :
    Keeps issued before operationID (db.setPassword username password operationID) := by
  obtain ⟨named, hnamed, hoperation⟩ := hnames
  refine ⟨fun name entry credential hmarker huser => ?_, fun name credential huser hearlier => ?_⟩
  · by_cases hname : name = username
    · subst hname
      simp only [MariaDB.setPassword, ↓reduceIte, some.injEq] at huser
      have hsame : named = entry := some.inj (hnamed.symm.trans hmarker)
      rw [← huser, ← hsame, hoperation]
    · simp only [MariaDB.setPassword, hname, ↓reduceIte] at huser
      exact h.attributed name entry credential hmarker huser
  · have hkept := h.fenced name credential huser hearlier
    have hother : name ≠ username := by
      rintro rfl
      have hsetter := h.attributed name named credential hnamed hkept
      rw [hsetter, hoperation] at hearlier
      exact lt_irrefl _ hearlier
    simpa only [MariaDB.setPassword, hother, ↓reduceIte] using hkept

theorem Keeps.updateMarker {selected : Marker → Bool} {set : Marker → Marker}
    (hset : ∀ entry, (set entry).operationID = entry.operationID) :
    Keeps issued before operationID (db.updateMarker kind name selected set).2 := by
  rw [MariaDB.updateMarker]
  split
  · exact h
  next entry hentry =>
  split
  · refine h.setMarker fun hkind credential huser => ?_
    subst hkind
    rw [hset, h.attributed name entry credential hentry huser]
  · exact h

theorem activateObject_keeps :
    (activateObject kind name accountID operationID).Ensures server .none (Keeps issued before operationID)
      (fun result db => Keeps issued before operationID db ∧ result ≠ .ok false) db := by
  refine Ensures.perform h fun _ _ => ⟨h.updateMarker fun _ => rfl, ?_⟩
  split <;> simp

/-- What creates an object keeps, where a marker of the operation is there and the object is not. -/
def Creates (issued : String → Nat) (before : MariaDB) (operationID : String) (kind : ObjectKind) (name : String)
    (create : Statement Bool) : Prop :=
  ∀ db, Keeps issued before operationID db → (kind = .user → Names db name operationID) →
    Keeps issued before operationID (create.execute db).2

theorem createObject_keeps (hcreates : Creates issued before operationID kind name create)
    (hnames : kind = .user → Names db name operationID) :
    (createObject kind name accountID operationID create).Ensures server .none (Keeps issued before operationID)
      (fun result db => Keeps issued before operationID db ∧ result ≠ .ok false) db := by
  refine Ensures.perform h fun _ _ => ?_
  split
  · exact activateObject_keeps (hcreates db h hnames)
  · exact ⟨hcreates db h hnames, by simp⟩

/-- An object is reconciled. Where nothing is changed, the marker names the operation. -/
theorem reconcileObject_keeps (hcreates : Creates issued before operationID kind name create) :
    (reconcileObject kind name accountID operationID create).Ensures server .none (Keeps issued before operationID)
      (fun result db => Keeps issued before operationID db ∧ (result = .ok false → kind = .user →
        Names db name operationID)) db := by
  have hweaken : ∀ (result : Except ErrorKind Bool) (db : MariaDB),
      Keeps issued before operationID db ∧ result ≠ .ok false →
      Keeps issued before operationID db ∧ (result = .ok false → kind = .user → Names db name operationID) :=
    fun result db hend => ⟨hend.1, fun hresult => absurd hresult hend.2⟩
  refine Ensures.perform h fun _ _ => ?_
  simp only [server_react, Statement.execute]
  split
  · next entry hentry =>
    split
    · exact ⟨h, by simp⟩
    next hmine =>
    rw [not_or, not_not, not_not] at hmine
    have hnames : kind = .user → Names db name operationID := by
      rintro rfl
      exact ⟨entry, hentry, hmine.2⟩
    refine Ensures.perform h fun _ _ => ?_
    simp only [server_react, Statement.execute]
    cases entry.state with
    | active => exact ⟨h, fun _ => hnames⟩
    | creating =>
      by_cases hexists : db.objectExists kind name = true
      · simp only [hexists, ↓reduceIte]
        exact (activateObject_keeps h).mono (fun _ => id) hweaken
      · simp only [hexists]
        exact (createObject_keeps h hcreates hnames).mono (fun _ => id) hweaken
  · next hnone =>
    refine Ensures.perform h fun _ _ => ?_
    simp only [server_react, Statement.execute]
    by_cases hexists : db.objectExists kind name = true
    · simp only [hexists, ↓reduceIte]
      exact ⟨h, by simp⟩
    · simp only [hexists]
      refine Ensures.perform h fun _ _ => ?_
      simp only [server_react, Statement.execute, hnone]
      have hmarked : Keeps issued before operationID (db.setMarker kind name ⟨accountID, operationID, .creating⟩) := by
        refine h.setMarker fun hkind credential huser => ?_
        subst hkind
        simp [MariaDB.objectExists, huser] at hexists
      refine (createObject_keeps hmarked hcreates fun hkind => ?_).mono (fun _ => id) hweaken
      exact ⟨⟨accountID, operationID, .creating⟩, by simp [MariaDB.setMarker, hkind], rfl⟩

end

theorem creates_database (name : String) : Creates issued before operationID .database name (.createDatabase name) := by
  intro db h _
  rw [Statement.execute]
  split
  · exact h
  · exact ⟨h.attributed, h.fenced⟩

theorem creates_user (username : String) (password : List UInt8) :
    Creates issued before operationID .user username (.createUser username password operationID) := by
  intro db h hnames
  rw [Statement.execute]
  split
  · exact h
  · exact h.setPassword (hnames rfl)

theorem reconcileUser_keeps (h : Keeps issued before operationID db) :
    (reconcileUser operationID accountID request).Ensures server .none (Keeps issued before operationID)
      (fun _ => Keeps issued before operationID) db := by
  refine Ensures.perform h fun _ _ => ?_
  simp only [server_react, Statement.execute]
  split
  · exact h
  · split
    · exact h
    · exact Ensures.perform h fun _ _ => h
  · rw [ensures_bind]
    refine (reconcileObject_keeps h (creates_user _ _)).mono (fun _ => id) fun result after hafter => ?_
    split
    · exact hafter.1
    · exact hafter.1
    · refine Ensures.perform hafter.1 fun _ _ => ?_
      show Keeps issued before operationID (Statement.execute after _).2
      rw [Statement.execute]
      split
      · exact hafter.1.setPassword (hafter.2 rfl rfl)
      · exact hafter.1

theorem reconcile_keeps (h : Keeps issued before operationID db) :
    (reconcile operationID accountID request).Ensures server .none (Keeps issued before operationID)
      (fun _ => Keeps issued before operationID) db := by
  rw [reconcile]
  split
  · exact h
  rw [ensures_bind]
  refine (reconcileObject_keeps h (creates_database _)).mono (fun _ => id) fun result after hafter => ?_
  split
  · exact hafter.1
  rw [ensures_bind]
  refine (reconcileUser_keeps hafter.1).mono (fun _ => id) fun result last hlast => ?_
  split
  · exact hlast
  refine Ensures.perform hlast fun _ _ => ?_
  show Keeps issued before operationID (Statement.execute last _).2
  rw [Statement.execute]
  split
  · exact ⟨hlast.attributed, hlast.fenced⟩
  · exact hlast

/-- A rotation in order, with both of its updates or none. -/
theorem rotatePassword_keeps {request : PasswordRotateRequest} (h : db.Attributed) {statements : Nat}
    (hstop : statements ≠ 3) (horder : ∀ entry, db.markers .user request.username = some entry →
      issued entry.operationID ≤ issued operationID) :
    Keeps issued db operationID (stopped (rotatePassword operationID accountID request) db statements).1 := by
  have hsame : Keeps issued db operationID db := ⟨h, fun _ _ huser _ => huser⟩
  by_cases haccepts : Accepts db operationID accountID request
  · obtain ⟨entry, hentry, rfl, hactive⟩ := haccepts.entry
    rw [stopped_accepted haccepts]
    simp only [advanceUserMarker_eq hentry hactive]
    match statements with
    | 0 | 1 | 2 => exact hsame
    | n + 4 =>
      by_cases hname : entry.operationID = operationID
      · simp only [hname, ↓reduceIte]
        exact hsame.setPassword ⟨entry, hentry, hname⟩
      · simp only [hname, ↓reduceIte]
        refine ⟨fun username marker credential hmarker huser => ?_, fun username credential huser hearlier => ?_⟩
        · by_cases huserName : username = request.username
          · simp only [MariaDB.setMarker, MariaDB.setPassword, huserName, true_and, ↓reduceIte,
              some.injEq] at hmarker huser
            rw [← hmarker, ← huser]
          · simp only [MariaDB.setMarker, MariaDB.setPassword, huserName, and_false, ↓reduceIte] at hmarker huser
            exact h username marker credential hmarker huser
        · have hother : username ≠ request.username := by
            rintro rfl
            rw [h _ entry credential hentry huser] at hearlier
            exact absurd hearlier (not_lt.mpr (horder entry hentry))
          simpa only [MariaDB.setMarker, MariaDB.setPassword, hother, ↓reduceIte] using huser
  · rw [(stopped_refused haccepts statements).1]
    exact hsame

theorem step_keeps (h : db.Attributed) {event : Call × Nat} (horder : InOrder issued db event) :
    Keeps issued db event.1.operationID (stopped event.1.program db event.2).1 := by
  obtain ⟨⟨operationID, accountID, action⟩, statements⟩ := event
  cases action with
  | provision request => exact (reconcile_keeps ⟨h, fun _ _ huser _ => huser⟩).run_keeps (within_none _ _ _)
  | rotate request => exact rotatePassword_keeps h horder.1 horder.2

theorem inOrder_fenced (h : db.Attributed) {events : List (Call × Nat)}
    (horder : Events.Along step (InOrder issued) db events) : Events.Along step (Fenced issued) db events := by
  induction events generalizing db with
  | nil => trivial
  | cons event rest ih =>
    have hkeeps := step_keeps h horder.1
    refine ⟨hkeeps.fenced, fun after hstep => ?_⟩
    have hrest := horder.2 after hstep
    cases hstep
    exact ih hkeeps.attributed hrest

end

/-- **Rotations.** A rotation that was stopped anywhere, or returned, and is repeated succeeds with its password
exactly if it is accepted, the marker did not name its operation before and the first call did not come to
its fourth statement. Of calls in order, none changes a password that a later operation has set. -/
theorem rotations_replay_and_fence (issued : String → Nat) (db : MariaDB) :
    (∀ (operationID accountID : String) (request : PasswordRotateRequest) (statements : Nat),
      Rotates (stopped (rotatePassword operationID accountID request) db statements).1 operationID accountID request ↔
        Accepts db operationID accountID request ∧ ¬Names db request.username operationID ∧ statements < 4) ∧
    ∀ events : List (Call × Nat), db.Attributed →
      Events.Along step (InOrder issued) db events → Events.Along step (Fenced issued) db events :=
  ⟨fun _ _ _ statements => repeated_rotates_iff statements, fun _ h horder => inOrder_fenced h horder⟩

/-! A user is provisioned, and its password rotated twice. -/

namespace AgentSample

def accountID : String := "00000000-0000-7000-8000-000000000001"

def operation : Nat → String
  | 0 => "00000000-0000-7000-8000-00000000000a"
  | 1 => "00000000-0000-7000-8000-00000000000b"
  | _ => "00000000-0000-7000-8000-00000000000c"

/-- The operations in the order of their numbers. -/
def issued (operationID : String) : Nat :=
  if operationID = operation 0 then 0 else if operationID = operation 1 then 1 else 2

def username : String := "sf_00000000000070008000000000000001_u"

def password (number : Nat) : List UInt8 := List.replicate 20 number.toUInt8

def provision : Call :=
  ⟨operation 0, accountID, .provision ⟨"d", "sf_00000000000070008000000000000001_d", "u", username, localHost,
    password 0, true, .readWrite⟩⟩

def request (number : Nat) : PasswordRotateRequest := ⟨"u", username, localHost, password number⟩

def rotate (number : Nat) : Call := ⟨operation number, accountID, .rotate (request number)⟩

def empty : MariaDB := ⟨fun _ => false, fun _ => none, fun _ _ => none, fun _ _ => none⟩

/-- After calls that all return. -/
def after (calls : List Call) : MariaDB := calls.foldl (fun db call => (stopped call.program db 11).1) empty

theorem after_run : ((after [provision]).markers .user username = some ⟨accountID, operation 0, .active⟩ ∧
      ((after [provision]).users username).isSome = true) ∧
    (after [provision, rotate 1, rotate 2]).users username = some ⟨password 2, operation 2⟩ ∧
    (after [provision, rotate 1, rotate 2, rotate 1]).users username = some ⟨password 1, operation 1⟩ ∧
    (request 1).valid (operation 1) accountID = true := by
  decide +kernel

end AgentSample

open AgentSample in
/-- A rotation that returned cannot be repeated, although the first call succeeded; and a delayed call of it
puts its password back after a later rotation. -/
theorem rotation_repeated_and_delayed :
    (Rotates (after [provision]) (operation 1) accountID (request 1) ∧
      ¬Rotates (stopped (rotatePassword (operation 1) accountID (request 1)) (after [provision]) 4).1 (operation 1)
        accountID (request 1)) ∧
    ¬Events.Along step (Fenced issued) empty [(provision, 11), (rotate 1, 11), (rotate 2, 11), (rotate 1, 11)] := by
  obtain ⟨⟨hmarker, huser⟩, hset, hreset, hvalid⟩ := after_run
  refine ⟨⟨(rotates_iff ⟨hvalid, ?_⟩).mpr ?_, fun hrepeated => ?_⟩, fun halong => ?_⟩
  · rw [show (request 1).username = username from rfl, hmarker, huser]
    decide
  · rintro ⟨entry, hentry, hname⟩
    rw [show (request 1).username = username from rfl, hmarker] at hentry
    cases hentry
    exact absurd hname (by decide)
  · exact absurd ((repeated_rotates_iff 4).mp hrepeated).2.2 (by decide)
  · have hfenced := (((halong.2 _ rfl).2 _ rfl).2 _ rfl).1 username _ hset (by decide)
    have hchanged := hfenced.symm.trans hreset
    exact absurd hchanged (by decide)

end Stackfort.HostDatabase
