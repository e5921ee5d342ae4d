import Mathlib.Data.List.Perm.Subperm
import Stackfort.OperationRows

/-! Loopback ports of OCI deployments. The ports of a fixed range are tried in turn, beginning with one that the
identifier of the application is hashed to, by inserts that the keys of the table drop. -/

namespace Stackfort.OCIDeployment

open List Rows

def minimumLoopbackPort : Nat := 20000

def maximumLoopbackPort : Nat := 29999

def span : Nat := maximumLoopbackPort - minimumLoopbackPort + 1

/-- A row of `oci_deployment_allocations`, whose port the table checks. -/
structure Allocation where
  (applicationID accountID : ID)
  loopbackPort : Nat
  allocatedAt : Time
  ranged : minimumLoopbackPort ≤ loopbackPort ∧ loopbackPort ≤ maximumLoopbackPort

/-- The accounts and identifiers of `oci_applications` and the allocations, with the keys of both tables. -/
structure PortStore where
  applications : List (ID × ID)
  allocations : List Allocation
  applicationIDs : (applications.map Prod.snd).Nodup
  keys : (allocations.map Allocation.applicationID).Nodup
  ports : (allocations.map Allocation.loopbackPort).Nodup
  stored : ∀ row ∈ allocations, (row.accountID, row.applicationID) ∈ applications

namespace PortStore

def portOf (db : PortStore) (accountID applicationID : ID) : Option Nat :=
  (db.allocations.find? fun row => decide (row.accountID = accountID ∧ row.applicationID = applicationID)).map
    Allocation.loopbackPort

/-- `INSERT OR IGNORE`. The foreign key is not among the constraints that are ignored. -/
def insertOrIgnore (db : PortStore) (row : Allocation) : Except TxError PortStore :=
  if hfree : ∀ other ∈ db.allocations,
      other.applicationID ≠ row.applicationID ∧ other.loopbackPort ≠ row.loopbackPort then
    if hstored : (row.accountID, row.applicationID) ∈ db.applications then
      .ok
        { db with
          allocations := db.allocations ++ [row]
          keys := nodup_keys_append db.keys fun other hother => (hfree other hother).1
          ports := nodup_keys_append db.ports fun other hother => (hfree other hother).2
          stored := forall_mem_append.mpr ⟨db.stored, forall_mem_singleton.mpr hstored⟩ }
    else .error (.constraint "FOREIGN KEY constraint failed")
  else .ok db

end PortStore

theorem probe_ranged (n : Nat) :
    minimumLoopbackPort ≤ minimumLoopbackPort + n % span ∧ minimumLoopbackPort + n % span ≤ maximumLoopbackPort := by
  unfold span maximumLoopbackPort minimumLoopbackPort
  omega

section Allocate

variable (accountID applicationID : ID) (now : Time)

/-- The loop, over the sums of `start` and the offsets. -/
def tryPorts (db : PortStore) : List Nat → Except TxError (PortStore × Nat)
  | [] => .error (.core (.conflict "OCI loopback port range exhausted"))
  | n :: rest => do
    let db ← db.insertOrIgnore ⟨applicationID, accountID, minimumLoopbackPort + n % span, now, probe_ranged n⟩
    match db.portOf accountID applicationID with
    | some existing => .ok (db, existing)
    | none => tryPorts db rest

/-- The hash of an identifier is read from the first four bytes of its SHA-256. -/
def allocateOCILoopbackPortTx (hash : ID → Nat) (db : PortStore) : Except TxError (PortStore × Nat) :=
  match db.portOf accountID applicationID with
  | some existing => .ok (db, existing)
  | none => tryPorts accountID applicationID now db (range' (hash applicationID % span) span)

end Allocate

structure AllocateCall where
  (accountID applicationID : ID)
  now : Time
  /-- What `ociDeploymentSpecTx` says about the rest of the deployment. -/
  spec : Except TxError Unit

/-- The store after the call, and the port of the deployment. -/
def allocateOCIDeploymentSpec (hash : ID → Nat) (db : PortStore) (call : AllocateCall) :
    PortStore × Except CoreError Nat :=
  if isCanonicalUUIDv7 call.accountID = false ∨ isCanonicalUUIDv7 call.applicationID = false then
    (db, .error (.invalidInput ""))
  else
    match (do
      let allocated ← allocateOCILoopbackPortTx call.accountID call.applicationID call.now hash db
      call.spec
      pure allocated) with
    | .error error => (db, .error (classifyDatabaseError error))
    | .ok (db', port) => (db', .ok port)

def after (hash : ID → Nat) (db : PortStore) (calls : List AllocateCall) : PortStore :=
  calls.foldl (fun db call => (allocateOCIDeploymentSpec hash db call).1) db

/-- Allocations are only added. -/
def PortStore.Grows (db db' : PortStore) : Prop :=
  db'.applications = db.applications ∧ db.allocations <+: db'.allocations

variable {db db' db'' : PortStore} {accountID applicationID : ID} {now : Time} {port : Nat} {sums : List Nat}
  {hash : ID → Nat}

theorem PortStore.Grows.refl (db : PortStore) : db.Grows db := ⟨rfl, prefix_rfl⟩

theorem PortStore.Grows.trans (h : db.Grows db') (h' : db'.Grows db'') : db.Grows db'' :=
  ⟨h'.1.trans h.1, h.2.trans h'.2⟩

theorem PortStore.Grows.portOf (h : db.Grows db') (hport : db.portOf accountID applicationID = some port) :
    db'.portOf accountID applicationID = some port := by
  obtain ⟨row, hrow, rfl⟩ := Option.map_eq_some_iff.mp hport
  obtain ⟨rest, hrest⟩ := h.2
  unfold PortStore.portOf
  rw [← hrest, find?_append_of_some hrow]
  rfl

theorem grows_insertOrIgnore {row : Allocation} (h : db.insertOrIgnore row = .ok db') : db.Grows db' := by
  unfold PortStore.insertOrIgnore at h
  split at h
  · split at h
    · cases h
      exact ⟨rfl, prefix_append _ _⟩
    · cases h
  · cases h
    exact .refl db

theorem grows_tryPorts (h : tryPorts accountID applicationID now db sums = .ok (db', port)) :
    db.Grows db' ∧ db'.portOf accountID applicationID = some port := by
  induction sums generalizing db with
  | nil => cases h
  | cons first rest ih =>
    obtain ⟨db₁, hinsert, h⟩ := Except.bind_eq_ok_iff.mp h
    have hgrows := grows_insertOrIgnore hinsert
    split at h
    · next existing hfound =>
      cases h
      exact ⟨hgrows, hfound⟩
    · exact ⟨hgrows.trans (ih h).1, (ih h).2⟩

/-- The store after a call holds the port that is answered. -/
theorem allocateOCIDeploymentSpec_grows (call : AllocateCall) :
    db.Grows (allocateOCIDeploymentSpec hash db call).1 ∧
      ∀ port, (allocateOCIDeploymentSpec hash db call).2 = .ok port →
        (allocateOCIDeploymentSpec hash db call).1.portOf call.accountID call.applicationID = some port := by
  fun_cases allocateOCIDeploymentSpec hash db call with
  | case3 _ db' port hok =>
    simp only [Except.bind_eq_ok_iff, Except.pure_eq_ok_iff, allocateOCILoopbackPortTx] at hok
    obtain ⟨_, hallocated, -, -, rfl⟩ := hok
    have hgrows : db.Grows db' ∧ db'.portOf call.accountID call.applicationID = some port := by
      split at hallocated
      · next hfound =>
        cases hallocated
        exact ⟨.refl db, hfound⟩
      · exact grows_tryPorts hallocated
    exact ⟨hgrows.1, fun _ h => Except.ok.inj h ▸ hgrows.2⟩
  | _ => exact ⟨.refl db, nofun⟩

theorem grows_after (calls : List AllocateCall) : db.Grows (after hash db calls) :=
  foldlRecOn (motive := db.Grows) calls _ (.refl db) fun _ h call _ => h.trans (allocateOCIDeploymentSpec_grows call).1

/-- An application without a port gets the first free one. -/
theorem taken_of_tryPorts (hstored : (accountID, applicationID) ∈ db.applications)
    (hnew : ∀ row ∈ db.allocations, row.applicationID ≠ applicationID) {error : TxError}
    (h : tryPorts accountID applicationID now db sums = .error error) :
    ∀ n ∈ sums, ∃ row ∈ db.allocations, row.loopbackPort = minimumLoopbackPort + n % span := by
  induction sums with
  | nil => nofun
  | cons first rest ih =>
    unfold tryPorts PortStore.insertOrIgnore at h
    split at h
    · rw [Except.ok_bind] at h
      dsimp only [PortStore.portOf] at h
      rw [find?_append_new (fun row hmem => by simp [hnew row hmem]) (by simp)] at h
      cases h
    · next htaken =>
      obtain ⟨row, hmem, hrow⟩ : ∃ row ∈ db.allocations, row.loopbackPort = minimumLoopbackPort + first % span := by
        by_contra hfree
        exact htaken fun row hmem => ⟨hnew row hmem, fun hport => hfree ⟨row, hmem, hport⟩⟩
      have hnone : db.portOf accountID applicationID = none :=
        Option.map_eq_none_iff.mpr (find?_eq_none.mpr fun row hmem => by simp [hnew row hmem])
      simp only [Except.ok_bind, hnone] at h
      exact forall_mem_cons.mpr ⟨⟨row, hmem, hrow⟩, ih h⟩

/-- The ports that are tried from a start are those of the range, each of them once. -/
theorem probes_perm (start : Nat) :
    (range' start span).map (fun n => minimumLoopbackPort + n % span) ~ range' minimumLoopbackPort span := by
  have hnodup : ((range' start span).map fun n => minimumLoopbackPort + n % span).Nodup := by
    refine Nodup.map_on (fun n hn m hm h => ?_) nodup_range'
    simp only [mem_range'_1, span, maximumLoopbackPort, minimumLoopbackPort] at hn hm h
    omega
  refine (hnodup.subperm (forall_mem_map.mpr fun n _ => ?_)).perm_of_length_le (by simp)
  simp only [mem_range'_1, span, maximumLoopbackPort, minimumLoopbackPort]
  omega

/-- What the allocations of a store are like that calls have brought forth from another one. -/
structure Allocated (hash : ID → Nat) (start db : PortStore) : Prop where
  ranged : ∀ row ∈ db.allocations, minimumLoopbackPort ≤ row.loopbackPort ∧ row.loopbackPort ≤ maximumLoopbackPort
  injective : ∀ row ∈ db.allocations, ∀ other ∈ db.allocations, row.loopbackPort = other.loopbackPort → row = other
  stable : ∀ accountID applicationID now port, start.portOf accountID applicationID = some port →
    allocateOCILoopbackPortTx accountID applicationID now hash db = .ok (db, port)
  answered : ∀ call port, (allocateOCIDeploymentSpec hash db call).2 = .ok port →
    (allocateOCIDeploymentSpec hash db call).1.portOf call.accountID call.applicationID = some port
  complete : ∀ application ∈ start.applications, ∀ now error,
    allocateOCILoopbackPortTx application.1 application.2 now hash db = .error error →
    ∀ port, minimumLoopbackPort ≤ port → port ≤ maximumLoopbackPort → ∃ row ∈ db.allocations, row.loopbackPort = port

/-- **Loopback ports.** From any allocations and by any calls: ports are distinct and within the range, a port that is
held is allocated again, and the allocation for an application fails only when all are taken. From every start each port
of the range is tried once. -/
theorem ports_allocated (hash : ID → Nat) (start : PortStore) (calls : List AllocateCall) :
    Allocated hash start (after hash start calls) ∧
      ∀ first, (range' first span).map (fun n => minimumLoopbackPort + n % span) ~ range' minimumLoopbackPort span := by
  have hgrows : start.Grows (after hash start calls) := grows_after calls
  generalize after hash start calls = db at hgrows
  refine ⟨⟨fun row _ => row.ranged, fun row hrow other hother => inj_on_of_nodup_map db.ports hrow hother, ?_,
    fun call => (allocateOCIDeploymentSpec_grows call).2, ?_⟩, probes_perm⟩
  · intro accountID applicationID now port hport
    rw [allocateOCILoopbackPortTx, hgrows.portOf hport]
  · rintro ⟨accountID, applicationID⟩ hstored now error herror port hmin hmax
    rw [← hgrows.1] at hstored
    unfold allocateOCILoopbackPortTx at herror
    split at herror
    · cases herror
    · next hnone =>
      have hnew : ∀ row ∈ db.allocations, row.applicationID ≠ applicationID := by
        intro row hmem happlication
        have haccount := inj_on_of_nodup_map db.applicationIDs (db.stored row hmem) hstored happlication
        have hnot := find?_eq_none.mp (Option.map_eq_none_iff.mp hnone) row hmem
        simp [happlication, (Prod.mk.inj haccount).1] at hnot
      have hprobed : port ∈ range' minimumLoopbackPort span := by
        rw [mem_range'_1]
        unfold span
        omega
      obtain ⟨n, hn, rfl⟩ := mem_map.mp ((probes_perm (hash applicationID % span)).mem_iff.mpr hprobed)
      exact taken_of_tryPorts hstored hnew herror n hn

end Stackfort.OCIDeployment
