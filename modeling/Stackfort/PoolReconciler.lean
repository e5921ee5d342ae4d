import Stackfort.FileChanges

/-! The reconciliation of the PHP pool of an account, up to the retirement of other versions. A call is for the version
of the distribution or refused, so it changes one pool: its configuration, its unit, and the service. -/

namespace Stackfort.HostPHP

open FileChanges

inductive PoolFile where
  | configuration | unit
  deriving DecidableEq

/-- The unit that systemd has read, and the configuration that the pool was started with if it runs. -/
structure Service where
  unit : Option File
  enabled : Bool
  running : Option (Option File)

abbrev PoolHost := Host PoolFile Service

inductive Command where
  | reload | enable | restart | disable
  deriving DecidableEq

def act : Command → PoolHost → Service
  | .reload, host => { host.service with unit := host.files .unit }
  | .enable, host => { host.service with enabled := true }
  | .restart, host => { host.service with running := some (host.files .configuration) }
  | .disable, host => { host.service with enabled := false, running := none }

inductive PoolError where
  | conflict | validation | activation | mutationFailed

/-- How the steps of a call go, as for the jobs of a host. A write ends with its rename. -/
structure Course where
  roots : Option PoolError := none
  snapshot : PoolFile → Option PoolError := fun _ => none
  written : PoolFile → Bool := fun _ => true
  (tested shown shownAgain verified : Bool := true)
  command : Command → Option Service := fun _ => none

structure ServiceState where
  (active enabled : Bool := false)

/-- The unit is there when its state is asked for. An inactive one prints no control group, which is an error. -/
def poolState (shown : Bool) (host : PoolHost) : Option ServiceState :=
  if shown && host.service.running.isSome then some ⟨true, host.service.enabled⟩ else none

/-- The state was recorded if the activation had begun. -/
def rollback (snapshots : Snapshots PoolFile) (recorded : Option ServiceState) (host : PoolHost) : PoolHost :=
  let host := if recorded.isSome then host.perform act .disable else host
  let host := Host.perform act .reload { host with files := restore snapshots host.files }
  let state := recorded.getD {}
  let host := if state.enabled then host.perform act .enable else host
  if state.active then host.perform act .restart else host

section Course

variable (course : Course) (wanted : PoolFile → String)

def prepareFiles (files : Files PoolFile) : Files PoolFile × Except PoolError (Snapshots PoolFile × Bool) :=
  match course.roots with
  | some error => (files, .error error)
  | none => prepare course.snapshot (fun path => if course.written path then .written else .refused) .mutationFailed
      (fun path => ⟨wanted path, if path = .unit then 0o644 else 0o640⟩) [.configuration, .unit] [] false files

def activate (snapshots : Snapshots PoolFile) (changed : Bool) (host : PoolHost) : PoolHost × Except PoolError Bool :=
  let state := (poolState course.shown host).getD {}
  let (host, ok) := runOK act course.command ((if state.enabled then [] else [.enable]) ++
    if changed || !state.enabled || !state.active then [.restart] else []) host
  conclude (rollback snapshots (some state)) .activation
    (ok && (poolState course.shownAgain host).any (fun final => final.active && final.enabled) && course.verified)
    (changed || !state.enabled || !state.active) host

def reconcile (host : PoolHost) : PoolHost × Except PoolError Bool :=
  match prepareFiles course wanted host.files with
  | (files, .error error) => (rollback [] none { host with files := files }, .error error)
  | (files, .ok (snapshots, changed)) =>
    let host := { host with files := files }
    if course.tested then
      match runOK act course.command (if changed then [.reload] else []) host with
      | (host, true) => activate course snapshots changed host
      | (host, false) => (rollback snapshots none host, .error .activation)
    else (rollback snapshots none host, .error .validation)

end Course

variable {snapshots : Snapshots PoolFile} {host before : PoolHost}

section Restored

variable (hread : before.service.unit = before.files .unit) (hfiles : restore snapshots host.files = before.files)

include hread hfiles

theorem rollback_none (henabled : host.service.enabled = before.service.enabled)
    (hrunning : host.service.running = before.service.running) : rollback snapshots none host = before := by
  obtain ⟨files, unit, enabled, running⟩ := before
  cases hread
  cases hfiles
  cases henabled
  cases hrunning
  rfl

theorem rollback_some (hstarted : ∀ started ∈ before.service.running, started = before.files .configuration) :
    rollback snapshots (some ⟨before.service.running.isSome, before.service.enabled⟩) host = before := by
  obtain ⟨files, unit, enabled, running⟩ := before
  cases hread
  cases hfiles
  cases running with
  | none => cases enabled <;> rfl
  | some started =>
    rw [show started = _ from hstarted started rfl]
    cases enabled <;> rfl

end Restored

/-- A pool that runs if it is enabled is recorded as it is, if it is seen or does not run. -/
theorem poolState_eq {shown : Bool} (hruns : host.service.enabled = true → host.service.running.isSome = true)
    (hshown : shown = true ∨ host.service.running = none) :
    (poolState shown host).getD {} = ⟨host.service.running.isSome, host.service.enabled⟩ := by
  unfold poolState
  cases hrunning : host.service.running with
  | none =>
    have hdisabled : host.service.enabled = false :=
      Bool.eq_false_iff.mpr fun henabled => by simpa [hrunning] using hruns henabled
    simp [hdisabled]
  | some started => simp [hshown.resolve_right (by simp [hrunning])]

namespace PoolSample

def files : Files PoolFile := fun path => some ⟨"old", if path = .unit then 0o644 else 0o640⟩

def pool (active : Bool) : PoolHost := ⟨files, files .unit, true, if active then some (files .configuration) else none⟩

/-- The restart fails. -/
def failing : Course :=
  { command := fun command => if command = .restart then some ⟨some ⟨"new", 0o644⟩, true, none⟩ else none }

end PoolSample

end Stackfort.HostPHP
