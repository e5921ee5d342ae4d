import Stackfort.FileChanges

/-! The reconciliation of a scheduled job on its host. The service and the timer are two unit files that systemd reads
when it is told to; a change writes or removes them, runs commands on the timer, and on a failure writes the files
back and runs the commands that restore the flags the timer had. -/

namespace Stackfort.HostJobs

open FileChanges

inductive JobUnit where
  | service | timer
  deriving DecidableEq

abbrev Units := Files JobUnit

/-- The units that systemd has read, and the flags of the timer. -/
structure Systemd where
  units : Units
  (active enabled : Bool)

abbrev JobHost := Host JobUnit Systemd

structure TimerState where
  (loaded active enabled : Bool := false)

def timerState (host : JobHost) : TimerState :=
  ⟨(host.service.units .timer).isSome, host.service.active, host.service.enabled⟩

inductive Command where
  | reload | enable | restart | disable | clean
  deriving DecidableEq

/-- What a command does if it succeeds; the timer is enabled and disabled with `--now`. -/
def act : Command → JobHost → Systemd
  | .reload, host => { host.service with units := host.files }
  | .enable, host => { host.service with active := true, enabled := true }
  | .restart, host => { host.service with active := true }
  | .disable, host => { host.service with active := false, enabled := false }
  | .clean, host => host.service

inductive JobError where
  | conflict | unavailable | mutation

/-- How the steps of a call go: `none` is success. A failed command leaves systemd in the state given for it. The
commands and the files of a rollback succeed. -/
structure Course where
  (managed managedAgain : Option JobError := none)
  (shown shownAgain synced verified : Bool := true)
  snapshot : JobUnit → Option JobError := fun _ => none
  write : JobUnit → WriteFate := fun _ => .written
  remove : JobUnit → Bool := fun _ => true
  command : Command → Option Systemd := fun _ => none

section Course

variable (course : Course) (wanted : JobUnit → String)

def prepareUnits (files : Units) : Units × Except JobError (Snapshots JobUnit × Bool) :=
  prepare course.snapshot course.write .mutation (fun unit => ⟨wanted unit, 0o644⟩) [.service, .timer] [] false files

/-- The loop of `Remove`. -/
def removeUnits : List JobUnit → Snapshots JobUnit → Units → Units × Except JobError (Snapshots JobUnit)
  | [], snapshots, files =>
    if course.synced then (files, .ok snapshots) else (restore snapshots files, .error .mutation)
  | unit :: rest, snapshots, files =>
    match course.snapshot unit with
    | some error => (files, .error error)
    | none =>
      if files unit = none then removeUnits rest snapshots files else
        let snapshots := (unit, files unit) :: snapshots
        if course.remove unit then removeUnits rest snapshots (Function.update files unit none)
        else (restore snapshots files, .error .mutation)

def managed (files : Units) : Bool := (files .service).isSome || (files .timer).isSome

def remove (files : Units) : Units × Except JobError (Snapshots JobUnit) :=
  match course.managedAgain with
  | some error => (files, .error error)
  | none => if managed files then removeUnits course [.service, .timer] [] files else (files, .ok [])

def restoreState (previous : TimerState) (host : JobHost) : JobHost :=
  if previous.enabled then
    let host := host.perform act .enable
    if previous.active then host.perform act .restart else host
  else host.perform act .disable

def rollback (snapshots : Snapshots JobUnit) (previous : TimerState) (host : JobHost) : JobHost :=
  restoreState previous (Host.perform act .reload { host with files := restore snapshots host.files })

/-- The commands after the reload if the job is present. -/
def switches (enabled changed : Bool) (previous : TimerState) : List Command :=
  if enabled then
    (if previous.enabled then [] else [.enable]) ++ if changed || !previous.active then [.restart] else []
  else if previous.enabled || previous.active then [.disable] else []

def reconcilePresent (enabled : Bool) (previous : TimerState) (host : JobHost) : JobHost × Except JobError Bool :=
  match prepareUnits course wanted host.files with
  | (files, .error error) => ({ host with files := files }, .error error)
  | (files, .ok (snapshots, changed)) =>
    let commands := (if changed then [.reload] else []) ++ switches enabled changed previous
    let (host, ok) := runOK act course.command commands { host with files := files }
    let final := timerState host
    conclude (rollback snapshots previous) .mutation (ok && course.shownAgain && final.loaded && final.enabled == enabled &&
      final.active == enabled && course.verified) (!commands.isEmpty) host

/-- The rest of a call that removes the job, once the timer is stopped. -/
def withdraw (switched : Bool) (previous : TimerState) (host : JobHost) : JobHost × Except JobError Bool :=
  match runOK act course.command (if previous.loaded then [.clean] else []) host with
  | (host, false) => (restoreState previous host, .error .mutation)
  | (host, true) =>
    match remove course host.files with
    | (files, .error error) => (restoreState previous { host with files := files }, .error error)
    | (files, .ok snapshots) =>
      let (host, ok) := runOK act course.command (if snapshots.isEmpty then [] else [.reload]) { host with files := files }
      let final := timerState host
      conclude (rollback snapshots previous) .mutation (ok && !(course.shownAgain && (final.loaded || final.active || final.enabled)))
        (switched || !snapshots.isEmpty) host

def reconcileAbsent (previous : TimerState) (host : JobHost) : JobHost × Except JobError Bool :=
  if previous.enabled || previous.active then
    match runOK act course.command [.disable] host with
    | (host, false) => (host, .error .mutation)
    | (host, true) => withdraw course true previous host
  else withdraw course false previous host

/-- A call on a supported platform for a script that passed its check. -/
def reconcile (enabled present : Bool) (host : JobHost) : JobHost × Except JobError Bool :=
  match course.managed with
  | some error => (host, .error error)
  | none =>
    let state : TimerState := if course.shown then timerState host else {}
    if !course.shown && managed host.files then (host, .error .unavailable)
    else if !present && !managed host.files && !state.loaded then (host, .ok false)
    else if present then reconcilePresent course wanted enabled state host
    else reconcileAbsent course state host

end Course

/-! ### What a failed call leaves -/

variable {course : Course} {wanted : JobUnit → String} {files prior : Units} {snapshots : Snapshots JobUnit}
  {host before : JobHost} {previous : TimerState} {error : JobError}

theorem removeUnits_undone (hsnapshot : ∀ unit, course.snapshot unit = none) (units : List JobUnit)
    (h : restore snapshots files = prior) : Undone id prior (removeUnits course units snapshots files) := by
  induction units generalizing snapshots files with
  | nil =>
    unfold removeUnits
    split <;> exact h
  | cons unit rest ih =>
    unfold removeUnits
    rw [hsnapshot unit]
    dsimp only
    split
    · exact ih h
    · split
      · exact ih ((restore_update unit none).trans h)
      · exact (restore_self unit).trans h

section Restored

-- The flags that are restored are those of a timer that is enabled and runs, or of one that is neither.
variable (hflags : before.service.active = before.service.enabled) (henabled : previous.enabled = before.service.enabled)

include hflags henabled

theorem restoreState_eq (hfiles : host.files = before.files) (hunits : host.service.units = before.service.units) :
    restoreState previous host = before := by
  obtain ⟨files, units, active, enabled⟩ := before
  cases hflags
  cases hfiles
  cases hunits
  unfold restoreState
  rw [henabled]
  cases active <;> cases previous.active <;> rfl

variable (hread : before.service.units = before.files)

include hread

theorem rollback_eq (hfiles : restore snapshots host.files = before.files) :
    rollback snapshots previous host = before :=
  restoreState_eq hflags henabled hfiles (hfiles.trans hread.symm)

theorem reconcilePresent_restores (hwrite : ∀ unit, course.write unit ≠ .renamed) {enabled : Bool}
    (herror : (reconcilePresent course wanted enabled previous before).2 = .error error) :
    (reconcilePresent course wanted enabled previous before).1 = before := by
  have hundone : Undone Prod.fst before.files (prepareUnits course wanted before.files) :=
    prepare_undone hwrite _ rfl
  unfold reconcilePresent at herror ⊢
  rcases hprepare : prepareUnits course wanted before.files with ⟨files, error' | ⟨snapshots, changed⟩⟩ <;>
    rw [hprepare] at herror hundone
  · cases hundone
    rfl
  · refine conclude_undone (rollback_eq hflags henabled hread ?_) herror
    rw [files_runOK]
    exact hundone

/-- A failed command that cleans the timer leaves the units that systemd has read. -/
theorem withdraw_restores (hsnapshot : ∀ unit, course.snapshot unit = none)
    (hclean : ∀ left, course.command .clean = some left → left.units = before.service.units)
    (hfiles : host.files = before.files) (hunits : host.service.units = before.service.units) {switched : Bool}
    (herror : (withdraw course switched previous host).2 = .error error) :
    (withdraw course switched previous host).1 = before := by
  have hundone : Undone id before.files (remove course host.files) := by
    unfold remove
    split
    · exact hfiles
    · split
      · exact removeUnits_undone hsnapshot _ hfiles
      · exact hfiles
  have hcleaned : runOK act course.command (if previous.loaded then [.clean] else []) host = (host, true) ∨
      ∃ left : Systemd, left.units = before.service.units ∧
        runOK act course.command (if previous.loaded then [.clean] else []) host = (⟨host.files, left⟩, false) := by
    split
    · cases hleft : course.command .clean with
      | none => exact .inl (by simp [runOK, hleft, Host.perform, act])
      | some left => exact .inr ⟨left, hclean left hleft, by simp [runOK, hleft]⟩
    · exact .inl rfl
  unfold withdraw at herror ⊢
  rcases hcleaned with hcleaned | ⟨left, hleft, hcleaned⟩ <;> rw [hcleaned] at herror ⊢
  · rcases hremove : remove course host.files with ⟨files, error' | snapshots⟩ <;> rw [hremove] at hundone
    all_goals simp only [hremove] at herror ⊢
    · exact restoreState_eq hflags henabled hundone hunits
    · refine conclude_undone (rollback_eq hflags henabled hread ?_) herror
      rw [files_runOK]
      exact hundone
  · exact restoreState_eq hflags henabled hfiles hleft

end Restored

namespace JobSample

def units : Units := fun _ => some ⟨"old", 0o644⟩

def job (active enabled : Bool) : JobHost := ⟨units, units, active, enabled⟩

def failing (command : Command) (active enabled : Bool) : Course :=
  { command := fun other => if other = command then some ⟨units, active, enabled⟩ else none }

end JobSample

end Stackfort.HostJobs
