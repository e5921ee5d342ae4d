import Stackfort.EventRuns

/-! The deletion of the Unix identity of an archived account. A call looks at what is left of the identity
and removes it command by command. A command may fail and the process may be killed, before the effect
of the command or after it, and the next call goes on from there. Only a call that finds linger enabled
terminates the user's processes and waits for their end. -/

namespace Stackfort.HostIdentity

open List

inductive Command where
  | disableUserLinger
  | terminateUser
  | waitForUserProcessesExit
  | userDeleteSubUIDs
  | userDeleteSubGIDs
  | userDel
  | groupDel
deriving DecidableEq

/-- A command succeeds, or the call ends at it, before its effect or after. What is read before a command
and cannot be read ends the call like the command. -/
inductive Fate where
  | succeeded
  | endedBefore
  | endedAfter

structure IdentityHost where
  user : Bool
  group : Bool
  /-- Whether the group of a user is deleted with the user. -/
  userGroups : Bool
  linger : Bool
  subUIDs : Bool
  subGIDs : Bool
  processes : Bool
  /-- The commands that took effect. -/
  log : List Command

variable {host final : IdentityHost} {fate : Command → Fate} {log : List Command} {command : Command}

namespace IdentityHost

def effect (host : IdentityHost) : Command → IdentityHost
  | .disableUserLinger => { host with linger := false }
  | .terminateUser => { host with processes := false }
  | .waitForUserProcessesExit => host
  | .userDeleteSubUIDs => { host with subUIDs := false }
  | .userDeleteSubGIDs => { host with subGIDs := false }
  | .userDel => { host with user := false, group := host.group && !host.userGroups }
  | .groupDel => { host with group := false }

def record (host : IdentityHost) (command : Command) : IdentityHost :=
  { host.effect command with log := host.log ++ [command] }

/-- The commands of `RemoveRuntime`, for what it finds. -/
def removeRuntime (host : IdentityHost) : List Command :=
  (if host.linger then [.disableUserLinger, .terminateUser, .waitForUserProcessesExit] else []) ++
    (if host.subUIDs then [.userDeleteSubUIDs] else []) ++ if host.subGIDs then [.userDeleteSubGIDs] else []

/-- Nothing is left of the identity. -/
structure Gone (host : IdentityHost) : Prop where
  user : host.user = false
  group : host.group = false
  linger : host.linger = false
  subUIDs : host.subUIDs = false
  subGIDs : host.subGIDs = false

end IdentityHost

open IdentityHost

/-- One command of a call that has not ended. The wait times out while there are processes. -/
def perform (fate : Command → Fate) : IdentityHost × Bool → Command → IdentityHost × Bool
  | (host, false), _ => (host, false)
  | (host, true), command =>
    if command = .waitForUserProcessesExit ∧ host.processes = true then (host, false)
    else
      match fate command with
      | .succeeded => (host.record command, true)
      | .endedBefore => (host, false)
      | .endedAfter => (host.record command, false)

def run (fate : Command → Fate) (commands : List Command) (state : IdentityHost × Bool) : IdentityHost × Bool :=
  commands.foldl (perform fate) state

def delete (fate : Command → Fate) (host : IdentityHost) : IdentityHost :=
  let removed := run fate (host.removeRuntime ++ if host.user then [.userDel] else []) (host, true)
  -- the group is looked up again after the user was deleted
  (run fate (if removed.1.group then [.groupDel] else []) removed).1

/-! ### Order -/

/-- After linger was disabled the processes were terminated, and then seen to be gone. -/
def Cleared (log : List Command) : Prop :=
  [.disableUserLinger, .terminateUser, .waitForUserProcessesExit] <+ log

/-- The ranges and the user were removed only after that. -/
def Orderly (log : List Command) : Prop :=
  ∀ before command after, log = before ++ command :: after →
    command ∈ [.userDeleteSubUIDs, .userDeleteSubGIDs, .userDel] → Cleared before

theorem Orderly.append (h : Orderly log)
    (hcommand : command ∈ [.userDeleteSubUIDs, .userDeleteSubGIDs, .userDel] → Cleared log) :
    Orderly (log ++ [command]) := by
  intro before other after heq hremoves
  rcases after.eq_nil_or_concat with rfl | ⟨front, last, rfl⟩
  · obtain ⟨rfl, hsame⟩ := append_inj' heq rfl
    cases hsame
    exact hcommand hremoves
  · rw [concat_eq_append, ← cons_append, ← append_assoc] at heq
    exact h _ _ _ (append_inj' heq rfl).1 hremoves

/-- The processes are gone, and nothing was removed before. -/
structure Settled (host : IdentityHost) : Prop where
  orderly : Orderly host.log
  cleared : Cleared host.log

theorem Settled.record (h : Settled host) : Settled (host.record command) :=
  ⟨h.orderly.append fun _ => h.cleared, h.cleared.trans (sublist_append_left _ _)⟩

/-- From then on every command is in order. -/
theorem Settled.run (commands : List Command) {state : IdentityHost × Bool} (h : Settled state.1) :
    Settled (run fate commands state).1 := by
  refine foldlRecOn (motive := fun state => Settled state.1) commands (perform fate) h
    fun state h command _ => ?_
  fun_cases perform fate state command
  · exact h
  · exact h
  · exact h.record
  · exact h
  · exact h.record

/-- Nothing was removed out of order, and without linger the processes are gone. -/
structure Guarded (host : IdentityHost) : Prop where
  orderly : Orderly host.log
  cleared : host.linger = false → Cleared host.log

/-- A call that disables linger goes on until it has seen the processes gone. -/
def Careful (host : IdentityHost) (fate : Command → Fate) : Prop :=
  host.linger = true → fate .disableUserLinger ≠ .endedBefore → fate .disableUserLinger = .succeeded ∧
    fate .terminateUser = .succeeded ∧ fate .waitForUserProcessesExit = .succeeded

theorem run_ended (commands : List Command) : run fate commands (host, false) = (host, false) := by
  induction commands with
  | nil => rfl
  | cons command rest ih => exact ih

theorem delete_guarded (h : Guarded host) (hcareful : Careful host fate) : Guarded (delete fate host) := by
  have hguarded : ∀ {next}, Settled next → Guarded next := fun h => ⟨h.orderly, fun _ => h.cleared⟩
  cases hlinger : host.linger with
  | false => exact hguarded (.run _ (.run _ ⟨h.orderly, h.cleared hlinger⟩))
  | true =>
    by_cases hended : fate .disableUserLinger = .endedBefore
    · have hfirst : ∀ rest, run fate (.disableUserLinger :: rest) (host, true) = (host, false) := by
        intro rest
        rw [run, foldl_cons, perform, hended]
        exact run_ended rest
      simp only [delete, removeRuntime, hlinger, if_true, cons_append, hfirst, run_ended]
      exact h
    · obtain ⟨hdisable, hterminate, hwait⟩ := hcareful hlinger hended
      unfold delete removeRuntime
      rw [hlinger, if_pos rfl, append_assoc, append_assoc, run, foldl_append]
      refine hguarded (.run _ (.run _ ?_))
      simp only [foldl_cons, foldl_nil, perform, hdisable, hterminate, hwait, record, effect, reduceCtorEq, false_and,
        and_false, if_false, Bool.false_eq_true]
      refine ⟨((h.orderly.append ?_).append ?_).append ?_, ?_⟩
      · simp
      · simp
      · simp
      · rw [append_assoc, append_assoc]
        exact sublist_append_right _ _

/-! ### Calls -/

/-- One call after the other. -/
def deletes (host : IdentityHost) (fate : Command → Fate) : Option IdentityHost := some (delete fate host)

theorem delete_gone (host : IdentityHost) : (delete (fun _ => .succeeded) host).Gone := by
  obtain ⟨user, group, userGroups, linger, subUIDs, subGIDs, processes, log⟩ := host
  cases user <;> cases group <;> cases userGroups <;> cases linger <;> cases subUIDs <;> cases subGIDs <;>
    cases processes <;> exact ⟨rfl, rfl, rfl, rfl, rfl⟩

/-- **Deletion.** After any calls, one whose commands succeed leaves nothing of the identity. If linger was
enabled at first and every call that disables it also sees the processes gone, then the ranges and the user are
removed only after that. -/
theorem deletion_orderly {calls : List (Command → Fate)} (hrun : Events.run deletes host calls = some final) :
    (delete (fun _ => .succeeded) final).Gone ∧
      (host.linger = true → host.log = [] → Events.Along deletes Careful host calls → Orderly final.log) := by
  refine ⟨delete_gone final, fun hlinger hlog hcareful => ?_⟩
  refine (Events.run_keeps (fun host fate next h hcareful hstep => ?_) ?_ hcareful hrun : Guarded final).orderly
  · cases hstep
    exact delete_guarded h hcareful
  · refine ⟨fun before command after heq => ?_, fun h => absurd hlinger (by rw [h]; decide)⟩
    rw [hlog] at heq
    simp at heq

/-- A user with processes, ranges and linger. -/
def IdentityHost.sample : IdentityHost := ⟨true, true, true, true, true, true, true, []⟩

theorem deletion_orderly_sample : Orderly (delete (fun _ => .succeeded) .sample).log := by
  have hrun : Events.run deletes .sample [fun _ => .succeeded] = some (delete (fun _ => .succeeded) .sample) := rfl
  exact (deletion_orderly hrun).2 rfl rfl ⟨fun _ _ => ⟨rfl, rfl, rfl⟩, fun _ _ => trivial⟩

/-- A call that fails at one command. -/
def failsAt (command other : Command) : Fate := if other = command then .endedBefore else .succeeded

/-- The first call fails after it disabled linger. The second one removes the ranges while there are
processes, and `userdel` may refuse only then. -/
theorem deletion_disorderly :
    let left := delete (failsAt .userDel) (delete (failsAt .terminateUser) .sample)
    left.subUIDs = false ∧ left.subGIDs = false ∧ left.processes = true ∧ ¬Orderly left.log := by
  refine ⟨rfl, rfl, rfl, fun h => ?_⟩
  have hcleared := h [.disableUserLinger] .userDeleteSubUIDs [.userDeleteSubGIDs] rfl (by decide)
  exact absurd hcleared.length_le (by decide)

end Stackfort.HostIdentity
