import Stackfort.StoragePreparation

/-! The preparation of storage touches the disk at most once for each of its two steps. The journal on disk
tells how far the log of the host can have come: before it says `arming` nothing was armed, before it
says `verifying` nothing was resumed, and once it says that recovery is required it says so for ever.
Every journal that is written keeps that, so it holds wherever a call of `Advance` is killed. -/

namespace Stackfort.StoragePrep

open Interruption List
open Program hiding done

def Act.isArm : Act → Bool
  | .arm _ => true
  | _ => false

def Act.isResume : Act → Bool
  | .resume _ _ => true
  | _ => false

/-- The journal requires recovery. -/
def Recovered (journal : Option State) : Prop := ∃ state, journal = some state ∧ state.phase = .recoveryRequired

/-- An act that may change the disk was announced by the journal, on the boot it belongs to. -/
structure Entry.Announced (entry : Entry) : Prop where
  arm : ∀ plan, entry.act = .arm plan → entry.boot = some plan.previousBootID ∧
    ∃ state, entry.saved = some state ∧ state.phase = .arming ∧ state.plan = plan
  resume : ∀ plan bootID, entry.act = .resume plan bootID →
    entry.boot = some bootID ∧ bootID ≠ plan.previousBootID ∧ (.verifyBoot plan bootID, none) ∈ entry.calls ∧
    ∃ state, entry.saved = some state ∧ state.phase = .verifying ∧ state.plan = plan ∧ state.resumeBootID = bootID

/-- A log in which each step is done once at most, and none after a journal that requires recovery. -/
structure LogSound (log : List Entry) : Prop where
  announced : ∀ entry ∈ log, entry.Announced
  armOnce : log.countP (·.act.isArm) ≤ 1
  resumeOnce : log.countP (·.act.isResume) ≤ 1
  boots : ∀ armed ∈ log, ∀ resumed ∈ log, armed.act.isArm = true → resumed.act.isResume = true →
    resumed.boot ≠ armed.boot
  latched : log.Pairwise fun earlier later =>
    Recovered earlier.after → later.act.isArm = false ∧ later.act.isResume = false

/-- The phases before the disk is resumed. -/
def Phase.early (phase : Phase) : Bool := decide (phase = .planned ∨ phase = .arming ∨ phase = .awaitingReboot)

/-! ### Transitions -/

/-- What the check of a transition leaves possible. -/
structure Follows (previous : Option State) (next : State) : Prop where
  planned : next.phase = .planned → ∀ state, previous = some state → state.phase = .planned
  early : next.phase.early = true → ∀ state, previous = some state → state.phase.early = true
  recovered : Recovered previous → next.phase = .recoveryRequired
  plan : ∀ state, previous = some state → state.plan = next.plan

theorem validateTransition_follows {previous : Option State} {next : State}
    (h : validateTransition previous next = .ok ()) : Follows previous next := by
  unfold validateTransition at h
  obtain ⟨_, -, h⟩ := bind_eq_ok_iff.mp h
  cases previous with
  | none =>
    exact ⟨nofun, nofun, fun ⟨_, heq, _⟩ => (nomatch heq),
      nofun⟩
  | some previous =>
    obtain ⟨_, -, h⟩ := bind_eq_ok_iff.mp h
    dsimp only at h
    rw [guard_eq_ok_iff, not_or, not_not] at h
    obtain ⟨⟨hplan, -⟩, h⟩ := h
    have hpinned : ∀ state, some previous = some state → state.plan = next.plan := by
      rintro _ ⟨⟩
      exact hplan
    -- the same journal, one that requires recovery, or the next phase
    have hcases : next = previous ∨ previous.phase ≠ .recoveryRequired ∧ next.phase = .recoveryRequired ∨
        previous.phase = .planned ∧ next.phase = .arming ∨ previous.phase = .arming ∧ next.phase = .awaitingReboot ∨
        previous.phase = .awaitingReboot ∧ next.phase = .verifying ∨
        previous.phase = .verifying ∧ next.phase = .ready := by
      split_ifs at h with hsame hrecovery hnext
      · exact .inl hsame
      · exact .inr (.inl hrecovery)
      · exact .inr (.inr hnext)
    rcases hcases with rfl | ⟨hbefore, hafter⟩ | ⟨hbefore, hafter⟩ | ⟨hbefore, hafter⟩ | ⟨hbefore, hafter⟩ |
      ⟨hbefore, hafter⟩
    · refine ⟨?_, ?_, ?_, hpinned⟩
      · rintro hplanned _ ⟨⟩
        exact hplanned
      · rintro hearly _ ⟨⟩
        exact hearly
      · rintro ⟨_, ⟨⟩, hrecovered⟩
        exact hrecovered
    all_goals
      refine ⟨?_, ?_, ?_, hpinned⟩
      · rw [hafter]
        rintro hplanned _ ⟨⟩
        first | exact hbefore | cases hplanned
      · rw [hafter]
        rintro hearly _ ⟨⟩
        first | (rw [hbefore]; decide) | cases hearly
      · rintro ⟨_, ⟨⟩, hrecovered⟩
        first | exact hafter | (rw [hbefore] at hrecovered; cases hrecovered)

namespace Host

/-- What the journal on disk says about the log. -/
structure Prepared (host : Host) : Prop where
  log : LogSound host.log
  unarmed : (∀ state, host.journal = some state → state.phase = .planned) → host.log.countP (·.act.isArm) = 0
  unresumed : (∀ state, host.journal = some state → state.phase.early = true) → host.log.countP (·.act.isResume) = 0
  recovered : ∀ entry ∈ host.log, Recovered entry.after → Recovered host.journal
  pinned : ∀ entry ∈ host.log, ∀ state, entry.saved = some state →
    ∃ current, host.journal = some current ∧ current.plan = state.plan

variable {host next : Host} {state : State} {journal : Option State} {plan : Plan} {bootID : String}

variable {act : Act}

theorem countP_noted {p : Act → Bool} (hp : p act = false) (failure : Option String) (journal : Option State) :
    (host.noted act failure journal).log.countP (fun entry => p entry.act) =
      host.log.countP fun entry => p entry.act := by
  unfold Host.noted
  rw [countP_append, countP_singleton]
  simp [hp]

/-- An act that does not touch the disk, and leaves a journal that follows the one before. -/
theorem Prepared.noted (h : host.Prepared) (harm : act.isArm = false) (hresume : act.isResume = false)
    (failure : Option String)
    (hjournal : journal = host.journal ∨ ∃ state, journal = some state ∧ Follows host.journal state) :
    (host.noted act failure journal).Prepared := by
  obtain ⟨hplanned, hearly, hrecovered, hpinned⟩ :
      ((∀ state, journal = some state → state.phase = .planned) →
        ∀ state, host.journal = some state → state.phase = .planned) ∧
      ((∀ state, journal = some state → state.phase.early = true) →
        ∀ state, host.journal = some state → state.phase.early = true) ∧
      (Recovered host.journal → Recovered journal) ∧
      ∀ state, host.journal = some state → ∃ current, journal = some current ∧ current.plan = state.plan := by
    rcases hjournal with rfl | ⟨next, rfl, hfollows⟩
    · exact ⟨id, id, id, fun state hstate => ⟨state, hstate, rfl⟩⟩
    · exact ⟨fun hall => hfollows.planned (hall next rfl), fun hall => hfollows.early (hall next rfl),
        fun hrecovered => ⟨next, rfl, hfollows.recovered hrecovered⟩,
        fun state hstate => ⟨next, rfl, (hfollows.plan state hstate).symm⟩⟩
  refine ⟨⟨?_, ?_, ?_, ?_, ?_⟩, ?_, ?_, ?_, ?_⟩
  · refine forall_mem_append.mpr ⟨h.log.announced, forall_mem_singleton.mpr ⟨?_, ?_⟩⟩
    · rintro plan rfl
      cases harm
    · rintro plan bootID rfl
      cases hresume
  · rw [countP_noted harm]
    exact h.log.armOnce
  · rw [countP_noted hresume]
    exact h.log.resumeOnce
  · intro armed harmed resumed hresumed hisArm hisResume
    rcases mem_append.mp harmed with hold | hnew
    · rcases mem_append.mp hresumed with hold' | hnew
      · exact h.log.boots armed hold resumed hold' hisArm hisResume
      · rw [mem_singleton.mp hnew, hresume] at hisResume
        cases hisResume
    · rw [mem_singleton.mp hnew, harm] at hisArm
      cases hisArm
  · refine List.pairwise_append.mpr ⟨h.log.latched, pairwise_singleton _ _, ?_⟩
    intro earlier _ later hlater _
    rw [mem_singleton] at hlater
    rw [hlater]
    exact ⟨harm, hresume⟩
  · intro hall
    rw [countP_noted harm]
    exact h.unarmed (hplanned hall)
  · intro hall
    rw [countP_noted hresume]
    exact h.unresumed (hearly hall)
  · exact forall_mem_append.mpr
      ⟨fun entry hold hafter => hrecovered (h.recovered entry hold hafter), forall_mem_singleton.mpr id⟩
  · refine forall_mem_append.mpr ⟨fun entry hold state hsaved => ?_, forall_mem_singleton.mpr hpinned⟩
    obtain ⟨current, hcurrent, hplan⟩ := h.pinned entry hold state hsaved
    obtain ⟨current', hcurrent', hplan'⟩ := hpinned current hcurrent
    exact ⟨current', hcurrent', hplan'.trans hplan⟩

theorem not_recovered_of_phase (hjournal : journal = some state) (hphase : state.phase ≠ .recoveryRequired) :
    ¬Recovered journal := by
  rintro ⟨found, hfound, hrecovered⟩
  rw [hjournal, some.injEq] at hfound
  exact hphase (hfound ▸ hrecovered)

/-- A step that the journal announces, and that the log does not have yet. -/
theorem Prepared.step (h : host.Prepared) (failure : Option String) (hjournal : host.journal = some state)
    (hannounced : Entry.Announced ⟨act, failure, host.journal, host.journal, host.boot, host.calls⟩)
    (hphase : state.phase ≠ .recoveryRequired) (hplanned : state.phase ≠ .planned)
    (hboots : ∀ other ∈ host.log, (other.act.isArm = true → act.isResume = true → host.boot ≠ other.boot) ∧ (other.act.isResume = true → act.isArm = false))
    (hone : act.isArm = true → act.isResume = false) (harm : act.isArm = true → host.log.countP (·.act.isArm) = 0)
    (hresume : act.isResume = true → host.log.countP (·.act.isResume) = 0 ∧ state.phase.early = false) :
    (host.noted act failure host.journal).Prepared := by
  have hcount : ∀ p : Act → Bool, (p act = true → host.log.countP (fun entry => p entry.act) = 0) →
      host.log.countP (fun entry => p entry.act) ≤ 1 →
      (host.noted act failure host.journal).log.countP (fun entry => p entry.act) ≤ 1 := by
    intro p hzero hle
    unfold Host.noted
    rw [countP_append, countP_singleton]
    cases hp : p act with
    | true =>
      rw [hzero hp]
      simp
    | false => simpa [hp] using hle
  refine ⟨⟨?_, ?_, ?_, ?_, ?_⟩, ?_, ?_, ?_, ?_⟩
  · exact forall_mem_append.mpr ⟨h.log.announced, forall_mem_singleton.mpr hannounced⟩
  · exact hcount Act.isArm harm h.log.armOnce
  · exact hcount Act.isResume (fun hact => (hresume hact).1) h.log.resumeOnce
  · intro armed harmed resumed hresumed hisArm hisResume
    rcases mem_append.mp harmed with hold | hnew
    · rcases mem_append.mp hresumed with hold' | hnew
      · exact h.log.boots armed hold resumed hold' hisArm hisResume
      · rw [mem_singleton.mp hnew] at hisResume ⊢
        exact (hboots armed hold).1 hisArm hisResume
    · rw [mem_singleton.mp hnew] at hisArm
      rcases mem_append.mp hresumed with hold' | hnew
      · rw [(hboots resumed hold').2 hisResume] at hisArm
        cases hisArm
      · rw [mem_singleton.mp hnew, hone hisArm] at hisResume
        cases hisResume
  · refine List.pairwise_append.mpr ⟨h.log.latched, pairwise_singleton _ _, ?_⟩
    intro earlier hearlier later _ hrecovered
    exact absurd (h.recovered earlier hearlier hrecovered) (not_recovered_of_phase hjournal hphase)
  · intro hall
    exact absurd (hall state hjournal) hplanned
  · intro hall
    have hearly := hall state hjournal
    unfold Host.noted
    rw [countP_append, countP_singleton, h.unresumed hall]
    cases hact : act.isResume with
    | true =>
      rw [(hresume hact).2] at hearly
      cases hearly
    | false => rfl
  · exact forall_mem_append.mpr ⟨h.recovered, forall_mem_singleton.mpr id⟩
  · exact forall_mem_append.mpr ⟨h.pinned, forall_mem_singleton.mpr fun found hsaved => ⟨found, hsaved, rfl⟩⟩

/-! ### The rules -/

/-- What the acts of a call other than the two steps keep. -/
structure Continues (host next : Host) : Prop where
  boot : next.boot = host.boot
  calls : ∀ call ∈ host.calls, call ∈ next.calls
  armed : next.log.countP (·.act.isArm) = host.log.countP (·.act.isArm)
  resumed : next.log.countP (·.act.isResume) = host.log.countP (·.act.isResume)

theorem continues_noted (harm : act.isArm = false) (hresume : act.isResume = false) (failure : Option String)
    (journal : Option State) : host.Continues (host.noted act failure journal) :=
  ⟨rfl, fun _ hcall => mem_append_left _ hcall, countP_noted harm _ _, countP_noted hresume _ _⟩

variable {α : Type} {Post : α → Host → Prop}

/-- The host is prepared wherever the program is stopped. -/
abbrev Keeps (program : Prep α) (Post : α → Host → Prop) (host : Host) : Prop :=
  program.Ensures storage .none Prepared Post host

section

variable (h : host.Prepared)

include h

variable {f : Option String → Prep α}

theorem Prepared.save (hfails : ∀ message next, next.Prepared → Keeps (f (some message)) Post next)
    (hpasses : ∀ next, next.Prepared → host.Continues next → next.journal = some state → Keeps (f none) Post next) :
    Keeps (perform (.save state) >>= f) Post host := by
  refine Ensures.perform h fun choice _ => ?_
  show Keeps (f (host.save state choice).1) Post (host.save state choice).2
  unfold Host.save
  cases hcheck : validateTransition host.journal state with
  | error message => exact hfails _ _ (h.noted rfl rfl _ (.inl rfl))
  | ok _ =>
    have hsaved : ∀ failure, (host.noted (.save state) failure (some state)).Prepared := fun failure =>
      h.noted rfl rfl failure (.inr ⟨state, rfl, validateTransition_follows hcheck⟩)
    dsimp only
    cases choice.failure with
    | some message =>
      refine hfails message _ ?_
      split
      · exact hsaved _
      · exact h.noted rfl rfl _ (.inl rfl)
    | none => exact hpasses _ (hsaved none) (continues_noted rfl rfl _ _) rfl

theorem Prepared.context (hfails : ∀ message, Keeps (f (some message)) Post host) (hpasses : Keeps (f none) Post host) :
    Keeps (perform .context >>= f) Post host := by
  refine Ensures.perform h fun choice _ => ?_
  show Keeps (f choice.failure) Post host
  cases choice.failure with
  | some message => exact hfails message
  | none => exact hpasses

theorem Prepared.observe {f : Except String Observation → Prep α}
    (hfails : ∀ message, Keeps (f (.error message)) Post host)
    (hpasses : ∀ (observation : Observation) next, next.Prepared → next.journal = host.journal →
      next.boot = some observation.bootID → Keeps (f (.ok observation)) Post next) :
    Keeps (perform .observe >>= f) Post host := by
  refine Ensures.perform h fun choice _ => ?_
  show Keeps (f (host.observe choice).1) Post (host.observe choice).2
  unfold Host.observe
  cases choice.failure with
  | some message => exact hfails message
  | none => exact hpasses choice.observation _ ⟨h.log, h.unarmed, h.unresumed, h.recovered, h.pinned⟩ rfl rfl

theorem Prepared.load {f : Except String (Option State) → Prep α}
    (hfails : ∀ message next, next.Prepared → Keeps (f (.error message)) Post next)
    (hpasses : ∀ next, next.Prepared → Keeps (f (.ok next.journal)) Post next) :
    Keeps (perform .load >>= f) Post host := by
  have hopened : Prepared { host with boot := none, calls := [] } := ⟨h.log, h.unarmed, h.unresumed, h.recovered, h.pinned⟩
  refine Ensures.perform h fun choice _ => ?_
  show Keeps (f (host.load choice).1) Post (host.load choice).2
  unfold Host.load
  cases choice.failure with
  | some message => exact hfails message _ hopened
  | none => exact hpasses _ hopened

/-- A check of the disk is noted with its outcome. -/
theorem Prepared.checked {op : PrepOp (Option String)}
    (hreact : ∀ choice, host.react op choice = (choice.failure, host.noted act choice.failure host.journal))
    (harm : act.isArm = false) (hresume : act.isResume = false)
    (hfails : ∀ message next, next.Prepared → Keeps (f (some message)) Post next)
    (hpasses : ∀ next, next.Prepared → host.Continues next → next.journal = host.journal → (act, none) ∈ next.calls →
      Keeps (f none) Post next) : Keeps (perform op >>= f) Post host := by
  refine Ensures.perform h fun choice _ => ?_
  have hnoted := h.noted harm hresume choice.failure (.inl rfl)
  show Keeps (f (host.react op choice).1) Post (host.react op choice).2
  rw [hreact]
  cases hfailure : choice.failure with
  | some message => exact hfails message _ (hfailure ▸ hnoted)
  | none =>
    exact hpasses _ (hfailure ▸ hnoted) (continues_noted harm hresume _ _) rfl
      (mem_append_right _ (mem_singleton_self _))

/-- The conversion is armed under its journal, on the boot of the plan. -/
theorem Prepared.arm (hjournal : host.journal = some state) (hphase : state.phase = .arming)
    (hplan : state.plan = plan) (hboot : host.boot = some plan.previousBootID)
    (hzero : host.log.countP (·.act.isArm) = 0)
    (hnext : ∀ failure next, next.Prepared → Keeps (f failure) Post next) :
    Keeps (perform (.arm plan) >>= f) Post host := by
  have hnone : ∀ other ∈ host.log, other.act.isResume ≠ true := by
    have hzero : host.log.countP (·.act.isResume) = 0 := by
      apply h.unresumed
      intro found hfound
      rw [← some.inj (hjournal.symm.trans hfound), hphase]
      rfl
    exact List.countP_eq_zero.mp hzero
  refine Ensures.perform h fun choice _ => hnext _ _ ?_
  refine h.step choice.failure hjournal ⟨?_, nofun⟩ (hphase ▸ nofun) (hphase ▸ nofun) ?_
    (fun _ => rfl) (fun _ => hzero) nofun
  · rintro _ ⟨⟩
    exact ⟨hboot, state, hjournal, hphase, hplan⟩
  · intro other hother
    exact ⟨nofun, fun hresumed => absurd hresumed (hnone other hother)⟩

/-- The conversion is resumed under its journal, on a boot that was verified. -/
theorem Prepared.resume (hjournal : host.journal = some state) (hphase : state.phase = .verifying)
    (hplan : state.plan = plan) (hresume : state.resumeBootID = bootID) (hboot : host.boot = some bootID)
    (hother' : bootID ≠ plan.previousBootID) (hverified : (.verifyBoot plan bootID, none) ∈ host.calls)
    (hzero : host.log.countP (·.act.isResume) = 0)
    (hnext : ∀ failure next, next.Prepared → Keeps (f failure) Post next) :
    Keeps (perform (.resume plan bootID) >>= f) Post host := by
  -- what was armed belongs to the plan of the journal, and so to its boot
  have harmed : ∀ other ∈ host.log, other.act.isArm = true → host.boot ≠ other.boot := by
    intro other hother hisArm
    cases hact : other.act with
    | arm armedPlan =>
      obtain ⟨hotherBoot, found, hfound, -, hfoundPlan⟩ := (h.log.announced other hother).arm armedPlan hact
      obtain ⟨current, hcurrent, hcurrentPlan⟩ := h.pinned other hother found hfound
      have hplans : armedPlan = plan := by
        rw [← hfoundPlan, ← hcurrentPlan, ← some.inj (hjournal.symm.trans hcurrent), hplan]
      rw [hboot, hotherBoot, hplans]
      exact fun heq => hother' (some.inj heq)
    | _ => rw [hact] at hisArm; cases hisArm
  refine Ensures.perform h fun choice _ => hnext _ _ ?_
  refine h.step choice.failure hjournal ⟨nofun, ?_⟩ (hphase ▸ nofun) (hphase ▸ nofun) ?_
    nofun nofun fun _ => ?_
  · rintro _ _ ⟨⟩
    exact ⟨hboot, hother', hverified, state, hjournal, hphase, hplan, hresume⟩
  · intro other hother
    exact ⟨fun hisArm _ => harmed other hother hisArm, fun _ => rfl⟩
  · rw [hphase]
    exact ⟨hzero, rfl⟩

end

end Host

/-! ### The programs -/

/-- A call that answers that the storage is ready has verified it, for the plan of the journal. -/
structure Verified (plan : Plan) (answer : Answer) (host : Host) : Prop where
  prepared : host.Prepared
  verified : answer.1.ready = true → (.verifyReady plan, none) ∈ host.calls ∧
    ∃ state, answer.1.state = some state ∧ host.journal = some state ∧ state.phase = .ready ∧ state.plan = plan

section

variable {host : Host} {plan : Plan} {state : State} {bootID : String}

open Host

theorem Verified.of_not_ready (h : host.Prepared) {answer : Answer} (hready : answer.1.ready = false) :
    Verified plan answer host := ⟨h, fun heq => absurd (hready.symm.trans heq) Bool.false_ne_true⟩

open Verified (of_not_ready)

section

variable (h : host.Prepared)

include h

theorem recoverState_prepared (code : String) (cause : Option String) :
    Keeps (recoverState state code cause) (Verified plan) host :=
  h.save (fun _ _ h => of_not_ready h rfl) fun _ h _ _ => of_not_ready h rfl

theorem armStorage_prepared (hplan : state.plan = plan) (hboot : host.boot = some plan.previousBootID)
    (hzero : host.log.countP (·.act.isArm) = 0) : Keeps (armStorage plan state) (Verified plan) host := by
  unfold armStorage
  refine h.save (fun _ _ h => of_not_ready h rfl) fun next h hcontinues hsaved => ?_
  refine h.context (fun _ => recoverState_prepared h _ _) ?_
  refine h.arm hsaved rfl hplan (hcontinues.boot.trans hboot) (hcontinues.armed.trans hzero) fun failure next h => ?_
  cases failure with
  | some message => exact recoverState_prepared h _ _
  | none => exact h.save (fun _ _ h => of_not_ready h rfl) fun _ h _ _ => of_not_ready h rfl

theorem resumeStorage_prepared (hplan : state.plan = plan) (hboot : host.boot = some bootID)
    (hother : bootID ≠ plan.previousBootID) (hzero : host.log.countP (·.act.isResume) = 0) :
    Keeps (resumeStorage plan state bootID) (Verified plan) host := by
  unfold resumeStorage
  refine h.checked (fun _ => rfl) rfl rfl (fun _ _ h => recoverState_prepared h _ _)
    fun next h hcontinues _ hverified => ?_
  refine h.save (fun _ _ h => of_not_ready h rfl) fun next h hcontinues' hsaved => ?_
  refine h.context (fun _ => recoverState_prepared h _ _) ?_
  refine h.resume hsaved rfl hplan rfl (hcontinues'.boot.trans (hcontinues.boot.trans hboot)) hother
    (hcontinues'.calls _ hverified) (hcontinues'.resumed.trans (hcontinues.resumed.trans hzero))
    fun failure next h => ?_
  cases failure with
  | some message => exact recoverState_prepared h _ _
  | none =>
    refine h.checked (fun _ => rfl) rfl rfl (fun _ _ h => recoverState_prepared h _ _) fun next h _ _ hready => ?_
    refine h.save (fun _ _ h => of_not_ready h rfl) fun next h hcontinues hsaved => ?_
    exact ⟨h, fun _ => ⟨hcontinues.calls _ hready, _, rfl, hsaved, rfl, hplan⟩⟩

theorem continueStorage_prepared (hjournal : host.journal = some state) (hplan : state.plan = plan)
    (hboot : host.boot = some bootID) :
    Keeps (continueStorage plan state bootID) (Verified plan) host := by
  have hsame : ∀ found, host.journal = some found → found = state :=
    fun found hfound => some.inj (hfound.symm.trans hjournal)
  unfold continueStorage
  cases hphase : state.phase with
  | planned =>
    dsimp only
    split_ifs with hother
    · exact recoverState_prepared h _ _
    · rw [not_not] at hother
      refine armStorage_prepared h hplan (hother ▸ hboot) (h.unarmed fun found hfound => ?_)
      rw [hsame found hfound, hphase]
  | arming => exact recoverState_prepared h _ _
  | awaitingReboot =>
    dsimp only
    split_ifs with hsameBoot
    · exact of_not_ready h rfl
    · refine resumeStorage_prepared h hplan hboot hsameBoot (h.unresumed fun found hfound => ?_)
      rw [hsame found hfound, hphase]
      rfl
  | verifying => exact recoverState_prepared h _ _
  | ready =>
    refine h.checked (fun _ => rfl) rfl rfl (fun _ _ h => recoverState_prepared h _ _)
      fun next h _ hsaved hready => ?_
    exact ⟨h, fun _ => ⟨hready, state, rfl, hsaved.trans hjournal, hphase, hplan⟩⟩
  | recoveryRequired => exact of_not_ready h rfl

theorem observeStorage_prepared (existed : Bool) (hjournal : existed = true → host.journal = some state)
    (hplan : state.plan = plan) :
    Keeps (observeStorage plan existed state) (Verified plan) host := by
  unfold observeStorage
  refine h.context (fun _ => of_not_ready h rfl) ?_
  refine h.observe (fun _ => of_not_ready h rfl) fun observation next h hsame hboot => ?_
  dsimp only
  split
  · split
    next hexisted => exact continueStorage_prepared h (hsame.trans (hjournal hexisted)) hplan hboot
    next =>
      split
      · exact of_not_ready h rfl
      · refine h.save (fun _ _ h => of_not_ready h rfl) fun next h hcontinues hsaved => ?_
        exact continueStorage_prepared h hsaved hplan (hcontinues.boot.trans hboot)
  · split
    · exact recoverState_prepared h _ _
    · exact of_not_ready h rfl

end

theorem advance_prepared (plan : Plan) (h : host.Prepared) :
    Keeps (advance plan) (Verified plan) host := by
  unfold advance
  split
  · exact of_not_ready h rfl
  refine h.load (fun message next h => of_not_ready h rfl) fun next h => ?_
  cases hjournal : next.journal with
  | none => exact observeStorage_prepared h false nofun rfl
  | some state =>
    dsimp only
    split
    · exact of_not_ready h rfl
    split_ifs with hplan hrecovery
    · exact of_not_ready h rfl
    · exact of_not_ready h rfl
    · exact observeStorage_prepared h true (fun _ => hjournal) (not_not.mp hplan)

/-- Over all calls of `Advance`, with any plans, on any boots and killed anywhere: each of the two steps is
done at most once, behind its journal and never after a journal that requires recovery, and a call that
answers ready has verified it. -/
theorem storage_steps_once (requests : List (Plan × List Choice)) :
    LogSound (serve storage advance ⟨none, none, [], []⟩ requests).log ∧
      ∀ plan choices answer,
        ((advance plan).run storage (serve storage advance ⟨none, none, [], []⟩ requests) choices).2 = some answer →
        answer.1.ready = true →
        (.verifyReady plan, none) ∈
          ((advance plan).run storage (serve storage advance ⟨none, none, [], []⟩ requests) choices).1.calls ∧
        ∃ state, answer.1.state = some state ∧ state.phase = .ready ∧ state.plan = plan ∧
          ((advance plan).run storage (serve storage advance ⟨none, none, [], []⟩ requests) choices).1.journal =
            some state := by
  have hstart : Prepared ⟨none, none, [], []⟩ := by
    refine ⟨⟨?_, ?_, ?_, ?_, List.Pairwise.nil⟩, fun _ => rfl, fun _ => rfl, ?_, ?_⟩
    · exact fun _ hentry => nomatch hentry
    · exact Nat.zero_le 1
    · exact Nat.zero_le 1
    · exact fun _ hentry => nomatch hentry
    · exact fun _ hentry => nomatch hentry
    · exact fun _ hentry => nomatch hentry
  have hserved : (serve storage advance ⟨none, none, [], []⟩ requests).Prepared := by
    refine serve_invariant (fun host plan h => ?_) hstart (servedWithin_none _ requests)
    exact (advance_prepared plan h).mono (fun _ h => h) fun _ _ hverified => hverified.prepared
  refine ⟨hserved.log, fun plan choices answer hanswer hready => ?_⟩
  have hrun := (advance_prepared plan hserved).run (Program.within_none _ _ choices)
  rw [hanswer] at hrun
  obtain ⟨hcall, state, hstate, hjournal, hphase, hplan⟩ := hrun.verified hready
  exact ⟨hcall, state, hstate, hphase, hplan, hjournal⟩

end

end Stackfort.StoragePrep
