import Stackfort.UpdateEngine

/-! The recovery of an interrupted update. Every journal that is on disk has passed the check of the store,
and its times are not ahead of the clock; so an invocation that finds an update in progress records
that it rolls back, does so, and records the end. A journal whose rollback failed has a completion
time already. The recovery keeps it, and the store refuses every journal in progress that has one: such
an update stays where it is, for every later invocation. -/

namespace Stackfort.UpdateApply

open Interruption
open Program hiding done

variable {host : UpdaterHost} {current target : Source} {journal : Journal}

namespace UpdaterHost

variable {next : UpdaterHost} {α : Type}

/-- The journal on disk is valid and not ahead of the clock. -/
structure Timely (host : UpdaterHost) : Prop where
  valid : ∀ journal, host.journal = some journal → validateJournal journal = .ok ()
  updated : ∀ journal time, host.journal = some journal → journal.updatedAt = some time → time ≤ host.clock

theorem Timely.of_untouched (h : host.Timely) (huntouched : host.Untouched next) : next.Timely := by
  refine ⟨fun journal hjournal => ?_, fun journal time hjournal htime => ?_⟩
  · exact h.valid journal (huntouched.journal ▸ hjournal)
  · rw [huntouched.clock]
    exact h.updated journal time (huntouched.journal ▸ hjournal) htime

/-- The journal is timely wherever the program is stopped, and when it returns. -/
abbrev KeepsTimely (program : Engine α) (host : UpdaterHost) : Prop :=
  program.Ensures updater .none Timely (fun _ => Timely) host

theorem Timely.save {f : Option String → Engine α} (h : host.Timely) (hupdated : journal.updatedAt = some host.clock)
    (hnext : ∀ failure next, next.Timely → KeepsTimely (f failure) next) :
    KeepsTimely (perform (.save journal) >>= f) host := by
  refine Ensures.perform h fun choice _ => ?_
  show KeepsTimely (f (host.save journal choice).1) (host.save journal choice).2
  obtain ⟨failure, next, heq, hcases⟩ := host.save_cases journal choice
  rw [heq]
  rcases hcases with ⟨rfl, -⟩ | ⟨rfl, hvalid⟩
  · exact hnext failure _ ⟨h.valid, h.updated⟩
  · refine hnext failure _ ⟨?_, ?_⟩
    · intro saved hsaved
      rw [← some.inj hsaved]
      exact hvalid
    · intro saved time hsaved htime
      rw [← some.inj hsaved, hupdated] at htime
      exact (some.inj htime).ge

theorem Timely.now {f : Time → Engine α} (h : host.Timely)
    (hnext : ∀ next, next.Timely → KeepsTimely (f next.clock) next) :
    KeepsTimely (perform .now >>= f) host := by
  refine Ensures.perform h fun choice _ => ?_
  refine hnext { host with clock := host.clock + choice.elapsed } ⟨h.valid, ?_⟩
  intro saved time hsaved htime
  exact (h.updated saved time hsaved htime).trans (Nat.le_add_right _ _)

theorem Timely.runner {β : Type} {op : EngineOp β} {f : β → Engine α} (h : host.Timely) (hrunner : op.isRunner = true)
    (hnext : ∀ reply next, next.Timely → KeepsTimely (f reply) next) :
    KeepsTimely (perform op >>= f) host := by
  refine Ensures.perform h fun choice _ => hnext _ _ ?_
  exact h.of_untouched (host.react_untouched op hrunner choice)

end UpdaterHost

/-! ### Every journal on disk -/

open UpdaterHost

theorem rollback_timely (h : host.Timely) :
    KeepsTimely (rollback current target journal) host := by
  unfold rollback
  refine h.runner rfl fun failure next h => ?_
  refine h.now fun next h => ?_
  exact h.save rfl fun saveFailure next h => h

theorem abandon_timely (h : host.Timely) (errors : List (Option String)) :
    KeepsTimely (abandon current target journal errors) host := by
  exact (rollback_timely h).bind fun _ _ h => h

theorem recoverInterrupted_timely (h : host.Timely) :
    KeepsTimely (recoverInterrupted current target journal) host := by
  unfold recoverInterrupted
  refine h.now fun next h => ?_
  refine h.save rfl fun failure next h => ?_
  cases failure with
  | some message => exact h
  | none =>
    dsimp only
    exact (rollback_timely h).bind fun _ _ h => h

theorem applyAndVerify_timely {stage : StageID} (h : host.Timely) :
    KeepsTimely (applyAndVerify stage current target) host := by
  unfold applyAndVerify
  refine h.runner rfl fun failure next h => ?_
  cases failure with
  | some message => exact h
  | none => exact h.runner rfl fun failure next h => h

theorem applyStages_timely (rest : List StageState) :
    ∀ (done : List StageState) (journal : Journal) (host : UpdaterHost), host.Timely →
      KeepsTimely (applyStages current target done rest journal) host := by
  induction rest with
  | nil => exact fun _ _ _ h => h
  | cons stage rest ih =>
    intro done journal host h
    unfold applyStages
    refine h.now fun next h => ?_
    refine h.save rfl fun failure next h => ?_
    cases failure with
    | some message => exact (abandon_timely h _).bind fun _ _ h => h
    | none =>
      refine (applyAndVerify_timely h).bind fun failure host h => ?_
      cases failure with
      | some message =>
        refine h.now fun next h => ?_
        refine h.save rfl fun failure next h => ?_
        exact (abandon_timely h _).bind fun _ _ h => h
      | none =>
        refine h.now fun next h => ?_
        refine h.save rfl fun failure next h => ?_
        cases failure with
        | some message => exact (abandon_timely h _).bind fun _ _ h => h
        | none => exact ih _ _ next h

theorem beginUpdate_timely (h : host.Timely) :
    KeepsTimely (beginUpdate current target) host := by
  unfold beginUpdate
  refine h.runner rfl fun failure next h => ?_
  cases failure with
  | some message => exact h
  | none =>
    refine h.now fun next h => ?_
    refine h.save rfl fun failure next h => ?_
    cases failure with
    | some message => exact h
    | none =>
      refine (applyStages_timely _ [] _ next h).bind fun result host h => ?_
      cases result with
      | error outcome => exact h
      | ok journal =>
        unfold commit
        refine h.now fun next h => ?_
        refine h.save rfl fun failure next h => ?_
        cases failure with
        | some message => exact abandon_timely h _
        | none => exact h

theorem apply_timely (request : Source × Source) (h : host.Timely) :
    KeepsTimely (apply request) host := by
  have hopened : host.opened.Timely := ⟨h.valid, h.updated⟩
  apply apply_ensures h
  · exact fun _ => h
  · exact fun _ => ⟨h.valid, h.updated⟩
  · exact fun _ => hopened
  · exact fun _ _ => beginUpdate_timely hopened
  · exact fun _ _ _ _ _ _ => recoverInterrupted_timely hopened
  · intro journal _ hstatus
    rw [resumeUpdate, hstatus]
    refine hopened.runner rfl fun failure next h => ?_
    cases failure with
    | some | none => exact h

/-- A host without a journal, as it is before the first update. -/
theorem serve_timely (hnone : host.journal = none) (requests : List ((Source × Source) × List Choice)) :
    (serve updater apply host requests).Timely := by
  apply serve_invariant (fun host request h => apply_timely request h) ?_ (servedWithin_none host requests)
  exact ⟨fun _ h => (nomatch hnone.symm.trans h), fun _ _ h => (nomatch hnone.symm.trans h)⟩

/-! ### A recovery that succeeds -/

/-- The calls of an invocation that goes through: reading and writing the journal and the rollback do not
fail, the clock stays in the years of four digits, and the process is not killed. -/
def succeeding : Terms EngineOp UpdaterHost Choice where
  choice := fun host op choice =>
    match op with
    | .rollback current target journal => (host.rollback (pairOf current target) journal choice).1 = none
    | .now => host.clock + choice.elapsed < yearTenThousand
    | _ => choice.failure = none
  stop := fun _ => False

/-- The acts that were added to the log, with their errors. -/
def UpdaterHost.since (host next : UpdaterHost) : List (Act × Option String) :=
  (next.log.drop host.log.length).map fun entry => (entry.act, entry.failure)

/-- Every invocation that goes through records the rollback, does it and records its end. -/
def Recovers (host : UpdaterHost) (current target : Source) : Prop :=
  ∀ choices, (apply (current, target)).Within updater succeeding host choices →
    ∃ undoing ended, undoing.status = .rollingBack ∧ ended.status = .rolledBack ∧
      ((apply (current, target)).run updater host choices).1.journal = some ended ∧
      host.since ((apply (current, target)).run updater host choices).1 =
        [(.save undoing, none), (.rollback (pairOf current target) undoing, none), (.save ended, none)]

section

variable {α : Type} {Stopped : UpdaterHost → Prop} {Post : α → UpdaterHost → Prop}

theorem succeeding_save {f : Option String → Engine α} (hvalid : validateJournal journal = .ok ())
    (hnext : (f none).Ensures updater succeeding Stopped Post
      (host.noted (.save journal) none { host with journal := some journal })) :
    (perform (.save journal) >>= f).Ensures updater succeeding Stopped Post host := by
  refine ensures_perform_bind.mpr ⟨fun hstop => hstop.elim, fun choice hchoice => ?_⟩
  have hsave : host.save journal choice =
      (none, host.noted (.save journal) none { host with journal := some journal }) := by
    have hfailure : choice.failure = none := hchoice
    unfold UpdaterHost.save
    rw [hvalid]
    simp [hfailure, Choice.took]
  show Ensures _ _ _ _ (host.save journal choice).2 (f (host.save journal choice).1)
  rw [hsave]
  exact hnext

theorem succeeding_now {f : Time → Engine α} (hnext : ∀ now, host.clock ≤ now → now < yearTenThousand →
      (f now).Ensures updater succeeding Stopped Post { host with clock := now }) :
    (perform .now >>= f).Ensures updater succeeding Stopped Post host := by
  refine ensures_perform_bind.mpr ⟨fun hstop => hstop.elim, fun choice hchoice => ?_⟩
  exact hnext _ (Nat.le_add_right _ _) hchoice

theorem succeeding_rollback {f : Option String → Engine α}
    (hnext : ∀ next, host.Untouched next → (f none).Ensures updater succeeding Stopped Post
      (host.called (.rollback (pairOf current target) journal) (none, next)).2) :
    (perform (.rollback current target journal) >>= f).Ensures updater succeeding Stopped Post host := by
  refine ensures_perform_bind.mpr ⟨fun hstop => hstop.elim, fun choice hchoice => ?_⟩
  have hrolled : (host.rollback (pairOf current target) journal choice).1 = none := hchoice
  have hnext := hnext _ (host.rollback_untouched (pairOf current target) journal choice)
  rw [← hrolled] at hnext
  exact hnext

/-- A journal with another status, code and times is checked for these alone. -/
theorem validateJournal_changed (h : validateJournal journal = .ok ()) {status : JournalStatus} {code : String}
    {updatedAt completedAt : Option Time} (hcode : code = "" ∨ isJournalErrorCode code = true)
    (htimes : validateTimes { journal with
      status := status, errorCode := code, updatedAt := updatedAt, completedAt := completedAt } = .ok ()) :
    validateJournal { journal with
      status := status, errorCode := code, updatedAt := updatedAt, completedAt := completedAt } = .ok () := by
  rw [validateJournal_eq_ok_iff] at h ⊢
  obtain ⟨hschema, hreleases, -, -, hlength, hstages⟩ := h
  exact ⟨hschema, hreleases, htimes, hcode, hlength, hstages⟩

theorem parseJournalTime_of_le {value : Option Time} {earlier later : Time}
    (h : parseJournalTime value = some earlier) (hle : earlier ≤ later) (hlater : later < yearTenThousand) :
    parseJournalTime (some later) = some later := by
  rw [parseJournalTime_eq_some_iff] at h ⊢
  exact ⟨rfl, fun hzero => h.2.1 (Nat.le_zero.mp (hzero ▸ hle)), hlater⟩

/-- An update in progress is rolled back by the invocation that finds it. -/
theorem recoverInterrupted_succeeds (hvalid : validateJournal journal = .ok ())
    (hopen : journal.status.terminal = false) (hupdated : ∀ time, journal.updatedAt = some time → time ≤ host.clock) :
    (recoverInterrupted current target journal).Ensures updater succeeding (fun _ => False)
      (fun _ next => ∃ undoing ended, undoing.status = .rollingBack ∧ ended.status = .rolledBack ∧
        next.journal = some ended ∧ host.since next =
          [(.save undoing, none), (.rollback (pairOf current target) undoing, none), (.save ended, none)]) host := by
  obtain ⟨startedAt, updatedAt, hstarted, hread, horder, -, hunended⟩ :=
    validateTimes_eq_ok_iff.mp (validateJournal_eq_ok_iff.mp hvalid).2.2.1
  have hclock := hupdated updatedAt (parseJournalTime_eq_some_iff.mp hread).1
  have hlater : startedAt ≤ host.clock := horder.trans hclock
  unfold recoverInterrupted
  refine succeeding_now fun undoneAt hafter hlimit => ?_
  have hundoing : validateJournal { journal with
      status := .rollingBack, errorCode := "interrupted", updatedAt := some undoneAt } = .ok () := by
    apply validateJournal_changed hvalid (.inr (by decide))
    apply validateTimes_eq_ok_iff.mpr
    have hle := hlater.trans hafter
    exact ⟨startedAt, undoneAt, hstarted, parseJournalTime_of_le hstarted hle hlimit, hle, nofun,
      fun _ => hunended hopen⟩
  refine succeeding_save hundoing ?_
  dsimp only
  rw [ensures_bind]
  unfold rollback
  refine succeeding_rollback fun next huntouched => ?_
  refine succeeding_now fun endedAt hafter' hlimit' => ?_
  have hended : validateJournal { journal with
      status := .rolledBack, errorCode := "interrupted", updatedAt := some endedAt, completedAt := some endedAt } =
        .ok () := by
    apply validateJournal_changed hvalid (.inr (by decide))
    apply validateTimes_eq_ok_iff.mpr
    have hclock' : next.clock = undoneAt := huntouched.clock
    have hle : startedAt ≤ endedAt := hlater.trans (hafter.trans (hclock' ▸ hafter'))
    have hparse := parseJournalTime_of_le hstarted hle hlimit'
    exact ⟨startedAt, endedAt, hstarted, hparse, hle, fun _ => ⟨endedAt, hparse, le_rfl⟩, nofun⟩
  refine succeeding_save hended ?_
  refine ⟨{ journal with status := .rollingBack, errorCode := "interrupted", updatedAt := some undoneAt },
    { journal with status := .rolledBack, errorCode := "interrupted", updatedAt := some endedAt, completedAt := some endedAt },
    rfl, rfl, rfl, ?_⟩
  simp [UpdaterHost.since, UpdaterHost.noted, UpdaterHost.called]

/-- An invocation for the releases of an unfinished journal takes it up. -/
theorem apply_eq_recover (hsources : validateSourcePair current target = none)
    (hvalid : validateJournal journal = .ok ()) (hpair : journal.pair = pairOf current target)
    (hunfinished : journal.Unfinished) :
    ∃ f : Except String (Option Journal) → Engine Outcome, apply (current, target) = perform .load >>= f ∧
      f (.ok (some journal)) = recoverInterrupted current target journal := by
  unfold apply
  dsimp only
  rw [hsources]
  refine ⟨_, rfl, ?_⟩
  dsimp only
  rw [hvalid]
  dsimp only
  rw [if_pos (journalMatches_iff.mpr hpair), resumeUpdate]
  rcases hunfinished with hstatus | hstatus | hstatus <;> rw [hstatus]

theorem undoing_refused (hvalid : validateJournal journal = .ok ()) (hfailed : journal.status = .rollbackFailed)
    (now : Option Time) :
    validateJournal { journal with status := .rollingBack, errorCode := "interrupted", updatedAt := now } ≠ .ok () := by
  intro hundoing
  obtain ⟨_, _, _, _, _, hterminal, _⟩ := validateTimes_eq_ok_iff.mp (validateJournal_eq_ok_iff.mp hvalid).2.2.1
  obtain ⟨_, _, _, _, _, _, hunended⟩ := validateTimes_eq_ok_iff.mp (validateJournal_eq_ok_iff.mp hundoing).2.2.1
  obtain ⟨completedAt, hcompleted, -⟩ := hterminal (by rw [hfailed]; rfl)
  have hnone : journal.completedAt = none := hunended rfl
  rw [hnone] at hcompleted
  cases hcompleted

theorem UpdaterHost.save_refused (host : UpdaterHost) (hinvalid : validateJournal journal ≠ .ok ())
    (choice : Choice) :
    ∃ message, host.react (.save journal) choice =
      (some message, host.noted (.save journal) (some message) host) := by
  show ∃ message, host.save journal choice = _
  unfold UpdaterHost.save
  cases hcheck : validateJournal journal with
  | error message => exact ⟨message, rfl⟩
  | ok _ => exact absurd hcheck hinvalid

/-- A save that is refused leaves the journal, and the program learns of it. -/
theorem ensures_save_refused {T : Terms EngineOp UpdaterHost Choice} {f : Option String → Engine α}
    (hstopped : Stopped host) (hinvalid : validateJournal journal ≠ .ok ())
    (hnext : ∀ message, (f (some message)).Ensures updater T Stopped Post
      (host.noted (.save journal) (some message) host)) :
    (perform (.save journal) >>= f).Ensures updater T Stopped Post host := by
  refine Ensures.perform hstopped fun choice _ => ?_
  obtain ⟨message, hsave⟩ := host.save_refused hinvalid choice
  show Ensures _ _ _ _ (host.react (.save journal) choice).2 (f (host.react (.save journal) choice).1)
  rw [hsave]
  exact hnext message

/-- The journal of a failed rollback stays, whatever an invocation is asked for. -/
theorem apply_blocked (request : Source × Source) (hvalid : validateJournal journal = .ok ())
    (hfailed : journal.status = .rollbackFailed) (hjournal : host.journal = some journal) :
    (apply request).Ensures updater .none (fun host => host.journal = some journal)
      (fun _ host => host.journal = some journal) host := by
  have hunfinished : journal.Unfinished := .inr (.inr hfailed)
  have hsame : ∀ saved, host.journal = some saved → saved = journal :=
    fun saved hsaved => some.inj (hsaved.symm.trans hjournal)
  apply apply_ensures hjournal
  · exact fun _ => hjournal
  · exact fun _ => hjournal
  · exact fun _ => hjournal
  · intro _ hended
    exact absurd hunfinished (hended journal hjournal).2
  · intro saved _ hsaved _ _ _
    rw [hsame saved hsaved]
    unfold recoverInterrupted
    refine Ensures.perform hjournal fun choice _ => ?_
    apply ensures_save_refused hjournal (undoing_refused hvalid hfailed _)
    exact fun message => hjournal
  · intro saved hsaved hstatus
    rw [hsame saved hsaved, hfailed] at hstatus
    cases hstatus

theorem not_recovers_of_failed (hsources : validateSourcePair current target = none)
    (hvalid : validateJournal journal = .ok ()) (hpair : journal.pair = pairOf current target)
    (hfailed : journal.status = .rollbackFailed) (hjournal : host.journal = some journal)
    (hclock : host.clock < yearTenThousand) : ¬Recovers host current target := by
  intro hrecovers
  obtain ⟨f, happly, hf⟩ := apply_eq_recover hsources hvalid hpair (.inr (.inr hfailed))
  let choice : Choice := ⟨none, false, 0, 0⟩
  have hwithin : (apply (current, target)).Within updater succeeding host [choice, choice, choice] := by
    rw [happly, Program.within_perform_bind_cons]
    refine ⟨rfl, ?_⟩
    show Program.Within updater succeeding host.opened (f (.ok host.journal)) _
    rw [hjournal, hf]
    unfold recoverInterrupted
    rw [Program.within_perform_bind_cons]
    refine ⟨hclock, ?_⟩
    rw [Program.within_perform_bind_cons]
    refine ⟨rfl, ?_⟩
    obtain ⟨message, hsave⟩ := UpdaterHost.save_refused (host.opened.now choice).2
      (undoing_refused hvalid hfailed (some (host.opened.now choice).1)) choice
    dsimp only [updater, UpdaterHost.react] at hsave ⊢
    rw [hsave]
    trivial
  obtain ⟨undoing, ended, -, hended, hafter, -⟩ := hrecovers _ hwithin
  -- the run leaves the journal as it is
  have hblocked := (apply_blocked (current, target) hvalid hfailed hjournal).run
    (Program.within_none host _ [choice, choice, choice])
  have hkept : ((apply (current, target)).run updater host [choice, choice, choice]).1.journal = some journal := by
    split at hblocked <;> exact hblocked
  rw [hkept, some.injEq] at hafter
  rw [← hafter, hfailed] at hended
  cases hended

theorem recovers_of_open (hsources : validateSourcePair current target = none)
    (hpair : journal.pair = pairOf current target) (hunfinished : journal.Unfinished)
    (hstatus : journal.status ≠ .rollbackFailed) (htimely : host.Timely) (hjournal : host.journal = some journal) :
    Recovers host current target := by
  intro choices hwithin
  have hvalid := htimely.valid journal hjournal
  obtain ⟨f, happly, hf⟩ := apply_eq_recover hsources hvalid hpair hunfinished
  have hopen : journal.status.terminal = false := by
    rcases hunfinished with h | h | h
    · rw [h]; rfl
    · rw [h]; rfl
    · exact absurd h hstatus
  have hensures : (apply (current, target)).Ensures updater succeeding (fun _ => False)
      (fun _ next => ∃ undoing ended, undoing.status = .rollingBack ∧ ended.status = .rolledBack ∧
        next.journal = some ended ∧ host.since next =
          [(.save undoing, none), (.rollback (pairOf current target) undoing, none), (.save ended, none)]) host := by
    rw [happly, ensures_perform_bind]
    refine ⟨fun hstop => hstop, fun choice hchoice => ?_⟩
    have hfailure : choice.failure = none := hchoice
    show Ensures _ _ _ _ (host.load choice).2 (f (host.load choice).1)
    unfold UpdaterHost.load
    rw [hfailure]
    dsimp only
    rw [hjournal, hf]
    exact recoverInterrupted_succeeds hvalid hopen fun time => htimely.updated journal time hjournal
  have hrun := hensures.run hwithin
  split at hrun
  · exact hrun.elim
  · exact hrun

end

namespace UpdateSample

/-- An update that is killed after its first journal. -/
def killed : List ((Source × Source) × List Choice) := [((installed, next), List.replicate 4 passes)]

/-- An update whose first stage fails, and whose rollback fails too. -/
def undone : List ((Source × Source) × List Choice) :=
  [((installed, next), List.replicate 6 passes ++ [fails, passes, passes, fails, passes, passes])]

end UpdateSample

end Stackfort.UpdateApply
