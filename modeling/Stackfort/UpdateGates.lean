import Stackfort.UpdateEngine

/-! An update is recorded as complete only behind its gates, and an update that has not come to an end keeps
every other one out. The log of the host holds one line for each call, with the journal that was on disk;
the lines are sound whatever fails and wherever an invocation is killed. -/

namespace Stackfort.UpdateApply

open Interruption
open Program hiding done

/-- The calls of the runner before an update is complete. -/
def gates (pair : ReleasePair) : List (Act × Option String) :=
  (.preflight pair, none) :: orderedStages.flatMap fun id => [(.apply id pair, none), (.verify id pair, none)]

/-- A line of the log that keeps to the protocol. -/
structure Entry.Sound (entry : Entry) : Prop where
  complete : ∀ journal, entry.act = .save journal → journal.status = .complete → entry.calls = gates journal.pair
  exclusive : ∀ journal, entry.saved = some journal → journal.Unfinished →
    entry.act.pair = journal.pair ∧ ∀ pair, entry.act ≠ .preflight pair
  recovery : ∀ journal, entry.saved = some journal → journal.Unfinished →
    (∃ next, entry.act = .save next) ∨ (∃ used, entry.act = .rollback journal.pair used) ∨
      journal.status = .applying ∧ ∀ found, entry.found = some found → ¬found.Unfinished

variable {stage : StageID} {outcome : Option String × UpdaterHost} {act : Act}

namespace UpdaterHost

variable {host next : UpdaterHost} {pair : ReleasePair} {journal : Journal}

def LogSound (host : UpdaterHost) : Prop := ∀ entry ∈ host.log, entry.Sound

/-- An unfinished journal on disk is about the given releases. -/
structure Working (pair : ReleasePair) (host : UpdaterHost) : Prop where
  log : host.LogSound
  own : ∀ journal, host.journal = some journal → journal.Unfinished → journal.pair = pair

/-- The invocation has not found an unfinished update, and it is not undoing its own. -/
structure Fresh (host : UpdaterHost) : Prop where
  found : ∀ found, host.found = some found → ¬found.Unfinished
  saved : ∀ journal, host.journal = some journal → journal.Unfinished → journal.status = .applying

theorem noted_logSound (failure : Option String) (next : UpdaterHost) (hlog : host.LogSound)
    (hcomplete : ∀ journal, act = .save journal → journal.status = .complete → host.calls = gates journal.pair)
    (hexclusive : ∀ journal, host.journal = some journal → journal.Unfinished → act.pair = journal.pair ∧ ∀ pair, act ≠ .preflight pair)
    (hrecovery : host.Fresh ∨ (∃ next, act = .save next) ∨ ∃ used, act = .rollback act.pair used) :
    (host.noted act failure next).LogSound := by
  refine List.forall_mem_append.mpr ⟨hlog, List.forall_mem_singleton.mpr ⟨hcomplete, hexclusive, ?_⟩⟩
  intro journal hsaved hunfinished
  rcases hrecovery with hfresh | hsave | ⟨used, hused⟩
  · exact .inr (.inr ⟨hfresh.saved journal hsaved hunfinished, hfresh.found⟩)
  · exact .inl hsave
  · refine .inr (.inl ⟨used, ?_⟩)
    rw [← (hexclusive journal hsaved hunfinished).1]
    exact hused

/-! ### The calls

Each rule says what the rest of a program may count on after a call. -/

section

variable {α : Type} {current target : Source} {Post : α → UpdaterHost → Prop}

/-- The log is sound wherever the program is stopped. -/
abbrev KeepsLog (program : Engine α) (Post : α → UpdaterHost → Prop) (host : UpdaterHost) : Prop :=
  program.Ensures updater .none LogSound Post host

theorem Working.now {f : Time → Engine α} (h : host.Working pair)
    (hnext : ∀ now next, next.Working pair → (host.Fresh → next.Fresh) → next.calls = host.calls →
      KeepsLog (f now) Post next) :
    KeepsLog (perform .now >>= f) Post host := by
  refine Ensures.perform h.log fun choice _ => ?_
  exact hnext _ _ ⟨h.log, h.own⟩ (fun hfresh => ⟨hfresh.found, hfresh.saved⟩) rfl

variable {f : Option String → Engine α}

/-- A journal of the same releases may be saved; it is complete only behind the gates. -/
theorem Working.save (h : host.Working pair) (hpair : journal.pair = pair)
    (hcomplete : journal.status = .complete → host.calls = gates pair)
    (hnext : ∀ failure next, next.Working pair → (host.Fresh → (journal.Unfinished → journal.status = .applying) → next.Fresh) → next.calls = host.calls → KeepsLog (f failure) Post next) :
    KeepsLog (perform (.save journal) >>= f) Post host := by
  refine Ensures.perform h.log fun choice _ => ?_
  show KeepsLog (f (host.save journal choice).1) Post (host.save journal choice).2
  obtain ⟨failure, next, heq, hcases⟩ := host.save_cases journal choice
  have hlog : (host.noted (.save journal) failure next).LogSound := by
    apply noted_logSound failure next h.log
    · rintro _ ⟨⟩ hstatus
      rw [hpair]
      exact hcomplete hstatus
    · intro saved hsaved hunfinished
      refine ⟨?_, nofun⟩
      exact hpair.trans (h.own saved hsaved hunfinished).symm
    · exact .inr (.inl ⟨journal, rfl⟩)
  rw [heq]
  rcases hcases with ⟨rfl, -⟩ | ⟨rfl, -⟩
  · exact hnext failure _ ⟨hlog, h.own⟩ (fun hfresh _ => ⟨hfresh.found, hfresh.saved⟩) rfl
  · refine hnext failure _ ⟨hlog, ?_⟩ (fun hfresh happlying => ⟨hfresh.found, ?_⟩) rfl
    · rintro saved hsaved -
      have hsame : journal = saved := some.inj hsaved
      rw [← hsame, hpair]
    · intro saved hsaved
      have hsame : journal = saved := some.inj hsaved
      rw [← hsame]
      exact happlying

/-- A call of the runner for the same releases: any but a preflight where this invocation began the update,
a rollback else. -/
theorem Working.called (h : host.Working pair) (act : Act) (huntouched : host.Untouched outcome.2)
    (hpair : act.pair = pair) (hsave : ∀ journal, act ≠ .save journal) (hpreflight : ∀ pair, act ≠ .preflight pair)
    (hrecovery : host.Fresh ∨ ∃ used, act = .rollback act.pair used) :
    (host.called act outcome).2.Working pair := by
  refine ⟨?_, ?_⟩
  · apply noted_logSound outcome.1 outcome.2 h.log
    · exact fun journal heq => absurd heq (hsave journal)
    · intro saved hsaved hunfinished
      exact ⟨hpair.trans (h.own saved hsaved hunfinished).symm, hpreflight⟩
    · exact hrecovery.imp_right .inr
  · intro saved hsaved
    exact h.own saved (huntouched.journal ▸ hsaved)

theorem Fresh.called (h : host.Fresh) (huntouched : host.Untouched outcome.2) : (host.called act outcome).2.Fresh := by
  refine ⟨fun found hfound => ?_, fun saved hsaved => ?_⟩
  · exact h.found found (huntouched.found ▸ hfound)
  · exact h.saved saved (huntouched.journal ▸ hsaved)

section

variable (h : host.Working (pairOf current target))

include h

theorem Working.rollback
    (hnext : ∀ failure next, next.Working (pairOf current target) → KeepsLog (f failure) Post next) :
    KeepsLog (perform (.rollback current target journal) >>= f) Post host := by
  refine Ensures.perform h.log fun choice _ => hnext _ _ ?_
  exact h.called (.rollback (pairOf current target) journal) (host.rollback_untouched _ _ choice) rfl
    nofun nofun (.inr ⟨journal, rfl⟩)

theorem Working.apply (hfresh : host.Fresh)
    (hnext : ∀ failure next, next.Working (pairOf current target) → next.Fresh → next.calls = host.calls ++ [(.apply stage (pairOf current target), failure)] → KeepsLog (f failure) Post next) :
    KeepsLog (perform (.apply stage current target) >>= f) Post host := by
  refine Ensures.perform h.log fun choice _ => ?_
  have huntouched := host.apply_untouched stage (pairOf current target) choice
  refine hnext _ _ ?_ (hfresh.called huntouched) rfl
  exact h.called (.apply stage (pairOf current target)) huntouched rfl nofun
    nofun (.inl hfresh)

theorem Working.verify (hfresh : host.Fresh)
    (hnext : ∀ failure next, next.Working (pairOf current target) → next.Fresh → next.calls = host.calls ++ [(.verify stage (pairOf current target), failure)] → KeepsLog (f failure) Post next) :
    KeepsLog (perform (.verify stage current target) >>= f) Post host := by
  refine Ensures.perform h.log fun choice _ => ?_
  have huntouched := host.verify_untouched stage (pairOf current target) choice
  refine hnext _ _ ?_ (hfresh.called huntouched) rfl
  exact h.called (.verify stage (pairOf current target)) huntouched rfl nofun
    nofun (.inl hfresh)

end

/-- A preflight is made while no update is unfinished. -/
theorem LogSound.preflight (h : host.LogSound) (hnone : ∀ journal, host.journal = some journal → ¬journal.Unfinished)
    (hfresh : host.Fresh)
    (hnext : ∀ failure next, next.Working (pairOf current target) → next.Fresh → next.calls = host.calls ++ [(.preflight (pairOf current target), failure)] → KeepsLog (f failure) Post next) :
    KeepsLog (perform (.preflight current target) >>= f) Post host := by
  refine Ensures.perform h fun choice _ => ?_
  have huntouched := host.preflight_untouched (pairOf current target) choice
  refine hnext _ _ ⟨?_, ?_⟩ (hfresh.called huntouched) rfl
  · apply noted_logSound _ _ h
    · nofun
    · exact fun journal hsaved hunfinished => absurd hunfinished (hnone journal hsaved)
    · exact .inl hfresh
  · intro journal hsaved hunfinished
    exact absurd hunfinished (hnone journal (huntouched.journal ▸ hsaved))

end

end UpdaterHost

/-! ### The programs -/

section

variable {host : UpdaterHost} {current target : Source} {journal : Journal}

open UpdaterHost

section

variable (h : host.Working (pairOf current target)) (hpair : journal.pair = pairOf current target)

include h hpair

/-- A rollback speaks about its own releases only. -/
theorem rollback_logSound :
    KeepsLog (rollback current target journal) (fun _ => LogSound) host := by
  unfold rollback
  refine h.rollback fun failure next h => ?_
  refine h.now fun now next h _ _ => ?_
  refine h.save hpair ?_ fun saveFailure next h _ _ => h.log
  intro hstatus
  dsimp only at hstatus
  split at hstatus <;> cases hstatus

theorem abandon_logSound (errors : List (Option String)) :
    KeepsLog (abandon current target journal errors) (fun _ => LogSound) host := by
  exact (rollback_logSound h hpair).bind fun _ _ h => h

theorem recoverInterrupted_logSound :
    KeepsLog (recoverInterrupted current target journal) (fun _ => LogSound) host := by
  unfold recoverInterrupted
  refine h.now fun now next h _ _ => ?_
  refine h.save hpair nofun fun failure next h _ _ => ?_
  cases failure with
  | some message => exact h.log
  | none =>
    dsimp only
    refine (rollback_logSound h ?_).bind fun _ _ h => h
    exact hpair

end

/-- The calls of an update whose first stages are done. -/
def passed (pair : ReleasePair) (done : List StageID) : List (Act × Option String) :=
  (.preflight pair, none) :: done.flatMap fun id => [(.apply id pair, none), (.verify id pair, none)]

theorem passed_append (pair : ReleasePair) (done : List StageID) (id : StageID) :
    passed pair (done ++ [id]) = passed pair done ++ [(.apply id pair, none)] ++ [(.verify id pair, none)] := by
  unfold passed
  rw [List.flatMap_append]
  simp

/-- A stage that is applied and verified without an error adds its two calls. -/
theorem applyAndVerify_working {done : List StageID} (h : host.Working (pairOf current target)) (hfresh : host.Fresh)
    (hcalls : host.calls = passed (pairOf current target) done) :
    KeepsLog (applyAndVerify stage current target)
      (fun failure host => host.Working (pairOf current target) ∧ host.Fresh ∧
        (failure = none → host.calls = passed (pairOf current target) (done ++ [stage]))) host := by
  unfold applyAndVerify
  refine h.apply hfresh fun failure next h hfresh hcalls' => ?_
  cases failure with
  | some message => exact ⟨h, hfresh, nofun⟩
  | none =>
    refine h.verify hfresh fun failure next h hfresh hcalls'' => ?_
    refine ⟨h, hfresh, ?_⟩
    rintro rfl
    rw [hcalls'', hcalls', hcalls, passed_append]

theorem abandon_error_logSound {Post : Except Outcome Journal → UpdaterHost → Prop}
    (h : host.Working (pairOf current target)) (hpair : journal.pair = pairOf current target)
    (errors : List (Option String)) (hpost : ∀ outcome host, host.LogSound → Post (.error outcome) host) :
    KeepsLog (abandon current target journal errors >>= fun outcome => pure (.error outcome))
      Post host := by
  exact (abandon_logSound h hpair errors).bind hpost

/-- The loop comes to its end only through every stage. -/
theorem applyStages_working (rest : List StageState) :
    ∀ (done : List StageState) (journal : Journal) (host : UpdaterHost), host.Working (pairOf current target) →
      host.Fresh → host.calls = passed (pairOf current target) (done.map StageState.id) →
      journal.pair = pairOf current target → journal.status = .applying →
      KeepsLog (applyStages current target done rest journal)
        (fun result host => match result with
          | .error _ => host.LogSound
          | .ok journal => host.Working (pairOf current target) ∧ journal.pair = pairOf current target ∧
              host.calls = passed (pairOf current target) ((done ++ rest).map StageState.id)) host := by
  induction rest with
  | nil =>
    intro done journal host h _ hcalls hpair _
    refine ⟨h, hpair, ?_⟩
    rw [List.append_nil]
    exact hcalls
  | cons stage rest ih =>
    intro done journal host h hfresh hcalls hpair hstatus
    have hopen : journal.status ≠ .complete := by rw [hstatus]; nofun
    unfold applyStages
    refine h.now fun started next h hfresh₁ hcalls₁ => ?_
    refine h.save hpair (fun heq => absurd heq hopen) fun failure next' h hfresh₂ hcalls₂ => ?_
    have hfresh := hfresh₂ (hfresh₁ hfresh) fun _ => hstatus
    cases failure with
    | some message =>
      refine abandon_error_logSound h ?_ _ ?_
      · exact hpair
      · exact fun _ _ h => h
    | none =>
      refine (applyAndVerify_working h hfresh (hcalls₂.trans (hcalls₁.trans hcalls))).bind ?_
      rintro failure host ⟨h, hfresh, hpassed⟩
      cases failure with
      | some message =>
        refine h.now fun failed next h _ _ => ?_
        refine h.save hpair nofun fun failure next h _ _ => ?_
        refine abandon_error_logSound h ?_ _ ?_
        · exact hpair
        · exact fun _ _ h => h
      | none =>
        refine h.now fun completed next h hfresh₁ hcalls => ?_
        refine h.save hpair (fun heq => absurd heq hopen) fun failure next h hfresh₂ hcalls' => ?_
        cases failure with
        | some message =>
          refine abandon_error_logSound h ?_ _ ?_
          · exact hpair
          · exact fun _ _ h => h
        | none =>
          -- the stage has joined those that are done
          dsimp only
          refine (ih _ _ next h (hfresh₂ (hfresh₁ hfresh) fun _ => hstatus) ?_ ?_ ?_).mono (fun _ h => h) ?_
          · rw [List.map_append, hcalls', hcalls, hpassed rfl]
            rfl
          · exact hpair
          · exact hstatus
          · intro result host hend
            rw [List.append_assoc, List.singleton_append, List.map_append] at hend
            rw [List.map_append]
            exact hend

theorem commit_logSound (h : host.Working (pairOf current target)) (hpair : journal.pair = pairOf current target)
    (hcalls : host.calls = gates (pairOf current target)) :
    KeepsLog (commit current target journal) (fun _ => LogSound) host := by
  unfold commit
  refine h.now fun now next h _ hcalls' => ?_
  refine h.save hpair (fun _ => hcalls'.trans hcalls) fun failure next h _ _ => ?_
  cases failure with
  | some message =>
    refine abandon_logSound h ?_ _
    exact hpair
  | none => exact h.log

theorem beginUpdate_logSound (h : host.LogSound)
    (hnone : ∀ journal, host.journal = some journal → ¬journal.Unfinished) (hfresh : host.Fresh)
    (hcalls : host.calls = []) :
    KeepsLog (beginUpdate current target) (fun _ => LogSound) host := by
  unfold beginUpdate
  refine h.preflight hnone hfresh fun failure next h hfresh hcalls₁ => ?_
  cases failure with
  | some message => exact h.log
  | none =>
    refine h.now fun now next h hfresh₁ hcalls₂ => ?_
    refine h.save rfl nofun fun failure next h hfresh₂ hcalls₃ => ?_
    cases failure with
    | some message => exact h.log
    | none =>
      have hstart : next.calls = passed (pairOf current target) [] := by
        rw [hcalls₃, hcalls₂, hcalls₁, hcalls]
        rfl
      have hfresh := hfresh₂ (hfresh₁ hfresh) fun _ => rfl
      refine (applyStages_working _ [] _ next h hfresh hstart rfl rfl).bind fun result host hend => ?_
      cases result with
      | error outcome => exact hend
      | ok journal => exact commit_logSound hend.1 hend.2.1 hend.2.2

theorem apply_logSound (request : Source × Source) (h : host.LogSound) :
    KeepsLog (apply request) (fun _ => LogSound) host := by
  apply apply_ensures h
  · exact fun _ => h
  · exact fun _ => h
  · exact fun _ => h
  · intro _ hended
    have hopened : host.opened.LogSound := h
    apply beginUpdate_logSound hopened
    · exact fun journal hsaved => (hended journal hsaved).2
    · refine ⟨fun found hfound => (hended found hfound).2, fun saved hsaved hunfinished => ?_⟩
      exact absurd hunfinished (hended saved hsaved).2
    · rfl
  · intro journal _ hjournal _ hpair _
    refine recoverInterrupted_logSound ⟨h, fun saved hsaved _ => ?_⟩ hpair
    rw [← some.inj (hjournal.symm.trans hsaved), hpair]
  · intro journal hjournal hstatus
    have hended : ∀ saved, host.journal = some saved → ¬saved.Unfinished := by
      intro saved hsaved
      rw [← some.inj (hjournal.symm.trans hsaved)]
      simp [Journal.Unfinished, hstatus]
    have hworking : host.opened.Working (pairOf request.1 request.2) :=
      ⟨h, fun saved hsaved hunfinished => absurd hunfinished (hended saved hsaved)⟩
    rw [resumeUpdate, hstatus]
    have hfresh : host.opened.Fresh :=
      ⟨hended, fun saved hsaved hunfinished => absurd hunfinished (hended saved hsaved)⟩
    refine hworking.verify hfresh fun failure next h _ _ => ?_
    cases failure with
    | some | none => exact h.log

/-- Over any invocations, for any releases and killed anywhere: a complete journal is saved only behind all
gates, and an unfinished one on disk keeps out all calls for other releases, all preflights, and all calls
of the runner but rollbacks of its own releases and the stages of the invocation that began it. -/
theorem update_gates (host : UpdaterHost) (requests : List ((Source × Source) × List Choice)) :
    ∀ entry ∈ (serve updater apply { host with log := [] } requests).log, entry.Sound := by
  apply serve_invariant (fun host request h => apply_logSound request h) ?_ (servedWithin_none _ requests)
  intro entry hentry
  cases hentry

open UpdateSample in
/-- An update that reads its journal, finds none and passes the preflight. -/
theorem update_gates_preflight : ∃ entry ∈ (serve updater apply { untouched with log := [] }
        [((installed, next), List.replicate 2 passes)]).log, entry.failure = none ∧ entry.Sound := by
  have hmem : (⟨.preflight ⟨"1.0.0", installed.digest, "1.1.0", next.digest⟩, none, none, none, [], 0, false, none,
      0⟩ : Entry) ∈ (serve updater apply { untouched with log := [] }
        [((installed, next), List.replicate 2 passes)]).log := by decide +kernel
  exact ⟨_, hmem, rfl, update_gates _ _ _ hmem⟩

end

end Stackfort.UpdateApply
