import Stackfort.UpdateEngine

/-! The snapshot of the database. `Rollback` restores it where the stages of its journal say so: the stage that
takes it is applying or complete, or a later one has begun. The stage is recorded as applying before the
snapshot is published, so a process that is killed between the two, or a journal that could not be
written there, leads to a rollback that wants a snapshot that is not there. Apart from that, every
rollback that wants one finds the one of its own attempt, and wants it whenever the database may have
been touched. -/

namespace Stackfort.UpdateApply

open Interruption List
open Program hiding done

/-- The stage that takes the snapshot is recorded as applying. -/
def Journal.backingUp (journal : Journal) : Bool :=
  journal.stages.any fun stage => decide (stage.id = .backupState ∧ stage.status = .applying)

namespace UpdaterHost

/-- There is the snapshot of the current attempt. -/
def Taken (host : UpdaterHost) (digest : String) : Prop :=
  ∃ snapshot, host.snapshots digest = some snapshot ∧ snapshot.attempt = host.attempts

/-- A rollback with this journal finds what it wants, and wants it where the database may have changed. -/
structure Covered (host : UpdaterHost) (journal : Journal) : Prop where
  snapshot : rollbackRequiresBackup journal = true → host.Taken journal.targetDigest
  migrated : host.migrated = true → rollbackRequiresBackup journal = true

/-- The journal says that the snapshot is being taken, and there is none. -/
def Lacks (host : UpdaterHost) (journal : Journal) : Prop :=
  journal.backingUp = true ∧ host.snapshots journal.targetDigest = none

/-- The unfinished journal on disk lacks its snapshot. -/
def Exposed (host : UpdaterHost) : Prop :=
  ∃ journal, host.journal = some journal ∧ journal.Unfinished ∧ host.Lacks journal

instance (host : UpdaterHost) (journal : Journal) : Decidable (host.Lacks journal) :=
  inferInstanceAs (Decidable (_ ∧ _))

instance (host : UpdaterHost) : Decidable host.Exposed :=
  decidable_of_iff (host.journal.any (fun journal => decide (journal.Unfinished ∧ host.Lacks journal)) = true) <| by
    unfold Exposed
    cases host.journal <;> simp

end UpdaterHost

/-- The process is not killed, and no journal is lost, while the journal on disk lacks its snapshot; and the
journal that first does is written. -/
def careful : Terms EngineOp UpdaterHost Choice where
  choice := fun host op choice =>
    match op with
    | .save journal => host.Exposed ∨ host.Lacks journal → (host.save journal choice).1 = none
    | _ => True
  stop := fun host => ¬host.Exposed

instance {β : Type} (host : UpdaterHost) (op : EngineOp β) (choice : Choice) :
    Decidable (careful.choice host op choice) :=
  match op with
  | .save journal => inferInstanceAs (Decidable (host.Exposed ∨ host.Lacks journal → (host.save journal choice).1 = none))
  | .load => .isTrue trivial
  | .preflight _ _ => .isTrue trivial
  | .apply _ _ _ => .isTrue trivial
  | .verify _ _ _ => .isTrue trivial
  | .rollback _ _ _ => .isTrue trivial
  | .now => .isTrue trivial

instance (host : UpdaterHost) : Decidable (careful.stop host) := inferInstanceAs (Decidable (¬host.Exposed))

/-- A rollback in the log. -/
structure Entry.Restores (entry : Entry) (journal : Journal) : Prop where
  snapshot : rollbackRequiresBackup journal = true →
    ∃ snapshot, entry.snapshot = some snapshot ∧ snapshot.attempt = entry.attempt
  migrated : entry.migrated = true → rollbackRequiresBackup journal = true ∧
    (entry.failure = none → ∃ snapshot, entry.snapshot = some snapshot ∧ snapshot.attempt = entry.attempt ∧
      entry.database = snapshot.content)

section

variable {digest : String} {host next : UpdaterHost} {current target : Source} {journal : Journal}
  {done rest : List StageState} {stage : StageState} {α : Type} {Post : α → UpdaterHost → Prop}
  {f : Option String → Engine α}

namespace UpdaterHost

def LogCovered (host : UpdaterHost) : Prop :=
  ∀ entry ∈ host.log, ∀ pair journal, entry.act = .rollback pair journal → entry.Restores journal

/-- What holds between invocations. -/
structure Settled (host : UpdaterHost) : Prop where
  log : host.LogCovered
  disk : ∀ journal, host.journal = some journal → journal.Unfinished → host.Covered journal

/-- What holds within one. -/
structure Guarded (host : UpdaterHost) : Prop where
  log : host.LogCovered
  disk : ∀ journal, host.journal = some journal → journal.Unfinished → host.Covered journal ∨ host.Lacks journal

theorem Settled.guarded (h : host.Settled) : host.Guarded :=
  ⟨h.log, fun journal hjournal hunfinished => .inl (h.disk journal hjournal hunfinished)⟩

theorem Guarded.settled (h : host.Guarded) (hexposed : ¬host.Exposed) : host.Settled := by
  refine ⟨h.log, fun journal hjournal hunfinished => ?_⟩
  rcases h.disk journal hjournal hunfinished with hcovered | hlacks
  · exact hcovered
  · exact absurd ⟨journal, hjournal, hunfinished, hlacks⟩ hexposed

/-- What a journal may count on is the same in both. -/
structure Alike (host next : UpdaterHost) : Prop where
  snapshots : next.snapshots = host.snapshots
  attempts : next.attempts = host.attempts
  migrated : next.migrated = host.migrated

theorem Alike.trans {last : UpdaterHost} (h : host.Alike next) (h' : next.Alike last) : host.Alike last :=
  ⟨h'.snapshots.trans h.snapshots, h'.attempts.trans h.attempts, h'.migrated.trans h.migrated⟩

theorem Taken.alike (h : host.Taken digest) (halike : host.Alike next) : next.Taken digest := by
  unfold Taken at h ⊢
  rwa [halike.snapshots, halike.attempts]

theorem Covered.alike (h : host.Covered journal) (halike : host.Alike next) : next.Covered journal :=
  ⟨fun hrequired => (h.snapshot hrequired).alike halike, fun hmigrated => h.migrated (halike.migrated ▸ hmigrated)⟩

theorem Lacks.alike (h : host.Lacks journal) (halike : host.Alike next) : next.Lacks journal :=
  ⟨h.1, by rw [halike.snapshots]; exact h.2⟩

theorem Settled.alike (h : host.Settled) (hlog : next.LogCovered) (hjournal : next.journal = host.journal)
    (halike : host.Alike next) : next.Settled :=
  ⟨hlog, fun journal hsaved hunfinished => (h.disk journal (hjournal ▸ hsaved) hunfinished).alike halike⟩

theorem Guarded.alike (h : host.Guarded) (hlog : next.LogCovered) (hjournal : next.journal = host.journal)
    (halike : host.Alike next) : next.Guarded := by
  refine ⟨hlog, fun journal hsaved hunfinished => ?_⟩
  exact (h.disk journal (hjournal ▸ hsaved) hunfinished).imp (·.alike halike) (·.alike halike)

section

variable (h : host.LogCovered) (act : Act) (hact : ∀ pair journal, act ≠ .rollback pair journal)

include h act hact

theorem LogCovered.noted (failure : Option String) (next : UpdaterHost) : (host.noted act failure next).LogCovered :=
  forall_mem_append.mpr ⟨h, forall_mem_singleton.mpr fun pair journal hrollback => absurd hrollback (hact pair journal)⟩

/-- A call of the runner that is no rollback. -/
theorem LogCovered.called (outcome : Option String × UpdaterHost) : (host.called act outcome).2.LogCovered :=
  h.noted act hact outcome.1 outcome.2

end

/-! ### The rules -/

section

variable {α : Type} {Post : α → UpdaterHost → Prop} {f : Option String → Engine α}

/-- The disk is settled wherever the program is stopped. -/
abbrev KeepsSettled (program : Engine α) (Post : α → UpdaterHost → Prop) (host : UpdaterHost) : Prop :=
  program.Ensures updater careful Settled Post host

theorem Guarded.step {β : Type} {op : EngineOp β} {f : β → Engine α} (h : host.Guarded)
    (hnext : ∀ choice, careful.choice host op choice →
      KeepsSettled (f (host.react op choice).1) Post (host.react op choice).2) :
    KeepsSettled (perform op >>= f) Post host :=
  ensures_perform_bind.mpr ⟨h.settled, hnext⟩

theorem Guarded.now {f : Time → Engine α} (h : host.Guarded)
    (hnext : ∀ now next, next.Guarded → (host.Settled → next.Settled) → host.Alike next → next.journal = host.journal →
      KeepsSettled (f now) Post next) :
    KeepsSettled (perform .now >>= f) Post host := by
  refine h.step fun choice _ => ?_
  have halike : host.Alike (host.now choice).2 := ⟨rfl, rfl, rfl⟩
  exact hnext _ _ (h.alike h.log rfl halike) (fun hsettled => hsettled.alike h.log rfl halike) halike rfl

/-- A journal that is covered may be saved: it, or the one before it, is on disk and covered. -/
theorem Guarded.save (h : host.Guarded)
    (hcovered : journal.Unfinished → host.Covered journal)
    (hnext : ∀ failure next, next.Settled → host.Alike next → (failure = none → next.journal = some journal) →
      KeepsSettled (f failure) Post next) :
    KeepsSettled (perform (.save journal) >>= f) Post host := by
  refine h.step fun choice hchoice => ?_
  have hwritten : host.Exposed → (host.save journal choice).1 = none := fun hexposed => hchoice (.inl hexposed)
  show KeepsSettled (f (host.save journal choice).1) Post (host.save journal choice).2
  obtain ⟨failure, next, heq, hcases⟩ := host.save_cases journal choice
  rw [heq] at hwritten ⊢
  have hlog : (host.noted (.save journal) failure next).LogCovered :=
    h.log.noted (.save journal) nofun failure next
  rcases hcases with ⟨rfl, hfailed⟩ | ⟨rfl, -⟩
  · have hexposed : ¬next.Exposed := by
      intro hexposed
      have hnone : failure = none := hwritten hexposed
      rw [hnone] at hfailed
      cases hfailed
    have halike : next.Alike (next.noted (.save journal) failure next) := ⟨rfl, rfl, rfl⟩
    refine hnext failure _ ((h.settled hexposed).alike hlog rfl halike) halike fun hnone => ?_
    rw [hnone] at hfailed
    cases hfailed
  · refine hnext failure _ ⟨hlog, ?_⟩ ⟨rfl, rfl, rfl⟩ fun _ => rfl
    intro saved hsaved hunfinished
    have hsame : journal = saved := some.inj hsaved
    rw [← hsame] at hunfinished ⊢
    obtain ⟨hsnapshot, hmigrated⟩ := hcovered hunfinished
    exact ⟨hsnapshot, hmigrated⟩

/-- The journal that first lacks its snapshot is written. -/
theorem Settled.start (h : host.Settled) (hlacks : host.Lacks journal)
    (hnext : ∀ next, next.LogCovered → next.journal = some journal → host.Alike next →
      KeepsSettled (f none) Post next) :
    KeepsSettled (perform (.save journal) >>= f) Post host := by
  refine h.guarded.step fun choice hchoice => ?_
  have hwritten : (host.save journal choice).1 = none := hchoice (.inr hlacks)
  show KeepsSettled (f (host.save journal choice).1) Post (host.save journal choice).2
  obtain ⟨failure, next, heq, hcases⟩ := host.save_cases journal choice
  rw [heq] at hwritten ⊢
  have hnone : failure = none := hwritten
  subst hnone
  rcases hcases with ⟨-, hfailed⟩ | ⟨rfl, -⟩
  · cases hfailed
  · exact hnext _ (h.log.noted (.save journal) nofun none _) rfl ⟨rfl, rfl, rfl⟩

/-- A journal that is covered, or lacks a snapshot that is about to be taken. -/
theorem Settled.save (h : host.Settled)
    (hjournal : host.Covered journal ∨ host.Lacks journal)
    (hfails : ∀ message next, host.Covered journal → next.Settled → host.Alike next →
      KeepsSettled (f (some message)) Post next)
    (hpasses : ∀ next, next.LogCovered → next.journal = some journal → host.Alike next →
      KeepsSettled (f none) Post next) :
    KeepsSettled (perform (.save journal) >>= f) Post host := by
  rcases hjournal with hcovered | hlacks
  · refine h.guarded.save (fun _ => hcovered) fun failure next hnext halike hwritten => ?_
    cases failure with
    | some message => exact hfails message next hcovered hnext halike
    | none => exact hpasses next hnext.log (hwritten rfl) halike
  · exact h.start hlacks hpasses

theorem Guarded.verify {stage : StageID} (h : host.Guarded)
    (hnext : ∀ failure next, next.LogCovered → next.journal = host.journal → host.Alike next →
      KeepsSettled (f failure) Post next) :
    KeepsSettled (perform (.verify stage current target) >>= f) Post host := by
  refine h.step fun choice _ => ?_
  have hsame := host.verify_eq_host stage (pairOf current target) choice
  refine hnext _ _ (h.log.called (.verify stage (pairOf current target)) nofun _) ?_ ⟨?_, ?_, ?_⟩
  · show (host.verify stage (pairOf current target) choice).2.journal = host.journal
    rw [hsame]
  · show (host.verify stage (pairOf current target) choice).2.snapshots = host.snapshots
    rw [hsame]
  · show (host.verify stage (pairOf current target) choice).2.attempts = host.attempts
    rw [hsame]
  · show (host.verify stage (pairOf current target) choice).2.migrated = host.migrated
    rw [hsame]

theorem Settled.rollback (h : host.Settled) (hcovered : host.Covered journal)
    (hpair : journal.pair = pairOf current target)
    (hnext : ∀ failure next, next.Settled → host.Alike next → KeepsSettled (f failure) Post next) :
    KeepsSettled (perform (.rollback current target journal) >>= f) Post host := by
  refine h.guarded.step fun choice _ => ?_
  have hdigest : journal.targetDigest = (pairOf current target).targetDigest := congrArg ReleasePair.targetDigest hpair
  have hjournal := (host.rollback_untouched (pairOf current target) journal choice).journal
  have halike : host.Alike (host.rollback (pairOf current target) journal choice).2 := by
    unfold UpdaterHost.rollback
    split
    · split <;> exact ⟨rfl, rfl, rfl⟩
    · exact ⟨rfl, rfl, rfl⟩
  have hrestored : rollbackRequiresBackup journal = true →
      (host.rollback (pairOf current target) journal choice).1 = none →
      ∀ snapshot, host.snapshots journal.targetDigest = some snapshot →
        (host.rollback (pairOf current target) journal choice).2.database = snapshot.content := by
    intro hrequired hsuccess snapshot hsnapshot
    rw [hdigest] at hsnapshot
    unfold UpdaterHost.rollback at hsuccess ⊢
    rw [if_pos hrequired, hsnapshot] at hsuccess ⊢
    have htook : choice.took = true := by
      have hnone : choice.failure = none := hsuccess
      simp [Choice.took, hnone]
    dsimp only
    rw [if_pos htook]
  have hlog : (host.called (.rollback (pairOf current target) journal)
      (host.rollback (pairOf current target) journal choice)).2.LogCovered := by
    refine forall_mem_append.mpr ⟨h.log, forall_mem_singleton.mpr fun pair used hused => ?_⟩
    · cases hused
      refine ⟨fun hrequired => ?_, fun hmigrated => ⟨hcovered.migrated hmigrated, fun hsuccess => ?_⟩⟩
      · obtain ⟨snapshot, hsnapshot, hattempt⟩ := hcovered.snapshot hrequired
        exact ⟨snapshot, hdigest ▸ hsnapshot, hattempt⟩
      · have hrequired := hcovered.migrated hmigrated
        obtain ⟨snapshot, hsnapshot, hattempt⟩ := hcovered.snapshot hrequired
        exact ⟨snapshot, hdigest ▸ hsnapshot, hattempt, hrestored hrequired hsuccess snapshot hsnapshot⟩
  have halike' : host.Alike (host.called (.rollback (pairOf current target) journal)
      (host.rollback (pairOf current target) journal choice)).2 := ⟨halike.snapshots, halike.attempts, halike.migrated⟩
  exact hnext _ _ (h.alike hlog hjournal halike') halike'

end

end UpdaterHost

/-! ### The stages of a journal -/

/-- The stages before the one at hand are complete, and those after it have not begun. -/
structure Placed (done : List StageState) (stage : StageState) (rest : List StageState) : Prop where
  ids : (done ++ stage :: rest).map StageState.id = orderedStages
  complete : ∀ earlier ∈ done, earlier.status = .complete
  pending : ∀ later ∈ rest, later.status = .pending

theorem rollbackRequiresBackup_iff :
    rollbackRequiresBackup journal = true ↔
      (∃ stage ∈ journal.stages, stage.id = .backupState ∧ (stage.status = .applying ∨ stage.status = .complete)) ∨
      ∃ place stage, journal.stages[place]? = some stage ∧ 1 < place ∧ stage.status ≠ .pending := by
  unfold rollbackRequiresBackup
  have hindex : orderedStages.idxOf StageID.backupState = 1 := by decide
  rw [any_eq_true, hindex]
  constructor
  · rintro ⟨⟨stage, place⟩, hmem, htest⟩
    have hat := mem_zipIdx_iff_getElem?.mp hmem
    simp only [or_eq_true, and_eq_true, decide_eq_true_eq] at htest
    rcases htest with hbackup | hlater
    · exact .inl ⟨stage, mem_of_getElem? hat, hbackup⟩
    · exact .inr ⟨place, stage, hat, hlater⟩
  · rintro (⟨stage, hmem, hbackup⟩ | ⟨place, stage, hat, hlater⟩)
    · obtain ⟨place, hat⟩ := mem_iff_getElem?.mp hmem
      refine ⟨(stage, place), mem_zipIdx_iff_getElem?.mpr hat, ?_⟩
      simp only [or_eq_true, and_eq_true, decide_eq_true_eq]
      exact .inl hbackup
    · refine ⟨(stage, place), mem_zipIdx_iff_getElem?.mpr hat, ?_⟩
      simp only [or_eq_true, and_eq_true, decide_eq_true_eq]
      exact .inr hlater

namespace Placed

section

variable (h : Placed done stage rest)

include h

theorem id_eq : orderedStages[done.length]? = some stage.id := by
  rw [← h.ids]
  simp

theorem length_lt : done.length < 8 := by
  have hlength := congrArg List.length h.ids
  simp [orderedStages] at hlength
  omega

theorem backup_iff : stage.id = .backupState ↔ done.length = 1 := by
  have hplaces : ∀ place < 8, orderedStages[place]? = some .backupState ↔ place = 1 := by decide
  rw [← hplaces done.length h.length_lt, h.id_eq, some.injEq]

theorem onDatabase (hstage : stage.id.onDatabase = true) : 2 ≤ done.length := by
  have hplaces : ∀ place < 8, (orderedStages[place]?).map StageID.onDatabase = some true → 2 ≤ place := by decide
  apply hplaces done.length h.length_lt
  rw [h.id_eq, Option.map_some, hstage]

/-- The stage that takes the snapshot is the second one. -/
theorem mem_backup_done (hlength : 2 ≤ done.length) : ∃ earlier ∈ done, earlier.id = .backupState := by
  have hbackup : orderedStages[1]? = some StageID.backupState := by decide
  rw [← h.ids, List.getElem?_map, List.getElem?_append_left (by omega)] at hbackup
  obtain ⟨earlier, hat, hid⟩ := Option.map_eq_some_iff.mp hbackup
  exact ⟨earlier, mem_of_getElem? hat, hid⟩

theorem two_le_of_mem {earlier : StageState} (hearlier : earlier ∈ done) (hid : earlier.id = .backupState) :
    2 ≤ done.length := by
  obtain ⟨place, hat⟩ := mem_iff_getElem?.mp hearlier
  have hlt : place < done.length := (List.getElem?_eq_some_iff.mp hat).1
  have hplaces : ∀ place < 8, orderedStages[place]? = some .backupState ↔ place = 1 := by decide
  have hplace := (hplaces place (hlt.trans h.length_lt)).mp (by
    rw [← h.ids, List.getElem?_map, List.getElem?_append_left hlt, hat, Option.map_some, hid])
  omega

/-- When a rollback wants the snapshot, by the place and the status of the stage at hand. -/
theorem requires_iff (hstages : journal.stages = done ++ stage :: rest) :
    rollbackRequiresBackup journal = true ↔
      2 ≤ done.length ∨ done.length = 1 ∧ (stage.status = .applying ∨ stage.status = .complete) := by
  rw [rollbackRequiresBackup_iff, hstages]
  constructor
  · rintro (⟨found, hfound, hid, hstatus⟩ | ⟨place, found, hat, hplace, hstatus⟩)
    · rcases mem_append.mp hfound with hearlier | hlater
      · exact .inl (h.two_le_of_mem hearlier hid)
      · rcases mem_cons.mp hlater with rfl | hlater
        · exact .inr ⟨h.backup_iff.mp hid, hstatus⟩
        · rw [h.pending found hlater] at hstatus
          rcases hstatus with hstatus | hstatus <;> cases hstatus
    · by_contra hnot
      rw [not_or, not_le] at hnot
      have hlater : found ∈ rest := by
        rw [List.getElem?_append_right (by omega), List.getElem?_cons] at hat
        rw [if_neg (by omega)] at hat
        exact mem_of_getElem? hat
      exact hstatus (h.pending found hlater)
  · rintro (hlength | ⟨hlength, hstatus⟩)
    · obtain ⟨earlier, hearlier, hid⟩ := h.mem_backup_done hlength
      exact .inl ⟨earlier, mem_append_left _ hearlier, hid, .inr (h.complete earlier hearlier)⟩
    · exact .inl ⟨stage, mem_append_right _ mem_cons_self, h.backup_iff.mpr hlength, hstatus⟩

end

end Placed

/-! ### One stage -/

namespace UpdaterHost

variable {place : Nat}

/-- What has happened when the stage of a place is applied: the second stage takes the snapshot, and the
database is touched after that. -/
structure Standing (host : UpdaterHost) (digest : String) (place : Nat) : Prop where
  first : place = 0 → host.snapshots digest = none
  early : place ≤ 1 → host.migrated = false
  backup : place = 1 → host.snapshots digest = none ∨ host.Taken digest
  late : 2 ≤ place → host.Taken digest

theorem Standing.alike (h : host.Standing digest place) (halike : host.Alike next) : next.Standing digest place := by
  refine ⟨fun hplace => ?_, fun hplace => ?_, fun hplace => ?_, fun hplace => (h.late hplace).alike halike⟩
  · rw [halike.snapshots]
    exact h.first hplace
  · rw [halike.migrated]
    exact h.early hplace
  · rw [halike.snapshots]
    exact (h.backup hplace).imp_right (·.alike halike)

theorem Standing.succ (h : host.Standing digest place) (htaken : place = 1 → host.Taken digest) :
    host.Standing digest (place + 1) ∧ (place + 1 = 1 → host.snapshots digest = none) := by
  have hlate : 2 ≤ place + 1 → host.Taken digest := by
    intro hlate
    by_cases hone : place = 1
    · exact htaken hone
    · exact h.late (by omega)
  refine ⟨⟨fun hzero => absurd hzero (by omega), fun hearly => h.early (by omega), fun hone => ?_, hlate⟩, fun hone => ?_⟩
  · exact .inl (h.first (by omega))
  · exact h.first (by omega)

section

variable (h : host.Standing journal.targetDigest done.length) (hplaced : Placed done stage rest)
  (hstages : journal.stages = done ++ stage :: rest)

include h hplaced hstages

/-- A rollback in the middle of a stage is covered once the snapshot is there where it is wanted. -/
theorem Standing.covered
    (htaken : done.length = 1 → stage.status = .applying ∨ stage.status = .complete → host.Taken journal.targetDigest) :
    host.Covered journal := by
  have hrequires := hplaced.requires_iff hstages
  refine ⟨fun hrequired => ?_, fun hmigrated => ?_⟩
  · rcases hrequires.mp hrequired with hlate | ⟨hplace, hstatus⟩
    · exact h.late hlate
    · exact htaken hplace hstatus
  · rw [hrequires]
    by_contra hnot
    rw [not_or, not_le] at hnot
    rw [h.early (by omega)] at hmigrated
    cases hmigrated

/-- While the stage is applying, its journal is covered or lacks its snapshot. -/
theorem Standing.covered_or_lacks (hstatus : stage.status = .applying) : host.Covered journal ∨ host.Lacks journal := by
  by_cases hplace : done.length = 1
  · rcases h.backup hplace with hnone | htaken
    · refine .inr ⟨?_, hnone⟩
      unfold Journal.backingUp
      rw [hstages, any_eq_true]
      refine ⟨stage, mem_append_right _ mem_cons_self, ?_⟩
      exact decide_eq_true ⟨hplaced.backup_iff.mpr hplace, hstatus⟩
    · exact .inl (h.covered hplaced hstages fun _ _ => htaken)
  · exact .inl (h.covered hplaced hstages fun hone => absurd hone hplace)

end

/-- Applying a stage: the second one publishes the snapshot, unless it fails. -/
theorem Standing.apply (pair : ReleasePair) (h : host.Standing pair.targetDigest done.length) (hplaced : Placed done stage rest)
    (hclear : done.length = 1 → host.snapshots pair.targetDigest = none) (choice : Choice) :
    (host.apply stage.id pair choice).2.Standing pair.targetDigest done.length ∧
      (done.length = 1 → (host.apply stage.id pair choice).1 = none →
        (host.apply stage.id pair choice).2.Taken pair.targetDigest) := by
  unfold UpdaterHost.apply
  by_cases hbackup : stage.id = .backupState
  · have hplace := hplaced.backup_iff.mp hbackup
    rw [if_pos hbackup, UpdaterHost.backupState, hclear hplace]
    dsimp only
    cases htook : choice.took with
    | true =>
      have htaken : Taken { host with
          snapshots := Function.update host.snapshots pair.targetDigest (some ⟨host.attempts, host.database⟩) }
          pair.targetDigest :=
        ⟨⟨host.attempts, host.database⟩, by simp, rfl⟩
      exact ⟨⟨fun hzero => absurd hplace (by omega), h.early, fun _ => .inr htaken, fun _ => htaken⟩,
        fun _ _ => htaken⟩
    | false =>
      refine ⟨⟨h.first, h.early, fun _ => .inl (hclear hplace), h.late⟩, fun _ hsuccess => ?_⟩
      have hnone : choice.failure = none := hsuccess
      rw [Choice.took, hnone] at htook
      cases htook
  · have hplace : done.length ≠ 1 := fun hone => hbackup (hplaced.backup_iff.mpr hone)
    rw [if_neg hbackup]
    by_cases hdatabase : stage.id.onDatabase = true
    · have hlate := hplaced.onDatabase hdatabase
      rw [if_pos hdatabase]
      exact ⟨⟨h.first, fun hearly => absurd hlate (by omega), fun hone => absurd hone hplace, h.late⟩,
        fun hone => absurd hone hplace⟩
    · rw [if_neg hdatabase]
      exact ⟨h, fun hone => absurd hone hplace⟩

end UpdaterHost

open UpdaterHost

theorem apply_standing (h : host.Guarded)
    (hplaced : Placed done stage rest) (hstanding : host.Standing target.digest done.length)
    (hclear : done.length = 1 → host.snapshots target.digest = none)
    (hnext : ∀ failure next, next.LogCovered → next.journal = host.journal → next.Standing target.digest done.length →
      (done.length = 1 → failure = none → next.Taken target.digest) →
      KeepsSettled (f failure) Post next) :
    KeepsSettled (perform (.apply stage.id current target) >>= f) Post host := by
  refine h.step fun choice _ => ?_
  have huntouched := host.apply_untouched stage.id (pairOf current target) choice
  obtain ⟨⟨hfirst, hearly, hbackup, hlate⟩, htaken⟩ :=
    Standing.apply (pairOf current target) hstanding hplaced hclear choice
  refine hnext _ _ ?_ huntouched.journal ⟨hfirst, hearly, hbackup, hlate⟩ htaken
  exact h.log.called (.apply stage.id (pairOf current target)) nofun _

/-- The stage at hand, from its journal to its verification. -/
theorem applyAndVerify_standing (hlog : host.LogCovered) (hjournal : host.journal = some journal)
    (hplaced : Placed done stage rest) (hstages : journal.stages = done ++ stage :: rest)
    (hstatus : stage.status = .applying) (hdigest : journal.targetDigest = target.digest)
    (h : host.Standing target.digest done.length) (hclear : done.length = 1 → host.snapshots target.digest = none) :
    KeepsSettled (applyAndVerify stage.id current target)
      (fun failure next => next.Guarded ∧ next.Standing target.digest done.length ∧
        (done.length = 1 → failure = none → next.Taken target.digest)) host := by
  have hguarded : ∀ next : UpdaterHost, next.LogCovered → next.journal = some journal →
      next.Standing target.digest done.length → next.Guarded := by
    intro next hlog hsaved hstanding
    refine ⟨hlog, fun saved hsaved' _ => ?_⟩
    have hsame : journal = saved := some.inj (hsaved.symm.trans hsaved')
    rw [← hsame]
    rw [← hdigest] at hstanding
    exact hstanding.covered_or_lacks hplaced hstages hstatus
  unfold applyAndVerify
  refine apply_standing (hguarded host hlog hjournal h) hplaced h hclear fun failure next hlog hsaved h htaken => ?_
  have hguarded' := hguarded next hlog (hsaved.trans hjournal) h
  cases failure with
  | some message => exact ⟨hguarded', h, nofun⟩
  | none =>
    refine hguarded'.verify fun failure next' hlog hsaved halike => ?_
    exact ⟨hguarded'.alike hlog hsaved halike, h.alike halike, fun hone _ => (htaken hone rfl).alike halike⟩

/-! ### The programs -/

section

variable (h : host.Settled) (hcovered : host.Covered journal) (hpair : journal.pair = pairOf current target)

include h hcovered hpair

theorem rollback_settled :
    KeepsSettled (rollback current target journal) (fun _ => Settled) host := by
  unfold rollback
  refine h.rollback hcovered hpair fun failure next h halike => ?_
  refine h.guarded.now fun now next' h' hsettled halike' _ => ?_
  refine h'.save (fun _ => ?_) fun saveFailure next h _ _ => h
  obtain ⟨hsnapshot, hmigrated⟩ := (hcovered.alike halike).alike halike'
  exact ⟨hsnapshot, hmigrated⟩

theorem abandon_settled (errors : List (Option String)) :
    KeepsSettled (abandon current target journal errors) (fun _ => Settled) host :=
  (rollback_settled h hcovered hpair).bind fun _ _ h => h

theorem abandon_error_settled {Post : Except Outcome Journal → UpdaterHost → Prop} (errors : List (Option String))
    (hpost : ∀ outcome host, host.Settled → Post (.error outcome) host) :
    KeepsSettled (abandon current target journal errors >>= fun outcome => pure (.error outcome))
      Post host :=
  (abandon_settled h hcovered hpair errors).bind hpost

theorem recoverInterrupted_settled :
    KeepsSettled (recoverInterrupted current target journal) (fun _ => Settled) host := by
  unfold recoverInterrupted
  refine h.guarded.now fun now next h' hsettled halike _ => ?_
  have hundoing : next.Covered { journal with
      status := .rollingBack, errorCode := "interrupted", updatedAt := some now } := by
    obtain ⟨hsnapshot, hmigrated⟩ := hcovered.alike halike
    exact ⟨hsnapshot, hmigrated⟩
  refine h'.save (fun _ => hundoing) fun failure next h halike _ => ?_
  cases failure with
  | some message => exact h
  | none =>
    dsimp only
    exact (rollback_settled h (hundoing.alike halike) hpair).bind fun _ _ h => h

end

/-- The loop: where it ends with an error the disk is settled, and where it comes through the snapshot is
there. -/
theorem applyStages_settled (rest : List StageState) :
    ∀ (done : List StageState) (journal : Journal) (host : UpdaterHost), host.Settled →
      journal.pair = pairOf current target → journal.stages = done ++ rest →
      (done ++ rest).map StageState.id = orderedStages → (∀ earlier ∈ done, earlier.status = .complete) →
      (∀ later ∈ rest, later.status = .pending) → host.Standing target.digest done.length →
      (done.length = 1 → host.snapshots target.digest = none) →
      KeepsSettled (applyStages current target done rest journal)
        (fun result host => match result with
          | .error _ => host.Settled
          | .ok journal => host.Settled ∧ journal.pair = pairOf current target ∧ host.Covered journal) host := by
  induction rest with
  | nil =>
    intro done journal host h hpair hstages hids hcomplete _ hstanding _
    have hlength : done.length = 8 := by
      have hlength := congrArg List.length hids
      simpa [orderedStages] using hlength
    have hdigest : journal.targetDigest = target.digest := congrArg ReleasePair.targetDigest hpair
    refine ⟨h, hpair, fun _ => hdigest ▸ hstanding.late (by omega), fun _ => ?_⟩
    rw [append_nil] at hstages hids
    have hmem : StageID.backupState ∈ done.map StageState.id := by
      rw [hids]
      decide
    obtain ⟨stage, hstage, hid⟩ := mem_map.mp hmem
    rw [rollbackRequiresBackup_iff, hstages]
    exact .inl ⟨stage, hstage, hid, .inr (hcomplete stage hstage)⟩
  | cons stage rest ih =>
    intro done journal host h hpair hstages hids hcomplete hpending hstanding hclear
    have hdigest : journal.targetDigest = target.digest := congrArg ReleasePair.targetDigest hpair
    -- the stage changes its status and times only
    have hplaced : ∀ changed : StageState, changed.id = stage.id → Placed done changed rest := by
      intro changed hid
      refine ⟨?_, hcomplete, fun later hlater => hpending later (mem_cons_of_mem _ hlater)⟩
      rw [← hids]
      simp [hid]
    unfold applyStages
    refine h.guarded.now fun started next h' hsettled halike _ => ?_
    have hstanding := hstanding.alike halike
    have hclear : done.length = 1 → next.snapshots target.digest = none := by
      rw [halike.snapshots]
      exact hclear
    let applying : Journal := { journal with stages := done ++ stage.start started :: rest, updatedAt := some started }
    have hjournal : next.Covered applying ∨ next.Lacks applying :=
      Standing.covered_or_lacks (hdigest ▸ hstanding) (hplaced (stage.start started) rfl) rfl rfl
    refine (hsettled h).save hjournal (fun message next' hcovered h halike => ?_) fun next' hlog hsaved halike => ?_
    · exact abandon_error_settled h (hcovered.alike halike) hpair _ fun _ _ h => h
    · have hstanding := hstanding.alike halike
      refine (applyAndVerify_standing hlog hsaved (hplaced (stage.start started) rfl) rfl rfl hdigest hstanding
        (by rw [halike.snapshots]; exact hclear)).bind ?_
      rintro failure host ⟨h, hstanding, htaken⟩
      cases failure with
      | some message =>
        refine h.now fun failed next h _ halike _ => ?_
        have hstanding := hstanding.alike halike
        -- a failed stage wants the snapshot only where an earlier stage took it
        let failedStage : StageState := { stage.start started with status := .failed, errorCode := "stage-failed" }
        have hcovered : next.Covered { journal with
            stages := done ++ failedStage :: rest, status := .rollingBack, errorCode := "stage-failed"
            updatedAt := some failed } := by
          apply Standing.covered (hdigest ▸ hstanding) (hplaced failedStage rfl) rfl
          rintro - (hstatus | hstatus) <;> cases hstatus
        refine h.save (fun _ => hcovered) fun failure next h halike _ => ?_
        exact abandon_error_settled h (hcovered.alike halike) hpair _ fun _ _ h => h
      | none =>
        refine h.now fun completed next h _ halike _ => ?_
        have hstanding := hstanding.alike halike
        have htaken : done.length = 1 → next.Taken target.digest := fun hone => (htaken hone rfl).alike halike
        let complete : StageState := { stage.start started with status := .complete, completedAt := some completed }
        have hcovered : next.Covered { journal with
            stages := done ++ complete :: rest, updatedAt := some completed } := by
          apply Standing.covered (hdigest ▸ hstanding) (hplaced complete rfl) rfl
          exact fun hone _ => hdigest ▸ htaken hone
        refine h.save (fun _ => hcovered) fun failure next h halike _ => ?_
        cases failure with
        | some message =>
          exact abandon_error_settled h (hcovered.alike halike) hpair _ fun _ _ h => h
        | none =>
          -- the stage has joined those that are complete
          have hids : (done ++ [complete] ++ rest).map StageState.id = orderedStages := by
            rw [← (hplaced complete rfl).ids, append_assoc, singleton_append]
          have hcomplete : ∀ earlier ∈ done ++ [complete], earlier.status = .complete :=
            forall_mem_append.mpr ⟨hcomplete, forall_mem_singleton.mpr rfl⟩
          obtain ⟨hsucc, hclear⟩ := (hstanding.alike halike).succ fun hone => (htaken hone).alike halike
          have hlength : (done ++ [complete]).length = done.length + 1 := by simp
          refine ih (done ++ [complete]) _ next h ?_ ?_ hids hcomplete ?_ (hlength ▸ hsucc) (hlength ▸ hclear)
          · exact hpair
          · rw [append_assoc, singleton_append]
          · exact fun later hlater => hpending later (mem_cons_of_mem _ hlater)

theorem commit_settled (h : host.Settled) (hcovered : host.Covered journal)
    (hpair : journal.pair = pairOf current target) :
    KeepsSettled (commit current target journal) (fun _ => Settled) host := by
  unfold commit
  refine h.guarded.now fun now next h' _ halike _ => ?_
  refine h'.save (fun hunfinished => ?_) fun failure next h halike' _ => ?_
  · rcases hunfinished with hstatus | hstatus | hstatus <;> cases hstatus
  · cases failure with
    | some message =>
      refine abandon_settled h ?_ ?_ _
      · obtain ⟨hsnapshot, hmigrated⟩ := (hcovered.alike halike).alike halike'
        exact ⟨hsnapshot, hmigrated⟩
      · exact hpair
    | none => exact h

/-- A preflight ends the attempt before it, whose journal is no longer unfinished. -/
theorem preflight_settled (h : host.Settled)
    (hended : ∀ journal, host.journal = some journal → ¬journal.Unfinished)
    (hnext : ∀ failure next, next.Settled → (failure = none → next.snapshots target.digest = none ∧ next.migrated = false) →
      KeepsSettled (f failure) Post next) :
    KeepsSettled (perform (.preflight current target) >>= f) Post host := by
  refine h.guarded.step fun choice _ => ?_
  have huntouched := host.preflight_untouched (pairOf current target) choice
  refine hnext _ _ ⟨?_, ?_⟩ ?_
  · exact h.log.called (.preflight (pairOf current target)) nofun _
  · intro saved hsaved hunfinished
    exact absurd hunfinished (hended saved (huntouched.journal ▸ hsaved))
  · intro hsuccess
    have hnone : (host.preflight (pairOf current target) choice).1 = none := hsuccess
    show (host.preflight (pairOf current target) choice).2.snapshots target.digest = none ∧
      (host.preflight (pairOf current target) choice).2.migrated = false
    unfold UpdaterHost.preflight at hnone ⊢
    cases hfailure : choice.failure with
    | some message =>
      rw [hfailure] at hnone
      cases hnone
    | none => simp [Choice.took, hfailure, pairOf]

theorem newJournal_pending (current target : Source) (now : Time) :
    ∀ stage ∈ (newJournal current target now).stages, stage.status = .pending := by
  intro stage hstage
  unfold newJournal at hstage
  obtain ⟨id, -, rfl⟩ := mem_map.mp hstage
  rfl

theorem beginUpdate_settled (h : host.Settled)
    (hended : ∀ journal, host.journal = some journal → ¬journal.Unfinished) :
    KeepsSettled (beginUpdate current target) (fun _ => Settled) host := by
  unfold beginUpdate
  refine preflight_settled h hended fun failure next h hclear => ?_
  cases failure with
  | some message => exact h
  | none =>
    obtain ⟨hclear, hmigrated⟩ := hclear rfl
    refine h.guarded.now fun now next h' _ halike _ => ?_
    have hcovered : next.Covered (newJournal current target now) := by
      refine ⟨fun hrequired => ?_, fun htouched => ?_⟩
      · have hnot : rollbackRequiresBackup (newJournal current target now) = false := rfl
        rw [hnot] at hrequired
        cases hrequired
      · rw [halike.migrated, hmigrated] at htouched
        cases htouched
    refine h'.save (fun _ => hcovered) fun failure next h halike' _ => ?_
    cases failure with
    | some message => exact h
    | none =>
      have halike := halike.trans halike'
      have hnone : next.snapshots target.digest = none := by rw [halike.snapshots]; exact hclear
      have hstanding : next.Standing target.digest 0 :=
        ⟨fun _ => hnone, fun _ => halike.migrated.trans hmigrated, fun hone => absurd hone (by decide),
          fun hlate => absurd hlate (by decide)⟩
      refine (applyStages_settled _ [] (newJournal current target now) next h rfl rfl ?_ ?_ ?_ hstanding
        (fun _ => hnone)).bind ?_
      · decide
      · nofun
      · exact newJournal_pending current target now
      · intro result host hend
        cases result with
        | error outcome => exact hend
        | ok journal => exact commit_settled hend.1 hend.2.2 hend.2.1

theorem apply_settled (request : Source × Source) (h : host.Settled) :
    KeepsSettled (apply request) (fun _ => Settled) host := by
  have hopened : host.opened.Settled := h.alike h.log rfl ⟨rfl, rfl, rfl⟩
  apply apply_ensures h
  · exact fun _ => h
  · exact fun _ => h.alike h.log rfl ⟨rfl, rfl, rfl⟩
  · exact fun _ => hopened
  · exact fun _ hended => beginUpdate_settled hopened fun journal hsaved => (hended journal hsaved).2
  · intro journal _ hjournal _ hpair hunfinished
    exact recoverInterrupted_settled hopened (hopened.disk journal hjournal hunfinished) hpair
  · intro journal _ hstatus
    rw [resumeUpdate, hstatus]
    refine hopened.guarded.verify fun failure next hlog hsaved halike => ?_
    have hsettled := hopened.alike hlog hsaved halike
    cases failure with
    | some | none => exact hsettled

/-- Over all invocations that keep to the terms, every rollback finds the snapshot it wants, and wants it
where the database may have changed. -/
theorem rollback_restores (host : UpdaterHost) (requests : List ((Source × Source) × List Choice))
    (hwithin : ServedWithin updater apply careful { host with journal := none, log := [] } requests) :
    ∀ entry ∈ (serve updater apply { host with journal := none, log := [] } requests).log,
      ∀ pair journal, entry.act = .rollback pair journal → entry.Restores journal := by
  refine (serve_invariant (fun host request h => apply_settled request h) ?_ hwithin).log
  exact ⟨fun _ hentry => (nomatch hentry), fun _ hsaved => (nomatch hsaved)⟩

end

namespace UpdateSample

/-- An update whose third stage fails, after the snapshot was taken. -/
def packagesFail : List ((Source × Source) × List Choice) :=
  [((installed, next), List.replicate 18 passes ++ fails :: List.replicate 5 passes)]

/-- An update that is killed before its snapshot is taken, and the invocation after it. -/
def killedBeforeSnapshot : List ((Source × Source) × List Choice) :=
  [((installed, next), List.replicate 12 passes), ((installed, next), List.replicate 6 passes)]

end UpdateSample

open UpdateSample in
theorem rollback_restores_packages :
    ServedWithin updater apply careful { untouched with journal := none, log := [] } packagesFail ∧
      ∀ entry ∈ (serve updater apply { untouched with journal := none, log := [] } packagesFail).log,
        ∀ pair journal, entry.act = .rollback pair journal → entry.Restores journal := by
  have hwithin : ServedWithin updater apply careful { untouched with journal := none, log := [] } packagesFail := by
    decide +kernel
  exact ⟨hwithin, rollback_restores untouched packagesFail hwithin⟩

open UpdateSample in
/-- The rollback of the second invocation wants a snapshot that was never taken. -/
theorem rollback_without_snapshot :
    (serve updater apply untouched killedBeforeSnapshot).journal.map Journal.status = some .rollbackFailed ∧
      ∃ entry ∈ (serve updater apply untouched killedBeforeSnapshot).log, ∃ pair journal,
        entry.act = .rollback pair journal ∧ rollbackRequiresBackup journal = true ∧ entry.snapshot = none ∧
          entry.failure = some "verify rollback database: file has unsafe metadata" := by
  have hlog : (serve updater apply untouched killedBeforeSnapshot).journal.map Journal.status = some .rollbackFailed ∧
      ((serve updater apply untouched killedBeforeSnapshot).log.any fun entry => match entry.act with
        | .rollback _ journal => rollbackRequiresBackup journal && decide (entry.snapshot = none ∧
            entry.failure = some "verify rollback database: file has unsafe metadata")
        | _ => false) = true := by
    decide +kernel
  refine ⟨hlog.1, ?_⟩
  obtain ⟨entry, hentry, htest⟩ := any_eq_true.mp hlog.2
  refine ⟨entry, hentry, ?_⟩
  split at htest
  next pair journal hact =>
    rw [and_eq_true, decide_eq_true_eq] at htest
    exact ⟨pair, journal, hact, htest.1, htest.2⟩
  next => cases htest

end Stackfort.UpdateApply
