import Mathlib.Tactic.Common

/-! Changes of several files that can be undone, and of a service that commands act on. A file is written beside its
place and renamed over it. A change that fails writes back the files before the one that failed, and one that succeeds
keeps what the files held. -/

namespace Stackfort.FileChanges

structure File where
  content : String
  mode : Nat
  deriving DecidableEq

/-- A write can fail before its rename, or when the directory is synchronised after it. -/
inductive WriteFate where
  | written | refused | renamed
  deriving DecidableEq

abbrev Files (ι : Type) := ι → Option File

/-- The files a change may have touched with what they held, the last one first. -/
abbrev Snapshots (ι : Type) := List (ι × Option File)

variable {ι ε α κ τ : Type}

section Files

variable [DecidableEq ι]

def restore (snapshots : Snapshots ι) (files : Files ι) : Files ι :=
  snapshots.foldl (fun files snapshot => Function.update files snapshot.1 snapshot.2) files

/-- The files are written in order. Reading the old ones can fail, and `failure` is the error of a write. -/
def prepare (snapshot : ι → Option ε) (write : ι → WriteFate) (failure : ε) (wanted : ι → File) :
    List ι → Snapshots ι → Bool → Files ι → Files ι × Except ε (Snapshots ι × Bool)
  | [], snapshots, changed, files => (files, .ok (snapshots, changed))
  | path :: rest, snapshots, changed, files =>
    let next := prepare snapshot write failure wanted rest ((path, files path) :: snapshots)
    let written := Function.update files path (some (wanted path))
    match snapshot path with
    | some error => (restore snapshots files, .error error)
    | none =>
      if files path = some (wanted path) then next changed files else
        match write path with
        | .written => next true written
        | .refused => (restore snapshots files, .error failure)
        | .renamed => (restore snapshots written, .error failure)

/-- A change failed and left the old files, or its snapshots lead back to them. -/
def Undone (taken : α → Snapshots ι) (prior : Files ι) : Files ι × Except ε α → Prop
  | (files, .error _) => files = prior
  | (files, .ok result) => restore (taken result) files = prior

variable {snapshots : Snapshots ι} {files prior : Files ι}

theorem restore_self (path : ι) : restore ((path, files path) :: snapshots) files = restore snapshots files := by
  simp [restore]

theorem restore_update (path : ι) (file : Option File) :
    restore ((path, files path) :: snapshots) (Function.update files path file) = restore snapshots files := by
  simp [restore]

/-- A change is undone if no write fails after its rename. -/
theorem prepare_undone {snapshot : ι → Option ε} {write : ι → WriteFate} {failure : ε} {wanted : ι → File}
    (hwrite : ∀ path, write path ≠ .renamed) (paths : List ι) {changed : Bool} (h : restore snapshots files = prior) :
    Undone Prod.fst prior (prepare snapshot write failure wanted paths snapshots changed files) := by
  induction paths generalizing snapshots changed files with
  | nil => exact h
  | cons path rest ih =>
    unfold prepare
    dsimp only
    cases snapshot path with
    | some error => exact h
    | none =>
      dsimp only
      by_cases hsame : files path = some (wanted path)
      · rw [if_pos hsame]
        exact ih ((restore_self path).trans h)
      · rw [if_neg hsame]
        cases hfate : write path with
        | written => exact ih ((restore_update path _).trans h)
        | refused => exact h
        | renamed => exact absurd hfate (hwrite path)

end Files

structure Host (ι τ : Type) where
  files : Files ι
  service : τ

def Host.perform (act : κ → Host ι τ → τ) (command : κ) (host : Host ι τ) : Host ι τ :=
  { host with service := act command host }

/-- Commands one after the other, up to one that fails and leaves the service as `fate` says. -/
def runOK (act : κ → Host ι τ → τ) (fate : κ → Option τ) : List κ → Host ι τ → Host ι τ × Bool
  | [], host => (host, true)
  | command :: rest, host =>
    match fate command with
    | none => runOK act fate rest (host.perform act command)
    | some left => ({ host with service := left }, false)

theorem files_runOK {act : κ → Host ι τ → τ} {fate : κ → Option τ} (commands : List κ) (host : Host ι τ) :
    (runOK act fate commands host).1.files = host.files := by
  induction commands generalizing host with
  | nil => rfl
  | cons command rest ih =>
    unfold runOK
    split
    · exact ih _
    · rfl

/-- The end of a call: its commands went well and the last look found what is wanted, or all is undone. -/
def conclude (undo : Host ι τ → Host ι τ) (failure : ε) (good changed : Bool) (state : Host ι τ) : Host ι τ × Except ε Bool :=
  if good then (state, .ok changed) else (undo state, .error failure)

theorem conclude_undone {undo : Host ι τ → Host ι τ} {failure error : ε} {good changed : Bool} {state prior : Host ι τ}
    (hundo : undo state = prior) (herror : (conclude undo failure good changed state).2 = .error error) :
    (conclude undo failure good changed state).1 = prior := by
  cases good with
  | false => exact hundo
  | true => cases herror

end Stackfort.FileChanges
