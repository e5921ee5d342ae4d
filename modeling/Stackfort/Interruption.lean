import Mathlib.Tactic.Common

/-! Programs that may be interrupted. A program calls an environment one operation at a time; what an
operation answers and does depends on the state of the environment and on a choice of the
environment, which is how failures, clocks and other parties enter. The process may be stopped
before any operation, and what it did until then stays. A contract says what holds wherever the
process is stopped and what holds when the program returns; it may be asked for only under terms on
the choices and the interruptions. -/

namespace Stackfort.Interruption

/-- A program returns, or calls its environment and goes on with the answer. -/
inductive Program (Op : Type → Type) (α : Type) : Type 1 where
  | done (result : α)
  | call {β : Type} (op : Op β) (next : β → Program Op α)

variable {Op : Type → Type} {σ χ ι α β : Type} {choices rest : List χ}

namespace Program

def bind : Program Op α → (α → Program Op β) → Program Op β
  | .done a, f => f a
  | .call op next, f => .call op fun reply => (next reply).bind f

instance : Monad (Program Op) where
  pure := .done
  bind := bind

/-- The program that makes one call. -/
def perform (op : Op β) : Program Op β := .call op .done

end Program

/-- The errors of several calls as one, as `errors.Join` writes it. -/
def joinErrors (errors : List (Option String)) : Option String :=
  match errors.reduceOption with
  | [] => none
  | messages => some ("\n".intercalate messages)

/-- What the operations do. -/
structure Environment (Op : Type → Type) (σ χ : Type) where
  react : {β : Type} → σ → Op β → χ → β × σ

/-- Terms on the choices of the environment, and on the states in which the process may be stopped. -/
structure Terms (Op : Type → Type) (σ χ : Type) where
  choice : {β : Type} → σ → Op β → χ → Prop
  stop : σ → Prop

/-- No terms at all. -/
def Terms.none : Terms Op σ χ := ⟨fun _ _ _ => True, fun _ => True⟩

namespace Program

variable {choice : χ} (E : Environment Op σ χ)

/-- The state a program leaves, and its result unless it was stopped. The choices are taken one for each
call, and the process is stopped when there are no more. -/
def run : σ → Program Op α → List χ → σ × Option α
  | s, .done a, _ => (s, some a)
  | s, .call _ _, [] => (s, none)
  | s, .call op next, choice :: rest => run (E.react s op choice).2 (next (E.react s op choice).1) rest

/-- The run keeps to the terms. -/
def Within (T : Terms Op σ χ) : σ → Program Op α → List χ → Prop
  | _, .done _, _ => True
  | s, .call _ _, [] => T.stop s
  | s, .call op next, choice :: rest =>
    T.choice s op choice ∧ Within T (E.react s op choice).2 (next (E.react s op choice).1) rest

/-- Terms that can be decided are decided for a run. -/
instance decidableWithin (T : Terms Op σ χ) [hchoice : ∀ {β : Type} (s : σ) (op : Op β) (c : χ), Decidable (T.choice s op c)]
    [hstop : ∀ s, Decidable (T.stop s)] : (s : σ) → (p : Program Op α) → (choices : List χ) →
      Decidable (Within E T s p choices)
  | _, .done _, _ => .isTrue trivial
  | s, .call _ _, [] => hstop s
  | s, .call op next, choice :: rest =>
    @instDecidableAnd _ _ (hchoice s op choice)
      (decidableWithin T (E.react s op choice).2 (next (E.react s op choice).1) rest)

/-- Wherever the process is stopped the first property holds, and the second one of the result. -/
def Ensures (T : Terms Op σ χ) (Stopped : σ → Prop) (Post : α → σ → Prop) : σ → Program Op α → Prop
  | s, .done a => Post a s
  | s, .call op next => (T.stop s → Stopped s) ∧
      ∀ choice, T.choice s op choice →
        Ensures T Stopped Post (E.react s op choice).2 (next (E.react s op choice).1)

variable {E} {T : Terms Op σ χ} {Stopped : σ → Prop} {Post : α → σ → Prop} {s : σ}

@[simp] theorem run_done (a : α) (choices : List χ) : run E s (pure a : Program Op α) choices = (s, some a) := by
  cases choices <;> rfl

variable {op : Op β} {f : β → Program Op α}

@[simp] theorem run_perform_bind_nil : run E s (perform op >>= f) [] = (s, none) := rfl

@[simp] theorem run_perform_bind_cons :
    run E s (perform op >>= f) (choice :: rest) =
      run E (E.react s op choice).2 (f (E.react s op choice).1) rest := rfl

theorem within_perform_bind_cons :
    (perform op >>= f).Within E T s (choice :: rest) ↔
      T.choice s op choice ∧ (f (E.react s op choice).1).Within E T (E.react s op choice).2 rest := Iff.rfl

theorem within_none (s : σ) (p : Program Op α) (choices : List χ) : Within E .none s p choices := by
  induction choices generalizing s p with
  | nil => cases p <;> trivial
  | cons choice rest ih =>
    cases p with
    | done a => trivial
    | call op next => exact ⟨trivial, ih _ _⟩

variable {p : Program Op α}

/-- A contract speaks about every run. -/
theorem Ensures.run (h : p.Ensures E T Stopped Post s) (hwithin : p.Within E T s choices) :
    match (p.run E s choices).2 with
    | none => Stopped (p.run E s choices).1
    | some a => Post a (p.run E s choices).1 := by
  induction choices generalizing s p with
  | nil =>
    cases p with
    | done a => exact h
    | call op next => exact h.1 hwithin
  | cons choice rest ih =>
    cases p with
    | done a => exact h
    | call op next => exact ih (h.2 choice hwithin.1) hwithin.2

/-- What holds wherever the process is stopped and of every result holds after the run. -/
theorem Ensures.run_keeps {Inv : σ → Prop} (h : p.Ensures E T Inv (fun _ => Inv) s) (hwithin : p.Within E T s choices) :
    Inv (p.run E s choices).1 := by
  have hrun := h.run hwithin
  cases hresult : (p.run E s choices).2 with
  | none =>
    rw [hresult] at hrun
    exact hrun
  | some a =>
    rw [hresult] at hrun
    exact hrun

theorem Ensures.mono {Stopped' : σ → Prop} {Post' : α → σ → Prop} (h : p.Ensures E T Stopped Post s)
    (hstopped : ∀ s, Stopped s → Stopped' s) (hpost : ∀ a s, Post a s → Post' a s) :
    p.Ensures E T Stopped' Post' s := by
  induction p generalizing s with
  | done a => exact hpost a s h
  | call op next ih =>
    refine ⟨fun hstop => hstopped s (h.1 hstop), fun choice hchoice => ?_⟩
    exact ih _ (h.2 choice hchoice)

/-- Contracts compose: the second program starts where the first one returned. -/
theorem ensures_bind {p : Program Op β} :
    (p >>= f).Ensures E T Stopped Post s ↔
      p.Ensures E T Stopped (fun b s' => (f b).Ensures E T Stopped Post s') s := by
  induction p generalizing s with
  | done b => exact Iff.rfl
  | call op next ih =>
    show (T.stop s → Stopped s) ∧ (∀ choice, T.choice s op choice → _) ↔ _
    refine and_congr_right fun _ => forall_congr' fun choice => imp_congr_right fun _ => ?_
    exact ih _

theorem Ensures.bind {p : Program Op β} {Mid : β → σ → Prop} (h : p.Ensures E T Stopped Mid s)
    (hnext : ∀ b s', Mid b s' → (f b).Ensures E T Stopped Post s') : (p >>= f).Ensures E T Stopped Post s :=
  ensures_bind.mpr (h.mono (fun _ h => h) hnext)

theorem ensures_perform_bind :
    (perform op >>= f).Ensures E T Stopped Post s ↔ (T.stop s → Stopped s) ∧
      ∀ choice, T.choice s op choice →
        (f (E.react s op choice).1).Ensures E T Stopped Post (E.react s op choice).2 := Iff.rfl

theorem Ensures.perform (hstopped : Stopped s)
    (h : ∀ choice, T.choice s op choice → (f (E.react s op choice).1).Ensures E T Stopped Post (E.react s op choice).2) :
    (Program.perform op >>= f).Ensures E T Stopped Post s := ⟨fun _ => hstopped, h⟩

end Program

/-! ### One program after the other -/

section

variable (E : Environment Op σ χ) (program : ι → Program Op α)

/-- The programs of a list of requests, each run until it returns or is stopped. -/
def serve : σ → List (ι × List χ) → σ
  | s, [] => s
  | s, (request, choices) :: rest => serve ((program request).run E s choices).1 rest

/-- Every run of the list keeps to the terms. -/
def ServedWithin (T : Terms Op σ χ) : σ → List (ι × List χ) → Prop
  | _, [] => True
  | s, (request, choices) :: rest =>
    (program request).Within E T s choices ∧ ServedWithin T ((program request).run E s choices).1 rest

instance decidableServedWithin (T : Terms Op σ χ)
    [∀ {β : Type} (s : σ) (op : Op β) (c : χ), Decidable (T.choice s op c)] [∀ s, Decidable (T.stop s)] :
    (s : σ) → (requests : List (ι × List χ)) → Decidable (ServedWithin E program T s requests)
  | _, [] => .isTrue trivial
  | s, (request, choices) :: rest =>
    @instDecidableAnd _ _ (Program.decidableWithin E T s (program request) choices)
      (decidableServedWithin T ((program request).run E s choices).1 rest)

variable {E program} {T : Terms Op σ χ} {Inv : σ → Prop}

theorem servedWithin_none (s : σ) (requests : List (ι × List χ)) : ServedWithin E program .none s requests := by
  induction requests generalizing s with
  | nil => trivial
  | cons request rest ih => exact ⟨Program.within_none _ _ _, ih _⟩

/-- What every program keeps, stopped or not, holds after every list of requests. -/
theorem serve_invariant
    (hkeeps : ∀ s request, Inv s → (program request).Ensures E T Inv (fun _ => Inv) s) {s : σ} (hstart : Inv s)
    {requests : List (ι × List χ)} (hwithin : ServedWithin E program T s requests) :
    Inv (serve E program s requests) := by
  induction requests generalizing s with
  | nil => exact hstart
  | cons request rest ih =>
    obtain ⟨request, choices⟩ := request
    exact ih ((hkeeps s request hstart).run_keeps hwithin.1) hwithin.2

end

end Stackfort.Interruption
