import Mathlib.Logic.Basic

/-! Systems that move by events. A step function says where an event leads, or that it cannot happen
in a state. A run is a sequence of events that can all happen, and a condition on states and events
may be required along it. A property of states that every step keeps under such a condition, until
the system stops, holds wherever a run ends. -/

namespace Stackfort.Events

variable {σ ε : Type} (step : σ → ε → Option σ)

/-- Where a sequence of events leads, if each of them can happen. -/
def run : σ → List ε → Option σ
  | s, [] => some s
  | s, event :: rest => (step s event).bind fun s' => run s' rest

/-- The condition holds at every event of a run. -/
def Along (P : σ → ε → Prop) : σ → List ε → Prop
  | _, [] => True
  | s, event :: rest => P s event ∧ ∀ s', step s event = some s' → Along P s' rest

variable {step} {P Q : σ → ε → Prop} {s s' : σ} {event : ε} {rest events : List ε}

theorem run_cons (h : run step s (event :: rest) = some s') :
    ∃ mid, step s event = some mid ∧ run step mid rest = some s' :=
  Option.bind_eq_some_iff.mp h

theorem along_cons {mid : σ} (h : step s event = some mid) :
    Along step P s (event :: rest) ↔ P s event ∧ Along step P mid rest := by
  refine and_congr_right fun _ => ⟨fun hall => hall mid h, fun hrest s' hs' => ?_⟩
  rw [h] at hs'
  cases hs'
  exact hrest

theorem along_of_forall (h : ∀ s event, P s event) : Along step P s events := by
  induction events generalizing s with
  | nil => trivial
  | cons event rest ih => exact ⟨h s event, fun _ _ => ih⟩

theorem Along.mono (h : Along step P s events) (himp : ∀ s event, P s event → Q s event) : Along step Q s events := by
  induction events generalizing s with
  | nil => trivial
  | cons event rest ih => exact ⟨himp s event h.1, fun s' hstep => ih (h.2 s' hstep)⟩

theorem Along.and (h : Along step P s events) (h' : Along step Q s events) :
    Along step (fun s event => P s event ∧ Q s event) s events := by
  induction events generalizing s with
  | nil => trivial
  | cons event rest ih => exact ⟨⟨h.1, h'.1⟩, fun s' hstep => ih (h.2 s' hstep) (h'.2 s' hstep)⟩

/-- **Invariants.** What every step keeps until the system stops holds where the run ends, or the system
has stopped there; and what follows of each event holds along the run. -/
theorem run_until {I R : σ → Prop}
    (hkeeps : ∀ s event s', I s → P s event → step s event = some s' → Q s event ∧ (I s' ∨ R s'))
    (hstops : ∀ s event, R s → step s event = none) (hstart : I s)
    (halong : Along step P s events) (hrun : run step s events = some s') :
    Along step Q s events ∧ (I s' ∨ R s') := by
  induction events generalizing s with
  | nil =>
    cases hrun
    exact ⟨trivial, .inl hstart⟩
  | cons event rest ih =>
    obtain ⟨mid, hstep, hrest⟩ := run_cons hrun
    rw [along_cons hstep] at halong ⊢
    obtain ⟨hevent, hmid | hmid⟩ := hkeeps s event mid hstart halong.1 hstep
    · obtain ⟨hlater, hend⟩ := ih hmid halong.2 hrest
      exact ⟨⟨hevent, hlater⟩, hend⟩
    · cases rest with
      | nil =>
        cases hrest
        exact ⟨⟨hevent, trivial⟩, .inr hmid⟩
      | cons next rest =>
        obtain ⟨after, hnext, -⟩ := run_cons hrest
        rw [hstops mid next hmid] at hnext
        cases hnext

/-- Without a state in which the system stops. -/
theorem run_keeps {I : σ → Prop} (hkeeps : ∀ s event s', I s → P s event → step s event = some s' → I s')
    (hstart : I s) (halong : Along step P s events) (hrun : run step s events = some s') : I s' := by
  induction events generalizing s with
  | nil =>
    cases hrun
    exact hstart
  | cons event rest ih =>
    obtain ⟨mid, hstep, hrest⟩ := run_cons hrun
    rw [along_cons hstep] at halong
    exact ih (hkeeps s event mid hstart halong.1 hstep) halong.2 hrest

/-- A test of the condition along a run. -/
def alongTest (step : σ → ε → Option σ) (test : σ → ε → Bool) : σ → List ε → Bool
  | _, [] => true
  | s, event :: rest =>
    test s event &&
      match step s event with
      | none => true
      | some s' => alongTest step test s' rest

theorem along_of_test {test : σ → ε → Bool} (htest : ∀ s event, test s event = true → P s event)
    (h : alongTest step test s events = true) : Along step P s events := by
  induction events generalizing s with
  | nil => trivial
  | cons event rest ih =>
    rw [alongTest, Bool.and_eq_true] at h
    refine ⟨htest s event h.1, fun s' hstep => ih ?_⟩
    rw [hstep] at h
    exact h.2

end Stackfort.Events
