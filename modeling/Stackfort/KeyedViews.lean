import Mathlib.Logic.Relation
import Mathlib.Tactic.Common

/-! A store seen through its views. A view is what the store holds for one key, and the store advances
when every view takes steps of a machine and every view that was not there grows out of a fresh
one. An invariant of the machine then holds of every view of every store that is reached, and a
preorder that each step respects relates each view to the one it came from. Nothing here depends on
what a store or a view is. -/

namespace Stackfort.Views

open Relation

variable {σ κ ν : Type} {view : σ → κ → Option ν} {Step : ν → ν → Prop} {Fresh : ν → Prop} {s s' s'' : σ} {k : κ}

/-- Every view takes steps, and a new view takes steps from a fresh one. -/
structure Advances (view : σ → κ → Option ν) (Step : ν → ν → Prop) (Fresh : ν → Prop) (s s' : σ) : Prop where
  steps : ∀ k v, view s k = some v → ∃ w, view s' k = some w ∧ ReflTransGen Step v w
  fresh : ∀ k w, view s k = none → view s' k = some w → ∃ v, Fresh v ∧ ReflTransGen Step v w

theorem Advances.of_eq (h : ∀ k, view s' k = view s k) : Advances view Step Fresh s s' := by
  refine ⟨fun k v hview => ⟨v, (h k).trans hview, .refl⟩, fun k w hnone hsome => ?_⟩
  rw [h k, hnone] at hsome
  cases hsome

theorem Advances.trans (h : Advances view Step Fresh s s') (h' : Advances view Step Fresh s' s'') :
    Advances view Step Fresh s s'' := by
  refine ⟨fun k v hview => ?_, fun k w hnone hsome => ?_⟩
  · obtain ⟨u, hu, hsteps⟩ := h.steps k v hview
    obtain ⟨w, hw, hsteps'⟩ := h'.steps k u hu
    exact ⟨w, hw, hsteps.trans hsteps'⟩
  · cases hmid : view s' k with
    | none => exact h'.fresh k w hmid hsome
    | some u =>
      obtain ⟨v, hfresh, hsteps⟩ := h.fresh k u hnone hmid
      obtain ⟨w', hw', hsteps'⟩ := h'.steps k u hmid
      rw [hsome] at hw'
      cases hw'
      exact ⟨v, hfresh, hsteps.trans hsteps'⟩

theorem Advances.of_step {v w : ν} (hview : view s k = some v) (hself : view s' k = some w)
    (hother : ∀ k', k' ≠ k → view s' k' = view s k') (hstep : Step v w) : Advances view Step Fresh s s' := by
  refine ⟨fun k' u hu => ?_, fun k' u hnone hsome => ?_⟩
  · by_cases heq : k' = k
    · subst heq
      rw [hview] at hu
      cases hu
      exact ⟨w, hself, .single hstep⟩
    · exact ⟨u, by rw [hother k' heq, hu], .refl⟩
  · have hne : k' ≠ k := by
      rintro rfl
      rw [hview] at hnone
      cases hnone
    rw [hother k' hne, hnone] at hsome
    cases hsome

/-- Every view is changed by one function, along steps. -/
theorem Advances.of_map {f : ν → ν} (hview : ∀ k, view s' k = (view s k).map f)
    (hsteps : ∀ k v, view s k = some v → ReflTransGen Step v (f v)) : Advances view Step Fresh s s' := by
  refine ⟨fun k v hv => ⟨f v, ?_, hsteps k v hv⟩, fun k w hnone hsome => ?_⟩
  · rw [hview k, hv]
    rfl
  · rw [hview k, hnone] at hsome
    cases hsome

theorem Advances.of_fresh {w : ν} (hnone : view s k = none) (hself : view s' k = some w)
    (hother : ∀ k', k' ≠ k → view s' k' = view s k') (hfresh : Fresh w) : Advances view Step Fresh s s' := by
  refine ⟨fun k' u hu => ?_, fun k' u hk' hsome => ?_⟩
  · have hne : k' ≠ k := by
      rintro rfl
      rw [hnone] at hu
      cases hu
    exact ⟨u, by rw [hother k' hne, hu], .refl⟩
  · by_cases heq : k' = k
    · subst heq
      rw [hself] at hsome
      cases hsome
      exact ⟨w, hfresh, .refl⟩
    · rw [hother k' heq, hk'] at hsome
      cases hsome

/-- What fresh views satisfy and steps preserve holds of every view the store advances to. -/
theorem Advances.invariant {Inv : ν → Prop} (hfresh : ∀ v, Fresh v → Inv v)
    (hstep : ∀ v w, Inv v → Step v w → Inv w) (h : Advances view Step Fresh s s')
    (hinv : ∀ k v, view s k = some v → Inv v) : ∀ k w, view s' k = some w → Inv w := by
  have hsteps : ∀ v w, ReflTransGen Step v w → Inv v → Inv w := by
    intro v w hvw hv
    induction hvw with
    | refl => exact hv
    | tail _ hlast ih => exact hstep _ _ ih hlast
  intro k w hview
  cases hold : view s k with
  | none =>
    obtain ⟨v, hv, hvw⟩ := h.fresh k w hold hview
    exact hsteps v w hvw (hfresh v hv)
  | some v =>
    obtain ⟨w', hw', hvw⟩ := h.steps k v hold
    rw [hview] at hw'
    cases hw'
    exact hsteps v w hvw (hinv k v hold)

end Stackfort.Views
