import Mathlib.Data.List.Forall2
import CallHistory.Report.Basic

/-! # Steps one after another

An action takes one input after another, each in the state that the one before left. Where two actions
leave the same state, what relates their steps from any state relates their series step by step.
-/

namespace CallHistory.Step

variable {ι σ α β : Type}

def series (act : ι → σ → Step σ α) : List ι → σ → List (Step σ α)
  | [], _ => []
  | i :: rest, s => act i s :: series act rest (act i s).state

@[simp] theorem length_series (act : ι → σ → Step σ α) (inputs : List ι) (s : σ) :
    (series act inputs s).length = inputs.length := by
  induction inputs generalizing s with
  | nil => rfl
  | cons i rest ih => simp [series, ih]

theorem series_forall₂ {act : ι → σ → Step σ α} {act' : ι → σ → Step σ β}
    {R : ι → Step σ α → Step σ β → Prop} (hstate : ∀ i s, (act' i s).state = (act i s).state)
    (hR : ∀ i s, R i (act i s) (act' i s)) (inputs : List ι) (s : σ) :
    List.Forall₂ (fun p step => R p.1 p.2 step) (inputs.zip (series act inputs s))
      (series act' inputs s) := by
  induction inputs generalizing s with
  | nil => exact .nil
  | cons i rest ih =>
    rw [series, series, List.zip_cons_cons, hstate i s]
    exact .cons (hR i s) (ih (act i s).state)

end CallHistory.Step
