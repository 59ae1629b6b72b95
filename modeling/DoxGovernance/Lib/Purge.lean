import DoxGovernance.Lib.Simulation

/-!
# Runs without the inputs of others

Some inputs of a machine are one's own. Two states agree when one's own inputs are answered alike
in both, and the inputs of others do not end the agreement. The answers to one's own inputs are
then those of the run from which the inputs of others are left out.
-/

set_option autoImplicit false

universe u v w

namespace Purge
variable {σ : Type u} {ι : Type v} {ω : Type w}

/-- An agreement between the states of a run and those of the run without the others. -/
structure Unwinds (machine : σ → ι → ω × σ) (own : ι → Bool) (ok : σ → ι → Prop)
    (agree : σ → σ → Prop) : Prop where
  others : ∀ s t i, own i = false → ok s i → agree s t → agree (machine s i).2 t
  same : ∀ s t i, own i = true → ok s i → agree s t →
    (machine s i).1 = (machine t i).1 ∧ agree (machine s i).2 (machine t i).2

variable {machine : σ → ι → ω × σ} {own : ι → Bool} {ok : σ → ι → Prop} {agree : σ → σ → Prop}

theorem Unwinds.purge (h : Unwinds machine own ok agree) {s t : σ} (hst : agree s t) {is : List ι}
    (hok : Run.Meets (Simulation.step machine) ok s is) :
    ((Simulation.answers machine s is).filter fun io => own io.1) =
        Simulation.answers machine t (is.filter own) ∧
      agree (is.foldl (Simulation.step machine) s)
        ((is.filter own).foldl (Simulation.step machine) t) := by
  induction is generalizing s t with
  | nil => exact ⟨rfl, hst⟩
  | cons i is ih =>
    obtain ⟨hfirst, hrest⟩ := hok
    cases hown : own i with
    | false =>
      obtain ⟨hanswers, hagree⟩ := ih (h.others s t i hown hfirst hst) hrest
      rw [List.filter_cons_of_neg (by rw [hown]; exact Bool.false_ne_true)]
      refine ⟨?_, hagree⟩
      rw [← hanswers]
      exact List.filter_cons_of_neg (by rw [hown]; exact Bool.false_ne_true)
    | true =>
      obtain ⟨hanswer, hafter⟩ := h.same s t i hown hfirst hst
      obtain ⟨hanswers, hagree⟩ := ih hafter hrest
      rw [List.filter_cons_of_pos hown]
      refine ⟨?_, hagree⟩
      have hhead : (Simulation.answers machine s (i :: is)).filter (fun io => own io.1) =
          (i, (machine s i).1) :: (Simulation.answers machine (machine s i).2 is).filter
            fun io => own io.1 := List.filter_cons_of_pos hown
      rw [hhead, hanswer]
      exact congrArg _ hanswers

end Purge
