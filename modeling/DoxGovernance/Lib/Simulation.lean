import DoxGovernance.Lib.Run

/-!
# Simulation of a specification

A specification says which answer an input may get in a state, and which state may follow. A
machine that answers each of its inputs as the specification allows, in related states, does so
over every run; what the steps of the specification keep, its runs keep.
-/

set_option autoImplicit false

universe u v w x

namespace Simulation
variable {σ : Type u} {τ : Type v} {ι : Type w} {ω : Type x}

/-- The runs of a specification over inputs with their answers. -/
inductive Runs (spec : τ → ι → ω → τ → Prop) : τ → List (ι × ω) → τ → Prop
  | nil (t : τ) : Runs spec t [] t
  | cons {t t' t'' : τ} {i : ι} {o : ω} {ios : List (ι × ω)} (h : spec t i o t')
      (hs : Runs spec t' ios t'') : Runs spec t ((i, o) :: ios) t''

/-- The inputs of a run of a machine, each with its answer. -/
def answers (machine : σ → ι → ω × σ) : σ → List ι → List (ι × ω)
  | _, [] => []
  | s, i :: is => (i, (machine s i).1) :: answers machine (machine s i).2 is

def step (machine : σ → ι → ω × σ) (s : σ) (i : ι) : σ := (machine s i).2

variable {spec : τ → ι → ω → τ → Prop} {machine : σ → ι → ω × σ} {R : σ → τ → Prop}

/-- Every step of the machine is one of the specification, between related states. -/
def Simulates (R : σ → τ → Prop) (machine : σ → ι → ω × σ) (spec : τ → ι → ω → τ → Prop) : Prop :=
  ∀ s t i, R s t → ∃ t', spec t i (machine s i).1 t' ∧ R (machine s i).2 t'

theorem Simulates.run (h : Simulates R machine spec) {s : σ} {t : τ} (hR : R s t) (is : List ι) :
    ∃ t', Runs spec t (answers machine s is) t' ∧ R (is.foldl (step machine) s) t' := by
  induction is generalizing s t with
  | nil => exact ⟨t, .nil t, hR⟩
  | cons i is ih =>
    obtain ⟨t', hstep, hR'⟩ := h s t i hR
    obtain ⟨t'', hruns, hR''⟩ := ih hR'
    exact ⟨t'', .cons hstep hruns, hR''⟩

namespace Runs
variable {t t' : τ} {ios jos : List (ι × ω)}

/-- What the steps on some inputs keep, a run over such inputs keeps. -/
theorem invariant {inv : τ → Prop} {ok : ι × ω → Prop}
    (keep : ∀ t i o t', spec t i o t' → ok (i, o) → inv t → inv t') (h : Runs spec t ios t')
    (hok : ∀ io ∈ ios, ok io) (hinv : inv t) : inv t' := by
  induction h with
  | nil => exact hinv
  | cons hstep _ ih =>
    exact ih (fun io hio => hok io (List.mem_cons_of_mem _ hio))
      (keep _ _ _ _ hstep (hok _ List.mem_cons_self) hinv)

end Runs

end Simulation
