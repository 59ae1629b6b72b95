import DoxGovernance.Lib.Run

/-!
# Interleaved sessions over a shared store

Any number of sessions, each with its own local state, act one at a time on a shared
store; a schedule says which session acts next and with which input. An invariant of the
store together with an assertion about each session holds along every schedule when the
acting session keeps both and leaves the assertions of all the others standing.
-/

set_option autoImplicit false

universe u v w

/-- A shared store and the local states of the sessions. -/
structure Sessions (σ : Type u) (ℓ : Type v) where
  shared : σ
  session : Nat → ℓ

namespace Sessions
variable {σ : Type u} {ℓ : Type v} {ι : Type w}

def step (act : ι → σ → ℓ → σ × ℓ) (c : Sessions σ ℓ) (k : Nat × ι) : Sessions σ ℓ where
  shared := (act k.2 c.shared (c.session k.1)).1
  session := fun i => if i = k.1 then (act k.2 c.shared (c.session k.1)).2 else c.session i

@[simp] theorem session_step_self (act : ι → σ → ℓ → σ × ℓ) (c : Sessions σ ℓ) (k : Nat × ι) :
    (step act c k).session k.1 = (act k.2 c.shared (c.session k.1)).2 := by
  simp only [step, if_true]

theorem session_step_ne (act : ι → σ → ℓ → σ × ℓ) (c : Sessions σ ℓ) {k : Nat × ι} {i : Nat}
    (hi : i ≠ k.1) : (step act c k).session i = c.session i := by
  simp only [step, if_neg hi]

theorem step_idle {act : ι → σ → ℓ → σ × ℓ} {c : Sessions σ ℓ} {k : Nat × ι}
    (h : act k.2 c.shared (c.session k.1) = (c.shared, c.session k.1)) : step act c k = c := by
  obtain ⟨shared, session⟩ := c
  simp only [step, h, mk.injEq, true_and]
  funext i
  split
  · rename_i hi
    rw [hi]
  · rfl

/-- A condition on the acting session, as a condition on a step of a run. -/
def Guard (ok : ι → σ → ℓ → Prop) (c : Sessions σ ℓ) (k : Nat × ι) : Prop :=
  ok k.2 c.shared (c.session k.1)

/-- The store satisfies its invariant and every session its assertion. -/
def Holds (I : σ → Prop) (A : σ → ℓ → Prop) (c : Sessions σ ℓ) : Prop :=
  I c.shared ∧ ∀ i, A c.shared (c.session i)

variable {act : ι → σ → ℓ → σ × ℓ} {ok : ι → σ → ℓ → Prop} {I : σ → Prop} {A : σ → ℓ → Prop}

theorem step_holds
    (keep : ∀ x s l, ok x s l → I s → A s l → I (act x s l).1 ∧ A (act x s l).1 (act x s l).2)
    (stable : ∀ x s l m, ok x s l → I s → A s l → A s m → A (act x s l).1 m)
    {c : Sessions σ ℓ} {k : Nat × ι} (hok : Guard ok c k) (h : Holds I A c) :
    Holds I A (step act c k) := by
  obtain ⟨hI, hA⟩ := h
  have hkeep := keep k.2 c.shared (c.session k.1) hok hI (hA k.1)
  refine ⟨hkeep.1, fun i => ?_⟩
  by_cases hi : i = k.1
  · simp only [step, if_pos hi]
    exact hkeep.2
  · simp only [step, if_neg hi]
    exact stable k.2 c.shared (c.session k.1) (c.session i) hok hI (hA k.1) (hA i)

/-- The run lemma for interleavings. -/
theorem run_holds
    (keep : ∀ x s l, ok x s l → I s → A s l → I (act x s l).1 ∧ A (act x s l).1 (act x s l).2)
    (stable : ∀ x s l m, ok x s l → I s → A s l → A s m → A (act x s l).1 m)
    {c : Sessions σ ℓ} {schedule : List (Nat × ι)}
    (hrun : Run.Meets (step act) (Guard ok) c schedule) (h : Holds I A c) :
    Holds I A (schedule.foldl (step act) c) :=
  Run.invariant (fun _ _ hok hs => step_holds keep stable hok hs) hrun h

/-! ### Sessions that keep apart -/

/-- The store satisfies its invariant, every session its assertion, and any two sessions are
apart, as when each owns a part of the store. -/
def HoldsApart (I : σ → Prop) (A : σ → ℓ → Prop) (D : ℓ → ℓ → Prop) (c : Sessions σ ℓ) : Prop :=
  I c.shared ∧ (∀ i, A c.shared (c.session i)) ∧ ∀ i j, i ≠ j → D (c.session i) (c.session j)

section Apart
variable {D : ℓ → ℓ → Prop} (symm : ∀ l m, D l m → D m l)
  (keep : ∀ x s l, ok x s l → I s → A s l → I (act x s l).1 ∧ A (act x s l).1 (act x s l).2)
  (stable : ∀ x s l m, ok x s l → I s → A s l → A s m → D l m →
    A (act x s l).1 m ∧ D (act x s l).2 m)
include symm keep stable

theorem step_holdsApart {c : Sessions σ ℓ} {k : Nat × ι} (hok : Guard ok c k)
    (h : HoldsApart I A D c) : HoldsApart I A D (step act c k) := by
  obtain ⟨hI, hA, hD⟩ := h
  have hkeep := keep k.2 c.shared (c.session k.1) hok hI (hA k.1)
  have hother : ∀ i, i ≠ k.1 → A (act k.2 c.shared (c.session k.1)).1 (c.session i) ∧
      D (act k.2 c.shared (c.session k.1)).2 (c.session i) := by
    intro i hi
    exact stable k.2 c.shared (c.session k.1) (c.session i) hok hI (hA k.1) (hA i)
      (hD k.1 i (Ne.symm hi))
  refine ⟨hkeep.1, fun i => ?_, fun i j hij => ?_⟩
  · by_cases hi : i = k.1
    · rw [hi, session_step_self]
      exact hkeep.2
    · rw [session_step_ne act c hi]
      exact (hother i hi).1
  · by_cases hi : i = k.1
    · have hj : j ≠ k.1 := fun hj => hij (hi.trans hj.symm)
      rw [hi, session_step_self, session_step_ne act c hj]
      exact (hother j hj).2
    · rw [session_step_ne act c hi]
      by_cases hj : j = k.1
      · rw [hj, session_step_self]
        exact symm _ _ (hother i hi).2
      · rw [session_step_ne act c hj]
        exact hD i j hij

end Apart

/-- The store satisfies a predicate in every state that the run passes. -/
def Throughout (act : ι → σ → ℓ → σ × ℓ) (I : σ → Prop) (c : Sessions σ ℓ)
    (schedule : List (Nat × ι)) : Prop :=
  ∀ before after, schedule = before ++ after → I (before.foldl (step act) c).shared

/-- When a session keeps an invariant of the store exactly when it meets a condition, the store
satisfies the invariant all along a schedule exactly when every step meets the condition. -/
theorem always_iff (keep : ∀ x s l, I s → (I (act x s l).1 ↔ ok x s l))
    {c : Sessions σ ℓ} {schedule : List (Nat × ι)} (h : I c.shared) :
    Throughout act I c schedule ↔ Run.Meets (step act) (Guard ok) c schedule := by
  refine Run.always_iff (fun c : Sessions σ ℓ => I c.shared) ?_ (Run.meets_true c schedule) h
  intro c k _ hI
  exact keep k.2 c.shared (c.session k.1) hI

/-- The session acts once for each input while no other does. -/
def alone (act : ι → σ → ℓ → σ × ℓ) (inputs : List ι) (p : σ × ℓ) : σ × ℓ :=
  inputs.foldl (fun p x => act x p.1 p.2) p

theorem alone_cons (x : ι) (inputs : List ι) (p : σ × ℓ) :
    alone act (x :: inputs) p = alone act inputs (act x p.1 p.2) := rfl

end Sessions
