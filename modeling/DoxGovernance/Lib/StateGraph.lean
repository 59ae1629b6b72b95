import DoxGovernance.Lib.Effect

/-!
# State graphs

The nodes of a graph rewrite a state in turn. An edge looks at the state a node has left
and leads to the next node or to the end. A run is limited in its number of steps.

Assertions are attached to the nodes: when every node turns its assertion into that of
the node the edge leads to, and edges lead down a rank, a run ends within the limit and
its final state satisfies the final assertion.
-/

set_option autoImplicit false

universe u v w x

structure StateGraph (ν : Type u) (σ : Type v) (ω : Type w) (ε : Type x) where
  start : ν
  node : ν → σ → Effect ω ε σ
  next : ν → σ → Option ν

namespace StateGraph
variable {ν : Type u} {σ : Type v} {ω : Type w} {ε : Type x}

/-- Run from a node; `limit` is raised when the steps are used up. -/
def run (g : StateGraph ν σ ω ε) (limit : ε) : Nat → ν → σ → Effect ω ε σ
  | 0, _, _ => Effect.raise limit
  | steps + 1, v, s => do
    let s' ← g.node v s
    match g.next v s' with
    | none => return s'
    | some v' => run g limit steps v' s'

variable {g : StateGraph ν σ ω ε} {limit : ε}

theorem run_end {v : ν} {s s' : σ} {w w' : ω} (hnode : g.node v s w = (.ok s', w'))
    (hnext : g.next v s' = none) (steps : Nat) :
    g.run limit (steps + 1) v s w = (.ok s', w') := by
  rw [run, Effect.bind_ok hnode, hnext]
  rfl

theorem run_step {v v' : ν} {s s' : σ} {w w' : ω} (hnode : g.node v s w = (.ok s', w'))
    (hnext : g.next v s' = some v') (steps : Nat) :
    g.run limit (steps + 1) v s w = g.run limit steps v' s' w' := by
  rw [run, Effect.bind_ok hnode, hnext]

/-- Some node that a run starts satisfies `P` with the state it starts from. -/
def Starts (g : StateGraph ν σ ω ε) (P : ν → σ → Prop) : Nat → ν → σ → ω → Prop
  | 0, _, _, _ => False
  | steps + 1, v, s, w => P v s ∨
    match g.node v s w with
    | (.error _, _) => False
    | (.ok s', w') =>
      match g.next v s' with
      | none => False
      | some v' => Starts g P steps v' s' w'

theorem starts_end {P : ν → σ → Prop} {v : ν} {s s' : σ} {w w' : ω}
    (hnode : g.node v s w = (.ok s', w')) (hnext : g.next v s' = none) (steps : Nat) :
    g.Starts P (steps + 1) v s w ↔ P v s := by
  simp only [Starts, hnode, hnext, or_false]

theorem starts_step {P : ν → σ → Prop} {v v' : ν} {s s' : σ} {w w' : ω}
    (hnode : g.node v s w = (.ok s', w')) (hnext : g.next v s' = some v') (steps : Nat) :
    g.Starts P (steps + 1) v s w ↔ P v s ∨ g.Starts P steps v' s' w' := by
  simp only [Starts, hnode, hnext]

/-- What a node owes when it starts under the assertion of its place: it returns, and either the
run ends in the final assertion or the next node, of lower rank, finds its own. -/
def Discharges (g : StateGraph ν σ ω ε) (rank : ν → Nat) (A : ν → σ → ω → Prop)
    (Q : σ → ω → Prop) (v : ν) (s : σ) (w : ω) : Prop :=
  ∃ s' w', g.node v s w = (.ok s', w') ∧
    ((g.next v s' = none ∧ Q s' w') ∨ ∃ v', g.next v s' = some v' ∧ rank v' < rank v ∧ A v' s' w')

/-- The rule for runs: nodes that discharge their assertions make a run that ends well. -/
theorem run_ends {rank : ν → Nat} {A : ν → σ → ω → Prop} {Q : σ → ω → Prop}
    (hnodes : ∀ v s w, A v s w → g.Discharges rank A Q v s w) {steps : Nat} {v : ν} {s : σ} {w : ω}
    (hrank : rank v < steps) (h : A v s w) :
    ∃ s' w', g.run limit steps v s w = (.ok s', w') ∧ Q s' w' := by
  induction steps generalizing v s w with
  | zero => exact absurd hrank (Nat.not_lt_zero _)
  | succ steps ih =>
    obtain ⟨s', w', hnode, ⟨hend, hQ⟩ | ⟨v', hnext, hlower, hA⟩⟩ := hnodes v s w h
    · exact ⟨s', w', run_end hnode hend steps, hQ⟩
    · obtain ⟨s'', w'', hrun, hQ⟩ := ih (by omega) hA
      exact ⟨s'', w'', (run_step hnode hnext steps).trans hrun, hQ⟩

theorem run_keeps {R : ω → ω → Prop} (refl : ∀ w, R w w)
    (trans : ∀ {a b c}, R a b → R b c → R a c) (hnodes : ∀ v s, Effect.Keeps R (g.node v s))
    (steps : Nat) (v : ν) (s : σ) : Effect.Keeps R (g.run limit steps v s) := by
  induction steps generalizing v s with
  | zero => exact Effect.Keeps.raise refl limit
  | succ steps ih =>
    apply Effect.Keeps.bind @trans (hnodes v s)
    intro s'
    cases g.next v s' with
    | none => exact Effect.Keeps.pure refl s'
    | some v' => exact ih v' s'

end StateGraph
