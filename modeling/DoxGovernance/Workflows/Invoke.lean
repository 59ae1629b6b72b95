import DoxGovernance.Lib.StateGraph
import DoxGovernance.World

/-!
# Invoking a workflow

What the workflows share: the truth and the default of a text that may be absent, the
handler that turns every exception of a node into an update of the state, and the
invocation of a graph with its limit on steps.
-/

set_option autoImplicit false

namespace Dox

def truthy (text : Option String) : Bool := text.any (· ≠ "")

/-- `text or default`. -/
def orText (text : Option String) (default : String) : String :=
  if truthy text then text.getD default else default

@[simp] theorem truthy_none : truthy none = false := rfl

theorem truthy_some {s : String} (h : s ≠ "") : truthy (some s) = true := by
  simpa [truthy] using h

theorem orText_empty (text : Option String) : orText text "" = text.getD "" := by
  cases text with
  | none => rfl
  | some s =>
    by_cases h : s = ""
    · rw [h]
      rfl
    · rw [orText, if_pos (truthy_some h)]

theorem orText_some {s : String} (h : s ≠ "") (default : String) : orText (some s) default = s := by
  rw [orText, if_pos (truthy_some h), Option.getD_some]

/-- `try: body except Exception as exc: return handle(str(exc))`. -/
def attempt {α : Type} (body : Service α) (handle : String → α) : Service α :=
  Effect.recover body fun e => pure (handle e.str)

section Attempt
variable {α : Type} {body : Service α} {handle : String → α} {w w' : World}

theorem attempt_ok {a : α} (h : body w = (.ok a, w')) : attempt body handle w = (.ok a, w') :=
  Effect.recover_ok h

theorem attempt_error {e : Exc} (h : body w = (.error e, w')) :
    attempt body handle w = (.ok (handle e.str), w') :=
  Effect.recover_error h

theorem attempt_outage {message : String} (h : body w = (.error (.outage message), w')) :
    attempt body handle w = (.ok (handle message), w') :=
  attempt_error h

variable {R : World → World → Prop} (refl : ∀ w, R w w)
  (trans : ∀ {a b c}, R a b → R b c → R a c)
include refl trans

theorem attempt_keeps (handle : String → α) (h : Effect.Keeps R body) :
    Effect.Keeps R (attempt body handle) := by
  apply Effect.Keeps.recover @trans h
  exact fun e => Effect.Keeps.pure refl (handle e.str)

end Attempt

def recursionError : Exc :=
  .outage ("Recursion limit of 25 reached without hitting a stop condition. You can increase " ++
    "the limit by setting the `recursion_limit` config key.")

/-- `graph.ainvoke(state)`. -/
def ainvoke {ν σ : Type} (graph : StateGraph ν σ World Exc) (state : σ) : Service σ :=
  graph.run recursionError 25 graph.start state

theorem ainvoke_keeps {R : World → World → Prop} (refl : ∀ w, R w w)
    (trans : ∀ {a b c}, R a b → R b c → R a c) {ν σ : Type} {graph : StateGraph ν σ World Exc}
    (hnodes : ∀ v s, Effect.Keeps R (graph.node v s)) (state : σ) :
    Effect.Keeps R (ainvoke graph state) :=
  StateGraph.run_keeps refl @trans hnodes 25 graph.start state

end Dox
