import DoxGovernance.Lib.Effect
import Mathlib.Data.List.TakeWhile

/-!
# What is left when a computation raises

A computation aborts when whatever it raises, it raises before it has changed anything. What it
raises is tracked apart from what it leaves. A loop over calls that each go through or fail by
themselves stops at the first that fails, with the effects of those before it.
-/

set_option autoImplicit false

universe u v w

namespace Effect
variable {σ : Type u} {ε : Type v} {α β γ : Type w}

def Aborts (m : Effect σ ε α) : Prop := ∀ s e s', m s = (.error e, s') → s' = s

def Total (m : Effect σ ε α) : Prop := ∀ s, ∃ a s', m s = (.ok a, s')

def Reads (m : Effect σ ε α) : Prop := Keeps (fun s s' => s' = s) m

/-- Everything that `m` raises satisfies `P`. -/
def Raises (P : ε → Prop) (m : Effect σ ε α) : Prop := ∀ s e s', m s = (.error e, s') → P e

theorem bind_eq_error {m : Effect σ ε α} {f : α → Effect σ ε β} {s s' : σ} {e : ε} :
    (m >>= f) s = (.error e, s') ↔
      m s = (.error e, s') ∨ ∃ a t, m s = (.ok a, t) ∧ f a t = (.error e, s') := by
  rw [bind_run]
  constructor
  · intro h
    cases hm : m s with
    | mk r t =>
      rw [hm] at h
      cases r with
      | ok a => exact Or.inr ⟨a, t, rfl, h⟩
      | error d =>
        cases h
        exact Or.inl rfl
  · rintro (hm | ⟨a, t, hm, hf⟩)
    · rw [hm]
    · rw [hm]
      exact hf

theorem recover_eq_error {m : Effect σ ε α} {handler : ε → Effect σ ε α} {s s' : σ} {e : ε} :
    recover m handler s = (.error e, s') ↔
      ∃ d t, m s = (.error d, t) ∧ handler d t = (.error e, s') := by
  constructor
  · intro h
    cases hm : m s with
    | mk r t =>
      cases r with
      | ok a =>
        rw [recover_ok hm] at h
        cases h
      | error d =>
        rw [recover_error hm] at h
        exact ⟨d, t, rfl, h⟩
  · rintro ⟨d, t, hm, hh⟩
    rw [recover_error hm]
    exact hh

namespace Total

theorem pure (a : α) : Total (Pure.pure a : Effect σ ε α) := fun s => ⟨a, s, rfl⟩

theorem gets (f : σ → α) : Total (Effect.gets f : Effect σ ε α) := fun s => ⟨f s, s, rfl⟩

theorem change (f : σ → α × σ) : Total (Effect.change f : Effect σ ε α) :=
  fun s => ⟨(f s).1, (f s).2, rfl⟩

theorem bind {m : Effect σ ε α} {f : α → Effect σ ε β} (hm : Total m) (hf : ∀ a, Total (f a)) :
    Total (m >>= f) := by
  intro s
  obtain ⟨a, t, hrun⟩ := hm s
  obtain ⟨b, s', hrest⟩ := hf a t
  exact ⟨b, s', (bind_ok hrun).trans hrest⟩

theorem mapEach {body : γ → Effect σ ε α} (h : ∀ c, Total (body c)) (cs : List γ) :
    Total (Effect.mapEach body cs) := by
  induction cs with
  | nil => exact pure []
  | cons c cs ih =>
    rw [mapEach_cons]
    exact bind (h c) fun a => bind ih fun as => pure (a :: as)

theorem aborts {m : Effect σ ε α} (h : Total m) : Aborts m := by
  intro s e s' hrun
  obtain ⟨a, t, hok⟩ := h s
  cases hok.symm.trans hrun

end Total

namespace Aborts

theorem raise (e : ε) : Aborts (Effect.raise e : Effect σ ε α) := by
  intro s e' s' h
  cases h
  rfl

/-- Nothing is raised after the first part. -/
theorem bind_total {m : Effect σ ε α} {f : α → Effect σ ε β} (hm : Aborts m)
    (hf : ∀ a, Total (f a)) : Aborts (m >>= f) := by
  intro s e s' h
  rcases bind_eq_error.mp h with hfirst | ⟨a, t, -, hsecond⟩
  · exact hm s e s' hfirst
  · obtain ⟨b, t', hok⟩ := hf a t
    cases hok.symm.trans hsecond

/-- Nothing is written in the first part. -/
theorem bind_reads {m : Effect σ ε α} {f : α → Effect σ ε β} (hm : Reads m)
    (hf : ∀ a, Aborts (f a)) : Aborts (m >>= f) := by
  intro s e s' h
  have hread := hm s
  rcases bind_eq_error.mp h with hfirst | ⟨a, t, hfirst, hsecond⟩
  · rw [hfirst] at hread
    exact hread
  · rw [hfirst] at hread
    exact (hf a t e s' hsecond).trans hread

theorem rethrow {m : Effect σ ε α} (f : ε → ε) (hm : Aborts m) :
    Aborts (recover m fun e => Effect.raise (f e)) := by
  intro s e s' h
  obtain ⟨d, t, hraised, hhandled⟩ := recover_eq_error.mp h
  cases hhandled
  exact hm s d s' hraised

end Aborts

section Finds
variable {find : σ → Option α} {m : Effect σ ε α}

theorem Finds.reads (h : Finds find m) : Reads m := h.keeps fun _ => rfl

theorem Finds.aborts (h : Finds find m) : Aborts m := by
  intro s e s' hrun
  have hread := h.reads s
  rw [hrun] at hread
  exact hread

/-- What is found is changed by a computation that does not raise. -/
theorem Finds.aborts_bind {f : α → Effect σ ε β} (h : Finds find m) (hf : ∀ a, Total (f a)) :
    Aborts (m >>= f) :=
  h.aborts.bind_total hf

end Finds

namespace Raises
variable {P : ε → Prop}

theorem of_total {m : Effect σ ε α} (h : Total m) : Raises P m := by
  intro s e s' hrun
  obtain ⟨a, t, hok⟩ := h s
  cases hok.symm.trans hrun

theorem bind {m : Effect σ ε α} {f : α → Effect σ ε β} (hm : Raises P m)
    (hf : ∀ a, Raises P (f a)) : Raises P (m >>= f) := by
  intro s e s' h
  rcases bind_eq_error.mp h with hfirst | ⟨a, t, -, hsecond⟩
  · exact hm s e s' hfirst
  · exact hf a t e s' hsecond

theorem forEach {body : γ → Effect σ ε PUnit} {cs : List γ} (h : ∀ c ∈ cs, Raises P (body c)) :
    Raises P (Effect.forEach body cs) := by
  induction cs with
  | nil => exact of_total (Total.pure PUnit.unit)
  | cons c cs ih =>
    rw [forEach_cons]
    exact bind (h c List.mem_cons_self) fun _ => ih fun d hd => h d (List.mem_cons_of_mem c hd)

theorem mapEach {body : γ → Effect σ ε α} {cs : List γ} (h : ∀ c ∈ cs, Raises P (body c)) :
    Raises P (Effect.mapEach body cs) := by
  induction cs with
  | nil => exact of_total (Total.pure [])
  | cons c cs ih =>
    rw [mapEach_cons]
    refine bind (h c List.mem_cons_self) fun a => bind ?_ fun as => of_total (Total.pure (a :: as))
    exact ih fun d hd => h d (List.mem_cons_of_mem c hd)

end Raises

/-! ### Loops that stop at a fault -/

def outcome : Option ε → Except ε PUnit.{w + 1}
  | some e => .error e
  | none => .ok ⟨⟩

/-- A call that fails with its fault, or does its act. -/
def faulting (fault : Option ε) (act : σ → σ) : Effect σ ε PUnit.{w + 1} := fun s =>
  match fault with
  | some e => (.error e, s)
  | none => (.ok ⟨⟩, act s)

/-- The elements before the first that has a fault. -/
def beforeFault (fault : γ → Option ε) (cs : List γ) : List γ :=
  cs.takeWhile fun c => (fault c).isNone

section Faults
variable {fault : γ → Option ε} {act : γ → σ → σ} {cs : List γ}

theorem beforeFault_sublist : (beforeFault fault cs).Sublist cs :=
  (List.takeWhile_prefix _).sublist

theorem beforeFault_of_none (h : ∀ c ∈ cs, fault c = none) : beforeFault fault cs = cs := by
  apply List.takeWhile_eq_self_iff.mpr
  intro c hc
  rw [h c hc]
  rfl

theorem findSome?_fault_iff : cs.findSome? fault = none ↔ ∀ c ∈ cs, fault c = none :=
  List.findSome?_eq_none_iff

/-- The loop does the acts before the first fault, and raises it. -/
theorem forEach_faulting (s : σ) : forEach (fun c => faulting (fault c) (act c)) cs s =
    (outcome (cs.findSome? fault), (beforeFault fault cs).foldl (fun s c => act c s) s) := by
  induction cs generalizing s with
  | nil => rfl
  | cons c cs ih =>
    rw [forEach_cons, bind_run, List.findSome?_cons, beforeFault, List.takeWhile_cons]
    cases fault c with
    | some e => rfl
    | none => exact ih (act c s)

end Faults

end Effect
