/-!
# Computations that commit before they raise

`Effect σ ε α` reads and writes a store of type `σ`, and then returns an `α` or raises
an `ε`. What was written before a raise stays written: nothing is rolled back except by
the computation itself. Sequencing, exception handling and a loop over a list are given
together with the rules that carry a relation between the store before and the store
after through a whole computation.
-/

set_option autoImplicit false

universe u v w

/-- A computation over a store: the result (or the exception) and the store it leaves. -/
def Effect (σ : Type u) (ε : Type v) (α : Type w) : Type (max u v w) := σ → Except ε α × σ

namespace Effect

section Operations
variable {σ : Type u} {ε : Type v}

/-- Sequencing; an exception in the first part skips the second. -/
def andThen {α β : Type w} (m : Effect σ ε α) (f : α → Effect σ ε β) : Effect σ ε β := fun s =>
  match m s with
  | (.ok a, s') => f a s'
  | (.error e, s') => (.error e, s')

instance : Monad (Effect.{u, v, w} σ ε) where
  pure a := fun s => (.ok a, s)
  bind := andThen

variable {α β : Type w}

def raise (e : ε) : Effect σ ε α := fun s => (.error e, s)

/-- `try m except e => handler e`. -/
def recover (m : Effect σ ε α) (handler : ε → Effect σ ε α) : Effect σ ε α := fun s =>
  match m s with
  | (.ok a, s') => (.ok a, s')
  | (.error e, s') => handler e s'

def mapError {δ : Type v} (f : ε → δ) (m : Effect σ ε α) : Effect σ δ α := fun s =>
  match m s with
  | (.ok a, s') => (.ok a, s')
  | (.error e, s') => (.error (f e), s')

def gets (f : σ → α) : Effect σ ε α := fun s => (.ok (f s), s)

/-- Run a store transformer that also computes a value; it never raises. -/
def change (f : σ → α × σ) : Effect σ ε α := fun s => (.ok (f s).1, (f s).2)

def forEach {γ : Type w} (body : γ → Effect σ ε PUnit.{w + 1}) : List γ → Effect σ ε PUnit.{w + 1}
  | [] => pure ⟨⟩
  | c :: cs => andThen (body c) fun _ => forEach body cs

def mapEach {γ : Type w} (body : γ → Effect σ ε α) : List γ → Effect σ ε (List α)
  | [] => pure []
  | c :: cs => andThen (body c) fun a => andThen (mapEach body cs) fun as => pure (a :: as)

/-- The results of the calls of a list, made one after the other. -/
def outcomes {γ : Type w} (call : γ → Effect σ ε α) : List γ → σ → List (Except ε α)
  | [], _ => []
  | c :: cs, s => (call c s).1 :: outcomes call cs (call c s).2

@[simp] theorem pure_run (a : α) (s : σ) : (pure a : Effect σ ε α) s = (.ok a, s) := rfl

@[simp] theorem raise_run (e : ε) (s : σ) : (raise e : Effect σ ε α) s = (.error e, s) := rfl

@[simp] theorem gets_run (f : σ → α) (s : σ) : (gets f : Effect σ ε α) s = (.ok (f s), s) := rfl

@[simp] theorem change_run (f : σ → α × σ) (s : σ) :
    (change f : Effect σ ε α) s = (.ok (f s).1, (f s).2) := rfl

theorem bind_run (m : Effect σ ε α) (f : α → Effect σ ε β) (s : σ) :
    (m >>= f) s = match m s with
      | (.ok a, s') => f a s'
      | (.error e, s') => (.error e, s') := rfl

theorem bind_ok {m : Effect σ ε α} {f : α → Effect σ ε β} {s s' : σ} {a : α}
    (h : m s = (.ok a, s')) : (m >>= f) s = f a s' := by
  simp only [bind_run, h]

theorem bind_error {m : Effect σ ε α} {f : α → Effect σ ε β} {s s' : σ} {e : ε}
    (h : m s = (.error e, s')) : (m >>= f) s = (.error e, s') := by
  simp only [bind_run, h]

/-- A sequence returns when its parts do. -/
theorem bind_eq_ok {m : Effect σ ε α} {f : α → Effect σ ε β} {s s' : σ} {b : β} :
    (m >>= f) s = (.ok b, s') ↔ ∃ a t, m s = (.ok a, t) ∧ f a t = (.ok b, s') := by
  rw [bind_run]
  constructor
  · intro h
    cases hm : m s with
    | mk r t =>
      rw [hm] at h
      cases r with
      | ok a => exact ⟨a, t, rfl, h⟩
      | error e => cases h
  · rintro ⟨a, t, hm, hf⟩
    rw [hm]
    exact hf

theorem recover_ok {m : Effect σ ε α} {handler : ε → Effect σ ε α} {s s' : σ} {a : α}
    (h : m s = (.ok a, s')) : recover m handler s = (.ok a, s') := by
  simp only [recover, h]

theorem recover_error {m : Effect σ ε α} {handler : ε → Effect σ ε α} {s s' : σ} {e : ε}
    (h : m s = (.error e, s')) : recover m handler s = handler e s' := by
  simp only [recover, h]

theorem mapError_ok {δ : Type v} {f : ε → δ} {m : Effect σ ε α} {s s' : σ} {a : α}
    (h : m s = (.ok a, s')) : mapError f m s = (.ok a, s') := by
  simp only [mapError, h]

theorem mapError_error {δ : Type v} {f : ε → δ} {m : Effect σ ε α} {s s' : σ} {e : ε}
    (h : m s = (.error e, s')) : mapError f m s = (.error (f e), s') := by
  simp only [mapError, h]

@[simp] theorem forEach_nil {γ : Type w} (body : γ → Effect σ ε PUnit) (s : σ) :
    forEach body [] s = (.ok ⟨⟩, s) := rfl

theorem forEach_cons {γ : Type w} (body : γ → Effect σ ε PUnit) (c : γ) (cs : List γ) :
    forEach body (c :: cs) = (body c >>= fun _ => forEach body cs) := rfl

theorem mapEach_cons {γ : Type w} (body : γ → Effect σ ε α) (c : γ) (cs : List γ) :
    mapEach body (c :: cs) = (body c >>= fun a => mapEach body cs >>= fun as => pure (a :: as)) :=
  rfl

theorem bind_assoc {γ : Type w} (m : Effect σ ε α) (f : α → Effect σ ε β)
    (g : β → Effect σ ε γ) : m >>= f >>= g = m >>= fun a => f a >>= g := by
  funext s
  simp only [bind_run]
  cases m s with
  | mk r s' => cases r <;> rfl

theorem bind_pure (m : Effect σ ε α) : m >>= pure = m := by
  funext s
  rw [bind_run]
  cases m s with
  | mk r s' => cases r <;> rfl

instance : LawfulMonad (Effect.{u, v, w} σ ε) :=
  .mk' _ (fun m => bind_pure m) (fun _ _ => rfl) bind_assoc

/-- A loop splits at any point into two loops. -/
theorem forEach_append {γ : Type w} (body : γ → Effect σ ε PUnit) (cs ds : List γ) :
    forEach body (cs ++ ds) = (forEach body cs >>= fun _ => forEach body ds) := by
  induction cs with
  | nil => rfl
  | cons c cs ih => simp only [List.cons_append, forEach_cons, ih, bind_assoc]

theorem mapEach_append {γ : Type w} (body : γ → Effect σ ε α) (cs ds : List γ) :
    mapEach body (cs ++ ds) =
      (mapEach body cs >>= fun as => mapEach body ds >>= fun bs => pure (as ++ bs)) := by
  induction cs with
  | nil => simp [mapEach]
  | cons c cs ih => simp only [List.cons_append, mapEach_cons, ih, bind_assoc, pure_bind]

theorem forEach_map {γ δ : Type w} (body : γ → Effect σ ε PUnit) (f : δ → γ) (ds : List δ) :
    forEach body (ds.map f) = forEach (fun d => body (f d)) ds := by
  induction ds with
  | nil => rfl
  | cons d ds ih => rw [List.map_cons, forEach_cons, forEach_cons, ih]

theorem forEach_skip {γ : Type w} (cs : List γ) :
    forEach (fun _ => (pure ⟨⟩ : Effect σ ε PUnit)) cs = pure ⟨⟩ := by
  induction cs with
  | nil => rfl
  | cons c cs ih => rw [forEach_cons, ih, pure_bind]

theorem mapEach_gets {γ : Type w} (f : γ → σ → α) (cs : List γ) (s : σ) :
    mapEach (fun c => (gets (f c) : Effect σ ε α)) cs s = (.ok (cs.map fun c => f c s), s) := by
  induction cs with
  | nil => rfl
  | cons c cs ih => rw [mapEach_cons, bind_ok (gets_run (f c) s), bind_ok ih]; rfl

end Operations

/-- A lookup: it returns what is found, or raises, and leaves the store as it is. -/
structure Finds {σ : Type u} {ε : Type v} {α : Type w} (find : σ → Option α) (m : Effect σ ε α) :
    Prop where
  found : ∀ {s a}, find s = some a → m s = (.ok a, s)
  missing : ∀ {s}, find s = none → ∃ e, m s = (.error e, s)

/-- `Returns Q m`: whatever `m` returns, from any store, satisfies `Q`. -/
def Returns {σ : Type u} {ε : Type v} {α : Type w} (Q : α → Prop) (m : Effect σ ε α) : Prop :=
  ∀ s a, (m s).1 = .ok a → Q a

theorem Returns.bind {σ : Type u} {ε : Type v} {α β : Type w} {P : α → Prop} {Q : β → Prop}
    {m : Effect σ ε α} {f : α → Effect σ ε β} (hm : Returns P m) (hf : ∀ a, P a → Returns Q (f a)) :
    Returns Q (m >>= f) := by
  intro s b h
  rw [bind_run] at h
  cases hrun : m s with
  | mk r s' =>
    rw [hrun] at h
    cases r with
    | ok a => exact hf a (hm s a (by rw [hrun])) s' b h
    | error e => cases h

/-- Everything that a loop collects is what its body returns for some element. -/
theorem Returns.mapEach {σ : Type u} {ε : Type v} {α γ : Type w} {P : γ → α → Prop}
    {body : γ → Effect σ ε α} {cs : List γ} (h : ∀ c ∈ cs, Returns (P c) (body c)) :
    Returns (fun as => ∀ a ∈ as, ∃ c ∈ cs, P c a) (Effect.mapEach body cs) := by
  induction cs with
  | nil =>
    intro s as has a ha
    cases has
    exact absurd ha List.not_mem_nil
  | cons c cs ih =>
    rw [mapEach_cons]
    refine Returns.bind (h c List.mem_cons_self) fun b hb => ?_
    refine Returns.bind (ih fun d hd => h d (List.mem_cons_of_mem c hd)) fun bs hbs => ?_
    intro s as has a ha
    cases has
    rcases List.mem_cons.mp ha with rfl | ha
    · exact ⟨c, List.mem_cons_self, hb⟩
    · obtain ⟨d, hd, hP⟩ := hbs a ha
      exact ⟨d, List.mem_cons_of_mem c hd, hP⟩

/-- A loop that returns has collected what its body returned for each element. -/
theorem mapEach_collects {σ : Type u} {ε : Type v} {α γ : Type w} {body : γ → Effect σ ε α}
    {cs : List γ} {s s' : σ} {as : List α} (h : mapEach body cs s = (.ok as, s')) :
    ∀ c ∈ cs, ∃ a ∈ as, ∃ t t', body c t = (.ok a, t') := by
  induction cs generalizing s as with
  | nil => exact fun c hc => absurd hc List.not_mem_nil
  | cons c cs ih =>
    rw [mapEach_cons] at h
    obtain ⟨a, t, hfirst, h⟩ := bind_eq_ok.mp h
    obtain ⟨rest, t', hrest, h⟩ := bind_eq_ok.mp h
    cases h
    intro d hd
    rcases List.mem_cons.mp hd with rfl | hd
    · exact ⟨a, List.mem_cons_self, s, t, hfirst⟩
    · obtain ⟨b, hb, hbody⟩ := ih hrest d hd
      exact ⟨b, List.mem_cons_of_mem a hb, hbody⟩

/-- `Keeps R m`: whatever `m` returns or raises, the store it leaves stands in relation `R`
to the store it found. -/
def Keeps {σ : Type u} {ε : Type v} {α : Type w} (R : σ → σ → Prop) (m : Effect σ ε α) : Prop :=
  ∀ s, R s (m s).2

namespace Keeps
variable {σ : Type u} {ε : Type v} {R : σ → σ → Prop}

theorem change {α : Type w} {f : σ → α × σ} (h : ∀ s, R s (f s).2) :
    Keeps R (Effect.change f : Effect σ ε α) := h

section Reflexive
variable {α : Type w} (refl : ∀ s, R s s)
include refl

theorem pure (a : α) : Keeps R (Pure.pure a : Effect σ ε α) := refl

theorem raise (e : ε) : Keeps R (Effect.raise e : Effect σ ε α) := refl

theorem gets (f : σ → α) : Keeps R (Effect.gets f : Effect σ ε α) := refl

end Reflexive

section Transitive
variable {α β : Type w} (trans : ∀ {a b c}, R a b → R b c → R a c)
include trans

theorem bind {m : Effect σ ε α} {f : α → Effect σ ε β} (hm : Keeps R m)
    (hf : ∀ a, Keeps R (f a)) : Keeps R (m >>= f) := by
  intro s
  have hs := hm s
  rw [bind_run]
  cases h : m s with
  | mk r s' =>
    rw [h] at hs
    cases r with
    | ok a => exact trans hs (hf a s')
    | error e => exact hs

theorem recover {m : Effect σ ε α} {handler : ε → Effect σ ε α} (hm : Keeps R m)
    (hh : ∀ e, Keeps R (handler e)) : Keeps R (Effect.recover m handler) := by
  intro s
  have hs := hm s
  unfold Effect.recover
  cases h : m s with
  | mk r s' =>
    rw [h] at hs
    cases r with
    | ok a => exact hs
    | error e => exact trans hs (hh e s')

theorem forEach (refl : ∀ s, R s s) {γ : Type w} {body : γ → Effect σ ε PUnit} {cs : List γ}
    (h : ∀ c ∈ cs, Keeps R (body c)) : Keeps R (Effect.forEach body cs) := by
  induction cs with
  | nil => exact refl
  | cons c cs ih =>
    rw [forEach_cons]
    exact bind @trans (h c List.mem_cons_self) fun _ =>
      ih fun d hd => h d (List.mem_cons_of_mem c hd)

theorem mapEach (refl : ∀ s, R s s) {γ : Type w} {body : γ → Effect σ ε α} {cs : List γ}
    (h : ∀ c ∈ cs, Keeps R (body c)) : Keeps R (Effect.mapEach body cs) := by
  induction cs with
  | nil => exact refl
  | cons c cs ih =>
    rw [mapEach_cons]
    refine bind @trans (h c List.mem_cons_self) fun _ => bind @trans ?_ fun _ => refl
    exact ih fun d hd => h d (List.mem_cons_of_mem c hd)

end Transitive

end Keeps

theorem Finds.keeps {σ : Type u} {ε : Type v} {α : Type w} {R : σ → σ → Prop} {find : σ → Option α}
    {m : Effect σ ε α} (h : Finds find m) (refl : ∀ s, R s s) : Keeps R m := by
  intro s
  cases hfind : find s with
  | some a =>
    rw [h.found hfind]
    exact refl s
  | none =>
    obtain ⟨e, hrun⟩ := h.missing hfind
    rw [hrun]
    exact refl s

end Effect
