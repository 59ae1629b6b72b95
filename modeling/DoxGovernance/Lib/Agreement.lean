import DoxGovernance.Lib.Effect

/-!
# Two runs that agree

A relation says what two stores have in common. A computation respects it when, from any
two stores with this in common, it returns or raises the same and leaves two stores that
still have it in common. The rules follow the ways in which computations are put together.

A computation works within a part of the store when it respects agreement on that part and
changes nothing else. What it does from one store it then does from every other store with
the same part.
-/

set_option autoImplicit false

universe u v w

namespace Effect
variable {σ : Type u} {ε : Type v} {α β : Type w} {agree : σ → σ → Prop}

def Respects (agree : σ → σ → Prop) (m : Effect σ ε α) : Prop :=
  ∀ s t, agree s t → (m s).1 = (m t).1 ∧ agree (m s).2 (m t).2

namespace Respects

theorem pure (a : α) : Respects agree (Pure.pure a : Effect σ ε α) := fun _ _ h => ⟨rfl, h⟩

theorem raise (e : ε) : Respects agree (Effect.raise e : Effect σ ε α) := fun _ _ h => ⟨rfl, h⟩

theorem gets {f : σ → α} (hf : ∀ s t, agree s t → f s = f t) :
    Respects agree (Effect.gets f : Effect σ ε α) :=
  fun s t h => ⟨congrArg Except.ok (hf s t h), h⟩

theorem change {f : σ → α × σ}
    (hf : ∀ s t, agree s t → (f s).1 = (f t).1 ∧ agree (f s).2 (f t).2) :
    Respects agree (Effect.change f : Effect σ ε α) :=
  fun s t h => ⟨congrArg Except.ok (hf s t h).1, (hf s t h).2⟩

theorem bind {m : Effect σ ε α} {f : α → Effect σ ε β} (hm : Respects agree m)
    (hf : ∀ a, Respects agree (f a)) : Respects agree (m >>= f) := by
  intro s t h
  obtain ⟨hresult, hafter⟩ := hm s t h
  rw [bind_run, bind_run]
  cases hs : m s with
  | mk r s' =>
    cases ht : m t with
    | mk q t' =>
      rw [hs, ht] at hresult hafter
      cases hresult
      cases r with
      | ok a => exact hf a s' t' hafter
      | error e => exact ⟨rfl, hafter⟩

theorem forEach {γ : Type w} {body : γ → Effect σ ε PUnit} {cs : List γ}
    (h : ∀ c ∈ cs, Respects agree (body c)) : Respects agree (Effect.forEach body cs) := by
  induction cs with
  | nil => exact pure _
  | cons c cs ih =>
    rw [forEach_cons]
    exact bind (h c List.mem_cons_self) fun _ => ih fun d hd => h d (List.mem_cons_of_mem c hd)

theorem mapEach {γ : Type w} {body : γ → Effect σ ε α} {cs : List γ}
    (h : ∀ c ∈ cs, Respects agree (body c)) : Respects agree (Effect.mapEach body cs) := by
  induction cs with
  | nil => exact pure _
  | cons c cs ih =>
    rw [mapEach_cons]
    refine bind (h c List.mem_cons_self) fun a => bind ?_ fun as => pure _
    exact ih fun d hd => h d (List.mem_cons_of_mem c hd)

end Respects

/-- From the two stores it returns or raises the same, and leaves two that have this in common. -/
def Alike (post : σ → σ → Prop) (m : Effect σ ε α) (s t : σ) : Prop :=
  (m s).1 = (m t).1 ∧ post (m s).2 (m t).2

namespace Alike
variable {mid post : σ → σ → Prop} {m : Effect σ ε α} {s t : σ}

theorem bind_returns {Q : α → Prop} {f : α → Effect σ ε β} (hm : Alike mid m s t)
    (hreturns : Returns Q m) (hf : ∀ a s' t', Q a → mid s' t' → Alike post (f a) s' t')
    (hpost : ∀ s' t', mid s' t' → post s' t') : Alike post (m >>= f) s t := by
  obtain ⟨hresult, hafter⟩ := hm
  unfold Alike
  rw [bind_run, bind_run]
  cases hs : m s with
  | mk r s' =>
    cases ht : m t with
    | mk q t' =>
      rw [hs, ht] at hresult hafter
      cases hresult
      cases r with
      | ok a => exact hf a s' t' (hreturns s a (by rw [hs])) hafter
      | error e => exact ⟨rfl, hpost s' t' hafter⟩

theorem bind {f : α → Effect σ ε β} (hm : Alike mid m s t) (hf : ∀ a, Respects mid (f a)) :
    Alike mid (m >>= f) s t :=
  bind_returns (Q := fun _ => True) hm (fun _ _ _ => trivial) (fun a s' t' _ => hf a s' t')
    fun _ _ h => h

theorem map {f : α → β} (hm : Alike mid m s t) : Alike mid (m >>= fun a => Pure.pure (f a)) s t :=
  bind hm fun a => Respects.pure (f a)

theorem rethrow {f : ε → ε} (hm : Alike mid m s t) :
    Alike mid (Effect.recover m fun e => Effect.raise (f e)) s t := by
  obtain ⟨hresult, hafter⟩ := hm
  unfold Alike Effect.recover
  cases hs : m s with
  | mk r s' =>
    cases ht : m t with
    | mk q t' =>
      rw [hs, ht] at hresult hafter
      cases hresult
      cases r with
      | ok a => exact ⟨rfl, hafter⟩
      | error e => exact ⟨rfl, hafter⟩

/-- What an injective function of the result shows of the result. -/
theorem of_map {f : α → β} (hf : Function.Injective f)
    (h : Alike post (m >>= fun a => Pure.pure (f a)) s t) : Alike post m s t := by
  unfold Alike at h ⊢
  rw [bind_run, bind_run] at h
  cases hs : m s with
  | mk r s' =>
    cases ht : m t with
    | mk q t' =>
      rw [hs, ht] at h
      cases r with
      | ok a =>
        cases q with
        | ok b => exact ⟨congrArg Except.ok (hf (Except.ok.inj h.1)), h.2⟩
        | error e => cases h.1
      | error e =>
        cases q with
        | ok b => cases h.1
        | error e' => exact ⟨congrArg Except.error (Except.error.inj h.1), h.2⟩

end Alike

/-- A part of the store, and what may be read but not written from within it. -/
structure Part (σ : Type u) (η γ : Type v) where
  env : σ → η
  get : σ → γ
  put : γ → σ → σ
  env_put : ∀ c s, env (put c s) = env s
  get_put : ∀ c s, get (put c s) = c
  put_get : ∀ s, put (get s) s = s
  put_put : ∀ c d s, put c (put d s) = put c s

namespace Part
variable {η γ : Type v} (P : Part σ η γ)

def Agree (s t : σ) : Prop := P.env s = P.env t ∧ P.get s = P.get t

/-- The second store is the first with another part. -/
def Only (s s' : σ) : Prop := ∃ c, s' = P.put c s

variable {P}

theorem Only.refl (s : σ) : P.Only s s := ⟨P.get s, (P.put_get s).symm⟩

theorem Only.trans {a b c : σ} (hab : P.Only a b) (hbc : P.Only b c) : P.Only a c := by
  obtain ⟨x, rfl⟩ := hab
  obtain ⟨y, rfl⟩ := hbc
  exact ⟨y, P.put_put y x a⟩

/-- Only the part is changed, and on the part alone it depends what is returned and left. -/
structure Within (P : Part σ η γ) (m : Effect σ ε α) : Prop where
  respects : Respects P.Agree m
  only : Keeps P.Only m

namespace Within
variable {m : Effect σ ε α}

theorem intro (honly : ∀ s, P.Only s (m s).2)
    (hsame : ∀ s t, P.Agree s t → (m s).1 = (m t).1 ∧ P.get (m s).2 = P.get (m t).2) :
    P.Within m := by
  refine ⟨fun s t h => ?_, honly⟩
  obtain ⟨hresult, hget⟩ := hsame s t h
  obtain ⟨c, hc⟩ := honly s
  obtain ⟨d, hd⟩ := honly t
  refine ⟨hresult, ?_, hget⟩
  rw [hc, hd, P.env_put, P.env_put]
  exact h.1

theorem pure (a : α) : P.Within (Pure.pure a : Effect σ ε α) :=
  ⟨Respects.pure a, Keeps.pure Only.refl a⟩

theorem raise (e : ε) : P.Within (Effect.raise e : Effect σ ε α) :=
  ⟨Respects.raise e, Keeps.raise Only.refl e⟩

theorem gets {f : σ → α} (hf : ∀ s t, P.Agree s t → f s = f t) :
    P.Within (Effect.gets f : Effect σ ε α) :=
  ⟨Respects.gets hf, Keeps.gets Only.refl f⟩

theorem bind {f : α → Effect σ ε β} (hm : P.Within m) (hf : ∀ a, P.Within (f a)) :
    P.Within (m >>= f) :=
  ⟨Respects.bind hm.respects fun a => (hf a).respects,
    Keeps.bind Only.trans hm.only fun a => (hf a).only⟩

theorem forEach {δ : Type w} {body : δ → Effect σ ε PUnit} {cs : List δ}
    (h : ∀ c ∈ cs, P.Within (body c)) : P.Within (Effect.forEach body cs) :=
  ⟨Respects.forEach fun c hc => (h c hc).respects,
    Keeps.forEach Only.trans Only.refl fun c hc => (h c hc).only⟩

theorem mapEach {δ : Type w} {body : δ → Effect σ ε α} {cs : List δ}
    (h : ∀ c ∈ cs, P.Within (body c)) : P.Within (Effect.mapEach body cs) :=
  ⟨Respects.mapEach fun c hc => (h c hc).respects,
    Keeps.mapEach Only.trans Only.refl fun c hc => (h c hc).only⟩

/-- What is left is the store with another part. -/
theorem shape (h : P.Within m) {s s' : σ} {r : Except ε α} (hrun : m s = (r, s')) :
    ∃ c, s' = P.put c s := by
  obtain ⟨c, hc⟩ := h.only s
  rw [hrun] at hc
  exact ⟨c, hc⟩

/-- The same happens from every store with the same part. -/
theorem frame (h : P.Within m) {s t : σ} {c : γ} {r : Except ε α}
    (hrun : m s = (r, P.put c s)) (hst : P.Agree s t) : m t = (r, P.put c t) := by
  obtain ⟨hresult, _, hget⟩ := h.respects s t hst
  rw [hrun, P.get_put] at hget
  rw [hrun] at hresult
  cases ht : m t with
  | mk q t' =>
    obtain ⟨d, rfl⟩ := h.shape ht
    rw [ht] at hresult hget
    rw [P.get_put] at hget
    rw [show r = q from hresult, show c = d from hget]

end Within
end Part
end Effect
