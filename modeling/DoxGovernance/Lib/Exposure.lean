import DoxGovernance.Lib.Effect

/-!
# Which rows a computation concerns

A store holds rows, and the items of an answer show rows. A computation concerns a set of
rows when it changes no row outside the set, and every item of what it returns shows a row
of the set that the store holds afterwards. The rules give this for lookups, for writes,
and for sequences whose earlier parts only change rows of the set.
-/

set_option autoImplicit false

universe u v w x y

/-- Which rows a store holds, and which items show a row. -/
structure Exposure (σ : Type u) (ρ : Type x) (ι : Type y) where
  holds : σ → ρ → Prop
  shows : ρ → ι → Prop

namespace Exposure
variable {σ : Type u} {ε : Type v} {α β : Type w} {ρ : Type x} {ι : Type y} (E : Exposure σ ρ ι)

/-- Outside `S` the two stores hold the same rows. -/
def Confined (S : ρ → Prop) (s s' : σ) : Prop := ∀ r, ¬S r → (E.holds s r ↔ E.holds s' r)

/-- Some row of `S` that the store holds is shown by the item. -/
def Shown (S : ρ → Prop) (s : σ) (item : ι) : Prop := ∃ r, E.holds s r ∧ S r ∧ E.shows r item

def Concerns (S : ρ → Prop) (items : α → List ι) (m : Effect σ ε α) : Prop :=
  ∀ s, E.Confined S s (m s).2 ∧ ∀ a, (m s).1 = .ok a → ∀ item ∈ items a, E.Shown S (m s).2 item

variable {E} {S T : ρ → Prop}

theorem Confined.refl (s : σ) : E.Confined S s s := fun _ _ => Iff.rfl

theorem Confined.trans {a b c : σ} (hab : E.Confined S a b) (hbc : E.Confined S b c) :
    E.Confined S a c := fun r hr => (hab r hr).trans (hbc r hr)

theorem Confined.mono {a b : σ} (h : E.Confined S a b) (hST : ∀ r, S r → T r) :
    E.Confined T a b := fun r hr => h r fun hS => hr (hST r hS)

namespace Concerns
variable {items : α → List ι} {m : Effect σ ε α}

theorem keeps (h : E.Concerns S items m) : Effect.Keeps (E.Confined S) m := fun s => (h s).1

theorem raise (e : ε) : E.Concerns S items (Effect.raise e : Effect σ ε α) :=
  fun s => ⟨Confined.refl s, fun _ h => nomatch h⟩

theorem gets {f : σ → α} (h : ∀ s, ∀ item ∈ items (f s), E.Shown S s item) :
    E.Concerns S items (Effect.gets f : Effect σ ε α) := by
  intro s
  refine ⟨Confined.refl s, fun a ha => ?_⟩
  cases ha
  exact h s

theorem change {f : σ → α × σ} (hconfined : ∀ s, E.Confined S s (f s).2)
    (hshown : ∀ s, ∀ item ∈ items (f s).1, E.Shown S (f s).2 item) :
    E.Concerns S items (Effect.change f : Effect σ ε α) := by
  intro s
  refine ⟨hconfined s, fun a ha => ?_⟩
  cases ha
  exact hshown s

theorem lookup {find : σ → Option α} (hfinds : Effect.Finds find m)
    (hfound : ∀ s a, find s = some a → ∀ item ∈ items a, E.Shown S s item) :
    E.Concerns S items m := by
  intro s
  cases hfind : find s with
  | none =>
    obtain ⟨e, hm⟩ := hfinds.missing hfind
    rw [hm]
    exact ⟨Confined.refl s, fun _ h => nomatch h⟩
  | some a =>
    rw [hfinds.found hfind]
    refine ⟨Confined.refl s, fun b hb => ?_⟩
    cases hb
    exact hfound s a hfind

theorem lookup_bind {find : σ → Option α} {items : β → List ι} {f : α → Effect σ ε β}
    (hfinds : Effect.Finds find m) (hf : ∀ s a, find s = some a → E.Confined S s (f a s).2 ∧
      ∀ b, (f a s).1 = .ok b → ∀ item ∈ items b, E.Shown S (f a s).2 item) :
    E.Concerns S items (m >>= f) := by
  intro s
  cases hfind : find s with
  | none =>
    obtain ⟨e, hm⟩ := hfinds.missing hfind
    rw [Effect.bind_error hm]
    exact ⟨Confined.refl s, fun _ h => nomatch h⟩
  | some a =>
    rw [Effect.bind_ok (hfinds.found hfind)]
    exact hf s a hfind

theorem lookup_change {find : σ → Option α} {items : β → List ι} {f : α → σ → β × σ}
    (hfinds : Effect.Finds find m) (hf : ∀ s a, find s = some a → E.Confined S s (f a s).2 ∧
      ∀ item ∈ items (f a s).1, E.Shown S (f a s).2 item) :
    E.Concerns S items (m >>= fun a => Effect.change (f a)) := by
  apply lookup_bind hfinds
  intro s a hfind
  obtain ⟨hconfined, hshown⟩ := hf s a hfind
  refine ⟨hconfined, fun b hb => ?_⟩
  cases hb
  exact hshown

theorem bind_returns {items : β → List ι} {f : α → Effect σ ε β} {Q : α → Prop}
    (hm : Effect.Keeps (E.Confined S) m) (hreturns : Effect.Returns Q m)
    (hf : ∀ a, Q a → E.Concerns S items (f a)) : E.Concerns S items (m >>= f) := by
  intro s
  have hs := hm s
  rw [Effect.bind_run]
  cases hrun : m s with
  | mk r s' =>
    rw [hrun] at hs
    cases r with
    | error e => exact ⟨hs, fun _ h => nomatch h⟩
    | ok a =>
      obtain ⟨hconfined, hshown⟩ := hf a (hreturns s a (by rw [hrun])) s'
      exact ⟨hs.trans hconfined, hshown⟩

theorem bind {items : β → List ι} {f : α → Effect σ ε β} (hm : Effect.Keeps (E.Confined S) m)
    (hf : ∀ a, E.Concerns S items (f a)) : E.Concerns S items (m >>= f) :=
  bind_returns (Q := fun _ => True) hm (fun _ _ _ => trivial) fun a _ => hf a

/-- A step after which every item is still shown leaves the answer alone. -/
theorem followed {n : α → Effect σ ε PUnit} (hm : E.Concerns S items m)
    (hconfined : ∀ a, Effect.Keeps (E.Confined S) (n a))
    (hshown : ∀ a, Effect.Keeps (fun s s' => ∀ item ∈ items a, E.Shown S s item →
      E.Shown S s' item) (n a)) :
    E.Concerns S items (m >>= fun a => n a >>= fun _ => pure a) := by
  intro s
  have hs := hm s
  rw [Effect.bind_run]
  cases hrun : m s with
  | mk r s' =>
    rw [hrun] at hs
    cases r with
    | error e => exact ⟨hs.1, fun _ h => nomatch h⟩
    | ok a =>
      have hkeep := hconfined a s'
      have hshow := hshown a s'
      dsimp only
      rw [Effect.bind_run]
      cases hnext : n a s' with
      | mk q s'' =>
        rw [hnext] at hkeep hshow
        cases q with
        | error e => exact ⟨hs.1.trans hkeep, fun _ h => nomatch h⟩
        | ok _ =>
          refine ⟨hs.1.trans hkeep, fun b hb item hitem => ?_⟩
          cases hb
          exact hshow item hitem (hs.2 a rfl item hitem)

theorem map {items : β → List ι} {g : α → β} (hm : E.Concerns S (fun a => items (g a)) m) :
    E.Concerns S items (m >>= fun a => pure (g a)) := by
  intro s
  have hs := hm s
  rw [Effect.bind_run]
  cases hrun : m s with
  | mk r s' =>
    rw [hrun] at hs
    cases r with
    | error e => exact ⟨hs.1, fun _ h => nomatch h⟩
    | ok a =>
      refine ⟨hs.1, fun b hb => ?_⟩
      cases hb
      exact hs.2 a rfl

/-- An exception that is answered by another one changes no row. -/
theorem rethrow {e : ε → ε} (hm : E.Concerns S items m) :
    E.Concerns S items (Effect.recover m fun exc => Effect.raise (e exc)) := by
  intro s
  have hs := hm s
  unfold Effect.recover
  cases hrun : m s with
  | mk r s' =>
    rw [hrun] at hs
    cases r with
    | ok a => exact hs
    | error exc => exact ⟨hs.1, fun _ h => nomatch h⟩

theorem silent (hm : Effect.Keeps (E.Confined S) m) : E.Concerns S (fun _ => []) m :=
  fun s => ⟨hm s, fun _ _ _ h => absurd h List.not_mem_nil⟩

end Concerns
end Exposure
