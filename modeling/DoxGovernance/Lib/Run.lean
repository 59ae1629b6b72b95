import Mathlib.Init

/-!
# Runs of a deterministic machine under per-step conditions

A run folds a step function over a list of inputs. `Meets` says that every step of the
run meets a condition on the state it starts from and its input; an invariant kept by
the steps that meet the condition holds at the end of every such run. As `Meets` is
closed under prefixes, this is the same as holding in every state the run passes.
-/

set_option autoImplicit false

universe u v

namespace Run
variable {σ : Type u} {ι : Type v}

/-- Every step of the run from `s` over the inputs meets the condition. -/
def Meets (step : σ → ι → σ) (ok : σ → ι → Prop) : σ → List ι → Prop
  | _, [] => True
  | s, i :: is => ok s i ∧ Meets step ok (step s i) is

variable {step : σ → ι → σ} {ok : σ → ι → Prop}

instance decidableMeets [∀ s i, Decidable (ok s i)] :
    ∀ (s : σ) (is : List ι), Decidable (Meets step ok s is)
  | _, [] => .isTrue trivial
  | s, i :: is =>
    have := decidableMeets (step s i) is
    inferInstanceAs (Decidable (ok s i ∧ Meets step ok (step s i) is))

@[simp] theorem meets_nil (s : σ) : Meets step ok s [] := trivial

theorem meets_true (s : σ) (is : List ι) : Meets step (fun _ _ => True) s is := by
  induction is generalizing s with
  | nil => trivial
  | cons i is ih => exact ⟨trivial, ih (step s i)⟩

theorem meets_append {s : σ} {is js : List ι} :
    Meets step ok s (is ++ js) ↔ Meets step ok s is ∧ Meets step ok (is.foldl step s) js := by
  induction is generalizing s with
  | nil => simp
  | cons i is ih => simp only [List.cons_append, Meets, List.foldl_cons, ih, and_assoc]

theorem Meets.prefix {s : σ} {is js : List ι} (h : Meets step ok s (is ++ js)) :
    Meets step ok s is := (meets_append.mp h).1

theorem meets_iff {s : σ} {is : List ι} : Meets step ok s is ↔
    ∀ before i after, is = before ++ i :: after → ok (before.foldl step s) i := by
  induction is generalizing s with
  | nil => exact iff_of_true trivial fun before i after h => by simp at h
  | cons i is ih =>
    rw [Meets, ih]
    constructor
    · rintro ⟨hfirst, hrest⟩ before j after h
      rcases before with - | ⟨k, before⟩
      · obtain ⟨rfl, -⟩ := List.cons.inj h
        exact hfirst
      · obtain ⟨rfl, htail⟩ := List.cons.inj h
        exact hrest before j after htail
    · intro hall
      refine ⟨hall [] i is rfl, fun before j after h => ?_⟩
      exact hall (i :: before) j after (congrArg (i :: ·) h)

theorem Meets.of_mem {p : ι → Prop} {s : σ} {is : List ι} (hmem : ∀ i ∈ is, p i)
    (h : Meets step ok s is) : Meets step (fun s i => p i ∧ ok s i) s is := by
  induction is generalizing s with
  | nil => trivial
  | cons i is ih =>
    exact ⟨⟨hmem i List.mem_cons_self, h.1⟩, ih (fun j hj => hmem j (List.mem_cons_of_mem i hj)) h.2⟩

/-- The run lemma: what each step that meets the condition keeps, the run keeps. -/
theorem invariant {inv : σ → Prop} (keep : ∀ s i, ok s i → inv s → inv (step s i))
    {s : σ} {is : List ι} (hrun : Meets step ok s is) (hs : inv s) : inv (is.foldl step s) := by
  induction is generalizing s with
  | nil => exact hs
  | cons i is ih => exact ih hrun.2 (keep s i hrun.1 hs)

/-- The run lemma for a relation between the first and the last state. -/
theorem relation {R : σ → σ → Prop} (refl : ∀ s, R s s) (trans : ∀ {a b c}, R a b → R b c → R a c)
    (keep : ∀ s i, ok s i → R s (step s i))
    {s : σ} {is : List ι} (hrun : Meets step ok s is) : R s (is.foldl step s) := by
  induction is generalizing s with
  | nil => exact refl s
  | cons i is ih => exact trans (keep s i hrun.1) (ih hrun.2)

/-- When the steps that keep the invariant are exactly those that meet the condition, the invariant
holds in every state of a run exactly when every step of the run meets the condition. -/
theorem always_iff (inv : σ → Prop) {pre : σ → ι → Prop}
    (keep : ∀ s i, pre s i → inv s → (inv (step s i) ↔ ok s i))
    {s : σ} {is : List ι} (hpre : Meets step pre s is) (hs : inv s) :
    (∀ before after, is = before ++ after → inv (before.foldl step s)) ↔ Meets step ok s is := by
  induction is generalizing s with
  | nil =>
    refine iff_of_true ?_ trivial
    intro before after h
    rw [(List.nil_eq_append_iff.mp h).1]
    exact hs
  | cons i is ih =>
    have hiff := keep s i hpre.1 hs
    constructor
    · intro hall
      have hnext : inv (step s i) := hall [i] is rfl
      refine ⟨hiff.mp hnext, (ih hpre.2 hnext).mp ?_⟩
      intro before after h
      apply hall (i :: before) after
      rw [h, List.cons_append]
    · rintro ⟨hok, hrest⟩ before after h
      have hnext := hiff.mpr hok
      rcases before with - | ⟨j, before⟩
      · exact hs
      · obtain ⟨rfl, htail⟩ := List.cons.inj h
        exact (ih hpre.2 hnext).mpr hrest before after htail

end Run
