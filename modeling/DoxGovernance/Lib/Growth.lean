import DoxGovernance.Lib.Table

/-!
# Tables whose rows stay

`Table.Kept R` says that every row that was stored is still stored under its key, changed no
further than the relation `R` allows. Adding rows, rewriting rows within the relation and any
sequence of the two keep the rows of a table; nothing that keeps them removes one.
-/

set_option autoImplicit false

universe u v

namespace Table
variable {ρ : Type u} {κ : Type v} {key : ρ → κ} [DecidableEq κ]

def Kept (R : ρ → ρ → Prop) (t t' : Table key) : Prop :=
  ∀ k r, t.find? k = some r → ∃ r', t'.find? k = some r' ∧ R r r'

variable {R : ρ → ρ → Prop} {t t' t'' : Table key}

theorem Kept.refl (hR : ∀ r, R r r) (t : Table key) : Kept R t t :=
  fun _ r h => ⟨r, h, hR r⟩

theorem Kept.trans (hR : ∀ {a b c}, R a b → R b c → R a c) (h : Kept R t t')
    (h' : Kept R t' t'') : Kept R t t'' := by
  intro k r hr
  obtain ⟨r', hr', hfirst⟩ := h k r hr
  obtain ⟨r'', hr'', hsecond⟩ := h' k r' hr'
  exact ⟨r'', hr'', hR hfirst hsecond⟩

theorem kept_of_prefix (hR : ∀ r, R r r) (h : t.rows <+: t'.rows) : Kept R t t' := by
  intro k r hr
  obtain ⟨hmem, hkey⟩ := find?_eq_some_iff.mp hr
  exact ⟨r, find?_eq_some_iff.mpr ⟨h.subset hmem, hkey⟩, hR r⟩

theorem kept_modify (p : ρ → Bool) (f : ρ → ρ) (hf : ∀ r, key (f r) = key r)
    (hR : ∀ r, R r r) (hfR : ∀ r, R r (f r)) : Kept R t (t.modify p f hf) := by
  intro k r hr
  obtain ⟨hmem, hkey⟩ := find?_eq_some_iff.mp hr
  refine ⟨if p r then f r else r, find?_eq_some_iff.mpr ⟨List.mem_map_of_mem hmem, ?_⟩, ?_⟩
  · split
    · rw [hf, hkey]
    · exact hkey
  · split
    · exact hfR r
    · exact hR r

end Table

namespace Numbered
variable {ρ : Type u} {key : ρ → Nat} {R : ρ → ρ → Prop} {t : Numbered key}

theorem kept_add (hR : ∀ r, R r r) (mk : Nat → ρ) (hmk : ∀ n, key (mk n) = n) :
    Table.Kept R t.toTable (t.add mk hmk).toTable :=
  Table.kept_of_prefix hR (List.prefix_append t.rows [mk t.next])

theorem kept_modify (hR : ∀ r, R r r) (p : ρ → Bool) (f : ρ → ρ) (hf : ∀ r, key (f r) = key r)
    (hfR : ∀ r, R r (f r)) : Table.Kept R t.toTable (t.modify p f hf).toTable :=
  Table.kept_modify p f hf hR hfR

theorem kept_update (hR : ∀ r, R r r) (k : Nat) (f : ρ → ρ) (hf : ∀ r, key (f r) = key r)
    (hfR : ∀ r, R r (f r)) : Table.Kept R t.toTable (t.update k f hf).toTable :=
  kept_modify hR _ f hf hfR

/-- A property of rows survives when new rows have it and the rewriting keeps it. -/
theorem forall_add {P : ρ → Prop} (h : ∀ r ∈ t.rows, P r) {mk : Nat → ρ}
    (hmk : ∀ n, key (mk n) = n) (hnew : P (mk t.next)) : ∀ r ∈ (t.add mk hmk).rows, P r := by
  intro r hr
  rcases mem_add.mp hr with hold | rfl
  · exact h r hold
  · exact hnew

theorem forall_modify {P : ρ → Prop} (h : ∀ r ∈ t.rows, P r) {p : ρ → Bool} (f : ρ → ρ)
    (hf : ∀ r, key (f r) = key r) (hfP : ∀ r, P r → P (f r)) :
    ∀ r ∈ (t.modify p f hf).rows, P r := by
  intro r hr
  obtain ⟨q, hq, rfl⟩ := List.mem_map.mp hr
  split
  · exact hfP q (h q hq)
  · exact h q hq

end Numbered
