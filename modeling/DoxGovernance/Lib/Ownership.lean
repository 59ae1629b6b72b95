import DoxGovernance.Lib.Table

/-!
# The rows of an owner

A table extends another one when the rows of the first are still in their places, rewritten
without a change of key or owner, and further rows follow. When besides no row of an owner has
appeared or gone, the rows of that owner are the same. A table can be cut down to the rows of one
owner, and drawn on from a larger key.
-/

set_option autoImplicit false

universe u v w

section Ownership
variable {ρ : Type u} {κ : Type v} {ο : Type w} {key : ρ → κ} {owner : ρ → ο}
  {t t' t'' : Table key}

def Table.Extends (owner : ρ → ο) (t t' : Table key) : Prop :=
  ∃ (g : ρ → ρ) (new : List ρ), t'.rows = t.rows.map g ++ new ∧
    ∀ r, key (g r) = key r ∧ owner (g r) = owner r

namespace Table

theorem Extends.of_append {new : List ρ} (h : t'.rows = t.rows ++ new) : t.Extends owner t' :=
  ⟨id, new, by rw [h, List.map_id], fun _ => ⟨rfl, rfl⟩⟩

theorem Extends.refl (t : Table key) : t.Extends owner t := .of_append (List.append_nil _).symm

theorem Extends.trans (h : t.Extends owner t') (h' : t'.Extends owner t'') :
    t.Extends owner t'' := by
  obtain ⟨g, new, hrows, hg⟩ := h
  obtain ⟨g', new', hrows', hg'⟩ := h'
  refine ⟨g' ∘ g, new.map g' ++ new', ?_, fun r => ?_⟩
  · rw [hrows', hrows, List.map_append, List.map_map, List.append_assoc]
  · exact ⟨(hg' (g r)).1.trans (hg r).1, (hg' (g r)).2.trans (hg r).2⟩

theorem Extends.of_modify {p : ρ → Bool} {f : ρ → ρ} (hf : ∀ r, key (f r) = key r)
    (howner : ∀ r, owner (f r) = owner r) : t.Extends owner (t.modify p f hf) := by
  refine ⟨fun r => if p r then f r else r, [], (List.append_nil _).symm, fun r => ?_⟩
  dsimp only
  split
  · exact ⟨hf r, howner r⟩
  · exact ⟨rfl, rfl⟩

variable [DecidableEq ο] {k : ο}

theorem mem_ownedBy {r : ρ} : r ∈ t.ownedBy owner k ↔ r ∈ t.rows ∧ owner r = k := by
  rw [ownedBy, List.mem_filter, decide_eq_true_eq]

theorem mem_of_ownedBy (h : t.ownedBy owner k = t'.ownedBy owner k) {r : ρ} (hr : owner r = k) :
    r ∈ t.rows ↔ r ∈ t'.rows := by
  have hmem : r ∈ t.ownedBy owner k ↔ r ∈ t'.ownedBy owner k := by rw [h]
  simpa only [mem_ownedBy, hr, and_true] using hmem

/-- The rows of an owner are the same, when none has appeared or gone. -/
theorem Extends.ownedBy_eq (h : t.Extends owner t')
    (hmem : ∀ r, owner r = k → (r ∈ t.rows ↔ r ∈ t'.rows)) :
    t'.ownedBy owner k = t.ownedBy owner k := by
  obtain ⟨g, new, hrows, hg⟩ := h
  have hunique := t'.unique
  rw [hrows, List.map_append, List.nodup_append] at hunique
  obtain ⟨-, -, hapart⟩ := hunique
  have hold : (t.rows.map g).filter (fun r => owner r = k) = t.ownedBy owner k := by
    refine (filter_map_of_kept (fun r => (hg r).2) t.rows).trans ?_
    refine (List.map_congr_left fun r hr => ?_).trans (List.map_id _)
    obtain ⟨hr, howner⟩ := mem_ownedBy.mp hr
    have hg' : g r ∈ t'.rows := by
      rw [hrows]
      exact List.mem_append_left _ (List.mem_map_of_mem hr)
    have hmem' : g r ∈ t.rows := (hmem _ ((hg r).2.trans howner)).mpr hg'
    exact List.inj_on_of_nodup_map t.unique hmem' hr (hg r).1
  have hnew : new.filter (fun r => owner r = k) = [] := by
    rw [List.filter_eq_nil_iff]
    intro n hn howner
    have hn' : n ∈ t'.rows := by
      rw [hrows]
      exact List.mem_append_right _ hn
    have hstored : n ∈ t.rows := (hmem n (of_decide_eq_true howner)).mpr hn'
    refine hapart (key n) ?_ (key n) (List.mem_map_of_mem hn) rfl
    rw [List.map_map]
    exact List.mem_map.mpr ⟨n, hstored, (hg n).1⟩
  rw [ownedBy, hrows, List.filter_append, hold, hnew, List.append_nil]

theorem findRow_of_ownedBy (h : t.ownedBy owner k = t'.ownedBy owner k) {p : ρ → Bool}
    (hp : ∀ r, p r = true → owner r = k) : t.rows.find? p = t'.rows.find? p := by
  rw [← List.head?_filter, ← List.head?_filter, ← filter_ownedBy hp t, ← filter_ownedBy hp t', h]

theorem nodup_ownedBy (t : Table key) : ((t.ownedBy owner k).map key).Nodup :=
  t.unique.sublist (List.filter_sublist.map key)

/-- The rows of one owner. -/
def only (t : Table key) (owner : ρ → ο) (k : ο) : Table key := ⟨t.ownedBy owner k, t.nodup_ownedBy⟩

theorem ownedBy_only (t : Table key) : (t.only owner k).ownedBy owner k = t.ownedBy owner k := by
  unfold only ownedBy
  rw [List.filter_filter]
  simp only [Bool.and_self]

variable [DecidableEq κ]

/-- A row under a key that only the owner uses is found among the rows of the owner alone. -/
theorem find?_of_only (hsame : t.ownedBy owner k = t'.ownedBy owner k)
    (honly : ∀ r ∈ t'.rows, owner r = k) {id : κ} (hid : ∀ r ∈ t.rows, key r = id → owner r = k) :
    t.find? id = t'.find? id := by
  cases hfind : t.find? id with
  | some r =>
    obtain ⟨hr, hkey⟩ := find?_eq_some_iff.mp hfind
    exact (find?_eq_some_iff.mpr ⟨(mem_of_ownedBy hsame (hid r hr hkey)).mp hr, hkey⟩).symm
  | none =>
    symm
    rw [find?_eq_none_iff] at hfind ⊢
    exact fun r hr => hfind r ((mem_of_ownedBy hsame (honly r hr)).mpr hr)

/-- Where the key is the owner, an owner has one row at most. -/
theorem ownedBy_key {k : κ} (t : Table key) : t.ownedBy key k = (t.find? k).toList := by
  cases hfind : t.find? k with
  | none =>
    rw [find?_eq_none_iff] at hfind
    exact List.filter_eq_nil_iff.mpr fun r hr hk => hfind r hr (of_decide_eq_true hk)
  | some r =>
    obtain ⟨hr, hkey⟩ := find?_eq_some_iff.mp hfind
    by_contra hne
    have hnodup : (t.ownedBy key k).Nodup := List.Nodup.of_map key t.nodup_ownedBy
    rcases (hnodup.ne_singleton_iff r).mp hne with hnil | ⟨q, hq, hqr⟩
    · rw [ownedBy, List.filter_eq_nil_iff] at hnil
      exact hnil r hr (decide_eq_true hkey)
    · obtain ⟨hq, hqk⟩ := mem_ownedBy.mp hq
      exact hqr (List.inj_on_of_nodup_map t.unique hq hr (hqk.trans hkey.symm))

theorem ownedBy_key_eq {k : κ} (hmem : ∀ r, key r = k → (r ∈ t.rows ↔ r ∈ t'.rows)) :
    t.ownedBy key k = t'.ownedBy key k := by
  have hfind : t.find? k = t'.find? k := by
    apply Option.ext
    intro r
    rw [find?_eq_some_iff, find?_eq_some_iff]
    exact and_congr_left (hmem r)
  rw [ownedBy_key, ownedBy_key, hfind]

end Table

namespace Numbered
variable {key : ρ → Nat}

/-- Rewriting a row changes no row of another owner than its own. -/
theorem mem_update_of_owner {t : Numbered key} {k : ο} {id : Nat} {f : ρ → ρ}
    {hf : ∀ r, key (f r) = key r} (howner : ∀ r, owner (f r) = owner r)
    (hid : ∀ r ∈ t.rows, key r = id → owner r = k) {r : ρ} (hr : owner r ≠ k) :
    r ∈ t.rows ↔ r ∈ (t.update id f hf).rows := by
  by_cases hkey : key r = id
  · refine iff_of_false (fun hmem => hr (hid r hmem hkey)) fun hmem => ?_
    rw [rows_update, List.mem_map] at hmem
    obtain ⟨q, hq, rfl⟩ := hmem
    split at hkey
    · rename_i hqid
      rw [if_pos hqid, howner] at hr
      exact hr (hid q hq hqid)
    · exact absurd hkey (by assumption)
  · exact (mem_update_of_ne hkey).symm

theorem extends_modify (t : Numbered key) (p : ρ → Bool) {f : ρ → ρ} (hf : ∀ r, key (f r) = key r)
    (howner : ∀ r, owner (f r) = owner r) : t.Extends owner (t.modify p f hf).toTable :=
  .of_modify hf howner

theorem extends_update (t : Numbered key) (id : Nat) {f : ρ → ρ} (hf : ∀ r, key (f r) = key r)
    (howner : ∀ r, owner (f r) = owner r) : t.Extends owner (t.update id f hf).toTable :=
  t.extends_modify _ hf howner

theorem extends_add (t : Numbered key) (mk : Nat → ρ) (hmk : ∀ n, key (mk n) = n) :
    t.Extends owner (t.add mk hmk).toTable :=
  .of_append (rows_add t mk hmk)

theorem below_ownedBy [DecidableEq ο] {k : ο} (t : Numbered key) :
    ∀ r ∈ t.ownedBy owner k, key r < t.next :=
  fun r hr => t.below r (Table.mem_ownedBy.mp hr).1

def only [DecidableEq ο] (t : Numbered key) (owner : ρ → ο) (k : ο) : Numbered key :=
  ⟨t.toTable.only owner k, t.next, t.below_ownedBy⟩

/-- The keys from a number on, where none of them is in use. -/
def drawing (t : Numbered key) (n : Nat) : Numbered key :=
  if h : ∀ r ∈ t.rows, key r < n then ⟨t.toTable, n, h⟩ else t

@[simp] theorem toTable_drawing (t : Numbered key) (n : Nat) :
    (t.drawing n).toTable = t.toTable := by
  unfold drawing
  split <;> rfl

theorem next_drawing {t : Numbered key} {n : Nat} (h : ∀ r ∈ t.rows, key r < n) :
    (t.drawing n).next = n := by
  rw [drawing, dif_pos h]

end Numbered

namespace Constrained
variable {key : ρ → Nat} {other : ρ → κ}

theorem distinct_ownedBy [DecidableEq ο] {k : ο} (t : Constrained key other) :
    ((t.ownedBy owner k).map other).Nodup :=
  t.distinct.sublist (List.filter_sublist.map other)

def only [DecidableEq ο] (t : Constrained key other) (owner : ρ → ο) (k : ο) :
    Constrained key other :=
  ⟨t.toNumbered.only owner k, t.distinct_ownedBy⟩

theorem distinct_drawing (t : Constrained key other) (n : Nat) :
    ((t.toNumbered.drawing n).rows.map other).Nodup := by
  rw [Numbered.toTable_drawing]
  exact t.distinct

def drawing (t : Constrained key other) (n : Nat) : Constrained key other :=
  ⟨t.toNumbered.drawing n, t.distinct_drawing n⟩

@[simp] theorem toNumbered_drawing (t : Constrained key other) (n : Nat) :
    (t.drawing n).toNumbered = t.toNumbered.drawing n := rfl

end Constrained

end Ownership
