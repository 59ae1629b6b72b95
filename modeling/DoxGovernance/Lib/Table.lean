import Mathlib.Data.List.Nodup
import Mathlib.Data.List.Sort

/-!
# Tables with a unique key

A table is a list of rows together with the proof that no two rows share a key, so a
violation of the unique constraint cannot be built: inserting either yields a table or
fails. A row keeps its position when it is overwritten. Reading with an order and a page
is sorting, dropping and taking; the order in which a query scans the rows is an argument
of the query, so that ties are broken in every possible way.
-/

set_option autoImplicit false

universe u v w

/-- Rows no two of which share a key. -/
structure Table {ρ : Type u} {κ : Type v} (key : ρ → κ) where
  rows : List ρ
  unique : (rows.map key).Nodup

namespace Table
variable {ρ : Type u} {κ : Type v} {key : ρ → κ}

@[ext] theorem ext {t t' : Table key} (h : t.rows = t'.rows) : t = t' := by
  cases t; cases t'; congr

def empty : Table key := ⟨[], List.nodup_nil⟩

instance : EmptyCollection (Table key) := ⟨empty⟩

variable [DecidableEq κ]

def find? (t : Table key) (k : κ) : Option ρ := t.rows.find? fun r => key r = k

/-- Insert rows in one commit; it fails when the commit would break the unique constraint. -/
def insertAll? (t : Table key) (rs : List ρ) : Option (Table key) :=
  if h : ((t.rows ++ rs).map key).Nodup then some ⟨t.rows ++ rs, h⟩ else none

def insert? (t : Table key) (r : ρ) : Option (Table key) := t.insertAll? [r]

/-- Overwrite the row that has the key of `r`, when there is one. -/
def set (t : Table key) (r : ρ) : Table key where
  rows := t.rows.map fun x => if key x = key r then r else x
  unique := by
    have hkeys : (t.rows.map fun x => if key x = key r then r else x).map key = t.rows.map key := by
      rw [List.map_map]
      apply List.map_congr_left
      intro x _
      simp only [Function.comp_apply]
      split
      · exact (by assumption : key x = key r).symm
      · rfl
    rw [hkeys]
    exact t.unique

/-- Rewrite every row that satisfies `p` by a function that keeps the key. -/
def modify (t : Table key) (p : ρ → Bool) (f : ρ → ρ) (hf : ∀ r, key (f r) = key r) : Table key where
  rows := t.rows.map fun x => if p x then f x else x
  unique := by
    have hkeys : (t.rows.map fun x => if p x then f x else x).map key = t.rows.map key := by
      rw [List.map_map]
      apply List.map_congr_left
      intro x _
      simp only [Function.comp_apply]
      split
      · exact hf x
      · rfl
    rw [hkeys]
    exact t.unique

theorem find?_eq_some_iff {t : Table key} {k : κ} {r : ρ} :
    t.find? k = some r ↔ r ∈ t.rows ∧ key r = k := by
  constructor
  · intro h
    exact ⟨List.mem_of_find?_eq_some h, by simpa using List.find?_some h⟩
  · rintro ⟨hr, rfl⟩
    have hsome : (t.find? (key r)).isSome := List.find?_isSome.mpr ⟨r, hr, by simp⟩
    obtain ⟨q, hq⟩ := Option.isSome_iff_exists.mp hsome
    have hkey : key q = key r := by simpa using List.find?_some hq
    rw [hq, List.inj_on_of_nodup_map t.unique (List.mem_of_find?_eq_some hq) hr hkey]

theorem find?_eq_none_iff {t : Table key} {k : κ} :
    t.find? k = none ↔ ∀ r ∈ t.rows, key r ≠ k := by
  simp [find?]

theorem key_of_find? {t : Table key} {k : κ} {r : ρ} (h : t.find? k = some r) : key r = k :=
  (find?_eq_some_iff.mp h).2

theorem mem_of_find? {t : Table key} {k : κ} {r : ρ} (h : t.find? k = some r) : r ∈ t.rows :=
  (find?_eq_some_iff.mp h).1

theorem insertAll?_eq_some {t t' : Table key} {rs : List ρ} (h : t.insertAll? rs = some t') :
    t'.rows = t.rows ++ rs := by
  unfold insertAll? at h
  split at h
  · rw [← Option.some.inj h]
  · cases h

theorem insertAll?_eq_none_iff {t : Table key} {rs : List ρ} :
    t.insertAll? rs = none ↔ ¬((t.rows ++ rs).map key).Nodup := by
  unfold insertAll?
  split
  · exact ⟨fun h => (Option.some_ne_none _ h).elim, fun h => absurd (by assumption) h⟩
  · exact ⟨fun _ => by assumption, fun _ => rfl⟩

theorem insertAll?_isSome_iff {t : Table key} {rs : List ρ} :
    (t.insertAll? rs).isSome ↔ (rs.map key).Nodup ∧ ∀ r ∈ rs, t.find? (key r) = none := by
  rw [Option.isSome_iff_ne_none, ne_eq, insertAll?_eq_none_iff, not_not, List.map_append,
    List.nodup_append]
  constructor
  · rintro ⟨_, hrs, hdisj⟩
    refine ⟨hrs, fun r hr => find?_eq_none_iff.mpr fun q hq => ?_⟩
    exact hdisj _ (List.mem_map_of_mem hq) _ (List.mem_map_of_mem hr)
  · rintro ⟨hrs, hnew⟩
    refine ⟨t.unique, hrs, ?_⟩
    intro a ha b hb
    obtain ⟨q, hq, rfl⟩ := List.mem_map.mp ha
    obtain ⟨r, hr, rfl⟩ := List.mem_map.mp hb
    exact find?_eq_none_iff.mp (hnew r hr) q hq

theorem insert?_isSome_iff {t : Table key} {r : ρ} :
    (t.insert? r).isSome ↔ t.find? (key r) = none := by
  unfold insert?
  rw [insertAll?_isSome_iff]
  simp

theorem find?_insert? {t t' : Table key} {r : ρ} (h : t.insert? r = some t') (k : κ) :
    t'.find? k = if key r = k then some r else t.find? k := by
  have hnew : t.find? (key r) = none := insert?_isSome_iff.mp (by rw [h]; rfl)
  unfold find? at hnew ⊢
  rw [insertAll?_eq_some h, List.find?_append]
  by_cases hk : key r = k
  · rw [← hk, hnew]
    simp
  · simp [hk]

theorem find?_set (t : Table key) (r : ρ) (k : κ) :
    (t.set r).find? k = if key r = k then (t.find? k).map fun _ => r else t.find? k := by
  by_cases hr : key r = k
  · subst hr
    rw [if_pos rfl]
    cases hf : t.find? (key r) with
    | none =>
      apply find?_eq_none_iff.mpr
      intro x hx
      obtain ⟨q, hq, rfl⟩ := List.mem_map.mp hx
      have hne := find?_eq_none_iff.mp hf q hq
      simpa only [if_neg hne] using hne
    | some q =>
      refine find?_eq_some_iff.mpr ⟨List.mem_map.mpr ⟨q, mem_of_find? hf, ?_⟩, rfl⟩
      exact if_pos (key_of_find? hf)
  · rw [if_neg hr]
    have hrows : ∀ x, (key (if key x = key r then r else x) = k) = (key x = k) := by
      intro x
      split
      · rw [show key x = key r by assumption]
      · rfl
    simp only [find?, set, List.find?_map, Function.comp_def, hrows]
    cases hf : t.rows.find? (fun x => key x = k) with
    | none => rfl
    | some q =>
      have hq : key q = k := by simpa using List.find?_some hf
      exact congrArg some (if_neg fun (h : key q = key r) => hr (h.symm.trans hq))

/-- A stored row is the only one with its key that a read can return. -/
theorem find?_of_mem {t : Table key} {r : ρ} (h : r ∈ t.rows) : t.find? (key r) = some r :=
  find?_eq_some_iff.mpr ⟨h, rfl⟩

end Table

/-- A table whose keys are drawn from a supply of unused numbers. -/
structure Numbered {ρ : Type u} (key : ρ → Nat) extends Table key where
  next : Nat
  below : ∀ r ∈ rows, key r < next

namespace Numbered
variable {ρ : Type u} {key : ρ → Nat}

theorem ext {t t' : Numbered key} (hrows : t.rows = t'.rows) (hnext : t.next = t'.next) :
    t = t' := by
  obtain ⟨t, next, below⟩ := t
  obtain ⟨t', next', below'⟩ := t'
  cases Table.ext hrows
  cases hnext
  rfl

def empty : Numbered key := ⟨∅, 0, fun _ h => absurd h List.not_mem_nil⟩

instance : EmptyCollection (Numbered key) := ⟨empty⟩

/-- Insert a row made for the next unused key. -/
def add (t : Numbered key) (mk : Nat → ρ) (hmk : ∀ n, key (mk n) = n) : Numbered key where
  rows := t.rows ++ [mk t.next]
  unique := by
    rw [List.map_append, List.nodup_append]
    refine ⟨t.unique, List.nodup_singleton _, ?_⟩
    intro a ha b hb
    obtain ⟨r, hr, rfl⟩ := List.mem_map.mp ha
    have hlt := t.below r hr
    simp only [List.map_cons, List.map_nil, List.mem_singleton, hmk] at hb
    omega
  next := t.next + 1
  below := by
    intro r hr
    rcases List.mem_append.mp hr with h | h
    · have hlt := t.below r h
      omega
    · rw [List.mem_singleton.mp h, hmk]
      exact Nat.lt_succ_self _

def modify (t : Numbered key) (p : ρ → Bool) (f : ρ → ρ) (hf : ∀ r, key (f r) = key r) :
    Numbered key where
  toTable := t.toTable.modify p f hf
  next := t.next
  below := by
    intro r hr
    obtain ⟨q, hq, rfl⟩ := List.mem_map.mp hr
    have hlt := t.below q hq
    split
    · rw [hf]
      exact hlt
    · exact hlt

def update (t : Numbered key) (k : Nat) (f : ρ → ρ) (hf : ∀ r, key (f r) = key r) : Numbered key :=
  t.modify (fun r => key r = k) f hf

@[simp] theorem rows_add (t : Numbered key) (mk : Nat → ρ) (hmk : ∀ n, key (mk n) = n) :
    (t.add mk hmk).rows = t.rows ++ [mk t.next] := rfl

@[simp] theorem rows_modify (t : Numbered key) (p : ρ → Bool) (f : ρ → ρ)
    (hf : ∀ r, key (f r) = key r) :
    (t.modify p f hf).rows = t.rows.map fun x => if p x then f x else x := rfl

theorem modify_congr {t : Numbered key} {p q : ρ → Bool} {f : ρ → ρ}
    {hf : ∀ r, key (f r) = key r} (h : ∀ r ∈ t.rows, p r = q r) :
    t.modify p f hf = t.modify q f hf := by
  apply ext
  · apply List.map_congr_left
    intro r hr
    rw [h r hr]
  · rfl

@[simp] theorem next_modify (t : Numbered key) (p : ρ → Bool) (f : ρ → ρ)
    (hf : ∀ r, key (f r) = key r) : (t.modify p f hf).next = t.next := rfl

theorem rows_update (t : Numbered key) (k : Nat) (f : ρ → ρ) (hf : ∀ r, key (f r) = key r) :
    (t.update k f hf).rows = t.rows.map fun x => if key x = k then f x else x := by
  simp [update]

theorem add_ne_self (t : Numbered key) (mk : Nat → ρ) (hmk : ∀ n, key (mk n) = n) :
    t.add mk hmk ≠ t := fun h => Nat.succ_ne_self t.next (congrArg Numbered.next h)

theorem mem_add {t : Numbered key} {mk : Nat → ρ} {hmk : ∀ n, key (mk n) = n} {r : ρ} :
    r ∈ (t.add mk hmk).rows ↔ r ∈ t.rows ∨ r = mk t.next := by
  rw [rows_add, List.mem_append, List.mem_singleton]

theorem mem_add_self (t : Numbered key) (mk : Nat → ρ) (hmk : ∀ n, key (mk n) = n) :
    mk t.next ∈ (t.add mk hmk).rows := mem_add.mpr (Or.inr rfl)

theorem mem_add_of_ne {t : Numbered key} {mk : Nat → ρ} {hmk : ∀ n, key (mk n) = n} {r : ρ}
    (hr : r ≠ mk t.next) : r ∈ t.rows ↔ r ∈ (t.add mk hmk).rows := by
  rw [mem_add, or_iff_left hr]

/-- A rewriting by `f` leaves alone the rows that are not rewritten and are no result of `f`. -/
theorem mem_modify_of_not {t : Numbered key} {p : ρ → Bool} {f : ρ → ρ}
    {hf : ∀ r, key (f r) = key r} {r : ρ} (hp : p r = false) (hr : ∀ q, p q = true → f q ≠ r) :
    r ∈ (t.modify p f hf).rows ↔ r ∈ t.rows := by
  rw [rows_modify, List.mem_map]
  constructor
  · rintro ⟨q, hq, rfl⟩
    cases hpq : p q with
    | true =>
      rw [hpq] at hr
      exact absurd (if_pos rfl).symm (hr q hpq)
    | false => simpa [hpq] using hq
  · intro hmem
    exact ⟨r, hmem, if_neg (by simp [hp])⟩

theorem mem_update_of_ne {t : Numbered key} {k : Nat} {f : ρ → ρ} {hf : ∀ r, key (f r) = key r}
    {r : ρ} (hr : key r ≠ k) : r ∈ (t.update k f hf).rows ↔ r ∈ t.rows := by
  apply mem_modify_of_not
  · exact decide_eq_false hr
  · rintro q hq rfl
    exact hr ((hf q).trans (of_decide_eq_true hq))

theorem mem_update_of_find {t : Numbered key} {k : Nat} {f : ρ → ρ} {hf : ∀ r, key (f r) = key r}
    {q r : ρ} (h : t.find? k = some q) (hr : r ≠ q) (hr' : r ≠ f q) :
    r ∈ (t.update k f hf).rows ↔ r ∈ t.rows := by
  have honly : ∀ x ∈ t.rows, key x = k → x = q := by
    intro x hx hkey
    have hfind := Table.find?_of_mem hx
    rw [hkey, h] at hfind
    exact (Option.some.inj hfind).symm
  rw [rows_update, List.mem_map]
  constructor
  · rintro ⟨x, hx, rfl⟩
    split
    · rename_i hkey
      rw [honly x hx hkey, if_pos (Table.key_of_find? h)] at hr'
      exact absurd rfl hr'
    · exact hx
  · intro hmem
    exact ⟨r, hmem, if_neg fun hkey => hr (honly r hmem hkey)⟩

theorem mem_update_self {t : Numbered key} {k : Nat} {f : ρ → ρ} {hf : ∀ r, key (f r) = key r}
    {r : ρ} (h : t.find? k = some r) : f r ∈ (t.update k f hf).rows := by
  rw [rows_update]
  exact List.mem_map.mpr ⟨r, Table.mem_of_find? h, if_pos (Table.key_of_find? h)⟩

theorem find?_update (t : Numbered key) (k : Nat) (f : ρ → ρ) (hf : ∀ r, key (f r) = key r)
    (j : Nat) :
    (t.update k f hf).find? j = if j = k then (t.find? j).map f else t.find? j := by
  have hkey : ∀ x, key (if key x = k then f x else x) = key x := by
    intro x
    split
    · exact hf x
    · rfl
  simp only [Table.find?, rows_update, List.find?_map, Function.comp_def, hkey]
  cases hfind : t.rows.find? fun r => key r = j with
  | none => simp
  | some r =>
    have hr : key r = j := by simpa using List.find?_some hfind
    simp only [Option.map_some, hr]
    split <;> rfl

end Numbered

/-- A numbered table with a unique constraint on a second key. -/
structure Constrained {ρ : Type u} {κ : Type v} (key : ρ → Nat) (other : ρ → κ) extends
    Numbered key where
  distinct : (rows.map other).Nodup

namespace Constrained
variable {ρ : Type u} {κ : Type v} {key : ρ → Nat} {other : ρ → κ}

def empty : Constrained key other := ⟨∅, List.nodup_nil⟩

instance : EmptyCollection (Constrained key other) := ⟨empty⟩

/-- Insert a row made for the next unused key; it fails when its second key is in use. -/
def add? [DecidableEq κ] (t : Constrained key other) (mk : Nat → ρ) (hmk : ∀ n, key (mk n) = n) :
    Option (Constrained key other) :=
  if h : ((t.add mk hmk).rows.map other).Nodup then some ⟨t.add mk hmk, h⟩ else none

/-- Rewrite the row stored under a key by a function that keeps both keys. -/
def update (t : Constrained key other) (k : Nat) (f : ρ → ρ) (hf : ∀ r, key (f r) = key r)
    (hother : ∀ r, other (f r) = other r) : Constrained key other where
  toNumbered := t.toNumbered.update k f hf
  distinct := by
    have hkeys : ((t.toNumbered.update k f hf).rows).map other = t.rows.map other := by
      rw [Numbered.rows_update, List.map_map]
      apply List.map_congr_left
      intro r _
      rw [Function.comp_apply]
      split
      · exact hother r
      · rfl
    rw [hkeys]
    exact t.distinct

/-- The insertion succeeds when no row has the second key of the new one. -/
theorem isSome_add?_iff [DecidableEq κ] {t : Constrained key other} {mk : Nat → ρ}
    {hmk : ∀ n, key (mk n) = n} :
    (t.add? mk hmk).isSome ↔ ∀ r ∈ t.rows, other r ≠ other (mk t.next) := by
  have hnodup : ((t.add mk hmk).rows.map other).Nodup ↔
      ∀ r ∈ t.rows, other r ≠ other (mk t.next) := by
    rw [Numbered.rows_add, List.map_append, List.nodup_append]
    simp [t.distinct]
  rw [← hnodup, add?]
  split
  · rename_i h
    exact iff_of_true rfl h
  · rename_i h
    exact iff_of_false Bool.false_ne_true h

theorem rows_add? [DecidableEq κ] {t t' : Constrained key other} {mk : Nat → ρ}
    {hmk : ∀ n, key (mk n) = n} (h : t.add? mk hmk = some t') : t'.rows = t.rows ++ [mk t.next] := by
  unfold add? at h
  split at h
  · rw [← Option.some.inj h, Numbered.rows_add]
  · cases h

end Constrained

/-- The order in which a query reads the rows it selects: any rearrangement of them. -/
structure Scan (ρ : Type u) where
  order : List ρ → List ρ
  perm : ∀ rows, (order rows).Perm rows

def Scan.stored {ρ : Type u} : Scan ρ := ⟨id, List.Perm.refl⟩

/-- The rows with the newest first. -/
def Scan.newest {ρ : Type u} : Scan ρ := ⟨List.reverse, List.reverse_perm⟩

/-- `SELECT ... WHERE p`: the rows that satisfy a predicate, in the order of the scan. -/
def Table.select {ρ : Type u} {κ : Type v} {key : ρ → κ} (t : Table key) (scan : Scan ρ)
    (p : ρ → Bool) : List ρ := scan.order (t.rows.filter p)

theorem Table.perm_select {ρ : Type u} {κ : Type v} {key : ρ → κ} (t : Table key) (scan : Scan ρ)
    (p : ρ → Bool) : (t.select scan p).Perm (t.rows.filter p) := scan.perm _

theorem Table.mem_select {ρ : Type u} {κ : Type v} {key : ρ → κ} {t : Table key} {scan : Scan ρ}
    {p : ρ → Bool} {r : ρ} : r ∈ t.select scan p ↔ r ∈ t.rows ∧ p r = true := by
  rw [(t.perm_select scan p).mem_iff, List.mem_filter]

/-- `OFFSET` and `LIMIT`. -/
def page {ρ : Type u} (offset limit : Nat) (rows : List ρ) : List ρ := (rows.drop offset).take limit

theorem mem_of_mem_page {ρ : Type u} {offset limit : Nat} {rows : List ρ} {r : ρ}
    (h : r ∈ page offset limit rows) : r ∈ rows :=
  List.mem_of_mem_drop (List.mem_of_mem_take h)

theorem length_page {ρ : Type u} (offset limit : Nat) (rows : List ρ) :
    (page offset limit rows).length = min limit (rows.length - offset) := by
  rw [page, List.length_take, List.length_drop]

/-- A first page that is long enough holds every row. -/
theorem page_of_length_le {ρ : Type u} {limit : Nat} {rows : List ρ} (h : rows.length ≤ limit) :
    page 0 limit rows = rows := by
  rw [page, List.drop_zero, List.take_of_length_le h]

/-- `ORDER BY f ASC`; rows with equal `f` stay in the order of the scan. -/
def orderByAsc {ρ : Type u} {τ : Type v} [LE τ] [DecidableLE τ] (f : ρ → τ) (rows : List ρ) :
    List ρ :=
  rows.insertionSort fun a b => f a ≤ f b

/-- `ORDER BY f DESC`; rows with equal `f` stay in the order of the scan. -/
def orderByDesc {ρ : Type u} {τ : Type v} [LE τ] [DecidableLE τ] (f : ρ → τ) (rows : List ρ) :
    List ρ :=
  rows.insertionSort fun a b => f b ≤ f a

section Order
variable {ρ : Type u} {τ : Type v} [LinearOrder τ] (f : ρ → τ)

theorem perm_orderByAsc (rows : List ρ) : (orderByAsc f rows).Perm rows :=
  List.perm_insertionSort _ rows

theorem perm_orderByDesc (rows : List ρ) : (orderByDesc f rows).Perm rows :=
  List.perm_insertionSort _ rows

theorem mem_orderByAsc {rows : List ρ} {r : ρ} : r ∈ orderByAsc f rows ↔ r ∈ rows :=
  (perm_orderByAsc f rows).mem_iff

theorem mem_orderByDesc {rows : List ρ} {r : ρ} : r ∈ orderByDesc f rows ↔ r ∈ rows :=
  (perm_orderByDesc f rows).mem_iff

theorem pairwise_orderByAsc (rows : List ρ) : (orderByAsc f rows).Pairwise fun a b => f a ≤ f b := by
  have : Std.Total fun a b : ρ => f a ≤ f b := ⟨fun a b => le_total (f a) (f b)⟩
  have : IsTrans ρ fun a b => f a ≤ f b := ⟨fun _ _ _ => le_trans⟩
  exact List.pairwise_insertionSort _ rows

theorem pairwise_orderByDesc (rows : List ρ) :
    (orderByDesc f rows).Pairwise fun a b => f b ≤ f a := by
  have : Std.Total fun a b : ρ => f b ≤ f a := ⟨fun a b => le_total (f b) (f a)⟩
  have : IsTrans ρ fun a b => f b ≤ f a := ⟨fun _ _ _ h h' => le_trans h' h⟩
  exact List.pairwise_insertionSort _ rows

@[simp] theorem length_orderByAsc (rows : List ρ) : (orderByAsc f rows).length = rows.length :=
  (perm_orderByAsc f rows).length_eq

@[simp] theorem length_orderByDesc (rows : List ρ) : (orderByDesc f rows).length = rows.length :=
  (perm_orderByDesc f rows).length_eq

end Order

def Table.ownedBy {ρ : Type u} {κ : Type v} {ο : Type w} [DecidableEq ο] {key : ρ → κ}
    (t : Table key) (owner : ρ → ο) (k : ο) : List ρ := t.rows.filter fun r => owner r = k

section Owned
variable {ρ : Type u} {κ : Type v} {ο : Type w} [DecidableEq ο] {key : ρ → κ} {owner : ρ → ο}
  {k : ο} {t t' : Table key}

theorem filter_ownedBy {p : ρ → Bool} (hp : ∀ r, p r = true → owner r = k) (t : Table key) :
    (t.ownedBy owner k).filter p = t.rows.filter p := by
  rw [Table.ownedBy, List.filter_filter]
  apply List.filter_congr
  intro r _
  cases hpr : p r with
  | false => rw [Bool.false_and]
  | true => rw [Bool.true_and, decide_eq_true (hp r hpr)]

/-- A query for rows of an owner reads the same in tables with the same rows of that owner. -/
theorem select_of_ownedBy (h : t.ownedBy owner k = t'.ownedBy owner k) (scan : Scan ρ)
    {p : ρ → Bool} (hp : ∀ r, p r = true → owner r = k) : t.select scan p = t'.select scan p := by
  rw [Table.select, Table.select, ← filter_ownedBy hp t, ← filter_ownedBy hp t', h]

theorem countP_of_ownedBy (h : t.ownedBy owner k = t'.ownedBy owner k) {p : ρ → Bool}
    (hp : ∀ r, p r = true → owner r = k) : t.rows.countP p = t'.rows.countP p := by
  rw [List.countP_eq_length_filter, List.countP_eq_length_filter, ← filter_ownedBy hp t,
    ← filter_ownedBy hp t', h]

theorem filter_map_of_kept {g : ρ → ρ} (hg : ∀ r, owner (g r) = owner r) (rows : List ρ) :
    (rows.map g).filter (fun r => owner r = k) = (rows.filter fun r => owner r = k).map g := by
  rw [List.filter_map]
  congr 1
  apply List.filter_congr
  intro r _
  rw [Function.comp_apply, hg]

theorem ownedBy_modify {key : ρ → Nat} {t t' : Numbered key} (p : ρ → Bool) {f f' : ρ → ρ}
    {hf : ∀ r, key (f r) = key r} {hf' : ∀ r, key (f' r) = key r}
    (howner : ∀ r, owner (f r) = owner r) (hsame : f = f')
    (h : t.ownedBy owner k = t'.ownedBy owner k) :
    (t.modify p f hf).ownedBy owner k = (t'.modify p f' hf').ownedBy owner k := by
  subst hsame
  have hkept : ∀ r, owner (if p r then f r else r) = owner r := by
    intro r
    split
    · exact howner r
    · rfl
  exact (filter_map_of_kept hkept t.rows).trans
    ((congrArg _ h).trans (filter_map_of_kept hkept t'.rows).symm)

theorem ownedBy_add {key : ρ → Nat} {t t' : Numbered key} {mk mk' : Nat → ρ}
    (hmk : ∀ n, key (mk n) = n) (hmk' : ∀ n, key (mk' n) = n) (hsame : mk = mk')
    (hnext : t.next = t'.next) (h : t.ownedBy owner k = t'.ownedBy owner k) :
    (t.add mk hmk).ownedBy owner k = (t'.add mk' hmk').ownedBy owner k := by
  subst hsame
  unfold Table.ownedBy at h ⊢
  rw [Numbered.rows_add, Numbered.rows_add, List.filter_append, List.filter_append, h, hnext]

variable [DecidableEq κ]

theorem ownedBy_set {k : κ} (t : Table key) (r : ρ) :
    (t.set r).ownedBy key k = (t.ownedBy key k).map fun x => if key x = key r then r else x := by
  apply filter_map_of_kept
  intro x
  split
  · exact (by assumption : key x = key r).symm
  · rfl

theorem find?_of_ownedBy {k : κ} (h : t.ownedBy key k = t'.ownedBy key k) :
    t.find? k = t'.find? k := by
  rw [Table.find?, Table.find?, ← List.head?_filter, ← List.head?_filter]
  exact congrArg List.head? h

theorem ownedBy_insert? {k : κ} {s : Table key} {r : ρ} (h : t.insert? r = some s) :
    s.ownedBy key k = t.ownedBy key k ++ [r].filter fun x => key x = k := by
  rw [Table.ownedBy, Table.insertAll?_eq_some h, List.filter_append]
  rfl

end Owned
