import DoxGovernance.Lib.Table
import Mathlib.Data.List.Perm.Basic

/-!
# Reading a table page by page

A client reads pages of a fixed length one after the other, each in a query of its own. The
queries sort by a key that rows may share, and each may order the rows of one key in its
own way. The pages hold every row exactly once, whatever the queries do, exactly when no
page border falls inside a block of rows with one key. A client may also go by a total that
each answer reports: with the number of all rows it reads every page, and with the number of
rows on the page it stops after the first.
-/

set_option autoImplicit false

universe u v

namespace Paging

/-! ### Borders of a sorted list -/

section Sorted
variable {ρ : Type u} {p : ρ → Bool} {l : List ρ}

/-- On a list where `p` can only stop to hold, the elements that satisfy it come first. -/
theorem filter_eq_take (h : l.Pairwise fun a b => p b = true → p a = true) :
    l.filter p = l.take (l.countP p) := by
  induction l with
  | nil => rfl
  | cons a l ih =>
    rw [List.pairwise_cons] at h
    cases hpa : p a with
    | true =>
      rw [List.filter_cons_of_pos hpa, List.countP_cons_of_pos hpa, List.take_succ_cons, ih h.2]
    | false =>
      have hnone : ∀ b ∈ a :: l, ¬p b = true := by
        intro b hb hpb
        rcases List.mem_cons.mp hb with rfl | hb
        · rw [hpa] at hpb
          cases hpb
        · rw [h.1 b hb hpb] at hpa
          cases hpa
      rw [List.filter_eq_nil_iff.mpr hnone, List.countP_eq_zero.mpr hnone, List.take_zero]

/-- An element satisfies such a predicate exactly when it stands before the count. -/
theorem getElem_iff (h : l.Pairwise fun a b => p b = true → p a = true) {i : Nat}
    (hi : i < l.length) : p l[i] = true ↔ i < l.countP p := by
  induction l generalizing i with
  | nil => exact absurd hi (Nat.not_lt_zero _)
  | cons a l ih =>
    rw [List.pairwise_cons] at h
    cases i with
    | zero =>
      rw [List.getElem_cons_zero, List.countP_pos_iff]
      constructor
      · intro hpa
        exact ⟨a, List.mem_cons_self, hpa⟩
      · rintro ⟨b, hb, hpb⟩
        rcases List.mem_cons.mp hb with rfl | hb
        · exact hpb
        · exact h.1 b hb hpb
    | succ i =>
      have hi' : i < l.length := Nat.lt_of_succ_lt_succ hi
      rw [List.getElem_cons_succ, List.countP_cons, ih h.2 hi']
      cases hpa : p a with
      | true => simp
      | false =>
        have hnone : l.countP p = 0 := by
          rw [List.countP_eq_zero]
          intro b hb hpb
          rw [h.1 b hb hpb] at hpa
          cases hpa
        simp [hnone]

end Sorted

theorem flatMap_page {ρ : Type u} (l : List ρ) (limit count : Nat) :
    (List.range count).flatMap (fun k => page (k * limit) limit l) = l.take (count * limit) := by
  induction count with
  | zero => rw [Nat.zero_mul, List.take_zero]; rfl
  | succ count ih =>
    rw [List.range_succ, List.flatMap_append, ih, List.flatMap_singleton, page, Nat.succ_mul,
      List.take_add]

/-- As many pages as it takes to hold so many rows. -/
def pageCount (limit total : Nat) : Nat := (total + limit - 1) / limit

theorem le_pageCount_mul {limit : Nat} (h : 0 < limit) (total : Nat) :
    total ≤ pageCount limit total * limit := by
  have hdiv := Nat.div_add_mod (total + limit - 1) limit
  have hmod := Nat.mod_lt (total + limit - 1) h
  rw [pageCount, Nat.mul_comm]
  omega

theorem lt_pageCount_iff {limit total k : Nat} (h : 0 < limit) :
    k < pageCount limit total ↔ k * limit < total := by
  rw [pageCount, Nat.lt_iff_add_one_le, Nat.le_div_iff_mul_le h, Nat.succ_mul]
  omega

section Ties
variable {ρ : Type u} {τ : Type v} [LinearOrder τ] (f : ρ → τ)

/-- How many rows have a greater key. -/
def above (rows : List ρ) (t : τ) : Nat := rows.countP fun r => t < f r

/-- How many rows have this key or a greater one. -/
def atLeast (rows : List ρ) (t : τ) : Nat := rows.countP fun r => t ≤ f r

/-- No page border falls inside a block of rows with one key. -/
def BlocksWhole (limit : Nat) (rows : List ρ) : Prop :=
  ∀ k t, ¬(above f rows t < k * limit ∧ k * limit < atLeast f rows t)

/-- All the pages, each of the rows in an order of its own. -/
def crawl (limit : Nat) (scans : Nat → Scan ρ) (rows : List ρ) : List ρ :=
  (List.range (pageCount limit rows.length)).flatMap fun k =>
    page (k * limit) limit (orderByDesc f ((scans k).order rows))

section Sorted
variable {f} {l m rows : List ρ}

theorem sorted_above (h : l.Pairwise fun a b => f b ≤ f a) (t : τ) :
    l.Pairwise fun a b => decide (t < f b) = true → decide (t < f a) = true :=
  h.imp fun hab hb => decide_eq_true (lt_of_lt_of_le (of_decide_eq_true hb) hab)

theorem sorted_atLeast (h : l.Pairwise fun a b => f b ≤ f a) (t : τ) :
    l.Pairwise fun a b => decide (t ≤ f b) = true → decide (t ≤ f a) = true :=
  h.imp fun hab hb => decide_eq_true (le_trans (of_decide_eq_true hb) hab)

/-- Where no block is cut, the rows before the border are the same in every order. -/
theorem take_perm {n : Nat} (hl : l.Pairwise fun a b => f b ≤ f a)
    (hm : m.Pairwise fun a b => f b ≤ f a) (hlm : l.Perm m)
    (hwhole : ∀ t, ¬(above f l t < n ∧ n < atLeast f l t)) : (l.take n).Perm (m.take n) := by
  rcases Nat.lt_or_ge n l.length with hn | hn
  · -- the block that starts at the border: the rows before it are those with a greater key
    set t := f l[n] with ht
    have hge : n < atLeast f l t :=
      (getElem_iff (sorted_atLeast hl t) hn).mp (decide_eq_true (le_of_eq ht))
    have hle : ¬n < above f l t := fun hlt =>
      absurd (of_decide_eq_true ((getElem_iff (sorted_above hl t) hn).mpr hlt)) (lt_irrefl t)
    have hsame : above f l t = n := by
      have hcut := hwhole t
      omega
    have hcount : above f m t = n := by
      rw [← hsame]
      exact (hlm.countP_eq _).symm
    have htake : l.take n = l.filter fun r => t < f r := by
      rw [filter_eq_take (sorted_above hl t), ← above, hsame]
    have htake' : m.take n = m.filter fun r => t < f r := by
      rw [filter_eq_take (sorted_above hm t), ← above, hcount]
    rw [htake, htake']
    exact hlm.filter _
  · rw [List.take_of_length_le hn, List.take_of_length_le (hlm.length_eq ▸ hn)]
    exact hlm

/-- So are the rows between two borders. -/
theorem page_perm {limit k : Nat} (hl : l.Pairwise fun a b => f b ≤ f a)
    (hm : m.Pairwise fun a b => f b ≤ f a) (hlm : l.Perm m) (hwhole : BlocksWhole f limit l) :
    (page (k * limit) limit l).Perm (page (k * limit) limit m) := by
  have hbefore := take_perm hl hm hlm (hwhole k)
  have hthrough := take_perm hl hm hlm (hwhole (k + 1))
  rw [Nat.succ_mul, List.take_add, List.take_add] at hthrough
  exact (List.perm_append_left_iff _).mp (hthrough.trans (hbefore.symm.append_right _))

end Sorted

section Crawl
variable {f} {rows : List ρ} {limit : Nat}

theorem blocksWhole_perm {rows' : List ρ} (h : rows.Perm rows') :
    BlocksWhole f limit rows ↔ BlocksWhole f limit rows' := by
  have habove : ∀ t, above f rows t = above f rows' t := fun t => h.countP_eq _
  have hleast : ∀ t, atLeast f rows t = atLeast f rows' t := fun t => h.countP_eq _
  simp only [BlocksWhole, habove, hleast]

theorem crawl_perm (hlimit : 0 < limit) (hwhole : BlocksWhole f limit rows)
    (scans : Nat → Scan ρ) : (crawl f limit scans rows).Perm rows := by
  have hsorted := perm_orderByDesc f rows
  have hpages : (crawl f limit scans rows).Perm
      ((List.range (pageCount limit rows.length)).flatMap fun k =>
        page (k * limit) limit (orderByDesc f rows)) := by
    apply List.Perm.flatMap_left
    intro k _
    have hscan := (perm_orderByDesc f _).trans ((scans k).perm rows)
    exact page_perm (pairwise_orderByDesc f _) (pairwise_orderByDesc f rows)
      (hscan.trans hsorted.symm) ((blocksWhole_perm hscan).mpr hwhole)
  refine hpages.trans ?_
  rw [flatMap_page, List.take_of_length_le]
  · exact hsorted
  · rw [length_orderByDesc]
    exact le_pageCount_mul hlimit _

/-! ### Two rows of one key, exchanged -/

def exchange (i : Nat) (l : List ρ) : List ρ :=
  match l.drop i with
  | a :: b :: rest => l.take i ++ b :: a :: rest
  | _ => l

theorem exchange_perm (i : Nat) (l : List ρ) : (exchange i l).Perm l := by
  unfold exchange
  split
  · rename_i a b rest hdrop
    have hl := List.take_append_drop i l
    rw [hdrop] at hl
    calc (l.take i ++ b :: a :: rest).Perm (l.take i ++ a :: b :: rest) :=
          (List.Perm.swap a b rest).append_left _
      _ = l := hl
  · exact List.Perm.refl l

theorem exchange_append (A : List ρ) (a b : ρ) (B : List ρ) :
    exchange A.length (A ++ a :: b :: B) = A ++ b :: a :: B := by
  unfold exchange
  rw [List.drop_left, List.take_left]

/-- A query that reads the rows sorted, but for an exchange. -/
def exchanged (f : ρ → τ) (i : Nat) : Scan ρ where
  order := fun rows => exchange i (orderByDesc f rows)
  perm := fun rows => (exchange_perm i _).trans (perm_orderByDesc f rows)

theorem mem_page_of_getElem? {l : List ρ} {offset i : Nat} {a : ρ} (ha : l[i]? = some a)
    (hlow : offset ≤ i) (hhigh : i < offset + limit) : a ∈ page offset limit l := by
  have hget : (page offset limit l)[i - offset]? = some a := by
    rw [page, List.getElem?_take, if_pos (by omega), List.getElem?_drop, Nat.add_sub_cancel' hlow]
    exact ha
  exact List.mem_of_getElem? hget

/-- Where a border falls inside a block, two rows with one key stand on its two sides. -/
theorem split_at_border {l : List ρ} {n : Nat} {t : τ} (hl : l.Pairwise fun a b => f b ≤ f a)
    (hlow : above f l t < n) (hhigh : n < atLeast f l t) :
    ∃ A a b B, l = A ++ a :: b :: B ∧ A.length + 1 = n ∧ f a = f b := by
  have hn : n < l.length := lt_of_lt_of_le hhigh List.countP_le_length
  obtain ⟨i, rfl⟩ : ∃ i, n = i + 1 := ⟨n - 1, by omega⟩
  have hi : i < l.length := Nat.lt_of_succ_lt hn
  have hnext : t ≤ f l[i + 1] :=
    of_decide_eq_true ((getElem_iff (sorted_atLeast hl t) hn).mpr hhigh)
  have hlast : ¬t < f l[i] := by
    intro hlt
    have habove : i < above f l t := (getElem_iff (sorted_above hl t) hi).mp (decide_eq_true hlt)
    omega
  have horder : f l[i + 1] ≤ f l[i] :=
    List.pairwise_iff_getElem.mp hl i (i + 1) hi hn (Nat.lt_succ_self i)
  refine ⟨l.take i, l[i], l[i + 1], l.drop (i + 2), ?_, ?_, ?_⟩
  · rw [← List.drop_eq_getElem_cons hn, ← List.drop_eq_getElem_cons hi, List.take_append_drop]
  · rw [List.length_take, Nat.min_eq_left (Nat.le_of_lt hi)]
  · exact le_antisymm ((not_lt.mp hlast).trans hnext) horder

/-- Rows of one key come back in the order in which the query read them. -/
theorem orderByDesc_exchanged {A B : List ρ} {a b : ρ} (hl : orderByDesc f rows = A ++ a :: b :: B)
    (hab : f a = f b) : orderByDesc f ((exchanged f A.length).order rows) = A ++ b :: a :: B := by
  have hkeys : (A ++ b :: a :: B).map f = (A ++ a :: b :: B).map f := by
    simp only [List.map_append, List.map_cons, hab]
  have hswapped : (A ++ b :: a :: B).Pairwise fun x y => f y ≤ f x := by
    have hsorted := pairwise_orderByDesc f rows
    rw [hl, ← List.pairwise_map (R := fun s t => t ≤ s)] at hsorted
    rw [← List.pairwise_map (R := fun s t => t ≤ s), hkeys]
    exact hsorted
  show orderByDesc f (exchange A.length (orderByDesc f rows)) = _
  rw [hl, exchange_append]
  exact hswapped.insertionSort_eq

/-- Then a query that exchanges the two makes the pages on its two sides share a row. -/
theorem exists_crawl_not_nodup (hlimit : 0 < limit) (hcut : ¬BlocksWhole f limit rows) :
    ∃ scans, ¬(crawl f limit scans rows).Nodup := by
  simp only [BlocksWhole, not_forall, not_not] at hcut
  obtain ⟨k, t, hlow, hhigh⟩ := hcut
  have hsorted := pairwise_orderByDesc f rows
  rw [above, ← (perm_orderByDesc f rows).countP_eq, ← above] at hlow
  rw [atLeast, ← (perm_orderByDesc f rows).countP_eq, ← atLeast] at hhigh
  obtain ⟨A, a, b, B, hl, hlength, hab⟩ := split_at_border hsorted hlow hhigh
  obtain ⟨j, rfl⟩ : ∃ j, k = j + 1 := by
    cases k with
    | zero => rw [Nat.zero_mul] at hlength; cases hlength
    | succ j => exact ⟨j, rfl⟩
  have htotal : (j + 1) * limit < rows.length := by
    rw [← length_orderByDesc f rows]
    exact lt_of_lt_of_le hhigh List.countP_le_length
  have hexchanged := orderByDesc_exchanged hl hab
  have hcount := (lt_pageCount_iff hlimit).mpr htotal
  refine ⟨fun i => if i = j + 1 then exchanged f A.length else .stored, fun hnodup => ?_⟩
  have hdisjoint := List.pairwise_iff_getElem.mp (List.nodup_flatMap.mp hnodup).2 j (j + 1)
    (by rw [List.length_range]; omega) (by rw [List.length_range]; exact hcount) (Nat.lt_succ_self j)
  change List.Disjoint _ _ at hdisjoint
  rw [List.getElem_range, List.getElem_range] at hdisjoint
  dsimp only at hdisjoint
  rw [if_neg (by omega), if_pos rfl, hexchanged] at hdisjoint
  rw [Nat.succ_mul] at hlength
  refine hdisjoint (a := a) ?_ ?_
  · apply mem_page_of_getElem? (i := A.length)
    · show (orderByDesc f rows)[A.length]? = some a
      rw [hl, List.getElem?_append_right (Nat.le_refl _), Nat.sub_self]
      rfl
    · omega
    · omega
  · apply mem_page_of_getElem? (i := A.length + 1)
    · rw [List.getElem?_append_right (Nat.le_add_right _ 1), Nat.add_sub_cancel_left]
      rfl
    · rw [Nat.succ_mul]
      omega
    · rw [Nat.succ_mul]
      omega

/-- The pages hold every row exactly once, in whatever order the queries read rows of one key,
exactly when no border falls inside a block. -/
theorem crawl_perm_iff (hlimit : 0 < limit) (hrows : rows.Nodup) :
    (∀ scans, (crawl f limit scans rows).Perm rows) ↔ BlocksWhole f limit rows := by
  constructor
  · intro h
    by_contra hcut
    obtain ⟨scans, hrepeats⟩ := exists_crawl_not_nodup hlimit hcut
    exact hrepeats ((h scans).nodup_iff.mpr hrows)
  · exact crawl_perm hlimit

end Crawl

/-- Rows of distinct keys form no blocks. -/
theorem blocksWhole_of_nodup {limit : Nat} {rows : List ρ} (h : (rows.map f).Nodup) :
    BlocksWhole f limit rows := by
  intro k t
  have hone : (rows.map f).count t ≤ 1 := List.nodup_iff_count_le_one.mp h t
  have hsplit : ∀ l : List ρ, atLeast f l t = above f l t + (l.map f).count t := by
    intro l
    induction l with
    | nil => rfl
    | cons r l ih =>
      unfold atLeast above at ih ⊢
      rw [List.countP_cons, List.countP_cons, List.map_cons, List.count_cons, ih]
      rcases lt_trichotomy t (f r) with hlt | heq | hgt
      · simp [hlt, hlt.le, hlt.ne']
        omega
      · simp [heq]
        omega
      · simp [hgt.not_gt, hgt.not_ge, hgt.ne]
  rw [hsplit]
  omega

end Ties

/-! ### Going by a reported total -/

section Total
variable {ρ : Type u} {limit : Nat} {answer : Nat → List ρ × Nat}

/-- The rows received from an offset on by a client that asks for the next page as long as its
offset is below the total of the last answer. -/
inductive Receives (limit : Nat) (answer : Nat → List ρ × Nat) : Nat → List ρ → Prop
  | last {offset : Nat} (h : ¬offset + limit < (answer offset).2) :
      Receives limit answer offset (answer offset).1
  | next {offset : Nat} {rest : List ρ} (h : offset + limit < (answer offset).2)
      (hrest : Receives limit answer (offset + limit) rest) :
      Receives limit answer offset ((answer offset).1 ++ rest)

/-- From offset 0 on, the client receives every row exactly once. -/
def Complete (limit : Nat) (answer : Nat → List ρ × Nat) (rows : List ρ) : Prop :=
  ∃ received, Receives limit answer 0 received ∧ received.Perm rows

theorem receives_iff_of_le {offset : Nat} {received : List ρ}
    (h : (answer offset).2 ≤ offset + limit) :
    Receives limit answer offset received ↔ received = (answer offset).1 := by
  constructor
  · intro hreceives
    cases hreceives with
    | last => rfl
    | next hmore => exact absurd hmore (Nat.not_lt.mpr h)
  · rintro rfl
    exact Receives.last (Nat.not_lt.mpr h)

/-- A client of an answer that shows each row by `g` receives the rows shown by `g`. -/
theorem Receives.map {β : Type v} (g : ρ → β) {offset : Nat} {received : List ρ}
    (h : Receives limit answer offset received) :
    Receives limit (fun k => ((answer k).1.map g, (answer k).2)) offset (received.map g) := by
  induction h with
  | last hlast => exact Receives.last hlast
  | next hmore _ ih =>
    rw [List.map_append]
    exact Receives.next hmore ih

theorem Complete.map {β : Type v} (g : ρ → β) {rows : List ρ} (h : Complete limit answer rows) :
    Complete limit (fun k => ((answer k).1.map g, (answer k).2)) (rows.map g) := by
  obtain ⟨received, hreceives, hperm⟩ := h
  exact ⟨received.map g, hreceives.map g, hperm.map g⟩

/-- A total that is the length of the page is never above the next offset. -/
theorem complete_of_page_total_iff {sorted rows : List ρ} (hsorted : sorted.Perm rows)
    (hanswer : answer 0 = (page 0 limit sorted, (page 0 limit sorted).length)) :
    Complete limit answer rows ↔ rows.length ≤ limit := by
  have hle : (answer 0).2 ≤ 0 + limit := by
    rw [hanswer, length_page]
    omega
  unfold Complete
  simp only [receives_iff_of_le hle, exists_eq_left, hanswer]
  constructor
  · intro hperm
    rw [← hperm.length_eq, length_page]
    exact Nat.min_le_left _ _
  · intro hlength
    rw [page_of_length_le (hsorted.length_eq ▸ hlength)]
    exact hsorted

theorem receives_pages (hlimit : 0 < limit) {total : Nat} (htotal : ∀ k, (answer k).2 = total)
    (m k : Nat) (hm : k + (m + 1) = pageCount limit total) :
    Receives limit answer (k * limit)
      ((List.range (m + 1)).flatMap fun i => (answer ((k + i) * limit)).1) := by
  induction m generalizing k with
  | zero =>
    have hlast : ¬k * limit + limit < (answer (k * limit)).2 := by
      rw [htotal, ← Nat.succ_mul, ← lt_pageCount_iff hlimit]
      omega
    have hpage : ((List.range (0 + 1)).flatMap fun i => (answer ((k + i) * limit)).1) =
        (answer (k * limit)).1 := by simp
    rw [hpage]
    exact Receives.last hlast
  | succ m ih =>
    have hmore : k * limit + limit < (answer (k * limit)).2 := by
      rw [htotal, ← Nat.succ_mul, ← lt_pageCount_iff hlimit]
      omega
    have hrest := ih (k + 1) (by omega)
    rw [Nat.succ_mul] at hrest
    have hpages : ((List.range (m + 1 + 1)).flatMap fun i => (answer ((k + i) * limit)).1) =
        (answer (k * limit)).1 ++
          (List.range (m + 1)).flatMap fun i => (answer ((k + 1 + i) * limit)).1 := by
      rw [List.range_succ_eq_map, List.flatMap_cons, List.flatMap_map]
      simp only [Nat.add_zero, Nat.succ_eq_add_one, Nat.add_assoc, Nat.add_comm 1]
    rw [hpages]
    exact Receives.next hmore hrest

/-- With the number of all rows as the total, a client reads every page. -/
theorem complete_of_count {τ : Type v} [LinearOrder τ] {f : ρ → τ} {rows : List ρ}
    {scans : Nat → Scan ρ} (hlimit : 0 < limit) (hrows : (rows.map f).Nodup)
    (hanswer : ∀ k, answer k =
      (page k limit (orderByDesc f ((scans k).order rows)), rows.length)) :
    Complete limit answer rows := by
  have hcrawl := crawl_perm hlimit (blocksWhole_of_nodup f hrows) fun k => scans (k * limit)
  have htotal : ∀ k, (answer k).2 = rows.length := fun k => by rw [hanswer]
  cases hcount : pageCount limit rows.length with
  | zero =>
    have hempty : ¬0 * limit < rows.length := by
      rw [← lt_pageCount_iff hlimit, hcount]
      exact Nat.lt_irrefl 0
    have hnil : rows = [] := List.length_eq_zero_iff.mp (by omega)
    refine ⟨_, Receives.last (by rw [htotal]; omega), ?_⟩
    rw [hanswer, page_of_length_le (by simp [hnil, (scans 0).perm _ |>.length_eq])]
    exact (perm_orderByDesc f _).trans ((scans 0).perm rows)
  | succ m =>
    have hreceives := receives_pages hlimit htotal m 0 (by omega)
    rw [Nat.zero_mul] at hreceives
    refine ⟨_, hreceives, ?_⟩
    unfold crawl at hcrawl
    rw [hcount] at hcrawl
    simpa only [hanswer, Nat.zero_add] using hcrawl

end Total
end Paging
