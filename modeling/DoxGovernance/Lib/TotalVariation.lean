import Mathlib.Algebra.BigOperators.Field
import Mathlib.Algebra.Order.BigOperators.Group.Finset
import Mathlib.Algebra.Order.BigOperators.Ring.Finset
import Mathlib.Algebra.Order.Field.Basic
import Mathlib.Tactic.FieldSimp
import Mathlib.Tactic.Linarith
import Mathlib.Tactic.Ring

/-!
# Total variation distance

The distance of two distributions over a finite set of points is half the sum of their
differences. For equal totals it is the greatest difference that the two make on any set of
points. The distribution of a nonempty list gives every element the share of its occurrences,
and one more element moves it only a little.
-/

set_option autoImplicit false

universe u v

namespace TotalVariation
variable {α : Type u} {K : Type v} [Field K] [LinearOrder K]

/-- Half the sum of the differences over the points of `s`. -/
def distance (s : Finset α) (p q : α → K) : K := (∑ x ∈ s, |p x - q x|) / 2

theorem distance_comm (s : Finset α) (p q : α → K) : distance s p q = distance s q p := by
  simp only [distance, abs_sub_comm]

variable [IsStrictOrderedRing K]

section Metric
variable {s t : Finset α} {p q r : α → K}

theorem distance_nonneg (s : Finset α) (p q : α → K) : 0 ≤ distance s p q := by
  have hsum : 0 ≤ ∑ x ∈ s, |p x - q x| := Finset.sum_nonneg fun x _ => abs_nonneg _
  unfold distance
  linarith

theorem distance_triangle (s : Finset α) (p q r : α → K) :
    distance s p r ≤ distance s p q + distance s q r := by
  have hsum : ∑ x ∈ s, |p x - r x| ≤ ∑ x ∈ s, |p x - q x| + ∑ x ∈ s, |q x - r x| := by
    rw [← Finset.sum_add_distrib]
    exact Finset.sum_le_sum fun x _ => abs_sub_le (p x) (q x) (r x)
  unfold distance
  linarith

/-- Replacing one of the distributions moves the distance by at most the distance of the two. -/
theorem abs_distance_sub_le (s : Finset α) (p q r : α → K) :
    |distance s p q - distance s p r| ≤ distance s q r := by
  have hforth := distance_triangle s p q r
  have hback := distance_triangle s p r q
  rw [distance_comm s r q] at hback
  rw [abs_sub_le_iff]
  constructor <;> linarith

/-- Only points where the distributions differ count. -/
theorem distance_eq_of_subset (hst : s ⊆ t) (heq : ∀ x ∈ t, x ∉ s → p x = q x) :
    distance s p q = distance t p q := by
  have hsum : ∑ x ∈ s, |p x - q x| = ∑ x ∈ t, |p x - q x| := by
    apply Finset.sum_subset hst
    intro x ht hs
    rw [heq x ht hs, sub_self, abs_zero]
  rw [distance, distance, hsum]

theorem distance_eq_zero_iff : distance s p q = 0 ↔ ∀ x ∈ s, p x = q x := by
  have hsum : distance s p q = 0 ↔ ∑ x ∈ s, |p x - q x| = 0 := by
    unfold distance
    constructor <;> intro h <;> linarith
  rw [hsum, Finset.sum_eq_zero_iff_of_nonneg fun x _ => abs_nonneg _]
  simp only [abs_eq_zero, sub_eq_zero]

end Metric

section Totals
variable {s A : Finset α} {p q : α → K} (htotal : ∑ x ∈ s, p x = ∑ x ∈ s, q x)
include htotal

/-- A set of points and the rest differ by the same amount, and together by no more than all
the points do. -/
theorem abs_sum_sub_sum_le [DecidableEq α] (hA : A ⊆ s) :
    |∑ x ∈ A, p x - ∑ x ∈ A, q x| ≤ distance s p q := by
  have hp := Finset.sum_sdiff (f := p) hA
  have hq := Finset.sum_sdiff (f := q) hA
  have hrest : ∑ x ∈ s \ A, p x - ∑ x ∈ s \ A, q x = -(∑ x ∈ A, p x - ∑ x ∈ A, q x) := by
    linarith
  have hinside : |∑ x ∈ A, p x - ∑ x ∈ A, q x| ≤ ∑ x ∈ A, |p x - q x| := by
    rw [← Finset.sum_sub_distrib]
    exact Finset.abs_sum_le_sum_abs _ _
  have houtside : |∑ x ∈ A, p x - ∑ x ∈ A, q x| ≤ ∑ x ∈ s \ A, |p x - q x| := by
    rw [← abs_neg, ← hrest, ← Finset.sum_sub_distrib]
    exact Finset.abs_sum_le_sum_abs _ _
  have hsplit := Finset.sum_sdiff (f := fun x => |p x - q x|) hA
  unfold distance
  linarith

/-- The points where the first distribution is not below the second make all of the distance. -/
theorem sum_filter_sub_sum_filter :
    ∑ x ∈ s with q x ≤ p x, p x - ∑ x ∈ s with q x ≤ p x, q x = distance s p q := by
  have hp := Finset.sum_filter_add_sum_filter_not s (fun x => q x ≤ p x) p
  have hq := Finset.sum_filter_add_sum_filter_not s (fun x => q x ≤ p x) q
  have hsplit := Finset.sum_filter_add_sum_filter_not s (fun x => q x ≤ p x) fun x => |p x - q x|
  have habove : ∑ x ∈ s with q x ≤ p x, |p x - q x| =
      ∑ x ∈ s with q x ≤ p x, p x - ∑ x ∈ s with q x ≤ p x, q x := by
    rw [← Finset.sum_sub_distrib]
    refine Finset.sum_congr rfl fun x hx => ?_
    exact abs_of_nonneg (sub_nonneg.mpr (Finset.mem_filter.mp hx).2)
  have hbelow : ∑ x ∈ s with ¬q x ≤ p x, |p x - q x| =
      ∑ x ∈ s with ¬q x ≤ p x, q x - ∑ x ∈ s with ¬q x ≤ p x, p x := by
    rw [← Finset.sum_sub_distrib]
    refine Finset.sum_congr rfl fun x hx => ?_
    have hlt : p x < q x := not_le.mp (Finset.mem_filter.mp hx).2
    rw [abs_sub_comm, abs_of_pos (sub_pos.mpr hlt)]
  unfold distance
  linarith

/-- The distance is the greatest difference on a set of points. -/
theorem isGreatest_distance [DecidableEq α] :
    IsGreatest {d | ∃ A, A ⊆ s ∧ d = |∑ x ∈ A, p x - ∑ x ∈ A, q x|} (distance s p q) := by
  constructor
  · refine ⟨{x ∈ s | q x ≤ p x}, Finset.filter_subset _ s, ?_⟩
    rw [sum_filter_sub_sum_filter htotal, abs_of_nonneg (distance_nonneg s p q)]
  · rintro d ⟨A, hA, rfl⟩
    exact abs_sum_sub_sum_le htotal hA

end Totals

section Unit
variable {s : Finset α} {p q : α → K} (hp : ∑ x ∈ s, p x = 1) (hq : ∑ x ∈ s, q x = 1)
include hp hq

/-- What the two distributions have in common is missing from their distance. -/
theorem distance_add_sum_min : distance s p q + ∑ x ∈ s, min (p x) (q x) = 1 := by
  have hpoint : ∀ x ∈ s, |p x - q x| + 2 * min (p x) (q x) = p x + q x := by
    intro x _
    rcases le_total (p x) (q x) with hle | hle
    · rw [min_eq_left hle, abs_sub_comm, abs_of_nonneg (sub_nonneg.mpr hle)]
      ring
    · rw [min_eq_right hle, abs_of_nonneg (sub_nonneg.mpr hle)]
      ring
  have hsum := Finset.sum_congr rfl hpoint
  rw [Finset.sum_add_distrib, Finset.sum_add_distrib, ← Finset.mul_sum, hp, hq] at hsum
  unfold distance
  linarith

theorem distance_le_one (hp0 : ∀ x ∈ s, 0 ≤ p x) (hq0 : ∀ x ∈ s, 0 ≤ q x) :
    distance s p q ≤ 1 := by
  have hmin : 0 ≤ ∑ x ∈ s, min (p x) (q x) :=
    Finset.sum_nonneg fun x hx => le_min (hp0 x hx) (hq0 x hx)
  linarith [distance_add_sum_min hp hq]

/-- The distance is one when no point belongs to both. -/
theorem distance_eq_one_iff (hp0 : ∀ x ∈ s, 0 ≤ p x) (hq0 : ∀ x ∈ s, 0 ≤ q x) :
    distance s p q = 1 ↔ ∀ x ∈ s, p x = 0 ∨ q x = 0 := by
  have hcommon : distance s p q = 1 ↔ ∑ x ∈ s, min (p x) (q x) = 0 := by
    have hall := distance_add_sum_min hp hq
    constructor <;> intro h <;> linarith
  rw [hcommon, Finset.sum_eq_zero_iff_of_nonneg fun x hx => le_min (hp0 x hx) (hq0 x hx)]
  refine forall₂_congr fun x hx => ?_
  have hpx := hp0 x hx
  have hqx := hq0 x hx
  rcases le_total (p x) (q x) with hle | hle
  · rw [min_eq_left hle]
    refine ⟨Or.inl, fun h => ?_⟩
    rcases h with h | h <;> linarith
  · rw [min_eq_right hle]
    refine ⟨Or.inr, fun h => ?_⟩
    rcases h with h | h <;> linarith

end Unit

/-! ### The distribution of a list -/

section Shares
variable {xs ys : List α} {s : Finset α}

/-- The part of the list that its elements in `A` make. -/
def shareIn (A : α → Bool) (xs : List α) : ℚ := xs.countP A / xs.length

/-- One more element moves the share of a set by at most its own share. -/
theorem abs_shareIn_sub_shareIn_cons_le (hxs : xs ≠ []) (A : α → Bool) (x : α) :
    |shareIn A xs - shareIn A (x :: xs)| ≤ 1 / (xs.length + 1) := by
  have hpos : (0 : ℚ) < xs.length := by
    exact_mod_cast List.length_pos_iff.mpr hxs
  have hle : (xs.countP A : ℚ) ≤ xs.length := by
    exact_mod_cast List.countP_le_length
  have hnonneg : (0 : ℚ) ≤ xs.countP A := Nat.cast_nonneg _
  have hsuccpos : (0 : ℚ) < xs.length + 1 := by linarith
  simp only [shareIn, List.countP_cons, List.length_cons, Nat.cast_add, Nat.cast_one]
  rw [div_sub_div _ _ hpos.ne' hsuccpos.ne', abs_div, abs_of_pos (mul_pos hpos hsuccpos),
    div_le_div_iff₀ (mul_pos hpos hsuccpos) hsuccpos, one_mul]
  apply mul_le_mul_of_nonneg_right _ hsuccpos.le
  -- elements outside `A` lose what `A` has, and elements of `A` lose what the rest has
  cases A x <;> simp only [Bool.false_eq_true, if_false, if_true, Nat.cast_zero, Nat.cast_one]
  · rw [abs_of_nonneg] <;> linarith
  · rw [abs_of_nonpos] <;> linarith

variable [DecidableEq α]

/-- The part of the list that the occurrences of `x` make. -/
def share (xs : List α) (x : α) : ℚ := xs.count x / xs.length

theorem share_nonneg (xs : List α) (x : α) : 0 ≤ share xs x := by
  unfold share
  positivity

theorem share_eq_zero_iff (hxs : xs ≠ []) {x : α} : share xs x = 0 ↔ x ∉ xs := by
  simp [share, hxs, List.count_eq_zero]

theorem share_perm (h : xs.Perm ys) : share xs = share ys := by
  funext x
  rw [share, share, h.count_eq, h.length_eq]

theorem sum_filter_share (hs : ∀ x ∈ xs, x ∈ s) (A : α → Bool) :
    ∑ x ∈ s with A x, share xs x = shareIn A xs := by
  have hcount : ∑ x ∈ s with A x, xs.count x = xs.countP A := by
    have hown := Finset.sum_filter_count_eq_countP (fun x => A x) xs
    simp only [Bool.decide_eq_true] at hown
    rw [← hown]
    symm
    apply Finset.sum_subset
    · intro x hx
      obtain ⟨hmem, hA⟩ := Finset.mem_filter.mp hx
      exact Finset.mem_filter.mpr ⟨hs x (List.mem_toFinset.mp hmem), hA⟩
    · intro x hx hnot
      apply List.count_eq_zero_of_not_mem
      intro hmem
      exact hnot (Finset.mem_filter.mpr ⟨List.mem_toFinset.mpr hmem, (Finset.mem_filter.mp hx).2⟩)
  simp only [share, shareIn, ← Finset.sum_div, ← Nat.cast_sum, hcount]

theorem sum_share (hxs : xs ≠ []) (hs : ∀ x ∈ xs, x ∈ s) : ∑ x ∈ s, share xs x = 1 := by
  have hall := sum_filter_share hs fun _ => true
  have hlength : (xs.length : ℚ) ≠ 0 := by simpa using hxs
  simpa [shareIn, hlength] using hall

/-- The distance of two nonempty lists is the greatest difference of their shares in a set. -/
theorem isGreatest_distance_share (hxs : xs ≠ []) (hys : ys ≠ []) (hxs' : ∀ x ∈ xs, x ∈ s)
    (hys' : ∀ x ∈ ys, x ∈ s) :
    IsGreatest {d | ∃ A : α → Bool, d = |shareIn A xs - shareIn A ys|}
      (distance s (share xs) (share ys)) := by
  have htotal : ∑ x ∈ s, share xs x = ∑ x ∈ s, share ys x := by
    rw [sum_share hxs hxs', sum_share hys hys']
  obtain ⟨⟨A, hA, hattained⟩, hbound⟩ := isGreatest_distance htotal
  constructor
  · refine ⟨fun x => decide (x ∈ A), ?_⟩
    rw [hattained, ← sum_filter_share hxs', ← sum_filter_share hys']
    simp only [decide_eq_true_eq, Finset.filter_mem_eq_inter, Finset.inter_eq_right.mpr hA]
  · rintro d ⟨A, rfl⟩
    rw [← sum_filter_share hxs', ← sum_filter_share hys']
    exact hbound ⟨_, Finset.filter_subset _ s, rfl⟩

theorem distance_share_cons_le (hxs : xs ≠ []) {x : α} (hs : ∀ y ∈ x :: xs, y ∈ s) :
    distance s (share xs) (share (x :: xs)) ≤ 1 / (xs.length + 1) := by
  have hxs' : ∀ y ∈ xs, y ∈ s := fun y hy => hs y (List.mem_cons_of_mem _ hy)
  obtain ⟨⟨A, hattained⟩, -⟩ :=
    isGreatest_distance_share hxs (List.cons_ne_nil x xs) hxs' hs
  rw [hattained]
  exact abs_shareIn_sub_shareIn_cons_le hxs A x

end Shares
end TotalVariation
