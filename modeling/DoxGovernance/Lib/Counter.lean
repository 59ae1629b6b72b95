import Mathlib.Algebra.GroupWithZero.Nat
import Mathlib.Tactic.Tauto

/-!
# Counting in a dictionary

Occurrences are counted in a dictionary that lists its keys in the order in which they
were first met.
-/

set_option autoImplicit false

universe u

namespace Counter
variable {κ : Type u} [DecidableEq κ]

/-- `counts.get(key, 0)`. -/
def get : List (κ × Nat) → κ → Nat
  | [], _ => 0
  | (j, n) :: rest, k => if j = k then n else get rest k

/-- `counts[key] = counts.get(key, 0) + 1`. -/
def increment : List (κ × Nat) → κ → List (κ × Nat)
  | [], k => [(k, 1)]
  | (j, n) :: rest, k => if j = k then (j, n + 1) :: rest else (j, n) :: increment rest k

def ofList (ks : List κ) : List (κ × Nat) := ks.foldl increment []

theorem get_of_not_mem {counts : List (κ × Nat)} {k : κ} (h : k ∉ counts.map Prod.fst) :
    get counts k = 0 := by
  induction counts with
  | nil => rfl
  | cons c counts ih =>
    rw [List.map_cons, List.mem_cons, not_or] at h
    rw [get, if_neg (Ne.symm h.1)]
    exact ih h.2

theorem get_increment (counts : List (κ × Nat)) (j k : κ) :
    get (increment counts k) j = get counts j + if k = j then 1 else 0 := by
  induction counts with
  | nil =>
    rw [increment, get, get, Nat.zero_add]
    rfl
  | cons c counts ih =>
    obtain ⟨i, n⟩ := c
    by_cases hi : i = k
    · subst hi
      rw [increment, if_pos rfl, get, get]
      split <;> rfl
    · rw [increment, if_neg hi, get, get, ih]
      by_cases hj : i = j
      · subst hj
        rw [if_pos rfl, if_pos rfl, if_neg (Ne.symm hi), Nat.add_zero]
      · rw [if_neg hj, if_neg hj]

theorem get_foldl (ks : List κ) (counts : List (κ × Nat)) (k : κ) :
    get (ks.foldl increment counts) k = get counts k + ks.count k := by
  induction ks generalizing counts with
  | nil => rfl
  | cons j ks ih =>
    rw [List.foldl_cons, ih, get_increment, List.count_cons, Nat.add_assoc, Nat.add_comm (ks.count k)]
    simp only [beq_iff_eq]

/-- The dictionary holds the number of occurrences of every key. -/
theorem get_ofList (ks : List κ) (k : κ) : get (ofList ks) k = ks.count k := by
  rw [ofList, get_foldl, get, Nat.zero_add]

theorem mem_keys_increment {counts : List (κ × Nat)} {j k : κ} :
    j ∈ (increment counts k).map Prod.fst ↔ j ∈ counts.map Prod.fst ∨ j = k := by
  induction counts with
  | nil => simp [increment]
  | cons c counts ih =>
    obtain ⟨i, n⟩ := c
    by_cases hi : i = k
    · subst hi
      simp only [increment, if_true, List.map_cons, List.mem_cons]
      tauto
    · simp only [increment, if_neg hi, List.map_cons, List.mem_cons, ih]
      tauto

theorem mem_keys_foldl (ks : List κ) (counts : List (κ × Nat)) (k : κ) :
    k ∈ (ks.foldl increment counts).map Prod.fst ↔ k ∈ counts.map Prod.fst ∨ k ∈ ks := by
  induction ks generalizing counts with
  | nil => simp
  | cons j ks ih =>
    rw [List.foldl_cons, ih, mem_keys_increment, List.mem_cons, or_assoc]

/-- The dictionary has the keys that occur. -/
theorem mem_keys_ofList {ks : List κ} {k : κ} : k ∈ (ofList ks).map Prod.fst ↔ k ∈ ks := by
  rw [ofList, mem_keys_foldl]
  simp

/-! ### The dictionary as a whole -/

theorem sum_increment (counts : List (κ × Nat)) (k : κ) :
    ((increment counts k).map Prod.snd).sum = (counts.map Prod.snd).sum + 1 := by
  induction counts with
  | nil => rfl
  | cons c counts ih =>
    obtain ⟨i, n⟩ := c
    rw [increment]
    split
    · simp only [List.map_cons, List.sum_cons]
      omega
    · simp only [List.map_cons, List.sum_cons, ih]
      omega

theorem sum_foldl (ks : List κ) (counts : List (κ × Nat)) :
    ((ks.foldl increment counts).map Prod.snd).sum = (counts.map Prod.snd).sum + ks.length := by
  induction ks generalizing counts with
  | nil => rfl
  | cons k ks ih =>
    rw [List.foldl_cons, ih, sum_increment, List.length_cons]
    omega

/-- The counts add up to the number of all occurrences. -/
theorem sum_ofList (ks : List κ) : ((ofList ks).map Prod.snd).sum = ks.length := by
  rw [ofList, sum_foldl, List.map_nil, List.sum_nil, Nat.zero_add]

theorem nodup_increment {counts : List (κ × Nat)} (h : (counts.map Prod.fst).Nodup) (k : κ) :
    ((increment counts k).map Prod.fst).Nodup := by
  induction counts with
  | nil => simp [increment]
  | cons c counts ih =>
    obtain ⟨i, n⟩ := c
    obtain ⟨hnew, hrest⟩ := List.nodup_cons.mp h
    rw [increment]
    split
    · exact h
    · rename_i hne
      refine List.nodup_cons.mpr ⟨fun hmem => ?_, ih hrest⟩
      rcases mem_keys_increment.mp hmem with hold | heq
      · exact hnew hold
      · exact hne heq

/-- No key has two counts. -/
theorem nodup_ofList (ks : List κ) : ((ofList ks).map Prod.fst).Nodup := by
  have hfold : ∀ (ks : List κ) (counts : List (κ × Nat)), (counts.map Prod.fst).Nodup →
      ((ks.foldl increment counts).map Prod.fst).Nodup := by
    intro ks
    induction ks with
    | nil => exact fun _ h => h
    | cons k ks ih => exact fun counts h => ih (increment counts k) (nodup_increment h k)
  exact hfold ks [] List.nodup_nil

end Counter
