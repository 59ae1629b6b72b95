import DoxGovernance.Lib.Interleave

/-!
# Rows that are written back column by column

A session reads a row, changes some of its columns in memory, and writes back those that differ
from what it read. Other sessions write in between, and nothing locks the row. The row as a whole
is not atomic, but each column is: a write that changes the column takes effect when the session
writes back, and one that finds its value there already takes effect when the session reads. So
the sessions that set a column have an order, in accordance with real time, in which the last one
says what the column holds.
-/

set_option autoImplicit false

universe u v w t

namespace WriteBack

/-- The columns of a row that can change, and the write of those that differ between the row that
was loaded and the row as changed. A stamp may be written along with them. -/
structure Layout (ρ : Type u) {κ : Type v} (β : κ → Type w) [∀ c, DecidableEq (β c)]
    (ι : Type t) where
  read : ∀ c, ρ → β c
  flush : ι → ρ → ρ → ρ → ρ
  read_flush : ∀ x loaded changed current c, read c (flush x loaded changed current) =
    if read c changed = read c loaded then read c current else read c changed

/-- Requests that set columns to given values. -/
structure Edits {ρ : Type u} {κ : Type v} {β : κ → Type w} [∀ c, DecidableEq (β c)] {ι : Type t}
    (layout : Layout ρ β ι) (α : Type u) where
  edit : α → ρ → ρ
  assigns : α → ∀ c, Option (β c)
  read_edit : ∀ request row c,
    layout.read c (edit request row) = (assigns request c).getD (layout.read c row)

inductive Session (ρ : Type u) (α : Type u) where
  | waiting (request : α)
  | loaded (request : α) (loaded changed : ρ)
  | finished (request : α)

namespace Session
variable {ρ α : Type u}

def Waits : Session ρ α → Prop
  | waiting _ => True
  | _ => False

def Ended : Session ρ α → Prop
  | finished _ => True
  | _ => False

end Session

variable {ρ α : Type u} {κ : Type v} {β : κ → Type w} [∀ c, DecidableEq (β c)] {ι : Type t}
  {layout : Layout ρ β ι} (edits : Edits layout α)

/-- The next step of a session: the row is read and changed in memory, then written back. -/
def act (x : ι) (row : ρ) : Session ρ α → ρ × Session ρ α
  | .waiting request => (row, .loaded request row (edits.edit request row))
  | .loaded request loaded changed => (layout.flush x loaded changed row, .finished request)
  | .finished request => (row, .finished request)

/-- The value that the next step of a session brings into effect in a column, if any. -/
def point (c : κ) (row : ρ) : Session ρ α → Option (β c)
  | .waiting request => (edits.assigns request c).filter fun v => layout.read c row = v
  | .loaded _ loaded changed =>
    if layout.read c changed = layout.read c loaded then none else some (layout.read c changed)
  | .finished _ => none

/-- The sessions whose steps bring a value into effect in a column, one after the other. -/
def order (c : κ) : Sessions ρ (Session ρ α) → List (Nat × ι) → List (Nat × β c)
  | _, [] => []
  | s, k :: ks => ((point edits c s.shared (s.session k.1)).toList.map fun v => (k.1, v)) ++
      order c (Sessions.step (act edits) s k) ks

/-- What a session that has not ended has still to bring into effect in a column. -/
def due (c : κ) : Session ρ α → Option (β c)
  | .waiting request => edits.assigns request c
  | .loaded _ loaded changed =>
    if layout.read c changed = layout.read c loaded then none else some (layout.read c changed)
  | .finished _ => none

variable {edits} {c : κ} {s : Sessions ρ (Session ρ α)} {k : Nat × ι} {ks ls : List (Nat × ι)}

theorem order_append :
    order edits c s (ks ++ ls) =
      order edits c s ks ++ order edits c (ks.foldl (Sessions.step (act edits)) s) ls := by
  induction ks generalizing s with
  | nil => rfl
  | cons k ks ih => rw [List.cons_append, order, order, ih, List.foldl_cons, List.append_assoc]

/-- A step leaves in the column what it brings into effect. -/
theorem read_act (x : ι) (row : ρ) (l : Session ρ α) :
    layout.read c (act edits x row l).1 = (point edits c row l).getD (layout.read c row) := by
  cases l with
  | waiting request =>
    cases hpoint : point edits c row (.waiting request) with
    | none => rfl
    | some v =>
      obtain ⟨-, hv⟩ := Option.filter_eq_some_iff.mp hpoint
      exact of_decide_eq_true hv
  | loaded request loaded changed =>
    rw [act, layout.read_flush, point]
    split <;> rfl
  | finished request => rfl

theorem read_run : layout.read c (ks.foldl (Sessions.step (act edits)) s).shared =
    ((order edits c s ks).getLast?.map Prod.snd).getD (layout.read c s.shared) := by
  induction ks generalizing s with
  | nil => rfl
  | cons k ks ih =>
    have hstep : layout.read c (Sessions.step (act edits) s k).shared =
        (point edits c s.shared (s.session k.1)).getD (layout.read c s.shared) :=
      read_act k.2 s.shared (s.session k.1)
    rw [List.foldl_cons, ih, hstep, order, List.getLast?_append]
    cases (order edits c (Sessions.step (act edits) s k) ks).getLast? with
    | some p => rfl
    | none =>
      cases point edits c s.shared (s.session k.1) with
      | some v => rfl
      | none => rfl

/-! ### Each session once, between its start and its end -/

variable (edits c) in
theorem due_act (x : ι) (row : ρ) (l : Session ρ α) :
    (point edits c row l = none ∧ due edits c (act edits x row l).2 = due edits c l) ∨
      (point edits c row l = due edits c l ∧ due edits c (act edits x row l).2 = none) := by
  cases l with
  | waiting request =>
    have hread := edits.read_edit request row c
    have hdue : due edits c (act edits x row (.waiting request)).2 =
        if layout.read c (edits.edit request row) = layout.read c row then none
        else some (layout.read c (edits.edit request row)) := rfl
    have hwaiting : due edits c (.waiting request : Session ρ α) = edits.assigns request c := rfl
    have hpoint : point edits c row (.waiting request) =
        (edits.assigns request c).filter fun v => layout.read c row = v := rfl
    rw [hdue, hwaiting, hpoint]
    cases hassigns : edits.assigns request c with
    | none =>
      rw [hassigns, Option.getD_none] at hread
      exact Or.inl ⟨rfl, if_pos hread⟩
    | some v =>
      rw [hassigns, Option.getD_some] at hread
      rw [hread, Option.filter_some]
      by_cases hv : layout.read c row = v
      · exact Or.inr ⟨if_pos (decide_eq_true hv), if_pos hv.symm⟩
      · exact Or.inl ⟨if_neg fun h => hv (of_decide_eq_true h), if_neg (Ne.symm hv)⟩
  | loaded request loaded changed => exact Or.inr ⟨rfl, rfl⟩
  | finished request => exact Or.inl ⟨rfl, rfl⟩

theorem due_of_ended {l : Session ρ α} (h : l.Ended) : due edits c l = none := by
  cases l with
  | finished request => rfl
  | waiting request | loaded request loaded changed => cases h

/-- A session that has ended has brought into effect what was due, once. -/
theorem order_of_ended {i : Nat}
    (hended : ((ks.foldl (Sessions.step (act edits)) s).session i).Ended) :
    (order edits c s ks).filter (fun p => p.1 = i) =
      (due edits c (s.session i)).toList.map fun v => (i, v) := by
  induction ks generalizing s with
  | nil =>
    rw [show due edits c (s.session i) = none from due_of_ended hended]
    rfl
  | cons k ks ih =>
    rw [order, List.filter_append, ih hended]
    by_cases hi : i = k.1
    · subst hi
      have hmine : ∀ o : Option (β c), (o.toList.map fun v => (k.1, v)).filter
          (fun p => p.1 = k.1) = o.toList.map fun v => (k.1, v) := by
        intro o
        exact List.filter_eq_self.mpr fun p hp => by
          obtain ⟨v, -, rfl⟩ := List.mem_map.mp hp
          exact decide_eq_true rfl
      rw [hmine, Sessions.session_step_self]
      rcases due_act edits c k.2 s.shared (s.session k.1) with
        ⟨hpoint, hdue⟩ | ⟨hpoint, hdue⟩
      · rw [hpoint, hdue]
        rfl
      · rw [hpoint, hdue]
        exact List.append_nil _
    · have hother : ∀ o : Option (β c), (o.toList.map fun v => (k.1, v)).filter
          (fun p => p.1 = i) = [] := by
        intro o
        exact List.filter_eq_nil_iff.mpr fun p hp => by
          obtain ⟨v, -, rfl⟩ := List.mem_map.mp hp
          simpa using Ne.symm hi
      rw [hother, Sessions.session_step_ne _ s hi]
      rfl

theorem due_of_mem_order {p : Nat × β c} (hp : p ∈ order edits c s ks) :
    due edits c (s.session p.1) = some p.2 := by
  induction ks generalizing s with
  | nil => cases hp
  | cons k ks ih =>
    have hcases := due_act edits c k.2 s.shared (s.session k.1)
    rcases List.mem_append.mp hp with hnow | hlater
    · obtain ⟨v, hv, rfl⟩ := List.mem_map.mp hnow
      have hpoint := Option.mem_toList.mp hv
      rcases hcases with ⟨hnone, -⟩ | ⟨hsame, -⟩
      · rw [hnone] at hpoint
        cases hpoint
      · exact hsame.symm.trans hpoint
    · have hdue := ih hlater
      by_cases hi : p.1 = k.1
      · rw [hi, Sessions.session_step_self] at hdue
        rw [hi]
        rcases hcases with ⟨-, hsame⟩ | ⟨-, hnone⟩
        · exact hsame.symm.trans hdue
        · cases hnone.symm.trans hdue
      · rwa [Sessions.session_step_ne _ s hi] at hdue

theorem not_waits_act (x : ι) (row : ρ) (l : Session ρ α) : ¬(act edits x row l).2.Waits := by
  cases l <;> exact id

theorem waits_before {i : Nat}
    (h : ((ks.foldl (Sessions.step (act edits)) s).session i).Waits) : (s.session i).Waits := by
  induction ks generalizing s with
  | nil => exact h
  | cons k ks ih =>
    have hnext := ih h
    by_cases hi : i = k.1
    · rw [hi, Sessions.session_step_self] at hnext
      exact absurd hnext (not_waits_act k.2 s.shared (s.session k.1))
    · rwa [Sessions.session_step_ne _ s hi] at hnext

theorem not_mem_order_of_waits {i : Nat}
    (h : ((ks.foldl (Sessions.step (act edits)) s).session i).Waits) :
    ∀ p ∈ order edits c s ks, p.1 ≠ i := by
  induction ks generalizing s with
  | nil => exact fun p hp => absurd hp List.not_mem_nil
  | cons k ks ih =>
    intro p hp
    rcases List.mem_append.mp hp with hnow | hlater
    · obtain ⟨v, -, rfl⟩ := List.mem_map.mp hnow
      intro hi
      have hnext : ((Sessions.step (act edits) s k).session i).Waits := waits_before h
      rw [← hi, Sessions.session_step_self] at hnext
      exact not_waits_act k.2 s.shared (s.session k.1) hnext
    · exact ih h p hlater

/-! ### The sessions of a column in order -/

/-- No session has begun. -/
def start (row : ρ) (requests : Nat → α) : Sessions ρ (Session ρ α) where
  shared := row
  session := fun i => .waiting (requests i)

/-- An order of sessions that set a column, each with the value that it sets. The last one says
what the column holds; every session that has ended and sets the column is there once; and wherever
the schedule is cut, the sessions before the cut have begun and those after it have not ended. -/
structure Linearized (edits : Edits layout α) (c : κ) (row : ρ) (requests : Nat → α)
    (schedule : List (Nat × ι)) (sessions : List (Nat × β c)) : Prop where
  last : layout.read c (schedule.foldl (Sessions.step (act edits)) (start row requests)).shared =
    (sessions.getLast?.map Prod.snd).getD (layout.read c row)
  assigned : ∀ p ∈ sessions, edits.assigns (requests p.1) c = some p.2
  once : ∀ i, ((schedule.foldl (Sessions.step (act edits)) (start row requests)).session i).Ended →
    sessions.filter (fun p => p.1 = i) =
      (edits.assigns (requests i) c).toList.map fun v => (i, v)
  realTime : ∀ before after, schedule = before ++ after → ∃ first second,
    sessions = first ++ second ∧
      (∀ p ∈ first,
        ¬((before.foldl (Sessions.step (act edits)) (start row requests)).session p.1).Waits) ∧
      ∀ p ∈ second,
        ¬((before.foldl (Sessions.step (act edits)) (start row requests)).session p.1).Ended

/-- Whatever the interleaving, the sessions of each column have an order. -/
theorem linearizable (edits : Edits layout α) (c : κ) (row : ρ) (requests : Nat → α)
    (schedule : List (Nat × ι)) :
    ∃ sessions, Linearized edits c row requests schedule sessions := by
  refine ⟨order edits c (start row requests) schedule, read_run, fun p hp => due_of_mem_order hp,
    fun i hended => order_of_ended hended, ?_⟩
  rintro before after rfl
  refine ⟨_, _, order_append, fun p hp hwaits => not_mem_order_of_waits hwaits p hp rfl,
    fun p hp hended => ?_⟩
  have hdue := due_of_mem_order hp
  rw [due_of_ended hended] at hdue
  cases hdue

/-- A session that sets the column, and is rivalled only by sessions that set it to the same value
or had ended before it began, leaves its value in the column. -/
theorem stands {row : ρ} {requests : Nat → α} {before after : List (Nat × ι)} {i : Nat} {v : β c}
    (hassigns : edits.assigns (requests i) c = some v)
    (hwaits : ((before.foldl (Sessions.step (act edits)) (start row requests)).session i).Waits)
    (hended : (((before ++ after).foldl (Sessions.step (act edits))
      (start row requests)).session i).Ended)
    (hrivals : ∀ j,
      ¬((before.foldl (Sessions.step (act edits)) (start row requests)).session j).Ended →
      ∀ v', edits.assigns (requests j) c = some v' → v' = v) :
    layout.read c ((before ++ after).foldl (Sessions.step (act edits)) (start row requests)).shared =
      v := by
  obtain ⟨sessions, hlast, hassigned, honce, hcut⟩ :=
    linearizable edits c row requests (before ++ after)
  obtain ⟨first, second, rfl, hfirst, hsecond⟩ := hcut before after rfl
  have hmine : (i, v) ∈ (first ++ second).filter fun p => p.1 = i := by
    rw [honce i hended, hassigns]
    exact List.mem_cons_self
  have hlater : (i, v) ∈ second := by
    rcases List.mem_append.mp (List.mem_filter.mp hmine).1 with hearly | hlate
    · exact absurd hwaits (hfirst _ hearly)
    · exact hlate
  obtain ⟨p, hp⟩ : ∃ p, second.getLast? = some p :=
    Option.isSome_iff_exists.mp (List.getLast?_isSome.mpr (List.ne_nil_of_mem hlater))
  have hmem : p ∈ second := List.mem_of_getLast? hp
  rw [hlast, List.getLast?_append, hp]
  exact hrivals p.1 (hsecond p hmem) p.2 (hassigned p (List.mem_append_right first hmem))

/-! ### Requests that set one column -/

/-- The request sets no two columns. -/
def Single (edits : Edits layout α) (request : α) : Prop :=
  ∀ c c', (edits.assigns request c).isSome → (edits.assigns request c').isSome → c = c'

/-- What a session is about to write is what its request made of the row that it loaded. -/
def Coherent (edits : Edits layout α) (requests : Nat → α) (s : Sessions ρ (Session ρ α)) : Prop :=
  ∀ i, match s.session i with
    | .waiting request => request = requests i
    | .loaded request loaded changed =>
      request = requests i ∧ changed = edits.edit request loaded
    | .finished request => request = requests i

open Classical in
/-- The sessions whose steps bring a value into effect in any column. -/
noncomputable def rowOrder (edits : Edits layout α) :
    Sessions ρ (Session ρ α) → List (Nat × ι) → List Nat
  | _, [] => []
  | s, k :: ks =>
    (if ∃ c, (point edits c s.shared (s.session k.1)).isSome then [k.1] else []) ++
      rowOrder edits (Sessions.step (act edits) s k) ks

section Single
variable {requests : Nat → α}

theorem Coherent.step (h : Coherent edits requests s) (k : Nat × ι) :
    Coherent edits requests (Sessions.step (act edits) s k) := by
  intro i
  have hi := h i
  by_cases hik : i = k.1
  · subst hik
    rw [Sessions.session_step_self]
    cases hl : s.session k.1 with
    | waiting request =>
      rw [hl] at hi
      exact ⟨hi, rfl⟩
    | loaded request loaded changed =>
      rw [hl] at hi
      exact hi.1
    | finished request =>
      rw [hl] at hi
      exact hi
  · rw [Sessions.session_step_ne _ s hik]
    exact hi

theorem Coherent.assigns_of_point (h : Coherent edits requests s) {i : Nat} {v : β c}
    (hpoint : point edits c s.shared (s.session i) = some v) :
    edits.assigns (requests i) c = some v := by
  have hi := h i
  cases hl : s.session i with
  | waiting request =>
    rw [hl] at hi hpoint
    rw [← show request = requests i from hi]
    exact (Option.filter_eq_some_iff.mp hpoint).1
  | loaded request loaded changed =>
    rw [hl] at hi hpoint
    obtain ⟨rfl, rfl⟩ := hi
    have hread := edits.read_edit (requests i) loaded c
    replace hpoint : (if layout.read c (edits.edit (requests i) loaded) = layout.read c loaded
      then none else some (layout.read c (edits.edit (requests i) loaded))) = some v := hpoint
    split at hpoint
    · cases hpoint
    · rename_i hne
      cases hassigns : edits.assigns (requests i) c with
      | none =>
        rw [hassigns] at hread
        exact absurd hread hne
      | some v' =>
        rw [hassigns, Option.getD_some] at hread
        rw [← Option.some.inj hpoint, hread]
  | finished request =>
    rw [hl] at hpoint
    cases hpoint

/-- The order of a column is the order of the rows, restricted to the sessions that set it. -/
theorem order_eq_filterMap (hsingle : ∀ i, Single edits (requests i))
    (h : Coherent edits requests s) :
    order edits c s ks =
      (rowOrder edits s ks).filterMap fun i => (edits.assigns (requests i) c).map fun v => (i, v) := by
  induction ks generalizing s with
  | nil => rfl
  | cons k ks ih =>
    rw [order, rowOrder, List.filterMap_append, ← ih (h.step k)]
    congr 1
    cases hpoint : point edits c s.shared (s.session k.1) with
    | some v =>
      rw [if_pos ⟨c, by rw [hpoint]; rfl⟩, List.filterMap_cons, h.assigns_of_point hpoint]
      rfl
    | none =>
      split
      · rename_i hany
        obtain ⟨c', hc'⟩ := hany
        obtain ⟨v', hv'⟩ := Option.isSome_iff_exists.mp hc'
        have hother := h.assigns_of_point hv'
        have hnone : edits.assigns (requests k.1) c = none := by
          cases hassigns : edits.assigns (requests k.1) c with
          | none => rfl
          | some v =>
            have heq := hsingle k.1 c c' (by rw [hassigns]; rfl) (by rw [hother]; rfl)
            subst heq
            rw [hpoint] at hv'
            cases hv'
        rw [List.filterMap_cons, hnone]
        rfl
      · rfl

theorem read_foldl_edit (sessions : List Nat) (row : ρ) :
    layout.read c (sessions.foldl (fun r i => edits.edit (requests i) r) row) =
      (((sessions.filterMap fun i =>
        (edits.assigns (requests i) c).map fun v => (i, v)).getLast?).map Prod.snd).getD
          (layout.read c row) := by
  induction sessions generalizing row with
  | nil => rfl
  | cons i sessions ih =>
    rw [List.foldl_cons, ih, edits.read_edit, List.filterMap_cons]
    cases hassigns : edits.assigns (requests i) c with
    | none => rfl
    | some v =>
      simp only [Option.map_some, List.getLast?_cons, Option.getD_some]
      cases (sessions.filterMap fun i =>
        (edits.assigns (requests i) c).map fun v => (i, v)).getLast? <;> rfl

theorem rowOrder_append : rowOrder edits s (ks ++ ls) =
    rowOrder edits s ks ++ rowOrder edits (ks.foldl (Sessions.step (act edits)) s) ls := by
  induction ks generalizing s with
  | nil => rfl
  | cons k ks ih =>
    rw [List.cons_append, rowOrder, rowOrder, ih, List.foldl_cons, List.append_assoc]

theorem mem_order_of_mem_rowOrder {i : Nat} (hi : i ∈ rowOrder edits s ks) :
    ∃ c, ∃ v : β c, (i, v) ∈ order edits c s ks := by
  induction ks generalizing s with
  | nil => cases hi
  | cons k ks ih =>
    rcases List.mem_append.mp hi with hnow | hlater
    · split at hnow
      · rename_i hany
        obtain ⟨c, hc⟩ := hany
        obtain ⟨v, hv⟩ := Option.isSome_iff_exists.mp hc
        rw [List.mem_singleton.mp hnow]
        exact ⟨c, v, List.mem_append_left _ (List.mem_map.mpr ⟨v, Option.mem_toList.mpr hv, rfl⟩)⟩
      · cases hnow
    · obtain ⟨c, v, hmem⟩ := ih hlater
      exact ⟨c, v, List.mem_append_right _ hmem⟩

/-- A session that sets a column is in the order of the rows as often as in that of the column. -/
theorem count_eq_length_filter {i : Nat} (sessions : List Nat)
    (hset : (edits.assigns (requests i) c).isSome) :
    sessions.count i = ((sessions.filterMap fun i =>
      (edits.assigns (requests i) c).map fun v => (i, v)).filter fun p => p.1 = i).length := by
  induction sessions with
  | nil => rfl
  | cons j sessions ih =>
    rw [List.count_cons, ih, List.filterMap_cons]
    by_cases hj : j = i
    · subst hj
      obtain ⟨v, hv⟩ := Option.isSome_iff_exists.mp hset
      rw [hv]
      simp
    · cases edits.assigns (requests j) c with
      | none => simp [hj]
      | some v => simp [hj]

end Single

/-- An order of sessions such that the row is as if they had run in it one after the other. -/
structure Serialized (edits : Edits layout α) (row : ρ) (requests : Nat → α)
    (schedule : List (Nat × ι)) (sessions : List Nat) : Prop where
  result : ∀ c,
    layout.read c (schedule.foldl (Sessions.step (act edits)) (start row requests)).shared =
      layout.read c (sessions.foldl (fun r i => edits.edit (requests i) r) row)
  once : ∀ i c, (edits.assigns (requests i) c).isSome →
    ((schedule.foldl (Sessions.step (act edits)) (start row requests)).session i).Ended →
    sessions.count i = 1
  realTime : ∀ before after, schedule = before ++ after → ∃ first second,
    sessions = first ++ second ∧
      (∀ i ∈ first,
        ¬((before.foldl (Sessions.step (act edits)) (start row requests)).session i).Waits) ∧
      ∀ i ∈ second,
        ¬((before.foldl (Sessions.step (act edits)) (start row requests)).session i).Ended

/-- When each request sets one column at most, the sessions can be put in one order for the row. -/
theorem serializable (edits : Edits layout α) (row : ρ) {requests : Nat → α}
    (hsingle : ∀ i, Single edits (requests i)) (schedule : List (Nat × ι)) :
    ∃ sessions, Serialized edits row requests schedule sessions := by
  have hstart : Coherent edits requests (start row requests) := fun i => rfl
  refine ⟨rowOrder edits (start row requests) schedule, fun c => ?_, fun i c hset hended => ?_, ?_⟩
  · rw [read_run, order_eq_filterMap hsingle hstart, read_foldl_edit]
    rfl
  · rw [count_eq_length_filter _ hset, ← order_eq_filterMap hsingle hstart, order_of_ended hended]
    obtain ⟨v, hv⟩ := Option.isSome_iff_exists.mp hset
    show ((edits.assigns (requests i) c).toList.map fun v => (i, v)).length = 1
    rw [hv]
    rfl
  · rintro before after rfl
    refine ⟨_, _, rowOrder_append, fun i hi hwaits => ?_, fun i hi hended => ?_⟩
    · obtain ⟨c, v, hmem⟩ := mem_order_of_mem_rowOrder hi
      exact not_mem_order_of_waits hwaits _ hmem rfl
    · obtain ⟨c, v, hmem⟩ := mem_order_of_mem_rowOrder hi
      have hdue := due_of_mem_order hmem
      rw [due_of_ended hended] at hdue
      cases hdue

end WriteBack
