import DoxGovernance.Lib.Utf8

/-!
# Anchored patterns

A pattern is a sequence of character classes, each repeated a fixed number of times or at
least once. `fullMatch` says whether a match that starts at the first character can reach
the end of the string, where the end may also be a single final newline; a repetition may
give characters back to what follows it. `Matches` says which strings a pattern describes,
and the two differ in the final newline only.
-/

set_option autoImplicit false

/-- A piece of a pattern: a character class and how often it is repeated. -/
inductive Piece where
  | times (n : Nat) (ok : CodePoint → Bool)
  | many (ok : CodePoint → Bool)

def Piece.ok : Piece → CodePoint → Bool
  | .times _ ok => ok
  | .many ok => ok

namespace Pattern

def literal (s : String) : List Piece :=
  (Str.ofText s).map fun c => .times 1 fun d => d = c

def atEnd (s : Str) : Bool := s = [] || s = [10]

def fullMatch : List Piece → Str → Bool
  | [], s => atEnd s
  | .times n ok :: ps, s => n ≤ s.length && (s.take n).all ok && fullMatch ps (s.drop n)
  | .many ok :: ps, s =>
    (List.range (s.takeWhile ok).length).any fun k => fullMatch ps (s.drop (k + 1))

/-- The strings that a pattern describes from their first character to their last. -/
def Matches : List Piece → Str → Prop
  | [], s => s = []
  | .times n ok :: ps, s => ∃ t u, s = t ++ u ∧ t.length = n ∧ (∀ c ∈ t, ok c = true) ∧ Matches ps u
  | .many ok :: ps, s => ∃ t u, s = t ++ u ∧ t ≠ [] ∧ (∀ c ∈ t, ok c = true) ∧ Matches ps u

/-- What may stand between a match and the end of the string. -/
def Trailing (e : Str) : Prop := e = [] ∨ e = [10]

section FullMatch
variable {ok : CodePoint → Bool} {s t : Str}

theorem atEnd_iff : atEnd s = true ↔ Trailing s := by
  simp only [atEnd, Trailing, Bool.or_eq_true, decide_eq_true_iff]

theorem length_le_takeWhile {u : Str} (h : ∀ c ∈ t, ok c = true) :
    t.length ≤ ((t ++ u).takeWhile ok).length := by
  rw [List.takeWhile_append_of_pos h, List.length_append]
  exact Nat.le_add_right _ _

theorem ok_of_mem_take {k : Nat} (h : k ≤ (s.takeWhile ok).length) {c : CodePoint}
    (hc : c ∈ s.take k) : ok c = true := by
  rw [← List.takeWhile_append_dropWhile (p := ok) (l := s), List.take_append_of_le_length h] at hc
  exact List.all_eq_true.mp List.all_takeWhile c (List.mem_of_mem_take hc)

theorem fullMatch_times {n : Nat} {ps : List Piece} :
    fullMatch (.times n ok :: ps) s = true ↔
      ∃ t u, s = t ++ u ∧ t.length = n ∧ (∀ c ∈ t, ok c = true) ∧ fullMatch ps u = true := by
  rw [fullMatch, Bool.and_eq_true, Bool.and_eq_true, decide_eq_true_iff, List.all_eq_true]
  constructor
  · rintro ⟨⟨hlength, hall⟩, hrest⟩
    exact ⟨_, _, (List.take_append_drop n s).symm, List.length_take_of_le hlength, hall, hrest⟩
  · rintro ⟨t, u, rfl, rfl, hall, hrest⟩
    rw [List.take_left, List.drop_left, List.length_append]
    exact ⟨⟨Nat.le_add_right _ _, hall⟩, hrest⟩

theorem fullMatch_many {ps : List Piece} :
    fullMatch (.many ok :: ps) s = true ↔
      ∃ t u, s = t ++ u ∧ t ≠ [] ∧ (∀ c ∈ t, ok c = true) ∧ fullMatch ps u = true := by
  rw [fullMatch, List.any_eq_true]
  constructor
  · rintro ⟨k, hk, hrest⟩
    have hle : k + 1 ≤ (s.takeWhile ok).length := List.mem_range.mp hk
    have hlength : k + 1 ≤ s.length := hle.trans (List.takeWhile_prefix ok).length_le
    refine ⟨_, _, (List.take_append_drop (k + 1) s).symm, ?_, ?_, hrest⟩
    · refine List.ne_nil_of_length_pos ?_
      rw [List.length_take_of_le hlength]
      exact Nat.succ_pos k
    · exact fun c hc => ok_of_mem_take hle hc
  · rintro ⟨t, u, rfl, hne, hall, hrest⟩
    have hpos : 0 < t.length := List.length_pos_iff.mpr hne
    have hle := length_le_takeWhile (u := u) hall
    refine ⟨t.length - 1, List.mem_range.mpr (by omega), ?_⟩
    rw [Nat.sub_add_cancel hpos, List.drop_left]
    exact hrest

/-- A pattern between `^` and `$` accepts the strings it describes, with or without one
newline after them. -/
theorem fullMatch_iff {ps : List Piece} :
    fullMatch ps s = true ↔ ∃ t e, s = t ++ e ∧ Matches ps t ∧ Trailing e := by
  induction ps generalizing s with
  | nil =>
    rw [fullMatch, atEnd_iff]
    constructor
    · exact fun h => ⟨[], s, rfl, rfl, h⟩
    · rintro ⟨t, e, rfl, rfl, he⟩
      exact he
  | cons p ps ih =>
    cases p with
    | times n ok =>
      rw [fullMatch_times]
      constructor
      · rintro ⟨t, u, rfl, hlength, hall, hrest⟩
        obtain ⟨v, e, rfl, hv, he⟩ := ih.mp hrest
        exact ⟨t ++ v, e, (List.append_assoc t v e).symm, ⟨t, v, rfl, hlength, hall, hv⟩, he⟩
      · rintro ⟨_, e, rfl, ⟨t, v, rfl, hlength, hall, hv⟩, he⟩
        exact ⟨t, v ++ e, List.append_assoc t v e, hlength, hall, ih.mpr ⟨v, e, rfl, hv, he⟩⟩
    | many ok =>
      rw [fullMatch_many]
      constructor
      · rintro ⟨t, u, rfl, hne, hall, hrest⟩
        obtain ⟨v, e, rfl, hv, he⟩ := ih.mp hrest
        exact ⟨t ++ v, e, (List.append_assoc t v e).symm, ⟨t, v, rfl, hne, hall, hv⟩, he⟩
      · rintro ⟨_, e, rfl, ⟨t, v, rfl, hne, hall, hv⟩, he⟩
        exact ⟨t, v ++ e, List.append_assoc t v e, hne, hall, ih.mpr ⟨v, e, rfl, hv, he⟩⟩

end FullMatch

section Exact
variable {ps : List Piece} {s : Str}

theorem matches_literal {cs : Str} :
    Matches ((cs.map fun c => .times 1 fun d => d = c) ++ ps) s ↔ ∃ u, s = cs ++ u ∧ Matches ps u := by
  induction cs generalizing s with
  | nil =>
    constructor
    · exact fun h => ⟨s, rfl, h⟩
    · rintro ⟨u, rfl, hu⟩
      exact hu
  | cons c cs ih =>
    constructor
    · rintro ⟨t, v, rfl, hlength, hall, hv⟩
      obtain ⟨d, rfl⟩ := List.length_eq_one_iff.mp hlength
      obtain ⟨u, rfl, hu⟩ := ih.mp hv
      have hd : d = c := of_decide_eq_true (hall d List.mem_cons_self)
      exact ⟨u, by rw [hd, List.singleton_append, List.cons_append], hu⟩
    · rintro ⟨u, rfl, hu⟩
      refine ⟨[c], cs ++ u, rfl, rfl, ?_, ih.mpr ⟨u, rfl, hu⟩⟩
      exact fun d hd => decide_eq_true (List.mem_singleton.mp hd)

/-- A character that no class of the pattern holds occurs in no string it describes. -/
theorem not_mem_of_matches {c : CodePoint} (hc : ∀ p ∈ ps, Piece.ok p c = false)
    (h : Matches ps s) : c ∉ s := by
  induction ps generalizing s with
  | nil => exact h ▸ List.not_mem_nil
  | cons p ps ih =>
    have hrest := fun q hq => hc q (List.mem_cons_of_mem p hq)
    have hhead := hc p List.mem_cons_self
    have hsplit : ∃ t u, s = t ++ u ∧ (∀ d ∈ t, Piece.ok p d = true) ∧ Matches ps u := by
      cases p with
      | times n ok =>
        obtain ⟨t, u, hs, -, hall, hu⟩ := h
        exact ⟨t, u, hs, hall, hu⟩
      | many ok =>
        obtain ⟨t, u, hs, -, hall, hu⟩ := h
        exact ⟨t, u, hs, hall, hu⟩
    obtain ⟨t, u, rfl, hall, hu⟩ := hsplit
    rw [List.mem_append]
    rintro (hct | hcu)
    · exact Bool.false_ne_true (hhead.symm.trans (hall c hct))
    · exact ih hrest hu hcu

def BeforeNewline (Shape : Str → Prop) (s : Str) : Prop := ∃ t, Shape t ∧ s = t ++ [10]

/-- A pattern accepts exactly the strings of a narrower shape except on those it describes
beyond the shape, and on those it describes followed by a newline. -/
theorem fullMatch_exact_iff {Shape : Str → Prop} (hshape : Shape s → Matches ps s)
    (hnewline : ∀ p ∈ ps, Piece.ok p 10 = false) :
    (fullMatch ps s = true ↔ Shape s) ↔
      ¬BeforeNewline (Matches ps) s ∧ ¬(Matches ps s ∧ ¬Shape s) := by
  constructor
  · intro h
    constructor
    · rintro ⟨t, ht, rfl⟩
      have hmatch := hshape (h.mp (fullMatch_iff.mpr ⟨t, [10], rfl, ht, Or.inr rfl⟩))
      exact not_mem_of_matches hnewline hmatch (List.mem_append_right t List.mem_cons_self)
    · rintro ⟨hs, hnot⟩
      exact hnot (h.mp (fullMatch_iff.mpr ⟨s, [], (List.append_nil s).symm, hs, Or.inl rfl⟩))
  · rintro ⟨hend, hbeyond⟩
    constructor
    · intro h
      obtain ⟨t, e, rfl, ht, rfl | rfl⟩ := fullMatch_iff.mp h
      · rw [List.append_nil] at hbeyond ⊢
        exact Classical.byContradiction fun hnot => hbeyond ⟨ht, hnot⟩
      · exact absurd ⟨t, ht, rfl⟩ hend
    · intro h
      exact fullMatch_iff.mpr ⟨s, [], (List.append_nil s).symm, hshape h, Or.inl rfl⟩

end Exact

end Pattern
