import DoxGovernance.Drift.Service
import DoxGovernance.Lib.TotalVariation
import Mathlib.Algebra.Order.Group.MinMax

/-!
# What the drift score measures

The score is the total variation distance of two distributions of event types, computed over
the sorted types that occur in either. For two windows of events it is the greatest difference
that their shares make on any set of types, and one more recent event moves it by at most that
event's own share.
-/

set_option autoImplicit false

namespace Dox
open TotalVariation

namespace DriftDetectionService

def typeValues (records : List EventRecord) : List String :=
  records.map fun record => record.eventType.value

theorem frequency_countTypes (records : List EventRecord) :
    frequency (countTypes records) records.length = share (typeValues records) := by
  funext eventType
  rw [frequency, countTypes, Counter.get_ofList, share, typeValues, List.length_map]

theorem mem_countTypes {records : List EventRecord} {eventType : String} :
    eventType ∈ (countTypes records).map Prod.fst ↔ eventType ∈ typeValues records :=
  Counter.mem_keys_ofList

section Score
variable {baselineCounts : List (String × Nat)} {baselineTotal : Nat}
  {recentCounts : List (String × Nat)} {recentTotal : Nat}

theorem perm_allTypes : (allTypes baselineCounts recentCounts).Perm
    (baselineCounts.map Prod.fst ++ recentCounts.map Prod.fst).dedup :=
  List.perm_insertionSort _ _

theorem mem_allTypes {eventType : String} : eventType ∈ allTypes baselineCounts recentCounts ↔
    eventType ∈ baselineCounts.map Prod.fst ∨ eventType ∈ recentCounts.map Prod.fst := by
  rw [perm_allTypes.mem_iff, List.mem_dedup, List.mem_append]

theorem nodup_allTypes : (allTypes baselineCounts recentCounts).Nodup :=
  perm_allTypes.nodup_iff.mpr (List.nodup_dedup _)

/-- The loop over the sorted types computes the distance, over any set that has all of them. -/
theorem sum_delta {s : Finset String} (hs : ∀ t ∈ allTypes baselineCounts recentCounts, t ∈ s) :
    ((allTypes baselineCounts recentCounts).map
      (delta baselineCounts baselineTotal recentCounts recentTotal)).sum / 2 =
    distance s (frequency baselineCounts baselineTotal) (frequency recentCounts recentTotal) := by
  have hloop : ((allTypes baselineCounts recentCounts).map
      (delta baselineCounts baselineTotal recentCounts recentTotal)).sum / 2 =
      distance (allTypes baselineCounts recentCounts).toFinset
        (frequency baselineCounts baselineTotal) (frequency recentCounts recentTotal) := by
    rw [distance, List.sum_toFinset _ nodup_allTypes]
    rfl
  rw [hloop]
  apply distance_eq_of_subset
  · intro t ht
    exact hs t (List.mem_toFinset.mp ht)
  · intro t _ ht
    rw [List.mem_toFinset, mem_allTypes, not_or] at ht
    rw [frequency, frequency, Counter.get_of_not_mem ht.1, Counter.get_of_not_mem ht.2,
      Nat.cast_zero, zero_div, zero_div]

theorem computeTvd_score (hbaseline : baselineTotal ≠ 0) (hrecent : recentTotal ≠ 0)
    {s : Finset String} (hs : ∀ t ∈ allTypes baselineCounts recentCounts, t ∈ s) :
    (computeTvd baselineCounts baselineTotal recentCounts recentTotal).1 =
      min (distance s (frequency baselineCounts baselineTotal)
        (frequency recentCounts recentTotal)) 1 := by
  rw [← sum_delta hs, computeTvd, if_neg (not_or.mpr ⟨hbaseline, hrecent⟩)]

theorem computeTvd_empty (h : baselineTotal = 0 ∨ recentTotal = 0) :
    (computeTvd baselineCounts baselineTotal recentCounts recentTotal).1 = 0 := by
  rw [computeTvd, if_pos h]

end Score

/-- The score of a baseline that counts a window and of a recent window. -/
def windowScore (baseline recent : List EventRecord) : ℚ :=
  (computeTvd (countTypes baseline) baseline.length (countTypes recent) recent.length).1

/-- What the loop adds up for the two windows, before it is cut at one. -/
def unclampedScore (baseline recent : List EventRecord) : ℚ :=
  ((allTypes (countTypes baseline) (countTypes recent)).map
    (delta (countTypes baseline) baseline.length (countTypes recent) recent.length)).sum / 2

/-- The share of the events whose type is in the set. -/
def typeShare (types : EventType → Bool) (records : List EventRecord) : ℚ :=
  (records.countP fun record => types record.eventType) / records.length

section Windows
variable {baseline recent : List EventRecord}

/-- The types that the loop goes over. -/
def seenTypes (baseline recent : List EventRecord) : Finset String :=
  (allTypes (countTypes baseline) (countTypes recent)).toFinset

theorem mem_seenTypes_left : ∀ t ∈ typeValues baseline, t ∈ seenTypes baseline recent :=
  fun _ ht => List.mem_toFinset.mpr (mem_allTypes.mpr (Or.inl (mem_countTypes.mpr ht)))

theorem mem_seenTypes_right : ∀ t ∈ typeValues recent, t ∈ seenTypes baseline recent :=
  fun _ ht => List.mem_toFinset.mpr (mem_allTypes.mpr (Or.inr (mem_countTypes.mpr ht)))

theorem unclampedScore_eq (baseline recent : List EventRecord) :
    unclampedScore baseline recent =
      distance (seenTypes baseline recent) (share (typeValues baseline))
        (share (typeValues recent)) := by
  rw [unclampedScore, sum_delta fun t => List.mem_toFinset.mpr, frequency_countTypes,
    frequency_countTypes]
  rfl

theorem typeValues_ne_nil {records : List EventRecord} (h : records ≠ []) :
    typeValues records ≠ [] := by
  simpa [typeValues] using h

theorem shareIn_typeValues (A : String → Bool) (records : List EventRecord) :
    shareIn A (typeValues records) = typeShare (fun eventType => A eventType.value) records := by
  rw [shareIn, typeShare, typeValues, List.countP_map, List.length_map]
  rfl

/-- A set of types is a set of their values. -/
theorem exists_shareIn (types : EventType → Bool) :
    ∃ A : String → Bool, ∀ records, typeShare types records = shareIn A (typeValues records) := by
  refine ⟨Function.extend EventType.value types fun _ => false, fun records => ?_⟩
  rw [shareIn_typeValues]
  simp only [EventType.value_injective.extend_apply]

theorem share_value (records : List EventRecord) (eventType : EventType) :
    share (typeValues records) eventType.value = typeShare (fun t => t = eventType) records := by
  rw [share, typeShare, typeValues, List.count, List.countP_map, List.length_map]
  congr 2
  apply List.countP_congr
  intro record _
  simp [EventType.value_injective.eq_iff]

theorem share_eq_zero_of_not_value {t : String} (h : ∀ eventType : EventType, eventType.value ≠ t)
    (records : List EventRecord) : share (typeValues records) t = 0 := by
  have hnot : t ∉ typeValues records := by
    rintro hmem
    obtain ⟨record, -, hvalue⟩ := List.mem_map.mp hmem
    exact h record.eventType hvalue
  rw [share, List.count_eq_zero_of_not_mem hnot, Nat.cast_zero, zero_div]

theorem share_value_eq_zero_iff {records : List EventRecord} (h : records ≠ [])
    {eventType : EventType} : share (typeValues records) eventType.value = 0 ↔
      ¬∃ record ∈ records, record.eventType = eventType := by
  rw [share_eq_zero_iff (typeValues_ne_nil h), typeValues, List.mem_map]
  simp only [EventType.value_injective.eq_iff]

variable (hbaseline : baseline ≠ []) (hrecent : recent ≠ [])
include hbaseline hrecent

/-- For two windows that are not empty the score is never cut. -/
theorem windowScore_eq_unclamped : windowScore baseline recent = unclampedScore baseline recent := by
  have hscore : windowScore baseline recent = _ :=
    computeTvd_score (List.length_eq_zero_iff.not.mpr hbaseline)
      (List.length_eq_zero_iff.not.mpr hrecent) fun t => List.mem_toFinset.mpr
  rw [hscore, frequency_countTypes, frequency_countTypes, unclampedScore_eq]
  apply min_eq_left
  exact distance_le_one (sum_share (typeValues_ne_nil hbaseline) mem_seenTypes_left)
    (sum_share (typeValues_ne_nil hrecent) mem_seenTypes_right) (fun t _ => share_nonneg _ t)
    fun t _ => share_nonneg _ t

theorem windowScore_eq_distance : windowScore baseline recent =
    distance (seenTypes baseline recent) (share (typeValues baseline))
      (share (typeValues recent)) :=
  (windowScore_eq_unclamped hbaseline hrecent).trans (unclampedScore_eq baseline recent)

theorem isGreatest_windowScore : IsGreatest
    {d | ∃ types : EventType → Bool, d = |typeShare types baseline - typeShare types recent|}
    (windowScore baseline recent) := by
  obtain ⟨⟨A, hattained⟩, hbound⟩ := isGreatest_distance_share (typeValues_ne_nil hbaseline)
    (typeValues_ne_nil hrecent) mem_seenTypes_left mem_seenTypes_right
  rw [windowScore_eq_distance hbaseline hrecent]
  constructor
  · refine ⟨fun eventType => A eventType.value, ?_⟩
    rw [hattained, shareIn_typeValues, shareIn_typeValues]
  · rintro d ⟨types, rfl⟩
    obtain ⟨B, hB⟩ := exists_shareIn types
    rw [hB, hB]
    exact hbound ⟨B, rfl⟩

theorem windowScore_eq_zero_iff : windowScore baseline recent = 0 ↔ ∀ eventType : EventType,
    typeShare (fun t => t = eventType) baseline = typeShare (fun t => t = eventType) recent := by
  constructor
  · intro h eventType
    have hle := (isGreatest_windowScore hbaseline hrecent).2 ⟨fun t => t = eventType, rfl⟩
    rw [h] at hle
    exact sub_eq_zero.mp (abs_eq_zero.mp (le_antisymm hle (abs_nonneg _)))
  · intro h
    rw [windowScore_eq_distance hbaseline hrecent, distance_eq_zero_iff]
    intro t _
    by_cases hvalue : ∃ eventType : EventType, eventType.value = t
    · obtain ⟨eventType, rfl⟩ := hvalue
      rw [share_value, share_value, h]
    · have hnone := not_exists.mp hvalue
      rw [share_eq_zero_of_not_value hnone, share_eq_zero_of_not_value hnone]

theorem windowScore_eq_one_iff : windowScore baseline recent = 1 ↔ ∀ eventType : EventType,
    ¬((∃ record ∈ baseline, record.eventType = eventType) ∧
      ∃ record ∈ recent, record.eventType = eventType) := by
  rw [windowScore_eq_distance hbaseline hrecent,
    distance_eq_one_iff (sum_share (typeValues_ne_nil hbaseline) mem_seenTypes_left)
      (sum_share (typeValues_ne_nil hrecent) mem_seenTypes_right) (fun t _ => share_nonneg _ t)
      fun t _ => share_nonneg _ t]
  simp only [not_and_or]
  constructor
  · intro h eventType
    rw [← share_value_eq_zero_iff hbaseline, ← share_value_eq_zero_iff hrecent]
    by_cases hseen : eventType.value ∈ seenTypes baseline recent
    · exact h _ hseen
    · left
      rw [share_eq_zero_iff (typeValues_ne_nil hbaseline)]
      exact fun hmem => hseen (mem_seenTypes_left _ hmem)
  · intro h t _
    by_cases hvalue : ∃ eventType : EventType, eventType.value = t
    · obtain ⟨eventType, rfl⟩ := hvalue
      rw [share_value_eq_zero_iff hbaseline, share_value_eq_zero_iff hrecent]
      exact h eventType
    · exact Or.inl (share_eq_zero_of_not_value (not_exists.mp hvalue) _)

end Windows

/-- The score of two windows of events is the greatest difference that their shares make on a
set of event types. It is never cut at one, it is zero when every type has the same share in
both, and one when no type occurs in both. -/
theorem windowScore_spec (baseline recent : List EventRecord) (hbaseline : baseline ≠ [])
    (hrecent : recent ≠ []) :
    IsGreatest
      {d | ∃ types : EventType → Bool, d = |typeShare types baseline - typeShare types recent|}
      (windowScore baseline recent) ∧
    windowScore baseline recent = unclampedScore baseline recent ∧
    (windowScore baseline recent = 0 ↔ ∀ eventType : EventType,
      typeShare (fun t => t = eventType) baseline = typeShare (fun t => t = eventType) recent) ∧
    (windowScore baseline recent = 1 ↔ ∀ eventType : EventType,
      ¬((∃ record ∈ baseline, record.eventType = eventType) ∧
        ∃ record ∈ recent, record.eventType = eventType)) :=
  ⟨isGreatest_windowScore hbaseline hrecent, windowScore_eq_unclamped hbaseline hrecent,
    windowScore_eq_zero_iff hbaseline hrecent, windowScore_eq_one_iff hbaseline hrecent⟩

theorem windowScore_spec_disjoint :
    windowScore [sampleRecord .agentStarted 1] [sampleRecord .agentFailed 2] = 1 := by
  apply (windowScore_spec [sampleRecord .agentStarted 1] [sampleRecord .agentFailed 2]
    (List.cons_ne_nil _ _) (List.cons_ne_nil _ _)).2.2.2.mpr
  rintro eventType ⟨⟨record, hrecord, rfl⟩, record', hrecord', hsame⟩
  rw [List.mem_singleton.mp hrecord, List.mem_singleton.mp hrecord'] at hsame
  exact absurd hsame (by decide)

/-! ### One more recent event -/

/-- The score that an analysis computes with a stored baseline. -/
def scoreAgainst (baseline : AgentBaseline) (recent : List EventRecord) : ℚ :=
  (computeTvd baseline.eventCounts baseline.totalEvents (countTypes recent) recent.length).1

section Against
variable {baseline : AgentBaseline} {recent : List EventRecord}

theorem scoreAgainst_eq {s : Finset String} (hbaseline : baseline.totalEvents ≠ 0)
    (hrecent : recent ≠ []) (hs : ∀ t ∈ baseline.eventCounts.map Prod.fst, t ∈ s)
    (hs' : ∀ t ∈ typeValues recent, t ∈ s) :
    scoreAgainst baseline recent =
      min (distance s (frequency baseline.eventCounts baseline.totalEvents)
        (share (typeValues recent))) 1 := by
  rw [scoreAgainst, computeTvd_score hbaseline (List.length_eq_zero_iff.not.mpr hrecent),
    frequency_countTypes]
  intro t ht
  rcases mem_allTypes.mp ht with hkey | hkey
  · exact hs t hkey
  · exact hs' t (mem_countTypes.mp hkey)

theorem scoreAgainst_nil : scoreAgainst baseline [] = 0 := computeTvd_empty (Or.inr rfl)

theorem scoreAgainst_of_empty (h : baseline.totalEvents = 0) : scoreAgainst baseline recent = 0 :=
  computeTvd_empty (Or.inl h)

theorem scoreAgainst_mem_unit (baseline : AgentBaseline) (recent : List EventRecord) :
    0 ≤ scoreAgainst baseline recent ∧ scoreAgainst baseline recent ≤ 1 := by
  by_cases hbaseline : baseline.totalEvents = 0
  · rw [scoreAgainst_of_empty hbaseline]
    norm_num
  rcases eq_or_ne recent [] with rfl | hrecent
  · rw [scoreAgainst_nil]
    norm_num
  rw [scoreAgainst_eq hbaseline hrecent
    (fun t ht => List.mem_toFinset.mpr (List.mem_append_left (typeValues recent) ht))
    fun t ht => List.mem_toFinset.mpr (List.mem_append_right _ ht)]
  exact ⟨le_min (distance_nonneg _ _ _) zero_le_one, min_le_right _ _⟩

end Against

/-- One more recent event moves the score by at most its own share of the recent events. -/
theorem abs_scoreAgainst_sub_le (baseline : AgentBaseline) (before after : List EventRecord)
    (event : EventRecord) :
    |scoreAgainst baseline (before ++ event :: after) - scoreAgainst baseline (before ++ after)| ≤
      1 / ((before ++ after).length + 1) := by
  by_cases hbaseline : baseline.totalEvents = 0
  · rw [scoreAgainst_of_empty hbaseline, scoreAgainst_of_empty hbaseline, sub_self, abs_zero]
    positivity
  rcases eq_or_ne (before ++ after) [] with hnil | hrecent
  · obtain ⟨hnonneg, hle⟩ := scoreAgainst_mem_unit baseline (before ++ event :: after)
    rw [hnil, scoreAgainst_nil, sub_zero, abs_of_nonneg hnonneg]
    simpa using hle
  -- both windows are compared over the types of the baseline and of the longer window
  have hperm : (typeValues (before ++ event :: after)).Perm
      (event.eventType.value :: typeValues (before ++ after)) :=
    List.perm_middle.map fun record : EventRecord => record.eventType.value
  set s := (baseline.eventCounts.map Prod.fst ++
    event.eventType.value :: typeValues (before ++ after)).toFinset
  have hkeys : ∀ t ∈ baseline.eventCounts.map Prod.fst, t ∈ s :=
    fun t ht => List.mem_toFinset.mpr (List.mem_append_left _ ht)
  have hmore : ∀ t ∈ event.eventType.value :: typeValues (before ++ after), t ∈ s :=
    fun t ht => List.mem_toFinset.mpr (List.mem_append_right _ ht)
  have hstep : distance s (share (typeValues (before ++ after)))
      (share (typeValues (before ++ event :: after))) ≤ 1 / ((before ++ after).length + 1) := by
    have hcons := distance_share_cons_le (typeValues_ne_nil hrecent) hmore
    rw [share_perm hperm]
    rwa [typeValues, List.length_map] at hcons
  rw [scoreAgainst_eq hbaseline hrecent hkeys fun t ht => hmore t (List.mem_cons_of_mem _ ht),
    scoreAgainst_eq hbaseline (by simp) hkeys fun t ht => hmore t (hperm.mem_iff.mp ht)]
  refine le_trans (abs_min_sub_min_le_max _ _ _ _) ?_
  rw [sub_self, abs_zero, max_eq_left (abs_nonneg _), abs_sub_comm]
  exact le_trans (abs_distance_sub_le s _ _ _) hstep

end DriftDetectionService
end Dox
