import DoxGovernance.Drift.Alerting

/-!
# What a report rounds

A report shows its numbers rounded to four decimals, and everything that is decided about
them is decided before. So a reported difference may be off by one unit of the last decimal
from the difference of the reported frequencies, and a score just below a threshold is shown
as the threshold with the severity of what lies below it.
-/

set_option autoImplicit false

namespace Dox
namespace DriftDetectionService

/-! ### Deviations -/

section Deviations
variable {baselineCounts recentCounts : List (String × Nat)} {baselineTotal recentTotal : Nat}

theorem computeTvd_deviations (hbaseline : 0 < baselineTotal) (hrecent : 0 < recentTotal) :
    (computeTvd baselineCounts baselineTotal recentCounts recentTotal).2 =
      ((allTypes baselineCounts recentCounts).filter fun t =>
        1 / 1000 < delta baselineCounts baselineTotal recentCounts recentTotal t).map
          (deviation baselineCounts baselineTotal recentCounts recentTotal) := by
  rw [computeTvd, if_neg (not_or.mpr ⟨hbaseline.ne', hrecent.ne'⟩)]

/-- A type outside both maps has no share in either. -/
theorem mem_allTypes_of_delta {t : String}
    (h : 1 / 1000 < delta baselineCounts baselineTotal recentCounts recentTotal t) :
    t ∈ allTypes baselineCounts recentCounts := by
  by_contra hnot
  rw [mem_allTypes, not_or] at hnot
  rw [delta, frequency, frequency, Counter.get_of_not_mem hnot.1, Counter.get_of_not_mem hnot.2,
    Nat.cast_zero, zero_div, zero_div, sub_zero, abs_zero] at h
  norm_num at h

theorem sorted_allTypes : (allTypes baselineCounts recentCounts).Pairwise (· < ·) := by
  have hle : (allTypes baselineCounts recentCounts).Pairwise (· ≤ ·) := pairwise_orderByAsc id _
  exact (hle.and nodup_allTypes).imp fun h => lt_of_le_of_ne h.1 h.2

theorem count_differing (t : String) :
    ((allTypes baselineCounts recentCounts).filter fun t =>
      1 / 1000 < delta baselineCounts baselineTotal recentCounts recentTotal t).count t =
    if 1 / 1000 < delta baselineCounts baselineTotal recentCounts recentTotal t then 1 else 0 := by
  split
  · rename_i h
    apply List.count_eq_one_of_mem (nodup_allTypes.filter _)
    exact List.mem_filter.mpr ⟨mem_allTypes_of_delta h, decide_eq_true h⟩
  · rename_i h
    refine List.count_eq_zero.mpr fun hmem => h ?_
    exact of_decide_eq_true (List.mem_filter.mp hmem).2

end Deviations

/-- One entry for each type whose shares differ by more than a thousandth, in increasing order, with
the rounded shares and the rounded difference, and these three agree to the last decimal. -/
structure ListsDeviations (baselineCounts : List (String × Nat)) (baselineTotal : Nat)
    (recentCounts : List (String × Nat)) (recentTotal : Nat)
    (deviations : List EventTypeDeviation) : Prop where
  count : ∀ t, (deviations.map EventTypeDeviation.eventType).count t =
    if 1 / 1000 < |frequency baselineCounts baselineTotal t - frequency recentCounts recentTotal t|
    then 1 else 0
  increasing : (deviations.map EventTypeDeviation.eventType).Pairwise (· < ·)
  shares : ∀ d ∈ deviations,
    d.baselineFreq = Decimal.round 4 (frequency baselineCounts baselineTotal d.eventType) ∧
    d.recentFreq = Decimal.round 4 (frequency recentCounts recentTotal d.eventType) ∧
    d.delta = Decimal.round 4 |frequency baselineCounts baselineTotal d.eventType -
      frequency recentCounts recentTotal d.eventType|
  delta : ∀ d ∈ deviations, |d.delta - (|d.baselineFreq - d.recentFreq|)| ≤ 1 / 10000

theorem deviations_spec (baselineCounts : List (String × Nat)) (baselineTotal : Nat)
    (recentCounts : List (String × Nat)) (recentTotal : Nat) (hbaseline : 0 < baselineTotal)
    (hrecent : 0 < recentTotal) :
    ListsDeviations baselineCounts baselineTotal recentCounts recentTotal
      (computeTvd baselineCounts baselineTotal recentCounts recentTotal).2 := by
  have htypes : ∀ ts : List String, (ts.map (deviation baselineCounts baselineTotal recentCounts
      recentTotal)).map EventTypeDeviation.eventType = ts := by
    intro ts
    rw [List.map_map]
    exact List.map_id ts
  rw [computeTvd_deviations hbaseline hrecent]
  constructor
  · rw [htypes]
    exact count_differing
  · rw [htypes]
    exact sorted_allTypes.filter _
  · intro d hd
    obtain ⟨t, -, rfl⟩ := List.mem_map.mp hd
    exact ⟨rfl, rfl, rfl⟩
  · intro d hd
    obtain ⟨t, -, rfl⟩ := List.mem_map.mp hd
    have hround := Decimal.abs_round_abs_sub_le 4 (frequency baselineCounts baselineTotal t)
      (frequency recentCounts recentTotal t)
    norm_num at hround ⊢
    exact hround

theorem deviations_spec_sample : ListsDeviations [("a", 1), ("b", 2)] 3 [("a", 1)] 1
    (computeTvd [("a", 1), ("b", 2)] 3 [("a", 1)] 1).2 :=
  deviations_spec [("a", 1), ("b", 2)] 3 [("a", 1)] 1 (by decide) (by decide)

/-! ### Severity -/

/-- Less than half a unit of the last decimal below a threshold, or exactly half. -/
def JustBelowThreshold (score : ℚ) : Prop :=
  ∃ threshold ∈ [2 / 10, 4 / 10, 6 / 10], threshold - 1 / 20000 ≤ score ∧ score < threshold

/-- The thresholds are even in their fourth decimal, so the tie below each is rounded up. -/
theorem threshold_le_round_iff {m : ℤ} (hm : m % 2 = 0) (score : ℚ) :
    (m : ℚ) / 10000 ≤ Decimal.round 4 score ↔ (m : ℚ) / 10000 - 1 / 20000 ≤ score := by
  have hround := Decimal.le_round_iff 4 hm (x := score)
  norm_num at hround
  rw [hround]
  constructor <;> intro h <;> linarith

theorem scoreToSeverity_round (score : ℚ) : scoreToSeverity (Decimal.round 4 score) =
    if 6 / 10 - 1 / 20000 ≤ score then .high else if 4 / 10 - 1 / 20000 ≤ score then .medium
    else if 2 / 10 - 1 / 20000 ≤ score then .low else .none := by
  have hhigh := threshold_le_round_iff (m := 6000) (by decide) score
  have hmedium := threshold_le_round_iff (m := 4000) (by decide) score
  have hlow := threshold_le_round_iff (m := 2000) (by decide) score
  rw [scoreToSeverity_eq]
  norm_num at hhigh hmedium hlow ⊢
  simp only [hhigh, hmedium, hlow]

/-- Rounding changes the severity of a score exactly just below a threshold. -/
theorem scoreToSeverity_round_eq_iff {score : ℚ} :
    scoreToSeverity (Decimal.round 4 score) = scoreToSeverity score ↔
      ¬JustBelowThreshold score := by
  rw [scoreToSeverity_round, scoreToSeverity_eq]
  constructor
  · rintro h ⟨threshold, hthreshold, hle, hlt⟩
    simp only [List.mem_cons, List.not_mem_nil, or_false] at hthreshold
    rcases hthreshold with rfl | rfl | rfl
    · rw [if_neg (by linarith), if_neg (by linarith), if_pos hle, if_neg (by linarith),
        if_neg (by linarith), if_neg (by linarith)] at h
      cases h
    · rw [if_neg (by linarith), if_pos hle, if_neg (by linarith), if_neg (by linarith),
        if_pos (by linarith)] at h
      cases h
    · rw [if_pos hle, if_neg (by linarith), if_pos (by linarith)] at h
      cases h
  · intro h
    have hsame : ∀ threshold ∈ [2 / 10, 4 / 10, 6 / 10],
        (threshold - 1 / 20000 ≤ score ↔ threshold ≤ score) := by
      intro threshold hthreshold
      constructor
      · intro hle
        by_contra hlt
        exact h ⟨threshold, hthreshold, hle, not_le.mp hlt⟩
      · intro hle
        linarith
    simp only [hsame (2 / 10) (by simp), hsame (4 / 10) (by simp), hsame (6 / 10) (by simp)]

section Analysis
variable (service : DriftDetectionService) (baselineScan : Scan AgentBaseline)
  (eventScan : Scan EventRecord) (request : AnalyzeRequest) (w : World)

/-- The score that the severity is taken from. -/
def exactScore : ℚ := min (driftDistance baselineScan eventScan request w) 1

theorem analyze_score : ∃ report w',
    service.analyze baselineScan eventScan request w = (.ok report, w') ∧
    report.driftScore.severity =
      scoreToSeverity (exactScore baselineScan eventScan request w) ∧
    report.driftScore.score = Decimal.round 4 (exactScore baselineScan eventScan request w) := by
  obtain ⟨alerts, hrun, -⟩ := service.analyze_returns
    (rfl : getActiveBaseline baselineScan request.tenantId request.agentId w = _)
    (rfl : recentEvents eventScan request w = _)
  refine ⟨_, _, hrun, assess_severity _ _, ?_⟩
  exact congrArg (Decimal.round 4) (assess_score _ _)

/-- An analysis takes the severity from the exact score and returns the score rounded. The
severity is that of the returned score unless the exact one lies just below a threshold. -/
theorem analyze_severity : ∃ report w',
    service.analyze baselineScan eventScan request w = (.ok report, w') ∧
    report.driftScore.severity =
      scoreToSeverity (exactScore baselineScan eventScan request w) ∧
    report.driftScore.score = Decimal.round 4 (exactScore baselineScan eventScan request w) ∧
    (report.driftScore.severity = scoreToSeverity report.driftScore.score ↔
      ¬JustBelowThreshold (exactScore baselineScan eventScan request w)) := by
  obtain ⟨report, w', hrun, hseverity, hscore⟩ :=
    analyze_score service baselineScan eventScan request w
  refine ⟨report, w', hrun, hseverity, hscore, ?_⟩
  rw [hseverity, hscore, ← scoreToSeverity_round_eq_iff]
  exact eq_comm

end Analysis

/-- A baseline of 5002 events, of which 2001 are starts. -/
def splitBaseline : AgentBaseline where
  id := 0
  tenantId := "acme"
  agentId := "a1"
  lookbackHours := 24
  eventCounts := [("agent_started", 2001), ("agent_failed", 3001)]
  totalEvents := 5002
  computedAt := sampleNoon
  isActive := true
  createdAt := sampleNoon

def splitWorld : World := {sampleWorld with
  baselines := (∅ : Numbered AgentBaseline.id).add ({splitBaseline with id := ·}) fun _ => rfl
  events := ⟨Route.startedRecords, Route.nodup_startedRecords⟩}

/-- One start against that baseline scores 3001/5002: it is shown as 3/5, which would be high. -/
theorem severity_not_of_score :
    ∃ report, (analyze {sentinel := true} .stored .stored {tenantId := "acme", agentId := "a1"}
        splitWorld).1 = .ok report ∧ report.driftScore.score = 3 / 5 ∧
      report.driftScore.severity = .medium ∧ scoreToSeverity report.driftScore.score = .high := by
  obtain ⟨report, w', hrun, hseverity, hscore⟩ := analyze_score {sentinel := true} .stored .stored
    {tenantId := "acme", agentId := "a1"} splitWorld
  have hexact : exactScore .stored .stored {tenantId := "acme", agentId := "a1"} splitWorld =
      3001 / 5002 := by decide +kernel
  rw [hexact] at hseverity hscore
  refine ⟨report, congrArg Prod.fst hrun, ?_, ?_, ?_⟩
  · rw [hscore]
    decide +kernel
  · rw [hseverity]
    decide +kernel
  · rw [hscore]
    decide +kernel

end DriftDetectionService
end Dox
