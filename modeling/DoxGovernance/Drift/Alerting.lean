import DoxGovernance.Drift.Distance
import DoxGovernance.Gateway.App

/-!
# Alerts for drift

An analysis is meant to raise an alert when the distance of the recent window from the newest
active baseline reaches the threshold of a medium severity. A service with a sentinel service
attached always does so. The gateway's route builds its service without one, and it does what
is meant only where no alert is due.
-/

set_option autoImplicit false

namespace Dox
open TotalVariation

namespace DriftDetectionService

/-- The distance of a recent window from a baseline, which is zero without a baseline and where
either is empty. -/
def windowDistance : Option AgentBaseline → List EventRecord → ℚ
  | none, _ => 0
  | some baseline, recent =>
    if baseline.totalEvents = 0 ∨ recent = [] then 0
    else distance (baseline.eventCounts.map Prod.fst ++ typeValues recent).toFinset
      (frequency baseline.eventCounts baseline.totalEvents) (share (typeValues recent))

def newestBaseline (scan : Scan AgentBaseline) (request : AnalyzeRequest) (w : World) :
    Option AgentBaseline :=
  (orderByDesc (·.computedAt)
    (w.baselines.select scan (isActiveOf request.tenantId request.agentId))).head?

def recentWindow (scan : Scan EventRecord) (request : AnalyzeRequest) (w : World) :
    List EventRecord :=
  w.events.select scan (inWindow w.clock request.tenantId request.agentId request.lookbackHours)

/-- The distance that an analysis is about. -/
def driftDistance (baselineScan : Scan AgentBaseline) (eventScan : Scan EventRecord)
    (request : AnalyzeRequest) (w : World) : ℚ :=
  windowDistance (newestBaseline baselineScan request w) (recentWindow eventScan request w)

/-- What the alerts are before and after an analysis that finds the distance `d`: one is added
from 2/5 on, it is severe from 3/5 on, and the answer says whether there is one. -/
structure AlertsByDistance (request : AnalyzeRequest) (d : ℚ) (alerts alerts' : List SentinelAlert)
    (alertCreated : Bool) : Prop where
  reported : alertCreated = true ↔ 2 / 5 ≤ d
  raised : 2 / 5 ≤ d → ∃ alert, alerts' = alerts ++ [alert] ∧ alert.sentinelType = .drift ∧
    alert.tenantId = request.tenantId ∧ alert.agentId = request.agentId ∧
    alert.severity = if 3 / 5 ≤ d then .high else .medium
  quiet : d < 2 / 5 → alerts' = alerts

/-- To add nothing is right where no alert is due. -/
theorem alertsByDistance_quiet_iff {request : AnalyzeRequest} {d : ℚ} {alerts : List SentinelAlert} :
    AlertsByDistance request d alerts alerts false ↔ d < 2 / 5 := by
  constructor
  · intro h
    by_contra hle
    exact absurd (h.reported.mpr (not_lt.mp hle)) Bool.false_ne_true
  · intro hlt
    have hnot : ¬2 / 5 ≤ d := not_le.mpr hlt
    exact ⟨iff_of_false Bool.false_ne_true hnot, fun hle => absurd hle hnot, fun _ => rfl⟩

section Assessment

theorem scoreToSeverity_eq (score : ℚ) : scoreToSeverity score =
    if 6 / 10 ≤ score then .high else if 4 / 10 ≤ score then .medium
    else if 2 / 10 ≤ score then .low else .none := by
  simp only [scoreToSeverity, severityThresholds, ge_iff_le, List.find?_cons, List.find?_nil]
  by_cases hhigh : 6 / 10 ≤ score
  · simp only [hhigh, decide_true, if_true]
  by_cases hmedium : 4 / 10 ≤ score
  · simp only [hhigh, hmedium, decide_false, decide_true, if_false, if_true]
  by_cases hlow : 2 / 10 ≤ score
  · simp only [hhigh, hmedium, hlow, decide_false, decide_true, if_false, if_true]
  by_cases hnone : 0 ≤ score
  · simp only [hhigh, hmedium, hlow, hnone, decide_false, decide_true, if_false]
  · simp only [hhigh, hmedium, hlow, hnone, decide_false, if_false]

theorem scoreToSeverity_high_iff {score : ℚ} : scoreToSeverity score = .high ↔ 3 / 5 ≤ score := by
  have hratio : (6 / 10 : ℚ) = 3 / 5 := by norm_num
  rw [scoreToSeverity_eq, ← hratio]
  split <;> rename_i h
  · exact iff_of_true rfl h
  · refine iff_of_false ?_ h
    split_ifs <;> decide

theorem scoreToSeverity_alerts_iff {score : ℚ} :
    scoreToSeverity score = .medium ∨ scoreToSeverity score = .high ↔ 2 / 5 ≤ score := by
  have hratio : (4 / 10 : ℚ) = 2 / 5 := by norm_num
  rw [scoreToSeverity_eq, ← hratio]
  by_cases hhigh : 6 / 10 ≤ score
  · rw [if_pos hhigh]
    exact iff_of_true (Or.inr rfl) (by linarith)
  rw [if_neg hhigh]
  by_cases hmedium : 4 / 10 ≤ score
  · rw [if_pos hmedium]
    exact iff_of_true (Or.inl rfl) hmedium
  · rw [if_neg hmedium]
    refine iff_of_false ?_ hmedium
    split_ifs <;> decide

variable (baseline : Option AgentBaseline) (recent : List EventRecord)

theorem assess_score : (assess recent baseline).2.1 = min (windowDistance baseline recent) 1 := by
  cases baseline with
  | none => simp [assess, windowDistance]
  | some baseline =>
    change scoreAgainst baseline recent = _
    by_cases hempty : baseline.totalEvents = 0 ∨ recent = []
    · rw [windowDistance, if_pos hempty, min_eq_left zero_le_one]
      rcases hempty with h | rfl
      · exact scoreAgainst_of_empty h
      · exact scoreAgainst_nil
    · obtain ⟨hbaseline, hrecent⟩ := not_or.mp hempty
      rw [windowDistance, if_neg hempty]
      apply scoreAgainst_eq hbaseline hrecent
      · exact fun t ht => List.mem_toFinset.mpr (List.mem_append_left _ ht)
      · exact fun t ht => List.mem_toFinset.mpr (List.mem_append_right _ ht)

theorem assess_severity : (assess recent baseline).1 =
    scoreToSeverity (min (windowDistance baseline recent) 1) := by
  rw [← assess_score]
  cases baseline with
  | none => rw [assess, scoreToSeverity_eq]; norm_num
  | some baseline => rfl

/-- The thresholds are below one, where the score is cut. -/
theorem le_min_one_iff {a d : ℚ} (ha : a ≤ 1) : a ≤ min d 1 ↔ a ≤ d := by
  rw [le_min_iff, and_iff_left ha]

theorem assess_high_iff :
    (assess recent baseline).1 = .high ↔ 3 / 5 ≤ windowDistance baseline recent := by
  rw [assess_severity, scoreToSeverity_high_iff, le_min_one_iff (by norm_num)]

theorem alerts_assess (service : DriftDetectionService) :
    service.alerts (assess recent baseline).1 = true ↔
      service.sentinel = true ∧ 2 / 5 ≤ windowDistance baseline recent := by
  rw [alerts, Bool.and_eq_true, Bool.or_eq_true, decide_eq_true_iff, decide_eq_true_iff,
    assess_severity, scoreToSeverity_alerts_iff, le_min_one_iff (by norm_num)]

end Assessment

section Analysis
variable (service : DriftDetectionService) (baselineScan : Scan AgentBaseline)
  (eventScan : Scan EventRecord) (request : AnalyzeRequest) (w : World)

/-- The alert that an analysis raises, when it does. -/
def raisedAlert : SentinelAlert :=
  let recent := recentWindow eventScan request w
  let (severity, score, _) := assess recent (newestBaseline baselineScan request w)
  SentinelService.newAlert w.clock (driftAlert request score severity recent.length) w.alerts.next

theorem analyze_rows : ∃ report alerts,
    service.analyze baselineScan eventScan request w = (.ok report, {w with alerts}) ∧
    (report.alertCreated = true ↔
      service.sentinel = true ∧ 2 / 5 ≤ driftDistance baselineScan eventScan request w) ∧
    alerts.rows = w.alerts.rows ++ if report.alertCreated then
      [raisedAlert baselineScan eventScan request w] else [] := by
  have hassess := alerts_assess (newestBaseline baselineScan request w)
    (recentWindow eventScan request w) service
  obtain ⟨alerts, hrun, hrows⟩ := service.analyze_returns
    (rfl : getActiveBaseline baselineScan request.tenantId request.agentId w = _)
    (rfl : recentEvents eventScan request w = _)
  exact ⟨_, alerts, hrun, hassess, hrows⟩

variable {baselineScan eventScan request w}

theorem raisedAlert_severity : (raisedAlert baselineScan eventScan request w).severity =
    if 3 / 5 ≤ driftDistance baselineScan eventScan request w then .high else .medium :=
  if_congr (assess_high_iff _ _) rfl rfl

/-- A service with a sentinel service attached always alerts by the distance. -/
theorem analyze_alerts (baselineScan : Scan AgentBaseline) (eventScan : Scan EventRecord)
    (request : AnalyzeRequest) (w : World) (hsentinel : service.sentinel = true) :
    ∃ report w', service.analyze baselineScan eventScan request w = (.ok report, w') ∧
      AlertsByDistance request (driftDistance baselineScan eventScan request w) w.alerts.rows
        w'.alerts.rows report.alertCreated := by
  obtain ⟨report, alerts, hrun, hcreated, hrows⟩ :=
    analyze_rows service baselineScan eventScan request w
  rw [and_iff_right hsentinel] at hcreated
  refine ⟨report, _, hrun, hcreated, fun hle => ?_, fun hlt => ?_⟩
  · rw [if_pos (hcreated.mpr hle)] at hrows
    exact ⟨_, hrows, rfl, rfl, rfl, raisedAlert_severity⟩
  · rw [if_neg fun h => absurd hlt (not_lt.mpr (hcreated.mp h)), List.append_nil] at hrows
    exact hrows

end Analysis
end DriftDetectionService

namespace Route
open DriftDetectionService
variable (gateway : Gateway) (scans : Scans) (outage : Outage) (request : AnalyzeRequest) (w : World)

/-- The route alerts by the distance. -/
def AlertsForDrift : Prop :=
  ∃ report w', (drift (.analyzeDrift request)).handle gateway scans outage w =
      (.ok (.drift report), w') ∧
    AlertsByDistance request (driftDistance scans.baselines scans.events request w) w.alerts.rows
      w'.alerts.rows report.alertCreated

variable {gateway scans outage request w} in
/-- The service of the route has no sentinel service to raise an alert with. -/
theorem alertsForDrift_iff_quiet : AlertsForDrift gateway scans outage request w ↔
    AlertsByDistance request (driftDistance scans.baselines scans.events request w) w.alerts.rows
      w.alerts.rows false := by
  obtain ⟨report, alerts, hrun, hcreated, hrows⟩ :=
    analyze_rows {sentinel := false} scans.baselines scans.events request w
  have hfalse : report.alertCreated = false := by
    rw [← Bool.not_eq_true, hcreated]
    exact fun h => Bool.false_ne_true h.1
  have hroute : (drift (.analyzeDrift request)).handle gateway scans outage w =
      (.ok (.drift report), {w with alerts}) := Effect.bind_ok hrun
  have hsame : ({w with alerts} : World).alerts.rows = w.alerts.rows := by
    rw [hfalse, if_neg Bool.false_ne_true, List.append_nil] at hrows
    exact hrows
  rw [← hfalse]
  constructor
  · rintro ⟨report', w', hrun', h⟩
    rw [hroute] at hrun'
    cases hrun'
    rwa [hsame] at h
  · intro h
    refine ⟨report, _, hroute, ?_⟩
    rwa [hsame]

/-- The gateway's route alerts by the distance exactly where no alert is due. -/
theorem alertsForDrift_iff : AlertsForDrift gateway scans outage request w ↔
    driftDistance scans.baselines scans.events request w < 2 / 5 := by
  rw [alertsForDrift_iff_quiet, alertsByDistance_quiet_iff]

def startedRecords : List EventRecord := [sampleRecord .agentStarted 1]

def failedRecords : List EventRecord :=
  startedRecords ++ [{sampleRecord .agentFailed 2 with timestamp := sampleNextNoon}]

theorem nodup_startedRecords : (startedRecords.map EventRecord.eventId).Nodup := by decide

theorem nodup_failedRecords : (failedRecords.map EventRecord.eventId).Nodup := by decide

theorem dayBounds : 1 ≤ 24 ∧ 24 ≤ 720 := by decide

def dailyBaseline : BaselineCreate where
  tenantId := "acme"
  agentId := "a1"
  lookbackBounds := dayBounds

/-- An agent that only started when its baseline was computed has only failed in the last hour
of the next day. -/
def driftedWorld : World :=
  let started : World := {sampleWorld with events := ⟨startedRecords, nodup_startedRecords⟩}
  let baselined := (computeBaseline .stored dailyBaseline started).2
  {baselined.at sampleNextNoon with events := ⟨failedRecords, nodup_failedRecords⟩}

/-- The two distributions have nothing in common, and no gateway alerts. -/
theorem drifted_not_alerted :
    driftDistance .stored .stored {tenantId := "acme", agentId := "a1"} driftedWorld = 1 ∧
    ¬∃ gateway, AlertsForDrift gateway {} {} {tenantId := "acme", agentId := "a1"} driftedWorld := by
  have hdistance : driftDistance .stored .stored {tenantId := "acme", agentId := "a1"}
      driftedWorld = 1 := by decide +kernel
  refine ⟨hdistance, ?_⟩
  rintro ⟨gateway, h⟩
  have hlt := alertsByDistance_quiet_iff.mp (alertsForDrift_iff_quiet.mp h)
  rw [hdistance] at hlt
  norm_num at hlt

end Route
end Dox
