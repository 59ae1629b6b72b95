import DoxGovernance.Lib.Counter
import DoxGovernance.Lib.Decimal
import DoxGovernance.Sentinel.Service

/-!
# The drift service

A baseline counts the events of an agent by type over a time window and takes the place of
the agent's earlier baseline. An analysis compares the counts of the newest active baseline
with those of a recent window by their total variation distance, in exact arithmetic, and
raises an alert when a sentinel service is attached and the distance is large enough.
-/

set_option autoImplicit false

namespace Dox

structure BaselineCreate where
  tenantId : String
  agentId : String
  lookbackHours : Nat := 24
  lookbackBounds : 1 ≤ lookbackHours ∧ lookbackHours ≤ 720 := by decide

structure AnalyzeRequest where
  tenantId : String
  agentId : String
  lookbackHours : Nat := 1
  lookbackBounds : 1 ≤ lookbackHours ∧ lookbackHours ≤ 168 := by decide

structure EventTypeDeviation where
  eventType : String
  baselineFreq : ℚ
  recentFreq : ℚ
  delta : ℚ
deriving DecidableEq

inductive DriftSeverity where
  | high | medium | low | none
deriving DecidableEq, Repr

def DriftSeverity.value : DriftSeverity → String
  | high => "high"
  | medium => "medium"
  | low => "low"
  | none => "none"

structure DriftScore where
  tenantId : String
  agentId : String
  score : ℚ
  severity : DriftSeverity
  recentEventCount : Nat
  baselineTotalEvents : Nat
  deviations : List EventTypeDeviation

structure DriftReportResponse where
  driftScore : DriftScore
  baselineId : Option Uuid
  alertCreated : Bool

/-- `_SEVERITY_THRESHOLDS`. -/
def severityThresholds : List (ℚ × DriftSeverity) :=
  [(6 / 10, .high), (4 / 10, .medium), (2 / 10, .low), (0, .none)]

/-- `_score_to_severity`. -/
def scoreToSeverity (score : ℚ) : DriftSeverity :=
  match severityThresholds.find? fun threshold => score ≥ threshold.1 with
  | some threshold => threshold.2
  | none => .none

/-- Which of the optional services are attached. -/
structure DriftDetectionService where
  sentinel : Bool

namespace DriftDetectionService

/-- The events of an agent that are at most so many hours old. -/
def inWindow (now : Datetime) (tenantId agentId : String) (hours : Nat) (record : EventRecord) :
    Bool :=
  record.tenantId = tenantId && record.agentId = agentId && now.withinHours hours record.timestamp

def countTypes (records : List EventRecord) : List (String × Nat) :=
  Counter.ofList (records.map fun record => record.eventType.value)

def isActiveOf (tenantId agentId : String) (baseline : AgentBaseline) : Bool :=
  baseline.tenantId = tenantId && baseline.agentId = agentId && baseline.isActive

def newBaseline (now : Datetime) (create : BaselineCreate) (records : List EventRecord)
    (id : Uuid) : AgentBaseline where
  id := id
  tenantId := create.tenantId
  agentId := create.agentId
  lookbackHours := create.lookbackHours
  eventCounts := countTypes records
  totalEvents := records.length
  computedAt := now
  isActive := true
  createdAt := now

/-- Deactivate the agent's active baselines and add the new one, in one commit. -/
def replaceBaselines (create : BaselineCreate) (records : List EventRecord) :
    Service AgentBaseline :=
  Effect.change fun w =>
    let kept := w.baselines.modify (isActiveOf create.tenantId create.agentId)
      ({· with isActive := false}) fun _ => rfl
    (newBaseline w.clock create records kept.next,
      {w with baselines := kept.add (newBaseline w.clock create records) fun _ => rfl})

def computeBaseline (scan : Scan EventRecord) (create : BaselineCreate) :
    Service AgentBaseline := do
  let events ← Effect.gets fun w => orderByAsc (·.timestamp) (w.events.select scan
    (inWindow w.clock create.tenantId create.agentId create.lookbackHours))
  replaceBaselines create events

def getBaseline (baselineId : Uuid) : Service AgentBaseline := fun w =>
  match w.baselines.find? baselineId with
  | some baseline => (.ok baseline, w)
  | none => (.error (.notFound s!"Baseline {Text.uuid baselineId} not found"), w)

theorem getBaseline_finds (baselineId : Uuid) :
    Effect.Finds (fun w => w.baselines.find? baselineId) (getBaseline baselineId) := by
  constructor
  · intro w _ hfind
    simp only [getBaseline, hfind]
  · intro w hfind
    simp only [getBaseline, hfind]
    exact ⟨_, rfl⟩

def listBaselines (scan : Scan AgentBaseline) (tenantId : String) (agentId : Option String)
    (activeOnly : Bool) : Service (List AgentBaseline) :=
  Effect.gets fun w => orderByDesc (·.computedAt) (w.baselines.select scan fun baseline =>
    baseline.tenantId = tenantId && agentId.all (baseline.agentId = ·) &&
      (!activeOnly || baseline.isActive))

def deactivateBaseline (baselineId : Uuid) : Service AgentBaseline := do
  let baseline ← getBaseline baselineId
  Effect.change fun w => ({baseline with isActive := false},
    {w with baselines := w.baselines.update baselineId ({· with isActive := false}) fun _ => rfl})

/-- `_get_active_baseline`: the newest one. -/
def getActiveBaseline (scan : Scan AgentBaseline) (tenantId agentId : String) :
    Service (Option AgentBaseline) :=
  Effect.gets fun w =>
    (orderByDesc (·.computedAt) (w.baselines.select scan (isActiveOf tenantId agentId))).head?

section Distance
variable (baselineCounts : List (String × Nat)) (baselineTotal : Nat)
  (recentCounts : List (String × Nat)) (recentTotal : Nat)

def allTypes : List String :=
  orderByAsc id ((baselineCounts.map Prod.fst ++ recentCounts.map Prod.fst).dedup)

def frequency (counts : List (String × Nat)) (total : Nat) (eventType : String) : ℚ :=
  Counter.get counts eventType / total

def delta (eventType : String) : ℚ :=
  |frequency baselineCounts baselineTotal eventType - frequency recentCounts recentTotal eventType|

def deviation (eventType : String) : EventTypeDeviation where
  eventType := eventType
  baselineFreq := Decimal.round 4 (frequency baselineCounts baselineTotal eventType)
  recentFreq := Decimal.round 4 (frequency recentCounts recentTotal eventType)
  delta := Decimal.round 4 (delta baselineCounts baselineTotal recentCounts recentTotal eventType)

/-- `_compute_tvd`: the distance, and the types whose frequencies differ noticeably. -/
def computeTvd : ℚ × List EventTypeDeviation :=
  if baselineTotal = 0 ∨ recentTotal = 0 then (0, [])
  else
    let types := allTypes baselineCounts recentCounts
    let differ := delta baselineCounts baselineTotal recentCounts recentTotal
    (min ((types.map differ).sum / 2) 1,
      (types.filter fun t => 1 / 1000 < differ t).map
        (deviation baselineCounts baselineTotal recentCounts recentTotal))

end Distance

def driftMessage (agentId : String) (score : ℚ) (severity : DriftSeverity) : String :=
  "Drift detected for agent " ++ (agentId ++ (": score " ++ (Decimal.fixed 3 score ++
    (" (" ++ (severity.value ++ ")")))))

theorem driftMessage_ne_empty (agentId : String) (score : ℚ) (severity : DriftSeverity) :
    driftMessage agentId score severity ≠ "" :=
  Text.append_ne_empty (by decide) _

def driftAlert (request : AnalyzeRequest) (score : ℚ) (severity : DriftSeverity)
    (recentCount : Nat) : SentinelAlertCreate where
  tenantId := request.tenantId
  agentId := request.agentId
  sentinelType := .drift
  severity := if severity = .high then .high else .medium
  message := driftMessage request.agentId score severity
  details := .ofScalars ["score", "lookback_hours", "recent_event_count"]
    [.float (.ofTenThousandths (Decimal.units 4 score).toNat), .int request.lookbackHours,
      .int recentCount]
  messageNonempty := driftMessage_ne_empty request.agentId score severity

variable (service : DriftDetectionService)

/-- Whether an analysis of this severity raises an alert. -/
def alerts (severity : DriftSeverity) : Bool :=
  service.sentinel && (severity = .medium || severity = .high)

def raiseAlert (severity : DriftSeverity) (create : SentinelAlertCreate) : Service Bool :=
  if service.alerts severity then do
    let _ ← SentinelService.createAlert create
    return true
  else return false

def recentEvents (scan : Scan EventRecord) (request : AnalyzeRequest) :
    Service (List EventRecord) :=
  Effect.gets fun w => w.events.select scan
    (inWindow w.clock request.tenantId request.agentId request.lookbackHours)

/-- The distance of the recent events from the baseline, which is zero without one. -/
def assess (recent : List EventRecord) :
    Option AgentBaseline → DriftSeverity × ℚ × List EventTypeDeviation
  | none => (.none, 0, [])
  | some baseline =>
    let tvd := computeTvd baseline.eventCounts baseline.totalEvents (countTypes recent) recent.length
    (scoreToSeverity tvd.1, tvd)

def driftReport (request : AnalyzeRequest) (baseline : Option AgentBaseline)
    (recent : List EventRecord) (alertCreated : Bool) : DriftReportResponse :=
  let (severity, score, deviations) := assess recent baseline
  { driftScore := {
      tenantId := request.tenantId
      agentId := request.agentId
      score := Decimal.round 4 score
      severity := severity
      recentEventCount := recent.length
      baselineTotalEvents := (baseline.map AgentBaseline.totalEvents).getD 0
      deviations := deviations }
    baselineId := baseline.map AgentBaseline.id
    alertCreated := alertCreated }

def analyze (baselineScan : Scan AgentBaseline) (eventScan : Scan EventRecord)
    (request : AnalyzeRequest) : Service DriftReportResponse := do
  let baseline ← getActiveBaseline baselineScan request.tenantId request.agentId
  let recent ← recentEvents eventScan request
  let (severity, score, _) := assess recent baseline
  let alertCreated ← service.raiseAlert severity
    (driftAlert request score severity recent.length)
  return driftReport request baseline recent alertCreated

section Run
variable {service} {w w' : World}

theorem raiseAlert_run (severity : DriftSeverity) (create : SentinelAlertCreate) (w : World) :
    ∃ alerts, service.raiseAlert severity create w =
        (.ok (service.alerts severity), {w with alerts}) ∧
      alerts.rows = w.alerts.rows ++ if service.alerts severity then
        [SentinelService.newAlert w.clock create w.alerts.next] else [] := by
  unfold raiseAlert
  cases service.alerts severity with
  | true => exact ⟨_, rfl, rfl⟩
  | false => exact ⟨w.alerts, rfl, (List.append_nil _).symm⟩

/-- After its two reads, an analysis only raises the alert. -/
theorem analyze_run {baselineScan : Scan AgentBaseline} {eventScan : Scan EventRecord}
    {request : AnalyzeRequest} {baseline : Option AgentBaseline} {recent : List EventRecord}
    {alertCreated : Bool}
    (hbaseline : getActiveBaseline baselineScan request.tenantId request.agentId w =
      (.ok baseline, w))
    (hrecent : recentEvents eventScan request w = (.ok recent, w))
    (hraise : service.raiseAlert (assess recent baseline).1 (driftAlert request
      (assess recent baseline).2.1 (assess recent baseline).1 recent.length) w =
        (.ok alertCreated, w')) :
    service.analyze baselineScan eventScan request w =
      (.ok (driftReport request baseline recent alertCreated), w') := by
  rw [analyze, Effect.bind_ok hbaseline, Effect.bind_ok hrecent]
  exact Effect.bind_ok hraise

variable (service) in
/-- An analysis reports what it has read, and appends its alert when it raises one. -/
theorem analyze_returns {baselineScan : Scan AgentBaseline} {eventScan : Scan EventRecord}
    {request : AnalyzeRequest} {baseline : Option AgentBaseline} {recent : List EventRecord}
    (hbaseline : getActiveBaseline baselineScan request.tenantId request.agentId w =
      (.ok baseline, w))
    (hrecent : recentEvents eventScan request w = (.ok recent, w)) :
    ∃ alerts, service.analyze baselineScan eventScan request w =
        (.ok (driftReport request baseline recent (service.alerts (assess recent baseline).1)),
          {w with alerts}) ∧
      alerts.rows = w.alerts.rows ++ if service.alerts (assess recent baseline).1 then
        [SentinelService.newAlert w.clock (driftAlert request (assess recent baseline).2.1
          (assess recent baseline).1 recent.length) w.alerts.next] else [] := by
  obtain ⟨alerts, hraise, hrows⟩ := raiseAlert_run (assess recent baseline).1
    (driftAlert request (assess recent baseline).2.1 (assess recent baseline).1 recent.length) w
  exact ⟨alerts, analyze_run hbaseline hrecent hraise, hrows⟩

end Run

end DriftDetectionService
end Dox
