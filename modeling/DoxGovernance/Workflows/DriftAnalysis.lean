import DoxGovernance.Audit.Service
import DoxGovernance.Drift.Alerting
import DoxGovernance.Workflows.Invoke

/-!
# The drift-analysis workflow

The graph analyses the drift of an agent and, from a medium severity on, records the finding
when an audit service is attached. Analysing and recording may each fail with a message. A run
reports the alert it has raised and the entry it has recorded, records one exactly when the
distance is large enough and nothing fails on the way, and leaves the error empty exactly when
the analysis was made and no finding was lost. Distances are exact here, the source's are doubles.
-/

set_option autoImplicit false

namespace Dox
namespace DriftAnalysis
open DriftDetectionService

structure State where
  tenantId : String
  agentId : String
  lookbackHours : Option Int := none
  driftScore : Option ℚ := none
  severity : Option String := none
  deviationsCount : Nat := 0
  alertCreated : Bool := false
  auditEntryId : Option String := none
  error : Option String := none

/-- The calls that fail, with the message of the exception. -/
structure Faults where
  analyze : Option String := none
  record : Option String := none

inductive Node where
  | analyzeDrift | recordFinding
deriving DecidableEq

/-- `state.get("lookback_hours") or 1`. -/
def hours (state : State) : Int :=
  match state.lookbackHours with
  | some hours => if hours = 0 then 1 else hours
  | none => 1

theorem toNat_bounds {hours : Int} (h : 1 ≤ hours ∧ hours ≤ 168) :
    1 ≤ hours.toNat ∧ hours.toNat ≤ 168 := by omega

/-- `AnalyzeRequest(...)`, which validates the hours. -/
def analyzeRequest (state : State) : Except Exc AnalyzeRequest :=
  if h : 1 ≤ hours state ∧ hours state ≤ 168 then
    .ok {
      tenantId := state.tenantId
      agentId := state.agentId
      lookbackHours := (hours state).toNat
      lookbackBounds := toNat_bounds h }
  else if hours state < 1 then .error (.valueError "Input should be greater than or equal to 1")
  else .error (.valueError "Input should be less than or equal to 168")

variable (service : DriftDetectionService) (audit : Bool) (faults : Faults)
  (baselineScan : Scan AgentBaseline) (eventScan : Scan EventRecord)

def analyze (state : State) : Service DriftReportResponse :=
  match analyzeRequest state with
  | .ok request => failing faults.analyze (service.analyze baselineScan eventScan request)
  | .error e => Effect.raise e

def analysed (state : State) (report : DriftReportResponse) : State :=
  {state with
    driftScore := some report.driftScore.score
    severity := some report.driftScore.severity.value
    deviationsCount := report.driftScore.deviations.length
    alertCreated := report.alertCreated
    error := none}

def analysisFailed (state : State) (message : String) : State :=
  {state with
    driftScore := none
    severity := some "none"
    deviationsCount := 0
    alertCreated := false
    error := some message}

def analyzeDrift (state : State) : Service State :=
  attempt (do
    return analysed state (← analyze service faults baselineScan eventScan state))
  (analysisFailed state)

/-- `state.get("drift_score") or 0.0`. -/
def score (state : State) : ℚ := state.driftScore.getD 0

/-- The entry of a finding; the identifier of the agent must fit its column. -/
def findingEntry (state : State) : Option AuditEntryCreate :=
  if h : 1 ≤ state.agentId.length ∧ state.agentId.length ≤ 255 then
    some {
      tenantId := state.tenantId
      actorEmail := "system"
      action := "drift_detected"
      resourceType := "agent"
      resourceId := state.agentId
      summary := "Drift detected for agent " ++ (state.agentId ++ (": score=" ++
        (Decimal.fixed 4 (score state) ++ (" severity=" ++ state.severity.getD "None"))))
      extra := .ofScalars ["drift_score", "severity", "deviations_count"]
        [.float (.ofTenThousandths (Decimal.units 4 (score state)).toNat), .ofText? state.severity,
          .int state.deviationsCount]
      resourceIdFits := h
      summaryNonempty := Text.append_ne_empty (by decide) _ }
  else none

def recordFinding (state : State) : Service State :=
  if audit then
    attempt (do
      match findingEntry state with
      | some create =>
        let entry ← failing faults.record (AuditService.record create)
        return {state with auditEntryId := some (Text.uuid entry.id)}
      | none => Effect.raise (.valueError "String should have between 1 and 255 characters"))
    fun message => {state with auditEntryId := none, error := some message}
  else return {state with auditEntryId := none}

/-- `_route_after_analysis`, up to the end. -/
def isFinding (state : State) : Bool :=
  [some "medium", some "high", some "critical"].contains state.severity

/-- `build_drift_analysis_graph`. -/
def graph : StateGraph Node State World Exc where
  start := .analyzeDrift
  node
    | .analyzeDrift => analyzeDrift service faults baselineScan eventScan
    | .recordFinding => recordFinding audit faults
  next
    | .analyzeDrift, state =>
      if truthy state.error then none
      else if isFinding state then some .recordFinding
      else none
    | .recordFinding, _ => none

/-! ### What a run finds and records -/

/-- The distance that the analysis of a run is about, when it is made. -/
def found (state : State) (w : World) : Option ℚ :=
  match analyzeRequest state, faults.analyze with
  | .ok request, none => some (driftDistance baselineScan eventScan request w)
  | _, _ => none

/-- The distance is that of a finding. -/
def Due (distance : Option ℚ) : Prop := ∃ d ∈ distance, 2 / 5 ≤ d

/-- A finding about an agent can be recorded. -/
structure Recordable (agentId : String) : Prop where
  audited : audit = true
  stored : faults.record = none
  fits : 1 ≤ agentId.length ∧ agentId.length ≤ 255

/-- What a run that finds the distance `d` adds, and what its final state says of it. -/
structure Reports (d : Option ℚ) (w : World) (state final : State) (w' : World) : Prop where
  alertCreated : final.alertCreated = true ↔ service.sentinel = true ∧ Due d
  alerted : final.alertCreated = true → ∃ alert, w'.alerts.rows = w.alerts.rows ++ [alert] ∧
    alert.sentinelType = .drift ∧ alert.tenantId = state.tenantId ∧ alert.agentId = state.agentId
  quiet : final.alertCreated = false → w'.alerts.rows = w.alerts.rows
  recorded : Due d → Recordable audit faults state.agentId → ∃ entry score deviations,
    w'.auditEntries.rows = w.auditEntries.rows ++ [entry] ∧
    final.auditEntryId = some (Text.uuid entry.id) ∧ entry.tenantId = state.tenantId ∧
    entry.action = "drift_detected" ∧ entry.resourceId = state.agentId ∧
    entry.extra.members = [member "drift_score" score,
      member "severity" (textValue (if ∃ x ∈ d, 3 / 5 ≤ x then "high" else "medium")),
      member "deviations_count" deviations]
  unrecorded : Due d → ¬Recordable audit faults state.agentId →
    w'.auditEntries = w.auditEntries ∧ final.auditEntryId = none
  -- a run that does not come to the second node keeps the entry that its caller names
  undue : ¬Due d → w'.auditEntries = w.auditEntries ∧ final.auditEntryId = state.auditEntryId
  error : final.error = none ↔
    d ≠ none ∧ (audit = true → Due d → Recordable audit faults state.agentId)
  severity : final.severity = some ((d.map fun x => (scoreToSeverity (min x 1)).value).getD "none")
  failed : d = none → final.driftScore = none ∧ final.deviationsCount = 0 ∧ w' = w

section Run
variable {service audit faults baselineScan eventScan} {w w' : World} {state : State}

theorem found_of_request {request : AnalyzeRequest} (hrequest : analyzeRequest state = .ok request)
    (hfault : faults.analyze = none) : found faults baselineScan eventScan state w =
      some (driftDistance baselineScan eventScan request w) := by
  simp only [found, hrequest, hfault]

theorem request_names {request : AnalyzeRequest} (h : analyzeRequest state = .ok request) :
    request.tenantId = state.tenantId ∧ request.agentId = state.agentId := by
  unfold analyzeRequest at h
  split at h
  · cases h
    exact ⟨rfl, rfl⟩
  · split at h <;> cases h

variable (service) in
theorem analyze_fails (h : found faults baselineScan eventScan state w = none) :
    ∃ e, analyze service faults baselineScan eventScan state w = (.error e, w) := by
  unfold analyze
  cases hrequest : analyzeRequest state with
  | error e => exact ⟨e, rfl⟩
  | ok request =>
    cases hfault : faults.analyze with
    | none =>
      rw [found_of_request hrequest hfault] at h
      cases h
    | some message => exact ⟨_, rfl⟩

variable (service) in
theorem analyze_finds {d : ℚ} (h : found faults baselineScan eventScan state w = some d) :
    ∃ report alerts, analyze service faults baselineScan eventScan state w =
        (.ok report, {w with alerts}) ∧
      report.driftScore.severity = scoreToSeverity (min d 1) ∧
      (report.alertCreated = true ↔ service.sentinel = true ∧ 2 / 5 ≤ d) ∧
      (report.alertCreated = true → ∃ alert, alerts.rows = w.alerts.rows ++ [alert] ∧
        alert.sentinelType = .drift ∧ alert.tenantId = state.tenantId ∧
        alert.agentId = state.agentId) ∧
      (report.alertCreated = false → alerts.rows = w.alerts.rows) := by
  unfold found at h
  split at h
  · rename_i request hrequest hfault
    cases h
    obtain ⟨htenant, hagent⟩ := request_names hrequest
    have hbaseline : getActiveBaseline baselineScan request.tenantId request.agentId w =
      (.ok (newestBaseline baselineScan request w), w) := rfl
    have hrecent : recentEvents eventScan request w =
      (.ok (recentWindow eventScan request w), w) := rfl
    obtain ⟨alerts, hrun, hrows⟩ := service.analyze_returns hbaseline hrecent
    set severity := (assess (recentWindow eventScan request w)
      (newestBaseline baselineScan request w)).1 with hseverity
    refine ⟨driftReport request (newestBaseline baselineScan request w)
      (recentWindow eventScan request w) (service.alerts severity), alerts, ?_,
      assess_severity _ _, alerts_assess _ _ service, ?_, ?_⟩
    · rw [analyze, hrequest, hfault]
      exact hrun
    · intro (hcreated : service.alerts severity = true)
      rw [if_pos hcreated] at hrows
      exact ⟨_, hrows, rfl, htenant, hagent⟩
    · intro (hcreated : service.alerts severity = false)
      rw [hcreated, if_neg Bool.false_ne_true, List.append_nil] at hrows
      exact hrows
  · cases h

theorem isFinding_value {severity : DriftSeverity} {s : State}
    (h : s.severity = some severity.value) :
    isFinding s = true ↔ severity = .medium ∨ severity = .high := by
  rw [isFinding, h]
  cases severity <;> simp [DriftSeverity.value]

theorem severity_value_of_due {d : ℚ} (h : 2 / 5 ≤ d) :
    (scoreToSeverity (min d 1)).value = if ∃ x ∈ some d, 3 / 5 ≤ x then "high" else "medium" := by
  have hexists : (∃ x ∈ some d, 3 / 5 ≤ x) ↔ 3 / 5 ≤ d := by simp
  have hhigh : scoreToSeverity (min d 1) = .high ↔ 3 / 5 ≤ d := by
    rw [scoreToSeverity_high_iff, le_min_one_iff (by norm_num)]
  have halerts : scoreToSeverity (min d 1) = .medium ∨ scoreToSeverity (min d 1) = .high := by
    rw [scoreToSeverity_alerts_iff, le_min_one_iff (by norm_num)]
    exact h
  simp only [hexists, ← hhigh]
  rcases halerts with hmedium | hhigh
  · rw [hmedium]
    rfl
  · rw [hhigh]
    rfl

theorem recordFinding_records (h : Recordable audit faults state.agentId) (w : World) :
    ∃ create entries, findingEntry state = some create ∧
      recordFinding audit faults state w =
        (.ok {state with auditEntryId := some (Text.uuid w.auditEntries.next)},
          {w with auditEntries := entries}) ∧
      entries.rows = w.auditEntries.rows ++
        [AuditService.newEntry w.clock create w.auditEntries.next] := by
  have hcreate : ∃ create, findingEntry state = some create := by
    rw [findingEntry, dif_pos h.fits]
    exact ⟨_, rfl⟩
  obtain ⟨create, hcreate⟩ := hcreate
  refine ⟨create, _, hcreate, ?_, Numbered.rows_add _ _ fun _ => rfl⟩
  rw [recordFinding, if_pos h.audited]
  apply attempt_ok
  rw [hcreate, h.stored]
  rfl

theorem recordFinding_loses (haudit : audit = true) (h : ¬Recordable audit faults state.agentId)
    (w : World) : ∃ message, recordFinding audit faults state w =
      (.ok {state with auditEntryId := none, error := some message}, w) := by
  rw [recordFinding, if_pos haudit]
  by_cases hfits : 1 ≤ state.agentId.length ∧ state.agentId.length ≤ 255
  · cases hrecord : faults.record with
    | none => exact absurd ⟨haudit, hrecord, hfits⟩ h
    | some message =>
      refine ⟨message, attempt_outage ?_⟩
      rw [findingEntry, dif_pos hfits]
      rfl
  · refine ⟨_, attempt_error (e := .valueError "String should have between 1 and 255 characters") ?_⟩
    rw [findingEntry, dif_neg hfits]
    rfl

theorem findingEntry_names {create : AuditEntryCreate} (h : findingEntry state = some create) :
    create.tenantId = state.tenantId ∧ create.action = "drift_detected" ∧
      create.resourceId = state.agentId ∧ create.extra.members =
        [member "drift_score" (.float (.ofTenThousandths (Decimal.units 4 (score state)).toNat)),
          member "severity" (Scalar.ofText? state.severity).value,
          member "deviations_count" (.int state.deviationsCount)] := by
  unfold findingEntry at h
  split at h
  · cases h
    exact ⟨rfl, rfl, rfl, rfl⟩
  · cases h

variable (audit faults) in
/-- Recording adds the entry of the finding, or says that it could not. -/
theorem recordFinding_reports {severity : String} (hseverity : state.severity = some severity)
    (herror : state.error = none) (w : World) : ∃ final w',
      recordFinding audit faults state w = (.ok final, w') ∧
      final.alertCreated = state.alertCreated ∧ final.severity = state.severity ∧
      w'.alerts = w.alerts ∧
      (Recordable audit faults state.agentId → ∃ entry score deviations,
        w'.auditEntries.rows = w.auditEntries.rows ++ [entry] ∧
        final.auditEntryId = some (Text.uuid entry.id) ∧ entry.tenantId = state.tenantId ∧
        entry.action = "drift_detected" ∧ entry.resourceId = state.agentId ∧
        entry.extra.members = [member "drift_score" score, member "severity" (textValue severity),
          member "deviations_count" deviations]) ∧
      (¬Recordable audit faults state.agentId →
        w'.auditEntries = w.auditEntries ∧ final.auditEntryId = none) ∧
      (final.error = none ↔ (audit = true → Recordable audit faults state.agentId)) := by
  by_cases h : Recordable audit faults state.agentId
  · obtain ⟨create, entries, hcreate, hrun, hrows⟩ := recordFinding_records h w
    obtain ⟨htenant, haction, hresource, hextra⟩ := findingEntry_names hcreate
    rw [hseverity] at hextra
    exact ⟨_, _, hrun, rfl, rfl, rfl,
      fun _ => ⟨_, _, _, hrows, rfl, htenant, haction, hresource, hextra⟩,
      fun hnot => absurd h hnot, iff_of_true herror fun _ => h⟩
  · cases haudit : audit with
    | true =>
      rw [haudit] at h
      obtain ⟨message, hrun⟩ := recordFinding_loses rfl h w
      exact ⟨_, _, hrun, rfl, rfl, rfl, fun hnow => absurd hnow h, fun _ => ⟨rfl, rfl⟩,
        iff_of_false (Option.some_ne_none message) fun hnow => h (hnow rfl)⟩
    | false =>
      rw [haudit] at h
      exact ⟨_, w, rfl, rfl, rfl, rfl, fun hnow => absurd hnow h, fun _ => ⟨rfl, rfl⟩,
        iff_of_true herror fun hnow => absurd hnow Bool.false_ne_true⟩

end Run

variable {audit faults baselineScan eventScan} in
/-- A run raises the alert and records the finding that its distance calls for, and says which of
them it did, or why it failed. -/
theorem ainvoke_reports (w : World) (state : State) : ∃ final w',
    ainvoke (graph service audit faults baselineScan eventScan) state w = (.ok final, w') ∧
      Reports service audit faults (found faults baselineScan eventScan state w) w state final w' := by
  cases hfound : found faults baselineScan eventScan state w with
  | none =>
    obtain ⟨e, hanalyze⟩ := analyze_fails service hfound
    have hrun : analyzeDrift service faults baselineScan eventScan state w =
        (.ok (analysisFailed state e.str), w) := attempt_error (Effect.bind_error hanalyze)
    have hdue : ¬Due none := by simp [Due]
    have hnext : (graph service audit faults baselineScan eventScan).next .analyzeDrift
        (analysisFailed state e.str) = none := by
      show (if truthy (some e.str) then none else none) = none
      split <;> rfl
    exact ⟨_, w, StateGraph.run_end hrun hnext 24, {
      alertCreated := iff_of_false Bool.false_ne_true fun h => hdue h.2
      alerted := fun h => absurd h Bool.false_ne_true
      quiet := fun _ => rfl
      recorded := fun h => absurd h hdue
      unrecorded := fun h => absurd h hdue
      undue := fun _ => ⟨rfl, rfl⟩
      error := iff_of_false (Option.some_ne_none _) fun h => h.1 rfl
      severity := rfl
      failed := fun _ => ⟨rfl, rfl, rfl⟩ }⟩
  | some d =>
    obtain ⟨report, alerts, hanalyze, hseverity, hcreated, halerted, hquiet⟩ :=
      analyze_finds service hfound
    have hrun : analyzeDrift service faults baselineScan eventScan state w =
        (.ok (analysed state report), {w with alerts}) := attempt_ok (Effect.bind_ok hanalyze)
    have hdue : Due (some d) ↔ 2 / 5 ≤ d := by simp [Due]
    have hfinding : isFinding (analysed state report) = true ↔ 2 / 5 ≤ d := by
      rw [isFinding_value rfl, hseverity, scoreToSeverity_alerts_iff, le_min_one_iff (by norm_num)]
    have hsome : some d = none → False := Option.some_ne_none d
    rw [← hdue] at hcreated hfinding
    by_cases h : Due (some d)
    · have hnext : (graph service audit faults baselineScan eventScan).next .analyzeDrift
          (analysed state report) = some .recordFinding := if_pos (hfinding.mpr h)
      have hvalue : (analysed state report).severity =
          some (if ∃ x ∈ some d, 3 / 5 ≤ x then "high" else "medium") := by
        rw [analysed, hseverity, severity_value_of_due (hdue.mp h)]
      obtain ⟨final, w', hrecord, hsame, hkept, halerts, hadds, hloses, herror⟩ :=
        recordFinding_reports audit faults hvalue rfl {w with alerts}
      have hend : ainvoke (graph service audit faults baselineScan eventScan) state w =
          (.ok final, w') :=
        (StateGraph.run_step hrun hnext 24).trans (StateGraph.run_end hrecord rfl 23)
      exact ⟨final, w', hend, {
        alertCreated := by
          rw [hsame]
          exact hcreated
        alerted := fun hnow => by
          rw [halerts]
          exact halerted (hsame.symm.trans hnow)
        quiet := fun hnow => by
          rw [halerts]
          exact hquiet (hsame.symm.trans hnow)
        recorded := fun _ => hadds
        unrecorded := fun _ => hloses
        undue := fun hnot => absurd h hnot
        error := by
          rw [herror]
          exact ⟨fun hnow => ⟨hsome, fun haudit _ => hnow haudit⟩,
            fun hnow haudit => hnow.2 haudit h⟩
        severity := by
          rw [hkept, analysed, hseverity]
          rfl
        failed := fun hnot => absurd hnot hsome }⟩
    · have hnext : (graph service audit faults baselineScan eventScan).next .analyzeDrift
          (analysed state report) = none := if_neg fun hnot => h (hfinding.mp hnot)
      exact ⟨_, {w with alerts}, StateGraph.run_end hrun hnext 24, {
        alertCreated := hcreated
        alerted := halerted
        quiet := hquiet
        recorded := fun hnow => absurd hnow h
        unrecorded := fun hnow => absurd hnow h
        undue := fun _ => ⟨rfl, rfl⟩
        error := iff_of_true rfl ⟨hsome, fun _ hnow => absurd hnow h⟩
        severity := by
          rw [analysed, hseverity]
          rfl
        failed := fun hnot => absurd hnot hsome }⟩

end DriftAnalysis
end Dox
