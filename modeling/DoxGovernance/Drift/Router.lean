import DoxGovernance.Sentinel.Router

/-!
# The drift routes

Baselines are computed, listed and analysed for the tenant that the request names; a single
baseline is named by its identifier alone.
-/

set_option autoImplicit false

namespace Dox

inductive DriftRequest where
  | computeBaseline (create : BaselineCreate)
  | listBaselines (tenantId : String) (agentId : Option String) (activeOnly : Bool)
  | getBaseline (baselineId : Uuid)
  | deactivateBaseline (baselineId : Uuid)
  | analyzeDrift (request : AnalyzeRequest)

namespace DriftRequest
open Exposure

def target : DriftRequest → Target
  | computeBaseline create => .tenants [create.tenantId]
  | listBaselines tenantId _ _ => .tenants [tenantId]
  | getBaseline baselineId | deactivateBaseline baselineId => .baseline baselineId
  | analyzeDrift request => .tenants [request.tenantId]

def handle (service : DriftDetectionService) (eventScan : Scan EventRecord)
    (baselineScan : Scan AgentBaseline) : DriftRequest → Service Body
  | computeBaseline create => do
    return .baseline (← DriftDetectionService.computeBaseline eventScan create)
  | listBaselines tenantId agentId activeOnly => do
    let baselines ← DriftDetectionService.listBaselines baselineScan tenantId agentId activeOnly
    return .baselines ⟨baselines, baselines.length⟩
  | getBaseline baselineId => do
    return .baseline (← orNotFound "Baseline not found"
      (DriftDetectionService.getBaseline baselineId))
  | deactivateBaseline baselineId => do
    let _ ← orNotFound "Baseline not found" (DriftDetectionService.deactivateBaseline baselineId)
    return .noContent
  | analyzeDrift request => do
    return .drift (← service.analyze baselineScan eventScan request)

theorem confined_baselines {S : Row → Prop} {w : World} {baselines : Numbered AgentBaseline.id}
    (h : ∀ b, ¬S (.baseline b) → (b ∈ w.baselines.rows ↔ b ∈ baselines.rows)) :
    exposure.Confined S w {w with baselines} := by
  intro row hrow
  cases row with
  | baseline b => exact h b hrow
  | _ => exact Iff.rfl

section Answers
variable (service : DriftDetectionService) (eventScan : Scan EventRecord)
  (baselineScan : Scan AgentBaseline)

theorem computeBaseline_concerns (create : BaselineCreate) :
    exposure.Concerns (Target.tenants [create.tenantId]).Names (fun b => [.baseline b])
      (DriftDetectionService.computeBaseline eventScan create) := by
  apply Concerns.bind
  · exact Effect.Keeps.gets Confined.refl _
  intro events
  apply Concerns.change
  · intro w
    apply confined_baselines
    intro b hb
    have htenant : b.tenantId ≠ create.tenantId := fun h => hb (List.mem_singleton.mpr h)
    -- the new row and the deactivated ones are the tenant's own
    have hkept : DriftDetectionService.isActiveOf create.tenantId create.agentId b = false := by
      simp only [DriftDetectionService.isActiveOf, decide_eq_false htenant, Bool.false_and]
    refine (Numbered.mem_modify_of_not hkept ?_).symm.trans (Numbered.mem_add_of_ne ?_)
    · rintro q hq rfl
      simp only [DriftDetectionService.isActiveOf, Bool.and_eq_true, decide_eq_true_eq] at hq
      exact htenant hq.1.1
    · rintro rfl
      exact htenant rfl
  · intro w
    exact shown_one (.baseline _) (Numbered.mem_add_self _ _ fun _ => rfl)
      List.mem_cons_self rfl

theorem listBaselines_concerns (tenantId : String) (agentId : Option String) (activeOnly : Bool) :
    exposure.Concerns (Target.tenants [tenantId]).Names (fun bs => bs.map .baseline)
      (DriftDetectionService.listBaselines baselineScan tenantId agentId activeOnly) := by
  apply Concerns.gets
  intro w
  apply shown_map Row.baseline
  intro b hb
  obtain ⟨hmem, hkeeps⟩ := Table.mem_select.mp ((mem_orderByDesc _).mp hb)
  simp only [Bool.and_eq_true, decide_eq_true_eq] at hkeeps
  exact ⟨hmem, List.mem_singleton.mpr hkeeps.1.1, rfl⟩

theorem getBaseline_concerns (baselineId : Uuid) :
    exposure.Concerns (Target.baseline baselineId).Names (fun b => [.baseline b])
      (DriftDetectionService.getBaseline baselineId) := by
  apply Concerns.lookup (DriftDetectionService.getBaseline_finds baselineId)
  intro w b hfind
  exact shown_one (.baseline b) (Table.mem_of_find? hfind) (Table.key_of_find? hfind) rfl

theorem deactivateBaseline_concerns (baselineId : Uuid) :
    exposure.Concerns (Target.baseline baselineId).Names (fun b => [.baseline b])
      (DriftDetectionService.deactivateBaseline baselineId) := by
  refine concerns_update .baseline World.baselines (fun w baselines => {w with baselines}) ?_ ?_ ?_
    (DriftDetectionService.getBaseline_finds baselineId) (fun _ => ({· with isActive := false}))
    (fun _ _ => rfl) ?_
  · exact confined_baselines
  · exact id
  · exact fun _ => rfl
  · exact fun _ => Iff.rfl

theorem raiseAlert_keeps (severity : DriftSeverity) (create : SentinelAlertCreate) :
    Effect.Keeps (exposure.Confined (Target.tenants [create.tenantId]).Names)
      (service.raiseAlert severity create) := by
  intro w
  unfold DriftDetectionService.raiseAlert
  split
  · exact (SentinelRequest.createAlert_concerns create w).1
  · exact Confined.refl w

theorem analyze_concerns (request : AnalyzeRequest) :
    exposure.Concerns (Target.tenants [request.tenantId]).Names
      (fun report => report.baselineId.toList.map .baselineId)
      (service.analyze baselineScan eventScan request) := by
  intro w
  set active := orderByDesc (·.computedAt) (w.baselines.select baselineScan
    (DriftDetectionService.isActiveOf request.tenantId request.agentId)) with hactive
  set recent := w.events.select eventScan (DriftDetectionService.inWindow w.clock request.tenantId
    request.agentId request.lookbackHours)
  set assessed := DriftDetectionService.assess recent active.head?
  obtain ⟨alerts, hraise, -⟩ := DriftDetectionService.raiseAlert_run assessed.1
    (DriftDetectionService.driftAlert request assessed.2.1 assessed.1 recent.length) w
  have hkeeps := raiseAlert_keeps service assessed.1
    (DriftDetectionService.driftAlert request assessed.2.1 assessed.1 recent.length) w
  rw [hraise] at hkeeps
  rw [DriftDetectionService.analyze_run rfl rfl hraise]
  refine ⟨hkeeps, fun report hreport => ?_⟩
  cases hreport
  have hshown : ∀ item ∈ active.head?.toList.map fun b => Item.baselineId b.id,
      exposure.Shown (Target.tenants [request.tenantId]).Names {w with alerts} item := by
    apply shown_map Row.baseline
    intro b hb
    have hmem := List.mem_of_head? (Option.mem_toList.mp hb)
    rw [hactive, mem_orderByDesc, Table.mem_select] at hmem
    simp only [DriftDetectionService.isActiveOf, Bool.and_eq_true, decide_eq_true_eq] at hmem
    exact ⟨hmem.1, List.mem_singleton.mpr hmem.2.1.1, rfl⟩
  have hitems : (active.head?.map AgentBaseline.id).toList.map Item.baselineId =
      active.head?.toList.map fun b => Item.baselineId b.id := by
    rw [Option.toList_map, List.map_map, Function.comp_def]
  rw [← hitems] at hshown
  exact hshown

theorem answers (request : DriftRequest) :
    Answers request.target (request.handle service eventScan baselineScan) := by
  cases request with
  | computeBaseline create => exact Concerns.map (computeBaseline_concerns eventScan create)
  | listBaselines tenantId agentId activeOnly =>
    exact Concerns.map (listBaselines_concerns baselineScan tenantId agentId activeOnly)
  | getBaseline baselineId =>
    exact Concerns.map (Concerns.rethrow (getBaseline_concerns baselineId))
  | deactivateBaseline baselineId =>
    exact Concerns.map (Concerns.rethrow (Concerns.silent
      (deactivateBaseline_concerns baselineId).keeps))
  | analyzeDrift request =>
    exact Concerns.map (analyze_concerns service eventScan baselineScan request)

end Answers

end DriftRequest
end Dox
