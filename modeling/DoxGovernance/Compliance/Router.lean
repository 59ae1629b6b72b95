import DoxGovernance.Quota.Router

/-!
# The compliance route

A report is made for the tenant that the request names. It reads the tenant's events, alerts
and policies, and opens the tenant's quota where there is none.
-/

set_option autoImplicit false

namespace Dox

structure ComplianceRequest where
  tenantId : String
  lookbackHours : Nat := 24
  lookbackBounds : 1 ≤ lookbackHours ∧ lookbackHours ≤ 8760 := by decide

namespace ComplianceRequest

def target (request : ComplianceRequest) : Target := .tenants [request.tenantId]

variable (eventScan : Scan EventRecord) (alertScan : Scan SentinelAlert) (policyScan : Scan Policy)

def handle (request : ComplianceRequest) : Service Body := do
  return .compliance (← ComplianceService.generateReport eventScan alertScan policyScan
    request.tenantId request.lookbackHours)

/-- A report writes what the quota service writes for its status. -/
theorem generateReport_spec (tenantId : String) (lookbackHours : Nat) (w : World) :
    ∃ w' q, QuotaService.Wrote tenantId q w w' ∧ ∃ report,
      ComplianceService.generateReport eventScan alertScan policyScan tenantId lookbackHours w =
        (.ok report, w') ∧ report.quota = ComplianceService.quotaSummary (toStatus q) := by
  obtain ⟨w', hrun, hwrote⟩ := QuotaService.getStatus_spec tenantId w
  have hquota : ComplianceService.summarizeQuota tenantId w =
      (.ok (ComplianceService.quotaSummary (toStatus (QuotaService.effective w tenantId))), w') := by
    rw [ComplianceService.summarizeQuota, Effect.bind_ok hrun, Effect.pure_run]
  refine ⟨w', _, hwrote, ?_⟩
  rw [ComplianceService.generateReport, Effect.bind_ok (now_run w),
    Effect.bind_ok (show ComplianceService.summarizeEvents eventScan tenantId lookbackHours w =
      (.ok _, w) from rfl),
    Effect.bind_ok (show ComplianceService.summarizeAlerts alertScan tenantId w = (.ok _, w)
      from rfl),
    Effect.bind_ok hquota,
    Effect.bind_ok (show ComplianceService.summarizePolicies policyScan tenantId w' = (.ok _, w')
      from rfl)]
  exact ⟨_, rfl, rfl⟩

theorem generateReport_concerns (tenantId : String) (lookbackHours : Nat) :
    exposure.Concerns (Target.tenants [tenantId]).Names
      (fun report => [.quotaSummary report.quota])
      (ComplianceService.generateReport eventScan alertScan policyScan tenantId lookbackHours) := by
  apply QuotaRequest.concerns_of_wrote
  intro w
  obtain ⟨w', q, hwrote, report, hrun, hquota⟩ := generateReport_spec eventScan alertScan
    policyScan tenantId lookbackHours w
  exact ⟨w', report, q, hrun, hwrote, by simp [Row.Shows, hquota]⟩

theorem answers (request : ComplianceRequest) :
    Answers request.target (request.handle eventScan alertScan policyScan) :=
  Exposure.Concerns.map (generateReport_concerns eventScan alertScan policyScan
    request.tenantId request.lookbackHours)

end ComplianceRequest
end Dox
