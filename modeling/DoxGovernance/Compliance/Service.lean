import DoxGovernance.Lib.Counter
import DoxGovernance.Quota.Service

/-!
# The compliance service

A report counts the events of a tenant over a time window by type and its alerts by
severity and by type, and joins them with the tenant's quota and the number of its active
policies.
-/

set_option autoImplicit false

namespace Dox

structure EventCounts where
  totalCount : Nat
  byType : List (String × Nat)
  lookbackHours : Nat

structure AlertSummary where
  totalCount : Nat
  unresolvedCount : Nat
  bySeverity : List (String × Nat)
  byType : List (String × Nat)

structure QuotaSummary where
  subscriptionTier : String
  dailyRemaining : Nat
  monthlyRemaining : Nat
  isOverDailyLimit : Bool
  isOverMonthlyLimit : Bool
deriving DecidableEq

structure PolicySummary where
  activeCount : Nat

structure ComplianceReport where
  tenantId : String
  generatedAt : Datetime
  lookbackHours : Nat
  events : EventCounts
  alerts : AlertSummary
  quota : QuotaSummary
  policies : PolicySummary

namespace ComplianceService

def summarizeEvents (scan : Scan EventRecord) (tenantId : String) (lookbackHours : Nat) :
    Service EventCounts := do
  let events ← Effect.gets fun w => w.events.select scan fun record =>
    record.tenantId = tenantId && w.clock.withinHours lookbackHours record.timestamp
  return {
    totalCount := events.length
    byType := Counter.ofList (events.map fun record => record.eventType.value)
    lookbackHours := lookbackHours }

def summarizeAlerts (scan : Scan SentinelAlert) (tenantId : String) : Service AlertSummary := do
  let alerts ← Effect.gets fun w => w.alerts.select scan fun alert => alert.tenantId = tenantId
  return {
    totalCount := alerts.length
    unresolvedCount := alerts.countP fun alert => !alert.isResolved
    bySeverity := Counter.ofList (alerts.map fun alert => alert.severity.value)
    byType := Counter.ofList (alerts.map fun alert => alert.sentinelType.value) }

def quotaSummary (status : QuotaStatus) : QuotaSummary where
  subscriptionTier := status.subscriptionTier.value
  dailyRemaining := status.dailyRemaining
  monthlyRemaining := status.monthlyRemaining
  isOverDailyLimit := status.isOverDailyLimit
  isOverMonthlyLimit := status.isOverMonthlyLimit

def summarizeQuota (tenantId : String) : Service QuotaSummary := do
  return quotaSummary (← QuotaService.getStatus tenantId)

def summarizePolicies (scan : Scan Policy) (tenantId : String) : Service PolicySummary := do
  let policies ← Effect.gets fun w => w.policies.select scan fun policy =>
    policy.tenantId = tenantId && policy.isActive
  return {activeCount := policies.length}

def generateReport (eventScan : Scan EventRecord) (alertScan : Scan SentinelAlert)
    (policyScan : Scan Policy) (tenantId : String) (lookbackHours : Nat) :
    Service ComplianceReport := do
  let now ← now
  let events ← summarizeEvents eventScan tenantId lookbackHours
  let alerts ← summarizeAlerts alertScan tenantId
  let quota ← summarizeQuota tenantId
  let policies ← summarizePolicies policyScan tenantId
  return {
    tenantId := tenantId
    generatedAt := now
    lookbackHours := lookbackHours
    events := events
    alerts := alerts
    quota := quota
    policies := policies }

/-- The counts of a report are those of the stored rows, in whatever order they are read. -/
theorem summarizeEvents_spec (scan : Scan EventRecord) (tenantId : String) (lookbackHours : Nat)
    (w : World) : ∃ summary, summarizeEvents scan tenantId lookbackHours w = (.ok summary, w) ∧
      ∀ t : EventType, Counter.get summary.byType t.value = (w.events.rows.filter fun record =>
        record.tenantId = tenantId && w.clock.withinHours lookbackHours record.timestamp).countP
          (·.eventType = t) := by
  refine ⟨_, rfl, fun t => ?_⟩
  rw [Counter.get_ofList, ((w.events.perm_select scan _).map _).count_eq, List.count_eq_countP,
    List.countP_map]
  refine List.countP_congr fun record _ => ?_
  rw [Function.comp_apply, beq_iff_eq, decide_eq_true_iff]
  exact EventType.value_injective.eq_iff

end ComplianceService
end Dox
