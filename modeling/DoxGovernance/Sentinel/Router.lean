import DoxGovernance.Gateway.Responses

/-!
# The sentinel routes

Alerts and policies are created and listed for the tenant that the request names; a single
alert or policy is named by its identifier alone.
-/

set_option autoImplicit false

namespace Dox

inductive SentinelRequest where
  | createAlert (create : SentinelAlertCreate)
  | listAlerts (filter : SentinelService.AlertFilter) (query : PageQuery 200)
  | getAlert (alertId : Uuid)
  | resolveAlert (alertId : Uuid) (action : InterventionAction)
  | createPolicy (create : PolicyCreate)
  | listPolicies (tenantId : String) (activeOnly : Bool)
  | deactivatePolicy (policyId : Uuid)

namespace SentinelRequest
open Exposure

def target : SentinelRequest → Target
  | createAlert create => .tenants [create.tenantId]
  | listAlerts filter _ => .tenants [filter.tenantId]
  | getAlert alertId | resolveAlert alertId _ => .alert alertId
  | createPolicy create => .tenants [create.tenantId]
  | listPolicies tenantId _ => .tenants [tenantId]
  | deactivatePolicy policyId => .policy policyId

def handle (alertScan : Scan SentinelAlert) (policyScan : Scan Policy) :
    SentinelRequest → Service Body
  | createAlert create => do
    return .alert (← SentinelService.createAlert create)
  | listAlerts filter query => do
    let alerts ← SentinelService.listAlerts alertScan filter query.limit query.offset
    return .alerts ⟨alerts, alerts.length⟩
  | getAlert alertId => do
    return .alert (← orNotFound "Alert not found" (SentinelService.getAlert alertId))
  | resolveAlert alertId action => do
    return .alert (← orNotFound "Alert not found" (SentinelService.resolveAlert alertId action))
  | createPolicy create => do
    return .policy (← SentinelService.createPolicy create)
  | listPolicies tenantId activeOnly => do
    let policies ← SentinelService.listPolicies policyScan tenantId activeOnly
    return .policies ⟨policies, policies.length⟩
  | deactivatePolicy policyId => do
    let _ ← orNotFound "Policy not found" (SentinelService.deactivatePolicy policyId)
    return .noContent

/-! ### The rows of a request -/

section Confined
variable {S : Row → Prop} {w : World}

theorem confined_alerts {alerts : Numbered SentinelAlert.id} {resolutions : List Resolution}
    (h : ∀ a, ¬S (.alert a) → (a ∈ w.alerts.rows ↔ a ∈ alerts.rows)) :
    exposure.Confined S w {w with alerts, resolutions} := by
  intro row hrow
  cases row with
  | alert a => exact h a hrow
  | _ => exact Iff.rfl

theorem confined_policies {policies : Numbered Policy.id}
    (h : ∀ p, ¬S (.policy p) → (p ∈ w.policies.rows ↔ p ∈ policies.rows)) :
    exposure.Confined S w {w with policies} := by
  intro row hrow
  cases row with
  | policy p => exact h p hrow
  | _ => exact Iff.rfl

end Confined

section Answers
variable (alertScan : Scan SentinelAlert) (policyScan : Scan Policy)

theorem createAlert_concerns (create : SentinelAlertCreate) :
    exposure.Concerns (Target.tenants [create.tenantId]).Names (fun a => [.alert a])
      (SentinelService.createAlert create) := by
  apply concerns_add .alert World.alerts fun w alerts => {w with alerts}
  · exact confined_alerts
  · exact id
  · exact fun _ => rfl
  · exact fun _ _ => List.mem_cons_self

theorem listAlerts_concerns (filter : SentinelService.AlertFilter) (limit offset : Nat) :
    exposure.Concerns (Target.tenants [filter.tenantId]).Names (fun as => as.map .alert)
      (SentinelService.listAlerts alertScan filter limit offset) := by
  apply Concerns.gets
  intro w
  apply shown_map Row.alert
  intro a ha
  obtain ⟨hmem, hkeeps⟩ := Table.mem_select.mp ((mem_orderByDesc _).mp (mem_of_mem_page ha))
  simp only [SentinelService.AlertFilter.keeps, Bool.and_eq_true, decide_eq_true_eq] at hkeeps
  exact ⟨hmem, List.mem_singleton.mpr hkeeps.1.1.1, rfl⟩

theorem getAlert_concerns (alertId : Uuid) :
    exposure.Concerns (Target.alert alertId).Names (fun a => [.alert a])
      (SentinelService.getAlert alertId) := by
  apply Concerns.lookup (SentinelService.getAlert_finds alertId)
  intro w a hfind
  exact shown_one (.alert a) (Table.mem_of_find? hfind) (Table.key_of_find? hfind) rfl

theorem resolveAlert_concerns (alertId : Uuid) (action : InterventionAction) :
    exposure.Concerns (Target.alert alertId).Names (fun a => [.alert a])
      (SentinelService.resolveAlert alertId action) := by
  refine concerns_update .alert World.alerts
    (fun w alerts => {w with alerts, resolutions := w.resolutions ++ [⟨alertId, action⟩]}) ?_ ?_ ?_
    (SentinelService.getAlert_finds alertId)
    (fun w => SentinelService.resolved w.clock action) (fun _ _ => rfl) ?_
  · exact confined_alerts
  · exact id
  · exact fun _ => rfl
  · exact fun _ => Iff.rfl

theorem createPolicy_concerns (create : PolicyCreate) :
    exposure.Concerns (Target.tenants [create.tenantId]).Names (fun p => [.policy p])
      (SentinelService.createPolicy create) := by
  apply concerns_add .policy World.policies fun w policies => {w with policies}
  · exact confined_policies
  · exact id
  · exact fun _ => rfl
  · exact fun _ _ => List.mem_cons_self

theorem listPolicies_concerns (tenantId : String) (activeOnly : Bool) :
    exposure.Concerns (Target.tenants [tenantId]).Names (fun ps => ps.map .policy)
      (SentinelService.listPolicies policyScan tenantId activeOnly) := by
  apply Concerns.gets
  intro w
  apply shown_map Row.policy
  intro p hp
  obtain ⟨hmem, hkeeps⟩ := Table.mem_select.mp ((mem_orderByDesc _).mp hp)
  rw [Bool.and_eq_true, decide_eq_true_iff] at hkeeps
  exact ⟨hmem, List.mem_singleton.mpr hkeeps.1, rfl⟩

theorem deactivatePolicy_keeps (policyId : Uuid) :
    Effect.Keeps (exposure.Confined (Target.policy policyId).Names)
      (SentinelService.deactivatePolicy policyId) := by
  intro w
  unfold SentinelService.deactivatePolicy
  split
  · exact Confined.refl w
  · apply confined_policies
    intro p hp
    exact (Numbered.mem_update_of_ne hp).symm

/-- A sentinel request touches and returns only rows of the tenant, or the row, that it names. -/
theorem answers (request : SentinelRequest) :
    Answers request.target (request.handle alertScan policyScan) := by
  cases request with
  | createAlert create => exact Concerns.map (createAlert_concerns create)
  | listAlerts filter query => exact Concerns.map (listAlerts_concerns alertScan filter _ _)
  | getAlert alertId => exact Concerns.map (Concerns.rethrow (getAlert_concerns alertId))
  | resolveAlert alertId action =>
    exact Concerns.map (Concerns.rethrow (resolveAlert_concerns alertId action))
  | createPolicy create => exact Concerns.map (createPolicy_concerns create)
  | listPolicies tenantId activeOnly =>
    exact Concerns.map (listPolicies_concerns policyScan tenantId activeOnly)
  | deactivatePolicy policyId =>
    exact Concerns.map (Concerns.rethrow (Concerns.silent (deactivatePolicy_keeps policyId)))

end Answers

end SentinelRequest
end Dox
