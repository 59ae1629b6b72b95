import DoxGovernance.Sentinel.Router

/-!
# The policy routes

A policy is read and updated by its identifier alone; an evaluation reads the policies of
the tenant that the request names.
-/

set_option autoImplicit false

namespace Dox

inductive PolicyRequest where
  | getPolicy (policyId : Uuid)
  | updatePolicy (policyId : Uuid) (update : PolicyUpdate)
  | evaluatePolicies (request : PolicyEvaluateRequest)

namespace PolicyRequest
open Exposure

def target : PolicyRequest → Target
  | getPolicy policyId | updatePolicy policyId _ => .policy policyId
  | evaluatePolicies request => .tenants [request.tenantId]

def handle (scan : Scan Policy) : PolicyRequest → Service Body
  | getPolicy policyId => do
    return .policy (← orNotFound "Policy not found" (PolicyEvaluatorService.getPolicy policyId))
  | updatePolicy policyId update => do
    return .policy (← orNotFound "Policy not found"
      (PolicyEvaluatorService.updatePolicy policyId update))
  | evaluatePolicies request => do
    return .evaluation (← PolicyEvaluatorService.evaluate scan request)

section Answers
variable (policyId : Uuid)

theorem getPolicy_concerns :
    exposure.Concerns (Target.policy policyId).Names (fun p => [.policy p])
      (PolicyEvaluatorService.getPolicy policyId) := by
  apply Concerns.lookup (PolicyEvaluatorService.getPolicy_finds policyId)
  intro w p hfind
  exact shown_one (.policy p) (Table.mem_of_find? hfind) (Table.key_of_find? hfind) rfl

theorem updatePolicy_concerns (update : PolicyUpdate) :
    exposure.Concerns (Target.policy policyId).Names (fun p => [.policy p])
      (PolicyEvaluatorService.updatePolicy policyId update) := by
  refine concerns_update .policy World.policies (fun w policies => {w with policies}) ?_ ?_ ?_
    (PolicyEvaluatorService.getPolicy_finds policyId)
    (fun _ => PolicyEvaluatorService.patched update) (fun _ _ => rfl) ?_
  · exact SentinelRequest.confined_policies
  · exact id
  · exact fun _ => rfl
  · exact fun _ => Iff.rfl

theorem evaluate_concerns (scan : Scan Policy) (request : PolicyEvaluateRequest) :
    exposure.Concerns (Target.tenants [request.tenantId]).Names
      (fun result => result.matchedPolicies.map .matchedPolicy)
      (PolicyEvaluatorService.evaluate scan request) := by
  refine Concerns.map (Concerns.gets fun w => ?_)
  rw [List.map_map]
  apply shown_map Row.policy
  intro p hp
  obtain ⟨hmem, hcandidate⟩ := Table.mem_select.mp (List.mem_of_mem_filter hp)
  simp only [PolicyEvaluatorService.isCandidate, Bool.and_eq_true, decide_eq_true_eq] at hcandidate
  exact ⟨hmem, List.mem_singleton.mpr hcandidate.1.1, rfl⟩

theorem answers (scan : Scan Policy) (request : PolicyRequest) :
    Answers request.target (request.handle scan) := by
  cases request with
  | getPolicy policyId => exact Concerns.map (Concerns.rethrow (getPolicy_concerns policyId))
  | updatePolicy policyId update =>
    exact Concerns.map (Concerns.rethrow (updatePolicy_concerns policyId update))
  | evaluatePolicies request => exact Concerns.map (evaluate_concerns scan request)

end Answers

end PolicyRequest
end Dox
