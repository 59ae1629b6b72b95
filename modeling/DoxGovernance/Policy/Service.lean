import Mathlib.Data.List.MinMax
import DoxGovernance.Lib.Text
import DoxGovernance.World

/-!
# The policy evaluator

An evaluation collects the active policies of a tenant and a sentinel type whose severity
is not above that of the request, and answers with the action of highest rank among them,
or with `allow` when there is none. Actions have distinct ranks.
-/

set_option autoImplicit false

namespace Dox

/-- `_ACTION_RANK`. -/
def actionRank : InterventionAction → Nat
  | .allow => 0
  | .warn => 1
  | .redact => 2
  | .requestHumanReview => 3
  | .blockToolCall => 4
  | .pauseAgent => 5
  | .rollbackMemoryWrite => 6
  | .forceSafeResponse => 7
  | .isolateAgent => 8
  | .terminateExecution => 9

/-- `_SEVERITY_RANK`. -/
def severityRank : Severity → Nat
  | .low => 0
  | .medium => 1
  | .high => 2
  | .critical => 3

/-- `_BLOCK_THRESHOLD`. -/
def blockThreshold : Nat := actionRank .blockToolCall

structure PolicyUpdate where
  name : Option String := none
  description : Option String := none
  severity : Option Severity := none
  action : Option InterventionAction := none
  isActive : Option Bool := none
  config : Option Payload := none

structure PolicyEvaluateRequest where
  tenantId : String
  sentinelType : SentinelType
  severity : Severity

structure MatchedPolicy where
  id : Uuid
  name : String
  action : InterventionAction

structure PolicyEvaluationResult where
  tenantId : String
  sentinelType : SentinelType
  severity : Severity
  matchedCount : Nat
  matchedPolicies : List MatchedPolicy
  action : InterventionAction
  isBlocked : Bool

theorem actionRank_injective : Function.Injective actionRank := by
  intro a b h
  cases a <;> cases b <;> first | rfl | cases h

namespace PolicyEvaluatorService

def getPolicy (policyId : Uuid) : Service Policy := fun w =>
  match w.policies.find? policyId with
  | some policy => (.ok policy, w)
  | none => (.error (.notFound s!"Policy {Text.uuid policyId} not found"), w)

theorem getPolicy_finds (policyId : Uuid) :
    Effect.Finds (fun w => w.policies.find? policyId) (getPolicy policyId) := by
  constructor
  · intro w _ hfind
    simp only [getPolicy, hfind]
  · intro w hfind
    simp only [getPolicy, hfind]
    exact ⟨_, rfl⟩

def patched (update : PolicyUpdate) (policy : Policy) : Policy :=
  {policy with
    name := update.name.getD policy.name
    description := update.description.getD policy.description
    severity := update.severity.getD policy.severity
    action := update.action.getD policy.action
    isActive := update.isActive.getD policy.isActive
    config := update.config.getD policy.config}

def updatePolicy (policyId : Uuid) (update : PolicyUpdate) : Service Policy := do
  let policy ← getPolicy policyId
  Effect.change fun w => (patched update policy,
    {w with policies := w.policies.update policyId (patched update) fun _ => rfl})

/-- `_policy_matches`. -/
def policyMatches (policy : Policy) (request : PolicyEvaluateRequest) : Bool :=
  severityRank request.severity ≥ severityRank policy.severity

/-- `_winning_action`: the first policy whose action has the highest rank. -/
def winningAction (policies : List Policy) : InterventionAction :=
  match policies.argmax fun p => actionRank p.action with
  | none => .allow
  | some winner => winner.action

/-- The policies an evaluation reads. -/
def isCandidate (tenantId : String) (sentinelType : SentinelType) (policy : Policy) : Bool :=
  policy.tenantId = tenantId && policy.sentinelType = sentinelType && policy.isActive

def evaluate (scan : Scan Policy) (request : PolicyEvaluateRequest) :
    Service PolicyEvaluationResult := do
  let candidates ← Effect.gets fun w =>
    w.policies.select scan (isCandidate request.tenantId request.sentinelType)
  let matched := candidates.filter fun p => policyMatches p request
  let action := winningAction matched
  return {
    tenantId := request.tenantId
    sentinelType := request.sentinelType
    severity := request.severity
    matchedCount := matched.length
    matchedPolicies := matched.map fun p => ⟨p.id, p.name, p.action⟩
    action := action
    isBlocked := actionRank action ≥ blockThreshold }

/-! ### The winning action -/

/-- Some policy has the winning action and none has an action of higher rank. -/
theorem winningAction_spec {policies : List Policy} (h : policies ≠ []) :
    (∃ p ∈ policies, p.action = winningAction policies) ∧
      ∀ p ∈ policies, actionRank p.action ≤ actionRank (winningAction policies) := by
  unfold winningAction
  cases hmax : policies.argmax fun p => actionRank p.action with
  | none => exact absurd (List.argmax_eq_none.mp hmax) h
  | some winner =>
    refine ⟨⟨winner, List.argmax_mem hmax, rfl⟩, fun p hp => ?_⟩
    exact List.le_of_mem_argmax (f := fun p : Policy => actionRank p.action) hp hmax

/-- An action wins exactly when a policy has it and no policy has one of higher rank. -/
theorem winningAction_eq_iff {policies : List Policy} (h : policies ≠ [])
    (action : InterventionAction) : winningAction policies = action ↔
      (∃ p ∈ policies, p.action = action) ∧
        ∀ p ∈ policies, actionRank p.action ≤ actionRank action := by
  obtain ⟨⟨p, hp, hwins⟩, hmax⟩ := winningAction_spec h
  constructor
  · rintro rfl
    exact ⟨⟨p, hp, hwins⟩, hmax⟩
  · rintro ⟨⟨q, hq, rfl⟩, hq'⟩
    apply actionRank_injective
    apply le_antisymm
    · rw [← hwins]
      exact hq' p hp
    · exact hmax q hq

theorem evaluate_spec (scan : Scan Policy) (request : PolicyEvaluateRequest) (w : World) :
    ∃ matched result, evaluate scan request w = (.ok result, w) ∧
      result.action = winningAction matched ∧
      ∀ p, p ∈ matched ↔ p ∈ w.policies.rows ∧
        isCandidate request.tenantId request.sentinelType p = true ∧
        severityRank p.severity ≤ severityRank request.severity := by
  refine ⟨(w.policies.select scan (isCandidate request.tenantId request.sentinelType)).filter
    fun p => policyMatches p request, _, rfl, rfl, fun p => ?_⟩
  rw [List.mem_filter, Table.mem_select, and_assoc, policyMatches, decide_eq_true_iff]

end PolicyEvaluatorService
end Dox
