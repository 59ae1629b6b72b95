import DoxGovernance.Audit.Service
import DoxGovernance.Policy.Service
import DoxGovernance.Sentinel.Service
import DoxGovernance.Workflows.Invoke

/-!
# The sentinel-response workflow

The graph loads an alert, takes the first of the tenant's active policies, newest first,
whose type is that of the alert, resolves the alert with the action of that policy or with
`warn`, and records the outcome. Each service call may fail with a message.
-/

set_option autoImplicit false

namespace Dox
namespace SentinelResponse

structure State where
  alertId : Uuid
  tenantId : String
  alertSeverity : Option String := none
  alertType : Option String := none
  alertMessage : Option String := none
  agentId : Option String := none
  matchedPolicyId : Option String := none
  actionTaken : Option String := none
  auditEntryId : Option String := none
  resolved : Bool := false
  error : Option String := none

/-- The calls that fail, with the message of the exception. -/
structure Faults where
  getAlert : Option String := none
  listPolicies : Option String := none
  resolveAlert : Option String := none
  record : Option String := none

inductive Node where
  | loadAlert | findPolicy | executeAction | resolveWithDefault | recordOutcome
deriving DecidableEq

/-- `InterventionAction(value)`, raising for any other string. -/
def parseAction (value : String) : Service InterventionAction :=
  match InterventionAction.ofValue? value with
  | some action => return action
  | none => Effect.raise (.valueError (Text.repr value ++ " is not a valid InterventionAction"))

variable (faults : Faults) (scan : Scan Policy)

def loadAlert (state : State) : Service State :=
  attempt (do
    let alert ← failing faults.getAlert (SentinelService.getAlert state.alertId)
    return {state with
      alertSeverity := some alert.severity.value
      alertType := some alert.sentinelType.value
      alertMessage := some alert.message
      agentId := some alert.agentId
      error := none})
  fun message => {state with error := some message}

def findPolicy (state : State) : Service State :=
  attempt (do
    let policies ← failing faults.listPolicies
      (SentinelService.listPolicies scan state.tenantId true)
    let alertType := orText state.alertType ""
    match policies.filter fun p => p.sentinelType.value = alertType with
    | policy :: _ =>
      return {state with
        matchedPolicyId := some (Text.uuid policy.id)
        actionTaken := some policy.action.value}
    | [] => return {state with matchedPolicyId := none, actionTaken := none})
  fun message => {state with error := some message, matchedPolicyId := none, actionTaken := none}

def executeAction (state : State) : Service State :=
  attempt (do
    let action ← parseAction (orText state.actionTaken "warn")
    let _ ← failing faults.resolveAlert (SentinelService.resolveAlert state.alertId action)
    return {state with resolved := true, error := none})
  fun message => {state with resolved := false, error := some message}

def resolveWithDefault (state : State) : Service State :=
  attempt (do
    let _ ← failing faults.resolveAlert (SentinelService.resolveAlert state.alertId .warn)
    return {state with resolved := true, actionTaken := some InterventionAction.warn.value})
  fun message => {state with resolved := false, error := some message}

def outcomeEntry (state : State) : AuditEntryCreate where
  tenantId := state.tenantId
  actorEmail := "system"
  action := "sentinel_response_applied"
  resourceType := "sentinel_alert"
  resourceId := Text.uuid state.alertId
  summary := "Automated sentinel response for alert " ++
    (Text.uuid state.alertId ++ (": action=" ++ orText state.actionTaken "none"))
  extra := .ofScalars ["alert_severity", "alert_type", "policy_id", "action_taken", "resolved"]
    [.ofText? state.alertSeverity, .ofText? state.alertType, .ofText? state.matchedPolicyId,
      .ofText? state.actionTaken, .bool state.resolved]
  resourceTypeFits := sentinelAlert_fits
  resourceIdFits := uuid_fits state.alertId
  summaryNonempty := Text.append_ne_empty (by decide) _

def recordOutcome (state : State) : Service State :=
  attempt (do
    let entry ← failing faults.record (AuditService.record (outcomeEntry state))
    return {state with auditEntryId := some (Text.uuid entry.id)})
  fun message => {state with error := some message}

/-- `build_sentinel_response_graph`. -/
def graph : StateGraph Node State World Exc where
  start := .loadAlert
  node
    | .loadAlert => loadAlert faults
    | .findPolicy => findPolicy faults scan
    | .executeAction => executeAction faults
    | .resolveWithDefault => resolveWithDefault faults
    | .recordOutcome => recordOutcome faults
  next
    | .loadAlert, state => if truthy state.error then none else some .findPolicy
    | .findPolicy, state =>
      if truthy state.matchedPolicyId then some .executeAction else some .resolveWithDefault
    | .executeAction, _ | .resolveWithDefault, _ => some .recordOutcome
    | .recordOutcome, _ => none

def rank : Node → Nat
  | .loadAlert => 3
  | .findPolicy => 2
  | .executeAction | .resolveWithDefault => 1
  | .recordOutcome => 0

end SentinelResponse
end Dox
