import Mathlib.Data.List.Nodup

/-!
# Enumerations

The string enumerations of the schemas, each with the string it is stored and sent as.
-/

set_option autoImplicit false

namespace Dox

/-- Look a member of an enumeration up by its string. -/
def ofValue? {α : Type} (all : List α) (value : α → String) (s : String) : Option α :=
  all.find? fun a => value a = s

theorem ofValue?_value {α : Type} {all : List α} {value : α → String} (hall : ∀ a, a ∈ all)
    (hdistinct : (all.map value).Nodup) (a : α) : ofValue? all value (value a) = some a := by
  have hsome : (all.find? fun b => value b = value a).isSome :=
    List.find?_isSome.mpr ⟨a, hall a, by simp⟩
  obtain ⟨b, hb⟩ := Option.isSome_iff_exists.mp hsome
  have hvalue : value b = value a := by simpa using List.find?_some hb
  rw [ofValue?, hb, List.inj_on_of_nodup_map hdistinct (hall b) (hall a) hvalue]

/-- Members of an enumeration with one string are one member. -/
theorem value_injective {α : Type} {all : List α} {value : α → String} (hall : ∀ a, a ∈ all)
    (hdistinct : (all.map value).Nodup) : Function.Injective value :=
  fun a b h => List.inj_on_of_nodup_map hdistinct (hall a) (hall b) h

inductive Environment where
  | dev | test | staging | prod
deriving DecidableEq, Repr

def Environment.value : Environment → String
  | .dev => "dev"
  | .test => "test"
  | .staging => "staging"
  | .prod => "prod"

def Environment.all : List Environment := [.dev, .test, .staging, .prod]

/-- `Environment(value)`. -/
def Environment.ofValue? : String → Option Environment := Dox.ofValue? all Environment.value

inductive EventType where
  | userInputReceived | agentStarted | agentStepStarted | agentStepCompleted | modelCalled
  | modelResponseReceived | reasoningCaptured | toolSelected | toolCallStarted
  | toolCallCompleted | toolCallFailed | toolCallBlocked | memoryRead | memoryWriteRequested
  | memoryWriteApproved | memoryWriteBlocked | memoryRollback | ragQuery | ragChunkRetrieved
  | policyEvaluated | policyFailed | sentinelAlertCreated | interventionRequested
  | interventionApplied | delegationStarted | delegationCompleted | consentChecked
  | agentCompleted | agentFailed | agentPaused | agentResumed | agentTerminated
  | replayStarted | replayCompleted
deriving DecidableEq, Repr

def EventType.value : EventType → String
  | .userInputReceived => "user_input_received"
  | .agentStarted => "agent_started"
  | .agentStepStarted => "agent_step_started"
  | .agentStepCompleted => "agent_step_completed"
  | .modelCalled => "model_called"
  | .modelResponseReceived => "model_response_received"
  | .reasoningCaptured => "reasoning_captured"
  | .toolSelected => "tool_selected"
  | .toolCallStarted => "tool_call_started"
  | .toolCallCompleted => "tool_call_completed"
  | .toolCallFailed => "tool_call_failed"
  | .toolCallBlocked => "tool_call_blocked"
  | .memoryRead => "memory_read"
  | .memoryWriteRequested => "memory_write_requested"
  | .memoryWriteApproved => "memory_write_approved"
  | .memoryWriteBlocked => "memory_write_blocked"
  | .memoryRollback => "memory_rollback"
  | .ragQuery => "rag_query"
  | .ragChunkRetrieved => "rag_chunk_retrieved"
  | .policyEvaluated => "policy_evaluated"
  | .policyFailed => "policy_failed"
  | .sentinelAlertCreated => "sentinel_alert_created"
  | .interventionRequested => "intervention_requested"
  | .interventionApplied => "intervention_applied"
  | .delegationStarted => "delegation_started"
  | .delegationCompleted => "delegation_completed"
  | .consentChecked => "consent_checked"
  | .agentCompleted => "agent_completed"
  | .agentFailed => "agent_failed"
  | .agentPaused => "agent_paused"
  | .agentResumed => "agent_resumed"
  | .agentTerminated => "agent_terminated"
  | .replayStarted => "replay_started"
  | .replayCompleted => "replay_completed"

def EventType.all : List EventType :=
  [.userInputReceived, .agentStarted, .agentStepStarted, .agentStepCompleted, .modelCalled,
    .modelResponseReceived, .reasoningCaptured, .toolSelected, .toolCallStarted,
    .toolCallCompleted, .toolCallFailed, .toolCallBlocked, .memoryRead, .memoryWriteRequested,
    .memoryWriteApproved, .memoryWriteBlocked, .memoryRollback, .ragQuery, .ragChunkRetrieved,
    .policyEvaluated, .policyFailed, .sentinelAlertCreated, .interventionRequested,
    .interventionApplied, .delegationStarted, .delegationCompleted, .consentChecked,
    .agentCompleted, .agentFailed, .agentPaused, .agentResumed, .agentTerminated,
    .replayStarted, .replayCompleted]

/-- `EventType(value)`. -/
def EventType.ofValue? : String → Option EventType := Dox.ofValue? all EventType.value

theorem EventType.value_injective : Function.Injective EventType.value :=
  Dox.value_injective (by intro a; cases a <;> decide : ∀ a, a ∈ EventType.all) (by decide)

inductive Severity where
  | low | medium | high | critical
deriving DecidableEq, Repr

def Severity.value : Severity → String
  | .low => "low"
  | .medium => "medium"
  | .high => "high"
  | .critical => "critical"

inductive SentinelType where
  | trajectory | toolMisuse | policyBreach | memory | drift | injection | costLoop
  | delegation | bias | hallucination | regulatory
deriving DecidableEq, Repr

def SentinelType.value : SentinelType → String
  | .trajectory => "trajectory"
  | .toolMisuse => "tool_misuse"
  | .policyBreach => "policy_breach"
  | .memory => "memory"
  | .drift => "drift"
  | .injection => "injection"
  | .costLoop => "cost_loop"
  | .delegation => "delegation"
  | .bias => "bias"
  | .hallucination => "hallucination"
  | .regulatory => "regulatory"

def SentinelType.all : List SentinelType :=
  [.trajectory, .toolMisuse, .policyBreach, .memory, .drift, .injection, .costLoop, .delegation,
    .bias, .hallucination, .regulatory]

theorem SentinelType.value_injective : Function.Injective SentinelType.value :=
  Dox.value_injective (by intro a; cases a <;> decide : ∀ a, a ∈ SentinelType.all) (by decide)

inductive InterventionAction where
  | allow | warn | redact | blockToolCall | pauseAgent | requestHumanReview
  | forceSafeResponse | rollbackMemoryWrite | isolateAgent | terminateExecution
deriving DecidableEq, Repr

def InterventionAction.value : InterventionAction → String
  | .allow => "allow"
  | .warn => "warn"
  | .redact => "redact"
  | .blockToolCall => "block_tool_call"
  | .pauseAgent => "pause_agent"
  | .requestHumanReview => "request_human_review"
  | .forceSafeResponse => "force_safe_response"
  | .rollbackMemoryWrite => "rollback_memory_write"
  | .isolateAgent => "isolate_agent"
  | .terminateExecution => "terminate_execution"

def InterventionAction.all : List InterventionAction :=
  [.allow, .warn, .redact, .blockToolCall, .pauseAgent, .requestHumanReview, .forceSafeResponse,
    .rollbackMemoryWrite, .isolateAgent, .terminateExecution]

/-- `InterventionAction(value)`. -/
def InterventionAction.ofValue? : String → Option InterventionAction :=
  Dox.ofValue? all InterventionAction.value

theorem InterventionAction.ofValue?_value (action : InterventionAction) :
    ofValue? action.value = some action :=
  Dox.ofValue?_value (by intro a; cases a <;> decide) (by decide) action

theorem InterventionAction.value_ne_empty (action : InterventionAction) : action.value ≠ "" := by
  cases action <;> decide

inductive UserRole where
  | admin | operator | viewer | agent
deriving DecidableEq, Repr

def UserRole.value : UserRole → String
  | .admin => "admin"
  | .operator => "operator"
  | .viewer => "viewer"
  | .agent => "agent"

inductive SubscriptionTier where
  | starter | professional | enterprise
deriving DecidableEq, Repr

def SubscriptionTier.value : SubscriptionTier → String
  | .starter => "starter"
  | .professional => "professional"
  | .enterprise => "enterprise"

end Dox
