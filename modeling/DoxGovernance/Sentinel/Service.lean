import DoxGovernance.Lib.Text
import DoxGovernance.World

/-!
# The sentinel service

Alerts are raised by hand or by the events of a few trigger types, listed, and resolved
with an action; policies are created, listed with the newest first, and deactivated. A
query takes the order in which the database reads the rows it selects.
-/

set_option autoImplicit false

namespace Dox

structure SentinelAlertCreate where
  eventId : Option Uuid := none
  tenantId : String
  agentId : String
  sentinelType : SentinelType
  severity : Severity
  message : String
  details : Payload := ∅
  messageNonempty : message ≠ "" := by decide

structure PolicyCreate where
  tenantId : String
  name : String
  description : String := ""
  sentinelType : SentinelType
  severity : Severity
  action : InterventionAction
  config : Payload := ∅
  nameNonempty : name ≠ "" := by decide

/-- The event types that raise an alert by themselves. -/
def triggerMap : EventType → Option (SentinelType × Severity)
  | .toolCallBlocked => some (.toolMisuse, .high)
  | .toolCallFailed => some (.toolMisuse, .medium)
  | .policyFailed => some (.policyBreach, .high)
  | .memoryWriteBlocked => some (.memory, .high)
  | .memoryRollback => some (.memory, .medium)
  | .agentFailed => some (.trajectory, .high)
  | .agentTerminated => some (.trajectory, .critical)
  | _ => none

namespace SentinelService

def newAlert (now : Datetime) (create : SentinelAlertCreate) (id : Uuid) : SentinelAlert where
  id := id
  eventId := create.eventId
  tenantId := create.tenantId
  agentId := create.agentId
  sentinelType := create.sentinelType
  severity := create.severity
  message := create.message
  details := create.details
  actionTaken := none
  isResolved := false
  resolvedAt := none
  createdAt := now

def createAlert (create : SentinelAlertCreate) : Service SentinelAlert :=
  Effect.change fun w => (newAlert w.clock create w.alerts.next,
    {w with alerts := w.alerts.add (newAlert w.clock create) fun _ => rfl})

def getAlert (alertId : Uuid) : Service SentinelAlert := fun w =>
  match w.alerts.find? alertId with
  | some alert => (.ok alert, w)
  | none => (.error (.notFound s!"Alert {Text.uuid alertId} not found"), w)

theorem getAlert_finds (alertId : Uuid) :
    Effect.Finds (fun w => w.alerts.find? alertId) (getAlert alertId) := by
  constructor
  · intro w _ hfind
    simp only [getAlert, hfind]
  · intro w hfind
    simp only [getAlert, hfind]
    exact ⟨_, rfl⟩

structure AlertFilter where
  tenantId : String
  severity : Option Severity := none
  sentinelType : Option SentinelType := none
  isResolved : Option Bool := none

def AlertFilter.keeps (filter : AlertFilter) (alert : SentinelAlert) : Bool :=
  alert.tenantId = filter.tenantId && filter.severity.all (alert.severity = ·) &&
    filter.sentinelType.all (alert.sentinelType = ·) && filter.isResolved.all (alert.isResolved = ·)

def listAlerts (scan : Scan SentinelAlert) (filter : AlertFilter) (limit offset : Nat) :
    Service (List SentinelAlert) :=
  Effect.gets fun w =>
    page offset limit (orderByDesc (·.createdAt) (w.alerts.select scan filter.keeps))

def resolved (now : Datetime) (action : InterventionAction) (alert : SentinelAlert) :
    SentinelAlert :=
  {alert with
    isResolved := true
    actionTaken := some action
    resolvedAt := some now}

def resolve (alertId : Uuid) (action : InterventionAction) (w : World) : World :=
  {w with
    alerts := w.alerts.update alertId (resolved w.clock action) fun _ => rfl
    resolutions := w.resolutions ++ [⟨alertId, action⟩]}

def resolveAlert (alertId : Uuid) (action : InterventionAction) : Service SentinelAlert := do
  let alert ← getAlert alertId
  Effect.change fun w => (resolved w.clock action alert, resolve alertId action w)

section Alert
variable {alertId : Uuid} {alert : SentinelAlert} {w : World}

theorem getAlert_of_find (h : w.alerts.find? alertId = some alert) :
    getAlert alertId w = (.ok alert, w) := by
  simp only [getAlert, h]

theorem getAlert_of_none (h : w.alerts.find? alertId = none) :
    getAlert alertId w = (.error (.notFound s!"Alert {Text.uuid alertId} not found"), w) := by
  simp only [getAlert, h]

theorem resolveAlert_of_find (h : w.alerts.find? alertId = some alert)
    (action : InterventionAction) :
    resolveAlert alertId action w =
      (.ok (resolved w.clock action alert), resolve alertId action w) := by
  rw [resolveAlert, Effect.bind_ok (getAlert_of_find h), Effect.change_run]

theorem find?_resolve (h : w.alerts.find? alertId = some alert) (action : InterventionAction) :
    (resolve alertId action w).alerts.find? alertId = some (resolved w.clock action alert) := by
  have hfind := Numbered.find?_update w.alerts alertId (resolved w.clock action) (fun _ => rfl) alertId
  rw [if_pos rfl, h, Option.map_some] at hfind
  exact hfind

end Alert

def newPolicy (now : Datetime) (create : PolicyCreate) (id : Uuid) : Policy where
  id := id
  tenantId := create.tenantId
  name := create.name
  description := create.description
  sentinelType := create.sentinelType
  severity := create.severity
  action := create.action
  isActive := true
  config := create.config
  createdAt := now

def createPolicy (create : PolicyCreate) : Service Policy :=
  Effect.change fun w => (newPolicy w.clock create w.policies.next,
    {w with policies := w.policies.add (newPolicy w.clock create) fun _ => rfl})

def listPolicies (scan : Scan Policy) (tenantId : String) (activeOnly : Bool) :
    Service (List Policy) :=
  Effect.gets fun w => orderByDesc (·.createdAt) (w.policies.select scan fun p =>
    p.tenantId = tenantId && (!activeOnly || p.isActive))

def deactivatePolicy (policyId : Uuid) : Service Policy := fun w =>
  match w.policies.find? policyId with
  | none => (.error (.notFound s!"Policy {Text.uuid policyId} not found"), w)
  | some policy =>
    (.ok {policy with isActive := false},
      {w with policies := w.policies.update policyId ({· with isActive := false}) fun _ => rfl})

def alertMessage (sentinelType : SentinelType) (event : CanonicalEvent) : String :=
  sentinelType.value ++ (" detected: " ++ (event.eventType.value ++
    (" from agent " ++ event.agentId)))

theorem alertMessage_ne_empty (sentinelType : SentinelType) (event : CanonicalEvent) :
    alertMessage sentinelType event ≠ "" := by
  intro h
  have hrest := (String.append_eq_empty_iff.mp h).2
  exact absurd (String.append_eq_empty_iff.mp hrest).1 (by decide)

def alertDetails (event : CanonicalEvent) : Payload where
  members := [member "event_type" (textValue event.eventType.value),
    member "payload" event.payload.json]
  distinct := by
    rw [Json.distinctKeys_obj]
    have hkeys : [Str.ofText "event_type", Str.ofText "payload"].Nodup := by decide
    refine ⟨hkeys, fun m hm => ?_⟩
    rcases List.mem_cons.mp hm with rfl | hm
    · rfl
    · rw [List.mem_singleton.mp hm]
      exact event.payload.distinctKeys

def triggeredAlert (trigger : SentinelType × Severity) (event : CanonicalEvent) :
    SentinelAlertCreate where
  eventId := some event.eventId
  tenantId := event.tenantId
  agentId := event.agentId
  sentinelType := trigger.1
  severity := trigger.2
  message := alertMessage trigger.1 event
  details := alertDetails event
  messageNonempty := alertMessage_ne_empty trigger.1 event

def evaluateEvent (event : CanonicalEvent) : List SentinelAlertCreate :=
  match triggerMap event.eventType with
  | none => []
  | some trigger => [triggeredAlert trigger event]

theorem evaluateEvent_of_none {event : CanonicalEvent} (h : triggerMap event.eventType = none) :
    evaluateEvent event = [] := by
  rw [evaluateEvent, h]

theorem evaluateEvent_of_some {event : CanonicalEvent} {trigger : SentinelType × Severity}
    (h : triggerMap event.eventType = some trigger) :
    evaluateEvent event = [triggeredAlert trigger event] := by
  rw [evaluateEvent, h]

end SentinelService

def sampleAlert : SentinelAlert where
  id := 0
  eventId := none
  tenantId := "acme"
  agentId := "a1"
  sentinelType := .trajectory
  severity := .medium
  message := "trajectory detected"
  details := ∅
  actionTaken := none
  isResolved := false
  resolvedAt := none
  createdAt := sampleNoon

/-- A table with the sample alert alone. -/
def sampleAlerts : Numbered SentinelAlert.id := ⟨⟨[sampleAlert], by decide⟩, 1, by decide⟩

end Dox
