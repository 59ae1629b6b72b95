import DoxGovernance.Lib.Effect
import DoxGovernance.Models

/-!
# The world of a service call

What the services read and write: the committed tables, the clock, the supply of fresh
identifiers, the messages published on the bus and the metrics emitted. `resolutions`
lists every committed resolution of an alert in order; the code never reads it.

A service call is an `Effect` on the world. It reads the clock once, and its commits stay
when it raises later.
-/

set_option autoImplicit false

namespace Dox

structure Message where
  topic : String
  event : CanonicalEvent

structure Metric where
  name : String
  value : Nat
  tags : List (String × String)
deriving DecidableEq, Repr

structure Resolution where
  alertId : Uuid
  action : InterventionAction
deriving DecidableEq, Repr

structure World where
  clock : Datetime
  nextUuid : Uuid := 0
  events : Table EventRecord.eventId := ∅
  quotas : Table TenantQuota.tenantId := ∅
  alerts : Numbered SentinelAlert.id := ∅
  policies : Numbered Policy.id := ∅
  baselines : Numbered AgentBaseline.id := ∅
  webhooks : Numbered WebhookEndpoint.id := ∅
  agents : Constrained AgentProfile.id AgentProfile.agentKey := ∅
  auditEntries : Numbered AuditEntry.id := ∅
  bus : List Message := []
  metrics : List Metric := []
  resolutions : List Resolution := []

abbrev Service (α : Type) := Effect World Exc α

/-- `datetime.now(UTC)`. -/
def now : Service Datetime := Effect.gets World.clock

@[simp] theorem now_run (w : World) : now w = (.ok w.clock, w) := rfl

def uuid4 : Service Uuid :=
  Effect.change fun w => (w.nextUuid, {w with nextUuid := w.nextUuid + 1})

/-- A call that fails with a message before it commits anything, or goes through. -/
def failing {α : Type} (fault : Option String) (call : Service α) : Service α :=
  match fault with
  | some message => Effect.raise (.outage message)
  | none => call

@[simp] theorem failing_none {α : Type} (call : Service α) : failing none call = call := rfl

@[simp] theorem failing_some {α : Type} (message : String) (call : Service α) :
    failing (some message) call = Effect.raise (.outage message) := rfl

theorem keeps_failing {α : Type} {R : World → World → Prop} (refl : ∀ w, R w w)
    {fault : Option String} {call : Service α} (h : Effect.Keeps R call) :
    Effect.Keeps R (failing fault call) := by
  cases fault with
  | none => exact h
  | some message => exact Effect.Keeps.raise refl _

/-- Set the clock to the time of the next call. -/
def World.at (w : World) (t : Datetime) : World := {w with clock := t}

def sampleWorld : World := {clock := sampleNoon}

def sampleRecord (eventType : EventType) (id : Uuid) : EventRecord where
  id := id
  eventId := id
  traceId := 7
  sessionId := "s1"
  tenantId := "acme"
  agentId := "a1"
  agentVersion := "1.0.0"
  eventType := eventType
  environment := .dev
  timestamp := sampleNoon
  clientTimestamp := sampleNoon
  schemaVersion := "1.0"
  payload := ∅
  rawEvent := sampleEvent id eventType
  payloadHash := none
  createdAt := sampleNoon

end Dox
