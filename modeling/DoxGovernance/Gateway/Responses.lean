import DoxGovernance.Audit.Integrity
import DoxGovernance.Compliance.Service
import DoxGovernance.Drift.Service
import DoxGovernance.Lib.Exposure
import DoxGovernance.Notify.Service
import DoxGovernance.Policy.Service

/-!
# Responses and the rows in them

The response models of the routes, the parts of a response that each come from one row, and
the rows that a request can name: those of some tenants, or the one with an identifier. A
model that has every column of its row is the row. A handler answers a target when it
changes only rows that the target names and responds with no others.
-/

set_option autoImplicit false

namespace Dox

inductive Row where
  | event (r : EventRecord)
  | quota (q : TenantQuota)
  | alert (a : SentinelAlert)
  | policy (p : Policy)
  | baseline (b : AgentBaseline)
  | webhook (h : WebhookEndpoint)
  | agent (p : AgentProfile)
  | auditEntry (e : AuditEntry)

def Row.tenantId : Row → String
  | event r => r.tenantId
  | quota q => q.tenantId
  | alert a => a.tenantId
  | policy p => p.tenantId
  | baseline b => b.tenantId
  | webhook h => h.tenantId
  | agent p => p.tenantId
  | auditEntry e => e.tenantId

def World.Has (w : World) : Row → Prop
  | .event r => r ∈ w.events.rows
  | .quota q => q ∈ w.quotas.rows
  | .alert a => a ∈ w.alerts.rows
  | .policy p => p ∈ w.policies.rows
  | .baseline b => b ∈ w.baselines.rows
  | .webhook h => h ∈ w.webhooks.rows
  | .agent p => p ∈ w.agents.rows
  | .auditEntry e => e ∈ w.auditEntries.rows

structure EventSummary where
  id : Uuid
  eventId : Uuid
  tenantId : String
  agentId : String
  eventType : String
  environment : String
  timestamp : Datetime
  payloadHash : Option String
  sessionId : String
  traceId : Uuid
  createdAt : Datetime

def EventSummary.ofRecord (r : EventRecord) : EventSummary where
  id := r.id
  eventId := r.eventId
  tenantId := r.tenantId
  agentId := r.agentId
  eventType := r.eventType.value
  environment := r.environment.value
  timestamp := r.timestamp
  payloadHash := r.payloadHash
  sessionId := r.sessionId
  traceId := r.traceId
  createdAt := r.createdAt

structure WebhookResponse where
  id : Uuid
  tenantId : String
  url : String
  eventTypes : List String
  description : String
  isActive : Bool
  failureCount : Nat
  lastDeliveredAt : Option Datetime
  createdAt : Datetime

def WebhookResponse.ofWebhook (h : WebhookEndpoint) : WebhookResponse where
  id := h.id
  tenantId := h.tenantId
  url := h.url
  eventTypes := h.eventTypes
  description := h.description
  isActive := h.isActive
  failureCount := h.failureCount
  lastDeliveredAt := h.lastDeliveredAt
  createdAt := h.createdAt

structure IngestResponse where
  eventId : Uuid
  receivedAt : Datetime
  status : String := "accepted"

structure BatchIngestResponse where
  accepted : Nat
  rejected : Nat := 0
  eventIds : List Uuid

structure HeartbeatResponse where
  agentId : String
  lastSeenAt : Option Datetime

structure Listing (α : Type) where
  entries : List α
  total : Nat

/-- A page of a list with the length of the whole. -/
structure Paginated (α : Type) extends Listing α where
  limit : Nat
  offset : Nat

inductive Body where
  | ingest (response : IngestResponse)
  | ingestBatch (response : BatchIngestResponse)
  | event (summary : EventSummary)
  | events (listing : Paginated EventSummary)
  | integrity (report : IntegrityReport)
  | alert (alert : SentinelAlert)
  | alerts (listing : Listing SentinelAlert)
  | policy (policy : Policy)
  | policies (listing : Listing Policy)
  | evaluation (result : PolicyEvaluationResult)
  | baseline (baseline : AgentBaseline)
  | baselines (listing : Listing AgentBaseline)
  | drift (report : DriftReportResponse)
  | quota (status : QuotaStatus)
  | webhook (webhook : WebhookResponse)
  | webhooks (listing : Listing WebhookResponse)
  | dispatch (result : DispatchResult)
  | compliance (report : ComplianceReport)
  | agent (profile : AgentProfile)
  | agents (listing : Listing AgentProfile)
  | heartbeat (response : HeartbeatResponse)
  | auditEntry (entry : AuditEntry)
  | auditEntries (listing : Paginated AuditEntry)
  | noContent

/-- A part of a response that comes from one row. -/
inductive Item where
  | event (summary : EventSummary)
  | integrity (verdict : RecordIntegrity)
  | eventId (id : Uuid)
  | alert (alert : SentinelAlert)
  | policy (policy : Policy)
  | matchedPolicy (matched : MatchedPolicy)
  | baseline (baseline : AgentBaseline)
  | baselineId (id : Uuid)
  | quota (status : QuotaStatus)
  | quotaSummary (summary : QuotaSummary)
  | webhook (webhook : WebhookResponse)
  | delivery (result : WebhookDeliveryResult)
  | agent (profile : AgentProfile)
  | heartbeat (response : HeartbeatResponse)
  | auditEntry (entry : AuditEntry)

def Body.items : Body → List Item
  | .ingest response => [.eventId response.eventId]
  | .ingestBatch response => response.eventIds.map .eventId
  | .event summary => [.event summary]
  | .events listing => listing.entries.map .event
  | .integrity report => report.records.map .integrity
  | .alert a => [.alert a]
  | .alerts listing => listing.entries.map .alert
  | .policy p => [.policy p]
  | .policies listing => listing.entries.map .policy
  | .evaluation result => result.matchedPolicies.map .matchedPolicy
  | .baseline b => [.baseline b]
  | .baselines listing => listing.entries.map .baseline
  | .drift report => report.baselineId.toList.map .baselineId
  | .quota status => [.quota status]
  | .webhook h => [.webhook h]
  | .webhooks listing => listing.entries.map .webhook
  | .dispatch result => result.deliveries.map .delivery
  | .compliance report => [.quotaSummary report.quota]
  | .agent p => [.agent p]
  | .agents listing => listing.entries.map .agent
  | .heartbeat response => [.heartbeat response]
  | .auditEntry e => [.auditEntry e]
  | .auditEntries listing => listing.entries.map .auditEntry
  | .noContent => []

/-- Whether a payload can be written into a response: its text is encoded as UTF-8. -/
def Payload.renders (p : Payload) : Bool := !p.json.hasSurrogate && !p.isTooDeep

def Item.renders : Item → Bool
  | .alert a => a.details.renders
  | .policy p => p.config.renders
  | .auditEntry e => e.extra.renders
  | _ => true

/-- Whether a response can be sent; of what it holds only payloads can be in the way. -/
def Body.renders (body : Body) : Bool := body.items.all Item.renders

/-- Reading a column that the last `UPDATE` has expired: the response model is no coroutine, and
the session cannot load the column for it. -/
def missingGreenlet : Exc := .outage "Error extracting attribute: MissingGreenlet"

def Row.Shows : Row → Item → Prop
  | .event r, .event summary => summary = .ofRecord r
  | .event r, .integrity verdict =>
    verdict.recordId = Text.uuid r.id ∧ verdict.eventId = Text.uuid r.eventId ∧
      verdict.storedHash = r.payloadHash
  | .event r, .eventId id => id = r.eventId
  | .alert a, .alert b => b = a
  | .policy p, .policy q => q = p
  | .policy p, .matchedPolicy matched => matched = ⟨p.id, p.name, p.action⟩
  | .baseline b, .baseline c => c = b
  | .baseline b, .baselineId id => id = b.id
  | .quota q, .quota status => status = toStatus q
  | .quota q, .quotaSummary summary => summary = ComplianceService.quotaSummary (toStatus q)
  | .webhook h, .webhook response => response = .ofWebhook h
  | .webhook h, .delivery result => result.webhookId = h.id ∧ result.url = h.url
  | .agent p, .agent q => q = p
  | .agent p, .heartbeat response => response = ⟨p.agentId, p.lastSeenAt⟩
  | .auditEntry e, .auditEntry f => f = e
  | _, _ => False

/-- What a request names: tenants, or one row by its identifier. -/
inductive Target where
  | tenants (tenantIds : List String)
  | event (id : Uuid)
  | alert (id : Uuid)
  | policy (id : Uuid)
  | baseline (id : Uuid)
  | webhook (id : Uuid)
  | agent (id : Uuid)
  | auditEntry (tenantId : String) (id : Uuid)

def Target.Names : Target → Row → Prop
  | .tenants tenantIds, row => row.tenantId ∈ tenantIds
  | .event id, .event r => r.eventId = id
  | .alert id, .alert a => a.id = id
  | .policy id, .policy p => p.id = id
  | .baseline id, .baseline b => b.id = id
  | .webhook id, .webhook h => h.id = id
  | .agent id, .agent p => p.id = id
  | .auditEntry tenantId id, .auditEntry e => e.tenantId = tenantId ∧ e.id = id
  | _, _ => False

def exposure : Exposure World Row Item := ⟨World.Has, Row.Shows⟩

def Answers (target : Target) (handler : Service Body) : Prop :=
  exposure.Concerns target.Names Body.items handler

section Shown
variable {ρ : Type} {S : Row → Prop} {w : World}

theorem shown_one {item : Item} (row : Row) (hheld : w.Has row) (hS : S row)
    (hshows : row.Shows item) : ∀ i ∈ [item], exposure.Shown S w i := by
  intro i hi
  rw [List.mem_singleton] at hi
  subst hi
  exact ⟨row, hheld, hS, hshows⟩

theorem shown_map {rows : List ρ} {toItem : ρ → Item} (toRow : ρ → Row)
    (h : ∀ r ∈ rows, w.Has (toRow r) ∧ S (toRow r) ∧ (toRow r).Shows (toItem r)) :
    ∀ item ∈ rows.map toItem, exposure.Shown S w item := by
  intro item hitem
  obtain ⟨r, hr, rfl⟩ := List.mem_map.mp hitem
  exact ⟨toRow r, h r hr⟩

end Shown

section Numbered
variable {ρ : Type} {key : ρ → Uuid} {S : Row → Prop} {item : ρ → Item} (row : ρ → Row)
  (table : World → Numbered key) (put : World → Numbered key → World)
  (hconfined : ∀ {w t}, (∀ a, ¬S (row a) → (a ∈ (table w).rows ↔ a ∈ t.rows)) →
    exposure.Confined S w (put w t))
  (hheld : ∀ {w t a}, a ∈ t.rows → (put w t).Has (row a))
  (hshows : ∀ a, (row a).Shows (item a))
include hconfined hheld hshows

/-- Adding a row concerns that row. -/
theorem concerns_add (mk : World → Uuid → ρ) (hmk : ∀ w n, key (mk w n) = n)
    (hS : ∀ w n, S (row (mk w n))) : exposure.Concerns S (fun a => [item a])
      (Effect.change fun w =>
        (mk w (table w).next, put w ((table w).add (mk w) (hmk w))) : Service ρ) := by
  apply Exposure.Concerns.change
  · intro w
    apply hconfined
    intro a ha
    apply Numbered.mem_add_of_ne
    rintro rfl
    exact ha (hS w (table w).next)
  · intro w
    exact shown_one _ (hheld (Numbered.mem_add_self (table w) (mk w) (hmk w)))
      (hS w (table w).next) (hshows _)

/-- Rewriting the row with an identifier concerns the row with that identifier. -/
theorem concerns_update {k : Uuid} {find : Service ρ}
    (hfinds : Effect.Finds (fun w => (table w).find? k) find) (f : World → ρ → ρ)
    (hf : ∀ w a, key (f w a) = key a) (hS : ∀ a, S (row a) ↔ key a = k) :
    exposure.Concerns S (fun a => [item a]) (find >>= fun a => Effect.change fun w =>
      (f w a, put w ((table w).update k (f w) (hf w)))) := by
  apply Exposure.Concerns.lookup_change hfinds
  intro w a hfind
  constructor
  · apply hconfined
    intro b hb
    have hne : key b ≠ k := fun h => hb ((hS b).mpr h)
    exact (Numbered.mem_update_of_ne hne).symm
  · have hid : key (f w a) = k := (hf w a).trans (Table.key_of_find? hfind)
    exact shown_one _ (hheld (Numbered.mem_update_self hfind)) ((hS _).mpr hid) (hshows _)

end Numbered

theorem confined_of_nextUuid {S : Row → Prop} {w : World} {nextUuid : Uuid} :
    exposure.Confined S w {w with nextUuid} := by
  intro row _
  cases row <;> exact Iff.rfl

/-- `limit` and `offset` of a route with a largest page. -/
structure PageQuery (largest : Nat) where
  limit : Nat := 50
  offset : Nat := 0
  limitBounds : 1 ≤ limit ∧ limit ≤ largest := by decide

/-- `except NotFoundError: raise HTTPException(404, detail)`. -/
def notFoundAs (detail : String) : Exc → Exc
  | .notFound _ => .httpException 404 detail
  | e => e

def orNotFound {α : Type} (detail : String) (call : Service α) : Service α :=
  Effect.recover call fun e => Effect.raise (notFoundAs detail e)

theorem orNotFound_finds {α : Type} {find : World → Option α} {call : Service α}
    (h : Effect.Finds find call) (detail : String) : Effect.Finds find (orNotFound detail call) := by
  constructor
  · intro w a hfind
    exact Effect.recover_ok (h.found hfind)
  · intro w hfind
    obtain ⟨e, hrun⟩ := h.missing hfind
    exact ⟨_, Effect.recover_error hrun⟩

end Dox
