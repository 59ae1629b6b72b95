import DoxGovernance.Lib.Table
import DoxGovernance.Schemas.Events

/-!
# Rows

The mapped classes of `common.models`, one structure a table. A column that no service
reads or returns is left out; an enumeration column holds the enumeration.
-/

set_option autoImplicit false

namespace Dox

/-- `rawEvent` is the event whose dump the column holds. -/
structure EventRecord where
  id : Uuid
  eventId : Uuid
  traceId : Uuid
  sessionId : String
  tenantId : String
  agentId : String
  agentVersion : String
  eventType : EventType
  environment : Environment
  timestamp : Datetime
  clientTimestamp : Datetime
  schemaVersion : String
  payload : Payload
  rawEvent : CanonicalEvent
  payloadHash : Option String
  createdAt : Datetime

def hasNul (s : String) : Bool := s.toList.contains (Char.ofNat 0)

/-- Why the columns of the table cannot hold a record: only a schema version can be too long
after validation, no text column takes the character NUL, and no JSON column `NaN`. -/
def EventRecord.columnError (record : EventRecord) : Option String :=
  if 20 < record.schemaVersion.length then some "value too long for type character varying(20)"
  else if [record.sessionId, record.tenantId, record.agentId, record.agentVersion].any hasNul then
    some "invalid byte sequence for encoding \"UTF8\": 0x00"
  else if record.payload.hasNonFinite then some "invalid input syntax for type json"
  else none

/-- `event.payload_hash or compute_payload_hash(event.payload)`. -/
def storedHash (sha256 : ByteArray → String) (event : CanonicalEvent) : Except Exc String :=
  match event.payloadHash with
  | some supplied =>
    if supplied ≠ "" then .ok supplied else computePayloadHash pyFloat sha256 event.payload.json
  | none => computePayloadHash pyFloat sha256 event.payload.json

def tooDeep : Exc := .valueError "Circular reference detected (depth exceeded)"

/-- `event.model_dump(mode="json")`, known by its event. -/
def CanonicalEvent.dump (event : CanonicalEvent) : Except Exc CanonicalEvent :=
  if event.hasSurrogateKey then .error .unicodeEncodeError
  else if event.isTooDeep then .error tooDeep
  else .ok event

theorem dump_of_dumpable {event : CanonicalEvent} (h : event.dumpable = true) :
    event.dump = .ok event := by
  rw [CanonicalEvent.dumpable, Bool.and_eq_true, Bool.not_eq_true', Bool.not_eq_true'] at h
  rw [CanonicalEvent.dump, h.1, h.2]
  rfl

theorem dump_raises {event : CanonicalEvent} (h : event.dumpable = false) :
    ∃ e ∈ [Exc.unicodeEncodeError, tooDeep], event.dump = .error e := by
  cases hkeys : event.hasSurrogateKey with
  | true => exact ⟨.unicodeEncodeError, List.mem_cons_self, by rw [CanonicalEvent.dump, hkeys]; rfl⟩
  | false =>
    have hdepth : event.isTooDeep = true := by
      rwa [CanonicalEvent.dumpable, hkeys, Bool.not_false, Bool.true_and, Bool.not_eq_false'] at h
    refine ⟨tooDeep, List.mem_cons_of_mem _ List.mem_cons_self, ?_⟩
    rw [CanonicalEvent.dump, hkeys, hdepth]
    rfl

/-- The record of an event, with what its dump returns or raises, for the identifier that `uuid4`
draws and the time of the insert. -/
def EventRecord.ofDump (sha256 : ByteArray → String) (id : Uuid) (now : Datetime)
    (event : CanonicalEvent) (dump : Except Exc CanonicalEvent) : Except Exc EventRecord := do
  let rawEvent ← dump
  let payloadHash ← storedHash sha256 event
  return {
    id := id
    eventId := event.eventId
    traceId := event.traceId
    sessionId := event.sessionId
    tenantId := event.tenantId
    agentId := event.agentId
    agentVersion := event.agentVersion
    eventType := event.eventType
    environment := event.environment
    timestamp := event.timestamp
    clientTimestamp := event.clientTimestamp
    schemaVersion := event.schemaVersion
    payload := event.payload
    rawEvent := rawEvent
    payloadHash := some payloadHash
    createdAt := now }

/-- `EventRecord.from_canonical`. -/
def EventRecord.fromCanonical (sha256 : ByteArray → String) (id : Uuid) (now : Datetime)
    (event : CanonicalEvent) : Except Exc EventRecord :=
  EventRecord.ofDump sha256 id now event event.dump

section FromCanonical
variable (sha256 : ByteArray → String) (id : Uuid) (now : Datetime) {event : CanonicalEvent}
  {record : EventRecord}

theorem storedHash_of_supplied {digest : String} (h : event.payloadHash = some digest) :
    storedHash sha256 event = .ok digest := by
  have hne : digest ≠ "" := by
    rintro rfl
    exact event.payloadHash_ne_empty h
  simp only [storedHash, h, if_pos hne]

theorem storedHash_of_none (h : event.payloadHash = none) :
    storedHash sha256 event = computePayloadHash pyFloat sha256 event.payload.json := by
  simp only [storedHash, h]

/-- What the record of an event holds besides its identifier and the time of the insert. -/
structure EventRecord.Describes (sha256 : ByteArray → String) (record : EventRecord)
    (event : CanonicalEvent) : Prop where
  payloadHash : ∃ digest, storedHash sha256 event = .ok digest ∧ record.payloadHash = some digest
  eventId : record.eventId = event.eventId
  tenantId : record.tenantId = event.tenantId
  eventType : record.eventType = event.eventType
  payload : record.payload = event.payload
  rawEvent : record.rawEvent = event
  schemaVersion : record.schemaVersion = event.schemaVersion
  sessionId : record.sessionId = event.sessionId
  agentId : record.agentId = event.agentId
  agentVersion : record.agentVersion = event.agentVersion
  traceId : record.traceId = event.traceId
  environment : record.environment = event.environment
  timestamp : record.timestamp = event.timestamp
  clientTimestamp : record.clientTimestamp = event.clientTimestamp

section Built
variable {sha256 id now}

theorem ofDump_ok (h : EventRecord.ofDump sha256 id now event (.ok event) = .ok record) :
    record.Describes sha256 event ∧ record.createdAt = now := by
  cases hdigest : storedHash sha256 event with
  | error e =>
    rw [EventRecord.ofDump, hdigest] at h
    cases h
  | ok digest =>
    rw [EventRecord.ofDump, hdigest] at h
    cases h
    exact ⟨⟨⟨digest, hdigest, rfl⟩, rfl, rfl, rfl, rfl, rfl, rfl, rfl, rfl, rfl, rfl, rfl, rfl,
      rfl⟩, rfl⟩

theorem fromCanonical_of_dumpable (h : event.dumpable = true) :
    EventRecord.fromCanonical sha256 id now event =
      EventRecord.ofDump sha256 id now event (.ok event) := by
  rw [EventRecord.fromCanonical, dump_of_dumpable h]

theorem ofDump_of_fromCanonical (h : EventRecord.fromCanonical sha256 id now event = .ok record) :
    EventRecord.ofDump sha256 id now event (.ok event) = .ok record := by
  cases hdump : event.dumpable with
  | true => rw [← fromCanonical_of_dumpable hdump, h]
  | false =>
    obtain ⟨e, -, hraises⟩ := dump_raises hdump
    rw [EventRecord.fromCanonical, hraises] at h
    cases h

theorem fromCanonical_ok (h : EventRecord.fromCanonical sha256 id now event = .ok record) :
    record.Describes sha256 event := (ofDump_ok (ofDump_of_fromCanonical h)).1

theorem fromCanonical_createdAt (h : EventRecord.fromCanonical sha256 id now event = .ok record) :
    record.createdAt = now := (ofDump_ok (ofDump_of_fromCanonical h)).2

end Built

/-- Whether the columns of the table can hold the record of an event. -/
def CanonicalEvent.storable (event : CanonicalEvent) : Bool :=
  event.schemaVersion.length ≤ 20 &&
    !([event.sessionId, event.tenantId, event.agentId, event.agentVersion].any hasNul) &&
    !event.payload.hasNonFinite

variable {sha256} in
theorem EventRecord.Describes.columnError_eq_none_iff (h : record.Describes sha256 event) :
    record.columnError = none ↔ event.storable = true := by
  rw [EventRecord.columnError, CanonicalEvent.storable, h.schemaVersion, h.sessionId, h.tenantId,
    h.agentId, h.agentVersion, h.payload, Bool.and_eq_true, Bool.and_eq_true, decide_eq_true_iff,
    Bool.not_eq_true', Bool.not_eq_true']
  by_cases hlength : 20 < event.schemaVersion.length
  · rw [if_pos hlength]
    exact iff_of_false (Option.some_ne_none _) fun h => absurd h.1.1 (Nat.not_le.mpr hlength)
  rw [if_neg hlength]
  cases hnul : [event.sessionId, event.tenantId, event.agentId, event.agentVersion].any hasNul with
  | true => exact iff_of_false (Option.some_ne_none _) fun h => nomatch h.1.2
  | false =>
    rw [if_neg Bool.false_ne_true, ite_eq_right_iff]
    exact ⟨fun h => ⟨⟨Nat.not_lt.mp hlength, rfl⟩, Bool.eq_false_iff.mpr fun hn => nomatch h hn⟩,
      fun h hn => absurd hn (Bool.eq_false_iff.mp h.2)⟩

/-- Whether the digest of an event can be had: it is supplied, or its payload has a UTF-8 text. -/
def CanonicalEvent.hashable (event : CanonicalEvent) : Bool :=
  event.payloadHash.isSome || !event.payload.json.hasSurrogate

theorem storedHash_of_hashable (h : event.hashable = true) :
    ∃ digest, storedHash sha256 event = .ok digest := by
  cases hsupplied : event.payloadHash with
  | some digest => exact ⟨digest, storedHash_of_supplied sha256 hsupplied⟩
  | none =>
    rw [CanonicalEvent.hashable, hsupplied, Option.isSome_none, Bool.false_or,
      Bool.not_eq_true'] at h
    obtain ⟨bytes, _, hdigest⟩ := computePayloadHash_ok pyFloat sha256 h
    exact ⟨sha256 bytes, (storedHash_of_none sha256 hsupplied).trans hdigest⟩

theorem storedHash_raises (h : event.hashable = false) :
    storedHash sha256 event = .error .unicodeEncodeError := by
  rw [CanonicalEvent.hashable, Bool.or_eq_false_iff, Option.isSome_eq_false_iff,
    Option.isNone_iff_eq_none, Bool.not_eq_false'] at h
  rw [storedHash_of_none sha256 h.1, computePayloadHash_raises pyFloat sha256 h.2]

/-- Whether an event has a record: it can be dumped and hashed. -/
def CanonicalEvent.recordable (event : CanonicalEvent) : Bool := event.dumpable && event.hashable

theorem ofDump_of_hashable (h : event.hashable = true) :
    ∃ record, EventRecord.ofDump sha256 id now event (.ok event) = .ok record := by
  obtain ⟨digest, hdigest⟩ := storedHash_of_hashable sha256 h
  rw [EventRecord.ofDump, hdigest]
  exact ⟨_, rfl⟩

theorem ofDump_raises (h : event.hashable = false) :
    EventRecord.ofDump sha256 id now event (.ok event) = .error .unicodeEncodeError := by
  rw [EventRecord.ofDump, storedHash_raises sha256 h]
  rfl

theorem fromCanonical_of_recordable (h : event.recordable = true) :
    ∃ record, EventRecord.fromCanonical sha256 id now event = .ok record := by
  obtain ⟨hdump, hhash⟩ := (Bool.and_eq_true _ _).mp h
  rw [fromCanonical_of_dumpable hdump]
  exact ofDump_of_hashable sha256 id now hhash

theorem fromCanonical_raises (h : event.recordable = false) :
    ∃ e ∈ [Exc.unicodeEncodeError, tooDeep],
      EventRecord.fromCanonical sha256 id now event = .error e := by
  cases hdump : event.dumpable with
  | false =>
    obtain ⟨e, he, hraises⟩ := dump_raises hdump
    refine ⟨e, he, ?_⟩
    rw [EventRecord.fromCanonical, hraises]
    rfl
  | true =>
    rw [CanonicalEvent.recordable, hdump, Bool.true_and] at h
    refine ⟨.unicodeEncodeError, List.mem_cons_self, ?_⟩
    rw [fromCanonical_of_dumpable hdump, ofDump_raises sha256 id now h]

end FromCanonical

structure TenantQuota where
  tenantId : String
  subscriptionTier : SubscriptionTier
  dailyLimit : Nat
  monthlyLimit : Nat
  eventsToday : Nat
  eventsThisMonth : Nat
  dayWindowStart : Datetime
  monthWindowStart : Datetime
deriving DecidableEq

/-- `TenantQuota.__init__`, with the counters at zero and both windows starting now. -/
def TenantQuota.init (now : Datetime) (tenantId : String) (subscriptionTier : SubscriptionTier)
    (dailyLimit monthlyLimit : Nat) : TenantQuota :=
  { tenantId, subscriptionTier, dailyLimit, monthlyLimit
    eventsToday := 0
    eventsThisMonth := 0
    dayWindowStart := now
    monthWindowStart := now }

structure SentinelAlert where
  id : Uuid
  eventId : Option Uuid
  tenantId : String
  agentId : String
  sentinelType : SentinelType
  severity : Severity
  message : String
  details : Payload
  actionTaken : Option InterventionAction
  isResolved : Bool
  resolvedAt : Option Datetime
  createdAt : Datetime

structure Policy where
  id : Uuid
  tenantId : String
  name : String
  description : String
  sentinelType : SentinelType
  severity : Severity
  action : InterventionAction
  isActive : Bool
  config : Payload
  createdAt : Datetime

structure AgentBaseline where
  id : Uuid
  tenantId : String
  agentId : String
  lookbackHours : Nat
  eventCounts : List (String × Nat)
  totalEvents : Nat
  computedAt : Datetime
  isActive : Bool
  createdAt : Datetime

structure WebhookEndpoint where
  id : Uuid
  tenantId : String
  url : String
  secret : String
  eventTypes : List String
  description : String
  isActive : Bool
  failureCount : Nat
  lastDeliveredAt : Option Datetime
  createdAt : Datetime

structure AgentProfile where
  id : Uuid
  tenantId : String
  agentId : String
  name : String
  description : Option String
  version : String
  capabilities : List String
  tags : List (String × String)
  isActive : Bool
  lastSeenAt : Option Datetime
  createdAt : Datetime
  updatedAt : Datetime
deriving DecidableEq

/-- What the constraint `uq_agent_profiles_tenant_agent` keeps unique. -/
def AgentProfile.agentKey (profile : AgentProfile) : String × String :=
  (profile.tenantId, profile.agentId)

structure AuditEntry where
  id : Uuid
  tenantId : String
  actorId : Option Uuid
  actorEmail : String
  action : String
  resourceType : String
  resourceId : String
  summary : String
  extra : Payload
  createdAt : Datetime

structure User where
  id : Uuid
  email : String
  hashedPassword : String
  tenantId : String
  role : UserRole
  isActive : Bool
  createdAt : Datetime
deriving DecidableEq

structure Tenant where
  id : Uuid
  slug : String
  name : String
  subscriptionTier : SubscriptionTier
  isActive : Bool
  createdAt : Datetime
deriving DecidableEq

end Dox
