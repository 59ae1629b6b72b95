import DoxGovernance.Lib.Calendar
import DoxGovernance.Schemas.Enums
import DoxGovernance.Schemas.Validators

/-!
# The canonical event

`CanonicalEvent` is what validation lets through: every bound of the schema is a field,
so an event that breaks one cannot be built. Strings have been stripped of surrounding
white space, and they hold no surrogates; the strings inside the payloads may.
-/

set_option autoImplicit false
set_option maxRecDepth 4096

namespace Dox

abbrev Uuid := Nat

def isSpace (c : Char) : Bool :=
  (9 ≤ c.toNat && c.toNat ≤ 13) || (0x2000 ≤ c.toNat && c.toNat ≤ 0x200A) ||
    [0x20, 0x85, 0xA0, 0x1680, 0x2028, 0x2029, 0x202F, 0x205F, 0x3000].contains c.toNat

def isStripped (s : String) : Bool :=
  s.toList.head?.all (fun c => !isSpace c) && s.toList.getLast?.all fun c => !isSpace c

/-- `Field(min_length=low, max_length=high)`, after stripping. -/
def fits (low high : Nat) (s : String) : Bool :=
  isStripped s && low ≤ s.length && s.length ≤ high

def isHash (s : String) : Bool :=
  isStripped s && (validateSha256Hash (some (Str.ofText s))).isOk

def fiveMinutes : Nat := 300000000

def checkTags (tags : List (String × String)) : Bool :=
  (tags.map Prod.fst).Nodup && tags.length ≤ 50 &&
    tags.all fun tag => fits 0 100 tag.1 && fits 0 500 tag.2

structure CanonicalEvent where
  eventId : Uuid
  schemaVersion : String := "1.0"
  traceId : Uuid
  parentTraceId : Option Uuid := none
  sessionId : String
  tenantId : String
  agentId : String
  agentVersion : String
  agentFingerprint : Option String := none
  eventType : EventType
  environment : Environment
  timestamp : Datetime
  clientTimestamp : Datetime
  sequenceNumber : Option Nat := none
  parentEventId : Option Uuid := none
  correlationId : String
  replaySessionId : Option Uuid := none
  traceparent : Option String := none
  tracestate : Option String := none
  payload : Payload
  rawPayload : Option Payload := none
  payloadHash : Option String := none
  previousEventHash : Option String := none
  userId : Option String := none
  consentId : Option String := none
  purposeId : Option String := none
  sdkVersion : Option String := none
  adapterId : Option String := none
  tags : List (String × String) := []
  schemaVersionOk : (isStripped schemaVersion &&
    (validateSchemaVersion (Str.ofText schemaVersion)).isOk) = true := by decide
  sessionIdFits : fits 1 255 sessionId = true := by decide
  tenantIdFits : fits 1 255 tenantId = true := by decide
  agentIdFits : fits 1 255 agentId = true := by decide
  agentVersionFits : fits 1 100 agentVersion = true := by decide
  agentFingerprintFits : agentFingerprint.all (fits 32 255) = true := by decide
  correlationIdFits : fits 1 255 correlationId = true := by decide
  traceparentOk : (traceparent.all fun v => isStripped v &&
    (validateTraceparent (some (Str.ofText v))).isOk) = true := by decide
  tracestateFits : tracestate.all (fits 0 1024) = true := by decide
  payloadHashOk : payloadHash.all isHash = true := by decide
  previousEventHashOk : previousEventHash.all isHash = true := by decide
  userIdFits : userId.all (fits 0 255) = true := by decide
  consentIdFits : consentId.all (fits 0 255) = true := by decide
  purposeIdFits : purposeId.all (fits 0 255) = true := by decide
  sdkVersionFits : sdkVersion.all (fits 0 50) = true := by decide
  adapterIdFits : adapterId.all (fits 0 100) = true := by decide
  tagsOk : checkTags tags = true := by decide
  timestampOrdering : clientTimestamp.instant ≤ fiveMinutes + timestamp.instant := by decide

/-- An event with the required fields alone. -/
def CanonicalEvent.ofRequired (eventId traceId : Uuid)
    (sessionId tenantId agentId agentVersion : String) (eventType : EventType)
    (environment : Environment) (timestamp clientTimestamp : Datetime) (correlationId : String)
    (payload : Payload) (hsession : fits 1 255 sessionId = true)
    (htenant : fits 1 255 tenantId = true) (hagent : fits 1 255 agentId = true)
    (hversion : fits 1 100 agentVersion = true) (hcorrelation : fits 1 255 correlationId = true)
    (hordering : clientTimestamp.instant ≤ fiveMinutes + timestamp.instant) :
    CanonicalEvent where
  eventId := eventId
  traceId := traceId
  sessionId := sessionId
  tenantId := tenantId
  agentId := agentId
  agentVersion := agentVersion
  eventType := eventType
  environment := environment
  timestamp := timestamp
  clientTimestamp := clientTimestamp
  correlationId := correlationId
  payload := payload
  sessionIdFits := hsession
  tenantIdFits := htenant
  agentIdFits := hagent
  agentVersionFits := hversion
  correlationIdFits := hcorrelation
  timestampOrdering := hordering

/-- A supplied digest is never the empty string. -/
theorem CanonicalEvent.payloadHash_ne_empty (event : CanonicalEvent) :
    event.payloadHash ≠ some "" := by
  intro h
  have hok := event.payloadHashOk
  rw [h] at hok
  exact absurd hok (by decide)

def CanonicalEvent.hasSurrogateKey (event : CanonicalEvent) : Bool :=
  event.payload.hasSurrogateKey || event.rawPayload.any Payload.hasSurrogateKey

def CanonicalEvent.isTooDeep (event : CanonicalEvent) : Bool :=
  event.payload.isTooDeep || event.rawPayload.any Payload.isTooDeep

/-- Whether `event.model_dump(mode="json")` returns. -/
def CanonicalEvent.dumpable (event : CanonicalEvent) : Bool :=
  !event.hasSurrogateKey && !event.isTooDeep

/-- The event with its payloads as `model_dump(mode="json")` writes them. -/
def CanonicalEvent.dumped (event : CanonicalEvent) : CanonicalEvent :=
  {event with payload := event.payload.dumped, rawPayload := event.rawPayload.map Payload.dumped}

def CanonicalEvent.hasNonFinite (event : CanonicalEvent) : Bool :=
  event.payload.hasNonFinite || event.rawPayload.any Payload.hasNonFinite

theorem CanonicalEvent.dumped_of_finite {event : CanonicalEvent} (h : event.hasNonFinite = false) :
    event.dumped = event := by
  rw [hasNonFinite, Bool.or_eq_false_iff] at h
  cases hraw : event.rawPayload with
  | none => rw [dumped, Payload.dumped_of_finite h.1, hraw, Option.map_none, ← hraw]
  | some raw =>
    rw [hraw, Option.any_some] at h
    rw [dumped, Payload.dumped_of_finite h.1, hraw, Option.map_some, Payload.dumped_of_finite h.2,
      ← hraw]

theorem CanonicalEvent.dumped_dumped (event : CanonicalEvent) :
    event.dumped.dumped = event.dumped := by
  apply dumped_of_finite
  rw [hasNonFinite, Bool.or_eq_false_iff]
  refine ⟨Payload.hasNonFinite_dumped _, ?_⟩
  rw [dumped, Option.any_map]
  cases event.rawPayload with
  | none => rfl
  | some raw => exact Payload.hasNonFinite_dumped raw

theorem CanonicalEvent.dumpable_dumped (event : CanonicalEvent) :
    event.dumped.dumpable = event.dumpable := by
  simp only [dumpable, hasSurrogateKey, isTooDeep, dumped, Option.any_map,
    Payload.hasSurrogateKey_dumped, Payload.isTooDeep_dumped]

def sampleNoon : Datetime := ⟨{year := 2024, month := 3, day := 10}, 43200000000, by decide⟩

def sampleNextNoon : Datetime := ⟨{year := 2024, month := 3, day := 11}, 43200000000, by decide⟩

def sampleEvent (eventId : Uuid) (eventType : EventType) : CanonicalEvent where
  eventId := eventId
  traceId := 7
  sessionId := "s1"
  tenantId := "acme"
  agentId := "a1"
  agentVersion := "1.0.0"
  eventType := eventType
  environment := .dev
  timestamp := sampleNoon
  clientTimestamp := sampleNoon
  correlationId := "c1"
  payload := ∅

/-- The same of another tenant. -/
def sampleOtherEvent (eventId : Uuid) (eventType : EventType) : CanonicalEvent :=
  {sampleEvent eventId eventType with tenantId := "globex", tenantIdFits := by decide}

/-- Two events of each tenant. -/
def sampleEvents : List CanonicalEvent :=
  [sampleEvent 1 .agentStarted, sampleOtherEvent 2 .agentStarted, sampleEvent 3 .agentFailed,
    sampleOtherEvent 4 .modelCalled]

end Dox
