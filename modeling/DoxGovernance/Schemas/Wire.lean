import DoxGovernance.Models
import DoxGovernance.Schemas.FieldCodecs

/-!
# Events as JSON objects

`model_dump(mode="json")` writes an event as an object with one member for each field, and
validation reads an object as an event. The floats that JSON has no number for are written as
`null`, and some payloads cannot be written at all. An event that validation has let through and
that can be written is let through again when it arrives as the object that is written of it, with
nothing changed but these floats; the second time nothing changes.
-/

set_option autoImplicit false
set_option maxRecDepth 4096

namespace Dox

theorem EventType.mem_all (e : EventType) : e ∈ EventType.all := by cases e <;> decide

theorem EventType.nodup_values : (EventType.all.map EventType.value).Nodup := by decide

theorem Environment.mem_all (e : Environment) : e ∈ Environment.all := by cases e <;> decide

theorem Environment.nodup_values : (Environment.all.map Environment.value).Nodup := by decide

namespace Wire

def eventTypes : Codec Value EventType := enumeration EventType.mem_all EventType.nodup_values

def environments : Codec Value Environment :=
  enumeration Environment.mem_all Environment.nodup_values

def optionalUuid (py : Pydantic) : Codec Value (Option Uuid) := orNone (uuid py) fun _ => rfl

def optionalNatural (py : Pydantic) : Codec Value (Option Nat) := orNone (natural py) fun _ => rfl

def optionalDict : Codec Value (Option Payload) := orNone dict fun _ => rfl

def isVersion (s : String) : Bool := isStripped s && (validateSchemaVersion (Str.ofText s)).isOk

def isTraceparent (s : String) : Bool :=
  isStripped s && (validateTraceparent (some (Str.ofText s))).isOk

end Wire

namespace CanonicalEvent
open Wire

def fieldNames : List String :=
  ["event_id", "schema_version", "trace_id", "parent_trace_id", "session_id", "tenant_id",
    "agent_id", "agent_version", "agent_fingerprint", "event_type", "environment", "timestamp",
    "client_timestamp", "sequence_number", "parent_event_id", "correlation_id",
    "replay_session_id", "traceparent", "tracestate", "payload", "raw_payload", "payload_hash",
    "previous_event_hash", "user_id", "consent_id", "purpose_id", "sdk_version", "adapter_id",
    "tags"]

theorem nodup_fieldNames : (fieldNames.map Str.ofText).Nodup := by decide +kernel

/-- A member for each field, in their order. -/
def dumpMembers (py : Pydantic) (event : CanonicalEvent) : List (Str × Value) :=
  [member "event_id" ((uuid py).write event.eventId),
    member "schema_version" ((text isVersion).write ⟨event.schemaVersion, event.schemaVersionOk⟩),
    member "trace_id" ((uuid py).write event.traceId),
    member "parent_trace_id" ((optionalUuid py).write event.parentTraceId),
    member "session_id" ((text (fits 1 255)).write ⟨event.sessionId, event.sessionIdFits⟩),
    member "tenant_id" ((text (fits 1 255)).write ⟨event.tenantId, event.tenantIdFits⟩),
    member "agent_id" ((text (fits 1 255)).write ⟨event.agentId, event.agentIdFits⟩),
    member "agent_version"
      ((text (fits 1 100)).write ⟨event.agentVersion, event.agentVersionFits⟩),
    member "agent_fingerprint" ((optionalText (fits 32 255)).write
      ⟨event.agentFingerprint, event.agentFingerprintFits⟩),
    member "event_type" (eventTypes.write event.eventType),
    member "environment" (environments.write event.environment),
    member "timestamp" ((datetime py).write event.timestamp),
    member "client_timestamp" ((datetime py).write event.clientTimestamp),
    member "sequence_number" ((optionalNatural py).write event.sequenceNumber),
    member "parent_event_id" ((optionalUuid py).write event.parentEventId),
    member "correlation_id"
      ((text (fits 1 255)).write ⟨event.correlationId, event.correlationIdFits⟩),
    member "replay_session_id" ((optionalUuid py).write event.replaySessionId),
    member "traceparent"
      ((optionalText isTraceparent).write ⟨event.traceparent, event.traceparentOk⟩),
    member "tracestate"
      ((optionalText (fits 0 1024)).write ⟨event.tracestate, event.tracestateFits⟩),
    member "payload" (dict.write event.payload),
    member "raw_payload" (optionalDict.write event.rawPayload),
    member "payload_hash" ((optionalText isHash).write ⟨event.payloadHash, event.payloadHashOk⟩),
    member "previous_event_hash" ((optionalText isHash).write
      ⟨event.previousEventHash, event.previousEventHashOk⟩),
    member "user_id" ((optionalText (fits 0 255)).write ⟨event.userId, event.userIdFits⟩),
    member "consent_id"
      ((optionalText (fits 0 255)).write ⟨event.consentId, event.consentIdFits⟩),
    member "purpose_id"
      ((optionalText (fits 0 255)).write ⟨event.purposeId, event.purposeIdFits⟩),
    member "sdk_version"
      ((optionalText (fits 0 50)).write ⟨event.sdkVersion, event.sdkVersionFits⟩),
    member "adapter_id"
      ((optionalText (fits 0 100)).write ⟨event.adapterId, event.adapterIdFits⟩),
    member "tags" (tagDict.write ⟨event.tags, event.tagsOk⟩)]

theorem keys_dumpMembers (py : Pydantic) (event : CanonicalEvent) :
    (event.dumpMembers py).map Prod.fst = fieldNames.map Str.ofText := rfl

theorem distinctKeys_orNone {α : Type} {c : Codec Value α}
    (hwrite : ∀ a, isNull (c.write a) = false) (h : ∀ a, (c.write a).distinctKeys = true)
    (o : Option α) : ((orNone c hwrite).write o).distinctKeys = true := by
  cases o with
  | none => rfl
  | some a => exact h a

theorem distinctKeys_optionalText {p : String → Bool}
    (o : Codec.Checked (Option.all p)) : ((optionalText p).write o).distinctKeys = true :=
  distinctKeys_orNone (c := str) (fun _ => rfl) (fun _ => rfl) o.val

theorem distinctKeys_optionalUuid (py : Pydantic) (o : Option Uuid) :
    ((optionalUuid py).write o).distinctKeys = true :=
  distinctKeys_orNone (c := uuid py) (fun _ => rfl) (fun _ => rfl) o

theorem distinctKeys_optionalNatural (py : Pydantic) (o : Option Nat) :
    ((optionalNatural py).write o).distinctKeys = true :=
  distinctKeys_orNone (c := natural py) (fun _ => rfl) (fun _ => rfl) o

theorem distinctKeys_optionalDict (o : Option Payload) :
    (optionalDict.write o).distinctKeys = true :=
  distinctKeys_orNone (c := dict) (fun _ => rfl) Payload.distinct o

theorem distinctKeys_tags (tags : Codec.Checked checkTags) :
    (tagDict.write tags).distinctKeys = true := by
  obtain ⟨hsizes, -⟩ := (Bool.and_eq_true _ _).mp tags.property
  obtain ⟨hkeys, -⟩ := (Bool.and_eq_true _ _).mp hsizes
  have hmap : (tags.val.map fun tag => (Str.ofText tag.1, textValue tag.2)).map Prod.fst =
      (tags.val.map Prod.fst).map Str.ofText := by
    rw [List.map_map, List.map_map]
    rfl
  refine (Json.distinctKeys_obj _).mpr ⟨?_, fun m hm => ?_⟩
  · rw [hmap]
    exact (of_decide_eq_true hkeys).map (Function.LeftInverse.injective Str.toText_ofText)
  · obtain ⟨tag, -, rfl⟩ := List.mem_map.mp hm
    rfl

theorem distinctKeys_dumpMembers (py : Pydantic) (event : CanonicalEvent) :
    (Json.obj (event.dumpMembers py)).distinctKeys = true := by
  rw [Json.distinctKeys_obj, keys_dumpMembers]
  refine ⟨nodup_fieldNames, ?_⟩
  simp only [dumpMembers, List.forall_mem_cons]
  exact ⟨rfl, rfl, rfl, distinctKeys_optionalUuid py _, rfl, rfl, rfl, rfl,
    distinctKeys_optionalText _, rfl, rfl, rfl, rfl, distinctKeys_optionalNatural py _,
    distinctKeys_optionalUuid py _, rfl, distinctKeys_optionalUuid py _,
    distinctKeys_optionalText _, distinctKeys_optionalText _, event.payload.distinct,
    distinctKeys_optionalDict _, distinctKeys_optionalText _, distinctKeys_optionalText _,
    distinctKeys_optionalText _, distinctKeys_optionalText _, distinctKeys_optionalText _,
    distinctKeys_optionalText _, distinctKeys_optionalText _, distinctKeys_tags _,
    fun m hm => absurd hm List.not_mem_nil⟩

def object (py : Pydantic) (event : CanonicalEvent) : Payload :=
  ⟨event.dumpMembers py, event.distinctKeys_dumpMembers py⟩

/-- `model_dump(mode="json")`. -/
def modelDump (py : Pydantic) (event : CanonicalEvent) : Except Exc Payload := do
  let written ← event.dump
  return written.dumped.object py

theorem modelDump_of_dumpable {py : Pydantic} {event : CanonicalEvent}
    (h : event.dumpable = true) : event.modelDump py = .ok (event.dumped.object py) := by
  rw [modelDump, dump_of_dumpable h]
  rfl

theorem modelDump_eq_ok {py : Pydantic} {event : CanonicalEvent} {doc : Payload} :
    event.modelDump py = .ok doc ↔ event.dumpable = true ∧ doc = event.dumped.object py := by
  cases hdump : event.dumpable with
  | true =>
    rw [modelDump_of_dumpable hdump]
    exact ⟨fun h => ⟨rfl, (Except.ok.inj h).symm⟩, fun h => congrArg Except.ok h.2.symm⟩
  | false =>
    obtain ⟨e, -, hraises⟩ := dump_raises hdump
    rw [modelDump, hraises]
    exact iff_of_false (fun h => nomatch h) fun h => nomatch h.1

/-! ### Validation -/

section Validation
variable (py : Pydantic) (body : Payload)

def field {α : Type} (c : Codec Value α) (name : String) : Option α :=
  Record.required c (Str.ofText name) body.members

def fieldOr {α : Type} (c : Codec Value α) (name : String) (default : α) : Option α :=
  Record.defaulted c default (Str.ofText name) body.members

theorem version_ok : isVersion "1.0" = true := by decide

/-- The event with the fields of an object, where none is refused. -/
def ofFields : Option CanonicalEvent := do
  let eventId ← field body (uuid py) "event_id"
  let schemaVersion ← fieldOr body (text isVersion) "schema_version" ⟨"1.0", version_ok⟩
  let traceId ← field body (uuid py) "trace_id"
  let parentTraceId ← fieldOr body (optionalUuid py) "parent_trace_id" none
  let sessionId ← field body (text (fits 1 255)) "session_id"
  let tenantId ← field body (text (fits 1 255)) "tenant_id"
  let agentId ← field body (text (fits 1 255)) "agent_id"
  let agentVersion ← field body (text (fits 1 100)) "agent_version"
  let agentFingerprint ← fieldOr body (optionalText (fits 32 255)) "agent_fingerprint" ⟨none, rfl⟩
  let eventType ← field body eventTypes "event_type"
  let environment ← field body environments "environment"
  let timestamp ← field body (datetime py) "timestamp"
  let clientTimestamp ← field body (datetime py) "client_timestamp"
  let sequenceNumber ← fieldOr body (optionalNatural py) "sequence_number" none
  let parentEventId ← fieldOr body (optionalUuid py) "parent_event_id" none
  let correlationId ← field body (text (fits 1 255)) "correlation_id"
  let replaySessionId ← fieldOr body (optionalUuid py) "replay_session_id" none
  let traceparent ← fieldOr body (optionalText isTraceparent) "traceparent" ⟨none, rfl⟩
  let tracestate ← fieldOr body (optionalText (fits 0 1024)) "tracestate" ⟨none, rfl⟩
  let payload ← field body dict "payload"
  let rawPayload ← fieldOr body optionalDict "raw_payload" none
  let payloadHash ← fieldOr body (optionalText isHash) "payload_hash" ⟨none, rfl⟩
  let previousEventHash ← fieldOr body (optionalText isHash) "previous_event_hash" ⟨none, rfl⟩
  let userId ← fieldOr body (optionalText (fits 0 255)) "user_id" ⟨none, rfl⟩
  let consentId ← fieldOr body (optionalText (fits 0 255)) "consent_id" ⟨none, rfl⟩
  let purposeId ← fieldOr body (optionalText (fits 0 255)) "purpose_id" ⟨none, rfl⟩
  let sdkVersion ← fieldOr body (optionalText (fits 0 50)) "sdk_version" ⟨none, rfl⟩
  let adapterId ← fieldOr body (optionalText (fits 0 100)) "adapter_id" ⟨none, rfl⟩
  let tags ← fieldOr body tagDict "tags" ⟨[], rfl⟩
  if hordering : clientTimestamp.instant ≤ fiveMinutes + timestamp.instant then
    return {
      eventId, schemaVersion := schemaVersion.val, traceId, parentTraceId
      sessionId := sessionId.val, tenantId := tenantId.val, agentId := agentId.val
      agentVersion := agentVersion.val, agentFingerprint := agentFingerprint.val
      eventType, environment, timestamp, clientTimestamp, sequenceNumber, parentEventId
      correlationId := correlationId.val, replaySessionId, traceparent := traceparent.val
      tracestate := tracestate.val, payload, rawPayload, payloadHash := payloadHash.val
      previousEventHash := previousEventHash.val, userId := userId.val
      consentId := consentId.val, purposeId := purposeId.val, sdkVersion := sdkVersion.val
      adapterId := adapterId.val, tags := tags.val
      schemaVersionOk := schemaVersion.property, sessionIdFits := sessionId.property
      tenantIdFits := tenantId.property, agentIdFits := agentId.property
      agentVersionFits := agentVersion.property
      agentFingerprintFits := agentFingerprint.property
      correlationIdFits := correlationId.property, traceparentOk := traceparent.property
      tracestateFits := tracestate.property, payloadHashOk := payloadHash.property
      previousEventHashOk := previousEventHash.property, userIdFits := userId.property
      consentIdFits := consentId.property, purposeIdFits := purposeId.property
      sdkVersionFits := sdkVersion.property, adapterIdFits := adapterId.property
      tagsOk := tags.property, timestampOrdering := hordering }
  else none

/-- `CanonicalEvent.model_validate`, where nothing is refused; fields of other names are
forbidden. -/
def modelValidate : Option CanonicalEvent :=
  if body.members.all fun m => fieldNames.any fun name => m.1 = Str.ofText name then
    ofFields py body
  else none

end Validation

/-! ### Reading what was written -/

section RoundTrip
open Codec
variable {py : Pydantic} {body : Payload} {event : CanonicalEvent}

/-- The fields that are read again from what is written of them; the texts, enumerations, numbers
and tags always are. -/
structure Readable (py : Pydantic) (event : CanonicalEvent) : Prop where
  eventId : (uuid py).Readable event.eventId
  traceId : (uuid py).Readable event.traceId
  parentTraceId : (optionalUuid py).Readable event.parentTraceId
  timestamp : (datetime py).Readable event.timestamp
  clientTimestamp : (datetime py).Readable event.clientTimestamp
  parentEventId : (optionalUuid py).Readable event.parentEventId
  replaySessionId : (optionalUuid py).Readable event.replaySessionId
  payload : dict.Readable event.payload
  rawPayload : optionalDict.Readable event.rawPayload

theorem readable_of_field {α : Type} {c : Codec Value α} {name : String} {a : α}
    (h : field body c name = some a) : c.Readable a := Record.readable_of_required h

theorem readable_of_fieldOr {α : Type} {c : Codec Value α}
    {hwrite : ∀ a, isNull (c.write a) = false} {name : String} {o : Option α}
    (h : fieldOr body (orNone c hwrite) name none = some o) : (orNone c hwrite).Readable o :=
  Record.readable_of_defaulted
    (readable_nullable fun a ha => absurd ha.symm (Option.some_ne_none a)) h

theorem readable_of_ofFields (h : ofFields py body = some event) : event.Readable py := by
  unfold ofFields at h
  obtain ⟨eventId, heventId, h⟩ := Option.bind_eq_some_iff.mp h
  obtain ⟨schemaVersion, -, h⟩ := Option.bind_eq_some_iff.mp h
  obtain ⟨traceId, htraceId, h⟩ := Option.bind_eq_some_iff.mp h
  obtain ⟨parentTraceId, hparentTraceId, h⟩ := Option.bind_eq_some_iff.mp h
  obtain ⟨sessionId, -, h⟩ := Option.bind_eq_some_iff.mp h
  obtain ⟨tenantId, -, h⟩ := Option.bind_eq_some_iff.mp h
  obtain ⟨agentId, -, h⟩ := Option.bind_eq_some_iff.mp h
  obtain ⟨agentVersion, -, h⟩ := Option.bind_eq_some_iff.mp h
  obtain ⟨agentFingerprint, -, h⟩ := Option.bind_eq_some_iff.mp h
  obtain ⟨eventType, -, h⟩ := Option.bind_eq_some_iff.mp h
  obtain ⟨environment, -, h⟩ := Option.bind_eq_some_iff.mp h
  obtain ⟨timestamp, htimestamp, h⟩ := Option.bind_eq_some_iff.mp h
  obtain ⟨clientTimestamp, hclientTimestamp, h⟩ := Option.bind_eq_some_iff.mp h
  obtain ⟨sequenceNumber, -, h⟩ := Option.bind_eq_some_iff.mp h
  obtain ⟨parentEventId, hparentEventId, h⟩ := Option.bind_eq_some_iff.mp h
  obtain ⟨correlationId, -, h⟩ := Option.bind_eq_some_iff.mp h
  obtain ⟨replaySessionId, hreplaySessionId, h⟩ := Option.bind_eq_some_iff.mp h
  obtain ⟨traceparent, -, h⟩ := Option.bind_eq_some_iff.mp h
  obtain ⟨tracestate, -, h⟩ := Option.bind_eq_some_iff.mp h
  obtain ⟨payload, hpayload, h⟩ := Option.bind_eq_some_iff.mp h
  obtain ⟨rawPayload, hrawPayload, h⟩ := Option.bind_eq_some_iff.mp h
  obtain ⟨payloadHash, -, h⟩ := Option.bind_eq_some_iff.mp h
  obtain ⟨previousEventHash, -, h⟩ := Option.bind_eq_some_iff.mp h
  obtain ⟨userId, -, h⟩ := Option.bind_eq_some_iff.mp h
  obtain ⟨consentId, -, h⟩ := Option.bind_eq_some_iff.mp h
  obtain ⟨purposeId, -, h⟩ := Option.bind_eq_some_iff.mp h
  obtain ⟨sdkVersion, -, h⟩ := Option.bind_eq_some_iff.mp h
  obtain ⟨adapterId, -, h⟩ := Option.bind_eq_some_iff.mp h
  obtain ⟨tags, -, h⟩ := Option.bind_eq_some_iff.mp h
  split at h
  · cases h
    exact {
      eventId := readable_of_field heventId
      traceId := readable_of_field htraceId
      parentTraceId := readable_of_fieldOr hparentTraceId
      timestamp := readable_of_field htimestamp
      clientTimestamp := readable_of_field hclientTimestamp
      parentEventId := readable_of_fieldOr hparentEventId
      replaySessionId := readable_of_fieldOr hreplaySessionId
      payload := readable_of_field hpayload
      rawPayload := readable_of_fieldOr hrawPayload }
  · cases h

section Written
variable {α β : Type} {c : Codec Value α} {a default : α} (name : String) (i : Nat)
  (hwritten : (event.dumpMembers py)[i]? = some (member name (c.write a))) (h : c.Readable a)
  (next : α → Option β)
include hwritten h

/-- A field is read from the object as it was written, and validation goes on. -/
theorem field_bind : (field (event.object py) c name >>= next) = next a := by
  have hread : field (event.object py) c name = some a :=
    Record.required_of_written nodup_fieldNames (List.mem_of_getElem? hwritten) h
  rw [hread]
  rfl

theorem fieldOr_bind : (fieldOr (event.object py) c name default >>= next) = next a := by
  have hread : fieldOr (event.object py) c name default = some a :=
    Record.defaulted_of_written nodup_fieldNames (List.mem_of_getElem? hwritten) h
  rw [hread]
  rfl

end Written

section Readable

theorem text_readable {p : String → Bool} (hp : ∀ s, p s = true → isStripped s = true)
    (t : Checked p) : (text p).Readable t :=
  readable_checked (str_readable (hp t.val t.property))

theorem optionalText_readable {p : String → Bool} (hp : ∀ s, p s = true → isStripped s = true)
    (o : Checked (Option.all p)) : (optionalText p).Readable o :=
  readable_checked (readable_nullable fun t ht =>
    str_readable (hp t (Option.all_eq_true _ _ |>.mp o.property t ht)))

theorem isStripped_of_fits {low high : Nat} (s : String) (h : fits low high s = true) :
    isStripped s = true := by
  simp only [fits, Bool.and_eq_true] at h
  exact h.1.1

theorem isStripped_of_and {p : String → Bool} (s : String)
    (h : (isStripped s && p s) = true) : isStripped s = true := ((Bool.and_eq_true _ _).mp h).1

theorem fits_readable {low high : Nat} (t : Checked (fits low high)) :
    (text (fits low high)).Readable t := text_readable isStripped_of_fits t

theorem optionalFits_readable {low high : Nat}
    (o : Checked (Option.all (fits low high))) :
    (optionalText (fits low high)).Readable o := optionalText_readable isStripped_of_fits o

theorem optionalNatural_readable (py : Pydantic) (o : Option Nat) :
    (optionalNatural py).Readable o := by
  unfold optionalNatural orNone
  exact readable_nullable fun n _ => natural_readable py n

end Readable

/-- An event is read again from the object that is written of it. -/
theorem ofFields_object (h : event.Readable py) : ofFields py (event.object py) = some event := by
  unfold ofFields
  rw [field_bind "event_id" 0 rfl h.eventId,
    fieldOr_bind "schema_version" 1 rfl (text_readable isStripped_of_and _),
    field_bind "trace_id" 2 rfl h.traceId, fieldOr_bind "parent_trace_id" 3 rfl h.parentTraceId,
    field_bind "session_id" 4 rfl (fits_readable _),
    field_bind "tenant_id" 5 rfl (fits_readable _),
    field_bind "agent_id" 6 rfl (fits_readable _),
    field_bind "agent_version" 7 rfl (fits_readable _),
    fieldOr_bind "agent_fingerprint" 8 rfl (optionalFits_readable _),
    field_bind "event_type" 9 rfl (enumeration_readable _),
    field_bind "environment" 10 rfl (enumeration_readable _),
    field_bind "timestamp" 11 rfl h.timestamp,
    field_bind "client_timestamp" 12 rfl h.clientTimestamp,
    fieldOr_bind "sequence_number" 13 rfl (optionalNatural_readable py _),
    fieldOr_bind "parent_event_id" 14 rfl h.parentEventId,
    field_bind "correlation_id" 15 rfl (fits_readable _),
    fieldOr_bind "replay_session_id" 16 rfl h.replaySessionId,
    fieldOr_bind "traceparent" 17 rfl (optionalText_readable isStripped_of_and _),
    fieldOr_bind "tracestate" 18 rfl (optionalFits_readable _),
    field_bind "payload" 19 rfl h.payload, fieldOr_bind "raw_payload" 20 rfl h.rawPayload,
    fieldOr_bind "payload_hash" 21 rfl (optionalText_readable isStripped_of_and _),
    fieldOr_bind "previous_event_hash" 22 rfl (optionalText_readable isStripped_of_and _),
    fieldOr_bind "user_id" 23 rfl (optionalFits_readable _),
    fieldOr_bind "consent_id" 24 rfl (optionalFits_readable _),
    fieldOr_bind "purpose_id" 25 rfl (optionalFits_readable _),
    fieldOr_bind "sdk_version" 26 rfl (optionalFits_readable _),
    fieldOr_bind "adapter_id" 27 rfl (optionalFits_readable _),
    fieldOr_bind "tags" 28 rfl (tagDict_readable _)]
  exact dif_pos event.timestampOrdering

theorem modelValidate_object (h : event.Readable py) :
    modelValidate py (event.object py) = some event := by
  have hnames : ((event.object py).members.all fun m =>
      fieldNames.any fun name => m.1 = Str.ofText name) = true := by
    refine List.all_eq_true.mpr fun m hm => List.any_eq_true.mpr ?_
    have hkey : m.1 ∈ fieldNames.map Str.ofText := keys_dumpMembers py event ▸ List.mem_map_of_mem hm
    obtain ⟨name, hname, heq⟩ := List.mem_map.mp hkey
    exact ⟨name, hname, decide_eq_true heq.symm⟩
  rw [modelValidate, if_pos hnames]
  exact ofFields_object h

theorem readable_of_validated (h : modelValidate py body = some event) : event.Readable py := by
  unfold modelValidate at h
  split at h
  · exact readable_of_ofFields h
  · cases h

theorem Readable.dumped (h : event.Readable py) : event.dumped.Readable py := by
  have hraw : optionalDict.Readable (event.rawPayload.map Payload.dumped) := by
    have hread := h.rawPayload
    unfold optionalDict orNone at hread ⊢
    refine readable_nullable fun raw hraw => ?_
    obtain ⟨old, hold, rfl⟩ := Option.map_eq_some_iff.mp hraw
    rw [hold] at hread
    exact dict_readable_dumped (readable_of_nullable hread)
  exact {h with payload := dict_readable_dumped h.payload, rawPayload := hraw}

/-- What becomes of an event that is written and read again. -/
structure Survives (py : Pydantic) (event : CanonicalEvent) : Prop where
  dumps_iff : (∃ doc, event.modelDump py = .ok doc) ↔ event.dumpable = true
  reread : ∀ doc, event.modelDump py = .ok doc → modelValidate py doc = some event.dumped
  again : ∀ doc, event.modelDump py = .ok doc → event.dumped.modelDump py = .ok doc
  finite : event.hasNonFinite = false → event.dumped = event

theorem survives (h : event.Readable py) : event.Survives py where
  dumps_iff := by
    constructor
    · rintro ⟨doc, hdoc⟩
      exact (modelDump_eq_ok.mp hdoc).1
    · exact fun hdump => ⟨_, modelDump_of_dumpable hdump⟩
  reread := by
    intro doc hdoc
    rw [(modelDump_eq_ok.mp hdoc).2]
    exact modelValidate_object h.dumped
  again := by
    intro doc hdoc
    obtain ⟨hdump, rfl⟩ := modelDump_eq_ok.mp hdoc
    rw [modelDump_of_dumpable (event.dumpable_dumped.trans hdump), dumped_dumped]
  finite := dumped_of_finite

/-- A validated event survives being written and read again. -/
theorem modelValidate_survives (h : modelValidate py body = some event) : event.Survives py :=
  survives (readable_of_validated h)

end RoundTrip
end CanonicalEvent

/-- A validation library that reads three identifiers and one instant. -/
def samplePydantic : Pydantic where
  uuid
    | .str s => [1, 2, 7].find? fun u => s = Str.ofText (Text.uuid u)
    | _ => none
  datetime
    | .str s => if s = Str.ofText "2024-03-10T12:00:00Z" then some sampleNoon else none
    | _ => none
  datetimeText t := if t = sampleNoon then "2024-03-10T12:00:00Z" else Text.isoformat t
  int
    | .int z => some z
    | _ => none
  errors _ := .arr []
  uuid_stable := by
    intro d u h
    cases d with
    | str s =>
      have hread : ∀ u ∈ [1, 2, 7], ([1, 2, 7].find? fun v =>
          Str.ofText (Text.uuid u) = Str.ofText (Text.uuid v)) = some u := by decide +kernel
      exact hread u (List.mem_of_find?_eq_some h)
    | null | bool b | int z | float f | arr items | obj members => cases h
  datetime_stable := by
    intro d t h
    cases d with
    | str s =>
      dsimp only at h
      split at h
      · cases h
        decide +kernel
      · cases h
    | null | bool b | int z | float f | arr items | obj members => cases h
  int_int := fun _ => rfl

/-- An object with a session to strip, and a payload with a `NaN`. -/
def sampleObjectSent : Payload where
  members := [member "event_id" (textValue (Text.uuid 1)),
    member "trace_id" (textValue (Text.uuid 7)), member "session_id" (textValue " s1 "),
    member "tenant_id" (textValue "acme"), member "agent_id" (textValue "a1"),
    member "agent_version" (textValue "1.0.0"), member "event_type" (textValue "agent_started"),
    member "environment" (textValue "dev"), member "timestamp" (textValue "2024-03-10T12:00:00Z"),
    member "client_timestamp" (textValue "2024-03-10T12:00:00Z"),
    member "correlation_id" (textValue "c1"),
    member "payload" (.obj [member " scores " (.arr [.float ⟨Str.ofText "NaN", by decide, by decide⟩]),
      member "run" (.obj [member "turn" (.int 1)])])]
  distinct := by decide +kernel

theorem CanonicalEvent.modelValidate_survives_sample : ∃ event : CanonicalEvent,
    event.Survives samplePydantic ∧ event.hasNonFinite = true ∧ event.sessionId = "s1" := by
  have hread : ((modelValidate samplePydantic sampleObjectSent).any fun event =>
      event.hasNonFinite && event.sessionId = "s1") = true := by decide +kernel
  obtain ⟨event, hevent, hboth⟩ := (Option.any_eq_true _ _).mp hread
  rw [Bool.and_eq_true, decide_eq_true_iff] at hboth
  exact ⟨event, modelValidate_survives hevent, hboth⟩

end Dox
