import DoxGovernance.Lib.Effect
import DoxGovernance.Schemas.Fields

/-!
# The event builder of the SDK

A builder numbers the events of one session. A method passes an event type and a payload to
`_build`, which takes the next number and then validates the event: a call that is refused
has used up a number. The numbers of the events that are returned always increase, and they
have no gap exactly when nothing is accepted after a call that was refused.
-/

set_option autoImplicit false
set_option maxRecDepth 4096

namespace Dox

/-- A value of a payload: no object in it lists a key twice. -/
structure PyValue where
  value : Value
  distinct : value.distinctKeys = true := by decide

/-- The arguments collected by `**payload`, none of which is a parameter of the method. -/
structure Kwargs (parameters : List String) where
  payload : Payload
  fresh : ∀ m ∈ payload.members, m.1 ∉ parameters.map Str.ofText := by decide

/-- What a method passes to `_build`: the payload is none where it is an object other than a
dictionary with strings as keys. -/
structure EventCall where
  eventType : Str
  payload : Option Payload

structure EventBuilder where
  tenantId : Str
  agentId : Str
  agentVersion : Str
  environment : Str
  sessionId : Str
  traceId : Uuid
  sequence : Nat

/-- What a call draws: the time and two identifiers. -/
structure Draw where
  now : Datetime
  eventId : Uuid
  correlationId : Uuid

/-- The fields of the schema that are refused. -/
structure ValidationError where
  fields : List String
deriving DecidableEq

namespace EventBuilder

def sdkVersion : String := "0.1.0"

theorem sdkVersion_fits : (some sdkVersion).all (fits 0 50) = true := by decide

/-- `EventBuilder(...)`, where `uuid4` draws the last two arguments. -/
def init (tenantId agentId agentVersion environment : Str) (sessionId : Option Str)
    (sessionUuid traceId : Uuid) : EventBuilder where
  tenantId := tenantId
  agentId := agentId
  agentVersion := agentVersion
  environment := environment
  sessionId :=
    match sessionId with
    | none | some [] => Str.ofText (Text.uuid sessionUuid)
    | some id => id
  traceId := traceId
  sequence := 0

/-! ### Validation -/

variable (self : EventBuilder) (call : EventCall)

/-- `CanonicalEvent(...)`, where nothing is refused. -/
def canonicalEvent? (draw : Draw) (sequenceNumber : Nat) : Option CanonicalEvent := do
  let sessionId ← textField 1 255 self.sessionId
  let tenantId ← textField 1 255 self.tenantId
  let agentId ← textField 1 255 self.agentId
  let agentVersion ← textField 1 100 self.agentVersion
  let eventType ← enumField EventType.ofValue? call.eventType
  let environment ← enumField Environment.ofValue? self.environment
  let payload ← call.payload.bind dictField
  let required := CanonicalEvent.ofRequired draw.eventId self.traceId sessionId.val tenantId.val
    agentId.val agentVersion.val eventType environment draw.now draw.now
    (Text.uuid draw.correlationId) payload sessionId.property tenantId.property agentId.property
    agentVersion.property (fits_uuid draw.correlationId) (Nat.le_add_left _ _)
  return {required with
    sequenceNumber := some sequenceNumber
    sdkVersion := some sdkVersion
    sdkVersionFits := sdkVersion_fits}

/-- The fields with whether their values pass. -/
def checks : List (String × Bool) :=
  [("session_id", (textField 1 255 self.sessionId).isSome),
    ("tenant_id", (textField 1 255 self.tenantId).isSome),
    ("agent_id", (textField 1 255 self.agentId).isSome),
    ("agent_version", (textField 1 100 self.agentVersion).isSome),
    ("event_type", (enumField EventType.ofValue? call.eventType).isSome),
    ("environment", (enumField Environment.ofValue? self.environment).isSome),
    ("payload", (call.payload.bind dictField).isSome)]

def accepts : Bool := (self.checks call).all Prod.snd

def refused : List String := ((self.checks call).filter fun check => !check.2).map Prod.fst

theorem canonicalEvent?_isSome (draw : Draw) (n : Nat) :
    (self.canonicalEvent? call draw n).isSome = self.accepts call := by
  unfold canonicalEvent? accepts checks
  cases textField 1 255 self.sessionId <;> try rfl
  cases textField 1 255 self.tenantId <;> try rfl
  cases textField 1 255 self.agentId <;> try rfl
  cases textField 1 100 self.agentVersion <;> try rfl
  cases enumField EventType.ofValue? call.eventType <;> try rfl
  cases enumField Environment.ofValue? self.environment <;> try rfl
  cases call.payload.bind dictField <;> rfl

/-! ### The methods -/

/-- `_next_sequence`. -/
def nextSequence : Effect EventBuilder ValidationError Nat :=
  Effect.change fun self => (self.sequence + 1, {self with sequence := self.sequence + 1})

/-- `_build`. The number is taken before the event is validated. -/
def build (call : EventCall) (draw : Draw) : Effect EventBuilder ValidationError CanonicalEvent := do
  let self ← Effect.gets id
  let sequenceNumber ← nextSequence
  match self.canonicalEvent? call draw sequenceNumber with
  | some event => return event
  | none => Effect.raise ⟨self.refused call⟩

section Methods
variable (eventType : String) (names : List String) (values : List PyValue)
  (kwargs : Kwargs ("self" :: names))

/-- A method for one event type, with named parameters, which come before the further arguments
of the payload. -/
def method (hnames : (names.map Str.ofText).Nodup := by decide)
    (hlength : names.length = values.length := by rfl)
    (_hknown : (enumField EventType.ofValue? (Str.ofText eventType)).isSome = true := by decide) :
    EventCall where
  eventType := Str.ofText eventType
  payload := some {
    members := (names.map Str.ofText).zip (values.map PyValue.value) ++ kwargs.payload.members
    distinct := by
      have hkeys : ((names.map Str.ofText).zip (values.map PyValue.value)).map Prod.fst =
          names.map Str.ofText := List.map_fst_zip (by simp [hlength])
      obtain ⟨hnodup, hvalues⟩ := (Json.distinctKeys_obj _).mp kwargs.payload.distinct
      rw [Json.distinctKeys_obj, List.map_append, hkeys]
      refine ⟨hnames.append hnodup ?_, fun m hm => ?_⟩
      · intro key hkey hmem
        obtain ⟨m, hm, rfl⟩ := List.mem_map.mp hmem
        exact kwargs.fresh m hm (List.mem_cons_of_mem _ hkey)
      · rcases List.mem_append.mp hm with hnamed | hfurther
        · obtain ⟨v, _, hv⟩ := List.mem_map.mp (List.of_mem_zip hnamed).2
          exact hv ▸ v.distinct
        · exact hvalues m hfurther }

end Methods

def agentStarted (payload : Kwargs ["self"]) : EventCall := method "agent_started" [] [] payload

def agentCompleted (payload : Kwargs ["self"]) : EventCall := method "agent_completed" [] [] payload

def agentFailed (error : PyValue) (payload : Kwargs ["self", "error"]) : EventCall :=
  method "agent_failed" ["error"] [error] payload

def agentPaused (payload : Kwargs ["self", "reason"])
    (reason : PyValue := {value := textValue ""}) : EventCall :=
  method "agent_paused" ["reason"] [reason] payload

def toolCallStarted (toolName inputs : PyValue)
    (payload : Kwargs ["self", "tool_name", "inputs"]) : EventCall :=
  method "tool_call_started" ["tool_name", "inputs"] [toolName, inputs] payload

def toolCallCompleted (toolName output : PyValue)
    (payload : Kwargs ["self", "tool_name", "output"]) : EventCall :=
  method "tool_call_completed" ["tool_name", "output"] [toolName, output] payload

def toolCallFailed (toolName error : PyValue)
    (payload : Kwargs ["self", "tool_name", "error"]) : EventCall :=
  method "tool_call_failed" ["tool_name", "error"] [toolName, error] payload

def toolCallBlocked (toolName reason : PyValue)
    (payload : Kwargs ["self", "tool_name", "reason"]) : EventCall :=
  method "tool_call_blocked" ["tool_name", "reason"] [toolName, reason] payload

def modelCalled (model promptTokens : PyValue)
    (payload : Kwargs ["self", "model", "prompt_tokens"]) : EventCall :=
  method "model_called" ["model", "prompt_tokens"] [model, promptTokens] payload

def modelResponseReceived (model completionTokens : PyValue)
    (payload : Kwargs ["self", "model", "completion_tokens"]) : EventCall :=
  method "model_response_received" ["model", "completion_tokens"] [model, completionTokens] payload

def memoryRead (key : PyValue) (payload : Kwargs ["self", "key"]) : EventCall :=
  method "memory_read" ["key"] [key] payload

def memoryWriteRequested (key : PyValue) (payload : Kwargs ["self", "key"]) : EventCall :=
  method "memory_write_requested" ["key"] [key] payload

def memoryWriteApproved (key : PyValue) (payload : Kwargs ["self", "key"]) : EventCall :=
  method "memory_write_approved" ["key"] [key] payload

def memoryWriteBlocked (key reason : PyValue)
    (payload : Kwargs ["self", "key", "reason"]) : EventCall :=
  method "memory_write_blocked" ["key", "reason"] [key, reason] payload

/-- `custom` passes its arguments on, so that every call is one of `custom`. -/
def custom (eventType : Str) (payload : Option Payload) : EventCall := ⟨eventType, payload⟩

/-- A call with what it draws. -/
structure Emission where
  call : EventCall
  draw : Draw

def emit (emission : Emission) : Effect EventBuilder ValidationError CanonicalEvent :=
  build emission.call emission.draw

/-- The events that a sequence of calls returns. -/
def returned (emissions : List Emission) : List CanonicalEvent :=
  (Effect.outcomes emit emissions self).filterMap Except.toOption

/-- The builder after a call, whether the event was refused or not. -/
def advance : EventBuilder := {self with sequence := self.sequence + 1}

@[simp] theorem accepts_advance : self.advance.accepts call = self.accepts call := rfl

@[simp] theorem sequence_advance : self.advance.sequence = self.sequence + 1 := rfl

theorem canonicalEvent?_spec {self : EventBuilder} {call : EventCall} {draw : Draw} {n : Nat}
    {event : CanonicalEvent} (h : self.canonicalEvent? call draw n = some event) :
    event.sequenceNumber = some n ∧ event.timestamp = draw.now := by
  simp only [canonicalEvent?, Option.bind_eq_bind, Option.bind_eq_some_iff, Option.pure_def] at h
  obtain ⟨_, -, _, -, _, -, _, -, _, -, _, -, _, -, hevent⟩ := h
  cases hevent
  exact ⟨rfl, rfl⟩

section Emit
variable {self} {emission : Emission}

theorem emit_accepted (h : self.accepts emission.call = true) :
    ∃ event, emit emission self = (.ok event, self.advance) ∧
      event.sequenceNumber = some (self.sequence + 1) ∧ event.timestamp = emission.draw.now := by
  rw [← canonicalEvent?_isSome self emission.call emission.draw (self.sequence + 1)] at h
  obtain ⟨event, hevent⟩ := Option.isSome_iff_exists.mp h
  refine ⟨event, ?_, canonicalEvent?_spec hevent⟩
  simp only [emit, build, nextSequence, Effect.bind_run, Effect.gets_run, Effect.change_run, id,
    hevent, Effect.pure_run]
  rfl

theorem emit_refused (h : self.accepts emission.call = false) :
    emit emission self = (.error ⟨self.refused emission.call⟩, self.advance) := by
  rw [← canonicalEvent?_isSome self emission.call emission.draw (self.sequence + 1),
    Option.isSome_eq_false_iff, Option.isNone_iff_eq_none] at h
  simp only [emit, build, nextSequence, Effect.bind_run, Effect.gets_run, Effect.change_run, id,
    h, Effect.raise_run]
  rfl

theorem returned_nil : self.returned [] = [] := rfl

theorem returned_accepted (h : self.accepts emission.call = true) (emissions : List Emission) :
    ∃ event, self.returned (emission :: emissions) = event :: self.advance.returned emissions ∧
      event.sequenceNumber = some (self.sequence + 1) ∧ event.timestamp = emission.draw.now := by
  obtain ⟨event, hrun, hevent⟩ := emit_accepted h
  refine ⟨event, ?_, hevent⟩
  rw [returned, Effect.outcomes, hrun]
  rfl

theorem returned_refused (h : self.accepts emission.call = false) (emissions : List Emission) :
    self.returned (emission :: emissions) = self.advance.returned emissions := by
  rw [returned, Effect.outcomes, emit_refused h]
  rfl

theorem returned_eq_nil_iff {emissions : List Emission} :
    self.returned emissions = [] ↔ ∀ e ∈ emissions, self.accepts e.call = false := by
  induction emissions generalizing self with
  | nil => simp [returned_nil]
  | cons emission emissions ih =>
    rw [List.forall_mem_cons]
    cases haccepts : self.accepts emission.call with
    | true =>
      obtain ⟨event, hreturned, -⟩ := returned_accepted haccepts emissions
      rw [hreturned]
      simp
    | false =>
      rw [returned_refused haccepts, ih]
      simp

/-! ### The numbers of the returned events -/

/-- Every returned event carries a number that was not used before. -/
theorem number_of_mem {emissions : List Emission} {event : CanonicalEvent}
    (h : event ∈ self.returned emissions) :
    ∃ n, event.sequenceNumber = some n ∧ self.sequence < n := by
  induction emissions generalizing self with
  | nil => cases h
  | cons emission emissions ih =>
    have hlater : event ∈ self.advance.returned emissions →
        ∃ n, event.sequenceNumber = some n ∧ self.sequence < n := by
      intro hmem
      obtain ⟨n, hn, hlt⟩ := ih hmem
      exact ⟨n, hn, Nat.lt_of_succ_lt hlt⟩
    cases haccepts : self.accepts emission.call with
    | true =>
      obtain ⟨first, hreturned, hnumber, -⟩ := returned_accepted haccepts emissions
      rw [hreturned] at h
      rcases List.mem_cons.mp h with rfl | hmem
      · exact ⟨_, hnumber, Nat.lt_succ_self _⟩
      · exact hlater hmem
    | false =>
      rw [returned_refused haccepts] at h
      exact hlater h

/-- The first event carries the smaller number. -/
def Precedes (a b : CanonicalEvent) : Prop :=
  ∃ m n, a.sequenceNumber = some m ∧ b.sequenceNumber = some n ∧ m < n

/-- No number is given twice, and a later event has a larger one. -/
theorem returned_increasing (emissions : List Emission) :
    (self.returned emissions).Pairwise Precedes := by
  induction emissions generalizing self with
  | nil => exact List.Pairwise.nil
  | cons emission emissions ih =>
    cases haccepts : self.accepts emission.call with
    | true =>
      obtain ⟨event, hreturned, hnumber, -⟩ := returned_accepted haccepts emissions
      rw [hreturned, List.pairwise_cons]
      refine ⟨fun later hlater => ?_, ih⟩
      obtain ⟨n, hn, hlt⟩ := number_of_mem hlater
      exact ⟨_, n, hnumber, hn, hlt⟩
    | false =>
      rw [returned_refused haccepts]
      exact ih

/-- The returned events are numbered without a gap after the last number used. -/
def Dense (self : EventBuilder) (emissions : List Emission) : Prop :=
  (self.returned emissions).map CanonicalEvent.sequenceNumber =
    (List.range' (self.sequence + 1) (self.returned emissions).length).map some

theorem dense_accepted {emissions : List Emission} (h : self.accepts emission.call = true) :
    self.Dense (emission :: emissions) ↔ self.advance.Dense emissions := by
  obtain ⟨event, hreturned, hnumber, -⟩ := returned_accepted h emissions
  rw [Dense, hreturned, List.map_cons, hnumber, List.length_cons, List.range'_succ, List.map_cons,
    List.cons.injEq]
  exact ⟨fun heq => heq.2, fun heq => ⟨rfl, heq⟩⟩

/-- After a refused call there is a gap as soon as an event is returned. -/
theorem dense_refused {emissions : List Emission} (h : self.accepts emission.call = false) :
    self.Dense (emission :: emissions) ↔ self.advance.returned emissions = [] := by
  rw [Dense, returned_refused h]
  constructor
  · intro hdense
    cases hreturned : self.advance.returned emissions with
    | nil => rfl
    | cons event events =>
      have hmem : event ∈ self.advance.returned emissions := by
        rw [hreturned]
        exact List.mem_cons_self
      obtain ⟨n, hn, hlt⟩ := number_of_mem hmem
      rw [hreturned, List.map_cons, List.length_cons, List.range'_succ, List.map_cons, hn] at hdense
      have hfirst : n = self.sequence + 1 := Option.some.inj (List.cons.inj hdense).1
      rw [sequence_advance] at hlt
      omega
  · intro hnil
    rw [hnil]
    rfl

theorem dense_iff {emissions : List Emission} :
    self.Dense emissions ↔
      emissions.Pairwise fun e f => self.accepts f.call = true → self.accepts e.call = true := by
  induction emissions generalizing self with
  | nil => simp [Dense, returned_nil]
  | cons emission emissions ih =>
    rw [List.pairwise_cons]
    cases haccepts : self.accepts emission.call with
    | true =>
      rw [dense_accepted haccepts, ih]
      exact ⟨fun h => ⟨fun _ _ _ => rfl, h⟩, fun h => h.2⟩
    | false =>
      rw [dense_refused haccepts, returned_eq_nil_iff]
      constructor
      · intro hnone
        have hrefused : ∀ f ∈ emissions, self.accepts f.call = true → false = true :=
          fun f hf haccepted => (hnone f hf).symm.trans haccepted
        refine ⟨hrefused, List.pairwise_of_forall_mem_list fun e _ f hf haccepted => ?_⟩
        exact absurd (hrefused f hf haccepted) Bool.false_ne_true
      · intro h f hf
        exact Bool.eq_false_iff.mpr fun haccepted => Bool.false_ne_true (h.1 f hf haccepted)

end Emit

end EventBuilder

/-- The events that a new builder returns are numbered 1, 2, and so on without a gap exactly when
no call is accepted after one that was refused. -/
theorem EventBuilder.sequence_dense_iff (tenantId agentId agentVersion environment : Str)
    (sessionId : Option Str) (sessionUuid traceId : Uuid) (emissions : List Emission) :
    let builder := init tenantId agentId agentVersion environment sessionId sessionUuid traceId
    (builder.returned emissions).map CanonicalEvent.sequenceNumber =
        (List.range' 1 (builder.returned emissions).length).map some ↔
      emissions.Pairwise fun e f =>
        builder.accepts f.call = true → builder.accepts e.call = true :=
  dense_iff

def sampleBuilder : EventBuilder :=
  .init (Str.ofText "acme") (Str.ofText "a1") (Str.ofText "1.0.0") (Str.ofText "dev")
    (some (Str.ofText "s1")) 5 7

def sampleDraw (id : Uuid) : Draw := ⟨sampleNoon, id, id⟩

def noArguments : Kwargs ["self"] := {payload := ∅}

/-- A refused custom call and the start of the agent. -/
def sampleGap : List EventBuilder.Emission :=
  [⟨EventBuilder.custom (Str.ofText "no_such_type") (some ∅), sampleDraw 1⟩,
    ⟨EventBuilder.agentStarted noArguments, sampleDraw 2⟩]

/-- The only event returned has number 2. -/
theorem EventBuilder.refused_call_leaves_gap :
    (sampleBuilder.returned sampleGap).map CanonicalEvent.sequenceNumber = [some 2] ∧
    (sampleBuilder.returned sampleGap).map CanonicalEvent.sequenceNumber ≠
      (List.range' 1 (sampleBuilder.returned sampleGap).length).map some := by
  decide

end Dox
