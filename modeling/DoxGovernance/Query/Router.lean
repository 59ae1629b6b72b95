import DoxGovernance.Gateway.Responses
import DoxGovernance.Query.Service

/-!
# The query routes

Events are listed and verified for the tenant that the request names; a single event is
named by its identifier alone. The event type and the environment arrive as strings.
-/

set_option autoImplicit false

namespace Dox

structure EventListRequest where
  tenantId : String
  agentId : Option String := none
  eventType : Option String := none
  environment : Option String := none
  sessionId : Option String := none
  query : PageQuery 500

inductive QueryRequest where
  | listEvents (request : EventListRequest)
  | getEvent (eventId : Uuid)
  | verifyIntegrity (tenantId : String) (query : PageQuery 10000)

/-- `Enum(value) if value else None`. -/
def enumOf {α : Type} (name : String) (ofValue? : String → Option α) :
    Option String → Except Exc (Option α)
  | none => .ok none
  | some value =>
    if value = "" then .ok none
    else match ofValue? value with
      | some a => .ok (some a)
      | none => .error (.valueError (Text.repr value ++ (" is not a valid " ++ name)))

namespace EventListRequest

def filters (request : EventListRequest) : Except Exc EventFilter := do
  let eventType ← enumOf "EventType" EventType.ofValue? request.eventType
  let environment ← enumOf "Environment" Environment.ofValue? request.environment
  return {
    tenantId := request.tenantId
    agentId := request.agentId
    eventType := eventType
    environment := environment
    sessionId := request.sessionId
    limit := request.query.limit
    offset := request.query.offset
    limitBounds := request.query.limitBounds }

theorem filters_tenantId {request : EventListRequest} {filters : EventFilter}
    (h : request.filters = .ok filters) : filters.tenantId = request.tenantId := by
  unfold EventListRequest.filters at h
  cases htype : enumOf "EventType" EventType.ofValue? request.eventType with
  | error e => rw [htype] at h; cases h
  | ok eventType =>
    rw [htype] at h
    cases henv : enumOf "Environment" Environment.ofValue? request.environment with
    | error e => rw [henv] at h; cases h
    | ok environment =>
      rw [henv] at h
      cases h
      rfl

end EventListRequest

namespace QueryRequest
open Exposure

def target : QueryRequest → Target
  | listEvents request => .tenants [request.tenantId]
  | getEvent eventId => .event eventId
  | verifyIntegrity tenantId _ => .tenants [tenantId]

def handle (sha256 : ByteArray → String) (scan : Scan EventRecord) :
    QueryRequest → Service Body
  | listEvents request =>
    match request.filters with
    | .error e => Effect.raise e
    | .ok filters => do
      let events ← EventQueryService.listEvents scan filters
      let total ← EventQueryService.countEvents filters
      return .events ⟨⟨events.map .ofRecord, total⟩, filters.limit, filters.offset⟩
  | getEvent eventId => do
    return .event (.ofRecord (← orNotFound "Event not found" (EventQueryService.getEvent eventId)))
  | verifyIntegrity tenantId query => do
    return .integrity (← EventQueryService.verifyIntegrity sha256 scan tenantId query.limit)

section Answers
variable (scan : Scan EventRecord)

theorem listEvents_concerns (filters : EventFilter) :
    exposure.Concerns (Target.tenants [filters.tenantId]).Names
      (fun rs => (rs.map EventSummary.ofRecord).map .event)
      (EventQueryService.listEvents scan filters) := by
  apply Concerns.gets
  intro w
  rw [List.map_map]
  apply shown_map Row.event
  intro r hr
  obtain ⟨hmem, hkeeps⟩ := Table.mem_select.mp ((mem_orderByDesc _).mp (mem_of_mem_page hr))
  simp only [EventFilter.keeps, Bool.and_eq_true, decide_eq_true_eq] at hkeeps
  exact ⟨hmem, List.mem_singleton.mpr hkeeps.1.1.1.1.1.1, rfl⟩

theorem getEvent_concerns (eventId : Uuid) :
    exposure.Concerns (Target.event eventId).Names (fun r => [.event (.ofRecord r)])
      (EventQueryService.getEvent eventId) := by
  apply Concerns.lookup (EventQueryService.getEvent_finds eventId)
  intro w r hfind
  exact shown_one (.event r) (Table.mem_of_find? hfind) (Table.key_of_find? hfind) rfl

variable (sha256 : ByteArray → String)

theorem shows_verdict {record : EventRecord} {verdict : RecordIntegrity}
    (h : checkRecord sha256 record = .ok verdict) :
    (Row.event record).Shows (.integrity verdict) := by
  unfold checkRecord at h
  cases hdigest : computePayloadHash pyFloat sha256 record.payload.json with
  | error e => rw [hdigest] at h; cases h
  | ok computed =>
    rw [hdigest] at h
    cases h
    exact ⟨rfl, rfl, rfl⟩

theorem verifyIntegrity_concerns (tenantId : String) (limit : Nat) :
    exposure.Concerns (Target.tenants [tenantId]).Names (fun report => report.records.map .integrity)
      (EventQueryService.verifyIntegrity sha256 scan tenantId limit) := by
  intro w
  rw [EventQueryService.verifyIntegrity, Effect.bind_ok (Effect.gets_run _ w)]
  cases hreport : verifyTenantIntegrity sha256 (page 0 limit (orderByAsc (·.timestamp)
      (w.events.select scan fun r => r.tenantId = tenantId))) with
  | error e => exact ⟨Confined.refl w, fun _ h => nomatch h⟩
  | ok report =>
    refine ⟨Confined.refl w, fun a ha item hitem => ?_⟩
    cases ha
    obtain ⟨verdict, hverdict, rfl⟩ := List.mem_map.mp hitem
    obtain ⟨r, hr, hcheck⟩ := checkRecord_of_verdict hreport hverdict
    obtain ⟨hmem, htenant⟩ := Table.mem_select.mp ((mem_orderByAsc _).mp (mem_of_mem_page hr))
    exact ⟨.event r, hmem, List.mem_singleton.mpr (of_decide_eq_true htenant),
      shows_verdict sha256 hcheck⟩

theorem answers (request : QueryRequest) : Answers request.target (request.handle sha256 scan) := by
  cases request with
  | listEvents request =>
    dsimp only [handle]
    cases hfilters : request.filters with
    | error e => exact Concerns.raise e
    | ok filters =>
      intro w
      obtain ⟨_, hshown⟩ := listEvents_concerns scan filters w
      rw [EventListRequest.filters_tenantId hfilters] at hshown
      refine ⟨Confined.refl w, fun body hbody => ?_⟩
      cases hbody
      exact hshown _ rfl
  | getEvent eventId => exact Concerns.map (Concerns.rethrow (getEvent_concerns eventId))
  | verifyIntegrity tenantId query =>
    exact Concerns.map (verifyIntegrity_concerns scan sha256 tenantId _)

end Answers

end QueryRequest
end Dox
