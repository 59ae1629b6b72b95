import DoxGovernance.Schemas.Wire
import DoxGovernance.Sdk.Client
import DoxGovernance.System.Answers

/-!
# The ingestion routes over HTTP

The dependencies of a route come before its body: a post is refused for its token, or fails because
the gateway is not set up, before a body that validation refuses is answered 422. Any other body is
the request of the route. The object that is written of an event is always let through.
-/

set_option autoImplicit false
set_option maxRecDepth 4096

namespace Dox
open Wire

/-! ### Bodies -/

/-- The object that is sent: a document, or the documents of a batch as `events`. -/
def RequestBody.json : RequestBody Payload → Payload
  | .event doc => doc
  | .events docs => {
      members := [member "events" (.arr (docs.map Payload.json))]
      distinct := by
        rw [Json.distinctKeys_obj]
        refine ⟨List.nodup_singleton _, fun m hm => ?_⟩
        rw [List.mem_singleton.mp hm, member, Json.distinctKeys_arr]
        intro d hd
        obtain ⟨doc, -, rfl⟩ := List.mem_map.mp hd
        exact doc.distinctKeys }

def readEvent (py : Pydantic) (d : Value) : Option CanonicalEvent :=
  (asObject d).bind (CanonicalEvent.modelValidate py)

/-- `BatchIngestRequest.model_validate`, where nothing is refused; fields of other names are
ignored. -/
def BatchIngestRequest.modelValidate (py : Pydantic) (body : Payload) :
    Option BatchIngestRequest :=
  match Record.get? (Str.ofText "events") body.members with
  | some (.arr items) =>
    (items.mapM (readEvent py)).bind fun events =>
      if h : 1 ≤ events.length ∧ events.length ≤ 100 then some ⟨events, h⟩ else none
  | _ => none

section Bodies
variable {py : Pydantic} {events : List CanonicalEvent}

theorem readEvent_object {event : CanonicalEvent} (h : event.Readable py) :
    readEvent py (event.object py).json = some event := by
  rw [readEvent, asObject_json, Option.bind_some, CanonicalEvent.modelValidate_object h]

theorem mapM_readEvent (h : ∀ event ∈ events, event.Readable py) :
    ((events.map (CanonicalEvent.object py)).map Payload.json).mapM (readEvent py) =
      some events := by
  induction events with
  | nil => rfl
  | cons event rest ih =>
    rw [List.forall_mem_cons] at h
    rw [List.map_cons, List.map_cons, List.mapM_cons, readEvent_object h.1, ih h.2]
    rfl

/-- The events of a batch arrive as they were written, unless they are too many. -/
theorem BatchIngestRequest.modelValidate_events (h : ∀ event ∈ events, event.Readable py) :
    modelValidate py (RequestBody.events (events.map (CanonicalEvent.object py))).json =
      if h : 1 ≤ events.length ∧ events.length ≤ 100 then some ⟨events, h⟩ else none := by
  have hget : Record.get? (Str.ofText "events")
      (RequestBody.events (events.map (CanonicalEvent.object py))).json.members =
        some (.arr ((events.map (CanonicalEvent.object py)).map Payload.json)) :=
    Record.get?_of_mem (List.nodup_singleton _) List.mem_cons_self
  rw [modelValidate, hget]
  dsimp only
  rw [mapM_readEvent h, Option.bind_some]

end Bodies

/-! ### Answers -/

/-- `HTTPBearer(auto_error=False)`. -/
def bearerToken (headers : List (String × String)) : Option String := do
  let authorization ← Record.get? "Authorization" headers
  let scheme := authorization.toList.takeWhile (· ≠ ' ')
  let credentials := (authorization.toList.dropWhile (· ≠ ' ')).drop 1
  if scheme.map Char.toLower = "bearer".toList ∧ credentials ≠ [] then
    return String.ofList credentials
  else none

section Separator
variable {before after : List Char} {c : Char} (h : c ∉ before)
include h

end Separator

def IngestResponse.modelDump (py : Pydantic) (response : IngestResponse) : Payload :=
  Payload.ofScalars ["event_id", "received_at", "status"]
    [.text (Text.uuid response.eventId), .text (py.datetimeText response.receivedAt),
      .text response.status]

def BatchIngestResponse.modelDump (response : BatchIngestResponse) : Payload where
  members :=
    [member "accepted" (.int response.accepted), member "rejected" (.int response.rejected),
      member "event_ids" (.arr (response.eventIds.map fun id => textValue (Text.uuid id)))]
  distinct := by
    rw [Json.distinctKeys_obj]
    refine ⟨(by decide : (["accepted", "rejected", "event_ids"].map Str.ofText).Nodup), ?_⟩
    simp only [List.forall_mem_cons]
    refine ⟨rfl, rfl, (Json.distinctKeys_arr _).mpr fun d hd => ?_,
      fun m hm => absurd hm List.not_mem_nil⟩
    obtain ⟨id, -, rfl⟩ := List.mem_map.mp hd
    rfl

def decodeError : PyException :=
  .printable "JSONDecodeError" "Expecting value: line 1 column 1 (char 0)"

/-- An answer as the client gets it. No ingestion route answers with another body than its own
two. -/
def Answer.response (py : Pydantic) (answer : Answer) : HttpResponse Value where
  statusCode := .ok answer.status
  json :=
    match answer.content with
    | .inl (.ingest response) => .ok (response.modelDump py).json
    | .inl (.ingestBatch response) => .ok response.modelDump.json
    | .inr (.json members) => .ok (.obj (members.map fun m => member m.1 (textValue m.2)))
    | .inl _ | .inr (.text _) => .error decodeError

namespace Gateway
variable (gateway : Gateway) (py : Pydantic) (outage : Outage)

def failed (e : Exc) : HttpResponse Value :=
  Answer.response py ⟨e.response.status, .inr e.response.content⟩

/-- The answer to a body that validation refuses. -/
def refuse (token : Option String) (time : Datetime) (body : Payload) : HttpResponse Value :=
  match getCurrentUser (gateway.jwt time) token with
  | .error e => failed py e
  | .ok payload =>
    match requireRole [.agent, .operator, .admin] payload with
    | .error e => failed py e
    | .ok _ =>
      if !gateway.database then
        failed py (.outage "Database not initialised — call init_db() first")
      else if !gateway.registry then
        failed py (.outage "'State' object has no attribute 'registry'")
      else {statusCode := .ok 422, json := .ok (.obj [member "detail" (py.errors body)])}

/-- The answer to a body with the request that it validates to, or none. -/
def answerBody (token : Option String) (body : Payload) (parsed : Option IngestionRequest)
    (w : World) : HttpResponse Value × World :=
  match parsed with
  | none => (gateway.refuse py token w.clock body, w)
  | some r =>
    let answered := gateway.respond {token, route := .ingestion r, outage} w
    (answered.1.response py, answered.2)

/-- A post to the gateway at a URL. -/
def receive (root : String) (request : HttpRequest Payload) (w : World) :
    HttpResponse Value × World :=
  let body := request.json.json
  let token := bearerToken request.headers
  if request.url = root ++ "/v1/events" then
    gateway.answerBody py outage token body
      ((CanonicalEvent.modelValidate py body).map .ingestEvent) w
  else if request.url = root ++ "/v1/events/batch" then
    gateway.answerBody py outage token body
      ((BatchIngestRequest.modelValidate py body).map .ingestBatch) w
  else ({statusCode := .ok 404, json := .ok (.obj [member "detail" (textValue "Not Found")])}, w)

end Gateway

/-! ### What a post leaves -/

/-- The events have come in, each as a record that describes it. -/
def Appended (sha256 : ByteArray → String) (events : List CanonicalEvent) (w w' : World) : Prop :=
  ∃ records, List.Forall₂ (EventRecord.Describes sha256) records events ∧
    w'.events.rows = w.events.rows ++ records

namespace IngestionService
variable {service : IngestionService}

/-- The events are stored, all or none of them: all when the call returns its records, none when it
raises another exception than a server error. -/
structure Submitted (service : IngestionService) (sha256 : ByteArray → String) (outage : Outage)
    (events : List CanonicalEvent) (w : World) (result : Except Exc (List EventRecord))
    (w' : World) : Prop where
  whole : w'.events.rows = w.events.rows ∨ Appended sha256 events w w'
  returned : ∀ records, result = .ok records →
    List.Forall₂ (EventRecord.Describes sha256) records events ∧
      w'.events.rows = w.events.rows ++ records
  returns_iff : (∃ records, result = .ok records) ↔
    service.Admissible w.clock.date w events ∧ service.Undisturbed outage events
  raised : ∀ e, result = .error e → e.response.status = 500 ∨
    e.response.status = 429 ∧ w'.events.rows = w.events.rows

theorem submit_submitted (sha256 : ByteArray → String) (outage : Outage) (metric : Metric)
    (events : List CanonicalEvent) (w : World) : service.Submitted sha256 outage events w
      (service.submit sha256 outage metric events w).1
      (service.submit sha256 outage metric events w).2 := by
  by_cases hadmissible : service.Admissible w.clock.date w events
  · obtain ⟨w', records, haccept, hdescribes, hrows, -⟩ := accept_spec sha256 rfl hadmissible
    obtain ⟨w'', hannounce, hannounced⟩ := announce_eq service outage metric events w'
    obtain ⟨bus, alerts, metrics, rfl⟩ := hannounced.rest
    rw [submit, Effect.bind_ok haccept, Effect.bind_run, hannounce]
    cases hfault : service.announceFault outage events with
    | none =>
      exact {
        whole := Or.inr ⟨records, hdescribes, hrows⟩
        returned := fun rs hrs => by cases hrs; exact ⟨hdescribes, hrows⟩
        returns_iff := iff_of_true ⟨records, rfl⟩
          ⟨hadmissible, announceFault_eq_none.mp hfault⟩
        raised := fun e he => by cases he }
    | some e =>
      have hhit : ¬service.Undisturbed outage events := by
        rw [← announceFault_eq_none, hfault]
        exact Option.some_ne_none e
      exact {
        whole := Or.inr ⟨records, hdescribes, hrows⟩
        returned := fun rs hrs => by cases hrs
        returns_iff := iff_of_false (fun h => by cases h.choose_spec) fun h => hhit h.2
        raised := fun e' he' => by cases he'; exact Or.inl (announceFault_status hfault) }
  · obtain ⟨w', e, haccept, quotas, nextUuid, rfl⟩ := accept_refuses sha256 rfl hadmissible
    rw [submit, Effect.bind_error haccept]
    exact {
      whole := Or.inl rfl
      returned := fun rs hrs => by cases hrs
      returns_iff := iff_of_false (fun h => by cases h.choose_spec) fun h => hadmissible h.1
      raised := fun e' he' => by
        cases he'
        rcases accept_status rfl haccept with ⟨-, h429⟩ | ⟨-, h500⟩
        · exact Or.inr ⟨h429, rfl⟩
        · exact Or.inl h500 }

end IngestionService

namespace IngestionRequest
variable (service : IngestionService) (sha256 : ByteArray → String) (outage : Outage)

theorem run_submitted (request : IngestionRequest) (w : World) :
    service.Submitted sha256 outage request.events w
      (request.op.run service sha256 outage w).1 (request.op.run service sha256 outage w).2 := by
  obtain ⟨hevents, hne⟩ := request.op_events
  rw [IngestOp.run_eq_submit hne, ← hevents]
  exact IngestionService.submit_submitted _ _ _ _ _

end IngestionRequest

namespace Gateway
variable {gateway : Gateway} {token : Option String} {outage : Outage} {w : World}

/-- When a post of events is accepted: the gateway is set up and admits the token, and the events
are admissible and meet no outage. -/
structure Accepts (gateway : Gateway) (token : Option String) (outage : Outage)
    (events : List CanonicalEvent) (w : World) : Prop where
  database : gateway.database = true
  registry : gateway.registry = true
  admitted : ∃ payload, getCurrentUser (gateway.jwt w.clock) token = .ok payload ∧
    payload.role ∈ [UserRole.agent, .operator, .admin].map UserRole.value
  admissible : IngestionService.Admissible {sentinel := true, quota := true} w.clock.date w events
  undisturbed : IngestionService.Undisturbed {sentinel := true, quota := true} outage events

theorem authorise_admits {r : IngestionRequest} :
    (∃ payload, gateway.authorise {token, route := .ingestion r, outage} w.clock = .ok payload) ↔
      ∃ payload, getCurrentUser (gateway.jwt w.clock) token = .ok payload ∧
        payload.role ∈ [UserRole.agent, .operator, .admin].map UserRole.value := by
  unfold authorise
  dsimp only
  cases getCurrentUser (gateway.jwt w.clock) token with
  | error e =>
    refine iff_of_false ?_ ?_
    · rintro ⟨payload, h⟩
      cases h
    · rintro ⟨payload, h, -⟩
      cases h
  | ok payload =>
    dsimp only [Route.roles, requireRole]
    constructor
    · rintro ⟨payload', h⟩
      split at h
      · exact ⟨payload, rfl, by assumption⟩
      · cases h
    · rintro ⟨payload', heq, hrole⟩
      cases heq
      exact ⟨payload, if_pos hrole⟩

/-- What an answer to an ingestion request says of the events. -/
structure Answered (gateway : Gateway) (token : Option String) (outage : Outage)
    (r : IngestionRequest) (w : World) (answer : Answer) (w' : World) : Prop where
  whole : w'.events.rows = w.events.rows ∨ Appended gateway.sha256 r.events w w'
  accepts_iff : answer.status = 202 ↔ gateway.Accepts token outage r.events w
  accepted : answer.status < 400 → answer.status = 202 ∧ ∃ records body,
    answer.content = .inl body ∧ r.Replies records body ∧
      List.Forall₂ (EventRecord.Describes gateway.sha256) records r.events ∧
      w'.events.rows = w.events.rows ++ records
  refused : 400 ≤ answer.status → answer.status ≠ 500 → w'.events.rows = w.events.rows

theorem answered_of_error {r : IngestionRequest} {e : Exc} (hstatus : 400 ≤ e.response.status)
    (hnot : ¬gateway.Accepts token outage r.events w) :
    gateway.Answered token outage r w ⟨e.response.status, .inr e.response.content⟩ w where
  whole := Or.inl rfl
  accepts_iff := by
    refine iff_of_false (fun h202 => ?_) hnot
    have h202 : e.response.status = 202 := h202
    omega
  accepted := fun hlt => absurd hlt (Nat.not_lt.mpr hstatus)
  refused := fun _ _ => rfl

theorem respond_answered (gateway : Gateway) (token : Option String) (outage : Outage)
    (r : IngestionRequest) (w : World) : gateway.Answered token outage r w
      (gateway.respond {token, route := .ingestion r, outage} w).1
      (gateway.respond {token, route := .ingestion r, outage} w).2 := by
  cases hauth : gateway.authorise {token, route := .ingestion r, outage} w.clock with
  | error e =>
    rw [respond_error (handle_of_refused hauth)]
    apply answered_of_error
    · rcases authorise_status hauth with h401 | h403
      · rw [h401]; decide
      · rw [h403]; decide
    · intro h
      have hauthorised : ∃ payload,
          gateway.authorise {token, route := .ingestion r, outage} w.clock = .ok payload :=
        authorise_admits.mpr h.admitted
      obtain ⟨payload, hpayload⟩ := hauthorised
      cases hauth.symm.trans hpayload
  | ok payload =>
    have hadmitted := authorise_admits.mp ⟨payload, hauth⟩
    have hhandle := handle_of_authorised hauth
    rw [withSession] at hhandle
    by_cases hdatabase : gateway.database = true
    · rw [if_pos hdatabase, Route.handle] at hhandle
      by_cases hregistry : gateway.registry = true
      · rw [if_pos hregistry] at hhandle
        have hrun := r.run_submitted {sentinel := true, quota := true} gateway.sha256 outage w
        rcases r.handle_replies {sentinel := true, quota := true} gateway.sha256 outage w with
          ⟨body, records, w', hbody, hop, hreplies⟩ | ⟨e, w', herror, hop⟩
        · rw [respond_ok (hhandle.trans hbody) (IngestionRequest.renders_of_replies hreplies)]
          rw [hop] at hrun
          obtain ⟨hdescribes, hrows⟩ := hrun.returned records rfl
          obtain ⟨hadmissible, hundisturbed⟩ := hrun.returns_iff.mp ⟨records, rfl⟩
          exact {
            whole := hrun.whole
            accepts_iff := iff_of_true rfl
              ⟨hdatabase, hregistry, hadmitted, hadmissible, hundisturbed⟩
            accepted := fun _ => ⟨rfl, records, body, rfl, hreplies, hdescribes, hrows⟩
            refused := fun h400 _ => absurd h400 (show ¬400 ≤ 202 by decide) }
        · rw [respond_error (hhandle.trans herror)]
          rw [hop] at hrun
          have hnot : ¬gateway.Accepts token outage r.events w := fun h => by
            cases (hrun.returns_iff.mpr ⟨h.admissible, h.undisturbed⟩).choose_spec
          rcases hrun.raised e rfl with h500 | ⟨h429, hrows⟩
          · exact {
              whole := hrun.whole
              accepts_iff := iff_of_false (by simp [h500]) hnot
              accepted := fun hlt => absurd hlt (by simp [h500])
              refused := fun _ hne => absurd h500 hne }
          · exact {
              whole := hrun.whole
              accepts_iff := iff_of_false (by simp [h429]) hnot
              accepted := fun hlt => absurd hlt (by simp [h429])
              refused := fun _ _ => hrows }
      · rw [if_neg hregistry] at hhandle
        rw [respond_error hhandle]
        exact answered_of_error (by decide) fun h => hregistry h.registry
    · rw [if_neg hdatabase] at hhandle
      rw [respond_error hhandle]
      exact answered_of_error (by decide) fun h => hdatabase h.database

/-! ### Posts -/

/-- The object that answers an accepted event names it. -/
def EventReply (records : List EventRecord) (obj : Value) : Prop :=
  ∃ record members, records = [record] ∧ obj = .obj members ∧
    Record.get? (Str.ofText "event_id") members = some (textValue (Text.uuid record.eventId))

/-- The object that answers an accepted batch counts its events and names them in order. -/
def BatchReply (records : List EventRecord) (obj : Value) : Prop :=
  ∃ members, obj = .obj members ∧
    Record.get? (Str.ofText "accepted") members = some (.int records.length) ∧
    Record.get? (Str.ofText "event_ids") members =
      some (.arr ((records.map EventRecord.eventId).map fun id => textValue (Text.uuid id)))

/-- What the response to a post of events says of them. -/
structure Received (sha256 : ByteArray → String) (Accepted : Prop)
    (Reply : List EventRecord → Value → Prop) (events : List CanonicalEvent) (w : World)
    (response : HttpResponse Value) (w' : World) : Prop where
  answered : ∃ n : Int, response.statusCode = .ok n ∧ (n = 200 ∨ n = 202 ↔ Accepted) ∧
    (n = 200 ∨ n = 202 → ∃ records obj, response.json = .ok obj ∧ Reply records obj ∧
      List.Forall₂ (EventRecord.Describes sha256) records events ∧
      w'.events.rows = w.events.rows ++ records) ∧
    (¬(n = 200 ∨ n = 202) → n ≠ 500 → w'.events.rows = w.events.rows)
  whole : w'.events.rows = w.events.rows ∨ Appended sha256 events w w'

variable {sha256 : ByteArray → String} {Accepted : Prop}
  {Reply : List EventRecord → Value → Prop} {events : List CanonicalEvent} {py : Pydantic}
  {root : String} {request : HttpRequest Payload}

theorem received_of_error {response : HttpResponse Value} {n : Nat}
    (hstatus : response.statusCode = .ok n) (herror : 400 ≤ n) (hnot : ¬Accepted) :
    Received sha256 Accepted Reply events w response w := by
  have hrefused : ¬((n : Int) = 200 ∨ (n : Int) = 202) := by omega
  exact {
    answered := ⟨n, hstatus, iff_of_false hrefused hnot, fun h => absurd h hrefused,
      fun _ _ => rfl⟩
    whole := Or.inl rfl }

theorem refuse_received (body : Payload) (hnot : ¬Accepted) :
    Received sha256 Accepted Reply events w (gateway.refuse py token w.clock body) w := by
  unfold refuse
  split
  · rename_i e huser
    have hauth : gateway.authorise {token, route := .audit (.getEntry "" 0)} w.clock =
        .error e := by rw [authorise, huser]
    refine received_of_error (n := e.response.status) rfl ?_ hnot
    rcases authorise_status hauth with hstatus | hstatus
    · rw [hstatus]; decide
    · rw [hstatus]; decide
  · rename_i payload huser
    split
    · rename_i e hrole
      unfold requireRole at hrole
      split at hrole
      · cases hrole
      · cases hrole
        exact received_of_error (n := 403) rfl (by decide) hnot
    · split
      · exact received_of_error (n := 500) rfl (by decide) hnot
      · split
        · exact received_of_error (n := 500) rfl (by decide) hnot
        · exact received_of_error (n := 422) rfl (by decide) hnot

/-- A body that validates to a request is answered with what the request leads to. -/
theorem answerBody_received {r : IngestionRequest} (body : Payload)
    (haccepted : gateway.Accepts token outage r.events w ↔ Accepted)
    (hreply : ∀ records content, r.Replies records content → ∃ obj,
      (∀ status, (Answer.response py ⟨status, .inl content⟩).json = .ok obj) ∧
        Reply records obj) :
    Received gateway.sha256 Accepted Reply r.events w
      (gateway.answerBody py outage token body (some r) w).1
      (gateway.answerBody py outage token body (some r) w).2 := by
  have hanswered := respond_answered gateway token outage r w
  dsimp only [answerBody]
  generalize gateway.respond {token, route := .ingestion r, outage} w = answered at hanswered ⊢
  obtain ⟨⟨status, content⟩, w'⟩ := answered
  by_cases hlt : status < 400
  · obtain ⟨h202, records, body, hcontent, hreplies, hdescribes, hrows⟩ := hanswered.accepted hlt
    obtain ⟨obj, hobj, hread⟩ := hreply records body hreplies
    have h202 : status = 202 := h202
    have hok : (status : Int) = 200 ∨ (status : Int) = 202 := by omega
    cases hcontent
    exact {
      answered := ⟨status, rfl, iff_of_true hok (haccepted.mp (hanswered.accepts_iff.mp h202)),
        fun _ => ⟨records, obj, hobj status, hread, hdescribes, hrows⟩, fun h => absurd hok h⟩
      whole := hanswered.whole }
  · have hne : status ≠ 202 := by omega
    have hrefused : ¬((status : Int) = 200 ∨ (status : Int) = 202) := by omega
    exact {
      answered := ⟨status, rfl, iff_of_false hrefused fun h =>
          hne (hanswered.accepts_iff.mpr (haccepted.mpr h)), fun h => absurd h hrefused,
        fun _ h500 => hanswered.refused (Nat.not_lt.mp hlt) fun h => h500 (congrArg Nat.cast h)⟩
      whole := hanswered.whole }

theorem receive_event {event : CanonicalEvent} (h : event.Readable py)
    (hurl : request.url = root ++ "/v1/events")
    (hjson : request.json = .event (event.object py)) :
    Received gateway.sha256 (gateway.Accepts (bearerToken request.headers) outage [event] w)
      EventReply [event] w (gateway.receive py outage root request w).1
      (gateway.receive py outage root request w).2 := by
  dsimp only [receive]
  rw [if_pos hurl, hjson]
  dsimp only [RequestBody.json]
  rw [CanonicalEvent.modelValidate_object h]
  refine answerBody_received (r := .ingestEvent event) _ Iff.rfl fun records content hreplies => ?_
  obtain ⟨record, receivedAt, rfl, rfl⟩ := hreplies
  exact ⟨_, fun _ => rfl, record, _, rfl, rfl,
    Record.get?_of_mem ((Json.distinctKeys_obj _).mp (Payload.distinct _)).1 List.mem_cons_self⟩

theorem receive_batch (h : ∀ event ∈ events, event.Readable py)
    (hurl : request.url = root ++ "/v1/events/batch")
    (hjson : request.json = .events (events.map (CanonicalEvent.object py))) :
    Received gateway.sha256 ((1 ≤ events.length ∧ events.length ≤ 100) ∧
        gateway.Accepts (bearerToken request.headers) outage events w)
      BatchReply events w (gateway.receive py outage root request w).1
      (gateway.receive py outage root request w).2 := by
  have hother : request.url ≠ root ++ "/v1/events" := by
    rw [hurl]
    intro heq
    exact absurd ((String.append_right_inj root).mp heq) (by decide)
  dsimp only [receive]
  rw [if_neg hother, if_pos hurl, hjson, BatchIngestRequest.modelValidate_events h]
  by_cases hbounds : 1 ≤ events.length ∧ events.length ≤ 100
  · rw [dif_pos hbounds]
    refine answerBody_received (r := .ingestBatch ⟨events, hbounds⟩) _
      (and_iff_right hbounds).symm fun records content hreplies => ?_
    cases hreplies
    have hkeys := ((Json.distinctKeys_obj _).mp (BatchIngestResponse.modelDump
      {accepted := records.length, eventIds := records.map EventRecord.eventId}).distinct).1
    exact ⟨_, fun _ => rfl, _, rfl, Record.get?_of_mem hkeys List.mem_cons_self,
      Record.get?_of_mem hkeys (List.mem_cons_of_mem _ (List.mem_cons_of_mem _ List.mem_cons_self))⟩
  · rw [dif_neg hbounds]
    exact refuse_received _ fun h => hbounds h.1

end Gateway
end Dox
