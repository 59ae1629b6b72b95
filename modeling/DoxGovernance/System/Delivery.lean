import DoxGovernance.System.Posts
import DoxGovernance.System.Powers

/-!
# What a client is told of its events

A client of the SDK posts its events over a network that may lose the post or the answer. Whatever
happens, the events of one call are stored all or not at all. A result of success names events that
are stored, as they were written; a failure with a status other than 500 says that none is stored.
After an exception, and after status 500, the client cannot know which.
-/

set_option autoImplicit false
set_option maxRecDepth 4096

namespace Dox
open Wire

/-- What becomes of a post; the HTTP client raises when it cannot send the body, or when no answer
comes back. -/
inductive Network where
  | answers
  | loses (exc : PyException)
  | losesAnswer (exc : PyException)

namespace Network
variable (network : Network) (serve : HttpRequest Payload → HttpResponse Value × World)

def http : Http Payload Value := fun request =>
  match network with
  | answers => .ok (serve request).1
  | loses exc | losesAnswer exc => .error exc

def after (request : HttpRequest Payload) (w : World) : World :=
  match network with
  | loses _ => w
  | answers | losesAnswer _ => (serve request).2

end Network

/-- What a result says, of one event or of a batch. -/
structure Report where
  success : Bool
  eventIds : List Uuid
  statusCode : Option Int

def EmitResult.report (result : EmitResult) : Report :=
  ⟨result.success, result.eventId.toList, result.statusCode⟩

def BatchEmitResult.report (result : BatchEmitResult Value) : Report :=
  ⟨result.success, result.eventIds, result.statusCode⟩

inductive SdkCall where
  | emit (event : CanonicalEvent)
  | emitBatch (events : List CanonicalEvent)

def SdkCall.events : SdkCall → List CanonicalEvent
  | emit event => [event]
  | emitBatch events => events

/-- The events of a call as they are written. -/
def SdkCall.sent (call : SdkCall) : List CanonicalEvent := call.events.map CanonicalEvent.dumped

theorem SdkCall.eventIds_sent (call : SdkCall) :
    call.sent.map CanonicalEvent.eventId = call.events.map CanonicalEvent.eventId := by
  rw [sent, List.map_map]
  rfl

/-- A call of a client, with the time of its result, the time when its post arrives, and what goes
wrong. -/
structure Delivery where
  client : DoxClient Payload Value
  call : SdkCall
  emittedAt : Datetime
  arrivedAt : Datetime
  network : Network := .answers
  outage : Outage := {}

namespace Delivery
variable (py : Pydantic) (callees : Callees CanonicalEvent Payload Value) (gateway : Gateway)
  (self : Delivery) (w : World)

def serve (request : HttpRequest Payload) : HttpResponse Value × World :=
  gateway.receive py self.outage self.client.baseUrl request (w.at self.arrivedAt)

/-- The client, posting over the network to the gateway. -/
def connected : DoxClient Payload Value :=
  {self.client with http := some (self.network.http (self.serve py gateway w))}

/-- The world after a post, if there is one. -/
def posted (path : String) (body : Py (RequestBody Payload)) : World :=
  match body with
  | .error _ => w.at self.arrivedAt
  | .ok body => self.network.after (self.serve py gateway w) (self.client.request path body)
      (w.at self.arrivedAt)

def run : Py Report × World :=
  match self.call with
  | .emit event =>
    (EmitResult.report <$>
        (DoxClient.emit callees event self.emittedAt (self.connected py gateway w)).1,
      self.posted py gateway w "/v1/events" (RequestBody.event <$> callees.modelDump event))
  | .emitBatch [] =>
    (BatchEmitResult.report <$>
        (DoxClient.emitBatch callees [] self.emittedAt (self.connected py gateway w)).1,
      w.at self.arrivedAt)
  | .emitBatch events =>
    (BatchEmitResult.report <$>
        (DoxClient.emitBatch callees events self.emittedAt (self.connected py gateway w)).1,
      self.posted py gateway w "/v1/events/batch"
        (RequestBody.events <$> events.mapM callees.modelDump))

end Delivery

/-- What the client relies on: what its serialisation writes is the object of the event, and
objects, lists and identifiers in an answer are read as they were written. -/
structure Reads (py : Pydantic) (callees : Callees CanonicalEvent Payload Value) : Prop where
  modelDump : ∀ event doc, callees.modelDump event = .ok doc → doc = event.dumped.object py
  getItem : ∀ members key value, Record.get? (Str.ofText key) members = some value →
    callees.getItem (.obj members) key = .ok value
  iterate : ∀ items, callees.iterate (.arr items) = (items, none)
  uuid : ∀ u, (uuid py).Readable u → callees.uuid (textValue (Text.uuid u)) = .ok u

/-- What the report of a call, or the exception, says of its events. -/
structure Told (sha256 : ByteArray → String) (Success : Prop) (events : List CanonicalEvent)
    (w : World) (result : Py Report) (w' : World) : Prop where
  whole : w'.events.rows = w.events.rows ∨ Appended sha256 events w w'
  succeeds_iff : (∃ r, result = .ok r ∧ r.success = true) ↔ Success
  acknowledged : ∀ r, result = .ok r → r.success = true →
    r.eventIds = events.map CanonicalEvent.eventId ∧ Appended sha256 events w w'
  refused : ∀ r n, result = .ok r → r.success = false → r.statusCode = some n → n ≠ 500 →
    w'.events.rows = w.events.rows

/-- When a call succeeds: there is nothing to post, or the events are written, are at most 100, and
the gateway accepts them and is heard. -/
def Delivery.Succeeds (callees : Callees CanonicalEvent Payload Value) (gateway : Gateway)
    (self : Delivery) (w : World) : Prop :=
  self.call.events = [] ∨ self.network = .answers ∧
    (∃ docs, self.call.events.mapM callees.modelDump = .ok docs) ∧
    self.call.events.length ≤ 100 ∧ gateway.Accepts (bearerToken self.client.headers) self.outage
      self.call.sent (w.at self.arrivedAt)

section Tried
variable {sha256 : ByteArray → String} {Success : Prop}
  {Reply : List EventRecord → Value → Prop} {events : List CanonicalEvent} {w w' : World}
  {R : Type} {report : R → Report} {client : DoxClient Payload Value} {http : Http Payload Value}
  {path : String}
  {accepted : Int → Value → Py R} {refused : Int → String → R} {failed : String → R}

theorem told_of_unacknowledged {result : Py Report}
    (hwhole : w'.events.rows = w.events.rows ∨ Appended sha256 events w w') (hnot : ¬Success)
    (hresult : ∀ r, result = .ok r → r.success = false ∧ r.statusCode = none) :
    Told sha256 Success events w result w' where
  whole := hwhole
  succeeds_iff := by
    refine iff_of_false ?_ hnot
    rintro ⟨r, hr, hsuccess⟩
    rw [(hresult r hr).1] at hsuccess
    cases hsuccess
  acknowledged := fun r hr hsuccess => by
    rw [(hresult r hr).1] at hsuccess
    cases hsuccess
  refused := fun r n hr _ hstatus _ => by
    rw [(hresult r hr).2] at hstatus
    cases hstatus

/-- What a handled exception gives. -/
theorem handled_cases (client : DoxClient Payload Value)
    (hfailed : ∀ text, (report (failed text)).success = false ∧
      (report (failed text)).statusCode = none) (exc : PyException) (r : Report)
    (h : report <$> client.handle failed exc = .ok r) :
    r.success = false ∧ r.statusCode = none := by
  unfold DoxClient.handle at h
  split at h
  · cases h
  · cases hstr : exc.str with
    | error e =>
      rw [hstr] at h
      cases h
    | ok text =>
      rw [hstr] at h
      cases h
      exact hfailed text

variable (hrefused : ∀ status text, report (refused status text) = ⟨false, [], some status⟩)
  (hfailed : ∀ text, (report (failed text)).success = false ∧
    (report (failed text)).statusCode = none)

include hfailed in
/-- Without an answer the client knows nothing of its events. -/
theorem tried_unanswered {json : Py (RequestBody Payload)} (exc : PyException)
    (hraised : (do http (client.request path (← json))) = .error exc)
    (hwhole : w'.events.rows = w.events.rows ∨ Appended sha256 events w w') (hnot : ¬Success) :
    Told sha256 Success events w (report <$> client.tried http path json accepted refused failed)
      w' := by
  have hattempt : client.attempt http path json accepted refused = .error exc := by
    cases json with
    | error e =>
      cases hraised
      rfl
    | ok body =>
      have hpost : http (client.request path body) = .error exc := hraised
      unfold DoxClient.attempt
      dsimp only [bind, Except.bind]
      rw [hpost]
  refine told_of_unacknowledged hwhole hnot fun r hr =>
    handled_cases client hfailed exc r ?_
  rw [DoxClient.tried, hattempt] at hr
  exact hr

include hrefused in
/-- An answer is reported as it was received. -/
theorem tried_answered {body : RequestBody Payload} {response : HttpResponse Value}
    (hpost : http (client.request path body) = .ok response)
    (hreceived : Gateway.Received sha256 Success Reply events w response w')
    (haccepted : ∀ status records obj, Reply records obj →
      List.Forall₂ (EventRecord.Describes sha256) records events → ∃ result,
        accepted status obj = .ok result ∧
        report result = ⟨true, events.map CanonicalEvent.eventId, some status⟩) :
    Told sha256 Success events w
      (report <$> client.tried http path (.ok body) accepted refused failed) w' := by
  obtain ⟨n, hstatus, haccepts, hanswer, hrows⟩ := hreceived.answered
  by_cases hok : n = 200 ∨ n = 202
  · obtain ⟨records, obj, hjson, hreply, hdescribes, hstored⟩ := hanswer hok
    obtain ⟨result, hresult, hreport⟩ := haccepted n records obj hreply hdescribes
    have htried : client.tried http path (.ok body) accepted refused failed = .ok result := by
      unfold DoxClient.tried DoxClient.attempt
      dsimp only [bind, Except.bind]
      rw [hpost]
      dsimp only
      rw [hstatus]
      dsimp only
      rw [if_pos hok, hjson]
      dsimp only
      rw [hresult]
      rfl
    rw [htried]
    exact {
      whole := hreceived.whole
      succeeds_iff := iff_of_true ⟨report result, rfl, by rw [hreport]⟩ (haccepts.mp hok)
      acknowledged := fun r hr _ => by
        cases hr
        rw [hreport]
        exact ⟨rfl, records, hdescribes, hstored⟩
      refused := fun r m hr hfalse => by
        cases hr
        rw [hreport] at hfalse
        cases hfalse }
  · have htried : client.tried http path (.ok body) accepted refused failed =
        if client.raiseOnError = true then
          .error (.printable "RuntimeError" ("HTTP " ++ toString n))
        else .ok (refused n ("HTTP " ++ toString n)) := by
      unfold DoxClient.tried DoxClient.attempt
      dsimp only [bind, Except.bind]
      rw [hpost]
      dsimp only
      rw [hstatus]
      dsimp only
      rw [if_neg hok]
      by_cases hraise : client.raiseOnError = true
      · rw [if_pos hraise, if_pos hraise]
        exact if_pos hraise
      · rw [if_neg hraise, if_neg hraise]
        rfl
    have hfalse : ∀ r, report <$> client.tried http path (.ok body) accepted refused failed =
        .ok r → r.success = false := by
      intro r hr
      rw [htried] at hr
      split at hr
      · cases hr
      · cases hr
        rw [hrefused]
    exact {
      whole := hreceived.whole
      succeeds_iff := by
        refine iff_of_false ?_ fun h => hok (haccepts.mpr h)
        rintro ⟨r, hr, hsuccess⟩
        cases (hfalse r hr).symm.trans hsuccess
      acknowledged := fun r hr hsuccess => by cases (hfalse r hr).symm.trans hsuccess
      refused := fun r m hr _ hm hne => by
        rw [htried] at hr
        split at hr
        · cases hr
        · cases hr
          rw [hrefused] at hm
          cases hm
          exact hrows hok hne }

end Tried
namespace Delivery
variable {py : Pydantic} {callees : Callees CanonicalEvent Payload Value} {gateway : Gateway}
  {self : Delivery} {w : World}

theorem mapM_modelDump (hreads : Reads py callees) {events : List CanonicalEvent}
    {docs : List Payload} (h : events.mapM callees.modelDump = .ok docs) :
    docs = (events.map CanonicalEvent.dumped).map (CanonicalEvent.object py) := by
  induction events generalizing docs with
  | nil =>
    cases h
    rfl
  | cons event rest ih =>
    rw [List.mapM_cons] at h
    cases hdoc : callees.modelDump event with
    | error e =>
      rw [hdoc] at h
      cases h
    | ok doc =>
      rw [hdoc] at h
      cases hrest : rest.mapM callees.modelDump with
      | error e =>
        rw [hrest] at h
        cases h
      | ok others =>
        rw [hrest] at h
        cases h
        rw [hreads.modelDump event doc hdoc, ih hrest, List.map_cons, List.map_cons]

theorem mapM_uuid (hreads : Reads py callees) {ids : List Uuid}
    (h : ∀ u ∈ ids, (uuid py).Readable u) :
    (ids.map fun u => textValue (Text.uuid u)).mapM callees.uuid = .ok ids := by
  induction ids with
  | nil => rfl
  | cons u us ih =>
    rw [List.forall_mem_cons] at h
    rw [List.map_cons, List.mapM_cons, hreads.uuid u h.1, ih h.2]
    rfl

theorem eventAccepted_of_reply (hreads : Reads py callees) {event : CanonicalEvent}
    (hevent : (uuid py).Readable event.eventId) (emittedAt : Datetime) (status : Int)
    {sha256 : ByteArray → String} {records : List EventRecord} {obj : Value}
    (hreply : Gateway.EventReply records obj)
    (hdescribes : List.Forall₂ (EventRecord.Describes sha256) records [event]) :
    ∃ result, DoxClient.eventAccepted callees emittedAt status obj = .ok result ∧
      result.report = ⟨true, [event.eventId], some status⟩ := by
  obtain ⟨record, members, rfl, rfl, hget⟩ := hreply
  obtain ⟨hrecord, -⟩ := List.forall₂_cons.mp hdescribes
  rw [hrecord.eventId] at hget
  refine ⟨⟨true, some event.eventId, some status, none, emittedAt⟩, ?_, rfl⟩
  unfold DoxClient.eventAccepted
  rw [hreads.getItem _ _ _ hget]
  dsimp only [bind, Except.bind]
  rw [hreads.uuid _ hevent]
  rfl

theorem batchAccepted_of_reply (hreads : Reads py callees) {events : List CanonicalEvent}
    (hevents : ∀ event ∈ events, (uuid py).Readable event.eventId) (emittedAt : Datetime)
    (status : Int) {sha256 : ByteArray → String} {records : List EventRecord} {obj : Value}
    (hreply : Gateway.BatchReply records obj)
    (hdescribes : List.Forall₂ (EventRecord.Describes sha256) records events) :
    ∃ result, DoxClient.batchAccepted callees emittedAt status obj = .ok result ∧
      result.report = ⟨true, events.map CanonicalEvent.eventId, some status⟩ := by
  obtain ⟨members, rfl, haccepted, hids⟩ := hreply
  rw [IngestionService.eventIds_of_describes hdescribes] at hids
  have huuids : DoxClient.uuids callees (.arr ((events.map CanonicalEvent.eventId).map fun u =>
      textValue (Text.uuid u))) = .ok (events.map CanonicalEvent.eventId) := by
    unfold DoxClient.uuids
    rw [hreads.iterate]
    dsimp only [bind, Except.bind]
    rw [mapM_uuid hreads fun u hu => by
      obtain ⟨event, hevent, rfl⟩ := List.mem_map.mp hu
      exact hevents event hevent]
    rfl
  refine ⟨⟨true, some (.int records.length), events.map CanonicalEvent.eventId, some status, none,
    emittedAt⟩, ?_, rfl⟩
  unfold DoxClient.batchAccepted
  rw [hreads.getItem _ _ _ haccepted]
  dsimp only [bind, Except.bind]
  rw [hreads.getItem _ _ _ hids]
  dsimp only
  rw [huuids]
  rfl

theorem httpClient_connected (py : Pydantic) (gateway : Gateway) (self : Delivery) (w : World) :
    (self.connected py gateway w).httpClient callees =
      .ok (self.network.http (self.serve py gateway w)) := rfl

section Post
variable {sha256 : ByteArray → String} {Accepted : Prop}
  {Reply : List EventRecord → Value → Prop} {events : List CanonicalEvent} {R : Type}
  {report : R → Report} {path : String} {accepted : Int → Value → Py R}
  {refused : Int → String → R} {failed : String → R}

/-- One post, whatever the network makes of it. -/
theorem told_of_post {body : RequestBody Payload}
    (hreceived : Gateway.Received sha256 Accepted Reply events (w.at self.arrivedAt)
      (self.serve py gateway w (self.client.request path body)).1
      (self.serve py gateway w (self.client.request path body)).2)
    (haccepted : ∀ status records obj, Reply records obj →
      List.Forall₂ (EventRecord.Describes sha256) records events → ∃ result,
        accepted status obj = .ok result ∧
        report result = ⟨true, events.map CanonicalEvent.eventId, some status⟩)
    (hrefused : ∀ status text, report (refused status text) = ⟨false, [], some status⟩)
    (hfailed : ∀ text, (report (failed text)).success = false ∧
      (report (failed text)).statusCode = none) :
    Told sha256 (self.network = .answers ∧ Accepted) events w
      (report <$> (self.connected py gateway w).tried
        (self.network.http (self.serve py gateway w)) path (.ok body) accepted refused failed)
      (self.posted py gateway w path (.ok body)) := by
  unfold posted Network.http
  dsimp only [Network.after]
  cases self.network with
  | answers =>
    have htold : Told sha256 Accepted events (w.at self.arrivedAt)
        (report <$> (self.connected py gateway w).tried
          (fun request => .ok (self.serve py gateway w request).1) path (.ok body) accepted refused
          failed) (self.serve py gateway w (self.client.request path body)).2 :=
      tried_answered hrefused rfl hreceived haccepted
    exact ⟨htold.whole, htold.succeeds_iff.trans (and_iff_right rfl).symm, htold.acknowledged,
      htold.refused⟩
  | loses exc =>
    exact tried_unanswered hfailed exc rfl (Or.inl rfl) fun h => by cases h.1
  | losesAnswer exc =>
    exact tried_unanswered hfailed exc rfl hreceived.whole fun h => by cases h.1

end Post

theorem succeeds_of_docs {docs : List Payload} (hne : self.call.events ≠ [])
    (hdocs : self.call.events.mapM callees.modelDump = .ok docs) :
    self.Succeeds callees gateway w ↔ self.network = .answers ∧ self.call.events.length ≤ 100 ∧
      gateway.Accepts (bearerToken self.client.headers) self.outage self.call.sent
        (w.at self.arrivedAt) := by
  rw [Succeeds, or_iff_right hne]
  exact and_congr_right fun _ => and_iff_right ⟨docs, hdocs⟩

theorem not_succeeds_of_error {e : PyException} (hne : self.call.events ≠ [])
    (hdocs : self.call.events.mapM callees.modelDump = .error e) :
    ¬self.Succeeds callees gateway w := by
  rintro (hnil | ⟨-, ⟨docs, hok⟩, -⟩)
  · exact hne hnil
  · cases hdocs.symm.trans hok

theorem told_congr {sha256 : ByteArray → String} {P Q : Prop} {events : List CanonicalEvent}
    {w w' : World} {result : Py Report} (h : Told sha256 P events w result w') (hiff : P ↔ Q) :
    Told sha256 Q events w result w' :=
  ⟨h.whole, h.succeeds_iff.trans hiff, h.acknowledged, h.refused⟩

theorem run_emit_told (hreads : Reads py callees) {event : CanonicalEvent}
    (hcall : self.call = .emit event) (h : event.Readable py) :
    Told gateway.sha256 (self.Succeeds callees gateway w) [event.dumped] w
      (self.run py callees gateway w).1 (self.run py callees gateway w).2 := by
  have hevents : self.call.events = [event] := by
    rw [hcall]
    rfl
  have hsent : self.call.sent = [event.dumped] := by
    rw [hcall]
    rfl
  have hne : self.call.events ≠ [] := hevents ▸ List.cons_ne_nil event []
  have hmapM : self.call.events.mapM callees.modelDump = (· :: []) <$> callees.modelDump event := by
    rw [hevents, List.mapM_cons]
    cases callees.modelDump event <;> rfl
  unfold run
  rw [hcall]
  dsimp only
  rw [DoxClient.emit_result (httpClient_connected py gateway self w)]
  unfold DoxClient.triedEvent
  cases hdoc : callees.modelDump event with
  | error e =>
    rw [hdoc] at hmapM
    exact tried_unanswered (fun text => ⟨rfl, rfl⟩) e rfl (Or.inl rfl)
      (not_succeeds_of_error hne hmapM)
  | ok doc =>
    rw [hdoc] at hmapM
    cases hreads.modelDump event doc hdoc
    refine told_congr (told_of_post (Gateway.receive_event h.dumped rfl rfl)
      (fun status records obj hreply hdescribes =>
        eventAccepted_of_reply hreads h.dumped.eventId self.emittedAt status hreply hdescribes)
      (fun _ _ => rfl) fun _ => ⟨rfl, rfl⟩) ((succeeds_of_docs hne hmapM).trans ?_).symm
    rw [hevents, hsent]
    exact and_congr_right fun _ => and_iff_right (show 1 ≤ 100 by decide)

theorem run_emitBatch_told (hreads : Reads py callees) {events : List CanonicalEvent}
    (hcall : self.call = .emitBatch events) (h : ∀ event ∈ events, event.Readable py) :
    Told gateway.sha256 (self.Succeeds callees gateway w) (events.map CanonicalEvent.dumped) w
      (self.run py callees gateway w).1 (self.run py callees gateway w).2 := by
  have hevents : self.call.events = events := by
    rw [hcall]
    rfl
  have hsent : self.call.sent = events.map CanonicalEvent.dumped := by
    rw [SdkCall.sent, hevents]
  unfold run
  rw [hcall]
  cases events with
  | nil =>
    refine ⟨Or.inl rfl, iff_of_true ⟨_, rfl, rfl⟩ (Or.inl hevents), fun r hr _ => ?_,
      fun r n hr hfalse => ?_⟩
    · cases hr
      exact ⟨rfl, [], .nil, (List.append_nil _).symm⟩
    · cases hr
      cases hfalse
  | cons event rest =>
    have hne : self.call.events ≠ [] := hevents ▸ List.cons_ne_nil event rest
    dsimp only
    rw [DoxClient.emitBatch_result (httpClient_connected py gateway self w)
      (List.cons_ne_nil event rest)]
    cases hdocs : (event :: rest).mapM callees.modelDump with
    | error e =>
      refine told_of_unacknowledged (Or.inl rfl)
        (not_succeeds_of_error hne (hevents ▸ hdocs)) fun r hr => ?_
      cases hr
    | ok docs =>
      have hwritten : self.call.events.mapM callees.modelDump = .ok docs := hevents ▸ hdocs
      cases mapM_modelDump hreads hdocs
      have hreadable : ∀ e ∈ (event :: rest).map CanonicalEvent.dumped, e.Readable py := by
        intro e he
        obtain ⟨built, hbuilt, rfl⟩ := List.mem_map.mp he
        exact (h built hbuilt).dumped
      refine told_congr (told_of_post (Gateway.receive_batch hreadable rfl rfl)
        (fun status records obj hreply hdescribes =>
          batchAccepted_of_reply hreads (fun e he => (hreadable e he).eventId) self.emittedAt status
            hreply hdescribes)
        (fun _ _ => rfl) fun _ => ⟨rfl, rfl⟩) ((succeeds_of_docs hne hwritten).trans ?_).symm
      rw [hevents, hsent, List.length_map]
      have hlength : 1 ≤ (event :: rest).length := Nat.succ_pos rest.length
      exact and_congr_right fun _ => and_congr_left fun _ => (and_iff_right hlength).symm

theorem run_told (hreads : Reads py callees) (h : ∀ event ∈ self.call.events, event.Readable py) :
    Told gateway.sha256 (self.Succeeds callees gateway w) self.call.sent w
      (self.run py callees gateway w).1 (self.run py callees gateway w).2 := by
  cases hcall : self.call with
  | emit event =>
    rw [hcall] at h
    exact run_emit_told hreads hcall (h event List.mem_cons_self)
  | emitBatch events =>
    rw [hcall] at h
    exact run_emitBatch_told hreads hcall h

def typeError : PyException := .printable "TypeError" "object is not subscriptable"

def sampleWire : Callees CanonicalEvent Payload Value where
  modelDump event :=
    match event.modelDump samplePydantic with
    | .ok doc => .ok doc
    | .error e => .error (.printable "PydanticSerializationError" e.str)
  asyncClient := .error (.printable "ImportError" "No module named 'httpx'")
  getItem body key :=
    match body with
    | .obj members =>
      match Record.get? (Str.ofText key) members with
      | some value => .ok value
      | none => .error (.printable "KeyError" (Text.repr key))
    | _ => .error typeError
  iterate
    | .arr items => (items, none)
    | _ => ([], some typeError)
  uuid d :=
    match samplePydantic.uuid d with
    | some u => .ok u
    | none => .error (.printable "ValueError" "badly formed hexadecimal UUID string")

theorem sample_reads : Reads samplePydantic sampleWire where
  modelDump := by
    intro event doc h
    dsimp only [sampleWire] at h
    split at h
    · rename_i written hwritten
      cases h
      exact (CanonicalEvent.modelDump_eq_ok.mp hwritten).2
    · cases h
  getItem := by
    intro members key value h
    dsimp only [sampleWire]
    rw [h]
  iterate := fun _ => rfl
  uuid := by
    intro u h
    dsimp only [sampleWire]
    rw [uuid_readable.mp h]

theorem sampleEvent_readable (id : Uuid) (hid : id ∈ [1, 2]) :
    (sampleEvent id .toolCallBlocked).Readable samplePydantic where
  eventId := (by decide +kernel : ∀ u ∈ [1, 2], (uuid samplePydantic).read
    ((uuid samplePydantic).write u) = some u) id hid
  traceId := (by decide +kernel : (uuid samplePydantic).read
    ((uuid samplePydantic).write 7) = some 7)
  parentTraceId := rfl
  timestamp := (by decide +kernel : (datetime samplePydantic).read
    ((datetime samplePydantic).write sampleNoon) = some sampleNoon)
  clientTimestamp := (by decide +kernel : (datetime samplePydantic).read
    ((datetime samplePydantic).write sampleNoon) = some sampleNoon)
  parentEventId := rfl
  replaySessionId := rfl
  payload := Wire.dict_readable (p := ∅) rfl
  rawPayload := rfl

def sampleSdk : DoxClient Payload Value :=
  .init "https://dox.example.com/" "agent" (.ofTenThousandths 50000) false none

/-- An event that is emitted at noon. -/
def sampleDelivery (id : Uuid) (network : Network) : Delivery where
  client := sampleSdk
  call := .emit (sampleEvent id .toolCallBlocked)
  emittedAt := sampleNoon
  arrivedAt := sampleNoon
  network := network

theorem sample_readable {id : Uuid} {network : Network} {event : CanonicalEvent}
    (hevent : event ∈ (sampleDelivery id network).call.events) (hid : id ∈ [1, 2]) :
    event.Readable samplePydantic := by
  cases List.mem_singleton.mp hevent
  exact sampleEvent_readable id hid

end Delivery
end Dox
