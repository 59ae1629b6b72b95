import DoxGovernance.Exceptions
import DoxGovernance.Lib.Effect
import DoxGovernance.Schemas.Events
import Mathlib.Data.List.DropRight

/-!
# The client of the SDK

The client posts one event or a batch, and turns the answer or an exception into a result.
Serialisation, the HTTP client and the objects in the body of an answer are given by what
they return or raise. A client without `raise_on_error` still raises what happens outside
its `try`, and what `str()` raises of an exception that it reports.
-/

set_option autoImplicit false

namespace Dox

inductive RequestBody (Doc : Type) where
  | event (doc : Doc)
  | events (docs : List Doc)

structure HttpRequest (Doc : Type) where
  url : String
  json : RequestBody Doc
  headers : List (String × String)
  timeout : PyFloat

structure HttpResponse (Obj : Type) where
  statusCode : Py Int
  json : Py Obj

/-- The `post` of an HTTP client. -/
abbrev Http (Doc Obj : Type) := HttpRequest Doc → Py (HttpResponse Obj)

/-- What the client calls: `event.model_dump(mode="json")`, `httpx.AsyncClient()` with its import,
and `body[key]`, the iteration over an object and `UUID(object)`. An iteration yields objects and
then stops or raises. -/
structure Callees (Event Doc Obj : Type) where
  modelDump : Event → Py Doc
  asyncClient : Py (Http Doc Obj)
  getItem : Obj → String → Py Obj
  iterate : Obj → List Obj × Option PyException
  uuid : Obj → Py Uuid

structure EmitResult where
  success : Bool
  eventId : Option Uuid := none
  statusCode : Option Int := none
  error : Option String := none
  emittedAt : Datetime

/-- The count is the object that the server sent, or none for the default of 0. -/
structure BatchEmitResult (Obj : Type) where
  success : Bool
  accepted : Option Obj := none
  eventIds : List Uuid := []
  statusCode : Option Int := none
  error : Option String := none
  emittedAt : Datetime

structure DoxClient (Doc Obj : Type) where
  baseUrl : String
  token : String
  timeout : PyFloat
  raiseOnError : Bool
  http : Option (Http Doc Obj)

namespace DoxClient
variable {Event Doc Obj R : Type}

/-- `DoxClient(...)`; slashes at the end of the URL are dropped. -/
def init (baseUrl apiToken : String) (timeout : PyFloat) (raiseOnError : Bool)
    (http : Option (Http Doc Obj)) : DoxClient Doc Obj where
  baseUrl := String.ofList (baseUrl.toList.rdropWhile (· = '/'))
  token := apiToken
  timeout := timeout
  raiseOnError := raiseOnError
  http := http

section Attempt
variable (self : DoxClient Doc Obj) (http : Http Doc Obj) (path : String)
  (json : Py (RequestBody Doc)) (accepted : Int → Obj → Py R) (refused : Int → String → R)
  (failed : String → R)

/-- `_headers`. -/
def headers : List (String × String) :=
  [("Authorization", "Bearer " ++ self.token), ("Content-Type", "application/json")]

def request (body : RequestBody Doc) : HttpRequest Doc where
  url := self.baseUrl ++ path
  json := body
  headers := self.headers
  timeout := self.timeout

/-- The body of a `try`: a post, and what is made of the answer. -/
def attempt : Py R := do
  let body ← json
  let response ← http (self.request path body)
  let status ← response.statusCode
  if status = 200 ∨ status = 202 then accepted status (← response.json)
  else
    let errorMsg := "HTTP " ++ toString status
    if self.raiseOnError then throw (.printable "RuntimeError" errorMsg)
    else return refused status errorMsg

/-- The handler of the `try`. -/
def handle (exc : PyException) : Py R :=
  if self.raiseOnError then throw exc else return failed (← exc.str)

def tried : Py R := tryCatch (self.attempt http path json accepted refused) (self.handle failed)

end Attempt

variable (py : Callees Event Doc Obj) (self : DoxClient Doc Obj)

/-- The HTTP client that is at hand or else created. -/
def httpClient : Py (Http Doc Obj) :=
  match self.http with
  | some http => .ok http
  | none => py.asyncClient

/-- `_ensure_client`. -/
def ensureClient : Effect (DoxClient Doc Obj) PyException (Http Doc Obj) := fun self =>
  match self.httpClient py with
  | .ok http => (.ok http, {self with http := some http})
  | .error e => (.error e, self)

/-- A call that leaves the client as it is. -/
def calling {α : Type} (call : DoxClient Doc Obj → Py α) :
    Effect (DoxClient Doc Obj) PyException α := fun self => (call self, self)

@[simp] theorem calling_run {α : Type} (call : DoxClient Doc Obj → Py α) :
    calling call self = (call self, self) := rfl

/-- The result of one event, from the answer of the server. -/
def eventAccepted (now : Datetime) (status : Int) (body : Obj) : Py EmitResult := do
  let eventId ← py.uuid (← py.getItem body "event_id")
  return {success := true, eventId := some eventId, statusCode := some status, emittedAt := now}

def triedEvent (http : Http Doc Obj) (event : Event) (now : Datetime) : Py EmitResult :=
  self.tried http "/v1/events" (RequestBody.event <$> py.modelDump event) (eventAccepted py now)
    (fun status errorMsg =>
      {success := false, statusCode := some status, error := some errorMsg, emittedAt := now})
    fun text => {success := false, error := some text, emittedAt := now}

/-- `emit`, with the time of the result. The event is serialised inside the `try`. -/
def emit (event : Event) (now : Datetime) : Effect (DoxClient Doc Obj) PyException EmitResult := do
  let http ← ensureClient py
  calling fun self => self.triedEvent py http event now

/-- `[UUID(eid) for eid in ids]`. -/
def uuids (ids : Obj) : Py (List Uuid) := do
  let parsed ← (py.iterate ids).1.mapM py.uuid
  match (py.iterate ids).2 with
  | none => return parsed
  | some exc => throw exc

def batchAccepted (now : Datetime) (status : Int) (body : Obj) : Py (BatchEmitResult Obj) := do
  let accepted ← py.getItem body "accepted"
  let eventIds ← uuids py (← py.getItem body "event_ids")
  return {success := true, accepted := some accepted, eventIds := eventIds,
          statusCode := some status, emittedAt := now}

def triedBatch (http : Http Doc Obj) (docs : List Doc) (now : Datetime) :
    Py (BatchEmitResult Obj) :=
  self.tried http "/v1/events/batch" (.ok (.events docs)) (batchAccepted py now)
    (fun status errorMsg =>
      {success := false, statusCode := some status, error := some errorMsg, emittedAt := now})
    fun text => {success := false, error := some text, emittedAt := now}

/-- `emit_batch`, with the time of the result. The events are serialised before the `try`. -/
def emitBatch (events : List Event) (now : Datetime) :
    Effect (DoxClient Doc Obj) PyException (BatchEmitResult Obj) :=
  match events with
  | [] => return {success := true, emittedAt := now}
  | _ :: _ => do
    let http ← ensureClient py
    let docs ← calling fun _ => events.mapM py.modelDump
    calling fun self => self.triedBatch py http docs now

/-! ### What a client that should not raise does -/

section Tried
variable (client : DoxClient Doc Obj) (http : Http Doc Obj) (path : String)
  (json : Py (RequestBody Doc)) (accepted : Int → Obj → Py R)

/-- The server has answered the post with 200 or 202. -/
def Answered : Prop :=
  ∃ body response status, json = .ok body ∧ http (client.request path body) = .ok response ∧
    response.statusCode = .ok status ∧ (status = 200 ∨ status = 202)

/-- Whatever is raised first, there is a text for it. -/
structure Reports : Prop where
  serialised : ∀ e, json = .error e → e.Printable
  posted : ∀ body e, json = .ok body → http (client.request path body) = .error e → e.Printable
  answered : ∀ body response e, json = .ok body → http (client.request path body) = .ok response →
    response.statusCode = .error e → e.Printable
  parsed : ∀ body response status e, json = .ok body →
    http (client.request path body) = .ok response → response.statusCode = .ok status →
    (status = 200 ∨ status = 202) → response.json = .error e → e.Printable
  read : ∀ body response status obj e, json = .ok body →
    http (client.request path body) = .ok response → response.statusCode = .ok status →
    (status = 200 ∨ status = 202) → response.json = .ok obj → accepted status obj = .error e →
    e.Printable

variable (refused : Int → String → R)

/-- The ways in which the body of the `try` ends, when it does not raise by itself. -/
inductive Ends : Py R → Prop where
  | unserialised {e : PyException} : json = .error e → Ends (.error e)
  | unposted {body : RequestBody Doc} {e : PyException} : json = .ok body →
    http (client.request path body) = .error e → Ends (.error e)
  | unanswered {body : RequestBody Doc} {response : HttpResponse Obj} {e : PyException} :
    json = .ok body → http (client.request path body) = .ok response →
    response.statusCode = .error e → Ends (.error e)
  | refused {body : RequestBody Doc} {response : HttpResponse Obj} {status : Int} :
    json = .ok body → http (client.request path body) = .ok response →
    response.statusCode = .ok status → ¬(status = 200 ∨ status = 202) →
    Ends (.ok (refused status ("HTTP " ++ toString status)))
  | unparsed {body : RequestBody Doc} {response : HttpResponse Obj} {status : Int} {e : PyException} :
    json = .ok body → http (client.request path body) = .ok response →
    response.statusCode = .ok status → (status = 200 ∨ status = 202) →
    response.json = .error e → Ends (.error e)
  | read {body : RequestBody Doc} {response : HttpResponse Obj} {status : Int} {obj : Obj} :
    json = .ok body → http (client.request path body) = .ok response →
    response.statusCode = .ok status → (status = 200 ∨ status = 202) →
    response.json = .ok obj → Ends (accepted status obj)

variable {client http path json accepted refused} {failed : String → R}

variable (client http path json accepted refused) in
theorem ends_total : ∃ r, Ends client http path json accepted refused r := by
  cases json with
  | error e => exact ⟨_, .unserialised rfl⟩
  | ok body =>
    cases hpost : http (client.request path body) with
    | error e => exact ⟨_, .unposted rfl hpost⟩
    | ok response =>
      cases hstatus : response.statusCode with
      | error e => exact ⟨_, .unanswered rfl hpost hstatus⟩
      | ok status =>
        by_cases hanswer : status = 200 ∨ status = 202
        · cases hbody : response.json with
          | error e => exact ⟨_, .unparsed rfl hpost hstatus hanswer hbody⟩
          | ok obj => exact ⟨_, .read rfl hpost hstatus hanswer hbody⟩
        · exact ⟨_, .refused rfl hpost hstatus hanswer⟩

theorem attempt_of_ends (hquiet : client.raiseOnError = false) {r : Py R}
    (h : Ends client http path json accepted refused r) :
    client.attempt http path json accepted refused = r := by
  unfold attempt
  cases h with
  | unserialised hjson => rw [hjson]; rfl
  | unposted hjson hpost => simp only [hjson, hpost, bind, Except.bind]
  | unanswered hjson hpost hstatus => simp only [hjson, hpost, hstatus, bind, Except.bind]
  | refused hjson hpost hstatus hanswer =>
    simp only [hjson, hpost, hstatus, bind, Except.bind, if_neg hanswer, hquiet]
    rfl
  | unparsed hjson hpost hstatus hanswer hbody =>
    simp only [hjson, hpost, hstatus, bind, Except.bind, if_pos hanswer, hbody]
  | read hjson hpost hstatus hanswer hbody =>
    simp only [hjson, hpost, hstatus, bind, Except.bind, if_pos hanswer, hbody]

/-- The body ends in exactly one of these ways. -/
theorem ends_iff (hquiet : client.raiseOnError = false) {r : Py R} :
    Ends client http path json accepted refused r ↔
      client.attempt http path json accepted refused = r := by
  refine ⟨attempt_of_ends hquiet, ?_⟩
  rintro rfl
  obtain ⟨r, hends⟩ := ends_total client http path json accepted refused
  exact (attempt_of_ends hquiet hends) ▸ hends

variable (refused) in
/-- The exception that ends the body, if there is one, has a text. -/
theorem reports_iff : Reports client http path json accepted ↔
    ∀ e, Ends client http path json accepted refused (.error e) → e.Printable := by
  constructor
  · intro h e hends
    generalize hr : (.error e : Py R) = r at hends
    cases hends with
    | unserialised hjson => exact Except.error.inj hr ▸ h.serialised _ hjson
    | unposted hjson hpost => exact Except.error.inj hr ▸ h.posted _ _ hjson hpost
    | unanswered hjson hpost hstatus =>
      exact Except.error.inj hr ▸ h.answered _ _ _ hjson hpost hstatus
    | refused => cases hr
    | unparsed hjson hpost hstatus hanswer hbody =>
      exact Except.error.inj hr ▸ h.parsed _ _ _ _ hjson hpost hstatus hanswer hbody
    | read hjson hpost hstatus hanswer hbody =>
      exact h.read _ _ _ _ _ hjson hpost hstatus hanswer hbody hr.symm
  · intro h
    exact {
      serialised := fun e hjson => h e (.unserialised hjson)
      posted := fun _ e hjson hpost => h e (.unposted hjson hpost)
      answered := fun _ _ e hjson hpost hstatus => h e (.unanswered hjson hpost hstatus)
      parsed := fun _ _ _ e hjson hpost hstatus hanswer hbody =>
        h e (.unparsed hjson hpost hstatus hanswer hbody)
      read := fun _ _ _ _ e hjson hpost hstatus hanswer hbody hread =>
        h e (hread ▸ .read hjson hpost hstatus hanswer hbody) }

theorem handle_returns_iff (hquiet : client.raiseOnError = false) (e : PyException) :
    (∃ result, client.handle failed e = .ok result) ↔ e.Printable := by
  simp only [handle, hquiet, PyException.Printable]
  cases e.str with
  | ok text => exact iff_of_true ⟨failed text, rfl⟩ ⟨text, rfl⟩
  | error raised =>
    refine iff_of_false ?_ ?_
    · rintro ⟨result, hresult⟩
      cases hresult
    · rintro ⟨text, htext⟩
      cases htext

/-- The `try` returns exactly when the exception that ends its body, if there is one, has a text. -/
theorem tried_returns_iff (hquiet : client.raiseOnError = false) :
    (∃ result, client.tried http path json accepted refused failed = .ok result) ↔
      Reports client http path json accepted := by
  obtain ⟨r, hends⟩ := ends_total client http path json accepted refused
  have hattempt := attempt_of_ends hquiet hends
  have hreports : Reports client http path json accepted ↔ ∀ e, r = .error e → e.Printable := by
    rw [reports_iff refused]
    simp only [ends_iff hquiet, hattempt]
  rw [hreports, tried, hattempt]
  cases r with
  | ok result => exact iff_of_true ⟨result, rfl⟩ fun e he => nomatch he
  | error e =>
    refine (handle_returns_iff hquiet e).trans ⟨fun h e' he => ?_, fun h => h e rfl⟩
    cases he
    exact h

/-- A result that is not a failure by itself is one of an answered post. -/
theorem answered_of_tried (hquiet : client.raiseOnError = false) {success : R → Bool}
    (hrefused : ∀ status errorMsg, success (refused status errorMsg) = false)
    (hfailed : ∀ text, success (failed text) = false) {result : R}
    (h : client.tried http path json accepted refused failed = .ok result)
    (hsuccess : success result = true) : Answered client http path json := by
  obtain ⟨r, hends⟩ := ends_total client http path json accepted refused
  rw [tried, attempt_of_ends hquiet hends] at h
  have hhandled : ∀ e, client.handle failed e ≠ .ok result := by
    intro e he
    rw [handle, hquiet] at he
    cases htext : e.str with
    | error raised => rw [htext] at he; cases he
    | ok text =>
      rw [htext] at he
      cases he
      rw [hfailed] at hsuccess
      cases hsuccess
  cases hends with
  | unserialised => exact absurd h (hhandled _)
  | unposted => exact absurd h (hhandled _)
  | unanswered => exact absurd h (hhandled _)
  | refused =>
    cases h
    rw [hrefused] at hsuccess
    cases hsuccess
  | unparsed => exact absurd h (hhandled _)
  | read hjson hpost hstatus hanswer => exact ⟨_, _, _, hjson, hpost, hstatus, hanswer⟩

/-- The `try` returns a result, of success only for an answered post, exactly when it can report
what is raised in it. -/
theorem tried_iff (hquiet : client.raiseOnError = false) {success : R → Bool}
    (hrefused : ∀ status errorMsg, success (refused status errorMsg) = false)
    (hfailed : ∀ text, success (failed text) = false) :
    (∃ result, client.tried http path json accepted refused failed = .ok result ∧
      (success result = true → Answered client http path json)) ↔
      Reports client http path json accepted := by
  rw [← tried_returns_iff hquiet]
  refine exists_congr fun result => and_iff_left_of_imp fun hresult hsuccess => ?_
  exact answered_of_tried hquiet hrefused hfailed hresult hsuccess

end Tried

/-! ### One event and a batch -/

section Emit
variable {py : Callees Event Doc Obj} {client : DoxClient Doc Obj} {http : Http Doc Obj}

theorem ensureClient_ok (h : client.httpClient py = .ok http) :
    ensureClient py client = (.ok http, {client with http := some http}) := by
  simp only [ensureClient, h]

theorem ensureClient_error {e : PyException} (h : client.httpClient py = .error e) :
    ensureClient py client = (.error e, client) := by
  simp only [ensureClient, h]

theorem emit_result (h : client.httpClient py = .ok http) (event : Event) (now : Datetime) :
    (emit py event now client).1 = client.triedEvent py http event now := by
  rw [emit, Effect.bind_ok (ensureClient_ok h)]
  rfl

theorem emit_raises {e : PyException} (h : client.httpClient py = .error e) (event : Event)
    (now : Datetime) : (emit py event now client).1 = .error e := by
  rw [emit, Effect.bind_error (ensureClient_error h)]

theorem emitBatch_result (h : client.httpClient py = .ok http) {events : List Event}
    (hne : events ≠ []) (now : Datetime) : (emitBatch py events now client).1 =
      (events.mapM py.modelDump >>= fun docs => client.triedBatch py http docs now) := by
  cases events with
  | nil => exact absurd rfl hne
  | cons event events =>
    rw [emitBatch, Effect.bind_ok (ensureClient_ok h), Effect.bind_run, calling_run]
    cases (event :: events).mapM py.modelDump <;> rfl

theorem emitBatch_raises {e : PyException} (h : client.httpClient py = .error e)
    {events : List Event} (hne : events ≠ []) (now : Datetime) :
    (emitBatch py events now client).1 = .error e := by
  cases events with
  | nil => exact absurd rfl hne
  | cons event events => rw [emitBatch, Effect.bind_error (ensureClient_error h)]

variable (py client)

def EventAnswered (event : Event) : Prop :=
  ∃ http, client.httpClient py = .ok http ∧
    Answered client http "/v1/events" (RequestBody.event <$> py.modelDump event)

def BatchAnswered (events : List Event) : Prop :=
  ∃ http docs, client.httpClient py = .ok http ∧ events.mapM py.modelDump = .ok docs ∧
    Answered client http "/v1/events/batch" (.ok (.events docs))

/-- There is an HTTP client, and what is raised later has a text. -/
def EventReported (now : Datetime) (event : Event) : Prop :=
  ∃ http, client.httpClient py = .ok http ∧
    Reports client http "/v1/events" (RequestBody.event <$> py.modelDump event)
      (eventAccepted py now)

/-- There is an HTTP client, every event serialises, and what is raised later has a text. -/
def BatchReported (now : Datetime) (events : List Event) : Prop :=
  ∃ http docs, client.httpClient py = .ok http ∧ events.mapM py.modelDump = .ok docs ∧
    Reports client http "/v1/events/batch" (.ok (.events docs)) (batchAccepted py now)

variable {py client}

theorem emit_iff (hquiet : client.raiseOnError = false) (now : Datetime) (event : Event) :
    (∃ result, (emit py event now client).1 = .ok result ∧
      (result.success = true → EventAnswered py client event)) ↔
      EventReported py client now event := by
  cases hclient : client.httpClient py with
  | error e => simp [emit_raises hclient, EventReported, hclient]
  | ok http =>
    simp only [emit_result hclient, EventAnswered, EventReported, hclient, Except.ok.injEq,
      exists_eq_left']
    exact tried_iff hquiet (fun _ _ => rfl) fun _ => rfl

theorem emitBatch_iff (hquiet : client.raiseOnError = false) (now : Datetime)
    (events : List Event) :
    (∃ result, (emitBatch py events now client).1 = .ok result ∧
      (events ≠ [] → result.success = true → BatchAnswered py client events)) ↔
      events = [] ∨ BatchReported py client now events := by
  by_cases hne : events = []
  · subst hne
    exact iff_of_true ⟨_, rfl, fun hne => absurd rfl hne⟩ (Or.inl rfl)
  rw [or_iff_right hne]
  cases hclient : client.httpClient py with
  | error e => simp [emitBatch_raises hclient hne, BatchReported, hclient]
  | ok http =>
    cases hdocs : events.mapM py.modelDump with
    | error e =>
      have hresult : (emitBatch py events now client).1 = .error e := by
        rw [emitBatch_result hclient hne, hdocs]
        rfl
      simp [hresult, BatchReported, hclient, hdocs]
    | ok docs =>
      have hresult : (emitBatch py events now client).1 = client.triedBatch py http docs now := by
        rw [emitBatch_result hclient hne, hdocs]
        rfl
      simp only [hresult, ne_eq, hne, not_false_eq_true, forall_const, BatchAnswered, BatchReported,
        hclient, hdocs, Except.ok.injEq, exists_and_left, exists_eq_left']
      exact tried_iff hquiet (fun _ _ => rfl) fun _ => rfl

end Emit

/-- Without `raise_on_error`, `emit` and `emit_batch` return a result, of success only for an
answered post, exactly when there is an HTTP client, the events of a batch serialise, and what is
raised besides has a text. -/
theorem never_raises_iff {Event Doc Obj : Type} (py : Callees Event Doc Obj)
    (client : DoxClient Doc Obj) (hquiet : client.raiseOnError = false) (now : Datetime) :
    (∀ event, (∃ result, (emit py event now client).1 = .ok result ∧
      (result.success = true → EventAnswered py client event)) ↔
        EventReported py client now event) ∧
    ∀ events, (∃ result, (emitBatch py events now client).1 = .ok result ∧
      (events ≠ [] → result.success = true → BatchAnswered py client events)) ↔
        events = [] ∨ BatchReported py client now events :=
  ⟨emit_iff hquiet now, emitBatch_iff hquiet now⟩

/-- An event, or one with an `object()` in its payload. -/
inductive SampleEvent where
  | plain | holdsObject

def serializationError : PyException :=
  .printable "PydanticSerializationError" "Unable to serialize unknown type: <class 'object'>"

/-- A server that takes everything; an answer is known by the identifier of its event. -/
def sampleCallees : Callees SampleEvent Unit Nat where
  modelDump
    | .plain => .ok ()
    | .holdsObject => .error serializationError
  asyncClient := .ok fun _ => .ok {statusCode := .ok 202, json := .ok 1}
  getItem body _ := .ok body
  iterate ids := ([ids], none)
  uuid id := .ok id

def sampleClient : DoxClient Unit Nat :=
  .init "https://dox.example.com/" "token-abc" (.ofTenThousandths 50000) false none

theorem sample_reported : BatchReported sampleCallees sampleClient sampleNoon [.plain] := by
  refine ⟨_, [()], rfl, rfl, ?_⟩
  constructor
  · intro e hjson
    cases hjson
  · intro body e _ hpost
    cases hpost
  · intro body response e _ hpost hstatus
    cases hpost
    cases hstatus
  · intro body response status e _ hpost _ _ hparsed
    cases hpost
    cases hparsed
  · intro body response status obj e _ hpost _ _ hparsed hread
    cases hpost
    cases hparsed
    cases hread

/-- Where no server answers: every post fails with a text. -/
def offlineCallees : Callees SampleEvent Unit Nat :=
  {sampleCallees with asyncClient := .ok fun _ => .error (.printable "ConnectError" "refused")}

theorem offline_reported :
    BatchReported offlineCallees sampleClient sampleNoon [.plain, .plain] := by
  refine ⟨_, [(), ()], rfl, rfl, ?_⟩
  constructor
  · intro e hjson
    cases hjson
  · intro body e _ hpost
    cases hpost
    exact ⟨"refused", rfl⟩
  · intro body response e _ hpost
    cases hpost
  · intro body response status e _ hpost
    cases hpost
  · intro body response status obj e _ hpost
    cases hpost

/-- A batch that is accepted, and one whose post fails. -/
theorem never_raises_iff_sample :
    (∃ result, (emitBatch sampleCallees [.plain] sampleNoon sampleClient).1 = .ok result ∧
      result.success = true ∧ BatchAnswered sampleCallees sampleClient [.plain]) ∧
    ∃ result, (emitBatch offlineCallees [.plain, .plain] sampleNoon sampleClient).1 = .ok result ∧
      result.error = some "refused" ∧
      (result.success = true → BatchAnswered offlineCallees sampleClient [.plain, .plain]) := by
  constructor
  · obtain ⟨result, hresult, hanswered⟩ :=
      ((never_raises_iff sampleCallees sampleClient rfl sampleNoon).2 [.plain]).mpr
        (Or.inr sample_reported)
    have hsuccess : result.success = true := by
      cases hresult
      rfl
    exact ⟨result, hresult, hsuccess, hanswered (List.cons_ne_nil _ _) hsuccess⟩
  · obtain ⟨result, hresult, hanswered⟩ :=
      ((never_raises_iff offlineCallees sampleClient rfl sampleNoon).2 [.plain, .plain]).mpr
        (Or.inr offline_reported)
    have herror : result.error = some "refused" := by
      cases hresult
      rfl
    exact ⟨result, hresult, herror, hanswered (List.cons_ne_nil _ _)⟩

/-- An event that cannot be serialised is a failed result of `emit` and escapes `emit_batch`. -/
theorem batch_raises :
    (∃ result, (emit sampleCallees .holdsObject sampleNoon sampleClient).1 = .ok result) ∧
    ¬∃ result, (emitBatch sampleCallees [.holdsObject] sampleNoon sampleClient).1 = .ok result := by
  refine ⟨⟨_, rfl⟩, ?_⟩
  rintro ⟨result, hresult⟩
  cases hresult

end DoxClient
end Dox
