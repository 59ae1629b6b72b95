import DoxGovernance.Gateway.Isolation
import DoxGovernance.Ingestion.Outages
import DoxGovernance.System.Calls

/-!
# What an answer tells

Every exception is answered with a status, and so is a response that cannot be written. A request
that is answered with an error other than 500 has changed nothing. One that is answered 500 may
have done its work: an update of an agent, or one whose response cannot be written. The status
of an ingestion request tells what became of its events, unless it is 500: then they are all
stored or none is, and the status does not tell which.
-/

set_option autoImplicit false

namespace Dox
open Effect

/-! ### The statuses -/

/-- JSON, or the text that the server sends for an exception without a handler. -/
inductive ErrorContent where
  | json (members : List (String × String))
  | text (content : String)

structure ErrorResponse where
  status : Nat
  headers : List (String × String) := []
  content : ErrorContent

def errorBody (code detail : String) : ErrorContent :=
  .json [("error", code), ("detail", detail)]

/-- `add_exception_handlers`; a `DoxException` of no listed class is answered 400. -/
def Exc.response : Exc → ErrorResponse
  | notFound detail => {status := 404, content := errorBody "not_found" detail}
  | authentication detail => {
      status := 401
      headers := [("WWW-Authenticate", "Bearer")]
      content := errorBody "authentication_error" detail }
  | authorization detail => {status := 403, content := errorBody "authorization_error" detail}
  | quotaExceeded detail => {status := 429, content := errorBody "quota_exceeded" detail}
  | conflict detail => {status := 400, content := errorBody "conflict" detail}
  | httpException status detail => {status := status, content := .json [("detail", detail)]}
  | integrityError _ | dataError _ | unicodeEncodeError | valueError _ | outage _ =>
    {status := 500, content := .text "Internal Server Error"}

/-- The `status_code` of each route. -/
def Route.statusCode : Route → Nat
  | audit (.recordEntry _) => 201
  | drift (.computeBaseline _) => 201
  | drift (.deactivateBaseline _) => 204
  | ingestion _ => 202
  | notify (.registerWebhook _) => 201
  | notify (.deactivateWebhook _) => 204
  | quota (.provisionQuota _) => 201
  | registry (.registerAgent _) => 201
  | registry (.deactivateAgent _) => 204
  | sentinel (.createAlert _) | sentinel (.createPolicy _) => 201
  | sentinel (.deactivatePolicy _) => 204
  | _ => 200

theorem Route.statusCode_lt (route : Route) : route.statusCode < 400 := by
  unfold statusCode
  split <;> decide

structure Answer where
  status : Nat
  content : Body ⊕ ErrorContent

def Gateway.respond (gateway : Gateway) (request : Request) (w : World) : Answer × World :=
  match gateway.handle request w with
  | (.ok body, w') =>
    if body.renders then (⟨request.route.statusCode, .inl body⟩, w')
    else (⟨500, .inr (.text "Internal Server Error")⟩, w')
  | (.error e, w') => (⟨e.response.status, .inr e.response.content⟩, w')

namespace Gateway
variable {gateway : Gateway} {request : Request} {w w' : World} {body : Body}

theorem respond_ok (h : gateway.handle request w = (.ok body, w')) (hrenders : body.renders = true) :
    gateway.respond request w = (⟨request.route.statusCode, .inl body⟩, w') := by
  rw [respond, h]
  exact if_pos hrenders

theorem respond_unrendered (h : gateway.handle request w = (.ok body, w'))
    (hrenders : body.renders = false) :
    gateway.respond request w = (⟨500, .inr (.text "Internal Server Error")⟩, w') := by
  rw [respond, h]
  exact if_neg (Bool.eq_false_iff.mp hrenders)

theorem respond_error {e : Exc} (h : gateway.handle request w = (.error e, w')) :
    gateway.respond request w = (⟨e.response.status, .inr e.response.content⟩, w') := by
  rw [respond, h]

end Gateway

/-! ### Requests that change nothing when they fail -/

section Aborts

theorem orNotFound_aborts {α : Type} {call : Service α} (h : Aborts call) (detail : String) :
    Aborts (orNotFound detail call) :=
  h.rethrow (notFoundAs detail)

theorem aborts_map {α : Type} {call : Service α} {f : α → Body} (h : Aborts call) :
    Aborts (do return f (← call)) :=
  h.bind_total fun a => Total.pure (f a)

theorem QuotaService.getStatus_total (t : String) : Total (QuotaService.getStatus t) := by
  intro w
  obtain ⟨w', hrun, -⟩ := QuotaService.getStatus_spec t w
  exact ⟨_, w', hrun⟩

theorem AuditRequest.handle_aborts (scan : Scan AuditEntry) (coldPool : Bool)
    (request : AuditRequest) : Aborts (request.handle scan coldPool) := by
  cases request with
  | recordEntry create => exact aborts_map (Total.change _).aborts
  | listEntries filter query =>
    dsimp only [handle]
    split
    · exact Aborts.raise _
    · exact ((Total.gets _).bind fun _ => (Total.gets _).bind fun _ => Total.pure _).aborts
  | getEntry tenantId entryId =>
    have hfinds := orNotFound_finds (AuditService.get_finds entryId) "Audit entry not found"
    refine Aborts.bind_reads hfinds.reads fun entry => ?_
    unfold ownEntry
    split
    · exact Aborts.raise _
    · exact (Total.pure _).aborts

theorem ComplianceRequest.handle_aborts (eventScan : Scan EventRecord)
    (alertScan : Scan SentinelAlert) (policyScan : Scan Policy) (request : ComplianceRequest) :
    Aborts (request.handle eventScan alertScan policyScan) := by
  intro w e w' h
  obtain ⟨w'', q, -, report, hrun, -⟩ := ComplianceRequest.generateReport_spec eventScan alertScan
    policyScan request.tenantId request.lookbackHours w
  cases (bind_ok hrun).symm.trans h

theorem DriftRequest.handle_aborts (service : DriftDetectionService) (eventScan : Scan EventRecord)
    (baselineScan : Scan AgentBaseline) (request : DriftRequest) :
    Aborts (request.handle service eventScan baselineScan) := by
  cases request with
  | computeBaseline create =>
    exact aborts_map ((Total.gets _).bind fun _ => Total.change _).aborts
  | listBaselines tenantId agentId activeOnly => exact aborts_map (Total.gets _).aborts
  | getBaseline baselineId =>
    exact aborts_map (orNotFound_aborts (DriftDetectionService.getBaseline_finds baselineId).aborts _)
  | deactivateBaseline baselineId =>
    exact aborts_map (orNotFound_aborts
      ((DriftDetectionService.getBaseline_finds baselineId).aborts_bind fun _ => Total.change _) _)
  | analyzeDrift request =>
    apply aborts_map
    refine ((Total.gets _).bind fun baseline => (Total.gets _).bind fun recent => ?_).aborts
    refine Total.bind (fun w => ?_) fun _ => Total.pure _
    obtain ⟨alerts, hrun, -⟩ := DriftDetectionService.raiseAlert_run _ _ w
    exact ⟨_, _, hrun⟩

theorem NotifyRequest.handle_aborts (hmacSha256 : ByteArray → ByteArray → String)
    (scan : Scan WebhookEndpoint) (request : NotifyRequest) :
    Aborts (request.handle {http := none} hmacSha256 scan) := by
  cases request with
  | registerWebhook create => exact aborts_map (Total.change _).aborts
  | listWebhooks tenantId activeOnly => exact aborts_map (Total.gets _).aborts
  | getWebhook webhookId =>
    exact aborts_map (orNotFound_aborts (NotificationService.getWebhook_finds webhookId).aborts _)
  | deactivateWebhook webhookId =>
    exact aborts_map (orNotFound_aborts
      ((NotificationService.getWebhook_finds webhookId).aborts_bind fun _ => Total.change _) _)
  | dispatch request =>
    apply aborts_map
    refine ((Total.gets _).bind fun webhooks => Total.bind ?_ fun _ => Total.pure _).aborts
    refine Total.mapEach (fun webhook => ?_) _
    refine (Total.change _).bind fun deliveryId => (Total.gets _).bind fun time => ?_
    exact (Total.change _).bind fun _ => Total.pure _

theorem PolicyRequest.handle_aborts (scan : Scan Policy) (request : PolicyRequest) :
    Aborts (request.handle scan) := by
  cases request with
  | getPolicy policyId =>
    exact aborts_map (orNotFound_aborts (PolicyEvaluatorService.getPolicy_finds policyId).aborts _)
  | updatePolicy policyId update =>
    exact aborts_map (orNotFound_aborts
      ((PolicyEvaluatorService.getPolicy_finds policyId).aborts_bind fun _ => Total.change _) _)
  | evaluatePolicies request =>
    exact aborts_map ((Total.gets _).bind fun _ => Total.pure _).aborts

/-- A query writes nowhere. -/
theorem QueryRequest.handle_aborts (sha256 : ByteArray → String) (scan : Scan EventRecord)
    (request : QueryRequest) : Aborts (request.handle sha256 scan) := by
  intro w e w' h
  have hwrites := request.handle_writes sha256 sha256 scan w
  rw [h] at hwrites
  exact hwrites.relation (R := fun w w' => w' = w) (fun _ => rfl) (fun hab hbc => hbc.trans hab)
    fun p hp => absurd hp List.not_mem_nil

theorem QuotaRequest.handle_aborts (request : QuotaRequest) : Aborts request.handle := by
  apply Total.aborts
  cases request with
  | provisionQuota create =>
    refine Total.bind (fun w => ?_) fun _ => Total.pure _
    obtain ⟨w', hrun, -⟩ := QuotaService.provision_spec create w
    exact ⟨_, w', hrun⟩
  | getQuotaStatus tenantId =>
    exact (QuotaService.getStatus_total tenantId).bind fun _ => Total.pure _
  | resetDailyQuota tenantId =>
    refine Total.bind (fun w => ?_) fun _ => Total.pure _
    obtain ⟨w', hrun, -⟩ := QuotaService.resetDaily_spec tenantId w
    exact ⟨_, w', hrun⟩

theorem AgentRegistryService.create_aborts (fields : AgentProfileCreate) :
    Aborts (AgentRegistryService.create fields) := by
  refine Aborts.bind_reads (fun w => rfl) fun existing => ?_
  cases existing with
  | some profile => exact Aborts.raise _
  | none =>
    intro w e w' h
    dsimp only [AgentRegistryService.insert] at h
    cases hadd : w.agents.add? (AgentRegistryService.newProfile w.clock fields) fun _ => rfl with
    | some agents =>
      rw [hadd] at h
      cases h
    | none =>
      rw [hadd] at h
      cases h
      rfl

def RegistryRequest.isUpdate : RegistryRequest → Bool
  | updateAgent _ _ => true
  | _ => false

theorem RegistryRequest.handle_aborts (scan : Scan AgentProfile) {request : RegistryRequest}
    (h : request.isUpdate = false) : Aborts (request.handle scan) := by
  cases request with
  | registerAgent create =>
    exact aborts_map ((AgentRegistryService.create_aborts create).rethrow conflictAs)
  | listAgents tenantId activeOnly query => exact aborts_map (Total.gets _).aborts
  | getAgent profileId =>
    exact aborts_map (orNotFound_aborts (AgentRegistryService.get_finds profileId).aborts _)
  | updateAgent profileId update => cases h
  | deactivateAgent profileId =>
    exact aborts_map (orNotFound_aborts ((AgentRegistryService.get_finds profileId).aborts_bind
      fun _ => (Total.change _).bind fun _ => Total.pure _) _)
  | heartbeat tenantId agentId =>
    exact aborts_map (orNotFound_aborts
      ((AgentRegistryService.getByAgentId_finds tenantId agentId).aborts_bind
        fun _ => (Total.gets _).bind fun _ => Total.change _) _)

/-- How the update of an agent ends: it is an error as soon as it changes a column. -/
def RegistryRequest.updateStatus (profileId : Uuid) (update : AgentProfileUpdate) (w : World) :
    Nat :=
  match w.agents.find? profileId with
  | none => 404
  | some profile =>
    if AgentRegistryService.changes (AgentRegistryService.patched update) profile then 500 else 200

/-- An update of an agent leaves what its service leaves, whether its response can be read or not. -/
theorem RegistryRequest.updateAgent_run (scan : Scan AgentProfile) (profileId : Uuid)
    (update : AgentProfileUpdate) (w : World) :
    ((∃ profile, (updateAgent profileId update).handle scan w =
        (.ok (.agent profile), (AgentRegistryService.update profileId update w).2) ∧
        updateStatus profileId update w = 200) ∨
      ∃ e, (updateAgent profileId update).handle scan w =
        (.error e, (AgentRegistryService.update profileId update w).2) ∧
        e.response.status = updateStatus profileId update w) ∧
    (updateStatus profileId update w ≠ 500 → updateStatus profileId update w ≠ 200 →
      (AgentRegistryService.update profileId update w).2 = w) := by
  have hfinds := AgentRegistryService.get_finds profileId
  unfold updateStatus
  cases hfind : w.agents.find? profileId with
  | none =>
    have hget : AgentRegistryService.get profileId w =
        (.error (.notFound s!"AgentProfile {Text.uuid profileId} not found"), w) := by
      rw [AgentRegistryService.get, hfind]
    have hupdate : AgentRegistryService.update profileId update w =
        (.error (.notFound s!"AgentProfile {Text.uuid profileId} not found"), w) := bind_error hget
    have hraised : orNotFound "Agent not found" (AgentRegistryService.update profileId update) w =
        (.error (.httpException 404 "Agent not found"), w) := recover_error hupdate
    rw [hupdate]
    refine ⟨Or.inr ⟨.httpException 404 "Agent not found", ?_, rfl⟩, fun _ _ => rfl⟩
    exact (bind_ok (gets_run _ w)).trans (bind_error hraised)
  | some profile =>
    obtain ⟨saved, w', hsave⟩ : ∃ saved w', AgentRegistryService.save
      (AgentRegistryService.patched update) profile w = (.ok saved, w') := ⟨_, _, rfl⟩
    have hupdate : AgentRegistryService.update profileId update w = (.ok saved, w') :=
      (bind_ok (hfinds.found hfind)).trans hsave
    have hrun : orNotFound "Agent not found" (AgentRegistryService.update profileId update) w =
        (.ok saved, w') := recover_ok hupdate
    have hhandle : (updateAgent profileId update).handle scan w =
        (if AgentRegistryService.changes (AgentRegistryService.patched update) profile then
          Effect.raise missingGreenlet else return Body.agent saved : Service Body) w' := by
      refine (bind_ok (gets_run _ w)).trans ((bind_ok hrun).trans ?_)
      rw [hfind, Option.any_some]
    rw [hhandle, hupdate]
    dsimp only
    split
    · exact ⟨Or.inr ⟨missingGreenlet, rfl, rfl⟩, fun h => absurd rfl h⟩
    · exact ⟨Or.inl ⟨saved, rfl, rfl⟩, fun _ h => absurd rfl h⟩

theorem SentinelService.deactivatePolicy_aborts (policyId : Uuid) :
    Aborts (SentinelService.deactivatePolicy policyId) := by
  intro w e w' h
  unfold SentinelService.deactivatePolicy at h
  split at h
  · cases h
    rfl
  · cases h

theorem SentinelRequest.handle_aborts (alertScan : Scan SentinelAlert) (policyScan : Scan Policy)
    (request : SentinelRequest) : Aborts (request.handle alertScan policyScan) := by
  cases request with
  | createAlert create => exact aborts_map (Total.change _).aborts
  | listAlerts filter query => exact aborts_map (Total.gets _).aborts
  | getAlert alertId =>
    exact aborts_map (orNotFound_aborts (SentinelService.getAlert_finds alertId).aborts _)
  | resolveAlert alertId action =>
    exact aborts_map (orNotFound_aborts
      ((SentinelService.getAlert_finds alertId).aborts_bind fun _ => Total.change _) _)
  | createPolicy create => exact aborts_map (Total.change _).aborts
  | listPolicies tenantId activeOnly => exact aborts_map (Total.gets _).aborts
  | deactivatePolicy policyId =>
    exact aborts_map (orNotFound_aborts (SentinelService.deactivatePolicy_aborts policyId) _)

def Route.isIngestion : Route → Bool
  | ingestion _ => true
  | _ => false

def Route.isAgentUpdate : Route → Bool
  | registry request => request.isUpdate
  | _ => false

theorem Route.handle_aborts (gateway : Gateway) (scans : Scans) (outage : Outage) {route : Route}
    (h : route.isIngestion = false) (hupdate : route.isAgentUpdate = false) :
    Aborts (route.handle gateway scans outage) := by
  cases route with
  | audit request => exact request.handle_aborts _ _
  | compliance request => exact request.handle_aborts _ _ _
  | drift request => exact request.handle_aborts _ _ _
  | ingestion request => cases h
  | notify request => exact request.handle_aborts _ _
  | policy request => exact request.handle_aborts _
  | query request => exact request.handle_aborts _ _
  | quota request => exact request.handle_aborts
  | registry request => exact RegistryRequest.handle_aborts _ hupdate
  | sentinel request => exact request.handle_aborts _ _

end Aborts

/-! ### Ingestion -/

namespace IngestionService
open QuotaService (account)
variable {service : IngestionService} {sha256 : ByteArray → String} {outage : Outage} {d : Date}
  {w w' : World} {events : List CanonicalEvent} {e : Exc}

def IsServerError (e : Exc) : Prop := e.response.status = 500

/-- Some tenant has less room than it has events. -/
def Exceeded (service : IngestionService) (d : Date) (w : World) (events : List CanonicalEvent) :
    Prop :=
  service.quota = true ∧ ∃ e ∈ events, (account d w e.tenantId).remaining <
    (events.map CanonicalEvent.tenantId).count e.tenantId

theorem checks_raise (ts : List String) : Raises (fun e => e.response.status = 429)
    (forEach QuotaService.checkAndIncrement ts) := by
  apply Raises.forEach
  intro t _ w e w' h
  by_cases hroom : QuotaService.HasRoom (QuotaService.effective w t)
  · obtain ⟨w'', hrun, -⟩ := QuotaService.checkAndIncrement_admits hroom
    cases hrun.symm.trans h
  · obtain ⟨w'', detail, hrun, -⟩ := QuotaService.checkAndIncrement_refuses hroom
    cases hrun.symm.trans h
    rfl

theorem fromCanonical_raises (sha256 : ByteArray → String) (event : CanonicalEvent) :
    Raises IsServerError (fromCanonical sha256 event) := by
  intro w e w' h
  cases hhash : event.recordable with
  | true =>
    obtain ⟨record, hrun, -⟩ := fromCanonical_spec sha256 w hhash
    cases hrun.symm.trans h
  | false =>
    obtain ⟨e, he, hrun⟩ := fromCanonical_refuses sha256 w hhash
    cases hrun.symm.trans h
    rcases List.mem_cons.mp he with rfl | hdeep
    · rfl
    · rw [List.mem_singleton.mp hdeep]
      rfl

theorem insertRecords_raises (records : List EventRecord) :
    Raises IsServerError (insertRecords records) := by
  intro w e w' h
  unfold insertRecords at h
  split at h
  · cases h
    rfl
  · split at h
    · cases h
    · cases h
      rfl

theorem exceeded_iff : service.Exceeded d w events ↔
    ∃ k, (account d w k).remaining < (service.charged events).count k := by
  unfold Exceeded charged
  cases service.quota with
  | false => simp
  | true =>
    have hroom : (∀ e ∈ events, (events.map CanonicalEvent.tenantId).count e.tenantId ≤
        (account d w e.tenantId).remaining) ↔
        ∀ k, (events.map CanonicalEvent.tenantId).count k ≤ (account d w k).remaining := room_iff
    simpa using not_congr hroom

/-- A call that is not accepted is answered 429 when a tenant has too little room, else 500. -/
theorem accept_status (hd : w.clock.date = d)
    (h : service.accept sha256 events w = (.error e, w')) :
    (service.Exceeded d w events ∧ e.response.status = 429) ∨
      (¬service.Exceeded d w events ∧ e.response.status = 500) := by
  rw [accept, checkQuotas_eq] at h
  rw [exceeded_iff]
  by_cases hover : ∃ k, (account d w k).remaining < (service.charged events).count k
  · obtain ⟨w'', e', hchecks, -⟩ := QuotaService.checks_refuse hd hover
    cases (bind_error hchecks).symm.trans h
    exact Or.inl ⟨hover, checks_raise _ _ _ _ hchecks⟩
  · have hroom : ∀ k, (service.charged events).count k ≤ (account d w k).remaining := by
      simpa using hover
    obtain ⟨w'', hchecks, -⟩ := QuotaService.checks_charge hd hroom
    rw [bind_ok hchecks] at h
    have hrest : Raises IsServerError (do
        let records ← mapEach (fromCanonical sha256) events
        insertRecords records
        return records) :=
      (Raises.mapEach fun event _ => fromCanonical_raises sha256 event).bind fun records =>
        (insertRecords_raises records).bind fun _ => Raises.of_total (Total.pure records)
    exact Or.inr ⟨hover, hrest _ _ _ h⟩

theorem announceFault_status (h : service.announceFault outage events = some e) :
    e.response.status = 500 := by
  have houtage : ∃ message, e = .outage message := by
    rcases Option.or_eq_some_iff.mp h with hpublish | ⟨-, halert⟩
    · obtain ⟨event, -, hfault⟩ := List.exists_of_findSome?_eq_some hpublish
      obtain ⟨message, -, rfl⟩ := Option.map_eq_some_iff.mp hfault
      exact ⟨message, rfl⟩
    · obtain ⟨event, -, hfault⟩ := List.exists_of_findSome?_eq_some halert
      unfold alertFault at hfault
      split at hfault
      · obtain ⟨message, -, rfl⟩ := Option.map_eq_some_iff.mp hfault
        exact ⟨message, rfl⟩
      · cases hfault
  obtain ⟨message, rfl⟩ := houtage
  rfl

/-- What a status tells of the events of a call, and what the call has made of them. -/
structure Tells (service : IngestionService) (sha256 : ByteArray → String) (outage : Outage)
    (events : List CanonicalEvent) (w : World) (status : Nat) (w' : World) : Prop where
  accepted : status = 202 ↔
    service.Admissible w.clock.date w events ∧ service.Undisturbed outage events
  exceeded : status = 429 ↔ service.Exceeded w.clock.date w events
  failed : status = 202 ∨ status = 429 ∨ status = 500
  stored : service.Admissible w.clock.date w events → ∃ records,
    List.Forall₂ (EventRecord.Describes sha256) records events ∧
    w'.events.rows = w.events.rows ++ records ∧ ∀ k, account w.clock.date w' k =
      (account w.clock.date w k).charge ((service.charged events).count k)
  dropped : ¬service.Admissible w.clock.date w events →
    ∃ quotas nextUuid, w' = {w with quotas, nextUuid}

def status : Except Exc (List EventRecord) → Nat
  | .ok _ => 202
  | .error e => e.response.status

theorem not_exceeded_of_admissible (h : service.Admissible d w events) :
    ¬service.Exceeded d w events := by
  rintro ⟨hquota, event, hevent, hover⟩
  exact absurd (h.room hquota event hevent) (Nat.not_le.mpr hover)

theorem submit_tells (sha256 : ByteArray → String) (outage : Outage) (metric : Metric)
    (events : List CanonicalEvent) (w : World) : service.Tells sha256 outage events w
      (status (service.submit sha256 outage metric events w).1)
      (service.submit sha256 outage metric events w).2 := by
  by_cases hadmissible : service.Admissible w.clock.date w events
  · have hroom := not_exceeded_of_admissible hadmissible
    obtain ⟨w', records, haccept, hdescribes, hrows, haccount, -⟩ :=
      accept_spec sha256 rfl hadmissible
    obtain ⟨w'', hannounce, hannounced⟩ := announce_eq service outage metric events w'
    obtain ⟨bus, alerts, metrics, rfl⟩ := hannounced.rest
    have hstored : ∃ records, List.Forall₂ (EventRecord.Describes sha256) records events ∧
      w'.events.rows = w.events.rows ++ records ∧ ∀ k, account w.clock.date w' k =
        (account w.clock.date w k).charge ((service.charged events).count k) :=
      ⟨records, hdescribes, hrows, haccount⟩
    rw [submit, bind_ok haccept, bind_run, hannounce]
    cases hfault : service.announceFault outage events with
    | none =>
      exact {
        accepted := iff_of_true rfl ⟨hadmissible, announceFault_eq_none.mp hfault⟩
        exceeded := iff_of_false (show 202 ≠ 429 by decide) hroom
        failed := Or.inl rfl
        stored := fun _ => hstored
        dropped := fun hnot => absurd hadmissible hnot }
    | some e =>
      have hstatus := announceFault_status hfault
      have hhit : ¬service.Undisturbed outage events := by
        rw [← announceFault_eq_none, hfault]
        exact Option.some_ne_none e
      exact {
        accepted := iff_of_false (by rw [outcome, status, hstatus]; decide) fun h => hhit h.2
        exceeded := iff_of_false (by rw [outcome, status, hstatus]; decide) hroom
        failed := Or.inr (Or.inr hstatus)
        stored := fun _ => hstored
        dropped := fun hnot => absurd hadmissible hnot }
  · obtain ⟨w', e, haccept, hdropped⟩ := accept_refuses sha256 rfl hadmissible
    rw [submit, bind_error haccept]
    rcases accept_status rfl haccept with ⟨hexceeded, hstatus⟩ | ⟨hexceeded, hstatus⟩
    · exact {
        accepted := iff_of_false (by rw [status, hstatus]; decide) fun h => hadmissible h.1
        exceeded := iff_of_true hstatus hexceeded
        failed := Or.inr (Or.inl hstatus)
        stored := fun h => absurd h hadmissible
        dropped := fun _ => hdropped }
    · exact {
        accepted := iff_of_false (by rw [status, hstatus]; decide) fun h => hadmissible h.1
        exceeded := iff_of_false (by rw [status, hstatus]; decide) hexceeded
        failed := Or.inr (Or.inr hstatus)
        stored := fun h => absurd h hadmissible
        dropped := fun _ => hdropped }

end IngestionService

namespace IngestionRequest
variable (service : IngestionService) (sha256 : ByteArray → String) (outage : Outage)

def op : IngestionRequest → IngestOp
  | ingestEvent event => .ingest event
  | ingestBatch request => .ingestBatch request.events

theorem op_events (request : IngestionRequest) :
    request.op.events = request.events ∧ request.op.events ≠ [] := by
  cases request with
  | ingestEvent event => exact ⟨rfl, List.cons_ne_nil event []⟩
  | ingestBatch request =>
    refine ⟨rfl, fun hempty => ?_⟩
    have hbounds := request.bounds.1
    rw [show request.events = [] from hempty] at hbounds
    cases hbounds

/-- The body that a route answers with when the service returns records. -/
def Replies (records : List EventRecord) (body : Body) : IngestionRequest → Prop
  | ingestEvent _ => ∃ record receivedAt, records = [record] ∧
      body = .ingest {eventId := record.eventId, receivedAt}
  | ingestBatch _ => body = .ingestBatch {
      accepted := records.length
      eventIds := records.map EventRecord.eventId }

theorem renders_of_replies {request : IngestionRequest} {records : List EventRecord} {body : Body}
    (h : request.Replies records body) : body.renders = true := by
  cases request with
  | ingestEvent event =>
    obtain ⟨record, receivedAt, -, rfl⟩ := h
    rfl
  | ingestBatch request =>
    cases h
    simp [Body.renders, Body.items, Item.renders]

/-- The route raises what the service raises, and otherwise replies with what it returns; it leaves
what the service leaves. -/
theorem handle_replies (request : IngestionRequest) (w : World) :
    (∃ body records w', request.handle service sha256 outage w = (.ok body, w') ∧
      request.op.run service sha256 outage w = (.ok records, w') ∧
      request.Replies records body) ∨
    ∃ e w', request.handle service sha256 outage w = (.error e, w') ∧
      request.op.run service sha256 outage w = (.error e, w') := by
  cases request with
  | ingestEvent event =>
    dsimp only [handle, op, IngestOp.run]
    cases hrun : service.ingest sha256 outage event w with
    | mk r w' =>
      cases r with
      | ok record =>
        exact Or.inl ⟨_, [record], w', bind_ok hrun, bind_ok hrun, record, _, rfl, rfl⟩
      | error e => exact Or.inr ⟨e, w', bind_error hrun, bind_error hrun⟩
  | ingestBatch request =>
    dsimp only [handle, op, IngestOp.run]
    cases hrun : service.ingestBatch sha256 outage request.events w with
    | mk r w' =>
      cases r with
      | ok records => exact Or.inl ⟨_, records, w', bind_ok hrun, rfl, rfl⟩
      | error e => exact Or.inr ⟨e, w', bind_error hrun, rfl⟩

end IngestionRequest

namespace Gateway
variable {gateway : Gateway} {request : Request} {w : World}

/-- What an answer tells of its request, and of what the request has made of the world. -/
structure Tells (gateway : Gateway) (request : Request) (w : World) (status : Nat) (w' : World) :
    Prop where
  refused : ∀ e, gateway.authorise request w.clock = .error e →
    (status = 401 ∨ status = 403) ∧ w' = w
  unchanged : request.route.isIngestion = false → 400 ≤ status → status ≠ 500 → w' = w
  broken : request.route.isIngestion = false → status = 500 → w' = w ∨
    request.route.isAgentUpdate = true ∨
    ∃ body, gateway.handle request w = (.ok body, w') ∧ body.renders = false
  agentUpdate : ∀ profileId update payload,
    request.route = .registry (.updateAgent profileId update) →
    gateway.authorise request w.clock = .ok payload → gateway.database = true →
    status = RegistryRequest.updateStatus profileId update w ∧
      w' = (AgentRegistryService.update profileId update w).2
  -- PostgreSQL refuses the name of a tenant with a NUL before it looks for the row
  ingestion : ∀ r payload, request.route = .ingestion r →
    (∀ event ∈ r.events, hasNul event.tenantId = false) →
    gateway.authorise request w.clock = .ok payload → gateway.database = true →
    gateway.registry = true → IngestionService.Tells {sentinel := true, quota := true}
      gateway.sha256 request.outage r.events w status w'

theorem authorise_status {e : Exc} (h : gateway.authorise request w.clock = .error e) :
    e.response.status = 401 ∨ e.response.status = 403 := by
  unfold authorise at h
  cases huser : getCurrentUser (gateway.jwt w.clock) request.token with
  | error e' =>
    rw [huser] at h
    cases h
    left
    unfold getCurrentUser at huser
    split at huser
    · cases huser
      rfl
    · unfold decodeAccessToken at huser
      split at huser
      · cases huser
      · cases huser
        rfl
  | ok payload =>
    rw [huser] at h
    dsimp only at h
    unfold requireRole at h
    split at h
    · cases h
    · cases h
      exact Or.inr rfl

theorem handle_aborts (gateway : Gateway) (h : request.route.isIngestion = false)
    (hupdate : request.route.isAgentUpdate = false) : Aborts (gateway.handle request) := by
  refine Aborts.bind_reads (fun _ => rfl) fun time => ?_
  cases gateway.authorise request time with
  | error e => exact Aborts.raise e
  | ok payload =>
    dsimp only [withSession]
    split
    · exact Route.handle_aborts gateway request.scans request.outage h hupdate
    · exact Aborts.raise _

theorem respond_ingestion {r : IngestionRequest} {payload : TokenPayload}
    (hroute : request.route = .ingestion r)
    (hauth : gateway.authorise request w.clock = .ok payload) (hdatabase : gateway.database = true)
    (hregistry : gateway.registry = true) :
    (gateway.respond request w).1.status = IngestionService.status (r.op.run
        {sentinel := true, quota := true} gateway.sha256 request.outage w).1 ∧
      (gateway.respond request w).2 = (r.op.run {sentinel := true, quota := true} gateway.sha256
        request.outage w).2 := by
  have hhandle : gateway.handle request w = r.handle {sentinel := true, quota := true}
      gateway.sha256 request.outage w := by
    rw [handle_of_authorised hauth, withSession, if_pos hdatabase, hroute, Route.handle,
      if_pos hregistry]
  rcases r.handle_replies {sentinel := true, quota := true} gateway.sha256 request.outage w with
    ⟨body, records, w', hrun, hop, hreplies⟩ | ⟨e, w', hrun, hop⟩
  · rw [respond_ok (hhandle.trans hrun) (IngestionRequest.renders_of_replies hreplies), hop, hroute]
    exact ⟨rfl, rfl⟩
  · rw [respond_error (hhandle.trans hrun), hop]
    exact ⟨rfl, rfl⟩

/-- The update of an agent that is let through. -/
theorem respond_agentUpdate {profileId : Uuid} {update : AgentProfileUpdate} {payload : TokenPayload}
    (hroute : request.route = .registry (.updateAgent profileId update))
    (hauth : gateway.authorise request w.clock = .ok payload)
    (hdatabase : gateway.database = true) :
    (gateway.respond request w).1.status = RegistryRequest.updateStatus profileId update w ∧
      (gateway.respond request w).2 = (AgentRegistryService.update profileId update w).2 := by
  have hhandle : gateway.handle request w =
      (RegistryRequest.updateAgent profileId update).handle request.scans.agents w := by
    rw [handle_of_authorised hauth, withSession, if_pos hdatabase, hroute, Route.handle]
  rcases (RegistryRequest.updateAgent_run request.scans.agents profileId update w).1 with
    ⟨profile, hrun, hstatus⟩ | ⟨e, hrun, hstatus⟩
  · rw [respond_ok (hhandle.trans hrun) rfl, hroute, hstatus]
    exact ⟨rfl, rfl⟩
  · rw [respond_error (hhandle.trans hrun), hstatus]
    exact ⟨rfl, rfl⟩

/-- An update of an agent that is answered with an error other than 500 has found no agent, or was
not let through. -/
theorem agentUpdate_unchanged (h : request.route.isAgentUpdate = true)
    (hstatus : 400 ≤ (gateway.respond request w).1.status)
    (hne : (gateway.respond request w).1.status ≠ 500) : (gateway.respond request w).2 = w := by
  obtain ⟨profileId, update, hroute⟩ : ∃ profileId update,
      request.route = .registry (.updateAgent profileId update) := by
    cases hroute : request.route with
    | registry r =>
      cases r with
      | updateAgent profileId update => exact ⟨profileId, update, rfl⟩
      | _ => rw [hroute] at h; cases h
    | _ => rw [hroute] at h; cases h
  cases hauth : gateway.authorise request w.clock with
  | error e => rw [respond_error (handle_of_refused hauth)]
  | ok payload =>
    cases hdatabase : gateway.database with
    | false =>
      have hhandle : gateway.handle request w = _ := handle_of_authorised hauth
      rw [withSession, hdatabase, if_neg Bool.false_ne_true] at hhandle
      rw [respond_error hhandle]
    | true =>
      obtain ⟨hanswer, hleft⟩ := respond_agentUpdate hroute hauth hdatabase
      rw [hanswer] at hstatus hne
      rw [hleft]
      apply (RegistryRequest.updateAgent_run request.scans.agents profileId update w).2 hne
      omega

/-- The status of an answer tells whether the request was let through and, for any request but
an ingestion request, that an error other than 500 has changed nothing. For an ingestion request
202 says that all its events are stored, published and alerted, and 429 that none is stored. -/
theorem respond_tells (gateway : Gateway) (request : Request) (w : World) :
    gateway.Tells request w (gateway.respond request w).1.status (gateway.respond request w).2 where
  refused := by
    intro e hauth
    rw [respond_error (handle_of_refused hauth)]
    exact ⟨authorise_status hauth, rfl⟩
  unchanged := by
    intro hroute hstatus hne
    cases hupdate : request.route.isAgentUpdate with
    | true => exact agentUpdate_unchanged hupdate hstatus hne
    | false =>
      cases hrun : gateway.handle request w with
      | mk r w' =>
        cases r with
        | ok body =>
          cases hrenders : body.renders with
          | true =>
            rw [respond_ok hrun hrenders] at hstatus
            exact absurd hstatus (Nat.not_le.mpr request.route.statusCode_lt)
          | false =>
            rw [respond_unrendered hrun hrenders] at hne
            exact absurd rfl hne
        | error e =>
          rw [respond_error hrun]
          exact handle_aborts gateway hroute hupdate w e w' hrun
  broken := by
    intro hroute hstatus
    cases hupdate : request.route.isAgentUpdate with
    | true => exact Or.inr (Or.inl rfl)
    | false =>
      cases hrun : gateway.handle request w with
      | mk r w' =>
        cases r with
        | ok body =>
          cases hrenders : body.renders with
          | true =>
            rw [respond_ok hrun hrenders] at hstatus
            exact absurd hstatus (request.route.statusCode_lt.trans (by decide)).ne
          | false =>
            rw [respond_unrendered hrun hrenders]
            exact Or.inr (Or.inr ⟨body, rfl, hrenders⟩)
        | error e =>
          rw [respond_error hrun]
          exact Or.inl (handle_aborts gateway hroute hupdate w e w' hrun)
  agentUpdate := fun _ _ _ => respond_agentUpdate
  ingestion := by
    intro r payload hroute _ hauth hdatabase hregistry
    obtain ⟨hstatus, hleft⟩ := respond_ingestion hroute hauth hdatabase hregistry
    obtain ⟨hevents, hne⟩ := r.op_events
    rw [hstatus, hleft, IngestOp.run_eq_submit hne, hevents]
    exact IngestionService.submit_tells _ _ _ _ _

end Gateway

end Dox
