import DoxGovernance.Registry.Concurrency
import DoxGovernance.System.Answers
import DoxGovernance.System.Tenancy

/-!
# A request in two deployments

A request that keeps to a tenant is handled in two worlds. The one holds rows of many tenants, and
the other those of the tenant alone. The answer is the same, and both have the same rows of the
tenant afterwards.
-/

set_option autoImplicit false

namespace Dox
open Effect

/-- The second world has the rows of the tenant and no others, and the same unused identifiers. -/
structure Dedicated (t : String) (w v : World) : Prop extends SameTenant t w v where
  policyIds : w.policies.next = v.policies.next
  webhookIds : w.webhooks.next = v.webhooks.next
  agentIds : w.agents.next = v.agents.next
  entryIds : w.auditEntries.next = v.auditEntries.next
  only : ∀ row, v.Has row → row.tenantId = t

/-! ### Calls for the tenant -/

section Respects
variable {t : String}

theorem resolve_respects (alertId : Uuid) (action : InterventionAction) (alert : SentinelAlert) :
    Respects (SameTenant t) (Effect.change fun w => (SentinelService.resolved w.clock action alert,
      SentinelService.resolve alertId action w) : Service SentinelAlert) := by
  apply Respects.change
  intro w v h
  refine ⟨?_, {h with alerts := ownedBy_modify _ ?_ ?_ h.alerts}⟩
  · dsimp only
    rw [h.clock]
  · exact fun _ => rfl
  · rw [h.clock]

theorem save_agent_respects (change : AgentRegistryService.Columns → AgentRegistryService.Columns)
    (profile : AgentProfile) :
    Respects (SameTenant t) (AgentRegistryService.save change profile) := by
  apply Respects.change
  intro w v h
  refine ⟨?_, {h with agents := ownedBy_modify _ ?_ ?_ h.agents}⟩
  · dsimp only
    rw [h.clock]
  · exact fun p => congrArg Prod.fst (AgentRegistryService.keys_written w.clock change p).2
  · rw [h.clock]

theorem getByTenantAndAgent_respects (agentId : String) :
    Respects (SameTenant t) (AgentRegistryService.getByTenantAndAgent t agentId) := by
  apply Respects.gets
  intro w v h
  apply Table.findRow_of_ownedBy h.agents
  exact fun p hp => congrArg Prod.fst (of_decide_eq_true hp)

theorem heartbeat_respects (agentId : String) :
    Respects (SameTenant t) (AgentRegistryService.heartbeat t agentId) := by
  refine Respects.bind (Respects.bind (getByTenantAndAgent_respects agentId) fun found => ?_)
    fun profile => Respects.bind now_respects fun time => save_agent_respects _ profile
  cases found with
  | some profile => exact Respects.pure profile
  | none => exact Respects.raise _

theorem listForTenant_agents_respects (scan : Scan AgentProfile) (activeOnly : Bool)
    (limit offset : Nat) : Respects (SameTenant t)
      (AgentRegistryService.listForTenant scan t activeOnly limit offset) := by
  apply Respects.gets
  intro w v h
  rw [select_of_ownedBy h.agents scan]
  intro p hp
  simp only [Bool.and_eq_true, decide_eq_true_eq] at hp
  exact hp.1

theorem listWebhooks_respects (scan : Scan WebhookEndpoint) (activeOnly : Bool) :
    Respects (SameTenant t) (NotificationService.listWebhooks scan t activeOnly) := by
  apply Respects.gets
  intro w v h
  rw [select_of_ownedBy h.webhooks scan]
  intro e he
  simp only [Bool.and_eq_true, decide_eq_true_eq] at he
  exact he.1

end Respects

section Alike
variable {t : String} {w v : World} {α : Type}

/-- A lookup that finds the same, or raises the same. -/
theorem alike_lookup {find : World → Option α} {call : Service α} (hfinds : Finds find call)
    (hmissing : ∀ u u', find u = none → find u' = none → (call u).1 = (call u').1)
    (h : SameTenant t w v) (hfind : find w = find v) : Alike (SameTenant t) call w v := by
  cases hv : find v with
  | some a =>
    unfold Alike
    rw [hfinds.found (hfind.trans hv), hfinds.found hv]
    exact ⟨rfl, h⟩
  | none =>
    have hresult := hmissing w v (hfind.trans hv) hv
    obtain ⟨e, hrun⟩ := hfinds.missing (hfind.trans hv)
    obtain ⟨e', hrun'⟩ := hfinds.missing hv
    unfold Alike
    rw [hrun, hrun'] at hresult ⊢
    exact ⟨hresult, h⟩

namespace Dedicated
variable (h : Dedicated t w v)
include h

theorem getAlert {alertId : Uuid} (hkeeps : (Target.alert alertId).KeepsTo t w) :
    Alike (SameTenant t) (SentinelService.getAlert alertId) w v := by
  apply alike_lookup (SentinelService.getAlert_finds alertId) ?_ h.toSameTenant
  · exact Table.find?_of_only h.alerts (fun a => h.only (.alert a)) hkeeps
  · intro u u' hu hu'
    simp only [SentinelService.getAlert, hu, hu']

theorem getPolicy {policyId : Uuid} (hkeeps : (Target.policy policyId).KeepsTo t w) :
    Alike (SameTenant t) (PolicyEvaluatorService.getPolicy policyId) w v := by
  apply alike_lookup (PolicyEvaluatorService.getPolicy_finds policyId) ?_ h.toSameTenant
  · exact Table.find?_of_only h.policies (fun p => h.only (.policy p)) hkeeps
  · intro u u' hu hu'
    simp only [PolicyEvaluatorService.getPolicy, hu, hu']

theorem getBaseline {baselineId : Uuid} (hkeeps : (Target.baseline baselineId).KeepsTo t w) :
    Alike (SameTenant t) (DriftDetectionService.getBaseline baselineId) w v := by
  apply alike_lookup (DriftDetectionService.getBaseline_finds baselineId) ?_ h.toSameTenant
  · exact Table.find?_of_only h.baselines (fun b => h.only (.baseline b)) hkeeps
  · intro u u' hu hu'
    simp only [DriftDetectionService.getBaseline, hu, hu']

theorem getWebhook {webhookId : Uuid} (hkeeps : (Target.webhook webhookId).KeepsTo t w) :
    Alike (SameTenant t) (NotificationService.getWebhook webhookId) w v := by
  apply alike_lookup (NotificationService.getWebhook_finds webhookId) ?_ h.toSameTenant
  · exact Table.find?_of_only h.webhooks (fun e => h.only (.webhook e)) hkeeps
  · intro u u' hu hu'
    simp only [NotificationService.getWebhook, hu, hu']

theorem getAgent {profileId : Uuid} (hkeeps : (Target.agent profileId).KeepsTo t w) :
    Alike (SameTenant t) (AgentRegistryService.get profileId) w v := by
  apply alike_lookup (AgentRegistryService.get_finds profileId) ?_ h.toSameTenant
  · exact Table.find?_of_only h.agents (fun p => h.only (.agent p)) hkeeps
  · intro u u' hu hu'
    simp only [AgentRegistryService.get, hu, hu']

theorem getEvent {eventId : Uuid} (hkeeps : (Target.event eventId).KeepsTo t w) :
    Alike (SameTenant t) (EventQueryService.getEvent eventId) w v := by
  apply alike_lookup (EventQueryService.getEvent_finds eventId) ?_ h.toSameTenant
  · exact Table.find?_of_only h.events (fun r => h.only (.event r)) hkeeps
  · intro u u' hu hu'
    simp only [EventQueryService.getEvent, hu, hu']

theorem deactivatePolicy {policyId : Uuid} (hkeeps : (Target.policy policyId).KeepsTo t w) :
    Alike (SameTenant t) (SentinelService.deactivatePolicy policyId) w v := by
  have hfind := Table.find?_of_only h.policies (fun p => h.only (.policy p)) hkeeps
  cases hv : v.policies.find? policyId with
  | none =>
    rw [hv] at hfind
    simp only [Alike, SentinelService.deactivatePolicy, hfind, hv]
    exact ⟨trivial, h.toSameTenant⟩
  | some policy =>
    rw [hv] at hfind
    simp only [Alike, SentinelService.deactivatePolicy, hfind, hv]
    refine ⟨trivial, {h.toSameTenant with policies := ownedBy_modify _ ?_ rfl h.policies}⟩
    exact fun _ => rfl

/-! ### New rows -/

theorem createPolicy (create : PolicyCreate) :
    Alike (SameTenant t) (SentinelService.createPolicy create) w v := by
  refine ⟨?_, {h.toSameTenant with
    policies := ownedBy_add (fun _ => rfl) (fun _ => rfl) ?_ h.policyIds h.policies}⟩
  · unfold SentinelService.createPolicy
    rw [change_run, change_run, h.clock, h.policyIds]
  · rw [h.clock]

theorem registerWebhook (create : WebhookCreate) :
    Alike (SameTenant t) (NotificationService.registerWebhook create) w v := by
  refine ⟨?_, {h.toSameTenant with
    webhooks := ownedBy_add (fun _ => rfl) (fun _ => rfl) ?_ h.webhookIds h.webhooks}⟩
  · unfold NotificationService.registerWebhook
    rw [change_run, change_run, h.clock, h.webhookIds]
  · rw [h.clock]

theorem record (create : AuditEntryCreate) :
    Alike (SameTenant t) (AuditService.record create) w v := by
  refine ⟨?_, {h.toSameTenant with
    auditEntries := ownedBy_add (fun _ => rfl) (fun _ => rfl) ?_ h.entryIds h.auditEntries}⟩
  · unfold AuditService.record
    rw [change_run, change_run, h.clock, h.entryIds]
  · rw [h.clock]

theorem registered_iff (agentId : String) :
    Registration.Registered (t, agentId) w ↔ Registration.Registered (t, agentId) v := by
  refine exists_congr fun p => and_congr_left fun hp => ?_
  exact Table.mem_of_ownedBy h.agents (congrArg Prod.fst hp)

theorem insertAgent {create : AgentProfileCreate} (hcreate : create.tenantId = t) :
    Alike (SameTenant t) (AgentRegistryService.insert create) w v := by
  subst hcreate
  have hregistered := h.registered_iff create.agentId
  unfold Alike
  by_cases hw : Registration.Registered (Registration.keyOf create) w
  · rw [Registration.insert_contested hw, Registration.insert_contested (hregistered.mp hw)]
    exact ⟨rfl, h.toSameTenant⟩
  · have hv : ¬Registration.Registered (Registration.keyOf create) v :=
      fun hv => hw (hregistered.mpr hv)
    obtain ⟨agents, hrun, hrows⟩ := Registration.insert_uncontested hw
    obtain ⟨agents', hrun', hrows'⟩ := Registration.insert_uncontested hv
    rw [hrun, hrun']
    refine ⟨?_, {h.toSameTenant with agents := ?_}⟩
    · rw [h.clock, h.agentIds]
    · have hold := h.agents
      unfold Table.ownedBy at hold ⊢
      rw [hrows, hrows', List.filter_append, List.filter_append, hold, h.clock, h.agentIds]

theorem createAgent {create : AgentProfileCreate} (hcreate : create.tenantId = t) :
    Alike (SameTenant t) (AgentRegistryService.create create) w v := by
  subst hcreate
  have hread : Alike (fun u u' => u = w ∧ u' = v)
      (AgentRegistryService.getByTenantAndAgent create.tenantId create.agentId) w v :=
    ⟨(getByTenantAndAgent_respects create.agentId w v h.toSameTenant).1, rfl, rfl⟩
  refine Alike.bind_returns (Q := fun _ => True) hread (fun _ _ _ => trivial) ?_ ?_
  · rintro found u u' - ⟨rfl, rfl⟩
    cases found with
    | some profile => exact ⟨rfl, h.toSameTenant⟩
    | none => exact h.insertAgent rfl
  · rintro u u' ⟨rfl, rfl⟩
    exact h.toSameTenant

end Dedicated

/-! ### Requests of the tenant -/

/-- An entry of another tenant is answered like one that is not there. -/
theorem AuditRequest.getEntry_run (scan : Scan AuditEntry) (coldPool : Bool) (tenantId : String)
    (entryId : Uuid) (w : World) : (getEntry tenantId entryId).handle scan coldPool w =
      match (w.auditEntries.find? entryId).filter fun entry => entry.tenantId = tenantId with
      | some entry => (.ok (.auditEntry entry), w)
      | none => (.error (.httpException 404 "Audit entry not found"), w) := by
  rw [handle]
  cases hfind : w.auditEntries.find? entryId with
  | none =>
    have hget : orNotFound "Audit entry not found" (AuditService.get entryId) w =
        (.error (.httpException 404 "Audit entry not found"), w) := by
      simp only [orNotFound, recover, AuditService.get, hfind, notFoundAs, raise_run]
    rw [bind_error hget]
    rfl
  | some entry =>
    rw [bind_ok ((orNotFound_finds (AuditService.get_finds entryId) _).found hfind), ownEntry]
    by_cases htenant : entry.tenantId = tenantId
    · rw [if_neg (not_not.mpr htenant), Option.filter_some, if_pos (decide_eq_true htenant)]
      rfl
    · rw [if_pos htenant, Option.filter_some, if_neg (by simpa using htenant)]
      rfl

section Handle
variable (h : Dedicated t w v)
include h

theorem AuditRequest.handle_alike (scan : Scan AuditEntry) (coldPool : Bool)
    {request : AuditRequest} (hkeeps : request.target.KeepsTo t w) :
    Alike (SameTenant t) (request.handle scan coldPool) w v := by
  cases request with
  | recordEntry create => exact (h.record create).map
  | listEntries filter query =>
    obtain rfl : filter.tenantId = t := hkeeps _ List.mem_cons_self
    dsimp only [handle]
    split
    · exact ⟨rfl, h.toSameTenant⟩
    · exact (Respects.bind (listForTenant_respects scan filter _ _) fun entries =>
        Respects.bind (countForTenant_respects filter) fun total => Respects.pure _) w v
          h.toSameTenant
  | getEntry tenantId entryId =>
    obtain rfl : tenantId = t := hkeeps
    have hfind : (w.auditEntries.find? entryId).filter (fun entry => entry.tenantId = tenantId) =
        (v.auditEntries.find? entryId).filter fun entry => entry.tenantId = tenantId := by
      apply Option.ext
      intro entry
      simp only [Option.filter_eq_some_iff, Table.find?_eq_some_iff, decide_eq_true_eq]
      exact and_congr_left fun htenant =>
        and_congr_left' (Table.mem_of_ownedBy h.auditEntries htenant)
    unfold Alike
    rw [getEntry_run, getEntry_run, hfind]
    split
    · exact ⟨rfl, h.toSameTenant⟩
    · exact ⟨rfl, h.toSameTenant⟩

theorem ComplianceRequest.handle_alike (eventScan : Scan EventRecord)
    (alertScan : Scan SentinelAlert) (policyScan : Scan Policy) {request : ComplianceRequest}
    (hkeeps : request.target.KeepsTo t w) :
    Alike (SameTenant t) (request.handle eventScan alertScan policyScan) w v := by
  obtain rfl : request.tenantId = t := hkeeps _ List.mem_cons_self
  exact Alike.map (generateReport_respects eventScan alertScan policyScan _ w v h.toSameTenant)

theorem DriftRequest.handle_alike (service : DriftDetectionService) (eventScan : Scan EventRecord)
    (baselineScan : Scan AgentBaseline) {request : DriftRequest}
    (hkeeps : request.target.KeepsTo t w) :
    Alike (SameTenant t) (request.handle service eventScan baselineScan) w v := by
  cases request with
  | computeBaseline create =>
    obtain rfl : create.tenantId = t := hkeeps _ List.mem_cons_self
    exact Alike.map (computeBaseline_respects eventScan create w v h.toSameTenant)
  | listBaselines tenantId agentId activeOnly =>
    obtain rfl : tenantId = t := hkeeps _ List.mem_cons_self
    exact Alike.map (listBaselines_respects baselineScan agentId activeOnly w v h.toSameTenant)
  | getBaseline baselineId => exact (h.getBaseline hkeeps).rethrow.map
  | deactivateBaseline baselineId =>
    refine ((h.getBaseline hkeeps).bind fun baseline => Respects.change fun w v h => ?_).rethrow.map
    refine ⟨rfl, {h with baselines := ownedBy_modify _ ?_ rfl h.baselines}⟩
    exact fun _ => rfl
  | analyzeDrift request =>
    obtain rfl : request.tenantId = t := hkeeps _ List.mem_cons_self
    exact Alike.map (analyze_respects service baselineScan eventScan request w v h.toSameTenant)

theorem NotifyRequest.handle_alike (service : NotificationService)
    (hmacSha256 : ByteArray → ByteArray → String) (scan : Scan WebhookEndpoint)
    {request : NotifyRequest} (hkeeps : request.target.KeepsTo t w) :
    Alike (SameTenant t) (request.handle service hmacSha256 scan) w v := by
  cases request with
  | registerWebhook create => exact (h.registerWebhook create).map
  | listWebhooks tenantId activeOnly =>
    obtain rfl : tenantId = t := hkeeps _ List.mem_cons_self
    exact Alike.map (listWebhooks_respects scan activeOnly w v h.toSameTenant)
  | getWebhook webhookId => exact (h.getWebhook hkeeps).rethrow.map
  | deactivateWebhook webhookId =>
    refine ((h.getWebhook hkeeps).bind fun webhook => Respects.change fun w v h => ?_).rethrow.map
    refine ⟨rfl, {h with webhooks := ownedBy_modify _ ?_ rfl h.webhooks}⟩
    exact fun _ => rfl
  | dispatch request =>
    obtain rfl : request.tenantId = t := hkeeps _ List.mem_cons_self
    exact Alike.map (dispatch_respects service hmacSha256 scan request w v h.toSameTenant)

theorem PolicyRequest.handle_alike (scan : Scan Policy) {request : PolicyRequest}
    (hkeeps : request.target.KeepsTo t w) : Alike (SameTenant t) (request.handle scan) w v := by
  cases request with
  | getPolicy policyId => exact (h.getPolicy hkeeps).rethrow.map
  | updatePolicy policyId update =>
    refine ((h.getPolicy hkeeps).bind fun policy => Respects.change fun w v h => ?_).rethrow.map
    refine ⟨rfl, {h with policies := ownedBy_modify _ ?_ rfl h.policies}⟩
    exact fun _ => rfl
  | evaluatePolicies request =>
    obtain rfl : request.tenantId = t := hkeeps _ List.mem_cons_self
    exact Alike.map (evaluate_respects scan request w v h.toSameTenant)

theorem QueryRequest.handle_alike (sha256 : ByteArray → String) (scan : Scan EventRecord)
    {request : QueryRequest} (hkeeps : request.target.KeepsTo t w) :
    Alike (SameTenant t) (request.handle sha256 scan) w v := by
  cases request with
  | listEvents request =>
    obtain rfl : request.tenantId = t := hkeeps _ List.mem_cons_self
    dsimp only [handle]
    cases hfilters : request.filters with
    | error e => exact ⟨rfl, h.toSameTenant⟩
    | ok filters =>
      have hsame := h.toSameTenant
      rw [← EventListRequest.filters_tenantId hfilters] at hsame ⊢
      exact (Respects.bind (listEvents_respects scan filters) fun events =>
        Respects.bind (countEvents_respects filters) fun total => Respects.pure _) w v hsame
  | getEvent eventId => exact (h.getEvent hkeeps).rethrow.map
  | verifyIntegrity tenantId query =>
    obtain rfl : tenantId = t := hkeeps _ List.mem_cons_self
    exact Alike.map (verifyIntegrity_respects sha256 scan query.limit w v h.toSameTenant)

theorem QuotaRequest.handle_alike {request : QuotaRequest}
    (hkeeps : request.target.KeepsTo t w) : Alike (SameTenant t) request.handle w v := by
  cases request with
  | provisionQuota create =>
    obtain rfl : create.tenantId = t := hkeeps _ List.mem_cons_self
    exact Alike.map (provision_respects create w v h.toSameTenant)
  | getQuotaStatus tenantId =>
    obtain rfl : tenantId = t := hkeeps _ List.mem_cons_self
    exact Alike.map (getStatus_respects w v h.toSameTenant)
  | resetDailyQuota tenantId =>
    obtain rfl : tenantId = t := hkeeps _ List.mem_cons_self
    exact Alike.map (resetDaily_respects w v h.toSameTenant)

theorem RegistryRequest.handle_alike (scan : Scan AgentProfile) {request : RegistryRequest}
    (hkeeps : request.target.KeepsTo t w) : Alike (SameTenant t) (request.handle scan) w v := by
  cases request with
  | registerAgent create =>
    exact (h.createAgent (hkeeps _ List.mem_cons_self)).rethrow.map
  | listAgents tenantId activeOnly query =>
    obtain rfl : tenantId = t := hkeeps _ List.mem_cons_self
    exact Alike.map (listForTenant_agents_respects scan activeOnly _ _ w v h.toSameTenant)
  | getAgent profileId => exact (h.getAgent hkeeps).rethrow.map
  | updateAgent profileId update =>
    -- the row before the update, which decides on the answer, is the same in both
    have hbefore : w.agents.find? profileId = v.agents.find? profileId :=
      Table.find?_of_only h.agents (fun p => h.only (.agent p)) hkeeps
    have hupdate := ((h.getAgent hkeeps).bind fun profile =>
      save_agent_respects (AgentRegistryService.patched update) profile).rethrow
        (f := notFoundAs "Agent not found")
    unfold Alike
    dsimp only [handle]
    rw [bind_ok (gets_run _ w), bind_ok (gets_run _ v), hbefore]
    split
    · exact hupdate.bind fun _ => Respects.raise _
    · exact hupdate.map
  | deactivateAgent profileId =>
    exact ((h.getAgent hkeeps).bind fun profile =>
      Respects.bind (save_agent_respects _ profile) fun _ => Respects.pure ()).rethrow.map
  | heartbeat tenantId agentId =>
    obtain rfl : tenantId = t := hkeeps _ List.mem_cons_self
    exact (Alike.rethrow (heartbeat_respects agentId w v h.toSameTenant)).map

theorem SentinelRequest.handle_alike (alertScan : Scan SentinelAlert) (policyScan : Scan Policy)
    {request : SentinelRequest} (hkeeps : request.target.KeepsTo t w) :
    Alike (SameTenant t) (request.handle alertScan policyScan) w v := by
  cases request with
  | createAlert create => exact Alike.map (createAlert_respects create w v h.toSameTenant)
  | listAlerts filter query =>
    obtain rfl : filter.tenantId = t := hkeeps _ List.mem_cons_self
    exact Alike.map (listAlerts_respects alertScan filter _ _ w v h.toSameTenant)
  | getAlert alertId => exact (h.getAlert hkeeps).rethrow.map
  | resolveAlert alertId action =>
    exact ((h.getAlert hkeeps).bind fun alert => resolve_respects alertId action alert).rethrow.map
  | createPolicy create => exact (h.createPolicy create).map
  | listPolicies tenantId activeOnly =>
    obtain rfl : tenantId = t := hkeeps _ List.mem_cons_self
    exact Alike.map (listPolicies_respects policyScan activeOnly w v h.toSameTenant)
  | deactivatePolicy policyId => exact (h.deactivatePolicy hkeeps).rethrow.map

end Handle

/-! ### Ingestion -/

namespace IngestionService
variable (service : IngestionService) (sha256 : ByteArray → String) (outage : Outage)
  {ids : List Uuid}

/-- The worlds are the same to the tenant, and of the events with these identifiers hold the same. -/
def SameEvents (t : String) (ids : List Uuid) (w v : World) : Prop :=
  SameTenant t w v ∧ ∀ id ∈ ids, w.events.find? id = v.events.find? id

theorem respects_sameEvents {call : Service α} (hcall : Respects (SameTenant t) call)
    (hkeeps : Keeps (fun w w' => w'.events = w.events) call) :
    Respects (SameEvents t ids) call := by
  intro w v h
  obtain ⟨hresult, hafter⟩ := hcall w v h.1
  refine ⟨hresult, hafter, ?_⟩
  rw [hkeeps w, hkeeps v]
  exact h.2

theorem checkQuota_respects : Respects (SameEvents t ids) (service.checkQuota t) := by
  unfold checkQuota
  split
  · refine respects_sameEvents checkAndIncrement_respects fun w => ?_
    obtain ⟨q, ⟨quotas, hwrote, -⟩, -⟩ := QuotaService.checkAndIncrement_wrote t w
    rw [hwrote]
  · exact Respects.pure ()

theorem fromCanonical_respects (event : CanonicalEvent) :
    Respects (SameEvents t ids) (fromCanonical sha256 event) := by
  refine Respects.bind (respects_sameEvents uuid4_respects fun w => rfl) fun id =>
    Respects.bind (respects_sameEvents now_respects fun w => rfl) fun time => ?_
  cases EventRecord.fromCanonical sha256 id time event with
  | ok record => exact Respects.pure record
  | error e => exact Respects.raise e

theorem insertRecords_alike {records : List EventRecord} (h : SameEvents t ids w v)
    (hids : ∀ r ∈ records, r.eventId ∈ ids) :
    Alike (SameTenant t) (insertRecords records) w v := by
  have hsome : (w.events.insertAll? records).isSome ↔ (v.events.insertAll? records).isSome := by
    rw [Table.insertAll?_isSome_iff, Table.insertAll?_isSome_iff]
    refine and_congr_right fun _ => forall₂_congr fun r hr => ?_
    rw [h.2 r.eventId (hids r hr)]
  unfold Alike insertRecords
  cases records.findSome? EventRecord.columnError with
  | some message => exact ⟨rfl, h.1⟩
  | none =>
    cases hw : w.events.insertAll? records with
    | none =>
      cases hv : v.events.insertAll? records with
      | none => exact ⟨rfl, h.1⟩
      | some events =>
        rw [hw, hv] at hsome
        cases hsome.mpr rfl
    | some events =>
      cases hv : v.events.insertAll? records with
      | none =>
        rw [hw, hv] at hsome
        cases hsome.mp rfl
      | some events' =>
        refine ⟨rfl, {h.1 with events := ?_}⟩
        have hold := h.1.events
        unfold Table.ownedBy at hold ⊢
        rw [Table.insertAll?_eq_some hw, Table.insertAll?_eq_some hv, List.filter_append,
          List.filter_append, hold]

theorem publish_respects (event : CanonicalEvent) :
    Respects (SameTenant t) (publish outage event) := by
  unfold publish failing
  split
  · exact Respects.raise _
  · exact Respects.change fun w v h => ⟨rfl, {h with}⟩

theorem runSentinel_respects (event : CanonicalEvent) :
    Respects (SameTenant t) (service.runSentinel outage event) := by
  unfold runSentinel
  split
  · refine Respects.forEach fun create _ => ?_
    unfold createAlert failing
    split
    · exact Respects.raise _
    · exact Respects.bind (createAlert_respects create) fun _ => Respects.pure ()
  · exact Respects.pure ()

theorem announce_respects (metric : Metric) (events : List CanonicalEvent) :
    Respects (SameTenant t) (service.announce outage metric events) := by
  refine Respects.bind (Respects.forEach fun event _ => publish_respects outage event) fun _ => ?_
  refine Respects.bind (Respects.change fun w v h => ⟨rfl, {h with}⟩) fun _ => ?_
  exact Respects.forEach fun event _ => runSentinel_respects service outage event

theorem accept_alike {events : List CanonicalEvent} (htenant : ∀ e ∈ events, e.tenantId = t)
    (hids : ∀ e ∈ events, e.eventId ∈ ids) (h : SameEvents t ids w v) :
    Alike (SameTenant t) (service.accept sha256 events) w v := by
  have hchecks : Respects (SameEvents t ids)
      (forEach (fun event => service.checkQuota event.tenantId) events) := by
    refine Respects.forEach fun event hevent => ?_
    rw [htenant event hevent]
    exact checkQuota_respects service
  have hbuilt : Respects (SameEvents t ids) (mapEach (fromCanonical sha256) events) :=
    Respects.mapEach fun event _ => fromCanonical_respects sha256 event
  refine Alike.bind_returns (Q := fun _ => True) (hchecks w v h) (fun _ _ _ => trivial) ?_
    fun _ _ h => h.1
  intro _ w' v' _ h'
  refine Alike.bind_returns (hbuilt w' v' h') (Returns.mapEach fun event _ =>
    IngestionRequest.fromCanonical_returns sha256 event) ?_ fun _ _ h => h.1
  intro records w'' v'' hrecords h''
  refine Alike.map (insertRecords_alike h'' fun r hr => ?_)
  obtain ⟨event, hevent, hdescribes⟩ := hrecords r hr
  rw [hdescribes.eventId]
  exact hids event hevent

theorem run_alike {op : IngestOp} (htenant : ∀ e ∈ op.events, e.tenantId = t)
    (h : SameEvents t (op.events.map CanonicalEvent.eventId) w v) :
    Alike (SameTenant t) (op.run service sha256 outage) w v := by
  by_cases hempty : op.events = []
  · rw [IngestOp.run_of_empty hempty]
    exact ⟨rfl, h.1⟩
  · rw [IngestOp.run_eq_submit hempty]
    refine (accept_alike service sha256 htenant (fun e he => List.mem_map_of_mem he) h).bind
      fun records => ?_
    exact Respects.bind (announce_respects service outage _ _) fun _ => Respects.pure records

end IngestionService

theorem IngestionRequest.handle_alike (h : Dedicated t w v) (service : IngestionService)
    (sha256 : ByteArray → String) (outage : Outage) {request : IngestionRequest}
    (hkeeps : request.target.KeepsTo t w)
    (hevents : ∀ event ∈ request.events, (Target.event event.eventId).KeepsTo t w) :
    Alike (SameTenant t) (request.handle service sha256 outage) w v := by
  have htenant : ∀ event ∈ request.events, event.tenantId = t :=
    fun event hevent => hkeeps _ (List.mem_map_of_mem hevent)
  have hsame : IngestionService.SameEvents t (request.events.map CanonicalEvent.eventId) w v := by
    refine ⟨h.toSameTenant, fun id hid => ?_⟩
    obtain ⟨event, hevent, rfl⟩ := List.mem_map.mp hid
    exact Table.find?_of_only h.events (fun r => h.only (.event r)) (hevents event hevent)
  cases request with
  | ingestEvent event =>
    have hrun : Alike (SameTenant t) (IngestOp.run service sha256 outage (.ingest event)) w v :=
      IngestionService.run_alike service sha256 outage htenant hsame
    have hingest : Alike (SameTenant t) (service.ingest sha256 outage event) w v :=
      Alike.of_map List.singleton_injective hrun
    exact hingest.bind fun record => Respects.bind now_respects fun _ => Respects.pure _
  | ingestBatch request =>
    have hrun : Alike (SameTenant t)
        (IngestOp.run service sha256 outage (.ingestBatch request.events)) w v :=
      IngestionService.run_alike service sha256 outage htenant hsame
    exact Alike.map hrun

theorem Route.handle_alike (h : Dedicated t w v) (gateway : Gateway) (scans : Scans)
    (outage : Outage) {route : Route} (hkeeps : route.KeepsTo t w) :
    Alike (SameTenant t) (route.handle gateway scans outage) w v := by
  obtain ⟨htarget, hevents⟩ := hkeeps
  cases route with
  | audit request => exact AuditRequest.handle_alike h _ _ htarget
  | compliance request => exact ComplianceRequest.handle_alike h _ _ _ htarget
  | drift request => exact DriftRequest.handle_alike h _ _ _ htarget
  | ingestion request =>
    dsimp only [handle]
    split
    · exact IngestionRequest.handle_alike h _ _ _ htarget hevents
    · exact ⟨rfl, h.toSameTenant⟩
  | notify request => exact NotifyRequest.handle_alike h _ _ _ htarget
  | policy request => exact PolicyRequest.handle_alike h _ htarget
  | query request => exact QueryRequest.handle_alike h _ _ htarget
  | quota request => exact QuotaRequest.handle_alike h htarget
  | registry request => exact RegistryRequest.handle_alike h _ htarget
  | sentinel request => exact SentinelRequest.handle_alike h _ _ htarget

theorem Gateway.handle_alike (h : Dedicated t w v) (gateway : Gateway) {request : Request}
    (hkeeps : request.route.KeepsTo t w) :
    Alike (SameTenant t) (gateway.handle request) w v := by
  cases hauthorised : gateway.authorise request w.clock with
  | error e =>
    have hauthorised' := hauthorised
    rw [h.clock] at hauthorised'
    unfold Alike
    rw [handle_of_refused hauthorised, handle_of_refused hauthorised']
    exact ⟨rfl, h.toSameTenant⟩
  | ok payload =>
    have hauthorised' := hauthorised
    rw [h.clock] at hauthorised'
    unfold Alike
    rw [handle_of_authorised hauthorised, handle_of_authorised hauthorised']
    unfold withSession
    split
    · exact Route.handle_alike h gateway request.scans request.outage hkeeps
    · exact ⟨rfl, h.toSameTenant⟩

theorem Gateway.respond_alike (h : Dedicated t w v) (gateway : Gateway) {request : Request}
    (hkeeps : request.route.KeepsTo t w) :
    (gateway.respond request w).1 = (gateway.respond request v).1 ∧
      SameTenant t (gateway.respond request w).2 (gateway.respond request v).2 := by
  obtain ⟨hresult, hafter⟩ := handle_alike h gateway hkeeps
  unfold respond
  cases hw : gateway.handle request w with
  | mk r w' =>
    cases hv : gateway.handle request v with
    | mk q v' =>
      rw [hw, hv] at hresult hafter
      cases hresult
      cases r with
      | ok body =>
        dsimp only
        split
        · exact ⟨rfl, hafter⟩
        · exact ⟨rfl, hafter⟩
      | error e => exact ⟨rfl, hafter⟩

end Alike

end Dox
