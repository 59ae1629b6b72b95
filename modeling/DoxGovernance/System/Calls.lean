import DoxGovernance.System.Operations

/-!
# The calls of the system

The places that each request and each workflow writes to. A call of the system makes one
request or runs one workflow; a run makes calls one after the other, with an outage and
failures of its own for each.
-/

set_option autoImplicit false

namespace Dox
open Effect

/-! ### Requests -/

namespace AuditRequest

def places : AuditRequest → List Place
  | recordEntry _ => [.auditEntries]
  | listEntries _ _ | getEntry _ _ => []

theorem handle_writes (sha256 : ByteArray → String) (scan : Scan AuditEntry) (coldPool : Bool)
    (request : AuditRequest) : OnlyWrites sha256 request.places (request.handle scan coldPool) := by
  cases request with
  | recordEntry create =>
    exact OnlyWrites.map (AuditService.record_writes List.mem_cons_self create)
  | listEntries filter query =>
    dsimp only [handle]
    split
    · exact OnlyWrites.raise _
    · exact OnlyWrites.bind (OnlyWrites.gets _) fun _ => OnlyWrites.map (OnlyWrites.gets _)
  | getEntry tenantId entryId =>
    apply OnlyWrites.bind (OnlyWrites.finds (orNotFound_finds (AuditService.get_finds entryId) _))
    intro entry
    unfold ownEntry
    split
    · exact OnlyWrites.raise _
    · exact OnlyWrites.pure _

end AuditRequest

namespace DriftRequest

def places (service : DriftDetectionService) : DriftRequest → List Place
  | computeBaseline _ | deactivateBaseline _ => [.baselines]
  | analyzeDrift _ => if service.sentinel then [.alerts] else []
  | listBaselines _ _ _ | getBaseline _ => []

theorem handle_writes (sha256 : ByteArray → String) (service : DriftDetectionService)
    (eventScan : Scan EventRecord) (baselineScan : Scan AgentBaseline) (request : DriftRequest) :
    OnlyWrites sha256 (request.places service) (request.handle service eventScan baselineScan) := by
  cases request with
  | computeBaseline create =>
    exact OnlyWrites.map
      (DriftDetectionService.computeBaseline_writes List.mem_cons_self eventScan create)
  | listBaselines tenantId agentId activeOnly => exact OnlyWrites.map (OnlyWrites.gets _)
  | getBaseline baselineId =>
    exact OnlyWrites.map (OnlyWrites.finds
      (orNotFound_finds (DriftDetectionService.getBaseline_finds baselineId) _))
  | deactivateBaseline baselineId =>
    exact OnlyWrites.map (OnlyWrites.rethrow _
      (DriftDetectionService.deactivateBaseline_writes List.mem_cons_self baselineId))
  | analyzeDrift request =>
    apply OnlyWrites.map
    apply DriftDetectionService.analyze_writes
    intro hsentinel
    rw [places, if_pos hsentinel]
    exact List.mem_cons_self

end DriftRequest

namespace IngestionRequest

theorem handle_writes (sha256 : ByteArray → String) (service : IngestionService) (outage : Outage)
    (request : IngestionRequest) :
    OnlyWrites sha256 ingestionPlaces (request.handle service sha256 outage) := by
  cases request with
  | ingestEvent event =>
    have hop := IngestOp.run_writes service sha256 outage (.ingest event)
    have hingest : OnlyWrites sha256 ingestionPlaces (service.ingest sha256 outage event) := by
      intro w
      have hw := hop w
      rw [IngestOp.run, bind_run] at hw
      cases hrun : service.ingest sha256 outage event w with
      | mk r w' =>
        rw [hrun] at hw
        cases r with
        | ok record => exact hw
        | error e => exact hw
    exact OnlyWrites.bind hingest fun record => OnlyWrites.map (OnlyWrites.gets _)
  | ingestBatch request =>
    exact OnlyWrites.map (IngestOp.run_writes service sha256 outage (.ingestBatch request.events))

end IngestionRequest

namespace NotifyRequest

def places : NotifyRequest → List Place
  | registerWebhook _ | deactivateWebhook _ | dispatch _ => [.webhooks]
  | listWebhooks _ _ | getWebhook _ => []

theorem handle_writes (sha256 : ByteArray → String) (service : NotificationService)
    (hmacSha256 : ByteArray → ByteArray → String) (scan : Scan WebhookEndpoint)
    (request : NotifyRequest) :
    OnlyWrites sha256 request.places (request.handle service hmacSha256 scan) := by
  cases request with
  | registerWebhook create =>
    exact OnlyWrites.map (OnlyWrites.once (fun w => .registerWebhook w create) List.mem_cons_self)
  | listWebhooks tenantId activeOnly => exact OnlyWrites.map (OnlyWrites.gets _)
  | getWebhook webhookId =>
    exact OnlyWrites.map (OnlyWrites.finds
      (orNotFound_finds (NotificationService.getWebhook_finds webhookId) _))
  | deactivateWebhook webhookId =>
    exact OnlyWrites.map (OnlyWrites.rethrow _
      (NotificationService.deactivateWebhook_writes List.mem_cons_self webhookId))
  | dispatch request =>
    exact OnlyWrites.map
      (NotificationService.dispatch_writes List.mem_cons_self hmacSha256 service scan request)

end NotifyRequest

namespace PolicyRequest

def places : PolicyRequest → List Place
  | updatePolicy _ _ => [.policies]
  | getPolicy _ | evaluatePolicies _ => []

theorem handle_writes (sha256 : ByteArray → String) (scan : Scan Policy) (request : PolicyRequest) :
    OnlyWrites sha256 request.places (request.handle scan) := by
  cases request with
  | getPolicy policyId =>
    exact OnlyWrites.map (OnlyWrites.finds
      (orNotFound_finds (PolicyEvaluatorService.getPolicy_finds policyId) _))
  | updatePolicy policyId update =>
    exact OnlyWrites.map (OnlyWrites.rethrow _
      (PolicyEvaluatorService.updatePolicy_writes List.mem_cons_self policyId update))
  | evaluatePolicies request => exact OnlyWrites.map (OnlyWrites.map (OnlyWrites.gets _))

end PolicyRequest

theorem QueryRequest.handle_writes (sha256 sha256' : ByteArray → String) (scan : Scan EventRecord)
    (request : QueryRequest) : OnlyWrites sha256 [] (request.handle sha256' scan) := by
  cases request with
  | listEvents request =>
    dsimp only [handle]
    cases request.filters with
    | error e => exact OnlyWrites.raise e
    | ok filters =>
      exact OnlyWrites.bind (OnlyWrites.gets _) fun _ => OnlyWrites.map (OnlyWrites.gets _)
  | getEvent eventId =>
    exact OnlyWrites.map (OnlyWrites.finds
      (orNotFound_finds (EventQueryService.getEvent_finds eventId) _))
  | verifyIntegrity tenantId query =>
    apply OnlyWrites.map
    apply OnlyWrites.bind (OnlyWrites.gets _)
    intro records
    cases verifyTenantIntegrity sha256' records with
    | ok report => exact OnlyWrites.pure report
    | error e => exact OnlyWrites.raise e

theorem QuotaRequest.handle_writes (sha256 : ByteArray → String) (request : QuotaRequest) :
    OnlyWrites sha256 [.quotas] request.handle := by
  cases request with
  | provisionQuota create =>
    exact OnlyWrites.map (QuotaService.provision_writes List.mem_cons_self create)
  | getQuotaStatus tenantId =>
    exact OnlyWrites.map (QuotaService.getStatus_writes List.mem_cons_self tenantId)
  | resetDailyQuota tenantId =>
    exact OnlyWrites.map (QuotaService.resetDaily_writes List.mem_cons_self tenantId)

namespace RegistryRequest

def places : RegistryRequest → List Place
  | registerAgent _ | updateAgent _ _ | deactivateAgent _ | heartbeat _ _ => [.agents]
  | listAgents _ _ _ | getAgent _ => []

theorem handle_writes (sha256 : ByteArray → String) (scan : Scan AgentProfile)
    (request : RegistryRequest) : OnlyWrites sha256 request.places (request.handle scan) := by
  cases request with
  | registerAgent create =>
    exact OnlyWrites.map (OnlyWrites.rethrow _
      (AgentRegistryService.create_writes List.mem_cons_self create))
  | listAgents tenantId activeOnly query => exact OnlyWrites.map (OnlyWrites.gets _)
  | getAgent profileId =>
    exact OnlyWrites.map (OnlyWrites.finds
      (orNotFound_finds (AgentRegistryService.get_finds profileId) _))
  | updateAgent profileId update =>
    apply OnlyWrites.bind (OnlyWrites.gets _)
    intro before
    apply OnlyWrites.bind (OnlyWrites.rethrow _
      (AgentRegistryService.update_writes List.mem_cons_self profileId update))
    intro profile
    split
    · exact OnlyWrites.raise _
    · exact OnlyWrites.pure _
  | deactivateAgent profileId =>
    exact OnlyWrites.map (OnlyWrites.rethrow _
      (AgentRegistryService.delete_writes List.mem_cons_self profileId))
  | heartbeat tenantId agentId =>
    exact OnlyWrites.map (OnlyWrites.rethrow _
      (AgentRegistryService.heartbeat_writes List.mem_cons_self tenantId agentId))

end RegistryRequest

namespace SentinelRequest

def places : SentinelRequest → List Place
  | createAlert _ | resolveAlert _ _ => [.alerts]
  | createPolicy _ | deactivatePolicy _ => [.policies]
  | listAlerts _ _ | getAlert _ | listPolicies _ _ => []

theorem handle_writes (sha256 : ByteArray → String) (alertScan : Scan SentinelAlert)
    (policyScan : Scan Policy) (request : SentinelRequest) :
    OnlyWrites sha256 request.places (request.handle alertScan policyScan) := by
  cases request with
  | createAlert create =>
    exact OnlyWrites.map (SentinelService.createAlert_writes List.mem_cons_self create)
  | listAlerts filter query => exact OnlyWrites.map (OnlyWrites.gets _)
  | getAlert alertId =>
    exact OnlyWrites.map (OnlyWrites.finds
      (orNotFound_finds (SentinelService.getAlert_finds alertId) _))
  | resolveAlert alertId action =>
    exact OnlyWrites.map (OnlyWrites.rethrow _
      (SentinelService.resolveAlert_writes List.mem_cons_self alertId action))
  | createPolicy create =>
    exact OnlyWrites.map (OnlyWrites.once (fun w => .createPolicy w create) List.mem_cons_self)
  | listPolicies tenantId activeOnly => exact OnlyWrites.map (OnlyWrites.gets _)
  | deactivatePolicy policyId =>
    exact OnlyWrites.map (OnlyWrites.rethrow _
      (SentinelService.deactivatePolicy_writes List.mem_cons_self policyId))

end SentinelRequest

namespace Route

def places : Route → List Place
  | audit request => request.places
  | compliance _ => [.quotas]
  | drift request => request.places {sentinel := false}
  | ingestion _ => ingestionPlaces
  | notify request => request.places
  | policy request => request.places
  | query _ => []
  | quota _ => [.quotas]
  | registry request => request.places
  | sentinel request => request.places

theorem handle_writes (gateway : Gateway) (scans : Scans) (outage : Outage) (route : Route) :
    OnlyWrites gateway.sha256 route.places (route.handle gateway scans outage) := by
  cases route with
  | audit request => exact request.handle_writes _ _ _
  | compliance request =>
    exact OnlyWrites.map (ComplianceService.generateReport_writes List.mem_cons_self _ _ _ _ _)
  | drift request => exact request.handle_writes _ _ _ _
  | ingestion request =>
    dsimp only [handle]
    split
    · exact request.handle_writes _ _ _
    · exact OnlyWrites.raise _
  | notify request => exact request.handle_writes _ _ _ _
  | policy request => exact request.handle_writes _ _
  | query request => exact request.handle_writes _ _ _
  | quota request => exact request.handle_writes _
  | registry request => exact request.handle_writes _ _
  | sentinel request => exact request.handle_writes _ _ _

end Route

theorem Gateway.handle_writes (gateway : Gateway) (request : Request) :
    OnlyWrites gateway.sha256 request.route.places (gateway.handle request) := by
  apply OnlyWrites.bind (OnlyWrites.gets _)
  intro time
  cases gateway.authorise request time with
  | error e => exact OnlyWrites.raise e
  | ok payload =>
    dsimp only [withSession]
    split
    · exact request.route.handle_writes gateway request.scans request.outage
    · exact OnlyWrites.raise _

/-! ### Workflows -/

/-- Where a workflow that resolves alerts or records findings writes to. -/
def workflowPlaces : List Place := [.alerts, .auditEntries]

section Workflows
variable (sha256 : ByteArray → String)

theorem OnlyWrites.ainvoke {sha256 : ByteArray → String} {places : List Place} {ν σ : Type}
    {graph : StateGraph ν σ World Exc}
    (hnodes : ∀ v s, OnlyWrites sha256 places (graph.node v s)) (state : σ) :
    OnlyWrites sha256 places (ainvoke graph state) :=
  ainvoke_keeps Writes.refl (@Writes.trans sha256 places) hnodes state

theorem SentinelResponse.ainvoke_writes (faults : Faults) (scan : Scan Policy) (state : State) :
    OnlyWrites sha256 workflowPlaces (ainvoke (graph faults scan) state) := by
  apply OnlyWrites.ainvoke
  intro v s
  cases v with
  | loadAlert =>
    exact OnlyWrites.attempt (OnlyWrites.map (OnlyWrites.failing _
      (OnlyWrites.finds (SentinelService.getAlert_finds s.alertId))))
  | findPolicy =>
    apply OnlyWrites.attempt
    apply OnlyWrites.bind (OnlyWrites.failing _ (OnlyWrites.gets _))
    intro policies
    dsimp only
    split
    · exact OnlyWrites.pure _
    · exact OnlyWrites.pure _
  | executeAction =>
    apply OnlyWrites.attempt
    apply OnlyWrites.bind
    · unfold parseAction
      split
      · exact OnlyWrites.pure _
      · exact OnlyWrites.raise _
    intro action
    exact OnlyWrites.map (OnlyWrites.failing _
      (SentinelService.resolveAlert_writes (by decide) s.alertId action))
  | resolveWithDefault =>
    exact OnlyWrites.attempt (OnlyWrites.map (OnlyWrites.failing _
      (SentinelService.resolveAlert_writes (by decide) s.alertId .warn)))
  | recordOutcome =>
    exact OnlyWrites.attempt (OnlyWrites.map (OnlyWrites.failing _
      (AuditService.record_writes (by decide) _)))

theorem HumanReview.ainvoke_writes (faults : Faults) (state : State) :
    OnlyWrites sha256 workflowPlaces (ainvoke (graph faults) state) := by
  apply OnlyWrites.ainvoke
  intro v s
  cases v with
  | loadAlert =>
    exact OnlyWrites.attempt (OnlyWrites.map (OnlyWrites.failing _
      (OnlyWrites.finds (SentinelService.getAlert_finds s.alertId))))
  | requestReview =>
    exact OnlyWrites.attempt (OnlyWrites.map (OnlyWrites.failing _
      (AuditService.record_writes (by decide) _)))
  | recordDecision =>
    apply OnlyWrites.attempt
    apply OnlyWrites.bind (OnlyWrites.failing _
      (SentinelService.resolveAlert_writes (by decide) s.alertId _))
    intro alert
    exact OnlyWrites.map (OnlyWrites.failing _ (AuditService.record_writes (by decide) _))

theorem Replay.ainvoke_writes (faults : Faults) (scan : Scan EventRecord) (audit : Bool)
    (state : State) : OnlyWrites sha256 workflowPlaces (ainvoke (graph faults scan audit) state) := by
  apply OnlyWrites.ainvoke
  intro v s
  cases v with
  | loadEvents => exact OnlyWrites.attempt (OnlyWrites.map (OnlyWrites.failing _ (OnlyWrites.gets _)))
  | validateEvents => exact OnlyWrites.pure _
  | replayEvents => exact OnlyWrites.pure _
  | summarize =>
    have hrecord : OnlyWrites sha256 workflowPlaces (recordSummary faults s) := by
      unfold recordSummary
      split
      · exact OnlyWrites.map (OnlyWrites.failing _ (AuditService.record_writes (by decide) _))
      · exact OnlyWrites.raise _
    cases audit with
    | true => exact OnlyWrites.map (OnlyWrites.recover hrecord fun _ => OnlyWrites.pure ())
    | false => exact OnlyWrites.pure _

theorem DriftAnalysis.ainvoke_writes (service : DriftDetectionService) (audit : Bool)
    (faults : Faults) (baselineScan : Scan AgentBaseline) (eventScan : Scan EventRecord)
    (state : State) : OnlyWrites sha256 workflowPlaces
      (ainvoke (graph service audit faults baselineScan eventScan) state) := by
  apply OnlyWrites.ainvoke
  intro v s
  cases v with
  | analyzeDrift =>
    apply OnlyWrites.attempt
    apply OnlyWrites.map
    unfold analyze
    split
    · apply OnlyWrites.failing
      exact DriftDetectionService.analyze_writes service (fun _ => by decide) _ _ _
    · exact OnlyWrites.raise _
  | recordFinding =>
    dsimp only [graph, recordFinding]
    split
    · apply OnlyWrites.attempt
      split
      · exact OnlyWrites.map (OnlyWrites.failing _ (AuditService.record_writes (by decide) _))
      · exact OnlyWrites.raise _
    · exact OnlyWrites.pure _

end Workflows

/-! ### Calls and runs -/

/-- A request to the gateway, or the run of a workflow. -/
inductive SystemOp where
  | request (request : Request)
  | sentinelResponse (faults : SentinelResponse.Faults) (scan : Scan Policy)
      (state : SentinelResponse.State)
  | humanReview (faults : HumanReview.Faults) (state : HumanReview.State)
  | replay (faults : Replay.Faults) (scan : Scan EventRecord) (audit : Bool) (state : Replay.State)
  | driftAnalysis (service : DriftDetectionService) (audit : Bool) (faults : DriftAnalysis.Faults)
      (baselineScan : Scan AgentBaseline) (eventScan : Scan EventRecord)
      (state : DriftAnalysis.State)

structure SystemCall where
  time : Datetime
  op : SystemOp

namespace SystemOp

/-- What the operation leaves, whatever it returns or raises. -/
def apply (gateway : Gateway) (w : World) : SystemOp → World
  | request r => (gateway.handle r w).2
  | sentinelResponse faults scan state => (ainvoke (SentinelResponse.graph faults scan) state w).2
  | humanReview faults state => (ainvoke (HumanReview.graph faults) state w).2
  | replay faults scan audit state => (ainvoke (Replay.graph faults scan audit) state w).2
  | driftAnalysis service audit faults baselineScan eventScan state =>
    (ainvoke (DriftAnalysis.graph service audit faults baselineScan eventScan) state w).2

def places : SystemOp → List Place
  | request r => r.route.places
  | _ => workflowPlaces

theorem apply_writes (gateway : Gateway) (op : SystemOp) (w : World) :
    Writes gateway.sha256 op.places w (op.apply gateway w) := by
  cases op with
  | request r => exact gateway.handle_writes r w
  | sentinelResponse faults scan state => exact SentinelResponse.ainvoke_writes _ faults scan state w
  | humanReview faults state => exact HumanReview.ainvoke_writes _ faults state w
  | replay faults scan audit state => exact Replay.ainvoke_writes _ faults scan audit state w
  | driftAnalysis service audit faults baselineScan eventScan state =>
    exact DriftAnalysis.ainvoke_writes _ service audit faults baselineScan eventScan state w

end SystemOp

def SystemCall.step (gateway : Gateway) (w : World) (call : SystemCall) : World :=
  call.op.apply gateway (w.at call.time)

/-! ### Requests for samples -/

namespace Route

def samplePolicy : Route := .sentinel (.createPolicy {
  tenantId := "acme", name := "p", sentinelType := .drift, severity := .low, action := .warn })

def sampleBaseline : Route := .drift (.computeBaseline {
  tenantId := "acme", agentId := "a1", lookbackBounds := dayBounds })

def sampleWebhook : Route := .notify (.registerWebhook {
  tenantId := "acme", url := "https://acme.org", secret := "a secret of acme" })

def sampleAgent : Route :=
  .registry (.registerAgent {tenantId := "acme", agentId := "a1", name := "a"})

end Route

end Dox
