import DoxGovernance.Gateway.App
import DoxGovernance.Lib.Agreement

/-!
# What the calls for a tenant depend on

Two worlds are the same to a tenant when they hold the same rows of the tenant, at the same
time and with the same unused identifiers. From two such worlds every call for the tenant
returns the same and leaves two such worlds, and it changes no row of another tenant. The
order in which a query reads the rows it selects is an argument, and so are the answers of
the HTTP client.
-/

set_option autoImplicit false

namespace Dox
open Effect (Respects)

structure SameTenant (t : String) (w v : World) : Prop where
  clock : w.clock = v.clock
  nextUuid : w.nextUuid = v.nextUuid
  alertIds : w.alerts.next = v.alerts.next
  baselineIds : w.baselines.next = v.baselines.next
  events : w.events.ownedBy EventRecord.tenantId t = v.events.ownedBy EventRecord.tenantId t
  quotas : w.quotas.ownedBy TenantQuota.tenantId t = v.quotas.ownedBy TenantQuota.tenantId t
  alerts : w.alerts.ownedBy SentinelAlert.tenantId t = v.alerts.ownedBy SentinelAlert.tenantId t
  policies : w.policies.ownedBy Policy.tenantId t = v.policies.ownedBy Policy.tenantId t
  baselines : w.baselines.ownedBy AgentBaseline.tenantId t =
    v.baselines.ownedBy AgentBaseline.tenantId t
  webhooks : w.webhooks.ownedBy WebhookEndpoint.tenantId t =
    v.webhooks.ownedBy WebhookEndpoint.tenantId t
  agents : w.agents.ownedBy AgentProfile.tenantId t = v.agents.ownedBy AgentProfile.tenantId t
  auditEntries : w.auditEntries.ownedBy AuditEntry.tenantId t =
    v.auditEntries.ownedBy AuditEntry.tenantId t

section Respects
variable {t : String}

theorem now_respects : Respects (SameTenant t) now := by
  apply Respects.gets
  exact fun w v h => h.clock

theorem uuid4_respects : Respects (SameTenant t) uuid4 := by
  apply Respects.change
  intro w v h
  exact ⟨h.nextUuid, {h with nextUuid := congrArg (· + 1) h.nextUuid}⟩

/-! ### Queries -/

theorem EventFilter.tenantId_of_keeps {filters : EventFilter} {r : EventRecord}
    (h : filters.keeps r = true) : r.tenantId = filters.tenantId := by
  simp only [EventFilter.keeps, Bool.and_eq_true, decide_eq_true_eq] at h
  exact h.1.1.1.1.1.1

theorem listEvents_respects (scan : Scan EventRecord) (filters : EventFilter) :
    Respects (SameTenant filters.tenantId) (EventQueryService.listEvents scan filters) := by
  apply Respects.gets
  intro w v h
  rw [select_of_ownedBy h.events scan fun _ => EventFilter.tenantId_of_keeps]

theorem countEvents_respects (filters : EventFilter) :
    Respects (SameTenant filters.tenantId) (EventQueryService.countEvents filters) := by
  apply Respects.gets
  intro w v h
  exact countP_of_ownedBy h.events fun _ => EventFilter.tenantId_of_keeps

theorem verifyIntegrity_respects (sha256 : ByteArray → String) (scan : Scan EventRecord)
    (limit : Nat) :
    Respects (SameTenant t) (EventQueryService.verifyIntegrity sha256 scan t limit) := by
  refine Respects.bind (Respects.gets ?_) ?_
  · intro w v h
    rw [select_of_ownedBy h.events scan fun _ => of_decide_eq_true]
  · intro records
    cases verifyTenantIntegrity sha256 records with
    | ok report => exact Respects.pure report
    | error e => exact Respects.raise e

theorem listAlerts_respects (scan : Scan SentinelAlert) (filter : SentinelService.AlertFilter)
    (limit offset : Nat) : Respects (SameTenant filter.tenantId)
      (SentinelService.listAlerts scan filter limit offset) := by
  apply Respects.gets
  intro w v h
  rw [select_of_ownedBy h.alerts scan]
  intro a ha
  simp only [SentinelService.AlertFilter.keeps, Bool.and_eq_true, decide_eq_true_eq] at ha
  exact ha.1.1.1

theorem listPolicies_respects (scan : Scan Policy) (activeOnly : Bool) :
    Respects (SameTenant t) (SentinelService.listPolicies scan t activeOnly) := by
  apply Respects.gets
  intro w v h
  rw [select_of_ownedBy h.policies scan]
  intro p hp
  simp only [Bool.and_eq_true, decide_eq_true_eq] at hp
  exact hp.1

theorem evaluate_respects (scan : Scan Policy) (request : PolicyEvaluateRequest) :
    Respects (SameTenant request.tenantId) (PolicyEvaluatorService.evaluate scan request) := by
  refine Respects.bind (Respects.gets ?_) fun candidates => Respects.pure _
  intro w v h
  apply select_of_ownedBy h.policies scan
  intro p hp
  simp only [PolicyEvaluatorService.isCandidate, Bool.and_eq_true, decide_eq_true_eq] at hp
  exact hp.1.1

theorem AuditService.tenantId_of_keeps {filter : AuditService.Filter} {e : AuditEntry}
    (h : filter.keeps e = true) : e.tenantId = filter.tenantId := by
  simp only [AuditService.Filter.keeps, Bool.and_eq_true, decide_eq_true_eq] at h
  exact h.1.1.1

theorem listForTenant_respects (scan : Scan AuditEntry) (filter : AuditService.Filter)
    (limit offset : Nat) : Respects (SameTenant filter.tenantId)
      (AuditService.listForTenant scan filter limit offset) := by
  apply Respects.gets
  intro w v h
  rw [select_of_ownedBy h.auditEntries scan fun _ => AuditService.tenantId_of_keeps]

theorem countForTenant_respects (filter : AuditService.Filter) :
    Respects (SameTenant filter.tenantId) (AuditService.countForTenant filter) := by
  apply Respects.gets
  intro w v h
  exact countP_of_ownedBy h.auditEntries fun _ => AuditService.tenantId_of_keeps

/-! ### Deliveries -/

theorem recordDelivery_respects (webhook : WebhookEndpoint) (success : Bool) :
    Respects (SameTenant t) (NotificationService.recordDelivery webhook success) := by
  apply Respects.change
  intro w v h
  refine ⟨rfl, {h with webhooks := ownedBy_modify _ ?_ ?_ h.webhooks}⟩
  · exact fun _ => rfl
  · rw [h.clock]

theorem dispatch_respects (service : NotificationService)
    (hmacSha256 : ByteArray → ByteArray → String) (scan : Scan WebhookEndpoint)
    (request : DispatchRequest) :
    Respects (SameTenant request.tenantId) (service.dispatch hmacSha256 scan request) := by
  refine Respects.bind (Respects.gets ?_) fun webhooks => ?_
  · intro w v h
    rw [select_of_ownedBy h.webhooks scan]
    intro e he
    simp only [Bool.and_eq_true, decide_eq_true_eq] at he
    exact he.1
  · refine Respects.bind (Respects.mapEach fun webhook _ => ?_) fun deliveries => Respects.pure _
    refine Respects.bind uuid4_respects fun deliveryId => ?_
    refine Respects.bind now_respects fun time => ?_
    split
    · exact Respects.raise _
    · exact Respects.bind (recordDelivery_respects webhook _) fun _ => Respects.pure _

/-! ### Drift -/

theorem tenantId_of_inWindow {now : Datetime} {agentId : String} {hours : Nat} {r : EventRecord}
    (h : DriftDetectionService.inWindow now t agentId hours r = true) : r.tenantId = t := by
  simp only [DriftDetectionService.inWindow, Bool.and_eq_true, decide_eq_true_eq] at h
  exact h.1.1

theorem computeBaseline_respects (scan : Scan EventRecord) (create : BaselineCreate) :
    Respects (SameTenant create.tenantId) (DriftDetectionService.computeBaseline scan create) := by
  refine Respects.bind (Respects.gets ?_) fun events => Respects.change ?_
  · intro w v h
    rw [h.clock, select_of_ownedBy h.events scan fun _ => tenantId_of_inWindow]
  · intro w v h
    refine ⟨?_, {h with baselineIds := congrArg (· + 1) h.baselineIds, baselines := ?_}⟩
    · dsimp only
      rw [Numbered.next_modify, Numbered.next_modify, h.clock, h.baselineIds]
    · refine ownedBy_add (fun _ => rfl) (fun _ => rfl) ?_ h.baselineIds
        (ownedBy_modify _ ?_ rfl h.baselines)
      · rw [h.clock]
      · exact fun _ => rfl

theorem listBaselines_respects (scan : Scan AgentBaseline) (agentId : Option String)
    (activeOnly : Bool) :
    Respects (SameTenant t) (DriftDetectionService.listBaselines scan t agentId activeOnly) := by
  apply Respects.gets
  intro w v h
  rw [select_of_ownedBy h.baselines scan]
  intro b hb
  simp only [Bool.and_eq_true, decide_eq_true_eq] at hb
  exact hb.1.1

theorem createAlert_respects (create : SentinelAlertCreate) :
    Respects (SameTenant t) (SentinelService.createAlert create) := by
  apply Respects.change
  intro w v h
  refine ⟨?_, {h with alertIds := congrArg (· + 1) h.alertIds, alerts := ?_}⟩
  · dsimp only
    rw [h.clock, h.alertIds]
  · refine ownedBy_add (fun _ => rfl) (fun _ => rfl) ?_ h.alertIds h.alerts
    rw [h.clock]

theorem raiseAlert_respects (service : DriftDetectionService) (severity : DriftSeverity)
    (create : SentinelAlertCreate) :
    Respects (SameTenant t) (service.raiseAlert severity create) := by
  unfold DriftDetectionService.raiseAlert
  split
  · exact Respects.bind (createAlert_respects create) fun _ => Respects.pure true
  · exact Respects.pure false

theorem analyze_respects (service : DriftDetectionService) (baselineScan : Scan AgentBaseline)
    (eventScan : Scan EventRecord) (request : AnalyzeRequest) :
    Respects (SameTenant request.tenantId) (service.analyze baselineScan eventScan request) := by
  refine Respects.bind (Respects.gets ?_) fun baseline => ?_
  · intro w v h
    rw [select_of_ownedBy h.baselines baselineScan]
    intro b hb
    simp only [DriftDetectionService.isActiveOf, Bool.and_eq_true, decide_eq_true_eq] at hb
    exact hb.1.1
  refine Respects.bind (Respects.gets ?_) fun recent => ?_
  · intro w v h
    rw [h.clock, select_of_ownedBy h.events eventScan fun _ => tenantId_of_inWindow]
  exact Respects.bind (raiseAlert_respects service _ _) fun created => Respects.pure _

/-! ### Quotas -/

theorem insert_respects {quota : TenantQuota} (hquota : quota.tenantId = t) :
    Respects (SameTenant t) (QuotaService.insert quota) := by
  intro w v h
  have hsame : (w.quotas.insert? quota).isSome ↔ (v.quotas.insert? quota).isSome := by
    rw [Table.insert?_isSome_iff, Table.insert?_isSome_iff, hquota, find?_of_ownedBy h.quotas]
  unfold QuotaService.insert
  cases hw : w.quotas.insert? quota with
  | none =>
    cases hv : v.quotas.insert? quota with
    | none => exact ⟨rfl, h⟩
    | some quotas =>
      rw [hw, hv] at hsame
      cases hsame.mpr rfl
  | some quotas =>
    cases hv : v.quotas.insert? quota with
    | none =>
      rw [hw, hv] at hsame
      cases hsame.mp rfl
    | some quotas' =>
      refine ⟨rfl, {h with quotas := ?_}⟩
      dsimp only
      rw [ownedBy_insert? hw, ownedBy_insert? hv, h.quotas]

theorem save_respects (quota : TenantQuota) :
    Respects (SameTenant t) (QuotaService.save quota) := by
  apply Respects.change
  intro w v h
  refine ⟨rfl, {h with quotas := ?_}⟩
  dsimp only
  rw [ownedBy_set, ownedBy_set, h.quotas]

theorem select_respects : Respects (SameTenant t) (QuotaService.select t) := by
  apply Respects.gets
  intro w v h
  exact find?_of_ownedBy h.quotas

theorem getOrCreate_respects : Respects (SameTenant t) (QuotaService.getOrCreate t) := by
  refine Respects.bind select_respects fun found => ?_
  cases found with
  | some quota => exact Respects.pure quota
  | none =>
    refine Respects.bind now_respects fun time => ?_
    exact Respects.bind (insert_respects rfl) fun _ => Respects.pure _

theorem provision_respects (create : QuotaProvision) :
    Respects (SameTenant create.tenantId) (QuotaService.provision create) := by
  refine Respects.bind select_respects fun found => ?_
  cases found with
  | some quota => exact Respects.bind (save_respects _) fun _ => Respects.pure _
  | none =>
    refine Respects.bind now_respects fun time => ?_
    exact Respects.bind (insert_respects rfl) fun _ => Respects.pure _

theorem getStatus_respects : Respects (SameTenant t) (QuotaService.getStatus t) := by
  refine Respects.bind getOrCreate_respects fun quota => ?_
  refine Respects.bind now_respects fun time => ?_
  exact Respects.bind (save_respects _) fun _ => Respects.pure _

theorem checkAndIncrement_respects :
    Respects (SameTenant t) (QuotaService.checkAndIncrement t) := by
  refine Respects.bind getOrCreate_respects fun quota => ?_
  refine Respects.bind now_respects fun time => ?_
  dsimp only
  split
  · exact Respects.raise _
  · split
    · exact Respects.raise _
    · exact save_respects _

theorem resetDaily_respects : Respects (SameTenant t) (QuotaService.resetDaily t) := by
  refine Respects.bind getOrCreate_respects fun quota => ?_
  refine Respects.bind now_respects fun time => ?_
  exact Respects.bind (save_respects _) fun _ => Respects.pure _

/-! ### The compliance report -/

theorem generateReport_respects (eventScan : Scan EventRecord) (alertScan : Scan SentinelAlert)
    (policyScan : Scan Policy) (lookbackHours : Nat) : Respects (SameTenant t)
      (ComplianceService.generateReport eventScan alertScan policyScan t lookbackHours) := by
  refine Respects.bind now_respects fun time => ?_
  refine Respects.bind ?_ fun events => Respects.bind ?_ fun alerts => Respects.bind ?_ fun quota =>
    Respects.bind ?_ fun policies => Respects.pure _
  · refine Respects.bind (Respects.gets ?_) fun events => Respects.pure _
    intro w v h
    rw [h.clock, select_of_ownedBy h.events eventScan]
    intro r hr
    simp only [Bool.and_eq_true, decide_eq_true_eq] at hr
    exact hr.1
  · refine Respects.bind (Respects.gets ?_) fun alerts => Respects.pure _
    intro w v h
    exact select_of_ownedBy h.alerts alertScan fun _ => of_decide_eq_true
  · exact Respects.bind getStatus_respects fun status => Respects.pure _
  · refine Respects.bind (Respects.gets ?_) fun policies => Respects.pure _
    intro w v h
    apply select_of_ownedBy h.policies policyScan
    intro p hp
    simp only [Bool.and_eq_true, decide_eq_true_eq] at hp
    exact hp.1

end Respects

inductive TenantCall where
  | listEvents (filters : EventFilter)
  | countEvents (filters : EventFilter)
  | verifyIntegrity (tenantId : String) (limit : Nat)
  | listAlerts (filter : SentinelService.AlertFilter) (limit offset : Nat)
  | listPolicies (tenantId : String) (activeOnly : Bool)
  | evaluate (request : PolicyEvaluateRequest)
  | dispatch (request : DispatchRequest)
  | computeBaseline (create : BaselineCreate)
  | listBaselines (tenantId : String) (agentId : Option String) (activeOnly : Bool)
  | analyze (request : AnalyzeRequest)
  | provision (create : QuotaProvision)
  | getStatus (tenantId : String)
  | checkAndIncrement (tenantId : String)
  | resetDaily (tenantId : String)
  | generateReport (tenantId : String) (lookbackHours : Nat)
  | listForTenant (filter : AuditService.Filter) (limit offset : Nat)
  | countForTenant (filter : AuditService.Filter)

/-- What the calls are made with: the scans, the libraries, and the attached services. -/
structure Surroundings where
  scans : Scans := {}
  sha256 : ByteArray → String
  hmacSha256 : ByteArray → ByteArray → String
  drift : DriftDetectionService
  notify : NotificationService

namespace TenantCall

def tenantId : TenantCall → String
  | listEvents filters | countEvents filters => filters.tenantId
  | listAlerts filter _ _ => filter.tenantId
  | evaluate request => request.tenantId
  | dispatch request => request.tenantId
  | computeBaseline create => create.tenantId
  | analyze request => request.tenantId
  | provision create => create.tenantId
  | listForTenant filter _ _ | countForTenant filter => filter.tenantId
  | verifyIntegrity tenantId _ | listPolicies tenantId _ | listBaselines tenantId _ _
  | getStatus tenantId | checkAndIncrement tenantId | resetDaily tenantId
  | generateReport tenantId _ => tenantId

def Answer : TenantCall → Type
  | listEvents _ => List EventRecord
  | countEvents _ | countForTenant _ => Nat
  | verifyIntegrity _ _ => IntegrityReport
  | listAlerts _ _ _ => List SentinelAlert
  | listPolicies _ _ => List Policy
  | evaluate _ => PolicyEvaluationResult
  | dispatch _ => DispatchResult
  | computeBaseline _ => AgentBaseline
  | listBaselines _ _ _ => List AgentBaseline
  | analyze _ => DriftReportResponse
  | provision _ => TenantQuota
  | getStatus _ | resetDaily _ => QuotaStatus
  | checkAndIncrement _ => Unit
  | generateReport _ _ => ComplianceReport
  | listForTenant _ _ _ => List AuditEntry

variable (s : Surroundings)

def run : (call : TenantCall) → Service call.Answer
  | listEvents filters => EventQueryService.listEvents s.scans.events filters
  | countEvents filters => EventQueryService.countEvents filters
  | verifyIntegrity tenantId limit =>
    EventQueryService.verifyIntegrity s.sha256 s.scans.events tenantId limit
  | listAlerts filter limit offset => SentinelService.listAlerts s.scans.alerts filter limit offset
  | listPolicies tenantId activeOnly =>
    SentinelService.listPolicies s.scans.policies tenantId activeOnly
  | evaluate request => PolicyEvaluatorService.evaluate s.scans.policies request
  | dispatch request => s.notify.dispatch s.hmacSha256 s.scans.webhooks request
  | computeBaseline create => DriftDetectionService.computeBaseline s.scans.events create
  | listBaselines tenantId agentId activeOnly =>
    DriftDetectionService.listBaselines s.scans.baselines tenantId agentId activeOnly
  | analyze request => s.drift.analyze s.scans.baselines s.scans.events request
  | provision create => QuotaService.provision create
  | getStatus tenantId => QuotaService.getStatus tenantId
  | checkAndIncrement tenantId => QuotaService.checkAndIncrement tenantId
  | resetDaily tenantId => QuotaService.resetDaily tenantId
  | generateReport tenantId lookbackHours => ComplianceService.generateReport s.scans.events
      s.scans.alerts s.scans.policies tenantId lookbackHours
  | listForTenant filter limit offset =>
    AuditService.listForTenant s.scans.auditEntries filter limit offset
  | countForTenant filter => AuditService.countForTenant filter

/-- From worlds that are the same to its tenant, a call does the same. -/
theorem respects (call : TenantCall) : Respects (SameTenant call.tenantId) (call.run s) := by
  cases call with
  | listEvents filters => exact listEvents_respects _ filters
  | countEvents filters => exact countEvents_respects filters
  | verifyIntegrity tenantId limit => exact verifyIntegrity_respects _ _ limit
  | listAlerts filter limit offset => exact listAlerts_respects _ filter limit offset
  | listPolicies tenantId activeOnly => exact listPolicies_respects _ activeOnly
  | evaluate request => exact evaluate_respects _ request
  | dispatch request => exact dispatch_respects _ _ _ request
  | computeBaseline create => exact computeBaseline_respects _ create
  | listBaselines tenantId agentId activeOnly => exact listBaselines_respects _ agentId activeOnly
  | analyze request => exact analyze_respects _ _ _ request
  | provision create => exact provision_respects create
  | getStatus tenantId => exact getStatus_respects
  | checkAndIncrement tenantId => exact checkAndIncrement_respects
  | resetDaily tenantId => exact resetDaily_respects
  | generateReport tenantId lookbackHours => exact generateReport_respects _ _ _ lookbackHours
  | listForTenant filter limit offset => exact listForTenant_respects _ filter limit offset
  | countForTenant filter => exact countForTenant_respects filter

/-- A call changes rows of its tenant only. -/
theorem confined (call : TenantCall) :
    Effect.Keeps (exposure.Confined (Target.tenants [call.tenantId]).Names) (call.run s) := by
  cases call with
  | listEvents filters => exact Effect.Keeps.gets Exposure.Confined.refl _
  | countEvents filters => exact Effect.Keeps.gets Exposure.Confined.refl _
  | verifyIntegrity tenantId limit =>
    exact (QueryRequest.verifyIntegrity_concerns s.scans.events s.sha256 tenantId limit).keeps
  | listAlerts filter limit offset => exact Effect.Keeps.gets Exposure.Confined.refl _
  | listPolicies tenantId activeOnly => exact Effect.Keeps.gets Exposure.Confined.refl _
  | evaluate request => exact (PolicyRequest.evaluate_concerns s.scans.policies request).keeps
  | dispatch request =>
    exact (NotifyRequest.dispatch_concerns s.notify s.hmacSha256 s.scans.webhooks request).keeps
  | computeBaseline create =>
    exact (DriftRequest.computeBaseline_concerns s.scans.events create).keeps
  | listBaselines tenantId agentId activeOnly =>
    exact Effect.Keeps.gets Exposure.Confined.refl _
  | analyze request =>
    exact (DriftRequest.analyze_concerns s.drift s.scans.events s.scans.baselines request).keeps
  | provision create => exact (QuotaRequest.provision_concerns create).keeps
  | getStatus tenantId => exact (QuotaRequest.getStatus_concerns tenantId).keeps
  | checkAndIncrement tenantId =>
    intro w
    obtain ⟨q, hwrote, _⟩ := QuotaService.checkAndIncrement_wrote tenantId w
    exact QuotaRequest.confined_of_wrote hwrote List.mem_cons_self
  | resetDaily tenantId => exact (QuotaRequest.resetDaily_concerns tenantId).keeps
  | generateReport tenantId lookbackHours =>
    exact (ComplianceRequest.generateReport_concerns s.scans.events s.scans.alerts
      s.scans.policies tenantId lookbackHours).keeps
  | listForTenant filter limit offset => exact Effect.Keeps.gets Exposure.Confined.refl _
  | countForTenant filter => exact Effect.Keeps.gets Exposure.Confined.refl _

/-- Two worlds that agree on the rows of a tenant give every call for the tenant the same result
and agree on these rows afterwards, and in each the rows of the other tenants stay. -/
theorem noninterference (call : TenantCall) (w v : World) (h : SameTenant call.tenantId w v) :
    (call.run s w).1 = (call.run s v).1 ∧
      SameTenant call.tenantId (call.run s w).2 (call.run s v).2 ∧
      ∀ row : Row, row.tenantId ≠ call.tenantId →
        ((call.run s w).2.Has row ↔ w.Has row) ∧ ((call.run s v).2.Has row ↔ v.Has row) := by
  obtain ⟨hresult, hafter⟩ := call.respects s w v h
  refine ⟨hresult, hafter, fun row hrow => ?_⟩
  have hother : ¬(Target.tenants [call.tenantId]).Names row :=
    fun hnames => hrow (List.mem_singleton.mp hnames)
  exact ⟨(call.confined s w row hother).symm, (call.confined s v row hother).symm⟩

end TenantCall

/-- The rows of a tenant, and an event and a quota of another. -/
def sharedWorld (foreignId : Uuid) (today : Nat) : World :=
  {sampleWorld with
    alerts := sampleAlerts
    events := ⟨[{sampleRecord .modelCalled (foreignId + 2) with tenantId := "globex"},
      sampleRecord .agentStarted 0, sampleRecord .agentFailed 1], by
        show [foreignId + 2, 0, 1].Nodup
        simp⟩
    quotas := ⟨[newQuota sampleNoon "acme" .starter,
      {newQuota sampleNoon "globex" .starter with eventsToday := today}], by
        show ["acme", "globex"].Nodup
        decide⟩}

def plainSurroundings : Surroundings where
  sha256 := sampleSha256
  hmacSha256 _ _ := ""
  drift := {sentinel := true}
  notify := {http := none}

/-- A baseline of the tenant's two events, in worlds that differ in the other tenant's rows. -/
theorem TenantCall.noninterference_sample :
    let call := TenantCall.computeBaseline {tenantId := "acme", agentId := "a1"}
    let w := sharedWorld 0 7
    let v := sharedWorld 5 900
    (call.run plainSurroundings w).1 = (call.run plainSurroundings v).1 ∧
      (call.run plainSurroundings w).1.toOption.map AgentBaseline.totalEvents = some 2 ∧
      SameTenant "acme" (call.run plainSurroundings w).2 (call.run plainSurroundings v).2 ∧
      ∀ row : Row, row.tenantId ≠ "acme" →
        ((call.run plainSurroundings w).2.Has row ↔ w.Has row) ∧
          ((call.run plainSurroundings v).2.Has row ↔ v.Has row) := by
  intro call w v
  have hsame : SameTenant "acme" w v :=
    ⟨rfl, rfl, rfl, rfl, rfl, rfl, rfl, rfl, rfl, rfl, rfl, rfl⟩
  obtain ⟨hresult, hafter, hothers⟩ := noninterference plainSurroundings call w v hsame
  exact ⟨hresult, by decide +kernel, hafter, hothers⟩

end Dox
