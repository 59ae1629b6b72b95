import DoxGovernance.System.Writes

/-!
# What each operation writes

Every operation of a service is a sequence of writes, and those of the ingestion service are
made of the records that the call itself has built.
-/

set_option autoImplicit false

namespace Dox
open Effect

/-! ### The services -/

section Services
variable {sha256 : ByteArray → String} {places : List Place}

namespace QuotaService

theorem checkAndIncrement_writes (h : .quotas ∈ places) (t : String) :
    OnlyWrites sha256 places (checkAndIncrement t) := by
  intro w
  by_cases hroom : HasRoom (effective w t)
  · obtain ⟨w', hrun, hwrote⟩ := checkAndIncrement_admits hroom
    rw [hrun]
    exact Writes.single (.writeQuota (.counted hroom) hwrote) h
  · obtain ⟨w', detail, hrun, hwrote⟩ := checkAndIncrement_refuses hroom
    rw [hrun]
    exact Writes.single (.writeQuota .opened hwrote) h

theorem getStatus_writes (h : .quotas ∈ places) (t : String) :
    OnlyWrites sha256 places (getStatus t) := by
  intro w
  obtain ⟨w', hrun, hwrote⟩ := getStatus_spec t w
  rw [hrun]
  exact Writes.single (.writeQuota .restarted hwrote) h

theorem provision_writes (h : .quotas ∈ places) (create : QuotaProvision) :
    OnlyWrites sha256 places (provision create) := by
  intro w
  obtain ⟨w', hrun, hwrote⟩ := provision_spec create w
  rw [hrun]
  exact Writes.single (.writeQuota (.tiered _) hwrote) h

theorem resetDaily_writes (h : .quotas ∈ places) (t : String) :
    OnlyWrites sha256 places (resetDaily t) := by
  intro w
  obtain ⟨w', hrun, hwrote⟩ := resetDaily_spec t w
  rw [hrun]
  exact Writes.single (.writeQuota .zeroed hwrote) h

end QuotaService

namespace SentinelService

theorem createAlert_writes (h : .alerts ∈ places) (create : SentinelAlertCreate) :
    OnlyWrites sha256 places (createAlert create) :=
  OnlyWrites.once (fun w => .createAlert w create) h

theorem resolveAlert_writes (h : .alerts ∈ places) (alertId : Uuid) (action : InterventionAction) :
    OnlyWrites sha256 places (resolveAlert alertId action) := by
  apply OnlyWrites.bind (OnlyWrites.finds (getAlert_finds alertId))
  intro alert
  exact OnlyWrites.once (fun w => .resolveAlert w alertId action) h

theorem deactivatePolicy_writes (h : .policies ∈ places) (policyId : Uuid) :
    OnlyWrites sha256 places (deactivatePolicy policyId) := by
  intro w
  unfold deactivatePolicy
  split
  · exact Writes.refl w
  · exact Writes.single (.deactivatePolicy w policyId) h

end SentinelService

theorem PolicyEvaluatorService.updatePolicy_writes (h : .policies ∈ places) (policyId : Uuid)
    (update : PolicyUpdate) : OnlyWrites sha256 places (updatePolicy policyId update) := by
  apply OnlyWrites.bind (OnlyWrites.finds (getPolicy_finds policyId))
  intro policy
  exact OnlyWrites.once (fun w => .updatePolicy w policyId update) h

namespace DriftDetectionService

theorem computeBaseline_writes (h : .baselines ∈ places) (scan : Scan EventRecord)
    (create : BaselineCreate) : OnlyWrites sha256 places (computeBaseline scan create) := by
  apply OnlyWrites.bind (OnlyWrites.gets _)
  intro events
  exact OnlyWrites.once (fun w => .replaceBaselines w create events) h

theorem deactivateBaseline_writes (h : .baselines ∈ places) (baselineId : Uuid) :
    OnlyWrites sha256 places (deactivateBaseline baselineId) := by
  apply OnlyWrites.bind (OnlyWrites.finds (getBaseline_finds baselineId))
  intro baseline
  exact OnlyWrites.once (fun w => .deactivateBaseline w baselineId) h

section Analyze
variable (service : DriftDetectionService) (h : service.sentinel = true → .alerts ∈ places)
include h

theorem raiseAlert_writes (severity : DriftSeverity) (create : SentinelAlertCreate) :
    OnlyWrites sha256 places (service.raiseAlert severity create) := by
  unfold raiseAlert
  cases halerts : service.alerts severity with
  | true =>
    rw [DriftDetectionService.alerts, Bool.and_eq_true] at halerts
    exact OnlyWrites.map (SentinelService.createAlert_writes (h halerts.1) create)
  | false => exact OnlyWrites.pure false

theorem analyze_writes (baselineScan : Scan AgentBaseline) (eventScan : Scan EventRecord)
    (request : AnalyzeRequest) :
    OnlyWrites sha256 places (service.analyze baselineScan eventScan request) := by
  apply OnlyWrites.bind (OnlyWrites.gets _)
  intro baseline
  apply OnlyWrites.bind (OnlyWrites.gets _)
  intro recent
  exact OnlyWrites.map (raiseAlert_writes service h _ _)

end Analyze

end DriftDetectionService

namespace NotificationService

theorem deactivateWebhook_writes (h : .webhooks ∈ places) (webhookId : Uuid) :
    OnlyWrites sha256 places (deactivateWebhook webhookId) := by
  apply OnlyWrites.bind (OnlyWrites.finds (getWebhook_finds webhookId))
  intro webhook
  exact OnlyWrites.once (fun w => .deactivateWebhook w webhookId) h

theorem deliver_writes (h : .webhooks ∈ places) (hmacSha256 : ByteArray → ByteArray → String)
    (service : NotificationService) (request : DispatchRequest) (webhook : WebhookEndpoint) :
    OnlyWrites sha256 places (service.deliver hmacSha256 request webhook) := by
  apply OnlyWrites.bind (OnlyWrites.once (fun w => .uuid .webhooks w) h)
  intro deliveryId
  apply OnlyWrites.bind (OnlyWrites.gets _)
  intro time
  split
  · exact OnlyWrites.raise _
  · exact OnlyWrites.map (OnlyWrites.once (fun w => .recordDelivery w webhook _) h)

theorem dispatch_writes (h : .webhooks ∈ places) (hmacSha256 : ByteArray → ByteArray → String)
    (service : NotificationService) (scan : Scan WebhookEndpoint) (request : DispatchRequest) :
    OnlyWrites sha256 places (service.dispatch hmacSha256 scan request) := by
  apply OnlyWrites.bind (OnlyWrites.gets _)
  intro webhooks
  apply OnlyWrites.map
  apply OnlyWrites.mapEach
  exact fun webhook _ => deliver_writes h hmacSha256 service request webhook

end NotificationService

namespace AgentRegistryService

theorem insert_writes (h : .agents ∈ places) (fields : AgentProfileCreate) :
    OnlyWrites sha256 places (insert fields) := by
  intro w
  unfold insert
  cases hadd : w.agents.add? (newProfile w.clock fields) fun _ => rfl with
  | none => exact Writes.refl w
  | some agents => exact Writes.single (.createAgent hadd) h

theorem create_writes (h : .agents ∈ places) (fields : AgentProfileCreate) :
    OnlyWrites sha256 places (create fields) := by
  apply OnlyWrites.bind (OnlyWrites.gets _)
  intro existing
  cases existing with
  | some profile => exact OnlyWrites.raise _
  | none => exact insert_writes h fields

theorem update_writes (h : .agents ∈ places) (profileId : Uuid) (fields : AgentProfileUpdate) :
    OnlyWrites sha256 places (update profileId fields) := by
  apply OnlyWrites.bind (OnlyWrites.finds (get_finds profileId))
  intro profile
  exact OnlyWrites.once (fun w => .saveAgent w (patched fields) (fun _ => Or.inl rfl) profile) h

theorem delete_writes (h : .agents ∈ places) (profileId : Uuid) :
    OnlyWrites sha256 places (delete profileId) := by
  apply OnlyWrites.bind (OnlyWrites.finds (get_finds profileId))
  intro profile
  apply OnlyWrites.map
  exact OnlyWrites.once
    (fun w => .saveAgent w ({· with isActive := false}) (fun _ => Or.inl rfl) profile) h

theorem heartbeat_writes (h : .agents ∈ places) (tenantId agentId : String) :
    OnlyWrites sha256 places (heartbeat tenantId agentId) := by
  apply OnlyWrites.bind (OnlyWrites.finds (getByAgentId_finds tenantId agentId))
  intro profile w
  exact Writes.single
    (.saveAgent w ({· with lastSeenAt := some w.clock}) (fun _ => Or.inr rfl) profile) h

end AgentRegistryService

theorem AuditService.record_writes (h : .auditEntries ∈ places) (create : AuditEntryCreate) :
    OnlyWrites sha256 places (record create) :=
  OnlyWrites.once (fun w => .recordEntry w create) h

theorem ComplianceService.generateReport_writes (h : .quotas ∈ places)
    (eventScan : Scan EventRecord) (alertScan : Scan SentinelAlert) (policyScan : Scan Policy)
    (tenantId : String) (lookbackHours : Nat) : OnlyWrites sha256 places
      (generateReport eventScan alertScan policyScan tenantId lookbackHours) := by
  apply OnlyWrites.bind (OnlyWrites.gets _)
  intro time
  apply OnlyWrites.bind (OnlyWrites.map (OnlyWrites.gets _))
  intro events
  apply OnlyWrites.bind (OnlyWrites.map (OnlyWrites.gets _))
  intro alerts
  apply OnlyWrites.bind (OnlyWrites.map (QuotaService.getStatus_writes h tenantId))
  intro quota
  exact OnlyWrites.map (OnlyWrites.map (OnlyWrites.gets _))

/-! ### Ingestion -/

namespace IngestionService
variable (service : IngestionService) (outage : Outage)

/-- A record that is made of an event at some time. -/
def Made (sha256 : ByteArray → String) (time : Datetime) (record : EventRecord) : Prop :=
  ∃ id event, EventRecord.fromCanonical sha256 id time event = .ok record

variable (sha256) in
theorem fromCanonical_writes (h : .events ∈ places) (event : CanonicalEvent) :
    OnlyWrites sha256 places (fromCanonical sha256 event) := by
  apply OnlyWrites.bind (OnlyWrites.once (fun w => .uuid .events w) h)
  intro id
  apply OnlyWrites.bind (OnlyWrites.gets _)
  intro time
  cases EventRecord.fromCanonical sha256 id time event with
  | ok record => exact OnlyWrites.pure record
  | error e => exact OnlyWrites.raise e

theorem fromCanonical_made {event : CanonicalEvent} {w w' : World} {record : EventRecord}
    (h : fromCanonical sha256 event w = (.ok record, w')) : Made sha256 w.clock record := by
  cases hhash : EventRecord.fromCanonical sha256 w.nextUuid w.clock event with
  | ok made =>
    have hrun : fromCanonical sha256 event w = (.ok made, {w with nextUuid := w.nextUuid + 1}) := by
      simp only [fromCanonical, uuid4, now, bind_run, change_run, gets_run, hhash, pure_run]
    rw [hrun] at h
    cases h
    exact ⟨w.nextUuid, event, hhash⟩
  | error e =>
    have hrun : fromCanonical sha256 event w = (.error e, {w with nextUuid := w.nextUuid + 1}) := by
      simp only [fromCanonical, uuid4, now, bind_run, change_run, gets_run, hhash, raise_run]
    rw [hrun] at h
    cases h

/-- All records of a call are made at its time. -/
theorem records_made {events : List CanonicalEvent} {w w' : World} {records : List EventRecord}
    (h : mapEach (fromCanonical sha256) events w = (.ok records, w')) :
    ∀ r ∈ records, Made sha256 w.clock r := by
  induction events generalizing w records with
  | nil =>
    cases h
    exact fun r hr => absurd hr List.not_mem_nil
  | cons e es ih =>
    rw [mapEach_cons] at h
    obtain ⟨record, t, hfirst, h⟩ := bind_eq_ok.mp h
    obtain ⟨rest, t', hrest, h⟩ := bind_eq_ok.mp h
    cases h
    have hclock : t.clock = w.clock := by
      have hwrites := fromCanonical_writes sha256 (List.mem_singleton_self Place.events) e w
      rw [hfirst] at hwrites
      exact hwrites.clock
    intro r hr
    rcases List.mem_cons.mp hr with rfl | hr
    · exact fromCanonical_made hfirst
    · rw [← hclock]
      exact ih hrest r hr

theorem insertRecords_writes (h : .events ∈ places) {records : List EventRecord} {w : World}
    (hmade : ∀ r ∈ records, Made sha256 w.clock r) :
    Writes sha256 places w (insertRecords records w).2 := by
  cases hfit : records.findSome? EventRecord.columnError with
  | some message =>
    have hrun : insertRecords records w = (.error (.dataError message), w) := by
      simp only [insertRecords, hfit]
    rw [hrun]
    exact Writes.refl w
  | none =>
    cases hinsert : w.events.insertAll? records with
    | none =>
      have hrun : insertRecords records w =
          (.error (.integrityError "uq_events_event_id"), w) := by
        simp only [insertRecords, hfit, hinsert]
      rw [hrun]
      exact Writes.refl w
    | some events =>
      have hrun : insertRecords records w = (.ok (), {w with events}) := by
        simp only [insertRecords, hfit, hinsert]
      rw [hrun]
      exact Writes.single (.insertEvents hmade hfit hinsert) h

section Calls
variable (hquotas : .quotas ∈ places) (hevents : .events ∈ places)
include hquotas

theorem checkQuota_writes (t : String) : OnlyWrites sha256 places (service.checkQuota t) := by
  unfold checkQuota
  cases service.quota with
  | true => exact QuotaService.checkAndIncrement_writes hquotas t
  | false => exact OnlyWrites.pure ()

include hevents

theorem accept_writes (events : List CanonicalEvent) :
    OnlyWrites sha256 places (service.accept sha256 events) := by
  apply OnlyWrites.bind
  · exact OnlyWrites.forEach fun event _ => checkQuota_writes service hquotas event.tenantId
  intro _ w
  rw [bind_run]
  have hbuilt : Writes sha256 places w (mapEach (fromCanonical sha256) events w).2 :=
    OnlyWrites.mapEach (fun event _ => fromCanonical_writes sha256 hevents event) w
  cases hrecords : mapEach (fromCanonical sha256) events w with
  | mk r w' =>
    rw [hrecords] at hbuilt
    cases r with
    | error e => exact hbuilt
    | ok records =>
      refine hbuilt.trans ?_
      have hmade := records_made hrecords
      rw [← hbuilt.clock] at hmade
      have hinsert := insertRecords_writes hevents hmade
      dsimp only
      rw [bind_run]
      cases hrun : insertRecords records w' with
      | mk r' w'' =>
        rw [hrun] at hinsert
        cases r' with
        | ok _ => exact hinsert
        | error e => exact hinsert

end Calls

section Announce
variable (hbus : .bus ∈ places) (hmetrics : .metrics ∈ places) (halerts : .alerts ∈ places)

include hbus in
theorem publish_writes (event : CanonicalEvent) :
    OnlyWrites sha256 places (publish outage event) :=
  OnlyWrites.failing _ (OnlyWrites.once (fun w => .publish w event) hbus)

include halerts in
theorem runSentinel_writes (event : CanonicalEvent) :
    OnlyWrites sha256 places (service.runSentinel outage event) := by
  unfold runSentinel
  cases service.sentinel with
  | false => exact OnlyWrites.pure ()
  | true =>
    apply OnlyWrites.forEach
    intro create _
    apply OnlyWrites.failing
    exact OnlyWrites.map (SentinelService.createAlert_writes halerts create)

include hbus hmetrics halerts

theorem announce_writes (metric : Metric) (events : List CanonicalEvent) :
    OnlyWrites sha256 places (service.announce outage metric events) := by
  apply OnlyWrites.bind
  · exact OnlyWrites.forEach fun event _ => publish_writes outage hbus event
  intro _
  apply OnlyWrites.bind (OnlyWrites.once (fun w => .increment w _ _ _) hmetrics)
  intro _
  exact OnlyWrites.forEach fun event _ => runSentinel_writes service outage halerts event

end Announce

end IngestionService

end Services

/-- The places that a call for events writes to. -/
def ingestionPlaces : List Place := [.quotas, .events, .bus, .metrics, .alerts]

theorem IngestOp.run_writes (service : IngestionService) (sha256 : ByteArray → String)
    (outage : Outage) (op : IngestOp) :
    OnlyWrites sha256 ingestionPlaces (op.run service sha256 outage) := by
  by_cases hempty : op.events = []
  · rw [IngestOp.run_of_empty hempty]
    exact OnlyWrites.pure []
  · rw [IngestOp.run_eq_submit hempty]
    apply OnlyWrites.bind
    · exact IngestionService.accept_writes service (by decide) (by decide) op.events
    intro records
    apply OnlyWrites.bind
    · exact IngestionService.announce_writes service outage (by decide) (by decide) (by decide) _ _
    intro _
    exact OnlyWrites.pure records

end Dox
