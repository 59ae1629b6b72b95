import DoxGovernance.Lib.Agreement
import DoxGovernance.Ingestion.Delivery

/-!
# A batch and its events one after the other

A batch runs each stage for all its events before the next stage; the single calls run all
stages for each event. Every stage works within a part of the world of its own, and so the
outcome of a call that returns is the outcome of its stages, each from the world before the
call. Two calls one after the other then have the outcome of the call for both their lists.
-/

set_option autoImplicit false

namespace Dox
open Effect (Part)

def quotaPart : Part World Datetime (Table TenantQuota.tenantId) where
  env := World.clock
  get := World.quotas
  put quotas w := {w with quotas}
  env_put _ _ := rfl
  get_put _ _ := rfl
  put_get _ := rfl
  put_put _ _ _ := rfl

def uuidPart : Part World Datetime Uuid where
  env := World.clock
  get := World.nextUuid
  put nextUuid w := {w with nextUuid}
  env_put _ _ := rfl
  get_put _ _ := rfl
  put_get _ := rfl
  put_put _ _ _ := rfl

def eventPart : Part World Datetime (Table EventRecord.eventId) where
  env := World.clock
  get := World.events
  put events w := {w with events}
  env_put _ _ := rfl
  get_put _ _ := rfl
  put_get _ := rfl
  put_put _ _ _ := rfl

def alertPart : Part World Datetime (Numbered SentinelAlert.id) where
  env := World.clock
  get := World.alerts
  put alerts w := {w with alerts}
  env_put _ _ := rfl
  get_put _ _ := rfl
  put_get _ := rfl
  put_put _ _ _ := rfl

namespace QuotaService

theorem select_within (t : String) : quotaPart.Within (select t) := by
  apply Part.Within.gets
  intro w w' h
  rw [show w.quotas = w'.quotas from h.2]

theorem now_within : quotaPart.Within now := by
  apply Part.Within.gets
  exact fun w w' h => h.1

theorem insert_within (quota : TenantQuota) : quotaPart.Within (insert quota) := by
  apply Part.Within.intro
  · intro w
    unfold insert
    cases hquotas : w.quotas.insert? quota with
    | none => exact Part.Only.refl w
    | some quotas => exact ⟨quotas, rfl⟩
  · intro w w' h
    unfold insert
    rw [← show w.quotas = w'.quotas from h.2]
    cases hquotas : w.quotas.insert? quota with
    | none => exact ⟨rfl, h.2⟩
    | some quotas => exact ⟨rfl, rfl⟩

theorem save_within (quota : TenantQuota) : quotaPart.Within (save quota) := by
  apply Part.Within.intro
  · exact fun w => ⟨w.quotas.set quota, rfl⟩
  · intro w w' h
    refine ⟨rfl, ?_⟩
    exact congrArg (fun quotas : Table TenantQuota.tenantId => quotas.set quota) h.2

theorem getOrCreate_within (t : String) : quotaPart.Within (getOrCreate t) := by
  apply Part.Within.bind (select_within t)
  intro found
  cases found with
  | some quota => exact Part.Within.pure quota
  | none =>
    apply Part.Within.bind now_within
    intro time
    exact Part.Within.bind (insert_within _) fun _ => Part.Within.pure _

theorem checkAndIncrement_within (t : String) : quotaPart.Within (checkAndIncrement t) := by
  apply Part.Within.bind (getOrCreate_within t)
  intro quota
  apply Part.Within.bind now_within
  intro time
  dsimp only
  split
  · exact Part.Within.raise _
  · split
    · exact Part.Within.raise _
    · exact save_within _

end QuotaService

namespace IngestionService

theorem fromCanonical_within (sha256 : ByteArray → String) (event : CanonicalEvent) :
    uuidPart.Within (fromCanonical sha256 event) := by
  have huuid : uuidPart.Within uuid4 := by
    apply Part.Within.intro
    · exact fun w => ⟨w.nextUuid + 1, rfl⟩
    · intro w w' h
      have hnext : w.nextUuid = w'.nextUuid := h.2
      exact ⟨congrArg Except.ok hnext, congrArg (· + 1) hnext⟩
  apply Part.Within.bind huuid
  intro id
  have hnow : uuidPart.Within now := by
    apply Part.Within.gets
    exact fun w w' h => h.1
  apply Part.Within.bind hnow
  intro time
  cases EventRecord.fromCanonical sha256 id time event with
  | ok record => exact Part.Within.pure record
  | error e => exact Part.Within.raise e

theorem insertRecords_within (records : List EventRecord) :
    eventPart.Within (insertRecords records) := by
  apply Part.Within.intro
  · intro w
    rcases insertRecords_cases records w with ⟨e, h⟩ | ⟨table, h, -⟩
    · rw [h]
      exact Part.Only.refl w
    · rw [h]
      exact ⟨table, rfl⟩
  · intro w w' h
    unfold insertRecords
    rw [← show w.events = w'.events from h.2]
    cases records.findSome? EventRecord.columnError with
    | some message => exact ⟨rfl, h.2⟩
    | none =>
      cases w.events.insertAll? records with
      | none => exact ⟨rfl, h.2⟩
      | some events => exact ⟨rfl, rfl⟩

theorem insertRecords_eq_ok {records : List EventRecord} {w : World}
    {table : Table EventRecord.eventId} :
    insertRecords records w = (.ok (), {w with events := table}) ↔
      records.findSome? EventRecord.columnError = none ∧ table.rows = w.events.rows ++ records := by
  unfold insertRecords
  cases records.findSome? EventRecord.columnError with
  | some message =>
    refine iff_of_false (fun h => ?_) fun h => Option.some_ne_none _ h.1
    cases congrArg Prod.fst h
  | none =>
    cases htable : w.events.insertAll? records with
    | none =>
      refine iff_of_false (fun h => ?_) fun h => ?_
      · cases congrArg Prod.fst h
      · apply Table.insertAll?_eq_none_iff.mp htable
        rw [← h.2]
        exact table.unique
    | some events =>
      rw [← Table.insertAll?_eq_some htable, eq_self_iff_true, true_and]
      constructor
      · intro h
        exact congrArg (fun v : Except Exc Unit × World => v.2.events.rows) h.symm
      · intro h
        rw [Table.ext h]

variable (self : IngestionService) (sha256 : ByteArray → String)

theorem checkQuota_within (t : String) : quotaPart.Within (self.checkQuota t) := by
  unfold checkQuota
  split
  · exact QuotaService.checkAndIncrement_within t
  · exact Part.Within.pure _

theorem runSentinel_within (event : CanonicalEvent) :
    alertPart.Within (self.runSentinel {} event) := by
  unfold runSentinel
  split
  · apply Part.Within.forEach
    intro create _
    refine Part.Within.bind ?_ fun _ => Part.Within.pure _
    apply Part.Within.intro
    · exact fun w => ⟨w.alerts.add (SentinelService.newAlert w.clock create) fun _ => rfl, rfl⟩
    · intro w w' h
      have hclock : w.clock = w'.clock := h.1
      have halerts : w.alerts = w'.alerts := h.2
      simp only [SentinelService.createAlert, Effect.change_run, alertPart, hclock, halerts,
        and_self]
  · exact Part.Within.pure _

/-- The outcome of a call that returns: what each stage does from the world before the call. -/
structure Outcome (events : List CanonicalEvent) (records : List EventRecord) (w w' : World) :
    Prop where
  charged : Effect.forEach (fun event => self.checkQuota event.tenantId) events w =
    (.ok (), quotaPart.put w'.quotas w)
  built : Effect.mapEach (fromCanonical sha256) events w =
    (.ok records, uuidPart.put w'.nextUuid w)
  inserted : insertRecords records w = (.ok (), eventPart.put w'.events w)
  alerted : Effect.forEach (self.runSentinel {}) events w = (.ok (), alertPart.put w'.alerts w)
  published : w'.bus = w.bus ++ events.map fun event => ⟨ingestedTopic, event⟩
  rest : w' = {w with
    nextUuid := w'.nextUuid
    events := w'.events
    quotas := w'.quotas
    alerts := w'.alerts
    bus := w'.bus
    metrics := w'.metrics}

section Stages
variable {self sha256} {events : List CanonicalEvent} {records : List EventRecord} {w w' t : World}

theorem charge_within : quotaPart.Within
    (Effect.forEach (fun event => self.checkQuota event.tenantId) events) :=
  Part.Within.forEach fun event _ => self.checkQuota_within event.tenantId

theorem build_within : uuidPart.Within (Effect.mapEach (fromCanonical sha256) events) :=
  Part.Within.mapEach fun event _ => fromCanonical_within sha256 event

theorem alert_within : alertPart.Within (Effect.forEach (self.runSentinel {}) events) :=
  Part.Within.forEach fun event _ => self.runSentinel_within event

/-- A call returns exactly with the outcome of its stages and its own metric. -/
theorem submit_eq_ok {metric : Metric} :
    self.submit sha256 {} metric events w = (.ok records, w') ↔
      self.Outcome sha256 events records w w' ∧ w'.metrics = w.metrics ++ [metric] := by
  have hpublish : ∀ v : World, Effect.forEach (publish {}) events v =
      (.ok (), {v with bus := v.bus ++ events.map fun e => ⟨ingestedTopic, e⟩}) :=
    fun v => publish_spec (fun _ _ => rfl) v
  constructor
  · intro h
    rw [submit, accept] at h
    obtain ⟨records', w₃, haccept, hannounce⟩ := Effect.bind_eq_ok.mp h
    obtain ⟨_, w₁, hcharge, hrest⟩ := Effect.bind_eq_ok.mp haccept
    obtain ⟨built, w₂, hbuild, hrest⟩ := Effect.bind_eq_ok.mp hrest
    obtain ⟨_, v, hinsert, hpure⟩ := Effect.bind_eq_ok.mp hrest
    cases hpure
    obtain ⟨quotas, rfl⟩ := charge_within.shape hcharge
    obtain ⟨nextUuid, rfl⟩ := build_within.shape hbuild
    obtain ⟨table, rfl⟩ := (insertRecords_within records').shape hinsert
    rw [announce, Effect.bind_assoc, Effect.bind_ok (hpublish _), Effect.bind_assoc] at hannounce
    obtain ⟨_, v, hmetric, hrest⟩ := Effect.bind_eq_ok.mp hannounce
    cases hmetric
    obtain ⟨_, v, halert, hpure⟩ := Effect.bind_eq_ok.mp hrest
    cases hpure
    obtain ⟨alerts, rfl⟩ := alert_within.shape halert
    refine ⟨⟨hcharge, ?_, ?_, ?_, rfl, rfl⟩, rfl⟩
    · exact build_within.frame hbuild ⟨rfl, rfl⟩
    · exact (insertRecords_within _).frame hinsert ⟨rfl, rfl⟩
    · exact alert_within.frame halert ⟨rfl, rfl⟩
  · rintro ⟨⟨hcharge, hbuild, hinsert, halert, hbus, hrest⟩, hmetrics⟩
    have hbuilt : Effect.mapEach (fromCanonical sha256) events (quotaPart.put w'.quotas w) =
        (.ok records, uuidPart.put w'.nextUuid (quotaPart.put w'.quotas w)) :=
      build_within.frame hbuild ⟨rfl, rfl⟩
    have haccept : self.accept sha256 events w = (.ok records,
        eventPart.put w'.events (uuidPart.put w'.nextUuid (quotaPart.put w'.quotas w))) := by
      rw [accept, Effect.bind_ok hcharge, Effect.bind_ok hbuilt]
      exact Effect.bind_ok ((insertRecords_within records).frame hinsert ⟨rfl, rfl⟩)
    rw [submit, Effect.bind_ok haccept, announce, Effect.bind_assoc, Effect.bind_ok (hpublish _),
      Effect.bind_assoc, increment, Effect.bind_ok (Effect.change_run _ _)]
    refine (Effect.bind_ok (alert_within.frame halert ?_)).trans ?_
    · exact ⟨rfl, rfl⟩
    · refine congrArg (Prod.mk _) ?_
      rw [hrest, hbus, hmetrics]
      rfl

/-- The outcome for two lists one after the other is that for both at once. -/
theorem Outcome.append {cs ds : List CanonicalEvent} {rs qs : List EventRecord}
    (h : self.Outcome sha256 cs rs w t) (h' : self.Outcome sha256 ds qs t w') :
    self.Outcome sha256 (cs ++ ds) (rs ++ qs) w w' := by
  obtain ⟨hcharge, hbuild, hinsert, halert, hbus, hrest⟩ := h
  obtain ⟨hcharge', hbuild', hinsert', halert', hbus', hrest'⟩ := h'
  have hclock : t.clock = w.clock := by rw [hrest]
  refine ⟨?_, ?_, ?_, ?_, ?_, ?_⟩
  · rw [Effect.forEach_append, Effect.bind_ok hcharge]
    exact charge_within.frame hcharge' ⟨hclock, rfl⟩
  · have hnext : Effect.mapEach (fromCanonical sha256) ds (uuidPart.put t.nextUuid w) =
        (.ok qs, uuidPart.put w'.nextUuid (uuidPart.put t.nextUuid w)) :=
      build_within.frame hbuild' ⟨hclock, rfl⟩
    rw [Effect.mapEach_append, Effect.bind_ok hbuild, Effect.bind_ok hnext]
    rfl
  · have hcolumns := insertRecords_eq_ok.mp hinsert
    have hcolumns' := insertRecords_eq_ok.mp hinsert'
    refine insertRecords_eq_ok.mpr ⟨?_, ?_⟩
    · rw [List.findSome?_append, hcolumns.1, hcolumns'.1, Option.none_or]
    · rw [hcolumns'.2, hcolumns.2, List.append_assoc]
  · rw [Effect.forEach_append, Effect.bind_ok halert]
    exact alert_within.frame halert' ⟨hclock, rfl⟩
  · rw [hbus', hbus, List.map_append, List.append_assoc]
  · rw [hrest', hrest]

/-- The outcome for a list splits at any point of the list. -/
theorem Outcome.split (cs ds : List CanonicalEvent) (metrics : List Metric)
    (h : self.Outcome sha256 (cs ++ ds) records w w') :
    ∃ rs qs t, records = rs ++ qs ∧ t.metrics = metrics ∧ self.Outcome sha256 cs rs w t ∧
      self.Outcome sha256 ds qs t w' := by
  obtain ⟨hcharge, hbuild, hinsert, halert, hbus, hrest⟩ := h
  rw [Effect.forEach_append] at hcharge halert
  rw [Effect.mapEach_append] at hbuild
  obtain ⟨_, v, hcharged, hcharge⟩ := Effect.bind_eq_ok.mp hcharge
  obtain ⟨quotas, rfl⟩ := charge_within.shape hcharged
  obtain ⟨rs, v, hbuilt, hbuild⟩ := Effect.bind_eq_ok.mp hbuild
  obtain ⟨nextUuid, rfl⟩ := build_within.shape hbuilt
  obtain ⟨qs, v, hlast, hpure⟩ := Effect.bind_eq_ok.mp hbuild
  obtain ⟨hrecords, rfl⟩ := Prod.mk.inj hpure
  cases hrecords
  obtain ⟨_, v, halerted, halert⟩ := Effect.bind_eq_ok.mp halert
  obtain ⟨alerts, rfl⟩ := alert_within.shape halerted
  obtain ⟨hcolumns, hrows⟩ := insertRecords_eq_ok.mp hinsert
  rw [List.findSome?_append, Option.or_eq_none_iff] at hcolumns
  have hunique : ((w.events.rows ++ rs).map EventRecord.eventId).Nodup := by
    have hall := w'.events.unique
    rw [hrows, ← List.append_assoc, List.map_append] at hall
    exact (List.nodup_append.mp hall).1
  refine ⟨rs, qs, {w with
    nextUuid := nextUuid
    events := ⟨w.events.rows ++ rs, hunique⟩
    quotas := quotas
    alerts := alerts
    bus := w.bus ++ cs.map fun event => ⟨ingestedTopic, event⟩
    metrics := metrics}, rfl, rfl, ?_, ?_⟩
  · refine ⟨hcharged, hbuilt, ?_, halerted, rfl, rfl⟩
    exact insertRecords_eq_ok.mpr ⟨hcolumns.1, rfl⟩
  · refine ⟨?_, ?_, ?_, ?_, ?_, ?_⟩
    · exact charge_within.frame (c := w'.quotas) hcharge ⟨rfl, rfl⟩
    · exact build_within.frame (c := w'.nextUuid) hlast ⟨rfl, rfl⟩
    · refine insertRecords_eq_ok.mpr ⟨hcolumns.2, ?_⟩
      rw [hrows, List.append_assoc]
    · exact alert_within.frame (c := w'.alerts) halert ⟨rfl, rfl⟩
    · rw [hbus, List.map_append, List.append_assoc]
    · rw [hrest]

theorem outcome_nil_iff : self.Outcome sha256 [] records w w' ↔
    records = [] ∧ w' = {w with metrics := w'.metrics} := by
  constructor
  · rintro ⟨hcharge, hbuild, hinsert, halert, hbus, hrest⟩
    have hnone : (Except.ok [] : Except Exc (List EventRecord)) = .ok records :=
      congrArg Prod.fst hbuild
    cases hnone
    refine ⟨rfl, ?_⟩
    have hquotas : w'.quotas = w.quotas := congrArg (fun r => r.2.quotas) hcharge.symm
    have huuid : w'.nextUuid = w.nextUuid := congrArg (fun r => r.2.nextUuid) hbuild.symm
    have halerts : w'.alerts = w.alerts := congrArg (fun r => r.2.alerts) halert.symm
    have hevents : w'.events = w.events :=
      Table.ext ((insertRecords_eq_ok.mp hinsert).2.trans (List.append_nil _))
    rw [hquotas, huuid, halerts, hevents, hbus] at hrest
    rw [hrest]
    simp
  · rintro ⟨rfl, hrest⟩
    rw [hrest]
    refine ⟨rfl, rfl, insertRecords_eq_ok.mpr ⟨rfl, (List.append_nil _).symm⟩, rfl, ?_, rfl⟩
    exact (List.append_nil _).symm

end Stages

/-- The single calls for the events of a list, one after the other. -/
def ingestEach (events : List CanonicalEvent) : Service (List EventRecord) :=
  Effect.mapEach (self.ingest sha256 {}) events

section Sequence
variable {self sha256} {events : List CanonicalEvent} {records : List EventRecord} {w w' : World}

theorem ingest_eq_ok {event : CanonicalEvent} :
    (∃ record, records = [record] ∧ self.ingest sha256 {} event w = (.ok record, w')) ↔
      self.Outcome sha256 [event] records w w' ∧
        w'.metrics = w.metrics ++ [(IngestOp.ingest event).metric] := by
  rw [← submit_eq_ok, IngestOp.metric, ← ingest_eq_submit, Effect.bind_eq_ok]
  constructor
  · rintro ⟨record, rfl, h⟩
    exact ⟨record, w', h, rfl⟩
  · rintro ⟨record, t, h, hpure⟩
    cases hpure
    exact ⟨record, rfl, h⟩

/-- The single calls all return exactly with the outcome of the stages of one call, and one
metric a call. -/
theorem ingestEach_eq_ok :
    self.ingestEach sha256 events w = (.ok records, w') ↔
      self.Outcome sha256 events records w w' ∧
        w'.metrics = w.metrics ++ events.map fun e => (IngestOp.ingest e).metric := by
  induction events generalizing records w with
  | nil =>
    rw [outcome_nil_iff, List.map_nil, List.append_nil]
    constructor
    · intro h
      cases h
      exact ⟨⟨rfl, rfl⟩, rfl⟩
    · rintro ⟨⟨rfl, hrest⟩, hmetrics⟩
      rw [hmetrics] at hrest
      rw [hrest]
      rfl
  | cons event events ih =>
    rw [ingestEach, Effect.mapEach_cons, List.map_cons]
    constructor
    · intro h
      obtain ⟨record, t, hfirst, h⟩ := Effect.bind_eq_ok.mp h
      obtain ⟨rs, v, hrest, hpure⟩ := Effect.bind_eq_ok.mp h
      cases hpure
      obtain ⟨houtcome, hmetrics⟩ := ingest_eq_ok.mp ⟨record, rfl, hfirst⟩
      obtain ⟨houtcome', hmetrics'⟩ := ih.mp hrest
      refine ⟨houtcome.append houtcome', ?_⟩
      rw [hmetrics', hmetrics, List.append_assoc, List.singleton_append]
    · rintro ⟨h, hmetrics⟩
      obtain ⟨rs, qs, t, rfl, htmetrics, hfirst, hrest⟩ := Outcome.split [event] events
        (w.metrics ++ [(IngestOp.ingest event).metric]) h
      obtain ⟨record, rfl, hrun⟩ := ingest_eq_ok.mpr ⟨hfirst, htmetrics⟩
      rw [Effect.bind_ok hrun]
      have hmetrics' : w'.metrics =
          t.metrics ++ events.map fun e => (IngestOp.ingest e).metric := by
        rw [hmetrics, htmetrics, List.append_assoc, List.singleton_append]
      exact Effect.bind_ok (ih.mpr ⟨hrest, hmetrics'⟩)

theorem ingestBatch_eq_ok (hne : events ≠ []) :
    self.ingestBatch sha256 {} events w = (.ok records, w') ↔
      self.Outcome sha256 events records w w' ∧
        w'.metrics = w.metrics ++ [(IngestOp.ingestBatch events).metric] := by
  rw [ingestBatch_eq_submit self sha256 {} hne, submit_eq_ok]
  rfl

theorem Outcome.with_metrics (h : self.Outcome sha256 events records w w') (metrics : List Metric) :
    self.Outcome sha256 events records w {w' with metrics} := by
  obtain ⟨hcharge, hbuild, hinsert, halert, hbus, hrest⟩ := h
  refine ⟨hcharge, hbuild, hinsert, halert, hbus, ?_⟩
  rw [hrest]

theorem Outcome.unique {records' : List EventRecord} {w'' : World}
    (h : self.Outcome sha256 events records w w') (h' : self.Outcome sha256 events records' w w'') :
    records' = records ∧ w'' = {w' with metrics := w''.metrics} := by
  obtain ⟨hcharge, hbuild, hinsert, halert, hbus, hrest⟩ := h
  obtain ⟨hcharge', hbuild', hinsert', halert', hbus', hrest'⟩ := h'
  have hrecords : records' = records :=
    Except.ok.inj (congrArg Prod.fst (hbuild'.symm.trans hbuild))
  have hquotas : w''.quotas = w'.quotas :=
    congrArg (fun r => r.2.quotas) (hcharge'.symm.trans hcharge)
  have huuid : w''.nextUuid = w'.nextUuid :=
    congrArg (fun r => r.2.nextUuid) (hbuild'.symm.trans hbuild)
  have halerts : w''.alerts = w'.alerts :=
    congrArg (fun r => r.2.alerts) (halert'.symm.trans halert)
  have hevents : w''.events = w'.events := by
    rw [hrecords] at hinsert'
    exact congrArg (fun r => r.2.events) (hinsert'.symm.trans hinsert)
  refine ⟨hrecords, ?_⟩
  rw [hquotas, huuid, halerts, hevents, hbus', ← hbus] at hrest'
  rw [hrest', hrest]

theorem ingestBatch_ok_iff :
    (∃ records w', self.ingestBatch sha256 {} events w = (.ok records, w')) ↔
      ∃ records w', self.ingestEach sha256 events w = (.ok records, w') := by
  rcases events with - | ⟨event, events⟩
  · exact Iff.rfl
  constructor
  · rintro ⟨records, w', h⟩
    obtain ⟨houtcome, -⟩ := (ingestBatch_eq_ok (List.cons_ne_nil _ _)).mp h
    exact ⟨records, _, ingestEach_eq_ok.mpr ⟨houtcome.with_metrics _, rfl⟩⟩
  · rintro ⟨records, w', h⟩
    obtain ⟨houtcome, -⟩ := ingestEach_eq_ok.mp h
    exact ⟨records, _, (ingestBatch_eq_ok (List.cons_ne_nil _ _)).mpr
      ⟨houtcome.with_metrics _, rfl⟩⟩

end Sequence

/-- Without an outage, a batch returns exactly when the single calls for its events, one after the
other at the same instant, all return. Both then return the same records and leave the same
world up to the metrics: the same rows, messages, alerts and counters in the same order. -/
theorem batch_as_sequence (events : List CanonicalEvent) (w : World) :
    ((∃ records w', self.ingestBatch sha256 {} events w = (.ok records, w')) ↔
      ∃ records w', self.ingestEach sha256 events w = (.ok records, w')) ∧
    ∀ records w' records' w'',
      self.ingestBatch sha256 {} events w = (.ok records, w') →
      self.ingestEach sha256 events w = (.ok records', w'') →
        records' = records ∧ w''.events.rows = w'.events.rows ∧ w''.bus = w'.bus ∧
          w''.alerts.rows = w'.alerts.rows ∧ w''.quotas.rows = w'.quotas.rows ∧
          w'' = {w' with metrics := w''.metrics} := by
  refine ⟨ingestBatch_ok_iff, ?_⟩
  intro records w' records' w'' hbatch heach
  rcases events with - | ⟨event, events⟩
  · cases hbatch
    cases heach
    exact ⟨rfl, rfl, rfl, rfl, rfl, rfl⟩
  · obtain ⟨houtcome, -⟩ := (ingestBatch_eq_ok (List.cons_ne_nil _ _)).mp hbatch
    obtain ⟨houtcome', -⟩ := ingestEach_eq_ok.mp heach
    obtain ⟨hrecords, hworld⟩ := houtcome.unique houtcome'
    refine ⟨hrecords, ?_, ?_, ?_, ?_, hworld⟩ <;> rw [hworld]

theorem batch_as_sequence_sample :
    ∃ records w' w'',
      ingestBatch ⟨true, true⟩ sampleSha256 {} [sampleEvent 1 .agentStarted, sampleEvent 2 .agentFailed]
        sampleWorld = (.ok records, w') ∧
      ingestEach ⟨true, true⟩ sampleSha256 [sampleEvent 1 .agentStarted, sampleEvent 2 .agentFailed]
        sampleWorld = (.ok records, w'') ∧ w''.bus = w'.bus := by
  obtain ⟨records, w', hbatch⟩ : ∃ records w', ingestBatch ⟨true, true⟩ sampleSha256 {}
      [sampleEvent 1 .agentStarted, sampleEvent 2 .agentFailed] sampleWorld = (.ok records, w') :=
    ⟨_, _, rfl⟩
  have hsample := batch_as_sequence ⟨true, true⟩ sampleSha256
    [sampleEvent 1 .agentStarted, sampleEvent 2 .agentFailed] sampleWorld
  obtain ⟨records', w'', heach⟩ := hsample.1.mp ⟨records, w', hbatch⟩
  obtain ⟨rfl, -, hbus, -⟩ := hsample.2 records w' records' w'' hbatch heach
  exact ⟨records', w', w'', hbatch, heach, hbus⟩

end IngestionService
end Dox
