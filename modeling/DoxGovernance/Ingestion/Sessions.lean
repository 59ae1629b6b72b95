import DoxGovernance.Ingestion.Storage
import DoxGovernance.Lib.Interleave

/-!
# Concurrent ingestion

Any number of ingestion calls, each in its own database session, as steps: one check of the quota
after the other; the records in one commit; one message after the other; the metric; one alert
after the other, each in a commit of its own. Other sessions act between these steps. What a
check finds and leaves of the quotas is up to the schedule, since checks of other sessions get in
between as well. A call that no other session interrupts is the call of the service.
-/

set_option autoImplicit false

namespace Dox
namespace IngestionConcurrency
open IngestionService Effect

/-- How far a call has come. -/
inductive Stage where
  | checking (left : List CanonicalEvent)
  | publishing (records : List EventRecord) (left : List CanonicalEvent)
  | alerting (records : List EventRecord) (left : List CanonicalEvent)
  | finished (answer : Except Exc (List EventRecord))

structure Session where
  op : IngestOp
  outage : Outage
  stage : Stage

/-- The reading of the clock at a step, and how a check of the quota ends if the step is one. -/
structure Tick where
  now : Datetime
  quotas : Table TenantQuota.tenantId := ∅
  check : Except Exc Unit := .ok ()

/-- The world, and the events counted by a metric so far, which no session reads. -/
structure Shared where
  world : World
  counted : List Uuid := []

/-- The records of a call are built and committed. -/
def store (sha256 : ByteArray → String) (events : List CanonicalEvent) :
    Service (List EventRecord) := do
  let records ← mapEach (fromCanonical sha256) events
  insertRecords records
  return records

/-- The next stage, or the end of the call if the step has raised. -/
def proceed {α : Type} (next : α → Stage) : Except Exc α → Stage
  | .ok a => next a
  | .error e => .finished (.error e)

section Act
variable (service : IngestionService) (sha256 : ByteArray → String)

/-- The first stage of a call; a batch without events returns at once. -/
def firstStage (op : IngestOp) : Stage :=
  if op.events = [] then .finished (.ok [])
  else .checking (if service.quota then op.events else [])

/-- A step that runs a part of the call on the world. -/
def perform {α : Type} (part : Service α) (next : α → Stage) (tick : Tick) (s : Shared)
    (l : Session) : Shared × Session :=
  ({s with world := (part (s.world.at tick.now)).2},
    {l with stage := proceed next (part (s.world.at tick.now)).1})

/-- The next step of a session. -/
def act (tick : Tick) (s : Shared) (l : Session) : Shared × Session :=
  match l.stage with
  | .checking (_ :: left) =>
    ({s with world := {s.world with quotas := tick.quotas}},
      {l with stage := proceed (fun _ => .checking left) tick.check})
  | .checking [] =>
    perform (store sha256 l.op.events) (fun records => .publishing records l.op.events) tick s l
  | .publishing records (event :: left) =>
    perform (publish l.outage event) (fun _ => .publishing records left) tick s l
  | .publishing records [] =>
    ({ world := {s.world with metrics := s.world.metrics ++ [l.op.metric]}
       counted := s.counted ++ l.op.events.map CanonicalEvent.eventId },
      {l with stage := .alerting records l.op.events})
  | .alerting records (event :: left) =>
    perform (service.runSentinel l.outage event) (fun _ => .alerting records left) tick s l
  | .alerting records [] => (s, {l with stage := .finished (.ok records)})
  | .finished answer => (s, {l with stage := .finished answer})

def start (op : IngestOp) (outage : Outage) : Session := ⟨op, outage, firstStage service op⟩

end Act

/-! ### A call that is not interrupted -/

section Alone
variable {service : IngestionService} {sha256 : ByteArray → String} {op : IngestOp}
  {outage : Outage} {s s' s'' : Shared} {a b c : Stage}

/-- Acting alone, and without the clock moving on, a session of the call comes from the one stage
to the other. -/
def Leads (service : IngestionService) (sha256 : ByteArray → String) (op : IngestOp)
    (outage : Outage) (s : Shared) (a : Stage) (s' : Shared) (b : Stage) : Prop :=
  SameClock s.world s'.world ∧ ∃ ticks : List Tick, (∀ tick ∈ ticks, tick.now = s.world.clock) ∧
    Sessions.alone (act service sha256) ticks (s, ⟨op, outage, a⟩) = (s', ⟨op, outage, b⟩)

theorem Leads.refl : Leads service sha256 op outage s a s a :=
  ⟨.refl _, [], fun _ h => absurd h List.not_mem_nil, rfl⟩

theorem Leads.trans (h : Leads service sha256 op outage s a s' b)
    (h' : Leads service sha256 op outage s' b s'' c) :
    Leads service sha256 op outage s a s'' c := by
  obtain ⟨hclock, ticks, hnow, hrun⟩ := h
  obtain ⟨hclock', ticks', hnow', hrun'⟩ := h'
  refine ⟨hclock.trans hclock', ticks ++ ticks', fun tick htick => ?_, ?_⟩
  · rcases List.mem_append.mp htick with hfirst | hsecond
    · exact hnow tick hfirst
    · exact (hnow' tick hsecond).trans hclock
  · unfold Sessions.alone at hrun hrun' ⊢
    rw [List.foldl_append, hrun, hrun']

theorem Leads.step (tick : Tick) (hnow : tick.now = s.world.clock)
    (hclock : SameClock s.world s'.world)
    (hact : act service sha256 tick s ⟨op, outage, a⟩ = (s', ⟨op, outage, b⟩)) :
    Leads service sha256 op outage s a s' b := by
  refine ⟨hclock, [tick], fun t ht => ?_, ?_⟩
  · rw [List.mem_singleton.mp ht]
    exact hnow
  · rw [Sessions.alone_cons, hact]
    rfl

/-- A stage that goes through a list does with each element what the loop does. -/
theorem Leads.forEach {body : CanonicalEvent → Service Unit} {stage : List CanonicalEvent → Stage}
    (hclock : ∀ e, Keeps SameClock (body e))
    (hact : ∀ e es s, ∃ tick : Tick, tick.now = s.world.clock ∧
      act service sha256 tick s ⟨op, outage, stage (e :: es)⟩ =
        ({s with world := (body e s.world).2},
          ⟨op, outage, proceed (fun _ => stage es) (body e s.world).1⟩))
    (es : List CanonicalEvent) (s : Shared) :
    Leads service sha256 op outage s (stage es) {s with world := (Effect.forEach body es s.world).2}
      (proceed (fun _ => stage []) (Effect.forEach body es s.world).1) := by
  induction es generalizing s with
  | nil => exact Leads.refl
  | cons e es ih =>
    obtain ⟨tick, hnow, hstep⟩ := hact e es s
    have hfirst := Leads.step tick hnow (hclock e s.world) hstep
    rw [Effect.forEach_cons, Effect.bind_run]
    cases hrun : body e s.world with
    | mk r w =>
      rw [hrun] at hfirst
      cases r with
      | error ex => exact hfirst
      | ok _ => exact hfirst.trans (ih {s with world := w})

variable (service sha256 op outage)

theorem store_sameClock (events : List CanonicalEvent) : Keeps SameClock (store sha256 events) := by
  apply Keeps.bind @SameClock.trans
  · apply Keeps.mapEach @SameClock.trans SameClock.refl
    exact fun e _ => fromCanonical_keeps @SameClock.trans (fun _ _ _ => rfl) sha256 e
  intro records
  apply Keeps.bind @SameClock.trans (insertRecords_keeps (fun _ _ _ => rfl) records)
  exact fun _ => Keeps.pure SameClock.refl records

theorem leads_checks (s : Shared) : Leads service sha256 op outage s
    (.checking (if service.quota then op.events else []))
    {s with world := (forEach (fun e => service.checkQuota e.tenantId) op.events s.world).2}
    (proceed (fun _ => .checking [])
      (forEach (fun e => service.checkQuota e.tenantId) op.events s.world).1) := by
  unfold checkQuota
  cases service.quota with
  | false =>
    simp only [Bool.false_eq_true, if_false, forEach_skip]
    exact Leads.refl
  | true =>
    simp only [if_true]
    refine Leads.forEach (fun e => checkAndIncrement_sameClock e.tenantId)
      (fun e es s => ?_) op.events s
    obtain ⟨q, ⟨quotas, hquotas, -⟩, -⟩ := QuotaService.checkAndIncrement_wrote e.tenantId s.world
    refine ⟨⟨s.world.clock, quotas, (QuotaService.checkAndIncrement e.tenantId s.world).1⟩, rfl, ?_⟩
    rw [hquotas]
    rfl

/-- The world, and what else is counted, after the metric of the call. -/
def withMetric (s : Shared) : Shared where
  world := {s.world with metrics := s.world.metrics ++ [op.metric]}
  counted := s.counted ++ op.events.map CanonicalEvent.eventId

theorem leads_announce (records : List EventRecord) (s : Shared) : ∃ counted,
    Leads service sha256 op outage s (.publishing records op.events)
      ⟨(service.announce outage op.metric op.events s.world).2, counted⟩
      (proceed (fun _ => .finished (.ok records))
        (service.announce outage op.metric op.events s.world).1) := by
  have hpublish : Leads service sha256 op outage s (.publishing records op.events)
      {s with world := (forEach (publish outage) op.events s.world).2}
      (proceed (fun _ => .publishing records []) (forEach (publish outage) op.events s.world).1) :=
    Leads.forEach (fun e => publish_keeps (fun _ _ _ _ => rfl) outage e)
      (fun e es s => ⟨{now := s.world.clock}, rfl, rfl⟩) op.events s
  have halerts : ∀ s, Leads service sha256 op outage s (.alerting records op.events)
      {s with world := (forEach (service.runSentinel outage) op.events s.world).2}
      (proceed (fun _ => .alerting records [])
        (forEach (service.runSentinel outage) op.events s.world).1) :=
    Leads.forEach (fun e => runSentinel_keeps @SameClock.trans (fun _ _ _ _ => rfl) outage e)
      (fun e es s => ⟨{now := s.world.clock}, rfl, rfl⟩) op.events
  unfold announce
  rw [bind_run]
  cases hrun : forEach (publish outage) op.events s.world with
  | mk r w =>
    rw [hrun] at hpublish
    cases r with
    | error e => exact ⟨s.counted, hpublish⟩
    | ok _ =>
      have hmetric : Leads service sha256 op outage {s with world := w} (.publishing records [])
          (withMetric op {s with world := w}) (.alerting records op.events) :=
        Leads.step {now := w.clock} rfl rfl rfl
      have hthere := (hpublish.trans hmetric).trans (halerts _)
      refine ⟨(withMetric op {s with world := w}).counted, ?_⟩
      have hincrement : increment op.metric.name op.metric.value op.metric.tags w =
          (.ok (), (withMetric op {s with world := w}).world) := rfl
      simp only [bind_ok hincrement]
      cases hloop : forEach (service.runSentinel outage) op.events
        (withMetric op {s with world := w}).world with
      | mk r w' =>
        rw [hloop] at hthere
        cases r with
        | error e => exact hthere
        | ok _ => exact hthere.trans (Leads.step {now := w'.clock} rfl rfl rfl)

/-- A call that no other session interrupts is the call of the service. -/
theorem leads_run (s : Shared) : ∃ counted,
    Leads service sha256 op outage s (firstStage service op)
      ⟨(op.run service sha256 outage s.world).2, counted⟩
      (.finished (op.run service sha256 outage s.world).1) := by
  by_cases hempty : op.events = []
  · rw [IngestOp.run_of_empty hempty, firstStage, if_pos hempty]
    exact ⟨s.counted, Leads.refl⟩
  rw [firstStage, if_neg hempty, IngestOp.run_eq_submit hempty]
  have haccept : service.accept sha256 op.events = (do
      forEach (fun e => service.checkQuota e.tenantId) op.events
      store sha256 op.events) := rfl
  have hchecks := leads_checks service sha256 op outage s
  rw [submit, haccept]
  cases hrun : forEach (fun e => service.checkQuota e.tenantId) op.events s.world with
  | mk r w =>
    rw [hrun] at hchecks
    cases r with
    | error e =>
      refine ⟨s.counted, ?_⟩
      rw [bind_error (bind_error hrun)]
      exact hchecks
    | ok _ =>
      have hstore : Leads service sha256 op outage {s with world := w} (.checking [])
          {s with world := (store sha256 op.events w).2}
          (proceed (fun records => .publishing records op.events) (store sha256 op.events w).1) :=
        Leads.step {now := w.clock} rfl (store_sameClock sha256 op.events w) rfl
      cases hbuild : store sha256 op.events w with
      | mk r w' =>
        rw [hbuild] at hstore
        cases r with
        | error e =>
          refine ⟨s.counted, ?_⟩
          rw [bind_error ((bind_ok hrun).trans hbuild)]
          exact hchecks.trans hstore
        | ok records =>
          obtain ⟨counted, hannounce⟩ := leads_announce service sha256 op outage records
            {s with world := w'}
          refine ⟨counted, ?_⟩
          have hthere := (hchecks.trans hstore).trans hannounce
          rw [bind_ok ((bind_ok hrun).trans hbuild), bind_run]
          cases hrest : service.announce outage op.metric op.events w' with
          | mk r w'' =>
            rw [hrest] at hthere
            cases r <;> exact hthere

end Alone

end IngestionConcurrency
end Dox
