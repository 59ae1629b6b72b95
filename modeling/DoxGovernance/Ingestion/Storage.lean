import DoxGovernance.Ingestion.Charging
import DoxGovernance.Ingestion.Verification

/-!
# The records of ingested events

An admissible call appends a record for each of its events, stamped with the client's
timestamp and the time of the call, and no call takes a record away. So after a run of calls
that all returned, every event has its record.
-/

set_option autoImplicit false

namespace Dox

section Records
variable {sha256 : ByteArray → String} {record : EventRecord} {event : CanonicalEvent}

/-- The record is made from the event by `from_canonical`. -/
def EventRecord.IsOf (sha256 : ByteArray → String) (record : EventRecord)
    (event : CanonicalEvent) : Prop :=
  ∃ id now, EventRecord.fromCanonical sha256 id now event = .ok record

theorem EventRecord.IsOf.describes (h : record.IsOf sha256 event) :
    record.Describes sha256 event := by
  obtain ⟨id, now, hrecord⟩ := h
  exact fromCanonical_ok hrecord

end Records

/-! ### What one call stores -/

/-- A record with the client's timestamp, inserted at a time. -/
def EventRecord.InsertedAt (time : Datetime) (record : EventRecord) : Prop :=
  record.createdAt = time ∧ record.timestamp = record.rawEvent.timestamp

def SameClock (w w' : World) : Prop := w'.clock = w.clock

theorem SameClock.refl (w : World) : SameClock w w := rfl

theorem SameClock.trans {a b c : World} (h : SameClock a b) (h' : SameClock b c) :
    SameClock a c := Eq.trans h' h

theorem checkAndIncrement_sameClock (tenantId : String) :
    Effect.Keeps SameClock (QuotaService.checkAndIncrement tenantId) := by
  intro w
  obtain ⟨q, hwrote, _⟩ := QuotaService.checkAndIncrement_wrote tenantId w
  exact hwrote.clock

namespace IngestionService
variable {self : IngestionService} {sha256 : ByteArray → String} {w w' : World}

theorem fromCanonical_insertedAt {event : CanonicalEvent} {record : EventRecord}
    (h : fromCanonical sha256 event w = (.ok record, w')) :
    record.InsertedAt w.clock ∧ w'.clock = w.clock := by
  obtain ⟨id, w₁, hid, hrest⟩ := Effect.bind_eq_ok.mp h
  cases hid
  obtain ⟨time, w₂, htime, hbuild⟩ := Effect.bind_eq_ok.mp hrest
  cases htime
  cases hrecord : EventRecord.fromCanonical sha256 w.nextUuid w.clock event with
  | error e =>
    simp only [hrecord] at hbuild
    cases hbuild
  | ok built =>
    simp only [hrecord] at hbuild
    cases hbuild
    have hdescribes := fromCanonical_ok hrecord
    refine ⟨⟨fromCanonical_createdAt hrecord, ?_⟩, rfl⟩
    rw [hdescribes.timestamp, hdescribes.rawEvent]

theorem records_insertedAt {events : List CanonicalEvent} {records : List EventRecord}
    (h : Effect.mapEach (fromCanonical sha256) events w = (.ok records, w')) :
    ∀ r ∈ records, r.InsertedAt w.clock := by
  induction events generalizing w records with
  | nil =>
    cases h
    exact fun r hr => absurd hr List.not_mem_nil
  | cons e es ih =>
    rw [Effect.mapEach_cons] at h
    obtain ⟨record, w₁, hfirst, hrest⟩ := Effect.bind_eq_ok.mp h
    obtain ⟨rest, w₂, hloop, hpure⟩ := Effect.bind_eq_ok.mp hrest
    cases hpure
    obtain ⟨hrecord, hclock⟩ := fromCanonical_insertedAt hfirst
    intro r hr
    rcases List.mem_cons.mp hr with rfl | hr
    · exact hrecord
    · rw [← hclock]
      exact ih hloop r hr

theorem accept_insertedAt {events : List CanonicalEvent} {records : List EventRecord}
    (h : self.accept sha256 events w = (.ok records, w')) :
    ∀ r ∈ records, r.InsertedAt w.clock := by
  obtain ⟨u, w₁, hchecks, hrest⟩ := Effect.bind_eq_ok.mp h
  obtain ⟨built, w₂, hbuild, hinsert⟩ := Effect.bind_eq_ok.mp hrest
  obtain ⟨u', w₃, hcommit, hpure⟩ := Effect.bind_eq_ok.mp hinsert
  cases hpure
  have hclock : w₁.clock = w.clock := by
    have hkeeps : Effect.Keeps SameClock
        (Effect.forEach (fun event => self.checkQuota event.tenantId) events) := by
      apply Effect.Keeps.forEach @SameClock.trans SameClock.refl
      exact fun event _ => checkQuota_keeps (checkAndIncrement_sameClock) (fun _ _ _ => rfl)
        event.tenantId
    have hafter := hkeeps w
    rw [hchecks] at hafter
    exact hafter
  rw [← hclock]
  exact records_insertedAt hbuild

theorem after_return {α β : Type} (m : Service α) (b : β) (w : World) :
    (do let _ ← m; return b : Service β) w = ((m w).1.map fun _ => b, (m w).2) := by
  rw [Effect.bind_run]
  cases m w with
  | mk r w' => cases r <;> rfl

/-- An admissible call appends a record for each event, with its timestamp and the time of the
call; any other call leaves the events as they are. -/
theorem run_stores (op : IngestOp) (outage : Outage) (w : World) :
    (self.Admissible w.clock.date w op.events ∧ ∃ records,
      (op.run self sha256 outage w).2.events.rows = w.events.rows ++ records ∧
      List.Forall₂ (fun r e => r.createdAt = w.clock ∧ r.timestamp = e.timestamp)
        records op.events) ∨
    (¬self.Admissible w.clock.date w op.events ∧
      (op.run self sha256 outage w).2.events = w.events) := by
  by_cases hempty : op.events = []
  · left
    rw [IngestOp.run_of_empty hempty, hempty]
    refine ⟨⟨?_, ?_, ?_, List.nodup_nil, ?_⟩, [], (List.append_nil _).symm, .nil⟩
    · exact fun _ e he => absurd he List.not_mem_nil
    · exact fun e he => absurd he List.not_mem_nil
    · exact fun e he => absurd he List.not_mem_nil
    · exact fun e he => absurd he List.not_mem_nil
  rw [IngestOp.run_eq_submit hempty]
  by_cases hadmissible : self.Admissible w.clock.date w op.events
  · obtain ⟨w₁, records, haccept, hdescribes, hrows, -⟩ := accept_spec sha256 rfl hadmissible
    have hkeeps : KeepsEvents w₁ (self.announce outage op.metric op.events w₁).2 :=
      announce_keeps @keepsEvents_trans (fun _ _ _ _ => rfl) outage op.metric op.events w₁
    refine Or.inl ⟨hadmissible, records, ?_, ?_⟩
    · rw [submit, Effect.bind_ok haccept, after_return, hkeeps, hrows]
    · have hboth := (List.forall₂_and_left records op.events).mpr
        ⟨accept_insertedAt haccept, hdescribes⟩
      apply hboth.imp
      rintro r e ⟨⟨hcreated, hstamp⟩, hdescribed⟩
      exact ⟨hcreated, hstamp.trans (congrArg CanonicalEvent.timestamp hdescribed.rawEvent)⟩
  · obtain ⟨w₁, e, haccept, quotas, next, rfl⟩ := accept_refuses sha256 rfl hadmissible
    refine Or.inr ⟨hadmissible, ?_⟩
    rw [submit, Effect.bind_error haccept]

end IngestionService

/-! ### What a run of calls stores -/

namespace IngestionService

/-- Every one of the events has a record in the table. -/
def Stored (sha256 : ByteArray → String) (events : List CanonicalEvent) (w : World) : Prop :=
  ∀ e ∈ events, ∃ r ∈ w.events.rows, r.IsOf sha256 e

def Extends (w w' : World) : Prop := w.events.rows <+: w'.events.rows

theorem extends_refl (w : World) : Extends w w := List.prefix_rfl

theorem extends_of_eq {w w' : World} (h : w'.events = w.events) : Extends w w' :=
  ⟨[], by rw [List.append_nil, h]⟩

theorem extends_trans {a b c : World} (hab : Extends a b) (hbc : Extends b c) : Extends a c :=
  List.IsPrefix.trans hab hbc

theorem Stored.of_extends {sha256 : ByteArray → String} {events : List CanonicalEvent}
    {w w' : World} (h : Stored sha256 events w) (hextends : Extends w w') :
    Stored sha256 events w' := by
  intro e he
  obtain ⟨r, hr, hof⟩ := h e he
  exact ⟨r, hextends.subset hr, hof⟩

variable {self : IngestionService} {sha256 : ByteArray → String}

section Accept
variable {events : List CanonicalEvent} {w w' : World} {records : List EventRecord}

theorem accept_stores (h : self.accept sha256 events w = (.ok records, w')) :
    Stored sha256 events w' := by
  obtain ⟨_, w₁, -, h⟩ := Effect.bind_eq_ok.mp h
  obtain ⟨built, w₂, hbuild, h⟩ := Effect.bind_eq_ok.mp h
  obtain ⟨_, w₃, hinsert, h⟩ := Effect.bind_eq_ok.mp h
  cases h
  have hrows : w'.events.rows = w₂.events.rows ++ records := by
    rcases insertRecords_cases records w₂ with ⟨e, hrun⟩ | ⟨table, hrun, htable⟩
    · rw [hrun] at hinsert
      cases hinsert
    · rw [hrun] at hinsert
      cases hinsert
      exact htable
  intro e he
  obtain ⟨r, hr, t, t', hrun⟩ := Effect.mapEach_collects hbuild e he
  refine ⟨r, hrows ▸ List.mem_append_right _ hr, t.nextUuid, t.clock, ?_⟩
  unfold fromCanonical uuid4 now at hrun
  simp only [Effect.bind_run, Effect.change_run, Effect.gets_run] at hrun
  cases hrecord : EventRecord.fromCanonical sha256 t.nextUuid t.clock e with
  | error e => rw [hrecord] at hrun; cases hrun
  | ok made => rw [hrecord] at hrun; cases hrun; rfl

variable (self) in
theorem announce_keepsEvents (outage : Outage) (metric : Metric) (events : List CanonicalEvent)
    (w : World) : (self.announce outage metric events w).2.events = w.events :=
  announce_keeps @keepsEvents_trans (fun _ _ _ _ => rfl) outage metric events w

end Accept

section Runs
variable {w : World} {call : IngestCall}

theorem step_extends : Extends w (call.step self sha256 w) := by
  rcases run_stores call.op call.outage (w.at call.time) with ⟨-, records, hrows, -⟩ | ⟨-, hsame⟩
  · exact ⟨records, hrows.symm⟩
  · exact extends_of_eq hsame

/-- A call that returns has stored its events. -/
theorem step_stores (h : self.raises sha256 w call = false) :
    Stored sha256 call.op.events (call.step self sha256 w) := by
  by_cases hempty : call.op.events = []
  · intro e he
    rw [hempty] at he
    cases he
  · rw [raises, IngestOp.run_eq_submit hempty] at h
    rw [IngestCall.step, IngestOp.run_eq_submit hempty]
    cases hrun : self.submit sha256 call.outage call.op.metric call.op.events (w.at call.time) with
    | mk r w' =>
      rw [hrun] at h
      cases r with
      | error e => cases h
      | ok records =>
        obtain ⟨accepted, w₁, haccept, hrest⟩ := Effect.bind_eq_ok.mp hrun
        obtain ⟨_, w₂, hannounce, hrest⟩ := Effect.bind_eq_ok.mp hrest
        cases hrest
        have hkeeps := announce_keepsEvents self call.outage call.op.metric call.op.events w₁
        rw [hannounce] at hkeeps
        exact (accept_stores haccept).of_extends (extends_of_eq hkeeps)

/-- After a run of calls that returned, every event has its record. -/
theorem stored_of_run {calls : List IngestCall}
    (h : Run.Meets (IngestCall.step self sha256) (fun w call => self.raises sha256 w call = false)
      w calls) :
    Stored sha256 (calls.flatMap fun call => call.op.events)
      (calls.foldl (IngestCall.step self sha256) w) := by
  induction calls generalizing w with
  | nil => exact fun e he => absurd he List.not_mem_nil
  | cons call calls ih =>
    intro e he
    rw [List.flatMap_cons] at he
    rcases List.mem_append.mp he with hfirst | hrest
    · have hextends : Extends (call.step self sha256 w) (calls.foldl (IngestCall.step self sha256)
          (call.step self sha256 w)) :=
        Run.relation extends_refl @extends_trans (fun _ _ _ => step_extends) (Run.meets_true _ calls)
      exact (step_stores h.1).of_extends hextends e hfirst
    · exact ih h.2 e hrest

end Runs

end IngestionService
end Dox
