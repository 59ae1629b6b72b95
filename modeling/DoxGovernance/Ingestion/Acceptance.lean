import DoxGovernance.Ingestion.Service

/-!
# Which calls are accepted

A call commits its records exactly when it is admissible: a condition on the quotas and
the events table before the call. An admissible call charges every tenant its events and
appends one record an event; any other call raises and leaves the events table as it was.
-/

set_option autoImplicit false

namespace Dox
namespace IngestionService
open QuotaService (account Charges)

/-- When a call commits its records: every tenant's account has room for all its events, and
every event can be recorded and stored, and has an identifier of its own. -/
structure Admissible (service : IngestionService) (d : Date) (w : World)
    (events : List CanonicalEvent) : Prop where
  room : service.quota = true → ∀ e ∈ events,
    (events.map CanonicalEvent.tenantId).count e.tenantId ≤ (account d w e.tenantId).remaining
  recordable : ∀ e ∈ events, e.recordable = true
  storable : ∀ e ∈ events, e.storable = true
  distinct : (events.map CanonicalEvent.eventId).Nodup
  unused : ∀ e ∈ events, w.events.find? e.eventId = none

variable {self : IngestionService} (sha256 : ByteArray → String) (w : World)

/-! ### Building and inserting the records -/

theorem fromCanonical_spec {event : CanonicalEvent} (h : event.recordable = true) :
    ∃ record, fromCanonical sha256 event w =
      (.ok record, {w with nextUuid := w.nextUuid + 1}) ∧ record.Describes sha256 event := by
  obtain ⟨record, hrecord⟩ := fromCanonical_of_recordable sha256 w.nextUuid w.clock h
  refine ⟨record, ?_, fromCanonical_ok hrecord⟩
  simp only [fromCanonical, uuid4, now, Effect.bind_run, Effect.change_run, Effect.gets_run,
    hrecord, Effect.pure_run]

theorem fromCanonical_refuses {event : CanonicalEvent} (h : event.recordable = false) :
    ∃ e ∈ [Exc.unicodeEncodeError, tooDeep], fromCanonical sha256 event w =
      (.error e, {w with nextUuid := w.nextUuid + 1}) := by
  obtain ⟨e, he, hrecord⟩ := fromCanonical_raises sha256 w.nextUuid w.clock h
  refine ⟨e, he, ?_⟩
  simp only [fromCanonical, uuid4, now, Effect.bind_run, Effect.change_run, Effect.gets_run,
    hrecord, Effect.raise_run]

theorem records_spec {events : List CanonicalEvent} (h : ∀ e ∈ events, e.recordable = true) :
    ∃ records next, Effect.mapEach (fromCanonical sha256) events w =
      (.ok records, {w with nextUuid := next}) ∧
      List.Forall₂ (EventRecord.Describes sha256) records events := by
  induction events generalizing w with
  | nil => exact ⟨[], w.nextUuid, rfl, .nil⟩
  | cons e es ih =>
    obtain ⟨record, hfirst, hdescribes⟩ := fromCanonical_spec sha256 w (h e List.mem_cons_self)
    obtain ⟨records, next, hrest, hall⟩ := ih {w with nextUuid := w.nextUuid + 1}
      fun d hd => h d (List.mem_cons_of_mem e hd)
    refine ⟨record :: records, next, ?_, .cons hdescribes hall⟩
    rw [Effect.mapEach_cons, Effect.bind_ok hfirst, Effect.bind_ok hrest, Effect.pure_run]

theorem records_refuse {events : List CanonicalEvent} (h : ∃ e ∈ events, e.recordable = false) :
    ∃ e next, Effect.mapEach (fromCanonical sha256) events w =
      (.error e, {w with nextUuid := next}) := by
  induction events generalizing w with
  | nil =>
    obtain ⟨e, he, _⟩ := h
    cases he
  | cons e es ih =>
    rw [Effect.mapEach_cons]
    cases hfirst : e.recordable with
    | false =>
      obtain ⟨e, -, hraises⟩ := fromCanonical_refuses sha256 w hfirst
      exact ⟨e, _, Effect.bind_error hraises⟩
    | true =>
      obtain ⟨record, hrun, _⟩ := fromCanonical_spec sha256 w hfirst
      obtain ⟨d, hd, hrefused⟩ := h
      have hrest : d ∈ es := by
        rcases List.mem_cons.mp hd with rfl | hmem
        · rw [hfirst] at hrefused
          cases hrefused
        · exact hmem
      obtain ⟨e, next, hloop⟩ := ih {w with nextUuid := w.nextUuid + 1} ⟨d, hrest, hrefused⟩
      refine ⟨e, next, ?_⟩
      rw [Effect.bind_ok hrun, Effect.bind_error hloop]

section Insert
variable {sha256} {records : List EventRecord} {events : List CanonicalEvent}
  (hrecords : List.Forall₂ (EventRecord.Describes sha256) records events)
include hrecords

theorem eventIds_of_describes :
    records.map EventRecord.eventId = events.map CanonicalEvent.eventId := by
  induction hrecords with
  | nil => rfl
  | cons h _ ih => rw [List.map_cons, List.map_cons, h.eventId, ih]

theorem columnError_of_describes :
    records.findSome? EventRecord.columnError = none ↔ ∀ e ∈ events, e.storable = true := by
  induction hrecords with
  | nil => simp
  | cons h _ ih =>
    rw [List.findSome?_cons, List.forall_mem_cons, ← h.columnError_eq_none_iff, ← ih]
    cases hcolumn : EventRecord.columnError _ with
    | none => simp
    | some message => simp

theorem insertAll?_isSome_of_describes :
    (w.events.insertAll? records).isSome ↔ (events.map CanonicalEvent.eventId).Nodup ∧
      ∀ e ∈ events, w.events.find? e.eventId = none := by
  have hids := eventIds_of_describes hrecords
  rw [Table.insertAll?_isSome_iff, hids]
  refine and_congr_right fun _ => ?_
  have hmap : (∀ r ∈ records, w.events.find? r.eventId = none) ↔
      ∀ i ∈ records.map EventRecord.eventId, w.events.find? i = none := by
    rw [List.forall_mem_map]
  rw [hmap, hids, List.forall_mem_map]

theorem insertRecords_spec (hstorable : ∀ e ∈ events, e.storable = true)
    (hdistinct : (events.map CanonicalEvent.eventId).Nodup)
    (hunused : ∀ e ∈ events, w.events.find? e.eventId = none) :
    ∃ table, insertRecords records w = (.ok (), {w with events := table}) ∧
      table.rows = w.events.rows ++ records := by
  have hcolumns := (columnError_of_describes hrecords).mpr hstorable
  obtain ⟨table, htable⟩ := Option.isSome_iff_exists.mp
    ((insertAll?_isSome_of_describes w hrecords).mpr ⟨hdistinct, hunused⟩)
  refine ⟨table, ?_, Table.insertAll?_eq_some htable⟩
  simp only [insertRecords, hcolumns, htable]

theorem insertRecords_refuses (h : (∀ e ∈ events, e.storable = true) →
    (events.map CanonicalEvent.eventId).Nodup → ¬∀ e ∈ events, w.events.find? e.eventId = none) :
    ∃ e, insertRecords records w = (.error e, w) := by
  cases hcolumns : records.findSome? EventRecord.columnError with
  | some message =>
    refine ⟨.dataError message, ?_⟩
    simp only [insertRecords, hcolumns]
  | none =>
    have hstorable := (columnError_of_describes hrecords).mp hcolumns
    have hnone : w.events.insertAll? records = none := by
      rw [← Option.not_isSome_iff_eq_none, insertAll?_isSome_of_describes w hrecords]
      exact fun hfresh => h hstorable hfresh.1 hfresh.2
    refine ⟨.integrityError "uq_events_event_id", ?_⟩
    simp only [insertRecords, hcolumns, hnone]

end Insert

/-! ### The two outcomes of the first half -/

/-- The tenants charged for a list of events, once an event. -/
def charged (self : IngestionService) (events : List CanonicalEvent) : List String :=
  if self.quota then events.map CanonicalEvent.tenantId else []

section Accept
variable {w} {d : Date} {events : List CanonicalEvent}

theorem admissible_at (t : Datetime) :
    self.Admissible d (w.at t) events ↔ self.Admissible d w events :=
  ⟨fun h => ⟨h.room, h.recordable, h.storable, h.distinct, h.unused⟩,
    fun h => ⟨h.room, h.recordable, h.storable, h.distinct, h.unused⟩⟩

theorem room_iff : (∀ e ∈ events, (events.map CanonicalEvent.tenantId).count e.tenantId ≤
      (account d w e.tenantId).remaining) ↔
    ∀ k, (events.map CanonicalEvent.tenantId).count k ≤ (account d w k).remaining := by
  constructor
  · intro h k
    by_cases hk : k ∈ events.map CanonicalEvent.tenantId
    · obtain ⟨e, he, rfl⟩ := List.mem_map.mp hk
      exact h e he
    · rw [List.count_eq_zero.mpr hk]
      exact Nat.zero_le _
  · exact fun h e _ => h e.tenantId

theorem checkQuotas_eq (events : List CanonicalEvent) :
    Effect.forEach (fun event => self.checkQuota event.tenantId) events =
      Effect.forEach QuotaService.checkAndIncrement (self.charged events) := by
  unfold charged checkQuota
  cases self.quota with
  | false => exact Effect.forEach_skip events
  | true =>
    rw [if_pos rfl, Effect.forEach_map]
    rfl

/-- An admissible call appends one record an event and charges every event to its tenant. -/
theorem accept_spec (hd : w.clock.date = d) (h : self.Admissible d w events) :
    ∃ w' records, self.accept sha256 events w = (.ok records, w') ∧
      List.Forall₂ (EventRecord.Describes sha256) records events ∧
      w'.events.rows = w.events.rows ++ records ∧
      (∀ k, account d w' k = (account d w k).charge ((self.charged events).count k)) ∧
      ∃ quotas table next, w' = {w with quotas, events := table, nextUuid := next} := by
  have hroom : ∀ k, (self.charged events).count k ≤ (account d w k).remaining := by
    unfold charged
    cases hquota : self.quota with
    | false => exact fun k => Nat.zero_le _
    | true => exact room_iff.mp (h.room hquota)
  obtain ⟨w', hchecks, ⟨quotas, rfl⟩, haccount⟩ := QuotaService.checks_charge hd hroom
  obtain ⟨records, next, hbuild, hdescribes⟩ := records_spec sha256 {w with quotas} h.recordable
  obtain ⟨table, hinsert, hrows⟩ := insertRecords_spec {w with quotas, nextUuid := next}
    hdescribes h.storable h.distinct h.unused
  refine ⟨{w with quotas, events := table, nextUuid := next}, records, ?_, hdescribes, hrows,
    haccount, quotas, table, next, rfl⟩
  rw [accept, checkQuotas_eq, Effect.bind_ok hchecks, Effect.bind_ok hbuild, Effect.bind_ok hinsert,
    Effect.pure_run]

/-- A call that is not admissible raises; it leaves the events as they were. -/
theorem accept_refuses (hd : w.clock.date = d) (h : ¬self.Admissible d w events) :
    ∃ w' e, self.accept sha256 events w = (.error e, w') ∧
      ∃ quotas next, w' = {w with quotas, nextUuid := next} := by
  by_cases hroom : ∀ k, (self.charged events).count k ≤ (account d w k).remaining
  · obtain ⟨w', hchecks, ⟨quotas, rfl⟩, _⟩ := QuotaService.checks_charge hd hroom
    by_cases hhash : ∀ e ∈ events, e.recordable = true
    · obtain ⟨records, next, hbuild, hdescribes⟩ := records_spec sha256 {w with quotas} hhash
      obtain ⟨e, hinsert⟩ := insertRecords_refuses {w with quotas, nextUuid := next}
        hdescribes fun hstorable hdistinct hunused => by
          refine h ⟨fun hquota => room_iff.mpr ?_, hhash, hstorable, hdistinct, hunused⟩
          unfold charged at hroom
          rw [hquota] at hroom
          exact hroom
      refine ⟨_, e, ?_, quotas, next, rfl⟩
      rw [accept, checkQuotas_eq, Effect.bind_ok hchecks, Effect.bind_ok hbuild,
        Effect.bind_error hinsert]
    · have hrefused : ∃ e ∈ events, e.recordable = false := by
        simpa only [not_forall, Bool.not_eq_true, exists_prop] using hhash
      obtain ⟨e, next, hbuild⟩ := records_refuse sha256 {w with quotas} hrefused
      refine ⟨_, e, ?_, quotas, next, rfl⟩
      rw [accept, checkQuotas_eq, Effect.bind_ok hchecks, Effect.bind_error hbuild]
  · have hover : ∃ k, (account d w k).remaining < (self.charged events).count k := by
      simpa only [not_forall, Nat.not_le] using hroom
    obtain ⟨w', e, hchecks, quotas, rfl⟩ := QuotaService.checks_refuse hd hover
    refine ⟨_, e, ?_, quotas, w.nextUuid, rfl⟩
    rw [accept, checkQuotas_eq, Effect.bind_error hchecks]

end Accept

end IngestionService
end Dox
