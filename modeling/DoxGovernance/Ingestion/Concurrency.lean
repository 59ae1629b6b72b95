import DoxGovernance.Ingestion.Sessions
import DoxGovernance.Ingestion.Telemetry

/-!
# The safety of concurrent ingestion

In every state of every interleaving of ingestion calls, whatever outages they meet: what is
published is stored, what is alerted is published, and no event is published, counted or alerted
twice; a call that returns has done all of it for all of its events; and two calls that return
share no event. When no outage hits and no call is halfway, no stored event is left behind. A
session owns the events that it has stored, so what it knows about them survives the steps of the
others. Only the unique key of the events keeps two calls with one event apart.
-/

set_option autoImplicit false

namespace Dox
namespace IngestionConcurrency
open IngestionService Effect

/-! ### What is stored, published, counted and alerted -/

def storedIds (s : Shared) : List Uuid := s.world.events.rows.map EventRecord.eventId

def publishedIds (s : Shared) : List Uuid :=
  (publishedEvents s.world).map CanonicalEvent.eventId

/-- Each stage has events of the stage before it, and each of them once. -/
structure Safe (sha256 : ByteArray → String) (s : Shared) : Prop where
  stored : ∀ r ∈ s.world.events.rows, r.Describes sha256 r.rawEvent
  topics : ∀ m ∈ s.world.bus, m.topic = ingestedTopic
  published : ∀ e ∈ publishedEvents s.world, ∃ r ∈ s.world.events.rows, r.rawEvent = e
  publishedOnce : (publishedIds s).Nodup
  counted : ∀ u ∈ s.counted, u ∈ publishedIds s
  countedOnce : s.counted.Nodup
  total : countedEvents s.world = s.counted.length
  alerted : ∀ u ∈ alertEventIds s.world, ∃ e ∈ publishedEvents s.world,
    (triggerMap e.eventType).isSome ∧ u = some e.eventId
  alertedOnce : (alertEventIds s.world).Nodup

def Session.ids (l : Session) : List Uuid := l.op.events.map CanonicalEvent.eventId

/-- The events that a session has stored, unless it has failed since. -/
def Session.owned (l : Session) : List Uuid :=
  match l.stage with
  | .publishing _ _ | .alerting _ _ | .finished (.ok _) => l.ids
  | .checking _ | .finished (.error _) => []

/-- The events are stored, each in a row of its own. -/
structure Owns (sha256 : ByteArray → String) (s : Shared) (events : List CanonicalEvent)
    (records : List EventRecord) : Prop where
  describes : List.Forall₂ (EventRecord.Describes sha256) records events
  rows : ∀ r ∈ records, r ∈ s.world.events.rows
  distinct : (events.map CanonicalEvent.eventId).Nodup

/-- The events have been published. -/
def Published (s : Shared) (events : List CanonicalEvent) : Prop :=
  ∀ e ∈ events, e ∈ publishedEvents s.world

/-- The events have alerts, where alerts are raised. -/
def Alerted (service : IngestionService) (s : Shared) (events : List CanonicalEvent) : Prop :=
  ∀ e ∈ events, service.raisesAlert e = true → some e.eventId ∈ alertEventIds s.world

def Counted (s : Shared) (events : List CanonicalEvent) : Prop :=
  ∀ e ∈ events, e.eventId ∈ s.counted

/-- What a session knows of the world. -/
def Knows (service : IngestionService) (sha256 : ByteArray → String) (s : Shared) (l : Session) :
    Prop :=
  match l.stage with
  | .checking _ | .finished (.error _) => True
  | .publishing records left => Owns sha256 s l.op.events records ∧
      (∃ done, l.op.events = done ++ left ∧ Published s done) ∧
      (∀ e ∈ left, e.eventId ∉ publishedIds s) ∧
      (∀ u ∈ l.ids, u ∉ s.counted ∧ some u ∉ alertEventIds s.world)
  | .alerting records left => Owns sha256 s l.op.events records ∧ Published s l.op.events ∧
      Counted s l.op.events ∧ (∃ done, l.op.events = done ++ left ∧ Alerted service s done) ∧
      ∀ e ∈ left, some e.eventId ∉ alertEventIds s.world
  | .finished (.ok records) => Owns sha256 s l.op.events records ∧ Published s l.op.events ∧
      Counted s l.op.events ∧ Alerted service s l.op.events

/-- No event is owned by both sessions. -/
def Apart (l m : Session) : Prop := l.owned.Disjoint m.owned

/-- What is there stays, and what is published, counted or alerted is among the events given. -/
structure Grows (ids : List Uuid) (s s' : Shared) : Prop where
  rows : ∃ records, s'.world.events.rows = s.world.events.rows ++ records
  published : ∃ events, publishedEvents s'.world = publishedEvents s.world ++ events ∧
    ∀ e ∈ events, e.eventId ∈ ids
  counted : ∃ new, s'.counted = s.counted ++ new ∧ ∀ u ∈ new, u ∈ ids
  alerted : ∃ new, alertEventIds s'.world = alertEventIds s.world ++ new ∧
    ∀ u ∈ new, ∃ v ∈ ids, u = some v

section Grows
variable {service : IngestionService} {sha256 : ByteArray → String} {s s' : Shared}
  {l m : Session} {ids : List Uuid} {records : List EventRecord} {events : List CanonicalEvent}

theorem grown_of_eq {α : Type} {xs ys : List α} (h : ys = xs) (P : α → Prop) :
    ∃ new, ys = xs ++ new ∧ ∀ x ∈ new, P x :=
  ⟨[], h.trans (List.append_nil xs).symm, fun _ hx => absurd hx List.not_mem_nil⟩

theorem Owns.mono (hgrows : Grows ids s s') (h : Owns sha256 s events records) :
    Owns sha256 s' events records := by
  obtain ⟨new, hrows⟩ := hgrows.rows
  refine ⟨h.describes, fun r hr => ?_, h.distinct⟩
  rw [hrows]
  exact List.mem_append_left new (h.rows r hr)

theorem Published.mono (hgrows : Grows ids s s') (h : Published s events) :
    Published s' events := by
  obtain ⟨new, hpublished, -⟩ := hgrows.published
  intro e he
  rw [hpublished]
  exact List.mem_append_left new (h e he)

theorem Alerted.mono (hgrows : Grows ids s s') (h : Alerted service s events) :
    Alerted service s' events := by
  obtain ⟨new, halerted, -⟩ := hgrows.alerted
  intro e he hraises
  rw [halerted]
  exact List.mem_append_left new (h e he hraises)

theorem Counted.mono (hgrows : Grows ids s s') (h : Counted s events) : Counted s' events := by
  obtain ⟨new, hcounted, -⟩ := hgrows.counted
  intro e he
  rw [hcounted]
  exact List.mem_append_left new (h e he)

theorem Grows.not_published (hgrows : Grows ids s s') {u : Uuid} (hu : u ∉ ids)
    (h : u ∉ publishedIds s) : u ∉ publishedIds s' := by
  obtain ⟨new, hpublished, hnew⟩ := hgrows.published
  rw [publishedIds, hpublished, List.map_append, List.mem_append, not_or]
  refine ⟨h, fun hmem => hu ?_⟩
  obtain ⟨e, he, rfl⟩ := List.mem_map.mp hmem
  exact hnew e he

theorem Grows.not_counted (hgrows : Grows ids s s') {u : Uuid} (hu : u ∉ ids)
    (h : u ∉ s.counted) : u ∉ s'.counted := by
  obtain ⟨new, hcounted, hnew⟩ := hgrows.counted
  rw [hcounted, List.mem_append, not_or]
  exact ⟨h, fun hmem => hu (hnew u hmem)⟩

theorem Grows.not_alerted (hgrows : Grows ids s s') {u : Uuid} (hu : u ∉ ids)
    (h : some u ∉ alertEventIds s.world) : some u ∉ alertEventIds s'.world := by
  obtain ⟨new, halerted, hnew⟩ := hgrows.alerted
  rw [halerted, List.mem_append, not_or]
  refine ⟨h, fun hmem => hu ?_⟩
  obtain ⟨v, hv, heq⟩ := hnew _ hmem
  rw [Option.some_inj.mp heq]
  exact hv

theorem mem_ids_of_split {done left : List CanonicalEvent} (h : l.op.events = done ++ left)
    {e : CanonicalEvent} (he : e ∈ left) : e.eventId ∈ l.ids := by
  rw [Session.ids, h]
  exact List.mem_map_of_mem (List.mem_append_right done he)

theorem Owns.record (h : Owns sha256 s events records) {e : CanonicalEvent} (he : e ∈ events) :
    ∃ r ∈ s.world.events.rows, r.rawEvent = e := by
  rw [← rawEvents_of_describes h.describes] at he
  obtain ⟨r, hr, hraw⟩ := List.mem_map.mp he
  exact ⟨r, h.rows r hr, hraw⟩

theorem Owns.ne_of_split (h : Owns sha256 s events records) {done left : List CanonicalEvent}
    {event : CanonicalEvent} (hsplit : events = done ++ event :: left) {e : CanonicalEvent}
    (he : e ∈ left) : e.eventId ≠ event.eventId := by
  have hdistinct := h.distinct
  rw [hsplit, List.map_append, List.map_cons] at hdistinct
  have hhead := (List.nodup_cons.mp hdistinct.of_append_right).1
  exact fun heq => hhead (heq ▸ List.mem_map_of_mem he)

/-- What a session knows stands while others grow the world outside of what it owns. -/
theorem Knows.stable (hgrows : Grows ids s s') (hapart : ids.Disjoint m.owned)
    (h : Knows service sha256 s m) : Knows service sha256 s' m := by
  unfold Knows at h ⊢
  unfold Session.owned at hapart
  cases hstage : m.stage with
  | checking left => trivial
  | publishing records left =>
    simp only [hstage] at h hapart
    obtain ⟨howns, ⟨done, hsplit, hdone⟩, hleft, huntold⟩ := h
    have hforeign : ∀ u ∈ m.ids, u ∉ ids := fun u hu hmem => hapart hmem hu
    refine ⟨howns.mono hgrows, ⟨done, hsplit, hdone.mono hgrows⟩, fun e he => ?_, fun u hu => ?_⟩
    · exact hgrows.not_published (hforeign _ (mem_ids_of_split hsplit he)) (hleft e he)
    · exact ⟨hgrows.not_counted (hforeign u hu) (huntold u hu).1,
        hgrows.not_alerted (hforeign u hu) (huntold u hu).2⟩
  | alerting records left =>
    simp only [hstage] at h hapart
    obtain ⟨howns, hpublished, hcounted, ⟨done, hsplit, hdone⟩, hleft⟩ := h
    refine ⟨howns.mono hgrows, hpublished.mono hgrows, hcounted.mono hgrows,
      ⟨done, hsplit, hdone.mono hgrows⟩,
      fun e he => hgrows.not_alerted (fun hmem => ?_) (hleft e he)⟩
    exact hapart hmem (mem_ids_of_split hsplit he)
  | finished answer =>
    cases answer with
    | error e => trivial
    | ok records =>
      simp only [hstage] at h
      obtain ⟨howns, hpublished, hcounted, halerted⟩ := h
      exact ⟨howns.mono hgrows, hpublished.mono hgrows, hcounted.mono hgrows, halerted.mono hgrows⟩

end Grows

/-! ### The steps -/

section Step
variable {service : IngestionService} {sha256 : ByteArray → String} {s s' : Shared}
  {l l' : Session} {records : List EventRecord} {event : CanonicalEvent}
  {left : List CanonicalEvent}

/-- The outage of the call hits none of it. -/
def Clear (service : IngestionService) (l : Session) : Prop :=
  service.Undisturbed l.outage l.op.events

/-- What a step owes to the world, to its own session and to the others. -/
structure Kept (service : IngestionService) (sha256 : ByteArray → String) (s : Shared)
    (l : Session) (s' : Shared) (l' : Session) : Prop where
  safe : Safe sha256 s'
  knows : Knows service sha256 s' l'
  grows : Grows l.owned s s'
  owned : ∀ u ∈ l'.owned, u ∈ l.owned ∨ u ∉ storedIds s
  keeps : Clear service l → ∀ u ∈ l.owned, u ∈ l'.owned
  comes : ∀ u ∈ storedIds s', u ∈ storedIds s ∨ u ∈ l'.owned
  call : l'.op = l.op ∧ l'.outage = l.outage

theorem publishedEvents_congr (hbus : s'.world.bus = s.world.bus) :
    publishedEvents s'.world = publishedEvents s.world := by
  rw [publishedEvents, hbus, publishedEvents]

theorem publishedIds_congr (hbus : s'.world.bus = s.world.bus) :
    publishedIds s' = publishedIds s := by
  rw [publishedIds, publishedEvents_congr hbus, publishedIds]

theorem alertEventIds_congr (halerts : s'.world.alerts = s.world.alerts) :
    alertEventIds s'.world = alertEventIds s.world := by
  rw [alertEventIds, halerts, alertEventIds]

/-- Records come in. -/
theorem Safe.withRecords (h : Safe sha256 s)
    (hdescribes : ∀ r ∈ records, r.Describes sha256 r.rawEvent)
    (hrows : s'.world.events.rows = s.world.events.rows ++ records)
    (hbus : s'.world.bus = s.world.bus) (halerts : s'.world.alerts = s.world.alerts)
    (hmetrics : s'.world.metrics = s.world.metrics) (hcounted : s'.counted = s.counted) :
    Safe sha256 s' := by
  have hpublished := publishedEvents_congr hbus
  have hids := publishedIds_congr hbus
  have halerted := alertEventIds_congr halerts
  refine ⟨fun r hr => ?_, ?_, fun e he => ?_, ?_, ?_, ?_, ?_, ?_, ?_⟩
  · rw [hrows] at hr
    rcases List.mem_append.mp hr with hold | hnew
    · exact h.stored r hold
    · exact hdescribes r hnew
  · rw [hbus]
    exact h.topics
  · rw [hpublished] at he
    obtain ⟨r, hr, hraw⟩ := h.published e he
    refine ⟨r, ?_, hraw⟩
    rw [hrows]
    exact List.mem_append_left records hr
  · rw [hids]
    exact h.publishedOnce
  · rw [hcounted, hids]
    exact h.counted
  · rw [hcounted]
    exact h.countedOnce
  · rw [countedEvents, hmetrics, hcounted]
    exact h.total
  · rw [halerted, hpublished]
    exact h.alerted
  · rw [halerted]
    exact h.alertedOnce

theorem Safe.congr (h : Safe sha256 s) (hevents : s'.world.events = s.world.events)
    (hbus : s'.world.bus = s.world.bus) (halerts : s'.world.alerts = s.world.alerts)
    (hmetrics : s'.world.metrics = s.world.metrics) (hcounted : s'.counted = s.counted) :
    Safe sha256 s' := by
  have hnone : ∀ r ∈ ([] : List EventRecord), r.Describes sha256 r.rawEvent :=
    fun _ hr => absurd hr List.not_mem_nil
  exact Safe.withRecords h hnone (by rw [hevents, List.append_nil]) hbus halerts hmetrics hcounted

theorem Grows.of_same (hrows : ∃ new, s'.world.events.rows = s.world.events.rows ++ new)
    (hbus : s'.world.bus = s.world.bus) (halerts : s'.world.alerts = s.world.alerts)
    (hcounted : s'.counted = s.counted) (ids : List Uuid) : Grows ids s s' where
  rows := hrows
  published := grown_of_eq (publishedEvents_congr hbus) _
  counted := grown_of_eq hcounted _
  alerted := grown_of_eq (alertEventIds_congr halerts) _

/-- A step that leaves the stored, published, counted and alerted events as they are. -/
theorem Kept.idle (h : Safe sha256 s) (hevents : s'.world.events = s.world.events)
    (hbus : s'.world.bus = s.world.bus) (halerts : s'.world.alerts = s.world.alerts)
    (hmetrics : s'.world.metrics = s.world.metrics) (hcounted : s'.counted = s.counted)
    (hknows : Knows service sha256 s' l') (howned : ∀ u ∈ l'.owned, u ∈ l.owned)
    (hkeeps : Clear service l → ∀ u ∈ l.owned, u ∈ l'.owned)
    (hcall : l'.op = l.op ∧ l'.outage = l.outage) : Kept service sha256 s l s' l' where
  safe := h.congr hevents hbus halerts hmetrics hcounted
  knows := hknows
  grows := .of_same ⟨[], by rw [hevents, List.append_nil]⟩ hbus halerts hcounted _
  owned := fun u hu => Or.inl (howned u hu)
  keeps := hkeeps
  comes := fun u hu => Or.inl (by rwa [storedIds, hevents] at hu)
  call := hcall

theorem store_cases (events : List CanonicalEvent) (w : World) :
    (∃ e nextUuid, store sha256 events w = (.error e, {w with nextUuid})) ∨
    ∃ records table nextUuid,
      store sha256 events w = (.ok records, {w with events := table, nextUuid}) ∧
      List.Forall₂ (EventRecord.Describes sha256) records events ∧
      table.rows = w.events.rows ++ records ∧ (events.map CanonicalEvent.eventId).Nodup ∧
      ∀ e ∈ events, w.events.find? e.eventId = none := by
  by_cases hhash : ∀ e ∈ events, e.recordable = true
  · obtain ⟨records, nextUuid, hbuild, hdescribes⟩ := records_spec sha256 w hhash
    by_cases hfits : (∀ e ∈ events, e.storable = true) ∧
        (events.map CanonicalEvent.eventId).Nodup ∧ ∀ e ∈ events, w.events.find? e.eventId = none
    · obtain ⟨hstorable, hdistinct, hunused⟩ := hfits
      obtain ⟨table, hinsert, hrows⟩ := insertRecords_spec {w with nextUuid} hdescribes hstorable
        hdistinct hunused
      refine Or.inr ⟨records, table, nextUuid, ?_, hdescribes, hrows, hdistinct, hunused⟩
      rw [store, bind_ok hbuild, bind_ok hinsert]
      rfl
    · obtain ⟨e, hinsert⟩ := insertRecords_refuses {w with nextUuid} hdescribes
        fun hstorable hdistinct hunused => hfits ⟨hstorable, hdistinct, hunused⟩
      refine Or.inl ⟨e, nextUuid, ?_⟩
      rw [store, bind_ok hbuild, bind_error hinsert]
  · have hrefused : ∃ e ∈ events, e.recordable = false := by simpa using hhash
    obtain ⟨e, nextUuid, hbuild⟩ := records_refuse sha256 w hrefused
    exact Or.inl ⟨e, nextUuid, by rw [store, bind_error hbuild]⟩

theorem Safe.stored_of_published (h : Safe sha256 s) {u : Uuid} (hu : u ∈ publishedIds s) :
    u ∈ storedIds s := by
  obtain ⟨e, he, rfl⟩ := List.mem_map.mp hu
  obtain ⟨r, hr, rfl⟩ := h.published e he
  rw [← (h.stored r hr).eventId]
  exact List.mem_map_of_mem hr

theorem Safe.published_of_alerted (h : Safe sha256 s) {u : Uuid}
    (hu : some u ∈ alertEventIds s.world) : u ∈ publishedIds s := by
  obtain ⟨e, he, -, heq⟩ := h.alerted _ hu
  rw [Option.some_inj.mp heq]
  exact List.mem_map_of_mem he

theorem fresh_of_unused {u : Uuid} (h : s.world.events.find? u = none) : u ∉ storedIds s := by
  intro hmem
  obtain ⟨r, hr, hid⟩ := List.mem_map.mp hmem
  exact Table.find?_eq_none_iff.mp h r hr hid

/-- The records of a call come in. -/
theorem Kept.stored (h : Safe sha256 s) (howned : l.owned = [])
    (hdescribes : List.Forall₂ (EventRecord.Describes sha256) records l.op.events)
    (hdistinct : l.ids.Nodup) (hfresh : ∀ u ∈ l.ids, u ∉ storedIds s)
    (hrows : s'.world.events.rows = s.world.events.rows ++ records)
    (hbus : s'.world.bus = s.world.bus) (halerts : s'.world.alerts = s.world.alerts)
    (hmetrics : s'.world.metrics = s.world.metrics) (hcounted : s'.counted = s.counted) :
    Kept service sha256 s l s' {l with stage := .publishing records l.op.events} := by
  have halerted := alertEventIds_congr halerts
  have hids := publishedIds_congr hbus
  have hunpublished : ∀ u ∈ l.ids, u ∉ publishedIds s :=
    fun u hu hmem => hfresh u hu (h.stored_of_published hmem)
  constructor
  · refine Safe.withRecords h (fun r hr => ?_) hrows hbus halerts hmetrics hcounted
    obtain ⟨e, -, hre⟩ := event_of_record hdescribes hr
    rw [hre.rawEvent]
    exact hre
  · refine ⟨⟨hdescribes, fun r hr => ?_, hdistinct⟩,
      ⟨[], rfl, fun e he => absurd he List.not_mem_nil⟩, fun e he => ?_, fun u hu => ?_⟩
    · rw [hrows]
      exact List.mem_append_right _ hr
    · rw [hids]
      exact hunpublished _ (List.mem_map_of_mem he)
    · rw [hcounted, halerted]
      exact ⟨fun hmem => hunpublished u hu (h.counted u hmem),
        fun hmem => hunpublished u hu (h.published_of_alerted hmem)⟩
  · exact .of_same ⟨records, hrows⟩ hbus halerts hcounted _
  · exact fun u hu => Or.inr (hfresh u hu)
  · exact fun _ u hu => by rw [howned] at hu; cases hu
  · intro u hu
    rw [storedIds, hrows, List.map_append, eventIds_of_describes hdescribes] at hu
    exact List.mem_append.mp hu
  · exact ⟨rfl, rfl⟩

/-- An event of the call is published. -/
theorem Kept.published (h : Safe sha256 s)
    (hknows : Knows service sha256 s {l with stage := .publishing records (event :: left)})
    (hrows : s'.world.events = s.world.events)
    (hbus : s'.world.bus = s.world.bus ++ [⟨ingestedTopic, event⟩])
    (halerts : s'.world.alerts = s.world.alerts)
    (hmetrics : s'.world.metrics = s.world.metrics) (hcounted : s'.counted = s.counted) :
    Kept service sha256 s {l with stage := .publishing records (event :: left)} s'
      {l with stage := .publishing records left} := by
  obtain ⟨howns, ⟨done, hsplit, hdone⟩, hleft, huntold⟩ := hknows
  have hpublished : publishedEvents s'.world = publishedEvents s.world ++ [event] := by
    rw [publishedEvents, hbus, List.map_append]
    rfl
  have hids : publishedIds s' = publishedIds s ++ [event.eventId] := by
    rw [publishedIds, hpublished, List.map_append]
    rfl
  have halerted := alertEventIds_congr halerts
  have hmine : event.eventId ∈ l.ids := mem_ids_of_split hsplit List.mem_cons_self
  have hnew : event.eventId ∉ publishedIds s := hleft event List.mem_cons_self
  have hgrows : Grows l.ids s s' := by
    refine ⟨⟨[], by rw [hrows, List.append_nil]⟩, ⟨[event], hpublished, fun e he => ?_⟩,
      grown_of_eq hcounted _,
      grown_of_eq halerted _⟩
    rw [List.mem_singleton.mp he]
    exact hmine
  constructor
  · refine ⟨?_, fun m hm => ?_, fun e he => ?_, ?_, ?_, ?_, ?_, ?_, ?_⟩
    · rw [hrows]
      exact h.stored
    · rw [hbus] at hm
      rcases List.mem_append.mp hm with hold | hlast
      · exact h.topics m hold
      · rw [List.mem_singleton.mp hlast]
    · rw [hrows]
      rw [hpublished] at he
      rcases List.mem_append.mp he with hold | hlast
      · exact h.published e hold
      · rw [List.mem_singleton.mp hlast]
        exact howns.record (hsplit ▸ List.mem_append_right done List.mem_cons_self)
    · rw [hids]
      exact h.publishedOnce.append (List.nodup_singleton _) (List.disjoint_singleton.mpr hnew)
    · rw [hcounted, hids]
      exact fun u hu => List.mem_append_left _ (h.counted u hu)
    · rw [hcounted]
      exact h.countedOnce
    · rw [countedEvents, hmetrics, hcounted]
      exact h.total
    · rw [halerted, hpublished]
      intro u hu
      obtain ⟨e, he, hrest⟩ := h.alerted u hu
      exact ⟨e, List.mem_append_left _ he, hrest⟩
    · rw [halerted]
      exact h.alertedOnce
  · refine ⟨howns.mono hgrows, ⟨done ++ [event], by rw [hsplit, List.append_cons], fun e he => ?_⟩,
      fun e he => ?_, fun u hu => ?_⟩
    · rw [hpublished]
      rcases List.mem_append.mp he with hold | hlast
      · exact List.mem_append_left _ (hdone e hold)
      · exact List.mem_append_right _ hlast
    · rw [hids, List.mem_append, List.mem_singleton, not_or]
      exact ⟨hleft e (List.mem_cons_of_mem event he), howns.ne_of_split hsplit he⟩
    · rw [hcounted, halerted]
      exact huntold u hu
  · exact hgrows
  · exact fun u hu => Or.inl hu
  · exact fun _ u hu => hu
  · exact fun u hu => Or.inl (by rwa [storedIds, hrows] at hu)
  · exact ⟨rfl, rfl⟩

/-- The events of the call are counted. -/
theorem Kept.counted (h : Safe sha256 s)
    (hknows : Knows service sha256 s {l with stage := .publishing records []})
    (hrows : s'.world.events = s.world.events) (hbus : s'.world.bus = s.world.bus)
    (halerts : s'.world.alerts = s.world.alerts)
    (hmetrics : s'.world.metrics = s.world.metrics ++ [l.op.metric])
    (hcounted : s'.counted = s.counted ++ l.ids) :
    Kept service sha256 s {l with stage := .publishing records []} s'
      {l with stage := .alerting records l.op.events} := by
  obtain ⟨howns, ⟨done, hsplit, hdone⟩, -, huntold⟩ := hknows
  have hpublished := publishedEvents_congr hbus
  have halerted := alertEventIds_congr halerts
  have hids := publishedIds_congr hbus
  have hgrows : Grows l.ids s s' := by
    refine ⟨⟨[], by rw [hrows, List.append_nil]⟩,
      grown_of_eq hpublished _,
      ⟨l.ids, hcounted, fun u hu => hu⟩,
      grown_of_eq halerted _⟩
  rw [List.append_nil] at hsplit
  have hall : Published s l.op.events := hsplit ▸ hdone
  constructor
  · refine ⟨?_, ?_, ?_, ?_, fun u hu => ?_, ?_, ?_, ?_, ?_⟩
    · rw [hrows]
      exact h.stored
    · rw [hbus]
      exact h.topics
    · rw [hpublished, hrows]
      exact h.published
    · rw [hids]
      exact h.publishedOnce
    · rw [hids]
      rw [hcounted] at hu
      rcases List.mem_append.mp hu with hold | hmine
      · exact h.counted u hold
      · obtain ⟨e, he, rfl⟩ := List.mem_map.mp hmine
        exact List.mem_map_of_mem (hall e he)
    · rw [hcounted]
      exact h.countedOnce.append howns.distinct fun u hold hmine => (huntold u hmine).1 hold
    · have hvalue : l.op.metric.value = l.ids.length := by
        rw [Session.ids, List.length_map]
        cases l.op <;> rfl
      rw [countedEvents, hmetrics, hcounted, List.map_append, List.sum_append, List.length_append,
        ← h.total, ← hvalue]
      rfl
    · rw [halerted, hpublished]
      exact h.alerted
    · rw [halerted]
      exact h.alertedOnce
  · refine ⟨howns.mono hgrows, hall.mono hgrows, fun e he => ?_,
      ⟨[], rfl, fun e he => absurd he List.not_mem_nil⟩, fun e he => ?_⟩
    · rw [hcounted]
      exact List.mem_append_right _ (List.mem_map_of_mem he)
    · rw [halerted]
      exact (huntold _ (List.mem_map_of_mem he)).2
  · exact hgrows
  · exact fun u hu => Or.inl hu
  · exact fun _ u hu => hu
  · exact fun u hu => Or.inl (by rwa [storedIds, hrows] at hu)
  · exact ⟨rfl, rfl⟩

/-- An event of the call gets its alert, if it calls for one. -/
theorem Kept.alerted (h : Safe sha256 s)
    (hknows : Knows service sha256 s {l with stage := .alerting records (event :: left)})
    (hrows : s'.world.events = s.world.events) (hbus : s'.world.bus = s.world.bus)
    (halerts : alertEventIds s'.world = alertEventIds s.world ++
      if service.raisesAlert event then [some event.eventId] else [])
    (hmetrics : s'.world.metrics = s.world.metrics) (hcounted : s'.counted = s.counted) :
    Kept service sha256 s {l with stage := .alerting records (event :: left)} s'
      {l with stage := .alerting records left} := by
  obtain ⟨howns, hall, htold, ⟨done, hsplit, hdone⟩, hleft⟩ := hknows
  have hpublished := publishedEvents_congr hbus
  have hids := publishedIds_congr hbus
  have hmine : event ∈ l.op.events := hsplit ▸ List.mem_append_right done List.mem_cons_self
  have hnew : ∀ u ∈ (if service.raisesAlert event then [some event.eventId] else []),
      u = some event.eventId ∧ service.raisesAlert event = true := by
    intro u hu
    split at hu
    · exact ⟨List.mem_singleton.mp hu, by assumption⟩
    · cases hu
  have hgrows : Grows l.ids s s' := by
    refine ⟨⟨[], by rw [hrows, List.append_nil]⟩,
      grown_of_eq hpublished _,
      grown_of_eq hcounted _,
      ⟨_, halerts, fun u hu => ⟨event.eventId, List.mem_map_of_mem hmine, (hnew u hu).1⟩⟩⟩
  constructor
  · refine ⟨?_, ?_, ?_, ?_, ?_, ?_, ?_, fun u hu => ?_, ?_⟩
    · rw [hrows]
      exact h.stored
    · rw [hbus]
      exact h.topics
    · rw [hpublished, hrows]
      exact h.published
    · rw [hids]
      exact h.publishedOnce
    · rw [hids, hcounted]
      exact h.counted
    · rw [hcounted]
      exact h.countedOnce
    · rw [countedEvents, hmetrics, hcounted]
      exact h.total
    · rw [hpublished]
      rw [halerts] at hu
      rcases List.mem_append.mp hu with hold | hlast
      · exact h.alerted u hold
      · obtain ⟨heq, hraises⟩ := hnew u hlast
        exact ⟨event, hall event hmine, (Bool.and_eq_true_iff.mp hraises).2, heq⟩
    · rw [halerts]
      refine h.alertedOnce.append ?_ fun u hold hlast => ?_
      · split
        · exact List.nodup_singleton _
        · exact List.nodup_nil
      · rw [(hnew u hlast).1] at hold
        exact hleft event List.mem_cons_self hold
  · refine ⟨howns.mono hgrows, hall.mono hgrows, htold.mono hgrows,
      ⟨done ++ [event], by rw [hsplit, List.append_cons], fun e he hraises => ?_⟩, fun e he => ?_⟩
    · rw [halerts]
      rcases List.mem_append.mp he with hold | hlast
      · exact List.mem_append_left _ (hdone e hold hraises)
      · rw [List.mem_singleton.mp hlast] at hraises ⊢
        rw [if_pos hraises]
        exact List.mem_append_right _ List.mem_cons_self
    · rw [halerts, List.mem_append, not_or]
      refine ⟨hleft e (List.mem_cons_of_mem event he), fun hlast => ?_⟩
      exact howns.ne_of_split hsplit he (Option.some_inj.mp (hnew _ hlast).1)
  · exact hgrows
  · exact fun u hu => Or.inl hu
  · exact fun _ u hu => hu
  · exact fun u hu => Or.inl (by rwa [storedIds, hrows] at hu)
  · exact ⟨rfl, rfl⟩

variable (service) in
theorem withAlert_spec (event : CanonicalEvent) (w : World) : ∃ alerts,
    service.withAlert event w = {w with alerts} ∧ alerts.rows.map SentinelAlert.eventId =
      alertEventIds w ++ if service.raisesAlert event then [some event.eventId] else [] := by
  obtain ⟨alerts, hfold, hids⟩ := foldl_withAlert service [event] w
  refine ⟨alerts, hfold, hids.trans ?_⟩
  rw [alerted_eq_filter]
  by_cases hraises : service.raisesAlert event = true <;> simp [hraises]

theorem act_store (tick : Tick) (h : Safe sha256 s) :
    Kept service sha256 s {l with stage := .checking []}
      (act service sha256 tick s {l with stage := .checking []}).1
      (act service sha256 tick s {l with stage := .checking []}).2 := by
  simp only [act, perform]
  rcases @store_cases sha256 l.op.events (s.world.at tick.now) with
    ⟨e, nextUuid, hrun⟩ | ⟨records, table, nextUuid, hrun, hdescribes, hrows, hdistinct, hunused⟩
  · rw [hrun]
    exact Kept.idle h rfl rfl rfl rfl rfl trivial (fun u hu => hu) (fun _ u hu => hu) ⟨rfl, rfl⟩
  · rw [hrun]
    refine Kept.stored (l := {l with stage := .checking []}) h rfl hdescribes hdistinct
      (fun u hu => ?_) hrows rfl rfl rfl rfl
    obtain ⟨e, he, rfl⟩ := List.mem_map.mp hu
    exact fresh_of_unused (hunused e he)

theorem act_publish (tick : Tick) (h : Safe sha256 s)
    (hknows : Knows service sha256 s {l with stage := .publishing records (event :: left)}) :
    Kept service sha256 s {l with stage := .publishing records (event :: left)}
      (act service sha256 tick s {l with stage := .publishing records (event :: left)}).1
      (act service sha256 tick s {l with stage := .publishing records (event :: left)}).2 := by
  simp only [act, perform, publish_eq, faulting]
  cases hfault : publishFault l.outage event with
  | some e =>
    refine Kept.idle h rfl rfl rfl rfl rfl trivial (fun u hu => absurd hu List.not_mem_nil)
      (fun hclear => ?_) ⟨rfl, rfl⟩
    obtain ⟨-, ⟨done, hsplit, -⟩, -, -⟩ := hknows
    have hnone := publishFault_eq_none.mpr
      (hclear.1 event (hsplit ▸ List.mem_append_right done List.mem_cons_self))
    cases hnone.symm.trans hfault
  | none => exact Kept.published h hknows rfl rfl rfl rfl rfl

theorem act_alert (tick : Tick) (h : Safe sha256 s)
    (hknows : Knows service sha256 s {l with stage := .alerting records (event :: left)}) :
    Kept service sha256 s {l with stage := .alerting records (event :: left)}
      (act service sha256 tick s {l with stage := .alerting records (event :: left)}).1
      (act service sha256 tick s {l with stage := .alerting records (event :: left)}).2 := by
  simp only [act, perform, runSentinel_eq, faulting]
  cases hfault : service.alertFault l.outage event with
  | some e =>
    refine Kept.idle h rfl rfl rfl rfl rfl trivial (fun u hu => absurd hu List.not_mem_nil)
      (fun hclear => ?_) ⟨rfl, rfl⟩
    obtain ⟨-, -, -, ⟨done, hsplit, -⟩, -⟩ := hknows
    have hmine : event ∈ l.op.events := hsplit ▸ List.mem_append_right done List.mem_cons_self
    have hnone : service.alertFault l.outage event = none := by
      refine alertFault_eq_none.mpr fun hraises => hclear.2 event ?_
      rw [alerted_eq_filter]
      exact List.mem_filter.mpr ⟨hmine, hraises⟩
    cases hnone.symm.trans hfault
  | none =>
    obtain ⟨alerts, hrun, hids⟩ := withAlert_spec service event (s.world.at tick.now)
    rw [hrun]
    exact Kept.alerted h hknows rfl rfl hids rfl rfl

/-- The step lemma. -/
theorem act_kept (tick : Tick) (h : Safe sha256 s) (hknows : Knows service sha256 s l) :
    Kept service sha256 s l (act service sha256 tick s l).1 (act service sha256 tick s l).2 := by
  obtain ⟨op, outage, stage⟩ := l
  match stage with
  | .checking (event :: left) =>
    cases hcheck : tick.check with
    | error e =>
      simp only [act, hcheck]
      exact Kept.idle h rfl rfl rfl rfl rfl trivial (fun u hu => hu) (fun _ u hu => hu) ⟨rfl, rfl⟩
    | ok _ =>
      simp only [act, hcheck]
      exact Kept.idle h rfl rfl rfl rfl rfl trivial (fun u hu => hu) (fun _ u hu => hu) ⟨rfl, rfl⟩
  | .checking [] => exact act_store (l := ⟨op, outage, .checking []⟩) tick h
  | .publishing records (event :: left) =>
    exact act_publish (l := ⟨op, outage, .checking []⟩) tick h hknows
  | .publishing records [] =>
    exact Kept.counted (l := ⟨op, outage, .checking []⟩) h hknows rfl rfl rfl rfl rfl
  | .alerting records (event :: left) =>
    exact act_alert (l := ⟨op, outage, .checking []⟩) tick h hknows
  | .alerting records [] =>
    obtain ⟨howns, hall, htold, ⟨done, hsplit, hdone⟩, -⟩ := hknows
    rw [List.append_nil] at hsplit
    exact Kept.idle h rfl rfl rfl rfl rfl ⟨howns, hall, htold, hsplit ▸ hdone⟩ (fun u hu => hu)
      (fun _ u hu => hu) ⟨rfl, rfl⟩
  | .finished answer =>
    exact Kept.idle h rfl rfl rfl rfl rfl hknows (fun u hu => hu) (fun _ u hu => hu) ⟨rfl, rfl⟩

theorem Owns.stored {events : List CanonicalEvent} (h : Owns sha256 s events records) {u : Uuid}
    (hu : u ∈ events.map CanonicalEvent.eventId) : u ∈ storedIds s := by
  rw [← eventIds_of_describes h.describes] at hu
  obtain ⟨r, hr, rfl⟩ := List.mem_map.mp hu
  exact List.mem_map_of_mem (h.rows r hr)

theorem Knows.stored (h : Knows service sha256 s l) {u : Uuid} (hu : u ∈ l.owned) :
    u ∈ storedIds s := by
  obtain ⟨op, outage, stage⟩ := l
  match stage with
  | .checking left => cases hu
  | .publishing records left => exact h.1.stored hu
  | .alerting records left => exact h.1.stored hu
  | .finished (.ok records) => exact h.1.stored hu
  | .finished (.error e) => cases hu

theorem Apart.symm {l m : Session} (h : Apart l m) : Apart m l := fun _ hm hl => h hl hm

/-- What a step leaves to another session. -/
theorem Kept.other (hkept : Kept service sha256 s l s' l') {m : Session}
    (hknows : Knows service sha256 s m) (hapart : Apart l m) :
    Knows service sha256 s' m ∧ Apart l' m := by
  refine ⟨hknows.stable hkept.grows hapart, fun u hl hm => ?_⟩
  rcases hkept.owned u hl with hold | hnew
  · exact hapart hold hm
  · exact hnew (hknows.stored hm)

end Step

/-! ### Every interleaving -/

/-- The call has not stored anything yet, or has ended. -/
def Session.idle (l : Session) : Prop :=
  match l.stage with
  | .checking _ | .finished _ => True
  | .publishing _ _ | .alerting _ _ => False

/-- What is promised of the world and of the answers. The last clause is about a state with no call
halfway, where no outage has hit: then every stored event has gone all the way. -/
structure Sound (service : IngestionService) (sha256 : ByteArray → String)
    (c : Sessions Shared Session) : Prop where
  published : ∀ e ∈ publishedEvents c.shared.world, ∃ r ∈ c.shared.world.events.rows,
    r.rawEvent = e ∧ r.Describes sha256 e
  publishedOnce : (publishedIds c.shared).Nodup
  alerted : ∀ u ∈ alertEventIds c.shared.world, ∃ e ∈ publishedEvents c.shared.world,
    (triggerMap e.eventType).isSome ∧ u = some e.eventId
  alertedOnce : (alertEventIds c.shared.world).Nodup
  -- the metrics add up to the events of the calls that have emitted theirs
  total : countedEvents c.shared.world = c.shared.counted.length
  counted : ∀ u ∈ c.shared.counted, u ∈ publishedIds c.shared
  countedOnce : c.shared.counted.Nodup
  answered : ∀ i records, (c.session i).stage = .finished (.ok records) →
    List.Forall₂ (EventRecord.Describes sha256) records (c.session i).op.events ∧
      (∀ r ∈ records, r ∈ c.shared.world.events.rows) ∧
      Published c.shared (c.session i).op.events ∧ Counted c.shared (c.session i).op.events ∧
      Alerted service c.shared (c.session i).op.events
  answeredOnce : ∀ i j, i ≠ j → ∀ records records',
    (c.session i).stage = .finished (.ok records) →
    (c.session j).stage = .finished (.ok records') →
    (c.session i).ids.Disjoint (c.session j).ids
  complete : (∀ i, Clear service (c.session i)) → (∀ i, (c.session i).idle) →
    Published c.shared (c.shared.world.events.rows.map EventRecord.rawEvent) ∧
      Counted c.shared (c.shared.world.events.rows.map EventRecord.rawEvent) ∧
      Alerted service c.shared (c.shared.world.events.rows.map EventRecord.rawEvent)

section Run
variable {service : IngestionService} {sha256 : ByteArray → String}

/-- Every stored event belongs to a session. -/
def Accounted (c : Sessions Shared Session) : Prop :=
  ∀ u ∈ storedIds c.shared, ∃ i, u ∈ (c.session i).owned

def Inv (service : IngestionService) (sha256 : ByteArray → String) (c : Sessions Shared Session) :
    Prop :=
  Sessions.HoldsApart (Safe sha256) (Knows service sha256) Apart c ∧
    ((∀ i, Clear service (c.session i)) → Accounted c)

theorem step_accounted {c : Sessions Shared Session} {k : Nat × Tick}
    (hkept : Kept service sha256 c.shared (c.session k.1)
      (act service sha256 k.2 c.shared (c.session k.1)).1
      (act service sha256 k.2 c.shared (c.session k.1)).2)
    (hclear : Clear service (c.session k.1)) (h : Accounted c) :
    Accounted (Sessions.step (act service sha256) c k) := by
  intro u hu
  rcases hkept.comes u hu with hold | hnew
  · obtain ⟨i, hi⟩ := h u hold
    refine ⟨i, ?_⟩
    by_cases hik : i = k.1
    · rw [hik] at hi ⊢
      rw [Sessions.session_step_self]
      exact hkept.keeps hclear u hi
    · rw [Sessions.session_step_ne _ c hik]
      exact hi
  · refine ⟨k.1, ?_⟩
    rw [Sessions.session_step_self]
    exact hnew

theorem clear_before {c : Sessions Shared Session} {k : Nat × Tick}
    (hkept : Kept service sha256 c.shared (c.session k.1)
      (act service sha256 k.2 c.shared (c.session k.1)).1
      (act service sha256 k.2 c.shared (c.session k.1)).2)
    (h : ∀ i, Clear service ((Sessions.step (act service sha256) c k).session i)) (i : Nat) :
    Clear service (c.session i) := by
  have hi := h i
  by_cases hik : i = k.1
  · rw [hik, Sessions.session_step_self] at hi
    rw [hik]
    unfold Clear at hi ⊢
    rwa [hkept.call.1, hkept.call.2] at hi
  · rwa [Sessions.session_step_ne _ c hik] at hi

theorem step_inv {c : Sessions Shared Session} (h : Inv service sha256 c) (k : Nat × Tick) :
    Inv service sha256 (Sessions.step (act service sha256) c k) := by
  obtain ⟨hholds, haccounted⟩ := h
  have hok : Sessions.Guard (fun _ _ _ => True) c k := trivial
  have hkept := act_kept k.2 hholds.1 (hholds.2.1 k.1)
  constructor
  · refine Sessions.step_holdsApart (fun _ _ h => h.symm) (fun x s l _ hsafe hknows => ?_)
      (fun x s l m _ hsafe hknows hother hapart => ?_) hok hholds
    · exact ⟨(act_kept x hsafe hknows).safe, (act_kept x hsafe hknows).knows⟩
    · exact (act_kept x hsafe hknows).other hother hapart
  · intro hclear
    have hbefore := clear_before hkept hclear
    exact step_accounted hkept (hbefore k.1) (haccounted hbefore)

section Sound
variable {c : Sessions Shared Session}

/-- A row with the identifier of an owned event is the row of that event. -/
theorem Owns.rawEvent {s : Shared} {events : List CanonicalEvent} {records : List EventRecord}
    (h : Owns sha256 s events records) {r : EventRecord} (hr : r ∈ s.world.events.rows)
    (hid : r.eventId ∈ events.map CanonicalEvent.eventId) : r.rawEvent ∈ events := by
  rw [← eventIds_of_describes h.describes] at hid
  obtain ⟨r', hr', heq⟩ := List.mem_map.mp hid
  have hsame : r' = r :=
    List.inj_on_of_nodup_map s.world.events.unique (h.rows r' hr') hr heq
  rw [← rawEvents_of_describes h.describes, ← hsame]
  exact List.mem_map_of_mem hr'

/-- When every stored event belongs to a session and none is halfway, its call has returned. -/
theorem returned_of_idle (hholds : Sessions.HoldsApart (Safe sha256) (Knows service sha256) Apart c)
    (haccounted : Accounted c) (hidle : ∀ i, (c.session i).idle) {u : Uuid}
    (hu : u ∈ storedIds c.shared) : ∃ (events : List CanonicalEvent) (records : List EventRecord),
      u ∈ events.map CanonicalEvent.eventId ∧ Owns sha256 c.shared events records ∧
        Published c.shared events ∧ Counted c.shared events ∧ Alerted service c.shared events := by
  obtain ⟨i, hi⟩ := haccounted u hu
  have hknows := hholds.2.1 i
  have hnow := hidle i
  generalize c.session i = l at hi hknows hnow
  obtain ⟨op, outage, stage⟩ := l
  match stage with
  | .checking left => cases hi
  | .publishing records left => cases hnow
  | .alerting records left => cases hnow
  | .finished (.error e) => cases hi
  | .finished (.ok records) => exact ⟨op.events, records, hi, hknows⟩

theorem sound_of_inv (h : Inv service sha256 c) : Sound service sha256 c := by
  obtain ⟨hholds, haccounted⟩ := h
  have hsafe := hholds.1
  refine ⟨fun e he => ?_, hsafe.publishedOnce, hsafe.alerted, hsafe.alertedOnce, hsafe.total,
    hsafe.counted, hsafe.countedOnce, fun i records hstage => ?_,
    fun i j hij records records' hi hj => ?_,
    fun hclear hidle => ⟨fun e he => ?_, fun e he => ?_, fun e he => ?_⟩⟩
  · obtain ⟨r, hr, rfl⟩ := hsafe.published e he
    exact ⟨r, hr, rfl, hsafe.stored r hr⟩
  · have hknows := hholds.2.1 i
    unfold Knows at hknows
    rw [hstage] at hknows
    obtain ⟨howns, hpublished, hcounted, halerted⟩ := hknows
    exact ⟨howns.describes, howns.rows, hpublished, hcounted, halerted⟩
  · have hapart := hholds.2.2 i j hij
    unfold Apart Session.owned at hapart
    rw [hi, hj] at hapart
    exact hapart
  · obtain ⟨r, hr, rfl⟩ := List.mem_map.mp he
    obtain ⟨events, records, hid, howns, hpublished, -⟩ := returned_of_idle hholds
      (haccounted hclear) hidle (List.mem_map_of_mem hr)
    exact hpublished _ (howns.rawEvent hr hid)
  · obtain ⟨r, hr, rfl⟩ := List.mem_map.mp he
    obtain ⟨events, records, hid, howns, -, hcounted, -⟩ := returned_of_idle hholds
      (haccounted hclear) hidle (List.mem_map_of_mem hr)
    exact hcounted _ (howns.rawEvent hr hid)
  · obtain ⟨r, hr, rfl⟩ := List.mem_map.mp he
    obtain ⟨events, records, hid, howns, -, -, halerted⟩ := returned_of_idle hholds
      (haccounted hclear) hidle (List.mem_map_of_mem hr)
    exact halerted _ (howns.rawEvent hr hid)

end Sound
end Run

/-- No session has begun. -/
def begin (service : IngestionService) (start : Datetime) (calls : Nat → IngestOp × Outage) :
    Sessions Shared Session where
  shared := {world := {clock := start}}
  session := fun i => IngestionConcurrency.start service (calls i).1 (calls i).2

theorem knows_start (service : IngestionService) (sha256 : ByteArray → String) (s : Shared)
    (call : IngestOp × Outage) :
    Knows service sha256 s (IngestionConcurrency.start service call.1 call.2) := by
  by_cases hempty : call.1.events = []
  · unfold Knows IngestionConcurrency.start firstStage
    rw [if_pos hempty]
    dsimp only
    rw [hempty]
    exact ⟨⟨.nil, fun _ hr => absurd hr List.not_mem_nil, List.nodup_nil⟩,
      fun _ he => absurd he List.not_mem_nil, fun _ he => absurd he List.not_mem_nil,
      fun _ he => absurd he List.not_mem_nil⟩
  · unfold Knows IngestionConcurrency.start firstStage
    rw [if_neg hempty]
    trivial

theorem owned_start (service : IngestionService) (op : IngestOp) (outage : Outage) :
    (IngestionConcurrency.start service op outage).owned = [] := by
  unfold Session.owned IngestionConcurrency.start firstStage
  by_cases hempty : op.events = []
  · rw [if_pos hempty]
    dsimp only [Session.ids]
    rw [hempty]
    rfl
  · rw [if_neg hempty]

theorem safe_empty (sha256 : ByteArray → String) (start : Datetime) :
    Safe sha256 {world := {clock := start}} where
  stored := fun _ hr => absurd hr List.not_mem_nil
  topics := fun _ hm => absurd hm List.not_mem_nil
  published := fun _ he => absurd he List.not_mem_nil
  publishedOnce := List.nodup_nil
  counted := fun _ hu => absurd hu List.not_mem_nil
  countedOnce := List.nodup_nil
  total := rfl
  alerted := fun _ hu => absurd hu List.not_mem_nil
  alertedOnce := List.nodup_nil

theorem begin_inv (service : IngestionService) (sha256 : ByteArray → String) (start : Datetime)
    (calls : Nat → IngestOp × Outage) : Inv service sha256 (begin service start calls) := by
  refine ⟨⟨safe_empty sha256 start, fun i => knows_start service sha256 _ (calls i),
    fun i j hij u hi => ?_⟩, fun _ u hu => absurd hu List.not_mem_nil⟩
  rw [show (begin service start calls).session i =
    IngestionConcurrency.start service (calls i).1 (calls i).2 from rfl, owned_start] at hi
  cases hi

/-- The run lemma: from empty tables, in every state of every interleaving. -/
theorem run_safe (service : IngestionService) (sha256 : ByteArray → String) (start : Datetime)
    (calls : Nat → IngestOp × Outage) (schedule : List (Nat × Tick)) :
    Sound service sha256
      (schedule.foldl (Sessions.step (act service sha256)) (begin service start calls)) := by
  have hkeep : ∀ c k, True → Inv service sha256 c →
      Inv service sha256 (Sessions.step (act service sha256) c k) := fun c k _ h => step_inv h k
  exact sound_of_inv (Run.invariant hkeep (Run.meets_true _ schedule)
    (begin_inv service sha256 start calls))

end IngestionConcurrency
end Dox
