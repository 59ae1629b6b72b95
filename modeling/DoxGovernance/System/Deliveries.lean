import DoxGovernance.Lib.Simulation
import DoxGovernance.Sdk.Builder
import DoxGovernance.System.Delivery

/-!
# Many posts

Calls follow one another, whatever the network and the adapters do. Each adds all of its events to
the table or none of them. What the results of success name is stored, and is named once. The
stored events of a builder keep the order in which they were built.
-/

set_option autoImplicit false
set_option maxRecDepth 4096

namespace Dox
open Wire

namespace Delivery
variable {py : Pydantic} {callees : Callees CanonicalEvent Payload Value} {gateway : Gateway}
  {self : Delivery} {w : World}

/-! ### Any number of calls -/

/-- The identifiers that a result of success names. -/
def acknowledgedIds : Py Report → List Uuid
  | .ok r => if r.success then r.eventIds else []
  | .error _ => []

/-- What a call has left in the store, by its result. -/
structure Kept (sha256 : ByteArray → String) (call : Delivery × Py Report)
    (records : List EventRecord) : Prop where
  whole : records = [] ∨ List.Forall₂ (EventRecord.Describes sha256) records call.1.call.sent
  acknowledged : ∀ r, call.2 = .ok r → r.success = true →
    r.eventIds = call.1.call.events.map CanonicalEvent.eventId ∧
      List.Forall₂ (EventRecord.Describes sha256) records call.1.call.sent
  refused : ∀ r n, call.2 = .ok r → r.success = false → r.statusCode = some n → n ≠ 500 →
    records = []

/-- What is told of a call, as what it has added. -/
theorem kept_of_told {sha256 : ByteArray → String} {Success : Prop} {result : Py Report}
    {w' : World}
    (h : Told sha256 Success self.call.sent w result w') :
    ∃ records, w'.events.rows = w.events.rows ++ records ∧
      Kept sha256 (self, result) records := by
  rcases h.whole with hsame | ⟨records, hdescribes, hrows⟩
  · refine ⟨[], by rw [hsame, List.append_nil], Or.inl rfl, fun r hr hsuccess => ?_,
      fun _ _ _ _ _ _ => rfl⟩
    obtain ⟨hids, records, hdescribes, hrows⟩ := h.acknowledged r hr hsuccess
    have hnil : records = [] := List.self_eq_append_right.mp (hsame.symm.trans hrows)
    exact ⟨hids.trans self.call.eventIds_sent, hnil ▸ hdescribes⟩
  · refine ⟨records, hrows, Or.inr hdescribes,
      fun r hr hsuccess =>
        ⟨(h.acknowledged r hr hsuccess).1.trans self.call.eventIds_sent, hdescribes⟩,
      fun r n hr hfalse hstatus hne => ?_⟩
    exact List.self_eq_append_right.mp ((h.refused r n hr hfalse hstatus hne).symm.trans hrows)

theorem Kept.acknowledged_sublist {sha256 : ByteArray → String} {call : Delivery × Py Report}
    {records : List EventRecord} (h : Kept sha256 call records) :
    (acknowledgedIds call.2).Sublist (records.map EventRecord.eventId) := by
  obtain ⟨-, hacknowledged, -⟩ := h
  cases hresult : call.2 with
  | error e => exact List.nil_sublist _
  | ok r =>
    unfold acknowledgedIds
    dsimp only
    split
    · rename_i hsuccess
      obtain ⟨hids, hdescribes⟩ := hacknowledged r hresult hsuccess
      rw [hids, IngestionService.eventIds_of_describes hdescribes, SdkCall.eventIds_sent]
    · exact List.nil_sublist _

theorem acknowledged_sublist {sha256 : ByteArray → String} {calls : List (Delivery × Py Report)}
    {kept : List (List EventRecord)} (h : List.Forall₂ (Kept sha256) calls kept) :
    (calls.flatMap fun call => acknowledgedIds call.2).Sublist
      (kept.flatten.map EventRecord.eventId) := by
  induction h with
  | nil => exact List.nil_sublist _
  | cons hcall _ ih =>
    rw [List.flatMap_cons, List.flatten_cons, List.map_append]
    exact hcall.acknowledged_sublist.append ih

/-- Deliveries, one after another, each with its result. -/
def results (py : Pydantic) (callees : Callees CanonicalEvent Payload Value) (gateway : Gateway)
    (w : World) (calls : List Delivery) : List (Delivery × Py Report) :=
  Simulation.answers (fun w call => call.run py callees gateway w) w calls

def afterAll (py : Pydantic) (callees : Callees CanonicalEvent Payload Value) (gateway : Gateway)
    (w : World) (calls : List Delivery) : World :=
  calls.foldl (Simulation.step fun w call => call.run py callees gateway w) w

/-- Each call adds its own records, in the order of the calls. -/
theorem results_kept (hreads : Reads py callees) (gateway : Gateway) {calls : List Delivery}
    (h : ∀ call ∈ calls, ∀ event ∈ call.call.events, event.Readable py) (w : World) :
    ∃ kept, (afterAll py callees gateway w calls).events.rows =
        w.events.rows ++ kept.flatten ∧
      List.Forall₂ (Kept gateway.sha256) (results py callees gateway w calls) kept := by
  induction calls generalizing w with
  | nil => exact ⟨[], (List.append_nil _).symm, .nil⟩
  | cons call rest ih =>
    rw [List.forall_mem_cons] at h
    have htold : Told gateway.sha256 (call.Succeeds callees gateway w) call.call.sent w
        (call.run py callees gateway w).1 (call.run py callees gateway w).2 := run_told hreads h.1
    obtain ⟨records, hrows, hkept⟩ := kept_of_told htold
    obtain ⟨kept, hrest, hall⟩ := ih h.2 (call.run py callees gateway w).2
    refine ⟨records :: kept, ?_, .cons hkept hall⟩
    rw [List.flatten_cons, ← List.append_assoc, ← hrows]
    exact hrest

/-- Over any calls, each adds all of its events or none; what a result of success names is stored,
was not there before, and is named by no other result. -/
theorem results_deliver (hreads : Reads py callees) (gateway : Gateway) {calls : List Delivery}
    (h : ∀ call ∈ calls, ∀ event ∈ call.call.events, event.Readable py) (w : World) :
    (∃ kept, (afterAll py callees gateway w calls).events.rows =
        w.events.rows ++ kept.flatten ∧
      List.Forall₂ (Kept gateway.sha256) (results py callees gateway w calls) kept) ∧
    ((results py callees gateway w calls).flatMap fun call => acknowledgedIds call.2).Nodup ∧
    ∀ id ∈ (results py callees gateway w calls).flatMap fun call => acknowledgedIds call.2,
      w.events.find? id = none ∧
        ((afterAll py callees gateway w calls).events.find? id).isSome := by
  obtain ⟨kept, hrows, hkept⟩ := results_kept hreads gateway h w
  have hsublist := acknowledged_sublist hkept
  have hunique := (afterAll py callees gateway w calls).events.unique
  rw [hrows, List.map_append, List.nodup_append] at hunique
  obtain ⟨-, hnew, hapart⟩ := hunique
  refine ⟨⟨kept, hrows, hkept⟩, hnew.sublist hsublist, fun id hid => ⟨?_, ?_⟩⟩
  · refine Table.find?_eq_none_iff.mpr fun r hr heq => ?_
    exact hapart id (heq ▸ List.mem_map_of_mem hr) id (hsublist.subset hid) rfl
  · obtain ⟨record, hrecord, rfl⟩ := List.mem_map.mp (hsublist.subset hid)
    have hmem : record ∈ (afterAll py callees gateway w calls).events.rows := by
      rw [hrows]
      exact List.mem_append_right _ hrecord
    rw [Table.find?_eq_some_iff.mpr ⟨hmem, rfl⟩]
    rfl

/-- The answer to the first post is lost; the event is posted again, and then another one. -/
def retried : List Delivery :=
  [sampleDelivery 1 (.losesAnswer (.printable "ReadTimeout" "")), sampleDelivery 1 .answers,
    sampleDelivery 2 .answers]

theorem results_deliver_sample :
    (∃ kept, (afterAll samplePydantic sampleWire roleGateway sampleWorld retried).events.rows =
        sampleWorld.events.rows ++ kept.flatten ∧
      List.Forall₂ (Kept roleGateway.sha256)
        (results samplePydantic sampleWire roleGateway sampleWorld retried) kept) ∧
    ((results samplePydantic sampleWire roleGateway sampleWorld retried).flatMap
      fun call => acknowledgedIds call.2).Nodup ∧
    ∀ id ∈ (results samplePydantic sampleWire roleGateway sampleWorld retried).flatMap
        fun call => acknowledgedIds call.2,
      sampleWorld.events.find? id = none ∧
        ((afterAll samplePydantic sampleWire roleGateway sampleWorld retried).events.find?
          id).isSome := by
  have hreadable : ∀ call ∈ retried, ∀ event ∈ call.call.events,
      event.Readable samplePydantic := by
    intro call hcall event hevent
    simp only [retried, List.mem_cons, List.not_mem_nil, or_false] at hcall
    rcases hcall with rfl | rfl | rfl
    · exact sample_readable hevent (by decide)
    · exact sample_readable hevent (by decide)
    · exact sample_readable hevent (by decide)
  exact results_deliver sample_reads roleGateway hreadable sampleWorld

end Delivery

/-! ### The session of a builder -/

namespace EventBuilder
variable {py : Pydantic} {builder : EventBuilder}

theorem readable_of_canonicalEvent? {call : EventCall} {draw : Draw} {n : Nat}
    {event : CanonicalEvent} (htrace : (uuid py).Readable builder.traceId)
    (hid : (uuid py).Readable draw.eventId) (hnow : (datetime py).Readable draw.now)
    (h : builder.canonicalEvent? call draw n = some event) : event.Readable py := by
  simp only [canonicalEvent?, Option.bind_eq_bind, Option.bind_eq_some_iff, Option.pure_def] at h
  obtain ⟨_, -, _, -, _, -, _, -, _, -, _, -, _, ⟨_, -, hpayload⟩, hevent⟩ := h
  cases hevent
  exact {
    eventId := hid
    traceId := htrace
    parentTraceId := rfl
    timestamp := hnow
    clientTimestamp := hnow
    parentEventId := rfl
    replaySessionId := rfl
    payload := dict_readable hpayload
    rawPayload := rfl }

/-- What a builder returns is read by the gateway as it was built. -/
theorem readable_of_returned (htrace : (uuid py).Readable builder.traceId)
    {emissions : List Emission} (hdraws : ∀ emission ∈ emissions,
      (uuid py).Readable emission.draw.eventId ∧ (datetime py).Readable emission.draw.now) :
    ∀ event ∈ builder.returned emissions, event.Readable py := by
  induction emissions generalizing builder with
  | nil => exact fun event h => absurd h List.not_mem_nil
  | cons emission emissions ih =>
    rw [List.forall_mem_cons] at hdraws
    have hrest : ∀ event ∈ builder.advance.returned emissions, event.Readable py :=
      ih htrace hdraws.2
    cases haccepts : builder.accepts emission.call with
    | true =>
      rw [← canonicalEvent?_isSome builder emission.call emission.draw (builder.sequence + 1)]
        at haccepts
      obtain ⟨first, hfirst⟩ := Option.isSome_iff_exists.mp haccepts
      have hreturned : builder.returned (emission :: emissions) =
          first :: builder.advance.returned emissions := by
        simp only [returned, Effect.outcomes, emit, build, nextSequence, Effect.bind_run,
          Effect.gets_run, Effect.change_run, id, hfirst, Effect.pure_run]
        rfl
      rw [hreturned]
      exact List.forall_mem_cons.mpr
        ⟨readable_of_canonicalEvent? htrace hdraws.1.1 hdraws.1.2 hfirst, hrest⟩
    | false =>
      rw [returned_refused haccepts]
      exact hrest

end EventBuilder

namespace Delivery
variable {py : Pydantic} {callees : Callees CanonicalEvent Payload Value}

theorem rawEvents_sublist {sha256 : ByteArray → String} {calls : List (Delivery × Py Report)}
    {kept : List (List EventRecord)} (h : List.Forall₂ (Kept sha256) calls kept) :
    (kept.flatten.map EventRecord.rawEvent).Sublist
      (calls.flatMap fun call => call.1.call.sent) := by
  have hraw : ∀ (records : List EventRecord) (events : List CanonicalEvent),
      List.Forall₂ (EventRecord.Describes sha256) records events →
      records.map EventRecord.rawEvent = events := by
    intro records events hdescribes
    induction hdescribes with
    | nil => rfl
    | cons hrecord _ ih => rw [List.map_cons, hrecord.rawEvent, ih]
  induction h with
  | nil => exact List.nil_sublist _
  | cons hcall _ ih =>
    rw [List.flatMap_cons, List.flatten_cons, List.map_append]
    refine List.Sublist.append ?_ ih
    rcases hcall.whole with hnil | hdescribes
    · rw [hnil]
      exact List.nil_sublist _
    · rw [hraw _ _ hdescribes]

theorem map_fst_results (py : Pydantic) (callees : Callees CanonicalEvent Payload Value)
    (gateway : Gateway) (w : World) (calls : List Delivery) :
    (results py callees gateway w calls).map Prod.fst = calls := by
  unfold results
  induction calls generalizing w with
  | nil => rfl
  | cons call rest ih => exact congrArg (call :: ·) (ih _)

/-- The events of a builder are posted in the order in which they were built. Those that are stored
are stored in that order, as they were written, each once, and among them are all that a result of
success names. -/
theorem session_stored (hreads : Reads py callees) (gateway : Gateway) {builder : EventBuilder}
    {emissions : List EventBuilder.Emission} (htrace : (uuid py).Readable builder.traceId)
    (hdraws : ∀ emission ∈ emissions,
      (uuid py).Readable emission.draw.eventId ∧ (datetime py).Readable emission.draw.now)
    {calls : List Delivery} (hcalls : (calls.flatMap fun call => call.call.events).Sublist
      (builder.returned emissions)) (w : World) :
    ∃ stored, (afterAll py callees gateway w calls).events.rows = w.events.rows ++ stored ∧
      (stored.map EventRecord.rawEvent).Sublist (calls.flatMap fun call => call.call.sent) ∧
      (stored.map EventRecord.rawEvent).Pairwise EventBuilder.Precedes ∧
      ∀ id ∈ (results py callees gateway w calls).flatMap fun call => acknowledgedIds call.2,
        id ∈ stored.map EventRecord.eventId := by
  have hreadable : ∀ call ∈ calls, ∀ event ∈ call.call.events, event.Readable py :=
    fun call hcall event hevent => EventBuilder.readable_of_returned htrace hdraws event
      (hcalls.subset (List.mem_flatMap.mpr ⟨call, hcall, hevent⟩))
  obtain ⟨kept, hrows, hkept⟩ := results_kept hreads gateway hreadable w
  have hposted : ((results py callees gateway w calls).flatMap fun call => call.1.call.sent) =
      calls.flatMap fun call => call.call.sent := by
    rw [← List.flatMap_map Prod.fst fun call : Delivery => call.call.sent, map_fst_results]
  have hsublist := hposted ▸ rawEvents_sublist hkept
  have hwritten : (calls.flatMap fun call => call.call.sent).Sublist
      ((builder.returned emissions).map CanonicalEvent.dumped) := by
    have hmap : (calls.flatMap fun call => call.call.sent) =
        (calls.flatMap fun call => call.call.events).map CanonicalEvent.dumped :=
      List.map_flatMap.symm
    rw [hmap]
    exact hcalls.map CanonicalEvent.dumped
  have hordered : ((builder.returned emissions).map CanonicalEvent.dumped).Pairwise
      EventBuilder.Precedes :=
    List.pairwise_map.mpr (EventBuilder.returned_increasing emissions)
  exact ⟨kept.flatten, hrows, hsublist, hordered.sublist (hsublist.trans hwritten),
    (acknowledged_sublist hkept).subset⟩

def sampleEmissions : List EventBuilder.Emission :=
  [⟨EventBuilder.agentStarted noArguments, sampleDraw 1⟩,
    ⟨EventBuilder.agentCompleted noArguments, sampleDraw 2⟩]

/-- The session, in one batch. -/
def sampleBatch : Delivery :=
  {sampleDelivery 1 .answers with call := .emitBatch (sampleBuilder.returned sampleEmissions)}

theorem session_stored_sample :
    ∃ stored, (afterAll samplePydantic sampleWire roleGateway sampleWorld
        [sampleBatch]).events.rows = sampleWorld.events.rows ++ stored ∧
      (stored.map EventRecord.rawEvent).Sublist sampleBatch.call.sent ∧
      (stored.map EventRecord.rawEvent).Pairwise EventBuilder.Precedes ∧
      ∀ id ∈ (results samplePydantic sampleWire roleGateway sampleWorld [sampleBatch]).flatMap
          fun call => acknowledgedIds call.2, id ∈ stored.map EventRecord.eventId := by
  have htrace : (uuid samplePydantic).Readable sampleBuilder.traceId :=
    (sampleEvent_readable 1 (by decide)).traceId
  have hdraws : ∀ emission ∈ sampleEmissions, (uuid samplePydantic).Readable
      emission.draw.eventId ∧ (datetime samplePydantic).Readable emission.draw.now := by
    intro emission hemission
    simp only [sampleEmissions, List.mem_cons, List.not_mem_nil, or_false] at hemission
    rcases hemission with rfl | rfl
    · exact ⟨(sampleEvent_readable 1 (by decide)).eventId,
        (sampleEvent_readable 1 (by decide)).timestamp⟩
    · exact ⟨(sampleEvent_readable 2 (by decide)).eventId,
        (sampleEvent_readable 2 (by decide)).timestamp⟩
  have hcalls : ([sampleBatch].flatMap fun call => call.call.events).Sublist
      (sampleBuilder.returned sampleEmissions) := by
    rw [List.flatMap_singleton]
    exact List.Sublist.refl _
  have hsent : ([sampleBatch].flatMap fun call => call.call.sent) = sampleBatch.call.sent :=
    List.flatMap_singleton _ _
  exact hsent ▸ session_stored sample_reads roleGateway htrace hdraws hcalls sampleWorld

end Delivery
end Dox
