import DoxGovernance.Audit.Integrity
import DoxGovernance.Ingestion.Acceptance

/-!
# Verification of ingested events

What the integrity check says of the row of an ingested event, whatever payload the row
holds later. The row keeps the digest that the client supplied, so the check compares the
payload with that digest; without a supplied digest, or with the right one, it compares
it with the ingested payload up to the order of object keys.
-/

set_option autoImplicit false

namespace Dox
namespace IngestionService

def KeepsEvents (w w' : World) : Prop := w'.events = w.events

section Ingest
variable {self : IngestionService} {sha256 : ByteArray → String} {outage : Outage}

theorem keepsEvents_trans {a b c : World} (hab : KeepsEvents a b) (hbc : KeepsEvents b c) :
    KeepsEvents a c := Eq.trans hbc hab

/-- An ingested event is stored as the record that is returned. -/
theorem ingest_ok {event : CanonicalEvent} {w w' : World} {record : EventRecord}
    (h : self.ingest sha256 outage event w = (.ok record, w')) :
    record.Describes sha256 event ∧ record ∈ w'.events.rows := by
  have hsubmit : self.submit sha256 outage ⟨"events.ingested", 1,
      [("event_type", event.eventType.value)]⟩ [event] w = (.ok [record], w') := by
    rw [← ingest_eq_submit, Effect.bind_ok h]
    rfl
  rw [submit] at hsubmit
  by_cases hadmissible : self.Admissible w.clock.date w [event]
  · obtain ⟨w₁, records, haccept, hdescribes, hrows, -⟩ := accept_spec sha256 rfl hadmissible
    rw [Effect.bind_ok haccept] at hsubmit
    have hkeeps : KeepsEvents w₁ (self.announce outage ⟨"events.ingested", 1,
        [("event_type", event.eventType.value)]⟩ [event] w₁).2 :=
      announce_keeps @keepsEvents_trans (fun _ _ _ _ => rfl) outage _ [event] w₁
    cases hannounce : self.announce outage ⟨"events.ingested", 1,
        [("event_type", event.eventType.value)]⟩ [event] w₁ with
    | mk r w₂ =>
      rw [hannounce] at hkeeps
      cases r with
      | error e =>
        rw [Effect.bind_error hannounce] at hsubmit
        cases hsubmit
      | ok u =>
        rw [Effect.bind_ok hannounce, Effect.pure_run] at hsubmit
        cases hsubmit
        cases hdescribes with
        | cons hrecord _ =>
          refine ⟨hrecord, ?_⟩
          rw [hkeeps, hrows]
          exact List.mem_append_right _ (List.mem_singleton_self _)
  · obtain ⟨w₁, e, haccept, -⟩ := accept_refuses sha256 rfl hadmissible
    rw [Effect.bind_error haccept] at hsubmit
    cases hsubmit

end Ingest

/-- A digest that was computed for a payload is that of another exactly when they are equal up to
the order of keys. -/
theorem computed_eq_iff {sha256 : ByteArray → String} (hsha : Function.Injective sha256)
    {p q : Payload} {digest : String} (hp : computePayloadHash pyFloat sha256 p.json = .ok digest)
    (hq : q.json.hasSurrogate = false) :
    computePayloadHash pyFloat sha256 q.json = .ok digest ↔ Json.Reorder p.json q.json := by
  have hplain : p.json.hasSurrogate = false := by
    rw [← Bool.not_eq_true]
    intro hsurrogate
    rw [computePayloadHash_raises pyFloat sha256 hsurrogate] at hp
    cases hp
  rw [← hash_eq_iff_reorder hsha p.distinctKeys hplain hq, hp]
  exact eq_comm

/-- The row of an ingested event, with its payload replaced by any other: the check compares the
digest of that payload with the supplied digest, or with that of the ingested payload. -/
theorem check_ingested {sha256 : ByteArray → String} (hsha : Function.Injective sha256)
    (self : IngestionService) (outage : Outage) (event : CanonicalEvent) (w w' : World)
    (record : EventRecord) (hingest : self.ingest sha256 outage event w = (.ok record, w'))
    (p : Payload) :
    record ∈ w'.events.rows ∧ ∃ digest, record.payloadHash = some digest ∧
      (∀ supplied, event.payloadHash = some supplied → digest = supplied) ∧
      (event.payloadHash = none →
        computePayloadHash pyFloat sha256 event.payload.json = .ok digest) ∧
      (p.json.hasSurrogate = true →
        checkRecord sha256 {record with payload := p} = .error .unicodeEncodeError) ∧
      (p.json.hasSurrogate = false →
        ∃ result, checkRecord sha256 {record with payload := p} = .ok result ∧
          (computePayloadHash pyFloat sha256 p.json = .ok digest → result.status = .ok) ∧
          (computePayloadHash pyFloat sha256 p.json ≠ .ok digest →
            result.status = .hashMismatch) ∧
          (computePayloadHash pyFloat sha256 event.payload.json = .ok digest →
            (result.status = .ok ↔ Json.Reorder event.payload.json p.json))) := by
  obtain ⟨hdescribes, hstored⟩ := ingest_ok hingest
  obtain ⟨digest, hdigest, hrecord⟩ := hdescribes.payloadHash
  refine ⟨hstored, digest, hrecord, ?_, ?_, fun h => checkRecord_raises _ h, fun h => ?_⟩
  · intro supplied hsupplied
    rw [storedHash_of_supplied sha256 hsupplied] at hdigest
    exact (Except.ok.inj hdigest).symm
  · intro hnone
    rw [← storedHash_of_none sha256 hnone]
    exact hdigest
  · obtain ⟨result, hcheck, hok, hmismatch⟩ :=
      checkRecord_verdict {record with payload := p} hrecord h
    refine ⟨result, hcheck, hok, hmismatch, fun hcomputed => ?_⟩
    rw [← computed_eq_iff hsha hcomputed h]
    constructor
    · intro hstatus
      by_contra hne
      rw [hmismatch hne] at hstatus
      cases hstatus
    · exact hok

def attached : IngestionService := {sentinel := true, quota := true}

/-- `{"a": {"x": n, "y": [null]}, "b": 2}`. -/
def nestedPayload (n : Int) : Payload where
  members := [member "a" (.obj [member "x" (.int n), member "y" (.arr [.null])]),
    member "b" (.int 2)]
  distinct := by
    have hclosed : (Json.obj [member "a" (Json.obj [member "x" (.int 0),
      member "y" (.arr [.null])]), member "b" (.int 2)] : Value).distinctKeys = true := by decide
    exact hclosed

/-- The payload with the keys of both objects swapped. -/
def swappedPayload : Payload where
  members := [member "b" (.int 2),
    member "a" (.obj [member "y" (.arr [.null]), member "x" (.int 1)])]

theorem reorder_swapped : Json.Reorder (nestedPayload 1).json swappedPayload.json := by
  have hinner : Json.Reorder (.obj [member "x" (.int 1), member "y" (.arr [.null])] : Value)
      (.obj [member "y" (.arr [.null]), member "x" (.int 1)]) := .members (.swap _ _ _)
  exact .trans (.value [] [member "b" (.int 2)] _ hinner) (.members (.swap _ _ _))

theorem check_ingested_sample :
    ∃ record w', attached.ingest sampleSha256 {}
        {sampleEvent 1 .agentStarted with payload := nestedPayload 1} sampleWorld =
          (.ok record, w') ∧ record ∈ w'.events.rows ∧
      (∃ result, checkRecord sampleSha256 {record with payload := swappedPayload} = .ok result ∧
        result.status = .ok) ∧
      (∃ result, checkRecord sampleSha256 {record with payload := nestedPayload 2} = .ok result ∧
        result.status = .hashMismatch) ∧
      checkRecord sampleSha256 {record with payload := loneSurrogate} =
        .error .unicodeEncodeError := by
  obtain ⟨record, w', hingest⟩ : ∃ record w', attached.ingest sampleSha256 {}
    {sampleEvent 1 .agentStarted with payload := nestedPayload 1} sampleWorld =
      (.ok record, w') := ⟨_, _, rfl⟩
  have hcheck := check_ingested sampleSha256_injective attached {} _ sampleWorld w' record hingest
  obtain ⟨hstored, digest, hdigest, -, hcomputed, -, hplain⟩ := hcheck swappedPayload
  obtain ⟨result, hresult, -, -, hreorder⟩ := hplain (by decide)
  obtain ⟨-, digest', hdigest', -, -, -, hchanged⟩ := hcheck (nestedPayload 2)
  obtain ⟨result', hresult', -, hmismatch, -⟩ := hchanged (by decide)
  obtain ⟨-, -, -, -, -, hraises, -⟩ := hcheck loneSurrogate
  have hsame : digest' = digest := Option.some.inj (hdigest'.symm.trans hdigest)
  refine ⟨record, w', hingest, hstored, ⟨result, hresult, ?_⟩, ⟨result', hresult', ?_⟩,
    hraises (by decide)⟩
  · exact (hreorder (hcomputed rfl)).mpr reorder_swapped
  · apply hmismatch
    rw [hsame, ← hcomputed rfl]
    decide +kernel

/-- An event whose client supplies a digest that is not that of its payload. -/
def misdigested : CanonicalEvent :=
  {sampleEvent 1 .agentStarted with
    payloadHash := some "0000000000000000000000000000000000000000000000000000000000000000"
    payloadHashOk := by decide}

/-- It is ingested, and its untouched row is reported as a mismatch. -/
theorem mismatch_of_misdigested :
    ∃ record w' result,
      attached.ingest sampleSha256 {} misdigested sampleWorld = (.ok record, w') ∧
      record ∈ w'.events.rows ∧ record.payload = misdigested.payload ∧
      checkRecord sampleSha256 record = .ok result ∧ result.status = .hashMismatch := by
  obtain ⟨record, w', hingest⟩ : ∃ record w', attached.ingest sampleSha256 {} misdigested
    sampleWorld = (.ok record, w') := ⟨_, _, rfl⟩
  obtain ⟨hdescribes, hstored⟩ := ingest_ok hingest
  obtain ⟨digest, hdigest, hrecord⟩ := hdescribes.payloadHash
  rw [storedHash_of_supplied sampleSha256 (show misdigested.payloadHash = some _ from rfl)] at hdigest
  have hplain : record.payload.json.hasSurrogate = false := by
    rw [hdescribes.payload]
    rfl
  obtain ⟨result, hcheck, -, hmismatch⟩ := checkRecord_verdict record hrecord hplain
  refine ⟨record, w', result, hingest, hstored, hdescribes.payload, hcheck, hmismatch ?_⟩
  rw [hdescribes.payload, ← hdigest]
  decide

end IngestionService
end Dox
