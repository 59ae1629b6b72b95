import DoxGovernance.Models
import DoxGovernance.Schemas.Shapes

/-!
# Which events the table of events can hold

Validation bounds a field and the table bounds a column, each by a number of its own. Every
bounded column but one repeats the bound of its field, or holds a text of a fixed set; the
schema version has a bound in the table only. The digest is there when it was supplied, and
else when the payload has a UTF-8 text.
-/

set_option autoImplicit false
set_option maxRecDepth 4096

namespace Dox
open Pattern

/-- The strings in the columns `String(n)` of the table of events, each with its `n`. -/
def EventRecord.boundedColumns (record : EventRecord) : List (String × Nat) :=
  [(record.sessionId, 255), (record.tenantId, 255), (record.agentId, 255),
    (record.agentVersion, 100), (record.eventType.value, 100), (record.environment.value, 50),
    (record.schemaVersion, 20)] ++ record.payloadHash.toList.map fun digest => (digest, 64)

/-- The record of the event is made, where its dump is, and none of its columns is too short. -/
def Persistable (sha256 : ByteArray → String) (event : CanonicalEvent) : Prop :=
  ∀ id now, ∃ record, EventRecord.ofDump sha256 id now event (.ok event) = .ok record ∧
    ∀ column ∈ record.boundedColumns, column.1.length ≤ column.2

section Digests
variable {s : String}

theorem length_ofText : (Str.ofText s).length = s.length := by
  rw [Str.ofText, List.length_map, String.length_toList]

theorem getLast?_ofText (h : (Str.ofText s).getLast? = some 10) :
    ∃ c, s.toList.getLast? = some c ∧ isSpace c = true := by
  rw [Str.ofText, List.getLast?_map, Option.map_eq_some_iff] at h
  obtain ⟨c, hlast, hc⟩ := h
  have hlt : c.toNat < 1114112 := by
    have hvalid := c.valid
    unfold UInt32.isValidChar Nat.isValidChar at hvalid
    have hnat : c.toNat = c.val.toNat := rfl
    omega
  have hval : c.toNat % 1114112 = 10 := congrArg Fin.val hc
  rw [Nat.mod_eq_of_lt hlt] at hval
  refine ⟨c, hlast, ?_⟩
  rw [isSpace, hval]
  rfl

/-- A supplied digest is stripped, so it has no final newline. -/
theorem length_of_isHash (h : isHash s = true) : s.length = 64 := by
  rw [isHash, Bool.and_eq_true] at h
  obtain ⟨hstripped, hok⟩ := h
  have hmatch : fullMatch sha256Re (Str.ofText s) = true := (isOk_ite _).symm.trans hok
  obtain ⟨t, e, hs, ht, rfl | rfl⟩ := fullMatch_iff.mp hmatch
  · rw [← length_ofText, hs, List.append_nil]
    exact (matches_sha256Re.mp ht).1
  · have hlast : (Str.ofText s).getLast? = some 10 := by
      rw [hs, List.getLast?_concat]
    obtain ⟨c, hc, hspace⟩ := getLast?_ofText hlast
    rw [isStripped, hc, Option.all_some, Bool.and_eq_true, hspace] at hstripped
    cases hstripped.2

end Digests

section Columns
variable {sha256 : ByteArray → String} {event : CanonicalEvent}

theorem fits_length {low high : Nat} {s : String} (h : fits low high s = true) :
    s.length ≤ high := by
  simp only [fits, Bool.and_eq_true, decide_eq_true_iff] at h
  exact h.2

theorem eventType_length (eventType : EventType) : eventType.value.length ≤ 100 := by
  cases eventType <;> decide

theorem environment_length (environment : Environment) : environment.value.length ≤ 50 := by
  cases environment <;> decide

theorem storedHash_length (hsha : ∀ bytes, (sha256 bytes).length = 64) {digest : String}
    (h : storedHash sha256 event = .ok digest) : digest.length = 64 := by
  cases hsupplied : event.payloadHash with
  | some supplied =>
    rw [storedHash_of_supplied sha256 hsupplied] at h
    cases h
    have hok := event.payloadHashOk
    rw [hsupplied, Option.all_some] at hok
    exact length_of_isHash hok
  | none =>
    rw [storedHash_of_none sha256 hsupplied, computePayloadHash] at h
    split at h
    · cases h
    · cases h
      exact hsha _

/-- The columns of the record of an event hold what validation lets through, save that only the
table bounds the schema version. -/
theorem boundedColumns_fit_iff (hsha : ∀ bytes, (sha256 bytes).length = 64) {id : Uuid}
    {now : Datetime} {record : EventRecord}
    (h : EventRecord.ofDump sha256 id now event (.ok event) = .ok record) :
    (∀ column ∈ record.boundedColumns, column.1.length ≤ column.2) ↔
      event.schemaVersion.length ≤ 20 := by
  have hrecord := (ofDump_ok h).1
  obtain ⟨digest, hdigest, hstored⟩ := hrecord.payloadHash
  have hlength := storedHash_length hsha hdigest
  constructor
  · intro hfit
    rw [← hrecord.schemaVersion]
    refine hfit (record.schemaVersion, 20) (List.mem_append_left _ ?_)
    simp
  · intro hversion column hcolumn
    rw [EventRecord.boundedColumns, hstored, Option.toList_some, List.map_singleton,
      hrecord.sessionId, hrecord.tenantId, hrecord.agentId, hrecord.agentVersion,
      hrecord.schemaVersion] at hcolumn
    simp only [List.cons_append, List.nil_append, List.mem_cons, List.not_mem_nil,
      or_false] at hcolumn
    rcases hcolumn with rfl | rfl | rfl | rfl | rfl | rfl | rfl | rfl
    · exact fits_length event.sessionIdFits
    · exact fits_length event.tenantIdFits
    · exact fits_length event.agentIdFits
    · exact fits_length event.agentVersionFits
    · exact eventType_length record.eventType
    · exact environment_length record.environment
    · exact hversion
    · exact hlength.le

end Columns

/-- An event that validation accepts can be stored, where it can be dumped, exactly when its schema
version has at most 20 characters and its digest is supplied or its payload holds no surrogate. -/
theorem persistable_iff {sha256 : ByteArray → String}
    (hsha : ∀ bytes, (sha256 bytes).length = 64) (event : CanonicalEvent) :
    Persistable sha256 event ↔ event.schemaVersion.length ≤ 20 ∧
      (event.payloadHash.isSome = true ∨ event.payload.json.hasSurrogate = false) := by
  have hhash : event.hashable = true ↔
      (event.payloadHash.isSome = true ∨ event.payload.json.hasSurrogate = false) := by
    rw [CanonicalEvent.hashable, Bool.or_eq_true, Bool.not_eq_true']
  rw [← hhash]
  constructor
  · intro h
    obtain ⟨record, hrecord, hfit⟩ := h 0 sampleNoon
    refine ⟨(boundedColumns_fit_iff hsha hrecord).mp hfit, ?_⟩
    refine (Bool.not_eq_false _).mp fun hnot => ?_
    rw [ofDump_raises sha256 0 sampleNoon hnot] at hrecord
    cases hrecord
  · rintro ⟨hversion, hhashable⟩ id now
    obtain ⟨record, hrecord⟩ := ofDump_of_hashable sha256 id now hhashable
    exact ⟨record, hrecord, (boundedColumns_fit_iff hsha hrecord).mpr hversion⟩

def samplePayload : Payload where
  members := [member "a" (.int 1), member "b" (.int 2)]

theorem longVersion_ok : (isStripped "1.0000000000000000000" &&
    (validateSchemaVersion (Str.ofText "1.0000000000000000000")).isOk) = true := by decide

theorem persistable_iff_sample :
    Persistable (fun _ => sampleDigest) {sampleEvent 1 .agentStarted with payload := samplePayload} :=
  (persistable_iff (fun _ => by decide) _).mpr ⟨by decide, Or.inr (by decide)⟩

/-- A version of 21 characters and a payload with a lone surrogate both pass validation. -/
theorem not_persistable :
    ¬Persistable (fun _ => sampleDigest) {sampleEvent 1 .agentStarted with
      schemaVersion := "1.0000000000000000000"
      schemaVersionOk := longVersion_ok} ∧
    ¬Persistable (fun _ => sampleDigest) {sampleEvent 1 .agentStarted with
      payload := loneSurrogate} := by
  constructor
  · intro h
    obtain ⟨record, hrecord, hfit⟩ := h 0 sampleNoon
    have hlength := (boundedColumns_fit_iff (fun _ => by decide) hrecord).mp hfit
    exact absurd hlength (by decide)
  · intro h
    obtain ⟨record, hrecord, -⟩ := h 0 sampleNoon
    cases hrecord

end Dox
