import DoxGovernance.Lib.Text
import DoxGovernance.Models

/-!
# Integrity of stored events

A record is verified by computing the digest of its payload anew and comparing it with the
digest that is stored; a report verifies the records of a list.
-/

set_option autoImplicit false

namespace Dox

inductive IntegrityStatus where
  | ok | hashMismatch | missingHash
deriving DecidableEq, Repr

def IntegrityStatus.value : IntegrityStatus → String
  | ok => "ok"
  | hashMismatch => "hash_mismatch"
  | missingHash => "missing_hash"

structure RecordIntegrity where
  recordId : String
  eventId : String
  status : IntegrityStatus
  storedHash : Option String
  computedHash : String

structure IntegrityReport where
  tenantId : String
  totalChecked : Nat
  passed : Nat
  failed : Nat
  records : List RecordIntegrity

def IntegrityReport.isClean (report : IntegrityReport) : Bool := report.failed = 0

variable (sha256 : ByteArray → String)

def integrityStatus (stored : Option String) (computed : String) : IntegrityStatus :=
  match stored with
  | none => .missingHash
  | some digest => if digest = computed then .ok else .hashMismatch

def checkRecord (record : EventRecord) : Except Exc RecordIntegrity :=
  (computePayloadHash pyFloat sha256 record.payload.json).map fun computed =>
    { recordId := Text.uuid record.id
      eventId := Text.uuid record.eventId
      status := integrityStatus record.payloadHash computed
      storedHash := record.payloadHash
      computedHash := computed }

def verifyTenantIntegrity (records : List EventRecord) : Except Exc IntegrityReport :=
  (records.mapM (checkRecord sha256)).map fun checked =>
    let passed := checked.countP (·.status = .ok)
    { tenantId := (records.head?.map EventRecord.tenantId).getD ""
      totalChecked := checked.length
      passed := passed
      failed := checked.length - passed
      records := checked }

/-! ### The verdict on a record -/

variable {sha256} (record : EventRecord)

/-- A payload with a lone surrogate has no UTF-8 text to hash. -/
theorem checkRecord_raises (h : record.payload.json.hasSurrogate = true) :
    checkRecord sha256 record = .error .unicodeEncodeError := by
  rw [checkRecord, computePayloadHash_raises pyFloat sha256 h, Except.map]

/-- With a stored digest, the verdict says whether the payload still has it. -/
theorem checkRecord_verdict {digest : String} (hdigest : record.payloadHash = some digest)
    (h : record.payload.json.hasSurrogate = false) :
    ∃ result, checkRecord sha256 record = .ok result ∧
      (computePayloadHash pyFloat sha256 record.payload.json = .ok digest → result.status = .ok) ∧
      (computePayloadHash pyFloat sha256 record.payload.json ≠ .ok digest →
        result.status = .hashMismatch) := by
  obtain ⟨bytes, _, hcomputed⟩ := computePayloadHash_ok pyFloat sha256 h
  rw [checkRecord, hcomputed, hdigest]
  refine ⟨_, rfl, fun heq => ?_, fun hne => ?_⟩
  · exact if_pos (Except.ok.inj heq).symm
  · exact if_neg fun heq => hne (congrArg Except.ok heq.symm)

/-- When every element is mapped, the results are collected in order. -/
theorem mapM_ok {ε α β : Type} {f : α → Except ε β} {as : List α}
    (h : ∀ a ∈ as, ∃ b, f a = .ok b) :
    ∃ bs, as.mapM f = .ok bs ∧ List.Forall₂ (fun a b => f a = .ok b) as bs := by
  induction as with
  | nil => exact ⟨[], rfl, .nil⟩
  | cons a as ih =>
    obtain ⟨b, hb⟩ := h a List.mem_cons_self
    obtain ⟨bs, hbs, hall⟩ := ih fun a' ha' => h a' (List.mem_cons_of_mem a ha')
    refine ⟨b :: bs, ?_, .cons hb hall⟩
    rw [List.mapM_cons, hb, hbs]
    rfl

/-- Whatever a fallible map collects comes from some element of the list. -/
theorem exists_of_mem_mapM {ε α β : Type} {f : α → Except ε β} {as : List α} {bs : List β}
    (h : as.mapM f = .ok bs) {b : β} (hb : b ∈ bs) : ∃ a ∈ as, f a = .ok b := by
  induction as generalizing bs with
  | nil =>
    cases h
    exact absurd hb List.not_mem_nil
  | cons a as ih =>
    rw [List.mapM_cons] at h
    cases ha : f a with
    | error e => rw [ha] at h; cases h
    | ok b' =>
      cases has : as.mapM f with
      | error e => rw [ha, has] at h; cases h
      | ok bs' =>
        rw [ha, has] at h
        cases h
        rcases List.mem_cons.mp hb with rfl | hb
        · exact ⟨a, List.mem_cons_self, ha⟩
        · obtain ⟨a', ha', hfa'⟩ := ih has hb
          exact ⟨a', List.mem_cons_of_mem a ha', hfa'⟩

/-- Every verdict of a report is about one of the records. -/
theorem checkRecord_of_verdict {records : List EventRecord} {report : IntegrityReport}
    (h : verifyTenantIntegrity sha256 records = .ok report) {verdict : RecordIntegrity}
    (hverdict : verdict ∈ report.records) :
    ∃ record ∈ records, checkRecord sha256 record = .ok verdict := by
  unfold verifyTenantIntegrity at h
  cases hchecked : records.mapM (checkRecord sha256) with
  | error e => rw [hchecked] at h; cases h
  | ok checked =>
    rw [hchecked] at h
    cases h
    exact exists_of_mem_mapM hchecked hverdict

end Dox
