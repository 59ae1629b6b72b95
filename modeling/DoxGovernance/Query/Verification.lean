import DoxGovernance.Query.Router

/-!
# What an integrity report covers

The integrity endpoint examines the oldest records of a tenant, as many as the limit of the call
says and at most ten thousand. A record among them that fails its check is listed by some call,
when the records before it have payloads that can be hashed. A record beyond them is examined
by no call, and every report can be clean while it fails.
-/

set_option autoImplicit false

namespace Dox
namespace QueryRequest

/-- The records of a tenant in the order in which the endpoint examines them. -/
def examined (scan : Scan EventRecord) (w : World) (tenantId : String) : List EventRecord :=
  orderByAsc (·.timestamp) (w.events.select scan fun r => r.tenantId = tenantId)

/-- Some admissible call returns a report that is not clean and lists the verdict. -/
def Lists (sha256 : ByteArray → String) (scan : Scan EventRecord) (w : World) (tenantId : String)
    (verdict : RecordIntegrity) : Prop :=
  ∃ query report, handle sha256 scan (.verifyIntegrity tenantId query) w =
      (.ok (.integrity report), w) ∧
    report.isClean = false ∧ verdict ∈ report.records

section Checks
variable {sha256 : ByteArray → String} {scan : Scan EventRecord} {w : World} {tenantId : String}
  {records : List EventRecord} {record : EventRecord} {verdict : RecordIntegrity}

theorem checkRecord_total (sha256 : ByteArray → String)
    (h : record.payload.json.hasSurrogate = false) :
    ∃ verdict, checkRecord sha256 record = .ok verdict := by
  obtain ⟨bytes, -, hcomputed⟩ := computePayloadHash_ok pyFloat sha256 h
  rw [checkRecord, hcomputed]
  exact ⟨_, rfl⟩

theorem verify_ok (h : ∀ r ∈ records, ∃ verdict, checkRecord sha256 r = .ok verdict) :
    ∃ report, verifyTenantIntegrity sha256 records = .ok report ∧
      List.Forall₂ (fun r v => checkRecord sha256 r = .ok v) records report.records ∧
      (report.isClean = true ↔ ∀ v ∈ report.records, v.status = .ok) := by
  obtain ⟨verdicts, hmap, hall⟩ := mapM_ok h
  refine ⟨_, by rw [verifyTenantIntegrity, hmap]; rfl, hall, ?_⟩
  have hle : verdicts.countP (·.status = .ok) ≤ verdicts.length := List.countP_le_length
  have hiff : verdicts.countP (·.status = .ok) = verdicts.length ↔
      ∀ v ∈ verdicts, v.status = .ok := by
    simp [List.countP_eq_length]
  rw [IntegrityReport.isClean, decide_eq_true_iff, ← hiff]
  dsimp only
  omega

theorem handle_verify {query : PageQuery 10000} {report : IntegrityReport}
    (h : verifyTenantIntegrity sha256 ((examined scan w tenantId).take query.limit) = .ok report) :
    handle sha256 scan (.verifyIntegrity tenantId query) w = (.ok (.integrity report), w) := by
  apply Effect.bind_ok
  rw [EventQueryService.verifyIntegrity, Effect.bind_ok (Effect.gets_run _ w), page, List.drop_zero,
    ← examined, h]
  rfl

theorem exists_verdict {verdicts : List RecordIntegrity}
    (h : List.Forall₂ (fun r v => checkRecord sha256 r = .ok v) records verdicts)
    (hmem : record ∈ records) (hcheck : checkRecord sha256 record = .ok verdict) :
    verdict ∈ verdicts := by
  induction h with
  | nil => cases hmem
  | cons hfirst _ ih =>
    rcases List.mem_cons.mp hmem with rfl | hrest
    · rw [Except.ok.inj (hcheck.symm.trans hfirst)]
      exact List.mem_cons_self
    · exact List.mem_cons_of_mem _ (ih hrest)

end Checks

/-! ### A record beyond the limit -/

/-- A record with the digest of its payload. -/
def intactRecord (id : Uuid) : EventRecord :=
  {sampleRecord .modelCalled id with
    payloadHash := (computePayloadHash pyFloat sampleSha256 (∅ : Payload).json).toOption}

/-- A record of the next day whose digest is not that of its payload. -/
def tamperedRecord (id : Uuid) : EventRecord :=
  {sampleRecord .modelCalled id with payloadHash := some "", timestamp := sampleNextNoon}

/-- So many intact records, and a newer one that was tampered with. -/
def tamperedWorld (n : Nat) : World where
  clock := sampleNextNoon
  events := ⟨(List.range n).map intactRecord ++ [tamperedRecord n], by
    have hids : ((List.range n).map intactRecord ++ [tamperedRecord n]).map EventRecord.eventId =
        List.range (n + 1) := by
      rw [List.map_append, List.map_map, List.range_succ]
      exact congrArg (· ++ [n]) (List.map_id' _)
    rw [hids]
    exact List.nodup_range⟩

theorem intactRecord_passes (id : Uuid) :
    ∃ verdict, checkRecord sampleSha256 (intactRecord id) = .ok verdict ∧ verdict.status = .ok := by
  obtain ⟨bytes, -, hcomputed⟩ :=
    computePayloadHash_ok pyFloat sampleSha256 (by rfl : (∅ : Payload).json.hasSurrogate = false)
  have hdigest : (intactRecord id).payloadHash = some (sampleSha256 bytes) := by
    rw [intactRecord, hcomputed]
    rfl
  obtain ⟨verdict, hcheck, hok, -⟩ := checkRecord_verdict (intactRecord id) hdigest (by rfl)
  exact ⟨verdict, hcheck, hok hcomputed⟩

theorem sampleSha256_ne_empty (bytes : ByteArray) : sampleSha256 bytes ≠ "" := by
  unfold sampleSha256
  split
  · decide
  · intro h
    have hchars := congrArg String.toList h
    rw [String.toList_ofList] at hchars
    cases hchars

theorem tamperedRecord_fails (id : Uuid) : ∃ verdict,
    checkRecord sampleSha256 (tamperedRecord id) = .ok verdict ∧ verdict.status = .hashMismatch := by
  obtain ⟨bytes, -, hcomputed⟩ :=
    computePayloadHash_ok pyFloat sampleSha256 (by rfl : (∅ : Payload).json.hasSurrogate = false)
  have hdigest : (tamperedRecord id).payloadHash = some "" := rfl
  obtain ⟨verdict, hcheck, -, hfails⟩ := checkRecord_verdict (tamperedRecord id) hdigest (by rfl)
  refine ⟨verdict, hcheck, hfails fun h => sampleSha256_ne_empty bytes ?_⟩
  exact Except.ok.inj (hcomputed.symm.trans h)

section Tampered
variable {n : Nat} {scan : Scan EventRecord} {r : EventRecord}

theorem mem_tampered_rows : r ∈ (tamperedWorld n).events.rows ↔
    (∃ i < n, intactRecord i = r) ∨ r = tamperedRecord n := by
  change r ∈ (List.range n).map intactRecord ++ [tamperedRecord n] ↔ _
  rw [List.mem_append, List.mem_map, List.mem_singleton]
  simp only [List.mem_range]

theorem examined_perm (n : Nat) (scan : Scan EventRecord) :
    (examined scan (tamperedWorld n) "acme").Perm (tamperedWorld n).events.rows := by
  have hall : (tamperedWorld n).events.rows.filter (fun r => r.tenantId = "acme") =
      (tamperedWorld n).events.rows := by
    apply List.filter_eq_self.mpr
    intro r hr
    rcases mem_tampered_rows.mp hr with ⟨i, -, rfl⟩ | rfl <;> rfl
  have hselect := (tamperedWorld n).events.perm_select scan fun r => r.tenantId = "acme"
  rw [hall] at hselect
  exact (perm_orderByAsc _ _).trans hselect

/-- The newest record comes last, in whatever order the database reads. -/
theorem examined_tampered (n : Nat) (scan : Scan EventRecord) {before after : List EventRecord}
    (hsplit : examined scan (tamperedWorld n) "acme" = before ++ tamperedRecord n :: after) :
    after = [] := by
  have hperm := examined_perm n scan
  have hnodup : (examined scan (tamperedWorld n) "acme").Nodup :=
    hperm.nodup_iff.mpr (List.Nodup.of_map _ (tamperedWorld n).events.unique)
  have hsorted : (examined scan (tamperedWorld n) "acme").Pairwise
      fun a b => a.timestamp ≤ b.timestamp := pairwise_orderByAsc _ _
  rw [hsplit, List.nodup_append, List.nodup_cons] at hnodup
  rw [hsplit, List.pairwise_append, List.pairwise_cons] at hsorted
  apply List.eq_nil_iff_forall_not_mem.mpr
  intro r hr
  have hle : sampleNextNoon ≤ r.timestamp := hsorted.2.1.1 r hr
  have hmem : r ∈ examined scan (tamperedWorld n) "acme" := by
    rw [hsplit]
    exact List.mem_append_right _ (List.mem_cons_of_mem _ hr)
  rcases mem_tampered_rows.mp (hperm.mem_iff.mp hmem) with ⟨i, -, rfl⟩ | rfl
  · exact absurd hle (by decide : ¬sampleNextNoon ≤ sampleNoon)
  · exact hnodup.2.1.1 hr

theorem tampered_not_mem_take (n : Nat) (scan : Scan EventRecord) {limit : Nat} (h : limit ≤ n) :
    tamperedRecord n ∉ (examined scan (tamperedWorld n) "acme").take limit := by
  intro hmem
  obtain ⟨before, middle, hsplit⟩ := List.append_of_mem hmem
  have hwhole := List.take_append_drop limit (examined scan (tamperedWorld n) "acme")
  rw [hsplit, List.append_assoc, List.cons_append] at hwhole
  have hlast := examined_tampered n scan hwhole.symm
  have hlength := (examined_perm n scan).length_eq
  have htake := List.length_take_le limit (examined scan (tamperedWorld n) "acme")
  rw [← hwhole, hlast] at hlength
  rw [hsplit] at htake
  simp [tamperedWorld] at hlength htake
  omega

/-- Every report of at most `n` records is clean. -/
theorem tampered_report_clean (n : Nat) (scan : Scan EventRecord) {limit : Nat} (h : limit ≤ n) :
    ∃ report, verifyTenantIntegrity sampleSha256
        ((examined scan (tamperedWorld n) "acme").take limit) = .ok report ∧
      report.isClean = true := by
  have hintact : ∀ r ∈ (examined scan (tamperedWorld n) "acme").take limit,
      ∃ verdict, checkRecord sampleSha256 r = .ok verdict ∧ verdict.status = .ok := by
    intro r hr
    have hrow := (examined_perm n scan).mem_iff.mp (List.mem_of_mem_take hr)
    rcases mem_tampered_rows.mp hrow with ⟨i, -, rfl⟩ | rfl
    · exact intactRecord_passes i
    · exact absurd hr (tampered_not_mem_take n scan h)
  obtain ⟨report, hreport, -, hclean⟩ := verify_ok fun r hr =>
    (hintact r hr).imp fun _ hverdict => hverdict.1
  refine ⟨report, hreport, hclean.mpr fun verdict hverdict => ?_⟩
  obtain ⟨r, hr, hcheck⟩ := checkRecord_of_verdict hreport hverdict
  obtain ⟨verdict', hcheck', hok⟩ := hintact r hr
  rwa [Except.ok.inj (hcheck.symm.trans hcheck')]

theorem not_lists_tampered (hn : 10000 ≤ n) (verdict : RecordIntegrity) :
    ¬Lists sampleSha256 scan (tamperedWorld n) "acme" verdict := by
  rintro ⟨query, report, hrun, hunclean, -⟩
  obtain ⟨report', hreport', hclean⟩ :=
    tampered_report_clean n scan (query.limitBounds.2.trans hn)
  rw [handle_verify hreport'] at hrun
  cases hrun
  exact absurd (hclean.symm.trans hunclean) (by decide)

end Tampered

/-- A record that fails its check is listed, when fewer than ten thousand records of the tenant
come before it and all of them can be hashed. -/
theorem failing_record_listed (sha256 : ByteArray → String) (scan : Scan EventRecord) (w : World)
    (record : EventRecord) (before after : List EventRecord) (verdict : RecordIntegrity)
    (hsplit : examined scan w record.tenantId = before ++ record :: after)
    (hlength : before.length < 10000)
    (hplain : ∀ r ∈ before, r.payload.json.hasSurrogate = false)
    (hcheck : checkRecord sha256 record = .ok verdict) (hfails : verdict.status ≠ .ok) :
    Lists sha256 scan w record.tenantId verdict := by
  have htake : (examined scan w record.tenantId).take (before.length + 1) = before ++ [record] := by
    rw [hsplit, List.append_cons]
    exact List.take_left' List.length_append
  have htotal : ∀ r ∈ before ++ [record], ∃ verdict, checkRecord sha256 r = .ok verdict := by
    intro r hr
    rcases List.mem_append.mp hr with hbefore | hlast
    · exact checkRecord_total sha256 (hplain r hbefore)
    · rw [List.mem_singleton.mp hlast]
      exact ⟨verdict, hcheck⟩
  obtain ⟨report, hreport, hall, hclean⟩ := verify_ok htotal
  have hlisted : verdict ∈ report.records :=
    exists_verdict hall (List.mem_append_right _ (List.mem_singleton_self record)) hcheck
  refine ⟨⟨before.length + 1, 0, by omega, by omega⟩, report, ?_, ?_, hlisted⟩
  · apply handle_verify
    rw [htake, hreport]
  · rw [← Bool.not_eq_true, hclean]
    exact fun hall => hfails (hall verdict hlisted)

theorem failing_record_listed_sample : ∃ verdict, verdict.status = .hashMismatch ∧
    Lists sampleSha256 .stored (tamperedWorld 1) "acme" verdict := by
  obtain ⟨verdict, hcheck, hfails⟩ := tamperedRecord_fails 1
  refine ⟨verdict, hfails, ?_⟩
  exact failing_record_listed sampleSha256 .stored (tamperedWorld 1) (tamperedRecord 1)
    [intactRecord 0] [] verdict rfl (by decide) (by simp [intactRecord]; rfl) hcheck
    (by rw [hfails]; decide)

/-- Behind ten thousand intact records, the newest fails its check and no call lists it. -/
theorem newest_record_not_listed : ∃ verdict,
    tamperedRecord 10000 ∈ (tamperedWorld 10000).events.rows ∧
    checkRecord sampleSha256 (tamperedRecord 10000) = .ok verdict ∧
    verdict.status = .hashMismatch ∧
    ¬∃ scan, Lists sampleSha256 scan (tamperedWorld 10000) "acme" verdict := by
  obtain ⟨verdict, hcheck, hfails⟩ := tamperedRecord_fails 10000
  refine ⟨verdict, mem_tampered_rows.mpr (Or.inr rfl), hcheck, hfails, ?_⟩
  rintro ⟨scan, hlists⟩
  exact not_lists_tampered (le_refl 10000) verdict hlists

end QueryRequest
end Dox
