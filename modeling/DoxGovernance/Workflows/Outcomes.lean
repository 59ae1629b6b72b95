import DoxGovernance.Workflows.ResponseAction

/-!
# What an automated response reports

Every node of the sentinel-response graph can fail after earlier ones have written the state.
The flag `resolved` is still what was committed, and so is the audit entry: the nodes that look
for a policy and that resolve overwrite whatever they find in the fields they report.
-/

set_option autoImplicit false

namespace Dox
namespace SentinelResponse

/-- The resolution was committed with the action that the state holds, or nothing was. -/
def Settled (w : World) (id : Uuid) (s : State) (w' : World) : Prop :=
  (∃ action : InterventionAction, s.resolved = true ∧ s.actionTaken = some action.value ∧
    w' = SentinelService.resolve id action w) ∨ s.resolved = false ∧ w' = w

/-- What holds before each node. -/
def Reached (w : World) (id : Uuid) (v : Node) (s : State) (w' : World) : Prop :=
  s.alertId = id ∧
    match v with
    | .loadAlert | .resolveWithDefault => w' = w
    | .findPolicy => w' = w ∧ ∃ sentinelType : SentinelType, s.alertType = some sentinelType.value
    | .executeAction => w' = w ∧ ∃ action : InterventionAction, s.actionTaken = some action.value
    | .recordOutcome => Settled w id s w'

/-- The entry of the settled outcome was recorded, or the record failed. -/
def Recorded (faults : Faults) (w : World) (id : Uuid) (s : State) (w' : World) : Prop :=
  ∃ settled w₁, settled.alertId = id ∧ Settled w id settled w₁ ∧ s.resolved = settled.resolved ∧
    match faults.record with
    | none => ∃ entries, w' = {w₁ with auditEntries := entries} ∧
      entries.rows = w₁.auditEntries.rows ++
        [AuditService.newEntry w₁.clock (outcomeEntry settled) w₁.auditEntries.next]
    | some _ => w' = w₁

section Nodes
variable {faults : Faults} {scan : Scan Policy} {w : World} {s : State} {alert : SentinelAlert}
  {message : String}

theorem findPolicy_failed (w : World) (scan : Scan Policy) (s : State)
    (hlist : faults.listPolicies = some message) :
    findPolicy faults scan s w = (.ok {s with
      error := some message, matchedPolicyId := none, actionTaken := none}, w) := by
  apply attempt_outage
  rw [hlist, failing_some]
  rfl

theorem executeAction_failed {action : InterventionAction}
    (hresolve : faults.resolveAlert = some message) (haction : s.actionTaken = some action.value) :
    executeAction faults s w = (.ok {s with resolved := false, error := some message}, w) := by
  apply attempt_outage
  rw [Effect.bind_ok (parse_action w haction), hresolve, failing_some]
  rfl

theorem resolveWithDefault_failed (hresolve : faults.resolveAlert = some message) :
    resolveWithDefault faults s w = (.ok {s with resolved := false, error := some message}, w) := by
  apply attempt_outage
  rw [hresolve, failing_some]
  rfl

theorem recordOutcome_failed (hrecord : faults.record = some message) :
    recordOutcome faults s w = (.ok {s with error := some message}, w) := by
  apply attempt_outage
  rw [hrecord, failing_some]
  rfl

end Nodes

section Run
variable {faults : Faults} {scan : Scan Policy} {w w' : World} {s : State} {alert : SentinelAlert}
  {id : Uuid}

/-- Whatever comes of the search, what it leaves is enough for the branch that follows. -/
theorem findPolicy_reaches (faults : Faults) (scan : Scan Policy) {sentinelType : SentinelType}
    (htype : s.alertType = some sentinelType.value) :
    (graph faults scan).Discharges rank (Reached w s.alertId) (Recorded faults w s.alertId)
      .findPolicy s w := by
  cases hlist : faults.listPolicies with
  | some message =>
    exact ⟨_, _, findPolicy_failed w scan s hlist, Or.inr ⟨.resolveWithDefault, rfl, by decide,
      rfl, rfl⟩⟩
  | none =>
    have hrun := findPolicy_run faults w scan hlist htype
    cases hmatching : matching w scan s.tenantId sentinelType with
    | nil =>
      rw [hmatching] at hrun
      exact ⟨_, _, hrun, Or.inr ⟨.resolveWithDefault, rfl, by decide, rfl, rfl⟩⟩
    | cons p ps =>
      rw [hmatching] at hrun
      refine ⟨_, _, hrun, Or.inr ⟨.executeAction, ?_, by decide, rfl, rfl, p.action, rfl⟩⟩
      exact if_pos (truthy_some (Text.uuid_ne_empty p.id))

theorem node_reaches (hget : faults.getAlert = none) (hfind : w.alerts.find? id = some alert)
    {v : Node} (h : Reached w id v s w') :
    (graph faults scan).Discharges rank (Reached w id) (Recorded faults w id) v s w' := by
  obtain ⟨rfl, h⟩ := h
  cases v with
  | loadAlert =>
    subst h
    exact ⟨_, _, loadAlert_run hget hfind, Or.inr ⟨.findPolicy, rfl, by decide, rfl, rfl,
      alert.sentinelType, rfl⟩⟩
  | findPolicy =>
    obtain ⟨rfl, sentinelType, htype⟩ := h
    exact findPolicy_reaches faults scan htype
  | executeAction =>
    obtain ⟨rfl, action, haction⟩ := h
    cases hresolve : faults.resolveAlert with
    | none => exact ⟨_, _, executeAction_run hresolve hfind haction, Or.inr ⟨.recordOutcome, rfl,
        by decide, rfl, Or.inl ⟨action, rfl, haction, rfl⟩⟩⟩
    | some message => exact ⟨_, _, executeAction_failed hresolve haction, Or.inr ⟨.recordOutcome,
        rfl, by decide, rfl, Or.inr ⟨rfl, rfl⟩⟩⟩
  | resolveWithDefault =>
    subst h
    cases hresolve : faults.resolveAlert with
    | none => exact ⟨_, _, resolveWithDefault_run hresolve hfind, Or.inr ⟨.recordOutcome, rfl,
        by decide, rfl, Or.inl ⟨.warn, rfl, rfl, rfl⟩⟩⟩
    | some message => exact ⟨_, _, resolveWithDefault_failed hresolve, Or.inr ⟨.recordOutcome,
        rfl, by decide, rfl, Or.inr ⟨rfl, rfl⟩⟩⟩
  | recordOutcome =>
    cases hrecord : faults.record with
    | none =>
      obtain ⟨auditEntryId, entries, hrun, hrows⟩ := recordOutcome_run faults w' s hrecord
      refine ⟨_, _, hrun, Or.inl ⟨rfl, s, w', rfl, h, rfl, ?_⟩⟩
      rw [hrecord]
      exact ⟨entries, rfl, hrows⟩
    | some message =>
      refine ⟨_, _, recordOutcome_failed hrecord, Or.inl ⟨rfl, s, w', rfl, h, rfl, ?_⟩⟩
      rw [hrecord]

theorem ainvoke_records (scan : Scan Policy) (s : State) (hget : faults.getAlert = none)
    (hfind : w.alerts.find? s.alertId = some alert) :
    ∃ final w', ainvoke (graph faults scan) s w = (.ok final, w') ∧
      Recorded faults w s.alertId final w' := by
  have hrank : rank (graph faults scan).start < 25 := (by decide : 3 < 25)
  exact StateGraph.run_ends (A := Reached w s.alertId)
    (fun v s w' h => node_reaches hget hfind h) hrank ⟨rfl, rfl⟩

end Run

/-- The run committed a resolution of the alert, with this action. -/
def Commits (w : World) (id : Uuid) (action : InterventionAction) (w' : World) : Prop :=
  w'.resolutions = w.resolutions ++ [⟨id, action⟩]

/-- What a run says about an alert is what it has done to it. -/
structure Truthful (faults : Faults) (w : World) (id : Uuid) (alert : SentinelAlert) (final : State)
    (w' : World) : Prop where
  resolved : final.resolved = true ↔ ∃ action, Commits w id action w'
  stored : ∀ action, Commits w id action w' →
    w'.alerts.find? id = some (SentinelService.resolved w.clock action alert)
  untouched : final.resolved = false → w'.alerts.find? id = some alert
  audited : faults.record = none → ∃ entry, w'.auditEntries.rows = w.auditEntries.rows ++ [entry] ∧
    entry.resourceId = Text.uuid id ∧
    member "resolved" (.bool final.resolved) ∈ entry.extra.members ∧
    ∀ action, Commits w id action w' →
      member "action_taken" (textValue action.value) ∈ entry.extra.members

section Truth
variable {faults : Faults} {w w₁ w' : World} {id : Uuid} {alert : SentinelAlert} {s final : State}

theorem outcomeEntry_extra (s : State) :
    member "resolved" (.bool s.resolved) ∈ (outcomeEntry s).extra.members ∧
    member "action_taken" (Scalar.ofText? s.actionTaken).value ∈ (outcomeEntry s).extra.members :=
  ⟨.tail _ (.tail _ (.tail _ (.tail _ (.head _)))), .tail _ (.tail _ (.tail _ (.head _)))⟩

theorem Settled.commits_iff (h : Settled w id s w₁) {action : InterventionAction} :
    Commits w id action w₁ ↔ s.resolved = true ∧ s.actionTaken = some action.value := by
  rcases h with ⟨stored, hresolved, htaken, rfl⟩ | ⟨hresolved, rfl⟩
  · rw [and_iff_right hresolved, htaken, Option.some_inj]
    have hcommits : Commits w id action (SentinelService.resolve id stored w) ↔ stored = action := by
      simp [Commits, SentinelService.resolve]
    rw [hcommits]
    refine ⟨congrArg _, fun hvalue => ?_⟩
    rw [← Option.some_inj, ← stored.ofValue?_value, hvalue, action.ofValue?_value]
  · simp [Commits, hresolved]

theorem Settled.eq_resolve (h : Settled w id s w₁) {action : InterventionAction}
    (hcommits : Commits w id action w₁) : w₁ = SentinelService.resolve id action w := by
  rcases h with ⟨stored, -, -, rfl⟩ | ⟨-, rfl⟩
  · have hsame : stored = action := by simpa [Commits, SentinelService.resolve] using hcommits
    rw [hsame]
  · simp [Commits] at hcommits

/-- A settled alert is told truthfully, before the entry is recorded and after. -/
theorem truthful_of_settled (hfind : w.alerts.find? id = some alert) (hid : s.alertId = id)
    (h : Settled w id s w₁) (hresolved : final.resolved = s.resolved)
    (halerts : w'.alerts = w₁.alerts) (hresolutions : w'.resolutions = w₁.resolutions)
    (haudit : faults.record = none → w'.auditEntries.rows = w.auditEntries.rows ++
      [AuditService.newEntry w.clock (outcomeEntry s) w.auditEntries.next]) :
    Truthful faults w id alert final w' := by
  have hcommits : ∀ action, Commits w id action w' ↔
      s.resolved = true ∧ s.actionTaken = some action.value := by
    intro action
    rw [← h.commits_iff, Commits, Commits, hresolutions]
  refine ⟨?_, fun action hcommit => ?_, fun hfalse => ?_, fun hrecord => ?_⟩
  · rw [hresolved]
    constructor
    · intro htrue
      rcases h with ⟨action, -, htaken, -⟩ | ⟨hfalse, -⟩
      · exact ⟨action, (hcommits action).mpr ⟨htrue, htaken⟩⟩
      · exact absurd (htrue.symm.trans hfalse) (by decide)
    · rintro ⟨action, hcommit⟩
      exact ((hcommits action).mp hcommit).1
  · rw [halerts, h.eq_resolve (h.commits_iff.mpr ((hcommits action).mp hcommit))]
    exact SentinelService.find?_resolve hfind action
  · rw [hresolved] at hfalse
    rcases h with ⟨action, htrue, -⟩ | ⟨-, rfl⟩
    · exact absurd (htrue.symm.trans hfalse) (by decide)
    · rwa [halerts]
  · obtain ⟨hentry, htaken⟩ := outcomeEntry_extra s
    refine ⟨_, haudit hrecord, congrArg Text.uuid hid, ?_, fun action hcommit => ?_⟩
    · rwa [hresolved]
    · rwa [((hcommits action).mp hcommit).2] at htaken

theorem truthful_of_recorded (hfind : w.alerts.find? id = some alert)
    (h : Recorded faults w id final w') : Truthful faults w id alert final w' := by
  obtain ⟨s, w₁, hid, hsettled, hresolved, hrecorded⟩ := h
  have hbefore : w₁.clock = w.clock ∧ w₁.auditEntries = w.auditEntries := by
    rcases hsettled with ⟨action, -, -, rfl⟩ | ⟨-, rfl⟩
    · exact ⟨rfl, rfl⟩
    · exact ⟨rfl, rfl⟩
  cases hrecord : faults.record with
  | none =>
    rw [hrecord, hbefore.1, hbefore.2] at hrecorded
    obtain ⟨entries, rfl, hrows⟩ := hrecorded
    exact truthful_of_settled hfind hid hsettled hresolved rfl rfl fun _ => hrows
  | some message =>
    rw [hrecord] at hrecorded
    subst hrecorded
    apply truthful_of_settled hfind hid hsettled hresolved rfl rfl
    rw [hrecord]
    exact fun h => absurd h (Option.some_ne_none message)

end Truth

/-- Whatever the policies, the state at the start and the failures of the calls after the alert
was loaded, the run ends and tells what it has done. -/
theorem response_truthful (faults : Faults) (scan : Scan Policy) (w : World) (s : State)
    (alert : SentinelAlert) (hget : faults.getAlert = none)
    (hfind : w.alerts.find? s.alertId = some alert) :
    ∃ final w', ainvoke (graph faults scan) s w = (.ok final, w') ∧
      Truthful faults w s.alertId alert final w' := by
  obtain ⟨final, w', hrun, hrecorded⟩ := ainvoke_records scan s hget hfind
  exact ⟨final, w', hrun, truthful_of_recorded hfind hrecorded⟩

/-- The state claims at the start that the alert is resolved, and the resolution fails. -/
theorem response_truthful_sample :
    ∃ final w',
      ainvoke (graph {resolveAlert := some "connection lost"} .stored)
        {alertId := 0, tenantId := "acme", resolved := true}
        (twoPolicies (.low, .warn) (.medium, .pauseAgent)) = (.ok final, w') ∧
      Truthful {resolveAlert := some "connection lost"}
        (twoPolicies (.low, .warn) (.medium, .pauseAgent)) 0 sampleAlert final w' :=
  response_truthful {resolveAlert := some "connection lost"} .stored _
    {alertId := 0, tenantId := "acme", resolved := true} sampleAlert rfl rfl

end SentinelResponse
end Dox
