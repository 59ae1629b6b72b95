import DoxGovernance.Audit.Service
import DoxGovernance.Sentinel.Service
import DoxGovernance.Workflows.Invoke

/-!
# The human-review workflow

The graph loads an alert, records that a review is requested, and, when the state holds a
decision, resolves the alert and records the decision. Resolving and recording are two
commits inside one `try`, so a failure of the second is reported as a failure of both. The
run reports what it committed exactly when it does not end between the two.
-/

set_option autoImplicit false

namespace Dox
namespace HumanReview

/-- `alertMessage` is `none` where the key is absent, and `some none` where it holds `None`. -/
structure State where
  alertId : Uuid
  tenantId : String
  alertSeverity : Option String := none
  alertType : Option String := none
  alertMessage : Option (Option String) := none
  reviewerId : Option String := none
  decision : Option String := none
  notes : Option String := none
  auditEntryId : Option String := none
  resolved : Bool := false
  error : Option String := none

/-- The calls that fail, with the message of the exception. -/
structure Faults where
  getAlert : Option String := none
  recordRequest : Option String := none
  resolveAlert : Option String := none
  recordDecision : Option String := none

inductive Node where
  | loadAlert | requestReview | recordDecision
deriving DecidableEq

variable (faults : Faults)

def loadAlert (state : State) : Service State :=
  attempt (do
    let alert ← failing faults.getAlert (SentinelService.getAlert state.alertId)
    return {state with
      alertSeverity := some alert.severity.value
      alertType := some alert.sentinelType.value
      alertMessage := some (some alert.message)
      error := none})
  fun message => {state with error := some message}

def requestEntry (state : State) : AuditEntryCreate where
  tenantId := state.tenantId
  actorEmail := "system"
  action := "human_review_requested"
  resourceType := "sentinel_alert"
  resourceId := Text.uuid state.alertId
  summary := "Human review requested for alert " ++
    (Text.uuid state.alertId ++ (": " ++ (state.alertMessage.map (·.getD "None")).getD ""))
  extra := .ofScalars ["severity", "type", "reviewer_id"]
    [.ofText? state.alertSeverity, .ofText? state.alertType, .ofText? state.reviewerId]
  resourceTypeFits := sentinelAlert_fits
  resourceIdFits := uuid_fits state.alertId
  summaryNonempty := Text.append_ne_empty (by decide) _

def requestReview (state : State) : Service State :=
  attempt (do
    let entry ← failing faults.recordRequest (AuditService.record (requestEntry state))
    return {state with auditEntryId := some (Text.uuid entry.id)})
  fun message => {state with error := some message}

/-- `action_map.get(decision, InterventionAction.warn)`. -/
def actionOf (decision : String) : InterventionAction :=
  if decision = "approve" then .allow
  else if decision = "reject" then .blockToolCall
  else if decision = "escalate" then .requestHumanReview
  else .warn

def decisionEntry (state : State) (decision : String) (action : InterventionAction) :
    AuditEntryCreate where
  tenantId := state.tenantId
  actorEmail := orText state.reviewerId "system"
  action := "human_review_completed"
  resourceType := "sentinel_alert"
  resourceId := Text.uuid state.alertId
  summary := "Human review decision '" ++
    (decision ++ ("' recorded for alert " ++ Text.uuid state.alertId))
  extra := .ofScalars ["decision", "notes", "action_taken"]
    [.text decision, .ofText? state.notes, .text action.value]
  resourceTypeFits := sentinelAlert_fits
  resourceIdFits := uuid_fits state.alertId
  summaryNonempty := Text.append_ne_empty (by decide) _

def recordDecision (state : State) : Service State :=
  let decision := orText state.decision "reject"
  let action := actionOf decision
  attempt (do
    let _ ← failing faults.resolveAlert (SentinelService.resolveAlert state.alertId action)
    let _ ← failing faults.recordDecision (AuditService.record (decisionEntry state decision action))
    return {state with resolved := true, error := none})
  fun message => {state with resolved := false, error := some message}

/-- `build_human_review_graph`. -/
def graph : StateGraph Node State World Exc where
  start := .loadAlert
  node
    | .loadAlert => loadAlert faults
    | .requestReview => requestReview faults
    | .recordDecision => recordDecision faults
  next
    | .loadAlert, state => if truthy state.error then none else some .requestReview
    | .requestReview, state =>
      if truthy state.error then none
      else if truthy state.decision then some .recordDecision else none
    | .recordDecision, _ => none

def rank : Node → Nat
  | .loadAlert => 2
  | .requestReview => 1
  | .recordDecision => 0

/-! ### What a run commits -/

/-- The run committed a resolution of the alert. -/
def Resolved (w w' : World) (alertId : Uuid) : Prop :=
  ∃ r ∈ w'.resolutions.drop w.resolutions.length, r.alertId = alertId

/-- The run committed an entry on the completed review of the alert, with the action that is
stored on it. -/
def Audited (w w' : World) (alertId : Uuid) : Prop :=
  ∃ entry ∈ w'.auditEntries.rows.drop w.auditEntries.rows.length, ∃ alert action,
    w'.alerts.find? alertId = some alert ∧ alert.actionTaken = some action ∧
    entry.action = "human_review_completed" ∧ entry.resourceType = "sentinel_alert" ∧
    entry.resourceId = Text.uuid alertId ∧
    member "action_taken" (textValue action.value) ∈ entry.extra.members

/-- What is reported as resolved is what the run resolved, and no resolution is committed without
its entry. -/
def Faithful (w w' : World) (alertId : Uuid) (reported : Bool) : Prop :=
  (reported = true ↔ Resolved w w' alertId) ∧ (Resolved w w' alertId → Audited w w' alertId)

/-- The run gets to the decision: an exception whose text is empty does not stop it. -/
def Reaches (state : State) : Prop :=
  truthy faults.getAlert = false ∧ truthy faults.recordRequest = false ∧
    truthy state.decision = true

/-- The run resolves the alert and fails to record the decision. -/
def Strands (state : State) : Prop :=
  Reaches faults state ∧ faults.resolveAlert = none ∧ faults.recordDecision ≠ none

section Run
variable {faults} {alert : SentinelAlert} {w w' : World} {s s' state : State}

/-- What the nodes before the decision leave of the initial state. -/
structure Carries (state s : State) : Prop where
  alertId : s.alertId = state.alertId
  decision : s.decision = state.decision
  resolved : s.resolved = false

variable (faults) in
theorem loadAlert_run (hfind : w.alerts.find? state.alertId = some alert) (hs : Carries state s) :
    ∃ s', loadAlert faults s w = (.ok s', w) ∧ Carries state s' ∧
      truthy s'.error = truthy faults.getAlert := by
  cases hfault : faults.getAlert with
  | none =>
    rw [← hs.alertId] at hfind
    refine ⟨{s with
      alertSeverity := some alert.severity.value
      alertType := some alert.sentinelType.value
      alertMessage := some (some alert.message)
      error := none}, attempt_ok ?_, ⟨hs.alertId, hs.decision, hs.resolved⟩, rfl⟩
    rw [hfault, failing_none, Effect.bind_ok (SentinelService.getAlert_of_find hfind)]
    rfl
  | some message =>
    refine ⟨{s with error := some message}, attempt_outage ?_,
      ⟨hs.alertId, hs.decision, hs.resolved⟩, rfl⟩
    rw [hfault, failing_some]
    rfl

variable (faults) in
theorem requestReview_run (hs : Carries state s) (herror : truthy s.error = false) :
    ∃ s' entries new, requestReview faults s w = (.ok s', {w with auditEntries := entries}) ∧
      entries.rows = w.auditEntries.rows ++ new ∧ Carries state s' ∧
      truthy s'.error = truthy faults.recordRequest := by
  cases hfault : faults.recordRequest with
  | none =>
    refine ⟨{s with auditEntryId := some (Text.uuid w.auditEntries.next)},
      w.auditEntries.add (AuditService.newEntry w.clock (requestEntry s)) fun _ => rfl, _,
      attempt_ok ?_, Numbered.rows_add _ _ _, ⟨hs.alertId, hs.decision, hs.resolved⟩, herror⟩
    rw [hfault, failing_none]
    rfl
  | some message =>
    refine ⟨{s with error := some message}, w.auditEntries, [],
      attempt_outage ?_, (List.append_nil _).symm, ⟨hs.alertId, hs.decision, hs.resolved⟩, rfl⟩
    rw [hfault, failing_some]
    rfl

/-- A run that resolves nothing and reports nothing is faithful. -/
theorem faithful_of_untouched (h : w'.resolutions = w.resolutions) (id : Uuid) :
    Faithful w w' id false := by
  have hnone : ¬Resolved w w' id := by
    rintro ⟨r, hr, _⟩
    rw [h, List.drop_length] at hr
    cases hr
  exact ⟨iff_of_false Bool.false_ne_true hnone, fun hr => absurd hr hnone⟩

theorem resolved_of_append {action : InterventionAction} {id : Uuid}
    (h : w'.resolutions = w.resolutions ++ [⟨id, action⟩]) : Resolved w w' id := by
  refine ⟨⟨id, action⟩, ?_, rfl⟩
  rw [h, List.drop_left]
  exact List.mem_singleton_self _

section Decision
variable (hfind : w.alerts.find? s.alertId = some alert)

theorem recordDecision_refused {message : String} (hresolve : faults.resolveAlert = some message) :
    recordDecision faults s w = (.ok {s with resolved := false, error := some message}, w) := by
  rw [recordDecision]
  refine attempt_outage ?_
  rw [hresolve, failing_some]
  rfl

include hfind

/-- The resolution is committed, and the failure of the record hides it. -/
theorem recordDecision_stranded {message : String} (hresolve : faults.resolveAlert = none)
    (hrecord : faults.recordDecision = some message) :
    recordDecision faults s w = (.ok {s with resolved := false, error := some message},
      SentinelService.resolve s.alertId (actionOf (orText s.decision "reject")) w) := by
  rw [recordDecision]
  refine attempt_outage ?_
  rw [hresolve, failing_none, Effect.bind_ok (SentinelService.resolveAlert_of_find hfind _),
    hrecord, failing_some]
  rfl

theorem recordDecision_completed (hresolve : faults.resolveAlert = none)
    (hrecord : faults.recordDecision = none) :
    ∃ entries, recordDecision faults s w = (.ok {s with resolved := true, error := none},
        {SentinelService.resolve s.alertId (actionOf (orText s.decision "reject")) w with
          auditEntries := entries}) ∧
      entries.rows = w.auditEntries.rows ++ [AuditService.newEntry w.clock (decisionEntry s
        (orText s.decision "reject") (actionOf (orText s.decision "reject"))) w.auditEntries.next] := by
  refine ⟨w.auditEntries.add (AuditService.newEntry w.clock (decisionEntry s
    (orText s.decision "reject") (actionOf (orText s.decision "reject")))) fun _ => rfl, ?_,
    Numbered.rows_add _ _ _⟩
  rw [recordDecision]
  refine attempt_ok ?_
  rw [hresolve, failing_none, Effect.bind_ok (SentinelService.resolveAlert_of_find hfind _),
    hrecord, failing_none]
  rfl

end Decision

/-- A resolution followed by the entry of its decision. -/
theorem audited_of_append {entries : Numbered AuditEntry.id} {rows : List AuditEntry} {id : Uuid}
    {decision : String} {action : InterventionAction} (hid : s.alertId = id)
    (hfind : w'.alerts.find? id = some (SentinelService.resolved w.clock action alert))
    (hrows : w'.auditEntries.rows = w.auditEntries.rows ++
      (rows ++ [AuditService.newEntry w.clock (decisionEntry s decision action) entries.next])) :
    Audited w w' id := by
  refine ⟨AuditService.newEntry w.clock (decisionEntry s decision action) entries.next, ?_, _,
    action, hfind, rfl, rfl, rfl, ?_, .tail _ (.tail _ (.head _))⟩
  · rw [hrows, List.drop_left]
    exact List.mem_append_right _ (List.mem_singleton_self _)
  · rw [← hid]
    rfl

def Asserts (faults : Faults) (w : World) (state : State) (v : Node) (s : State) (w' : World) :
    Prop :=
  Carries state s ∧
    match v with
    | .loadAlert => w' = w
    | .requestReview => w' = w ∧ truthy s.error = false ∧ truthy faults.getAlert = false
    | .recordDecision => Reaches faults state ∧ ∃ entries new,
        entries.rows = w.auditEntries.rows ++ new ∧ w' = {w with auditEntries := entries}

/-- Where the run ends, it is faithful unless it is stranded. -/
def Ends (faults : Faults) (w : World) (state : State) (s : State) (w' : World) : Prop :=
  Faithful w w' state.alertId s.resolved ↔ ¬Strands faults state

theorem ends_early (hs : Carries state s) (h : w'.resolutions = w.resolutions)
    (hreaches : ¬Reaches faults state) : Ends faults w state s w' := by
  rw [Ends, hs.resolved]
  exact iff_of_true (faithful_of_untouched h _) fun hstrands => hreaches hstrands.1

theorem recordDecision_ends (hfind : w.alerts.find? state.alertId = some alert)
    (h : Asserts faults w state .recordDecision s w') :
    ∃ s' w'', recordDecision faults s w' = (.ok s', w'') ∧ Ends faults w state s' w'' := by
  obtain ⟨hs, hreaches, entries, new, hrows, rfl⟩ := h
  have hfind' : ({w with auditEntries := entries} : World).alerts.find? s.alertId = some alert := by
    rw [hs.alertId]
    exact hfind
  have hstored := SentinelService.find?_resolve hfind' (actionOf (orText s.decision "reject"))
  rw [hs.alertId] at hstored
  cases hresolve : faults.resolveAlert with
  | some message =>
    have huntouched : Faithful w {w with auditEntries := entries} state.alertId false :=
      faithful_of_untouched (by rfl) _
    refine ⟨_, _, recordDecision_refused hresolve, iff_of_true huntouched fun hstrands => ?_⟩
    rw [Strands, hresolve] at hstrands
    cases hstrands.2.1
  | none =>
    cases hrecord : faults.recordDecision with
    | some message =>
      refine ⟨_, _, recordDecision_stranded hfind' hresolve hrecord, ?_⟩
      have hcommitted : Resolved w (SentinelService.resolve s.alertId
          (actionOf (orText s.decision "reject")) {w with auditEntries := entries})
          state.alertId := by
        rw [hs.alertId]
        exact resolved_of_append rfl
      refine iff_of_false (fun hfaithful => ?_) fun hnot => hnot ⟨hreaches, hresolve, ?_⟩
      · exact Bool.false_ne_true (hfaithful.1.mpr hcommitted)
      · rw [hrecord]
        exact Option.some_ne_none message
    | none =>
      obtain ⟨entries', hrun, hrows'⟩ := recordDecision_completed hfind' hresolve hrecord
      refine ⟨_, _, hrun, ?_⟩
      rw [hrows, List.append_assoc] at hrows'
      rw [hs.alertId]
      have hcommitted : Resolved w {SentinelService.resolve state.alertId
          (actionOf (orText s.decision "reject")) {w with auditEntries := entries} with
            auditEntries := entries'} state.alertId := resolved_of_append rfl
      refine iff_of_true ⟨iff_of_true rfl hcommitted, fun _ => ?_⟩ fun hstrands => ?_
      · exact audited_of_append hs.alertId hstored hrows'
      · rw [Strands, hrecord] at hstrands
        exact hstrands.2.2 rfl

theorem node_discharges (hfind : w.alerts.find? state.alertId = some alert) {v : Node}
    (h : Asserts faults w state v s w') :
    (graph faults).Discharges rank (Asserts faults w state) (Ends faults w state) v s w' := by
  cases v with
  | loadAlert =>
    obtain ⟨hs, rfl⟩ := h
    obtain ⟨s', hrun, hs', herror⟩ := loadAlert_run faults hfind hs
    refine ⟨s', w', hrun, ?_⟩
    cases hload : truthy faults.getAlert with
    | false =>
      rw [hload] at herror
      exact Or.inr ⟨.requestReview, by simp [graph, herror], by decide, hs', rfl, herror, hload⟩
    | true =>
      refine Or.inl ⟨by simp [graph, herror, hload], ends_early hs' rfl fun hreaches => ?_⟩
      exact absurd (hreaches.1.symm.trans hload) Bool.false_ne_true
  | requestReview =>
    obtain ⟨hs, rfl, herror, hload⟩ := h
    obtain ⟨s', entries, new, hrun, hrows, hs', herror'⟩ :=
      requestReview_run faults (w := w') hs herror
    refine ⟨s', _, hrun, ?_⟩
    by_cases hreaches : Reaches faults state
    · refine Or.inr ⟨.recordDecision, ?_, by decide, hs', hreaches, entries, new, hrows, rfl⟩
      simp [graph, herror', hreaches.2.1, hs'.decision, hreaches.2.2]
    · refine Or.inl ⟨?_, ends_early hs' rfl hreaches⟩
      cases hrequest : truthy faults.recordRequest with
      | true => simp [graph, herror', hrequest]
      | false =>
        have hdecision : truthy state.decision = false := by
          rw [← Bool.not_eq_true]
          exact fun hdecision => hreaches ⟨hload, hrequest, hdecision⟩
        simp [graph, herror', hrequest, hs'.decision, hdecision]
  | recordDecision =>
    obtain ⟨s', w'', hrun, hends⟩ := recordDecision_ends hfind h
    exact ⟨s', w'', hrun, Or.inl ⟨rfl, hends⟩⟩

end Run

/-- For every alert, decision and pattern of failures, the run ends, and it is faithful exactly
when it does not resolve the alert and then fail to record the decision. -/
theorem faithful_iff (faults : Faults) (w : World) (alert : SentinelAlert) (state : State)
    (hfind : w.alerts.find? state.alertId = some alert) (hresolved : state.resolved = false) :
    ∃ final w', ainvoke (graph faults) state w = (.ok final, w') ∧
      (Faithful w w' state.alertId final.resolved ↔ ¬Strands faults state) := by
  have hrank : rank (graph faults).start < 25 := (by decide : 2 < 25)
  exact StateGraph.run_ends (A := Asserts faults w state) (fun v s w' h => node_discharges hfind h)
    hrank ⟨⟨rfl, rfl, hresolved⟩, rfl⟩

def oneAlert : World where
  clock := sampleNoon
  alerts := sampleAlerts

def approval : State := {alertId := 0, tenantId := "acme", decision := some "approve"}

theorem faithful_iff_sample :
    ∃ final w', ainvoke (graph {}) approval oneAlert = (.ok final, w') ∧
      (Faithful oneAlert w' 0 final.resolved ↔ ¬Strands {} approval) :=
  faithful_iff {} oneAlert sampleAlert approval rfl rfl

/-- The record of the decision fails: the alert is resolved in the database, the state says it is
not, and no entry of the completed review exists. -/
theorem unfaithful_when_record_fails :
    ∃ final w', ainvoke (graph {recordDecision := some "connection lost"}) approval oneAlert =
        (.ok final, w') ∧
      final.resolved = false ∧ Resolved oneAlert w' 0 ∧ ¬Audited oneAlert w' 0 := by
  refine ⟨_, _, rfl, rfl, ⟨⟨0, .allow⟩, .head _, rfl⟩, ?_⟩
  rintro ⟨entry, hentry, alert, action, -, -, haction, -⟩
  rcases hentry with _ | ⟨_, hnil⟩
  · exact absurd haction (by decide)
  · cases hnil

end HumanReview
end Dox
