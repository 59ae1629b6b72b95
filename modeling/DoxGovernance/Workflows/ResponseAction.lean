import DoxGovernance.Workflows.SentinelResponse

/-!
# The action of an automated response

Which action the graph resolves an alert with, when no call fails: that of the newest
active policy of the alert's type, whatever its severity, or `warn` when there is none.
The evaluator takes the highest-ranked action among the active policies whose severity is
not above the alert's. The two agree exactly when the newest policy's action is carried by
a matching policy and outranked by none.
-/

set_option autoImplicit false

namespace Dox
namespace SentinelResponse
open PolicyEvaluatorService (isCandidate winningAction)

/-- An active policy of the tenant and the type, as new as every other. -/
def IsNewest (w : World) (tenantId : String) (sentinelType : SentinelType) (p : Policy) : Prop :=
  p ∈ w.policies.rows ∧ isCandidate tenantId sentinelType p = true ∧
    ∀ q ∈ w.policies.rows, isCandidate tenantId sentinelType q = true → q.createdAt ≤ p.createdAt

/-- The action of a newest active policy, or `warn` when there is no active policy. -/
def Picks (w : World) (tenantId : String) (sentinelType : SentinelType)
    (action : InterventionAction) : Prop :=
  (∃ p, IsNewest w tenantId sentinelType p ∧ p.action = action) ∨
    (∀ p ∈ w.policies.rows, isCandidate tenantId sentinelType p = false) ∧ action = .warn

section Matching
variable (w : World) (scan : Scan Policy) (tenantId : String) (sentinelType : SentinelType)

/-- The policies the graph chooses from, in the order it reads them. -/
def matching : List Policy :=
  (orderByDesc (·.createdAt) (w.policies.select scan fun p =>
    p.tenantId = tenantId && (!true || p.isActive))).filter fun p =>
      p.sentinelType.value = sentinelType.value

variable {w scan tenantId sentinelType}

theorem mem_matching {p : Policy} : p ∈ matching w scan tenantId sentinelType ↔
    p ∈ w.policies.rows ∧ isCandidate tenantId sentinelType p = true := by
  rw [matching, List.mem_filter, (perm_orderByDesc _ _).mem_iff, Table.mem_select, and_assoc]
  refine and_congr_right fun _ => ?_
  simp only [isCandidate, Bool.not_true, Bool.false_or, Bool.and_eq_true, decide_eq_true_iff,
    SentinelType.value_injective.eq_iff]
  tauto

theorem picks_of_matching_nil (h : matching w scan tenantId sentinelType = []) :
    Picks w tenantId sentinelType .warn := by
  refine Or.inr ⟨fun p hp => ?_, rfl⟩
  rw [Bool.eq_false_iff]
  intro hcandidate
  have hmem : p ∈ matching w scan tenantId sentinelType := mem_matching.mpr ⟨hp, hcandidate⟩
  rw [h] at hmem
  cases hmem

theorem picks_of_matching_cons {p : Policy} {ps : List Policy}
    (h : matching w scan tenantId sentinelType = p :: ps) :
    Picks w tenantId sentinelType p.action := by
  have hp : p ∈ matching w scan tenantId sentinelType := by
    rw [h]
    exact List.mem_cons_self
  obtain ⟨hrow, hcandidate⟩ := mem_matching.mp hp
  refine Or.inl ⟨p, ⟨hrow, hcandidate, fun q hq hqc => ?_⟩, rfl⟩
  have hsorted : (matching w scan tenantId sentinelType).Pairwise
      fun a b => b.createdAt ≤ a.createdAt := (pairwise_orderByDesc _ _).sublist List.filter_sublist
  have hmem : q ∈ matching w scan tenantId sentinelType := mem_matching.mpr ⟨hq, hqc⟩
  rw [h] at hsorted hmem
  rcases List.mem_cons.mp hmem with rfl | hrest
  · exact le_refl _
  · exact (List.pairwise_cons.mp hsorted).1 q hrest

end Matching

/-! ### The assertions along the graph -/

section Run
variable {w : World} {scan : Scan Policy} {alert : SentinelAlert} {id : Uuid} {tenantId : String}

/-- The picked action has been committed, and nothing but audit entries since. -/
def Responded (w : World) (id : Uuid) (tenantId : String) (sentinelType : SentinelType) (s : State)
    (w' : World) : Prop :=
  ∃ action entries, Picks w tenantId sentinelType action ∧ s.actionTaken = some action.value ∧
    s.resolved = true ∧ w' = {SentinelService.resolve id action w with auditEntries := entries}

def Asserts (w : World) (id : Uuid) (tenantId : String) (alert : SentinelAlert) (v : Node)
    (s : State) (w' : World) : Prop :=
  s.alertId = id ∧ s.tenantId = tenantId ∧
    match v with
    | .loadAlert => w' = w
    | .findPolicy => w' = w ∧ s.alertType = some alert.sentinelType.value
    | .executeAction => w' = w ∧ ∃ action, Picks w tenantId alert.sentinelType action ∧
        s.actionTaken = some action.value
    | .resolveWithDefault => w' = w ∧ Picks w tenantId alert.sentinelType .warn
    | .recordOutcome => Responded w id tenantId alert.sentinelType s w'

section Calls
variable {faults : Faults}

theorem loadAlert_run {s : State} (hget : faults.getAlert = none)
    (hfind : w.alerts.find? s.alertId = some alert) :
    loadAlert faults s w = (.ok {s with
      alertSeverity := some alert.severity.value
      alertType := some alert.sentinelType.value
      alertMessage := some alert.message
      agentId := some alert.agentId
      error := none}, w) := by
  apply attempt_ok
  rw [hget, failing_none, Effect.bind_ok (SentinelService.getAlert_of_find hfind)]
  rfl

variable (faults) in
theorem findPolicy_run (w : World) (scan : Scan Policy) {s : State} {t : SentinelType}
    (hlist : faults.listPolicies = none) (htype : s.alertType = some t.value) :
    findPolicy faults scan s w = (.ok (match matching w scan s.tenantId t with
      | policy :: _ => {s with
        matchedPolicyId := some (Text.uuid policy.id), actionTaken := some policy.action.value}
      | [] => {s with matchedPolicyId := none, actionTaken := none}), w) := by
  have hvalue : orText s.alertType "" = t.value := by
    rw [htype, orText_empty, Option.getD_some]
  have hpolicies : SentinelService.listPolicies scan s.tenantId true w = (.ok _, w) :=
    Effect.gets_run _ w
  apply attempt_ok
  rw [hlist, failing_none, Effect.bind_ok hpolicies, hvalue, ← matching]
  cases matching w scan s.tenantId t <;> rfl

theorem parse_action (w : World) {s : State} {action : InterventionAction}
    (haction : s.actionTaken = some action.value) :
    parseAction (orText s.actionTaken "warn") w = (.ok action, w) := by
  rw [haction, orText_some action.value_ne_empty, parseAction, action.ofValue?_value]
  rfl

theorem executeAction_run {s : State} {action : InterventionAction}
    (hresolve : faults.resolveAlert = none) (hfind : w.alerts.find? s.alertId = some alert)
    (haction : s.actionTaken = some action.value) :
    executeAction faults s w = (.ok {s with resolved := true, error := none},
      SentinelService.resolve s.alertId action w) := by
  apply attempt_ok
  rw [Effect.bind_ok (parse_action w haction), hresolve, failing_none,
    Effect.bind_ok (SentinelService.resolveAlert_of_find hfind action)]
  rfl

theorem resolveWithDefault_run {s : State} (hresolve : faults.resolveAlert = none)
    (hfind : w.alerts.find? s.alertId = some alert) :
    resolveWithDefault faults s w = (.ok {s with
      resolved := true, actionTaken := some InterventionAction.warn.value},
      SentinelService.resolve s.alertId .warn w) := by
  apply attempt_ok
  rw [hresolve, failing_none, Effect.bind_ok (SentinelService.resolveAlert_of_find hfind .warn)]
  rfl

variable (faults) in
theorem recordOutcome_run (w : World) (s : State) (hrecord : faults.record = none) :
    ∃ auditEntryId entries, recordOutcome faults s w =
        (.ok {s with auditEntryId}, {w with auditEntries := entries}) ∧
      entries.rows = w.auditEntries.rows ++
        [AuditService.newEntry w.clock (outcomeEntry s) w.auditEntries.next] := by
  refine ⟨some (Text.uuid w.auditEntries.next),
    w.auditEntries.add (AuditService.newEntry w.clock (outcomeEntry s)) fun _ => rfl,
    attempt_ok ?_, Numbered.rows_add _ _ _⟩
  rw [hrecord, failing_none]
  rfl

end Calls

/-- Every node turns its assertion into that of the next. -/
theorem node_discharges (hfind : w.alerts.find? id = some alert) {v : Node} {s : State} {w' : World}
    (h : Asserts w id tenantId alert v s w') :
    (graph {} scan).Discharges rank (Asserts w id tenantId alert)
      (Responded w id tenantId alert.sentinelType) v s w' := by
  obtain ⟨rfl, rfl, h⟩ := h
  cases v with
  | loadAlert =>
    subst h
    exact ⟨_, _, loadAlert_run rfl hfind, Or.inr ⟨.findPolicy, rfl, by decide, rfl, rfl, rfl, rfl⟩⟩
  | findPolicy =>
    obtain ⟨rfl, htype⟩ := h
    have hrun := findPolicy_run {} w' scan rfl htype
    cases hmatching : matching w' scan s.tenantId alert.sentinelType with
    | nil =>
      rw [hmatching] at hrun
      exact ⟨_, _, hrun, Or.inr ⟨.resolveWithDefault, rfl, by decide, rfl, rfl, rfl,
        picks_of_matching_nil hmatching⟩⟩
    | cons p ps =>
      rw [hmatching] at hrun
      refine ⟨_, _, hrun, Or.inr ⟨.executeAction, ?_, by decide, rfl, rfl, rfl, p.action,
        picks_of_matching_cons hmatching, rfl⟩⟩
      exact if_pos (truthy_some (Text.uuid_ne_empty p.id))
  | executeAction =>
    obtain ⟨rfl, action, hpicks, haction⟩ := h
    exact ⟨_, _, executeAction_run rfl hfind haction, Or.inr ⟨.recordOutcome, rfl, by decide, rfl, rfl,
      action, _, hpicks, haction, rfl, rfl⟩⟩
  | resolveWithDefault =>
    obtain ⟨rfl, hpicks⟩ := h
    exact ⟨_, _, resolveWithDefault_run rfl hfind, Or.inr ⟨.recordOutcome, rfl, by decide, rfl, rfl,
      .warn, _, hpicks, rfl, rfl, rfl⟩⟩
  | recordOutcome =>
    obtain ⟨action, entries, hpicks, haction, hresolved, rfl⟩ := h
    obtain ⟨auditEntryId, entries', hrun, -⟩ := recordOutcome_run {}
      {SentinelService.resolve s.alertId action w with auditEntries := entries} s rfl
    exact ⟨_, _, hrun, Or.inl ⟨rfl, action, entries', hpicks, haction, hresolved, rfl⟩⟩

/-- The graph resolves the alert with the action it picks. -/
theorem ainvoke_responds (scan : Scan Policy) (s : State)
    (hfind : w.alerts.find? s.alertId = some alert) :
    ∃ final w', ainvoke (graph {} scan) s w = (.ok final, w') ∧
      Responded w s.alertId s.tenantId alert.sentinelType final w' := by
  have hrank : rank (graph {} scan).start < 25 := (by decide : 3 < 25)
  exact StateGraph.run_ends (A := Asserts w s.alertId s.tenantId alert)
    (fun v s w' h => node_discharges hfind h) hrank ⟨rfl, rfl, rfl⟩

end Run

/-- The policies by which the evaluator decides. -/
def IsMatch (w : World) (request : PolicyEvaluateRequest) (p : Policy) : Prop :=
  p ∈ w.policies.rows ∧ isCandidate request.tenantId request.sentinelType p = true ∧
    severityRank p.severity ≤ severityRank request.severity

/-- The graph resolves a loaded alert with the action of a newest active policy of its type, or
with `warn` when there is none. Where some policy matches, the evaluator's action is the same
exactly when a match has it and no match has one of higher rank; where none matches, the
evaluator answers `allow`. -/
theorem response_and_evaluation (scan scan' : Scan Policy) (w : World) (s : State)
    (alert : SentinelAlert) (hfind : w.alerts.find? s.alertId = some alert) :
    ∃ final w' action result,
      ainvoke (graph {} scan) s w = (.ok final, w') ∧
      w'.alerts.find? s.alertId = some (SentinelService.resolved w.clock action alert) ∧
      final.actionTaken = some action.value ∧
      Picks w s.tenantId alert.sentinelType action ∧
      PolicyEvaluatorService.evaluate scan' ⟨s.tenantId, alert.sentinelType, alert.severity⟩ w =
        (.ok result, w) ∧
      ((∃ p, IsMatch w ⟨s.tenantId, alert.sentinelType, alert.severity⟩ p) →
        (result.action = action ↔
          (∃ p, IsMatch w ⟨s.tenantId, alert.sentinelType, alert.severity⟩ p ∧ p.action = action) ∧
          ∀ p, IsMatch w ⟨s.tenantId, alert.sentinelType, alert.severity⟩ p →
            actionRank p.action ≤ actionRank action)) ∧
      ((¬∃ p, IsMatch w ⟨s.tenantId, alert.sentinelType, alert.severity⟩ p) →
        result.action = .allow) := by
  obtain ⟨final, w', hrun, action, entries, hpicks, haction, -, rfl⟩ :=
    ainvoke_responds scan s hfind
  obtain ⟨matched, result, hevaluate, hresult, hmatched⟩ := PolicyEvaluatorService.evaluate_spec
    scan' ⟨s.tenantId, alert.sentinelType, alert.severity⟩ w
  have hfound := SentinelService.find?_resolve hfind action
  refine ⟨final, _, action, result, hrun, hfound, haction, hpicks, hevaluate, ?_, ?_⟩
  · rintro ⟨p, hp⟩
    have hne : matched ≠ [] := List.ne_nil_of_mem ((hmatched p).mpr hp)
    rw [hresult, PolicyEvaluatorService.winningAction_eq_iff hne]
    simp only [hmatched, IsMatch]
  · intro hnone
    have hnil : matched = [] := by
      apply List.eq_nil_iff_forall_not_mem.mpr
      exact fun p hp => hnone ⟨p, (hmatched p).mp hp⟩
    rw [hresult, hnil]
    rfl

/-! ### Samples -/

def samplePolicy (id : Uuid) (severity : Severity) (action : InterventionAction)
    (createdAt : Datetime) : Policy where
  id := id
  tenantId := "acme"
  name := "p"
  description := ""
  sentinelType := .trajectory
  severity := severity
  action := action
  isActive := true
  config := ∅
  createdAt := createdAt

def sampleEvening : Datetime := ⟨sampleNoon.date, 72000000000, by decide⟩

/-- Two policies, the second the newer. -/
def samplePolicies (first second : Severity × InterventionAction) : List Policy :=
  [samplePolicy 0 first.1 first.2 sampleNoon, samplePolicy 1 second.1 second.2 sampleEvening]

theorem samplePolicies_unique (first second : Severity × InterventionAction) :
    ((samplePolicies first second).map Policy.id).Nodup :=
  (by decide : [0, 1].Nodup)

theorem samplePolicies_below (first second : Severity × InterventionAction) :
    ∀ p ∈ samplePolicies first second, p.id < 2 := by
  simp [samplePolicies, samplePolicy]

/-- One unresolved alert of medium severity and two policies. -/
def twoPolicies (first second : Severity × InterventionAction) : World where
  clock := sampleEvening
  alerts := sampleAlerts
  policies := ⟨⟨samplePolicies first second, samplePolicies_unique first second⟩, 2,
    samplePolicies_below first second⟩

/-- Both policies match in the first world, and none in the second. -/
theorem response_and_evaluation_sample :
    (∃ final w' action result,
      ainvoke (graph {} .stored) {alertId := 0, tenantId := "acme"}
        (twoPolicies (.low, .warn) (.medium, .pauseAgent)) = (.ok final, w') ∧
      w'.alerts.find? 0 = some (SentinelService.resolved sampleEvening action sampleAlert) ∧
      final.actionTaken = some action.value ∧
      Picks (twoPolicies (.low, .warn) (.medium, .pauseAgent)) "acme" .trajectory action ∧
      PolicyEvaluatorService.evaluate .newest ⟨"acme", .trajectory, .medium⟩
        (twoPolicies (.low, .warn) (.medium, .pauseAgent)) =
          (.ok result, twoPolicies (.low, .warn) (.medium, .pauseAgent)) ∧
      (result.action = action ↔
        (∃ p, IsMatch (twoPolicies (.low, .warn) (.medium, .pauseAgent))
          ⟨"acme", .trajectory, .medium⟩ p ∧ p.action = action) ∧
        ∀ p, IsMatch (twoPolicies (.low, .warn) (.medium, .pauseAgent))
          ⟨"acme", .trajectory, .medium⟩ p → actionRank p.action ≤ actionRank action)) ∧
    ∃ result, PolicyEvaluatorService.evaluate .newest ⟨"acme", .trajectory, .medium⟩
        (twoPolicies (.critical, .redact) (.critical, .pauseAgent)) =
          (.ok result, twoPolicies (.critical, .redact) (.critical, .pauseAgent)) ∧
      result.action = .allow := by
  constructor
  · obtain ⟨final, w', action, result, hrun, hfound, htaken, hpicks, hevaluate, hsame, -⟩ :=
      response_and_evaluation .stored .newest (twoPolicies (.low, .warn) (.medium, .pauseAgent))
        {alertId := 0, tenantId := "acme"} sampleAlert rfl
    refine ⟨final, w', action, result, hrun, hfound, htaken, hpicks, hevaluate, hsame ?_⟩
    exact ⟨_, List.mem_cons_self, rfl, by decide⟩
  · obtain ⟨_, _, _, result, -, -, -, -, hevaluate, -, hnone⟩ :=
      response_and_evaluation .stored .newest
        (twoPolicies (.critical, .redact) (.critical, .pauseAgent))
        {alertId := 0, tenantId := "acme"} sampleAlert rfl
    refine ⟨result, hevaluate, hnone ?_⟩
    rintro ⟨p, hp, -, hrank⟩
    rcases List.mem_cons.mp hp with rfl | hlast
    · exact absurd hrank (by decide)
    · rw [List.mem_singleton.mp hlast] at hrank
      exact absurd hrank (by decide)

def resolvedAction (w : World) : Option InterventionAction :=
  ((ainvoke (graph {} .stored) {alertId := 0, tenantId := "acme"} w).2.alerts.find? 0).bind
    SentinelAlert.actionTaken

def evaluatedAction (w : World) : Option InterventionAction :=
  (PolicyEvaluatorService.evaluate .stored ⟨"acme", .trajectory, .medium⟩ w).1.toOption.map
    PolicyEvaluationResult.action

/-- Both policies match, and the older has the stronger action; or the newer policy, the only
active one that is read, is above the alert's severity. -/
theorem response_differs :
    (resolvedAction (twoPolicies (.low, .terminateExecution) (.low, .warn)) = some .warn ∧
      evaluatedAction (twoPolicies (.low, .terminateExecution) (.low, .warn)) =
        some .terminateExecution) ∧
    (resolvedAction (twoPolicies (.critical, .redact) (.critical, .pauseAgent)) = some .pauseAgent ∧
      evaluatedAction (twoPolicies (.critical, .redact) (.critical, .pauseAgent)) =
        some .allow) := by
  decide

end SentinelResponse
end Dox
