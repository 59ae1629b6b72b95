import DoxGovernance.Workflows.HumanReview

/-!
# Invoking a review again

A review that is left without a decision is resumed by another invocation of the graph. There is
no checkpoint: every invocation runs from the start and requests the review once more. So the
audit trail counts the invocations, and among them those that brought a decision.
-/

set_option autoImplicit false

namespace Dox
namespace HumanReview

/-- An invocation of the graph at a time. -/
structure Invocation where
  time : Datetime
  state : State

def invoke (w : World) (invocation : Invocation) : World :=
  (ainvoke (graph {}) invocation.state (w.at invocation.time)).2

def isRequested (id : Uuid) (entry : AuditEntry) : Bool :=
  entry.action = "human_review_requested" && entry.resourceType = "sentinel_alert" &&
    entry.resourceId = Text.uuid id

def isCompleted (id : Uuid) (entry : AuditEntry) : Bool :=
  entry.action = "human_review_completed" && entry.resourceType = "sentinel_alert" &&
    entry.resourceId = Text.uuid id

/-- So many entries on the review of the alert are new. -/
def Leaves (w : World) (id : Uuid) (requested completed : Nat) (w' : World) : Prop :=
  ∃ new, w'.auditEntries.rows = w.auditEntries.rows ++ new ∧
    new.countP (isRequested id) = requested ∧ new.countP (isCompleted id) = completed

section Entries
variable (now : Datetime) (s : State) (id : Uuid)

@[simp] theorem isRequested_requestEntry :
    isRequested s.alertId (AuditService.newEntry now (requestEntry s) id) = true := by
  simp [isRequested, AuditService.newEntry, requestEntry]

@[simp] theorem isCompleted_requestEntry (alertId : Uuid) :
    isCompleted alertId (AuditService.newEntry now (requestEntry s) id) = false := by
  simp [isCompleted, AuditService.newEntry, requestEntry]

variable (decision : String) (action : InterventionAction)

@[simp] theorem isRequested_decisionEntry (alertId : Uuid) :
    isRequested alertId (AuditService.newEntry now (decisionEntry s decision action) id) = false := by
  simp [isRequested, AuditService.newEntry, decisionEntry]

@[simp] theorem isCompleted_decisionEntry :
    isCompleted s.alertId (AuditService.newEntry now (decisionEntry s decision action) id) = true := by
  simp [isCompleted, AuditService.newEntry, decisionEntry]

end Entries

section Invocation
variable {w : World} {state : State} {alert : SentinelAlert}

def loaded (alert : SentinelAlert) (state : State) : State :=
  {state with
    alertSeverity := some alert.severity.value
    alertType := some alert.sentinelType.value
    alertMessage := some (some alert.message)
    error := none}

def requested (w : World) (alert : SentinelAlert) (state : State) : State :=
  {loaded alert state with auditEntryId := some (Text.uuid w.auditEntries.next)}

theorem load_succeeds (hfind : w.alerts.find? state.alertId = some alert) :
    loadAlert {} state w = (.ok (loaded alert state), w) := by
  apply attempt_ok
  rw [failing_none, Effect.bind_ok (SentinelService.getAlert_of_find hfind)]
  rfl

theorem request_succeeds (w : World) (alert : SentinelAlert) (state : State) :
    ∃ entries, requestReview {} (loaded alert state) w =
        (.ok (requested w alert state), {w with auditEntries := entries}) ∧
      entries.rows = w.auditEntries.rows ++
        [AuditService.newEntry w.clock (requestEntry (loaded alert state)) w.auditEntries.next] :=
  ⟨_, attempt_ok rfl, Numbered.rows_add _ _ fun _ => rfl⟩

theorem leaves_request (alert : SentinelAlert) {entries : Numbered AuditEntry.id}
    (hrows : entries.rows = w.auditEntries.rows ++
      [AuditService.newEntry w.clock (requestEntry (loaded alert state)) w.auditEntries.next]) :
    Leaves w state.alertId 1 0 {w with auditEntries := entries} := by
  have hrequested : isRequested state.alertId (AuditService.newEntry w.clock
      (requestEntry (loaded alert state)) w.auditEntries.next) = true :=
    isRequested_requestEntry _ (loaded alert state) _
  exact ⟨_, hrows, by simp [hrequested], by simp⟩

theorem Leaves.trans {w' w'' : World} {id : Uuid} {m n m' n' : Nat} (h : Leaves w id m n w')
    (h' : Leaves w' id m' n' w'') : Leaves w id (m + m') (n + n') w'' := by
  obtain ⟨new, hrows, hrequested, hcompleted⟩ := h
  obtain ⟨more, hrows', hrequested', hcompleted'⟩ := h'
  refine ⟨new ++ more, ?_, ?_, ?_⟩
  · rw [hrows', hrows, List.append_assoc]
  · rw [List.countP_append, hrequested, hrequested']
  · rw [List.countP_append, hcompleted, hcompleted']

/-- The alert is resolved and the decision is recorded. -/
theorem decision_succeeds {s : State} (hfind : w.alerts.find? s.alertId = some alert) :
    ∃ final w', recordDecision {} s w = (.ok final, w') ∧ Leaves w s.alertId 0 1 w' ∧
      (w'.alerts.find? s.alertId).isSome := by
  obtain ⟨entries, hrun, hrows⟩ := @recordDecision_completed {} alert w s hfind rfl rfl
  refine ⟨_, _, hrun, ⟨_, hrows, by simp, by simp⟩, ?_⟩
  exact Option.isSome_of_eq_some (SentinelService.find?_resolve hfind _)

variable (w state) in
/-- Every invocation requests the review, and a decision completes it. -/
theorem ainvoke_leaves (hfind : w.alerts.find? state.alertId = some alert) :
    ∃ final w', ainvoke (graph {}) state w = (.ok final, w') ∧
      Leaves w state.alertId 1 (if truthy state.decision then 1 else 0) w' ∧
      (w'.alerts.find? state.alertId).isSome := by
  obtain ⟨entries, hrequest, hrows⟩ := request_succeeds w alert state
  have hleaves := leaves_request alert hrows
  have hload : ainvoke (graph {}) state w = _ := StateGraph.run_step (load_succeeds hfind) rfl 24
  rw [hload]
  cases hdecision : truthy state.decision with
  | false =>
    refine ⟨_, _, StateGraph.run_end hrequest ?_ 23, hleaves, Option.isSome_of_eq_some hfind⟩
    simp [graph, requested, loaded, hdecision]
  | true =>
    obtain ⟨final, w', hdecided, hleaves', hsome⟩ :=
      decision_succeeds (w := {w with auditEntries := entries}) (s := requested w alert state) hfind
    refine ⟨final, w', ?_, hleaves.trans hleaves', hsome⟩
    have hnext : (graph {}).next .requestReview (requested w alert state) = some .recordDecision := by
      simp [graph, requested, loaded, hdecision]
    rw [StateGraph.run_step hrequest hnext 23]
    exact StateGraph.run_end hdecided rfl 22

end Invocation

/-- However often the graph is invoked for an alert, the trail has one request for every
invocation, and one completion for every invocation that brought a decision. -/
theorem invocations_leave (invocations : List Invocation) (w : World) (id : Uuid)
    (alert : SentinelAlert) (hfind : w.alerts.find? id = some alert)
    (hid : ∀ i ∈ invocations, i.state.alertId = id) :
    Leaves w id invocations.length (invocations.countP fun i => truthy i.state.decision)
      (invocations.foldl invoke w) := by
  induction invocations generalizing w alert with
  | nil => exact ⟨[], (List.append_nil _).symm, rfl, rfl⟩
  | cons i invocations ih =>
    obtain rfl := hid i List.mem_cons_self
    obtain ⟨final, w', hrun, hleaves, hsome⟩ :=
      ainvoke_leaves (w.at i.time) i.state hfind
    obtain ⟨alert', hfind'⟩ := Option.isSome_iff_exists.mp hsome
    have hstep : invoke w i = w' := congrArg Prod.snd hrun
    have hrest := ih w' alert' hfind' fun j hj => hid j (List.mem_cons_of_mem _ hj)
    rw [List.foldl_cons, hstep, List.length_cons, List.countP_cons, Nat.add_comm _ 1,
      Nat.add_comm _ (ite _ _ _)]
    exact Leaves.trans hleaves hrest

/-- The review is requested, and resumed with an approval. -/
def resumedReview : List Invocation :=
  [⟨sampleNoon, {alertId := 0, tenantId := "acme"}⟩, ⟨sampleNextNoon, approval⟩]

theorem invocations_leave_sample : Leaves oneAlert 0 2 1 (resumedReview.foldl invoke oneAlert) :=
  invocations_leave resumedReview oneAlert 0 sampleAlert rfl (by simp [resumedReview, approval])

/-- The resumed review has two requests on the trail. -/
theorem resumed_review_requested_twice :
    ¬∃ completed ≤ 1, Leaves oneAlert 0 1 completed (resumedReview.foldl invoke oneAlert) := by
  rintro ⟨completed, -, new, hrows, hrequested, -⟩
  have hnew : new = (resumedReview.foldl invoke oneAlert).auditEntries.rows := by
    rw [hrows]
    rfl
  rw [hnew] at hrequested
  revert hrequested
  decide

end HumanReview
end Dox
