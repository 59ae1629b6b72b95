import DoxGovernance.Workflows.HumanReview
import DoxGovernance.Workflows.SentinelResponse

/-!
# Failures before an alert is resolved

An exception in a node is kept as its text, and the edges ask whether there is a text. An
exception while the alert is loaded, or while a review request is recorded, ends the run
exactly when its text is not empty: with an empty text the run goes on as if nothing had
happened, and resolves an alert that it has not loaded.
-/

set_option autoImplicit false

namespace Dox

/-- The text of the exception that a call raises. -/
def raised {α : Type} (call : Service α) (w : World) : Option String :=
  match (call w).1 with
  | .ok _ => none
  | .error e => some e.str

section Raised
variable {α : Type} {call : Service α} {w : World}

theorem attempt_of_raised {β : Type} {f : α → Service β} {handle : String → β} {text : String}
    (h : raised call w = some text) :
    attempt (call >>= f) handle w = (.ok (handle text), (call w).2) := by
  unfold raised at h
  cases hrun : call w with
  | mk r w' =>
    rw [hrun] at h
    cases r with
    | ok _ => cases h
    | error e =>
      cases h
      exact attempt_error (Effect.bind_error hrun)

/-- A node that catches every exception returns. -/
theorem attempt_returns (body : Service α) (handle : String → α) (w : World) :
    ∃ a w', attempt body handle w = (.ok a, w') := by
  cases hrun : body w with
  | mk r w' =>
    cases r with
    | ok a => exact ⟨a, w', attempt_ok hrun⟩
    | error e => exact ⟨_, w', attempt_error hrun⟩

/-- A lookup leaves the world as it is, whether it fails or not. -/
theorem after_failing {find : World → Option α} (h : Effect.Finds find call)
    (fault : Option String) (w : World) : (failing fault call w).2 = w :=
  (keeps_failing (fun _ => rfl) (h.keeps fun _ => rfl) w).symm

end Raised

namespace SentinelResponse
variable (faults : Faults) (scan : Scan Policy)

/-- The exception that loading the alert raises. -/
def loadError (state : State) (w : World) : Option String :=
  raised (failing faults.getAlert (SentinelService.getAlert state.alertId)) w

/-- The node calls `resolve_alert`. -/
def CallsResolve : Node → State → Prop
  | .executeAction, state => ∃ action, orText state.actionTaken "warn" = InterventionAction.value action
  | .resolveWithDefault, _ => True
  | _, _ => False

/-- The run ends without a call of `resolve_alert` and without a new audit entry. -/
def Stops (state : State) (w : World) : Prop :=
  (∃ final w', ainvoke (graph faults scan) state w = (.ok final, w') ∧
    w'.auditEntries = w.auditEntries) ∧
  ¬(graph faults scan).Starts CallsResolve 25 (graph faults scan).start state w

variable {faults scan} {state : State} {w : World} {text : String}

theorem loadAlert_raises (h : loadError faults state w = some text) :
    loadAlert faults state w = (.ok {state with error := some text}, w) := by
  rw [loadAlert, attempt_of_raised h, after_failing (SentinelService.getAlert_finds _)]

/-- Whatever happens to the policies, the next node calls `resolve_alert`. -/
theorem findPolicy_calls (faults : Faults) (scan : Scan Policy) (state : State) (w : World) :
    ∃ state' v, findPolicy faults scan state w = (.ok state', w) ∧
      (graph faults scan).next .findPolicy state' = some v ∧ CallsResolve v state' := by
  cases hfault : faults.listPolicies with
  | some message =>
    refine ⟨{state with error := some message, matchedPolicyId := none, actionTaken := none},
      .resolveWithDefault, attempt_outage ?_, rfl, trivial⟩
    rw [hfault, failing_some]
    rfl
  | none =>
    set matching := (orderByDesc (·.createdAt) (w.policies.select scan fun p =>
      p.tenantId = state.tenantId && (!true || p.isActive))).filter fun p =>
        p.sentinelType.value = orText state.alertType "" with hmatching
    have hlist : SentinelService.listPolicies scan state.tenantId true w = (.ok _, w) :=
      Effect.gets_run _ w
    cases hmatch : matching with
    | nil =>
      refine ⟨{state with matchedPolicyId := none, actionTaken := none}, .resolveWithDefault,
        attempt_ok ?_, rfl, trivial⟩
      rw [hfault, failing_none, Effect.bind_ok hlist, ← hmatching, hmatch]
      rfl
    | cons policy rest =>
      have hpolicy : truthy (some (Text.uuid policy.id)) = true :=
        truthy_some (Text.uuid_ne_empty policy.id)
      refine ⟨{state with
        matchedPolicyId := some (Text.uuid policy.id)
        actionTaken := some policy.action.value}, .executeAction, attempt_ok ?_, if_pos hpolicy,
        policy.action, orText_some policy.action.value_ne_empty "warn"⟩
      rw [hfault, failing_none, Effect.bind_ok hlist, ← hmatching, hmatch]
      rfl

theorem stops_iff (h : loadError faults state w = some text) :
    Stops faults scan state w ↔ text ≠ "" := by
  have hload : (graph faults scan).node .loadAlert state w =
      (.ok {state with error := some text}, w) := loadAlert_raises h
  by_cases htext : text = ""
  · have hnext : (graph faults scan).next .loadAlert {state with error := some text} =
        some .findPolicy := by
      rw [htext]
      rfl
    obtain ⟨state', v, hpolicy, hnext', hcalls⟩ :=
      findPolicy_calls faults scan {state with error := some text} w
    refine iff_of_false (fun hstops => hstops.2 ?_) (not_not.mpr htext)
    exact (StateGraph.starts_step hload hnext _).mpr <| Or.inr <|
      (StateGraph.starts_step hpolicy hnext' _).mpr <| Or.inr <| Or.inl hcalls
  · have hnext : (graph faults scan).next .loadAlert {state with error := some text} = none :=
      if_pos (truthy_some htext)
    refine iff_of_true ⟨⟨_, w, StateGraph.run_end hload hnext _, rfl⟩, ?_⟩ htext
    exact (StateGraph.starts_end hload hnext _).not.mpr id

end SentinelResponse
namespace HumanReview
variable (faults : Faults)

def loadError (state : State) (w : World) : Option String :=
  raised (failing faults.getAlert (SentinelService.getAlert state.alertId)) w

def CallsResolve : Node → State → Prop
  | .recordDecision, _ => True
  | _, _ => False

def Ended (state : State) (w w' : World) : Prop :=
  ∃ final, ainvoke (graph faults) state w = (.ok final, w')

/-- The run calls `resolve_alert`. -/
def Resolves (state : State) (w : World) : Prop :=
  (graph faults).Starts CallsResolve 25 (graph faults).start state w

def Stops (state : State) (w : World) : Prop :=
  (∃ w', Ended faults state w w' ∧ w'.auditEntries = w.auditEntries) ∧ ¬Resolves faults state w

variable {faults} {state : State} {w : World} {text : String}

theorem loadAlert_raises (h : loadError faults state w = some text) :
    loadAlert faults state w = (.ok {state with error := some text}, w) := by
  rw [loadAlert, attempt_of_raised h, after_failing (SentinelService.getAlert_finds _)]

/-- A loaded alert clears the error, and a failure to load it sets it. -/
theorem loadAlert_spec (faults : Faults) (state : State) (w : World) :
    ∃ state', loadAlert faults state w = (.ok state', w) ∧
      state'.error = loadError faults state w ∧ state'.decision = state.decision := by
  cases hload : loadError faults state w with
  | some text => exact ⟨{state with error := some text}, loadAlert_raises hload, rfl, rfl⟩
  | none =>
    cases hfault : faults.getAlert with
    | some message => rw [loadError, hfault] at hload; cases hload
    | none =>
      cases hfind : w.alerts.find? state.alertId with
      | none =>
        rw [loadError, hfault, failing_none, raised, SentinelService.getAlert_of_none hfind] at hload
        cases hload
      | some alert =>
        refine ⟨{state with
          alertSeverity := some alert.severity.value
          alertType := some alert.sentinelType.value
          alertMessage := some (some alert.message)
          error := none}, attempt_ok ?_, rfl, rfl⟩
        rw [hfault, failing_none, Effect.bind_ok (SentinelService.getAlert_of_find hfind)]
        rfl

theorem next_request {s s' : State} (hdecision : s'.decision = s.decision)
    (herror' : truthy s'.error = truthy faults.recordRequest) :
    (graph faults).next .requestReview s' =
      if truthy faults.recordRequest = false ∧ truthy s.decision = true then some .recordDecision
      else none := by
  simp only [graph, herror', hdecision]
  cases truthy faults.recordRequest <;> cases truthy s.decision <;> rfl

section Request
variable {s : State} (herror : truthy s.error = false) (steps : Nat)
include herror

variable (faults) in
theorem requestReview_spec (w : World) :
    ∃ s' w', requestReview faults s w = (.ok s', w') ∧ s'.decision = s.decision ∧
      truthy s'.error = truthy faults.recordRequest ∧
      (w'.auditEntries = w.auditEntries ↔ faults.recordRequest ≠ none) := by
  cases hfault : faults.recordRequest with
  | some message =>
    refine ⟨{s with error := some message}, w, attempt_outage ?_, rfl, rfl,
      iff_of_true rfl (Option.some_ne_none message)⟩
    rw [hfault, failing_some]
    rfl
  | none =>
    have hadded : (AuditService.record (requestEntry s) w).2.auditEntries ≠ w.auditEntries :=
      Numbered.add_ne_self _ _ fun _ => rfl
    refine ⟨{s with auditEntryId := some (Text.uuid w.auditEntries.next)}, _, attempt_ok ?_, rfl,
      herror, iff_of_false hadded (not_not.mpr rfl)⟩
    rw [hfault, failing_none]
    rfl

variable (faults) in
/-- From the request on, `resolve_alert` is called when the request has left no text of an
exception and a decision is there. -/
theorem request_starts (w : World) :
    (graph faults).Starts CallsResolve (steps + 2) .requestReview s w ↔
      truthy faults.recordRequest = false ∧ truthy s.decision = true := by
  obtain ⟨s', w', hrun, hdecision, herror', _⟩ := requestReview_spec faults herror w
  have hnext := next_request hdecision herror'
  split at hnext
  · refine iff_of_true ?_ (by assumption)
    exact (StateGraph.starts_step hrun hnext _).mpr (Or.inr (Or.inl trivial))
  · refine iff_of_false ?_ (by assumption)
    exact (StateGraph.starts_end hrun hnext _).not.mpr id

variable (faults) in
/-- It ends, and unless it calls `resolve_alert` only a recorded request has written. -/
theorem request_ends (w : World) :
    ∃ final w', (graph faults).run recursionError (steps + 2) .requestReview s w = (.ok final, w') ∧
      (¬(truthy faults.recordRequest = false ∧ truthy s.decision = true) →
        (w'.auditEntries = w.auditEntries ↔ faults.recordRequest ≠ none)) := by
  obtain ⟨s', w', hrun, hdecision, herror', hwritten⟩ :=
    requestReview_spec faults herror w
  have hnext := next_request hdecision herror'
  split at hnext
  · rename_i hcalls
    obtain ⟨final, w'', hdecided⟩ : ∃ final w'', recordDecision faults s' w' = (.ok final, w'') := by
      unfold recordDecision
      exact attempt_returns _ _ w'
    refine ⟨final, w'', ?_, fun hnot => absurd hcalls hnot⟩
    rw [StateGraph.run_step hrun hnext]
    exact StateGraph.run_end hdecided rfl steps
  · exact ⟨s', w', StateGraph.run_end hrun hnext _, fun _ => hwritten⟩

end Request

/-- When the text left by loading the alert is empty, the run goes on to the request. -/
theorem resolves_iff (hload : truthy (loadError faults state w) = false) :
    (∃ w', Ended faults state w w' ∧
      (¬Resolves faults state w → (w'.auditEntries = w.auditEntries ↔ faults.recordRequest ≠ none))) ∧
    (Resolves faults state w ↔
      truthy faults.recordRequest = false ∧ truthy state.decision = true) := by
  obtain ⟨s, hrun, herror, hdecision⟩ := loadAlert_spec faults state w
  rw [← herror] at hload
  have hnext : (graph faults).next .loadAlert s = some .requestReview :=
    if_neg (Bool.not_eq_true _ ▸ hload)
  have hstarts := request_starts faults hload 22 w
  obtain ⟨final, w', hends, hwritten⟩ := request_ends faults hload 22 w
  rw [hdecision] at hstarts hwritten
  have hresolves : Resolves faults state w ↔
      truthy faults.recordRequest = false ∧ truthy state.decision = true := by
    refine (StateGraph.starts_step hrun hnext _).trans ((or_iff_right ?_).trans hstarts)
    exact id
  refine ⟨⟨w', ⟨final, ?_⟩, ?_⟩, hresolves⟩
  · exact (StateGraph.run_step hrun hnext _).trans hends
  · rw [hresolves]
    exact hwritten

theorem stops_of_text (h : loadError faults state w = some text) (htext : text ≠ "") :
    Stops faults state w := by
  have hload : (graph faults).node .loadAlert state w =
      (.ok {state with error := some text}, w) := loadAlert_raises h
  have hnext : (graph faults).next .loadAlert {state with error := some text} = none :=
    if_pos (truthy_some htext)
  refine ⟨⟨w, ⟨_, StateGraph.run_end hload hnext _⟩, rfl⟩, ?_⟩
  exact (StateGraph.starts_end hload hnext _).not.mpr id

/-- A failed request prevents `resolve_alert` by its text, or for want of a decision. -/
theorem prevented_iff (hload : truthy (loadError faults state w) = false)
    (hrequest : faults.recordRequest = some text) :
    ¬Resolves faults state w ↔ text ≠ "" ∨ truthy state.decision = false := by
  rw [(resolves_iff hload).2, hrequest, not_and_or, Bool.not_eq_true, Bool.not_eq_false]
  refine or_congr_left ?_
  by_cases htext : text = ""
  · rw [htext]
    decide
  · exact iff_of_true (truthy_some htext) htext

theorem stops_iff (h : loadError faults state w = some text) :
    Stops faults state w ↔ text ≠ "" ∨ ∃ message, faults.recordRequest = some message ∧
      (message ≠ "" ∨ truthy state.decision = false) := by
  by_cases htext : text = ""
  · have hload : truthy (loadError faults state w) = false := by
      rw [h, htext]
      rfl
    obtain ⟨⟨w', hended, hwritten⟩, _⟩ := resolves_iff hload
    constructor
    · rintro ⟨⟨w'', ⟨final', hrun'⟩, hsame⟩, hnot⟩
      obtain ⟨final, hrun⟩ := hended
      rw [hrun] at hrun'
      cases hrun'
      obtain ⟨message, hrequest⟩ := Option.ne_none_iff_exists'.mp ((hwritten hnot).mp hsame)
      exact Or.inr ⟨message, hrequest, (prevented_iff hload hrequest).mp hnot⟩
    · rintro (hne | ⟨message, hrequest, hprevented⟩)
      · exact absurd htext hne
      · have hnot := (prevented_iff hload hrequest).mpr hprevented
        refine ⟨⟨w', hended, (hwritten hnot).mpr ?_⟩, hnot⟩
        rw [hrequest]
        exact Option.some_ne_none message
  · exact iff_of_true (stops_of_text h htext) (Or.inl htext)

end HumanReview

/-- What an exception with a text stops, an exception without one does not. After a failed load
the sentinel-response graph stops exactly when the exception has a text; the human-review graph
also stops when the request fails too, with a text or without a decision to act on; and a failed
request prevents a resolution exactly then. -/
theorem stops_iff_text (w : World) :
    (∀ (faults : SentinelResponse.Faults) (scan : Scan Policy) (state : SentinelResponse.State)
      (text : String), SentinelResponse.loadError faults state w = some text →
        (SentinelResponse.Stops faults scan state w ↔ text ≠ "")) ∧
    (∀ (faults : HumanReview.Faults) (state : HumanReview.State) (text : String),
      HumanReview.loadError faults state w = some text →
        (HumanReview.Stops faults state w ↔ text ≠ "" ∨ ∃ message,
          faults.recordRequest = some message ∧
            (message ≠ "" ∨ truthy state.decision = false))) ∧
    ∀ (faults : HumanReview.Faults) (state : HumanReview.State) (text : String),
      truthy (HumanReview.loadError faults state w) = false → faults.recordRequest = some text →
        (¬HumanReview.Resolves faults state w ↔ text ≠ "" ∨ truthy state.decision = false) :=
  ⟨fun _ _ _ _ h => SentinelResponse.stops_iff h, fun _ _ _ h => HumanReview.stops_iff h,
    fun _ _ _ hload hrequest => HumanReview.prevented_iff hload hrequest⟩

def sampleResponse : SentinelResponse.State := {alertId := 0, tenantId := "acme"}

/-- A load that times out: the exception has no text. -/
def timedOut : SentinelResponse.Faults := {getAlert := some ""}

/-- The load times out, and so does the request, where the given text is left. -/
def timedOutTwice (text : String) : HumanReview.Faults :=
  {getAlert := some "", recordRequest := some text}

theorem stops_iff_text_sample :
    (SentinelResponse.Stops timedOut .stored sampleResponse HumanReview.oneAlert ↔ "" ≠ "") ∧
    (HumanReview.Stops (timedOutTwice "pool exhausted") HumanReview.approval HumanReview.oneAlert ∧
      ¬HumanReview.Stops (timedOutTwice "") HumanReview.approval HumanReview.oneAlert) ∧
    ¬HumanReview.Resolves {recordRequest := some "pool exhausted"} HumanReview.approval
      HumanReview.oneAlert := by
  obtain ⟨hresponse, hstops, hprevented⟩ := stops_iff_text HumanReview.oneAlert
  have hquiet : truthy HumanReview.approval.decision = true := rfl
  refine ⟨hresponse timedOut .stored sampleResponse "" rfl, ⟨?_, fun h => ?_⟩, ?_⟩
  · exact (hstops (timedOutTwice "pool exhausted") HumanReview.approval "" rfl).mpr
      (Or.inr ⟨_, rfl, Or.inl (by decide)⟩)
  · rcases (hstops (timedOutTwice "") HumanReview.approval "" rfl).mp h with h | ⟨message, hm, h⟩
    · exact h rfl
    · cases hm
      exact h.elim (fun h => h rfl) fun h => nomatch hquiet.symm.trans h
  · exact (hprevented {recordRequest := some "pool exhausted"} HumanReview.approval
      "pool exhausted" rfl rfl).mpr (Or.inl (by decide))

/-- The load times out, and either graph resolves the alert that it has not loaded. -/
theorem resolves_without_text :
    SentinelResponse.loadError timedOut sampleResponse HumanReview.oneAlert = some "" ∧
    (∃ final w', ainvoke (SentinelResponse.graph timedOut .stored) sampleResponse
        HumanReview.oneAlert = (.ok final, w') ∧
      final.resolved = true ∧ w'.resolutions = [⟨0, .warn⟩] ∧
      w'.auditEntries.rows.map AuditEntry.action = ["sentinel_response_applied"]) ∧
    ∃ final w', ainvoke (HumanReview.graph {getAlert := some ""}) HumanReview.approval
        HumanReview.oneAlert = (.ok final, w') ∧
      final.resolved = true ∧ w'.resolutions = [⟨0, .allow⟩] ∧
      w'.auditEntries.rows.map AuditEntry.action =
        ["human_review_requested", "human_review_completed"] :=
  ⟨rfl, ⟨_, _, rfl, rfl, rfl, rfl⟩, _, _, rfl, rfl, rfl, rfl⟩

end Dox
