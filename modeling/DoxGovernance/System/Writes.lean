import DoxGovernance.Gateway.App
import DoxGovernance.Workflows.DriftAnalysis
import DoxGovernance.Workflows.HumanReview
import DoxGovernance.Workflows.Replay
import DoxGovernance.Workflows.SentinelResponse
import Mathlib.Logic.Relation

/-!
# The writes of the system

One kind of write for each commit that the services make, with the place it goes to and all
that the code checks before it. Whatever a request or a workflow does to the world is a
sequence of these, so a property of the world is proved of a run by looking at each kind once.
-/

set_option autoImplicit false

namespace Dox

/-- A table, or one of the two logs that are not tables. -/
inductive Place where
  | events | quotas | alerts | policies | baselines | webhooks | agents | auditEntries | bus
  | metrics
deriving DecidableEq, Repr

namespace QuotaService

/-- The rows that the quota service writes for a tenant. -/
inductive Next (w : World) (t : String) : TenantQuota → Prop where
  | opened : Next w t (rowOf w t)
  | restarted : Next w t (effective w t)
  | counted (h : HasRoom (effective w t)) : Next w t (count (effective w t))
  | zeroed : Next w t (zeroDay w.clock (rowOf w t))
  | tiered (tier : SubscriptionTier) : Next w t (setTier tier (rowOf w t))

end QuotaService

open QuotaService (Next Wrote) in
inductive Write (sha256 : ByteArray → String) : Place → World → World → Prop where
  | uuid (p : Place) (w : World) : Write sha256 p w {w with nextUuid := w.nextUuid + 1}
  | insertEvents {w : World} {records : List EventRecord} {events : Table EventRecord.eventId}
      (hrecords : ∀ r ∈ records, ∃ id event,
        EventRecord.fromCanonical sha256 id w.clock event = .ok r)
      (hfit : records.findSome? EventRecord.columnError = none)
      (hinsert : w.events.insertAll? records = some events) :
      Write sha256 .events w {w with events}
  | writeQuota {w w' : World} {t : String} {q : TenantQuota} (hnext : Next w t q)
      (hwrote : Wrote t q w w') : Write sha256 .quotas w w'
  | createAlert (w : World) (create : SentinelAlertCreate) :
      Write sha256 .alerts w (SentinelService.createAlert create w).2
  | resolveAlert (w : World) (alertId : Uuid) (action : InterventionAction) :
      Write sha256 .alerts w (SentinelService.resolve alertId action w)
  | createPolicy (w : World) (create : PolicyCreate) :
      Write sha256 .policies w (SentinelService.createPolicy create w).2
  | updatePolicy (w : World) (policyId : Uuid) (update : PolicyUpdate) :
      Write sha256 .policies w {w with
        policies := w.policies.update policyId (PolicyEvaluatorService.patched update) fun _ => rfl}
  | deactivatePolicy (w : World) (policyId : Uuid) :
      Write sha256 .policies w {w with
        policies := w.policies.update policyId ({· with isActive := false}) fun _ => rfl}
  | replaceBaselines (w : World) (create : BaselineCreate) (records : List EventRecord) :
      Write sha256 .baselines w (DriftDetectionService.replaceBaselines create records w).2
  | deactivateBaseline (w : World) (baselineId : Uuid) :
      Write sha256 .baselines w {w with
        baselines := w.baselines.update baselineId ({· with isActive := false}) fun _ => rfl}
  | registerWebhook (w : World) (create : WebhookCreate) :
      Write sha256 .webhooks w (NotificationService.registerWebhook create w).2
  | deactivateWebhook (w : World) (webhookId : Uuid) :
      Write sha256 .webhooks w {w with
        webhooks := w.webhooks.update webhookId ({· with isActive := false}) fun _ => rfl}
  | recordDelivery (w : World) (webhook : WebhookEndpoint) (success : Bool) :
      Write sha256 .webhooks w (NotificationService.recordDelivery webhook success w).2
  | createAgent {w : World} {create : AgentProfileCreate}
      {agents : Constrained AgentProfile.id AgentProfile.agentKey}
      (hadd : w.agents.add? (AgentRegistryService.newProfile w.clock create) (fun _ => rfl) =
        some agents) : Write sha256 .agents w {w with agents}
  | saveAgent (w : World) (change : AgentRegistryService.Columns → AgentRegistryService.Columns)
      (hseen : ∀ c, (change c).lastSeenAt = c.lastSeenAt ∨ (change c).lastSeenAt = some w.clock)
      (profile : AgentProfile) :
      Write sha256 .agents w (AgentRegistryService.save change profile w).2
  | recordEntry (w : World) (create : AuditEntryCreate) :
      Write sha256 .auditEntries w (AuditService.record create w).2
  | publish (w : World) (event : CanonicalEvent) :
      Write sha256 .bus w (IngestionService.publish {} event w).2
  | increment (w : World) (name : String) (value : Nat) (tags : List (String × String)) :
      Write sha256 .metrics w (IngestionService.increment name value tags w).2

/-- A sequence of writes to some places. -/
def Writes (sha256 : ByteArray → String) (places : List Place) : World → World → Prop :=
  Relation.ReflTransGen fun w w' => ∃ p ∈ places, Write sha256 p w w'

section Writes
variable {sha256 : ByteArray → String} {places places' : List Place} {w w' w'' : World} {p : Place}

theorem Writes.refl (w : World) : Writes sha256 places w w := Relation.ReflTransGen.refl

theorem Writes.trans (h : Writes sha256 places w w') (h' : Writes sha256 places w' w'') :
    Writes sha256 places w w'' := Relation.ReflTransGen.trans h h'

theorem Writes.single (h : Write sha256 p w w') (hp : p ∈ places) : Writes sha256 places w w' :=
  Relation.ReflTransGen.single ⟨p, hp, h⟩

/-- What each write keeps, a sequence of writes keeps. -/
theorem Writes.relation {R : World → World → Prop} (refl : ∀ w, R w w)
    (trans : ∀ {a b c}, R a b → R b c → R a c)
    (keep : ∀ p ∈ places, ∀ w w', Write sha256 p w w' → R w w') (h : Writes sha256 places w w') :
    R w w' := by
  induction h with
  | refl => exact refl _
  | tail _ hlast ih =>
    obtain ⟨p, hp, hwrite⟩ := hlast
    exact trans ih (keep p hp _ _ hwrite)

theorem Writes.invariant {inv : World → Prop}
    (keep : ∀ p ∈ places, ∀ w w', Write sha256 p w w' → inv w → inv w')
    (h : Writes sha256 places w w') (hinv : inv w) : inv w' := by
  induction h with
  | refl => exact hinv
  | tail _ hlast ih =>
    obtain ⟨p, hp, hwrite⟩ := hlast
    exact keep p hp _ _ hwrite ih

theorem Writes.clock (h : Writes sha256 places w w') : w'.clock = w.clock := by
  refine h.relation (R := fun a b => b.clock = a.clock) (fun _ => rfl)
    (fun hab hbc => hbc.trans hab) fun p _ a b hwrite => ?_
  cases hwrite with
  | writeQuota _ hwrote => exact hwrote.clock
  | _ => rfl

end Writes

abbrev OnlyWrites (sha256 : ByteArray → String) (places : List Place) {α : Type}
    (call : Service α) : Prop :=
  Effect.Keeps (Writes sha256 places) call

/-! ### The rules for calls -/

namespace OnlyWrites
open Effect
variable {sha256 : ByteArray → String} {places places' : List Place} {α β γ : Type} {p : Place}

theorem pure (a : α) : OnlyWrites sha256 places (Pure.pure a : Service α) :=
  Keeps.pure Writes.refl a

theorem raise (e : Exc) : OnlyWrites sha256 places (Effect.raise e : Service α) :=
  Keeps.raise Writes.refl e

theorem gets (f : World → α) : OnlyWrites sha256 places (Effect.gets f : Service α) :=
  Keeps.gets Writes.refl f

theorem bind {m : Service α} {f : α → Service β} (hm : OnlyWrites sha256 places m)
    (hf : ∀ a, OnlyWrites sha256 places (f a)) : OnlyWrites sha256 places (m >>= f) :=
  Keeps.bind (@Writes.trans sha256 places) hm hf

theorem map {m : Service α} {f : α → β} (hm : OnlyWrites sha256 places m) :
    OnlyWrites sha256 places (m >>= fun a => Pure.pure (f a)) :=
  bind hm fun a => pure (f a)

theorem recover {m : Service α} {handler : Exc → Service α} (hm : OnlyWrites sha256 places m)
    (hh : ∀ e, OnlyWrites sha256 places (handler e)) :
    OnlyWrites sha256 places (Effect.recover m handler) :=
  Keeps.recover (@Writes.trans sha256 places) hm hh

theorem rethrow {m : Service α} (f : Exc → Exc) (hm : OnlyWrites sha256 places m) :
    OnlyWrites sha256 places (Effect.recover m fun e => Effect.raise (f e)) :=
  recover hm fun e => raise (f e)

theorem failing {m : Service α} (fault : Option String) (hm : OnlyWrites sha256 places m) :
    OnlyWrites sha256 places (failing fault m) :=
  keeps_failing Writes.refl hm

theorem attempt {m : Service α} {handle : String → α} (hm : OnlyWrites sha256 places m) :
    OnlyWrites sha256 places (attempt m handle) :=
  attempt_keeps Writes.refl Writes.trans handle hm

theorem forEach {body : γ → Service Unit} {cs : List γ}
    (h : ∀ c ∈ cs, OnlyWrites sha256 places (body c)) :
    OnlyWrites sha256 places (Effect.forEach body cs) :=
  Keeps.forEach (@Writes.trans sha256 places) Writes.refl h

theorem mapEach {body : γ → Service α} {cs : List γ}
    (h : ∀ c ∈ cs, OnlyWrites sha256 places (body c)) :
    OnlyWrites sha256 places (Effect.mapEach body cs) :=
  Keeps.mapEach (@Writes.trans sha256 places) Writes.refl h

theorem finds {find : World → Option α} {m : Service α} (h : Finds find m) :
    OnlyWrites sha256 places m :=
  h.keeps Writes.refl

/-- A call that makes one write. -/
theorem once {m : Service α} (h : ∀ w, Write sha256 p w (m w).2) (hp : p ∈ places) :
    OnlyWrites sha256 places m :=
  fun w => Writes.single (h w) hp

end OnlyWrites
end Dox
