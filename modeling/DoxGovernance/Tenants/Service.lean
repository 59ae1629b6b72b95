import DoxGovernance.Accounts
import DoxGovernance.Lib.Text

/-!
# The tenant service

Tenants are created with a unique slug, read, listed, and changed: an update sets the fields
that it names, and a tenant is deactivated and activated by its flag. The service reads and
writes the table of tenants only.
-/

set_option autoImplicit false

namespace Dox

structure TenantCreate where
  slug : String
  name : String
  subscriptionTier : SubscriptionTier := .starter
  slugNonempty : 1 ≤ slug.length := by decide
  slugFits : slug.length ≤ 100 := by decide
  nameNonempty : 1 ≤ name.length := by decide
  nameFits : name.length ≤ 255 := by decide

structure TenantUpdate where
  name : Option String := none
  subscriptionTier : Option SubscriptionTier := none
  isActive : Option Bool := none
  nameBounds : name.all (fun n => 1 ≤ n.length && n.length ≤ 255) = true := by decide

namespace TenantService

/-- `_get_by_slug`. -/
def findBySlug (slug : String) : AccountService (Option Tenant) :=
  Effect.gets fun a => a.tenants.rows.find? fun tenant => tenant.slug = slug

def newTenant (now : Datetime) (create : TenantCreate) (id : Uuid) : Tenant where
  id := id
  slug := create.slug
  name := create.name
  subscriptionTier := create.subscriptionTier
  isActive := true
  createdAt := now

def insert (create : TenantCreate) : AccountService Tenant := fun a =>
  match a.tenants.add? (newTenant a.clock create) fun _ => rfl with
  | some tenants => (.ok (newTenant a.clock create a.tenants.next), {a with tenants})
  | none => (.error (.integrityError "uq_tenants_slug"), a)

def create (create : TenantCreate) : AccountService Tenant := do
  match ← findBySlug create.slug with
  | some _ => Effect.raise (.conflict s!"Tenant with slug '{create.slug}' already exists")
  | none => insert create

def get (tenantId : Uuid) : AccountService Tenant := fun a =>
  match a.tenants.find? tenantId with
  | some tenant => (.ok tenant, a)
  | none => (.error (.notFound s!"Tenant {Text.uuid tenantId} not found"), a)

def getBySlug (slug : String) : AccountService Tenant := do
  match ← findBySlug slug with
  | some tenant => return tenant
  | none => Effect.raise (.notFound s!"Tenant '{slug}' not found")

def listTenants (scan : Scan Tenant) (activeOnly : Bool) (limit offset : Nat) :
    AccountService (List Tenant) :=
  Effect.gets fun a => page offset limit (orderByDesc (·.createdAt)
    (a.tenants.select scan fun tenant => !activeOnly || tenant.isActive))

def patched (update : TenantUpdate) (tenant : Tenant) : Tenant :=
  {tenant with
    name := update.name.getD tenant.name
    subscriptionTier := update.subscriptionTier.getD tenant.subscriptionTier
    isActive := update.isActive.getD tenant.isActive}

def save (tenantId : Uuid) (change : Tenant → Tenant) (hid : ∀ r, (change r).id = r.id)
    (hslug : ∀ r, (change r).slug = r.slug) (tenant : Tenant) : AccountService Tenant :=
  Effect.change fun a =>
    (change tenant, {a with tenants := a.tenants.update tenantId change hid hslug})

def update (tenantId : Uuid) (update : TenantUpdate) : AccountService Tenant := do
  let tenant ← get tenantId
  save tenantId (patched update) (fun _ => rfl) (fun _ => rfl) tenant

def deactivate (tenantId : Uuid) : AccountService Unit := do
  let tenant ← get tenantId
  let _ ← save tenantId ({· with isActive := false}) (fun _ => rfl) (fun _ => rfl) tenant
  return ()

def activate (tenantId : Uuid) : AccountService Tenant := do
  let tenant ← get tenantId
  save tenantId ({· with isActive := true}) (fun _ => rfl) (fun _ => rfl) tenant

/-! ### The world of the other services is left alone -/

section Frame

def SameWorld (a a' : Accounts) : Prop := a'.world = a.world

theorem SameWorld.refl (a : Accounts) : SameWorld a a := rfl

theorem SameWorld.trans {a b c : Accounts} (h : SameWorld a b) (h' : SameWorld b c) :
    SameWorld a c := Eq.trans h' h

theorem findBySlug_keeps (slug : String) : Effect.Keeps SameWorld (findBySlug slug) :=
  Effect.Keeps.gets SameWorld.refl _

theorem insert_keeps (create : TenantCreate) : Effect.Keeps SameWorld (insert create) := by
  intro a
  unfold insert
  split
  · rfl
  · rfl

theorem create_keeps (fields : TenantCreate) : Effect.Keeps SameWorld (create fields) := by
  apply Effect.Keeps.bind @SameWorld.trans (findBySlug_keeps fields.slug)
  intro existing
  cases existing with
  | some tenant => exact Effect.Keeps.raise SameWorld.refl _
  | none => exact insert_keeps fields

theorem get_keeps (tenantId : Uuid) : Effect.Keeps SameWorld (get tenantId) := by
  intro a
  unfold get
  split
  · rfl
  · rfl

theorem save_keeps {tenantId : Uuid} {change : Tenant → Tenant} {hid : ∀ r, (change r).id = r.id}
    {hslug : ∀ r, (change r).slug = r.slug} (tenant : Tenant) :
    Effect.Keeps SameWorld (save tenantId change hid hslug tenant) :=
  Effect.Keeps.change fun _ => rfl

theorem update_keeps (tenantId : Uuid) (fields : TenantUpdate) :
    Effect.Keeps SameWorld (update tenantId fields) :=
  Effect.Keeps.bind @SameWorld.trans (get_keeps tenantId) save_keeps

theorem activate_keeps (tenantId : Uuid) : Effect.Keeps SameWorld (activate tenantId) :=
  Effect.Keeps.bind @SameWorld.trans (get_keeps tenantId) save_keeps

theorem deactivate_keeps (tenantId : Uuid) : Effect.Keeps SameWorld (deactivate tenantId) := by
  apply Effect.Keeps.bind @SameWorld.trans (get_keeps tenantId)
  intro tenant
  apply Effect.Keeps.bind @SameWorld.trans (save_keeps tenant)
  intro _
  exact Effect.Keeps.pure SameWorld.refl ()

end Frame

end TenantService
end Dox
