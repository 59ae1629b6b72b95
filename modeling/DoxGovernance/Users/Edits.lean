import DoxGovernance.Lib.WriteBack
import DoxGovernance.Auth.Service

/-!
# Concurrent changes of a user

Updates, deactivations and changes of password of one user, each in its own database session, as
two steps: the row is read and changed in memory, and the columns that have changed are written in
one commit. A change that has returned stands, unless another one that sets the same column was
still running when it began, or began later.
-/

set_option autoImplicit false

namespace Dox
namespace UserEdits

inductive Column where
  | hashedPassword | role | isActive
deriving DecidableEq

def Column.Value : Column → Type
  | .hashedPassword => String
  | .role => UserRole
  | .isActive => Bool

instance : ∀ c : Column, DecidableEq c.Value
  | .hashedPassword => inferInstanceAs (DecidableEq String)
  | .role => inferInstanceAs (DecidableEq UserRole)
  | .isActive => inferInstanceAs (DecidableEq Bool)

def Column.read : ∀ c : Column, User → c.Value
  | .hashedPassword => User.hashedPassword
  | .role => User.role
  | .isActive => User.isActive

/-- The value a column has after an update that sets it only when it was changed in memory. -/
def column {α : Type} [DecidableEq α] (f : User → α) (loaded changed current : User) : α :=
  if f changed = f loaded then f current else f changed

/-- `UPDATE` with the changed columns, on the row that is committed now. -/
def flush (loaded changed current : User) : User :=
  {current with
    hashedPassword := column (·.hashedPassword) loaded changed current
    role := column (·.role) loaded changed current
    isActive := column (·.isActive) loaded changed current}

def layout : WriteBack.Layout User Column.Value Unit where
  read := Column.read
  flush _ := flush
  read_flush _ _ _ _ c := by cases c <;> rfl

/-- The calls that change a user; a change of password comes with what hashing has given. -/
inductive Request where
  | update (patch : UserUpdate)
  | deactivate
  | changePassword (hashed : Except String String)

def Request.edit : Request → User → User
  | .update patch => UserService.patched patch
  | .deactivate => ({· with isActive := false})
  | .changePassword (.ok hashed) => ({· with hashedPassword := hashed})
  | .changePassword (.error _) => id

def Request.assigns : Request → ∀ c : Column, Option c.Value
  | .update patch, .role => patch.role
  | .update patch, .isActive => patch.isActive
  | .deactivate, .isActive => some false
  | .changePassword (.ok hashed), .hashedPassword => some hashed
  | _, _ => none

theorem read_edit (request : Request) (user : User) (c : Column) :
    c.read (request.edit user) = (request.assigns c).getD (c.read user) := by
  cases request with
  | update patch => cases c <;> rfl
  | deactivate => cases c <;> rfl
  | changePassword hashed => cases hashed <;> cases c <;> rfl

def edits : WriteBack.Edits layout Request := ⟨Request.edit, Request.assigns, read_edit⟩

/-! ### A call that is not interrupted -/

theorem flush_self (loaded changed : User) (hid : changed.id = loaded.id)
    (hemail : changed.email = loaded.email) (htenant : changed.tenantId = loaded.tenantId)
    (hcreated : changed.createdAt = loaded.createdAt) : flush loaded changed loaded = changed := by
  have hcolumn : ∀ {α : Type} [DecidableEq α] (f : User → α),
      column f loaded changed loaded = f changed := by
    intro α _ f
    unfold column
    split
    · exact (by assumption : f changed = f loaded).symm
    · rfl
  unfold flush
  simp only [hcolumn, ← hid, ← hemail, ← htenant, ← hcreated]

/-- Alone, a session leaves the row that the call makes of it. -/
theorem alone_edit (request : Request) (user : User) :
    (Sessions.alone (WriteBack.act edits) [(), ()] (user, .waiting request)).1 =
      request.edit user := by
  show flush user (request.edit user) user = request.edit user
  cases request with
  | update patch => exact flush_self _ _ rfl rfl rfl rfl
  | deactivate => exact flush_self _ _ rfl rfl rfl rfl
  | changePassword hashed => cases hashed <;> exact flush_self _ _ rfl rfl rfl rfl

section Service
variable {a : Accounts} {user : User} (h : a.users.find? user.id = some user)
include h

theorem update_stores (patch : UserUpdate) :
    (UserService.update user.id patch a).2.users.find? user.id =
      some (Request.edit (.update patch) user) := by
  rw [UserService.update, Effect.bind_ok (UserService.get_of_find h)]
  refine (Numbered.find?_update _ _ _ _ _).trans ?_
  rw [if_pos rfl, h]
  rfl

theorem deactivate_stores :
    (UserService.deactivate user.id a).2.users.find? user.id =
      some (Request.edit .deactivate user) := by
  rw [UserService.deactivate, Effect.bind_ok (UserService.get_of_find h)]
  refine (Numbered.find?_update _ _ _ _ _).trans ?_
  rw [if_pos rfl, h]
  rfl

theorem changePassword_stores (bcrypt : Bcrypt) (salt newPassword : String) :
    (UserService.changePassword bcrypt salt user.id newPassword a).2.users.find? user.id =
      some (Request.edit (.changePassword (bcrypt.hashpw salt newPassword)) user) := by
  rw [UserService.changePassword, Effect.bind_ok (UserService.get_of_find h)]
  unfold UserService.hashPassword
  cases bcrypt.hashpw salt newPassword with
  | error message => exact h
  | ok hashed =>
    refine (Numbered.find?_update _ _ _ _ _).trans ?_
    rw [if_pos rfl, h]
    rfl

end Service

/-! ### Every interleaving -/

/-- The row and the sessions after a schedule. -/
def after (user : User) (requests : Nat → Request) (schedule : List Nat) :
    Sessions User (WriteBack.Session User Request) :=
  (schedule.map fun i => (i, ())).foldl (Sessions.step (WriteBack.act edits))
    (WriteBack.start user requests)

/-- A change that has returned stands: the column holds its value, when every call that sets the
column to another one had returned before the change began. -/
theorem change_stands (user : User) (requests : Nat → Request) {before rest : List Nat} {i : Nat}
    {c : Column} {v : c.Value} (hassigns : (requests i).assigns c = some v)
    (hwaits : ((after user requests before).session i).Waits)
    (hended : ((after user requests (before ++ rest)).session i).Ended)
    (hrivals : ∀ j, ¬((after user requests before).session j).Ended →
      ∀ v', (requests j).assigns c = some v' → v' = v) :
    c.read (after user requests (before ++ rest)).shared = v := by
  unfold after at hended ⊢
  rw [List.map_append] at hended ⊢
  exact WriteBack.stands hassigns hwaits hended hrivals

/-- A change of password and a deactivation, read at the same time. -/
def sampleRequests : Nat → Request
  | 0 => .deactivate
  | _ => .changePassword (.ok "hash")

theorem change_stands_sample :
    Column.isActive.read (after sampleRow sampleRequests ([] ++ [0, 1, 0, 1])).shared = false := by
  refine change_stands sampleRow sampleRequests (i := 0) (c := .isActive) (v := false) rfl
    trivial trivial fun j _ v' hv' => ?_
  rcases j with - | j
  · exact (Option.some.inj hv').symm
  · cases hv'

end UserEdits
end Dox
