import DoxGovernance.World

/-!
# The accounts of users and tenants

The tables of users and tenants beside the world of the other services. `issued` lists every
access token that was created, in order; the code never reads it.
-/

set_option autoImplicit false

namespace Dox

/-- A token, by the user it was issued to as the row then stood, and the time of issue. -/
structure Issue where
  user : User
  time : Datetime

structure Accounts where
  world : World
  users : Constrained User.id User.email := ∅
  tenants : Constrained Tenant.id Tenant.slug := ∅
  issued : List Issue := []

def Accounts.clock (a : Accounts) : Datetime := a.world.clock

def Accounts.at (a : Accounts) (t : Datetime) : Accounts := {a with world := a.world.at t}

abbrev AccountService (α : Type) := Effect Accounts Exc α

end Dox
