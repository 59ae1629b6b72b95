import DoxGovernance.Exceptions
import DoxGovernance.Lib.Table
import DoxGovernance.Lib.Text
import DoxGovernance.Schemas.Enums
import Mathlib.Data.String.Basic

/-!
# Authentication and authorisation

A bearer token is decoded to its claims by the token library, and a route is open to the
roles that it lists. Of the claims, only the role is looked at.
-/

set_option autoImplicit false

namespace Dox

structure TokenPayload where
  sub : String
  tenantId : String
  role : String
  exp : Int

/-- What the token library makes of a token: its claims, or why it is refused. -/
abbrev JwtDecode := String → Except String TokenPayload

def decodeAccessToken (jwt : JwtDecode) (token : String) : Except Exc TokenPayload :=
  match jwt token with
  | .ok payload => .ok payload
  | .error message => .error (.authentication s!"Invalid or expired token: {message}")

def getCurrentUser (jwt : JwtDecode) : Option String → Except Exc TokenPayload
  | none => .error (.authentication "Missing bearer token")
  | some token => decodeAccessToken jwt token

/-- `str(values)` of a list of strings. -/
def listRepr (values : List String) : String :=
  "[" ++ ", ".intercalate (values.map Text.repr) ++ "]"

def roleMessage (allowed : List String) (role : String) : String :=
  s!"Role '{role}' is not authorised for this operation; required: " ++
    listRepr (orderByAsc id allowed)

def requireRole (roles : List UserRole) (payload : TokenPayload) : Except Exc TokenPayload :=
  if payload.role ∈ roles.map UserRole.value then .ok payload
  else .error (.authorization (roleMessage (roles.map UserRole.value) payload.role))

example : roleMessage ["operator", "admin"] "viewer" =
    "Role 'viewer' is not authorised for this operation; required: ['admin', 'operator']" := by
  decide +kernel

end Dox
