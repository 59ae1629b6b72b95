/-!
# Exceptions

The exceptions of `common.exceptions` that the modelled services raise, with their codes,
and those of the libraries below them: a violated unique constraint, a value that its
column cannot hold, a string without a UTF-8 encoding, a refused enumeration value, and
any other failure of the infrastructure with its message. What a third party's code raises is
known by what `str()` does with it.
-/

set_option autoImplicit false

namespace Dox

/-- An exception, by what `str()` does with it: it returns a text, or raises another one. -/
inductive PyException where
  | printable (name text : String)
  | unprintable (name : String) (raised : PyException)

abbrev Py (α : Type) := Except PyException α

def PyException.str : PyException → Py String
  | printable _ text => .ok text
  | unprintable _ raised => .error raised

def PyException.Printable (exc : PyException) : Prop := ∃ text, exc.str = .ok text

instance (exc : PyException) : Decidable exc.Printable :=
  match exc with
  | .printable _ text => .isTrue ⟨text, rfl⟩
  | .unprintable _ _ => .isFalse fun h => nomatch h

inductive Exc where
  | notFound (detail : String)
  | authentication (detail : String)
  | authorization (detail : String)
  | quotaExceeded (detail : String)
  | conflict (detail : String)
  | httpException (status : Nat) (detail : String)
  | integrityError (constraint : String)
  | dataError (message : String)
  | unicodeEncodeError
  | valueError (message : String)
  | outage (message : String)
deriving DecidableEq, Repr

namespace Exc

/-- `str(exc)`. -/
def str : Exc → String
  | notFound detail | authentication detail | authorization detail | quotaExceeded detail
  | conflict detail => detail
  | httpException status detail => s!"{status}: {detail}"
  | integrityError c => s!"duplicate key value violates unique constraint '{c}'"
  | unicodeEncodeError => "'utf-8' codec can't encode characters: surrogates not allowed"
  | dataError message | valueError message | outage message => message

/-- An exception that escapes a service, by its message; one without a text by its name. -/
def ofPy : PyException → Exc
  | .printable _ text => outage text
  | .unprintable name _ => outage name

/-- The code of a `DoxException`. -/
def code : Exc → Option String
  | notFound _ => some "not_found"
  | authentication _ => some "authentication_error"
  | authorization _ => some "authorization_error"
  | quotaExceeded _ => some "quota_exceeded"
  | conflict _ => some "conflict"
  | _ => none

end Exc

end Dox
