import Mathlib.Tactic.Common

/-!
# Errors

The errors that reach a response.  A wrapped error adds a text and keeps its
cause, which decides the status of the response.
-/

namespace ErpFinance.Runtime

inductive Error where
  | validation (fields : List (String × String))
  | business (code message : String) (status : Nat)
  | notFound (entityName id : String)
  /-- An error of no type the runtime knows: of the database, a cache or a hook. -/
  | other (text : String)
  | wrapped (context : String) (cause : Error)

namespace Error

/-- What `errors.As` finds at the end of the chain. -/
def root : Error → Error
  | wrapped _ cause => cause.root
  | error => error

def httpStatus (error : Error) : Nat :=
  match error.root with
  | notFound _ _ => 404
  | validation _ => 422
  | business _ _ status => status
  | _ => 500

def isUnauthorized (error : Error) : Bool :=
  match error.root with
  | business _ _ status => status = 401
  | _ => false

end Error

end ErpFinance.Runtime
