import PriorityGateway.Coordination.Types

/-! # Errors

    Errors as the coordination code tells them apart: through `errors.As` and
    `errors.Is`, which look through wrapped and joined errors. -/

namespace Coordination

/-- An error value; `nil` is the absent error. -/
inductive Err where
  | nil
  | text (message : String)
  /-- an error of the driver, which knows whether nothing was sent yet -/
  | connection (message : String) (safeToRetry : Bool)
  | canceled
  | deadlineExceeded
  | pgError (code : String)
  | reasonError (reason : Reason)
  | permanentError (err : Err)
  | join (err other : Err)
  deriving DecidableEq, Repr

namespace Err

def isPermanent : Err → Bool
  | .permanentError _ => true
  | .join err other => err.isPermanent || other.isPermanent
  | _ => false

def isReason : Err → Bool
  | .reasonError _ => true
  | .permanentError err => err.isReason
  | .join err other => err.isReason || other.isReason
  | _ => false

/-- The error is or wraps `context.Canceled` or `context.DeadlineExceeded`. -/
def isCancellation : Err → Bool
  | .canceled | .deadlineExceeded => true
  | .permanentError err => err.isCancellation
  | .join err other => err.isCancellation || other.isCancellation
  | _ => false

/-- The code of the first PostgreSQL error in it. -/
def pgCode : Err → Option String
  | .pgError code => some code
  | .permanentError err => err.pgCode
  | .join err other => err.pgCode.or other.pgCode
  | _ => none

def safeToRetry : Err → Bool
  | .connection _ safe => safe
  | .permanentError err => err.safeToRetry
  | .join err other => err.safeToRetry || other.safeToRetry
  | _ => false

end Err

/-- `IsCallerCancellation`; `done` tells whether the caller's context has ended. -/
def isCallerCancellation (done : Bool) (err : Err) : Bool :=
  done && !err.isPermanent && err.isCancellation

/-- The first two characters of an error code. -/
def errorClass (code : String) : List Char := code.toList.take 2

def permanentCoordinationError (err : Err) : Bool :=
  if err.isPermanent then true
  else if err.isReason || err.isCancellation then false
  else
    match err.pgCode with
    | none => false
    | some code =>
      errorClass code ∈ [['2', '2'], ['2', '3'], ['4', '2'], ['X', 'X']]

def retryableCoordinationError (err : Err) : Bool :=
  match err.pgCode with
  | some code => code == "40001" || code == "40P01" || errorClass code == ['0', '8']
  | none => err.safeToRetry

end Coordination
