import PriorityGateway.Framework.Interaction
import PriorityGateway.Gateway.Service

/-! # Forwarding

    `Proxy.Forward` sends a request to its target and copies the response to
    the client as it comes.  If nothing of a response has been passed on yet
    it may try one other target.

    The environment is everything that answers: the upstream, the client's
    connection, the caller's context, the selector of targets, and any call
    that panics instead of returning.  Its answers are functions of what has
    happened so far.  A context that has ended stays ended.

    The usage inspector reads what has been passed on; what it makes of it is
    left open. -/

namespace Proxy

open Coordination (InferenceOutcome)
open Gateway (Target ProxyRequest)
open Interaction

/-! ## What happens -/

inductive ReadError where
  | eof
  | other (text : String)
  deriving DecidableEq, Repr

inductive Event where
  /-- an attempt starts -/
  | began (target : Target)
  | sent (url : Bytes) (headers : Header) (body : Bytes)
  | responded (status : Int) (header : Header)
  /-- there is no response -/
  | failed (text : String)
  | read (data : Bytes) (err : Option ReadError)
  /-- what `ctx.Err()` shows -/
  | sawContext (cancelled : Bool)
  /-- status and header go to the client -/
  | wroteHeader (status : Int) (header : Header)
  /-- the client's connection has taken the first `n` bytes -/
  | wrote (data : Bytes) (n : Nat) (err : Option String)
  | flushed
  | inspected
  | closed
  | completed (target : Target) (outcome : InferenceOutcome)
  | selecting (exclude : List Int)
  | selected (next : Option Target)
  /-- a call has panicked -/
  | panicked

structure Response where
  status : Int
  header : Header

structure Read where
  data : Bytes
  err : Option ReadError

/-- What a write of so many bytes may return. -/
structure Write (length : Nat) where
  n : Nat
  err : Option String
  n_le : n ≤ length

structure Environment where
  /-- the caller's context has ended -/
  cancelled : List Event → Bool
  cancelled_append : ∀ t es, cancelled t = true → cancelled (t ++ es) = true
  panics : List Event → Bool
  clock : List Event → Int
  /-- why the upstream request cannot be created, if it cannot -/
  create : List Event → Option String
  roundTrip : List Event → Except String Response
  read : List Event → Read
  write : List Event → (data : Bytes) → Write data.length
  select : List Event → Except String Target
  /-- the client's response header before the response -/
  header : Header
  /-- the response writer is a flusher -/
  flushes : Bool
  /-- the target has a `Complete` -/
  completes : Target → Bool
  /-- the request has a `SelectAlternate` -/
  selects : Bool

/-- `usageInspector` -/
structure Inspector (U : Type) where
  State : Type
  new : Bytes → State
  write : State → Bytes → State
  /-- the usage, the format, and whether parsing failed -/
  result : State → Option U × String × Bool

inductive Failure where
  /-- "create upstream request: %w" -/
  | create (text : String)
  | transport (text : String)
  /-- `ctx.Err()` -/
  | context
  | write (text : String)
  | shortWrite
  | read (text : String)
  /-- "select retry backend: %w" -/
  | select (text : String)
  deriving DecidableEq, Repr

structure Result (U : Type) where
  backendID : Int
  status : Int := 0
  bytesSent : Nat := 0
  firstByte : Int := 0
  retryCount : Nat := 0
  responseStarted : Bool := false
  cancelled : Bool := false
  usage : Option U := none
  usageParseFailure : String := ""
  upstreamFailure : String := ""
  err : Option Failure := none

/-! ## The response copier -/

section Program

variable (E : Environment) {U : Type} (I : Inspector U)

/-- A call into the environment, which may panic. -/
def call {β : Type} (answer : List Event → β) (event : β → Event) : Prog Event β := fun t =>
  if E.panics t then ([.panicked], .panicked)
  else ([event (answer t)], .returned (answer t))

/-- `ctx.Err() != nil` -/
def ctxErr : Prog Event Bool := fun t =>
  ([.sawContext (E.cancelled t)], .returned (E.cancelled t))

/-- `time.Now()` -/
def timeNow : Prog Event Int := fun t => ([], .returned (E.clock t))

def interruptedOutcome (status : Int) (provenReadFailure : Bool) : InferenceOutcome :=
  if 500 ≤ status ∨ provenReadFailure then .inferenceFailure else .inferenceNeutral

/-- The fields of `responseCopier` that change. -/
structure Copier where
  result : Result U
  inspector : I.State
  firstRead : Bool := true

def commit (response : Response) (started : Int) (c : Copier I) : Prog Event (Copier I) :=
  if c.result.responseStarted then pure c
  else do
    call E (fun _ => ()) fun _ =>
      .wroteHeader response.status (copyResponseHeaders E.header response.header)
    let now ← timeNow E
    pure { c with result :=
      { c.result with firstByte := now - started, responseStarted := true } }

def flush : Prog Event Unit := if E.flushes then call E (fun _ => ()) fun _ => .flushed else pure ()

/-- `write`; an outcome ends the attempt. -/
def write (response : Response) (started : Int) (data : Bytes) (provenReadFailure : Bool)
    (c : Copier I) : Prog Event (Copier I × Option InferenceOutcome) := do
  let c ← commit E I response started c
  let w ← call E (fun t => E.write t data) fun w => .wrote data w.n w.err
  let c := { c with result := { c.result with bytesSent := c.result.bytesSent + w.n } }
  flush E
  call E (fun _ => ()) fun _ => .inspected
  let c := { c with inspector := I.write c.inspector (data.take w.n) }
  if w.err = none ∧ w.n = data.length then pure (c, none)
  else do
    let cancelled ← ctxErr E
    let err := match w.err with
      | none => Failure.shortWrite
      | some text => .write text
    pure ({ c with result := { c.result with err := some err, cancelled := cancelled } },
      some (interruptedOutcome response.status provenReadFailure))

/-- What `copy` returns, with the result it has filled in. -/
structure Copied (U : Type) where
  result : Result U
  retryable : Bool
  outcome : InferenceOutcome

/-- `target.Complete(outcome)`, if there is one; it has run even if it panics. -/
def complete (target : Target) (outcome : InferenceOutcome) : Prog Event Unit := fun t =>
  if E.completes target then
    if E.panics t then ([.completed target outcome, .panicked], .panicked)
    else ([.completed target outcome], .returned ())
  else ([], .returned ())

end Program

end Proxy
