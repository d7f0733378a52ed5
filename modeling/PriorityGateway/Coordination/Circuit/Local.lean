import PriorityGateway.Framework.System
import PriorityGateway.Framework.Table
import PriorityGateway.Coordination.Local.ExpiryQueue
import PriorityGateway.Coordination.Circuit.Breaker

/-! # The Local Circuit Coordinator

    The in-process coordinator keeps one breaker per backend and one record
    per attempt.  An attempt is terminal once it was completed, its permit
    expired or its backend changed; terminal attempts are kept for a day, so
    that a repeated completion is recognised, and are evicted earlier when the
    table is full.

    Every public call holds the mutex for its whole body.  A call whose
    context is already cancelled returns before it and is not a step.  The
    function that `Breaker.Acquire` returned is kept as what it captured; it is
    only called while the attempt is not terminal, and then the backend still
    has the breaker it was acquired from. -/

namespace Coordination.LocalCircuit

open CircuitBreaker (Options Breaker Completion)

/-! ## State -/

structure CircuitEntry where
  identity : BackendIdentity
  breaker : Breaker
  deriving DecidableEq, Repr

structure CircuitAttempt where
  fingerprint : Nat
  backend : BackendIdentity
  generation : Int
  permit : Option ProbeIdentity := none
  complete : Completion
  ttl : Int := 0
  terminal : Bool := false
  completion : Option CircuitCompletion := none
  acquiredAt : Int
  retainUntil : Int := 0
  deriving DecidableEq, Repr

structure CircuitCoordinator where
  circuits : Table Int CircuitEntry
  attempts : Table UUID CircuitAttempt
  expiries : ExpiryQueue
  terminalExpiries : ExpiryQueue
  attemptCapacity : Int

def defaultLocalCircuitAttemptCapacity : Int := 65536

def newCircuitCoordinator (attemptCapacity : Int) : CircuitCoordinator where
  circuits := ∅
  attempts := ∅
  expiries := MinHeap.empty
  terminalExpiries := MinHeap.empty
  attemptCapacity :=
    if attemptCapacity ≤ 0 then defaultLocalCircuitAttemptCapacity else attemptCapacity

def circuitRetentionBoundary (first : Int) (rest : List Int) : Int :=
  rest.foldl max first + receiptRetention

section Operations

variable (o : Options)

/-! ## Expiry -/

/-- Calls the completion function of an attempt. -/
def runCompletion (s : CircuitCoordinator) (attempt : CircuitAttempt) (outcome : InferenceOutcome)
    (completedAt : Int) : CircuitCoordinator :=
  match s.circuits.lookup attempt.backend.id with
  | none => s
  | some entry =>
    { s with
      circuits := s.circuits.insert attempt.backend.id
        { entry with
          breaker :=
            CircuitBreaker.complete o entry.breaker attempt.complete outcome completedAt } }

/-- Makes an attempt terminal and queues it for deletion. -/
def retire (s : CircuitCoordinator) (id : UUID) (attempt : CircuitAttempt) (retainUntil : Int) :
    CircuitCoordinator :=
  { s with
    attempts := s.attempts.insert id { attempt with terminal := true, retainUntil := retainUntil }
    terminalExpiries := s.terminalExpiries.add .circuitAttemptExpiry id retainUntil }

/-- The effect of one due permit entry. -/
def expirePermitEntry (s : CircuitCoordinator) (now : Int) (expiry : ExpiryEntry) :
    CircuitCoordinator :=
  match s.attempts.lookup expiry.id with
  | none => s
  | some attempt =>
    match expiry.kind, attempt.permit with
    | .circuitPermitExpiry, some permit =>
      if attempt.terminal ∨ permit.expiresAt ≠ expiry.at' ∨ now < permit.expiresAt then s
      else
        retire (runCompletion o s attempt .inferenceFailure permit.expiresAt) expiry.id attempt
          (circuitRetentionBoundary now [attempt.acquiredAt, permit.expiresAt])
    | _, _ => s

/-- One round of the first loop of `expire`. -/
def expirePermitRound (now : Int) (s : CircuitCoordinator) : Option CircuitCoordinator :=
  match s.expiries.due now with
  | none => none
  | some (expiry, queue) => some (expirePermitEntry o { s with expiries := queue } now expiry)

/-- The effect of one due entry of a terminal attempt. -/
def expireAttemptEntry (s : CircuitCoordinator) (now : Int) (expiry : ExpiryEntry) :
    CircuitCoordinator :=
  match s.attempts.lookup expiry.id with
  | none => s
  | some attempt =>
    if attempt.terminal ∧ attempt.retainUntil = expiry.at' ∧ ¬ now < attempt.retainUntil then
      { s with attempts := s.attempts.erase expiry.id }
    else s

/-- One round of the second loop of `expire`. -/
def expireAttemptRound (now : Int) (s : CircuitCoordinator) : Option CircuitCoordinator :=
  match s.terminalExpiries.due now with
  | none => none
  | some (expiry, queue) =>
    some (expireAttemptEntry { s with terminalExpiries := queue } now expiry)

def expirePermits (s : CircuitCoordinator) (now : Int) : CircuitCoordinator :=
  iterate (expirePermitRound o now) s.expiries.size s

def expireAttempts (s : CircuitCoordinator) (now : Int) : CircuitCoordinator :=
  iterate (expireAttemptRound now) s.terminalExpiries.size s

def expire (s : CircuitCoordinator) (now : Int) : CircuitCoordinator :=
  expireAttempts (expirePermits o s now) now

/-! ## Attempt room -/

/-- The entry at the root of the terminal queue belongs to a stored terminal attempt. -/
def rootIsTerminal (s : CircuitCoordinator) (expiry : ExpiryEntry) : Bool :=
  match s.attempts.lookup expiry.id with
  | none => false
  | some attempt =>
    attempt.terminal && decide (attempt.retainUntil ≠ 0) &&
      decide (attempt.retainUntil = expiry.at')

/-- One round of `hasTerminalAttempt`: a stale root is popped. -/
def dropStaleRound (s : CircuitCoordinator) : Option CircuitCoordinator :=
  match s.terminalExpiries.pop with
  | none => none
  | some (expiry, queue) =>
    if rootIsTerminal s expiry then none else some { s with terminalExpiries := queue }

/-- The cleaning that `hasTerminalAttempt` does; it answers whether an entry is left. -/
def dropStale (s : CircuitCoordinator) : CircuitCoordinator :=
  iterate dropStaleRound s.terminalExpiries.size s

def hasTerminalAttempt (s : CircuitCoordinator) : CircuitCoordinator × Bool :=
  (dropStale s, (dropStale s).terminalExpiries.peek.isSome)

/-- One round of `makeAttemptRoom`: while the table is full, the oldest
    terminal attempt goes.  Without one the queue is left empty and the loop ends. -/
def makeRoomRound (s : CircuitCoordinator) : Option CircuitCoordinator :=
  if (Table.size s.attempts : Int) < s.attemptCapacity ∨ s.terminalExpiries.peek = none then none
  else
    match (hasTerminalAttempt s).1.terminalExpiries.pop with
    | none => some (hasTerminalAttempt s).1
    | some (expiry, queue) =>
      some { (hasTerminalAttempt s).1 with
        terminalExpiries := queue
        attempts := (hasTerminalAttempt s).1.attempts.erase expiry.id }

def makeAttemptRoom (s : CircuitCoordinator) : CircuitCoordinator × Bool :=
  let s' := iterate makeRoomRound s.terminalExpiries.size s
  (s', decide ((Table.size s'.attempts : Int) < s'.attemptCapacity))

/-- `Status`: whether the coordinator is available. -/
def status (s : CircuitCoordinator) (now : Int) : CircuitCoordinator × Bool :=
  let s := expire o s now
  if (Table.size s.attempts : Int) < s.attemptCapacity then (s, true) else hasTerminalAttempt s

/-! ## Snapshots -/

def toCircuitSnapshot (id : BackendIdentity) (s : CircuitBreaker.Snapshot) : CircuitSnapshot where
  backend := id
  state := some s.state
  generation := s.generation
  failureCount := s.failureCount
  retryAt := s.retryAt
  probesInFlight := s.probesInFlight
  available := s.available

def snapshot (s : CircuitCoordinator) (id : Int) (at' : Int) :
    CircuitCoordinator × CircuitSnapshot :=
  match s.circuits.lookup id with
  | none => (s, { backend := { id := id }, state := some .circuitOpen })
  | some entry =>
    let (breaker, snap) := CircuitBreaker.snapshot o entry.breaker at'
    ({ s with circuits := s.circuits.insert id { entry with breaker := breaker } },
      toCircuitSnapshot entry.identity snap)

/-! ## Acquire -/

def probePermit (req : CircuitAcquireRequest) (generation now : Int) : ProbeIdentity where
  permitID := req.attemptID
  backend := req.backend
  generation := generation
  replicaID := req.replicaID
  expiresAt := now + req.probeTTL
  ttl := req.probeTTL

/-- Records an attempt that the breaker let pass. -/
def record (s : CircuitCoordinator) (now : Int) (fingerprint : Nat) (req : CircuitAcquireRequest)
    (snap : CircuitSnapshot) (complete : Completion) :
    CircuitCoordinator × CircuitDecision :=
  let attempt : CircuitAttempt :=
    { fingerprint := fingerprint, backend := req.backend, generation := snap.generation,
      complete := complete, acquiredAt := req.acquisitionStartedAt }
  if snap.state = some .circuitHalfOpen then
    let permit := probePermit req snap.generation now
    ({ s with
      expiries := s.expiries.add .circuitPermitExpiry req.attemptID permit.expiresAt
      attempts := s.attempts.insert req.attemptID
        { attempt with permit := some permit, ttl := req.probeTTL } },
      { snapshot := snap, permit := some permit })
  else
    ({ s with attempts := s.attempts.insert req.attemptID attempt }, { snapshot := snap })

/-- The end of `Acquire`: the breaker of a current backend is asked. -/
def askBreaker (s : CircuitCoordinator) (now : Int) (fingerprint : Nat)
    (req : CircuitAcquireRequest) (entry : CircuitEntry) : CircuitCoordinator × CircuitDecision :=
  let (breaker, complete) := CircuitBreaker.acquire o entry.breaker now
  let (breaker, snapped) := CircuitBreaker.snapshot o breaker now
  let snap := toCircuitSnapshot entry.identity snapped
  let s := { s with circuits := s.circuits.insert req.backend.id { entry with breaker := breaker } }
  match complete with
  | none =>
    (s, { snapshot := snap
          reason := some
            (if snap.state = some .circuitHalfOpen then .probeCapacityExhausted
              else .circuitOpen) })
  | some complete => record s now fingerprint req snap complete

/-- `Acquire` for an attempt id that has no record. -/
def acquireNew (s : CircuitCoordinator) (now : Int) (fingerprint : Nat)
    (req : CircuitAcquireRequest) : CircuitCoordinator × CircuitDecision :=
  let (s, room) := makeAttemptRoom s
  if !room then
    let (s, snap) := snapshot o s req.backend.id now
    (s, { snapshot := snap, reason := some .coordinationUnavailable })
  else
    match s.circuits.lookup req.backend.id with
    | none => (s, { reason := some .staleBackend })
    | some entry =>
      if entry.identity ≠ req.backend ∨ !req.backend.enabled ∨ req.backend.draining then
        (s, { reason := some .staleBackend })
      else if !fresh req.acquisitionStartedAt now then (s, { reason := some .staleOperation })
      else askBreaker o s now fingerprint req entry

def acquire (fingerprint : CircuitAcquireRequest → Nat) (s : CircuitCoordinator) (now : Int)
    (req : CircuitAcquireRequest) : CircuitCoordinator × CircuitDecision :=
  let s := expire o s now
  match s.attempts.lookup req.attemptID with
  | some old =>
    if old.fingerprint ≠ fingerprint req then (s, { reason := some .idempotencyConflict })
    else
      let (s, snap) := snapshot o s req.backend.id now
      if old.terminal then (s, { snapshot := snap, reason := some .leaseLost })
      else (s, { snapshot := snap, permit := old.permit })
  | none => acquireNew o s now (fingerprint req) req

/-! ## Complete -/

/-- Records the completion of an attempt. -/
def settleAttempt (s : CircuitCoordinator) (now : Int) (attempt : CircuitAttempt)
    (value : CircuitCompletion) : CircuitCoordinator :=
  let s' :=
    if attempt.terminal then s
    else runCompletion o s attempt value.outcome value.reportedOutcomeAt
  retire s' value.attemptID { attempt with completion := some value }
    (circuitRetentionBoundary now [attempt.acquiredAt, value.reportedOutcomeAt])

/-- What `Complete` does after `expire`, and the reason it returns as an error. -/
def completeEntry (s : CircuitCoordinator) (now : Int) (value : CircuitCompletion) :
    CircuitCoordinator × Option Reason :=
  match s.attempts.lookup value.attemptID with
  | none => (s, if fresh value.reportedOutcomeAt now then none else some .staleOperation)
  | some attempt =>
    match attempt.completion with
    | some completion => (s, if completion ≠ value then some .idempotencyConflict else none)
    | none =>
      if !fresh value.reportedOutcomeAt now then (s, some .staleOperation)
      else if attempt.backend ≠ value.backend ∨ attempt.generation ≠ value.generation then
        (s, some .idempotencyConflict)
      else (settleAttempt o s now attempt value, none)

def complete (s : CircuitCoordinator) (now : Int) (value : CircuitCompletion) :
    CircuitCoordinator × CircuitSnapshot × Option Reason :=
  let (s, reason) := completeEntry o (expire o s now) now value
  let (s, snap) := snapshot o s value.backend.id now
  (s, snap, reason)

/-! ## RenewProbes -/

/-- The zero value of `LeaseIdentity`. -/
def zeroLease : LeaseIdentity where
  leaseID := 0
  clientID := 0
  poolID := 0
  requestID := ""
  replicaID := 0
  expiresAt := 0
  ttl := 0

def renewProbe (now : Int) (s : CircuitCoordinator) (p : ProbeIdentity) :
    CircuitCoordinator × RenewResult :=
  let lost : RenewResult := { lease := zeroLease, reason := some .leaseLost }
  match s.attempts.lookup p.permitID with
  | none => (s, lost)
  | some a =>
    match a.permit with
    | none => (s, lost)
    | some permit =>
      if a.terminal ∨ permit.generation ≠ p.generation then (s, lost)
      else
        let ttl := if a.ttl ≤ 0 then p.ttl else a.ttl
        if ttl ≤ 0 then
          (s, { lease := { zeroLease with leaseID := p.permitID }, reason := some .leaseLost })
        else
          ({ s with
            attempts := s.attempts.insert p.permitID
              { a with permit := some { permit with expiresAt := now + ttl } }
            expiries := s.expiries.add .circuitPermitExpiry p.permitID (now + ttl) },
            { lease :=
                { zeroLease with leaseID := p.permitID, expiresAt := now + ttl, ttl := ttl } })

/-- The loop of `RenewProbes`, as a machine whose calls are the probes. -/
def renewLoop (now : Int) : Machine CircuitCoordinator ProbeIdentity RenewResult where
  step := renewProbe now

def renewProbes (s : CircuitCoordinator) (now : Int) (probes : List ProbeIdentity) :
    CircuitCoordinator × List RenewResult :=
  let s := expire o s now
  ((renewLoop now).after s probes, (renewLoop now).answers s probes)

/-! ## Reconcile -/

/-- An attempt of a backend that has changed. -/
def invalidates (backendID : Int) (attempt : CircuitAttempt) : Bool :=
  decide (attempt.backend.id = backendID) && !attempt.terminal

/-- `invalidate`; the attempts are visited in the order of the table. -/
def invalidate (s : CircuitCoordinator) (backendID now : Int) : CircuitCoordinator :=
  { s with
    attempts := s.attempts.mapRows (fun _ a =>
      if invalidates backendID a then
        { a with terminal := true, retainUntil := circuitRetentionBoundary now [a.acquiredAt] }
      else a)
    terminalExpiries := s.attempts.entries.foldl (fun queue e =>
      if invalidates backendID e.2 then
        queue.add .circuitAttemptExpiry e.1 (circuitRetentionBoundary now [e.2.acquiredAt])
      else queue) s.terminalExpiries }

def reconcileBackend (now : Int) (s : CircuitCoordinator) (value : BackendIdentity) :
    CircuitCoordinator :=
  if !value.enabled ∨ value.draining then
    invalidate { s with circuits := s.circuits.erase value.id } value.id now
  else if (s.circuits.lookup value.id).map CircuitEntry.identity = some value then s
  else
    let s := invalidate s value.id now
    { s with circuits := s.circuits.insert value.id ⟨value, {}⟩ }

/-- The first loop of `Reconcile`; a repeated id ends it with an error. -/
def reconcileBackends (now : Int) :
    List Int → List BackendIdentity → CircuitCoordinator → CircuitCoordinator × Option Int
  | _, [], s => (s, none)
  | seen, value :: values, s =>
    if value.id ∈ seen then (s, some value.id)
    else reconcileBackends now (value.id :: seen) values (reconcileBackend now s value)

/-- `Reconcile`; the error is the repeated backend id. -/
def reconcile (s : CircuitCoordinator) (now : Int) (values : List BackendIdentity) :
    CircuitCoordinator × Option Int :=
  match reconcileBackends now [] values (expire o s now) with
  | (s, some duplicate) => (s, some duplicate)
  | (s, none) =>
    let gone := s.circuits.keys.filter (fun id => decide (id ∉ values.map BackendIdentity.id))
    (gone.foldl (fun s id => invalidate { s with circuits := s.circuits.erase id } id now) s, none)

end Operations

end Coordination.LocalCircuit
