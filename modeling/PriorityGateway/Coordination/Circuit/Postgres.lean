import PriorityGateway.Coordination.Circuit.Breaker
import PriorityGateway.Coordination.Postgres.Admission

/-! # The PostgreSQL Circuit Coordinator

    The shared coordinator keeps the circuits in tables.  Each operation is
    one transaction that locks the state row of its backend first, so the
    transactions of one backend run one after the other; each is one function
    from the tables before it to the tables after it.

    * A failed transaction is rolled back.  A `ReasonError` and an unexpected
      result (`NULL` where a timestamp is read) are both failures.
    * Timestamps and intervals are passed in whole microseconds.
    * Left out is what no modelled query reads back: the table
      `backend_circuit_failures`, `updated_at`, the notifications, and the
      snapshots that `Refresh` keeps for `Snapshot`. -/

namespace Coordination.PostgresCircuit

open CircuitBreaker (Options)
open PostgresAdmission (timestamptz)

/-! ## Tables -/

/-- A duration as it is passed to a query. -/
def interval (d : Int) : Int := d - d % 1000

inductive ProbeOutcome where
  | success
  | failure
  | neutral
  | expired
  | superseded
  deriving DecidableEq, Repr

/-- The text of an outcome. -/
def probeOutcome : InferenceOutcome → ProbeOutcome
  | .inferenceSuccess => .success
  | .inferenceFailure => .failure
  | .inferenceNeutral => .neutral

/-- A row of `backend_circuit_state`. -/
structure StateRow where
  backendRevision : Int
  state : CircuitState := .circuitClosed
  generation : Int := 0
  openedAt : Option Int := none
  halfOpenSucceeded : Bool := false
  deriving DecidableEq, Repr

/-- A row of `backend_circuit_probes`. -/
structure ProbeRow where
  acquisitionStartedAt : Int
  inputFingerprint : Nat
  backendID : Int
  backendRevision : Int
  circuitGeneration : Int
  replicaID : UUID
  expiresAt : Int
  reportedOutcomeAt : Option Int := none
  eventAt : Option Int := none
  processedAt : Option Int := none
  outcome : Option ProbeOutcome := none
  retainUntil : Option Int := none
  deriving DecidableEq, Repr

/-- A row of `backend_circuit_active_failures`. -/
structure FailureRow where
  backendID : Int
  backendRevision : Int
  eventAt : Int
  deriving DecidableEq, Repr

/-- A row of `backend_circuit_failure_receipts`. -/
structure ReceiptRow where
  backendID : Int
  backendRevision : Int
  circuitGeneration : Int
  reportedOutcomeAt : Int
  eventAt : Int
  firstProcessedAt : Int
  applied : Bool
  retainUntil : Int
  deriving DecidableEq, Repr

structure Db where
  backends : Int → Option BackendIdentity
  circuits : Table Int StateRow
  probes : Table UUID ProbeRow
  activeFailures : Table UUID FailureRow
  receipts : Table UUID ReceiptRow

/-- Why a transaction is rolled back. -/
inductive Failure where
  | reason (reason : Reason)
  | database
  deriving DecidableEq, Repr

/-! ## Queries -/

/-- `UPDATE backend_circuit_state ... WHERE backend_id = id` -/
def updateState (db : Db) (id : Int) (f : StateRow → StateRow) : Db :=
  match db.circuits.lookup id with
  | none => db
  | some row => { db with circuits := db.circuits.insert id (f row) }

/-- A failure row of a backend at a revision. -/
def ofBackend (id revision : Int) (_ : UUID) (f : FailureRow) : Bool :=
  decide (f.backendID = id) && decide (f.backendRevision = revision)

/-- A probe of a generation that has no outcome yet. -/
def unfinished (id revision generation : Int) (_ : UUID) (p : ProbeRow) : Bool :=
  decide (p.backendID = id) && decide (p.backendRevision = revision) &&
    decide (p.circuitGeneration = generation) && p.outcome.isNone

/-- The failures since an instant. -/
def failuresSince (db : Db) (id revision since : Int) : Nat :=
  Table.count (fun k f => ofBackend id revision k f && decide (since ≤ f.eventAt))
    db.activeFailures

def lockCircuitState (db : Db) (id : Int) : Option CircuitSnapshot :=
  (db.circuits.lookup id).map (fun row =>
    { backend := { id := id, revision := row.backendRevision }
      state := some row.state
      generation := row.generation
      failureCount := Table.count (ofBackend id row.backendRevision) db.activeFailures
      retryAt := row.openedAt.getD 0 })

def currentClosedFailureCount (db : Db) (state : CircuitSnapshot) (now window : Int) : Nat :=
  failuresSince db state.backend.id state.backend.revision (timestamptz (now - window))

/-- `SELECT max(event_at)` of a backend at a revision. -/
def maxEventAt (db : Db) (id revision : Int) : Option Int :=
  ((db.activeFailures.entries.filter (fun e => ofBackend id revision e.1 e.2)).map
    (fun e => e.2.eventAt)).max?

/-- `INSERT ... ON CONFLICT (attempt_id) DO NOTHING` -/
def insertFailure (db : Db) (attemptID : UUID) (f : FailureRow) : Db :=
  if (db.activeFailures.lookup attemptID).isSome then db
  else { db with activeFailures := db.activeFailures.insert attemptID f }

/-- Deletes the failures of a backend before an instant. -/
def deleteFailuresBefore (db : Db) (id revision before : Int) : Db :=
  { db with
    activeFailures := db.activeFailures.filter
      (fun k f => !(ofBackend id revision k f && decide (f.eventAt < before))) }

/-- `recordActiveFailure`: the tables, the number of failures left and the latest. -/
def recordActiveFailure (window : Int) (db : Db) (state : CircuitSnapshot) (attemptID : UUID)
    (eventAt : Int) : Except Failure (Db × Nat × Int) :=
  let id := state.backend.id
  let revision := state.backend.revision
  let db := insertFailure db attemptID ⟨id, revision, timestamptz eventAt⟩
  match maxEventAt db id revision with
  | none => .error .database
  | some latest =>
    let db := deleteFailuresBefore db id revision (timestamptz (latest - window))
    .ok (db, Table.count (ofBackend id revision) db.activeFailures, latest)

/-! ## Expired probes -/

/-- The first of two probes by deadline, then by id. -/
def firstProbe : List (UUID × Int) → Option (UUID × Int)
  | [] => none
  | x :: xs =>
    match firstProbe xs with
    | none => some x
    | some y => if y.2 < x.2 ∨ (y.2 = x.2 ∧ y.1 < x.1) then some y else some x

/-- The unfinished probe of a generation whose deadline was over first. -/
def earliestExpired (db : Db) (id revision generation now : Int) : Option (UUID × Int) :=
  firstProbe ((db.probes.entries.filter
    (fun e => unfinished id revision generation e.1 e.2 && decide (e.2.expiresAt ≤ now))).map
    (fun e => (e.1, e.2.expiresAt)))

/-- A probe that ends without a report. -/
def ProbeRow.finish (p : ProbeRow) (outcome : ProbeOutcome) (now : Int) : ProbeRow :=
  { p with
    outcome := some outcome
    processedAt := some now
    retainUntil := some (max now p.acquisitionStartedAt + receiptRetention) }

/-- The unfinished probes of a generation end, `permitID` as expired. -/
def expireGeneration (db : Db) (id revision generation : Int) (permitID : UUID) (now : Int) : Db :=
  { db with
    probes := db.probes.mapRows (fun k p =>
      if unfinished id revision generation k p then
        p.finish (if k = permitID then .expired else .superseded) now
      else p) }

/-- The state row of a circuit that has opened. -/
def StateRow.opened (generation openedAt : Int) (row : StateRow) : StateRow :=
  { row with
    state := .circuitOpen
    generation := generation
    openedAt := some openedAt
    halfOpenSucceeded := false }

/-- The state row of a circuit that has become half open. -/
def StateRow.halfOpened (generation : Int) (row : StateRow) : StateRow :=
  { row with
    state := .circuitHalfOpen
    generation := generation
    openedAt := none
    halfOpenSucceeded := false }

/-- The state row of a circuit that has closed. -/
def StateRow.closed (generation : Int) (row : StateRow) : StateRow :=
  { row with
    state := .circuitClosed
    generation := generation
    openedAt := none
    halfOpenSucceeded := false }

/-- The state row of a half-open circuit in which a probe has succeeded. -/
def StateRow.succeed (row : StateRow) : StateRow := { row with halfOpenSucceeded := true }

/-- `reconcileExpired`: also returns whether a probe had expired. -/
def reconcileExpired (o : Options) (db : Db) (state : CircuitSnapshot) (now : Int) :
    Except Failure (Db × CircuitSnapshot × Bool) :=
  let id := state.backend.id
  let revision := state.backend.revision
  if state.state ≠ some .circuitHalfOpen then
    if state.state = some .circuitOpen ∧ state.retryAt ≠ 0 then
      .ok (db, { state with retryAt := state.retryAt + o.openCooldown }, false)
    else .ok (db, state, false)
  else
    match earliestExpired db id revision state.generation now with
    | none =>
      let probes := Table.count (fun k p => unfinished id revision state.generation k p &&
        decide (now < p.expiresAt)) db.probes
      .ok (db, { state with probesInFlight := probes }, false)
    | some (permitID, expiredAt) => do
      let db := expireGeneration db id revision state.generation permitID now
      let state := { state with state := some .circuitOpen, generation := state.generation + 1 }
      let (db, count, latest) ← recordActiveFailure o.failureWindow db state permitID expiredAt
      let db := updateState db id (StateRow.opened state.generation (timestamptz latest))
      .ok (db,
        { state with
          failureCount := count
          retryAt := latest + o.openCooldown
          probesInFlight := 0
          available := false }, true)

/-! ## Acquire -/

def validCircuitOperationTime (at' now : Int) : Bool := fresh at' now

/-- What `readCommittedCircuit` reads. -/
structure CommittedCircuit where
  state : CircuitSnapshot
  authoritative : BackendIdentity
  retainedPermit : Bool

def readCommittedCircuit (o : Options) (db : Db) (id : Int) (attemptID : UUID) (now : Int) :
    Option CommittedCircuit :=
  match db.circuits.lookup id, db.backends id with
  | some row, some authoritative =>
    some
      { state :=
          { backend := { authoritative with id := id, revision := row.backendRevision }
            state := some row.state
            generation := row.generation
            failureCount := failuresSince db id row.backendRevision
              (now - interval o.failureWindow)
            retryAt := (row.openedAt.map (· + o.openCooldown)).getD 0 }
        authoritative := authoritative
        retainedPermit := (db.probes.lookup attemptID).isSome }
  | _, _ => none

/-- The request is for the backend as it is configured, and it is enabled. -/
def currentBackend (state : CircuitSnapshot) (authoritative : BackendIdentity)
    (request : CircuitAcquireRequest) : Bool :=
  decide (state.backend.revision = authoritative.revision) &&
    decide (authoritative.revision = request.backend.revision) &&
    authoritative.enabled && !authoritative.draining

/-- `acquireClosed`; absent when the transaction has to decide. -/
def acquireClosed (o : Options) (db : Db) (now : Int) (request : CircuitAcquireRequest) :
    Option CircuitDecision :=
  match readCommittedCircuit o db request.backend.id request.attemptID now with
  | none => some { reason := some .staleBackend }
  | some read =>
    if read.retainedPermit then none
    else if !currentBackend read.state read.authoritative request then
      some { snapshot := read.state, reason := some .staleBackend }
    else if !validCircuitOperationTime request.acquisitionStartedAt now then
      some { snapshot := read.state, reason := some .staleOperation }
    else if read.state.state ≠ some .circuitClosed then none
    else some { snapshot := { read.state with available := true } }

def probePermit (request : CircuitAcquireRequest) (generation expiresAt : Int) : ProbeIdentity where
  permitID := request.attemptID
  backend := request.backend
  generation := generation
  replicaID := request.replicaID
  expiresAt := expiresAt
  ttl := request.probeTTL

def newProbe (fingerprint : Nat) (request : CircuitAcquireRequest) (generation now : Int) :
    ProbeRow where
  acquisitionStartedAt := timestamptz request.acquisitionStartedAt
  inputFingerprint := fingerprint
  backendID := request.backend.id
  backendRevision := request.backend.revision
  circuitGeneration := generation
  replicaID := request.replicaID
  expiresAt := timestamptz (now + request.probeTTL)

/-- The end of `acquire` in a half-open circuit. -/
def acquireProbe (o : Options) (db : Db) (now : Int) (fingerprint : Nat)
    (request : CircuitAcquireRequest) (state : CircuitSnapshot) : Db × CircuitDecision :=
  let succeeded := ((db.circuits.lookup request.backend.id).map
    StateRow.halfOpenSucceeded).getD false
  if succeeded ∨ o.halfOpenMaxProbes ≤ state.probesInFlight then
    (db, { snapshot := { state with available := false }
           reason := some .probeCapacityExhausted })
  else
    let permit := probePermit request state.generation (now + request.probeTTL)
    let inFlight := state.probesInFlight + 1
    ({ db with
        probes := db.probes.insert request.attemptID
          (newProbe fingerprint request state.generation now) },
      { snapshot :=
          { state with
            probesInFlight := inFlight
            available := decide ((inFlight : Int) < o.halfOpenMaxProbes) }
        permit := some permit })

/-- `acquire` for an attempt id without a probe row. -/
def acquireNew (o : Options) (db : Db) (now : Int) (fingerprint : Nat)
    (request : CircuitAcquireRequest) (authoritative : BackendIdentity) (state : CircuitSnapshot) :
    Db × CircuitDecision :=
  if !currentBackend state authoritative request then
    (db, { snapshot := state, reason := some .staleBackend })
  else if !validCircuitOperationTime request.acquisitionStartedAt now then
    (db, { snapshot := state, reason := some .staleOperation })
  else
    match state.state with
    | some .circuitClosed => (db, { snapshot := { state with available := true } })
    | some .circuitOpen =>
      if now < state.retryAt then (db, { snapshot := state, reason := some .circuitOpen })
      else
        let state :=
          { state with
            state := some .circuitHalfOpen
            generation := state.generation + 1
            retryAt := 0
            probesInFlight := 0
            available := true }
        acquireProbe o
          (updateState db request.backend.id (StateRow.halfOpened state.generation)) now
          fingerprint request state
    | _ => acquireProbe o db now fingerprint request state

def acquireTx (o : Options) (db : Db) (now : Int) (fingerprint : Nat)
    (request : CircuitAcquireRequest) : Except Failure (Db × CircuitDecision) :=
  match lockCircuitState db request.backend.id, db.backends request.backend.id with
  | some state, some authoritative => do
    let state := { state with backend := { authoritative with
      id := state.backend.id, revision := state.backend.revision } }
    let (db, state, _) ← reconcileExpired o db state now
    let state :=
      if state.state = some .circuitClosed then
        { state with failureCount := currentClosedFailureCount db state now o.failureWindow }
      else state
    match db.probes.lookup request.attemptID with
    | some stored =>
      if stored.inputFingerprint ≠ fingerprint then
        .ok (db, { snapshot := state, reason := some .idempotencyConflict })
      else if stored.outcome.isSome ∨ stored.backendRevision ≠ request.backend.revision ∨
          stored.circuitGeneration ≠ state.generation ∨ ¬ now < stored.expiresAt then
        .ok (db, { snapshot := state, reason := some .leaseLost })
      else
        .ok (db, { snapshot := state
                   permit := some (probePermit request stored.circuitGeneration stored.expiresAt) })
    | none => .ok (acquireNew o db now fingerprint request authoritative state)
  | _, _ => .ok (db, { reason := some .staleBackend })

/-- `Acquire`: the query decides for a closed circuit, the transaction otherwise.
    The refresh that follows a transaction is an operation of its own. -/
def acquire (o : Options) (fingerprint : CircuitAcquireRequest → Nat) (db : Db) (now : Int)
    (request : CircuitAcquireRequest) : Db × CircuitDecision :=
  match acquireClosed o db now request with
  | some decision => (db, decision)
  | none =>
    match acquireTx o db now (fingerprint request) request with
    | .ok (db, decision) => (db, decision)
    | .error _ => (db, { reason := some .coordinationUnavailable })

/-! ## Complete -/

def terminalizeGeneration (db : Db) (backendID generation : Int) (triggering : UUID) (now : Int) :
    Db :=
  { db with
    probes := db.probes.mapRows (fun k p =>
      if p.backendID = backendID ∧ p.circuitGeneration = generation ∧ k ≠ triggering ∧
          p.outcome.isNone then
        p.finish .superseded now
      else p) }

def ProbeRow.report (p : ProbeRow) (completion : CircuitCompletion) (eventAt now : Int) :
    ProbeRow :=
  { p with
    reportedOutcomeAt := some completion.reportedOutcomeAt
    eventAt := some eventAt
    processedAt := some now
    outcome := some (probeOutcome completion.outcome)
    retainUntil := some
      (max (max now completion.reportedOutcomeAt) p.acquisitionStartedAt + receiptRetention) }

/-- The circuit closes once a probe has succeeded and none is unfinished. -/
def closeIfDone (db : Db) (state : CircuitSnapshot) (completion : CircuitCompletion) :
    Db × CircuitSnapshot :=
  let remaining := Table.count
    (unfinished completion.backend.id completion.backend.revision completion.generation) db.probes
  let succeeded := ((db.circuits.lookup completion.backend.id).map
    StateRow.halfOpenSucceeded).getD false
  if state.state = some .circuitHalfOpen ∧ succeeded = true ∧ remaining = 0 then
    let state :=
      { state with
        state := some .circuitClosed
        generation := state.generation + 1
        failureCount := 0
        available := true }
    let db :=
      { db with
        activeFailures := db.activeFailures.filter
          (fun _ f => !decide (f.backendID = completion.backend.id)) }
    (updateState db completion.backend.id (StateRow.closed state.generation), state)
  else (db, state)

/-- The first report of a probe, after its row has been written. -/
def applyProbe (o : Options) (db : Db) (now : Int) (completion : CircuitCompletion)
    (state : CircuitSnapshot) (eventAt : Int) : Except Failure (Db × CircuitSnapshot) :=
  if state.generation ≠ completion.generation ∨
      state.backend.revision ≠ completion.backend.revision ∨
      state.state ≠ some .circuitHalfOpen then
    .ok (db, state)
  else
    match completion.outcome with
    | .inferenceFailure => do
      let db := terminalizeGeneration db completion.backend.id completion.generation
        completion.attemptID now
      let (db, count, latest) ←
        recordActiveFailure o.failureWindow db state completion.attemptID eventAt
      let state :=
        { state with
          failureCount := count
          state := some .circuitOpen
          generation := state.generation + 1
          retryAt := latest + o.openCooldown
          probesInFlight := 0 }
      let db := updateState db completion.backend.id
        (StateRow.opened state.generation (timestamptz latest))
      .ok (closeIfDone db state completion)
    | .inferenceSuccess =>
      let db := updateState db completion.backend.id StateRow.succeed
      .ok (closeIfDone db state completion)
    | .inferenceNeutral => .ok (closeIfDone db state completion)

/-- `complete` for an attempt with a probe row. -/
def completeProbe (o : Options) (db : Db) (now : Int) (completion : CircuitCompletion)
    (state : CircuitSnapshot) (probe : ProbeRow) : Except Failure (Db × CircuitSnapshot) :=
  if probe.backendRevision ≠ completion.backend.revision ∨
      probe.circuitGeneration ≠ completion.generation then
    .error (.reason .idempotencyConflict)
  else
    match probe.outcome with
    | some outcome =>
      match probe.reportedOutcomeAt with
      | some reported =>
        if (reported ≠ completion.reportedOutcomeAt ∨ outcome ≠ probeOutcome completion.outcome) ∧
            outcome ≠ .expired ∧ outcome ≠ .superseded then
          .error (.reason .idempotencyConflict)
        else .ok (db, state)
      | none => .ok (db, state)
    | none =>
      if !validCircuitOperationTime completion.reportedOutcomeAt now then
        .error (.reason .staleOperation)
      else
        let eventAt := min completion.reportedOutcomeAt now
        let db :=
          { db with
            probes := db.probes.insert completion.attemptID (probe.report completion eventAt now) }
        applyProbe o db now completion state eventAt

/-- A failure counts in the closed circuit of its generation and inside the window. -/
def failureApplies (o : Options) (now : Int) (completion : CircuitCompletion)
    (state : CircuitSnapshot) (eventAt : Int) : Bool :=
  decide (state.state = some .circuitClosed) &&
    decide (state.backend.revision = completion.backend.revision) &&
    decide (state.generation = completion.generation) &&
    decide (now - o.failureWindow ≤ eventAt)

/-- The receipt of a reported failure. -/
def newReceipt (completion : CircuitCompletion) (eventAt now : Int) (applied : Bool) :
    ReceiptRow where
  backendID := completion.backend.id
  backendRevision := completion.backend.revision
  circuitGeneration := completion.generation
  reportedOutcomeAt := completion.reportedOutcomeAt
  eventAt := eventAt
  firstProcessedAt := now
  applied := applied
  retainUntil := max now completion.reportedOutcomeAt + receiptRetention

/-- `complete` for a failure without a probe row. -/
def completeFailure (o : Options) (db : Db) (now : Int) (completion : CircuitCompletion)
    (state : CircuitSnapshot) : Except Failure (Db × CircuitSnapshot) :=
  match db.receipts.lookup completion.attemptID with
  | some receipt =>
    if receipt.backendRevision ≠ completion.backend.revision ∨
        receipt.circuitGeneration ≠ completion.generation ∨
        receipt.reportedOutcomeAt ≠ completion.reportedOutcomeAt then
      .error (.reason .idempotencyConflict)
    else .ok (db, state)
  | none =>
    if !validCircuitOperationTime completion.reportedOutcomeAt now then
      .error (.reason .staleOperation)
    else
      let eventAt := min completion.reportedOutcomeAt now
      let applied := failureApplies o now completion state eventAt
      let db :=
        { db with
          receipts := db.receipts.insert completion.attemptID
            (newReceipt completion eventAt now applied) }
      if applied then do
        let (db, count, latest) ←
          recordActiveFailure o.failureWindow db state completion.attemptID eventAt
        let state := { state with failureCount := count }
        if o.failureThreshold ≤ count then
          let state :=
            { state with
              state := some .circuitOpen
              generation := state.generation + 1
              retryAt := latest + o.openCooldown
              available := false }
          .ok (updateState db completion.backend.id
            (StateRow.opened state.generation (timestamptz latest)), state)
        else .ok (db, state)
      else .ok (db, state)

/-- `complete` once the state row is locked and expired probes are noticed. -/
def completeLocked (o : Options) (db : Db) (now : Int) (completion : CircuitCompletion)
    (state : CircuitSnapshot) : Except Failure (Db × CircuitSnapshot) :=
  match db.probes.lookup completion.attemptID with
  | some probe => completeProbe o db now completion state probe
  | none =>
    if completion.outcome ≠ .inferenceFailure then
      if !validCircuitOperationTime completion.reportedOutcomeAt now then
        .error (.reason .staleOperation)
      else .ok (db, state)
    else completeFailure o db now completion state

def completeTx (o : Options) (db : Db) (now : Int) (completion : CircuitCompletion) :
    Except Failure (Db × CircuitSnapshot) :=
  match lockCircuitState db completion.backend.id with
  | none => .error (.reason .staleBackend)
  | some state => do
    let (db, state, _) ← reconcileExpired o db state now
    let state :=
      if state.state = some .circuitClosed then
        { state with failureCount := currentClosedFailureCount db state now o.failureWindow }
      else state
    completeLocked o db now completion state

/-- `completeClosedNonFailure`; absent when the transaction has to run. -/
def completeClosedNonFailure (o : Options) (db : Db) (now : Int) (completion : CircuitCompletion) :
    Option (Except Failure CircuitSnapshot) :=
  if completion.outcome = .inferenceFailure then none
  else
    match readCommittedCircuit o db completion.backend.id completion.attemptID now with
    | none => none
    | some read =>
      if read.retainedPermit ∨ read.state.state ≠ some .circuitClosed then none
      else if !validCircuitOperationTime completion.reportedOutcomeAt now then
        some (.error (.reason .staleOperation))
      else some (.ok { read.state with available := true })

/-- `Complete`; a failed transaction leaves the tables as they were. -/
def complete (o : Options) (db : Db) (now : Int) (value : CircuitCompletion) :
    Db × Except Failure CircuitSnapshot :=
  let completion := { value with reportedOutcomeAt := timestamptz value.reportedOutcomeAt }
  match completeClosedNonFailure o db now completion with
  | some answer => (db, answer)
  | none =>
    match completeTx o db now completion with
    | .ok (db, snapshot) => (db, .ok snapshot)
    | .error failure => (db, .error failure)

/-! ## RenewProbes -/

/-- The row of a probe that its holder may renew. -/
def renewable (probe : ProbeIdentity) (now : Int) (p : ProbeRow) : Bool :=
  decide (p.backendID = probe.backend.id) && decide (p.backendRevision = probe.backend.revision) &&
    decide (p.circuitGeneration = probe.generation) && decide (p.replicaID = probe.replicaID) &&
    p.outcome.isNone && decide (now < p.expiresAt)

/-- A probe with a new deadline. -/
def ProbeRow.extend (p : ProbeRow) (expiresAt : Int) : ProbeRow :=
  { p with expiresAt := expiresAt }

/-- The part of an answer that is taken from the request. -/
def requestedLease (probe : ProbeIdentity) : LeaseIdentity where
  leaseID := probe.permitID
  clientID := 0
  poolID := 0
  requestID := ""
  replicaID := 0
  expiresAt := probe.expiresAt
  ttl := probe.ttl

/-- The update of one probe. -/
def renewProbe (now : Int) (db : Db) (probe : ProbeIdentity) : Db × RenewResult :=
  let lost : RenewResult := { lease := requestedLease probe, reason := some .leaseLost }
  if probe.ttl ≤ 0 then (db, lost)
  else
    match db.probes.lookup probe.permitID with
    | none => (db, lost)
    | some p =>
      if renewable probe now p then
        let expiresAt := now + probe.ttl
        let row := p.extend (timestamptz expiresAt)
        ({ db with probes := db.probes.insert probe.permitID row },
          { lease := { requestedLease probe with expiresAt := expiresAt } })
      else (db, lost)

/-- The updates, as a machine whose calls are the probes. -/
def renewLoop (now : Int) : Machine Db ProbeIdentity RenewResult where
  step := renewProbe now

/-- The state rows that are locked. -/
def lockAll (db : Db) : List Int → Except Failure (List CircuitSnapshot)
  | [] => .ok []
  | id :: ids =>
    match lockCircuitState db id with
    | none => .error .database
    | some state => do
      let states ← lockAll db ids
      .ok (state :: states)

/-- Expired probes of the backends are noticed before anything is renewed. -/
def reconcileAll (o : Options) (now : Int) : List CircuitSnapshot → Db → Except Failure Db
  | [], db => .ok db
  | state :: states, db => do
    let (db, _, _) ← reconcileExpired o db state now
    reconcileAll o now states db

/-- The order in which the probes are locked and updated. -/
def renewalOrder (probes : List ProbeIdentity) : List ProbeIdentity :=
  probes.mergeSort (fun a b => decide (a.backend.id < b.backend.id) ||
    (decide (a.backend.id = b.backend.id) && decide (a.permitID ≤ b.permitID)))

/-- The answer kept for a permit id is that of its last update. -/
def resultByID (results : List (ProbeIdentity × RenewResult)) (permitID : UUID) :
    Option RenewResult :=
  (results.reverse.find? (fun r => decide (r.1.permitID = permitID))).map (·.2)

def renewProbesTx (o : Options) (db : Db) (now : Int) (probes : List ProbeIdentity) :
    Except Failure (Db × List (Option RenewResult)) := do
  let ordered := renewalOrder probes
  let states ← lockAll db ((ordered.map (fun p => p.backend.id)).destutter (· ≠ ·))
  let db ← reconcileAll o now states db
  let results := ordered.zip ((renewLoop now).answers db ordered)
  .ok ((renewLoop now).after db ordered, probes.map (fun p => resultByID results p.permitID))

/-- `RenewProbes`; without probes no transaction is started. -/
def renewProbes (o : Options) (db : Db) (now : Int) (probes : List ProbeIdentity) :
    Db × Except Failure (List (Option RenewResult)) :=
  if probes = [] then (db, .ok [])
  else
    match renewProbesTx o db now probes with
    | .ok (db, results) => (db, .ok results)
    | .error failure => (db, .error failure)

/-! ## Refresh -/

/-- Every group of failures of a backend loses what is outside its own window. -/
def pruneFailures (o : Options) (db : Db) (id : Int) : Db :=
  { db with
    activeFailures := db.activeFailures.filter (fun _ f =>
      !(decide (f.backendID = id) &&
        ((maxEventAt db id f.backendRevision).map (fun latest =>
          decide (f.eventAt < latest - interval o.failureWindow))).getD false)) }

/-- One backend of `reconcileRefreshStates`. -/
def refreshBackend (o : Options) (now : Int) (db : Db) (id : Int) : Db :=
  match db.circuits.lookup id with
  | none => db
  | some row =>
    match row.state with
    | .circuitClosed => db
    | .circuitHalfOpen =>
      match earliestExpired db id row.backendRevision row.generation now with
      | none => db
      | some (permitID, expiredAt) =>
        let db := expireGeneration db id row.backendRevision row.generation permitID now
        let db := insertFailure db permitID ⟨id, row.backendRevision, timestamptz expiredAt⟩
        let db := pruneFailures o db id
        updateState db id (fun row =>
          { row with
            state := .circuitOpen
            generation := row.generation + 1
            openedAt := maxEventAt db id row.backendRevision
            halfOpenSucceeded := false })
    | .circuitOpen =>
      match row.openedAt with
      | none => db
      | some opened =>
        if opened + interval o.openCooldown ≤ now then
          updateState db id (StateRow.halfOpened (row.generation + 1))
        else db

/-- The transaction of `reconcileRefreshStates`, for any ids.  Its statements touch the rows
    of each backend apart.  `reconcilableBackendIDs` reads the ids before the rows are locked,
    so every statement tests its condition again. -/
def refresh (o : Options) (ids : List Int) (db : Db) (now : Int) : Db :=
  ids.foldl (refreshBackend o now) db

/-! ## Reconcile -/

/-- `terminalizeProbes` with outcome superseded. -/
def terminalizeProbes (db : Db) (backendID now : Int) : Db :=
  { db with
    probes := db.probes.mapRows (fun _ p =>
      if p.backendID = backendID ∧ p.outcome.isNone then p.finish .superseded now else p) }

def reconcileBackend (now : Int) (db : Db) (value : BackendIdentity) : Db :=
  match db.backends value.id with
  | none => db
  | some authoritative =>
    let db :=
      match db.circuits.lookup value.id with
      | none =>
        let row : StateRow := { backendRevision := authoritative.revision }
        { db with circuits := db.circuits.insert value.id row }
      | some row =>
        if row.backendRevision ≠ authoritative.revision then
          let db := terminalizeProbes db value.id now
          let db :=
            { db with
              activeFailures := db.activeFailures.filter
                (fun _ f => !decide (f.backendID = value.id)) }
          updateState db value.id (fun row =>
            { backendRevision := authoritative.revision, generation := row.generation + 1 })
        else db
    if !authoritative.enabled ∨ authoritative.draining then terminalizeProbes db value.id now
    else db

def reconcile (now : Int) (db : Db) (values : List BackendIdentity) : Db :=
  (values.mergeSort (fun a b => decide (a.id ≤ b.id))).foldl (reconcileBackend now) db

end Coordination.PostgresCircuit
