import PriorityGateway.Framework.ReadCommitted
import PriorityGateway.Framework.Table
import PriorityGateway.Coordination.Types

/-! # The PostgreSQL Admission Coordinator

    The shared coordinator keeps receipts, leases and rate buckets in tables
    and runs every operation as one transaction.  The transactions are written
    down statement by statement as `ReadCommitted` programs.

    * A `SELECT ... FOR UPDATE` finds its rows in the snapshot and returns the
      version that is current once it holds the lock.
    * `INSERT ... ON CONFLICT DO NOTHING` creates its row when the key is
      absent from the current versions; a transaction that has inserted the
      key and not committed is waited for (the lock on the key).
    * A scope row exists for every pool and client, so locking one always
      takes a lock.
    * Timestamps are stored in whole microseconds.
    * `SET LOCAL synchronous_commit` and the shared locks on configuration
      rows are left out: no transaction here writes the configuration.
    * Retries, deadlines and the status flags of the coordinator are not part
      of a transaction; a failed one is a rollback. -/

namespace Coordination.PostgresAdmission

open ReadCommitted

/-! ## Tables -/

/-- A timestamp as it is stored, in whole microseconds. -/
def timestamptz (t : Int) : Int := t - t % 1000

theorem timestamptz_of_whole {t : Int} (h : t % 1000 = 0) : timestamptz t = t := by
  unfold timestamptz
  omega

/-- `time.Unix(0, 0)`: the Unix epoch, from which seeded buckets are refilled. -/
def unixEpoch : Int := 62135596800 * second

inductive Decision where
  | pending
  | admitted
  | rejected
  deriving DecidableEq, Repr

/-- A row of `admission_operations`. -/
structure OperationRow where
  operationStartedAt : Int
  inputFingerprint : Nat
  requestID : String
  replicaID : UUID
  clientID : Int
  poolID : Int
  decision : Decision := .pending
  rejectionReason : Option Reason := none
  retryAt : Option Int := none
  decidedAt : Option Int := none
  leaseExpiredAt : Option Int := none
  completedAt : Option Int := none
  completionResult : Option CompletionResult := none
  retainUntil : Option Int := none
  concurrencyScope : Option AdmissionScope := none
  deriving DecidableEq, Repr

/-- A row of `request_leases`. -/
structure LeaseRow where
  requestID : String
  replicaID : UUID
  clientID : Int
  poolID : Int
  acquiredAt : Int
  expiresAt : Int
  priorityClass : PriorityClass
  deriving DecidableEq, Repr

/-- A row of `coordination_rate_state`. -/
structure RateRow (F : Type) where
  policyRevision : Int
  balance : F
  lastRefillAt : Int
  deriving DecidableEq

/-- A row of `clients`, with the table's checks. -/
structure ClientRow where
  revision : Int
  enabled : Bool
  maxConcurrency : Int
  requestsPerMinute : Int
  tokensPerMinute : Int
  priorityClass : PriorityClass
  class_check : priorityClass.valid = true
  rate_check : 0 ≤ requestsPerMinute ∧ 0 ≤ tokensPerMinute
  deriving DecidableEq

/-- A row of `api_keys`. -/
structure ApiKeyRow where
  clientID : Int
  expiresAt : Option Int
  revoked : Bool
  deriving DecidableEq

/-- A row of `model_pools`, with the table's check on the reserve. -/
structure PoolRow where
  enabled : Bool
  maxGatewayInflight : Int
  highPriorityReserve : Int
  reserve_check : 0 ≤ highPriorityReserve ∧ (highPriorityReserve = 0 ∨
    (0 < maxGatewayInflight ∧ highPriorityReserve ≤ maxGatewayInflight))
  deriving DecidableEq

/-- An enabled client of the normal class. -/
def ClientRow.normal (revision maxConcurrency rpm tpm : Int) (h : 0 ≤ rpm ∧ 0 ≤ tpm) : ClientRow :=
  ⟨revision, true, maxConcurrency, rpm, tpm, .normal, rfl, h⟩

/-- A pool of two requests, one of them reserved. -/
def PoolRow.pair : PoolRow := ⟨true, 2, 1, by decide⟩

/-- The committed configuration. -/
structure Configuration where
  revision : Int
  clients : Int → Option ClientRow
  apiKeys : Int → Option ApiKeyRow
  pools : Int → Option PoolRow

/-- One client with its key, and a pool of two requests. -/
def Configuration.single (client : ClientRow) : Configuration where
  revision := 1
  clients := fun id => if id = 1 then some client else none
  apiKeys := fun id => if id = 1 then some ⟨1, none, false⟩ else none
  pools := fun id => if id = 1 then some .pair else none

/-- The database, as far as admission uses it. -/
structure Db (F : Type) where
  configuration : Configuration
  operations : Table UUID OperationRow
  leases : Table UUID LeaseRow
  rates : Int → RateKind → Option (RateRow F)

/-- The rows that transactions lock. -/
inductive RowLock where
  | pool (id : Int)
  | client (id : Int)
  | lease (id : UUID)
  | operation (id : UUID)
  | rate (clientID : Int) (kind : RateKind)
  deriving DecidableEq, Repr

/-- What a committed transaction answers.  A new admission says at which reading
    of the database clock it was made. -/
inductive Outcome where
  | admitted (lease : LeaseIdentity) (now : Int)
  | decided (d : AdmissionDecision)
  | renewed (results : List RenewResult)
  | completed (result : CompleteResult)
  | cleaned (full : Bool)
  deriving DecidableEq, Repr

/-- A transaction of the admission coordinator. -/
abbrev Tx (F : Type) : Type := Prog (Db F) RowLock Outcome

def emptyDb (F : Type) (configuration : Configuration) : Db F where
  configuration := configuration
  operations := ∅
  leases := ∅
  rates := fun _ _ => none

section Statements

variable {F : Type}

/-! ## Statements -/

/-- `UPDATE admission_operations SET ... WHERE lease_id IN ids` -/
def updateOperations (ids : UUID → Bool) (f : OperationRow → OperationRow) (db : Db F) : Db F :=
  { db with
    operations := Table.mapRows (fun id row => if ids id then f row else row) db.operations }

/-- `UPDATE admission_operations SET ... WHERE lease_id = id` -/
def updateOperation (id : UUID) (f : OperationRow → OperationRow) (db : Db F) : Db F :=
  updateOperations (fun id' => decide (id' = id)) f db

/-- `DELETE FROM request_leases WHERE ...` -/
def deleteLeases (p : UUID → LeaseRow → Bool) (db : Db F) : Db F :=
  { db with leases := Table.filter (fun id row => !p id row) db.leases }

/-- `UPDATE coordination_rate_state SET ... WHERE client_id = ... AND rate_kind = ...` -/
def setRate (clientID : Int) (kind : RateKind) (row : RateRow F) (db : Db F) : Db F :=
  { db with
    rates := Function.update db.rates clientID
      (Function.update (db.rates clientID) kind (some row)) }

/-- `SELECT ... FROM request_leases WHERE lease_id = id FOR UPDATE` -/
def lockedLease (view : View (Db F)) (id : UUID) : Option LeaseRow :=
  if (view.snapshot.leases.lookup id).isSome then view.current.leases.lookup id else none

/-- `SELECT ... FROM admission_operations WHERE lease_id = id FOR UPDATE` -/
def lockedOperation (view : View (Db F)) (id : UUID) : Option OperationRow :=
  if (view.snapshot.operations.lookup id).isSome then view.current.operations.lookup id else none

/-- The lease rows with these ids that a `FOR UPDATE` locks. -/
def leaseLocks (ids : List UUID) (view : View (Db F)) : List RowLock :=
  (ids.filter fun id =>
    (view.snapshot.leases.lookup id).isSome && (view.current.leases.lookup id).isSome).map .lease

/-- The receipts with these ids that a `FOR UPDATE` locks. -/
def operationLocks (ids : List UUID) (view : View (Db F)) : List RowLock :=
  (ids.filter fun id =>
    (view.snapshot.operations.lookup id).isSome &&
      (view.current.operations.lookup id).isSome).map .operation

/-- `priority_class IN ('normal','background')` -/
def LeaseRow.lower (row : LeaseRow) : Bool :=
  decide (row.priorityClass = .normal) || decide (row.priorityClass = .background)

/-- `SELECT count(*) FROM request_leases WHERE ... AND expires_at > now` -/
def activeCount (db : Db F) (p : LeaseRow → Bool) (now : Int) : Nat :=
  Table.count (fun _ row => p row && decide (now < row.expiresAt)) db.leases

def poolCount (db : Db F) (poolID now : Int) : Nat :=
  activeCount db (fun row => decide (row.poolID = poolID)) now

/-- The active leases of a pool at `now` that are of a lower class. -/
def lowerCount (db : Db F) (poolID now : Int) : Nat :=
  activeCount db (fun row => decide (row.poolID = poolID) && row.lower) now

def clientCount (db : Db F) (clientID now : Int) : Nat :=
  activeCount db (fun row => decide (row.clientID = clientID)) now

end Statements

section Transactions

variable {F : Type} {expires now : Int}

/-! ## Rate buckets -/

/-- The balance `normalizeRate` computes from a stored bucket. -/
def refreshed [RateArith F] (row : RateRow F) (revision capacity now : Int) : F :=
  if row.policyRevision ≠ revision then RateArith.full capacity
  else if row.lastRefillAt < now then
    RateArith.refill row.balance (timeSub now row.lastRefillAt) capacity
  else row.balance

/-- The bucket `normalizeRate` stores; only a bucket that is not exhausted is debited. -/
def normalizedRow [RateArith F] (row : RateRow F) (revision capacity now : Int) (debit : Bool) :
    RateRow F where
  policyRevision := revision
  balance :=
    if !RateArith.exhausted (refreshed row revision capacity now) && debit then
      RateArith.debit (refreshed row revision capacity now)
    else refreshed row revision capacity now
  lastRefillAt := timestamptz now

/-- `normalizeRate`: the bucket is read, refilled, debited and written back.  What
    follows gets whether it was not exhausted, and otherwise when to retry. -/
def normalizeRate [RateArith F] (clientID : Int) (kind : RateKind) (revision capacity now : Int)
    (debit : Bool) (next : Bool → Int → Tx F) : Tx F :=
  .read fun view =>
    match view.snapshot.rates clientID kind with
    | none => .rollback
    | some row =>
      .stmt (fun _ => [.rate clientID kind])
        (fun _ db => setRate clientID kind (normalizedRow row revision capacity now debit) db)
        (fun _ => next (!RateArith.exhausted (refreshed row revision capacity now))
          (RateArith.rateRetryAt (refreshed row revision capacity now) capacity now))

/-- The bucket a client starts with. -/
def seededRow [RateArith F] (revision capacity : Int) : RateRow F where
  policyRevision := revision
  balance := RateArith.full capacity
  lastRefillAt := unixEpoch

/-- `INSERT INTO coordination_rate_state ... ON CONFLICT DO NOTHING` -/
def seedRate [RateArith F] (view : View (Db F)) (clientID : Int) (kind : RateKind)
    (revision capacity : Int) (db : Db F) : Db F :=
  if 0 < capacity ∧ view.current.rates clientID kind = none then
    setRate clientID kind (seededRow revision capacity) db
  else db

/-- Both buckets of a client are seeded under the policy of the stored client row. -/
def seedRates [RateArith F] (view : View (Db F)) (clientID : Int) (db : Db F) : Db F :=
  match view.snapshot.configuration.clients clientID with
  | none => db
  | some client =>
    seedRate view clientID .tpm client.revision client.tokensPerMinute
      (seedRate view clientID .rpm client.revision client.requestsPerMinute db)

/-- The bucket rows of a client that exist. -/
def rateLocks (clientID : Int) (kinds : List RateKind) (view : View (Db F)) : List RowLock :=
  (kinds.filter fun kind => (view.current.rates clientID kind).isSome).map (.rate clientID)

/-- The bucket rows of a client that do not exist. -/
def newRateLocks (clientID : Int) (kinds : List RateKind) (view : View (Db F)) : List RowLock :=
  (kinds.filter fun kind => (view.current.rates clientID kind).isNone).map (.rate clientID)

/-! ## Acquire -/

/-- A concurrency rejection has a scope, by default the client's; others have none. -/
def rejectionScope (reason : Reason) (scopes : Option AdmissionScope) : Option AdmissionScope :=
  if reason = .concurrencyExhausted then some (scopes.getD .client) else none

def rejectedOperation (reason : Reason) (retry : Option Int) (now : Int)
    (scope : Option AdmissionScope) (row : OperationRow) : OperationRow :=
  { row with
    decision := .rejected
    rejectionReason := some reason
    retryAt := retry.map timestamptz
    decidedAt := some (timestamptz now)
    retainUntil := some (retentionBoundary row.operationStartedAt (timestamptz now))
    concurrencyScope := scope }

def rejectAcquire (id : UUID) (reason : Reason) (retry : Option Int) (now : Int)
    (scopes : Option AdmissionScope) : Tx F :=
  .stmt (fun _ => [.operation id])
    (fun _ => updateOperation id
      (rejectedOperation reason retry now (rejectionScope reason scopes)))
    (fun _ => .commit (.decided
      { reason := some reason, retryAt := retry,
        concurrencyScope := rejectionScope reason scopes }))

/-- The receipt a new operation starts with. -/
def pendingOperation (fingerprint : Nat) (r : AdmissionRequest) : OperationRow where
  operationStartedAt := timestamptz r.operationStartedAt
  inputFingerprint := fingerprint
  requestID := r.requestID
  replicaID := r.replicaID
  clientID := r.clientID
  poolID := r.poolID

/-- The join of client, key and pool; a revoked key is not found. -/
def configured (c : Configuration) (r : AdmissionRequest) :
    Option (ClientRow × ApiKeyRow × PoolRow) :=
  match c.clients r.clientID, c.apiKeys r.apiKeyID, c.pools r.poolID with
  | some client, some key, some pool => if key.revoked then none else some (client, key, pool)
  | _, _, _ => none

/-- The request was made under another configuration, or its key has expired. -/
def staleRequest (c : Configuration) (r : AdmissionRequest) (now : Int) (client : ClientRow)
    (key : ApiKeyRow) (pool : PoolRow) : Bool :=
  decide (c.revision ≠ r.configurationRevision) || decide (key.clientID ≠ r.clientID) ||
  !client.enabled || !pool.enabled || decide (client.revision ≠ r.clientPolicyRevision) ||
  decide (client.maxConcurrency ≠ r.configuredClientLimit) ||
  decide (pool.maxGatewayInflight ≠ r.poolGatewayInflightLimit) ||
  decide (pool.highPriorityReserve ≠ r.poolHighPriorityReserve) ||
  (decide (r.priorityClass ≠ .unset) && decide (r.priorityClass ≠ client.priorityClass)) ||
  (decide (0 < pool.highPriorityReserve) && !r.priorityClass.valid) ||
  decide (client.requestsPerMinute ≠ r.requestsPerMinute) ||
  decide (client.tokensPerMinute ≠ r.tokensPerMinute) ||
  (match key.expiresAt with
    | none => false
    | some expires => !decide (now < expires))

/-- What the counting statement returns. -/
structure Counts where
  now : Int
  pool : Int
  lower : Int
  client : Int
  deriving DecidableEq, Repr

/-- The counting statement: one reading of the clock, the counts from the snapshot. -/
def countActive (view : View (Db F)) (r : AdmissionRequest) : Counts where
  now := view.now
  pool := poolCount view.snapshot r.poolID view.now
  lower := lowerCount view.snapshot r.poolID view.now
  client := clientCount view.snapshot r.clientID view.now

/-- The checks before the buckets, in source order; the first that fails rejects. -/
def checkAcquire (c : Configuration) (r : AdmissionRequest) (counts : Counts) :
    Except (Reason × Option AdmissionScope) ClientRow :=
  match configured c r with
  | none => .error (.staleConfiguration, none)
  | some (client, key, pool) =>
    if staleRequest c r counts.now client key pool then .error (.staleConfiguration, none)
    else if r.effectiveClientLimit ≤ 0 ∨ client.maxConcurrency < r.effectiveClientLimit then
      .error (.concurrencyExhausted, none)
    else if !fresh r.operationStartedAt counts.now then .error (.staleOperation, none)
    else if 0 < pool.maxGatewayInflight ∧ pool.maxGatewayInflight ≤ counts.pool then
      .error (.concurrencyExhausted, some .pool)
    else if 0 < pool.highPriorityReserve ∧ client.priorityClass.lower ∧
        pool.maxGatewayInflight - pool.highPriorityReserve ≤ counts.lower then
      .error (.poolPriorityReserve, none)
    else if r.effectiveClientLimit ≤ counts.client then .error (.concurrencyExhausted, none)
    else .ok client

/-- The lease an admitted request is granted. -/
def grantedLease (now : Int) (r : AdmissionRequest) : LeaseIdentity where
  leaseID := r.leaseID
  clientID := r.clientID
  poolID := r.poolID
  requestID := r.requestID
  replicaID := r.replicaID
  expiresAt := now + r.leaseTTL
  ttl := r.leaseTTL

def grantedRow (now : Int) (r : AdmissionRequest) (priorityClass : PriorityClass) : LeaseRow where
  requestID := r.requestID
  replicaID := r.replicaID
  clientID := r.clientID
  poolID := r.poolID
  acquiredAt := timestamptz now
  expiresAt := timestamptz (now + r.leaseTTL)
  priorityClass := priorityClass

def admittedOperation (now : Int) (row : OperationRow) : OperationRow :=
  { row with decision := .admitted, decidedAt := some (timestamptz now) }

/-- `INSERT INTO request_leases ...` -/
def insertLease (id : UUID) (row : LeaseRow) (db : Db F) : Db F :=
  { db with leases := db.leases.insert id row }

/-- The last two statements of `acquire`: the lease row goes in, which a duplicate
    key would refuse, and the receipt is decided. -/
def grantLease (r : AdmissionRequest) (priorityClass : PriorityClass) (now : Int) : Tx F :=
  .stmt (fun _ => [.lease r.leaseID])
    (fun _ => insertLease r.leaseID (grantedRow now r priorityClass))
    (fun view =>
      if (view.current.leases.lookup r.leaseID).isSome then .rollback
      else
        .stmt (fun _ => [.operation r.leaseID])
          (fun _ => updateOperation r.leaseID (admittedOperation now))
          (fun _ => .commit (.admitted (grantedLease now r) now)))

/-- The RPM bucket is asked last and debited. -/
def acquireRPM [RateArith F] (r : AdmissionRequest) (client : ClientRow) (now : Int) : Tx F :=
  if 0 < client.requestsPerMinute then
    normalizeRate r.clientID .rpm client.revision client.requestsPerMinute now true
      fun ok retry =>
        if ok then grantLease r client.priorityClass now
        else rejectAcquire r.leaseID .rpmExhausted (some retry) now none
  else grantLease r client.priorityClass now

/-- The TPM bucket must hold at least one token. -/
def acquireTPM [RateArith F] (r : AdmissionRequest) (client : ClientRow) (now : Int) : Tx F :=
  if 0 < client.tokensPerMinute then
    normalizeRate r.clientID .tpm client.revision client.tokensPerMinute now false
      fun ok retry =>
        if ok then acquireRPM r client now
        else rejectAcquire r.leaseID .tpmExhausted (some retry) now none
  else acquireRPM r client now

/-- What `acquire` does once the counts are in. -/
def acquireCounted [RateArith F] (c : Configuration) (r : AdmissionRequest) (counts : Counts) :
    Tx F :=
  match checkAcquire c r counts with
  | .error (reason, scope) => rejectAcquire r.leaseID reason none counts.now scope
  | .ok client => acquireTPM r client counts.now

/-- `acquire` for a new operation.  The locks and the counts are separate statements,
    so the counts come from a snapshot taken with the locks held. -/
def acquireCreated [RateArith F] (r : AdmissionRequest) : Tx F :=
  .lock (fun _ => [.pool r.poolID]) fun _ =>
  .lock (fun _ => [.client r.clientID]) fun _ =>
  .read fun configuration =>
  .stmt (newRateLocks r.clientID [.rpm, .tpm]) (fun view => seedRates view r.clientID) fun _ =>
  .lock (rateLocks r.clientID [.rpm, .tpm]) fun _ =>
  .read fun counts =>
  acquireCounted configuration.snapshot.configuration r (countActive counts r)

/-- The receipt of an operation whose lease is found lost. -/
def lostOperation (now : Int) (row : OperationRow) : OperationRow :=
  { row with
    leaseExpiredAt := some (timestamptz now)
    retainUntil := some (retentionBoundary row.operationStartedAt (timestamptz now)) }

def markLost (id : UUID) (now : Int) : Tx F :=
  .stmt (fun _ => [.operation id])
    (fun _ => updateOperation id (lostOperation now))
    (fun _ => .commit (.decided { reason := some .leaseLost }))

/-- The lease a replayed request gets back, with the TTL of the request. -/
def storedLease (id : UUID) (row : LeaseRow) (ttl : Int) : LeaseIdentity where
  leaseID := id
  clientID := row.clientID
  poolID := row.poolID
  requestID := row.requestID
  replicaID := row.replicaID
  expiresAt := row.expiresAt
  ttl := ttl

/-- `resolveAcquire` after the receipt and the lease are locked. -/
def resolveLocked (fingerprint : Nat) (r : AdmissionRequest) (lease : Option LeaseRow)
    (operation : OperationRow) : Tx F :=
  if operation.inputFingerprint ≠ fingerprint then
    .commit (.decided { reason := some .idempotencyConflict })
  else if operation.decision = .rejected then
    match operation.rejectionReason with
    | none => .rollback
    | some reason => .commit (.decided
        { reason := some reason, retryAt := operation.retryAt,
          concurrencyScope := operation.concurrencyScope })
  else if operation.completedAt.isSome || operation.leaseExpiredAt.isSome then
    .commit (.decided { reason := some .leaseLost })
  else
    .read fun clock =>
    match lease with
    | none => markLost r.leaseID clock.now
    | some row =>
      if row.expiresAt ≤ clock.now then markLost r.leaseID clock.now
      else .commit (.decided { lease := some (storedLease r.leaseID row r.leaseTTL) })

/-- `resolveAcquire`: the answer to a request that has a receipt. -/
def resolveAcquire (fingerprint : Nat) (r : AdmissionRequest) : Tx F :=
  .read fun first =>
  match first.snapshot.operations.lookup r.leaseID with
  | none => .rollback
  | some trusted =>
    if trusted.inputFingerprint ≠ fingerprint then
      .commit (.decided { reason := some .idempotencyConflict })
    else
      .lock (fun _ => [.pool trusted.poolID]) fun _ =>
      .lock (fun _ => [.client trusted.clientID]) fun _ =>
      .lock (leaseLocks [r.leaseID]) fun lease =>
      .lock (operationLocks [r.leaseID]) fun operation =>
      match lockedOperation operation r.leaseID with
      | none => .rollback
      | some stored => resolveLocked fingerprint r (lockedLease lease r.leaseID) stored

/-- `INSERT INTO admission_operations ... ON CONFLICT DO NOTHING` -/
def insertOperation (fingerprint : Nat) (r : AdmissionRequest) (view : View (Db F)) (db : Db F) :
    Db F :=
  if (view.current.operations.lookup r.leaseID).isNone then
    { db with operations := db.operations.insert r.leaseID (pendingOperation fingerprint r) }
  else db

def acquire [RateArith F] (fingerprint : AdmissionRequest → Nat) (r : AdmissionRequest) : Tx F :=
  .stmt
    (fun view =>
      if (view.current.operations.lookup r.leaseID).isNone then [.operation r.leaseID] else [])
    (insertOperation (fingerprint r) r)
    (fun view =>
      if (view.current.operations.lookup r.leaseID).isNone then acquireCreated r
      else resolveAcquire (fingerprint r) r)

/-! ## Renew -/

/-- The leases among `ids` that a statement at `now` finds expired. -/
def expiredIDs (view : View (Db F)) (ids : List UUID) (now : Int) : List UUID :=
  ids.filter fun id =>
    match view.snapshot.leases.lookup id, view.current.leases.lookup id with
    | some seen, some row => decide (seen.expiresAt ≤ now) && decide (row.expiresAt ≤ now)
    | _, _ => false

/-- A receipt whose lease is found expired, unless it is completed. -/
def expireOperation (now : Int) (row : OperationRow) : OperationRow :=
  if row.completedAt.isSome then row
  else
    { row with
      leaseExpiredAt := some (row.leaseExpiredAt.getD (timestamptz now))
      retainUntil := some (retentionBoundary row.operationStartedAt (timestamptz now)) }

/-- The new expiry of one entry of a `renew` batch, if the entry is the stored lease
    and the lease has not run out. -/
def renewedUntil (now : Int) (stored : Option LeaseRow) (lease : LeaseIdentity) : Option Int :=
  match stored with
  | none => none
  | some row =>
    if row.clientID ≠ lease.clientID ∨ row.poolID ≠ lease.poolID ∨
        row.requestID ≠ lease.requestID ∨ row.replicaID ≠ lease.replicaID ∨
        row.expiresAt ≤ now ∨ lease.ttl ≤ 0 then none
    else some (now + lease.ttl)

/-- The answer to one entry of a `renew` batch. -/
def renewResult (now : Int) (stored : UUID → Option LeaseRow) (lease : LeaseIdentity) :
    RenewResult :=
  match renewedUntil now (stored lease.leaseID) lease with
  | none => { lease := lease, reason := some .leaseLost }
  | some expires => { lease := { lease with expiresAt := expires } }

/-- One entry of the batch goes into the map `updates`, which keeps the latest new
    expiry of each renewed lease.  A missing entry reads as the zero instant. -/
def addUpdate (now : Int) (stored : UUID → Option LeaseRow) (updates : UUID → Option Int)
    (lease : LeaseIdentity) : UUID → Option Int :=
  match renewedUntil now (stored lease.leaseID) lease with
  | none => updates
  | some expires =>
    if (updates lease.leaseID).getD 0 < expires then
      Function.update updates lease.leaseID (some expires)
    else updates

/-- The map `updates` after the whole batch. -/
def renewUpdates (now : Int) (stored : UUID → Option LeaseRow) (leases : List LeaseIdentity) :
    UUID → Option Int :=
  leases.foldl (addUpdate now stored) (fun _ => none)

/-- A renewed entry was stored and had not run out. -/
theorem renewedUntil_some {stored : Option LeaseRow} {lease : LeaseIdentity}
    (h : renewedUntil now stored lease = some expires) :
    ∃ row, stored = some row ∧ now < row.expiresAt := by
  unfold renewedUntil at h
  split at h
  · cases h
  next row =>
  split at h
  · cases h
  next hok =>
  push Not at hok
  exact ⟨row, rfl, hok.2.2.2.2.1⟩

/-- Only a stored lease of the batch that had not run out gets a new expiry. -/
theorem renewUpdates_some {stored : UUID → Option LeaseRow} {leases : List LeaseIdentity}
    {id : UUID} (h : renewUpdates now stored leases id = some expires) :
    id ∈ leases.map LeaseIdentity.leaseID ∧
      ∃ row, stored id = some row ∧ now < row.expiresAt := by
  -- what is in the map came from some entry of the batch
  let P : (UUID → Option Int) → Prop := fun updates => ∀ e, updates id = some e →
    id ∈ leases.map LeaseIdentity.leaseID ∧ ∃ row, stored id = some row ∧ now < row.expiresAt
  have hempty : P (fun _ => none) := by
    nofun
  have hadd : ∀ updates, P updates → ∀ lease ∈ leases, P (addUpdate now stored updates lease) := by
    intro updates ih lease hlease e he
    have hcases : updates id = some e ∨
        (id = lease.leaseID ∧ ∃ until', renewedUntil now (stored id) lease = some until') := by
      unfold addUpdate at he
      rcases hrenewed : renewedUntil now (stored lease.leaseID) lease with _ | until'
      · exact .inl (by simpa only [hrenewed] using he)
      simp only [hrenewed] at he
      by_cases hid : id = lease.leaseID
      · exact .inr ⟨hid, until', by rw [hid]; exact hrenewed⟩
      left
      split_ifs at he
      · rwa [Function.update_of_ne hid] at he
      · exact he
    rcases hcases with hold | ⟨hid, until', hrenewed⟩
    · exact ih e hold
    · exact ⟨List.mem_map.mpr ⟨lease, hlease, hid.symm⟩, renewedUntil_some hrenewed⟩
  exact List.foldlRecOn (motive := P) leases (addUpdate now stored) hempty hadd expires h

/-- `UPDATE request_leases SET expires_at = ...` for the leases in `updates`. -/
def updateExpiries (updates : UUID → Option Int) (db : Db F) : Db F :=
  { db with
    leases := Table.mapRows (fun id row =>
      match updates id with
      | none => row
      | some expires => { row with expiresAt := timestamptz expires }) db.leases }

/-- The last statement of `renew`: leases that did run out go, and their receipts say so. -/
def renewExpire (ids : List UUID) (now : Int) (results : List RenewResult) : Tx F :=
  .stmt (leaseLocks ids)
    (fun view db =>
      updateOperations (fun id => decide (id ∈ expiredIDs view ids now)) (expireOperation now)
        (deleteLeases (fun id _ => decide (id ∈ expiredIDs view ids now)) db))
    (fun _ => .commit (.renewed results))

/-- `renew` once the stored leases are read.  No update is sent when none is due. -/
def renewStored (leases : List LeaseIdentity) (now : Int) (stored : UUID → Option LeaseRow) :
    Tx F :=
  let ids := leases.map LeaseIdentity.leaseID
  if ids.any fun id => (renewUpdates now stored leases id).isSome then
    .stmt (leaseLocks ids) (fun _ => updateExpiries (renewUpdates now stored leases)) fun _ =>
    renewExpire ids now (leases.map (renewResult now stored))
  else renewExpire ids now (leases.map (renewResult now stored))

/-- The stored rows of a batch. -/
def storedRows (leases : List LeaseIdentity) (db : Db F) : List LeaseRow :=
  (leases.map LeaseIdentity.leaseID).filterMap fun id => db.leases.lookup id

/-- `renew`: the scopes to lock are read from the stored leases, then pools, clients,
    leases and receipts are locked in this order, and only then the clock is read. -/
def renew (leases : List LeaseIdentity) : Tx F :=
  if leases = [] then .commit (.renewed [])
  else
    .read fun owned =>
    .lock (fun _ => (storedRows leases owned.snapshot).map fun row => .pool row.poolID) fun _ =>
    .lock (fun _ => (storedRows leases owned.snapshot).map fun row => .client row.clientID) fun _ =>
    .lock (leaseLocks (leases.map LeaseIdentity.leaseID)) fun _ =>
    .lock (operationLocks (leases.map LeaseIdentity.leaseID)) fun _ =>
    .read fun clock =>
    .read fun current =>
    renewStored leases clock.now current.snapshot.leases.lookup

/-! ## Complete -/

def completedOperation (now : Int) (result : CompletionResult) (row : OperationRow) :
    OperationRow :=
  { row with
    completedAt := some (timestamptz now)
    completionResult := some result
    retainUntil := some (retentionBoundary row.operationStartedAt (timestamptz now)) }

/-- `DELETE FROM request_leases WHERE lease_id = ... AND client_id = ... AND pool_id = ...` -/
def deleteLease (id : UUID) (clientID poolID : Int) (db : Db F) : Db F :=
  deleteLeases (fun id' row =>
    decide (id' = id) && decide (row.clientID = clientID) && decide (row.poolID = poolID)) db

/-- The last two statements of `completeOne`. -/
def completeRelease (id : UUID) (clientID poolID now : Int) (result : CompletionResult) : Tx F :=
  .stmt (leaseLocks [id]) (fun _ => deleteLease id clientID poolID) fun _ =>
  .stmt (fun _ => [.operation id])
    (fun _ => updateOperation id (completedOperation now result))
    (fun _ => .commit (.completed { leaseID := id, result := some result }))

/-- The tokens of a completed request are taken from the stored bucket. -/
def chargeRate [RateArith F] (clientID now : Int) (usage : TokenUsage) (db : Db F) : Db F :=
  match db.rates clientID .tpm with
  | none => db
  | some row => setRate clientID .tpm
      { row with balance := RateArith.charge row.balance usage, lastRefillAt := timestamptz now } db

/-- A lease that has not run out is released, any other one is lost. -/
def completionOf (lease : Option LeaseRow) (now : Int) : CompletionResult :=
  match lease with
  | none => .leaseLost
  | some row => if now < row.expiresAt then .released else .leaseLost

/-- `completeOne` from its clock reading on; `charge` is the usage to charge and the
    client row it is charged under. -/
def completeAt [RateArith F] (id : UUID) (clientID poolID : Int) (lease : Option LeaseRow)
    (charge : Option (TokenUsage × ClientRow)) : Tx F :=
  .read fun clock =>
  match charge with
  | none => completeRelease id clientID poolID clock.now (completionOf lease clock.now)
  | some (usage, client) =>
    normalizeRate clientID .tpm client.revision client.tokensPerMinute clock.now false fun _ _ =>
    .stmt (fun _ => [.rate clientID .tpm]) (fun _ => chargeRate clientID clock.now usage) fun _ =>
    completeRelease id clientID poolID clock.now (completionOf lease clock.now)

/-- `completeOne` for a receipt that is not completed.  Only a present and valid usage
    of a client that still exists and has a token limit is charged. -/
def completeLocked [RateArith F] (item : LeaseCompletion) (clientID poolID : Int)
    (lease : Option LeaseRow) : Tx F :=
  let id := item.lease.leaseID
  match item.usage with
  | none => completeAt id clientID poolID lease none
  | some usage =>
    if usage.valid then
      .read fun configuration =>
      match configuration.snapshot.configuration.clients clientID with
      | none => completeAt id clientID poolID lease none
      | some client =>
        if 0 < client.tokensPerMinute then
          .stmt (newRateLocks clientID [.tpm])
            (fun view => seedRate view clientID .tpm client.revision client.tokensPerMinute)
            fun _ =>
          .lock (rateLocks clientID [.tpm]) fun _ =>
          completeAt id clientID poolID lease (some (usage, client))
        else completeAt id clientID poolID lease none
    else completeAt id clientID poolID lease none

def completeOne [RateArith F] (item : LeaseCompletion) : Tx F :=
  let id := item.lease.leaseID
  .read fun first =>
  match first.snapshot.operations.lookup id with
  | none => .commit (.completed { leaseID := id, reason := some .staleOperation })
  | some seen =>
    if seen.decision ≠ .admitted then
      .commit (.completed
        { leaseID := id, result := some .leaseLost, reason := some .leaseLost })
    else
      .lock (fun _ => [.pool seen.poolID]) fun _ =>
      .lock (fun _ => [.client seen.clientID]) fun _ =>
      .lock (leaseLocks [id]) fun lease =>
      .lock (operationLocks [id]) fun operation =>
      match lockedOperation operation id with
      | none => .rollback
      | some stored =>
        if stored.completedAt.isSome then
          match stored.completionResult with
          | none => .rollback
          | some original => .commit (.completed
              { leaseID := id, result := some .alreadyCompleted,
                originalResult := some original })
        else completeLocked item seen.clientID seen.poolID (lockedLease lease id)

/-! ## Cleanup -/

/-- An expired lease as the cleanup found it before its transaction. -/
structure ExpiredLease where
  id : UUID
  pool : Int
  client : Int
  deriving DecidableEq, Repr

def cleanupExpired (items : List ExpiredLease) : Tx F :=
  let ids := items.map ExpiredLease.id
  .lock (fun _ => items.map fun item => .pool item.pool) fun _ =>
  .lock (fun _ => items.map fun item => .client item.client) fun _ =>
  .lock (leaseLocks ids) fun _ =>
  .lock (operationLocks ids) fun _ =>
  .read fun clock =>
  .stmt (leaseLocks ids)
    (fun view => deleteLeases fun id _ => decide (id ∈ expiredIDs view ids clock.now)) fun view =>
  if expiredIDs view ids clock.now = [] then .commit (.cleaned false)
  else
    .stmt (operationLocks (expiredIDs view ids clock.now))
      (fun _ => updateOperations (fun id => decide (id ∈ expiredIDs view ids clock.now))
        (expireOperation clock.now))
      (fun _ => .commit (.cleaned false))

/-- A receipt past its retention that has no lease. -/
def receiptDue (db : Db F) (now : Int) (id : UUID) : Bool :=
  (db.leases.lookup id).isNone &&
  match db.operations.lookup id with
  | none => false
  | some row =>
    match row.retainUntil with
    | none => false
    | some retainUntil => decide (retainUntil ≤ now)

/-- The receipts `cleanupAdmissionReceipts` locks: due ones in the order of their ids,
    without those another transaction has locked. -/
def dueReceipts (view : View (Db F)) (batch : Nat) (skipped : UUID → Bool) : List UUID :=
  ((((view.snapshot.operations.keys).filter fun id =>
    receiptDue view.snapshot view.now id && receiptDue view.current view.now id).mergeSort
      (· ≤ ·)).filter fun id => !skipped id).take batch

/-- `cleanupAdmissionReceipts` once its receipts are locked. -/
def deleteReceipts (receipts : List UUID) (full : Bool) : Tx F :=
  if receipts = [] then .commit (.cleaned full)
  else
    .read fun clock =>
    .stmt (operationLocks receipts)
      (fun view db =>
        { db with
          operations := Table.filter (fun id _ =>
            !(decide (id ∈ receipts) && receiptDue view.current clock.now id)) db.operations })
      (fun _ => .commit (.cleaned full))

/-- `cleanupAdmissionReceipts`; which receipts are skipped as locked is arbitrary. -/
def cleanupAdmissionReceipts (batch : Nat) (skipped : UUID → Bool) : Tx F :=
  .lock (fun view => (dueReceipts view batch skipped).map .operation) fun view =>
  deleteReceipts (dueReceipts view batch skipped)
    (decide ((dueReceipts view batch skipped).length = batch))

/-! ## The transactions -/

/-- The transactions of the coordinator. -/
inductive Transaction where
  | acquire (request : AdmissionRequest)
  | renew (leases : List LeaseIdentity)
  | completeOne (item : LeaseCompletion)
  | cleanupExpired (items : List ExpiredLease)
  | cleanupAdmissionReceipts (batch : Nat) (skipped : UUID → Bool)

/-- What each of them runs. -/
def transaction [RateArith F] (fingerprint : AdmissionRequest → Nat) : Transaction → Tx F
  | .acquire request => acquire fingerprint request
  | .renew leases => renew leases
  | .completeOne item => completeOne item
  | .cleanupExpired items => cleanupExpired items
  | .cleanupAdmissionReceipts batch skipped => cleanupAdmissionReceipts batch skipped

end Transactions

end Coordination.PostgresAdmission
