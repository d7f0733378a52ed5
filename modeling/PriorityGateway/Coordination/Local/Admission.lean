import PriorityGateway.Framework.System
import PriorityGateway.Framework.Table
import PriorityGateway.Coordination.Local.ExpiryQueue

/-! # The Local Admission Coordinator

    The in-process coordinator: a table of receipts (one per lease id, kept
    for a day after the operation ended), a table of live leases, two expiry
    queues that are cleaned lazily, three inflight counters and the rate
    buckets of the clients.

    Every public call takes the coordinator's mutex for its whole body, so a
    call is one atomic step and the coordinator is a `Machine`.  A call whose
    context is already cancelled returns before the mutex is taken and is not
    a step.

    Two things are recorded that the Go code does not store:

    * `nilDereference` is set where the Go code would dereference a missing
      receipt (`removeLease`), that is, panic.
    * a call reports the `Effect`s it had: a lease created, a request debited
      from the RPM bucket, a usage debited from the TPM bucket.  They are
      reported at the statement that has the effect. -/

namespace Coordination

namespace LocalAdmission

/-! ## State -/

structure AdmissionReceipt where
  fingerprint : Nat
  decision : AdmissionDecision := {}
  completed : Bool := false
  completion : Option CompletionResult := none
  request : AdmissionRequest
  expired : Bool := false
  retainUntil : Int := 0
  deriving DecidableEq, Repr

structure RateState (F : Type) where
  revision : Int
  capacity : Int
  balance : F
  at' : Int
  deriving DecidableEq

structure RatePolicy where
  revision : Int
  rpm : Int
  tpm : Int
  deriving DecidableEq, Repr

structure AdmissionCoordinator (F : Type) where
  receipts : Table UUID AdmissionReceipt
  leases : Table UUID LeaseIdentity
  expiries : ExpiryQueue
  terminalExpiries : ExpiryQueue
  clientInflight : Int → Nat
  poolInflight : Int → Nat
  poolLowerInflight : Int → Nat
  receiptCapacity : Int
  rates : Int → RateKind → Option (RateState F)
  policies : Int → Option RatePolicy
  nilDereference : Bool

def defaultLocalAdmissionReceiptCapacity : Int := 65536

def newAdmissionCoordinator (F : Type) (receiptCapacity : Int) : AdmissionCoordinator F where
  receipts := ∅
  leases := ∅
  expiries := MinHeap.empty
  terminalExpiries := MinHeap.empty
  clientInflight := fun _ => 0
  poolInflight := fun _ => 0
  poolLowerInflight := fun _ => 0
  receiptCapacity :=
    if receiptCapacity ≤ 0 then defaultLocalAdmissionReceiptCapacity else receiptCapacity
  rates := fun _ _ => none
  policies := fun _ => none
  nilDereference := false

/-- What a call did to the world outside the receipts. -/
inductive Effect where
  | leaseCreated (request : AdmissionRequest)
  | rpmDebited (request : AdmissionRequest)
  | tpmDebited (request : AdmissionRequest) (usage : TokenUsage)
  deriving DecidableEq, Repr

/-! ## Counters and leases -/

/-- `m[key]++` -/
def increment (m : Int → Nat) (key : Int) : Int → Nat := Function.update m key (m key + 1)

/-- `delete(m, key)` when at most one is left, `m[key]--` otherwise. -/
def decrement (m : Int → Nat) (key : Int) : Int → Nat :=
  if m key ≤ 1 then Function.update m key 0 else Function.update m key (m key - 1)

theorem decrement_eq (m : Int → Nat) (key : Int) :
    decrement m key = Function.update m key (m key - 1) := by
  unfold decrement
  split
  · congr 1; omega
  · rfl

section Operations

variable {F : Type}

def removeLease (s : AdmissionCoordinator F) (id : UUID) : AdmissionCoordinator F :=
  match s.leases.lookup id with
  | none => s
  | some lease =>
    match s.receipts.lookup id with
    | none => { s with leases := s.leases.erase id, nilDereference := true }
    | some receipt =>
      { s with
        leases := s.leases.erase id
        poolLowerInflight :=
          if receipt.request.priorityClass.lower then decrement s.poolLowerInflight lease.poolID
          else s.poolLowerInflight
        clientInflight := decrement s.clientInflight lease.clientID
        poolInflight := decrement s.poolInflight lease.poolID }

/-! ## Expiry -/

/-- The effect of one due lease entry. -/
def expireLeaseEntry (s : AdmissionCoordinator F) (now : Int) (expiry : ExpiryEntry) :
    AdmissionCoordinator F :=
  match expiry.kind with
  | .admissionLeaseExpiry =>
    match s.leases.lookup expiry.id with
    | none => s
    | some lease =>
      if lease.expiresAt ≠ expiry.at' ∨ now < lease.expiresAt then s
      else
        let s := removeLease s expiry.id
        match s.receipts.lookup expiry.id with
        | none => s
        | some receipt =>
          if receipt.completed then s
          else
            let retainUntil := retentionBoundary receipt.request.operationStartedAt now
            { s with
              receipts := s.receipts.insert expiry.id
                { receipt with expired := true, retainUntil := retainUntil }
              terminalExpiries :=
                s.terminalExpiries.add .admissionReceiptExpiry expiry.id retainUntil }
  | _ => s

/-- One round of the first loop of `expire`. -/
def expireLeaseRound (now : Int) (s : AdmissionCoordinator F) : Option (AdmissionCoordinator F) :=
  match s.expiries.due now with
  | none => none
  | some (expiry, queue) => some (expireLeaseEntry { s with expiries := queue } now expiry)

/-- The effect of one due receipt entry. -/
def expireReceiptEntry (s : AdmissionCoordinator F) (now : Int) (expiry : ExpiryEntry) :
    AdmissionCoordinator F :=
  match s.receipts.lookup expiry.id with
  | none => s
  | some receipt =>
    if receipt.retainUntil = expiry.at' ∧ ¬ now < receipt.retainUntil then
      { s with receipts := s.receipts.erase expiry.id }
    else s

/-- One round of the second loop of `expire`. -/
def expireReceiptRound (now : Int) (s : AdmissionCoordinator F) :
    Option (AdmissionCoordinator F) :=
  match s.terminalExpiries.due now with
  | none => none
  | some (expiry, queue) =>
    some (expireReceiptEntry { s with terminalExpiries := queue } now expiry)

/-- The first loop of `expire`: every round takes one entry off the queue. -/
def expireLeases (s : AdmissionCoordinator F) (now : Int) : AdmissionCoordinator F :=
  iterate (expireLeaseRound now) s.expiries.size s

def expireReceipts (s : AdmissionCoordinator F) (now : Int) : AdmissionCoordinator F :=
  iterate (expireReceiptRound now) s.terminalExpiries.size s

def expire (s : AdmissionCoordinator F) (now : Int) : AdmissionCoordinator F :=
  expireReceipts (expireLeases s now) now

/-! ## Receipt room -/

/-- The entry at the root of the terminal queue belongs to a stored terminal receipt. -/
def rootIsTerminal (s : AdmissionCoordinator F) (expiry : ExpiryEntry) : Bool :=
  match s.receipts.lookup expiry.id with
  | none => false
  | some receipt => decide (receipt.retainUntil ≠ 0) && decide (receipt.retainUntil = expiry.at')

/-- One round of `hasTerminalReceipt`: a stale root is popped. -/
def dropStaleRound (s : AdmissionCoordinator F) : Option (AdmissionCoordinator F) :=
  match s.terminalExpiries.pop with
  | none => none
  | some (expiry, queue) =>
    if rootIsTerminal s expiry then none else some { s with terminalExpiries := queue }

/-- The cleaning that `hasTerminalReceipt` does; it answers whether an entry is left. -/
def dropStale (s : AdmissionCoordinator F) : AdmissionCoordinator F :=
  iterate dropStaleRound s.terminalExpiries.size s

def hasTerminalReceipt (s : AdmissionCoordinator F) : AdmissionCoordinator F × Bool :=
  (dropStale s, (dropStale s).terminalExpiries.peek.isSome)

/-- One round of `makeReceiptRoom`: while the table is full, the oldest
    terminal receipt goes.  Without one the queue is left empty and the loop ends. -/
def makeRoomRound (s : AdmissionCoordinator F) : Option (AdmissionCoordinator F) :=
  if (Table.size s.receipts : Int) < s.receiptCapacity ∨ s.terminalExpiries.peek = none then none
  else
    match (hasTerminalReceipt s).1.terminalExpiries.pop with
    | none => some (hasTerminalReceipt s).1
    | some (expiry, queue) =>
      some { (hasTerminalReceipt s).1 with
        terminalExpiries := queue
        receipts := (hasTerminalReceipt s).1.receipts.erase expiry.id }

def makeReceiptRoom (s : AdmissionCoordinator F) : AdmissionCoordinator F × Bool :=
  let s' := iterate makeRoomRound s.terminalExpiries.size s
  (s', decide ((Table.size s'.receipts : Int) < s'.receiptCapacity))

/-! ## Rates -/

/-- `observeClientRatePolicy`: the policy with the highest revision seen. -/
def observeClientRatePolicy (s : AdmissionCoordinator F) (candidate : ClientRatePolicy) :
    AdmissionCoordinator F × RatePolicy :=
  let observed : RatePolicy :=
    ⟨candidate.revision, candidate.requestsPerMinute, candidate.tokensPerMinute⟩
  match s.policies candidate.clientID with
  | none => ({ s with policies := Function.update s.policies candidate.clientID (some observed) },
      observed)
  | some policy =>
    if policy.revision < candidate.revision then
      ({ s with policies := Function.update s.policies candidate.clientID (some observed) },
        observed)
    else (s, policy)

def observeRatePolicy (s : AdmissionCoordinator F) (request : AdmissionRequest) :
    AdmissionCoordinator F × RatePolicy :=
  observeClientRatePolicy s
    { clientID := request.clientID, revision := request.clientPolicyRevision,
      requestsPerMinute := request.requestsPerMinute,
      tokensPerMinute := request.tokensPerMinute }

/-- `normalized`: the bucket as it stands at `now`. -/
def normalized [RateArith F] (s : AdmissionCoordinator F) (clientID : Int) (kind : RateKind)
    (revision capacity now : Int) : RateState F :=
  let created : RateState F := ⟨revision, capacity, RateArith.full capacity, now⟩
  match s.rates clientID kind with
  | none => created
  | some state =>
    if state.revision ≠ revision ∨ state.capacity ≠ capacity then created
    else
      let elapsed := timeSub now state.at'
      if 0 < elapsed then
        { state with balance := RateArith.refill state.balance elapsed capacity, at' := now }
      else state

def setRate (s : AdmissionCoordinator F) (clientID : Int) (kind : RateKind)
    (state : RateState F) : AdmissionCoordinator F :=
  { s with
    rates := Function.update s.rates clientID
      (Function.update (s.rates clientID) kind (some state)) }

/-! ## Acquire -/

/-- What the checks of `Acquire` come to. -/
inductive Verdict where
  | reject (reason : Reason) (retryAt : Option Int) (scope : Option AdmissionScope)
  | grant (debited : Bool)
  deriving DecidableEq, Repr

/-- The RPM bucket is the last one asked; an admitted request is debited from it. -/
def checkRPM [RateArith F] (s : AdmissionCoordinator F) (policy : RatePolicy) (now : Int)
    (req : AdmissionRequest) : AdmissionCoordinator F × Verdict :=
  if 0 < policy.rpm then
    let state := normalized s req.clientID .rpm policy.revision policy.rpm now
    if RateArith.exhausted state.balance then
      (setRate s req.clientID .rpm state,
        .reject .rpmExhausted (some (RateArith.rateRetryAt state.balance policy.rpm now)) none)
    else
      (setRate s req.clientID .rpm { state with balance := RateArith.debit state.balance },
        .grant true)
  else
    (setRate s req.clientID .rpm (normalized s req.clientID .rpm policy.revision 0 now),
      .grant false)

/-- The TPM bucket must hold at least one token. -/
def checkTPM [RateArith F] (s : AdmissionCoordinator F) (policy : RatePolicy) (now : Int)
    (req : AdmissionRequest) : AdmissionCoordinator F × Verdict :=
  if 0 < policy.tpm then
    let state := normalized s req.clientID .tpm policy.revision policy.tpm now
    if RateArith.exhausted state.balance then
      (setRate s req.clientID .tpm state,
        .reject .tpmExhausted (some (RateArith.rateRetryAt state.balance policy.tpm now)) none)
    else checkRPM (setRate s req.clientID .tpm state) policy now req
  else
    checkRPM
      (setRate s req.clientID .tpm (normalized s req.clientID .tpm policy.revision 0 now))
      policy now req

/-- A request whose reserve, limit and class do not fit together. -/
def invalidReserve (req : AdmissionRequest) : Bool :=
  decide (req.poolHighPriorityReserve < 0) ||
  (decide (0 < req.poolHighPriorityReserve) &&
    (decide (req.poolGatewayInflightLimit ≤ 0) ||
      decide (req.poolGatewayInflightLimit < req.poolHighPriorityReserve) ||
      !req.priorityClass.valid)) ||
  (decide (req.priorityClass ≠ .unset) && !req.priorityClass.valid)

/-- The limits, asked in source order: the client's own setting, the pool, the
    reserve, the client, and the two buckets. -/
def checkLimits [RateArith F] (s : AdmissionCoordinator F) (policy : RatePolicy) (now : Int)
    (req : AdmissionRequest) : AdmissionCoordinator F × Verdict :=
  if req.effectiveClientLimit ≤ 0 ∨ req.configuredClientLimit < req.effectiveClientLimit then
    (s, .reject .concurrencyExhausted none (some .client))
  else if 0 < req.poolGatewayInflightLimit ∧
      req.poolGatewayInflightLimit ≤ s.poolInflight req.poolID then
    (s, .reject .concurrencyExhausted none (some .pool))
  else if 0 < req.poolHighPriorityReserve ∧ req.priorityClass.lower ∧
      req.poolGatewayInflightLimit - req.poolHighPriorityReserve
        ≤ s.poolLowerInflight req.poolID then
    (s, .reject .poolPriorityReserve none none)
  else if req.effectiveClientLimit ≤ s.clientInflight req.clientID then
    (s, .reject .concurrencyExhausted none (some .client))
  else checkTPM s policy now req

/-- The checks of `Acquire` on a request without a receipt. -/
def evaluate [RateArith F] (s : AdmissionCoordinator F) (now : Int) (req : AdmissionRequest) :
    AdmissionCoordinator F × Verdict :=
  if !fresh req.operationStartedAt now then (s, .reject .staleOperation none none)
  else if invalidReserve req then (s, .reject .staleConfiguration none none)
  else checkLimits (observeRatePolicy s req).1 (observeRatePolicy s req).2 now req

/-- The closure `reject` of `Acquire`: the decision goes into the receipt,
    which is terminal from here on. -/
def recordRejection (fingerprint : Nat) (s : AdmissionCoordinator F) (now : Int)
    (req : AdmissionRequest) (d : AdmissionDecision) : AdmissionCoordinator F :=
  let retainUntil := retentionBoundary req.operationStartedAt now
  { s with
    receipts := s.receipts.insert req.leaseID
      { fingerprint := fingerprint, request := req, decision := d, retainUntil := retainUntil }
    terminalExpiries := s.terminalExpiries.add .admissionReceiptExpiry req.leaseID retainUntil }

/-- The lease an admitted request is granted. -/
def grantedLease (now : Int) (req : AdmissionRequest) : LeaseIdentity where
  leaseID := req.leaseID
  clientID := req.clientID
  poolID := req.poolID
  requestID := req.requestID
  replicaID := req.replicaID
  expiresAt := now + req.leaseTTL
  ttl := req.leaseTTL

/-- The end of `Acquire`: the lease is stored and counted. -/
def recordLease (fingerprint : Nat) (s : AdmissionCoordinator F) (now : Int)
    (req : AdmissionRequest) : AdmissionCoordinator F :=
  let lease := grantedLease now req
  { s with
    receipts := s.receipts.insert req.leaseID
      { fingerprint := fingerprint, request := req, decision := { lease := some lease } }
    leases := s.leases.insert req.leaseID lease
    clientInflight := increment s.clientInflight lease.clientID
    poolInflight := increment s.poolInflight lease.poolID
    poolLowerInflight :=
      if req.priorityClass.lower then increment s.poolLowerInflight lease.poolID
      else s.poolLowerInflight
    expiries := s.expiries.add .admissionLeaseExpiry lease.leaseID lease.expiresAt }

/-- `Acquire` on a request without a receipt, once there is room for one. -/
def acquireFresh [RateArith F] (fingerprint : Nat) (s : AdmissionCoordinator F) (now : Int)
    (req : AdmissionRequest) : AdmissionCoordinator F × AdmissionDecision × List Effect :=
  match evaluate s now req with
  | (s, .reject reason retryAt scope) =>
    let d : AdmissionDecision :=
      { reason := some reason, retryAt := retryAt, concurrencyScope := scope }
    (recordRejection fingerprint s now req d, d, [])
  | (s, .grant debited) =>
    (recordLease fingerprint s now req, { lease := some (grantedLease now req) },
      .leaseCreated req :: if debited then [.rpmDebited req] else [])

def replay (fingerprint : Nat) (s : AdmissionCoordinator F) (now : Int) (req : AdmissionRequest)
    (old : AdmissionReceipt) : AdmissionDecision :=
  if old.fingerprint ≠ fingerprint then { reason := some .idempotencyConflict }
  else if old.completed || old.expired then { reason := some .leaseLost }
  else if old.decision.lease.isSome then
    match s.leases.lookup req.leaseID with
    | none => { reason := some .leaseLost }
    | some lease =>
      if now < lease.expiresAt then { lease := some lease } else { reason := some .leaseLost }
  else old.decision

def acquire [RateArith F] (fingerprint : AdmissionRequest → Nat) (s : AdmissionCoordinator F)
    (now : Int) (req : AdmissionRequest) :
    AdmissionCoordinator F × AdmissionDecision × List Effect :=
  let s := expire s now
  match s.receipts.lookup req.leaseID with
  | some old => (s, replay (fingerprint req) s now req old, [])
  | none =>
    match makeReceiptRoom s with
    | (s, false) => (s, { reason := some .coordinationUnavailable }, [])
    | (s, true) => acquireFresh (fingerprint req) s now req

/-! ## Renew -/

/-- One entry of a `Renew` batch. -/
def renewEntry (now : Int) (s : AdmissionCoordinator F) (want : LeaseIdentity) :
    AdmissionCoordinator F × RenewResult :=
  let lost : AdmissionCoordinator F × RenewResult :=
    (removeLease s want.leaseID, { lease := want, reason := some .leaseLost })
  match s.leases.lookup want.leaseID with
  | none => lost
  | some got =>
    if got.clientID ≠ want.clientID ∨ got.poolID ≠ want.poolID ∨ ¬ now < got.expiresAt then lost
    else
      let ttl := if got.ttl ≤ 0 then want.ttl else got.ttl
      if ttl ≤ 0 then (s, { lease := want, reason := some .leaseLost })
      else
        let got := { got with expiresAt := now + ttl }
        ({ s with
            leases := s.leases.insert want.leaseID got
            expiries := s.expiries.add .admissionLeaseExpiry got.leaseID got.expiresAt },
          { lease := got })

/-- The loop of `Renew` over its batch. -/
def renewBatch (now : Int) : Machine (AdmissionCoordinator F) LeaseIdentity RenewResult where
  step := renewEntry now

def renew (s : AdmissionCoordinator F) (now : Int) (leases : List LeaseIdentity) :
    AdmissionCoordinator F × List RenewResult :=
  let s := expire s now
  ((renewBatch now).after s leases, (renewBatch now).answers s leases)

/-! ## Complete -/

/-- The policy a completion is charged under: the observed one, or the request's own. -/
def currentPolicy (s : AdmissionCoordinator F) (request : AdmissionRequest) : RatePolicy :=
  match s.policies request.clientID with
  | some policy => policy
  | none => ⟨request.clientPolicyRevision, request.requestsPerMinute, request.tokensPerMinute⟩

/-- A usage is taken from the client's TPM bucket. -/
def chargeUsage [RateArith F] (s : AdmissionCoordinator F) (now : Int)
    (request : AdmissionRequest) (usage : TokenUsage) : AdmissionCoordinator F × List Effect :=
  let policy := currentPolicy s request
  let state := normalized s request.clientID .tpm policy.revision policy.tpm now
  if 0 < policy.tpm then
    (setRate s request.clientID .tpm
      { state with balance := RateArith.charge state.balance usage }, [.tpmDebited request usage])
  else (setRate s request.clientID .tpm state, [])

/-- Only a present and valid usage is charged. -/
def chargeCompletion [RateArith F] (s : AdmissionCoordinator F) (now : Int)
    (request : AdmissionRequest) : Option TokenUsage → AdmissionCoordinator F × List Effect
  | some usage => if usage.valid then chargeUsage s now request usage else (s, [])
  | none => (s, [])

/-- The lease of `id` is stored, belongs to the request and has not run out. -/
def leaseActive (s : AdmissionCoordinator F) (now : Int) (id : UUID)
    (request : AdmissionRequest) : Bool :=
  match s.leases.lookup id with
  | none => false
  | some lease => decide (lease.clientID = request.clientID) &&
      decide (lease.poolID = request.poolID) && decide (now < lease.expiresAt)

/-- One item of a `Complete` batch whose receipt is admitted and not completed. -/
def completeReceipt [RateArith F] (s : AdmissionCoordinator F) (now : Int)
    (item : LeaseCompletion) (receipt : AdmissionReceipt) :
    AdmissionCoordinator F × CompleteResult × List Effect :=
  let id := item.lease.leaseID
  let result : CompletionResult :=
    if leaseActive s now id receipt.request then .released else .leaseLost
  let charged := chargeCompletion (removeLease s id) now receipt.request item.usage
  let retainUntil := retentionBoundary receipt.request.operationStartedAt now
  ({ charged.1 with
      receipts := charged.1.receipts.insert id
        { receipt with
          completed := true, completion := some result, retainUntil := retainUntil }
      terminalExpiries :=
        charged.1.terminalExpiries.add .admissionReceiptExpiry id retainUntil },
    { leaseID := id, result := some result }, charged.2)

/-- One item of a `Complete` batch. -/
def completeEntry [RateArith F] (now : Int) (s : AdmissionCoordinator F) (item : LeaseCompletion) :
    AdmissionCoordinator F × CompleteResult × List Effect :=
  let id := item.lease.leaseID
  match s.receipts.lookup id with
  | none => (s, { leaseID := id, reason := some .staleOperation }, [])
  | some receipt =>
    if receipt.decision.lease.isNone then
      (s, { leaseID := id, result := some .leaseLost, reason := some .leaseLost }, [])
    else if receipt.completed then
      (s, { leaseID := id, result := some .alreadyCompleted,
            originalResult := receipt.completion }, [])
    else completeReceipt s now item receipt

/-- The loop of `Complete` over its batch. -/
def completeBatch [RateArith F] (now : Int) :
    Machine (AdmissionCoordinator F) LeaseCompletion (CompleteResult × List Effect) where
  step := completeEntry now

def complete [RateArith F] (s : AdmissionCoordinator F) (now : Int)
    (completions : List LeaseCompletion) :
    AdmissionCoordinator F × List (CompleteResult × List Effect) :=
  let s := expire s now
  ((completeBatch now).after s completions, (completeBatch now).answers s completions)

/-! ## The machine -/

/-- The public calls. -/
inductive Operation where
  | acquire (request : AdmissionRequest)
  | renew (leases : List LeaseIdentity)
  | complete (completions : List LeaseCompletion)
  | status
  | poolInflight (poolID : Int)
  | observeClientRatePolicy (policy : ClientRatePolicy)
  deriving DecidableEq, Repr

/-- What a call returns. -/
inductive Answer where
  | decision (d : AdmissionDecision)
  | renewed (results : List RenewResult)
  | completed (results : List CompleteResult)
  | status (available : Bool)
  | inflight (count : Nat)
  | observed
  deriving DecidableEq, Repr

/-- One call at one clock reading. -/
def call [RateArith F] (fingerprint : AdmissionRequest → Nat) (s : AdmissionCoordinator F)
    (now : Int) : Operation → AdmissionCoordinator F × Answer × List Effect
  | .acquire req =>
    let (s, d, effects) := acquire fingerprint s now req
    (s, .decision d, effects)
  | .renew leases =>
    let (s, results) := renew s now leases
    (s, .renewed results, [])
  | .complete completions =>
    let (s, results) := complete s now completions
    (s, .completed (results.map Prod.fst), (results.map Prod.snd).flatten)
  | .status =>
    let s := expire s now
    if (Table.size s.receipts : Int) < s.receiptCapacity then (s, .status true, [])
    else
      let (s, available) := hasTerminalReceipt s
      (s, .status available, [])
  | .poolInflight poolID =>
    let s := expire s now
    (s, .inflight (s.poolInflight poolID), [])
  | .observeClientRatePolicy policy => ((observeClientRatePolicy s policy).1, .observed, [])

/-- The coordinator: a call is an operation with the clock reading it takes. -/
def machine [RateArith F] (fingerprint : AdmissionRequest → Nat) :
    Machine (AdmissionCoordinator F) (Int × Operation) (Answer × List Effect) where
  step := fun s c => call fingerprint s c.1 c.2

end Operations

end LocalAdmission

end Coordination
