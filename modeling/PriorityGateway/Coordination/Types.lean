import Mathlib.Data.Rat.Floor
import Mathlib.Algebra.Order.Field.Rat

/-! # Coordination Types

    The data that admission coordination passes around: requests, leases,
    decisions, completions, and the arithmetic of the per-minute buckets.

    * An instant is a number of nanoseconds after the zero value of the clock
      type, January 1 of year 1.  Instants before it are negative, and the
      zero value doubles as "not set", as in the source.  A duration is a
      number of nanoseconds.
    * Ids of clients and pools are integers; lease, replica and attempt ids
      are opaque (`UUID`).
    * A priority class is free text in the source, so besides the four valid
      classes there is the empty text and any other text. -/

namespace Coordination

/-- A 128-bit identifier, only ever compared. -/
abbrev UUID : Type := Nat

def second : Int := 1000000000

/-- How long a terminal receipt is kept: 24 hours. -/
def receiptRetention : Int := 24 * 3600 * second

/-- How far ahead of the coordinator's clock an operation may have started. -/
def futureTolerance : Int := 5 * 60 * second

/-- The largest representable duration. -/
def maxDuration : Int := 2 ^ 63 - 1

/-- The difference of two instants, saturating at the duration range. -/
def timeSub (a b : Int) : Int := max (-maxDuration - 1) (min maxDuration (a - b))

theorem timeSub_pos {a b : Int} : 0 < timeSub a b ↔ b < a := by
  simp only [timeSub, maxDuration]
  omega

/-- `started` lies in the window a coordinator accepts at `now`. -/
def fresh (started now : Int) : Bool :=
  decide (started ≤ now + futureTolerance) && decide (now - receiptRetention < started)

theorem fresh_self (now : Int) : fresh now now = true := by
  simp [fresh, futureTolerance, receiptRetention, second]

theorem lt_of_fresh {started now : Int} (h : fresh started now = true) :
    now < started + receiptRetention := by
  simp only [fresh, Bool.and_eq_true, decide_eq_true_eq] at h
  omega

/-! ## Priority classes -/

/-- The priority class of a client or of a request. -/
inductive PriorityClass where
  | critical
  | high
  | normal
  | background
  | unset
  | other (text : String)
  deriving DecidableEq, Repr

/-- One of the four known classes. -/
def PriorityClass.valid : PriorityClass → Bool
  | .critical | .high | .normal | .background => true
  | .unset | .other _ => false

/-- Neither high nor critical. -/
def PriorityClass.lower : PriorityClass → Bool
  | .critical | .high => false
  | _ => true

/-! ## Reasons and decisions -/

inductive Reason where
  | concurrencyExhausted
  | poolPriorityReserve
  | rpmExhausted
  | tpmExhausted
  | staleConfiguration
  | staleBackend
  | circuitOpen
  | probeCapacityExhausted
  | coordinationUnavailable
  | leaseLost
  | staleOperation
  | idempotencyConflict
  deriving DecidableEq, Repr

/-- Which limit a concurrency rejection is about. -/
inductive AdmissionScope where
  | client
  | pool
  deriving DecidableEq, Repr

structure AdmissionRequest where
  leaseID : UUID
  operationStartedAt : Int
  requestID : String
  replicaID : UUID
  configurationRevision : Int
  apiKeyID : Int
  clientID : Int
  poolID : Int
  clientPolicyRevision : Int
  effectiveClientLimit : Int
  configuredClientLimit : Int
  poolGatewayInflightLimit : Int
  poolHighPriorityReserve : Int
  priorityClass : PriorityClass
  requestsPerMinute : Int
  tokensPerMinute : Int
  leaseTTL : Int
  deriving DecidableEq, Repr

/-- A request of client 1 for pool 1 with ample limits and no rates. -/
def plainRequest (leaseID : UUID) (operationStartedAt leaseTTL : Int) : AdmissionRequest where
  leaseID := leaseID
  operationStartedAt := operationStartedAt
  requestID := "r"
  replicaID := 0
  configurationRevision := 1
  apiKeyID := 1
  clientID := 1
  poolID := 1
  clientPolicyRevision := 1
  effectiveClientLimit := 8
  configuredClientLimit := 8
  poolGatewayInflightLimit := 2
  poolHighPriorityReserve := 1
  priorityClass := .high
  requestsPerMinute := 0
  tokensPerMinute := 0
  leaseTTL := leaseTTL

structure LeaseIdentity where
  leaseID : UUID
  clientID : Int
  poolID : Int
  requestID : String
  replicaID : UUID
  expiresAt : Int
  ttl : Int
  deriving DecidableEq, Repr

/-- The answer to an acquisition.  An absent reason is the empty reason of the source. -/
structure AdmissionDecision where
  lease : Option LeaseIdentity := none
  reason : Option Reason := none
  retryAt : Option Int := none
  concurrencyScope : Option AdmissionScope := none
  deriving DecidableEq, Repr

/-- A lease without a reason. -/
def AdmissionDecision.admitted (d : AdmissionDecision) : Bool :=
  d.lease.isSome && d.reason.isNone

structure RenewResult where
  lease : LeaseIdentity
  reason : Option Reason := none
  deriving DecidableEq, Repr

structure TokenUsage where
  inputTokens : Int
  outputTokens : Int
  cacheReadTokens : Int
  deriving DecidableEq, Repr

def TokenUsage.valid (u : TokenUsage) : Bool :=
  decide (0 ≤ u.inputTokens) && decide (0 ≤ u.outputTokens) &&
    decide (0 ≤ u.cacheReadTokens) && decide (u.cacheReadTokens ≤ u.inputTokens)

structure LeaseCompletion where
  lease : LeaseIdentity
  usage : Option TokenUsage
  deriving DecidableEq, Repr

inductive CompletionResult where
  | released
  | leaseLost
  | alreadyCompleted
  deriving DecidableEq, Repr

structure CompleteResult where
  leaseID : UUID
  result : Option CompletionResult := none
  originalResult : Option CompletionResult := none
  reason : Option Reason := none
  deriving DecidableEq, Repr

/-- The per-minute limits of a client at one revision. -/
structure ClientRatePolicy where
  clientID : Int
  revision : Int
  requestsPerMinute : Int
  tokensPerMinute : Int
  deriving DecidableEq, Repr

/-- The two per-minute buckets of a client. -/
inductive RateKind where
  | rpm
  | tpm
  deriving DecidableEq, Repr

/-- One bucket of a table of buckets is replaced. -/
theorem update_rate_apply {V : Type} (rates : Int → RateKind → Option V) (c c' : Int)
    (kind kind' : RateKind) (v : Option V) :
    Function.update rates c (Function.update (rates c) kind v) c' kind'
      = if c' = c ∧ kind' = kind then v else rates c' kind' := by
  by_cases hc : c' = c
  · subst hc
    by_cases hk : kind' = kind
    · subst hk
      simp
    · simp [hk]
  · simp [hc]

/-- The instant a terminal receipt may be deleted: a day after the later of
    the operation's start and its end. -/
def retentionBoundary (operationStarted terminal : Int) : Int :=
  max operationStarted terminal + receiptRetention

theorem started_le_retentionBoundary (started t : Int) :
    started + receiptRetention ≤ retentionBoundary started t := by
  unfold retentionBoundary
  omega

theorem lt_retentionBoundary (started now : Int) : now < retentionBoundary started now := by
  unfold retentionBoundary receiptRetention second
  omega

/-! ## Bucket arithmetic

    The coordinators use floating-point balances in a handful of ways only.
    `RateArith` names them, so that the results that do not depend on the
    arithmetic hold for any, and the exact rational instance is used where a
    result does. -/

class RateArith (F : Type) where
  /-- A full bucket of the given capacity. -/
  full : Int → F
  /-- `balance + elapsed * capacity / 60`, at most the capacity. -/
  refill : F → Int → Int → F
  /-- `balance < 1`. -/
  exhausted : F → Bool
  /-- One request is taken out. -/
  debit : F → F
  /-- The tokens of a completed request are taken out. -/
  charge : F → TokenUsage → F
  /-- When an exhausted bucket can admit again. -/
  rateRetryAt : F → Int → Int → Int

/-- Truncation towards zero, as a conversion to an integer does. -/
def truncate (q : ℚ) : Int := if 0 ≤ q then ⌊q⌋ else ⌈q⌉

/-- `RateRetryAt`: the delay `(1 - balance) / capacity` minutes, saturating. -/
def rateRetryAt (balance : ℚ) (capacity : Int) (now : Int) : Int :=
  let delay := (1 - balance) / capacity * (60 * second)
  if (maxDuration : ℚ) ≤ delay then now + maxDuration else now + truncate delay

/-- Exact rational balances. -/
instance : RateArith ℚ where
  full capacity := capacity
  refill balance elapsed capacity :=
    min (balance + (elapsed : ℚ) / second * capacity / 60) capacity
  exhausted balance := decide (balance < 1)
  debit balance := balance - 1
  charge balance usage := balance - (usage.inputTokens + usage.outputTokens)
  rateRetryAt := rateRetryAt

theorem refill_full (elapsed capacity : Int) (he : 0 ≤ elapsed) (hc : 0 ≤ capacity) :
    RateArith.refill (RateArith.full capacity : ℚ) elapsed capacity
      = (RateArith.full capacity : ℚ) := by
  have hs : (0 : ℚ) ≤ second := by norm_num [second]
  have hgain : (0 : ℚ) ≤ (elapsed : ℚ) / second * capacity / 60 := by positivity
  show min ((capacity : ℚ) + _) (capacity : ℚ) = capacity
  apply min_eq_right
  linarith

/-! ## Circuits -/

inductive CircuitState where
  | circuitClosed
  | circuitOpen
  | circuitHalfOpen
  deriving DecidableEq, Repr

inductive InferenceOutcome where
  | inferenceSuccess
  | inferenceFailure
  | inferenceNeutral
  deriving DecidableEq, Repr

structure BackendIdentity where
  id : Int := 0
  revision : Int := 0
  enabled : Bool := false
  draining : Bool := false
  deriving DecidableEq, Repr

/-- What a coordinator reports about a circuit.  An absent state is the empty
    text of a zero snapshot; a zero `retryAt` is "not set". -/
structure CircuitSnapshot where
  backend : BackendIdentity := {}
  state : Option CircuitState := none
  generation : Int := 0
  failureCount : Nat := 0
  retryAt : Int := 0
  probesInFlight : Nat := 0
  available : Bool := false
  deriving DecidableEq, Repr

structure CircuitAcquireRequest where
  attemptID : UUID
  acquisitionStartedAt : Int
  replicaID : UUID
  backend : BackendIdentity
  probeTTL : Int
  deriving DecidableEq, Repr

/-- The permission to send one request through a half-open circuit. -/
structure ProbeIdentity where
  permitID : UUID
  backend : BackendIdentity
  generation : Int
  replicaID : UUID
  expiresAt : Int
  ttl : Int
  deriving DecidableEq, Repr

structure CircuitDecision where
  snapshot : CircuitSnapshot := {}
  permit : Option ProbeIdentity := none
  reason : Option Reason := none
  deriving DecidableEq, Repr

structure CircuitCompletion where
  attemptID : UUID
  backend : BackendIdentity
  generation : Int
  outcome : InferenceOutcome
  reportedOutcomeAt : Int
  deriving DecidableEq, Repr

end Coordination
