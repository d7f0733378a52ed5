import PriorityGateway.Coordination.Types

/-! # Tokenization Policies and Their Rate Buckets

    Tokenization requests have limits of their own, given by one policy for
    all clients.  The two coordinators keep a rate bucket per client; what they
    do to it is here, the in-process one and the one stored in PostgreSQL side
    by side, since they differ in when they write a bucket back. -/

namespace Coordination

/-! ## The policy -/

structure TokenizationPolicy where
  clientMaxInflight : Int
  backendMaxInflight : Int
  clientRPM : Int
  timeout : Int
  deriving DecidableEq, Repr

namespace TokenizationPolicy

def default : TokenizationPolicy := ⟨4, 8, 120, 30 * second⟩

def validate (p : TokenizationPolicy) : Bool :=
  !(decide (p.clientMaxInflight < 1) || decide (10000 < p.clientMaxInflight) ||
    decide (p.backendMaxInflight < 1) || decide (10000 < p.backendMaxInflight) ||
    decide (p.clientRPM < 1) || decide (10000000 < p.clientRPM) ||
    decide (p.timeout ≤ 0) || decide (5 * 60 * second < p.timeout))

def leaseTTL (p : TokenizationPolicy) : Int := p.timeout + 15 * second

def burst (p : TokenizationPolicy) : ℚ := (min p.clientRPM 10 : Int)

theorem one_le_clientRPM {p : TokenizationPolicy} (h : p.validate = true) : 1 ≤ p.clientRPM := by
  simp only [validate, Bool.not_eq_true', Bool.or_eq_false_iff, decide_eq_false_iff_not] at h
  omega

/-- The balance after the elapsed time; a negative one counts as none. -/
def refill (p : TokenizationPolicy) (balance : ℚ) (elapsed : Int) : ℚ :=
  min p.burst (balance + max 0 ((elapsed : ℚ) / second) * p.clientRPM / 60)

end TokenizationPolicy

/-! ## In process -/

namespace LocalTokenization

structure TokenizationRate where
  balance : ℚ
  at' : Int
  deriving DecidableEq

/-- The loop of `cleanup` over the rates, for one client: a bucket that was not used for a day
    is deleted. -/
def cleanupRate (rate : Option TokenizationRate) (now : Int) : Option TokenizationRate :=
  match rate with
  | none => none
  | some state => if 24 * 3600 * second ≤ timeSub now state.at' then none else some state

/-- The bucket as `Acquire` computes it. -/
def rateAt (p : TokenizationPolicy) (rate : Option TokenizationRate) (now : Int) :
    TokenizationRate :=
  let state := rate.getD ⟨p.burst, now⟩
  ⟨p.refill state.balance (timeSub now state.at'), now⟩

/-- The rate check of `Acquire`: only an admitted request writes the bucket back. -/
def checkRate (p : TokenizationPolicy) (rate : Option TokenizationRate) (now : Int) :
    Option TokenizationRate × Bool :=
  if (rateAt p rate now).balance < 1 then (rate, false)
  else (some { rateAt p rate now with balance := (rateAt p rate now).balance - 1 }, true)

end LocalTokenization

/-! ## In PostgreSQL -/

namespace PostgresTokenization

/-- A row of `tokenization_rate_state`.  Its instants are readings of `clock_timestamp()`, whole
    microseconds, and so stored as they are. -/
structure TokenizationRateRow where
  balance : ℚ
  lastRefillAt : Int
  deriving DecidableEq

/-- `INSERT INTO tokenization_rate_state ... ON CONFLICT DO NOTHING` -/
def seeded (p : TokenizationPolicy) (row : Option TokenizationRateRow) (now : Int) :
    TokenizationRateRow :=
  row.getD ⟨p.burst, now⟩

/-- The balance that is read and refilled. -/
def balanceAt (p : TokenizationPolicy) (row : Option TokenizationRateRow) (now : Int) : ℚ :=
  p.refill (seeded p row now).balance (timeSub now (seeded p row now).lastRefillAt)

/-- The rate check of `acquireTokenization`: the row exists after it, and only an admitted
    request updates it. -/
def checkRate (p : TokenizationPolicy) (row : Option TokenizationRateRow) (now : Int) :
    TokenizationRateRow × Bool :=
  if balanceAt p row now < 1 then (seeded p row now, false)
  else (⟨balanceAt p row now - 1, now⟩, true)

end PostgresTokenization

end Coordination
