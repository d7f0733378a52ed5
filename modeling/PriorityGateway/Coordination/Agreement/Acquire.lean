import PriorityGateway.Coordination.Agreement.Relation

/-! # Acquisitions Agree

    A replay is answered from a receipt on one side and from the receipt row
    and the lease row on the other; a new operation goes through the same
    limits in the same order, counted on one side and recounted on the other.
    Both keep the relation `Core`. -/

namespace Coordination.Agreement

open LocalAdmission (AdmissionReceipt AdmissionCoordinator RateState RatePolicy Retained Verdict
  invalidReserve observeRatePolicy recordRejection normalized evaluate checkTPM checkRPM
  recordLease checkLimits Move)
open PostgresAdmission (Db OperationRow LeaseRow RateRow ClientRow ApiKeyRow PoolRow Configuration
  timestamptz seededRow refreshed Outcome configured staleRequest resolveLocked storedLease
  lookup_updateOperation Tx rejectAcquire grantLease rejectionScope acquireRPM normalizeRate_run
  normalizedRow timestamptz_of_whole acquireTPM acquireCounted checkAcquire grantedRow
  insertOperation countActive serialAcquire seedRate seedRates updateOperation)

/-! ## What is compared, and which requests -/

/-- What a caller sees of a decision; the retry instant to the microsecond. -/
structure DecisionReply where
  admitted : Bool
  reason : Option Reason
  concurrencyScope : Option AdmissionScope
  retryAt : Option Int
  deriving DecidableEq, Repr

def decisionReply (d : AdmissionDecision) : DecisionReply where
  admitted := d.admitted
  reason := d.reason
  concurrencyScope := d.concurrencyScope
  retryAt := d.retryAt.map timestamptz

/-- The request was made under the committed configuration, its priority class included. -/
def MatchesConfiguration (c : Configuration) (r : AdmissionRequest) (now : Int) : Prop :=
  ∃ found ∈ configured c r,
    staleRequest c r now found.1 found.2.1 found.2.2 = false ∧
    r.priorityClass = found.1.priorityClass

instance (c : Configuration) (r : AdmissionRequest) (now : Int) :
    Decidable (MatchesConfiguration c r now) :=
  inferInstanceAs (Decidable (∃ found ∈ configured c r, _ ∧ _))

/-- A fresh request with a valid effective limit and a whole number of microseconds as TTL. -/
def ValidRequest (r : AdmissionRequest) (now : Int) : Prop :=
  fresh r.operationStartedAt now = true ∧ 0 < r.effectiveClientLimit ∧
  r.effectiveClientLimit ≤ r.configuredClientLimit ∧ 0 < r.leaseTTL ∧ r.leaseTTL % 1000 = 0

instance (r : AdmissionRequest) (now : Int) : Decidable (ValidRequest r now) :=
  inferInstanceAs (Decidable (_ ∧ _))

/-- The facts behind a matching request. -/
structure Configured (c : Configuration) (r : AdmissionRequest) (now : Int) (client : ClientRow)
    (key : ApiKeyRow) (pool : PoolRow) : Prop where
  found : configured c r = some (client, key, pool)
  current : staleRequest c r now client key pool = false
  clientID : c.clients r.clientID = some client
  revision : r.clientPolicyRevision = client.revision
  limit : r.configuredClientLimit = client.maxConcurrency
  inflight : r.poolGatewayInflightLimit = pool.maxGatewayInflight
  reserve : r.poolHighPriorityReserve = pool.highPriorityReserve
  rpm : r.requestsPerMinute = client.requestsPerMinute
  tpm : r.tokensPerMinute = client.tokensPerMinute
  priorityClass : r.priorityClass = client.priorityClass

variable {r : AdmissionRequest} {client : ClientRow} {now : Int}

theorem configured_of_matches {c : Configuration} {key : ApiKeyRow} {pool : PoolRow}
    (hconfigured : configured c r = some (client, key, pool))
    (hcurrent : staleRequest c r now client key pool = false)
    (hclass : r.priorityClass = client.priorityClass) : Configured c r now client key pool := by
  have hclient : c.clients r.clientID = some client := by
    unfold configured at hconfigured
    split at hconfigured
    · next hc _ _ =>
      split at hconfigured <;> cases hconfigured
      exact hc
    · cases hconfigured
  have hsame := hcurrent
  unfold staleRequest at hsame
  simp only [Bool.or_eq_false_iff, decide_eq_false_iff_not, ne_eq, not_not] at hsame
  obtain ⟨⟨⟨⟨⟨⟨⟨⟨⟨⟨⟨⟨-, -⟩, -⟩, -⟩, hrevision⟩, hlimit⟩, hinflight⟩, hreserve⟩, -⟩, -⟩, hrpm⟩,
    htpm⟩, -⟩ := hsame
  exact ⟨hconfigured, hcurrent, hclient, hrevision.symm, hlimit.symm, hinflight.symm,
    hreserve.symm, hrpm.symm, htpm.symm, hclass⟩

/-! ## Replays -/

theorem lookup_self {ρ : Type} {t : Table UUID ρ} {id : UUID} {row : ρ} (h : t.lookup id = some row)
    (id' : UUID) : t.lookup id' = if id' = id then some row else t.lookup id' := by
  split
  · next hid =>
    rw [hid]
    exact h
  · rfl

section LocalReplay

variable {s : AdmissionCoordinator ℚ} {now : Int} {r : AdmissionRequest}
  {receipt : AdmissionReceipt}

theorem replay_rejected (hcompleted : receipt.completed = false)
    (hexpired : receipt.expired = false) (hlease : receipt.decision.lease = none) :
    LocalAdmission.replay receipt.fingerprint s now r receipt = receipt.decision := by
  unfold LocalAdmission.replay
  simp [hcompleted, hexpired, hlease]

/-- An admitted operation without a stored lease has lost it. -/
theorem replay_lost (hlease : receipt.decision.lease.isSome = true)
    (hnone : s.leases.lookup r.leaseID = none) :
    LocalAdmission.replay receipt.fingerprint s now r receipt = { reason := some .leaseLost } := by
  unfold LocalAdmission.replay
  simp only [ne_eq, not_true_eq_false, if_false, hlease, if_true, hnone]
  split <;> rfl

theorem replay_live {lease : LeaseIdentity} (hopen : receipt.Open)
    (hlease : s.leases.lookup r.leaseID = some lease) (hlive : now < lease.expiresAt) :
    LocalAdmission.replay receipt.fingerprint s now r receipt = { lease := some lease } := by
  obtain ⟨hadmitted, hcompleted, hexpired, -⟩ := hopen
  unfold LocalAdmission.replay
  simp [hadmitted, hcompleted, hexpired, hlease, hlive]

end LocalReplay

section StoredReplay

variable {fingerprint : Nat} {r : AdmissionRequest} {lease : Option LeaseRow} {op : OperationRow}
  {now : Int} {db : Db ℚ}

/-- An admitted operation whose lease is there and has not run out. -/
theorem resolveLocked_live {row : LeaseRow} (hadmitted : op.decision = .admitted)
    (hopen : op.completedAt = none ∧ op.leaseExpiredAt = none) (hactive : now < row.expiresAt) :
    (resolveLocked op.inputFingerprint r (some row) op).run now db
      = some (.decided { lease := some (storedLease r.leaseID row r.leaseTTL) },
          db) := by
  unfold resolveLocked
  simp [hadmitted, hopen.1, hopen.2, ReadCommitted.Prog.run_read, Int.not_le.mpr hactive]

/-- An admitted operation that has ended, or whose lease is gone or has run out, has lost
    its lease; in the latter cases its receipt is marked. -/
theorem resolveLocked_lost (hadmitted : op.decision = .admitted)
    (hinactive : ∀ row, lease = some row → op.completedAt = none → op.leaseExpiredAt = none →
      row.expiresAt ≤ now) :
    (resolveLocked op.inputFingerprint r lease op).run now db
      = some (.decided { reason := some .leaseLost },
          if op.completedAt.isSome || op.leaseExpiredAt.isSome then db
          else updateOperation r.leaseID (PostgresAdmission.lostOperation now)
            db) := by
  unfold resolveLocked
  have hdecision : op.decision ≠ .rejected := by
    rw [hadmitted]
    decide
  simp only [ne_eq, not_true_eq_false, if_false, hdecision]
  split
  · rfl
  next hopen =>
  simp only [Bool.or_eq_true, Option.isSome_iff_ne_none, not_or, not_not] at hopen
  rw [ReadCommitted.Prog.run_read]
  cases lease with
  | none => rfl
  | some row =>
    simp only [hinactive row rfl hopen.1 hopen.2, if_true]
    rfl

end StoredReplay

namespace Core

variable {fingerprint : AdmissionRequest → Nat} {gone : UUID → Prop} {now : Int}
  {s : AdmissionCoordinator ℚ} {db : Db ℚ}

/-- **A replay gets the same answer.** -/
theorem replay (h : Core fingerprint gone now s db)
    (hlive : ∀ id lease, s.leases.lookup id = some lease → now < lease.expiresAt)
    {receipt : AdmissionReceipt} (hreceipt : s.receipts.lookup r.leaseID = some receipt) :
    ∃ outcome db' d, (PostgresAdmission.acquire fingerprint r).run now db = some (outcome, db') ∧
      outcome.decision = some d ∧
      decisionReply d
        = decisionReply (LocalAdmission.replay (fingerprint r) s now r receipt) ∧
      Core fingerprint gone now s db' := by
  obtain ⟨op, hop, hm⟩ := h.receipt r.leaseID receipt hreceipt
  rw [PostgresAdmission.acquire_run_of_some hop]
  by_cases hconflict : receipt.fingerprint ≠ fingerprint r
  · unfold resolveLocked LocalAdmission.replay
    rw [hm.fingerprint, if_pos hconflict, if_pos hconflict]
    exact ⟨_, db, _, rfl, rfl, rfl, h⟩
  have hsame : fingerprint r = receipt.fingerprint := by
    push Not at hconflict
    exact hconflict.symm
  rw [hsame]
  rcases hgranted : receipt.decision.lease with _ | granted
  · -- a rejection is repeated, with the stored instant
    obtain ⟨hdecision, hreason, hsome, hretry, hscope, hcompleted, hexpired⟩ :=
      hm.rejected hgranted
    obtain ⟨reason, hr⟩ := Option.isSome_iff_exists.mp hsome
    rw [replay_rejected hcompleted hexpired hgranted]
    unfold resolveLocked
    simp only [hm.fingerprint, ne_eq, not_true_eq_false, if_false, hdecision, if_true, hreason, hr]
    refine ⟨_, db, _, rfl, rfl, ?_, h⟩
    unfold decisionReply AdmissionDecision.admitted
    simp only [hgranted, hr, hretry, hscope, Option.map_map, Option.isSome_none, Bool.false_and,
      DecisionReply.mk.injEq, true_and]
    congr 1
    funext t
    simp only [Function.comp_apply, timestamptz]
    omega
  have hisSome : receipt.decision.lease.isSome = true := by rw [hgranted]; rfl
  have hadmitted := hm.admitted hisSome
  rw [← hm.fingerprint]
  rcases hlease : s.leases.lookup r.leaseID with _ | lease
  · -- no lease is stored, so the row, if any, has run out
    have hrow : ∀ row, db.leases.lookup r.leaseID = some row → row.expiresAt ≤ now :=
      fun row => h.row_over hlease
    rw [resolveLocked_lost hadmitted (fun row hr _ _ => hrow row hr), hm.fingerprint,
      replay_lost hisSome hlease]
    refine ⟨_, _, _, rfl, rfl, rfl, ?_⟩
    split
    · exact h
    refine h.record h.retained (lookup_self hreceipt) ?_ (hm.lostOperation now)
      (fun _ _ => ⟨rfl, rfl⟩) (.inl ⟨hlease, hrow⟩) (h.observed _ _ hreceipt)
      (fun _ policy hp => ⟨policy, hp⟩) h.rates
    intro id'
    rw [lookup_updateOperation]
    split
    · next hid =>
      rw [hid, hop]
      rfl
    · rfl
  -- the lease is there on both sides
  obtain ⟨row, receipt', hrow, hreceipt', hholds⟩ := h.lease r.leaseID lease hlease
  obtain ⟨receipt'', hreceipt'', hopen, -⟩ :=
    h.retained.good.leaseReceipt r.leaseID lease hlease
  rw [hreceipt] at hreceipt''
  cases hreceipt''
  have hstored : op.completedAt = none ∧ op.leaseExpiredAt = none := by
    constructor
    · have hcompleted := hm.completedAt
      rw [hopen.2.1] at hcompleted
      simpa using hcompleted
    · by_contra hexpired
      have hnone := h.lost r.leaseID op hop (Option.isSome_iff_ne_none.mpr hexpired)
      rw [hlease] at hnone
      cases hnone
  have hactive : now < row.expiresAt := by
    rw [hholds.expiresAt]
    exact hlive _ _ hlease
  rw [hrow, resolveLocked_live hadmitted hstored hactive, hm.fingerprint,
    replay_live hopen hlease (hlive _ _ hlease)]
  exact ⟨_, db, _, rfl, rfl, rfl, h⟩

end Core

/-! ## The checks of a new operation -/

/-- What PostgreSQL does once its checks have come to a verdict. -/
def conclude (r : AdmissionRequest) (priorityClass : PriorityClass) (now : Int) :
    Verdict → Tx ℚ
  | .reject reason retryAt scope =>
    rejectAcquire r.leaseID reason retryAt now scope
  | .grant _ => grantLease r priorityClass now

/-- A rejection has the scope that is stored with its reason. -/
def WellScoped : Verdict → Prop
  | .reject reason _ scope => rejectionScope reason scope = scope
  | .grant _ => True

/-- The local checks and the transaction come to the same verdict, and the buckets they
    leave agree. -/
def Agrees (r : AdmissionRequest) (client : ClientRow) (now : Int) (s : AdmissionCoordinator ℚ)
    (db : Db ℚ) (checked : AdmissionCoordinator ℚ × Verdict) (tx : Tx ℚ) : Prop :=
  ∃ rates rows verdict, checked = ({ s with rates := rates }, verdict) ∧
    tx.run now db
      = (conclude r client.priorityClass now verdict).run now { db with rates := rows } ∧
    WellScoped verdict ∧ RatesAgree db.configuration s.policies rates rows now

variable {scope : Option AdmissionScope} {reason : Reason} {db : Db ℚ}

/-- A rejection before the buckets are asked. -/
theorem Agrees.reject {s : AdmissionCoordinator ℚ}
    (hrates : RatesAgree db.configuration s.policies s.rates db.rates now)
    (hscope : rejectionScope reason scope = scope) :
    Agrees r client now s db (s, .reject reason none scope)
      (rejectAcquire r.leaseID reason none now scope) :=
  ⟨s.rates, db.rates, _, rfl, rfl, hscope, hrates⟩

section Buckets

variable {r : AdmissionRequest} {client : ClientRow} {now : Int} {s : AdmissionCoordinator ℚ}
  {db : Db ℚ} (hrates : RatesAgree db.configuration s.policies s.rates db.rates now)
  (hclient : db.configuration.clients r.clientID = some client)

include hrates hclient

/-- The bucket that is stored under a limit, normalized on both sides. -/
theorem normalized_agree (kind : RateKind) {row : RateRow ℚ}
    (hcap : 0 < capacity client kind) (hrow : db.rates r.clientID kind = some row) :
    normalized s r.clientID kind client.revision (capacity client kind) now
      = ⟨client.revision, capacity client kind,
          refreshed row client.revision (capacity client kind) now, now⟩ := by
  have hbucket := hrates.bucket r.clientID client kind hclient hcap
  rw [hrow] at hbucket
  exact hbucket.normalized hcap

variable (s db) in
theorem checkRPM_agree (hpolicy : s.policies r.clientID = some (policyOf client))
    (hseeded : 0 < client.requestsPerMinute → (db.rates r.clientID .rpm).isSome = true)
    (hwhole : now % 1000 = 0) :
    Agrees r client now s db (checkRPM s (policyOf client) now r)
      (acquireRPM r client now) := by
  unfold checkRPM acquireRPM
  by_cases hcap : 0 < client.requestsPerMinute
  · obtain ⟨row, hrow⟩ := Option.isSome_iff_exists.mp (hseeded hcap)
    have hnormalized : normalized s r.clientID .rpm (policyOf client).revision
        (policyOf client).rpm now = ⟨client.revision, client.requestsPerMinute,
          refreshed row client.revision client.requestsPerMinute now, now⟩ :=
      normalized_agree hrates hclient .rpm hcap hrow
    have hlimit : 0 < (policyOf client).rpm := hcap
    unfold Agrees
    rw [if_pos hlimit, if_pos hcap, normalizeRate_run hrow, hnormalized]
    unfold normalizedRow
    rw [timestamptz_of_whole hwhole]
    generalize refreshed row client.revision client.requestsPerMinute now = balance
    dsimp only
    cases hexhausted : RateArith.exhausted balance with
    | true => exact ⟨_, _, _, rfl, rfl, rfl, hrates.update hclient hpolicy .rpm balance⟩
    | false =>
      exact ⟨_, _, _, rfl, rfl, trivial,
        hrates.update hclient hpolicy .rpm (RateArith.debit balance)⟩
  · -- without a limit only the local coordinator keeps a bucket
    have hlimit : ¬ 0 < (policyOf client).rpm := hcap
    rw [if_neg hlimit, if_neg hcap]
    refine ⟨_, db.rates, _, rfl, rfl, trivial, ?_⟩
    refine hrates.updateState hpolicy .rpm _ (normalized_revision _ _ _ _ _ _) ?_
    intro client' hclient'
    rw [hclient] at hclient'
    cases hclient'
    exact not_lt.mp hcap

theorem checkTPM_agree (hpolicy : s.policies r.clientID = some (policyOf client))
    (hseeded : ∀ kind, 0 < capacity client kind → (db.rates r.clientID kind).isSome = true)
    (hwhole : now % 1000 = 0) :
    Agrees r client now s db (checkTPM s (policyOf client) now r)
      (acquireTPM r client now) := by
  unfold checkTPM acquireTPM
  by_cases hcap : 0 < client.tokensPerMinute
  · obtain ⟨row, hrow⟩ := Option.isSome_iff_exists.mp (hseeded .tpm hcap)
    have hnormalized : normalized s r.clientID .tpm (policyOf client).revision
        (policyOf client).tpm now = ⟨client.revision, client.tokensPerMinute,
          refreshed row client.revision client.tokensPerMinute now, now⟩ :=
      normalized_agree hrates hclient .tpm hcap hrow
    have hlimit : 0 < (policyOf client).tpm := hcap
    unfold Agrees
    rw [if_pos hlimit, if_pos hcap, normalizeRate_run hrow, hnormalized]
    unfold normalizedRow
    rw [timestamptz_of_whole hwhole, Bool.and_false, if_neg Bool.false_ne_true]
    generalize refreshed row client.revision client.tokensPerMinute now = balance
    dsimp only
    have hupdated := hrates.update hclient hpolicy .tpm balance
    cases hexhausted : RateArith.exhausted balance with
    | true => exact ⟨_, _, _, rfl, rfl, rfl, hupdated⟩
    | false =>
      -- the token bucket is normalized, the request bucket is next
      have hrpm : 0 < client.requestsPerMinute →
          ((PostgresAdmission.setRate r.clientID .tpm ⟨client.revision, balance, now⟩ db).rates
            r.clientID .rpm).isSome = true := by
        intro hpos
        simpa [PostgresAdmission.setRate] using hseeded .rpm hpos
      obtain ⟨rates, rows, verdict, hlocal, htx, hscope, hagree⟩ := checkRPM_agree
        (LocalAdmission.setRate s r.clientID .tpm
          ⟨client.revision, client.tokensPerMinute, balance, now⟩)
        (PostgresAdmission.setRate r.clientID .tpm ⟨client.revision, balance, now⟩ db)
        hupdated hclient hpolicy hrpm hwhole
      exact ⟨rates, rows, verdict, hlocal, htx, hscope, hagree⟩
  · have hlimit : ¬ 0 < (policyOf client).tpm := hcap
    rw [if_neg hlimit, if_neg hcap]
    have hupdated := hrates.updateState hpolicy .tpm
      (normalized s r.clientID .tpm (policyOf client).revision 0 now)
      (normalized_revision _ _ _ _ _ _) (by
        intro client' hclient'
        rw [hclient] at hclient'
        cases hclient'
        exact not_lt.mp hcap)
    exact checkRPM_agree (LocalAdmission.setRate s r.clientID .tpm
        (normalized s r.clientID .tpm (policyOf client).revision 0 now)) db
      hupdated hclient hpolicy (hseeded .rpm) hwhole

end Buckets

section Limits

variable {c : Configuration} {r : AdmissionRequest} {now : Int} {client : ClientRow}
  {key : ApiKeyRow} {pool : PoolRow} {s : AdmissionCoordinator ℚ} {db : Db ℚ}

/-- A matching request passes the check of its reserve and class. -/
theorem Configured.validReserve (h : Configured c r now client key pool) :
    invalidReserve r = false := by
  have hclass : r.priorityClass.valid = true := by
    rw [h.priorityClass]
    exact client.class_check
  obtain ⟨hnonneg, hfits⟩ := pool.reserve_check
  unfold invalidReserve
  rw [h.reserve, h.inflight, hclass]
  simp only [Bool.not_true, Bool.or_false, Bool.and_false, Bool.or_eq_false_iff,
    decide_eq_false_iff_not, Bool.and_eq_false_iff]
  omega

/-- The local coordinator learns the policy the request was made under. -/
theorem observeRatePolicy_eq (hrates : RatesAgree c s.policies s.rates db.rates now)
    (hconf : Configured c r now client key pool) :
    observeRatePolicy s r
      = ({ s with policies := Function.update s.policies r.clientID (some (policyOf client)) },
          policyOf client) := by
  have hobserved : (⟨r.clientPolicyRevision, r.requestsPerMinute, r.tokensPerMinute⟩ : RatePolicy)
      = policyOf client := by
    unfold policyOf
    rw [hconf.revision, hconf.rpm, hconf.tpm]
  unfold observeRatePolicy LocalAdmission.observeClientRatePolicy
  rw [hobserved]
  rcases hrates.policy r.clientID client hconf.clientID with hnone | hsome
  · rw [hnone]
  have hcurrent : ¬ (policyOf client).revision < r.clientPolicyRevision := by
    rw [hconf.revision]
    exact lt_irrefl _
  rw [hsome]
  dsimp only
  rw [if_neg hcurrent, ← hsome, Function.update_eq_self]

theorem RatesAgree.observe (hrates : RatesAgree c s.policies s.rates db.rates now)
    (hclient : c.clients r.clientID = some client) :
    RatesAgree c (Function.update s.policies r.clientID (some (policyOf client))) s.rates db.rates
      now := by
  refine ⟨?_, hrates.bucket, ?_, hrates.rowRevision⟩
  · intro c' client' hclient'
    rw [Function.update_apply]
    split
    · next hsame =>
      rw [hsame, hclient] at hclient'
      cases hclient'
      exact .inr rfl
    · exact hrates.policy c' client' hclient'
  · intro c' kind st hst
    obtain ⟨policy, hpolicy, hle⟩ := hrates.stateRevision c' kind st hst
    rw [Function.update_apply]
    split
    · next hsame =>
      subst hsame
      rcases hrates.policy _ client hclient with hnone | hsome
      · rw [hpolicy] at hnone
        cases hnone
      · rw [hpolicy] at hsome
        cases hsome
        exact ⟨_, rfl, hle⟩
    · exact ⟨policy, hpolicy, hle⟩

variable (hconf : Configured db.configuration r now client key pool) (hvalid : ValidRequest r now)
  (hrates : RatesAgree db.configuration s.policies s.rates db.rates now)
  (hseeded : ∀ kind, 0 < capacity client kind → (db.rates r.clientID kind).isSome = true)
  (hwhole : now % 1000 = 0)

include hconf hvalid hrates hseeded hwhole

/-- The limits are the same, and asked in the same order. -/
theorem checkLimits_agree (hpolicy : s.policies r.clientID = some (policyOf client)) :
    Agrees r client now s db (checkLimits s (policyOf client) now r)
      (acquireCounted db.configuration r
        ⟨now, s.poolInflight r.poolID, s.poolLowerInflight r.poolID,
          s.clientInflight r.clientID⟩) := by
  obtain ⟨hfresh, hpositive, hwithin, -⟩ := hvalid
  have heffective : ¬ (r.effectiveClientLimit ≤ 0 ∨
      r.configuredClientLimit < r.effectiveClientLimit) := by omega
  unfold checkLimits acquireCounted checkAcquire
  simp only [hconf.found, hconf.current, Bool.false_eq_true, if_false, ← hconf.limit,
    if_neg heffective, hfresh, Bool.not_true, ← hconf.inflight, ← hconf.reserve,
    ← hconf.priorityClass]
  by_cases hpool : 0 < r.poolGatewayInflightLimit ∧
      r.poolGatewayInflightLimit ≤ (s.poolInflight r.poolID : Int)
  · simp only [if_pos hpool]
    exact .reject hrates rfl
  simp only [if_neg hpool]
  by_cases hreserve : 0 < r.poolHighPriorityReserve ∧ r.priorityClass.lower = true ∧
      r.poolGatewayInflightLimit - r.poolHighPriorityReserve
        ≤ (s.poolLowerInflight r.poolID : Int)
  · simp only [if_pos hreserve]
    exact .reject hrates rfl
  simp only [if_neg hreserve]
  by_cases hlimit : r.effectiveClientLimit ≤ (s.clientInflight r.clientID : Int)
  · -- the client is the default scope
    simp only [if_pos hlimit]
    exact .reject hrates rfl
  simp only [if_neg hlimit]
  exact checkTPM_agree hrates hconf.clientID hpolicy hseeded hwhole

variable (db) in
/-- **The checks agree**: the policy is observed, then the limits are asked. -/
theorem evaluate_agree :
    Agrees r client now
      { s with policies := Function.update s.policies r.clientID (some (policyOf client)) } db
      (evaluate s now r)
      (acquireCounted db.configuration r
        ⟨now, s.poolInflight r.poolID, s.poolLowerInflight r.poolID,
          s.clientInflight r.clientID⟩) := by
  unfold evaluate
  rw [hvalid.1, hconf.validReserve, observeRatePolicy_eq hrates hconf]
  exact checkLimits_agree hconf hvalid (hrates.observe hconf.clientID) hseeded hwhole
    (Function.update_self _ _ _)

end Limits

/-! ## New operations -/

section Seeding

variable {configuration : Configuration} {policies : Int → Option RatePolicy}
  {rates : Int → RateKind → Option (RateState ℚ)} {now c : Int} {client : ClientRow}

/-- A limit without a bucket gets one; the other bucket stays as it is. -/
theorem seedRate_agree (view : ReadCommitted.View (Db ℚ)) (kind : RateKind)
    (hrates : RatesAgree configuration policies rates db.rates now)
    (hclient : configuration.clients c = some client)
    (hview : view.current.rates c kind = db.rates c kind) :
    RatesAgree configuration policies rates
      (seedRate view c kind client.revision (capacity client kind) db).rates now ∧
    (∀ kind', (db.rates c kind').isSome = true ∨ kind' = kind ∧ 0 < capacity client kind →
      ((seedRate view c kind client.revision (capacity client kind) db).rates c
        kind').isSome = true) ∧
    ∀ kind', kind' ≠ kind →
      (seedRate view c kind client.revision (capacity client kind) db).rates c
        kind' = db.rates c kind' := by
  unfold seedRate
  rw [hview]
  by_cases hseed : 0 < capacity client kind ∧ db.rates c kind = none
  · rw [if_pos hseed]
    refine ⟨hrates.seed hclient kind hseed.2, ?_, ?_⟩
    · intro kind' hkind'
      show ((Function.update db.rates c _) c kind').isSome = true
      rw [update_rate_apply]
      split
      · rfl
      next hne =>
      rcases hkind' with hsome | ⟨rfl, -⟩
      · exact hsome
      · exact absurd ⟨rfl, rfl⟩ hne
    · intro kind' hne
      show (Function.update db.rates c _) c kind' = _
      rw [update_rate_apply, if_neg (fun h => hne h.2)]
  · rw [if_neg hseed]
    refine ⟨hrates, ?_, fun _ _ => rfl⟩
    rintro kind' (hsome | ⟨rfl, hcap⟩)
    · exact hsome
    · rw [Option.isSome_iff_ne_none]
      exact fun hnone => hseed ⟨hcap, hnone⟩

theorem seedRates_frame (view : ReadCommitted.View (Db ℚ)) (c : Int) (db : Db ℚ) :
    seedRates view c db
      = { db with rates := (seedRates view c db).rates } := by
  unfold seedRates seedRate PostgresAdmission.setRate
  repeat' split
  all_goals rfl

/-- Both buckets of a client are there after seeding. -/
theorem seedRates_agree (db : Db ℚ)
    (hrates : RatesAgree db.configuration policies rates db.rates now)
    (hclient : db.configuration.clients c = some client) :
    ∃ seeded, seedRates ⟨db, db, now⟩ c db = { db with rates := seeded } ∧
      RatesAgree db.configuration policies rates seeded now ∧
      ∀ kind, 0 < capacity client kind → (seeded c kind).isSome = true := by
  refine ⟨_, seedRates_frame _ _ _, ?_⟩
  unfold seedRates
  rw [hclient]
  obtain ⟨hrpm, hsome, hother⟩ := seedRate_agree ⟨db, db, now⟩ .rpm hrates hclient rfl
  obtain ⟨htpm, hsome', -⟩ :=
    seedRate_agree ⟨db, db, now⟩ .tpm hrpm hclient (hother .tpm (by decide)).symm
  refine ⟨htpm, ?_⟩
  intro kind hcap
  cases kind with
  | rpm => exact hsome' .rpm (.inl (hsome .rpm (.inr ⟨rfl, hcap⟩)))
  | tpm => exact hsome' .tpm (.inr ⟨rfl, hcap⟩)

end Seeding

namespace Core

variable {fingerprint : AdmissionRequest → Nat} {gone : UUID → Prop} {now : Int}
  {s : AdmissionCoordinator ℚ} {db : Db ℚ} {r : AdmissionRequest}

/-- The database with the receipt of a new operation, and with these buckets. -/
def created (fingerprint : Nat) (r : AdmissionRequest)
    (rows : Int → RateKind → Option (RateRow ℚ)) (db : Db ℚ) : Db ℚ :=
  { db with
    operations := db.operations.insert r.leaseID (PostgresAdmission.pendingOperation fingerprint r)
    rates := rows }

/-- The rows of a new operation: its receipt goes in and is decided. -/
theorem lookup_decided {op : OperationRow} {f : OperationRow → OperationRow}
    {db₁ : Db ℚ} (hoperations : db₁.operations = db.operations.insert r.leaseID op) (id : UUID) :
    (updateOperation r.leaseID f db₁).operations.lookup id
      = if id = r.leaseID then some (f op) else db.operations.lookup id := by
  rw [lookup_updateOperation, hoperations, Table.lookup_insert_eq]
  split
  · rfl
  · rfl

section Decided

variable {policies : Int → Option RatePolicy} {rates : Int → RateKind → Option (RateState ℚ)}
  {rows : Int → RateKind → Option (RateRow ℚ)} (h : Core fingerprint gone now s db)
  (hpolicies : ∀ c policy, s.policies c = some policy → ∃ policy', policies c = some policy')
  (hrates : RatesAgree db.configuration policies rates rows now)

include h hpolicies hrates

theorem reject (hnone : s.receipts.lookup r.leaseID = none)
    (hnew : db.operations.lookup r.leaseID = none) {retryAt : Option Int}
    (hretained : Retained fingerprint now (recordRejection (fingerprint r)
      { s with policies := policies, rates := rates } now r
      { reason := some reason, retryAt := retryAt, concurrencyScope := scope })) :
    Core fingerprint gone now
      (recordRejection (fingerprint r)
        { s with policies := policies, rates := rates } now r
        { reason := some reason, retryAt := retryAt, concurrencyScope := scope })
      (updateOperation r.leaseID
        (PostgresAdmission.rejectedOperation reason retryAt now scope)
        (created (fingerprint r) r rows db)) := by
  have hlease : s.leases.lookup r.leaseID = none := h.retained.good.lease_none hnone
  refine h.record hretained (fun id => Table.lookup_insert_eq _ _ _ _) (lookup_decided rfl)
    ⟨rfl, rfl, rfl, rfl, rfl, nofun, nofun,
      fun _ => ⟨rfl, rfl, rfl, rfl, rfl, rfl, rfl⟩⟩ (fun _ _ => ⟨rfl, rfl⟩) ?_ nofun hpolicies
    hrates
  refine .inl ⟨hlease, ?_⟩
  -- a new operation has no lease row
  intro row hrow
  obtain ⟨op, hop⟩ := h.operation r.leaseID row hrow
  rw [hnew] at hop
  cases hop

theorem grant (hclass : r.priorityClass = client.priorityClass)
    (hvalid : ValidRequest r now) (hwhole : now % 1000 = 0)
    (hretained : Retained fingerprint now (recordLease (fingerprint r)
      { s with policies := policies, rates := rates } now r))
    (hobserved : ∃ policy, policies r.clientID = some policy) :
    Core fingerprint gone now
      (recordLease (fingerprint r)
        { s with policies := policies, rates := rates } now r)
      (updateOperation r.leaseID (PostgresAdmission.admittedOperation now)
        (PostgresAdmission.insertLease r.leaseID
          (grantedRow now r client.priorityClass)
          (created (fingerprint r) r rows db))) := by
  obtain ⟨-, -, -, hpositive, httl⟩ := hvalid
  refine h.record hretained (fun id => Table.lookup_insert_eq _ _ _ _) (lookup_decided rfl)
    ⟨rfl, rfl, rfl, rfl, rfl, nofun, fun _ => rfl, nofun⟩ ?_ ?_ (fun _ => hobserved) hpolicies
    hrates
  · intro id hid
    exact ⟨AList.lookup_insert_ne hid, AList.lookup_insert_ne hid⟩
  refine .inr ⟨_, _, AList.lookup_insert _, AList.lookup_insert _, ?_, rfl⟩
  refine ⟨⟨rfl, rfl⟩, ⟨rfl, rfl⟩, ⟨rfl, rfl⟩, ⟨rfl, rfl⟩, ?_, ⟨hclass.symm, ?_⟩, rfl, hpositive,
    httl⟩
  · -- the expiry is a whole microsecond, so it is stored as it is
    show timestamptz (now + r.leaseTTL) = now + r.leaseTTL
    exact timestamptz_of_whole (by omega)
  · rw [hclass]
    exact client.class_check

end Decided

/-- **A new operation gets the same answer.** -/
theorem acquireFresh (h : Core fingerprint gone now s db)
    (hlive : ∀ id lease, s.leases.lookup id = some lease → now < lease.expiresAt)
    (hdrained : ∀ e ∈ s.terminalExpiries, now < e.at')
    (hnone : s.receipts.lookup r.leaseID = none) (hnew : db.operations.lookup r.leaseID = none)
    (hmatches : MatchesConfiguration db.configuration r now) (hvalid : ValidRequest r now)
    (hwhole : now % 1000 = 0) :
    ∃ outcome db' d, (PostgresAdmission.acquire fingerprint r).run now db = some (outcome, db') ∧
      outcome.decision = some d ∧
      decisionReply d
        = decisionReply (LocalAdmission.acquireFresh (fingerprint r) s now r).2.1 ∧
      Core fingerprint gone now (LocalAdmission.acquireFresh (fingerprint r) s now r).1 db' := by
  obtain ⟨⟨client, key, pool⟩, hfound, hcurrent, hclass⟩ := hmatches
  have hconf := configured_of_matches hfound hcurrent hclass
  have htrail : Trail (Move fingerprint false now (.acquire r)) s _
      (LocalAdmission.acquireFresh (fingerprint r) s now r).1 :=
    LocalAdmission.acquireFresh_trail s r rfl hdrained hnone
  have hretained : Retained fingerprint now
      (LocalAdmission.acquireFresh (fingerprint r) s now r).1 :=
    htrail.inv_state (fun _ _ _ ha hm => LocalAdmission.retained_move ha hm) h.retained
  -- the receipt goes in, the buckets are seeded, and the counts are the counters
  have hcreated : insertOperation (fingerprint r) r ⟨db, db, now⟩ db
      = created (fingerprint r) r db.rates db := by
    unfold insertOperation
    rw [hnew]
    rfl
  have hcounts : countActive ⟨db, db, now⟩ r
      = ⟨now, s.poolInflight r.poolID, s.poolLowerInflight r.poolID,
          s.clientInflight r.clientID⟩ := by
    unfold countActive
    rw [h.poolInflight_eq hlive, h.poolLowerInflight_eq hlive, h.clientInflight_eq hlive]
  obtain ⟨seeded, hseed, hrates, hseeded⟩ :=
    seedRates_agree (created (fingerprint r) r db.rates db) h.rates hconf.clientID
  obtain ⟨rates, rows, verdict, hlocal, htx, hscope, hagree⟩ :=
    evaluate_agree (created (fingerprint r) r seeded db) hconf hvalid hrates hseeded hwhole
  have hrun : (PostgresAdmission.acquire fingerprint r).run now db
      = (conclude r client.priorityClass now verdict).run now
          (created (fingerprint r) r rows db) := by
    rw [PostgresAdmission.acquire_run_of_none hnew, hcreated, hcounts]
    dsimp only
    rw [hseed]
    exact htx
  rw [hrun]
  have hpolicies : ∀ c policy, s.policies c = some policy → ∃ policy',
      Function.update s.policies r.clientID (some (policyOf client)) c = some policy' := by
    intro c policy hpolicy
    rw [Function.update_apply]
    split
    · exact ⟨_, rfl⟩
    · exact ⟨policy, hpolicy⟩
  unfold LocalAdmission.acquireFresh at hretained ⊢
  rw [hlocal] at hretained ⊢
  cases verdict with
  | reject reason retryAt scope =>
    have hscope' : rejectionScope reason scope = scope := hscope
    refine ⟨_, _, _, rfl, rfl, ?_, ?_⟩
    · rw [hscope']
    · rw [hscope']
      exact h.reject hpolicies hagree hnone hnew hretained
  | grant debited =>
    have hrow : db.leases.lookup r.leaseID = none := by
      cases hrow : db.leases.lookup r.leaseID with
      | none => rfl
      | some row =>
        obtain ⟨op, hop⟩ := h.operation r.leaseID row hrow
        rw [hnew] at hop
        cases hop
    refine ⟨_, _, _, PostgresAdmission.grantLease_run hrow, rfl, rfl, ?_⟩
    exact h.grant hpolicies hagree hclass hvalid hwhole hretained ⟨_, Function.update_self _ _ _⟩

/-- **Acquisitions agree.**  The local coordinator expires what is due, has room for a
    receipt, and then replays or decides; PostgreSQL finds or creates the receipt row. -/
theorem acquire (h : Core fingerprint gone now s db)
    (hended : ∀ id receipt, s.receipts.lookup id = some receipt → receipt.Ended →
      receipt.retainUntil ≤ now → gone id) (hkept : ¬ gone r.leaseID)
    (hroom : (LocalAdmission.expire s now).receipts.lookup r.leaseID = none →
      (Table.size (LocalAdmission.expire s now).receipts : Int)
        < (LocalAdmission.expire s now).receiptCapacity)
    (hnew : db.operations.lookup r.leaseID = none →
      MatchesConfiguration db.configuration r now ∧ ValidRequest r now) (hwhole : now % 1000 = 0) :
    ∃ db' d, serialAcquire fingerprint now db r = (db', some d) ∧
      decisionReply d = decisionReply (LocalAdmission.acquire fingerprint s now r).2.1 ∧
      Core fingerprint gone now (LocalAdmission.acquire fingerprint s now r).1 db' := by
  have hexpired := h.expire hended
  have hlive := LocalAdmission.expire_live h.retained.good now
  unfold serialAcquire
  cases hreceipt : (LocalAdmission.expire s now).receipts.lookup r.leaseID with
  | some receipt =>
    rw [LocalAdmission.acquire_of_some hreceipt]
    obtain ⟨outcome, db', d, hrun, hd, hreply, hcore⟩ := hexpired.replay hlive hreceipt
    rw [hrun]
    exact ⟨db', d, by rw [← hd], hreply, hcore⟩
  | none =>
    have hop : db.operations.lookup r.leaseID = none := by
      cases hop : db.operations.lookup r.leaseID with
      | none => rfl
      | some op => exact absurd (hexpired.gone _ op hop hreceipt) hkept
    obtain ⟨hmatches, hvalid⟩ := hnew hop
    rw [LocalAdmission.acquire_of_none hreceipt,
      LocalAdmission.makeReceiptRoom_of_room (hroom hreceipt)]
    obtain ⟨outcome, db', d, hrun, hd, hreply, hcore⟩ := hexpired.acquireFresh hlive
      (LocalAdmission.expire_drained s now) hreceipt hop hmatches hvalid hwhole
    rw [hrun]
    exact ⟨db', d, by rw [← hd], hreply, hcore⟩

end Core

end Coordination.Agreement
