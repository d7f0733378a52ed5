import PriorityGateway.Coordination.Local.Retention
import PriorityGateway.Coordination.Postgres.Serial

/-! # How the Two Admission Coordinators Correspond

    The local coordinator keeps counters, queues and receipts that it deletes;
    the PostgreSQL one keeps rows that stay until somebody looks at them.  The
    relation `Core` says what the two have in common between calls.

    * A stored receipt mirrors a receipt row (`Mirrors`).  A row whose receipt
      is gone belongs to an operation that ended long ago (`gone`).
    * A stored lease mirrors a lease row, and a row that has not run out
      mirrors a stored lease.  Rows that have run out may linger.
    * Buckets agree for the clients and limits of the configuration
      (`BucketAgree`): both have the same balance at the same instant, or
      both stand for a full bucket.

    `Core.expire` is the reason why one side may expire eagerly and the other
    lazily: local expiry alone keeps the relation. -/

namespace Coordination.Agreement

open LocalAdmission (AdmissionReceipt AdmissionCoordinator RateState RatePolicy Retained
  newAdmissionCoordinator lowerReceipt)
open PostgresAdmission (Db OperationRow LeaseRow RateRow ClientRow Configuration timestamptz
  seededRow refreshed activeCount poolCount clientCount lowerCount emptyDb)

/-! ## Receipts and leases -/

/-- A receipt and the row that stands for the same operation. -/
structure Mirrors (receipt : AdmissionReceipt) (op : OperationRow) : Prop where
  fingerprint : op.inputFingerprint = receipt.fingerprint
  clientID : op.clientID = receipt.request.clientID
  poolID : op.poolID = receipt.request.poolID
  completedAt : op.completedAt.isSome = receipt.completed
  completion : op.completionResult = receipt.completion
  original : receipt.completed = true → receipt.completion.isSome
  admitted : receipt.decision.lease.isSome = true → op.decision = .admitted
  rejected : receipt.decision.lease = none → op.decision = .rejected ∧
    op.rejectionReason = receipt.decision.reason ∧ receipt.decision.reason.isSome ∧
    op.retryAt = receipt.decision.retryAt.map timestamptz ∧
    op.concurrencyScope = receipt.decision.concurrencyScope ∧
    receipt.completed = false ∧ receipt.expired = false

variable {receipt : AdmissionReceipt} {op : OperationRow} {now now' : Int}

/-- The mark of a lost lease does not show in the receipt. -/
theorem Mirrors.lostOperation (h : Mirrors receipt op) (now : Int) :
    Mirrors receipt (PostgresAdmission.lostOperation now op) :=
  ⟨h.fingerprint, h.clientID, h.poolID, h.completedAt, h.completion, h.original, h.admitted,
    h.rejected⟩

theorem Mirrors.expireOperation (h : Mirrors receipt op) (now : Int) :
    Mirrors receipt (PostgresAdmission.expireOperation now op) := by
  unfold PostgresAdmission.expireOperation
  split
  · exact h
  · exact ⟨h.fingerprint, h.clientID, h.poolID, h.completedAt, h.completion, h.original,
      h.admitted, h.rejected⟩

/-- A lease and the row that stands for it, both granted to the request. -/
structure Holds (r : AdmissionRequest) (lease : LeaseIdentity) (row : LeaseRow) : Prop where
  clientID : lease.clientID = r.clientID ∧ row.clientID = r.clientID
  poolID : lease.poolID = r.poolID ∧ row.poolID = r.poolID
  requestID : lease.requestID = r.requestID ∧ row.requestID = r.requestID
  replicaID : lease.replicaID = r.replicaID ∧ row.replicaID = r.replicaID
  expiresAt : row.expiresAt = lease.expiresAt
  priorityClass : row.priorityClass = r.priorityClass ∧ r.priorityClass.valid = true
  ttl : lease.ttl = r.leaseTTL ∧ 0 < r.leaseTTL ∧ r.leaseTTL % 1000 = 0

/-! ## Buckets -/

/-- The limit of a client for one kind of bucket. -/
def capacity (client : ClientRow) : RateKind → Int
  | .rpm => client.requestsPerMinute
  | .tpm => client.tokensPerMinute

/-- The policy of a client as the local coordinator observes it. -/
def policyOf (client : ClientRow) : RatePolicy :=
  ⟨client.revision, client.requestsPerMinute, client.tokensPerMinute⟩

/-- Two buckets agree under a policy: they are the same bucket, or neither has been
    used under this revision and both stand for a full one. -/
def BucketAgree (revision capacity : Int) (state : Option (RateState ℚ))
    (row : Option (RateRow ℚ)) (now : Int) : Prop :=
  (∃ balance at', state = some ⟨revision, capacity, balance, at'⟩ ∧
    row = some ⟨revision, balance, at'⟩ ∧ at' ≤ now) ∨
  ((∀ st, state = some st → st.revision ≠ revision) ∧
    ∀ r, row = some r → r.policyRevision ≠ revision ∨ r = seededRow revision capacity)

/-- The buckets of all configured clients agree; what the local coordinator observed
    is the configuration, and no bucket is ahead of the policies. -/
structure RatesAgree (configuration : Configuration) (policies : Int → Option RatePolicy)
    (rates : Int → RateKind → Option (RateState ℚ))
    (rows : Int → RateKind → Option (RateRow ℚ)) (now : Int) : Prop where
  policy : ∀ c client, configuration.clients c = some client →
    policies c = none ∨ policies c = some (policyOf client)
  bucket : ∀ c client kind, configuration.clients c = some client → 0 < capacity client kind →
    BucketAgree client.revision (capacity client kind) (rates c kind) (rows c kind) now
  stateRevision : ∀ c kind st, rates c kind = some st →
    ∃ policy, policies c = some policy ∧ st.revision ≤ policy.revision
  rowRevision : ∀ c kind row, rows c kind = some row →
    ∃ client, configuration.clients c = some client ∧ row.policyRevision ≤ client.revision

theorem BucketAgree.mono {revision capacity : Int} {state : Option (RateState ℚ)}
    {row : Option (RateRow ℚ)} (h : BucketAgree revision capacity state row now)
    (hle : now ≤ now') : BucketAgree revision capacity state row now' := by
  rcases h with ⟨balance, at', hstate, hrow, hat⟩ | hfull
  · exact .inl ⟨balance, at', hstate, hrow, le_trans hat hle⟩
  · exact .inr hfull

theorem RatesAgree.mono {configuration : Configuration} {policies : Int → Option RatePolicy}
    {rates : Int → RateKind → Option (RateState ℚ)} {rows : Int → RateKind → Option (RateRow ℚ)}
    (h : RatesAgree configuration policies rates rows now) (hle : now ≤ now') :
    RatesAgree configuration policies rates rows now' :=
  ⟨h.policy, fun c client kind hc hcap => (h.bucket c client kind hc hcap).mono hle,
    h.stateRevision, h.rowRevision⟩

section Updates

variable {configuration : Configuration} {policies : Int → Option RatePolicy}
  {rates : Int → RateKind → Option (RateState ℚ)} {rows : Int → RateKind → Option (RateRow ℚ)}
  {now c : Int} {client : ClientRow}

variable (h : RatesAgree configuration policies rates rows now)
include h

/-- The same bucket is stored on both sides. -/
theorem RatesAgree.update (hclient : configuration.clients c = some client)
    (hpolicy : policies c = some (policyOf client)) (kind : RateKind) (balance : ℚ) :
    RatesAgree configuration policies
      (Function.update rates c (Function.update (rates c) kind
        (some ⟨client.revision, capacity client kind, balance, now⟩)))
      (Function.update rows c (Function.update (rows c) kind
        (some ⟨client.revision, balance, now⟩))) now := by
  refine ⟨h.policy, ?_, ?_, ?_⟩
  · intro c' client' kind' hclient' hcap
    rw [update_rate_apply, update_rate_apply]
    split
    · next hsame =>
      obtain ⟨rfl, rfl⟩ := hsame
      rw [hclient] at hclient'
      cases hclient'
      exact .inl ⟨balance, now, rfl, rfl, le_refl _⟩
    · exact h.bucket c' client' kind' hclient' hcap
  · intro c' kind' st hst
    rw [update_rate_apply] at hst
    split at hst
    · next hsame =>
      cases hst
      rw [hsame.1]
      exact ⟨policyOf client, hpolicy, le_refl _⟩
    · exact h.stateRevision c' kind' st hst
  · intro c' kind' row hrow
    rw [update_rate_apply] at hrow
    split at hrow
    · next hsame =>
      cases hrow
      rw [hsame.1]
      exact ⟨client, hclient, le_refl _⟩
    · exact h.rowRevision c' kind' row hrow

/-- The local coordinator also keeps buckets for limits that are not set, and for
    clients that are gone; nothing corresponds to them. -/
theorem RatesAgree.updateState {policy : RatePolicy} (hpolicy : policies c = some policy)
    (kind : RateKind) (st : RateState ℚ) (hrevision : st.revision = policy.revision)
    (hunused : ∀ client, configuration.clients c = some client → capacity client kind ≤ 0) :
    RatesAgree configuration policies
      (Function.update rates c (Function.update (rates c) kind (some st))) rows now := by
  refine ⟨h.policy, ?_, ?_, h.rowRevision⟩
  · intro c' client' kind' hclient' hcap
    rw [update_rate_apply]
    split
    · next hsame =>
      obtain ⟨rfl, rfl⟩ := hsame
      have := hunused client' hclient'
      omega
    · exact h.bucket c' client' kind' hclient' hcap
  · intro c' kind' st' hst
    rw [update_rate_apply] at hst
    split at hst
    · next hsame =>
      cases hst
      rw [hsame.1]
      exact ⟨policy, hpolicy, le_of_eq hrevision⟩
    · exact h.stateRevision c' kind' st' hst

theorem RatesAgree.seed (hclient : configuration.clients c = some client) (kind : RateKind)
    (hnone : rows c kind = none) :
    RatesAgree configuration policies rates
      (Function.update rows c (Function.update (rows c) kind
        (some (seededRow client.revision (capacity client kind))))) now := by
  refine ⟨h.policy, ?_, h.stateRevision, ?_⟩
  · intro c' client' kind' hclient' hcap
    rw [update_rate_apply]
    split
    · next hsame =>
      obtain ⟨rfl, rfl⟩ := hsame
      rw [hclient] at hclient'
      cases hclient'
      rcases h.bucket c' client kind' hclient hcap with ⟨_, _, _, hrow, _⟩ | ⟨hstate, -⟩
      · rw [hnone] at hrow
        cases hrow
      refine .inr ⟨hstate, ?_⟩
      intro r hr
      cases hr
      exact .inr rfl
    · exact h.bucket c' client' kind' hclient' hcap
  · intro c' kind' row hrow
    rw [update_rate_apply] at hrow
    split at hrow
    · next hsame =>
      cases hrow
      rw [hsame.1]
      exact ⟨client, hclient, le_refl _⟩
    · exact h.rowRevision c' kind' row hrow

end Updates

theorem normalized_revision (s : AdmissionCoordinator ℚ) (c : Int) (kind : RateKind)
    (revision capacity now : Int) :
    (LocalAdmission.normalized s c kind revision capacity now).revision = revision := by
  unfold LocalAdmission.normalized
  dsimp only
  split
  · rfl
  split
  · rfl
  · next hsame =>
    push Not at hsame
    split <;> exact hsame.1

variable {revision capacity now : Int}

/-- A full bucket that is refilled is full. -/
theorem refreshed_seeded (hcap : 0 < capacity) :
    refreshed (seededRow revision capacity : RateRow ℚ) revision capacity now
      = RateArith.full capacity := by
  unfold refreshed seededRow
  simp only [ne_eq, not_true_eq_false, if_false]
  split
  · next hlater =>
    apply refill_full
    · exact le_of_lt (timeSub_pos.mpr hlater)
    · exact le_of_lt hcap
  · rfl

/-- Agreeing buckets are the same once they are normalized. -/
theorem BucketAgree.normalized {s : AdmissionCoordinator ℚ} {c : Int} {kind : RateKind}
    {row : RateRow ℚ}
    (h : BucketAgree revision capacity (s.rates c kind) (some row) now) (hcap : 0 < capacity) :
    LocalAdmission.normalized s c kind revision capacity now
      = ⟨revision, capacity, refreshed row revision capacity now, now⟩ := by
  unfold LocalAdmission.normalized
  rcases h with ⟨balance, at', hstate, hrow, hat⟩ | ⟨hstate, hrow⟩
  · -- the same bucket, refilled from the same instant
    cases hrow
    rw [hstate]
    unfold refreshed
    simp only [ne_eq, not_true_eq_false, or_self, if_false, timeSub_pos]
    split
    · rfl
    · have hsame : at' = now := by omega
      rw [hsame]
  · -- a full bucket on both sides
    have hfull : refreshed row revision capacity now = RateArith.full capacity := by
      rcases hrow row rfl with hother | hseeded
      · unfold refreshed
        rw [if_pos hother]
      · rw [hseeded]
        exact refreshed_seeded hcap
    rw [hfull]
    cases hs : s.rates c kind with
    | none => rfl
    | some st =>
      have hother := hstate st hs
      simp [hother]

/-! ## The relation -/

/-- The two coordinators at `now`.  `gone` are the operations that ended so long ago
    that the local coordinator may have deleted their receipts. -/
structure Core (fingerprint : AdmissionRequest → Nat) (gone : UUID → Prop) (now : Int)
    (s : AdmissionCoordinator ℚ) (db : Db ℚ) : Prop where
  retained : Retained fingerprint now s
  receipt : ∀ id receipt, s.receipts.lookup id = some receipt →
    ∃ op, db.operations.lookup id = some op ∧ Mirrors receipt op
  gone : ∀ id op, db.operations.lookup id = some op → s.receipts.lookup id = none → gone id
  lease : ∀ id lease, s.leases.lookup id = some lease →
    ∃ row receipt, db.leases.lookup id = some row ∧ s.receipts.lookup id = some receipt ∧
      Holds receipt.request lease row
  active : ∀ id row, db.leases.lookup id = some row → now < row.expiresAt →
    ∃ lease, s.leases.lookup id = some lease
  lost : ∀ id op, db.operations.lookup id = some op → op.leaseExpiredAt.isSome →
    s.leases.lookup id = none
  operation : ∀ id row, db.leases.lookup id = some row → ∃ op, db.operations.lookup id = some op
  observed : ∀ id receipt, s.receipts.lookup id = some receipt →
    receipt.decision.lease.isSome = true →
    ∃ policy, s.policies receipt.request.clientID = some policy
  rates : RatesAgree db.configuration s.policies s.rates db.rates now

/-- Before the first call nothing is stored on either side. -/
theorem core_init (fingerprint : AdmissionRequest → Nat) (gone : UUID → Prop) (now cap : Int)
    (configuration : Configuration) :
    Core fingerprint gone now (newAdmissionCoordinator ℚ cap)
      (emptyDb ℚ configuration) where
  retained :=
    { good := LocalAdmission.good_init cap
      key := fun id receipt h => by simp [newAdmissionCoordinator] at h
      ended := fun id receipt h => by simp [newAdmissionCoordinator] at h
      queued := fun e he => absurd he (MinHeap.not_mem_empty e) }
  receipt := fun id receipt h => by simp [newAdmissionCoordinator] at h
  gone := fun id op h => by simp [emptyDb] at h
  lease := fun id lease h => by simp [newAdmissionCoordinator] at h
  active := fun id row h => by simp [emptyDb] at h
  lost := fun id op h => by simp [emptyDb] at h
  operation := fun id row h => by simp [emptyDb] at h
  observed := fun id receipt h => by simp [newAdmissionCoordinator] at h
  rates :=
    { policy := fun c client _ => .inl rfl
      bucket := fun c client kind _ _ => .inr ⟨nofun, nofun⟩
      stateRevision := nofun
      rowRevision := nofun }

namespace Core

variable {fingerprint : AdmissionRequest → Nat} {gone gone' : UUID → Prop} {now now' : Int}
  {s : AdmissionCoordinator ℚ} {db : Db ℚ}

section

variable (h : Core fingerprint gone now s db) {id : UUID}
include h

theorem mono (hgone : ∀ id, s.receipts.lookup id = none → gone id → gone' id) (hle : now ≤ now') :
    Core fingerprint gone' now' s db where
  retained := h.retained.mono hle
  receipt := h.receipt
  gone := fun id op hop hnone => hgone id hnone (h.gone id op hop hnone)
  lease := h.lease
  active := fun id row hrow hactive => h.active id row hrow (by omega)
  lost := h.lost
  operation := h.operation
  observed := h.observed
  rates := h.rates.mono hle

/-- **Local expiry alone keeps the relation.**  A lease that has run out goes, and the
    row that stands for it has run out as well. -/
theorem expire (hgone : ∀ id receipt, s.receipts.lookup id = some receipt → receipt.Ended →
      receipt.retainUntil ≤ now → gone id) :
    Core fingerprint gone now (LocalAdmission.expire s now) db := by
  have hexpire := LocalAdmission.expiring_expire h.retained
  have hlookup := LocalAdmission.expire_lookup h.retained.good now
  obtain ⟨hrates, hpolicies⟩ := LocalAdmission.expire_rates s now
  -- what is stored was stored before, perhaps not yet marked expired
  have hreceipts : ∀ id receipt, (LocalAdmission.expire s now).receipts.lookup id = some receipt →
      ∃ old, s.receipts.lookup id = some old ∧ (receipt = old ∨
        (old.Open ∧ receipt = old.expire now)) := by
    intro id receipt hreceipt
    rcases hexpire.receipt id with hsame | ⟨old, lease, hold, hopen, _, _, hmarked⟩ |
      ⟨_, _, _, _, hnone⟩
    · exact ⟨receipt, hsame ▸ hreceipt, .inl rfl⟩
    · rw [hreceipt] at hmarked
      exact ⟨old, hold, .inr ⟨hopen, Option.some.inj hmarked⟩⟩
    · rw [hreceipt] at hnone
      cases hnone
  refine ⟨hexpire.retained, ?_, ?_, ?_, ?_, ?_, h.operation, ?_, ?_⟩
  · intro id receipt hreceipt
    obtain ⟨old, hold, rfl | ⟨hopen, rfl⟩⟩ := hreceipts id receipt hreceipt
    · exact h.receipt id receipt hold
    obtain ⟨op, hop, hmirrors⟩ := h.receipt id old hold
    refine ⟨op, hop, hmirrors.fingerprint, hmirrors.clientID, hmirrors.poolID,
      hmirrors.completedAt, hmirrors.completion, hmirrors.original, hmirrors.admitted, ?_⟩
    intro hnone
    have hsome := hopen.1
    simp only [AdmissionReceipt.expire] at hnone
    rw [hnone] at hsome
    cases hsome
  · intro id op hop hnone
    rcases hexpire.receipt id with hsame | ⟨_, _, _, _, _, _, hmarked⟩ |
      ⟨old, hold, hended, hdue, _⟩
    · exact h.gone id op hop (hsame ▸ hnone)
    · rw [hnone] at hmarked
      cases hmarked
    · exact hgone id old hold hended hdue
  · intro id lease hlease
    obtain ⟨hold, hactive⟩ := (hlookup id lease).mp hlease
    obtain ⟨row, receipt, hrow, hreceipt, hholds⟩ := h.lease id lease hold
    obtain ⟨kept, hkept, hopen, -⟩ := hexpire.retained.good.leaseReceipt id lease hlease
    obtain ⟨old, hold', rfl | ⟨-, rfl⟩⟩ := hreceipts id kept hkept
    · rw [hreceipt] at hold'
      cases hold'
      exact ⟨row, receipt, hrow, hkept, hholds⟩
    · exact absurd (old.expire_ended now) hopen.not_ended
  · intro id row hrow hactive
    obtain ⟨lease, hlease⟩ := h.active id row hrow hactive
    obtain ⟨row', receipt, hrow', -, hholds⟩ := h.lease id lease hlease
    rw [hrow] at hrow'
    cases hrow'
    exact ⟨lease, (hlookup id lease).mpr ⟨hlease, hholds.expiresAt ▸ hactive⟩⟩
  · intro id op hop hlost
    cases hlease : (LocalAdmission.expire s now).leases.lookup id with
    | none => rfl
    | some lease =>
      have hold := ((hlookup id lease).mp hlease).1
      rw [h.lost id op hop hlost] at hold
      cases hold
  · intro id receipt hreceipt hadmitted
    rw [hpolicies]
    obtain ⟨old, hold, rfl | ⟨-, rfl⟩⟩ := hreceipts id receipt hreceipt
    · exact h.observed id receipt hold hadmitted
    · exact h.observed id old hold hadmitted
  · rw [hrates, hpolicies]
    exact h.rates

/-- A row without a stored lease has run out. -/
theorem row_over {row : LeaseRow} (hlease : s.leases.lookup id = none)
    (hrow : db.leases.lookup id = some row) : row.expiresAt ≤ now := by
  by_contra hactive
  obtain ⟨lease, hsome⟩ := h.active id row hrow (by omega)
  rw [hlease] at hsome
  cases hsome

/-- **One operation changes.**  The receipt and the row of `id` are rewritten together, the
    lease of `id` is there on both sides or on neither, and everything else stays. -/
theorem record {s' : AdmissionCoordinator ℚ} {db' : Db ℚ}
    (hretained : Retained fingerprint now s') (hreceipts : ∀ id', s'.receipts.lookup id'
      = if id' = id then some receipt else s.receipts.lookup id')
    (hoperations : ∀ id', db'.operations.lookup id'
      = if id' = id then some op else db.operations.lookup id') (hmirrors : Mirrors receipt op)
    (hleases : ∀ id', id' ≠ id → s'.leases.lookup id' = s.leases.lookup id' ∧
      db'.leases.lookup id' = db.leases.lookup id') (hlease : (s'.leases.lookup id = none ∧
        ∀ row, db'.leases.lookup id = some row → row.expiresAt ≤ now) ∨
      ∃ lease row, s'.leases.lookup id = some lease ∧ db'.leases.lookup id = some row ∧
        Holds receipt.request lease row ∧ op.leaseExpiredAt = none)
    (hobserved : receipt.decision.lease.isSome = true →
      ∃ policy, s'.policies receipt.request.clientID = some policy)
    (hpolicies : ∀ c policy, s.policies c = some policy → ∃ policy', s'.policies c = some policy')
    (hrates : RatesAgree db'.configuration s'.policies s'.rates db'.rates now) :
    Core fingerprint gone now s' db' := by
  refine ⟨hretained, ?_, ?_, ?_, ?_, ?_, ?_, ?_, hrates⟩
  · intro id' receipt' hreceipt'
    rw [hreceipts] at hreceipt'
    rw [hoperations]
    split at hreceipt'
    · next hid =>
      cases hreceipt'
      exact ⟨op, if_pos hid, hmirrors⟩
    · next hne =>
      rw [if_neg hne]
      exact h.receipt id' receipt' hreceipt'
  · intro id' op' hop' hnone
    rw [hreceipts] at hnone
    rw [hoperations] at hop'
    split at hnone
    · cases hnone
    · next hne =>
      rw [if_neg hne] at hop'
      exact h.gone id' op' hop' hnone
  · intro id' lease' hlease'
    rw [hreceipts]
    by_cases hid : id' = id
    · subst hid
      rw [if_pos rfl]
      rcases hlease with ⟨hnone, -⟩ | ⟨lease, row, hl, hrow, hholds, -⟩
      · rw [hlease'] at hnone
        cases hnone
      · rw [hlease'] at hl
        cases hl
        exact ⟨row, receipt, hrow, rfl, hholds⟩
    · rw [if_neg hid, (hleases id' hid).2]
      rw [(hleases id' hid).1] at hlease'
      exact h.lease id' lease' hlease'
  · intro id' row' hrow' hactive
    by_cases hid : id' = id
    · subst hid
      rcases hlease with ⟨-, hover⟩ | ⟨lease, -, hl, -⟩
      · have := hover row' hrow'
        omega
      · exact ⟨lease, hl⟩
    · rw [(hleases id' hid).2] at hrow'
      rw [(hleases id' hid).1]
      exact h.active id' row' hrow' hactive
  · intro id' op' hop' hlost
    rw [hoperations] at hop'
    by_cases hid : id' = id
    · subst hid
      rw [if_pos rfl] at hop'
      cases hop'
      rcases hlease with ⟨hnone, -⟩ | ⟨-, -, -, -, -, hopen⟩
      · exact hnone
      · rw [hopen] at hlost
        cases hlost
    · rw [if_neg hid] at hop'
      rw [(hleases id' hid).1]
      exact h.lost id' op' hop' hlost
  · intro id' row' hrow'
    rw [hoperations]
    split
    · exact ⟨op, rfl⟩
    · next hne =>
      rw [(hleases id' hne).2] at hrow'
      exact h.operation id' row' hrow'
  · intro id' receipt' hreceipt' hadmitted
    rw [hreceipts] at hreceipt'
    split at hreceipt'
    · cases hreceipt'
      exact hobserved hadmitted
    · obtain ⟨policy, hpolicy⟩ := h.observed id' receipt' hreceipt' hadmitted
      exact hpolicies _ _ hpolicy

/-! ## The counts -/

variable (hlive : ∀ id lease, s.leases.lookup id = some lease → now < lease.expiresAt)
include hlive

/-- Once nothing stored has run out, leases and active rows correspond one to one. -/
theorem activeCount_eq {p : UUID → LeaseIdentity → Bool} {q : LeaseRow → Bool}
    (hpq : ∀ id lease row receipt, s.leases.lookup id = some lease →
      s.receipts.lookup id = some receipt → Holds receipt.request lease row →
      p id lease = q row) : Table.count p s.leases = activeCount db q now := by
  unfold activeCount
  apply Nat.le_antisymm
  · apply Table.count_le_count
    intro id lease hlease hp
    obtain ⟨row, receipt, hrow, hreceipt, hholds⟩ := h.lease id lease hlease
    refine ⟨row, hrow, ?_⟩
    have hactive : now < row.expiresAt := by
      rw [hholds.expiresAt]
      exact hlive id lease hlease
    rw [← hpq id lease row receipt hlease hreceipt hholds, hp]
    simpa using hactive
  · apply Table.count_le_count
    intro id row hrow hq
    rw [Bool.and_eq_true, decide_eq_true_eq] at hq
    obtain ⟨lease, hlease⟩ := h.active id row hrow hq.2
    obtain ⟨row', receipt, hrow', hreceipt, hholds⟩ := h.lease id lease hlease
    rw [hrow] at hrow'
    cases hrow'
    refine ⟨lease, hlease, ?_⟩
    rw [hpq id lease row receipt hlease hreceipt hholds]
    exact hq.1

theorem poolInflight_eq (poolID : Int) : s.poolInflight poolID = poolCount db poolID now := by
  rw [h.retained.good.poolCount poolID]
  apply h.activeCount_eq hlive
  intro id lease row receipt _ _ hholds
  simp only [hholds.poolID.1, hholds.poolID.2, Bool.and_true]

theorem clientInflight_eq (clientID : Int) :
    s.clientInflight clientID = clientCount db clientID now := by
  rw [h.retained.good.clientCount clientID]
  apply h.activeCount_eq hlive
  intro id lease row receipt _ _ hholds
  simp only [hholds.clientID.1, hholds.clientID.2, Bool.and_true]

end

/-- A valid class is lower exactly when it is normal or background. -/
theorem lower_of_valid {c : PriorityClass} (h : c.valid = true) :
    c.lower = (decide (c = .normal) || decide (c = .background)) := by
  cases c <;> first | rfl | cases h

theorem poolLowerInflight_eq (h : Core fingerprint gone now s db)
    (hlive : ∀ id lease, s.leases.lookup id = some lease → now < lease.expiresAt) (poolID : Int) :
    s.poolLowerInflight poolID = lowerCount db poolID now := by
  rw [h.retained.good.lowerCount poolID]
  apply h.activeCount_eq hlive
  intro id lease row receipt _ hreceipt hholds
  have hlower : lowerReceipt s.receipts id = row.lower := by
    unfold lowerReceipt LeaseRow.lower
    rw [hreceipt]
    rw [hholds.priorityClass.1]
    exact lower_of_valid hholds.priorityClass.2
  simp only [hholds.poolID.1, hholds.poolID.2, hlower]

end Core

end Coordination.Agreement
