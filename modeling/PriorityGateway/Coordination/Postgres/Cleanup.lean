import PriorityGateway.Framework.ReceiptLedger
import PriorityGateway.Coordination.Fingerprint
import PriorityGateway.Coordination.Postgres.Serial

/-! # Admission Receipts and Their Cleanup

    The cleanup of the PostgreSQL coordinator deletes leases that have run out
    and receipts whose retention is over.  The receipts are what keeps a
    repeated request from being admitted, debited and charged again, so they
    may go only once their requests are refused as stale.

    The transactions run one at a time, each at one reading of the clock.  A
    `CleanupBatch` is three of them: a query for leases that have run out,
    `cleanupExpired` for what it found, and `cleanupAdmissionReceipts`.  They
    may stand anywhere in a run, and what the query found is arbitrary.

    The tables refine a `ReceiptLedger` as long as the requests start at whole
    microseconds.  Receipts store the start of a request in microseconds while
    the freshness of the request is tested in nanoseconds, and without that
    condition a receipt can go while its request is still fresh. -/

namespace Coordination.PostgresRetention

open ReadCommitted PostgresAdmission
open ReceiptLedger (Step Event Entry)

variable {F : Type}

/-! ## What the cleanup does -/

/-- `cleanupExpired` deletes the leases it was given that have run out, and their
    receipts say so. -/
theorem cleanupExpired_run (items : List ExpiredLease) (now : Int) (db : Db F) :
    ∃ outcome db', (cleanupExpired items).run now db = some (outcome, db') ∧
      db'.rates = db.rates ∧
      (∀ id, db'.leases.lookup id = (db.leases.lookup id).filter fun row =>
        !decide (id ∈ items.map ExpiredLease.id ∧ row.expiresAt ≤ now)) ∧
      (∀ id, db'.operations.lookup id = db.operations.lookup id ∨
        db'.operations.lookup id = (db.operations.lookup id).map (expireOperation now)) := by
  have hleases : ∀ id, (deleteLeases (fun id _ =>
      decide (id ∈ expiredIDs ⟨db, db, now⟩ (items.map ExpiredLease.id) now)) db).leases.lookup id
      = (db.leases.lookup id).filter fun row =>
        !decide (id ∈ items.map ExpiredLease.id ∧ row.expiresAt ≤ now) := by
    intro id
    rw [lookup_deleteLeases]
    cases hrow : db.leases.lookup id with
    | none => rfl
    | some row =>
      rw [Option.filter_some, Option.filter_some]
      congr 3
      rw [decide_eq_decide, mem_expiredIDs]
      simp [hrow]
  unfold cleanupExpired
  simp only [Prog.run_lock, Prog.run_read, Prog.run]
  split
  · exact ⟨_, _, rfl, rfl, hleases, fun id => .inl rfl⟩
  refine ⟨_, _, rfl, rfl, hleases, ?_⟩
  intro id
  rw [lookup_updateOperations]
  by_cases hid : id ∈ expiredIDs ⟨db, db, now⟩ (items.map ExpiredLease.id) now
  · right
    simp only [hid, decide_true, if_true]
    rfl
  · left
    simp only [hid, decide_false, Bool.false_eq_true, if_false, Option.map_id']
    rfl

/-- `cleanupAdmissionReceipts` deletes receipts that are due, and nothing else. -/
theorem cleanupAdmissionReceipts_run (batch : Nat) (skipped : UUID → Bool) (now : Int) (db : Db F) :
    ∃ outcome db', (cleanupAdmissionReceipts batch skipped).run now db = some (outcome, db') ∧
      db'.rates = db.rates ∧ db'.leases = db.leases ∧
      ∀ id, db'.operations.lookup id = db.operations.lookup id ∨
        (db'.operations.lookup id = none ∧ receiptDue db now id = true) := by
  unfold cleanupAdmissionReceipts
  rw [Prog.run_lock]
  unfold deleteReceipts
  split
  · exact ⟨_, _, rfl, rfl, rfl, fun id => .inl rfl⟩
  refine ⟨_, _, rfl, rfl, rfl, ?_⟩
  intro id
  rw [Table.lookup_filter]
  rcases hop : db.operations.lookup id with _ | op
  · exact .inl rfl
  rw [Option.filter_some]
  by_cases hdue : receiptDue db now id = true
  · split
    · exact .inl rfl
    · exact .inr ⟨rfl, hdue⟩
  · left
    simp [hdue]

variable {db db' : Db F} {now t : Int} {op : OperationRow}

/-- A receipt that is due has a retention, and it is over. -/
theorem receiptDue_retained {id : UUID} (h : receiptDue db now id = true)
    (hop : db.operations.lookup id = some op) :
    ∃ retainUntil, op.retainUntil = some retainUntil ∧ retainUntil ≤ now := by
  unfold receiptDue at h
  rw [hop, Bool.and_eq_true] at h
  obtain ⟨_, hdue⟩ := h
  dsimp only at hdue
  split at hdue
  · cases hdue
  · next retainUntil hretain => exact ⟨retainUntil, hretain, of_decide_eq_true hdue⟩

/-- The transactions of a `CleanupBatch`. -/
def cleans : Transaction → Bool
  | .cleanupExpired _ => true
  | .cleanupAdmissionReceipts _ _ => true
  | _ => false

/-- Every lease that has not run out stays as it is, and no lease is new. -/
structure KeepsActive (now : Int) (db db' : Db F) : Prop where
  kept : ∀ id row, db.leases.lookup id = some row → now < row.expiresAt →
    db'.leases.lookup id = some row
  old : ∀ id row, db'.leases.lookup id = some row → db.leases.lookup id = some row

theorem KeepsActive.of_eq (h : db'.leases = db.leases) : KeepsActive now db db' where
  kept := fun id row hrow _ => by rw [h]; exact hrow
  old := fun id row hrow => by rw [← h]; exact hrow

/-- The counts of the leases that have not run out do not change, now or later. -/
theorem KeepsActive.activeCount_eq (h : KeepsActive now db db') (p : LeaseRow → Bool)
    (ht : now ≤ t) : activeCount db' p t = activeCount db p t := by
  unfold activeCount
  apply Nat.le_antisymm
  · apply Table.count_le_count
    intro id row hrow hactive
    exact ⟨row, h.old id row hrow, hactive⟩
  · apply Table.count_le_count
    intro id row hrow hactive
    have hlater : t < row.expiresAt := of_decide_eq_true (Bool.and_eq_true_iff.mp hactive).2
    exact ⟨row, h.kept id row hrow (by omega), hactive⟩

/-- **The cleanup keeps what is active.** -/
theorem cleans_keepsActive [RateArith F] {fingerprint : AdmissionRequest → Nat} {tx : Transaction}
    (hcleans : cleans tx = true) {outcome : Outcome}
    (hrun : (transaction fingerprint tx).run now db = some (outcome, db')) :
    KeepsActive now db db' := by
  cases tx with
  | cleanupExpired items =>
    obtain ⟨outcome', db'', hrun', _, hleases, _⟩ := cleanupExpired_run items now db
    obtain ⟨rfl, rfl⟩ := Prod.mk.inj (Option.some.inj (hrun.symm.trans hrun'))
    constructor
    · intro id row hrow hactive
      rw [hleases, hrow, Option.filter_some, if_pos]
      simp only [Bool.not_eq_true', decide_eq_false_iff_not, not_and, not_le]
      exact fun _ => hactive
    · intro id row hrow
      rw [hleases] at hrow
      exact (Option.filter_eq_some_iff.mp hrow).1
  | cleanupAdmissionReceipts batch skipped =>
    obtain ⟨outcome', db'', hrun', _, hleases, _⟩ :=
      cleanupAdmissionReceipts_run batch skipped now db
    obtain ⟨rfl, rfl⟩ := Prod.mk.inj (Option.some.inj (hrun.symm.trans hrun'))
    exact .of_eq hleases
  | _ => cases hcleans

/-! ## What a transaction does to whom -/

/-- What must not happen twice.  A usage is debited on behalf of the receipt that is
    stored under the lease id. -/
inductive Effect where
  | leaseCreated (request : AdmissionRequest)
  | rpmDebited (request : AdmissionRequest)
  | usageDebited (leaseID : UUID) (fingerprint : Nat)
  deriving DecidableEq, Repr

/-- The RPM bucket is debited for a client with a limit. -/
def debits (configuration : Configuration) (r : AdmissionRequest) : List Effect :=
  match configuration.clients r.clientID with
  | none => []
  | some client => if 0 < client.requestsPerMinute then [.rpmDebited r] else []

/-- The effects of an acquisition that ended with `outcome`. -/
def acquireEffects (configuration : Configuration) (r : AdmissionRequest) : Outcome → List Effect
  | .admitted _ _ => .leaseCreated r :: debits configuration r
  | _ => []

/-- A usage that is charged when it is reported for the first time. -/
def chargeable (configuration : Configuration) (clientID : Int) (usage : Option TokenUsage) :
    Bool :=
  match usage, configuration.clients clientID with
  | some usage, some client => usage.valid && decide (0 < client.tokensPerMinute)
  | _, _ => false

def completeEffects (db : Db F) (item : LeaseCompletion) : List Effect :=
  match db.operations.lookup item.lease.leaseID with
  | none => []
  | some op =>
    if op.decision = .admitted ∧ op.completedAt = none ∧
        chargeable db.configuration op.clientID item.usage = true then
      [.usageDebited item.lease.leaseID op.inputFingerprint]
    else []

/-- The effects of a transaction that committed with `outcome`. -/
def effectsOf (db : Db F) (outcome : Outcome) : Transaction → List Effect
  | .acquire r => acquireEffects db.configuration r outcome
  | .completeOne item => completeEffects db item
  | _ => []

/-! ## How an acquisition ends -/

section Acquire

variable [RateArith F] {fingerprint : AdmissionRequest → Nat} {r : AdmissionRequest} {now : Int}
  {db db₀ db' : Db F} {outcome : Outcome}

/-- Buckets are seeded and brought up to date; nothing is taken out of them. -/
inductive Refills (now : Int) (db : Db F) : Db F → Prop where
  | same : Refills now db db
  | seed {db' : Db F} (clientID : Int) (kind : RateKind) (revision capacity : Int)
      (h : Refills now db db') (hnone : db'.rates clientID kind = none) :
      Refills now db (setRate clientID kind (seededRow revision capacity) db')
  | refresh {db' : Db F} (clientID : Int) (kind : RateKind) (revision capacity : Int)
      (row : RateRow F) (h : Refills now db db') (hrow : db'.rates clientID kind = some row) :
      Refills now db (setRate clientID kind (normalizedRow row revision capacity now false) db')

theorem Refills.frame (h : Refills now db db') :
    db'.operations = db.operations ∧ db'.leases = db.leases ∧
      db'.configuration = db.configuration := by
  induction h with
  | same => exact ⟨rfl, rfl, rfl⟩
  | seed _ _ _ _ _ _ ih | refresh _ _ _ _ _ _ _ ih => exact ih

/-- The tables with the receipt of a new request. -/
def received (fingerprint : AdmissionRequest → Nat) (r : AdmissionRequest) (db : Db F) : Db F :=
  { db with operations := db.operations.insert r.leaseID (pendingOperation (fingerprint r) r) }

/-- The tables after a lease was granted. -/
def granted (r : AdmissionRequest) (priorityClass : PriorityClass) (now : Int) (db : Db F) :
    Db F :=
  updateOperation r.leaseID (admittedOperation now)
    (insertLease r.leaseID (grantedRow now r priorityClass) db)

/-- How the checks and the buckets decide about a new request, with the effects. -/
inductive Decides (r : AdmissionRequest) (now : Int) (db : Db F) :
    Outcome → List Effect → Db F → Prop where
  | rejected {db' : Db F} (h : Refills now db db') (reason : Reason) (retry : Option Int)
      (scope : Option AdmissionScope) (d : AdmissionDecision) :
      Decides r now db (.decided d) []
        (updateOperation r.leaseID (rejectedOperation reason retry now scope) db')
  | admitted {db' : Db F} (h : Refills now db db') (hfresh : fresh r.operationStartedAt now = true)
      (priorityClass : PriorityClass) :
      Decides r now db (.admitted (grantedLease now r) now) [.leaseCreated r]
        (granted r priorityClass now db')
  | debited {db' : Db F} (h : Refills now db db') (hfresh : fresh r.operationStartedAt now = true)
      (priorityClass : PriorityClass) (revision capacity : Int) (row : RateRow F)
      (hrow : db'.rates r.clientID .rpm = some row) :
      Decides r now db (.admitted (grantedLease now r) now) [.leaseCreated r, .rpmDebited r]
        (granted r priorityClass now
          (setRate r.clientID .rpm (normalizedRow row revision capacity now true) db'))

variable {client : ClientRow} {revision capacity : Int}

/-- What passes the checks is fresh, and the client is the configured one. -/
theorem checkAcquire_passes {c : Configuration} {counts : Counts}
    (h : checkAcquire c r counts = .ok client) :
    c.clients r.clientID = some client ∧ fresh r.operationStartedAt counts.now = true := by
  unfold checkAcquire at h
  split at h
  · cases h
  next client' key pool hconfigured =>
  have hclient : c.clients r.clientID = some client' := by
    unfold configured at hconfigured
    split at hconfigured
    · next hc _ _ =>
      split at hconfigured <;> cases hconfigured
      exact hc
    · cases hconfigured
  split at h
  · cases h
  split at h
  · cases h
  split at h
  · cases h
  next hfresh =>
  have hclient' : client' = client := by
    split_ifs at h
    cases h
    rfl
  rw [← hclient']
  exact ⟨hclient, by simpa using hfresh⟩

/-- An exhausted bucket is only brought up to date. -/
theorem normalizedRow_exhausted {row : RateRow F}
    (h : RateArith.exhausted (refreshed row revision capacity now) = true) :
    normalizedRow row revision capacity now true
      = normalizedRow row revision capacity now false := by
  unfold normalizedRow
  simp [h]

omit [RateArith F] in
/-- The lease goes in unless there is one. -/
theorem grantLease_ends {priorityClass : PriorityClass}
    (hrun : (grantLease r priorityClass now).run now db = some (outcome, db')) :
    outcome = .admitted (grantedLease now r) now ∧ db' = granted r priorityClass now db := by
  cases hlease : db.leases.lookup r.leaseID with
  | none =>
    rw [grantLease_run hlease] at hrun
    cases hrun
    exact ⟨rfl, rfl⟩
  | some row =>
    unfold grantLease at hrun
    rw [Prog.run] at hrun
    rw [hlease] at hrun
    cases hrun

theorem rejectAcquire_ends {reason : Reason} {retry : Option Int} {scopes : Option AdmissionScope}
    (h : Refills now db₀ db)
    (hrun : (rejectAcquire r.leaseID reason retry now scopes).run now db = some (outcome, db')) :
    Decides r now db₀ outcome (acquireEffects db₀.configuration r outcome) db' := by
  cases hrun
  exact .rejected h _ _ _ _

section

variable (h : Refills now db₀ db) (hclient : db₀.configuration.clients r.clientID = some client)
  (hfresh : fresh r.operationStartedAt now = true)
include h hclient hfresh

theorem acquireRPM_ends (hrun : (acquireRPM r client now).run now db = some (outcome, db')) :
    Decides r now db₀ outcome (acquireEffects db₀.configuration r outcome) db' := by
  unfold acquireRPM at hrun
  split at hrun
  · next hlimit =>
    rcases hrow : db.rates r.clientID .rpm with _ | row
    · unfold normalizeRate at hrun
      rw [Prog.run_read] at hrun
      rw [hrow] at hrun
      cases hrun
    rw [normalizeRate_run hrow] at hrun
    split at hrun
    · obtain ⟨rfl, rfl⟩ := grantLease_ends hrun
      have heffects : acquireEffects db₀.configuration r (.admitted (grantedLease now r) now)
          = [.leaseCreated r, .rpmDebited r] := by
        simp [acquireEffects, debits, hclient, hlimit]
      rw [heffects]
      exact .debited h hfresh _ _ _ row hrow
    · next hexhausted =>
      rw [normalizedRow_exhausted (by simpa using hexhausted)] at hrun
      exact rejectAcquire_ends (h.refresh _ _ _ _ row hrow) hrun
  · next hlimit =>
    obtain ⟨rfl, rfl⟩ := grantLease_ends hrun
    have heffects : acquireEffects db₀.configuration r (.admitted (grantedLease now r) now)
        = [.leaseCreated r] := by
      simp [acquireEffects, debits, hclient, hlimit]
    rw [heffects]
    exact .admitted h hfresh _

theorem acquireTPM_ends (hrun : (acquireTPM r client now).run now db = some (outcome, db')) :
    Decides r now db₀ outcome (acquireEffects db₀.configuration r outcome) db' := by
  unfold acquireTPM at hrun
  split at hrun
  · rcases hrow : db.rates r.clientID .tpm with _ | row
    · unfold normalizeRate at hrun
      rw [Prog.run_read] at hrun
      rw [hrow] at hrun
      cases hrun
    rw [normalizeRate_run hrow] at hrun
    have hrefilled := h.refresh _ _ client.revision client.tokensPerMinute row hrow
    split at hrun
    · exact acquireRPM_ends hrefilled hclient hfresh hrun
    · exact rejectAcquire_ends hrefilled hrun
  · exact acquireRPM_ends h hclient hfresh hrun

end

theorem refills_seedRate {clientID : Int} {kind : RateKind} {view : View (Db F)}
    (h : Refills now db₀ db) (hview : view.current.rates clientID kind = db.rates clientID kind) :
    Refills now db₀ (seedRate view clientID kind revision capacity db) := by
  unfold seedRate
  split
  · next hseed => exact h.seed _ _ _ _ (hview.symm.trans hseed.2)
  · exact h

theorem refills_seedRates (clientID : Int) :
    Refills now db (seedRates ⟨db, db, now⟩ clientID db) := by
  unfold seedRates
  split
  · exact .same
  next client _ =>
  have hrpm : Refills now db
      (seedRate ⟨db, db, now⟩ clientID .rpm client.revision client.requestsPerMinute db) :=
    refills_seedRate .same rfl
  apply refills_seedRate hrpm
  -- the first seed is of the other kind
  unfold seedRate
  split
  · simp [setRate]
  · rfl

/-- A new request is decided by the checks and the buckets. -/
theorem acquire_new_ends (hnone : db.operations.lookup r.leaseID = none)
    (hrun : (acquire fingerprint r).run now db = some (outcome, db')) :
    Decides r now (received fingerprint r db) outcome
      (acquireEffects db.configuration r outcome) db' := by
  have hreceived : insertOperation (fingerprint r) r ⟨db, db, now⟩ db
      = received fingerprint r db := by
    unfold insertOperation
    rw [hnone]
    rfl
  rw [acquire_run_of_none hnone] at hrun
  rw [hreceived] at hrun
  have hseeded : Refills now (received fingerprint r db)
      (seedRates ⟨received fingerprint r db, received fingerprint r db, now⟩ r.clientID
        (received fingerprint r db)) := refills_seedRates r.clientID
  unfold acquireCounted at hrun
  split at hrun
  · exact rejectAcquire_ends hseeded hrun
  · next client hpasses =>
    obtain ⟨hclient, hfresh⟩ := checkAcquire_passes hpasses
    exact acquireTPM_ends hseeded hclient hfresh hrun

omit [RateArith F] in
/-- A replay decides nothing new; at most the receipt says that the lease is lost. -/
theorem resolveLocked_ends {lease : Option LeaseRow} {fp : Nat}
    (hrun : (resolveLocked fp r lease op).run now db = some (outcome, db')) :
    (∃ d, outcome = .decided d) ∧
      (db' = db ∨ db' = updateOperation r.leaseID (lostOperation now) db) := by
  unfold resolveLocked at hrun
  split at hrun
  · cases hrun
    exact ⟨⟨_, rfl⟩, .inl rfl⟩
  split at hrun
  · split at hrun <;> cases hrun
    exact ⟨⟨_, rfl⟩, .inl rfl⟩
  split at hrun
  · cases hrun
    exact ⟨⟨_, rfl⟩, .inl rfl⟩
  rw [Prog.run_read] at hrun
  split at hrun
  · cases hrun
    exact ⟨⟨_, rfl⟩, .inr rfl⟩
  split at hrun
  · cases hrun
    exact ⟨⟨_, rfl⟩, .inr rfl⟩
  · cases hrun
    exact ⟨⟨_, rfl⟩, .inl rfl⟩

end Acquire

/-! ## Runs -/

/-- A call: a transaction of the coordinator, or a new configuration.  Clients that
    are deleted lose their buckets. -/
inductive Call where
  | transaction (tx : Transaction)
  | configure (configuration : Configuration) (deleted : Int → Bool)

/-- The store commits a new configuration. -/
def configure (configuration : Configuration) (deleted : Int → Bool) (db : Db F) : Db F :=
  { db with
    configuration := configuration
    rates := fun clientID kind => if deleted clientID then none else db.rates clientID kind }

/-- One call; a transaction that fails changes nothing. -/
def call [RateArith F] (fingerprint : AdmissionRequest → Nat) (db : Db F) (c : Int × Call) :
    Db F × List Effect :=
  match c.2 with
  | .configure configuration deleted => (configure configuration deleted db, [])
  | .transaction tx =>
    match (transaction fingerprint tx).run c.1 db with
    | none => (db, [])
    | some (outcome, db') => (db', effectsOf db outcome tx)

/-- The coordinator as a machine whose answers are its effects. -/
def machine [RateArith F] (fingerprint : AdmissionRequest → Nat) :
    Machine (Db F) (Int × Call) (List Effect) where
  step := call fingerprint

def effects [RateArith F] (fingerprint : AdmissionRequest → Nat) (db : Db F)
    (calls : List (Int × Call)) : List Effect :=
  ((machine fingerprint).answers db calls).flatten

/-- The readings of the clock never go back. -/
def Nondecreasing {Call : Type} (calls : List (Int × Call)) : Prop :=
  (calls.map Prod.fst).Pairwise (· ≤ ·)

/-- The request starts at a whole microsecond, as it is stored. -/
def WholeStart : Call → Prop
  | .transaction (.acquire r) => r.operationStartedAt % 1000 = 0
  | _ => True

/-! ## The receipts as a ledger -/

section Ledger

variable {fingerprint : AdmissionRequest → Nat} {now : Int} {H : List Effect} {db db' : Db F}

/-- The start of a request, read back from its fingerprint. -/
noncomputable def startOf (fingerprint : AdmissionRequest → Nat) (k : UUID × Nat) : Int :=
  ((Function.partialInv fingerprint k.2).map AdmissionRequest.operationStartedAt).getD 0

theorem startOf_fingerprint (hinj : Function.Injective fingerprint) (id : UUID)
    (r : AdmissionRequest) : startOf fingerprint (id, fingerprint r) = r.operationStartedAt := by
  simp [startOf, Function.partialInv_left hinj]

/-- The ledger entry of a receipt; a request is known by its lease id and fingerprint. -/
def entryOf (id : UUID) (op : OperationRow) : Entry (UUID × Nat) where
  request := (id, op.inputFingerprint)
  granted := decide (op.decision = .admitted)
  closed := op.completedAt.isSome

def ledger (db : Db F) (id : UUID) : Option (Entry (UUID × Nat)) :=
  (db.operations.lookup id).map (entryOf id)

/-- The ledger event of an effect; a debited request is part of its grant. -/
def Effect.event (fingerprint : AdmissionRequest → Nat) :
    Effect → Option (Event (UUID × Nat))
  | .leaseCreated r => some (.created (r.leaseID, fingerprint r))
  | .rpmDebited _ => none
  | .usageDebited id fp => some (.charged (id, fp))

/-- A receipt as its request left it: it has the fingerprint and the exact start of the
    request, and is kept for a day after the start at least. -/
structure ReceiptOf (fingerprint : AdmissionRequest → Nat) (op : OperationRow) : Prop where
  request : ∃ r : AdmissionRequest, op.inputFingerprint = fingerprint r ∧
    op.operationStartedAt = r.operationStartedAt
  retained : ∀ retainUntil, op.retainUntil = some retainUntil →
    op.operationStartedAt + receiptRetention ≤ retainUntil

/-- The receipt keeps its request, and its retention is renewed if anything. -/
structure SameRequest (op op' : OperationRow) : Prop where
  fingerprint : op'.inputFingerprint = op.inputFingerprint
  started : op'.operationStartedAt = op.operationStartedAt
  retained : op'.retainUntil = op.retainUntil ∨
    ∃ t, op'.retainUntil = some (retentionBoundary op.operationStartedAt t)

theorem ReceiptOf.same {op op' : OperationRow} (h : ReceiptOf fingerprint op)
    (hsame : SameRequest op op') : ReceiptOf fingerprint op' := by
  obtain ⟨hfingerprint, hstarted, hretained⟩ := hsame
  constructor
  · rw [hfingerprint, hstarted]
    exact h.request
  intro retainUntil hr
  rw [hstarted]
  rcases hretained with hsame | ⟨t, hnew⟩
  · exact h.retained retainUntil (hsame.symm.trans hr)
  · rw [hnew] at hr
    cases hr
    exact started_le_retentionBoundary _ _

/-- A receipt that is marked lost or expired is the same entry of the ledger. -/
structure Marks (f : OperationRow → OperationRow) : Prop where
  same : ∀ op, SameRequest op (f op)
  entry : ∀ id op, entryOf id (f op) = entryOf id op

theorem marks_lost (now : Int) : Marks (lostOperation now) where
  same := fun _ => ⟨rfl, rfl, .inr ⟨_, rfl⟩⟩
  entry := fun _ _ => rfl

theorem marks_expire (now : Int) : Marks (expireOperation now) where
  same := by
    intro op
    unfold expireOperation
    split
    · exact ⟨rfl, rfl, .inl rfl⟩
    · exact ⟨rfl, rfl, .inr ⟨_, rfl⟩⟩
  entry := by
    intro id op
    unfold expireOperation
    split
    · rfl
    · rfl

variable {r : AdmissionRequest} {db₁ : Db F} {outcome : Outcome} {es : List Effect}

/-- The tables at `t` after the effects `H`. -/
structure Kept (fingerprint : AdmissionRequest → Nat) (t : Int) (H : List Effect) (db : Db F) :
    Prop where
  receipt : ∀ id op, db.operations.lookup id = some op → ReceiptOf fingerprint op
  recorded : ReceiptLedger.Recorded Prod.fst (startOf fingerprint) receiptRetention t
    (H.filterMap (Effect.event fingerprint)) (ledger db)
  rpm : ∀ r, H.count (.rpmDebited r) ≤ H.count (.leaseCreated r)

theorem Kept.mono {t t' : Int} (h : Kept fingerprint t H db) (hle : t ≤ t') :
    Kept fingerprint t' H db := ⟨h.receipt, h.recorded.mono hle, h.rpm⟩

theorem kept_init (configuration : Configuration) (t : Int) :
    Kept fingerprint t [] (emptyDb F configuration) where
  receipt := fun _ _ => nofun
  recorded := ReceiptLedger.recorded_init _ _ _ t
  rpm := fun _ => le_refl _

/-- **Step rule**: a step of the ledger, with the effects that it stands for. -/
theorem Kept.step (h : Kept fingerprint now H db)
    (hreceipt : ∀ id op, db'.operations.lookup id = some op → ReceiptOf fingerprint op)
    (hstep : Step Prod.fst (startOf fingerprint) receiptRetention now (ledger db)
      (es.filterMap (Effect.event fingerprint)) (ledger db'))
    (hrpm : ∀ r, es.count (.rpmDebited r) ≤ es.count (.leaseCreated r)) :
    Kept fingerprint now (H ++ es) db' := by
  refine ⟨hreceipt, ?_, ?_⟩
  · rw [List.filterMap_append]
    exact h.recorded.step hstep
  · intro r
    rw [List.count_append, List.count_append]
    exact Nat.add_le_add (h.rpm r) (hrpm r)

theorem Kept.mark (h : Kept fingerprint now H db)
    (hmark : ∀ id, db'.operations.lookup id = db.operations.lookup id ∨
      ∃ f, Marks f ∧ db'.operations.lookup id = (db.operations.lookup id).map f) :
    Kept fingerprint now H db' := by
  have hledger : ledger db' = ledger db := by
    funext id
    unfold ledger
    rcases hmark id with hsame | ⟨f, hf, hmap⟩
    · rw [hsame]
    rw [hmap, Option.map_map]
    congr 1
    funext op
    exact hf.entry id op
  refine ⟨?_, by rw [hledger]; exact h.recorded, h.rpm⟩
  intro id op hop
  rcases hmark id with hsame | ⟨f, hf, hmap⟩
  · exact h.receipt id op (hsame.symm.trans hop)
  · rw [hmap] at hop
    obtain ⟨op₀, hop₀, rfl⟩ := Option.map_eq_some_iff.mp hop
    exact (h.receipt id op₀ hop₀).same (hf.same op₀)

/-! ## Every call keeps the ledger -/

section

variable (hreceived : db₁.operations = (received fingerprint r db).operations)
  (f : OperationRow → OperationRow)
include hreceived f

theorem lookup_decided (id : UUID) :
    (updateOperation r.leaseID f db₁).operations.lookup id
      = if id = r.leaseID then some (f (pendingOperation (fingerprint r) r))
        else db.operations.lookup id := by
  rw [lookup_updateOperation, hreceived]
  show (if id = r.leaseID then
      ((db.operations.insert r.leaseID (pendingOperation (fingerprint r) r)).lookup id).map f
    else (db.operations.insert r.leaseID (pendingOperation (fingerprint r) r)).lookup id) = _
  rw [Table.lookup_insert_eq]
  split
  · rfl
  · rfl

theorem ledger_decided :
    ledger (updateOperation r.leaseID f db₁) = Function.update (ledger db) r.leaseID
      (some (entryOf r.leaseID (f (pendingOperation (fingerprint r) r)))) := by
  funext id
  rw [Function.update_apply]
  unfold ledger
  rw [lookup_decided hreceived]
  split
  · next hid => rw [hid]; rfl
  · rfl

end

section

variable (h : Kept fingerprint now H db) {item : LeaseCompletion}
include h

theorem receiptOf_decided (hwhole : r.operationStartedAt % 1000 = 0)
    (hreceived : db₁.operations = (received fingerprint r db).operations)
    {f : OperationRow → OperationRow} (hsame : SameRequest (pendingOperation (fingerprint r) r)
      (f (pendingOperation (fingerprint r) r))) (id : UUID) (op : OperationRow)
    (hop : (updateOperation r.leaseID f db₁).operations.lookup id = some op) :
    ReceiptOf fingerprint op := by
  rw [lookup_decided hreceived] at hop
  split at hop
  · cases hop
    have hpending : ReceiptOf fingerprint (pendingOperation (fingerprint r) r) :=
      ⟨⟨r, rfl, timestamptz_of_whole hwhole⟩, nofun⟩
    exact hpending.same hsame
  · exact h.receipt id op hop

/-- A request that is admitted with a free lease id is a grant of the ledger. -/
theorem Kept.grant (hinj : Function.Injective fingerprint)
    (hwhole : r.operationStartedAt % 1000 = 0) (hnone : db.operations.lookup r.leaseID = none)
    (hfresh : fresh r.operationStartedAt now = true)
    (hreceived : db₁.operations = (received fingerprint r db).operations)
    (hes : es = [.leaseCreated r] ∨ es = [.leaseCreated r, .rpmDebited r]) :
    Kept fingerprint now (H ++ es)
      (updateOperation r.leaseID (admittedOperation now) db₁) := by
  have hevents : es.filterMap (Effect.event fingerprint)
      = [.created (r.leaseID, fingerprint r)] := by
    rcases hes with rfl | rfl <;> rfl
  refine h.step (receiptOf_decided h hwhole hreceived ⟨rfl, rfl, .inl rfl⟩) ?_ ?_
  · rw [hevents, ledger_decided hreceived]
    apply Step.grant (r := (r.leaseID, fingerprint r))
    · unfold ledger
      rw [hnone]
      rfl
    · rw [startOf_fingerprint hinj]
      exact lt_of_fresh hfresh
  · intro r'
    rcases hes with rfl | rfl <;> simp [List.count_cons]

theorem Kept.acquire [RateArith F]
    (hinj : Function.Injective fingerprint) (hwhole : r.operationStartedAt % 1000 = 0)
    (hrun : (acquire fingerprint r).run now db = some (outcome, db')) :
    Kept fingerprint now (H ++ acquireEffects db.configuration r outcome) db' := by
  cases hop : db.operations.lookup r.leaseID with
  | some op =>
    rw [acquire_run_of_some hop] at hrun
    obtain ⟨⟨d, rfl⟩, hdb⟩ := resolveLocked_ends hrun
    show Kept fingerprint now (H ++ []) db'
    rw [List.append_nil]
    apply h.mark
    intro id
    rcases hdb with rfl | rfl
    · exact .inl rfl
    rw [lookup_updateOperation]
    split
    · exact .inr ⟨_, marks_lost now, rfl⟩
    · exact .inl rfl
  | none =>
    have hends := acquire_new_ends hop hrun
    generalize hes : acquireEffects db.configuration r outcome = es at hends
    cases hends with
    | rejected hrefills reason retry scope d =>
      refine h.step (receiptOf_decided h hwhole hrefills.frame.1 ⟨rfl, rfl, .inr ⟨_, rfl⟩⟩) ?_ ?_
      · rw [ledger_decided hrefills.frame.1]
        apply Step.reject (r := (r.leaseID, fingerprint r))
        unfold ledger
        rw [hop]
        rfl
      · exact fun _ => le_refl _
    | admitted hrefills hfresh priorityClass =>
      exact h.grant hinj hwhole hop hfresh hrefills.frame.1 (.inl rfl)
    | debited hrefills hfresh priorityClass revision capacity row hrow =>
      exact h.grant hinj hwhole hop hfresh hrefills.frame.1 (.inr rfl)

theorem Kept.renew {leases : List LeaseIdentity}
    (hrun : (renew leases).run now db = some (outcome, db')) : Kept fingerprint now H db' := by
  obtain ⟨db'', hrun', _, _, _, hoperations⟩ := renew_run leases now db
  obtain ⟨rfl, rfl⟩ := Prod.mk.inj (Option.some.inj (hrun.symm.trans hrun'))
  apply h.mark
  intro id
  rw [hoperations]
  unfold renewedOperation
  by_cases hexpired : ((db.leases.lookup id).isSome && (renewedRow leases now db id).isNone) = true
  · exact .inr ⟨_, marks_expire now, by simp only [hexpired, if_true]⟩
  · exact .inl (by simp only [hexpired, if_false, Bool.false_eq_true, Option.map_id'])

theorem Kept.close [RateArith F]
    {lease : Option LeaseRow} (hop : db.operations.lookup item.lease.leaseID = some op)
    (hadmitted : op.decision = .admitted) (hopen : op.completedAt = none) :
    Kept fingerprint now
      (H ++ if op.decision = .admitted ∧ op.completedAt = none ∧
          chargeable db.configuration op.clientID item.usage = true then
        [.usageDebited item.lease.leaseID op.inputFingerprint] else [])
      (completedDb item op.clientID op.poolID now lease db) := by
  have hlookup : ∀ id, (completedDb item op.clientID op.poolID now lease db).operations.lookup id
      = if id = item.lease.leaseID then some (completedOperation now (completionOf lease now) op)
        else db.operations.lookup id := lookup_completedDb hop
  have hledger : ledger (completedDb item op.clientID op.poolID now lease db)
      = Function.update (ledger db) item.lease.leaseID
        (some { entryOf item.lease.leaseID op with closed := true }) := by
    funext id
    rw [Function.update_apply]
    unfold ledger
    rw [hlookup]
    split
    · next hid => rw [hid]; rfl
    · rfl
  refine h.step ?_ ?_ ?_
  · intro id op' hop'
    rw [hlookup] at hop'
    split at hop'
    · cases hop'
      exact (h.receipt _ op hop).same ⟨rfl, rfl, .inr ⟨_, rfl⟩⟩
    · exact h.receipt id op' hop'
  · rw [hledger]
    apply Step.close
    · unfold ledger
      rw [hop]
      rfl
    · simp [entryOf, hadmitted]
    · simp [entryOf, hopen]
    · split
      · exact .inr rfl
      · exact .inl rfl
  · intro r
    split <;> simp

/-- Completing closes the receipt of an admitted request once. -/
theorem Kept.complete [RateArith F] (hrun : (completeOne item).run now db = some (outcome, db')) :
    Kept fingerprint now (H ++ completeEffects db item) db' := by
  rw [completeOne_run] at hrun
  unfold completeEffects
  rcases hop : db.operations.lookup item.lease.leaseID with _ | op
  · rw [hop] at hrun
    cases hrun
    simpa using h
  rw [hop] at hrun
  dsimp only at hrun ⊢
  by_cases hadmitted : op.decision = .admitted
  · rw [if_neg (not_not.mpr hadmitted)] at hrun
    by_cases hdone : op.completedAt.isSome = true
    · -- a replay, or a row that cannot be read
      rw [if_pos hdone] at hrun
      have hcompleted : op.completedAt ≠ none := Option.isSome_iff_ne_none.mp hdone
      rw [if_neg (fun hc => hcompleted hc.2.1), List.append_nil]
      split at hrun <;> cases hrun
      exact h
    · rw [if_neg hdone] at hrun
      cases hrun
      have hopen : op.completedAt = none := by simpa using hdone
      exact h.close hop hadmitted hopen
  · rw [if_pos hadmitted] at hrun
    cases hrun
    rw [if_neg (fun hc => hadmitted hc.1), List.append_nil]
    exact h

/-- **The cleanup drops only receipts whose requests are too old.** -/
theorem Kept.cleanupReceipts {batch : Nat} {skipped : UUID → Bool}
    (hinj : Function.Injective fingerprint)
    (hrun : (cleanupAdmissionReceipts batch skipped).run now db = some (outcome, db')) :
    Kept fingerprint now H db' := by
  obtain ⟨outcome', db'', hrun', _, _, hoperations⟩ :=
    cleanupAdmissionReceipts_run batch skipped now db
  obtain ⟨rfl, rfl⟩ := Prod.mk.inj (Option.some.inj (hrun.symm.trans hrun'))
  refine ⟨?_, h.recorded.dropAll ?_, h.rpm⟩
  · intro id op hop
    rcases hoperations id with hsame | ⟨hnone, _⟩
    · exact h.receipt id op (hsame.symm.trans hop)
    · rw [hnone] at hop
      cases hop
  · intro id
    unfold ledger
    rcases hoperations id with hsame | ⟨hnone, hdue⟩
    · exact .inl (by rw [hsame])
    refine .inr ⟨by rw [hnone]; rfl, ?_⟩
    intro e he
    obtain ⟨op, hop, rfl⟩ := Option.map_eq_some_iff.mp he
    obtain ⟨retainUntil, hretain, hle⟩ := receiptDue_retained hdue hop
    obtain ⟨⟨r, hfingerprint, hstarted⟩, hretained⟩ := h.receipt id op hop
    have hkept := hretained retainUntil hretain
    show startOf fingerprint (id, op.inputFingerprint) + receiptRetention ≤ now
    rw [hfingerprint, startOf_fingerprint hinj]
    omega

theorem Kept.cleanupLeases {items : List ExpiredLease}
    (hrun : (cleanupExpired items).run now db = some (outcome, db')) :
    Kept fingerprint now H db' := by
  obtain ⟨outcome', db'', hrun', _, _, hoperations⟩ := cleanupExpired_run items now db
  obtain ⟨rfl, rfl⟩ := Prod.mk.inj (Option.some.inj (hrun.symm.trans hrun'))
  apply h.mark
  intro id
  rcases hoperations id with hsame | hmap
  · exact .inl hsame
  · exact .inr ⟨_, marks_expire now, hmap⟩

end

theorem Kept.call [RateArith F] {c : Int × Call} (h : Kept fingerprint c.1 H db)
    (hinj : Function.Injective fingerprint) (hwhole : WholeStart c.2) :
    Kept fingerprint c.1 (H ++ (call fingerprint db c).2) (call fingerprint db c).1 := by
  obtain ⟨now, c⟩ := c
  cases c with
  | configure configuration deleted =>
    show Kept fingerprint now (H ++ []) (configure configuration deleted db)
    rw [List.append_nil]
    exact h.mark (fun id => .inl rfl)
  | transaction tx =>
    unfold PostgresRetention.call
    dsimp only
    rcases hrun : (transaction fingerprint tx).run now db with _ | result
    · rw [List.append_nil]
      exact h
    obtain ⟨outcome, db'⟩ := result
    cases tx with
    | acquire r => exact h.acquire hinj hwhole hrun
    | completeOne item => exact h.complete hrun
    | renew leases =>
      show Kept fingerprint now (H ++ []) db'
      rw [List.append_nil]
      exact h.renew hrun
    | cleanupExpired items =>
      show Kept fingerprint now (H ++ []) db'
      rw [List.append_nil]
      exact h.cleanupLeases hrun
    | cleanupAdmissionReceipts batch skipped =>
      show Kept fingerprint now (H ++ []) db'
      rw [List.append_nil]
      exact h.cleanupReceipts hinj hrun

theorem kept_run [RateArith F] (hinj : Function.Injective fingerprint)
    (configuration : Configuration) (calls : List (Int × Call)) (hclock : Nondecreasing calls)
    (hwhole : ∀ c ∈ calls, WholeStart c.2) :
    ∃ t, Kept fingerprint t (effects fingerprint (emptyDb F configuration) calls)
      ((machine fingerprint).after (emptyDb F configuration) calls) := by
  obtain ⟨t, hend⟩ := Machine.exists_last_reading calls
  have hrun := (machine fingerprint).history_of_init id (I := Kept (F := F) fingerprint)
    (fun _ _ _ _ hle h => h.mono hle) hclock hend (fun _ c hc _ h _ => h.call hinj (hwhole c hc))
    (kept_init configuration) (Machine.along_of_forall _ _ calls fun _ _ => trivial)
  rw [List.map_id] at hrun
  exact ⟨t, hrun⟩

/-! ## Nothing happens twice -/

/-- No request is admitted or debited twice, and no usage of a lease is. -/
structure AtMostOnce (es : List Effect) : Prop where
  created : ∀ r, es.count (.leaseCreated r) ≤ 1
  rpm : ∀ r, es.count (.rpmDebited r) ≤ 1
  usage : ∀ id fp, es.count (.usageDebited id fp) ≤ 1

theorem count_le_event {e : Effect} {event : Event (UUID × Nat)}
    (he : e.event fingerprint = some event) (es : List Effect) :
    es.count e ≤ (es.filterMap (Effect.event fingerprint)).count event := by
  rw [List.count_filterMap]
  apply List.countP_mono_left
  intro e' _ he'
  rw [beq_iff_eq] at he'
  rw [he', he]
  exact beq_self_eq_true _

theorem Kept.atMostOnce (h : Kept fingerprint t H db) : AtMostOnce H := by
  have hcreated : ∀ r, H.count (.leaseCreated r) ≤ 1 := by
    intro r
    exact le_trans (count_le_event rfl H) (h.recorded.createdOnce (r.leaseID, fingerprint r))
  refine ⟨hcreated, ?_, ?_⟩
  · intro r
    exact le_trans (h.rpm r) (hcreated r)
  intro id fp
  have hevent : H.count (.usageDebited id fp)
      ≤ (H.filterMap (Effect.event fingerprint)).count (.charged (id, fp)) :=
    count_le_event rfl H
  exact le_trans hevent (h.recorded.chargedOnce (id, fp))

end Ledger

/-! A gateway whose clock is a second ahead sends a request that starts in the middle of a
    microsecond.  Its receipt says that it started before that. -/

def ratedSlot : Configuration := .single (.normal 1 1 60 1000 (by decide))

def startingAt (operationStartedAt : Int) : AdmissionRequest :=
  { plainRequest 7 operationStartedAt (30 * second) with
    effectiveClientLimit := 1, configuredClientLimit := 1, priorityClass := .normal
    requestsPerMinute := 60, tokensPerMinute := 1000 }

/-- The completion of the request, with a usage. -/
def usageOf (r : AdmissionRequest) : LeaseCompletion where
  lease := grantedLease unixEpoch r
  usage := some ⟨10, 20, 0⟩

/-- The request is admitted and completed, the cleanup comes a day after the stored
    start, and the request and its completion are sent again. -/
def resentAfter (r : AdmissionRequest) : List (Int × Call) :=
  [(unixEpoch, .transaction (.acquire r)), (unixEpoch, .transaction (.completeOne (usageOf r))),
   (unixEpoch + second + receiptRetention,
     .transaction (.cleanupAdmissionReceipts 256 fun _ => false)),
   (unixEpoch + second + receiptRetention, .transaction (.acquire r)),
   (unixEpoch + second + receiptRetention, .transaction (.completeOne (usageOf r)))]

/-- The effect debits a usage of the lease. -/
def Effect.debitsUsage (leaseID : UUID) : Effect → Bool
  | .usageDebited id _ => decide (id = leaseID)
  | _ => false

/-- A request that starts between two microseconds is admitted, debited and charged twice. -/
theorem resent_twice :
    Nondecreasing (resentAfter (startingAt (unixEpoch + second + 500))) ∧
    (effects exactFingerprint (emptyDb ℚ ratedSlot)
      (resentAfter (startingAt (unixEpoch + second + 500)))).count
        (.leaseCreated (startingAt (unixEpoch + second + 500))) = 2 ∧
    (effects exactFingerprint (emptyDb ℚ ratedSlot)
      (resentAfter (startingAt (unixEpoch + second + 500)))).count
        (.rpmDebited (startingAt (unixEpoch + second + 500))) = 2 ∧
    (effects exactFingerprint (emptyDb ℚ ratedSlot)
      (resentAfter (startingAt (unixEpoch + second + 500)))).countP
        (Effect.debitsUsage 7) = 2 := by
  refine ⟨by unfold Nondecreasing; decide, ?_, ?_, ?_⟩
  · decide +kernel
  · decide +kernel
  · decide +kernel

end Coordination.PostgresRetention
