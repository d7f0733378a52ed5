import PriorityGateway.Coordination.Leases.Service
import PriorityGateway.Coordination.Postgres.Serial
import PriorityGateway.Coordination.Postgres.Statements

/-! # The PostgreSQL Coordinator under the Lease Manager

    Any number of transactions of the PostgreSQL coordinator run at once, one
    statement at a time (`ReadCommitted`), and the lease manager gets its
    completions processed by some of them.

    All is seen from one lease.  What makes a completion of it take effect
    once is the lock on its receipt: a completion decides under it whether the
    receipt is completed already, and nobody else writes the completion of a
    locked receipt.  The contract says this for every transaction with one
    relation, `Frame`, which lists what a transaction may change given the
    rows it may write.  Others rely on it for the rows they have locked.

    Receipts are deleted by `cleanupAdmissionReceipts` alone, past their
    retention.  The one condition on a run is that it does not delete the
    receipt of this lease: other receipts may go, and the configuration may
    change at any time. -/

namespace Coordination.PostgresCompletion

open ReadCommitted PostgresAdmission LeaseManager
open ReadCommitted (Label)

variable {F : Type} {id : UUID}

/-! ## What transactions leave alone -/

/-- A receipt keeps its owner, and as asked its decision and its completion. -/
structure Inherits (decided completed : Prop) (op op' : OperationRow) : Prop where
  clientID : op'.clientID = op.clientID
  poolID : op'.poolID = op.poolID
  decision : decided → op'.decision = op.decision
  completedAt : completed → op'.completedAt = op.completedAt

section

variable {p q p' q' : Prop} {a b c : OperationRow}

theorem Inherits.refl (op : OperationRow) : Inherits p q op op :=
  ⟨rfl, rfl, fun _ => rfl, fun _ => rfl⟩

theorem Inherits.trans (h : Inherits p q a b) (h' : Inherits p q b c) : Inherits p q a c :=
  ⟨h'.clientID.trans h.clientID, h'.poolID.trans h.poolID,
    fun hp => (h'.decision hp).trans (h.decision hp),
    fun hq => (h'.completedAt hq).trans (h.completedAt hq)⟩

theorem Inherits.mono (h : Inherits p q a b) (hp : p' → p) (hq : q' → q) : Inherits p' q' a b :=
  ⟨h.clientID, h.poolID, fun hp' => h.decision (hp hp'), fun hq' => h.completedAt (hq hq')⟩

end

/-- What changes of the receipt of `id` and of the buckets when the rows that `may` allows are
    written.  A receipt is marked expired without a lock on it, so only its completion is
    protected. -/
structure Frame (id : UUID) (may : RowLock → Prop) (db db' : Db F) : Prop where
  receipt : ∀ op, db.operations.lookup id = some op →
    ∃ op', db'.operations.lookup id = some op' ∧ Inherits True (¬ may (.operation id)) op op'
  absent : ¬ may (.operation id) → db.operations.lookup id = none →
    db'.operations.lookup id = none
  rate : ∀ clientID kind, ¬ may (.rate clientID kind) →
    db'.rates clientID kind = db.rates clientID kind
  seeded : ∀ clientID kind, (db.rates clientID kind).isSome → (db'.rates clientID kind).isSome

variable {db db' db'' : Db F} {held : List RowLock} {may may' : RowLock → Prop}

theorem Frame.of_eq (hops : db'.operations = db.operations) (hrates : db'.rates = db.rates) :
    Frame id may db db' := by
  refine ⟨fun op hop => ⟨op, ?_, .refl op⟩, fun _ hnone => ?_, fun _ _ _ => ?_, fun _ _ hsome => ?_⟩
  · rwa [hops]
  · rwa [hops]
  · rw [hrates]
  · rwa [hrates]

theorem Frame.trans (h : Frame id may db db') (h' : Frame id may db' db'') :
    Frame id may db db'' := by
  refine ⟨?_, fun hmay hnone => h'.absent hmay (h.absent hmay hnone),
    fun clientID kind hmay => (h'.rate clientID kind hmay).trans (h.rate clientID kind hmay),
    fun clientID kind hsome => h'.seeded clientID kind (h.seeded clientID kind hsome)⟩
  intro op hop
  obtain ⟨op₁, hop₁, hinherits₁⟩ := h.receipt op hop
  obtain ⟨op₂, hop₂, hinherits₂⟩ := h'.receipt op₁ hop₁
  exact ⟨op₂, hop₂, hinherits₁.trans hinherits₂⟩

theorem Frame.mono (h : Frame id may db db') (hmay : ∀ l, may l → may' l) :
    Frame id may' db db' := by
  refine ⟨?_, fun hnot => h.absent fun hm => hnot (hmay _ hm),
    fun clientID kind hnot => h.rate clientID kind fun hm => hnot (hmay _ hm), h.seeded⟩
  intro op hop
  obtain ⟨op', hop', hinherits⟩ := h.receipt op hop
  exact ⟨op', hop', hinherits.mono (fun h => h) fun hnot hm => hnot (hmay _ hm)⟩

theorem Frame.weaken {locks : List RowLock} (h : Frame id (· ∉ held ++ locks) db db') :
    Frame id (· ∉ held) db db' :=
  h.mono fun _ hnot hm => hnot (List.mem_append_left _ hm)

/-! ## What commits do -/

/-- A transaction that does not complete the lease.  A lease appears with its receipt only. -/
structure Opens (id : UUID) (db db' : Db F) : Prop where
  receipt : ∀ op, db.operations.lookup id = some op →
    ∃ op', db'.operations.lookup id = some op' ∧ Inherits True True op op'
  opened : ∀ op', db.operations.lookup id = none → db'.operations.lookup id = some op' →
    op'.completedAt = none
  lease : ∀ row', db'.leases.lookup id = some row' →
    (∃ row, db.leases.lookup id = some row ∧ row'.clientID = row.clientID ∧
      row'.poolID = row.poolID) ∨
    (db.operations.lookup id = none ∧ ∃ op', db'.operations.lookup id = some op' ∧
      row'.clientID = op'.clientID ∧ row'.poolID = op'.poolID)

/-- The receipt of `id` is not deleted. -/
def Kept (id : UUID) (db db' : Db F) : Prop :=
  (db.operations.lookup id).isSome → (db'.operations.lookup id).isSome

/-- A transaction, and for a completion whether there was a receipt when it began. -/
structure Task where
  transaction : Transaction
  found : Bool

/-- The task is the cleanup of receipts. -/
def Task.cleans (task : Task) : Prop :=
  ∃ batch skipped, task.transaction = .cleanupAdmissionReceipts batch skipped

/-- The completion of the lease `id` that a transaction is. -/
def ending (id : UUID) : Transaction → Option LeaseCompletion
  | .completeOne item => if item.lease.leaseID = id then some item else none
  | _ => none

section Contract

variable [RateArith F]

/-- The bucket a completion charges: the stored one, or the one it seeds. -/
def bucket (clientID : Int) (client : ClientRow) (db : Db F) : RateRow F :=
  (db.rates clientID .tpm).getD (seededRow client.revision client.tokensPerMinute)

/-- The database once a usage is charged under a client row, if there is one to charge. -/
def charged (charge : Option (TokenUsage × ClientRow)) (clientID now : Int) (db : Db F) : Db F :=
  match charge with
  | none => db
  | some (tokens, client) =>
    setRate clientID .tpm (chargedRow (bucket clientID client db) client now tokens) db

/-- What a completion does, by its answer. -/
inductive Completes (item : LeaseCompletion) (found : Bool) (result : CompleteResult)
    (db db' : Db F) : Prop where
  /-- the receipt was open, and the commit is that of an undisturbed completion -/
  | applied (op : OperationRow) (now : Int) (lease : Option LeaseRow)
      (charge : Option (TokenUsage × ClientRow))
      (hop : db.operations.lookup item.lease.leaseID = some op)
      (hadmitted : op.decision = .admitted)
      (hopen : op.completedAt = none) (hcharge : ∀ c ∈ charge, item.usage = some c.1)
      (hdb : db' = updateOperation item.lease.leaseID
        (completedOperation now (completionOf lease now))
        (deleteLease item.lease.leaseID op.clientID op.poolID (charged charge op.clientID now db)))
      (hresult : result = ⟨item.lease.leaseID, some (completionOf lease now), none, none⟩)
  | repeated (op : OperationRow) (original : CompletionResult)
      (hop : db.operations.lookup item.lease.leaseID = some op)
      (hadmitted : op.decision = .admitted)
      (hcompleted : op.completedAt.isSome) (hdb : db' = db)
      (hresult : result = ⟨item.lease.leaseID, some .alreadyCompleted, some original, none⟩)
  | lost (op : OperationRow) (hop : db.operations.lookup item.lease.leaseID = some op)
      (hrejected : op.decision ≠ .admitted) (hdb : db' = db)
      (hresult : result = ⟨item.lease.leaseID, some .leaseLost, none, some .leaseLost⟩)
  | stale (hfound : found = false) (hdb : db' = db)
      (hresult : result = ⟨item.lease.leaseID, none, none, some .staleOperation⟩)

/-- What a commit does to the receipt and the lease. -/
def Effect (id : UUID) (task : Task) (outcome : Outcome) (db db' : Db F) : Prop :=
  match ending id task.transaction with
  | some item => ∃ result, outcome = .completed result ∧ Completes item task.found result db db'
  | none => Opens id db db'

variable (F) in
/-- What is not locked may change, what is locked may be written. -/
def contract (id : UUID) : Contract (Db F) RowLock Outcome Task where
  rely := fun _ held => Frame id (· ∉ held)
  guar := fun task held outcome db db' => (task.cleans → Kept id db db') →
    Frame id (· ∈ held) db db' ∧ Effect id task outcome db db'
  inv := fun _ _ => True
  compatible := fun task _ _ db db' => task.cleans → Kept id db db'
  rely_refl := fun _ _ _ => .of_eq rfl rfl
  rely_trans := fun _ _ _ _ _ h h' => h.trans h'
  inv_mono := fun _ _ _ _ h => h
  rely_of_guar := fun _ _ _ _ _ _ _ h hdisjoint hkept => (h hkept).1.mono hdisjoint

end Contract

/-! ## Writes

    Every statement is made of a few kinds of writes.  Which of them concern
    the lease depends on whose transaction it is: `own` is the request of the
    lease, while its acquisition is under way. -/

/-- A write that opens nothing, completes nothing and charges locked buckets only. -/
structure Writes (id : UUID) (own : Option AdmissionRequest) (locks : List RowLock)
    (write : Db F → Db F) : Prop where
  absent : ∀ db, db.operations.lookup id = none → (write db).operations.lookup id = none
  receipt : ∀ db op, db.operations.lookup id = some op →
    ∃ op', (write db).operations.lookup id = some op' ∧ Inherits (own = none) True op op'
  lease : ∀ db row', (write db).leases.lookup id = some row' →
    (∃ row, db.leases.lookup id = some row ∧ row'.clientID = row.clientID ∧
      row'.poolID = row.poolID) ∨ ∃ r ∈ own, row'.clientID = r.clientID ∧ row'.poolID = r.poolID
  rate : ∀ db clientID kind, .rate clientID kind ∉ locks →
    (write db).rates clientID kind = db.rates clientID kind
  seeded : ∀ db clientID kind, (db.rates clientID kind).isSome →
    ((write db).rates clientID kind).isSome

/-- The request is of another lease, or it is the one whose acquisition is under way. -/
def Concerns (id : UUID) (own : Option AdmissionRequest) (r : AdmissionRequest) : Prop :=
  r.leaseID = id → own = some r

namespace Writes

variable {own : Option AdmissionRequest} {locks locks' : List RowLock} {write write' : Db F → Db F}
  {kind : RateKind} {clientID : Int} {r : AdmissionRequest}

theorem id' : Writes (F := F) id own locks fun db => db :=
  ⟨fun _ h => h, fun _ op h => ⟨op, h, .refl op⟩, fun _ row h => .inl ⟨row, h, rfl, rfl⟩,
    fun _ _ _ _ => rfl, fun _ _ _ h => h⟩

theorem comp (h' : Writes id own locks' write') (h : Writes id own locks write) :
    Writes id own (locks ++ locks') fun db => write' (write db) := by
  refine ⟨fun db hnone => h'.absent _ (h.absent db hnone), ?_, ?_, ?_, ?_⟩
  · intro db op hop
    obtain ⟨op₁, hop₁, hinherits₁⟩ := h.receipt db op hop
    obtain ⟨op₂, hop₂, hinherits₂⟩ := h'.receipt _ op₁ hop₁
    exact ⟨op₂, hop₂, hinherits₁.trans hinherits₂⟩
  · intro db row₂ hrow₂
    rcases h'.lease _ row₂ hrow₂ with ⟨row₁, hrow₁, hclient₂, hpool₂⟩ | hnew
    · rcases h.lease db row₁ hrow₁ with ⟨row, hrow, hclient₁, hpool₁⟩ | ⟨r, hr, hclient₁, hpool₁⟩
      · exact .inl ⟨row, hrow, hclient₂.trans hclient₁, hpool₂.trans hpool₁⟩
      · exact .inr ⟨r, hr, hclient₂.trans hclient₁, hpool₂.trans hpool₁⟩
    · exact .inr hnew
  · intro db clientID kind hnot
    rw [List.mem_append, not_or] at hnot
    exact (h'.rate _ clientID kind hnot.2).trans (h.rate db clientID kind hnot.1)
  · intro db clientID kind hsome
    exact h'.seeded _ clientID kind (h.seeded db clientID kind hsome)

/-- Locks may be counted twice. -/
theorem of_subset (h : Writes id own locks write) (hsub : locks ⊆ locks') :
    Writes id own locks' write :=
  ⟨h.absent, h.receipt, h.lease,
    fun db clientID kind hnot => h.rate db clientID kind fun hm => hnot (hsub hm), h.seeded⟩

theorem updateOperations {ids : UUID → Bool} {f : OperationRow → OperationRow}
    (hf : ids id = true → ∀ op, Inherits (own = none) True op (f op)) :
    Writes (F := F) id own locks (updateOperations ids f) := by
  refine ⟨fun db hnone => ?_, fun db op hop => ?_, fun _ row h => .inl ⟨row, h, rfl, rfl⟩,
    fun _ _ _ _ => rfl, fun _ _ _ h => h⟩
  · rw [lookup_updateOperations, hnone]
    rfl
  · refine ⟨if ids id then f op else op, by rw [lookup_updateOperations, hop]; rfl, ?_⟩
    split
    · next hid => exact hf hid op
    · exact .refl op

/-- The receipt of a request is decided by its own acquisition. -/
theorem decide (hr : Concerns id own r) {f : OperationRow → OperationRow}
    (hf : ∀ op, Inherits False True op (f op)) :
    Writes (F := F) id own locks (updateOperation r.leaseID f) := by
  refine updateOperations fun hid op => (hf op).mono (fun hnone => ?_) fun h => h
  rw [hr (of_decide_eq_true hid).symm] at hnone
  cases hnone

theorem deleteLeases (p : UUID → LeaseRow → Bool) :
    Writes (F := F) id own locks (deleteLeases p) := by
  refine ⟨fun _ h => h, fun _ op h => ⟨op, h, .refl op⟩, fun db row hrow => .inl ?_,
    fun _ _ _ _ => rfl, fun _ _ _ h => h⟩
  rw [lookup_deleteLeases, Option.filter_eq_some_iff] at hrow
  exact ⟨row, hrow.1, rfl, rfl⟩

theorem updateExpiries (updates : UUID → Option Int) :
    Writes (F := F) id own locks (updateExpiries updates) := by
  refine ⟨fun _ h => h, fun _ op h => ⟨op, h, .refl op⟩, fun db row' hrow' => .inl ?_,
    fun _ _ _ _ => rfl, fun _ _ _ h => h⟩
  rw [lookup_updateExpiries] at hrow'
  obtain ⟨row, hrow, rfl⟩ := Option.map_eq_some_iff.mp hrow'
  refine ⟨row, hrow, ?_⟩
  split <;> exact ⟨rfl, rfl⟩

theorem insertLease (hr : Concerns id own r) {row : LeaseRow} (hclient : row.clientID = r.clientID)
    (hpool : row.poolID = r.poolID) :
    Writes (F := F) id own locks (insertLease r.leaseID row) := by
  refine ⟨fun _ h => h, fun _ op h => ⟨op, h, .refl op⟩, fun db row' hrow' => ?_,
    fun _ _ _ _ => rfl, fun _ _ _ h => h⟩
  rcases Table.lookup_insert_cases hrow' with ⟨hid, rfl⟩ | ⟨-, hold⟩
  · exact .inr ⟨r, hr hid.symm, hclient, hpool⟩
  · exact .inl ⟨row', hold, rfl, rfl⟩

theorem setRate {row : RateRow F} (hlocked : .rate clientID kind ∈ locks) :
    Writes id own locks (setRate clientID kind row) := by
  refine ⟨fun _ h => h, fun _ op h => ⟨op, h, .refl op⟩, fun _ row h => .inl ⟨row, h, rfl, rfl⟩,
    ?_, ?_⟩
  · intro db clientID' kind' hnot
    rw [setRate_rates, if_neg]
    rintro ⟨rfl, rfl⟩
    exact hnot hlocked
  · intro db clientID' kind' hsome
    rw [setRate_rates]
    split
    · rfl
    · exact hsome

theorem admits : Admits (Writes (F := F) id own) where
  skip := fun _ => id'
  pointwise := fun _ _ h => by
    constructor <;> intro db <;> obtain ⟨write', hwrite', heq⟩ := h db <;> rw [heq]
    · exact hwrite'.absent db
    · exact hwrite'.receipt db
    · exact hwrite'.lease db
    · exact hwrite'.rate db
    · exact hwrite'.seeded db
  deleteLeases := fun _ p => deleteLeases p
  expire := fun _ _ _ => updateOperations fun _ op => by
    unfold expireOperation
    split
    · exact .refl op
    · exact ⟨rfl, rfl, fun _ => rfl, fun _ => rfl⟩
  lost := fun _ _ _ => updateOperations fun _ _ => ⟨rfl, rfl, fun _ => rfl, fun _ => rfl⟩
  setRate := fun _ _ _ _ => setRate

theorem seedRates [RateArith F] (view : View (Db F)) (clientID : Int) :
    Writes id own (newRateLocks clientID [.rpm, .tpm] view) (seedRates view clientID) := by
  unfold PostgresAdmission.seedRates
  rcases view.snapshot.configuration.clients clientID with _ | client
  · exact id'
  have h : Admits (Writes (F := F) id own) := admits
  have hrpm := h.seedRate view clientID
    (show RateKind.rpm ∈ [.rpm, .tpm] by decide) client.revision client.requestsPerMinute
  have htpm := h.seedRate view clientID
    (show RateKind.tpm ∈ [.rpm, .tpm] by decide) client.revision client.tokensPerMinute
  exact (htpm.comp hrpm).of_subset
    (List.append_subset.mpr ⟨List.Subset.refl _, List.Subset.refl _⟩)

end Writes

/-- A transaction that consists of such writes. -/
def Consists (id : UUID) (own : Option AdmissionRequest) (p : Tx F) : Prop :=
  p.Each (Writes id own) fun _ => True

section

variable {own : Option AdmissionRequest} {p : Tx F} {r : AdmissionRequest}

/-- A transaction of others, and the renewals, replays and expiries of the lease itself. -/
theorem upholds_of_consists [RateArith F] {task : Task} {w : Db F → Db F}
    (hending : ending id task.transaction = none) (hp : Consists id none p)
    (hw : Writes id none held w) (db : Db F) (t : Int) :
    (contract F id).Upholds task p held w db t := by
  refine .of_each (Q := fun held w _ => Writes id none held w) (fun _ _ _ _ hw _ => hw)
    (fun _ _ _ _ _ hw hwrite => hwrite.comp hw) ?_ hp hw t
  intro held w db' t' outcome hw _ _
  have hreceipt : ∀ op, db'.operations.lookup id = some op →
      ∃ op', (w db').operations.lookup id = some op' ∧ Inherits True True op op' := by
    intro op hop
    obtain ⟨op', hop', hinherits⟩ := hw.receipt db' op hop
    exact ⟨op', hop', hinherits.mono (fun _ => rfl) fun h => h⟩
  refine ⟨fun _ => ⟨⟨?_, fun _ => hw.absent db', hw.rate db', hw.seeded db'⟩, ?_⟩, trivial⟩
  · intro op hop
    obtain ⟨op', hop', hinherits⟩ := hreceipt op hop
    exact ⟨op', hop', hinherits.mono (fun h => h) fun _ => trivial⟩
  · simp only [Effect, hending]
    refine ⟨hreceipt, fun op' hnone hop' => ?_, fun row' hrow' => ?_⟩
    · rw [hw.absent db' hnone] at hop'
      cases hop'
    · rcases hw.lease db' row' hrow' with hold | ⟨r, hr, -⟩
      · exact .inl hold
      · cases hr

theorem consists_renew (leases : List LeaseIdentity) : Consists id own (renew leases : Tx F) := by
  have h : Admits (Writes (F := F) id own) := Writes.admits
  have hexpire : ∀ ids now results, Consists id own (renewExpire ids now results : Tx F) :=
    fun ids now _ view =>
      ⟨(h.expire _ _ now).comp (.deleteLeases _ : Writes id own [] _), trivial⟩
  unfold renew
  split
  · trivial
  refine h.read fun owned => h.lock fun _ => h.lock fun _ => h.lock fun _ => h.lock fun _ =>
    h.read fun clock => h.read fun current => ?_
  unfold renewStored
  dsimp only
  split
  · exact fun _ => ⟨.updateExpiries _, hexpire _ _ _⟩
  · exact hexpire _ _ _

theorem consists_rejectAcquire (hr : Concerns id own r) (reason : Reason) (retry : Option Int)
    (now : Int) (scopes : Option AdmissionScope) :
    Consists id own (rejectAcquire r.leaseID reason retry now scopes : Tx F) :=
  fun _ => ⟨.decide hr fun _ => ⟨rfl, rfl, False.elim, fun _ => rfl⟩, trivial⟩

theorem consists_grantLease (hr : Concerns id own r) (priorityClass : PriorityClass) (now : Int) :
    Consists id own (grantLease r priorityClass now : Tx F) := by
  refine fun view => ⟨.insertLease hr rfl rfl, ?_⟩
  beta_reduce
  split
  · trivial
  · exact fun _ => ⟨.decide hr fun _ => ⟨rfl, rfl, False.elim, fun _ => rfl⟩, trivial⟩

variable [RateArith F]

theorem consists_acquireRPM (hr : Concerns id own r) (client : ClientRow) (now : Int) :
    Consists id own (acquireRPM r client now : Tx F) := by
  unfold acquireRPM
  split
  · refine Writes.admits.normalizeRate fun ok retry => ?_
    split
    · exact consists_grantLease hr _ _
    · exact consists_rejectAcquire hr _ _ _ _
  · exact consists_grantLease hr _ _

theorem consists_acquireCreated (hr : Concerns id own r) :
    Consists id own (acquireCreated r : Tx F) := by
  have h : Admits (Writes (F := F) id own) := Writes.admits
  refine h.lock fun _ => h.lock fun _ => h.read fun configuration => fun view =>
    ⟨.seedRates view r.clientID, h.lock fun _ => h.read fun counts => ?_⟩
  unfold acquireCounted
  split
  · exact consists_rejectAcquire hr _ _ _ _
  next client _ =>
  unfold acquireTPM
  split
  · refine Writes.admits.normalizeRate fun ok retry => ?_
    split
    · exact consists_acquireRPM hr _ _
    · exact consists_rejectAcquire hr _ _ _ _
  · exact consists_acquireRPM hr _ _

end

/-! ## Acquisitions -/

/-- A new acquisition under way: it holds the lock on its receipt, which nobody else
    has created, and its first write was to create it. -/
structure Created (fingerprint : Nat) (r : AdmissionRequest) (held : List RowLock)
    (w : Db F → Db F) (db : Db F) : Prop where
  locked : .operation r.leaseID ∈ held
  absent : db.operations.lookup r.leaseID = none
  built : ∃ write, Writes r.leaseID (some r) held write ∧ ∀ db, w db = write
    { db with operations := db.operations.insert r.leaseID (pendingOperation fingerprint r) }

section

variable {fingerprint : Nat} {r : AdmissionRequest} {w : Db F → Db F}

theorem Created.commit (h : Created fingerprint r held w db) :
    Frame r.leaseID (· ∈ held) db (w db) ∧ Opens r.leaseID db (w db) := by
  obtain ⟨write, hwrites, hw⟩ := h.built
  let start : Db F :=
    { db with operations := db.operations.insert r.leaseID (pendingOperation fingerprint r) }
  -- the other writes come after the insert, so they find the pending receipt
  obtain ⟨op, hop, hinherits⟩ := hwrites.receipt start (pendingOperation fingerprint r)
    (AList.lookup_insert _)
  have hnone : ∀ op', db.operations.lookup r.leaseID ≠ some op' := by
    intro op' hop'
    rw [h.absent] at hop'
    cases hop'
  rw [show w db = write start from hw db]
  refine ⟨⟨fun op' hop' => absurd hop' (hnone op'), fun hnot => absurd h.locked hnot,
    hwrites.rate start, hwrites.seeded start⟩, fun op' hop' => absurd hop' (hnone op'), ?_, ?_⟩
  · intro op' _ hop'
    rw [hop] at hop'
    cases hop'
    exact hinherits.completedAt trivial
  · intro row' hrow'
    rcases hwrites.lease start row' hrow' with hold | ⟨r', hr', hclient, hpool⟩
    · exact .inl hold
    · cases hr'
      exact .inr ⟨h.absent, op, hop, hclient.trans hinherits.clientID.symm,
        hpool.trans hinherits.poolID.symm⟩

variable [RateArith F] {found : Bool}

theorem upholds_of_created {p : Tx F} (hp : Consists r.leaseID (some r) p)
    (h : Created fingerprint r held w db) (t : Int) :
    (contract F r.leaseID).Upholds ⟨.acquire r, found⟩ p held w db t := by
  refine .of_each (Q := Created fingerprint r) ?_ ?_ ?_ hp h t
  · intro held w db db' h hrely
    exact ⟨h.locked, hrely.absent (fun hnot => hnot h.locked) h.absent, h.built⟩
  · intro held w db locks write h hwrite
    obtain ⟨hlocked, habsent, built, hbuilt, hw⟩ := h
    exact ⟨List.mem_append_left _ hlocked, habsent, _, hwrite.comp hbuilt,
      fun db => congrArg write (hw db)⟩
  · exact fun _ _ _ _ _ h _ _ => ⟨fun _ => h.commit, trivial⟩

/-- An acquisition opens a receipt with its lease, or answers from the receipt there is. -/
theorem upholds_acquire (fingerprint : AdmissionRequest → Nat) (db : Db F) (t : Int) :
    (contract F id).Upholds ⟨.acquire r, found⟩ (acquire fingerprint r) [] (fun db => db) db t := by
  intro snap t₀ cur now t₁ _ _ _ _ _ _
  show (contract F id).Upholds _ (if (cur.operations.lookup r.leaseID).isNone then _ else _)
    ([] ++ if (cur.operations.lookup r.leaseID).isNone then _ else _)
    (fun db => insertOperation (fingerprint r) r ⟨snap, cur, now⟩ db) _ _
  by_cases hnone : (cur.operations.lookup r.leaseID).isNone
  · -- the insert creates the receipt and holds its key
    have hinsert : ∀ db, insertOperation (fingerprint r) r ⟨snap, cur, now⟩ db = { db with
        operations := db.operations.insert r.leaseID (pendingOperation (fingerprint r) r) } :=
      fun db => if_pos hnone
    rw [if_pos hnone, if_pos hnone]
    by_cases hid : r.leaseID = id
    · subst hid
      exact upholds_of_created (consists_acquireCreated fun _ => rfl)
        ⟨List.mem_singleton.mpr rfl, Option.isNone_iff_eq_none.mp hnone, _, .id', hinsert⟩ t₁
    · refine upholds_of_consists rfl (consists_acquireCreated fun h => absurd h hid) ?_ _ _
      have hne : id ≠ r.leaseID := fun h => hid h.symm
      simp only [hinsert]
      refine ⟨fun db h => ?_, fun db op h => ⟨op, ?_, .refl op⟩,
        fun _ row h => .inl ⟨row, h, rfl, rfl⟩, fun _ _ _ _ => rfl, fun _ _ _ h => h⟩
      · exact (AList.lookup_insert_ne hne).trans h
      · exact (AList.lookup_insert_ne hne).trans h
  · -- the answer comes from the receipt there is
    rw [if_neg hnone, if_neg hnone]
    have hsame : (fun db : Db F => insertOperation (fingerprint r) r ⟨snap, cur, now⟩ db)
        = fun db => db := funext fun db => if_neg hnone
    rw [hsame]
    exact upholds_of_consists rfl (Writes.admits.resolveAcquire (fun _ => trivial) _ _) .id' _ _

end

/-! ## Completions -/

/-- A completion that has found its receipt open, under the lock on the receipt. -/
structure Open (id : UUID) (seen : OperationRow) (held : List RowLock) (db : Db F) : Prop where
  locked : .operation id ∈ held
  receipt : ∃ op, db.operations.lookup id = some op ∧ Inherits True False seen op ∧
    op.completedAt = none

variable {seen : OperationRow}

theorem Open.relied (h : Open id seen held db) (hrely : Frame id (· ∉ held) db db') :
    Open id seen held db' := by
  obtain ⟨op, hop, hinherits, hopen⟩ := h.receipt
  obtain ⟨op', hop', hinherits'⟩ := hrely.receipt op hop
  exact ⟨h.locked, op', hop', hinherits.trans (hinherits'.mono (fun h => h) False.elim),
    (hinherits'.completedAt fun hnot => hnot h.locked).trans hopen⟩

theorem Open.stmt (h : Open id seen held db) (locks : List RowLock) :
    Open id seen (held ++ locks) db :=
  ⟨List.mem_append_left _ h.locked, h.receipt⟩

section Completions

variable [RateArith F] {client : ClientRow} {clientID now : Int} {item : LeaseCompletion}
  {w : Db F → Db F} {result : CompleteResult} {fingerprint : AdmissionRequest → Nat}
  {charge : Option (TokenUsage × ClientRow)} {found : Bool}

/-- A completion that has charged the usage, and has written nothing else. -/
structure Charged (item : LeaseCompletion) (seen : OperationRow)
    (charge : Option (TokenUsage × ClientRow)) (now : Int) (held : List RowLock) (w : Db F → Db F)
    (db : Db F) : Prop where
  isOpen : Open item.lease.leaseID seen held db
  usage : ∀ c ∈ charge, item.usage = some c.1
  writes : ∀ db', Frame item.lease.leaseID (· ∉ held) db db' →
    w db' = charged charge seen.clientID now db'
  locked : charge = none ∨ .rate seen.clientID .tpm ∈ held

theorem Charged.stmt (h : Charged item seen charge now held w db)
    (hrely : Frame item.lease.leaseID (· ∉ held) db db') (locks : List RowLock) :
    Charged item seen charge now (held ++ locks) w db' :=
  ⟨(h.isOpen.relied hrely).stmt locks, h.usage,
    fun db'' hrely' => h.writes db'' (hrely.trans hrely'.weaken),
    h.locked.imp_right (List.mem_append_left _)⟩

/-- Charging is a write like any other. -/
theorem writes_charged (own : Option AdmissionRequest)
    (h : charge = none ∨ .rate clientID .tpm ∈ held) :
    Writes (F := F) id own held (charged charge clientID now) := by
  refine Writes.admits.pointwise _ _ fun db => ?_
  rcases charge with _ | ⟨tokens, client⟩
  · exact ⟨_, .id', rfl⟩
  · exact ⟨_, .setRate (h.resolve_left (by simp)), rfl⟩

theorem guar_completes (hframe : Frame item.lease.leaseID (· ∈ held) db db')
    (hcompletes : Completes item found result db db') :
    (contract F item.lease.leaseID).guar ⟨.completeOne item, found⟩ held (.completed result)
      db db' := by
  refine fun _ => ⟨hframe, ?_⟩
  simp only [Effect, ending, if_true]
  exact ⟨result, rfl, hcompletes⟩

/-- The last statements of a completion commit what an undisturbed completion would. -/
theorem upholds_completeRelease (charge : Option (TokenUsage × ClientRow))
    (hadmitted : seen.decision = .admitted) (lease : Option LeaseRow)
    (h : Charged item seen charge now held w db) (t : Int) :
    (contract F item.lease.leaseID).Upholds ⟨.completeOne item, found⟩
      (completeRelease item.lease.leaseID seen.clientID seen.poolID now (completionOf lease now))
      held w db t := by
  intro snap₁ _ cur₁ now₁ _ _ hsnap₁ _ _ _ hcur₁
  have h₁ := h.stmt (hsnap₁.trans hcur₁) (leaseLocks [item.lease.leaseID] ⟨w snap₁, w cur₁, now₁⟩)
  intro snap₂ _ cur₂ _ _ _ hsnap₂ _ _ _ hcur₂
  have h₂ := h₁.stmt (hsnap₂.trans hcur₂) [.operation item.lease.leaseID]
  -- the writes are applied at the commit, where the locked receipt is still open
  intro db' _ _ hrely _
  obtain ⟨op, hop, hinherits, hopen⟩ := (h₂.isOpen.relied hrely).receipt
  have hwrites : Writes item.lease.leaseID none _ (charged (F := F) charge _ now) :=
    writes_charged none h₂.locked
  obtain ⟨op', hop', hinherits'⟩ := hwrites.receipt db' op hop
  refine ⟨guar_completes ⟨?_, ?_, ?_, ?_⟩ (.applied op now lease charge hop
    ((hinherits.decision trivial).trans hadmitted) hopen h.usage ?_ rfl), trivial⟩
  all_goals beta_reduce; rw [h₂.writes db' hrely]
  · intro before hbefore
    rw [hop] at hbefore
    cases hbefore
    refine ⟨completedOperation now (completionOf lease now) op', ?_,
      ⟨hinherits'.clientID, hinherits'.poolID, fun _ => hinherits'.decision rfl,
        fun hnot => absurd h₂.isOpen.locked hnot⟩⟩
    rw [lookup_updateOperation, if_pos rfl]
    exact congrArg (Option.map _) hop'
  · exact fun hnot => absurd h₂.isOpen.locked hnot
  · exact hwrites.rate db'
  · exact hwrites.seeded db'
  · rw [hinherits.clientID, hinherits.poolID]

theorem upholds_uncharged (hadmitted : seen.decision = .admitted) (lease : Option LeaseRow)
    (h : Open item.lease.leaseID seen held db) (t : Int) :
    (contract F item.lease.leaseID).Upholds ⟨.completeOne item, found⟩
      (completeAt item.lease.leaseID seen.clientID seen.poolID lease none) held (fun db => db)
      db t := by
  refine Contract.Upholds.read fun snap _ cur now _ _ hsnap _ _ _ hcur => ?_
  exact upholds_completeRelease none hadmitted lease
    ⟨h.relied (hsnap.trans hcur), fun _ => nofun, fun _ _ => rfl, .inl rfl⟩ _

/-- A completion that has made sure of the bucket and has it locked. -/
structure Bucketed (id : UUID) (clientID : Int) (client : ClientRow) (held : List RowLock)
    (w : Db F → Db F) (db : Db F) : Prop where
  locked : .rate clientID .tpm ∈ held
  read : ∀ db', Frame id (· ∉ held) db db' →
    (w db').rates clientID .tpm = some (bucket clientID client db')

/-- Nobody changes a locked bucket. -/
theorem Bucketed.bucket_eq (h : Bucketed id clientID client held w db)
    (hrely : Frame id (· ∉ held) db db') :
    bucket clientID client db' = bucket clientID client db := by
  unfold bucket
  rw [hrely.rate _ _ fun hnot => hnot h.locked]

/-- Seeding and locking.  If there was no bucket, the insert holds the key and nobody
    else can create it; if there was one, it stays and is locked next. -/
theorem bucketed_of_seed {snap cur snap' cur' : Db F} {now' : Int}
    (hlimit : 0 < client.tokensPerMinute)
    (hrely : Frame id (· ∉ held ++ newRateLocks clientID [.tpm] ⟨snap, cur, now⟩) cur cur')
    (hw : w = seedRate ⟨snap, cur, now⟩ clientID .tpm client.revision client.tokensPerMinute) :
    Bucketed id clientID client (held ++ newRateLocks clientID [.tpm] ⟨snap, cur, now⟩ ++
      rateLocks clientID [.tpm] ⟨w snap', w cur', now'⟩) w cur' := by
  cases hrate : cur.rates clientID .tpm with
  | none =>
    have hseed : ∀ db, w db
        = setRate clientID .tpm (seededRow client.revision client.tokensPerMinute) db :=
      fun db => (congrFun hw db).trans (if_pos ⟨hlimit, hrate⟩)
    have hlocked : RowLock.rate clientID .tpm
        ∈ held ++ newRateLocks clientID [.tpm] ⟨snap, cur, now⟩ :=
      List.mem_append_right held (by simp [newRateLocks, hrate])
    refine ⟨List.mem_append_left _ hlocked, fun db' hrely' => ?_⟩
    have hnone : db'.rates clientID .tpm = none := by
      rw [hrely'.weaken.rate _ _ fun hnot => hnot hlocked,
        hrely.rate _ _ fun hnot => hnot hlocked, hrate]
    rw [hseed, setRate_rates_self, bucket, hnone]
    rfl
  | some row =>
    have hseed : ∀ db, w db = db := by
      intro db
      rw [hw]
      exact if_neg (by simp [hrate])
    have hsome : (cur'.rates clientID .tpm).isSome := hrely.seeded _ _ (by rw [hrate]; rfl)
    refine ⟨List.mem_append_right _ ?_, fun db' hrely' => ?_⟩
    · rw [hseed cur']
      simp [rateLocks, hsome]
    · obtain ⟨row', hrow'⟩ := Option.isSome_iff_exists.mp (hrely'.seeded _ _ hsome)
      rw [hseed, bucket, hrow']
      rfl

theorem upholds_charged {tokens : TokenUsage} (hadmitted : seen.decision = .admitted)
    (lease : Option LeaseRow) (hopen : Open item.lease.leaseID seen held db)
    (hbucket : Bucketed item.lease.leaseID seen.clientID client held w db)
    (hover : ∀ row db, setRate seen.clientID .tpm row (w db) = setRate seen.clientID .tpm row db)
    (husage : item.usage = some tokens) (t : Int) :
    (contract F item.lease.leaseID).Upholds ⟨.completeOne item, found⟩
      (completeAt item.lease.leaseID seen.clientID seen.poolID lease (some (tokens, client)))
      held w db t := by
  refine Contract.Upholds.read fun snap₁ _ cur₁ now _ _ hsnap₁ _ _ _ hcur₁ => ?_
  refine Contract.Upholds.read fun snap₂ _ cur₂ _ _ _ hsnap₂ _ _ _ hcur₂ => ?_
  have hrely₁ := hsnap₁.trans hcur₁
  simp only [hbucket.read snap₂ (hrely₁.trans hsnap₂)]
  intro snap₃ _ cur₃ _ _ _ hsnap₃ _ _ _ hcur₃ snap₄ _ cur₄ _ _ _ hsnap₄ _ _ _ hcur₄
  -- what is relied on from the start of the two writes to the end
  have hrely₂ := hrely₁.trans (hsnap₂.trans hcur₂)
  have hrely₃ := hrely₂.trans (hsnap₃.trans hcur₃)
  have hrely₄ := hrely₃.trans (hsnap₄.trans hcur₄).weaken
  refine upholds_completeRelease (some (tokens, client)) hadmitted lease
    ⟨((hopen.relied hrely₄).stmt _).stmt _, ?_, ?_,
      .inr (List.mem_append_left _ (List.mem_append_left _ hbucket.locked))⟩ _
  · intro c hc
    cases hc
    exact husage
  · intro db' hrely'
    have hrely := hrely₄.trans hrely'.weaken.weaken
    have hrow : bucket seen.clientID client snap₂ = bucket seen.clientID client db' :=
      (hbucket.bucket_eq (hrely₁.trans hsnap₂)).trans (hbucket.bucket_eq hrely).symm
    show chargeRate seen.clientID now tokens (setRate seen.clientID .tpm _ (w db')) = _
    rw [chargeRate_normalized, hover, hrow]
    rfl

/-- A completion whose receipt is open. -/
theorem upholds_completeLocked (hadmitted : seen.decision = .admitted) (lease : Option LeaseRow)
    (h : Open item.lease.leaseID seen held db) (t : Int) :
    (contract F item.lease.leaseID).Upholds ⟨.completeOne item, found⟩
      (completeLocked item seen.clientID seen.poolID lease) held (fun db => db) db t := by
  unfold completeLocked
  dsimp only
  split
  · exact upholds_uncharged hadmitted lease h t
  next tokens husage =>
  split
  · refine Contract.Upholds.read fun snap _ cur _ t₁ _ hsnap _ _ _ hcur => ?_
    have hopen := h.relied (hsnap.trans hcur)
    -- the client row is the one of this moment; nobody keeps it from changing later
    split
    · exact upholds_uncharged hadmitted lease hopen t₁
    next client _ =>
    split
    · next hlimit =>
      intro snap₁ _ cur₁ now₁ _ _ hsnap₁ _ _ _ hcur₁
      refine Contract.Upholds.lock fun snap₂ _ cur₂ now₂ _ _ hsnap₂ _ _ _ hcur₂ => ?_
      have hrely := (hsnap₁.trans hcur₁).trans (hsnap₂.trans hcur₂).weaken
      exact upholds_charged hadmitted lease (((hopen.relied hrely).stmt _).stmt _)
        (bucketed_of_seed hlimit (hsnap₂.trans hcur₂) rfl)
        (fun row db => setRate_seedRate _ _ _ _ _ row db) husage _
    · exact upholds_uncharged hadmitted lease hopen t₁
  · exact upholds_uncharged hadmitted lease h t

omit [RateArith F] in
/-- The receipt a completion has seen is still there, with the same owner. -/
theorem seen_relied
    (h : ∃ op, db.operations.lookup id = some op ∧ Inherits True False seen op)
    (hrely : Frame id (· ∉ held) db db') :
    ∃ op, db'.operations.lookup id = some op ∧ Inherits True False seen op := by
  obtain ⟨op, hop, hinherits⟩ := h
  obtain ⟨op', hop', hinherits'⟩ := hrely.receipt op hop
  exact ⟨op', hop', hinherits.trans (hinherits'.mono (fun h => h) False.elim)⟩

/-- **A completion commits what it would on its own**, whatever runs beside it.  It finds the
    receipt that was there when it began. -/
theorem upholds_completeOne (item : LeaseCompletion) (db : Db F) (t : Int)
    (hfound : found = true → (db.operations.lookup item.lease.leaseID).isSome) :
    (contract F item.lease.leaseID).Upholds ⟨.completeOne item, found⟩ (completeOne item) []
      (fun db => db) db t := by
  refine Contract.Upholds.read fun snap _ cur _ t₁ _ hsnap _ _ _ hcur => ?_
  rcases hseen : snap.operations.lookup item.lease.leaseID with _ | seen
  · -- a receipt that was there at the begin would have been seen
    have hnone : found = false := by
      refine Bool.eq_false_iff.mpr fun hf => ?_
      obtain ⟨op, hop⟩ := Option.isSome_iff_exists.mp (hfound hf)
      obtain ⟨op', hop', -⟩ := hsnap.receipt op hop
      rw [hseen] at hop'
      cases hop'
    intro db' _ _ _ _
    exact ⟨guar_completes (.of_eq rfl rfl) (.stale hnone rfl rfl), trivial⟩
  have hfirst := seen_relied ⟨seen, hseen, .refl seen⟩ hcur
  dsimp only
  split
  · next hrejected =>
    intro db' _ _ hrely _
    obtain ⟨op, hop, hinherits⟩ := seen_relied hfirst hrely
    exact ⟨guar_completes (.of_eq rfl rfl)
      (.lost op hop (by rwa [hinherits.decision trivial]) rfl rfl), trivial⟩
  next hadmitted =>
  have hadmitted : seen.decision = .admitted := not_not.mp hadmitted
  refine Contract.Upholds.lock fun snap₁ _ cur₁ _ _ _ hsnap₁ _ _ _ hcur₁ => ?_
  refine Contract.Upholds.lock fun snap₂ _ cur₂ _ _ _ hsnap₂ _ _ _ hcur₂ => ?_
  refine Contract.Upholds.lock fun snap₃ _ cur₃ _ _ _ hsnap₃ _ _ _ hcur₃ => ?_
  refine Contract.Upholds.lock fun snap₄ _ cur₄ now₄ _ _ hsnap₄ _ _ _ hcur₄ => ?_
  -- while the locks on pool, client and lease were waited for, the receipt may have been completed
  have hthird := seen_relied (seen_relied (seen_relied hfirst (hsnap₁.trans hcur₁))
    (hsnap₂.trans hcur₂)) (hsnap₃.trans hcur₃)
  obtain ⟨before, hbefore, -⟩ := seen_relied hthird hsnap₄
  obtain ⟨stored, hstored, hinherits⟩ := seen_relied (seen_relied hthird hsnap₄) hcur₄
  have hread : lockedOperation ⟨snap₄, cur₄, now₄⟩ item.lease.leaseID = some stored := by
    simp [lockedOperation, hbefore, hstored]
  have hlocked : RowLock.operation item.lease.leaseID
      ∈ operationLocks [item.lease.leaseID] ⟨snap₄, cur₄, now₄⟩ := by
    simp [operationLocks, hbefore, hstored]
  rw [hread]
  dsimp only
  split
  · next hcompleted =>
    rcases stored.completionResult with _ | original
    · trivial
    -- nobody takes back the completion of a locked receipt
    intro db' _ _ hrely _
    obtain ⟨op, hop, hinherits'⟩ := hrely.receipt stored hstored
    refine ⟨guar_completes (.of_eq rfl rfl) (.repeated op original hop ?_ ?_ rfl rfl), trivial⟩
    · exact (hinherits'.decision trivial).trans ((hinherits.decision trivial).trans hadmitted)
    · rwa [hinherits'.completedAt fun hnot => hnot (List.mem_append_right _ hlocked)]
  · next hopen =>
    refine upholds_completeLocked hadmitted _ ⟨List.mem_append_right _ hlocked, stored, hstored,
      hinherits, ?_⟩ _
    simpa using hopen

/-! ## The coordinator -/

/-- A completion records whether there is a receipt for it when it begins. -/
def Task.Records (task : Task) (db : Db F) : Prop :=
  ∀ item, task.transaction = .completeOne item →
    task.found = (db.operations.lookup item.lease.leaseID).isSome

/-- The cleanup of receipts leaves a receipt alone that it does not delete. -/
theorem upholds_cleanupAdmissionReceipts (batch : Nat) (skipped : UUID → Bool) (db : Db F)
    (t : Int) : (contract F id).Upholds ⟨.cleanupAdmissionReceipts batch skipped, found⟩
      (cleanupAdmissionReceipts batch skipped) [] (fun db => db) db t := by
  refine Contract.Upholds.lock fun snap _ cur now t₁ _ _ _ _ _ _ => ?_
  unfold deleteReceipts
  split
  · exact upholds_of_consists (p := .commit _) rfl trivial .id' _ _
  refine Contract.Upholds.read fun snap' _ cur' now' _ _ _ _ _ _ _ => ?_
  intro snap'' _ cur'' now'' _ _ _ _ _ _ _ db' _ _ _ _
  refine ⟨fun hkept => ?_, trivial⟩
  have hkept := hkept ⟨batch, skipped, rfl⟩
  unfold Kept at hkept
  -- a filter keeps a row as it is or drops it
  have hsame : ∀ keep : UUID → OperationRow → Bool,
      ((db'.operations.lookup id).isSome →
        ((Table.filter keep db'.operations).lookup id).isSome) →
      (Table.filter keep db'.operations).lookup id = db'.operations.lookup id := by
    intro keep hkeep
    rw [Table.lookup_filter] at hkeep ⊢
    cases hop : db'.operations.lookup id with
    | none => rfl
    | some op =>
      rw [hop] at hkeep
      simpa [Option.filter_some] using hkeep rfl
  have hlookup := hsame _ hkept
  refine ⟨⟨fun op hop => ⟨op, hlookup.trans hop, .refl op⟩, fun _ hnone => hlookup.trans hnone,
    fun _ _ _ => rfl, fun _ _ h => h⟩, ?_⟩
  refine ⟨fun op hop => ⟨op, hlookup.trans hop, .refl op⟩, fun op' hnone hop' => ?_,
    fun row hrow => .inl ⟨row, hrow, rfl, rfl⟩⟩
  rw [hlookup, hnone] at hop'
  cases hop'

theorem upholds_task (fingerprint : AdmissionRequest → Nat) (task : Task) (db : Db F) (t : Int)
    (hrecords : task.Records db) :
    (contract F id).Upholds task (transaction fingerprint task.transaction) [] (fun db => db)
      db t := by
  obtain ⟨kind, found⟩ := task
  cases kind with
  | acquire r => exact upholds_acquire fingerprint db t
  | renew leases => exact upholds_of_consists rfl (consists_renew leases) .id' db t
  | completeOne item =>
    by_cases hid : item.lease.leaseID = id
    · subst hid
      refine upholds_completeOne item db t fun hfound => ?_
      rw [← hrecords item rfl]
      exact hfound
    · refine upholds_of_consists (by simp [ending, hid]) (Writes.admits.completeOne
        (fun _ => trivial) fun _ _ _ => ?_) .id' db t
      exact .updateOperations fun h => absurd (of_decide_eq_true h).symm hid
  | cleanupExpired items =>
    exact upholds_of_consists rfl (Writes.admits.cleanupExpired (fun _ => trivial) items) .id' db t
  | cleanupAdmissionReceipts batch skipped =>
    exact upholds_cleanupAdmissionReceipts batch skipped db t

/-- What a stored receipt says about the lease. -/
def receiptOf (op : OperationRow) : Receipt :=
  if op.decision ≠ .admitted then .rejected
  else if op.completedAt.isSome then .completed else .granted

/-- The account of a lease in the committed tables. -/
def accountOf (db : Db F) (id : UUID) : Account where
  receipt := (db.operations.lookup id).map receiptOf
  slot := (db.leases.lookup id).isSome

/-- The lease has a receipt with the same owner, so a completion deletes it. -/
def LeaseOwned (id : UUID) (db : Db F) : Prop :=
  ∀ row, db.leases.lookup id = some row → ∃ op, db.operations.lookup id = some op ∧
    row.clientID = op.clientID ∧ row.poolID = op.poolID

omit [RateArith F] in
theorem Opens.owned (h : Opens id db db') (howned : LeaseOwned id db) : LeaseOwned id db' := by
  intro row' hrow'
  rcases h.lease row' hrow' with ⟨row, hrow, hclient, hpool⟩ | ⟨-, op', hop', hclient, hpool⟩
  · obtain ⟨op, hop, hclient', hpool'⟩ := howned row hrow
    obtain ⟨op', hop', hinherits⟩ := h.receipt op hop
    exact ⟨op', hop', (hclient.trans hclient').trans hinherits.clientID.symm,
      (hpool.trans hpool').trans hinherits.poolID.symm⟩
  · exact ⟨op', hop', hclient, hpool⟩

omit [RateArith F] in
theorem Opens.ages (h : Opens id db db') : (accountOf db id).Ages (accountOf db' id) := by
  refine ⟨?_, ?_, ?_⟩
  · intro receipt hreceipt
    obtain ⟨op, hop, heq⟩ := Option.map_eq_some_iff.mp hreceipt
    obtain ⟨op', hop', hinherits⟩ := h.receipt op hop
    show (db'.operations.lookup id).map receiptOf = some receipt
    rw [hop', Option.map_some, receiptOf, hinherits.decision trivial,
      hinherits.completedAt trivial, ← receiptOf, heq]
  · intro hnone hcompleted
    obtain ⟨op', hop', heq⟩ := Option.map_eq_some_iff.mp hcompleted
    have hopen := h.opened op' (Option.map_eq_none_iff.mp hnone) hop'
    unfold receiptOf at heq
    rw [hopen] at heq
    split at heq <;> cases heq
  · intro hslot
    obtain ⟨row', hrow'⟩ := Option.isSome_iff_exists.mp hslot
    rcases h.lease row' hrow' with ⟨row, hrow, -, -⟩ | ⟨hnone, -⟩
    · exact .inl (Option.isSome_iff_exists.mpr ⟨row, hrow⟩)
    · exact .inr (Option.map_eq_none_iff.mpr hnone)

omit [RateArith F] in
theorem completionOf_ne (lease : Option LeaseRow) (now : Int) :
    completionOf lease now ≠ .alreadyCompleted := by
  unfold completionOf
  cases lease with
  | none => simp
  | some row =>
    dsimp only
    split <;> simp

/-- What an entry says of the buckets: a usage is debited when they change. -/
def Debits (e : Entry) (db db' : Db F) : Prop :=
  db'.rates = db.rates ∧ e.debits = [] ∨
    db'.rates ≠ db.rates ∧ e.debits = e.completion.usage.toList

section

variable (h : Completes item found result db db')

include h

/-- When a completion changes the buckets, its usage is charged, to the one bucket of the
    lease's client, on top of what is stored at the commit. -/
theorem Completes.charges (hne : db'.rates ≠ db.rates) :
    ∃ op tokens client now, db.operations.lookup item.lease.leaseID = some op ∧
      item.usage = some tokens ∧ db'.rates = (setRate op.clientID .tpm
        (chargedRow (bucket op.clientID client db) client now tokens) db).rates := by
  cases h with
  | applied op now lease charge hop hadmitted hopen hcharge hdb hresult =>
    rcases charge with _ | ⟨tokens, client⟩
    · rw [hdb] at hne
      exact absurd rfl hne
    · exact ⟨op, tokens, client, now, hop, hcharge _ rfl, by rw [hdb]; rfl⟩
  | repeated _ _ _ _ _ hdb | lost _ _ _ hdb | stale _ hdb => exact absurd (by rw [hdb]) hne

/-- The commit of a completion is what the lease manager expects of one. -/
theorem Completes.processes (howned : LeaseOwned item.lease.leaseID db) {e : Entry}
    (hcompletion : e.completion = item) (hresult : e.result = result) (hfound : e.found = found)
    (hdebits : Debits e db db') :
    LeaseOwned item.lease.leaseID db' ∧ Processes item.lease.leaseID e
      (accountOf db item.lease.leaseID) (accountOf db' item.lease.leaseID) := by
  have hid : e.leaseID = item.lease.leaseID := congrArg (·.lease.leaseID) hcompletion
  have hreceipt : ∀ op, db.operations.lookup item.lease.leaseID = some op →
      (accountOf db item.lease.leaseID).receipt = some (receiptOf op) := by
    intro op hop
    rw [accountOf, hop]
    rfl
  have hsame : db' = db → e.debits = [] := by
    rintro rfl
    exact hdebits.elim (·.2) fun h => absurd rfl h.1
  subst hresult hfound
  cases h with
  | applied op now lease charge hop hadmitted hopen hcharge hdb hresult =>
    have hcharged : (charged charge op.clientID now db).leases = db.leases ∧
        (charged charge op.clientID now db).operations = db.operations := by
      rcases charge with _ | ⟨tokens, client⟩ <;> exact ⟨rfl, rfl⟩
    -- the lease had the owner of its receipt, so the delete found it
    have hslot : db'.leases.lookup item.lease.leaseID = none := by
      rw [hdb]
      show (deleteLease _ _ _ _).leases.lookup _ = none
      rw [deleteLease, lookup_deleteLeases, hcharged.1]
      cases hrow : db.leases.lookup item.lease.leaseID with
      | none => rfl
      | some row =>
        obtain ⟨op', hop', hclient, hpool⟩ := howned row hrow
        rw [hop] at hop'
        cases hop'
        simp [hclient, hpool]
    have hop' : db'.operations.lookup item.lease.leaseID
        = some (completedOperation now (completionOf lease now) op) := by
      rw [hdb, lookup_updateOperation, if_pos rfl]
      show ((charged charge op.clientID now db).operations.lookup _).map _ = _
      rw [hcharged.2, hop]
      rfl
    refine ⟨fun row hrow => ?_, .applied hid ⟨by rw [hresult], ?_⟩ ?_ ?_ ?_⟩
    · rw [hslot] at hrow
      cases hrow
    · rw [hresult]
      exact fun heq => completionOf_ne lease now (Option.some.inj heq)
    · exact (hreceipt op hop).trans (by simp [receiptOf, hadmitted, hopen])
    · simp [accountOf, hslot, hop', receiptOf, completedOperation, hadmitted]
    · rcases hdebits with ⟨-, hnone⟩ | ⟨-, hsome⟩
      · rw [hnone]
        exact List.nil_prefix
      · rw [hsome]
  | repeated op original hop hadmitted hcompleted hdb hresult =>
    subst hdb
    refine ⟨howned, .repeated hid ⟨by rw [hresult], by rw [hresult]⟩ ?_ (hsame rfl) rfl⟩
    exact (hreceipt op hop).trans (by simp [receiptOf, hadmitted, hcompleted])
  | lost op hop hrejected hdb hresult =>
    subst hdb
    refine ⟨howned, .refused hid (.inr ⟨by rw [hresult], ?_⟩) (hsame rfl) rfl⟩
    exact (hreceipt op hop).trans (by simp [receiptOf, hrejected])
  | stale hnone hdb hresult =>
    subst hdb
    exact ⟨howned, .refused hid (.inl ⟨by rw [hresult], hnone⟩) (hsame rfl) rfl⟩

end

/-- The database with the transactions under way. -/
abbrev Sessions (F : Type) : Type := State (Db F) RowLock Outcome Task

/-- Every transaction keeps the contract, and the lease has its receipt. -/
structure Serving (id : UUID) (s : Sessions F) : Prop where
  sound : (contract F id).Sound s
  owned : LeaseOwned id s.db

/-- A step of the transactions. -/
def TaskStep (fingerprint : AdmissionRequest → Nat) (s : Sessions F) (l : Label Task)
    (s' : Sessions F) : Prop :=
  Step (fun task => transaction fingerprint task.transaction) s l s' ∧
    ∀ i task, l = .begin i task → task.Records s.db

/-- The step is the commit of a completion. -/
def Completing (s : Sessions F) (l : Label Task) : Prop :=
  ∃ i item found σ, l = .commit i ∧ s.sessions i = some (⟨.completeOne item, found⟩, σ)

/-- A change of the configuration, or a step that is not the commit of a completion and does
    not delete the receipt of `id`. -/
def Background (id : UUID) (fingerprint : AdmissionRequest → Nat) (s s' : Sessions F) : Prop :=
  (∃ configuration, s' = { s with db := { s.db with configuration := configuration } }) ∨
  ∃ l, TaskStep fingerprint s l s' ∧ ¬ Completing s l ∧ Kept id s.db s'.db

/-- The commit of a completion. -/
def Process (s : Sessions F) (e : Entry) (s' : Sessions F) : Prop :=
  ∃ i σ, s.sessions i = some (⟨.completeOne e.completion, e.found⟩, σ) ∧
    σ.prog = .commit (.completed e.result) ∧ Debits e s.db (σ.pending s.db) ∧
    s' = { s.set i none with db := σ.pending s.db }

variable {s s' : Sessions F} {outcome : Outcome}

theorem Serving.step {l : Label Task} (h : Serving id s) (hstep : TaskStep fingerprint s l s')
    (hkept : ∀ i task σ, l = .commit i → s.sessions i = some (task, σ) → task.cleans →
      Kept id s.db s'.db) : (contract F id).Sound s' := by
  refine h.sound.step (fun i task hl => upholds_task fingerprint task s.db s.clock
    (hstep.2 i task hl)) hstep.1 ?_
  cases hstep.1 with
  | commit i task σ outcome hi hprog =>
    intro task' σ' result hi' _ _ _ _ _ _ hcleans
    cases hi.symm.trans hi'
    exact hkept i task σ rfl hi hcleans
  | _ => trivial

/-- A background step opens the receipt and releases the lease at most. -/
theorem Serving.background (h : Serving id s) (hstep : Background id fingerprint s s') :
    Serving id s' ∧ (accountOf s.db id).Ages (accountOf s'.db id) := by
  rcases hstep with ⟨configuration, rfl⟩ | ⟨l, hstep, hcompleting, hkept⟩
  · exact ⟨⟨h.sound.withDb trivial fun _ _ _ _ => .of_eq rfl rfl, h.owned⟩, .refl _⟩
  have hsound := h.step hstep fun _ _ _ _ _ _ => hkept
  cases hstep.1 with
  | commit i task σ outcome hi hprog =>
    have heffect := ((h.sound.commit_guar hi hprog).1 fun _ => hkept).2
    have hopens : Opens id s.db (σ.pending s.db) := by
      obtain ⟨kind, found⟩ := task
      cases kind with
      | completeOne item => exact absurd ⟨i, item, found, σ, rfl, hi⟩ hcompleting
      | _ => exact heffect
    exact ⟨⟨hsound, hopens.owned h.owned⟩, hopens.ages⟩
  | _ => exact ⟨⟨hsound, h.owned⟩, .refl _⟩

theorem Serving.process {e : Entry} (h : Serving id s) (hstep : Process s e s') :
    Serving id s' ∧ Processes id e (accountOf s.db id) (accountOf s'.db id) := by
  obtain ⟨i, σ, hi, hprog, hdebits, rfl⟩ := hstep
  have hclean : ∀ task σ', s.sessions i = some (task, σ') → ¬ task.cleans := by
    rintro task σ' hi' ⟨batch, skipped, htask⟩
    cases hi.symm.trans hi'
    cases htask
  have hcommit : TaskStep (fun _ => 0) s (.commit i) { s.set i none with db := σ.pending s.db } :=
    ⟨.commit s i _ σ _ hi hprog, fun j task hj => by cases hj⟩
  have hsound := h.step hcommit fun j task σ' hj hσ' hcleans => by
    cases hj
    exact absurd hcleans (hclean task σ' hσ')
  have heffect := ((h.sound.commit_guar hi hprog).1 (absurd · (hclean _ σ hi))).2
  by_cases hid : e.completion.lease.leaseID = id
  · subst hid
    simp only [Effect, ending, if_true] at heffect
    obtain ⟨result, hresult, hcompletes⟩ := heffect
    cases hresult
    obtain ⟨howned, hprocesses⟩ := hcompletes.processes h.owned rfl rfl rfl hdebits
    exact ⟨⟨hsound, howned⟩, hprocesses⟩
  · simp only [Effect, ending, if_neg hid] at heffect
    exact ⟨⟨hsound, heffect.owned h.owned⟩, .other hid heffect.ages⟩

variable (F) in
/-- The PostgreSQL coordinator as the lease manager uses it for the lease `id`, from empty
    tables. -/
def coordinator (id : UUID) (fingerprint : AdmissionRequest → Nat) :
    Coordinator (Sessions F) id where
  init := fun s => (∃ configuration, s.db = emptyDb F configuration) ∧ s.sessions = fun _ => none
  background := Background id fingerprint
  process := Process
  account := fun s => accountOf s.db id
  Inv := Serving id
  inv_init := by
    intro s hs
    obtain ⟨⟨configuration, hdb⟩, hnone⟩ := hs
    refine ⟨⟨⟨?_, ?_, trivial⟩, ?_⟩, ?_⟩
    · intro i j _ kind σ kind' τ hi
      rw [hnone] at hi
      cases hi
    · intro i kind σ hi
      rw [hnone] at hi
      cases hi
    · intro row hrow
      rw [hdb] at hrow
      cases hrow
    · rw [hdb]
      rfl
  ages := fun _ _ h hstep => h.background hstep
  processes := fun _ _ _ h hstep => h.process hstep

/-! ## Transactions that run alone -/

variable {clock : Int}

/-- What happens inside statements is background. -/
theorem background_of_steps {initial : Db F → Prop} {ls : List (Label Task)}
    (h : ((system (fun task : Task => transaction fingerprint task.transaction) initial).restrict
      fun _ l _ => l = .start 0 ∨ ∃ now, l = .finish 0 now).Steps s ls s') :
    Relation.ReflTransGen (Background id fingerprint) s s' := by
  induction h with
  | nil s => exact .refl
  | cons hstep _ ih =>
    obtain ⟨hstep, hl⟩ := hstep
    refine .head (.inr ⟨_, ⟨hstep, fun i task hbegin => ?_⟩, ?_, ?_⟩) ih
    · rcases hl with rfl | ⟨now, rfl⟩ <;> cases hbegin
    · rintro ⟨i, item, found, σ, hcommit, -⟩
      rcases hl with rfl | ⟨now, rfl⟩ <;> cases hcommit
    · rcases hl with rfl | ⟨now, rfl⟩ <;> cases hstep <;> exact fun h => h

/-- A transaction that runs alone comes to its commit. -/
theorem run_background (id : UUID) (task : Task) (hrecords : task.Records db)
    (hrun : (transaction fingerprint task.transaction).run clock db = some (outcome, db')) :
    ∃ s σ, Relation.ReflTransGen (Background id fingerprint) ⟨db, clock, fun _ => none⟩ s ∧
      s.db = db ∧ s.sessions 0 = some (task, σ) ∧ σ.prog = .commit outcome ∧
      σ.pending db = db' ∧ s.set 0 none = ⟨db, clock, fun _ => none⟩ := by
  let start : Sessions F := ⟨db, clock, fun _ => none⟩
  obtain ⟨ls, held, pending, hdb, hls⟩ := run_reaches_commit
    (fun task : Task => transaction fingerprint task.transaction) (fun _ : Db F => True)
    (fun _ l _ => l = .start 0 ∨ ∃ now, l = .finish 0 now) 0 (fun _ => none)
    (fun _ _ _ => nofun) (fun _ _ _ hl => hl) clock task _ [] (fun db => db) db hrun
  have hbegin : Background id fingerprint start (start.set 0 (some (task,
      ⟨transaction fingerprint task.transaction, [], fun db => db, none⟩))) := by
    refine .inr ⟨.begin 0 task, ⟨.begin start 0 task rfl, ?_⟩, ?_, fun h => h⟩
    · rintro i task' hl
      cases hl
      exact hrecords
    · rintro ⟨i, item, found, σ, hl, -⟩
      cases hl
  refine ⟨_, _, .head hbegin (background_of_steps hls), rfl, State.set_self start 0 _, rfl, hdb, ?_⟩
  rw [State.set_set]
  exact State.set_none start rfl

/-- A transaction that completes nothing, from its begin to its commit. -/
theorem background_of_run (id : UUID) {kind : Transaction}
    (hkind : ∀ item, kind ≠ .completeOne item) (hkept : Kept id db db')
    (hrun : (transaction fingerprint kind).run clock db = some (outcome, db')) :
    Relation.ReflTransGen (Background id fingerprint) ⟨db, clock, fun _ => none⟩
      ⟨db', clock, fun _ => none⟩ := by
  obtain ⟨s, σ, hsteps, hdb, hi, hprog, hpending, hend⟩ := run_background id
    ⟨kind, false⟩ (fun item h => absurd h (hkind item)) hrun
  have hcommit := Step.commit s 0 _ σ _ hi hprog
    (p := fun task : Task => transaction fingerprint task.transaction)
  rw [hend, hdb, hpending] at hcommit
  refine hsteps.tail (.inr ⟨_, ⟨hcommit, fun i task hl => by cases hl⟩, ?_, by rwa [hdb]⟩)
  rintro ⟨i, item, found, τ, hl, hτ⟩
  cases hl
  rw [hi] at hτ
  cases hτ
  exact hkind item rfl

/-- A completion comes to its commit, and commits. -/
theorem process_of_run (id : UUID) {e : Entry}
    (hfound : e.found = (db.operations.lookup e.completion.lease.leaseID).isSome)
    (hrun : (transaction fingerprint (.completeOne e.completion)).run clock db
      = some (.completed e.result, db')) (hdebits : Debits e db db') :
    ∃ s : Sessions F,
      Relation.ReflTransGen (Background id fingerprint) ⟨db, clock, fun _ => none⟩ s ∧
      Process s e ⟨db', clock, fun _ => none⟩ := by
  obtain ⟨s, σ, hsteps, hdb, hi, hprog, hpending, hend⟩ := run_background id
    ⟨.completeOne e.completion, e.found⟩ (fun item h => by cases h; exact hfound) hrun
  refine ⟨s, hsteps, 0, σ, hi, hprog, by rwa [hdb, hpending], ?_⟩
  rw [hend, hdb, hpending]

end Completions

end Coordination.PostgresCompletion
