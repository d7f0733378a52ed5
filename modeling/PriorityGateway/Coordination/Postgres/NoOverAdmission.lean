import PriorityGateway.Coordination.Postgres.Statements

/-! # No Over-Admission across Replicas

    Counting and inserting are separate statements of an acquisition, and any
    number of replicas run such transactions at once.  The limits hold all the
    same, because of the scope locks: a lease row may appear or change only in
    a transaction that holds the locks of its pool and of its client.

    The proof is by rely–guarantee over statement-level executions.

    * Guarantee: every row that is new or changed after a commit had both of
      its scopes locked.
    * Rely: rows under a lock I hold stay as they are or go away.  So what an
      acquisition counted with its locks held is an upper bound until it
      commits.
    * Invariant: at the current time no pool has more leases of lower classes
      than its limit minus its reserve.  Acquisitions of high classes do not
      check this, so it has to survive by itself, also through renewals: one
      extends only leases that had not run out when it read the clock, and by
      then it held the locks. -/

namespace Coordination.PostgresAdmission

open ReadCommitted

variable {F : Type}

/-! ## Counting under a lock -/

/-- Both scopes of the row are locked. -/
def Owned (held : List RowLock) (row : LeaseRow) : Prop :=
  .pool row.poolID ∈ held ∧ .client row.clientID ∈ held

/-- Rows with a locked scope stay as they are or go away. -/
def Protected (held : List RowLock) (db db' : Db F) : Prop :=
  ∀ id row, db'.leases.lookup id = some row →
    (.pool row.poolID ∈ held ∨ .client row.clientID ∈ held) → db.leases.lookup id = some row

theorem Protected.refl (held : List RowLock) (db : Db F) : Protected held db db :=
  fun _ _ h _ => h

variable {db db' db'' : Db F} {held scopes : List RowLock} {t t' clientID now poolID : Int}
  {kind : Transaction} {w w' : Db F → Db F} {client : ClientRow} {r : AdmissionRequest}
  {leases : List LeaseIdentity} {stored : UUID → Option LeaseRow} {next : Bool → Int → Tx F}
  {p : LeaseRow → Bool} {rows : List LeaseRow} {outcome : Outcome} {c : Configuration}
  {debit : Bool}

theorem Protected.trans (h : Protected held db db') (h' : Protected held db' db'') :
    Protected held db db'' :=
  fun id row hrow hlock => h id row (h' id row hrow hlock) hlock

/-- Comparison of two counts, row by row. -/
theorem activeCount_le
    (h : ∀ id row, db'.leases.lookup id = some row → p row = true → t' < row.expiresAt →
      ∃ row', db.leases.lookup id = some row' ∧ p row' = true ∧ t < row'.expiresAt) :
    activeCount db' p t' ≤ activeCount db p t := by
  apply Table.count_le_count
  intro id row hrow hp
  rw [Bool.and_eq_true, decide_eq_true_eq] at hp
  obtain ⟨row', hrow', hp', ht⟩ := h id row hrow hp.1 hp.2
  refine ⟨row', hrow', ?_⟩
  rw [Bool.and_eq_true, decide_eq_true_eq]
  exact ⟨hp', ht⟩

section

variable (h : Protected held db db')

include h

/-- Counts of rows under a lock only go down. -/
theorem activeCount_protected
    (hlock : ∀ row, p row = true → .pool row.poolID ∈ held ∨ .client row.clientID ∈ held)
    (now : Int) : activeCount db' p now ≤ activeCount db p now := by
  apply activeCount_le
  intro id row hrow hp hnow
  exact ⟨row, h id row hrow (hlock row hp), hp, hnow⟩

theorem poolCount_protected (hlock : .pool poolID ∈ held)
    (now : Int) : poolCount db' poolID now ≤ poolCount db poolID now := by
  refine activeCount_protected h ?_ now
  intro row hp
  rw [decide_eq_true_eq] at hp
  exact .inl (by rw [hp]; exact hlock)

theorem lowerCount_protected (hlock : .pool poolID ∈ held) (now : Int) :
    lowerCount db' poolID now ≤ lowerCount db poolID now := by
  refine activeCount_protected h ?_ now
  intro row hp
  rw [Bool.and_eq_true, decide_eq_true_eq] at hp
  exact .inl (by rw [hp.1]; exact hlock)

theorem clientCount_protected (hlock : .client clientID ∈ held)
    (now : Int) : clientCount db' clientID now ≤ clientCount db clientID now := by
  refine activeCount_protected h ?_ now
  intro row hp
  rw [decide_eq_true_eq] at hp
  exact .inr (by rw [hp]; exact hlock)

end

/-- As time passes, leases only run out. -/
theorem activeCount_mono (db : Db F) (p : LeaseRow → Bool) (h : t ≤ t') :
    activeCount db p t' ≤ activeCount db p t := by
  apply activeCount_le
  intro id row hrow hp ht
  exact ⟨row, hrow, hp, by omega⟩

/-- One more row adds at most one to a count, and none where it is not counted. -/
theorem activeCount_insert_le (db : Db F) (p : LeaseRow → Bool) (id : UUID) (row : LeaseRow)
    (now : Int) :
    activeCount { db with leases := db.leases.insert id row } p now
      ≤ activeCount db p now + (if p row then 1 else 0) := by
  let q : UUID → LeaseRow → Bool := fun _ row => p row && decide (now < row.expiresAt)
  show Table.count q (db.leases.insert id row) ≤ Table.count q db.leases + _
  have hinserted := Table.count_erase_of_some (p := q)
    (AList.lookup_insert (a := id) (b := row) db.leases)
  have hrest : Table.count q ((db.leases.insert id row).erase id) ≤ Table.count q db.leases := by
    apply Table.count_le_count
    intro id' row' hrow' hq
    refine ⟨row', ?_, hq⟩
    obtain ⟨hne, hrow'⟩ := Table.lookup_of_erase hrow'
    rwa [AList.lookup_insert_ne hne] at hrow'
  have hone : (if q id row = true then 1 else 0) ≤ (if p row then 1 else 0 : Nat) := by
    simp only [q, Bool.and_eq_true]
    split
    · next h => rw [if_pos h.1]
    · exact Nat.zero_le _
  omega

/-! ## The contract -/

/-- The transaction created the lease `id`. -/
def Grants (kind : Transaction) (outcome : Outcome) (id : UUID) : Prop :=
  ∃ r lease now, kind = .acquire r ∧ outcome = .admitted lease now ∧ r.leaseID = id

/-- Leases with these ids are not new and keep their scopes. -/
def KeepsScopes (ids : List UUID) (db db' : Db F) : Prop :=
  ∀ id ∈ ids, ∀ row', db'.leases.lookup id = some row' →
    ∃ row, db.leases.lookup id = some row ∧ row.poolID = row'.poolID ∧ row.clientID = row'.clientID

/-- The limits of the request's pool and the effective limit of its client are kept at `now`. -/
def WithinLimits (r : AdmissionRequest) (now : Int) (db : Db F) : Prop :=
  (clientCount db r.clientID now : Int) ≤ r.effectiveClientLimit ∧
  ∀ pool, db.configuration.pools r.poolID = some pool →
    (0 < pool.maxGatewayInflight → (poolCount db r.poolID now : Int) ≤ pool.maxGatewayInflight) ∧
    (0 < pool.highPriorityReserve →
      (lowerCount db r.poolID now : Int) ≤ pool.maxGatewayInflight - pool.highPriorityReserve)

/-- No pool has more active leases of lower classes than its reserve leaves. -/
def ReserveKept (db : Db F) (t : Int) : Prop :=
  ∀ poolID pool, db.configuration.pools poolID = some pool → 0 < pool.highPriorityReserve →
    (lowerCount db poolID t : Int) ≤ pool.maxGatewayInflight - pool.highPriorityReserve

/-- The configuration stays, locked rows are protected, and for a renewal the leases
    it names keep their scopes. -/
def Relied (kind : Transaction) (held : List RowLock) (db db' : Db F) : Prop :=
  db'.configuration = db.configuration ∧ Protected held db db' ∧
  ∀ leases, kind = .renew leases → KeepsScopes (leases.map LeaseIdentity.leaseID) db db'

/-- What a commit does to the configuration and to the leases. -/
structure Guaranteed (kind : Transaction) (held : List RowLock) (outcome : Outcome)
    (db db' : Db F) : Prop where
  configuration : db'.configuration = db.configuration
  owned : ∀ id row, db'.leases.lookup id = some row →
    db.leases.lookup id = some row ∨ Owned held row
  scopes : ∀ id row', db'.leases.lookup id = some row' →
    (∃ row, db.leases.lookup id = some row ∧ row.poolID = row'.poolID ∧
      row.clientID = row'.clientID) ∨ Grants kind outcome id
  limits : ∀ r lease now, kind = .acquire r → outcome = .admitted lease now →
    WithinLimits r now db'

/-- A lease is not created while a renewal that names it is under way. -/
def RenewsGranted (kind : Transaction) (outcome : Outcome) (other : Transaction) : Prop :=
  ∀ id, Grants kind outcome id → ∀ leases, other = .renew leases →
    id ∉ leases.map LeaseIdentity.leaseID

theorem Relied.trans (h : Relied kind held db db') (h' : Relied kind held db' db'') :
    Relied kind held db db'' := by
  refine ⟨h'.1.trans h.1, h.2.1.trans h'.2.1, ?_⟩
  intro leases hkind id hid row'' hrow''
  obtain ⟨row', hrow', hpool', hclient'⟩ := h'.2.2 leases hkind id hid row'' hrow''
  obtain ⟨row, hrow, hpool, hclient⟩ := h.2.2 leases hkind id hid row' hrow'
  exact ⟨row, hrow, hpool.trans hpool', hclient.trans hclient'⟩

/-- What one transaction guarantees the others may rely on: a row they have a lock
    on cannot have had both its scopes locked elsewhere. -/
theorem Guaranteed.relied {kind' : Transaction} {held' : List RowLock}
    (h : Guaranteed kind held outcome db db') (hlocks : ∀ l ∈ held, l ∉ held')
    (hcompatible : RenewsGranted kind outcome kind') : Relied kind' held' db db' := by
  refine ⟨h.configuration, ?_, ?_⟩
  · intro id row hrow hlock
    rcases h.owned id row hrow with hsame | ⟨hpool, hclient⟩
    · exact hsame
    · rcases hlock with hl | hl
      · exact absurd hl (hlocks _ hpool)
      · exact absurd hl (hlocks _ hclient)
  · intro leases hkind id hid row' hrow'
    rcases h.scopes id row' hrow' with hold | hnew
    · exact hold
    · exact absurd hid (hcompatible id hnew leases hkind)

def contract (F : Type) : Contract (Db F) RowLock Outcome Transaction where
  rely := Relied
  guar := Guaranteed
  inv := ReserveKept
  compatible := fun kind outcome other _ _ => RenewsGranted kind outcome other
  rely_refl := fun _ held db =>
    ⟨rfl, .refl held db, fun _ _ _ _ row' hrow' => ⟨row', hrow', rfl, rfl⟩⟩
  rely_trans := fun _ _ _ _ _ h h' => h.trans h'
  inv_mono := fun db _ _ hle h poolID pool hpool hreserve => by
    have hcount : lowerCount db poolID _ ≤ lowerCount db poolID _ := activeCount_mono db _ hle
    have hbound := h poolID pool hpool hreserve
    omega
  rely_of_guar := fun _ _ _ _ _ _ _ h hlocks hcompatible => h.relied hlocks hcompatible

/-! ## Transactions that create and extend nothing

    Most of what transactions do leaves the leases alone or deletes some.
    Such programs keep the contract whatever they hold. -/

/-- Leases stay as they are or go, and the configuration stays. -/
def Shrinking (w : Db F → Db F) : Prop :=
  ∀ db, (w db).configuration = db.configuration ∧
    ∀ id row, (w db).leases.lookup id = some row → db.leases.lookup id = some row

/-- Leases and configuration stay as they are. -/
def Silent (w : Db F → Db F) : Prop :=
  ∀ db, (w db).configuration = db.configuration ∧ (w db).leases = db.leases

theorem Silent.shrinking (h : Silent w) : Shrinking w := by
  intro db
  refine ⟨(h db).1, ?_⟩
  intro id row hrow
  rwa [(h db).2] at hrow

theorem Silent.id : Silent (id : Db F → Db F) := fun _ => ⟨rfl, rfl⟩

theorem Silent.comp (h' : Silent w') (h : Silent w) : Silent (fun db => w' (w db)) :=
  fun db => ⟨(h' (w db)).1.trans (h db).1, (h' (w db)).2.trans (h db).2⟩

theorem Shrinking.comp (h' : Shrinking w') (h : Shrinking w) : Shrinking (fun db => w' (w db)) :=
  fun db => ⟨(h' (w db)).1.trans (h db).1,
    fun id row hrow => (h db).2 id row ((h' (w db)).2 id row hrow)⟩

theorem silent_updateOperations (ids : UUID → Bool) (f : OperationRow → OperationRow) :
    Silent (updateOperations ids f : Db F → Db F) := fun _ => ⟨rfl, rfl⟩

theorem silent_setRate (clientID : Int) (kind : RateKind) (row : RateRow F) :
    Silent (setRate clientID kind row) := fun _ => ⟨rfl, rfl⟩

theorem shrinking_deleteLeases (p : UUID → LeaseRow → Bool) :
    Shrinking (deleteLeases p : Db F → Db F) := by
  intro db
  refine ⟨rfl, ?_⟩
  intro id row hrow
  simp only [deleteLeases, Table.lookup_filter, Option.filter_eq_some_iff] at hrow
  exact hrow.1

theorem admits_shrinking : Admits (F := F) fun _ w => Shrinking w where
  skip := fun _ => Silent.id.shrinking
  pointwise := fun _ _ h db => by
    obtain ⟨w', hw', heq⟩ := h db
    rw [heq]
    exact hw' db
  deleteLeases := fun _ p => shrinking_deleteLeases p
  expire := fun _ _ _ => (silent_updateOperations _ _).shrinking
  lost := fun _ _ _ => (silent_updateOperations _ _).shrinking
  setRate := fun _ _ _ _ _ => (silent_setRate _ _ _).shrinking

/-- The program only shrinks the leases and makes no admission. -/
def Quiet (p : Tx F) : Prop :=
  p.Each (fun _ w => Shrinking w) fun outcome => ∀ lease now, outcome ≠ .admitted lease now

theorem reserveKept_of_shrinking (hw : Shrinking w) (h : ReserveKept db t) : ReserveKept
    (w db) t := by
  intro poolID pool hpool hreserve
  have hcount : lowerCount (w db) poolID t ≤ lowerCount db poolID t :=
    activeCount_le fun id row hrow hp ht => ⟨row, (hw db).2 id row hrow, hp, ht⟩
  rw [(hw db).1] at hpool
  have hbound := h poolID pool hpool hreserve
  omega

/-- **Quiet programs keep the contract.** -/
theorem upholds_of_quiet {p : Tx F} (hp : Quiet p) (hw : Shrinking w) (db : Db F) (t : Int) :
    (contract F).Upholds kind p held w db t := by
  refine .of_each (Q := fun _ w _ => Shrinking w) (fun _ _ _ _ hw _ => hw)
    (fun _ _ _ _ _ hw hwrite => hwrite.comp hw) ?_ hp hw t
  intro held w db' t' outcome hw houtcome hinv
  refine ⟨⟨(hw db').1, ?_, ?_, ?_⟩, reserveKept_of_shrinking hw hinv⟩
  · intro id row hrow
    exact .inl ((hw db').2 id row hrow)
  · intro id row hrow
    exact .inl ⟨row, (hw db').2 id row hrow, rfl, rfl⟩
  · intro r lease now _ hadmitted
    exact absurd hadmitted (houtcome lease now)

theorem quiet_rejectAcquire (id : UUID) (reason : Reason) (retry : Option Int) (now : Int)
    (scopes : Option AdmissionScope) : Quiet (rejectAcquire id reason retry now scopes : Tx F) :=
  fun _ => ⟨(silent_updateOperations _ _).shrinking, fun _ _ => by simp⟩

theorem quiet_cleanupAdmissionReceipts (batch : Nat) (skipped : UUID → Bool) :
    Quiet (cleanupAdmissionReceipts batch skipped : Tx F) := by
  refine admits_shrinking.lock fun view => ?_
  unfold deleteReceipts
  split
  · exact fun _ _ => by simp
  · exact admits_shrinking.read fun clock => fun view' =>
      ⟨Silent.shrinking fun db => ⟨rfl, rfl⟩, fun _ _ => by simp⟩

/-! ## Acquisitions -/

/-- There is room for one more lease of the request: one below the limits, and for a
    lower class one below what the reserve leaves. -/
def Room (r : AdmissionRequest) (client : ClientRow) (now : Int) (db : Db F) : Prop :=
  (clientCount db r.clientID now : Int) + 1 ≤ r.effectiveClientLimit ∧
  ∀ pool, db.configuration.pools r.poolID = some pool →
    (0 < pool.maxGatewayInflight →
      (poolCount db r.poolID now : Int) + 1 ≤ pool.maxGatewayInflight) ∧
    (0 < pool.highPriorityReserve →
      (lowerCount db r.poolID now : Int) + (if client.priorityClass.lower then 1 else 0)
        ≤ pool.maxGatewayInflight - pool.highPriorityReserve)

/-- An acquisition that has counted, and found room: it holds both scope locks and has
    not touched the leases. -/
structure Ready (r : AdmissionRequest) (client : ClientRow) (now : Int) (held : List RowLock)
    (w : Db F → Db F) (db : Db F) (t : Int) : Prop where
  poolLocked : .pool r.poolID ∈ held
  clientLocked : .client r.clientID ∈ held
  silent : Silent w
  clock : now ≤ t
  room : Room r client now db

/-- What was counted under the locks stays an upper bound. -/
theorem Room.protected (h : Room r client now db) (hpool : .pool r.poolID ∈ held)
    (hclient : .client r.clientID ∈ held) (hconfiguration : db'.configuration = db.configuration)
    (hprotected : Protected held db db') : Room r client now db' := by
  obtain ⟨hlimit, hpools⟩ := h
  have hc := clientCount_protected hprotected hclient now
  refine ⟨by omega, ?_⟩
  intro pool hlookup
  rw [hconfiguration] at hlookup
  obtain ⟨hinflight, hreserve⟩ := hpools pool hlookup
  have hp := poolCount_protected hprotected hpool now
  have hl := lowerCount_protected hprotected hpool now
  refine ⟨fun hpos => ?_, fun hpos => ?_⟩
  · have := hinflight hpos
    omega
  · have := hreserve hpos
    omega

/-- A ready acquisition stays ready through a statement that leaves the leases alone. -/
theorem Ready.stmt {snap cur : Db F} {t₁ : Int} (h : Ready r client now held w db t) (hle : t ≤ t₁)
    (hsnap : Relied kind held db snap) (hcur : Relied kind held snap cur) (hw : Silent w')
    (locks : List RowLock) : Ready r client now (held ++ locks) (fun db => w' (w db)) cur t₁ := by
  have hrely := hsnap.trans hcur
  refine ⟨List.mem_append_left _ h.poolLocked, List.mem_append_left _ h.clientLocked,
    hw.comp h.silent, le_trans h.clock hle, ?_⟩
  exact h.room.protected h.poolLocked h.clientLocked hrely.1 hrely.2.1

/-- The lease row of a client whose class is not lower is not counted as lower. -/
theorem lower_of_granted {c : PriorityClass} (h : (grantedRow now r c).lower = true) :
    c.lower = true := by
  unfold LeaseRow.lower at h
  rw [Bool.or_eq_true, decide_eq_true_eq, decide_eq_true_eq] at h
  rcases h with h | h
  · have hc : c = .normal := h
    rw [hc]
    rfl
  · have hc : c = .background := h
    rw [hc]
    rfl

/-- The lease goes into a database with room: the limits hold, and the reserve is kept. -/
theorem Room.granted (h : Room r client now db) (hinv : ReserveKept db t) (hle : now ≤ t)
    (hconfiguration : db'.configuration = db.configuration)
    (hleases : db'.leases = db.leases.insert r.leaseID (grantedRow now r client.priorityClass)) :
    WithinLimits r now db' ∧ ReserveKept db' t := by
  let row := grantedRow now r client.priorityClass
  -- every count grows by the new row alone
  have hcount : ∀ p t, activeCount db' p t ≤ activeCount db p t + (if p row then 1 else 0) := by
    intro p t
    have := activeCount_insert_le db p r.leaseID row t
    unfold activeCount at this ⊢
    rwa [hleases]
  obtain ⟨hclient, hpools⟩ := h
  have hlower : ∀ poolID t, lowerCount db' poolID t ≤ lowerCount db poolID t +
      (if poolID = r.poolID ∧ client.priorityClass.lower = true then 1 else 0) := by
    intro poolID t
    have hle := hcount (fun row => decide (row.poolID = poolID) && row.lower) t
    refine le_trans hle (Nat.add_le_add_left ?_ _)
    split
    · next hrow =>
      rw [Bool.and_eq_true, decide_eq_true_eq] at hrow
      rw [if_pos ⟨hrow.1.symm, lower_of_granted hrow.2⟩]
    · exact Nat.zero_le _
  refine ⟨⟨?_, ?_⟩, ?_⟩
  · have hle : clientCount db' r.clientID now ≤ _ := hcount _ now
    have hone : clientCount db' r.clientID now ≤ clientCount db r.clientID now + 1 :=
      le_trans hle (Nat.add_le_add_left (by split <;> omega) _)
    omega
  · intro pool hpool
    rw [hconfiguration] at hpool
    obtain ⟨hinflight, hreserve⟩ := hpools pool hpool
    refine ⟨fun hpos => ?_, fun hpos => ?_⟩
    · have hle : poolCount db' r.poolID now ≤ _ := hcount _ now
      have hone : poolCount db' r.poolID now ≤ poolCount db r.poolID now + 1 :=
        le_trans hle (Nat.add_le_add_left (by split <;> omega) _)
      omega
    · have hbound := hreserve hpos
      have hone := hlower r.poolID now
      simp only [true_and] at hone
      split at hone <;> split at hbound <;> omega
  · intro poolID pool hpool hpos
    rw [hconfiguration] at hpool
    have hone := hlower poolID t
    by_cases hsame : poolID = r.poolID
    · -- in the request's own pool the count at `now` decides
      subst hsame
      have hbound := (hpools pool hpool).2 hpos
      have hold : lowerCount db r.poolID t ≤ lowerCount db r.poolID now :=
        activeCount_mono db _ hle
      simp only [true_and] at hone
      split at hone <;> split at hbound <;> omega
    · have hbound := hinv poolID pool hpool hpos
      simp only [hsame, false_and, if_false] at hone
      omega

section

variable (h : Ready r client now held w db t)

include h

/-- The end of an acquisition that found room keeps the contract. -/
theorem upholds_grantLease :
    (contract F).Upholds (.acquire r) (grantLease r client.priorityClass now) held w db t := by
  intro snap t₀ cur now₁ t₁ ht₀ hsnap _ h₁ h₂ hcur
  show Contract.Upholds _ _ (if _ then _ else _) _ _ _ _
  split
  · trivial
  intro snap' t₀' cur' now' t₁' ht₀' hsnap' _ h₁' h₂' hcur' db' t' ht' hrely hinv
  -- nothing was written to the leases but the new row
  have hfirst := h.stmt (show t ≤ t₁ by omega) hsnap hcur Silent.id [.lease r.leaseID]
  have hlater := hfirst.stmt (show t₁ ≤ t' by omega) hsnap' hcur' Silent.id [.operation r.leaseID]
  have hroom : Room r client now db' :=
    hlater.room.protected hlater.poolLocked hlater.clientLocked hrely.1 hrely.2.1
  have hw := h.silent db'
  let granted : Db F := { w db' with
    leases := (w db').leases.insert r.leaseID (grantedRow now r client.priorityClass) }
  have hleases : granted.leases
      = db'.leases.insert r.leaseID (grantedRow now r client.priorityClass) := by
    show (w db').leases.insert _ _ = _
    rw [hw.2]
  have hgranted := hroom.granted hinv hlater.clock (show granted.configuration = _ from hw.1)
    hleases
  have hlookup : ∀ id row, ((w db').leases.insert r.leaseID
      (grantedRow now r client.priorityClass)).lookup id = some row →
      (id = r.leaseID ∧ row = grantedRow now r client.priorityClass) ∨
        db'.leases.lookup id = some row := by
    intro id row hrow
    rw [hw.2] at hrow
    exact (Table.lookup_insert_cases hrow).imp_right And.right
  refine ⟨⟨hw.1, ?_, ?_, ?_⟩, hgranted.2⟩
  · intro id row hrow
    rcases hlookup id row hrow with ⟨-, rfl⟩ | hold
    · exact .inr ⟨hlater.poolLocked, hlater.clientLocked⟩
    · exact .inl hold
  · intro id row hrow
    rcases hlookup id row hrow with ⟨rfl, -⟩ | hold
    · exact .inr ⟨r, _, now, rfl, rfl, rfl⟩
    · exact .inl ⟨row, hold, rfl, rfl⟩
  · intro r' lease now' hkind houtcome
    cases hkind
    cases houtcome
    exact hgranted.1

theorem upholds_normalizeRate [RateArith F] {rateKind : RateKind} {revision capacity at' : Int}
    (hnext : ∀ ok retry held w db t, Ready r client now held w db t →
      (contract F).Upholds (.acquire r) (next ok retry) held w db t) :
    (contract F).Upholds (.acquire r)
      (normalizeRate clientID rateKind revision capacity at' debit next) held w db t := by
  intro snap t₀ cur now₁ t₁ ht₀ hsnap _ h₁ h₂ hcur
  have hready := h.stmt (show t ≤ t₁ by omega) hsnap hcur Silent.id []
  dsimp only
  split
  · trivial
  · intro snap' t₀' cur' now' t₁' ht₀' hsnap' _ h₁' h₂' hcur'
    exact hnext _ _ _ _ _ _ (hready.stmt (by omega) hsnap' hcur' (silent_setRate _ _ _) _)

/-- Once the counts leave room, the rest of the acquisition keeps the contract. -/
theorem upholds_acquireTPM [RateArith F] :
    (contract F).Upholds (.acquire r) (acquireTPM r client now) held w db t := by
  have hreject : ∀ (reason : Reason) (retry : Int) held w db t, Ready r client now held w db t →
      (contract F).Upholds (.acquire r) (rejectAcquire r.leaseID reason (some retry) now none)
        held w db t :=
    fun _ _ _ _ _ _ hready =>
      upholds_of_quiet (quiet_rejectAcquire _ _ _ _ _) hready.silent.shrinking _ _
  have hrpm : ∀ held w db t, Ready r client now held w db t →
      (contract F).Upholds (.acquire r) (acquireRPM r client now) held w db t := by
    intro held w db t hready
    unfold acquireRPM
    split
    · refine upholds_normalizeRate hready ?_
      intro ok retry held' w' db' t' hready'
      split
      · exact upholds_grantLease hready'
      · exact hreject _ _ _ _ _ _ hready'
    · exact upholds_grantLease hready
  unfold acquireTPM
  split
  · refine upholds_normalizeRate h ?_
    intro ok retry held' w' db' t' hready'
    split
    · exact hrpm _ _ _ _ hready'
    · exact hreject _ _ _ _ _ _ hready'
  · exact hrpm _ _ _ _ h

end

/-- What the checks before the buckets make sure of. -/
theorem checkAcquire_ok {counts : Counts} (h : checkAcquire c r counts = .ok client) :
    counts.client < r.effectiveClientLimit ∧
    ∀ pool, c.pools r.poolID = some pool →
      (0 < pool.maxGatewayInflight → counts.pool < pool.maxGatewayInflight) ∧
      (0 < pool.highPriorityReserve → client.priorityClass.lower = true →
        counts.lower < pool.maxGatewayInflight - pool.highPriorityReserve) := by
  unfold checkAcquire at h
  split at h
  · cases h
  next client' key pool hconfigured =>
  have hpool : c.pools r.poolID = some pool := by
    unfold configured at hconfigured
    split at hconfigured
    · next hp =>
      split at hconfigured <;> cases hconfigured
      exact hp
    · cases hconfigured
  split at h
  · cases h
  split at h
  · cases h
  split at h
  · cases h
  split at h
  · cases h
  next hinflight =>
  split at h
  · cases h
  next hreserve =>
  split at h
  · cases h
  next hclient =>
  cases h
  refine ⟨by omega, ?_⟩
  intro pool' hpool'
  have hsame : pool = pool' := Option.some.inj (hpool.symm.trans hpool')
  subst hsame
  refine ⟨fun hpos => ?_, fun hpos hlower => ?_⟩
  · by_contra hfull
    exact hinflight ⟨hpos, by omega⟩
  · by_contra hfull
    exact hreserve ⟨hpos, hlower, by omega⟩

/-- The counts come from a snapshot taken with the locks held; if they pass the checks,
    there is room in that snapshot. -/
theorem room_of_counts {snap seen current : Db F}
    (h : checkAcquire c r (countActive ⟨seen, current, now⟩ r) = .ok client)
    (hseen : seen.leases = snap.leases) (hconfiguration : snap.configuration = c)
    (hinv : ReserveKept snap now) : Room r client now snap := by
  have hcounts : ∀ p, activeCount seen p now = activeCount snap p now := by
    intro p
    unfold activeCount
    rw [hseen]
  obtain ⟨hclient, hpools⟩ := checkAcquire_ok h
  have hclient' : (clientCount snap r.clientID now : Int) < r.effectiveClientLimit := by
    have heq : clientCount seen r.clientID now = clientCount snap r.clientID now := hcounts _
    rw [← heq]
    exact hclient
  refine ⟨by omega, ?_⟩
  intro pool hpool
  rw [hconfiguration] at hpool
  obtain ⟨hinflight, hreserve⟩ := hpools pool hpool
  refine ⟨fun hpos => ?_, fun hpos => ?_⟩
  · have heq : poolCount seen r.poolID now = poolCount snap r.poolID now := hcounts _
    have hlt : (poolCount seen r.poolID now : Int) < pool.maxGatewayInflight := hinflight hpos
    omega
  have heq : lowerCount seen r.poolID now = lowerCount snap r.poolID now := hcounts _
  split
  · next hlower =>
    have hlt : (lowerCount seen r.poolID now : Int)
      < pool.maxGatewayInflight - pool.highPriorityReserve := hreserve hpos hlower
    omega
  · -- a high class takes nothing from what the reserve leaves
    have hkept := hinv r.poolID pool (by rw [hconfiguration]; exact hpool) hpos
    omega

theorem silent_seedRates [RateArith F] (view : View (Db F)) (clientID : Int) :
    Silent (seedRates view clientID) := by
  have hseed : ∀ kind revision capacity,
      Silent (seedRate view clientID kind revision capacity) := by
    intro kind revision capacity db
    unfold seedRate
    split
    · exact silent_setRate _ _ _ db
    · exact Silent.id db
  intro db
  unfold seedRates
  split
  · exact Silent.id db
  · exact Silent.comp (hseed _ _ _) (hseed _ _ _) db

/-- A new operation keeps the contract. -/
theorem upholds_acquireCreated [RateArith F] (hw : Silent w) (db : Db F) (t : Int) :
    (contract F).Upholds (.acquire r) (acquireCreated r) held w db t := by
  refine .lock fun snap₁ _ cur₁ _ _ _ _ _ _ _ _ => ?_
  refine .lock fun snap₂ _ cur₂ _ _ _ _ _ _ _ _ => ?_
  refine .read fun snap₃ _ cur₃ _ _ _ _ _ _ _ hcur₃ => ?_
  -- the buckets are seeded and locked
  intro snap₄ _ cur₄ now₄ _ _ hsnap₄ _ _ _ hcur₄
  refine .lock fun snap₅ _ cur₅ _ _ _ hsnap₅ _ _ _ hcur₅ => ?_
  refine .read fun snap₆ t₀₆ cur₆ now₆ t₁₆ _ hsnap₆ hinv₆ hnow₆ hle₆ hcur₆ => ?_
  have hw₆ := (silent_seedRates ⟨w snap₄, w cur₄, now₄⟩ r.clientID).comp hw
  have hconfiguration : snap₆.configuration = (w snap₃).configuration := by
    rw [(hw snap₃).1, hsnap₆.1, hcur₅.1, hsnap₅.1, hcur₄.1, hsnap₄.1, hcur₃.1]
  show (contract F).Upholds _ (acquireCounted _ _ _) _ _ _ _
  unfold acquireCounted
  split
  · exact upholds_of_quiet (quiet_rejectAcquire _ _ _ _ _) hw₆.shrinking _ _
  next client hok =>
  have hinv : ReserveKept snap₆ now₆ := (contract F).inv_mono _ _ _ hnow₆ hinv₆
  have hroom := room_of_counts hok (hw₆ snap₆).2 hconfiguration hinv
  have hlocked := hroom.protected (by simp) (by simp) hcur₆.1 hcur₆.2.1
  exact upholds_acquireTPM ⟨by simp, by simp, hw₆, hle₆, hlocked⟩

/-- **Acquisitions keep the contract.** -/
theorem upholds_acquire [RateArith F] (fingerprint : AdmissionRequest → Nat)
    (r : AdmissionRequest) (db : Db F) (t : Int) :
    (contract F).Upholds (.acquire r) (acquire fingerprint r) [] id db t := by
  intro snap t₀ cur now t₁ _ _ _ _ _ _
  have hinsert : Silent (insertOperation (fingerprint r) r ⟨snap, cur, now⟩) := by
    intro db
    unfold insertOperation
    split <;> exact ⟨rfl, rfl⟩
  show (contract F).Upholds _ (if _ then _ else _) _ (insertOperation _ _ _) _ _
  split
  · exact upholds_acquireCreated hinsert _ _
  · exact upholds_of_quiet (admits_shrinking.resolveAcquire (fun _ _ _ => by simp) _ _)
      hinsert.shrinking _ _

/-! ## Renewals -/

/-- Every stored lease of the batch has its scopes among the rows read first. -/
def ScopesRead (leases : List LeaseIdentity) (rows : List LeaseRow) (db : Db F) : Prop :=
  ∀ id ∈ leases.map LeaseIdentity.leaseID, ∀ row, db.leases.lookup id = some row →
    ∃ seen ∈ rows, seen.poolID = row.poolID ∧ seen.clientID = row.clientID

theorem scopesRead_storedRows (leases : List LeaseIdentity) (db : Db F) :
    ScopesRead leases (storedRows leases db) db := by
  intro id hid row hrow
  exact ⟨row, List.mem_filterMap.mpr ⟨id, hid, hrow⟩, rfl, rfl⟩

/-- No lease of the batch appears later: that is what the renewal relies on. -/
theorem ScopesRead.relied (h : ScopesRead leases rows db)
    (hrely : Relied (.renew leases) held db db') : ScopesRead leases rows db' := by
  intro id hid row' hrow'
  obtain ⟨row, hrow, hpool, hclient⟩ := hrely.2.2 leases rfl id hid row' hrow'
  obtain ⟨seen, hseen, hpool', hclient'⟩ := h id hid row hrow
  exact ⟨seen, hseen, hpool'.trans hpool, hclient'.trans hclient⟩

/-- A renewal after it has read the clock and the stored leases.  The stored leases of
    the batch are under its scope locks and as they were read, and the locked pools kept
    their reserve at the time the clock was read. -/
structure Renewing (leases : List LeaseIdentity) (now : Int) (stored : UUID → Option LeaseRow)
    (scopes : List RowLock) (db : Db F) (t : Int) : Prop where
  clock : now ≤ t
  locked : ∀ id ∈ leases.map LeaseIdentity.leaseID, ∀ row, db.leases.lookup id = some row →
    Owned scopes row
  read : ∀ id ∈ leases.map LeaseIdentity.leaseID, ∀ row, db.leases.lookup id = some row →
    stored id = some row
  reserve : ∀ poolID pool, db.configuration.pools poolID = some pool →
    0 < pool.highPriorityReserve → .pool poolID ∈ scopes →
    (lowerCount db poolID now : Int) ≤ pool.maxGatewayInflight - pool.highPriorityReserve

theorem Protected.of_subset (h : Protected held db db') (hsub : scopes ⊆ held) :
    Protected scopes db db' :=
  fun id row hrow hlock => h id row hrow (hlock.imp (fun hl => hsub hl) (fun hl => hsub hl))

theorem Renewing.relied (h : Renewing leases now stored scopes db t) (hsub : scopes ⊆ held)
    (hle : t ≤ t') (hrely : Relied (.renew leases) held db db') :
    Renewing leases now stored scopes db' t' := by
  have hprotected := hrely.2.1.of_subset hsub
  have hlocked : ∀ id ∈ leases.map LeaseIdentity.leaseID, ∀ row,
      db'.leases.lookup id = some row → Owned scopes row := by
    intro id hid row hrow
    obtain ⟨row₀, hrow₀, hpool, hclient⟩ := hrely.2.2 leases rfl id hid row hrow
    have howned := h.locked id hid row₀ hrow₀
    unfold Owned at howned ⊢
    rwa [← hpool, ← hclient]
  refine ⟨le_trans h.clock hle, hlocked, ?_, ?_⟩
  · intro id hid row hrow
    have hold := hprotected id row hrow (.inl (hlocked id hid row hrow).1)
    exact h.read id hid row hold
  · intro poolID pool hpool hpos hlock
    rw [hrely.1] at hpool
    have hcount := lowerCount_protected hprotected hlock now
    have hbound := h.reserve poolID pool hpool hpos hlock
    omega

/-- The writes of a renewal: rows go, stay, or, if the batch names them and they had not
    run out when the clock was read, get another expiry. -/
def Extends (leases : List LeaseIdentity) (now : Int) (stored : UUID → Option LeaseRow)
    (w : Db F → Db F) : Prop :=
  ∀ db, (w db).configuration = db.configuration ∧
    ∀ id row', (w db).leases.lookup id = some row' →
      ∃ row, db.leases.lookup id = some row ∧ row.poolID = row'.poolID ∧
        row.clientID = row'.clientID ∧ row.priorityClass = row'.priorityClass ∧
        (row' = row ∨ (id ∈ leases.map LeaseIdentity.leaseID ∧
          ∃ seen, stored id = some seen ∧ now < seen.expiresAt))

theorem Shrinking.extends (h : Shrinking w) (leases : List LeaseIdentity) (now : Int)
    (stored : UUID → Option LeaseRow) : Extends leases now stored w :=
  fun db => ⟨(h db).1, fun id row hrow => ⟨row, (h db).2 id row hrow, rfl, rfl, rfl, .inl rfl⟩⟩

theorem Extends.shrink (h : Extends leases now stored w) (h' : Shrinking w') :
    Extends leases now stored (fun db => w' (w db)) :=
  fun db => ⟨(h' (w db)).1.trans (h db).1,
    fun id row hrow => (h db).2 id row ((h' (w db)).2 id row hrow)⟩

theorem extends_updateExpiries (hw : Shrinking w) :
    Extends leases now stored
      (fun db => updateExpiries (renewUpdates now stored leases) (w db)) := by
  intro db
  refine ⟨(hw db).1, ?_⟩
  intro id row' hrow'
  simp only [updateExpiries, Table.lookup_mapRows, Option.map_eq_some_iff] at hrow'
  obtain ⟨row, hrow, hsame⟩ := hrow'
  have hold := (hw db).2 id row hrow
  split at hsame
  · subst hsame
    exact ⟨row, hold, rfl, rfl, rfl, .inl rfl⟩
  · next expires hupdate =>
    subst hsame
    exact ⟨row, hold, rfl, rfl, rfl, .inr (renewUpdates_some hupdate)⟩

section

variable (h : Renewing leases now stored scopes db t) (hsub : scopes ⊆ held)
  (hw : Extends leases now stored w)
include h hsub hw

/-- **The commit of a renewal**: extended rows were active when the clock was read, so
    later there are no more lower leases than there were then. -/
theorem Renewing.commit (hinv : ReserveKept db t) :
    Guaranteed (.renew leases) held outcome db (w db) ∧ ReserveKept (w db) t := by
  obtain ⟨hconfiguration, hrows⟩ := hw db
  have hextended : ∀ id row row', db.leases.lookup id = some row →
      (row' = row ∨ (id ∈ leases.map LeaseIdentity.leaseID ∧
        ∃ seen, stored id = some seen ∧ now < seen.expiresAt)) →
      row' = row ∨ (Owned scopes row ∧ now < row.expiresAt) := by
    intro id row row' hrow hcase
    rcases hcase with hsame | ⟨hid, seen, hseen, hactive⟩
    · exact .inl hsame
    have hread := h.read id hid row hrow
    rw [hseen] at hread
    cases hread
    exact .inr ⟨h.locked id hid row hrow, hactive⟩
  refine ⟨⟨hconfiguration, ?_, ?_, ?_⟩, ?_⟩
  · intro id row' hrow'
    obtain ⟨row, hrow, hpool, hclient, -, hcase⟩ := hrows id row' hrow'
    rcases hextended id row row' hrow hcase with rfl | ⟨howned, -⟩
    · exact .inl hrow
    right
    unfold Owned at howned ⊢
    rw [← hpool, ← hclient]
    exact ⟨hsub howned.1, hsub howned.2⟩
  · intro id row' hrow'
    obtain ⟨row, hrow, hpool, hclient, -, -⟩ := hrows id row' hrow'
    exact .inl ⟨row, hrow, hpool, hclient⟩
  · intro r lease now' hkind
    cases hkind
  · intro poolID pool hpool hpos
    rw [hconfiguration] at hpool
    by_cases hlock : RowLock.pool poolID ∈ scopes
    · -- a pool whose leases may have been extended: count at the time the clock was read
      have hbound := h.reserve poolID pool hpool hpos hlock
      have hcount : lowerCount (w db) poolID t ≤ lowerCount db poolID now := by
        apply activeCount_le
        intro id row' hrow' hp ht
        obtain ⟨row, hrow, hpool', -, hclass, hcase⟩ := hrows id row' hrow'
        refine ⟨row, hrow, ?_, ?_⟩
        · simpa [LeaseRow.lower, hpool', hclass] using hp
        rcases hextended id row row' hrow hcase with rfl | ⟨-, hactive⟩
        · have := h.clock
          omega
        · exact hactive
      omega
    · -- no lease of another pool was touched
      have hbound := hinv poolID pool hpool hpos
      have hcount : lowerCount (w db) poolID t ≤ lowerCount db poolID t := by
        apply activeCount_le
        intro id row' hrow' hp ht
        obtain ⟨row, hrow, hpool', -, hclass, hcase⟩ := hrows id row' hrow'
        rw [Bool.and_eq_true, decide_eq_true_eq] at hp
        rcases hextended id row row' hrow hcase with rfl | ⟨howned, -⟩
        · exact ⟨row', hrow, by simp [hp], ht⟩
        · have hlocked := howned.1
          rw [hpool', hp.1] at hlocked
          exact absurd hlocked hlock
      omega

theorem upholds_renewExpire {results : List RenewResult} :
    (contract F).Upholds (.renew leases)
      (renewExpire (leases.map LeaseIdentity.leaseID) now results) held w db t := by
  intro snap t₀ cur now₁ t₁ ht₀ hsnap _ h₁ h₂ hcur db' t' ht' hrely hinv
  have hcurrent : Renewing leases now stored scopes cur t₁ :=
    h.relied hsub (by omega) (hsnap.trans hcur)
  have hsub' := List.subset_append_of_subset_left
    (leaseLocks (leases.map LeaseIdentity.leaseID) ⟨w snap, w cur, now₁⟩) hsub
  have hlater := hcurrent.relied hsub' ht' hrely
  refine hlater.commit hsub' (hw.shrink ?_) hinv
  exact (silent_updateOperations _ _).shrinking.comp (shrinking_deleteLeases _)

end

/-- What a renewal knows when it has read the stored leases: the scopes of all of them
    are locked since before the clock was read. -/
theorem renewing_of_scopes {clocked : Db F} (hscopes : ScopesRead leases rows db)
    (hlocked : ∀ row ∈ rows, .pool row.poolID ∈ scopes ∧ .client row.clientID ∈ scopes)
    (hinv : ReserveKept clocked now) (hrely : Relied (.renew leases) scopes clocked db)
    (hle : now ≤ t) : Renewing leases now (fun id => db.leases.lookup id) scopes db t := by
  refine ⟨hle, ?_, fun _ _ _ hrow => hrow, ?_⟩
  · intro id hid row hrow
    obtain ⟨seen, hseen, hpool, hclient⟩ := hscopes id hid row hrow
    have hboth := hlocked seen hseen
    rw [hpool, hclient] at hboth
    exact hboth
  · intro poolID pool hpool hpos hlock
    rw [hrely.1] at hpool
    have hbound := hinv poolID pool hpool hpos
    have hcount := lowerCount_protected hrely.2.1 hlock now
    omega

theorem upholds_renewStored (h : Renewing leases now stored scopes db t) (hsub : scopes ⊆ held)
    (hw : Shrinking w) :
    (contract F).Upholds (.renew leases) (renewStored leases now stored) held w db t := by
  unfold renewStored
  dsimp only
  split
  · intro snap t₀ cur now₁ t₁ ht₀ hsnap _ h₁ h₂ hcur
    have hlater := h.relied hsub (show t ≤ t₁ by omega) (hsnap.trans hcur)
    exact upholds_renewExpire hlater (List.subset_append_of_subset_left _ hsub)
      (extends_updateExpiries hw)
  · exact upholds_renewExpire h hsub (hw.extends _ _ _)

/-- **Renewals keep the contract.** -/
theorem upholds_renew (leases : List LeaseIdentity) (db : Db F) (t : Int) :
    (contract F).Upholds (.renew leases) (renew leases) [] id db t := by
  unfold renew
  split
  · exact upholds_of_quiet (p := .commit _) (fun _ _ => by simp) Silent.id.shrinking _ _
  refine .read fun snap t₀ cur now t₁ _ _ _ _ _ hcur => ?_
  have hscopes := (scopesRead_storedRows leases snap).relied hcur
  -- pools, clients, leases and receipts are locked in this order
  refine .lock fun snap₁ _ cur₁ _ _ _ hsnap₁ _ _ _ hcur₁ => ?_
  have hscopes₁ := (hscopes.relied hsnap₁).relied hcur₁
  refine .lock fun snap₂ _ cur₂ _ _ _ hsnap₂ _ _ _ hcur₂ => ?_
  have hscopes₂ := (hscopes₁.relied hsnap₂).relied hcur₂
  refine .lock fun snap₃ _ cur₃ _ _ _ hsnap₃ _ _ _ hcur₃ => ?_
  have hscopes₃ := (hscopes₂.relied hsnap₃).relied hcur₃
  refine .lock fun snap₄ _ cur₄ _ _ _ hsnap₄ _ _ _ hcur₄ => ?_
  have hscopes₄ := (hscopes₃.relied hsnap₄).relied hcur₄
  -- then the clock and the stored leases are read
  refine .read fun snap₅ t₀₅ cur₅ now₅ t₁₅ _ hsnap₅ hinv₅ hnow₅ hle₅ hcur₅ => ?_
  have hinv : ReserveKept snap₅ now₅ := (contract F).inv_mono _ _ _ hnow₅ hinv₅
  refine .read fun snap₆ t₀₆ cur₆ now₆ t₁₆ ht₆ hsnap₆ _ hnow₆ hle₆ hcur₆ => ?_
  have hscopes₆ := ((hscopes₄.relied hsnap₅).relied hcur₅).relied hsnap₆
  have hrenewing := renewing_of_scopes hscopes₆ ?_ hinv (hcur₅.trans hsnap₆)
    (show now₅ ≤ t₀₆ by omega)
  · have hcurrent := hrenewing.relied (List.Subset.refl _) (show t₀₆ ≤ t₁₆ by omega) hcur₆
    exact upholds_renewStored hcurrent (List.Subset.refl _) Silent.id.shrinking
  intro row hrow
  have hmem : row ∈ storedRows leases (id snap) := hrow
  simp only [List.nil_append, List.append_assoc, List.mem_append, List.mem_map]
  exact ⟨.inl ⟨row, hmem, rfl⟩, .inr (.inl ⟨row, hmem, rfl⟩)⟩

/-! ## All executions -/

theorem upholds_transaction [RateArith F] (fingerprint : AdmissionRequest → Nat)
    (kind : Transaction) (db : Db F) (t : Int) :
    (contract F).Upholds kind (transaction fingerprint kind) [] id db t := by
  cases kind with
  | acquire r => exact upholds_acquire fingerprint r db t
  | renew leases => exact upholds_renew leases db t
  | completeOne item =>
    exact upholds_of_quiet (admits_shrinking.completeOne (fun _ _ _ => by simp)
      fun _ _ _ => (silent_updateOperations _ _).shrinking) Silent.id.shrinking db t
  | cleanupExpired items =>
    exact upholds_of_quiet (admits_shrinking.cleanupExpired (fun _ _ _ => by simp) items)
      Silent.id.shrinking db t
  | cleanupAdmissionReceipts batch skipped =>
    exact upholds_of_quiet (quiet_cleanupAdmissionReceipts batch skipped) Silent.id.shrinking db t

/-- The states of the database with any number of transactions under way. -/
abbrev DbState (F : Type) : Type := State (Db F) RowLock Outcome Transaction

/-- Renewals are only of leases that were granted before they began: no admission of a
    lease commits while a renewal that names it is under way. -/
def RenewalsOfGranted (s : DbState F) (l : Label Transaction) (_ : DbState F) : Prop :=
  match l with
  | .commit i => ∀ r σ lease now, s.sessions i = some (.acquire r, σ) →
      σ.prog = .commit (.admitted lease now) →
      ∀ j leases τ, s.sessions j = some (.renew leases, τ) →
        r.leaseID ∉ leases.map LeaseIdentity.leaseID
  | _ => True

/-- All statement-level executions from a database without leases, under any
    configuration, with any number of replicas. -/
def executions (F : Type) [RateArith F] (fingerprint : AdmissionRequest → Nat) :
    System (DbState F) (Label Transaction) :=
  (system (transaction fingerprint) (fun db : Db F => db.leases = ∅)).restrict RenewalsOfGranted

theorem reserveKept_of_empty (h : db.leases = ∅) (t : Int) : ReserveKept db t := by
  intro poolID pool _ hpos
  have hcount : lowerCount db poolID t = 0 := by
    unfold lowerCount activeCount
    rw [h]
    rfl
  have hcheck := pool.reserve_check
  omega

theorem allowed_of_renewalsOfGranted (s : DbState F) (l : Label Transaction) (s' : DbState F)
    (h : RenewalsOfGranted s l s') : (contract F).Allowed s l s' := by
  cases l with
  | commit i =>
    intro kind σ outcome hi hprog j hj kind' τ hsession id hgrants leases hkind
    obtain ⟨r, lease, now, rfl, rfl, rfl⟩ := hgrants
    subst hkind
    exact h r σ lease now hi hprog j leases τ hsession
  | begin | start | finish | rollback | tick => trivial

/-- Every reachable state is sound. -/
theorem sound_execution [RateArith F] {fingerprint : AdmissionRequest → Nat} {s : DbState F}
    (h : (executions F fingerprint).Reachable s) : (contract F).Sound s := by
  have hallowed := System.Reachable.restrict_mono _ allowed_of_renewalsOfGranted h
  exact Contract.sound_of_reachable (fun db t hempty => reserveKept_of_empty hempty t)
    (fun kind db t _ => upholds_transaction fingerprint kind db t) hallowed

/-- **No over-admission**: right after any committed admission, at the reading of the
    database clock it was made at, the pool is within its limit, the lower classes are
    within what the reserve leaves, and the client is within its effective limit. -/
theorem no_over_admission [RateArith F] (fingerprint : AdmissionRequest → Nat)
    (s s' : DbState F) (i : Nat) (r : AdmissionRequest) (σ : Session (Db F) RowLock Outcome)
    (lease : LeaseIdentity) (now : Int) (hs : (executions F fingerprint).Reachable s)
    (hi : s.sessions i = some (.acquire r, σ)) (hprog : σ.prog = .commit (.admitted lease now))
    (hstep : (executions F fingerprint).step s (.commit i) s') :
    s'.db.configuration = s.db.configuration ∧ WithinLimits r now s'.db := by
  have hsound := sound_execution hs
  obtain ⟨hguar, -⟩ := hsound.commit_guar hi hprog
  obtain ⟨hcommit, -⟩ := hstep
  cases hcommit with
  | commit _ kind σ' result hi' hprog' =>
    cases hi.symm.trans hi'
    exact ⟨hguar.configuration, hguar.limits r lease now rfl rfl⟩

/-! A pool with room for one request, and the request. -/

def oneSlot : Configuration := .single (.normal 1 1 0 0 (by decide))

def oneRequest : AdmissionRequest :=
  { plainRequest 7 unixEpoch (30 * second) with
    effectiveClientLimit := 1, configuredClientLimit := 1, priorityClass := .normal }

/-- A second request for the same place. -/
def rivalRequest : AdmissionRequest := { oneRequest with leaseID := 8, requestID := "rival" }

/-- The second request is in its first statement. -/
def rivals : Nat → Option (Transaction × Session (Db ℚ) RowLock Outcome) :=
  Function.update (fun _ => none) 1 (some (.acquire rivalRequest,
    ⟨transaction (fun _ => 0) (.acquire rivalRequest), [], id,
      some (emptyDb ℚ oneSlot, unixEpoch)⟩))

theorem oneRequest_admitted :
    ((transaction (F := ℚ) (fun _ => 0) (.acquire oneRequest)).run unixEpoch
      (emptyDb ℚ oneSlot)).map Prod.fst
      = some (.admitted (grantedLease unixEpoch oneRequest) unixEpoch) := by
  decide

/-- The database after a transaction that runs alone. -/
def afterAlone (fingerprint : AdmissionRequest → Nat) (db : Db ℚ) (kind : Transaction) : Db ℚ :=
  (((transaction fingerprint kind).run unixEpoch db).map Prod.snd).getD db

theorem run_alone {fingerprint : AdmissionRequest → Nat} {db : Db ℚ} {kind : Transaction}
    {outcome : Outcome}
    (h : ((transaction fingerprint kind).run unixEpoch db).map Prod.fst = some outcome) :
    (transaction fingerprint kind).run unixEpoch db
      = some (outcome, afterAlone fingerprint db kind) := by
  unfold afterAlone
  obtain ⟨⟨outcome', db'⟩, hrun, houtcome⟩ := Option.map_eq_some_iff.mp h
  rw [hrun]
  cases houtcome
  rfl

/-- The database once the request is admitted. -/
def takenSlot : Db ℚ := afterAlone (fun _ => 0) (emptyDb ℚ oneSlot) (.acquire oneRequest)

/-- The request is admitted while the second one is under way. -/
theorem oneRequest_commits :
    ∃ (s : DbState ℚ) (σ : Session (Db ℚ) RowLock Outcome),
      (executions ℚ fun _ => 0).Reachable s ∧ s.sessions 0 = some (.acquire oneRequest, σ) ∧
      σ.prog = .commit (.admitted (grantedLease unixEpoch oneRequest) unixEpoch) ∧
      s.sessions 1 = rivals 1 ∧
      (executions ℚ fun _ => 0).step s (.commit 0) ⟨takenSlot, unixEpoch, rivals⟩ := by
  let start : DbState ℚ := ⟨emptyDb ℚ oneSlot, unixEpoch, rivals⟩
  have hstart : (executions ℚ fun _ => 0).Reachable start := by
    have hbegun := System.Reachable.step _
      (.init (S := executions ℚ fun _ => 0) ⟨rfl, rfl⟩)
      ⟨Step.begin ⟨emptyDb ℚ oneSlot, unixEpoch, fun _ => none⟩ 1 (.acquire rivalRequest) rfl,
        trivial⟩
    have hstarted := System.Reachable.step _ hbegun
      ⟨Step.start _ 1 (.acquire rivalRequest) _ (State.set_self _ 1 _) rfl, trivial⟩
    rwa [State.set_set] at hstarted
  have hrival : ∀ j kind σ, rivals j = some (kind, σ) →
      σ.held = [] ∧ kind = .acquire rivalRequest := by
    intro j kind σ hj
    simp only [rivals, Function.update_apply] at hj
    split at hj <;> cases hj
    exact ⟨rfl, rfl⟩
  have hrun := run_alone oneRequest_admitted
  obtain ⟨ls, held, pending, hdb, hsteps⟩ := run_reaches_commit (transaction fun _ => 0)
    (fun db : Db ℚ => db.leases = ∅) RenewalsOfGranted 0 rivals
    (fun j kind σ hj => (hrival j kind σ hj).1)
    (fun s l s' hl => by obtain rfl | ⟨now, rfl⟩ := hl <;> trivial)
    unixEpoch (.acquire oneRequest) _ [] id (emptyDb ℚ oneSlot) hrun
  have hbegun := System.Reachable.step _ hstart
    ⟨Step.begin start 0 (.acquire oneRequest) rfl, trivial⟩
  have hsession := State.set_self start 0 (some (Transaction.acquire oneRequest,
    ⟨.commit (.admitted (grantedLease unixEpoch oneRequest) unixEpoch), held, pending, none⟩))
  have hcommit := Step.commit _ 0 _ _ _ hsession rfl (p := transaction fun _ => 0)
  rw [State.set_set, State.set_none start rfl] at hcommit
  rw [takenSlot, ← hdb]
  refine ⟨_, _, hbegun.steps _ hsteps, hsession, rfl, State.set_of_ne start (by decide) _,
    hcommit, ?_⟩
  -- neither of the two is a renewal
  intro r σ lease now _ _ j leases τ hj
  by_cases hzero : j = 0
  · rw [hzero, hsession] at hj
    cases hj
  · rw [State.set_of_ne start hzero] at hj
    cases (hrival j _ τ hj).2

/-- An execution in which an admission commits while another one is under way. -/
theorem no_over_admission_oneRequest :
    ∃ (s s' : DbState ℚ) (σ : Session (Db ℚ) RowLock Outcome),
      (executions ℚ fun _ => 0).Reachable s ∧ s.sessions 0 = some (.acquire oneRequest, σ) ∧
      (s.sessions 1).isSome ∧ (executions ℚ fun _ => 0).step s (.commit 0) s' ∧
      WithinLimits oneRequest unixEpoch s'.db := by
  obtain ⟨s, σ, hs, hi, hprog, hrival, hstep⟩ := oneRequest_commits
  exact ⟨s, _, σ, hs, hi, by rw [hrival]; rfl, hstep,
    (no_over_admission _ _ _ 0 oneRequest _ _ _ hs hi hprog hstep).2⟩

/-- **The reserve leaves room**: at any moment of any execution, while fewer leases of the
    high classes are active than a pool has reserved, the pool is below its limit. -/
theorem reserve_leaves_room [RateArith F] (fingerprint : AdmissionRequest → Nat) (s : DbState F)
    (poolID : Int) (pool : PoolRow) (hs : (executions F fingerprint).Reachable s)
    (hpool : s.db.configuration.pools poolID = some pool)
    (hhigh : (activeCount s.db (fun row => decide (row.poolID = poolID) && !row.lower) s.clock
      : Int) < pool.highPriorityReserve) :
    (poolCount s.db poolID s.clock : Int) < pool.maxGatewayInflight := by
  have hlower := (sound_execution hs).inv poolID pool hpool (by omega)
  have hsplit : poolCount s.db poolID s.clock = lowerCount s.db poolID s.clock
      + activeCount s.db (fun row => decide (row.poolID = poolID) && !row.lower) s.clock := by
    simp only [poolCount, lowerCount, activeCount, Bool.and_right_comm _ _ (decide (s.clock < _))]
    exact Table.count_split s.db.leases
  omega

/-- The one place of the lower classes is taken, with another request for it under way. -/
theorem reserve_leaves_room_oneSlot :
    ∃ s : DbState ℚ, (executions ℚ fun _ => 0).Reachable s ∧ (s.sessions 1).isSome ∧
      lowerCount s.db 1 s.clock = 1 ∧ (poolCount s.db 1 s.clock : Int) < 2 := by
  obtain ⟨s, σ, hs, -, -, -, hstep⟩ := oneRequest_commits
  have hafter := System.Reachable.step _ hs hstep
  exact ⟨_, hafter, rfl, by decide,
    reserve_leaves_room (fun _ => 0) _ 1 .pair hafter rfl (by decide)⟩

end Coordination.PostgresAdmission
