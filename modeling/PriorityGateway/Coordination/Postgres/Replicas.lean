import PriorityGateway.Coordination.Postgres.Admission
import PriorityGateway.Coordination.Postgres.Health

/-! # Replicas Agree on One Policy

    The table of replicas and the heartbeat transaction of `heartbeatOnce`.
    Any number of replica processes run it, several of them under one replica
    id if a process was started again, each with the fingerprint of its own
    policy.  Transactions are serialisable, so that a run is a list of whole
    transactions; each takes one reading of the database clock.

    A row is live while its heartbeat has not expired.  Rows expire without a
    transaction, and a late renewal brings an expired row back, so the
    invariant is about the rows that are live at an instant: from the latest
    reading on they carry one fingerprint (`SamePolicy`).  A transaction looks
    at the live rows of the other replicas only; its own row is overwritten by
    a registration, and by a renewal only if it has the fingerprint already. -/

namespace Coordination.Replicas

open PostgresAdmission (timestamptz)
open PostgresHealth

/-! ## The table -/

/-- A row of `coordination_replicas`; its key is the replica id. -/
structure ReplicaRow where
  startedAt : Int
  heartbeatAt : Int
  heartbeatExpiresAt : Int
  binaryVersion : String
  coordinationContractVersion : Int
  policyFingerprint : Nat
  deriving DecidableEq, Repr

/-- What a replica process is started with. -/
structure Replica where
  replicaID : UUID
  startedAt : Int
  binary : String
  leaseTTL : Int
  fingerprint : Nat
  deriving DecidableEq, Repr

def coordinationContractVersion : Int := 3

def Replica.ttl (r : Replica) : Int := if r.leaseTTL ≤ 0 then 90 * second else r.leaseTTL

/-- `SELECT count(*) ... WHERE replica_id <> ... AND heartbeat_expires_at > now AND
    policy_fingerprint <> ...` -/
def incompatible (r : Replica) (now : Int) (rows : Table UUID ReplicaRow) : Nat :=
  Table.count (fun id row => decide (id ≠ r.replicaID) && decide (now < row.heartbeatExpiresAt) &&
    decide (row.policyFingerprint ≠ r.fingerprint)) rows

/-- `SELECT count(*) ... WHERE heartbeat_expires_at > now AND policy_fingerprint = ...` -/
def compatible (r : Replica) (now : Int) (rows : Table UUID ReplicaRow) : Nat :=
  Table.count (fun _ row => decide (now < row.heartbeatExpiresAt) &&
    decide (row.policyFingerprint = r.fingerprint)) rows

/-- `INSERT ... ON CONFLICT(replica_id) DO UPDATE SET ...` -/
def register (r : Replica) (now : Int) (rows : Table UUID ReplicaRow) : Table UUID ReplicaRow :=
  rows.insert r.replicaID
    { startedAt := timestamptz r.startedAt
      heartbeatAt := timestamptz now
      heartbeatExpiresAt := timestamptz (now + r.ttl)
      binaryVersion := r.binary
      coordinationContractVersion := coordinationContractVersion
      policyFingerprint := r.fingerprint }

/-- `UPDATE ... WHERE replica_id = ... AND policy_fingerprint = ...`; nothing if no row fits. -/
def renew (r : Replica) (now : Int) (rows : Table UUID ReplicaRow) :
    Option (Table UUID ReplicaRow) :=
  match rows.lookup r.replicaID with
  | none => none
  | some row =>
    if row.policyFingerprint = r.fingerprint then
      some (rows.insert r.replicaID
        { row with
          heartbeatAt := timestamptz now
          heartbeatExpiresAt := timestamptz (now + r.ttl) })
    else none

/-! ## The transaction -/

/-- How the end of a transaction turns out. -/
inductive Commit where
  | done
  /-- nothing was committed, for example for a serialisation failure -/
  | refused (err : Err)
  /-- it was committed, but the answer was lost -/
  | unacknowledged (err : Err)
  deriving DecidableEq, Repr

/-- What the database does with the statements of a transaction; `nil` is success. -/
structure Statements where
  counted : Err := .nil
  written : Err := .nil
  commit : Commit := .done
  deriving DecidableEq, Repr

/-- What a transaction leaves and answers. -/
structure Transaction where
  rows : Table UUID ReplicaRow
  beat : Beat
  committed : Bool

/-- The transaction of `heartbeatOnce`, a registration or a renewal. -/
def transaction (r : Replica) (registration : Bool) (statements : Statements) (now : Int)
    (rows : Table UUID ReplicaRow) : Transaction :=
  if statements.counted ≠ .nil then ⟨rows, ⟨statements.counted, 0, .nil, 0⟩, false⟩
  else if 0 < incompatible r now rows then
    ⟨rows, ⟨.nil, incompatible r now rows, .nil, 0⟩, false⟩
  else if statements.written ≠ .nil then ⟨rows, ⟨.nil, 0, statements.written, 0⟩, false⟩
  else
    match if registration then some (register r now rows) else renew r now rows with
    | none => ⟨rows, ⟨.nil, 0, .text "replica registration was lost", 0⟩, false⟩
    | some written =>
      match statements.commit with
      | .done => ⟨written, ⟨.nil, 0, .nil, compatible r now written⟩, true⟩
      | .refused err => ⟨rows, ⟨.nil, 0, err, 0⟩, false⟩
      | .unacknowledged err => ⟨written, ⟨.nil, 0, err, 0⟩, true⟩

/-! ## Replicas at work -/

/-- The table, and what each process knows. -/
structure Cluster (ι : Type) where
  rows : Table UUID ReplicaRow
  managers : ι → ReplicaManager

/-- One heartbeat transaction of one process. -/
structure Heartbeat (ι : Type) where
  replica : ι
  registration : Bool
  statements : Statements := {}

variable {ι : Type} [DecidableEq ι]

/-- `heartbeatOnce` of the processes, in serial order.  The answer tells whether the transaction
    was committed, and what the function returned. -/
def cluster (replicas : ι → Replica) : Machine (Cluster ι) (Int × Heartbeat ι) (Bool × Err) where
  step s c :=
    let tx := transaction (replicas c.2.replica) c.2.registration c.2.statements c.1 s.rows
    let (m, err) := heartbeatOnce (s.managers c.2.replica) c.1 tx.beat
    ({ rows := tx.rows, managers := Function.update s.managers c.2.replica m },
      (tx.committed, err))

/-- No replica has registered yet. -/
def started (ι : Type) : Cluster ι where
  rows := ∅
  managers := fun _ => {}

/-! ## One policy -/

/-- The row is live at `t`. -/
def ReplicaRow.Live (row : ReplicaRow) (t : Int) : Prop := t < row.heartbeatExpiresAt

/-- Every row that is live at `t` has this fingerprint. -/
def LiveUnder (fingerprint : Nat) (t : Int) (rows : Table UUID ReplicaRow) : Prop :=
  ∀ id row, rows.lookup id = some row → row.Live t → row.policyFingerprint = fingerprint

/-- The rows that are live at `t` have one fingerprint. -/
def SamePolicy (t : Int) (rows : Table UUID ReplicaRow) : Prop :=
  ∀ id row id' row', rows.lookup id = some row → rows.lookup id' = some row' →
    row.Live t → row'.Live t → row.policyFingerprint = row'.policyFingerprint

variable {rows : Table UUID ReplicaRow} {t now t' : Int} {s : Cluster ι} {r : Replica}

theorem LiveUnder.samePolicy {fingerprint : Nat} (h : LiveUnder fingerprint t rows) :
    SamePolicy t rows := by
  intro id row id' row' hrow hrow' hlive hlive'
  rw [h id row hrow hlive, h id' row' hrow' hlive']

/-- Rows only stop being live as time goes on. -/
theorem SamePolicy.later (h : SamePolicy t rows) (hle : t ≤ t') : SamePolicy t' rows := by
  intro id row id' row' hrow hrow' hlive hlive'
  exact h id row id' row' hrow hrow' (lt_of_le_of_lt hle hlive) (lt_of_le_of_lt hle hlive')

/-- The count that a transaction makes finds the live rows of other replicas under another
    policy. -/
theorem others_under (h : incompatible r now rows = 0) {id : UUID}
    {row : ReplicaRow} (hrow : rows.lookup id = some row) (hid : id ≠ r.replicaID)
    (hlive : row.Live now) : row.policyFingerprint = r.fingerprint := by
  by_contra hother
  have hcounted : 0 < incompatible r now rows :=
    Table.count_pos_of_lookup hrow (by simp [hid, show now < row.heartbeatExpiresAt from hlive,
      hother])
  omega

/-- A row that is written under the fingerprint joins the live rows of the others. -/
theorem liveUnder_insert (h : incompatible r now rows = 0)
    {written : ReplicaRow} (hwritten : written.policyFingerprint = r.fingerprint) :
    LiveUnder r.fingerprint now (rows.insert r.replicaID written) := by
  intro id row hrow hlive
  rw [Table.lookup_insert_eq] at hrow
  split at hrow
  · cases hrow
    exact hwritten
  · rename_i hid
    exact others_under h hrow hid hlive

/-- **Transaction lemma**: a transaction that commits leaves its own policy live and no other;
    any other transaction changes nothing. -/
theorem transaction_cases (r : Replica) (registration : Bool) (statements : Statements)
    (now : Int) (rows : Table UUID ReplicaRow) :
    ((transaction r registration statements now rows).committed = false ∧
      (transaction r registration statements now rows).rows = rows) ∨
    ((transaction r registration statements now rows).committed = true ∧
      LiveUnder r.fingerprint now (transaction r registration statements now rows).rows) := by
  unfold transaction
  split
  · exact .inl ⟨rfl, rfl⟩
  split
  · exact .inl ⟨rfl, rfl⟩
  rename_i hcompatible
  have hnone : incompatible r now rows = 0 := by omega
  split
  · exact .inl ⟨rfl, rfl⟩
  -- what the statement writes, a new row or the renewed one
  have hwrite : ∀ written,
      (if registration then some (register r now rows) else renew r now rows) = some written →
      LiveUnder r.fingerprint now written := by
    intro written hwritten
    cases registration with
    | true =>
      cases hwritten
      exact liveUnder_insert hnone rfl
    | false =>
      replace hwritten : renew r now rows = some written := hwritten
      unfold renew at hwritten
      split at hwritten
      · cases hwritten
      split at hwritten
      · rename_i row _ hown
        cases hwritten
        exact liveUnder_insert hnone hown
      · cases hwritten
  split
  · exact .inl ⟨rfl, rfl⟩
  rename_i written hwritten
  cases statements.commit with
  | done | unacknowledged err => exact .inr ⟨rfl, hwrite written hwritten⟩
  | refused err => exact .inl ⟨rfl, rfl⟩

theorem samePolicy_step (replicas : ι → Replica) {c : Int × Heartbeat ι}
    (h : SamePolicy c.1 s.rows) : SamePolicy c.1 ((cluster replicas).step s c).1.rows := by
  show SamePolicy c.1 (transaction (replicas c.2.replica) c.2.registration c.2.statements c.1
    s.rows).rows
  rcases transaction_cases (replicas c.2.replica) c.2.registration c.2.statements c.1 s.rows with
    ⟨-, hrows⟩ | ⟨-, hunder⟩
  · rw [hrows]
    exact h
  · exact hunder.samePolicy

/-- **Run lemma**: at the latest reading the live rows have one fingerprint. -/
theorem samePolicy_run (replicas : ι → Replica) (calls : List (Int × Heartbeat ι))
    (hclock : (calls.map Prod.fst).Pairwise (· ≤ ·)) (hend : ∀ c ∈ calls, c.1 ≤ t) :
    SamePolicy t ((cluster replicas).after (started ι) calls).rows :=
  (cluster replicas).history_of_init (fun _ => ([] : List Unit))
    (I := fun t _ s => SamePolicy t s.rows) (G := fun _ _ => True)
    (fun _ _ _ _ hle h => h.later hle) hclock hend (fun _ _ _ _ h _ => samePolicy_step replicas h)
    (fun _ => nofun) (Machine.along_of_forall _ _ calls fun _ _ => trivial)

/-- **One coordination policy at a time.**  Processes with any replica ids and fingerprints run
    heartbeat transactions in any serial order, on a clock that does not go back.  Right after a
    transaction that commits at `now`, every row that is live at `now` carries the fingerprint of
    that process; and after every transaction the live rows agree, at its reading and later. -/
theorem one_policy_at_a_time (replicas : ι → Replica) (calls : List (Int × Heartbeat ι))
    (c : Int × Heartbeat ι) (hclock : ((calls ++ [c]).map Prod.fst).Pairwise (· ≤ ·)) :
    let before := (cluster replicas).after (started ι) calls
    let next := (cluster replicas).step before c
    (next.2.1 = true → LiveUnder (replicas c.2.replica).fingerprint c.1 next.1.rows) ∧
    ∀ t, c.1 ≤ t → SamePolicy t next.1.rows := by
  intro before next
  rw [List.map_append, List.pairwise_append] at hclock
  obtain ⟨hcalls, -, hlast⟩ := hclock
  have hbefore : SamePolicy c.1 before.rows := samePolicy_run replicas calls hcalls
    fun d hd => hlast d.1 (List.mem_map.mpr ⟨d, hd, rfl⟩) c.1 (by simp)
  refine ⟨fun hcommitted => ?_, fun t ht => (samePolicy_step replicas hbefore).later ht⟩
  rcases transaction_cases (replicas c.2.replica) c.2.registration c.2.statements c.1
    before.rows with ⟨haborted, -⟩ | ⟨-, hunder⟩
  · exact absurd (hcommitted.symm.trans haborted) (by decide)
  · exact hunder

/-- Two processes with different policies. -/
def twoReplicas : Bool → Replica
  | false => ⟨1, 0, "v1", 0, 7⟩
  | true => ⟨2, 0, "v2", 0, 8⟩

/-- The second process is refused as long as the first one is live. -/
def takeover : List (Int × Heartbeat Bool) :=
  [(0, { replica := false, registration := true }),
   (10 * second, { replica := true, registration := true })]

/-- Once the first process has expired, the second one registers and its policy is the one. -/
theorem one_policy_at_a_time_takeover :
    let before := (cluster twoReplicas).after (started Bool) takeover
    let next := (cluster twoReplicas).step before
      (90 * second, { replica := true, registration := true })
    ((cluster twoReplicas).answers (started Bool) takeover).map Prod.fst = [true, false] ∧
    next.2.1 = true ∧ LiveUnder 8 (90 * second) next.1.rows := by
  have hcommitted : ((cluster twoReplicas).step
      ((cluster twoReplicas).after (started Bool) takeover)
      (90 * second, { replica := true, registration := true })).2.1 = true := by decide +kernel
  exact ⟨by decide +kernel, hcommitted,
    (one_policy_at_a_time twoReplicas takeover _ (by decide)).1 hcommitted⟩

end Coordination.Replicas
