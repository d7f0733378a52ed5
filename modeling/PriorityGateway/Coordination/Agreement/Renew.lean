import PriorityGateway.Coordination.Agreement.Relation

/-! # Renewals Agree

    The local coordinator goes through a batch entry by entry; PostgreSQL
    reads the rows of a chunk once, collects the new expiries in a map and
    writes them in one statement.  As long as the entries carry the identity
    and the TTL that were granted, both come to the same: every lease of the
    batch that is still there is extended to `now` plus its TTL, any number
    of times, and every other entry is lost. -/

namespace Coordination.Agreement

open LocalAdmission (AdmissionReceipt AdmissionCoordinator Retained renewEntry renewBatch)
open PostgresAdmission (Db OperationRow LeaseRow renewedUntil renewedRow timestamptz renewUpdates
  renewedOperation renew_run renewResult serialRenew)

/-! ## The local batch -/

/-- An entry carries the identity and the TTL of a lease. -/
structure SameIdentity (want lease : LeaseIdentity) : Prop where
  clientID : want.clientID = lease.clientID
  poolID : want.poolID = lease.poolID
  requestID : want.requestID = lease.requestID
  replicaID : want.replicaID = lease.replicaID
  ttl : want.ttl = lease.ttl

instance (want lease : LeaseIdentity) : Decidable (SameIdentity want lease) :=
  decidable_of_iff (want.clientID = lease.clientID ∧ want.poolID = lease.poolID ∧
      want.requestID = lease.requestID ∧ want.replicaID = lease.replicaID ∧
      want.ttl = lease.ttl)
    ⟨fun ⟨hclient, hpool, hrequest, hreplica, httl⟩ => ⟨hclient, hpool, hrequest, hreplica, httl⟩,
      fun h => ⟨h.clientID, h.poolID, h.requestID, h.replicaID, h.ttl⟩⟩

/-- The entries of a batch that name a stored lease carry its identity and TTL. -/
def Owns (s : AdmissionCoordinator ℚ) (leases : List LeaseIdentity) : Prop :=
  ∀ want ∈ leases, ∀ lease, s.leases.lookup want.leaseID = some lease → SameIdentity want lease

instance (s : AdmissionCoordinator ℚ) (leases : List LeaseIdentity) : Decidable (Owns s leases) :=
  inferInstanceAs (Decidable (∀ want ∈ leases, ∀ lease ∈ s.leases.lookup want.leaseID,
    SameIdentity want lease))

/-- A lease extended at `now` by its own TTL. -/
def renewedLease (now : Int) (lease : LeaseIdentity) : LeaseIdentity :=
  { lease with expiresAt := now + lease.ttl }

/-- Every stored lease can be renewed at `now`. -/
def Renewable (now : Int) (s : AdmissionCoordinator ℚ) : Prop :=
  ∀ id lease, s.leases.lookup id = some lease → now < lease.expiresAt ∧ 0 < lease.ttl

/-- The verdict on an entry, given the lease that is stored under its id. -/
def renewVerdict (lease : Option LeaseIdentity) : Option Reason :=
  if lease.isSome then none else some .leaseLost

/-- `s'` is `s` with the leases among `ids` extended at `now`. -/
structure Renewed (now : Int) (ids : List UUID) (s s' : AdmissionCoordinator ℚ) : Prop where
  leases : ∀ id, s'.leases.lookup id
    = if id ∈ ids then (s.leases.lookup id).map (renewedLease now) else s.leases.lookup id
  receipts : s'.receipts = s.receipts
  policies : s'.policies = s.policies
  rates : s'.rates = s.rates

section Batch

variable {now : Int} {s s' : AdmissionCoordinator ℚ} {want got : LeaseIdentity}

theorem renewEntry_of_some (h : s.leases.lookup want.leaseID = some got)
    (hsame : SameIdentity want got) (hlive : now < got.expiresAt) (httl : 0 < got.ttl) :
    renewEntry now s want
      = (LocalAdmission.extendLease s want.leaseID (renewedLease now got),
          { lease := renewedLease now got }) := by
  have hown : ¬ (got.clientID ≠ want.clientID ∨ got.poolID ≠ want.poolID ∨
      ¬ now < got.expiresAt) := by
    rw [hsame.clientID, hsame.poolID]
    simpa using hlive
  unfold renewEntry
  simp only [h, if_neg hown, if_neg (not_le.mpr httl)]
  rfl

/-- One entry extends what is stored under its id, if anything is. -/
theorem renewEntry_renewed (hrenewable : Renewable now s)
    (hsame : ∀ lease, s.leases.lookup want.leaseID = some lease → SameIdentity want lease) :
    Renewed now [want.leaseID] s (renewEntry now s want).1 ∧
    (renewEntry now s want).2.reason
      = renewVerdict (s.leases.lookup want.leaseID) := by
  rcases h : s.leases.lookup want.leaseID with _ | got
  · simp only [renewEntry, LocalAdmission.removeLease, h]
    refine ⟨⟨?_, rfl, rfl, rfl⟩, rfl⟩
    intro id
    split
    · next hid =>
      rw [List.mem_singleton.mp hid, h]
      rfl
    · rfl
  obtain ⟨hlive, httl⟩ := hrenewable _ got h
  rw [renewEntry_of_some h (hsame got h) hlive httl]
  refine ⟨⟨?_, rfl, rfl, rfl⟩, rfl⟩
  intro id
  show (s.leases.insert want.leaseID (renewedLease now got)).lookup id = _
  rw [Table.lookup_insert_eq]
  simp only [List.mem_singleton]
  split
  · next hid =>
    rw [hid, h]
    rfl
  · rfl

theorem Renewed.refl (now : Int) (s : AdmissionCoordinator ℚ) : Renewed now [] s s :=
  ⟨fun _ => by simp, rfl, rfl, rfl⟩

variable {ids : List UUID}

section

variable (h : Renewed now ids s s')

include h

theorem Renewed.trans {s'' : AdmissionCoordinator ℚ} {ids' : List UUID}
    (h' : Renewed now ids' s' s'') : Renewed now (ids ++ ids') s s'' := by
  refine ⟨?_, h'.receipts.trans h.receipts, h'.policies.trans h.policies,
    h'.rates.trans h.rates⟩
  intro id
  rw [h'.leases, h.leases]
  simp only [List.mem_append]
  by_cases hid : id ∈ ids <;> by_cases hid' : id ∈ ids' <;> simp only [hid, hid', if_true, if_false,
    true_or, or_true, or_self]
  · rw [Option.map_map]
    rfl

/-- A renewed state can be renewed again. -/
theorem Renewed.renewable (hs : Renewable now s) : Renewable now s' := by
  intro id lease hlease
  rw [h.leases] at hlease
  split at hlease
  · obtain ⟨old, hold, rfl⟩ := Option.map_eq_some_iff.mp hlease
    have httl := (hs id old hold).2
    unfold renewedLease
    dsimp only
    omega
  · exact hs id lease hlease

theorem Renewed.owns {leases : List LeaseIdentity} (hs : Owns s leases) : Owns s' leases := by
  intro want hwant lease hlease
  rw [h.leases] at hlease
  split at hlease
  · obtain ⟨old, hold, rfl⟩ := Option.map_eq_some_iff.mp hlease
    have hsame := hs want hwant old hold
    exact ⟨hsame.clientID, hsame.poolID, hsame.requestID, hsame.replicaID, hsame.ttl⟩
  · exact hs want hwant lease hlease

/-- Renewals do not change which leases are there. -/
theorem Renewed.verdict (id : UUID) :
    renewVerdict (s'.leases.lookup id) = renewVerdict (s.leases.lookup id) := by
  unfold renewVerdict
  rw [h.leases]
  split
  · rw [Option.isSome_map]
  · rfl

end

/-- **The local batch**: every lease of the batch is extended, every other entry is lost. -/
theorem renewBatch_renewed (leases : List LeaseIdentity) (s : AdmissionCoordinator ℚ)
    (hrenewable : Renewable now s) (howns : Owns s leases) :
    Renewed now (leases.map LeaseIdentity.leaseID) s
      ((renewBatch now).after s leases) ∧
    ((renewBatch now).answers s leases).map RenewResult.reason
      = leases.map fun want => renewVerdict (s.leases.lookup want.leaseID) := by
  induction leases generalizing s with
  | nil => exact ⟨.refl now s, rfl⟩
  | cons want leases ih =>
    obtain ⟨hentry, hreason⟩ := renewEntry_renewed hrenewable (howns want List.mem_cons_self)
    have hrest : Owns s leases := fun w hw => howns w (List.mem_cons_of_mem _ hw)
    obtain ⟨hbatch, hreasons⟩ := ih _ (hentry.renewable hrenewable) (hentry.owns hrest)
    refine ⟨hentry.trans hbatch, ?_⟩
    simp only [hentry.verdict] at hreasons
    exact congrArg₂ List.cons hreason hreasons

theorem renewBatch_retained {fingerprint : AdmissionRequest → Nat} (leases : List LeaseIdentity)
    (h : Retained fingerprint now s) :
    Retained fingerprint now ((renewBatch now).after s leases) := by
  refine (renewBatch now).after_inv_all ?_ s leases h
  intro a want ha
  have htrail : LocalAdmission.Silent fingerprint false now .status a
      (renewEntry now a want).1 := LocalAdmission.renewEntry_trail a want
  exact htrail.inv_state (fun _ _ _ hb hm => LocalAdmission.retained_move hb hm) ha

end Batch

/-! ## The rows of a chunk -/

namespace Core

variable {fingerprint : AdmissionRequest → Nat} {gone : UUID → Prop} {now : Int}
  {s s' : AdmissionCoordinator ℚ} {db : Db ℚ}

variable (h : Core fingerprint gone now s db)

include h

/-- What is stored has not run out, so it can be renewed. -/
theorem renewable (hlive : ∀ id lease, s.leases.lookup id = some lease → now < lease.expiresAt) :
    Renewable now s := by
  intro id lease hlease
  obtain ⟨row, receipt, -, -, hholds⟩ := h.lease id lease hlease
  refine ⟨hlive id lease hlease, ?_⟩
  rw [hholds.ttl.1]
  exact hholds.ttl.2.1

/-- PostgreSQL renews exactly the stored leases. -/
theorem renewedUntil_eq (hrenewable : Renewable now s) {want : LeaseIdentity}
    (hsame : ∀ lease, s.leases.lookup want.leaseID = some lease → SameIdentity want lease) :
    renewedUntil now (db.leases.lookup want.leaseID) want
      = (s.leases.lookup want.leaseID).map fun lease => now + lease.ttl := by
  unfold renewedUntil
  rcases hlease : s.leases.lookup want.leaseID with _ | lease
  · cases hrow : db.leases.lookup want.leaseID with
    | none => rfl
    | some row => simp [h.row_over hlease hrow]
  obtain ⟨row, receipt, hrow, -, hholds⟩ := h.lease _ lease hlease
  obtain ⟨hlive, httl⟩ := hrenewable _ lease hlease
  have hid := hsame lease hlease
  -- identity, expiry and TTL of the row all fit
  have howned : ¬ (row.clientID ≠ want.clientID ∨ row.poolID ≠ want.poolID ∨
      row.requestID ≠ want.requestID ∨ row.replicaID ≠ want.replicaID ∨
      row.expiresAt ≤ now ∨ want.ttl ≤ 0) := by
    rw [hid.clientID, hid.poolID, hid.requestID, hid.replicaID, hid.ttl, hholds.expiresAt,
      hholds.clientID.1, hholds.clientID.2, hholds.poolID.1, hholds.poolID.2,
      hholds.requestID.1, hholds.requestID.2, hholds.replicaID.1, hholds.replicaID.2]
    simp [hlive, httl]
  rw [hrow]
  dsimp only
  rw [if_neg howned, hid.ttl]
  rfl

variable {id : UUID} {leases : List LeaseIdentity}

theorem renewedRow_of_some (hrenewable : Renewable now s) (howns : Owns s leases) (hepoch : 0 ≤ now)
    (hwhole : now % 1000 = 0) {lease : LeaseIdentity} {row : LeaseRow}
    (hlease : s.leases.lookup id = some lease) (hrow : db.leases.lookup id = some row) :
    renewedRow leases now db id
      = some (if id ∈ leases.map LeaseIdentity.leaseID then
          { row with expiresAt := now + lease.ttl } else row) := by
  obtain ⟨row', receipt, hrow', -, hholds⟩ := h.lease id lease hlease
  rw [hrow] at hrow'
  cases hrow'
  obtain ⟨hlive, httl⟩ := hrenewable id lease hlease
  have hstored : timestamptz (now + lease.ttl) = now + lease.ttl := by
    apply PostgresAdmission.timestamptz_of_whole
    rw [hholds.ttl.1]
    have := hholds.ttl.2.2
    omega
  -- all entries of this id renew it until the same instant
  have hupdates : renewUpdates now db.leases.lookup leases id
      = if id ∈ leases.map LeaseIdentity.leaseID then some (now + lease.ttl) else none := by
    apply PostgresAdmission.renewUpdates_of_same (by omega)
    rintro want hwant rfl
    rw [h.renewedUntil_eq hrenewable (howns want hwant), hlease]
    rfl
  unfold renewedRow
  rw [hrow, hupdates]
  by_cases hid : id ∈ leases.map LeaseIdentity.leaseID
  · have hlater : ¬ now + lease.ttl ≤ now := by omega
    simp only [hid, if_true, hstored, hlater, and_false, if_false]
  · simp only [hid, if_false, false_and]

/-- A row without a stored lease goes if the chunk names it. -/
theorem renewedRow_of_none (hlease : s.leases.lookup id = none) :
    renewedRow leases now db id
      = if id ∈ leases.map LeaseIdentity.leaseID then none else db.leases.lookup id := by
  unfold renewedRow
  rcases hrow : db.leases.lookup id with _ | row
  · simp
  have hover := h.row_over hlease hrow
  have hupdates : renewUpdates now db.leases.lookup leases id = none := by
    cases hupdate : renewUpdates now db.leases.lookup leases id with
    | none => rfl
    | some expires =>
      obtain ⟨-, row', hrow', hactive⟩ := PostgresAdmission.renewUpdates_some hupdate
      rw [hrow] at hrow'
      cases hrow'
      omega
  simp only [hupdates, hover, and_true]

/-! ## Chunks and calls -/

omit h in
/-- A chunk leaves the receipt rows as they were, up to the marks of lost leases. -/
theorem renewedOperation_some {op' : OperationRow}
    (hop' : renewedOperation leases now db id = some op') :
    ∃ op, db.operations.lookup id = some op ∧
      (op' = op ∨ op' = PostgresAdmission.expireOperation now op ∧
        renewedRow leases now db id = none) := by
  unfold renewedOperation at hop'
  obtain ⟨op, hop, rfl⟩ := Option.map_eq_some_iff.mp hop'
  refine ⟨op, hop, ?_⟩
  split
  · next hlost =>
    rw [Bool.and_eq_true, Option.isNone_iff_eq_none] at hlost
    exact .inr ⟨rfl, hlost.2⟩
  · exact .inl rfl

/-- **A chunk agrees.** -/
theorem renewChunk (hlive : ∀ id lease, s.leases.lookup id = some lease → now < lease.expiresAt)
    (howns : Owns s leases) (hepoch : 0 ≤ now) (hwhole : now % 1000 = 0)
    (hrenewed : Renewed now (leases.map LeaseIdentity.leaseID) s s')
    (hretained : Retained fingerprint now s') :
    ∃ results db', (PostgresAdmission.renew leases).run now db = some (.renewed results, db') ∧
      results.map RenewResult.reason
        = leases.map (fun want => renewVerdict (s.leases.lookup want.leaseID)) ∧
      Core fingerprint gone now s' db' := by
  have hrenewable := h.renewable hlive
  obtain ⟨db', hrun, hconfiguration, hrates, hleases, hoperations⟩ :=
    renew_run leases now db
  refine ⟨_, db', hrun, ?_, ?_⟩
  · rw [List.map_map]
    apply List.map_congr_left
    intro want hwant
    show (renewResult now db.leases.lookup want).reason = _
    unfold renewResult
    rw [h.renewedUntil_eq hrenewable (howns want hwant)]
    cases s.leases.lookup want.leaseID <;> rfl
  refine ⟨hretained, ?_, ?_, ?_, ?_, ?_, ?_, ?_, ?_⟩
  · intro id receipt hreceipt
    rw [hrenewed.receipts] at hreceipt
    obtain ⟨op, hop, hm⟩ := h.receipt id receipt hreceipt
    rw [hoperations]
    unfold renewedOperation
    rw [hop]
    refine ⟨_, rfl, ?_⟩
    split
    · exact hm.expireOperation now
    · exact hm
  · intro id op' hop' hnone
    rw [hoperations] at hop'
    rw [hrenewed.receipts] at hnone
    obtain ⟨op, hop, -⟩ := renewedOperation_some hop'
    exact h.gone id op hop hnone
  · intro id lease' hlease'
    rw [hrenewed.leases] at hlease'
    rw [hrenewed.receipts, hleases]
    rcases hlease : s.leases.lookup id with _ | lease
    · simp [hlease] at hlease'
    obtain ⟨row, receipt, hrow, hreceipt, hholds⟩ := h.lease id lease hlease
    rw [h.renewedRow_of_some hrenewable howns hepoch hwhole hlease hrow]
    refine ⟨_, receipt, rfl, hreceipt, ?_⟩
    rw [hlease] at hlease'
    split at hlease'
    · next hid =>
      cases hlease'
      rw [if_pos hid]
      exact ⟨hholds.clientID, hholds.poolID, hholds.requestID, hholds.replicaID, rfl,
        hholds.priorityClass, hholds.ttl⟩
    · next hid =>
      cases hlease'
      rw [if_neg hid]
      exact hholds
  · intro id row' hrow' hactive
    rw [hleases] at hrow'
    rw [hrenewed.leases]
    cases hlease : s.leases.lookup id with
    | none =>
      -- only a row that the chunk does not name is left, and it has run out
      rw [h.renewedRow_of_none hlease] at hrow'
      split at hrow'
      · cases hrow'
      · have := h.row_over hlease hrow'
        omega
    | some lease =>
      split
      · exact ⟨_, rfl⟩
      · exact ⟨lease, rfl⟩
  · intro id op' hop' hlost
    rw [hoperations] at hop'
    have hnone : s.leases.lookup id = none := by
      rcases hlease : s.leases.lookup id with _ | lease
      · rfl
      obtain ⟨row, receipt, hrow, -, -⟩ := h.lease id lease hlease
      obtain ⟨op, hop, rfl | ⟨-, hgone⟩⟩ := renewedOperation_some hop'
      · rw [h.lost id op' hop hlost] at hlease
        cases hlease
      · rw [h.renewedRow_of_some hrenewable howns hepoch hwhole hlease hrow] at hgone
        cases hgone
    rw [hrenewed.leases, hnone]
    split <;> rfl
  · intro id row' hrow'
    rw [hleases] at hrow'
    have hrow : ∃ row, db.leases.lookup id = some row := by
      unfold renewedRow at hrow'
      split at hrow'
      · cases hrow'
      · next row hrow => exact ⟨row, hrow⟩
    obtain ⟨row, hrow⟩ := hrow
    obtain ⟨op, hop⟩ := h.operation id row hrow
    rw [hoperations]
    unfold renewedOperation
    rw [hop]
    exact ⟨_, rfl⟩
  · rw [hrenewed.receipts, hrenewed.policies]
    exact h.observed
  · rw [hconfiguration, hrates, hrenewed.policies, hrenewed.rates]
    exact h.rates

omit h in
/-- The chunks of a call, one transaction after the other. -/
theorem renewChunks (chunks : List (List LeaseIdentity)) (h : Core fingerprint gone now s db)
    (hlive : ∀ id lease, s.leases.lookup id = some lease → now < lease.expiresAt)
    (howns : Owns s chunks.flatten) (hepoch : 0 ≤ now) (hwhole : now % 1000 = 0) :
    ∃ results db', PostgresAdmission.renewChunks now db chunks = (db', some results) ∧
      results.map RenewResult.reason
        = ((renewBatch now).answers s chunks.flatten).map RenewResult.reason ∧
      Core fingerprint gone now ((renewBatch now).after s chunks.flatten) db' := by
  induction chunks generalizing s db with
  | nil => exact ⟨[], db, rfl, rfl, h⟩
  | cons chunk chunks ih =>
    have hfirst : Owns s chunk := fun w hw => howns w (List.mem_append_left _ hw)
    have hrest : Owns s chunks.flatten := fun w hw => howns w (List.mem_append_right _ hw)
    obtain ⟨hrenewed, hreasons⟩ := renewBatch_renewed chunk s (h.renewable hlive) hfirst
    obtain ⟨results, db₁, hrun, hchunk, hcore⟩ := h.renewChunk hlive hfirst hepoch hwhole hrenewed
      (renewBatch_retained chunk h.retained)
    -- the leases of the next chunk are still live
    have hlive₁ : ∀ id lease, ((renewBatch now).after s chunk).leases.lookup id
        = some lease → now < lease.expiresAt := fun id lease hlease =>
      (hrenewed.renewable (h.renewable hlive) id lease hlease).1
    obtain ⟨more, db₂, hmore, hmoreReasons, hcore₂⟩ := ih hcore hlive₁ (hrenewed.owns hrest)
    refine ⟨results ++ more, db₂, ?_, ?_, ?_⟩
    · unfold PostgresAdmission.renewChunks
      rw [hrun]
      simp only [hmore, Option.map_some]
    · rw [List.flatten_cons, Machine.answers_append, List.map_append, List.map_append,
        hmoreReasons, hchunk, hreasons]
    · rw [List.flatten_cons, Machine.after_append]
      exact hcore₂

/-- **Renewals agree.** -/
theorem renew (hended : ∀ id receipt, s.receipts.lookup id = some receipt → receipt.Ended →
      receipt.retainUntil ≤ now → gone id) (howns : Owns s leases) (hepoch : 0 ≤ now)
    (hwhole : now % 1000 = 0) :
    ∃ results db', serialRenew now db leases = (db', some results) ∧
      results.map RenewResult.reason
        = (LocalAdmission.renew s now leases).2.map RenewResult.reason ∧
      Core fingerprint gone now (LocalAdmission.renew s now leases).1 db' := by
  have hlive := LocalAdmission.expire_live h.retained.good now
  have hflatten := PostgresAdmission.renewalChunks_flatten leases.length leases (le_refl _)
  have hkept : Owns (LocalAdmission.expire s now) leases := by
    intro want hwant lease hlease
    exact howns want hwant lease
      ((LocalAdmission.expire_lookup h.retained.good now _ lease).mp hlease).1
  have hchunks := (h.expire hended).renewChunks
    (PostgresAdmission.renewalChunks leases.length leases) hlive (by rw [hflatten]; exact hkept)
    hepoch hwhole
  rw [hflatten] at hchunks
  exact hchunks

end Core

end Coordination.Agreement
