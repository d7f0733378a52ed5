import PriorityGateway.Coordination.Agreement.Run

/-! # A Renewal by Somebody Else

    An entry of a renewal may carry the id of a lease but not its client or
    pool.  PostgreSQL answers that the lease is lost and leaves the lease and
    its receipt alone: "an identity mismatch must not mark another replica's
    still-live admission as expired".  The local coordinator gives the same
    answer and removes the lease, so that its owner can neither renew it nor
    complete it as released. -/

namespace Coordination

/-! ## The local coordinator loses the lease -/

namespace LocalAdmission

variable {F : Type}

/-- An entry carries another client or another pool than the lease. -/
def Foreign (want lease : LeaseIdentity) : Prop :=
  want.clientID ≠ lease.clientID ∨ want.poolID ≠ lease.poolID

/-- Under `id` there is nothing, or a lease of this client and this pool. -/
def OwnedBy (lease : LeaseIdentity) (id : UUID) (s : AdmissionCoordinator F) : Prop :=
  ∀ got, s.leases.lookup id = some got →
    got.clientID = lease.clientID ∧ got.poolID = lease.poolID

section Entries

variable {now : Int} {s : AdmissionCoordinator F} {want lease : LeaseIdentity} {id : UUID}

variable {got : LeaseIdentity}

/-- What an entry leaves under an id was there before, but for the expiry. -/
theorem renewEntry_lookup (h : (renewEntry now s want).1.leases.lookup id = some got) :
    ∃ old, s.leases.lookup id = some old ∧
      old.clientID = got.clientID ∧ old.poolID = got.poolID := by
  unfold renewEntry at h
  rcases hstored : s.leases.lookup want.leaseID with _ | old
  · simp only [hstored] at h
    exact ⟨got, (lookup_of_removeLease h).2, rfl, rfl⟩
  simp only [hstored] at h
  split_ifs at h
  · exact ⟨got, (lookup_of_removeLease h).2, rfl, rfl⟩
  · exact ⟨got, h, rfl, rfl⟩
  all_goals
    rcases Table.lookup_insert_cases h with ⟨rfl, rfl⟩ | ⟨-, h⟩
    · exact ⟨old, hstored, rfl, rfl⟩
    · exact ⟨got, h, rfl, rfl⟩

variable (now) in
/-- A foreign entry is answered as lost, and nothing is left under its id. -/
theorem renewEntry_foreign (howned : OwnedBy lease want.leaseID s) (hforeign : Foreign want lease) :
    (renewEntry now s want).2 = { lease := want, reason := some .leaseLost } ∧
      (renewEntry now s want).1.leases.lookup want.leaseID = none := by
  unfold renewEntry
  rcases hstored : s.leases.lookup want.leaseID with _ | got
  · exact ⟨rfl, removeLease_lookup_self s _⟩
  obtain ⟨hclient, hpool⟩ := howned got hstored
  have hother : got.clientID ≠ want.clientID ∨ got.poolID ≠ want.poolID ∨
      ¬ now < got.expiresAt := by
    rw [hclient, hpool]
    rcases hforeign with hne | hne
    · exact .inl hne.symm
    · exact .inr (.inl hne.symm)
  dsimp only
  rw [if_pos hother]
  exact ⟨rfl, removeLease_lookup_self s _⟩

/-- A batch leaves under an id what was there before, or nothing. -/
theorem renewBatch_ownedBy (leases : List LeaseIdentity) (h : OwnedBy lease id s) :
    OwnedBy lease id ((renewBatch now).after s leases) := by
  refine (renewBatch now).after_inv_all ?_ s leases h
  intro a entry ha got hgot
  obtain ⟨old, hold, hclient, hpool⟩ := renewEntry_lookup hgot
  rw [← hclient, ← hpool]
  exact ha old hold

theorem renewBatch_lookup_none (leases : List LeaseIdentity) (h : s.leases.lookup id = none) :
    ((renewBatch now).after s leases).leases.lookup id = none := by
  refine (renewBatch now).after_inv_all (I := fun a => a.leases.lookup id = none) ?_ s leases h
  intro a entry ha
  cases hgot : (renewEntry now a entry).1.leases.lookup id with
  | none => exact hgot
  | some got =>
    obtain ⟨old, hold, -⟩ := renewEntry_lookup hgot
    rw [ha] at hold
    cases hold

theorem expireLeaseEntry_lookup {e : ExpiryEntry}
    (h : (expireLeaseEntry s now e).leases.lookup id = some got) :
    s.leases.lookup id = some got := by
  unfold expireLeaseEntry at h
  dsimp only at h
  repeat' split at h
  all_goals first
    | exact h
    | exact (lookup_of_removeLease h).2

/-- Expiry adds no leases, whatever the state. -/
theorem expire_lookup_of_some (h : (expire s now).leases.lookup id = some got) :
    s.leases.lookup id = some got := by
  have hleases : (expireLeases s now).leases.lookup id = some got →
      s.leases.lookup id = some got := by
    refine iterate_inv
      (I := fun a => a.leases.lookup id = some got → s.leases.lookup id = some got) ?_ _ s
      (fun ha => ha)
    intro a b ha hround hb
    obtain ⟨e, queue, -, ⟨-, rfl⟩ | ⟨-, -, -, -, rfl⟩⟩ := expireLeaseRound_cases a b hround
    · exact ha hb
    · have hstored : a.leases.lookup id = some got :=
        expireLeaseEntry_lookup (s := { a with expiries := queue }) hb
      exact ha hstored
  obtain ⟨receipts, queue, hframe⟩ := expireReceipts_frame (expireLeases s now) now
  rw [expire, hframe] at h
  exact hleases h

end Entries

/-- Without a lease nothing is completed as released. -/
theorem completeEntry_of_none [RateArith F] {now : Int} {s : AdmissionCoordinator F}
    {item : LeaseCompletion} (h : s.leases.lookup item.lease.leaseID = none) :
    (completeEntry now s item).2.1.result ≠ some .released := by
  unfold completeEntry
  dsimp only
  split
  · nofun
  split
  · nofun
  · split
    · nofun
    · simp [completeReceipt, leaseActive, h]

/-- **A foreign entry ends the lease.**  Whatever else the batch holds, the entry is lost,
    and afterwards the owner can neither renew the lease nor complete it as released. -/
theorem foreign_renewal_ends_lease [RateArith F] {s : AdmissionCoordinator F} {now : Int}
    {want lease : LeaseIdentity} (hlease : s.leases.lookup want.leaseID = some lease)
    (hforeign : Foreign want lease) (before after : List LeaseIdentity) :
    (renew s now (before ++ want :: after)).2[before.length]?
      = some { lease := want, reason := some .leaseLost } ∧
    (renew s now (before ++ want :: after)).1.leases.lookup want.leaseID = none ∧
    ∀ later owner, owner.leaseID = want.leaseID →
      (renew (renew s now (before ++ want :: after)).1 later [owner]).2
        = [{ lease := owner, reason := some .leaseLost }] ∧
      ∀ usage, ∀ result ∈ (complete (renew s now (before ++ want :: after)).1 later
        [⟨owner, usage⟩]).2, result.1.result ≠ some .released := by
  have howned : OwnedBy lease want.leaseID (expire s now) := by
    intro got hgot
    have hold := expire_lookup_of_some hgot
    rw [hlease] at hold
    cases hold
    exact ⟨rfl, rfl⟩
  -- the entry finds the lease as it was, or not at all
  have hfound : OwnedBy lease want.leaseID ((renewBatch now).after (expire s now) before) :=
    renewBatch_ownedBy before howned
  obtain ⟨hresult, hnone⟩ := renewEntry_foreign now hfound hforeign
  have hgone : (renew s now (before ++ want :: after)).1.leases.lookup want.leaseID = none := by
    show ((renewBatch now).after (expire s now) (before ++ want :: after)).leases.lookup _ = none
    rw [Machine.after_append, Machine.after_cons]
    exact renewBatch_lookup_none after hnone
  refine ⟨?_, hgone, ?_⟩
  · show ((renewBatch now).answers (expire s now) (before ++ want :: after))[before.length]? = _
    rw [Machine.answers_append, ← Machine.length_answers (renewBatch now) (expire s now) before,
      List.getElem?_append_right (le_refl _), Nat.sub_self]
    exact congrArg some hresult
  intro later owner howner
  -- nothing brings the lease back
  have hstill : (expire (renew s now (before ++ want :: after)).1 later).leases.lookup
      owner.leaseID = none := by
    rw [howner]
    cases hgot : (expire (renew s now (before ++ want :: after)).1 later).leases.lookup
        want.leaseID with
    | none => rfl
    | some got =>
      have hold := expire_lookup_of_some hgot
      rw [hgone] at hold
      cases hold
  constructor
  · show [(renewEntry later _ owner).2] = _
    unfold renewEntry
    simp only [hstill]
  intro usage result hresult
  have hsingle : result = (completeEntry later
      (expire (renew s now (before ++ want :: after)).1 later) ⟨owner, usage⟩).2 :=
    List.mem_singleton.mp hresult
  rw [hsingle]
  exact completeEntry_of_none hstill

end LocalAdmission

/-! ## PostgreSQL keeps it -/

namespace PostgresAdmission

variable {F : Type} {want : LeaseIdentity} {row : LeaseRow} {now : Int}

/-- A row that has not run out and does not belong to the entry is left alone. -/
theorem renewedUntil_foreign (hforeign : want.clientID ≠ row.clientID ∨ want.poolID ≠ row.poolID) :
    renewedUntil now (some row) want = none := by
  unfold renewedUntil
  dsimp only
  rw [if_pos]
  rcases hforeign with hne | hne
  · exact .inl hne.symm
  · exact .inr (.inl hne.symm)

/-- **A foreign entry changes nothing**: it is answered as lost, and rows, receipts and
    buckets stay as they are. -/
theorem foreign_renewal_keeps_lease {db : Db F}
    (hrow : db.leases.lookup want.leaseID = some row) (hactive : now < row.expiresAt)
    (hforeign : want.clientID ≠ row.clientID ∨ want.poolID ≠ row.poolID) :
    ∃ db', (renew [want]).run now db
        = some (.renewed [{ lease := want, reason := some .leaseLost }], db') ∧
      db'.configuration = db.configuration ∧ db'.rates = db.rates ∧
      (∀ id, db'.leases.lookup id = db.leases.lookup id) ∧
      ∀ id, db'.operations.lookup id = db.operations.lookup id := by
  obtain ⟨db', hrun, hconfiguration, hrates, hleases, hoperations⟩ := renew_run [want] now db
  have huntil : renewedUntil now (db.leases.lookup want.leaseID) want = none := by
    rw [hrow]
    exact renewedUntil_foreign hforeign
  have hupdates : ∀ id, renewUpdates now db.leases.lookup [want] id = none := by
    intro id
    show addUpdate now db.leases.lookup (fun _ => none) want id = none
    unfold addUpdate
    rw [huntil]
  have hsame : ∀ id, renewedRow [want] now db id = db.leases.lookup id := by
    intro id
    unfold renewedRow
    rcases hid : db.leases.lookup id with _ | row'
    · rfl
    rw [hupdates]
    dsimp only
    rw [if_neg]
    -- the only row the batch names has not run out
    rintro ⟨hmem, hover⟩
    rw [List.map_singleton, List.mem_singleton] at hmem
    rw [hmem, hrow] at hid
    cases hid
    omega
  refine ⟨db', ?_, hconfiguration, hrates, ?_, ?_⟩
  · rw [hrun, List.map_singleton, renewResult, huntil]
  · intro id
    rw [hleases, hsame]
  · intro id
    rw [hoperations, renewedOperation, hsame]
    cases db.leases.lookup id <;> simp

end PostgresAdmission

/-! ## Both at work -/

namespace Agreement

/-- The lease of a request, named by a client that does not own it. -/
def foreignLease : LeaseIdentity := { smallLease with clientID := 2 }

/-- A request is granted, a foreign client tries to renew it, then its owner renews it and
    completes it. -/
def foreignCalls : List (Int × Call) :=
  [(second, .acquire (smallRequest 1 second 1 60)),
   (2 * second, .renew [foreignLease]),
   (3 * second, .renew [smallLease]),
   (4 * second, .complete [⟨smallLease, none⟩])]

/-- The local coordinator loses the lease, PostgreSQL releases it. -/
theorem foreignCalls_answers :
    (both exactFingerprint).answers (start 8 (smallConfiguration 1 60 (by decide))) foreignCalls
      = [(.decision ⟨true, none, none, none⟩, some (.decision ⟨true, none, none, none⟩)),
         (.renewed [some .leaseLost], some (.renewed [some .leaseLost])),
         (.renewed [some .leaseLost], some (.renewed [none])),
         (.completed [{ leaseID := 1, result := some .leaseLost }],
          some (.completed [{ leaseID := 1, result := some .released }]))] := by
  decide +kernel

theorem foreign_renewal_ends_smallLease :
    (LocalAdmission.renew
      (LocalAdmission.acquire exactFingerprint (LocalAdmission.newAdmissionCoordinator ℚ 8) second
        (smallRequest 1 second 1 60)).1 (2 * second) [foreignLease]).1.leases.lookup 1 = none := by
  have hstored : (LocalAdmission.acquire exactFingerprint
      (LocalAdmission.newAdmissionCoordinator ℚ 8) second
      (smallRequest 1 second 1 60)).1.leases.lookup foreignLease.leaseID = some smallLease := by
    decide +kernel
  exact (LocalAdmission.foreign_renewal_ends_lease hstored (.inl (by decide)) [] []).2.1

end Agreement

end Coordination
