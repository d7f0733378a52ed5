import PriorityGateway.Coordination.Postgres.Admission

/-! # What the Statements of a Transaction Write

    The transactions share a few kinds of writes.  A property of writes that
    holds of these kinds (`Admits`) holds of every statement of a transaction
    that is made of them, and need not be followed through its branches again. -/

namespace Coordination.PostgresAdmission

open ReadCommitted

variable {F : Type}

/-- A property of writes under locks that the writes to leases, to buckets and to expired
    receipts have. -/
structure Admits (P : List RowLock → (Db F → Db F) → Prop) : Prop where
  skip : ∀ locks, P locks fun db => db
  /-- what is written may depend on what is stored -/
  pointwise : ∀ locks write, (∀ db, ∃ write', P locks write' ∧ write db = write' db) →
    P locks write
  deleteLeases : ∀ locks p, P locks (deleteLeases p)
  expire : ∀ locks ids now, P locks (updateOperations ids (expireOperation now))
  lost : ∀ locks id now, P locks (updateOperation id (lostOperation now))
  setRate : ∀ locks clientID kind row, .rate clientID kind ∈ locks →
    P locks (setRate clientID kind row)

variable {P : List RowLock → (Db F → Db F) → Prop} {R : Outcome → Prop} (h : Admits P)
  {next : View (Db F) → Tx F} {locks : View (Db F) → List RowLock} {clientID now : Int}
  {kind : RateKind}

include h

theorem Admits.read (hnext : ∀ view, (next view).Each P R) : (Prog.read next).Each P R :=
  fun view => ⟨h.skip _, hnext view⟩

theorem Admits.lock (hnext : ∀ view, (next view).Each P R) : (Prog.lock locks next).Each P R :=
  fun view => ⟨h.skip _, hnext view⟩

theorem Admits.cleanupExpired (hR : ∀ full, R (.cleaned full)) (items : List ExpiredLease) :
    (cleanupExpired items : Tx F).Each P R := by
  refine h.lock fun _ => h.lock fun _ => h.lock fun _ => h.lock fun _ => h.read fun clock =>
    fun view => ⟨h.deleteLeases _ _, ?_⟩
  beta_reduce
  split
  · exact hR false
  · exact fun _ => ⟨h.expire _ _ _, hR false⟩

theorem Admits.resolveAcquire (hR : ∀ d, R (.decided d)) (fingerprint : Nat)
    (r : AdmissionRequest) : (resolveAcquire fingerprint r : Tx F).Each P R := by
  have hlost : ∀ now, (markLost r.leaseID now : Tx F).Each P R :=
    fun now _ => ⟨h.lost _ _ _, hR _⟩
  refine h.read fun first => ?_
  split
  · trivial
  split
  · exact hR _
  refine h.lock fun _ => h.lock fun _ => h.lock fun lease => h.lock fun operation => ?_
  split
  · trivial
  unfold resolveLocked
  split
  · exact hR _
  split
  · split
    · trivial
    · exact hR _
  split
  · exact hR _
  refine h.read fun clock => ?_
  split
  · exact hlost _
  · split
    · exact hlost _
    · exact hR _

variable [RateArith F]

theorem Admits.normalizeRate {revision capacity : Int} {debit : Bool} {next : Bool → Int → Tx F}
    (hnext : ∀ ok retry, (next ok retry).Each P R) :
    (normalizeRate clientID kind revision capacity now debit next).Each P R := by
  refine h.read fun view => ?_
  split
  · trivial
  · exact fun _ => ⟨h.setRate _ _ _ _ (List.mem_singleton.mpr rfl), hnext _ _⟩

theorem Admits.chargeRate {locks : List RowLock} (now : Int) (usage : TokenUsage)
    (hlocked : .rate clientID .tpm ∈ locks) : P locks (chargeRate clientID now usage) := by
  refine h.pointwise _ _ fun db => ?_
  unfold PostgresAdmission.chargeRate
  split
  · exact ⟨_, h.skip _, rfl⟩
  · exact ⟨_, h.setRate _ _ _ _ hlocked, rfl⟩

/-- A bucket that does not exist is locked with its key. -/
theorem Admits.seedRate (view : View (Db F)) (clientID : Int) {kinds : List RateKind}
    (hkind : kind ∈ kinds) (revision capacity : Int) :
    P (newRateLocks clientID kinds view) (seedRate view clientID kind revision capacity) := by
  refine h.pointwise _ _ fun db => ?_
  unfold PostgresAdmission.seedRate
  split
  · next hseed =>
    refine ⟨_, h.setRate _ _ _ _ (List.mem_map.mpr ⟨kind, List.mem_filter.mpr ⟨hkind, ?_⟩, rfl⟩),
      rfl⟩
    rw [hseed.2]
    rfl
  · exact ⟨_, h.skip _, rfl⟩

/-- A completion, if the completion of its own receipt is allowed. -/
theorem Admits.completeOne (hR : ∀ result, R (.completed result)) {item : LeaseCompletion}
    (hcompleted : ∀ locks now result,
      P locks (updateOperation item.lease.leaseID (completedOperation now result))) :
    (completeOne item : Tx F).Each P R := by
  have hrelease : ∀ clientID poolID now result,
      (completeRelease item.lease.leaseID clientID poolID now result : Tx F).Each P R :=
    fun _ _ _ _ _ => ⟨h.deleteLeases _ _, fun _ => ⟨hcompleted _ _ _, hR _⟩⟩
  have hat : ∀ clientID poolID lease charge,
      (completeAt item.lease.leaseID clientID poolID lease charge : Tx F).Each P R := by
    intro clientID poolID lease charge
    refine h.read fun clock => ?_
    split
    · exact hrelease _ _ _ _
    · exact h.normalizeRate fun _ _ _ =>
        ⟨h.chargeRate _ _ (List.mem_singleton.mpr rfl), hrelease _ _ _ _⟩
  refine h.read fun first => ?_
  split
  · exact hR _
  split
  · exact hR _
  refine h.lock fun _ => h.lock fun _ => h.lock fun lease => h.lock fun operation => ?_
  split
  · trivial
  split
  · split
    · trivial
    · exact hR _
  unfold completeLocked
  dsimp only
  split
  · exact hat _ _ _ _
  split
  · refine h.read fun configuration => ?_
    split
    · exact hat _ _ _ _
    split
    · exact fun view => ⟨h.seedRate view _ (List.mem_singleton.mpr rfl) _ _,
        h.lock fun _ => hat _ _ _ _⟩
    · exact hat _ _ _ _
  · exact hat _ _ _ _

end Coordination.PostgresAdmission
