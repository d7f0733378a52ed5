import PriorityGateway.Coordination.Local.Invariant

/-! # The Inflight Counters Are Exact

    What callers rely on: after any calls, with any clock readings, the
    inflight counters agree with the stored leases, a stored lease has the
    receipt that `removeLease` reads, and expiry leaves no lease that has run
    out.

    One instant is special.  A receipt whose retention ends exactly at the
    zero instant is indistinguishable from the receipt of a stored lease, for
    `expire` compares the instants only; `hasTerminalReceipt` asks for a
    non-zero instant as well.  So runs that meet the day before the zero
    instant can lose the receipt of a stored lease. -/

namespace Coordination.LocalAdmission

variable {F : Type}

/-! ## Consistency -/

/-- Counters, leases and receipts agree. -/
structure Consistent (s : AdmissionCoordinator F) : Prop where
  clientInflight : ∀ c, s.clientInflight c
    = Table.count (fun _ lease => decide (lease.clientID = c)) s.leases
  poolInflight : ∀ p, s.poolInflight p
    = Table.count (fun _ lease => decide (lease.poolID = p)) s.leases
  poolLowerInflight : ∀ p, s.poolLowerInflight p
    = Table.count (fun id lease => decide (lease.poolID = p) && lowerReceipt s.receipts id)
        s.leases
  receipt : ∀ id lease, s.leases.lookup id = some lease →
    ∃ receipt, s.receipts.lookup id = some receipt ∧ receipt.completed = false ∧
      receipt.expired = false ∧ receipt.decision.lease.isSome
  noNilDereference : s.nilDereference = false
  expired : ∀ now id lease, (expire s now).leases.lookup id = some lease → now < lease.expiresAt

/-- The invariant contains all of it. -/
theorem Good.consistent {s : AdmissionCoordinator F} (h : Good s) : Consistent s where
  clientInflight := fun c => by simpa only [Bool.and_true] using h.clientCount c
  poolInflight := fun p => by simpa only [Bool.and_true] using h.poolCount p
  poolLowerInflight := h.lowerCount
  receipt := fun id lease hl => by
    obtain ⟨receipt, hreceipt, hopen, _⟩ := h.leaseReceipt id lease hl
    exact ⟨receipt, hreceipt, hopen.2.1, hopen.2.2.1, hopen.1⟩
  noNilDereference := h.noNilDereference
  expired := fun now id lease hl => ((expire_lookup h now id lease).mp hl).2

/-! ## Runs -/

def hour : Int := 3600 * second

/-- The completion of `leaseID` without a usage. -/
def plainCompletion (leaseID : UUID) : LeaseCompletion where
  lease := grantedLease 0 (plainRequest leaseID 0 0)
  usage := none

/-- **The counters are exact** in every state reached by calls that avoid the zero day. -/
theorem consistent_of_avoidsZeroDay [RateArith F] (fingerprint : AdmissionRequest → Nat)
    (capacity : Int) (calls : List (Int × Operation)) (hcalls : ∀ c ∈ calls, AvoidsZeroDay c) :
    Consistent ((machine fingerprint).after (newAdmissionCoordinator F capacity) calls) :=
  (good_run fingerprint capacity calls hcalls).1.consistent

/-- A lease granted, replayed and completed an hour later. -/
theorem consistent_plain_run :
    Consistent ((machine AdmissionRequest.leaseID).after (newAdmissionCoordinator ℚ 1)
      [(0, .acquire (plainRequest 1 0 hour)), (1, .acquire (plainRequest 1 0 hour)),
       (hour, .complete [plainCompletion 1])]) :=
  consistent_of_avoidsZeroDay _ 1 _ (by decide)

/-! ## The zero day -/

/-- Lease 1 runs out on the zero day, which queues it for the zero instant.
    It is then completed an hour earlier by the clock, its receipt is evicted,
    and the id is used again while the old entry is still queued. -/
def zeroDayCalls : List (Int × Operation) :=
  [(zeroDay - hour, .acquire (plainRequest 1 (zeroDay - hour) hour)),
   (zeroDay, .poolInflight 1),
   (zeroDay - hour, .complete [plainCompletion 1]),
   (zeroDay - hour, .acquire (plainRequest 2 (3 * zeroDay) hour)),
   (zeroDay - hour, .acquire (plainRequest 1 (zeroDay - hour) (100 * hour)))]

/-- The state after these calls, with room for one receipt. -/
def zeroDayState (calls : List (Int × Operation)) : AdmissionCoordinator ℚ :=
  (machine AdmissionRequest.leaseID).after (newAdmissionCoordinator ℚ 1) calls

/-- A call at the zero instant then deletes the receipt of a stored lease, and
    the end of that lease dereferences it. -/
theorem zeroDay_not_consistent :
    ¬ Consistent (zeroDayState (zeroDayCalls ++ [(0, .poolInflight 1)])) ∧
      (zeroDayState (zeroDayCalls ++ [(0, .poolInflight 1),
        (75 * hour, .poolInflight 1)])).nilDereference = true := by
  refine ⟨fun h => ?_, by decide⟩
  have hlease : ((zeroDayState (zeroDayCalls ++ [(0, .poolInflight 1)])).leases.lookup 1).isSome
      = true := by decide
  have hnone : (zeroDayState (zeroDayCalls ++ [(0, .poolInflight 1)])).receipts.lookup 1
      = none := by decide
  obtain ⟨lease, hl⟩ := Option.isSome_iff_exists.mp hlease
  obtain ⟨receipt, hreceipt, _⟩ := h.receipt 1 lease hl
  cases hreceipt

end Coordination.LocalAdmission
