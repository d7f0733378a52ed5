import PriorityGateway.Coordination.Local.Moves

/-! # The Invariant of the Local Coordinator

    Counters, leases, receipts and the lease queue are tied together by one
    invariant, `Good`:

    * each inflight counter is the number of stored leases it stands for;
    * a stored lease has an open receipt of its own client and pool, and an
      entry in the lease queue at its expiry.

    `Good` is kept by every move from a state in which no entry of the
    receipt queue matches the receipt of a stored lease (`Settled`).  The
    open receipts have the zero retention instant, so a state is settled when
    no entry carries that instant (`Dated`); the day before the zero instant
    is the only instant from which such an entry can come. -/

namespace Coordination.LocalAdmission

variable {F : Type}

/-! ## Counters as counts -/

/-- `m` counts, by the key `of`, the leases whose id satisfies `counts`. -/
def Counted (m : Int → Nat) (of : LeaseIdentity → Int) (counts : UUID → Bool)
    (leases : Table UUID LeaseIdentity) : Prop :=
  ∀ key, m key = Table.count (fun id lease => decide (of lease = key) && counts id) leases

namespace Counted

variable {m : Int → Nat} {of : LeaseIdentity → Int} {counts counts' : UUID → Bool}
  {leases : Table UUID LeaseIdentity} {id : UUID} {lease lease' : LeaseIdentity}

variable (h : Counted m of counts leases)
include h

theorem congr (heq : ∀ id lease, leases.lookup id = some lease → counts' id = counts id) :
    Counted m of counts' leases := by
  intro key
  rw [h key]
  apply Table.count_congr
  intro id lease hl
  rw [heq id lease hl]

/-- A counted lease leaves: its counter goes down by one. -/
theorem decrement (hl : leases.lookup id = some lease) (hc : counts id = true) :
    Counted (LocalAdmission.decrement m (of lease)) of counts (leases.erase id) := by
  intro key
  have hcount := h key
  rw [Table.count_erase_of_some hl] at hcount
  rw [decrement_eq]
  by_cases hk : of lease = key
  · subst hk
    simp [hc] at hcount
    simp only [Function.update_self]
    omega
  · rw [Function.update_of_ne (Ne.symm hk)]
    simpa [hk] using hcount

/-- A lease that is not counted leaves: nothing changes. -/
theorem erase (hl : leases.lookup id = some lease)
    (hc : counts id = false) : Counted m of counts (leases.erase id) := by
  intro key
  have hcount := h key
  rw [Table.count_erase_of_some hl] at hcount
  simpa [hc] using hcount

/-- A counted lease arrives. -/
theorem increment (hl : leases.lookup id = none) (hc : counts id = true) :
    Counted (LocalAdmission.increment m (of lease)) of counts (leases.insert id lease) := by
  intro key
  rw [Table.count_insert_of_none hl, LocalAdmission.increment]
  by_cases hk : of lease = key
  · subst hk
    simp [hc, h (of lease)]
  · rw [Function.update_of_ne (Ne.symm hk)]
    simpa [hk] using h key

/-- A lease that is not counted arrives. -/
theorem insert (hl : leases.lookup id = none)
    (hc : counts id = false) : Counted m of counts (leases.insert id lease) := by
  intro key
  rw [Table.count_insert_of_none hl]
  simpa [hc] using h key

/-- A lease is replaced by one with the same key. -/
theorem replace (hl : leases.lookup id = some lease)
    (hof : of lease' = of lease) : Counted m of counts (leases.insert id lease') := by
  intro key
  rw [h key]
  exact (Table.count_insert_of_some hl (by rw [hof])).symm

end Counted

/-! ## The invariant -/

/-- The receipt of an operation that has a lease and has not ended. -/
def AdmissionReceipt.Open (r : AdmissionReceipt) : Prop :=
  r.decision.lease.isSome ∧ r.completed = false ∧ r.expired = false ∧ r.retainUntil = 0

/-- The class recorded in the receipt of `id` is neither high nor critical. -/
def lowerReceipt (receipts : Table UUID AdmissionReceipt) (id : UUID) : Bool :=
  match receipts.lookup id with
  | none => false
  | some receipt => receipt.request.priorityClass.lower

/-- The invariant that ties counters, leases, receipts and the lease queue together. -/
structure Good (s : AdmissionCoordinator F) : Prop where
  noNilDereference : s.nilDereference = false
  clientCount : Counted s.clientInflight (·.clientID) (fun _ => true) s.leases
  poolCount : Counted s.poolInflight (·.poolID) (fun _ => true) s.leases
  lowerCount : Counted s.poolLowerInflight (·.poolID) (lowerReceipt s.receipts) s.leases
  leaseKey : ∀ id lease, s.leases.lookup id = some lease → lease.leaseID = id
  leaseReceipt : ∀ id lease, s.leases.lookup id = some lease →
    ∃ receipt, s.receipts.lookup id = some receipt ∧ receipt.Open ∧
      lease.clientID = receipt.request.clientID ∧ lease.poolID = receipt.request.poolID
  leaseEntry : ∀ id lease, s.leases.lookup id = some lease →
    (⟨lease.expiresAt, id, .admissionLeaseExpiry⟩ : ExpiryEntry) ∈ s.expiries

/-- No entry of the receipt queue matches the receipt of a stored lease. -/
def Settled (s : AdmissionCoordinator F) : Prop :=
  ∀ e ∈ s.terminalExpiries, ∀ receipt, s.receipts.lookup e.id = some receipt →
    receipt.retainUntil = e.at' → s.leases.lookup e.id = none

theorem good_init (capacity : Int) : Good (newAdmissionCoordinator F capacity) where
  noNilDereference := rfl
  clientCount := fun _ => rfl
  poolCount := fun _ => rfl
  lowerCount := fun _ => rfl
  leaseKey := fun id lease h => by simp [newAdmissionCoordinator] at h
  leaseReceipt := fun id lease h => by simp [newAdmissionCoordinator] at h
  leaseEntry := fun id lease h => by simp [newAdmissionCoordinator] at h

/-! ## The building blocks of the moves -/

section

variable (s : AdmissionCoordinator F) (id : UUID)

@[simp] theorem removeLease_leases : (removeLease s id).leases = s.leases.erase id := by
  unfold removeLease
  cases hl : s.leases.lookup id with
  | none => exact (Table.erase_of_none hl).symm
  | some lease =>
    cases s.receipts.lookup id <;> rfl

variable {s id} in
theorem lookup_of_removeLease {id' : UUID} {lease : LeaseIdentity}
    (h : (removeLease s id).leases.lookup id' = some lease) :
    id' ≠ id ∧ s.leases.lookup id' = some lease :=
  Table.lookup_of_erase (removeLease_leases s id ▸ h)

/-- Removing a lease changes the leases, the counters and nothing else. -/
theorem removeLease_frame :
    (removeLease s id).receipts = s.receipts ∧ (removeLease s id).expiries = s.expiries ∧
    (removeLease s id).terminalExpiries = s.terminalExpiries ∧
    (removeLease s id).receiptCapacity = s.receiptCapacity ∧
    (removeLease s id).rates = s.rates ∧ (removeLease s id).policies = s.policies := by
  unfold removeLease
  cases s.leases.lookup id with
  | none => simp
  | some lease => cases s.receipts.lookup id <;> simp

@[simp] theorem removeLease_receipts : (removeLease s id).receipts = s.receipts :=
  (removeLease_frame s id).1

@[simp] theorem removeLease_expiries : (removeLease s id).expiries = s.expiries :=
  (removeLease_frame s id).2.1

@[simp] theorem removeLease_terminalExpiries :
    (removeLease s id).terminalExpiries = s.terminalExpiries := (removeLease_frame s id).2.2.1

theorem removeLease_lookup_self : (removeLease s id).leases.lookup id = none := by
  rw [removeLease_leases, Table.lookup_erase_eq, if_pos rfl]

end

/-- The receipt of an ended operation is stored and queued for deletion. -/
def settleReceipt (s : AdmissionCoordinator F) (id : UUID) (receipt : AdmissionReceipt) :
    AdmissionCoordinator F :=
  { s with
    receipts := s.receipts.insert id receipt
    terminalExpiries := s.terminalExpiries.add .admissionReceiptExpiry id receipt.retainUntil }

variable {e : ExpiryEntry} {lease : LeaseIdentity} {now : Int} {s s' : AdmissionCoordinator F}
variable {receipt : AdmissionReceipt}

/-- A due entry of a stored lease with an uncompleted receipt. -/
theorem expireLeaseEntry_eq (hkind : e.kind = .admissionLeaseExpiry)
    (hlease : s.leases.lookup e.id = some lease) (hat : lease.expiresAt = e.at')
    (hdue : e.at' ≤ now) (hreceipt : s.receipts.lookup e.id = some receipt)
    (hopen : receipt.completed = false) :
    expireLeaseEntry s now e = settleReceipt (removeLease s e.id) e.id
      { receipt with
        expired := true
        retainUntil := retentionBoundary receipt.request.operationStartedAt now } := by
  unfold expireLeaseEntry
  have hkeep : ¬ (lease.expiresAt ≠ e.at' ∨ now < lease.expiresAt) := by omega
  simp only [hkind, hlease, if_neg hkeep, removeLease_receipts, hreceipt, hopen,
    Bool.false_eq_true, if_false, settleReceipt]

section

variable (s)

theorem chargeCompletion_eq [RateArith F] (now : Int) (request : AdmissionRequest)
    (usage : Option TokenUsage) : (chargeCompletion s now request usage).1
      = { s with rates := (chargeCompletion s now request usage).1.rates } := by
  cases usage with
  | none => rfl
  | some usage =>
    simp only [chargeCompletion, chargeUsage]
    split
    · split <;> rfl
    · rfl

/-- The buckets once the usage of a completion is charged. -/
def completionRates [RateArith F] (now : Int) (item : LeaseCompletion)
    (receipt : AdmissionReceipt) : Int → RateKind → Option (RateState F) :=
  (chargeCompletion (removeLease s item.lease.leaseID) now receipt.request item.usage).1.rates

/-- A first completion removes the lease, may charge, and settles the receipt. -/
theorem completeReceipt_eq [RateArith F] (now : Int)
    (item : LeaseCompletion) (receipt : AdmissionReceipt) :
    (completeReceipt s now item receipt).1
      = settleReceipt
          { removeLease s item.lease.leaseID with rates := completionRates s now item receipt }
          item.lease.leaseID
          { receipt with
            completed := true
            completion := some (if leaseActive s now item.lease.leaseID receipt.request
              then .released else .leaseLost)
            retainUntil := retentionBoundary receipt.request.operationStartedAt now } := by
  rw [completeReceipt, chargeCompletion_eq]
  rfl

theorem observeClientRatePolicy_eq (candidate : ClientRatePolicy) :
    (observeClientRatePolicy s candidate).1
      = { s with policies := (observeClientRatePolicy s candidate).1.policies } := by
  unfold observeClientRatePolicy
  split
  · rfl
  · split <;> rfl

theorem checkRPM_eq [RateArith F] (policy : RatePolicy) (now : Int) (req : AdmissionRequest) :
    (checkRPM s policy now req).1 = { s with rates := (checkRPM s policy now req).1.rates } := by
  unfold checkRPM
  simp only
  split
  · split <;> rfl
  · rfl

theorem checkTPM_eq [RateArith F] (policy : RatePolicy) (now : Int) (req : AdmissionRequest) :
    (checkTPM s policy now req).1 = { s with rates := (checkTPM s policy now req).1.rates } := by
  unfold checkTPM
  simp only
  split
  · split
    · rfl
    · exact checkRPM_eq _ policy now req
  · exact checkRPM_eq _ policy now req

theorem evaluate_eq [RateArith F] (now : Int) (req : AdmissionRequest) :
    (evaluate s now req).1
      = { s with
          rates := (evaluate s now req).1.rates
          policies := (evaluate s now req).1.policies } := by
  unfold evaluate checkLimits
  split
  · rfl
  split
  · rfl
  repeat' split
  all_goals first
    | rw [checkTPM_eq, observeRatePolicy, observeClientRatePolicy_eq]
    | rw [observeRatePolicy, observeClientRatePolicy_eq]

end

/-! ## The building blocks keep the invariant -/

namespace Good

variable {s : AdmissionCoordinator F} {id : UUID}

variable (h : Good s)
include h

theorem lease_none (hnone : s.receipts.lookup id = none) : s.leases.lookup id = none := by
  cases hl : s.leases.lookup id with
  | none => rfl
  | some lease =>
    obtain ⟨receipt, hreceipt, _⟩ := h.leaseReceipt id lease hl
    rw [hnone] at hreceipt
    cases hreceipt

/-- The receipt of a stored lease has no end of retention. -/
theorem lease_none_of_set (hr : s.receipts.lookup id = some receipt)
    (hset : receipt.retainUntil ≠ 0) : s.leases.lookup id = none := by
  cases hl : s.leases.lookup id with
  | none => rfl
  | some lease =>
    obtain ⟨_, hr', hopen, _⟩ := h.leaseReceipt id lease hl
    rw [hr] at hr'
    cases hr'
    exact absurd hopen.2.2.2 hset

theorem withRates (rates : Int → RateKind → Option (RateState F))
    (policies : Int → Option RatePolicy) : Good { s with rates := rates, policies := policies } :=
  ⟨h.noNilDereference, h.clientCount, h.poolCount, h.lowerCount, h.leaseKey, h.leaseReceipt,
    h.leaseEntry⟩

theorem withTerminal (queue : ExpiryQueue) : Good { s with terminalExpiries := queue } :=
  ⟨h.noNilDereference, h.clientCount, h.poolCount, h.lowerCount, h.leaseKey, h.leaseReceipt,
    h.leaseEntry⟩

/-- A change of the receipts that spares those of stored leases keeps the invariant. -/
theorem withReceipts (receipts : Table UUID AdmissionReceipt)
    (hsame : ∀ id lease, s.leases.lookup id = some lease →
      receipts.lookup id = s.receipts.lookup id) : Good { s with receipts := receipts } where
  noNilDereference := h.noNilDereference
  clientCount := h.clientCount
  poolCount := h.poolCount
  lowerCount := h.lowerCount.congr fun id lease hl => by
    simp only [lowerReceipt, hsame id lease hl]
  leaseKey := h.leaseKey
  leaseReceipt := fun id lease hl => by
    show ∃ receipt, receipts.lookup id = some receipt ∧ _
    rw [hsame id lease hl]
    exact h.leaseReceipt id lease hl
  leaseEntry := h.leaseEntry

/-- Settling the receipt of an id without a lease. -/
theorem settle (hid : s.leases.lookup id = none) (receipt : AdmissionReceipt) :
    Good (settleReceipt s id receipt) := by
  have hreceipts := h.withReceipts (s.receipts.insert id receipt) (fun id' lease hl => by
    rw [Table.lookup_insert_eq, if_neg]
    rintro rfl
    rw [hid] at hl
    cases hl)
  exact hreceipts.withTerminal _

theorem eraseReceipt (hid : s.leases.lookup id = none) (queue : ExpiryQueue) :
    Good { s with terminalExpiries := queue, receipts := s.receipts.erase id } := by
  have hreceipts := h.withReceipts (s.receipts.erase id) (fun id' lease hl => by
    rw [Table.lookup_erase_eq, if_neg]
    rintro rfl
    rw [hid] at hl
    cases hl)
  exact hreceipts.withTerminal queue

/-- A lease entry that fits no stored lease can go. -/
theorem skipLeaseEntry {e : ExpiryEntry} {queue : ExpiryQueue}
    (hpop : s.expiries.pop = some (e, queue))
    (hstale : ∀ lease, s.leases.lookup e.id = some lease → e.kind = .admissionLeaseExpiry →
      lease.expiresAt ≠ e.at') : Good { s with expiries := queue } where
  noNilDereference := h.noNilDereference
  clientCount := h.clientCount
  poolCount := h.poolCount
  lowerCount := h.lowerCount
  leaseKey := h.leaseKey
  leaseReceipt := h.leaseReceipt
  leaseEntry := fun id lease hl => by
    rcases (MinHeap.mem_of_pop hpop).mp (h.leaseEntry id lease hl) with heq | hin
    · subst heq
      exact absurd rfl (hstale lease hl rfl)
    · exact hin

/-- Removing a lease keeps the invariant: its receipt says which counters it is in. -/
theorem removeLease (id : UUID) : Good (removeLease s id) := by
  cases hl : s.leases.lookup id with
  | none =>
    have hsame : LocalAdmission.removeLease s id = s := by
      unfold LocalAdmission.removeLease
      simp only [hl]
    rw [hsame]
    exact h
  | some lease =>
    obtain ⟨receipt, hreceipt, hopen, hclient, hpool⟩ := h.leaseReceipt id lease hl
    unfold LocalAdmission.removeLease
    simp only [hl, hreceipt]
    refine ⟨h.noNilDereference, h.clientCount.decrement hl rfl, h.poolCount.decrement hl rfl, ?_,
      fun id' lease' hl' => h.leaseKey id' lease' (Table.lookup_of_erase hl').2,
      fun id' lease' hl' => h.leaseReceipt id' lease' (Table.lookup_of_erase hl').2,
      fun id' lease' hl' => h.leaseEntry id' lease' (Table.lookup_of_erase hl').2⟩
    -- the lower counter moves exactly when the receipt's class is counted there
    cases hlower : receipt.request.priorityClass.lower with
    | true =>
      exact h.lowerCount.decrement hl (by simp only [lowerReceipt, hreceipt, hlower])
    | false =>
      exact h.lowerCount.erase hl (by simp only [lowerReceipt, hreceipt, hlower])

theorem recordLease (fp : Nat) (now : Int) (req : AdmissionRequest)
    (hnone : s.receipts.lookup req.leaseID = none) : Good (recordLease fp s now req) := by
  have hl := h.lease_none hnone
  have hold : ∀ id lease, s.leases.lookup id = some lease → id ≠ req.leaseID := by
    rintro id lease hid rfl
    rw [hl] at hid
    cases hid
  have hlower : Counted s.poolLowerInflight (·.poolID)
      (lowerReceipt (LocalAdmission.recordLease fp s now req).receipts) s.leases :=
    h.lowerCount.congr fun id lease hid => by
      simp only [lowerReceipt, LocalAdmission.recordLease, Table.lookup_insert_eq,
        if_neg (hold id lease hid)]
  have hcounts : lowerReceipt (LocalAdmission.recordLease fp s now req).receipts req.leaseID
      = req.priorityClass.lower := by
    simp only [lowerReceipt, LocalAdmission.recordLease, Table.lookup_insert_eq, if_true]
  refine ⟨h.noNilDereference, h.clientCount.increment hl rfl, h.poolCount.increment hl rfl, ?_,
    ?_, ?_, ?_⟩
  · show Counted (if req.priorityClass.lower then _ else _) _ _ _
    cases hclass : req.priorityClass.lower with
    | true => exact hlower.increment hl (hcounts.trans hclass)
    | false => exact hlower.insert hl (hcounts.trans hclass)
  · exact Table.forall_insert rfl h.leaseKey
  · intro id lease hid
    simp only [LocalAdmission.recordLease, Table.lookup_insert_eq] at hid ⊢
    split at hid
    · next hkey =>
      cases hid
      simp only [if_pos hkey]
      exact ⟨_, rfl, ⟨rfl, rfl, rfl, rfl⟩, rfl, rfl⟩
    · next hkey =>
      simp only [if_neg hkey]
      exact h.leaseReceipt id lease hid
  · intro id lease hid
    simp only [LocalAdmission.recordLease, ExpiryQueue.add, MinHeap.mem_push]
    rcases Table.lookup_insert_cases hid with ⟨rfl, rfl⟩ | ⟨-, hid⟩
    · exact .inl rfl
    · exact .inr (h.leaseEntry id lease hid)

theorem extendLease {got : LeaseIdentity} (hl : s.leases.lookup id = some got)
    (expiresAt : Int) : Good (extendLease s id { got with expiresAt := expiresAt }) := by
  refine ⟨h.noNilDereference, h.clientCount.replace hl rfl, h.poolCount.replace hl rfl,
    h.lowerCount.replace hl rfl, Table.forall_insert (h.leaseKey _ got hl) h.leaseKey,
    Table.forall_insert (h.leaseReceipt _ got hl) h.leaseReceipt, ?_⟩
  intro id' lease hid
  simp only [LocalAdmission.extendLease, ExpiryQueue.add, MinHeap.mem_push]
  rcases Table.lookup_insert_cases hid with ⟨rfl, rfl⟩ | ⟨-, hid⟩
  · exact .inl (by rw [h.leaseKey _ got hl])
  · exact .inr (h.leaseEntry id' lease hid)

end Good

variable {queue : ExpiryQueue}

section

variable (h : Good s) (hdue : s.expiries.due now = some (e, queue))
  (hkind : e.kind = .admissionLeaseExpiry) (hlease : s.leases.lookup e.id = some lease)
  (hat : lease.expiresAt = e.at')

include h hdue hkind hlease hat

/-- What the end of a lease does, in a good state: the lease goes, and its open
    receipt is settled as expired. -/
theorem Good.expireLease_eq :
    ∃ receipt, s.receipts.lookup e.id = some receipt ∧ receipt.Open ∧
      expireLeaseEntry { s with expiries := queue } now e
        = settleReceipt { LocalAdmission.removeLease s e.id with expiries := queue } e.id
            { receipt with
              expired := true
              retainUntil := retentionBoundary receipt.request.operationStartedAt now } := by
  obtain ⟨receipt, hreceipt, hopen, _⟩ := h.leaseReceipt e.id lease hlease
  refine ⟨receipt, hreceipt, hopen, ?_⟩
  have hcomm : LocalAdmission.removeLease { s with expiries := queue } e.id
      = { LocalAdmission.removeLease s e.id with expiries := queue } := by
    simp only [LocalAdmission.removeLease, hlease, hreceipt]
  rw [expireLeaseEntry_eq (s := { s with expiries := queue }) hkind hlease hat
    (MinHeap.popDue_some hdue).1 hreceipt hopen.2.1, hcomm]

theorem Good.expireLease : Good (expireLeaseEntry { s with expiries := queue } now e) := by
  have hpop := (MinHeap.popDue_some hdue).2
  obtain ⟨receipt, hreceipt, hopen, hs'⟩ := h.expireLease_eq hdue hkind hlease hat
  have hgone := removeLease_lookup_self s e.id
  -- the lease is taken out first, then its entry fits nothing any more
  have hremoved : Good { LocalAdmission.removeLease s e.id with expiries := queue } :=
    (h.removeLease e.id).skipLeaseEntry (by rw [removeLease_expiries]; exact hpop)
      (fun lease hl => by rw [hgone] at hl; cases hl)
  rw [hs']
  exact hremoved.settle hgone _

end

/-! ## Every move keeps the invariant -/

variable {fingerprint : AdmissionRequest → Nat} {es : List Effect} {evicting : Bool}
  {op : Operation}

theorem good_move [RateArith F] (h : Good s) (hsettled : Settled s)
    (hmove : Move fingerprint evicting now op s es s') : Good s' := by
  cases hmove with
  | observePolicy policy =>
    rw [observeClientRatePolicy_eq]
    exact h.withRates s.rates _
  | skipLeaseEntry e queue hdue hstale =>
    exact h.skipLeaseEntry (MinHeap.popDue_some hdue).2 hstale
  | expireLease e queue lease hdue hkind hlease hat =>
    exact h.expireLease hdue hkind hlease hat
  | skipReceiptEntry e queue hpop => exact h.withTerminal queue
  | deleteReceipt e queue receipt hpop hreceipt hat hdue
  | evictReceipt e queue receipt hevicting hpop hreceipt hat hset =>
    have hin := (MinHeap.mem_of_pop hpop).mpr (.inl rfl)
    exact h.eraseReceipt (hsettled e hin receipt hreceipt hat) queue
  | reject req reason retryAt scope hop hdrained hnone hverdict =>
    rw [evaluate_eq]
    exact (h.withRates _ _).settle (by exact h.lease_none hnone) _
  | grant req debited hop hdrained hnone hverdict =>
    rw [evaluate_eq]
    exact (h.withRates _ _).recordLease _ now req hnone
  | loseLease id => exact h.removeLease id
  | renewLease id got ttl hlease hlive httl => exact h.extendLease hlease _
  | complete item receipt hreceipt hadmitted hopen =>
    rw [completeReceipt_eq]
    exact ((h.removeLease item.lease.leaseID).withRates _ _).settle
      (by exact removeLease_lookup_self s item.lease.leaseID) _

/-! ## What expiry leaves -/

theorem expireLeaseRound_good (h : Good s)
    (hround : expireLeaseRound now s = some s') : Good s' := by
  obtain ⟨e, queue, hdue, ⟨hstale, rfl⟩ | ⟨lease, hkind, hlease, hat, rfl⟩⟩ :=
    expireLeaseRound_cases s s' hround
  · exact h.skipLeaseEntry (MinHeap.popDue_some hdue).2 hstale
  · exact h.expireLease hdue hkind hlease hat

/-- Handling an entry leaves the rest of the lease queue alone. -/
theorem expireLeaseEntry_expiries (s : AdmissionCoordinator F) (now : Int) (e : ExpiryEntry) :
    (expireLeaseEntry s now e).expiries = s.expiries := by
  unfold expireLeaseEntry
  simp only
  repeat' split
  all_goals first
    | rfl
    | exact removeLease_expiries s e.id

theorem expireLeaseRound_size (now : Int) (s s' : AdmissionCoordinator F)
    (hround : expireLeaseRound now s = some s') : s'.expiries.size < s.expiries.size := by
  obtain ⟨e, queue, hdue, ⟨hstale, rfl⟩ | ⟨lease, hkind, hlease, hat, rfl⟩⟩ :=
    expireLeaseRound_cases s s' hround
  · exact MinHeap.pop_size (MinHeap.popDue_some hdue).2
  · rw [expireLeaseEntry_expiries]
    exact MinHeap.pop_size (MinHeap.popDue_some hdue).2

/-- A round takes out a lease only if it has run out. -/
theorem expireLeaseRound_lookup (h : Good s) (hround : expireLeaseRound now s = some s')
    (id : UUID) (lease : LeaseIdentity) :
    (s'.leases.lookup id = some lease → s.leases.lookup id = some lease) ∧
      (now < lease.expiresAt → s.leases.lookup id = some lease →
        s'.leases.lookup id = some lease) := by
  obtain ⟨e, queue, hdue, ⟨hstale, rfl⟩ | ⟨ended, hkind, hended, hat, rfl⟩⟩ :=
    expireLeaseRound_cases s s' hround
  · exact ⟨fun hl => hl, fun _ hl => hl⟩
  obtain ⟨hle, hpop⟩ := MinHeap.popDue_some hdue
  obtain ⟨receipt, hreceipt, hopen, hs'⟩ := h.expireLease_eq hdue hkind hended hat
  have hlookup : (expireLeaseEntry { s with expiries := queue } now e).leases.lookup id
      = if id = e.id then none else s.leases.lookup id := by
    rw [hs', ← Table.lookup_erase_eq, ← removeLease_leases]
    rfl
  rw [hlookup]
  split
  · next hkey =>
    subst hkey
    refine ⟨nofun, fun hlive hl => ?_⟩
    obtain rfl : ended = lease := by simpa [hended] using hl
    omega
  · exact ⟨fun hl => hl, fun _ hl => hl⟩

theorem expireLeases_good (h : Good s) (now : Int) : Good (expireLeases s now) :=
  iterate_inv (fun _ _ ha hb => expireLeaseRound_good ha hb) _ s h

/-- The first loop of `expire` leaves exactly the leases that have not run out. -/
theorem expireLeases_lookup (h : Good s) (now : Int) (id : UUID) (lease : LeaseIdentity) :
    (expireLeases s now).leases.lookup id = some lease ↔
      s.leases.lookup id = some lease ∧ now < lease.expiresAt := by
  have hkept : Good (expireLeases s now) ∧
      ((expireLeases s now).leases.lookup id = some lease → s.leases.lookup id = some lease) ∧
      (now < lease.expiresAt → s.leases.lookup id = some lease →
        (expireLeases s now).leases.lookup id = some lease) := by
    refine iterate_inv (I := fun a => Good a ∧
      (a.leases.lookup id = some lease → s.leases.lookup id = some lease) ∧
      (now < lease.expiresAt → s.leases.lookup id = some lease →
        a.leases.lookup id = some lease)) ?_ _ s ⟨h, fun hl => hl, fun _ hl => hl⟩
    intro a b ⟨ha, hback, hforth⟩ hround
    obtain ⟨hb, hf⟩ := expireLeaseRound_lookup ha hround id lease
    exact ⟨expireLeaseRound_good ha hround, fun hl => hback (hb hl),
      fun hlive hl => hf hlive (hforth hlive hl)⟩
  have hstop : expireLeaseRound now (expireLeases s now) = none :=
    iterate_stops (fun a => a.expiries.size) (expireLeaseRound_size now) _ s (le_refl _)
  obtain ⟨hgood, hback, hforth⟩ := hkept
  refine ⟨fun hl => ⟨hback hl, ?_⟩, fun ⟨hl, hlive⟩ => hforth hlive hl⟩
  -- nothing is due any more, and every stored lease has its entry
  have hdue : (expireLeases s now).expiries.due now = none := by
    unfold expireLeaseRound at hstop
    split at hstop
    · assumption
    · cases hstop
  exact MinHeap.popDue_none (h := (expireLeases s now).expiries) hdue (hgood.leaseEntry id lease hl)

/-- **Expiry is exact**: the leases left are those that have not run out. -/
theorem expire_lookup (h : Good s) (now : Int) (id : UUID) (lease : LeaseIdentity) :
    (expire s now).leases.lookup id = some lease ↔
      s.leases.lookup id = some lease ∧ now < lease.expiresAt := by
  obtain ⟨receipts, queue, hframe⟩ := expireReceipts_frame (expireLeases s now) now
  rw [expire, hframe]
  exact expireLeases_lookup h now id lease

theorem expire_live (h : Good s) (now : Int) (id : UUID) (lease : LeaseIdentity)
    (hlease : (expire s now).leases.lookup id = some lease) : now < lease.expiresAt :=
  ((expire_lookup h now id lease).mp hlease).2

theorem expireLeaseEntry_rates (s : AdmissionCoordinator F) (now : Int) (e : ExpiryEntry) :
    (expireLeaseEntry s now e).rates = s.rates ∧
    (expireLeaseEntry s now e).policies = s.policies := by
  have hframe := removeLease_frame s e.id
  unfold expireLeaseEntry
  simp only
  repeat' split
  all_goals first
    | exact ⟨rfl, rfl⟩
    | exact ⟨hframe.2.2.2.2.1, hframe.2.2.2.2.2⟩

theorem expire_rates (s : AdmissionCoordinator F) (now : Int) :
    (expire s now).rates = s.rates ∧ (expire s now).policies = s.policies := by
  have hround : ∀ a b : AdmissionCoordinator F, expireLeaseRound now a = some b →
      b.rates = a.rates ∧ b.policies = a.policies := by
    intro a b hround
    obtain ⟨e, queue, hdue, ⟨_, rfl⟩ | ⟨_, _, _, _, rfl⟩⟩ := expireLeaseRound_cases a b hround
    · exact ⟨rfl, rfl⟩
    · exact expireLeaseEntry_rates { a with expiries := queue } now e
  have hleases : (expireLeases s now).rates = s.rates ∧
      (expireLeases s now).policies = s.policies :=
    iterate_inv (I := fun a => a.rates = s.rates ∧ a.policies = s.policies)
      (fun a b ha hb => ⟨(hround a b hb).1.trans ha.1, (hround a b hb).2.trans ha.2⟩) _ s
      ⟨rfl, rfl⟩
  obtain ⟨receipts, queue, hframe⟩ := expireReceipts_frame (expireLeases s now) now
  rw [expire, hframe]
  exact hleases

/-! ## Dated states are settled -/

/-- The instant whose retention ends at the zero instant. -/
def zeroDay : Int := -receiptRetention

/-- No queued receipt entry carries the zero instant, and none ever will
    because of a stored request. -/
structure Dated (s : AdmissionCoordinator F) : Prop where
  entry : ∀ e ∈ s.terminalExpiries, e.at' ≠ 0
  started : ∀ id receipt, s.receipts.lookup id = some receipt →
    receipt.request.operationStartedAt ≠ zeroDay

theorem Good.settled (h : Good s) (hd : Dated s) : Settled s := by
  intro e he receipt hreceipt hat
  exact h.lease_none_of_set hreceipt (hat ▸ hd.entry e he)

namespace Dated

variable {s s' : AdmissionCoordinator F}

/-- Only the receipts and their queue matter. -/
theorem of_eq (h : Dated s) (hreceipts : s'.receipts = s.receipts)
    (hqueue : s'.terminalExpiries = s.terminalExpiries) : Dated s' :=
  ⟨by rw [hqueue]; exact h.entry, by rw [hreceipts]; exact h.started⟩

theorem insert (h : Dated s) (id : UUID) (hs : receipt.request.operationStartedAt ≠ zeroDay)
    (hreceipts : s'.receipts = s.receipts.insert id receipt)
    (hqueue : ∀ e ∈ s'.terminalExpiries, e ∈ s.terminalExpiries ∨ e.at' ≠ 0) : Dated s' := by
  refine ⟨fun e he => (hqueue e he).elim (h.entry e) (fun hne => hne), ?_⟩
  rw [hreceipts]
  exact Table.forall_insert hs h.started

/-- Settling a receipt at an instant other than the zero day. -/
theorem settle (h : Dated s) (id : UUID) {now : Int}
    (hs : receipt.request.operationStartedAt ≠ zeroDay) (hnow : now ≠ zeroDay)
    (hretain : receipt.retainUntil
      = retentionBoundary receipt.request.operationStartedAt now) :
    Dated (settleReceipt s id receipt) := by
  refine h.insert id hs rfl (fun e he => ?_)
  simp only [settleReceipt, ExpiryQueue.add, MinHeap.mem_push] at he
  rcases he with rfl | he
  · right
    unfold zeroDay at hs hnow
    simp only [hretain, retentionBoundary]
    omega
  · exact .inl he

/-- Entries and receipts may go. -/
theorem pop (h : Dated s) {e : ExpiryEntry}
    (hpop : s.terminalExpiries.pop = some (e, queue)) (hqueue : s'.terminalExpiries = queue)
    (hreceipts : ∀ id receipt, s'.receipts.lookup id = some receipt →
      s.receipts.lookup id = some receipt) : Dated s' := by
  refine ⟨fun e' he' => ?_, fun id receipt hr => h.started id receipt (hreceipts id receipt hr)⟩
  rw [hqueue] at he'
  exact h.entry e' ((MinHeap.mem_of_pop hpop).mpr (.inr he'))

end Dated

/-- The instant at which the operation that a call acquires started. -/
def Operation.startedAt : Operation → Option Int
  | .acquire req => some req.operationStartedAt
  | _ => none

/-- The call neither reads the zero day off the clock nor acquires an
    operation that started on it. -/
def AvoidsZeroDay (c : Int × Operation) : Prop :=
  c.1 ≠ zeroDay ∧ c.2.startedAt ≠ some zeroDay

instance : DecidablePred AvoidsZeroDay := fun _ => inferInstanceAs (Decidable (_ ∧ _))

theorem dated_init (capacity : Int) : Dated (newAdmissionCoordinator F capacity) where
  entry := fun e he => absurd he (MinHeap.not_mem_empty e)
  started := fun id receipt h => by simp [newAdmissionCoordinator] at h

/-- **Step lemma** for dated states. -/
theorem dated_move [RateArith F] (hg : Good s) (h : Dated s)
    (hcall : AvoidsZeroDay (now, op)) (hmove : Move fingerprint evicting now op s es s') :
    Dated s' := by
  have hnow : now ≠ zeroDay := hcall.1
  cases hmove with
  | observePolicy policy =>
    rw [observeClientRatePolicy_eq]
    exact h.of_eq rfl rfl
  | skipLeaseEntry e queue hdue hstale | renewLease id got ttl hlease hlive httl =>
    exact h.of_eq rfl rfl
  | expireLease e queue lease hdue hkind hlease hat =>
    obtain ⟨receipt, hreceipt, hopen, hs'⟩ := hg.expireLease_eq hdue hkind hlease hat
    rw [hs']
    have hremoved : Dated { removeLease s e.id with expiries := queue } :=
      h.of_eq (removeLease_receipts s e.id) (removeLease_terminalExpiries s e.id)
    exact hremoved.settle e.id (h.started e.id receipt hreceipt) hnow rfl
  | skipReceiptEntry e queue hpop => exact h.pop hpop rfl (fun _ _ hr => hr)
  | deleteReceipt e queue receipt hpop | evictReceipt e queue receipt hevicting hpop =>
    exact h.pop hpop rfl fun _ _ hr => (Table.lookup_of_erase hr).2
  | reject req reason retryAt scope hop hdrained hnone hverdict =>
    subst hop
    have hframe : Dated (evaluate s now req).1 := by
      rw [evaluate_eq]
      exact h.of_eq rfl rfl
    exact hframe.settle req.leaseID (fun hs => hcall.2 (congrArg some hs)) hnow rfl
  | grant req debited hop hdrained hnone hverdict =>
    subst hop
    rw [evaluate_eq]
    exact h.insert req.leaseID (fun hs => hcall.2 (congrArg some hs)) rfl (fun e he => .inl he)
  | loseLease id =>
    exact h.of_eq (removeLease_receipts s id) (removeLease_terminalExpiries s id)
  | complete item receipt hreceipt hadmitted hopen =>
    rw [completeReceipt_eq]
    have hremoved : Dated { removeLease s item.lease.leaseID with
        rates := completionRates s now item receipt } :=
      h.of_eq (removeLease_receipts s item.lease.leaseID)
        (removeLease_terminalExpiries s item.lease.leaseID)
    exact hremoved.settle item.lease.leaseID (h.started _ receipt hreceipt) hnow rfl

/-- A sequence of moves that avoids the zero day keeps the coordinator good. -/
theorem good_trail [RateArith F] (h : Good s ∧ Dated s) (hcall : AvoidsZeroDay (now, op))
    (htrail : Trail (Move fingerprint evicting now op) s es s') : Good s' ∧ Dated s' := by
  refine htrail.inv_state (I := fun a => Good a ∧ Dated a) ?_ h
  intro a es b ⟨ha, hd⟩ hmove
  exact ⟨good_move ha (ha.settled hd) hmove, dated_move ha hd hcall hmove⟩

/-- **Call lemma**: a call that avoids the zero day keeps the coordinator good. -/
theorem good_call [RateArith F] (fingerprint : AdmissionRequest → Nat) (s : AdmissionCoordinator F)
    (c : Int × Operation) (h : Good s ∧ Dated s) (hcall : AvoidsZeroDay c) :
    Good ((machine fingerprint).step s c).1 ∧ Dated ((machine fingerprint).step s c).1 := by
  obtain ⟨now, op⟩ := c
  exact good_trail h hcall (call_trail s op (.inl rfl) :
    Trail (Move fingerprint true now op) s (call fingerprint s now op).2.2 _)

/-- **Run lemma**: every state reached by calls that avoid the zero day is good. -/
theorem good_run [RateArith F] (fingerprint : AdmissionRequest → Nat) (capacity : Int)
    (calls : List (Int × Operation)) (hcalls : ∀ c ∈ calls, AvoidsZeroDay c) :
    Good ((machine fingerprint).after (newAdmissionCoordinator F capacity) calls) ∧
      Dated ((machine fingerprint).after (newAdmissionCoordinator F capacity) calls) :=
  (machine fingerprint).after_inv (good_call fingerprint) _ calls
    ⟨good_init capacity, dated_init capacity⟩ ((machine fingerprint).along_of_forall _ calls hcalls)

end Coordination.LocalAdmission
