import PriorityGateway.Coordination.Leases.Service
import PriorityGateway.Coordination.Local.Invariant

/-! # The Local Coordinator under the Lease Manager

    The local coordinator respects the life of an account.  Nothing is
    assumed about the clock or about the rest of its state: that a lease is
    ended once follows from its receipt alone, as long as the receipt is
    there.  So the calls considered are those that do not delete the receipt
    of this one lease, neither at the end of its retention nor for want of
    room; the receipts of other leases may go at any time.

    `Complete` expires what is due before it looks at its batch.  Here that
    is a call of its own, as `PoolInflight` does nothing else. -/

namespace Coordination.LocalAdmission

open LeaseManager (Receipt Account Entry Processes Coordinator)

variable {F : Type}

/-! ## Accounts -/

def AdmissionReceipt.status (r : AdmissionReceipt) : Receipt :=
  if r.decision.lease.isNone then .rejected
  else if r.completed then .completed
  else .granted

/-- What the coordinator has stored under a lease id. -/
def accountOf (s : AdmissionCoordinator F) (id : UUID) : Account where
  receipt := (s.receipts.lookup id).map AdmissionReceipt.status
  slot := (s.leases.lookup id).isSome

/-- The receipt of the lease keeps its status or goes, and the lease may only go. -/
structure Fades (id : UUID) (s s' : AdmissionCoordinator F) : Prop where
  receipt : s'.receipts.lookup id = none ∨ (accountOf s' id).receipt = (accountOf s id).receipt
  lease : (accountOf s' id).slot = true → (accountOf s id).slot = true

variable {s s' : AdmissionCoordinator F} {id : UUID}

theorem Fades.of_eq (hr : s'.receipts = s.receipts) (hl : s'.leases = s.leases) :
    Fades id s s' := by
  constructor <;> simp [accountOf, hr, hl]

theorem Fades.trans {s'' : AdmissionCoordinator F} (h : Fades id s s') (h' : Fades id s' s'') :
    Fades id s s'' := by
  refine ⟨?_, fun hslot => h.lease (h'.lease hslot)⟩
  rcases h'.receipt with hgone | hsame
  · exact .inl hgone
  · refine h.receipt.imp (fun hgone => ?_) hsame.trans
    simpa [accountOf, hgone] using hsame

/-- A loop fades the account when its rounds do. -/
theorem Fades.of_iterate {body : AdmissionCoordinator F → Option (AdmissionCoordinator F)}
    (h : ∀ s s', body s = some s' → Fades id s s') (fuel : Nat) (s : AdmissionCoordinator F) :
    Fades id s (iterate body fuel s) :=
  iterate_inv (I := fun a => Fades id s a) (fun a b ha hb => ha.trans (h a b hb)) fuel s
    (.of_eq rfl rfl)

theorem Fades.eraseReceipt (id' : UUID) (queue : ExpiryQueue) :
    Fades id s { s with terminalExpiries := queue, receipts := s.receipts.erase id' } := by
  refine ⟨?_, fun hslot => hslot⟩
  simp only [accountOf, Table.lookup_erase_eq]
  split
  · exact .inl rfl
  · exact .inr rfl

/-- What is only reduced, and keeps its receipt, ages. -/
theorem Fades.ages (h : Fades id s s')
    (hkept : (s.receipts.lookup id).isSome → (s'.receipts.lookup id).isSome) :
    (accountOf s' id).receipt = (accountOf s id).receipt ∧
      (accountOf s id).Ages (accountOf s' id) := by
  have hsame : (accountOf s' id).receipt = (accountOf s id).receipt := by
    rcases h.receipt with hgone | hsame
    · cases hr : s.receipts.lookup id with
      | none => simp [accountOf, hgone, hr]
      | some receipt => simp [hr, hgone] at hkept
    · exact hsame
  exact ⟨hsame, fun r hr => hsame.trans hr, fun hnone => by rw [hsame, hnone]; simp,
    fun hslot => .inl (h.lease hslot)⟩

/-! ## Expiry and renewal -/

theorem fades_removeLease (s : AdmissionCoordinator F) (id' : UUID) :
    Fades id s (removeLease s id') := by
  refine ⟨.inr (by simp only [accountOf, removeLease_receipts]), ?_⟩
  simp only [accountOf, removeLease_leases, Table.lookup_erase_eq]
  split
  · simp
  · exact fun hslot => hslot

/-- A lease that runs out keeps the status of its receipt. -/
theorem fades_expireLeaseEntry (s : AdmissionCoordinator F) (now : Int) (e : ExpiryEntry) :
    Fades id s (expireLeaseEntry s now e) := by
  unfold expireLeaseEntry
  split
  · split
    · exact .of_eq rfl rfl
    · split
      · exact .of_eq rfl rfl
      · have hremoved : Fades id s (removeLease s e.id) := fades_removeLease s e.id
        simp only [removeLease_receipts]
        split
        · exact hremoved
        · next receipt hreceipt =>
          split
          · exact hremoved
          · refine hremoved.trans ⟨.inr ?_, fun hslot => hslot⟩
            simp only [accountOf, Table.lookup_insert_eq, removeLease_receipts]
            split
            · next hid =>
              rw [hid, hreceipt]
              rfl
            · rfl
  · exact .of_eq rfl rfl

theorem fades_expire (s : AdmissionCoordinator F) (now : Int) : Fades id s (expire s now) := by
  have hleases : Fades id s (expireLeases s now) := by
    refine .of_iterate (fun a b hround => ?_) _ s
    obtain ⟨e, queue, -, ⟨-, rfl⟩ | ⟨lease, -, -, -, rfl⟩⟩ := expireLeaseRound_cases a b hround
    · exact .of_eq rfl rfl
    · have hpopped : Fades id a { a with expiries := queue } := .of_eq rfl rfl
      exact hpopped.trans (fades_expireLeaseEntry _ now e)
  refine hleases.trans (.of_iterate (fun a b hround => ?_) _ _)
  obtain ⟨e, queue, -, -, ⟨-, rfl⟩ | ⟨receipt, -, -, rfl⟩⟩ := expireReceiptRound_cases a b hround
  · exact .of_eq rfl rfl
  · exact .eraseReceipt e.id queue

theorem fades_dropStale (s : AdmissionCoordinator F) : Fades id s (dropStale s) := by
  obtain ⟨receipts, queue, hframe⟩ := dropStale_frame s
  exact .of_eq (dropStale_receipts s) (by rw [hframe])

theorem fades_makeReceiptRoom (s : AdmissionCoordinator F) :
    Fades id s (makeReceiptRoom s).1 := by
  refine .of_iterate (fun a b hround => ?_) _ s
  rcases makeRoomRound_eq hround with rfl | ⟨e, queue, -, rfl⟩
  · exact fades_dropStale a
  · exact (fades_dropStale a).trans (.eraseReceipt e.id queue)

theorem fades_renewEntry (now : Int) (s : AdmissionCoordinator F) (want : LeaseIdentity) :
    Fades id s (renewEntry now s want).1 ∧ (renewEntry now s want).1.receipts = s.receipts := by
  unfold renewEntry
  rcases hl : s.leases.lookup want.leaseID with _ | got
  · exact ⟨fades_removeLease s _, removeLease_receipts s _⟩
  simp only
  split
  · exact ⟨fades_removeLease s _, removeLease_receipts s _⟩
  generalize (if got.ttl ≤ 0 then want.ttl else got.ttl) = ttl
  split
  · exact ⟨.of_eq rfl rfl, rfl⟩
  refine ⟨⟨.inr rfl, ?_⟩, rfl⟩
  simp only [accountOf, Table.lookup_insert_eq]
  split
  · next hkey =>
    rw [hkey, hl]
    exact fun _ => rfl
  · exact fun hslot => hslot

/-- Of the receipts, a renewal deletes what the expiry deletes. -/
theorem fades_renew (s : AdmissionCoordinator F) (now : Int) (leases : List LeaseIdentity) :
    Fades id s (renew s now leases).1 ∧
      (renew s now leases).1.receipts = (expire s now).receipts := by
  refine (renewBatch now).after_inv_all
    (I := fun a => Fades id s a ∧ a.receipts = (expire s now).receipts) (fun a want ha => ?_)
    (expire s now) leases ⟨fades_expire s now, rfl⟩
  obtain ⟨hfades, hreceipts⟩ : Fades id a _ ∧ _ := fades_renewEntry now a want
  exact ⟨ha.1.trans hfades, hreceipts.trans ha.2⟩

/-! ## Calls that keep the receipt -/

/-- The coordinator once a call has deleted the receipts it deletes: those at the end of
    their retention, and for a new one those that make room. -/
def swept (s : AdmissionCoordinator F) (now : Int) : Operation → AdmissionCoordinator F
  | .observeClientRatePolicy _ => s
  | .acquire req =>
    if (expire s now).receipts.lookup req.leaseID = none then (makeReceiptRoom (expire s now)).1
    else expire s now
  | _ => expire s now

/-- The call does not delete the receipt of `id`. -/
def RetainsReceipt (id : UUID) (s : AdmissionCoordinator F) (now : Int) (op : Operation) : Prop :=
  (s.receipts.lookup id).isSome → ((swept s now op).receipts.lookup id).isSome

variable [RateArith F] {fingerprint : AdmissionRequest → Nat} {now : Int}

/-- A fresh decision opens the account of its id and touches no other. -/
theorem acquireFresh_ages (fp : Nat) (now : Int) (req : AdmissionRequest)
    (hnone : s.receipts.lookup req.leaseID = none) :
    (accountOf s id).Ages (accountOf (acquireFresh fp s now req).1 id) := by
  have hopened : ∀ (s' : AdmissionCoordinator F) (receipt : AdmissionReceipt),
      s'.receipts = s.receipts.insert req.leaseID receipt → receipt.completed = false →
      (id ≠ req.leaseID → s'.leases.lookup id = s.leases.lookup id) →
      (accountOf s id).Ages (accountOf s' id) := by
    intro s' receipt hr hopen hl
    by_cases hid : id = req.leaseID
    · subst hid
      have hfree : (accountOf s req.leaseID).receipt = none := by simp [accountOf, hnone]
      refine ⟨fun r hr' => ?_, fun _ => ?_, fun _ => .inr hfree⟩
      · rw [hfree] at hr'
        cases hr'
      · simp only [accountOf, hr, Table.lookup_insert_eq, if_true, Option.map_some,
          AdmissionReceipt.status, hopen, Bool.false_eq_true, if_false]
        split <;> simp
    · have hsame : accountOf s' id = accountOf s id := by
        simp only [accountOf, hr, Table.lookup_insert_eq, if_neg hid, hl hid]
      rw [hsame]
      exact .refl _
  unfold acquireFresh
  obtain ⟨rates, policies, hs⟩ : ∃ rates policies,
      (evaluate s now req).1 = { s with rates := rates, policies := policies } :=
    ⟨_, _, evaluate_eq s now req⟩
  cases hv : evaluate s now req with
  | mk s₁ verdict =>
    rw [hv] at hs
    subst hs
    cases verdict with
    | reject reason retryAt scope => exact hopened _ _ rfl rfl fun _ => rfl
    | grant debited =>
      refine hopened _ _ rfl rfl fun hid => ?_
      simp only [recordLease, grantedLease, Table.lookup_insert_eq, if_neg hid]

theorem acquire_ages (req : AdmissionRequest) (hkept : RetainsReceipt id s now (.acquire req)) :
    (accountOf s id).Ages (accountOf (acquire fingerprint s now req).1 id) := by
  simp only [RetainsReceipt, swept] at hkept
  cases hr : (expire s now).receipts.lookup req.leaseID with
  | some old =>
    rw [acquire_of_some hr]
    rw [if_neg (by simp [hr])] at hkept
    exact ((fades_expire s now).ages hkept).2
  | none =>
    rw [acquire_of_none hr]
    rw [if_pos hr] at hkept
    obtain ⟨hsame, hfirst⟩ := ((fades_expire s now).trans (fades_makeReceiptRoom _)).ages hkept
    split
    · -- the account is as it was, up to its slot, when the decision is made
      have hages : (accountOf _ id).Ages _ := acquireFresh_ages (fingerprint req) now req
        (makeReceiptRoom_lookup_none _ hr)
      refine ⟨fun r hr' => hages.receipt r (hfirst.receipt r hr'), fun hnone' => ?_, ?_⟩
      · exact hages.opened (hsame.trans hnone')
      intro hslot
      rcases hages.slot hslot with hheld | hfree
      · exact hfirst.slot hheld
      · exact .inr (hsame.symm.trans hfree)
    · exact hfirst

theorem call_ages (op : Operation) (hop : ∀ items, op ≠ .complete items)
    (hkept : RetainsReceipt id s now op) :
    (accountOf s id).Ages (accountOf (call fingerprint s now op).1 id) := by
  cases op with
  | acquire req => exact acquire_ages req hkept
  | renew leases =>
    obtain ⟨hfades, hreceipts⟩ : Fades id s _ ∧ _ := fades_renew s now leases
    refine (hfades.ages fun hstored => ?_).2
    rw [hreceipts]
    exact hkept hstored
  | complete items => exact absurd rfl (hop items)
  | status =>
    unfold call
    simp only
    split
    · exact ((fades_expire s now).ages hkept).2
    · refine (((fades_expire s now).trans (fades_dropStale _)).ages fun hstored => ?_).2
      rw [dropStale_receipts]
      exact hkept hstored
  | poolInflight poolID => exact ((fades_expire s now).ages hkept).2
  | observeClientRatePolicy policy =>
    simp only [call]
    rw [observeClientRatePolicy_eq]
    exact .refl _

/-! ## Completions -/

/-- The usage an effect takes from the TPM bucket. -/
def Effect.tokens : Effect → Option TokenUsage
  | .tpmDebited _ usage => some usage
  | _ => none

/-- What `Complete` does with one item, as an entry of the log. -/
def entryOf (now : Int) (s : AdmissionCoordinator F) (item : LeaseCompletion) : Entry where
  completion := item
  found := (s.receipts.lookup item.lease.leaseID).isSome
  result := (completeEntry now s item).2.1
  debits := (completeEntry now s item).2.2.filterMap Effect.tokens

/-- The bucket a completion of the request is charged to, as it stands at `now`. -/
def chargedBucket (s : AdmissionCoordinator F) (now : Int) (request : AdmissionRequest) :
    RateState F :=
  normalized s request.clientID .tpm (currentPolicy s request).revision
    (currentPolicy s request).tpm now

/-- Charging a completion touches nothing, or takes from the balance of the client's TPM
    bucket exactly what its effects tell: the usage of the completion, at most once. -/
theorem chargeCompletion_cases (s : AdmissionCoordinator F) (now : Int)
    (request : AdmissionRequest) (usage : Option TokenUsage) :
    chargeCompletion s now request usage = (s, []) ∨
      ∃ effects, effects.filterMap Effect.tokens <+: usage.toList ∧
        chargeCompletion s now request usage
          = (setRate s request.clientID .tpm { chargedBucket s now request with
              balance := (effects.filterMap Effect.tokens).foldl RateArith.charge
                (chargedBucket s now request).balance }, effects) := by
  rcases usage with _ | u
  · exact .inl rfl
  simp only [chargeCompletion, chargeUsage]
  split
  · refine .inr ?_
    split
    · exact ⟨[.tpmDebited request u], List.prefix_rfl, rfl⟩
    · exact ⟨[], List.nil_prefix, rfl⟩
  · exact .inl rfl

/-- The four ways of `Complete` with an item. -/
inductive CompleteCase (now : Int) (s : AdmissionCoordinator F) (item : LeaseCompletion) :
    AdmissionCoordinator F × CompleteResult × List Effect → Prop where
  | stale (hnone : s.receipts.lookup item.lease.leaseID = none) :
      CompleteCase now s item
        (s, { leaseID := item.lease.leaseID, reason := some .staleOperation }, [])
  | lost (receipt : AdmissionReceipt)
      (hreceipt : s.receipts.lookup item.lease.leaseID = some receipt)
      (hstatus : receipt.status = .rejected) :
      CompleteCase now s item
        (s, ⟨item.lease.leaseID, some .leaseLost, none, some .leaseLost⟩, [])
  | repeated (receipt : AdmissionReceipt)
      (hreceipt : s.receipts.lookup item.lease.leaseID = some receipt)
      (hstatus : receipt.status = .completed) :
      CompleteCase now s item
        (s, ⟨item.lease.leaseID, some .alreadyCompleted, receipt.completion, none⟩, [])
  | applied (receipt : AdmissionReceipt)
      (hreceipt : s.receipts.lookup item.lease.leaseID = some receipt)
      (hstatus : receipt.status = .granted) :
      CompleteCase now s item (completeReceipt s now item receipt)

theorem completeEntry_cases (now : Int) (s : AdmissionCoordinator F) (item : LeaseCompletion) :
    CompleteCase now s item (completeEntry now s item) := by
  unfold completeEntry
  simp only
  split
  · next hnone => exact .stale hnone
  · next receipt hreceipt =>
    split
    · next hlease => exact .lost receipt hreceipt (by simp [AdmissionReceipt.status, hlease])
    · next hlease =>
      split
      · next hdone =>
        exact .repeated receipt hreceipt (by simp [AdmissionReceipt.status, hlease, hdone])
      · next hdone =>
        exact .applied receipt hreceipt (by simp [AdmissionReceipt.status, hlease, hdone])

/-- The usages an entry tells of are what the buckets have lost: those of the lease's client
    by exactly these tokens, all others by nothing. -/
theorem entryOf_debits (now : Int) (s : AdmissionCoordinator F) (item : LeaseCompletion) :
    (completeEntry now s item).1.rates = s.rates ∧ (entryOf now s item).debits = [] ∨
      ∃ receipt bucket, s.receipts.lookup item.lease.leaseID = some receipt ∧
        bucket = chargedBucket (removeLease s item.lease.leaseID) now receipt.request ∧
        (completeEntry now s item).1.rates
          = (setRate s receipt.request.clientID .tpm { bucket with
              balance := (entryOf now s item).debits.foldl RateArith.charge
                bucket.balance }).rates := by
  unfold entryOf
  simp only
  have hcase := completeEntry_cases now s item
  generalize completeEntry now s item = done at hcase ⊢
  cases hcase with
  | stale | lost | repeated => exact .inl ⟨rfl, rfl⟩
  | applied receipt hreceipt hstatus =>
    have hrates : (removeLease s item.lease.leaseID).rates = s.rates :=
      (removeLease_frame s item.lease.leaseID).2.2.2.2.1
    simp only [completeReceipt]
    rcases chargeCompletion_cases (removeLease s item.lease.leaseID) now receipt.request
      item.usage with hnone | ⟨effects, -, hcharged⟩
    · rw [hnone]
      exact .inl ⟨hrates, rfl⟩
    · refine .inr ⟨receipt, _, hreceipt, rfl, ?_⟩
      rw [hcharged]
      simp only [setRate, hrates]

/-- **One completion** respects the life of an account. -/
theorem completeEntry_processes (now : Int) (item : LeaseCompletion) :
    Processes id (entryOf now s item) (accountOf s id)
      (accountOf (completeEntry now s item).1 id) := by
  have hstored : ∀ receipt, s.receipts.lookup item.lease.leaseID = some receipt →
      item.lease.leaseID = id → (accountOf s id).receipt = some receipt.status := by
    intro receipt hreceipt hid
    rw [← hid, accountOf, hreceipt]
    rfl
  unfold entryOf
  have hcase := completeEntry_cases now s item
  generalize completeEntry now s item = done at hcase ⊢
  by_cases hid : item.lease.leaseID = id
  · cases hcase with
    | stale hnone => exact .refused hid (.inl ⟨rfl, by simp [hnone]⟩) rfl rfl
    | lost receipt hreceipt hstatus =>
      exact .refused hid (.inr ⟨rfl, hstatus ▸ hstored receipt hreceipt hid⟩) rfl rfl
    | repeated receipt hreceipt hstatus =>
      exact .repeated hid ⟨rfl, rfl⟩ (hstatus ▸ hstored receipt hreceipt hid) rfl rfl
    | applied receipt hreceipt hstatus =>
      refine .applied hid ⟨rfl, ?_⟩ (hstatus ▸ hstored receipt hreceipt hid) ?_ ?_
      · simp only [completeReceipt]
        split <;> simp
      · have hlease : receipt.decision.lease.isNone = false := by
          cases hlease : receipt.decision.lease.isNone with
          | false => rfl
          | true => simp only [AdmissionReceipt.status, hlease, if_true, reduceCtorEq] at hstatus
        rw [completeReceipt_eq, ← hid]
        simp only [accountOf, settleReceipt, Table.lookup_insert_eq, if_true, Option.map_some,
          removeLease_lookup_self, AdmissionReceipt.status, hlease, Bool.false_eq_true, if_false,
          Option.isSome_none]
      · simp only [completeReceipt]
        rcases chargeCompletion_cases (removeLease s item.lease.leaseID) now receipt.request
          item.usage with hnone | ⟨effects, hprefix, hcharged⟩
        · rw [hnone]
          exact List.nil_prefix
        · rw [hcharged]
          exact hprefix
  · refine .other hid ?_
    cases hcase with
    | stale | lost | repeated => exact .refl _
    | applied receipt hreceipt hstatus =>
      have hne : id ≠ item.lease.leaseID := fun h => hid h.symm
      have hsame : accountOf (completeReceipt s now item receipt).1 id = accountOf s id := by
        rw [completeReceipt_eq]
        simp only [accountOf, settleReceipt, Table.lookup_insert_eq, if_neg hne,
          removeLease_receipts, removeLease_leases, Table.lookup_erase_eq]
      rw [hsame]
      exact .refl _

section
variable (F fingerprint id)

/-- The local coordinator, of any capacity, as the lease manager uses it for the lease `id`. -/
def coordinator : Coordinator (AdmissionCoordinator F) id where
  init := fun s => ∃ capacity, s = newAdmissionCoordinator F capacity
  background := fun s s' => ∃ now op, (∀ items, op ≠ .complete items) ∧
    RetainsReceipt id s now op ∧ s' = (call fingerprint s now op).1
  process := fun s e s' => ∃ now, e = entryOf now s e.completion ∧
    s' = (completeEntry now s e.completion).1
  account := fun s => accountOf s id
  Inv := fun _ => True
  inv_init := by
    rintro s ⟨capacity, rfl⟩
    exact ⟨trivial, by simp [accountOf, newAdmissionCoordinator]⟩
  ages := by
    rintro s s' - ⟨now, op, hop, hkept, rfl⟩
    exact ⟨trivial, call_ages op hop hkept⟩
  processes := by
    rintro s e s' - ⟨now, he, rfl⟩
    have hprocess : Processes id _ (accountOf s id) _ :=
      completeEntry_processes now e.completion
    rw [← he] at hprocess
    exact ⟨trivial, hprocess⟩

end

end Coordination.LocalAdmission
