import PriorityGateway.Framework.ReceiptLedger
import PriorityGateway.Coordination.Local.PriorityReserve

/-! # The Receipts as a Ledger

    With a nondecreasing clock and without evictions the receipts of the
    coordinator are a receipt ledger: a request is granted only while its id
    has no receipt and the request is fresh, a first completion closes the
    receipt, and a receipt is deleted only when its request has become stale.

    The last point is where the two retention rules meet.  The deletion
    instant of an ended operation is a day after the later of its start and
    its end, so it is never before a day after its start; and from then on the
    freshness check refuses the request.  The invariant (`Retained`) says this
    for the stored receipts and their queue. -/

namespace Coordination.LocalAdmission

variable {F : Type}

/-! ## Ended receipts and their queue -/

/-- The receipt of a rejected, expired or completed operation. -/
def AdmissionReceipt.Ended (r : AdmissionReceipt) : Prop :=
  r.completed = true ∨ r.expired = true ∨ r.decision.lease.isSome = false

theorem AdmissionReceipt.Open.not_ended {r : AdmissionReceipt} (h : r.Open) : ¬ r.Ended := by
  obtain ⟨hlease, hcompleted, hexpired, _⟩ := h
  rintro (hc | he | hl)
  · rw [hcompleted] at hc
    cases hc
  · rw [hexpired] at he
    cases he
  · rw [hlease] at hl
    cases hl

/-- What the receipts and their queue look like at `t`.  An entry whose receipt
    is gone already is due, so the next expiry takes it off the queue. -/
structure Retained (fingerprint : AdmissionRequest → Nat) (t : Int)
    (s : AdmissionCoordinator F) : Prop where
  good : Good s
  key : ∀ id receipt, s.receipts.lookup id = some receipt →
    receipt.request.leaseID = id ∧ receipt.fingerprint = fingerprint receipt.request
  ended : ∀ id receipt, s.receipts.lookup id = some receipt → receipt.Ended →
    receipt.request.operationStartedAt + receiptRetention ≤ receipt.retainUntil ∧
      receipt.retainUntil ≤ retentionBoundary receipt.request.operationStartedAt t
  queued : ∀ e ∈ s.terminalExpiries,
    (∃ receipt, s.receipts.lookup e.id = some receipt ∧ receipt.Ended ∧
      e.at' ≤ receipt.retainUntil) ∨
    (s.receipts.lookup e.id = none ∧ e.at' ≤ t)

namespace Retained

variable {fingerprint : AdmissionRequest → Nat} {t t' now : Int} {s s' : AdmissionCoordinator F}

theorem mono (h : Retained fingerprint t s) (hle : t ≤ t') : Retained fingerprint t' s := by
  refine ⟨h.good, h.key, ?_, ?_⟩
  · intro id receipt hr hended
    obtain ⟨hlow, hhigh⟩ := h.ended id receipt hr hended
    unfold retentionBoundary at hhigh ⊢
    exact ⟨hlow, by omega⟩
  · intro e he
    rcases h.queued e he with hheld | ⟨hnone, hat⟩
    · exact .inl hheld
    · exact .inr ⟨hnone, le_trans hat hle⟩

variable {receipt : AdmissionReceipt}

variable (h : Retained fingerprint t s) {e : ExpiryEntry} {id : UUID}
include h

/-- A queued receipt that is stored has ended. -/
theorem entry (he : e ∈ s.terminalExpiries)
    (hr : s.receipts.lookup e.id = some receipt) : receipt.Ended ∧ e.at' ≤ receipt.retainUntil := by
  rcases h.queued e he with ⟨receipt', hr', hended, hat⟩ | ⟨hnone, _⟩
  · rw [hr] at hr'
    cases hr'
    exact ⟨hended, hat⟩
  · rw [hr] at hnone
    cases hnone

theorem settled : Settled s := by
  intro e he receipt hr _
  have hended := (h.entry he hr).1
  cases hl : s.leases.lookup e.id with
  | none => rfl
  | some lease =>
    obtain ⟨receipt', hr', hopen, _⟩ := h.good.leaseReceipt e.id lease hl
    rw [hr] at hr'
    cases hr'
    exact absurd hended hopen.not_ended

/-- Once everything due is off the queue, an id without a receipt has no entry. -/
theorem no_entry (hdrained : ∀ e ∈ s.terminalExpiries, t < e.at')
    (hnone : s.receipts.lookup id = none) : ∀ e ∈ s.terminalExpiries, e.id ≠ id := by
  rintro e he rfl
  rcases h.queued e he with ⟨receipt, hr, _⟩ | ⟨_, hat⟩
  · rw [hnone] at hr
    cases hr
  · have := hdrained e he
    omega

theorem of_eq (hgood : Good s') (hreceipts : s'.receipts = s.receipts)
    (hqueue : s'.terminalExpiries = s.terminalExpiries) : Retained fingerprint t s' :=
  ⟨hgood, by rw [hreceipts]; exact h.key, by rw [hreceipts]; exact h.ended,
    by rw [hreceipts, hqueue]; exact h.queued⟩

theorem settle (hgood : Good (settleReceipt s id receipt))
    (hkey : receipt.request.leaseID = id ∧ receipt.fingerprint = fingerprint receipt.request)
    (hended : receipt.Ended)
    (hretain : receipt.retainUntil = retentionBoundary receipt.request.operationStartedAt t)
    (hold : ∀ e ∈ s.terminalExpiries, e.id = id → e.at' ≤ receipt.retainUntil) :
    Retained fingerprint t (settleReceipt s id receipt) := by
  refine ⟨hgood, Table.forall_insert hkey h.key, Table.forall_insert (fun _ => ?_) h.ended, ?_⟩
  · rw [hretain]
    exact ⟨started_le_retentionBoundary _ _, le_refl _⟩
  intro e he
  simp only [settleReceipt, ExpiryQueue.add, MinHeap.mem_push] at he
  simp only [settleReceipt, Table.lookup_insert_eq]
  rcases he with rfl | he
  · exact .inl ⟨receipt, by simp, hended, le_refl _⟩
  by_cases hid : e.id = id
  · exact .inl ⟨receipt, by simp [hid], hended, hold e he hid⟩
  · simp only [if_neg hid]
    exact h.queued e he

/-- A due receipt goes with the oldest entry; whatever else is queued for it is due too. -/
theorem delete {queue : ExpiryQueue}
    (hpop : s.terminalExpiries.pop = some (e, queue)) (hr : s.receipts.lookup e.id = some receipt)
    (hat : receipt.retainUntil = e.at') (hdue : e.at' ≤ t)
    (hgood : Good { s with terminalExpiries := queue, receipts := s.receipts.erase e.id }) :
    Retained fingerprint t
      { s with terminalExpiries := queue, receipts := s.receipts.erase e.id } := by
  refine ⟨hgood, fun id r hid => h.key id r (Table.lookup_of_erase hid).2,
    fun id r hid => h.ended id r (Table.lookup_of_erase hid).2, ?_⟩
  intro e' he'
  have hin := (MinHeap.mem_of_pop hpop).mpr (.inr he')
  simp only [Table.lookup_erase_eq]
  by_cases hid : e'.id = e.id
  · have hle := (h.entry hin (by rw [hid]; exact hr)).2
    exact .inr ⟨by simp [hid], by omega⟩
  · simp only [if_neg hid]
    exact h.queued e' hin

end Retained

section Moves

variable [RateArith F] {fingerprint : AdmissionRequest → Nat} {now : Int} {op : Operation}
  {s s' : AdmissionCoordinator F} {es : List Effect}

/-- **Step lemma** for the retention invariant, without evictions. -/
theorem retained_move (h : Retained fingerprint now s)
    (hmove : Move fingerprint false now op s es s') : Retained fingerprint now s' := by
  have hgood := good_move h.good h.settled hmove
  cases hmove with
  | observePolicy policy =>
    rw [observeClientRatePolicy_eq] at hgood ⊢
    exact h.of_eq hgood rfl rfl
  | skipLeaseEntry | renewLease => exact h.of_eq hgood rfl rfl
  | expireLease e queue lease hdue hkind hlease hat =>
    obtain ⟨receipt, hr, hopen, hs'⟩ := h.good.expireLease_eq hdue hkind hlease hat
    rw [hs'] at hgood ⊢
    have hremoved : Retained fingerprint now { removeLease s e.id with expiries := queue } := by
      refine ⟨?_, ?_, ?_, ?_⟩
      · exact (h.good.removeLease e.id).skipLeaseEntry
          (by rw [removeLease_expiries]; exact (MinHeap.popDue_some hdue).2)
          (fun lease hl => by rw [removeLease_lookup_self] at hl; cases hl)
      · simpa only [removeLease_receipts] using h.key
      · simpa only [removeLease_receipts] using h.ended
      · simpa only [removeLease_receipts, removeLease_terminalExpiries] using h.queued
    refine hremoved.settle hgood (h.key e.id receipt hr) (.inr (.inl rfl)) rfl ?_
    -- an open receipt has no entry yet
    intro e' he' hid
    rw [removeLease_terminalExpiries] at he'
    exact absurd (h.entry he' (by rw [hid]; exact hr)).1 hopen.not_ended
  | skipReceiptEntry e queue hpop hstale =>
    refine ⟨hgood, h.key, h.ended, ?_⟩
    intro e' he'
    exact h.queued e' ((MinHeap.mem_of_pop hpop).mpr (.inr he'))
  | deleteReceipt e queue receipt hpop hr hat hdue => exact h.delete hpop hr hat hdue hgood
  | evictReceipt e queue receipt hevicting => cases hevicting
  | reject req reason retryAt scope hop hdrained hnone hverdict =>
    rw [evaluate_eq] at hgood ⊢
    have hframe := h.of_eq (h.good.withRates (evaluate s now req).1.rates
      (evaluate s now req).1.policies) rfl rfl
    exact hframe.settle hgood ⟨rfl, rfl⟩ (.inr (.inr rfl)) rfl
      (fun e he hid => absurd hid (h.no_entry hdrained hnone e he))
  | grant req debited hop hdrained hnone hverdict =>
    rw [evaluate_eq] at hgood ⊢
    have hnew : ∀ id receipt, (recordLease (fingerprint req) s now req).receipts.lookup id
            = some receipt →
        (id = req.leaseID ∧ receipt.request = req ∧ receipt.fingerprint = fingerprint req ∧
          receipt.Open) ∨ s.receipts.lookup id = some receipt := by
      intro id receipt hr
      simp only [recordLease, Table.lookup_insert_eq] at hr
      split at hr
      · next hid => cases hr; exact .inl ⟨hid, rfl, rfl, rfl, rfl, rfl, rfl⟩
      · exact .inr hr
    refine ⟨hgood, ?_, ?_, ?_⟩
    · intro id receipt hr
      rcases hnew id receipt hr with ⟨hid, hreq, hfp, _⟩ | hr
      · rw [hreq]
        exact ⟨hid.symm, hfp⟩
      · exact h.key id receipt hr
    · intro id receipt hr hended
      rcases hnew id receipt hr with ⟨_, _, _, hopen⟩ | hr
      · exact absurd hended hopen.not_ended
      · exact h.ended id receipt hr hended
    · intro e he
      have hne := h.no_entry hdrained hnone e he
      simp only [recordLease, Table.lookup_insert_eq, if_neg hne]
      exact h.queued e he
  | loseLease id =>
    exact h.of_eq hgood (removeLease_receipts s id) (removeLease_terminalExpiries s id)
  | complete item receipt hr hadmitted hopen =>
    rw [completeReceipt_eq] at hgood ⊢
    have hremoved : Retained fingerprint now { removeLease s item.lease.leaseID with
        rates := completionRates s now item receipt } :=
      h.of_eq ((h.good.removeLease item.lease.leaseID).withRates _ _)
        (removeLease_receipts s _) (removeLease_terminalExpiries s _)
    refine hremoved.settle hgood (h.key _ receipt hr) (.inl rfl) rfl ?_
    -- an expired operation may be queued already, for an instant that is not later
    intro e he hid
    have hin : e ∈ s.terminalExpiries := by
      simpa only [removeLease_terminalExpiries] using he
    obtain ⟨hended, hat⟩ := h.entry hin (by rw [hid]; exact hr)
    exact le_trans hat (h.ended _ receipt hr hended).2

/-! ## The ledger -/

def AdmissionReceipt.entry (r : AdmissionReceipt) : ReceiptLedger.Entry AdmissionRequest where
  request := r.request
  granted := r.decision.lease.isSome
  closed := r.completed

omit [RateArith F] in
def ledger (s : AdmissionCoordinator F) : UUID → Option (ReceiptLedger.Entry AdmissionRequest) :=
  fun id => (s.receipts.lookup id).map AdmissionReceipt.entry

/-- The ledger event of an effect; a debited request is part of its grant. -/
def Effect.event : Effect → Option (ReceiptLedger.Event AdmissionRequest)
  | .leaseCreated req => some (.created req)
  | .rpmDebited _ => none
  | .tpmDebited req _ => some (.charged req)

/-- Steps of the ledger of admission requests. -/
abbrev LedgerStep (now : Int) :=
  ReceiptLedger.Step AdmissionRequest.leaseID AdmissionRequest.operationStartedAt
    receiptRetention now

variable {id : UUID} {receipt : AdmissionReceipt}

omit [RateArith F] in
theorem ledger_insert (hs' : s'.receipts = s.receipts.insert id receipt) :
    ledger s' = Function.update (ledger s) id (some receipt.entry) := by
  funext id'
  rw [Function.update_apply]
  simp only [ledger, hs', Table.lookup_insert_eq]
  split
  · rfl
  · rfl

omit [RateArith F] in
theorem ledger_erase (hs' : s'.receipts = s.receipts.erase id) :
    ledger s' = Function.update (ledger s) id none := by
  funext id'
  rw [Function.update_apply]
  simp only [ledger, hs', Table.lookup_erase_eq]
  split
  · rfl
  · rfl

omit [RateArith F] in
theorem ledgerStep_insert {events : List (ReceiptLedger.Event AdmissionRequest)}
    (hs' : s'.receipts = s.receipts.insert id receipt) (hstep : LedgerStep now (ledger s) events
      (Function.update (ledger s) id (some receipt.entry))) :
    LedgerStep now (ledger s) events (ledger s') := by
  rw [ledger_insert hs']
  exact hstep

/-- A completion charges its own request, if anything. -/
theorem completeReceipt_events (s : AdmissionCoordinator F) (now : Int) (item : LeaseCompletion)
    (receipt : AdmissionReceipt) :
    (completeReceipt s now item receipt).2.2.filterMap Effect.event = [] ∨
      (completeReceipt s now item receipt).2.2.filterMap Effect.event
        = [.charged receipt.request] := by
  simp only [completeReceipt]
  rcases item.usage with _ | usage
  · exact .inl rfl
  simp only [chargeCompletion, chargeUsage]
  split
  · split
    · exact .inr rfl
    · exact .inl rfl
  · exact .inl rfl

/-- **Refinement**: without evictions, every move is a step of the ledger. -/
theorem ledger_move (h : Retained fingerprint now s)
    (hmove : Move fingerprint false now op s es s') :
    LedgerStep now (ledger s) (es.filterMap Effect.event) (ledger s') := by
  have hkeep : ∀ {a : AdmissionCoordinator F}, a.receipts = s.receipts →
      LedgerStep now (ledger s) [] (ledger a) := by
    intro a ha
    unfold ledger
    rw [ha]
    exact .keep _
  cases hmove with
  | observePolicy policy =>
    rw [observeClientRatePolicy_eq]
    exact hkeep rfl
  | skipLeaseEntry | skipReceiptEntry | renewLease => exact hkeep rfl
  | expireLease e queue lease hdue hkind hlease hat =>
    obtain ⟨receipt, hr, hopen, hs'⟩ := h.good.expireLease_eq hdue hkind hlease hat
    rw [hs']
    -- the ledger does not see that the operation expired
    have hsame : ledger (settleReceipt { removeLease s e.id with expiries := queue } e.id
        { receipt with
          expired := true
          retainUntil := retentionBoundary receipt.request.operationStartedAt now })
        = ledger s := by
      rw [ledger_insert (s := s) (by simp only [settleReceipt, removeLease_receipts]; rfl)]
      apply Function.update_eq_self_iff.mpr
      show some receipt.entry = (s.receipts.lookup e.id).map AdmissionReceipt.entry
      rw [hr]
      rfl
    rw [hsame]
    exact .keep _
  | deleteReceipt e queue receipt hpop hr hat hdue =>
    have herase : ledger { s with terminalExpiries := queue, receipts := s.receipts.erase e.id }
        = Function.update (ledger s) e.id none := ledger_erase rfl
    rw [herase]
    obtain ⟨hended, _⟩ := h.entry ((MinHeap.mem_of_pop hpop).mpr (.inl rfl)) hr
    have hold := (h.ended e.id receipt hr hended).1
    refine .drop _ e.id receipt.entry ?_ ?_
    · simp only [ledger, hr, Option.map_some]
    · show receipt.request.operationStartedAt + receiptRetention ≤ now
      omega
  | evictReceipt e queue receipt hevicting => cases hevicting
  | reject req reason retryAt scope hop hdrained hnone hverdict =>
    rw [evaluate_eq]
    exact ledgerStep_insert rfl (.reject _ req (by simp only [ledger, hnone, Option.map_none]))
  | grant req debited hop hdrained hnone hverdict =>
    rw [evaluate_eq]
    have hevents : (grantEffects req debited).filterMap Effect.event = [.created req] := by
      cases debited <;> rfl
    rw [hevents]
    exact ledgerStep_insert rfl (.grant _ req (by simp only [ledger, hnone, Option.map_none])
        (lt_of_fresh (evaluate_grant hverdict).fresh))
  | loseLease id => exact hkeep (removeLease_receipts s id)
  | complete item receipt hr hadmitted hopen =>
    rw [completeReceipt_eq]
    refine ledgerStep_insert (by simp only [settleReceipt, removeLease_receipts]; rfl) ?_
    exact .close _ item.lease.leaseID receipt.entry _
      (by simp only [ledger, hr, Option.map_some]) hadmitted hopen
      (completeReceipt_events s now item receipt)

end Moves

/-! ## What expiry does to a receipt -/

/-- The receipt of an operation whose lease ran out. -/
def AdmissionReceipt.expire (r : AdmissionReceipt) (now : Int) : AdmissionReceipt :=
  { r with
    expired := true
    retainUntil := retentionBoundary r.request.operationStartedAt now }

/-- From `s` to `a` the receipt of `id` stayed, or was marked expired with its lease, or
    was deleted at the end of its retention. -/
def ReceiptExpires (now : Int) (s a : AdmissionCoordinator F) (id : UUID) : Prop :=
  a.receipts.lookup id = s.receipts.lookup id ∨
  (∃ receipt lease, s.receipts.lookup id = some receipt ∧ receipt.Open ∧
    s.leases.lookup id = some lease ∧ lease.expiresAt ≤ now ∧
    a.receipts.lookup id = some (receipt.expire now)) ∨
  (∃ receipt, s.receipts.lookup id = some receipt ∧ receipt.Ended ∧
    receipt.retainUntil ≤ now ∧ a.receipts.lookup id = none)

/-- `a` is `s` after some rounds of `expire` at `now`. -/
structure Expiring (fingerprint : AdmissionRequest → Nat) (now : Int)
    (s a : AdmissionCoordinator F) : Prop where
  retained : Retained fingerprint now a
  leases : ∀ id lease, a.leases.lookup id = some lease → s.leases.lookup id = some lease
  receipt : ∀ id, ReceiptExpires now s a id

theorem AdmissionReceipt.expire_ended (r : AdmissionReceipt) (now : Int) : (r.expire now).Ended :=
  .inr (.inl rfl)

variable {fingerprint : AdmissionRequest → Nat} {now : Int} {s a b : AdmissionCoordinator F}

theorem Expiring.leaseRound [RateArith F] (h : Expiring fingerprint now s a)
    (hround : expireLeaseRound now a = some b) : Expiring fingerprint now s b := by
  have htrail : Silent fingerprint false now .status a b := expireLeaseRound_trail a b hround
  have hretained : Retained fingerprint now b :=
    htrail.inv_state (fun _ _ _ ha hm => retained_move ha hm) h.retained
  obtain ⟨e, queue, hdue, ⟨hstale, rfl⟩ | ⟨lease, hkind, hlease, hat, rfl⟩⟩ :=
    expireLeaseRound_cases a b hround
  · exact ⟨hretained, h.leases, h.receipt⟩
  obtain ⟨hle, -⟩ := MinHeap.popDue_some hdue
  obtain ⟨receipt, hreceipt, hopen, hb⟩ := h.retained.good.expireLease_eq hdue hkind hlease hat
  refine ⟨hretained, ?_, ?_⟩
  · intro id l hl
    rw [hb] at hl
    have hl' : (removeLease a e.id).leases.lookup id = some l := hl
    exact h.leases id l (lookup_of_removeLease hl').2
  intro id
  have hlookup : (expireLeaseEntry { a with expiries := queue } now e).receipts.lookup id
      = if id = e.id then some (receipt.expire now) else a.receipts.lookup id := by
    rw [hb]
    simp only [settleReceipt, removeLease_receipts, Table.lookup_insert_eq]
    rfl
  by_cases hid : id = e.id
  · subst hid
    -- an open receipt has not been touched before
    rcases h.receipt e.id with hsame | ⟨old, _, _, _, _, _, hmarked⟩ | ⟨_, _, _, _, hgone⟩
    · refine .inr (.inl ⟨receipt, lease, hsame ▸ hreceipt, hopen, h.leases _ _ hlease, ?_, ?_⟩)
      · omega
      · rw [hlookup, if_pos rfl]
    · rw [hreceipt] at hmarked
      cases hmarked
      exact absurd (old.expire_ended now) hopen.not_ended
    · rw [hreceipt] at hgone
      cases hgone
  · have hkeep := h.receipt id
    unfold ReceiptExpires at hkeep ⊢
    rw [hlookup, if_neg hid]
    exact hkeep

theorem Expiring.receiptRound [RateArith F] (h : Expiring fingerprint now s a)
    (hround : expireReceiptRound now a = some b) : Expiring fingerprint now s b := by
  have htrail : Silent fingerprint false now .status a b := expireReceiptRound_trail a b hround
  have hretained : Retained fingerprint now b :=
    htrail.inv_state (fun _ _ _ ha hm => retained_move ha hm) h.retained
  obtain ⟨e, queue, hpop, hle, ⟨hstale, rfl⟩ | ⟨receipt, hreceipt, hat, rfl⟩⟩ :=
    expireReceiptRound_cases a b hround
  · exact ⟨hretained, h.leases, h.receipt⟩
  refine ⟨hretained, h.leases, ?_⟩
  intro id
  by_cases hid : id = e.id
  · subst hid
    have hended := (h.retained.entry ((MinHeap.mem_of_pop hpop).mpr (.inl rfl)) hreceipt).1
    have hnone : (a.receipts.erase e.id).lookup e.id = none := by
      rw [Table.lookup_erase_eq, if_pos rfl]
    rcases h.receipt e.id with hsame | ⟨old, _, _, _, _, _, hmarked⟩ | ⟨_, _, _, _, hgone⟩
    · exact .inr (.inr ⟨receipt, hsame ▸ hreceipt, hended, by omega, hnone⟩)
    · -- a receipt that expired just now is kept for a day
      rw [hreceipt] at hmarked
      cases hmarked
      have hlater := lt_retentionBoundary old.request.operationStartedAt now
      simp only [AdmissionReceipt.expire] at hat
      omega
    · rw [hreceipt] at hgone
      cases hgone
  · have hkeep := h.receipt id
    unfold ReceiptExpires at hkeep ⊢
    simp only [Table.lookup_erase_eq, if_neg hid]
    exact hkeep

/-- **What `expire` does** to leases and receipts. -/
theorem expiring_expire [RateArith F] (h : Retained fingerprint now s) :
    Expiring fingerprint now s (expire s now) := by
  have hstart : Expiring fingerprint now s s := ⟨h, fun _ _ hl => hl, fun _ => .inl rfl⟩
  have hleases : Expiring fingerprint now s (expireLeases s now) :=
    iterate_inv (fun _ _ ha hb => ha.leaseRound hb) _ s hstart
  exact iterate_inv (fun _ _ ha hb => ha.receiptRound hb) _ _ hleases

end Coordination.LocalAdmission
