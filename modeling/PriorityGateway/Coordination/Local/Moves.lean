import PriorityGateway.Coordination.Local.Admission

/-! # What a Call of the Local Coordinator Can Do

    Every public call is a sequence of moves of eleven kinds.  A move carries
    the facts the code checked before making it and the effects it has, so
    that an invariant of the coordinator is proved once per kind of move
    (`Move`) and holds for whole calls by `call_trail`.

    `Move` is parameterised by the call, its clock reading and whether receipts
    may be evicted to make room. -/

namespace Coordination.LocalAdmission

variable {F : Type}

/-! ## Rounds of the loops -/

variable {s s' : AdmissionCoordinator F} {req : AdmissionRequest} {now : Int}

/-- A round of the first loop of `expire` drops an entry that fits no stored
    lease, or ends the lease it fits. -/
theorem expireLeaseRound_cases (s s' : AdmissionCoordinator F)
    (h : expireLeaseRound now s = some s') :
    ∃ e queue, s.expiries.due now = some (e, queue) ∧
      ((∀ lease, s.leases.lookup e.id = some lease → e.kind = .admissionLeaseExpiry →
          lease.expiresAt ≠ e.at') ∧ s' = { s with expiries := queue } ∨
        ∃ lease, e.kind = .admissionLeaseExpiry ∧ s.leases.lookup e.id = some lease ∧
          lease.expiresAt = e.at' ∧
          s' = expireLeaseEntry { s with expiries := queue } now e) := by
  unfold expireLeaseRound at h
  rcases hdue : s.expiries.due now with _ | popped
  · simp [hdue] at h
  obtain ⟨e, queue⟩ := popped
  simp only [hdue, Option.some.injEq] at h
  subst h
  refine ⟨e, queue, rfl, ?_⟩
  by_cases hmatch : e.kind = .admissionLeaseExpiry ∧
      ∃ lease, s.leases.lookup e.id = some lease ∧ lease.expiresAt = e.at'
  · obtain ⟨hkind, lease, hlease, hat⟩ := hmatch
    exact .inr ⟨lease, hkind, hlease, hat, rfl⟩
  -- every other entry leaves the coordinator as it is
  have hstale : ∀ lease, s.leases.lookup e.id = some lease →
      e.kind = .admissionLeaseExpiry → lease.expiresAt ≠ e.at' :=
    fun lease hl hk ha => hmatch ⟨hk, lease, hl, ha⟩
  refine .inl ⟨hstale, ?_⟩
  unfold expireLeaseEntry
  cases hk : e.kind with
  | admissionLeaseExpiry =>
    cases hl : s.leases.lookup e.id with
    | none => simp
    | some lease => simp [hstale lease hl hk]
  | _ => rfl

/-- A round of the second loop of `expire` drops an entry that fits no stored
    terminal receipt, or deletes the receipt it fits. -/
theorem expireReceiptRound_cases (s s' : AdmissionCoordinator F)
    (h : expireReceiptRound now s = some s') :
    ∃ e queue, s.terminalExpiries.pop = some (e, queue) ∧ e.at' ≤ now ∧
      ((∀ receipt, s.receipts.lookup e.id = some receipt → receipt.retainUntil ≠ e.at') ∧
          s' = { s with terminalExpiries := queue } ∨
        ∃ receipt, s.receipts.lookup e.id = some receipt ∧ receipt.retainUntil = e.at' ∧
          s' = { s with terminalExpiries := queue, receipts := s.receipts.erase e.id }) := by
  unfold expireReceiptRound at h
  rcases hdue : s.terminalExpiries.due now with _ | popped
  · simp [hdue] at h
  obtain ⟨e, queue⟩ := popped
  simp only [hdue, Option.some.injEq] at h
  subst h
  obtain ⟨hle, hpop⟩ := MinHeap.popDue_some hdue
  refine ⟨e, queue, hpop, hle, ?_⟩
  unfold expireReceiptEntry
  rcases hr : s.receipts.lookup e.id with _ | receipt
  · refine .inl ⟨?_, rfl⟩
    intro receipt hreceipt
    cases hreceipt
  by_cases hat : receipt.retainUntil = e.at'
  · exact .inr ⟨receipt, rfl, hat, by simp [hat, hle]⟩
  · refine .inl ⟨fun other hother => ?_, by simp [hat]⟩
    cases hother
    exact hat

/-- A round of `hasTerminalReceipt` takes a stale root off the queue. -/
theorem dropStaleRound_cases (h : dropStaleRound s = some s') :
    ∃ e queue, s.terminalExpiries.pop = some (e, queue) ∧ ¬ rootIsTerminal s e = true ∧
      s' = { s with terminalExpiries := queue } := by
  unfold dropStaleRound at h
  split at h
  · cases h
  · next e queue hpop =>
    obtain ⟨hstale, ⟨⟩⟩ := Option.ite_none_left_eq_some.mp h
    exact ⟨e, queue, hpop, hstale, rfl⟩

/-- A root that does not belong to a stored terminal receipt is stale. -/
theorem stale_of_root {e : ExpiryEntry} (hroot : ¬ rootIsTerminal s e = true)
    {receipt : AdmissionReceipt} (hreceipt : s.receipts.lookup e.id = some receipt)
    (hat : receipt.retainUntil = e.at') : receipt.retainUntil = 0 := by
  by_contra hset
  simp [rootIsTerminal, hreceipt, hat] at hroot
  exact hset (hat.trans hroot)

/-- A round of `makeReceiptRoom` cleans the queue, and may take its root with its receipt. -/
theorem makeRoomRound_eq (h : makeRoomRound s = some s') :
    s' = dropStale s ∨ ∃ e queue, (dropStale s).terminalExpiries.pop = some (e, queue) ∧
      s' = { dropStale s with
        terminalExpiries := queue
        receipts := (dropStale s).receipts.erase e.id } := by
  obtain ⟨-, h⟩ := Option.ite_none_left_eq_some.mp h
  split at h
  · exact .inl (Option.some.inj h).symm
  · next e queue hpop => exact .inr ⟨e, queue, hpop, (Option.some.inj h).symm⟩

/-- Only the receipts and their queue differ. -/
def SameButReceipts (s s' : AdmissionCoordinator F) : Prop :=
  ∃ receipts queue, s' = { s with receipts := receipts, terminalExpiries := queue }

theorem SameButReceipts.trans {s'' : AdmissionCoordinator F} (h : SameButReceipts s s')
    (h' : SameButReceipts s' s'') : SameButReceipts s s'' := by
  obtain ⟨_, _, rfl⟩ := h
  obtain ⟨receipts, queue, rfl⟩ := h'
  exact ⟨receipts, queue, rfl⟩

/-- A loop whose rounds touch only the receipts does so as a whole. -/
theorem SameButReceipts.of_iterate {body : AdmissionCoordinator F → Option (AdmissionCoordinator F)}
    (h : ∀ s s', body s = some s' → SameButReceipts s s') (fuel : Nat)
    (s : AdmissionCoordinator F) : SameButReceipts s (iterate body fuel s) :=
  iterate_inv (I := fun a => SameButReceipts s a) (fun a b ha hb => ha.trans (h a b hb)) fuel s
    ⟨_, _, rfl⟩

section

variable (s)

/-- The second loop of `expire` touches only the receipts and their queue. -/
theorem expireReceipts_frame (now : Int) : SameButReceipts s (expireReceipts s now) := by
  refine SameButReceipts.of_iterate (fun a b hb => ?_) _ s
  obtain ⟨_, _, -, -, ⟨-, rfl⟩ | ⟨_, -, -, rfl⟩⟩ := expireReceiptRound_cases a b hb
  all_goals exact ⟨_, _, rfl⟩

theorem dropStale_frame : SameButReceipts s (dropStale s) := by
  refine SameButReceipts.of_iterate (fun a b hb => ?_) _ s
  obtain ⟨_, _, -, -, rfl⟩ := dropStaleRound_cases hb
  exact ⟨_, _, rfl⟩

/-- Making room touches only the receipts and their queue. -/
theorem makeReceiptRoom_frame : SameButReceipts s (makeReceiptRoom s).1 := by
  refine SameButReceipts.of_iterate (fun a b hb => ?_) _ s
  rcases makeRoomRound_eq hb with rfl | ⟨_, _, -, rfl⟩
  · exact dropStale_frame a
  · exact (dropStale_frame a).trans ⟨_, _, rfl⟩

/-- After `expire`, the receipt entries that are left are not due. -/
theorem expire_drained (now : Int) (e : ExpiryEntry)
    (he : e ∈ (expire s now).terminalExpiries) : now < e.at' := by
  have hstop : expireReceiptRound now (expire s now) = none := by
    refine iterate_stops (fun a => a.terminalExpiries.size) (fun a b hb => ?_) _ _ (le_refl _)
    obtain ⟨_, _, hpop, -, ⟨-, rfl⟩ | ⟨_, -, -, rfl⟩⟩ := expireReceiptRound_cases a b hb
    all_goals exact MinHeap.pop_size hpop
  have hdue : (expire s now).terminalExpiries.due now = none := by
    unfold expireReceiptRound at hstop
    split at hstop
    · assumption
    · cases hstop
  exact MinHeap.popDue_none hdue he

/-- Cleaning only takes entries off the receipt queue. -/
theorem dropStale_queue (e : ExpiryEntry)
    (he : e ∈ (dropStale s).terminalExpiries) : e ∈ s.terminalExpiries := by
  refine iterate_inv (I := fun a => ∀ e ∈ a.terminalExpiries, e ∈ s.terminalExpiries) ?_ _ s
    (fun _ h => h) e he
  intro a b ha hb e' he'
  obtain ⟨_, _, hpop, -, rfl⟩ := dropStaleRound_cases hb
  exact ha e' ((MinHeap.mem_of_pop hpop).mpr (.inr he'))

theorem makeReceiptRoom_queue (e : ExpiryEntry)
    (he : e ∈ (makeReceiptRoom s).1.terminalExpiries) : e ∈ s.terminalExpiries := by
  refine iterate_inv (I := fun a => ∀ e ∈ a.terminalExpiries, e ∈ s.terminalExpiries) ?_ _ s
    (fun _ h => h) e he
  intro a b ha hb e' he'
  rcases makeRoomRound_eq hb with rfl | ⟨_, _, hpop, rfl⟩
  · exact ha e' (dropStale_queue a e' he')
  · exact ha e' (dropStale_queue a e' ((MinHeap.mem_of_pop hpop).mpr (.inr he')))

@[simp] theorem dropStale_receipts : (dropStale s).receipts = s.receipts := by
  refine iterate_inv (I := fun a => a.receipts = s.receipts) ?_ _ s rfl
  intro a b ha hb
  obtain ⟨_, _, -, -, rfl⟩ := dropStaleRound_cases hb
  exact ha

/-- After the cleaning the root entry belongs to a stored terminal receipt. -/
theorem dropStale_root {e : ExpiryEntry} {queue : ExpiryQueue}
    (hpop : (dropStale s).terminalExpiries.pop = some (e, queue)) :
    ∃ receipt, s.receipts.lookup e.id = some receipt ∧ receipt.retainUntil ≠ 0 ∧
      receipt.retainUntil = e.at' := by
  have hstop : dropStaleRound (dropStale s) = none := by
    refine iterate_stops (fun a => a.terminalExpiries.size) (fun a b hb => ?_) _ s (le_refl _)
    obtain ⟨_, _, hpop, -, rfl⟩ := dropStaleRound_cases hb
    exact MinHeap.pop_size hpop
  unfold dropStaleRound at hstop
  simp only [hpop] at hstop
  split at hstop
  · rename_i hroot
    unfold rootIsTerminal at hroot
    cases hr : s.receipts.lookup e.id with
    | none => simp [hr] at hroot
    | some receipt => exact ⟨receipt, rfl, by simpa [hr] using hroot⟩
  · simp at hstop

end

/-! ## Moves -/

def grantEffects (req : AdmissionRequest) (debited : Bool) : List Effect :=
  .leaseCreated req :: if debited then [.rpmDebited req] else []

def extendLease (s : AdmissionCoordinator F) (id : UUID) (got : LeaseIdentity) :
    AdmissionCoordinator F :=
  { s with
    leases := s.leases.insert id got
    expiries := s.expiries.add .admissionLeaseExpiry got.leaseID got.expiresAt }

/-- One move of the call `op` made at `now`. -/
inductive Move [RateArith F] (fingerprint : AdmissionRequest → Nat) (evicting : Bool)
    (now : Int) (op : Operation) :
    AdmissionCoordinator F → List Effect → AdmissionCoordinator F → Prop where
  /-- A client policy is observed. -/
  | observePolicy (s : AdmissionCoordinator F) (policy : ClientRatePolicy) :
      Move fingerprint evicting now op s [] (observeClientRatePolicy s policy).1
  /-- A due lease entry belongs to no stored lease and is dropped. -/
  | skipLeaseEntry (s : AdmissionCoordinator F) (e : ExpiryEntry) (queue : ExpiryQueue)
      (hdue : s.expiries.due now = some (e, queue))
      (hstale : ∀ lease, s.leases.lookup e.id = some lease → e.kind = .admissionLeaseExpiry →
        lease.expiresAt ≠ e.at') :
      Move fingerprint evicting now op s [] { s with expiries := queue }
  /-- A due lease entry ends its lease. -/
  | expireLease (s : AdmissionCoordinator F) (e : ExpiryEntry) (queue : ExpiryQueue)
      (lease : LeaseIdentity) (hdue : s.expiries.due now = some (e, queue))
      (hkind : e.kind = .admissionLeaseExpiry) (hlease : s.leases.lookup e.id = some lease)
      (hat : lease.expiresAt = e.at') :
      Move fingerprint evicting now op s [] (expireLeaseEntry { s with expiries := queue } now e)
  /-- A receipt entry that matches no stored terminal receipt is dropped. -/
  | skipReceiptEntry (s : AdmissionCoordinator F) (e : ExpiryEntry) (queue : ExpiryQueue)
      (hpop : s.terminalExpiries.pop = some (e, queue))
      (hstale : ∀ receipt, s.receipts.lookup e.id = some receipt →
        receipt.retainUntil = e.at' → receipt.retainUntil = 0) :
      Move fingerprint evicting now op s [] { s with terminalExpiries := queue }
  /-- A receipt reaches the end of its retention. -/
  | deleteReceipt (s : AdmissionCoordinator F) (e : ExpiryEntry) (queue : ExpiryQueue)
      (receipt : AdmissionReceipt) (hpop : s.terminalExpiries.pop = some (e, queue))
      (hreceipt : s.receipts.lookup e.id = some receipt) (hat : receipt.retainUntil = e.at')
      (hdue : e.at' ≤ now) :
      Move fingerprint evicting now op s []
        { s with terminalExpiries := queue, receipts := s.receipts.erase e.id }
  /-- A terminal receipt makes room for another one. -/
  | evictReceipt (s : AdmissionCoordinator F) (e : ExpiryEntry) (queue : ExpiryQueue)
      (receipt : AdmissionReceipt) (hevicting : evicting = true)
      (hpop : s.terminalExpiries.pop = some (e, queue))
      (hreceipt : s.receipts.lookup e.id = some receipt) (hat : receipt.retainUntil = e.at')
      (hset : receipt.retainUntil ≠ 0) :
      Move fingerprint evicting now op s []
        { s with terminalExpiries := queue, receipts := s.receipts.erase e.id }
  /-- A request without a receipt is rejected, after everything due has expired. -/
  | reject (s : AdmissionCoordinator F) (req : AdmissionRequest) (reason : Reason)
      (retryAt : Option Int) (scope : Option AdmissionScope) (hop : op = .acquire req)
      (hdrained : ∀ e ∈ s.terminalExpiries, now < e.at')
      (hnone : s.receipts.lookup req.leaseID = none)
      (hverdict : (evaluate s now req).2 = .reject reason retryAt scope) :
      Move fingerprint evicting now op s []
        (recordRejection (fingerprint req) (evaluate s now req).1 now req
          { reason := some reason, retryAt := retryAt, concurrencyScope := scope })
  /-- A request without a receipt is granted a lease, after everything due has expired. -/
  | grant (s : AdmissionCoordinator F) (req : AdmissionRequest) (debited : Bool)
      (hop : op = .acquire req) (hdrained : ∀ e ∈ s.terminalExpiries, now < e.at')
      (hnone : s.receipts.lookup req.leaseID = none)
      (hverdict : (evaluate s now req).2 = .grant debited) :
      Move fingerprint evicting now op s (grantEffects req debited)
        (recordLease (fingerprint req) (evaluate s now req).1 now req)
  /-- A renewal entry that does not fit a live lease removes what is stored under its id. -/
  | loseLease (s : AdmissionCoordinator F) (id : UUID) :
      Move fingerprint evicting now op s [] (removeLease s id)
  /-- A live lease is renewed. -/
  | renewLease (s : AdmissionCoordinator F) (id : UUID) (got : LeaseIdentity) (ttl : Int)
      (hlease : s.leases.lookup id = some got) (hlive : now < got.expiresAt) (httl : 0 < ttl) :
      Move fingerprint evicting now op s [] (extendLease s id { got with expiresAt := now + ttl })
  /-- An admitted operation is completed for the first time. -/
  | complete (s : AdmissionCoordinator F) (item : LeaseCompletion) (receipt : AdmissionReceipt)
      (hreceipt : s.receipts.lookup item.lease.leaseID = some receipt)
      (hadmitted : receipt.decision.lease.isSome) (hopen : receipt.completed = false) :
      Move fingerprint evicting now op s (completeReceipt s now item receipt).2.2
        (completeReceipt s now item receipt).1

variable [RateArith F] {fingerprint : AdmissionRequest → Nat} {evicting : Bool} {now : Int}
  {op : Operation} {es : List Effect}

theorem Move.of_not_evicting (h : Move fingerprint false now op s es s') :
    Move fingerprint evicting now op s es s' := by
  cases h with
  | observePolicy policy => exact .observePolicy _ policy
  | skipLeaseEntry e queue hdue hstale => exact .skipLeaseEntry _ e queue hdue hstale
  | expireLease e queue lease hdue hkind hlease hat =>
    exact .expireLease _ e queue lease hdue hkind hlease hat
  | skipReceiptEntry e queue hpop hstale => exact .skipReceiptEntry _ e queue hpop hstale
  | deleteReceipt e queue receipt hpop hreceipt hat hdue =>
    exact .deleteReceipt _ e queue receipt hpop hreceipt hat hdue
  | evictReceipt _ _ _ hevicting => simp at hevicting
  | reject req reason retryAt scope hop hdrained hnone hverdict =>
    exact .reject _ req reason retryAt scope hop hdrained hnone hverdict
  | grant req debited hop hdrained hnone hverdict =>
    exact .grant _ req debited hop hdrained hnone hverdict
  | loseLease id => exact .loseLease _ id
  | renewLease id got ttl hlease hlive httl => exact .renewLease _ id got ttl hlease hlive httl
  | complete item receipt hreceipt hadmitted hopen =>
    exact .complete _ item receipt hreceipt hadmitted hopen

/-- A sequence of moves without effects. -/
abbrev Silent (fingerprint : AdmissionRequest → Nat) (evicting : Bool) (now : Int)
    (op : Operation) (s s' : AdmissionCoordinator F) : Prop :=
  Trail (Move fingerprint evicting now op) s [] s'

/-! ## Expiry -/

theorem expireLeaseRound_trail (s s' : AdmissionCoordinator F)
    (h : expireLeaseRound now s = some s') : Silent fingerprint evicting now op s s' := by
  obtain ⟨e, queue, hdue, ⟨hstale, rfl⟩ | ⟨lease, hkind, hlease, hat, rfl⟩⟩ :=
    expireLeaseRound_cases s s' h
  · exact .single (.skipLeaseEntry s e queue hdue hstale)
  · exact .single (.expireLease s e queue lease hdue hkind hlease hat)

theorem expireReceiptRound_trail (s s' : AdmissionCoordinator F)
    (h : expireReceiptRound now s = some s') : Silent fingerprint evicting now op s s' := by
  obtain ⟨e, queue, hpop, hle, ⟨hstale, rfl⟩ | ⟨receipt, hreceipt, hat, rfl⟩⟩ :=
    expireReceiptRound_cases s s' h
  · refine .single (.skipReceiptEntry s e queue hpop ?_)
    intro receipt hreceipt hat
    exact absurd hat (hstale receipt hreceipt)
  · exact .single (.deleteReceipt s e queue receipt hpop hreceipt hat hle)

/-- `expire` is a silent sequence of moves. -/
theorem expire_trail (s : AdmissionCoordinator F) :
    Silent fingerprint evicting now op s (expire s now) :=
  (Trail.of_iterate expireLeaseRound_trail _ s).silent_trans
    (Trail.of_iterate expireReceiptRound_trail _ _)

/-! ## Receipt room -/

theorem dropStaleRound_trail (s s' : AdmissionCoordinator F)
    (h : dropStaleRound s = some s') : Silent fingerprint evicting now op s s' := by
  obtain ⟨e, queue, hpop, hroot, rfl⟩ := dropStaleRound_cases h
  exact .single (.skipReceiptEntry s e queue hpop fun _ => stale_of_root hroot)

theorem dropStale_trail (s : AdmissionCoordinator F) :
    Silent fingerprint evicting now op s (dropStale s) :=
  Trail.of_iterate dropStaleRound_trail _ s

/-- A round of `makeReceiptRoom` either only cleans the queue or evicts one receipt. -/
theorem makeRoomRound_cases (s s' : AdmissionCoordinator F) (h : makeRoomRound s = some s') :
    Silent fingerprint false now op s s' ∧ s'.receipts = s.receipts ∨
      Silent fingerprint true now op s s' ∧ ∃ id receipt, s.receipts.lookup id = some receipt ∧
        s'.receipts = s.receipts.erase id := by
  rcases makeRoomRound_eq h with rfl | ⟨e, queue, hpop, rfl⟩
  · exact .inl ⟨dropStale_trail s, dropStale_receipts s⟩
  obtain ⟨receipt, hreceipt, hset, hat⟩ := dropStale_root s hpop
  refine .inr ⟨(dropStale_trail s).silent_trans ?_, e.id, receipt, hreceipt, ?_⟩
  · rw [← dropStale_receipts] at hreceipt
    exact .single (.evictReceipt _ e queue receipt rfl hpop hreceipt hat hset)
  · simp only [dropStale_receipts]

theorem makeReceiptRoom_trail (s : AdmissionCoordinator F) :
    Silent fingerprint true now op s (makeReceiptRoom s).1 := by
  refine Trail.of_iterate (fun a b hb => ?_) _ s
  rcases makeRoomRound_cases a b hb with h | h
  · exact h.1.mono fun _ _ _ => Move.of_not_evicting
  · exact h.1

/-- Receipts only leave the table while room is made. -/
theorem makeRoom_size_le (fuel : Nat) (s : AdmissionCoordinator F) :
    Table.size (iterate makeRoomRound fuel s).receipts ≤ Table.size s.receipts := by
  refine iterate_inv (I := fun a => Table.size a.receipts ≤ Table.size s.receipts) ?_ _ s
    (le_refl _)
  intro a b ha hb
  rcases @makeRoomRound_cases F _ (fun _ => 0) 0 .status a b hb
    with h | ⟨_, id, receipt, hreceipt, hb⟩
  · simpa only [h.2] using ha
  · have := Table.size_erase_of_some hreceipt
    rw [hb]
    omega

theorem makeRoom_trail_of_kept (fuel : Nat) (s : AdmissionCoordinator F)
    (hkept : (iterate makeRoomRound fuel s).receipts = s.receipts) :
    Silent fingerprint false now op s (iterate makeRoomRound fuel s) := by
  induction fuel generalizing s with
  | zero => exact .nil s
  | succ fuel ih =>
    unfold iterate at hkept ⊢
    rcases hb : makeRoomRound s with _ | s'
    · exact .nil s
    simp only [hb] at hkept ⊢
    rcases makeRoomRound_cases s s' hb with h | ⟨_, id, receipt, hreceipt, hs'⟩
    · exact h.1.silent_trans (ih s' (hkept.trans h.2.symm))
    -- the evicted receipt does not come back
    have hle := makeRoom_size_le fuel s'
    have hsize := Table.size_erase_of_some hreceipt
    rw [hkept, hs'] at hle
    omega

omit [RateArith F] in
theorem makeReceiptRoom_of_room (h : (Table.size s.receipts : Int) < s.receiptCapacity) :
    makeReceiptRoom s = (s, true) := by
  have hdone : makeRoomRound s = none := by
    unfold makeRoomRound
    rw [if_pos (.inl h)]
  unfold makeReceiptRoom
  simp only [iterate_of_none hdone, h, decide_true]

theorem makeReceiptRoom_lookup_none (s : AdmissionCoordinator F) {id : UUID}
    (hnone : s.receipts.lookup id = none) : (makeReceiptRoom s).1.receipts.lookup id = none := by
  refine iterate_inv (I := fun a => a.receipts.lookup id = none) ?_ _ s hnone
  intro a b ha hb
  rcases @makeRoomRound_cases F _ (fun _ => 0) 0 .status a b hb with h | ⟨_, id', _, _, hb⟩
  · rw [h.2]
    exact ha
  · rw [hb, Table.lookup_erase_eq, ha]
    split <;> rfl

/-! ## Calls -/

/-- The call makes no receipt leave the table for want of room. -/
def KeepsReceipts (s : AdmissionCoordinator F) (now : Int) : Operation → Prop
  | .acquire req => (expire s now).receipts.lookup req.leaseID = none →
      (makeReceiptRoom (expire s now)).1.receipts = (expire s now).receipts
  | _ => True

theorem acquireFresh_trail (s : AdmissionCoordinator F) (req : AdmissionRequest)
    (hop : op = .acquire req) (hdrained : ∀ e ∈ s.terminalExpiries, now < e.at')
    (hnone : s.receipts.lookup req.leaseID = none) :
    Trail (Move fingerprint evicting now op) s (acquireFresh (fingerprint req) s now req).2.2
      (acquireFresh (fingerprint req) s now req).1 := by
  unfold acquireFresh
  cases hv : evaluate s now req with
  | mk s₁ verdict =>
    have hs₁ : (evaluate s now req).1 = s₁ := by rw [hv]
    cases verdict with
    | reject reason retryAt scope =>
      have hmove : Move fingerprint evicting now op s [] _ :=
        .reject s req reason retryAt scope hop hdrained hnone (by rw [hv])
      rw [hs₁] at hmove
      exact .single hmove
    | grant debited =>
      have hmove : Move fingerprint evicting now op s (grantEffects req debited) _ :=
        .grant s req debited hop hdrained hnone (by rw [hv])
      rw [hs₁] at hmove
      exact .single hmove

theorem acquire_of_some {old : AdmissionReceipt}
    (h : (expire s now).receipts.lookup req.leaseID = some old) :
    acquire fingerprint s now req
      = (expire s now, replay (fingerprint req) (expire s now) now req old, []) := by
  unfold acquire
  simp only [h]

/-- A request without a receipt is decided once there is room for one. -/
theorem acquire_of_none (h : (expire s now).receipts.lookup req.leaseID = none) :
    acquire fingerprint s now req
      = if (makeReceiptRoom (expire s now)).2 then
          acquireFresh (fingerprint req) (makeReceiptRoom (expire s now)).1 now req
        else ((makeReceiptRoom (expire s now)).1,
          { reason := some .coordinationUnavailable }, []) := by
  unfold acquire
  simp only [h]
  cases makeReceiptRoom (expire s now) with
  | mk s₁ room => cases room <;> rfl

/-- `Acquire`: expiry, then a replay, a refusal for want of room, or a fresh decision. -/
theorem acquire_trail (s : AdmissionCoordinator F) (req : AdmissionRequest)
    (hop : op = .acquire req) (hkeep : evicting = true ∨ KeepsReceipts s now (.acquire req)) :
    Trail (Move fingerprint evicting now op) s (acquire fingerprint s now req).2.2
      (acquire fingerprint s now req).1 := by
  cases hr : (expire s now).receipts.lookup req.leaseID with
  | some old =>
    rw [acquire_of_some hr]
    exact expire_trail s
  | none =>
    rw [acquire_of_none hr]
    have hroom : Silent fingerprint evicting now op (expire s now)
        (makeReceiptRoom (expire s now)).1 := by
      rcases hkeep with rfl | hkeep
      · exact makeReceiptRoom_trail _
      · exact (makeRoom_trail_of_kept _ _ (hkeep hr)).mono fun _ _ _ => Move.of_not_evicting
    have hnone := makeReceiptRoom_lookup_none _ hr
    split
    · have hdrained : ∀ e ∈ (makeReceiptRoom (expire s now)).1.terminalExpiries, now < e.at' :=
        fun e he => expire_drained s now e (makeReceiptRoom_queue _ e he)
      exact (expire_trail s).silent_trans
        (hroom.silent_trans (acquireFresh_trail _ req hop hdrained hnone))
    · exact (expire_trail s).silent_trans hroom

theorem renewEntry_trail (s : AdmissionCoordinator F) (want : LeaseIdentity) :
    Silent fingerprint evicting now op s (renewEntry now s want).1 := by
  unfold renewEntry
  rcases hl : s.leases.lookup want.leaseID with _ | got
  · exact .single (.loseLease s want.leaseID)
  simp only
  split
  · exact .single (.loseLease s want.leaseID)
  rename_i hown
  push Not at hown
  generalize (if got.ttl ≤ 0 then want.ttl else got.ttl) = ttl
  split
  · exact .nil s
  · exact .single (.renewLease s want.leaseID got ttl hl (by omega) (by omega))

/-- `Renew`: expiry, then one move at most for each entry. -/
theorem renew_trail (s : AdmissionCoordinator F) (leases : List LeaseIdentity) :
    Silent fingerprint evicting now op s (renew s now leases).1 := by
  have hbatch := Trail.of_machine (renewBatch now) (fun _ => ([] : List Effect))
    (fun a want => (renewEntry_trail a want : Silent fingerprint evicting now op a _))
    (expire s now) leases
  have hsilent : (((renewBatch now).answers (expire s now) leases).map
      (fun _ => ([] : List Effect))).flatten = [] := by simp
  rw [hsilent] at hbatch
  exact (expire_trail s).silent_trans hbatch

theorem completeEntry_trail (s : AdmissionCoordinator F) (item : LeaseCompletion) :
    Trail (Move fingerprint evicting now op) s (completeEntry now s item).2.2
      (completeEntry now s item).1 := by
  unfold completeEntry
  rcases hr : s.receipts.lookup item.lease.leaseID with _ | receipt
  · simp only [hr]
    exact .nil s
  simp only [hr]
  split
  · exact .nil s
  rename_i hadmitted
  split
  · exact .nil s
  rename_i hopen
  have hsome : receipt.decision.lease.isSome := by
    simpa [Option.isSome_iff_ne_none] using hadmitted
  exact .single (.complete s item receipt hr hsome (by simpa using hopen))

/-- `Complete`: expiry, then one move at most for each item. -/
theorem complete_trail (s : AdmissionCoordinator F) (completions : List LeaseCompletion) :
    Trail (Move fingerprint evicting now op) s
      (((complete s now completions).2.map Prod.snd).flatten) (complete s now completions).1 :=
  (expire_trail s).silent_trans
    (Trail.of_machine (completeBatch now) Prod.snd completeEntry_trail _ completions)

/-- **Every call is a sequence of moves**, with the effects it reports. -/
theorem call_trail (s : AdmissionCoordinator F) (op : Operation)
    (hkeep : evicting = true ∨ KeepsReceipts s now op) :
    Trail (Move fingerprint evicting now op) s (call fingerprint s now op).2.2
      (call fingerprint s now op).1 := by
  cases op with
  | acquire req => exact acquire_trail s req rfl hkeep
  | renew leases => exact renew_trail s leases
  | complete completions => exact complete_trail s completions
  | status =>
    unfold call
    simp only
    split
    · exact expire_trail s
    · exact (expire_trail s).silent_trans (dropStale_trail _)
  | poolInflight poolID => exact expire_trail s
  | observeClientRatePolicy policy => exact .single (.observePolicy s policy)

/-- Only a move of `Acquire` creates a lease, and only the one that was asked for. -/
theorem Move.leaseCreated (h : Move fingerprint evicting now op s es s')
    (hreq : .leaseCreated req ∈ es) : op = .acquire req := by
  cases h with
  | grant req' debited hop =>
    have hsame : req = req' := by
      cases debited with
      | false | true => simpa [grantEffects] using hreq
    rw [hsame]
    exact hop
  | complete item receipt =>
    -- a completion debits tokens at most
    exfalso
    revert hreq
    simp only [completeReceipt]
    cases item.usage with
    | none => simp [chargeCompletion]
    | some usage =>
      simp only [chargeCompletion, chargeUsage]
      repeat' split
      all_goals simp
  | _ => cases hreq

theorem leaseCreated_of_call (hreq : .leaseCreated req ∈ (call fingerprint s now op).2.2) :
    op = .acquire req := by
  have htrail : Trail (Move fingerprint true now op) s (call fingerprint s now op).2.2
      (call fingerprint s now op).1 := call_trail s op (.inl rfl)
  have hall := htrail.inv (I := fun past _ => ∀ req, .leaseCreated req ∈ past → op = .acquire req)
    (fun past a es b hpast hmove req hmem => by
      rcases List.mem_append.mp hmem with hold | hnew
      · exact hpast req hold
      · exact hmove.leaseCreated hnew)
    [] (fun _ => nofun)
  exact hall req hreq

end Coordination.LocalAdmission
