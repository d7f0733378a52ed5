import PriorityGateway.Coordination.Fingerprint
import PriorityGateway.Coordination.Local.Retention

/-! # Admission and Charging Happen at Most Once

    Runs with a nondecreasing clock in which no receipt is evicted.  The
    receipts refine the receipt ledger, so the histories of the ledger are
    those of the coordinator: each request creates one lease at most and is
    charged once at most, whatever is replayed and however late.

    The answers to replays follow from what a call can do to one receipt: a
    rejected receipt stays as it is until its retention ends, and a lease that
    has ended does not come back. -/

namespace Coordination.LocalAdmission

variable {F : Type} [RateArith F] {fingerprint : AdmissionRequest → Nat}

/-! ## Histories -/

def effects (fingerprint : AdmissionRequest → Nat) (s : AdmissionCoordinator F)
    (calls : List (Int × Operation)) : List Effect :=
  (((machine fingerprint).answers s calls).map Prod.snd).flatten

theorem effects_cons (s : AdmissionCoordinator F) (c : Int × Operation)
    (calls : List (Int × Operation)) :
    effects fingerprint s (c :: calls)
      = (call fingerprint s c.1 c.2).2.2
        ++ effects fingerprint (call fingerprint s c.1 c.2).1 calls := rfl

/-- The clock never goes back during the run. -/
def Nondecreasing (calls : List (Int × Operation)) : Prop :=
  (calls.map Prod.fst).Pairwise (· ≤ ·)

/-- No call of the run evicts a receipt. -/
def EvictsNothing (fingerprint : AdmissionRequest → Nat) (s : AdmissionCoordinator F)
    (calls : List (Int × Operation)) : Prop :=
  (machine fingerprint).Along (fun s c => KeepsReceipts s c.1 c.2) s calls

/-- The coordinator at `t` after the effects `H`. -/
structure Once (fingerprint : AdmissionRequest → Nat) (t : Int) (H : List Effect)
    (s : AdmissionCoordinator F) : Prop where
  retained : Retained fingerprint t s
  recorded : ReceiptLedger.Recorded AdmissionRequest.leaseID AdmissionRequest.operationStartedAt
    receiptRetention t (H.filterMap Effect.event) (ledger s)
  rpm : ∀ req, H.count (.rpmDebited req) ≤ H.count (.leaseCreated req)

variable {H es : List Effect} {s s' : AdmissionCoordinator F} {t now t' : Int} {op : Operation}
  {req : AdmissionRequest} {receipt : AdmissionReceipt}

omit [RateArith F] in
theorem Once.mono (h : Once fingerprint t H s) (hle : t ≤ t') : Once fingerprint t' H s :=
  ⟨h.retained.mono hle, h.recorded.mono hle, h.rpm⟩

omit [RateArith F] in
theorem once_init (t capacity : Int) :
    Once fingerprint t [] (newAdmissionCoordinator F capacity) where
  retained :=
    { good := good_init capacity
      key := fun id receipt h => by simp [newAdmissionCoordinator] at h
      ended := fun id receipt h => by simp [newAdmissionCoordinator] at h
      queued := fun e he => absurd he (MinHeap.not_mem_empty e) }
  recorded := ReceiptLedger.recorded_init _ _ _ t
  rpm := fun req => le_refl _

/-- No move debits a request without creating its lease. -/
theorem move_rpm (hmove : Move fingerprint false now op s es s') (req : AdmissionRequest) :
    es.count (.rpmDebited req) ≤ es.count (.leaseCreated req) := by
  cases hmove with
  | grant req' debited =>
    cases debited with
    | false => simp [grantEffects]
    | true => simp [grantEffects, List.count_cons]
  | complete item receipt =>
    simp only [completeReceipt]
    cases item.usage with
    | none => exact le_refl _
    | some usage =>
      simp only [chargeCompletion, chargeUsage]
      repeat' split
      all_goals simp
  | _ => exact le_refl _

theorem once_move (h : Once fingerprint now H s) (hmove : Move fingerprint false now op s es s') :
    Once fingerprint now (H ++ es) s' := by
  refine ⟨retained_move h.retained hmove, ?_, ?_⟩
  · rw [List.filterMap_append]
    exact h.recorded.step (ledger_move h.retained hmove)
  · intro req
    rw [List.count_append, List.count_append]
    exact Nat.add_le_add (h.rpm req) (move_rpm hmove req)

theorem once_call {c : Int × Operation} (h : Once fingerprint c.1 H s)
    (hkeep : KeepsReceipts s c.1 c.2) :
    Once fingerprint c.1 (H ++ (call fingerprint s c.1 c.2).2.2)
      (call fingerprint s c.1 c.2).1 := by
  have htrail : Trail (Move fingerprint false c.1 c.2) s (call fingerprint s c.1 c.2).2.2
      (call fingerprint s c.1 c.2).1 := call_trail s c.2 (.inr hkeep)
  exact htrail.inv (I := fun past a => Once fingerprint c.1 past a)
    (fun past a es b ha hmove => once_move ha hmove) H h

variable (calls : List (Int × Operation)) {id : UUID}

/-- The invariant holds after every run from the empty coordinator. -/
theorem once_of_run (capacity : Int) (hclock : Nondecreasing calls)
    (hkeep : EvictsNothing fingerprint (newAdmissionCoordinator F capacity) calls)
    (hend : ∀ c ∈ calls, c.1 ≤ t) :
    Once fingerprint t (effects fingerprint (newAdmissionCoordinator F capacity) calls)
      ((machine fingerprint).after (newAdmissionCoordinator F capacity) calls) :=
  (machine fingerprint).history_of_init Prod.snd (I := Once fingerprint)
    (fun _ _ _ _ hle h => h.mono hle) hclock hend (fun _ _ _ _ h hkeep => once_call h hkeep)
    (fun t => once_init t capacity) hkeep

/-! ## Counting effects -/

/-- The effect debits tokens on behalf of `req`. -/
def Effect.debitsTokens (req : AdmissionRequest) : Effect → Bool
  | .tpmDebited req' _ => decide (req' = req)
  | _ => false

theorem count_created (H : List Effect) (req : AdmissionRequest) :
    (H.filterMap Effect.event).count (.created req) = H.count (.leaseCreated req) := by
  induction H with
  | nil => rfl
  | cons e H ih => cases e <;> simp [Effect.event, List.filterMap_cons, List.count_cons, ih]

theorem count_charged (H : List Effect) (req : AdmissionRequest) :
    (H.filterMap Effect.event).count (.charged req) = H.countP (Effect.debitsTokens req) := by
  induction H with
  | nil => rfl
  | cons e H ih =>
    cases e <;>
      simp [Effect.event, Effect.debitsTokens, List.filterMap_cons, List.count_cons,
        List.countP_cons, ih]

theorem mem_created (h : .leaseCreated req ∈ H) : .created req ∈ H.filterMap Effect.event :=
  List.mem_filterMap.mpr ⟨_, h, rfl⟩

/-! ## A rejected request -/

/-- The receipt of a rejected request, as `Acquire` stored it. -/
def AdmissionReceipt.Rejected (r : AdmissionReceipt) : Prop :=
  r.completed = false ∧ r.expired = false ∧ r.decision.lease.isSome = false

/-- A rejected receipt stays as it is until its retention ends. -/
theorem rejected_move (h : Retained fingerprint now s) (hr : s.receipts.lookup id = some receipt)
    (hrejected : receipt.Rejected) (hnow : now < receipt.retainUntil)
    (hmove : Move fingerprint false now op s es s') : s'.receipts.lookup id = some receipt := by
  -- a receipt stored under an id without one is stored under another id
  have hother : ∀ {id' : UUID} {receipt' : AdmissionReceipt},
      s.receipts.lookup id' = none → (s.receipts.insert id' receipt').lookup id = some receipt := by
    intro id' receipt' hnone
    have hne : id ≠ id' := by
      rintro rfl
      rw [hnone] at hr
      cases hr
    rw [Table.lookup_insert_eq, if_neg hne]
    exact hr
  cases hmove with
  | observePolicy policy =>
    rw [observeClientRatePolicy_eq]
    exact hr
  | skipLeaseEntry | skipReceiptEntry | renewLease => exact hr
  | expireLease e queue lease hdue hkind hlease hat =>
    obtain ⟨receipt', hr', hopen, hs'⟩ := h.good.expireLease_eq hdue hkind hlease hat
    have hne : id ≠ e.id := by
      rintro rfl
      rw [hr] at hr'
      cases hr'
      have hlease := hrejected.2.2
      rw [hopen.1] at hlease
      cases hlease
    rw [hs']
    simp only [settleReceipt, removeLease_receipts, Table.lookup_insert_eq, if_neg hne]
    exact hr
  | deleteReceipt e queue receipt' hpop hr' hat hdue =>
    have hne : id ≠ e.id := by
      rintro rfl
      rw [hr] at hr'
      cases hr'
      omega
    simp only [Table.lookup_erase_eq, if_neg hne]
    exact hr
  | evictReceipt e queue receipt' hevicting => cases hevicting
  | reject req reason retryAt scope hop hdrained hnone hverdict
  | grant req debited hop hdrained hnone hverdict =>
    rw [evaluate_eq]
    exact hother hnone
  | loseLease id' =>
    rw [removeLease_receipts]
    exact hr
  | complete item receipt' hr' hadmitted hopen =>
    have hne : id ≠ item.lease.leaseID := by
      rintro rfl
      rw [hr] at hr'
      cases hr'
      have hlease := hrejected.2.2
      rw [hadmitted] at hlease
      cases hlease
    rw [completeReceipt_eq]
    simp only [settleReceipt, removeLease_receipts, Table.lookup_insert_eq, if_neg hne]
    exact hr

/-- It stays over every run that ends before its retention does. -/
theorem rejected_run (h : Once fingerprint t H s) (hr : s.receipts.lookup id = some receipt)
    (hrejected : receipt.Rejected) (hstart : ∀ c ∈ calls, t ≤ c.1) (hclock : Nondecreasing calls)
    (hkeep : EvictsNothing fingerprint s calls) (hle : t ≤ t') (hend : ∀ c ∈ calls, c.1 ≤ t')
    (ht' : t' < receipt.retainUntil) :
    Once fingerprint t' (H ++ effects fingerprint s calls) ((machine fingerprint).after s calls) ∧
      ((machine fingerprint).after s calls).receipts.lookup id = some receipt := by
  refine (machine fingerprint).history_inv Prod.snd
    (I := fun t H s => Once fingerprint t H s ∧ s.receipts.lookup id = some receipt)
    (fun _ _ _ _ hle h => ⟨h.1.mono hle, h.2⟩) hclock hend ?_ ⟨h, hr⟩ hstart hle hkeep
  intro s c hc H ⟨h, hr⟩ hkeep
  have htrail : Trail (Move fingerprint false c.1 c.2) s (call fingerprint s c.1 c.2).2.2
      (call fingerprint s c.1 c.2).1 := call_trail s c.2 (.inr hkeep)
  have hkept := htrail.inv_state
    (I := fun a => Retained fingerprint c.1 a ∧ a.receipts.lookup id = some receipt)
    (fun a es b ⟨ha, hra⟩ hmove => ⟨retained_move ha hmove,
      rejected_move ha hra hrejected ((hend c hc).trans_lt ht') hmove⟩) ⟨h.retained, hr⟩
  exact ⟨once_call h hkeep, hkept.2⟩

/-- A fresh rejection is stored as it is answered. -/
theorem acquire_rejected (hnone : (expire s now).receipts.lookup req.leaseID = none)
    (hlease : (acquire fingerprint s now req).2.1.lease = none)
    (hroom : (acquire fingerprint s now req).2.1.reason ≠ some .coordinationUnavailable) :
    ∃ receipt, (acquire fingerprint s now req).1.receipts.lookup req.leaseID = some receipt ∧
      receipt.Rejected ∧ receipt.fingerprint = fingerprint req ∧
      receipt.decision = (acquire fingerprint s now req).2.1 ∧
      receipt.retainUntil = retentionBoundary req.operationStartedAt now := by
  rw [acquire_of_none hnone] at hlease hroom ⊢
  split at hroom
  · next hyes =>
    simp only [if_pos hyes] at hlease ⊢
    unfold acquireFresh at hlease ⊢
    cases hv : evaluate (makeReceiptRoom (expire s now)).1 now req with
    | mk s₁ verdict =>
      rw [hv] at hlease
      cases verdict with
      | grant debited => cases hlease
      | reject reason retryAt scope =>
        simp only [recordRejection, Table.lookup_insert_eq, if_true]
        exact ⟨_, rfl, ⟨rfl, rfl, rfl⟩, rfl, rfl, rfl⟩
  · exact absurd rfl hroom

omit [RateArith F] in
/-- The replay of a rejected request is answered from its receipt. -/
theorem replay_rejected {fp : Nat} (hrejected : receipt.Rejected) (hfp : receipt.fingerprint = fp) :
    replay fp s now req receipt = receipt.decision := by
  obtain ⟨hcompleted, hexpired, hlease⟩ := hrejected
  unfold replay
  simp [hfp, hcompleted, hexpired, hlease]

/-! ## An ended lease -/

/-- No lease of `req` is stored that runs beyond `t`. -/
def LeaseEnded (t : Int) (req : AdmissionRequest) (s : AdmissionCoordinator F) : Prop :=
  ∀ lease receipt, s.leases.lookup req.leaseID = some lease →
    s.receipts.lookup req.leaseID = some receipt → receipt.request = req → lease.expiresAt ≤ t

omit [RateArith F] in
/-- The end of a lease survives a change that takes leases and keeps the
    receipts of those that stay. -/
theorem LeaseEnded.of_sub (h : LeaseEnded t req s)
    (hleases : ∀ id lease, s'.leases.lookup id = some lease → s.leases.lookup id = some lease ∧
      s'.receipts.lookup id = s.receipts.lookup id) : LeaseEnded t req s' := by
  intro lease receipt hl hr hreq
  obtain ⟨hl', hsame⟩ := hleases _ lease hl
  rw [hsame] at hr
  exact h lease receipt hl' hr hreq

section

variable (h : Once fingerprint now H s) (hcreated : .leaseCreated req ∈ H) (ht : t ≤ now)
  (hended : LeaseEnded t req s)
include h hcreated ht hended

/-- A lease that was created and has ended does not come back. -/
theorem leaseEnded_move (hmove : Move fingerprint false now op s es s') : LeaseEnded t req s' := by
  have hgood := h.retained.good
  -- what removing a lease leaves, with a receipt of its id stored afterwards
  have hremoved : ∀ (id : UUID) (receipt : AdmissionReceipt) (id' : UUID) (lease : LeaseIdentity),
      (removeLease s id).leases.lookup id' = some lease → s.leases.lookup id' = some lease ∧
        (s.receipts.insert id receipt).lookup id' = s.receipts.lookup id' := by
    intro id receipt id' lease hl
    obtain ⟨hne, hold⟩ := lookup_of_removeLease hl
    exact ⟨hold, AList.lookup_insert_ne hne⟩
  cases hmove with
  | observePolicy policy =>
    rw [observeClientRatePolicy_eq]
    exact hended
  | skipLeaseEntry | skipReceiptEntry => exact hended
  | expireLease e queue lease hdue hkind hlease hat =>
    obtain ⟨receipt, hr, hopen, hs'⟩ := hgood.expireLease_eq hdue hkind hlease hat
    rw [hs']
    refine hended.of_sub (fun id' lease' hl => ?_)
    simp only [settleReceipt, removeLease_receipts]
    exact hremoved e.id _ id' lease' hl
  | deleteReceipt e queue receipt hpop hr hat hdue =>
    have hgone := h.retained.settled e ((MinHeap.mem_of_pop hpop).mpr (.inl rfl)) receipt hr hat
    refine hended.of_sub (fun id' lease' hl => ⟨hl, ?_⟩)
    have hne : id' ≠ e.id := by
      rintro rfl
      rw [hgone] at hl
      cases hl
    simp only [Table.lookup_erase_eq, if_neg hne]
  | evictReceipt e queue receipt hevicting => cases hevicting
  | reject req' reason retryAt scope hop hdrained hnone hverdict =>
    rw [evaluate_eq]
    have hgone := hgood.lease_none hnone
    refine hended.of_sub (fun id' lease' hl => ⟨hl, ?_⟩)
    have hne : id' ≠ req'.leaseID := by
      rintro rfl
      rw [show s.leases.lookup req'.leaseID = some lease' from hl] at hgone
      cases hgone
    simp only [recordRejection, Table.lookup_insert_eq, if_neg hne]
  | grant req' debited hop hdrained hnone hverdict =>
    have hfresh := lt_of_fresh (evaluate_grant hverdict).fresh
    rw [evaluate_eq]
    intro lease receipt hl hr hreq
    simp only [recordLease, Table.lookup_insert_eq] at hl hr
    split at hl
    · next hid =>
      -- the new lease is of another request, for `req` cannot be granted again
      rw [if_pos hid] at hr
      cases hr
      subst hreq
      have hfree : ledger s req'.leaseID = none := by simp only [ledger, hnone, Option.map_none]
      exact absurd (mem_created hcreated) (h.recorded.not_created hfree hfresh)
    · next hid =>
      rw [if_neg hid] at hr
      exact hended lease receipt hl hr hreq
  | loseLease id =>
    refine hended.of_sub (fun id' lease' hl => ?_)
    exact ⟨(lookup_of_removeLease hl).2, by rw [removeLease_receipts]⟩
  | renewLease id got ttl hlease hlive httl =>
    intro lease receipt hl hr hreq
    simp only [extendLease, Table.lookup_insert_eq] at hl
    split at hl
    · next hid =>
      -- only a lease that has not run out is renewed
      subst hid
      have := hended got receipt hlease hr hreq
      omega
    · exact hended lease receipt hl hr hreq
  | complete item receipt hr hadmitted hopen =>
    rw [completeReceipt_eq]
    refine hended.of_sub (fun id' lease' hl => ?_)
    simp only [settleReceipt, removeLease_receipts]
    exact hremoved item.lease.leaseID _ id' lease' hl

theorem leaseEnded_trail (htrail : Trail (Move fingerprint false now op) s es s') :
    Once fingerprint now (H ++ es) s' ∧ .leaseCreated req ∈ H ++ es ∧ LeaseEnded t req s' :=
  htrail.inv
    (I := fun past a => Once fingerprint now past a ∧ .leaseCreated req ∈ past ∧
      LeaseEnded t req a)
    (fun past a es b ⟨ha, hc, he⟩ hmove =>
      ⟨once_move ha hmove, by simp [hc], leaseEnded_move ha hc ht he hmove⟩)
    H ⟨h, hcreated, hended⟩

end

theorem leaseEnded_run {t₀ : Int} (h : Once fingerprint t₀ H s) (hcreated : .leaseCreated req ∈ H)
    (hended : LeaseEnded t req s) (hstart : ∀ c ∈ calls, t₀ ≤ c.1 ∧ t ≤ c.1)
    (hclock : Nondecreasing calls) (hkeep : EvictsNothing fingerprint s calls) (hle : t₀ ≤ t')
    (hend : ∀ c ∈ calls, c.1 ≤ t') :
    Once fingerprint t' (H ++ effects fingerprint s calls) ((machine fingerprint).after s calls) ∧
      .leaseCreated req ∈ H ++ effects fingerprint s calls ∧
      LeaseEnded t req ((machine fingerprint).after s calls) :=
  (machine fingerprint).history_inv Prod.snd
    (I := fun t' H s => Once fingerprint t' H s ∧ Effect.leaseCreated req ∈ H ∧
      LeaseEnded t req s)
    (fun _ _ _ _ hle h => ⟨h.1.mono hle, h.2⟩) hclock hend
    (fun s c hc _ ⟨h, hcreated, hended⟩ hkeep =>
      leaseEnded_trail h hcreated (hstart c hc).2 hended (call_trail s c.2 (.inr hkeep)))
    ⟨h, hcreated, hended⟩ (fun c hc => (hstart c hc).1) hle hkeep

/-- The replay of an ended lease is answered without a lease. -/
theorem acquire_of_ended (hinj : Function.Injective fingerprint) (h : Once fingerprint now H s)
    (hcreated : .leaseCreated req ∈ H) (ht : t ≤ now) (hended : LeaseEnded t req s) :
    (acquire fingerprint s now req).2.1.lease = none := by
  have hexpire : Trail (Move fingerprint false now .status) s [] (expire s now) := expire_trail s
  obtain ⟨honce, -, hended'⟩ := leaseEnded_trail h hcreated ht hended hexpire
  rw [List.append_nil] at honce
  cases hr : (expire s now).receipts.lookup req.leaseID with
  | some old =>
    rw [acquire_of_some hr]
    simp only [replay]
    split
    · rfl
    next hsame =>
    split
    · rfl
    split
    · split
      · rfl
      · next lease hl =>
        -- the stored lease is of this very request, so it has run out
        have hfp := (honce.retained.key _ old hr).2
        have hreq : old.request = req := by
          apply hinj
          rw [← hfp]
          simpa using hsame
        have := hended' lease old hl hr hreq
        rw [if_neg (by omega)]
    · next hlease => simpa using hlease
  | none =>
    rw [acquire_of_none hr]
    split
    · unfold acquireFresh
      cases hv : evaluate (makeReceiptRoom (expire s now)).1 now req with
      | mk s₁ verdict =>
        cases verdict with
        | reject reason retryAt scope => rfl
        | grant debited =>
          have hfresh := lt_of_fresh (evaluate_grant (congrArg Prod.snd hv)).fresh
          have hfree : ledger (expire s now) req.leaseID = none := by
            simp only [ledger, hr, Option.map_none]
          exact absurd (mem_created hcreated) (honce.recorded.not_created hfree hfresh)
    · rfl

/-! ## At most once -/

theorem nondecreasing_append {calls calls' : List (Int × Operation)}
    (h : Nondecreasing (calls ++ calls')) :
    Nondecreasing calls ∧ Nondecreasing calls' ∧ ∀ c ∈ calls, ∀ d ∈ calls', c.1 ≤ d.1 := by
  unfold Nondecreasing at h
  rw [List.map_append, List.pairwise_append] at h
  obtain ⟨hl, hr, hlr⟩ := h
  refine ⟨hl, hr, ?_⟩
  intro c hc d hd
  exact hlr c.1 (List.mem_map.mpr ⟨c, hc, rfl⟩) d.1 (List.mem_map.mpr ⟨d, hd, rfl⟩)

/-- What a run guarantees about each request. -/
structure AtMostOnce (fingerprint : AdmissionRequest → Nat) (start : AdmissionCoordinator F)
    (calls : List (Int × Operation)) : Prop where
  /-- A request creates a lease at most once. -/
  created : ∀ req, (effects fingerprint start calls).count (.leaseCreated req) ≤ 1
  /-- It is debited from the RPM bucket at most once. -/
  rpm : ∀ req, (effects fingerprint start calls).count (.rpmDebited req) ≤ 1
  /-- Its tokens are debited from the TPM bucket at most once. -/
  tpm : ∀ req, (effects fingerprint start calls).countP (Effect.debitsTokens req) ≤ 1
  /-- The replay of a rejected request within its retention is answered alike. -/
  rejected : ∀ (before : List (Int × Operation)) (t₁ : Int) (req : AdmissionRequest)
    (between : List (Int × Operation)) (t₂ : Int),
    calls = before ++ (t₁, .acquire req) :: (between ++ [(t₂, .acquire req)]) →
    (expire ((machine fingerprint).after start before) t₁).receipts.lookup req.leaseID = none →
    (acquire fingerprint ((machine fingerprint).after start before) t₁ req).2.1.lease = none →
    (acquire fingerprint ((machine fingerprint).after start before) t₁ req).2.1.reason
      ≠ some .coordinationUnavailable →
    t₂ < retentionBoundary req.operationStartedAt t₁ →
    (acquire fingerprint ((machine fingerprint).after start
        (before ++ (t₁, .acquire req) :: between)) t₂ req).2.1
      = (acquire fingerprint ((machine fingerprint).after start before) t₁ req).2.1
  /-- The replay of a lease that has ended is answered without a lease. -/
  ended : ∀ (before between : List (Int × Operation)) (t t₂ : Int) (req : AdmissionRequest),
    calls = before ++ (between ++ [(t₂, .acquire req)]) →
    .leaseCreated req ∈ effects fingerprint start before →
    LeaseEnded t req ((machine fingerprint).after start before) →
    (∀ c ∈ between ++ [(t₂, .acquire req)], t ≤ c.1) →
    (acquire fingerprint ((machine fingerprint).after start (before ++ between)) t₂ req).2.1.lease
      = none
  /-- An acquisition that conflicts with a stored fingerprint only expires. -/
  conflict : ∀ (before after : List (Int × Operation)) (now : Int) (req : AdmissionRequest)
    (old : AdmissionReceipt), calls = before ++ (now, .acquire req) :: after →
    (expire ((machine fingerprint).after start before) now).receipts.lookup req.leaseID
      = some old →
    old.fingerprint ≠ fingerprint req →
    acquire fingerprint ((machine fingerprint).after start before) now req
      = (expire ((machine fingerprint).after start before) now,
          { reason := some .idempotencyConflict }, [])

/-- The replay of a fresh rejection, with any calls in between. -/
theorem acquire_replay_rejected {t₁ t₂ : Int} {between : List (Int × Operation)}
    (h : Once fingerprint t₁ H s) (hkeep : KeepsReceipts s t₁ (.acquire req))
    (hnone : (expire s t₁).receipts.lookup req.leaseID = none)
    (hlease : (acquire fingerprint s t₁ req).2.1.lease = none)
    (hroom : (acquire fingerprint s t₁ req).2.1.reason ≠ some .coordinationUnavailable)
    (ht : t₂ < retentionBoundary req.operationStartedAt t₁) (hclock : Nondecreasing between)
    (hstart : ∀ c ∈ between, t₁ ≤ c.1) (hend : ∀ c ∈ between, c.1 ≤ t₂) (hle : t₁ ≤ t₂)
    (hkeep' : EvictsNothing fingerprint (acquire fingerprint s t₁ req).1 between) :
    (acquire fingerprint ((machine fingerprint).after (acquire fingerprint s t₁ req).1 between)
        t₂ req).2.1 = (acquire fingerprint s t₁ req).2.1 := by
  obtain ⟨receipt, hr, hrejected, hfp, hdecision, hretain⟩ := acquire_rejected hnone hlease hroom
  have hnext := once_call (c := (t₁, .acquire req)) h hkeep
  obtain ⟨hlater, hkept⟩ := rejected_run between hnext hr hrejected hstart hclock hkeep' hle hend
    (by rw [hretain]; exact ht)
  -- the expiry at the replay keeps the receipt too
  have hexpire : Trail (Move fingerprint false t₂ .status)
      ((machine fingerprint).after (acquire fingerprint s t₁ req).1 between) []
      (expire ((machine fingerprint).after (acquire fingerprint s t₁ req).1 between) t₂) :=
    expire_trail _
  have hfound := hexpire.inv_state
    (I := fun a => Retained fingerprint t₂ a ∧ a.receipts.lookup req.leaseID = some receipt)
    (fun a es b ⟨ha, hra⟩ hmove =>
      ⟨retained_move ha hmove, rejected_move ha hra hrejected (by omega) hmove⟩)
    ⟨hlater.retained, hkept⟩
  rw [acquire_of_some hfound.2, replay_rejected hrejected hfp]
  exact hdecision

/-- **At most once**: with an injective fingerprint, a nondecreasing clock and no
    evictions, every run of the coordinator admits and charges each request at
    most once, and answers replays accordingly. -/
theorem atMostOnce_of_nondecreasing (hinj : Function.Injective fingerprint) (capacity : Int)
    (calls : List (Int × Operation)) (hclock : Nondecreasing calls)
    (hkeep : EvictsNothing fingerprint (newAdmissionCoordinator F capacity) calls) :
    AtMostOnce fingerprint (newAdmissionCoordinator F capacity) calls := by
  obtain ⟨t, hend⟩ := Machine.exists_last_reading calls
  have honce := once_of_run calls capacity hclock hkeep hend
  refine ⟨?_, ?_, ?_, ?_, ?_, ?_⟩
  · intro req
    rw [← count_created]
    exact honce.recorded.createdOnce req
  · intro req
    have hcreated := honce.recorded.createdOnce req
    rw [count_created] at hcreated
    exact le_trans (honce.rpm req) hcreated
  · intro req
    rw [← count_charged]
    exact honce.recorded.chargedOnce req
  · rintro before t₁ req between t₂ rfl hnone hlease hroom ht
    obtain ⟨hbefore, hrest, hcross⟩ := nondecreasing_append hclock
    obtain ⟨hfirst, htail⟩ := List.pairwise_cons.mp hrest
    obtain ⟨hbetween, _, hcross'⟩ := nondecreasing_append htail
    obtain ⟨hkeep₁, hkeep₂⟩ := (Machine.along_append _ _ _ _).mp hkeep
    obtain ⟨hkeep₃, _⟩ := (Machine.along_append _ _ _ _).mp hkeep₂.2
    have hstart := once_of_run before capacity hbefore hkeep₁
      (fun c hc => hcross c hc (t₁, .acquire req) (by simp))
    rw [Machine.after_append]
    refine acquire_replay_rejected hstart hkeep₂.1 hnone hlease hroom ht hbetween ?_ ?_ ?_ hkeep₃
    · intro c hc
      exact hfirst c.1 (List.mem_map.mpr ⟨c, by simp [hc], rfl⟩)
    · intro c hc
      exact hcross' c hc (t₂, .acquire req) (by simp)
    · exact hfirst t₂ (List.mem_map.mpr ⟨(t₂, .acquire req), by simp, rfl⟩)
  · rintro before between t' t₂ req rfl hcreated hended hle
    obtain ⟨hbefore, hrest, hcross⟩ := nondecreasing_append hclock
    obtain ⟨hbetween, _, hcross'⟩ := nondecreasing_append hrest
    obtain ⟨hkeep₁, hkeep₂⟩ := (Machine.along_append _ _ _ _).mp hkeep
    obtain ⟨hkeep₃, _⟩ := (Machine.along_append _ _ _ _).mp hkeep₂
    -- the first reading after `before` separates the two halves
    obtain ⟨d, rest, hd⟩ : ∃ d rest, between ++ [(t₂, Operation.acquire req)] = d :: rest :=
      List.exists_cons_of_ne_nil (by simp)
    have hdrest : ∀ c ∈ between ++ [(t₂, Operation.acquire req)], d.1 ≤ c.1 := by
      rw [hd] at hrest ⊢
      exact Machine.first_le hrest
    have hstart := once_of_run before capacity hbefore hkeep₁
      (fun c hc => hcross c hc d (by rw [hd]; simp))
    obtain ⟨hlater, hcreated', hended'⟩ := leaseEnded_run between hstart hcreated hended
      (fun c hc => ⟨hdrest c (by simp [hc]), hle c (by simp [hc])⟩) hbetween hkeep₃
      (hdrest (t₂, .acquire req) (by simp)) (fun c hc => hcross' c hc (t₂, .acquire req) (by simp))
    rw [Machine.after_append]
    exact acquire_of_ended hinj hlater hcreated' (hle (t₂, .acquire req) (by simp)) hended'
  · rintro before after now req old rfl hr hne
    rw [acquire_of_some hr]
    simp only [replay, if_pos hne]

omit [RateArith F] in
theorem keepsReceipts_of_room
    (hroom : (Table.size (expire s now).receipts : Int) < (expire s now).receiptCapacity)
    (op : Operation) : KeepsReceipts s now op := by
  cases op with
  | acquire req =>
    intro _
    rw [makeReceiptRoom_of_room hroom]
  | _ => trivial

/-- A client with both rates. -/
def ratedRequest : AdmissionRequest :=
  { plainRequest 1 0 hour with requestsPerMinute := 60, tokensPerMinute := 1000 }

/-- The request is granted, replayed, completed with its usage and replayed again. -/
def ratedCalls : List (Int × Operation) :=
  [(0, .acquire ratedRequest), (1, .acquire ratedRequest),
   (second, .complete [{ plainCompletion 1 with usage := some ⟨10, 20, 0⟩ }]),
   (hour, .acquire ratedRequest)]

theorem atMostOnce_ratedCalls :
    AtMostOnce exactFingerprint (newAdmissionCoordinator ℚ 8) ratedCalls := by
  refine atMostOnce_of_nondecreasing exactFingerprint_injective 8 ratedCalls ?_ ?_
  · unfold Nondecreasing
    decide
  · exact ⟨keepsReceipts_of_room (by decide) _, keepsReceipts_of_room (by decide) _, trivial,
      keepsReceipts_of_room (by decide) _, trivial⟩

end Coordination.LocalAdmission
