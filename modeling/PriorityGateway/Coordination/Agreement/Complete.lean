import PriorityGateway.Coordination.Agreement.Relation

/-! # Completions Agree

    Both coordinators complete item by item.  A first completion removes the
    lease, charges the usage to the token bucket of the client as it is
    configured now, and ends the receipt; every later one is answered from
    the receipt. -/

namespace Coordination.Agreement

open LocalAdmission (AdmissionReceipt AdmissionCoordinator RateState RatePolicy Retained
  chargeUsage currentPolicy leaseActive removeLease_frame completeBatch removeLease completeReceipt
  chargeCompletion complete Move)
open PostgresAdmission (Db OperationRow LeaseRow RateRow ClientRow Configuration seededRow
  refreshed chargedRates chargedRow completedDb lookup_completedDb_leases completeOne
  serialComplete completionOf)

/-! ## The charge -/

section Charge

variable {configuration : Configuration} {s : AdmissionCoordinator ℚ}
  {rows : Int → RateKind → Option (RateRow ℚ)} {now : Int} {request : AdmissionRequest}
  {policy : RatePolicy}

/-- A missing row stands for the bucket it would be seeded with. -/
theorem BucketAgree.getD_seeded {revision capacity : Int} {state : Option (RateState ℚ)}
    {row : Option (RateRow ℚ)} (h : BucketAgree revision capacity state row now) :
    BucketAgree revision capacity state (some (row.getD (seededRow revision capacity))) now := by
  cases row with
  | some row => exact h
  | none =>
    rcases h with ⟨_, _, _, hrow, _⟩ | ⟨hstate, -⟩
    · cases hrow
    refine .inr ⟨hstate, ?_⟩
    intro r hr
    cases hr
    exact .inr rfl

section

variable (hrates : RatesAgree configuration s.policies s.rates rows now)
  (hpolicy : s.policies request.clientID = some policy) (hwhole : now % 1000 = 0)

include hrates hpolicy hwhole

theorem chargeUsage_agree {usage : TokenUsage} (hvalid : usage.valid = true) :
    RatesAgree configuration s.policies (chargeUsage s now request usage).1.rates
      (chargedRates configuration request.clientID now (some usage) rows)
      now := by
  have hcurrent : currentPolicy s request = policy := by
    unfold currentPolicy
    rw [hpolicy]
  unfold chargeUsage chargedRates
  rw [hcurrent]
  dsimp only
  rcases hclient : configuration.clients request.clientID with _ | client
  · -- a client that is gone has no row, only the local coordinator keeps its bucket
    have hunused : ∀ client, configuration.clients request.clientID = some client →
        capacity client .tpm ≤ 0 := by
      intro client hsome
      rw [hclient] at hsome
      cases hsome
    split <;> exact hrates.updateState hpolicy .tpm _ (normalized_revision _ _ _ _ _ _) hunused
  obtain rfl : policy = policyOf client := by
    rcases hrates.policy request.clientID client hclient with hnone | hsome
    · rw [hpolicy] at hnone
      cases hnone
    · rw [hpolicy] at hsome
      exact Option.some.inj hsome
  dsimp only
  by_cases hlimit : 0 < client.tokensPerMinute
  · have hbucket :=
      (hrates.bucket request.clientID client .tpm hclient hlimit).getD_seeded.normalized hlimit
    have hlimit' : 0 < (policyOf client).tpm := hlimit
    rw [if_pos hlimit', if_pos ⟨hvalid, hlimit⟩]
    unfold chargedRow
    rw [PostgresAdmission.timestamptz_of_whole hwhole]
    have hnormalized : LocalAdmission.normalized s request.clientID .tpm
        (policyOf client).revision (policyOf client).tpm now = _ := hbucket
    rw [hnormalized]
    exact hrates.update hclient hpolicy .tpm _
  · have hlimit' : ¬ 0 < (policyOf client).tpm := hlimit
    rw [if_neg hlimit', if_neg (fun h => hlimit h.2)]
    refine hrates.updateState hpolicy .tpm _ (normalized_revision _ _ _ _ _ _) ?_
    intro client' hclient'
    rw [hclient] at hclient'
    cases hclient'
    exact not_lt.mp hlimit

variable (s request) in
/-- Only a present and valid usage is charged. -/
theorem chargeCompletion_agree (usage : Option TokenUsage) :
    RatesAgree configuration s.policies
      (chargeCompletion s now request usage).1.rates
      (chargedRates configuration request.clientID now usage rows) now := by
  rcases usage with _ | usage
  · exact hrates
  unfold chargeCompletion
  by_cases hvalid : usage.valid = true
  · simp only [hvalid, if_true]
    exact chargeUsage_agree hrates hpolicy hwhole hvalid
  have hunchanged : chargedRates configuration request.clientID now
      (some usage) rows = rows := by
    unfold chargedRates
    split
    · next hsome _ =>
      cases hsome
      rw [if_neg (fun h => hvalid h.1)]
    · rfl
  rw [hunchanged]
  simp only [hvalid, if_false, Bool.false_eq_true]
  exact hrates

end

end Charge

/-! ## One item -/

namespace Core

variable {fingerprint : AdmissionRequest → Nat} {gone : UUID → Prop} {now : Int}
  {s : AdmissionCoordinator ℚ} {db : Db ℚ} {item : LeaseCompletion} {receipt : AdmissionReceipt}
  {id : UUID}

/-- Both sides find the lease active, or both find it lost. -/
theorem completionOf_eq (h : Core fingerprint gone now s db)
    (hlive : ∀ id lease, s.leases.lookup id = some lease → now < lease.expiresAt)
    (hreceipt : s.receipts.lookup id = some receipt) :
    completionOf (db.leases.lookup id) now
      = if leaseActive s now id receipt.request then .released else .leaseLost := by
  unfold completionOf leaseActive
  rcases hlease : s.leases.lookup id with _ | lease
  · cases hrow : db.leases.lookup id with
    | none => rfl
    | some row => simp [h.row_over hlease hrow]
  obtain ⟨row, receipt', hrow, hreceipt', hholds⟩ := h.lease id lease hlease
  rw [hreceipt] at hreceipt'
  cases hreceipt'
  rw [hrow]
  simp [hholds.expiresAt, hlive id lease hlease, hholds.clientID.1, hholds.poolID.1]

def completedReceipt (receipt : AdmissionReceipt) (result : CompletionResult) (now : Int) :
    AdmissionReceipt :=
  { receipt with
    completed := true
    completion := some result
    retainUntil := retentionBoundary receipt.request.operationStartedAt now }

/-- What a first completion leaves on the local side. -/
structure Completed (now : Int) (item : LeaseCompletion) (receipt : AdmissionReceipt)
    (s s' : AdmissionCoordinator ℚ) : Prop where
  receipts : ∀ id, s'.receipts.lookup id = if id = item.lease.leaseID then
      some (completedReceipt receipt (if leaseActive s now item.lease.leaseID
        receipt.request then .released else .leaseLost) now)
    else s.receipts.lookup id
  leases : s'.leases = s.leases.erase item.lease.leaseID
  policies : s'.policies = s.policies
  rates : s'.rates = (chargeCompletion
    (removeLease s item.lease.leaseID) now receipt.request item.usage).1.rates

theorem completeReceipt_completed (s : AdmissionCoordinator ℚ) (now : Int)
    (item : LeaseCompletion) (receipt : AdmissionReceipt) :
    Completed now item receipt s (completeReceipt s now item receipt).1 := by
  rw [LocalAdmission.completeReceipt_eq]
  refine ⟨?_, LocalAdmission.removeLease_leases s _, (removeLease_frame s _).2.2.2.2.2, rfl⟩
  intro id
  show ((removeLease s item.lease.leaseID).receipts.insert _ _).lookup id = _
  rw [LocalAdmission.removeLease_receipts, Table.lookup_insert_eq]
  rfl

section

variable (h : Core fingerprint gone now s db)
  (hlive : ∀ id lease, s.leases.lookup id = some lease → now < lease.expiresAt)
include h hlive

theorem completeReceipt (hreceipt : s.receipts.lookup item.lease.leaseID = some receipt)
    {op : OperationRow} (hop : db.operations.lookup item.lease.leaseID = some op)
    (hm : Mirrors receipt op) (hadmitted : receipt.decision.lease.isSome = true)
    (hretained : Retained fingerprint now (completeReceipt s now item receipt).1)
    (hwhole : now % 1000 = 0) :
    Core fingerprint gone now (completeReceipt s now item receipt).1
      (completedDb item op.clientID op.poolID now
        (db.leases.lookup item.lease.leaseID) db) := by
  obtain ⟨policy, hpolicy⟩ := h.observed _ _ hreceipt hadmitted
  have hcompleted := completeReceipt_completed s now item receipt
  refine h.record hretained hcompleted.receipts (PostgresAdmission.lookup_completedDb hop)
    ?_ ?_ ?_ ?_ ?_ ?_
  · -- an admitted receipt is completed with the same result
    refine ⟨hm.fingerprint, hm.clientID, hm.poolID, rfl, ?_, fun _ => rfl, hm.admitted, ?_⟩
    · exact congrArg some (h.completionOf_eq hlive hreceipt)
    intro hnone
    have hlease : receipt.decision.lease = none := hnone
    rw [hlease] at hadmitted
    cases hadmitted
  · intro id hid
    rw [hcompleted.leases, Table.lookup_erase_eq, if_neg hid, lookup_completedDb_leases]
    refine ⟨rfl, ?_⟩
    cases db.leases.lookup id with
    | none => rfl
    | some row => simp [hid]
  · refine .inl ⟨?_, ?_⟩
    · rw [hcompleted.leases, Table.lookup_erase_eq, if_pos rfl]
    intro row hrow
    rw [lookup_completedDb_leases, Option.filter_eq_some_iff] at hrow
    rcases hlease : s.leases.lookup item.lease.leaseID with _ | lease
    · exact h.row_over hlease hrow.1
    -- the row of a stored lease belongs to the receipt and is deleted
    obtain ⟨row', receipt', hrow', hreceipt', hholds⟩ := h.lease _ lease hlease
    rw [hrow.1] at hrow'
    cases hrow'
    rw [hreceipt] at hreceipt'
    cases hreceipt'
    have hkept := hrow.2
    simp [hm.clientID, hm.poolID, hholds.clientID.2, hholds.poolID.2] at hkept
  · intro _
    rw [hcompleted.policies]
    exact ⟨policy, hpolicy⟩
  · intro c p hp
    rw [hcompleted.policies]
    exact ⟨p, hp⟩
  · -- removing the lease leaves the buckets, charging moves them alike
    obtain ⟨-, -, -, -, hrates, hpolicies⟩ :=
      removeLease_frame s item.lease.leaseID
    rw [hcompleted.policies, hcompleted.rates, ← hpolicies]
    show RatesAgree db.configuration _ _
      (chargedRates db.configuration op.clientID now item.usage db.rates) now
    rw [hm.clientID]
    refine chargeCompletion_agree (removeLease s item.lease.leaseID)
      receipt.request ?_ (by rw [hpolicies]; exact hpolicy) hwhole item.usage
    rw [hrates, hpolicies]
    exact h.rates

/-- **An item gets the same answer.** -/
theorem completeEntry (hkept : ¬ gone item.lease.leaseID) (hwhole : now % 1000 = 0) :
    ∃ db', (completeOne item).run now db
        = some (.completed (LocalAdmission.completeEntry now s item).2.1, db') ∧
      Core fingerprint gone now (LocalAdmission.completeEntry now s item).1 db' := by
  have htrail : Trail (Move fingerprint false now .status) s _
      (LocalAdmission.completeEntry now s item).1 := LocalAdmission.completeEntry_trail s item
  have hretained : Retained fingerprint now (LocalAdmission.completeEntry now s item).1 :=
    htrail.inv_state (fun _ _ _ ha hm => LocalAdmission.retained_move ha hm) h.retained
  rw [PostgresAdmission.completeOne_run]
  unfold LocalAdmission.completeEntry at hretained ⊢
  dsimp only at hretained ⊢
  rcases hreceipt : s.receipts.lookup item.lease.leaseID with _ | receipt
  · cases hop : db.operations.lookup item.lease.leaseID with
    | none => exact ⟨db, rfl, h⟩
    | some op => exact absurd (h.gone _ op hop hreceipt) hkept
  obtain ⟨op, hop, hm⟩ := h.receipt _ receipt hreceipt
  simp only [hreceipt] at hretained ⊢
  simp only [hop]
  rcases hgranted : receipt.decision.lease with _ | granted
  · obtain ⟨hrejected, -⟩ := hm.rejected hgranted
    rw [hrejected, if_pos (by decide)]
    exact ⟨db, rfl, h⟩
  have hadmitted : receipt.decision.lease.isSome = true := by rw [hgranted]; rfl
  rw [hm.admitted hadmitted, if_neg (by decide), hm.completedAt]
  cases hdone : receipt.completed with
  | true =>
    -- the stored result is the original one
    obtain ⟨original, horiginal⟩ := Option.isSome_iff_exists.mp (hm.original hdone)
    rw [hm.completion, horiginal]
    exact ⟨db, rfl, h⟩
  | false =>
    simp only [hgranted, hdone, Option.isNone_some, Bool.false_eq_true, if_false] at hretained ⊢
    refine ⟨_, ?_, h.completeReceipt hlive hreceipt hop hm hadmitted hretained hwhole⟩
    rw [h.completionOf_eq hlive hreceipt]
    rfl

end

/-! ## Calls -/

/-- Completing takes leases away and leaves the others. -/
theorem completeEntry_leases {lease : LeaseIdentity}
    (hlease : (LocalAdmission.completeEntry now s item).1.leases.lookup id = some lease) :
    s.leases.lookup id = some lease := by
  unfold LocalAdmission.completeEntry at hlease
  dsimp only at hlease
  split at hlease
  · exact hlease
  next receipt hreceipt =>
  split_ifs at hlease
  · exact hlease
  · exact hlease
  · rw [(completeReceipt_completed s now item receipt).leases] at hlease
    exact (Table.lookup_of_erase hlease).2

theorem completeItems (items : List LeaseCompletion) (h : Core fingerprint gone now s db)
    (hlive : ∀ id lease, s.leases.lookup id = some lease → now < lease.expiresAt)
    (hkept : ∀ item ∈ items, ¬ gone item.lease.leaseID) (hwhole : now % 1000 = 0) :
    ∃ db', serialComplete now db items
        = (db', some (((completeBatch now).answers s items).map Prod.fst)) ∧
      Core fingerprint gone now ((completeBatch now).after s items) db' := by
  induction items generalizing s db with
  | nil => exact ⟨db, rfl, h⟩
  | cons item items ih =>
    obtain ⟨db₁, hrun, hcore⟩ := h.completeEntry hlive (hkept item List.mem_cons_self) hwhole
    obtain ⟨db₂, hmore, hcore₂⟩ := ih hcore
      (fun id lease hlease => hlive id lease (completeEntry_leases hlease))
      (fun i hi => hkept i (List.mem_cons_of_mem _ hi))
    refine ⟨db₂, ?_, hcore₂⟩
    unfold serialComplete
    rw [hrun]
    simp only [hmore, Option.map_some]
    rfl

/-- **Completions agree.** -/
theorem complete (h : Core fingerprint gone now s db)
    (hended : ∀ id receipt, s.receipts.lookup id = some receipt → receipt.Ended →
      receipt.retainUntil ≤ now → gone id) {items : List LeaseCompletion}
    (hkept : ∀ item ∈ items, ¬ gone item.lease.leaseID) (hwhole : now % 1000 = 0) :
    ∃ db', serialComplete now db items
        = (db', some ((complete s now items).2.map Prod.fst)) ∧
      Core fingerprint gone now (complete s now items).1 db' :=
  (h.expire hended).completeItems items (LocalAdmission.expire_live h.retained.good now) hkept
    hwhole

end Core

end Coordination.Agreement
