import PriorityGateway.Coordination.Local.Counters

/-! # The Priority Reserve of a Pool

    A pool with limit `L` keeps `R` of its places for high and critical
    requests.  When every request for the pool carries these two numbers, at
    most `L` leases are live in it and at most `L - R` of them are of another
    class, so fewer than `R` live high-class leases leave room for one more.

    The argument is about counters: only a granted lease makes one grow, and
    the checks of `evaluate` bound it first.  That the counters mean leases is
    the invariant of the coordinator, so the zero day is excluded here too. -/

namespace Coordination.LocalAdmission

variable {F : Type}

/-! ## What the checks establish -/

variable {now : Int} {reason : Reason} {req : AdmissionRequest} {retryAt : Option Int}
  {s : AdmissionCoordinator F} {scope : Option AdmissionScope} {policy : RatePolicy}

theorem checkRPM_reject [RateArith F]
    (h : (checkRPM s policy now req).2 = .reject reason retryAt scope) :
    reason = .rpmExhausted := by
  unfold checkRPM at h
  simp only at h
  split at h
  · split at h <;> cases h
    rfl
  · cases h

/-- The buckets reject with their own reasons only. -/
theorem checkTPM_reject [RateArith F]
    (h : (checkTPM s policy now req).2 = .reject reason retryAt scope) :
    reason = .tpmExhausted ∨ reason = .rpmExhausted := by
  unfold checkTPM at h
  simp only at h
  split at h
  · split at h
    · cases h
      exact .inl rfl
    · exact .inr (checkRPM_reject h)
  · exact .inr (checkRPM_reject h)

/-- The counters `evaluate` looks at are those of the state it is given. -/
theorem observeRatePolicy_counters (s : AdmissionCoordinator F) (req : AdmissionRequest) :
    (observeRatePolicy s req).1.poolInflight = s.poolInflight ∧
    (observeRatePolicy s req).1.poolLowerInflight = s.poolLowerInflight ∧
    (observeRatePolicy s req).1.clientInflight = s.clientInflight := by
  rw [observeRatePolicy, observeClientRatePolicy_eq]
  exact ⟨rfl, rfl, rfl⟩

/-- What holds of a request that is granted a lease. -/
structure Grantable (s : AdmissionCoordinator F) (now : Int) (req : AdmissionRequest) : Prop where
  fresh : fresh req.operationStartedAt now = true
  reserve : invalidReserve req = false
  clientLimit : 0 < req.effectiveClientLimit ∧
    req.effectiveClientLimit ≤ req.configuredClientLimit
  pool : 0 < req.poolGatewayInflightLimit →
    (s.poolInflight req.poolID : Int) < req.poolGatewayInflightLimit
  lower : 0 < req.poolHighPriorityReserve → req.priorityClass.lower = true →
    (s.poolLowerInflight req.poolID : Int)
      < req.poolGatewayInflightLimit - req.poolHighPriorityReserve
  client : (s.clientInflight req.clientID : Int) < req.effectiveClientLimit

theorem evaluate_grant [RateArith F] {debited : Bool}
    (h : (evaluate s now req).2 = .grant debited) : Grantable s now req := by
  obtain ⟨hp, hl, hc⟩ := observeRatePolicy_counters s req
  unfold evaluate at h
  split at h
  · cases h
  rename_i hfresh
  split at h
  · cases h
  rename_i hreserve
  unfold checkLimits at h
  rw [hp, hl, hc] at h
  split at h
  · cases h
  rename_i hlimit
  split at h
  · cases h
  rename_i hpool
  split at h
  · cases h
  rename_i hlower
  split at h
  · cases h
  · rename_i hclient
    exact ⟨by simpa using hfresh, by simpa using hreserve, by omega, by omega,
      fun hr hcl => not_le.mp (fun hle => hlower ⟨hr, hcl, hle⟩), by omega⟩

/-- Why a request is rejected for the sake of its pool. -/
theorem evaluate_reject_pool [RateArith F]
    (h : (evaluate s now req).2 = .reject reason retryAt scope) :
    (reason = .concurrencyExhausted → scope = some .pool →
      req.poolGatewayInflightLimit ≤ s.poolInflight req.poolID) ∧
    (reason = .poolPriorityReserve → req.priorityClass.lower = true) := by
  obtain ⟨hp, hl, hc⟩ := observeRatePolicy_counters s req
  unfold evaluate at h
  split at h
  · cases h
    simp
  split at h
  · cases h
    simp
  unfold checkLimits at h
  rw [hp, hl, hc] at h
  split at h
  · cases h
    simp
  split at h
  · rename_i hpool
    cases h
    exact ⟨fun _ _ => hpool.2, by simp⟩
  split at h
  · rename_i hlower
    cases h
    exact ⟨by simp, fun _ => hlower.2.1⟩
  · split at h
    · cases h
      simp
    · rcases checkTPM_reject h with rfl | rfl <;> simp

/-! ## The bounds on the counters -/

/-- Every request for pool `P` carries the limit `L` and the reserve `R`. -/
def CarriesReserve (P L R : Int) : Operation → Prop
  | .acquire req => req.poolID = P →
      req.poolGatewayInflightLimit = L ∧ req.poolHighPriorityReserve = R
  | _ => True

/-- The counters of pool `P` respect its limit and its reserve. -/
def WithinReserve (P L R : Int) (s : AdmissionCoordinator F) : Prop :=
  (s.poolInflight P : Int) ≤ L ∧ (s.poolLowerInflight P : Int) ≤ L - R

theorem decrement_le (m : Int → Nat) (key p : Int) : decrement m key p ≤ m p := by
  rw [decrement_eq]
  by_cases h : p = key
  · subst h
    simp
  · rw [Function.update_of_ne h]

theorem removeLease_le (s : AdmissionCoordinator F) (id : UUID) (p : Int) :
    (removeLease s id).poolInflight p ≤ s.poolInflight p ∧
      (removeLease s id).poolLowerInflight p ≤ s.poolLowerInflight p := by
  unfold removeLease
  rcases s.leases.lookup id with _ | lease
  · exact ⟨le_refl _, le_refl _⟩
  rcases s.receipts.lookup id with _ | receipt
  · exact ⟨le_refl _, le_refl _⟩
  refine ⟨decrement_le _ _ _, ?_⟩
  simp only
  split
  · exact decrement_le _ _ _
  · exact le_refl _

namespace WithinReserve

variable {P L R : Int} {s s' : AdmissionCoordinator F}

theorem of_le (h : WithinReserve P L R s) (hp : s'.poolInflight P ≤ s.poolInflight P)
    (hl : s'.poolLowerInflight P ≤ s.poolLowerInflight P) : WithinReserve P L R s' :=
  ⟨by have := h.1; omega, by have := h.2; omega⟩

theorem removeLease (h : WithinReserve P L R s) (id : UUID) :
    WithinReserve P L R (removeLease s id) :=
  h.of_le (removeLease_le s id P).1 (removeLease_le s id P).2

/-- A granted lease uses a place that the checks found free. -/
theorem recordLease {now : Int} {req : AdmissionRequest} (h : WithinReserve P L R s) (hL : 0 < L)
    (hR : 0 < R) (hgrant : Grantable s now req) (hcarries : CarriesReserve P L R (.acquire req))
    (fp : Nat) : WithinReserve P L R (recordLease fp s now req) := by
  by_cases hP : req.poolID = P
  · obtain ⟨hlimit, hreserve⟩ := hcarries hP
    have hpool := hgrant.pool (by omega)
    have hlower := hgrant.lower (by omega)
    rw [hP] at hpool hlower
    constructor
    · simp only [LocalAdmission.recordLease, grantedLease, increment, hP, Function.update_self]
      omega
    simp only [LocalAdmission.recordLease, grantedLease, hP]
    split
    · rename_i hclass
      have := hlower hclass
      simp only [increment, Function.update_self]
      omega
    · exact h.2
  · refine h.of_le ?_ ?_
    · simp only [LocalAdmission.recordLease, grantedLease, increment]
      rw [Function.update_of_ne (Ne.symm hP)]
    · simp only [LocalAdmission.recordLease, grantedLease, increment]
      split
      · rw [Function.update_of_ne (Ne.symm hP)]
      · exact le_refl _

end WithinReserve

variable {fingerprint : AdmissionRequest → Nat} {P L R : Int}

theorem withinReserve_move [RateArith F] {evicting : Bool}
    {op : Operation} {s' : AdmissionCoordinator F} {es : List Effect} (hg : Good s)
    (h : WithinReserve P L R s) (hL : 0 < L) (hR : 0 < R) (hop : CarriesReserve P L R op)
    (hmove : Move fingerprint evicting now op s es s') : WithinReserve P L R s' := by
  cases hmove with
  | observePolicy policy =>
    rw [observeClientRatePolicy_eq]
    exact h
  | skipLeaseEntry | skipReceiptEntry | deleteReceipt | evictReceipt | renewLease => exact h
  | expireLease e queue lease hdue hkind hlease hat =>
    obtain ⟨receipt, hreceipt, hopen, hs'⟩ := hg.expireLease_eq hdue hkind hlease hat
    rw [hs']
    exact h.removeLease e.id
  | reject req reason retryAt scope hacquire hdrained hnone hverdict =>
    rw [evaluate_eq]
    exact h
  | grant req debited hacquire hdrained hnone hverdict =>
    subst hacquire
    rw [evaluate_eq]
    exact h.recordLease hL hR (evaluate_grant hverdict) hop (fingerprint req)
  | loseLease id => exact h.removeLease id
  | complete item receipt hreceipt hadmitted hopen =>
    rw [completeReceipt_eq]
    exact h.removeLease item.lease.leaseID

theorem withinReserve_run [RateArith F] (fingerprint : AdmissionRequest → Nat) (capacity : Int)
    (hL : 0 < L) (hR : 0 < R) (hRL : R ≤ L) (calls : List (Int × Operation))
    (hcalls : ∀ c ∈ calls, AvoidsZeroDay c ∧ CarriesReserve P L R c.2) :
    Good ((machine fingerprint).after (newAdmissionCoordinator F capacity) calls) ∧
      WithinReserve P L R
        ((machine fingerprint).after (newAdmissionCoordinator F capacity) calls) := by
  have hrun := (machine fingerprint).after_inv
    (I := fun s => (Good s ∧ Dated s) ∧ WithinReserve P L R s)
    (G := fun _ c => AvoidsZeroDay c ∧ CarriesReserve P L R c.2) ?_
    (newAdmissionCoordinator F capacity) calls ?_
    ((machine fingerprint).along_of_forall _ calls hcalls)
  · exact ⟨hrun.1.1, hrun.2⟩
  · intro s ⟨now, op⟩ hs ⟨havoid, hcarries⟩
    have htrail : Trail (Move fingerprint true now op) s (call fingerprint s now op).2.2
        (call fingerprint s now op).1 := call_trail s op (.inl rfl)
    refine htrail.inv_state (I := fun a => (Good a ∧ Dated a) ∧ WithinReserve P L R a) ?_ hs
    intro a es b ⟨⟨ha, hd⟩, hw⟩ hmove
    exact ⟨⟨good_move ha (ha.settled hd) hmove, dated_move ha hd havoid hmove⟩,
      withinReserve_move ha hw hL hR hcarries hmove⟩
  · refine ⟨⟨good_init capacity, dated_init capacity⟩, ?_, ?_⟩
    · simp only [newAdmissionCoordinator]
      omega
    · simp only [newAdmissionCoordinator]
      omega

/-! ## The reserve is honoured -/

def livePool (s : AdmissionCoordinator F) (P : Int) : Nat :=
  Table.count (fun _ lease => decide (lease.poolID = P)) s.leases

/-- The live leases of a pool of a class other than high and critical. -/
def liveLower (s : AdmissionCoordinator F) (P : Int) : Nat :=
  Table.count (fun id lease => decide (lease.poolID = P) && lowerReceipt s.receipts id) s.leases

/-- The live high and critical leases of a pool. -/
def liveHigh (s : AdmissionCoordinator F) (P : Int) : Nat :=
  Table.count (fun id lease => decide (lease.poolID = P) && !lowerReceipt s.receipts id) s.leases

/-- A rejection for the sake of the pool or of its reserve. -/
def RejectedForPool (d : AdmissionDecision) : Prop :=
  d.reason = some .concurrencyExhausted ∧ d.concurrencyScope = some .pool ∨
    d.reason = some .poolPriorityReserve

/-- Pool `P` holds at most `L` leases, at most `L - R` of them of a lower class,
    and while fewer than `R` high-class leases are live a fresh request of such
    a class is not rejected for the sake of the pool. -/
def ReserveHonoured [RateArith F] (fingerprint : AdmissionRequest → Nat) (P L R : Int)
    (s : AdmissionCoordinator F) : Prop :=
  (livePool s P : Int) ≤ L ∧ (liveLower s P : Int) ≤ L - R ∧
    ((liveHigh s P : Int) < R → ∀ (now : Int) (req : AdmissionRequest),
      req.poolID = P → req.poolGatewayInflightLimit = L → req.poolHighPriorityReserve = R →
      req.priorityClass = .high ∨ req.priorityClass = .critical →
      (expire s now).receipts.lookup req.leaseID = none →
      ¬ RejectedForPool (acquire fingerprint s now req).2.1)

/-- Leases of a pool are of a lower class or not. -/
theorem livePool_split (s : AdmissionCoordinator F) (P : Int) :
    livePool s P = liveLower s P + liveHigh s P :=
  Table.count_split s.leases

/-- After the leases that have run out are gone, the pool counter still counts
    only lower-class and high-class leases that were there before. -/
theorem expire_poolInflight_le (h : Good s) (now P : Int) :
    (expire s now).poolInflight P ≤ liveLower s P + liveHigh s P := by
  have hgood := expireLeases_good h now
  obtain ⟨receipts, queue, hframe⟩ := expireReceipts_frame (expireLeases s now) now
  rw [expire, hframe]
  show (expireLeases s now).poolInflight P ≤ _
  rw [hgood.poolCount P, ← livePool_split]
  apply Table.count_le_count
  intro id lease hl hp
  exact ⟨lease, ((expireLeases_lookup h now id lease).mp hl).1, by simpa using hp⟩

/-- A fresh request of a high class finds the pool counter below its limit. -/
theorem not_rejectedForPool [RateArith F]
    (hroom : ((expire s now).poolInflight req.poolID : Int) < req.poolGatewayInflightLimit)
    (hclass : req.priorityClass = .high ∨ req.priorityClass = .critical)
    (hnone : (expire s now).receipts.lookup req.leaseID = none) :
    ¬ RejectedForPool (acquire fingerprint s now req).2.1 := by
  rw [acquire_of_none hnone]
  obtain ⟨receipts, queue, hframe⟩ := makeReceiptRoom_frame (expire s now)
  split
  · unfold acquireFresh
    cases hv : evaluate (makeReceiptRoom (expire s now)).1 now req with
    | mk s₁ verdict =>
      cases verdict with
      | grant debited =>
        rintro (⟨hreason, _⟩ | hreason) <;> cases hreason
      | reject reason retryAt scope =>
        obtain ⟨hpool, hlower⟩ := evaluate_reject_pool (congrArg Prod.snd hv)
        rw [hframe] at hpool
        rintro (⟨hreason, hscope⟩ | hreason)
        · have := hpool (Option.some.inj hreason) hscope
          simp only at this
          omega
        · have := hlower (Option.some.inj hreason)
          rcases hclass with hc | hc <;> simp [hc, PriorityClass.lower] at this
  · rintro (⟨hreason, _⟩ | hreason) <;> cases hreason

/-- **The reserve is honoured** in every state reached by calls that avoid the
    zero day, when all requests for the pool carry its limit and reserve. -/
theorem reserveHonoured_of_avoidsZeroDay [RateArith F] (fingerprint : AdmissionRequest → Nat)
    (capacity : Int) {P L R : Int} (hL : 0 < L) (hR : 0 < R) (hRL : R ≤ L)
    (calls : List (Int × Operation)) (hcarries : ∀ c ∈ calls, CarriesReserve P L R c.2)
    (hcalls : ∀ c ∈ calls, AvoidsZeroDay c) :
    ReserveHonoured fingerprint P L R
      ((machine fingerprint).after (newAdmissionCoordinator F capacity) calls) := by
  obtain ⟨hgood, hpool, hlower⟩ := withinReserve_run (F := F) fingerprint capacity hL hR hRL
    calls (fun c hc => ⟨hcalls c hc, hcarries c hc⟩)
  generalize (machine fingerprint).after (newAdmissionCoordinator F capacity) calls = s at *
  have hcons := hgood.consistent
  rw [hcons.poolInflight P] at hpool
  rw [hcons.poolLowerInflight P] at hlower
  refine ⟨hpool, hlower, ?_⟩
  intro hhigh now req hP hlimit _ hclass hnone
  have hcount := expire_poolInflight_le hgood now P
  have hlower' : (liveLower s P : Int) ≤ L - R := hlower
  exact not_rejectedForPool (by rw [hP, hlimit]; omega) hclass hnone

instance (P L R : Int) : DecidablePred (CarriesReserve P L R) := fun op => by
  cases op <;> unfold CarriesReserve <;> infer_instance

/-- A pool of two places, one of them reserved. -/
theorem reserveHonoured_plain_run :
    ReserveHonoured AdmissionRequest.leaseID 1 2 1
      ((machine AdmissionRequest.leaseID).after (newAdmissionCoordinator ℚ 8)
        [(0, .acquire { plainRequest 1 0 hour with priorityClass := .normal }),
         (1, .acquire { plainRequest 2 0 hour with priorityClass := .normal }),
         (hour, .complete [plainCompletion 1])]) :=
  reserveHonoured_of_avoidsZeroDay _ 8 (by decide) (by decide) (by decide) _ (by decide)
    (by decide)

/-- The zero day in a pool of two places, one of them reserved: the id whose
    lease has lost its receipt is granted a second lease, of a lower class.  A
    rejected operation from the future keeps the table of two receipts full. -/
def zeroDayReserveCalls : List (Int × Operation) :=
  (zeroDay - hour, .acquire (plainRequest 9 (1000 * hour) hour)) :: zeroDayCalls ++
    [(0, .poolInflight 1),
     (0, .acquire { plainRequest 1 0 hour with priorityClass := .normal })]

/-- The state after these calls, with room for two receipts. -/
def zeroDayReserveState : AdmissionCoordinator ℚ :=
  (machine AdmissionRequest.leaseID).after (newAdmissionCoordinator ℚ 2) zeroDayReserveCalls

/-- No high-class lease is live then, and one live lease is counted twice, so
    that the next high-class request is rejected for the sake of the pool. -/
theorem zeroDay_not_reserveHonoured :
    (∀ c ∈ zeroDayReserveCalls, CarriesReserve 1 2 1 c.2) ∧
      ¬ ReserveHonoured AdmissionRequest.leaseID 1 2 1 zeroDayReserveState := by
  refine ⟨by decide, fun ⟨_, _, h⟩ => ?_⟩
  have hhigh : liveHigh zeroDayReserveState 1 = 0 := by decide
  refine h (by rw [hhigh]; decide) 0 (plainRequest 3 0 hour) rfl rfl rfl (.inl rfl) (by decide)
    (.inl ⟨?_, ?_⟩) <;> decide

end Coordination.LocalAdmission
