import PriorityGateway.Framework.TokenBucket
import PriorityGateway.Coordination.Local.AtMostOnce

/-! # The Request Rate of a Client

    How many requests of a client the local coordinator admits in a window of
    time.  Balances are exact rationals here.

    * `bucketAt` is one bucket as it stands at an instant.  It is a token
      bucket: later it holds at most the tokens of the time in between more.
    * `RatesKept` is the invariant of all buckets: no balance is above its
      capacity, a request balance is never negative, and a request bucket has
      the capacity its policy gives it.
    * Under one policy, each admission is taken out of the bucket of that
      policy (`acquire_pays`): a request that carries an older revision is
      charged to the bucket of the highest one.

    The bound on a window follows by the payment rule of token buckets. -/

namespace Coordination.LocalAdmission

open TokenBucket (refill latest Paced)

variable {fingerprint : AdmissionRequest → Nat} {client revision capacity now : Int}

/-! ## One bucket -/

/-- What `normalized` makes of the stored bucket. -/
def bucketAt (old : Option (RateState ℚ)) (revision capacity now : Int) : RateState ℚ :=
  match old with
  | none => ⟨revision, capacity, RateArith.full capacity, now⟩
  | some state =>
    if state.revision ≠ revision ∨ state.capacity ≠ capacity then
      ⟨revision, capacity, RateArith.full capacity, now⟩
    else if 0 < timeSub now state.at' then
      { state with
        balance := RateArith.refill state.balance (timeSub now state.at') capacity, at' := now }
    else state

variable (s : AdmissionCoordinator ℚ) (req : AdmissionRequest) (old : Option (RateState ℚ))
  (policy : RatePolicy) (balance : ℚ)

theorem normalized_eq (kind : RateKind) :
    normalized s client kind revision capacity now
      = bucketAt (s.rates client kind) revision capacity now := by
  unfold normalized bucketAt
  cases s.rates client kind <;> rfl

/-- Tokens per nanosecond. -/
def tokenRate (capacity : Int) : ℚ := (capacity : ℚ) / 60 / second

theorem tokenRate_nonneg (h : 0 ≤ capacity) : 0 ≤ tokenRate capacity := by
  have hsecond : (0 : ℚ) ≤ second := by norm_num [second]
  unfold tokenRate
  positivity

theorem refill_eq (elapsed capacity : Int) :
    RateArith.refill balance elapsed capacity
      = refill (tokenRate capacity) capacity balance elapsed := by
  show min _ _ = min _ _
  congr 2
  unfold tokenRate
  ring

@[simp] theorem bucketAt_revision : (bucketAt old revision capacity now).revision = revision := by
  unfold bucketAt
  rcases old with _ | state
  · rfl
  dsimp only
  split
  · rfl
  · rename_i hsame
    push Not at hsame
    split <;> exact hsame.1

@[simp] theorem bucketAt_capacity : (bucketAt old revision capacity now).capacity = capacity := by
  unfold bucketAt
  rcases old with _ | state
  · rfl
  dsimp only
  split
  · rfl
  · rename_i hsame
    push Not at hsame
    split <;> exact hsame.2

/-- The instant of a bucket is the reading, or a later one. -/
theorem le_bucketAt_at : now ≤ (bucketAt old revision capacity now).at' := by
  unfold bucketAt
  rcases old with _ | state
  · exact le_refl _
  dsimp only
  split
  · exact le_refl _
  split
  · exact le_refl _
  · rename_i helapsed
    rw [timeSub_pos] at helapsed
    exact not_lt.mp helapsed

/-- A bucket that was just normalised is not refilled again. -/
theorem bucketAt_settled :
    (bucketAt (some { bucketAt old revision capacity now with balance := balance })
      revision capacity now).balance = balance := by
  have hlater : ¬ 0 < timeSub now (bucketAt old revision capacity now).at' := by
    rw [timeSub_pos]
    exact not_lt.mpr (le_bucketAt_at old)
  rw [bucketAt]
  rw [if_neg (by simp), if_neg hlater]

/-- A bucket of the kind, as it may stand at `t`. -/
structure RateState.Sound (t : Int) (kind : RateKind) (state : RateState ℚ) : Prop where
  within : state.balance ≤ state.capacity
  seen : state.at' ≤ t
  nonneg : kind = .rpm → 0 ≤ state.balance

variable {kind : RateKind} {t t' : Int} {state : RateState ℚ}

theorem RateState.Sound.mono (h : state.Sound t kind) (hle : t ≤ t') : state.Sound t' kind :=
  ⟨h.within, h.seen.trans hle, h.nonneg⟩

theorem created_sound (hcapacity : kind = .rpm → 0 ≤ capacity) :
    (⟨revision, capacity, RateArith.full capacity, now⟩ : RateState ℚ).Sound now kind where
  within := le_refl _
  seen := le_refl _
  nonneg := fun hkind => by
    show (0 : ℚ) ≤ capacity
    exact_mod_cast hcapacity hkind

theorem bucketAt_sound {old : Option (RateState ℚ)}
    (hold : ∀ state, old = some state → state.Sound now kind)
    (hcapacity : kind = .rpm → 0 ≤ capacity) :
    (bucketAt old revision capacity now).Sound now kind := by
  unfold bucketAt
  rcases old with _ | state
  · exact created_sound hcapacity
  have hs := hold state rfl
  dsimp only
  split
  · exact created_sound hcapacity
  rename_i hsame
  push Not at hsame
  split
  · rename_i helapsed
    constructor
    · show RateArith.refill _ _ _ ≤ (state.capacity : ℚ)
      rw [refill_eq, hsame.2]
      exact TokenBucket.refill_le_capacity
    · exact le_refl _
    intro hkind
    show 0 ≤ RateArith.refill _ _ _
    rw [refill_eq]
    apply TokenBucket.refill_nonneg (tokenRate_nonneg (hcapacity hkind))
    · exact_mod_cast hcapacity hkind
    · exact hs.nonneg hkind
    · exact_mod_cast le_of_lt helapsed
  · exact hs

/-- **A bucket grows by at most the tokens of the time.** -/
theorem bucketAt_later_le (hcapacity : 0 ≤ capacity)
    (hold : ∀ state, old = some state → state.at' ≤ t) (hle : t ≤ t') :
    (bucketAt old revision capacity t').balance
      ≤ (bucketAt old revision capacity t).balance
        + ((t' - t : Int) : ℚ) * tokenRate capacity := by
  have hrate := tokenRate_nonneg hcapacity
  have htime : (0 : ℚ) ≤ ((t' - t : Int) : ℚ) := by exact_mod_cast sub_nonneg.mpr hle
  have hgain : 0 ≤ ((t' - t : Int) : ℚ) * tokenRate capacity := mul_nonneg htime hrate
  unfold bucketAt
  rcases old with _ | state
  · exact le_add_of_nonneg_right hgain
  have hseen := hold state rfl
  dsimp only
  split
  · exact le_add_of_nonneg_right hgain
  -- the saturated difference grows by no more than the readings do
  have hmore : timeSub t' state.at' - timeSub t state.at' ≤ t' - t := by
    simp only [timeSub, maxDuration]
    omega
  have hsooner : timeSub t state.at' ≤ timeSub t' state.at' := by
    simp only [timeSub, maxDuration]
    omega
  have hsteps : (((timeSub t' state.at' : Int) : ℚ) - ((timeSub t state.at' : Int) : ℚ))
      * tokenRate capacity ≤ ((t' - t : Int) : ℚ) * tokenRate capacity := by
    apply mul_le_mul_of_nonneg_right _ hrate
    exact_mod_cast hmore
  split
  · rename_i hlater
    split
    · rw [refill_eq, refill_eq]
      have hsooner' : ((timeSub t state.at' : Int) : ℚ) ≤ (timeSub t' state.at' : Int) := by
        exact_mod_cast hsooner
      calc refill (tokenRate capacity) capacity state.balance _
          ≤ refill (tokenRate capacity) capacity state.balance _ + _ :=
            TokenBucket.refill_later_le hrate hsooner'
        _ ≤ _ := by linarith
    · rename_i hsettled
      -- the bucket was filled up to `t` itself
      have hzero : timeSub t state.at' = 0 := by
        rw [timeSub_pos] at hsettled
        have hat : state.at' = t := by omega
        rw [hat]
        simp [timeSub, maxDuration]
      rw [hzero, Int.cast_zero, sub_zero] at hsteps
      rw [refill_eq]
      have hfill : refill (tokenRate capacity) capacity state.balance
          (timeSub t' state.at' : Int) - state.balance ≤ _ := TokenBucket.refill_gain_le
      linarith
  · rename_i hlater
    have hsettled : ¬ 0 < timeSub t state.at' := by omega
    rw [if_neg hsettled]
    exact le_add_of_nonneg_right hgain

/-! ## All buckets -/

theorem usage_nonneg {usage : TokenUsage} (h : usage.valid = true) :
    0 ≤ usage.inputTokens ∧ 0 ≤ usage.outputTokens := by
  simp only [TokenUsage.valid, Bool.and_eq_true, decide_eq_true_eq] at h
  exact h.1.1

/-- The bucket belongs to the policy, or to an older one. -/
def RateState.Under (state : RateState ℚ) (policy : RatePolicy) : Prop :=
  state.revision ≤ policy.revision ∧
  (state.revision = policy.revision → state.capacity = max policy.rpm 0)

/-- The invariant of the buckets at `t`. -/
structure RatesKept (t : Int) (s : AdmissionCoordinator ℚ) : Prop where
  sound : ∀ client kind state, s.rates client kind = some state → state.Sound t kind
  policed : ∀ client state, s.rates client .rpm = some state →
    ∃ policy, s.policies client = some policy ∧ state.Under policy

theorem setRate_rates (kind kind' : RateKind) (state : RateState ℚ) (client client' : Int) :
    (setRate s client kind state).rates client' kind'
      = if client' = client ∧ kind' = kind then some state else s.rates client' kind' :=
  update_rate_apply ..

theorem ratesKept_init (t capacity : Int) : RatesKept t (newAdmissionCoordinator ℚ capacity) where
  sound := nofun
  policed := nofun

namespace RatesKept

variable {s s' : AdmissionCoordinator ℚ} {t : Int} {kind : RateKind}

section

variable (h : RatesKept t s)

include h

theorem mono (hle : t ≤ t') : RatesKept t' s :=
  ⟨fun client kind state hst => (h.sound client kind state hst).mono hle, h.policed⟩

theorem of_eq (hrates : s'.rates = s.rates)
    (hpolicies : s'.policies = s.policies) : RatesKept t s' := by
  constructor
  · rw [hrates]
    exact h.sound
  · rw [hrates, hpolicies]
    exact h.policed

theorem bucket (hcapacity : kind = .rpm → 0 ≤ capacity) :
    (normalized s client kind revision capacity t).Sound t kind := by
  rw [normalized_eq]
  exact bucketAt_sound (fun state hst => h.sound client kind state hst) hcapacity

/-- A sound bucket may be stored; a request bucket under the client's policy only. -/
theorem store (hsound : state.Sound t kind)
    (hunder : kind = .rpm → ∃ policy, s.policies client = some policy ∧ state.Under policy) :
    RatesKept t (setRate s client kind state) := by
  constructor
  · intro client' kind' state' hst
    rw [setRate_rates] at hst
    split at hst
    · next heq =>
      cases hst
      exact heq.2 ▸ hsound
    · exact h.sound _ _ _ hst
  · intro client' state' hst
    show ∃ policy, s.policies client' = some policy ∧ state'.Under policy
    rw [setRate_rates] at hst
    split at hst
    · next heq =>
      cases hst
      exact heq.1 ▸ hunder heq.2.symm
    · exact h.policed _ _ hst

/-- A policy is replaced by one with a higher revision only. -/
theorem observe (candidate : ClientRatePolicy) :
    RatesKept t (observeClientRatePolicy s candidate).1 := by
  unfold observeClientRatePolicy
  rcases hp : s.policies candidate.clientID with _ | old
  · refine ⟨h.sound, fun client state hst => ?_⟩
    obtain ⟨policy, hpolicy, hunder⟩ := h.policed client state hst
    have hne : client ≠ candidate.clientID := by
      intro heq
      rw [heq, hp] at hpolicy
      cases hpolicy
    exact ⟨policy, by simpa only [Function.update_of_ne hne] using hpolicy, hunder⟩
  dsimp only
  split
  · rename_i hnewer
    refine ⟨h.sound, fun client state hst => ?_⟩
    obtain ⟨policy, hpolicy, hunder⟩ := h.policed client state hst
    by_cases heq : client = candidate.clientID
    · subst heq
      rw [hp] at hpolicy
      cases hpolicy
      refine ⟨_, Function.update_self .., ?_⟩
      -- the bucket is older than the new policy
      have hold : state.revision < candidate.revision := lt_of_le_of_lt hunder.1 hnewer
      exact ⟨hold.le, fun hrevision => absurd hrevision hold.ne⟩
    · exact ⟨policy, by simpa only [Function.update_of_ne heq] using hpolicy, hunder⟩
  · exact h

end

variable {policy : RatePolicy} {req : AdmissionRequest}

variable (h : RatesKept now s) (hpolicy : s.policies req.clientID = some policy)
include h hpolicy

theorem rpm : RatesKept now (checkRPM s policy now req).1 := by
  have hrevision : ∀ balance : ℚ, 0 < policy.rpm → RateState.Under
      { normalized s req.clientID .rpm policy.revision policy.rpm now with balance := balance }
      policy := by
    intro balance hrpm
    rw [normalized_eq]
    exact ⟨by simp, fun _ => by simp only [bucketAt_capacity]; omega⟩
  unfold LocalAdmission.checkRPM
  split
  · rename_i hrpm
    have hsound : (normalized s req.clientID .rpm policy.revision policy.rpm now).Sound now .rpm :=
      h.bucket (fun _ => hrpm.le)
    dsimp only
    split
    · exact h.store hsound (fun _ => ⟨policy, hpolicy, hrevision _ hrpm⟩)
    rename_i hleft
    have hone : 1 ≤ (normalized s req.clientID .rpm policy.revision policy.rpm now).balance := by
      simpa [RateArith.exhausted] using hleft
    refine h.store ⟨?_, hsound.seen, fun _ => ?_⟩ (fun _ => ⟨policy, hpolicy, hrevision _ hrpm⟩)
    · exact (sub_le_self _ zero_le_one).trans hsound.within
    · exact sub_nonneg.mpr hone
  · rename_i hrpm
    refine h.store (h.bucket fun _ => le_refl _) (fun _ => ⟨policy, hpolicy, ?_⟩)
    rw [normalized_eq]
    exact ⟨by simp, fun _ => by simp only [bucketAt_capacity]; omega⟩

theorem tpm : RatesKept now (checkTPM s policy now req).1 := by
  have hset : ∀ capacity, RatesKept now (setRate s req.clientID .tpm
      (normalized s req.clientID .tpm policy.revision capacity now)) := fun capacity =>
    h.store (h.bucket nofun) nofun
  unfold LocalAdmission.checkTPM
  split
  · dsimp only
    split
    · exact hset policy.tpm
    · exact (hset policy.tpm).rpm hpolicy
  · exact (hset 0).rpm hpolicy

theorem limits : RatesKept now (checkLimits s policy now req).1 := by
  unfold LocalAdmission.checkLimits
  split
  · exact h
  split
  · exact h
  split
  · exact h
  · split
    · exact h
    · exact h.tpm hpolicy

end RatesKept

/-- The policy a request is checked under is the stored one. -/
theorem observeRatePolicy_policies :
    (observeRatePolicy s req).1.policies req.clientID = some (observeRatePolicy s req).2 := by
  unfold observeRatePolicy observeClientRatePolicy
  cases hp : s.policies req.clientID with
  | none => exact Function.update_self ..
  | some old =>
    dsimp only
    split
    · exact Function.update_self ..
    · exact hp

theorem observeRatePolicy_rates : (observeRatePolicy s req).1.rates = s.rates := by
  rw [observeRatePolicy, observeClientRatePolicy_eq]

namespace RatesKept

variable {s s' : AdmissionCoordinator ℚ} {t : Int}

section

variable (h : RatesKept now s)

include h

theorem evaluated (req : AdmissionRequest) : RatesKept now (evaluate s now req).1 := by
  unfold LocalAdmission.evaluate
  split
  · exact h
  · split
    · exact h
    · exact (h.observe _).limits (observeRatePolicy_policies s req)

/-- A valid usage is taken out of the token bucket. -/
theorem charged (request : AdmissionRequest)
    (usage : Option TokenUsage) : RatesKept now (chargeCompletion s now request usage).1 := by
  rcases usage with _ | usage
  · exact h
  unfold LocalAdmission.chargeCompletion
  dsimp only
  split
  · rename_i hvalid
    have hsound : (normalized s request.clientID .tpm (currentPolicy s request).revision
        (currentPolicy s request).tpm now).Sound now .tpm :=
      h.bucket nofun
    unfold chargeUsage
    dsimp only
    split
    · refine h.store ⟨?_, hsound.seen, nofun⟩
        nofun
      show _ - ((usage.inputTokens : ℚ) + usage.outputTokens) ≤ _
      have hin : (0 : ℚ) ≤ usage.inputTokens := by
        exact_mod_cast (usage_nonneg hvalid).1
      have hout : (0 : ℚ) ≤ usage.outputTokens := by
        exact_mod_cast (usage_nonneg hvalid).2
      have hwithin := hsound.within
      linarith
    · exact h.store hsound nofun
  · exact h

theorem move {evicting : Bool} {op : Operation} {es : List Effect}
    (hmove : Move fingerprint evicting now op s es s') : RatesKept now s' := by
  cases hmove with
  | observePolicy policy => exact h.observe policy
  | skipLeaseEntry | skipReceiptEntry | deleteReceipt | evictReceipt | renewLease =>
    exact h.of_eq rfl rfl
  | expireLease e queue =>
    obtain ⟨hrates, hpolicies⟩ := expireLeaseEntry_rates { s with expiries := queue } now e
    exact h.of_eq hrates hpolicies
  | reject req | grant req => exact (h.evaluated req).of_eq rfl rfl
  | loseLease id =>
    have hframe := removeLease_frame s id
    exact h.of_eq hframe.2.2.2.2.1 hframe.2.2.2.2.2
  | complete item receipt =>
    have hframe := removeLease_frame s item.lease.leaseID
    exact ((h.of_eq hframe.2.2.2.2.1 hframe.2.2.2.2.2).charged receipt.request
      item.usage).of_eq rfl rfl

theorem called (op : Operation) : RatesKept now (call fingerprint s now op).1 := by
  have htrail : Trail (Move fingerprint true now op) s (call fingerprint s now op).2.2
      (call fingerprint s now op).1 := call_trail s op (.inl rfl)
  exact htrail.inv_state (fun _ _ _ ha hmove => ha.move hmove) h

end

end RatesKept

/-! ## What an admission costs -/

/-- The effect admits a request of the client. -/
def Effect.admits (client : Int) : Effect → Bool
  | .leaseCreated req => decide (req.clientID = client)
  | _ => false

/-- The admissions of the client among some effects. -/
def admissions (client : Int) (es : List Effect) : Nat := es.countP (Effect.admits client)

/-- The balance of the client's request bucket of the policy, as it would be read at `t`. -/
def effective (client revision capacity : Int) (s : AdmissionCoordinator ℚ) (t : Int) : ℚ :=
  (bucketAt (s.rates client .rpm) revision capacity t).balance

theorem effective_of_eq {s s' : AdmissionCoordinator ℚ}
    (h : s'.rates client .rpm = s.rates client .rpm) :
    effective client revision capacity s' t = effective client revision capacity s t := by
  unfold effective
  rw [h]

/-- Storing the bucket of the policy as it is now, with another balance. -/
theorem effective_setRate :
    effective client revision capacity
        (setRate s client .rpm
          { normalized s client .rpm revision capacity now with balance := balance }) now
      = balance := by
  unfold effective
  rw [setRate_rates, if_pos ⟨rfl, rfl⟩, normalized_eq]
  exact bucketAt_settled _ _

/-- What a verdict takes out of the request bucket of its client. -/
def Verdict.cost : Verdict → ℚ
  | .grant _ => 1
  | .reject _ _ _ => 0

variable (req : AdmissionRequest)

/-- The check of the request bucket, under its policy. -/
theorem checkRPM_pays (hrpm : 0 < policy.rpm) :
    effective req.clientID policy.revision policy.rpm (checkRPM s policy now req).1 now
        + (checkRPM s policy now req).2.cost
      = effective req.clientID policy.revision policy.rpm s now := by
  have hnow : (normalized s req.clientID .rpm policy.revision policy.rpm now).balance
      = effective req.clientID policy.revision policy.rpm s now := by
    rw [normalized_eq]
    rfl
  unfold checkRPM
  rw [if_pos hrpm]
  dsimp only
  split
  · show effective _ _ _ (setRate s _ .rpm { normalized s _ .rpm _ _ now with balance := _ }) now
      + 0 = _
    rw [effective_setRate, add_zero]
    exact hnow
  · show _ + 1 = _
    rw [effective_setRate, ← hnow]
    exact sub_add_cancel _ 1

/-- Nothing but token buckets differ. -/
def SameButTokens (s s' : AdmissionCoordinator ℚ) : Prop :=
  s'.policies = s.policies ∧ ∀ client, s'.rates client .rpm = s.rates client .rpm

theorem sameButTokens_setRate (state : RateState ℚ) :
    SameButTokens s (setRate s client .tpm state) := by
  refine ⟨rfl, fun client' => ?_⟩
  rw [setRate_rates, if_neg]
  rintro ⟨-, hkind⟩
  cases hkind

/-- The limits reject without touching a request bucket, or they ask it. -/
theorem checkLimits_cases {P : AdmissionCoordinator ℚ × Verdict → Prop}
    (hreject : ∀ s' reason retryAt scope, SameButTokens s s' →
      P (s', .reject reason retryAt scope))
    (hask : ∀ s', SameButTokens s s' → P (checkRPM s' policy now req)) :
    P (checkLimits s policy now req) := by
  have hsame : SameButTokens s s := ⟨rfl, fun _ => rfl⟩
  unfold checkLimits
  split
  · exact hreject s _ _ _ hsame
  split
  · exact hreject s _ _ _ hsame
  split
  · exact hreject s _ _ _ hsame
  split
  · exact hreject s _ _ _ hsame
  -- the token bucket is asked before the request bucket
  unfold checkTPM
  split
  · dsimp only
    split
    · exact hreject _ _ _ _ (sameButTokens_setRate s _)
    · exact hask _ (sameButTokens_setRate s _)
  · exact hask _ (sameButTokens_setRate s _)

/-- The policy with the highest revision the client was seen with has this revision and this
    request capacity. -/
def UnderPolicy (client revision capacity : Int) (s : AdmissionCoordinator ℚ) : Prop :=
  ∃ policy, s.policies client = some policy ∧ policy.revision = revision ∧ policy.rpm = capacity

theorem checkLimits_policies : (checkLimits s policy now req).1.policies = s.policies := by
  apply checkLimits_cases (P := fun r => r.1.policies = s.policies)
  · intro s' _ _ _ hsame
    exact hsame.1
  intro s' hsame
  rw [checkRPM_eq]
  exact hsame.1

/-- **The checks of a request pay for it** out of the bucket of the highest revision, whatever
    revision the request carries. -/
theorem evaluate_pays (hcapacity : 0 < capacity)
    (hunder : UnderPolicy req.clientID revision capacity (evaluate s now req).1) :
    effective req.clientID revision capacity (evaluate s now req).1 now
        + (evaluate s now req).2.cost
      = effective req.clientID revision capacity s now := by
  unfold evaluate at hunder ⊢
  split
  · exact add_zero _
  rename_i hfresh
  rw [if_neg hfresh] at hunder
  split
  · exact add_zero _
  rename_i hvalid
  rw [if_neg hvalid] at hunder
  obtain ⟨policy, hpolicy, rfl, rfl⟩ := hunder
  rw [checkLimits_policies, observeRatePolicy_policies] at hpolicy
  cases hpolicy
  have hsame : ∀ s' : AdmissionCoordinator ℚ, SameButTokens (observeRatePolicy s req).1 s' →
      s'.rates req.clientID .rpm = s.rates req.clientID .rpm := by
    intro s' hs'
    rw [hs'.2, observeRatePolicy_rates]
  apply checkLimits_cases (P := fun r => effective req.clientID
    (observeRatePolicy s req).2.revision (observeRatePolicy s req).2.rpm r.1 now + r.2.cost = _)
  · intro s' _ _ _ hs'
    show _ + 0 = _
    rw [add_zero, effective_of_eq (hsame s' hs')]
  · intro s' hs'
    rw [checkRPM_pays s' _ req hcapacity, effective_of_eq (hsame s' hs')]

/-- The checks of a request leave the buckets of other clients alone. -/
theorem evaluate_rates_of_ne (h : client ≠ req.clientID) :
    (evaluate s now req).1.rates client kind = s.rates client kind := by
  have hset : ∀ (s : AdmissionCoordinator ℚ) kind' state,
      (setRate s req.clientID kind' state).rates client kind = s.rates client kind := by
    intro s kind' state
    rw [setRate_rates, if_neg fun heq => h heq.1]
  have hrpm : ∀ (s : AdmissionCoordinator ℚ) policy,
      (checkRPM s policy now req).1.rates client kind = s.rates client kind := by
    intro s policy
    unfold checkRPM
    dsimp only
    split
    · split <;> exact hset _ _ _
    · exact hset _ _ _
  rw [← observeRatePolicy_rates s req]
  unfold evaluate checkLimits checkTPM
  dsimp only
  repeat' split
  all_goals first
    | rfl
    | exact hset _ _ _
    | exact (hrpm _ _).trans (hset _ _ _)
    | rw [observeRatePolicy_rates]

/-! ## Calls -/

theorem admissions_grant (debited : Bool) :
    admissions client (grantEffects req debited) = if req.clientID = client then 1 else 0 := by
  unfold admissions grantEffects
  cases debited with
  | false => simp [Effect.admits]
  | true => simp [Effect.admits, List.countP_cons]

/-- A fresh request is paid for by its client, and by no other. -/
theorem acquireFresh_pays (fp : Nat) (s : AdmissionCoordinator ℚ) (req : AdmissionRequest)
    (hcapacity : 0 < capacity)
    (hunder : UnderPolicy client revision capacity (acquireFresh fp s now req).1) :
    effective client revision capacity (acquireFresh fp s now req).1 now
        + admissions client (acquireFresh fp s now req).2.2
      = effective client revision capacity s now := by
  have hpaid : UnderPolicy client revision capacity (evaluate s now req).1 →
      effective client revision capacity (evaluate s now req).1 now
        + (if req.clientID = client then (evaluate s now req).2.cost else 0)
      = effective client revision capacity s now := by
    intro hunder
    split
    · next hclient =>
      subst hclient
      exact evaluate_pays s req hcapacity hunder
    · next hother =>
      rw [add_zero]
      exact effective_of_eq (evaluate_rates_of_ne s req (Ne.symm hother))
  unfold acquireFresh at hunder ⊢
  rcases hv : evaluate s now req with ⟨s₁, verdict⟩
  rw [hv] at hunder hpaid
  rw [← hpaid (by cases verdict <;> exact hunder)]
  cases verdict with
  | reject reason retryAt scope => simp only [Verdict.cost, ite_self]; rfl
  | grant debited =>
    show _ + (admissions client (grantEffects req debited) : ℚ) = _
    rw [admissions_grant, Nat.cast_ite, Nat.cast_one, Nat.cast_zero]
    rfl

theorem acquire_pays (hcapacity : 0 < capacity)
    (hunder : UnderPolicy client revision capacity (acquire fingerprint s now req).1) :
    effective client revision capacity (acquire fingerprint s now req).1 now
        + admissions client (acquire fingerprint s now req).2.2
      = effective client revision capacity s now := by
  have hexpired : effective client revision capacity (expire s now) now
      = effective client revision capacity s now :=
    effective_of_eq (by rw [(expire_rates s now).1])
  cases hr : (expire s now).receipts.lookup req.leaseID with
  | some old =>
    rw [acquire_of_some hr]
    show effective client revision capacity (expire s now) now + ((0 : Nat) : ℚ) = _
    rw [Nat.cast_zero, add_zero, hexpired]
  | none =>
    obtain ⟨receipts, queue, hroom⟩ := makeReceiptRoom_frame (expire s now)
    have hmade : effective client revision capacity (makeReceiptRoom (expire s now)).1 now
        = effective client revision capacity s now := by
      rw [← hexpired]
      exact effective_of_eq (by rw [hroom])
    rw [acquire_of_none hr] at hunder ⊢
    split
    · rename_i hfree
      rw [if_pos hfree] at hunder
      rw [acquireFresh_pays _ _ req hcapacity hunder, hmade]
    · show effective client revision capacity (makeReceiptRoom (expire s now)).1 now
        + ((0 : Nat) : ℚ) = _
      rw [Nat.cast_zero, add_zero, hmade]

/-- A move leaves the buckets alone, checks a request, or charges a usage. -/
theorem move_rates {s s' : AdmissionCoordinator ℚ} {evicting : Bool} {op : Operation}
    {es : List Effect} (hmove : Move fingerprint evicting now op s es s') :
    (s'.rates = s.rates ∧ es = []) ∨
    (∃ req, op = .acquire req ∧ s'.rates = (evaluate s now req).1.rates) ∨
    ∃ a request usage, a.rates = s.rates ∧
      s'.rates = (chargeCompletion a now request usage).1.rates ∧
      es = (chargeCompletion a now request usage).2 := by
  cases hmove with
  | observePolicy policy => exact .inl ⟨by rw [observeClientRatePolicy_eq], rfl⟩
  | skipLeaseEntry | skipReceiptEntry | deleteReceipt | evictReceipt | renewLease =>
    exact .inl ⟨rfl, rfl⟩
  | expireLease e queue =>
    exact .inl ⟨(expireLeaseEntry_rates { s with expiries := queue } now e).1, rfl⟩
  | reject req _ _ _ hacquire | grant req _ hacquire => exact .inr (.inl ⟨req, hacquire, rfl⟩)
  | loseLease id => exact .inl ⟨(removeLease_frame s id).2.2.2.2.1, rfl⟩
  | complete item receipt =>
    exact .inr (.inr ⟨_, _, _, (removeLease_frame s item.lease.leaseID).2.2.2.2.1, rfl, rfl⟩)

/-- A call other than `Acquire` leaves the request buckets alone and admits nothing. -/
theorem move_untouched {s s' : AdmissionCoordinator ℚ} {evicting : Bool} {op : Operation}
    {es : List Effect} (hop : ∀ req, op ≠ .acquire req)
    (hmove : Move fingerprint evicting now op s es s') :
    s'.rates client .rpm = s.rates client .rpm ∧ admissions client es = 0 := by
  obtain ⟨hrates, rfl⟩ | ⟨req, hacquire, -⟩ | ⟨a, request, usage, ha, hrates, rfl⟩ :=
    move_rates hmove
  · rw [hrates]
    exact ⟨rfl, rfl⟩
  · exact absurd hacquire (hop req)
  rw [hrates, ← ha]
  rcases usage with _ | usage
  · exact ⟨rfl, rfl⟩
  unfold chargeCompletion chargeUsage
  dsimp only
  split
  · split <;> exact ⟨(sameButTokens_setRate _ _).2 client, rfl⟩
  · exact ⟨rfl, rfl⟩

/-- **Call lemma**: what a call admits is paid for. -/
theorem call_pays (op : Operation) (hcapacity : 0 < capacity)
    (hunder : UnderPolicy client revision capacity (call fingerprint s now op).1) :
    effective client revision capacity (call fingerprint s now op).1 now
        + admissions client (call fingerprint s now op).2.2
      = effective client revision capacity s now := by
  by_cases hop : ∃ req, op = .acquire req
  · obtain ⟨req, rfl⟩ := hop
    exact acquire_pays s req hcapacity hunder
  push Not at hop
  have htrail : Trail (Move fingerprint true now op) s (call fingerprint s now op).2.2
      (call fingerprint s now op).1 := call_trail s op (.inl rfl)
  obtain ⟨hrates, hnone⟩ := htrail.inv
    (I := fun past a => a.rates client .rpm = s.rates client .rpm ∧ admissions client past = 0)
    (fun past a es b ha hmove => by
      obtain ⟨hrates, hnone⟩ := move_untouched hop hmove
      refine ⟨hrates.trans ha.1, ?_⟩
      unfold admissions at hnone ha ⊢
      rw [List.countP_append, ha.2, hnone]) [] ⟨rfl, rfl⟩
  rw [List.nil_append] at hnone
  rw [hnone, Nat.cast_zero, add_zero]
  exact effective_of_eq hrates

/-! ## Windows -/

theorem admissions_effects (calls : List (Int × Operation)) :
    (admissions client (effects fingerprint s calls) : ℚ)
      = (((machine fingerprint).answers s calls).map
          (fun a => (admissions client a.2 : ℚ))).sum := by
  induction calls generalizing s with
  | nil => rfl
  | cons c calls ih =>
    rw [effects_cons, admissions, List.countP_append, Nat.cast_add]
    exact congrArg₂ (· + ·) rfl (ih _)

/-- The window lemma: what is admitted is in the bucket at the start, or comes in later. -/
theorem window_pays (window : List (Int × Operation)) (t : Int) (hs : RatesKept t s)
    (hclock : Paced (· ≤ ·) t (window.map Prod.fst)) (hcapacity : 0 < capacity)
    (hpolicy : (machine fingerprint).Along
      (fun s c => UnderPolicy client revision capacity ((machine fingerprint).step s c).1) s
      window) :
    (admissions client (effects fingerprint s window) : ℚ)
      ≤ effective client revision capacity s t
        + ((latest t (window.map Prod.fst) - t : Int) : ℚ) * tokenRate capacity := by
  rw [admissions_effects]
  apply TokenBucket.sum_le_of_spent (machine fingerprint) _ (fun s t => RatesKept t s)
    (effective client revision capacity) _ _ _ window s t hs hclock hpolicy
  · intro a c ha hunder
    exact ⟨ha.called c.2, (call_pays a c.2 hcapacity hunder).le⟩
  · intro a u u' ha hle
    exact ⟨ha.mono hle, bucketAt_later_le _ hcapacity.le
      (fun state hst => (ha.sound client .rpm state hst).seen) hle⟩
  · intro a u ha
    exact (bucketAt_sound (fun state hst => ha.sound client .rpm state hst)
      (fun _ => hcapacity.le)).nonneg rfl

theorem ratesKept_run (receiptCapacity : Int) (calls : List (Int × Operation))
    (hclock : Nondecreasing calls) (hend : ∀ c ∈ calls, c.1 ≤ t) :
    RatesKept t
      ((machine fingerprint).after (newAdmissionCoordinator ℚ receiptCapacity) calls) :=
  (machine fingerprint).history_of_init Prod.snd (I := fun t _ s => RatesKept t s)
    (G := fun _ _ => True) (fun _ _ _ _ hle h => h.mono hle) hclock hend
    (fun _ c _ _ h _ => h.called c.2) (fun t => ratesKept_init t receiptCapacity)
    (Machine.along_of_forall _ _ calls fun _ _ => trivial)

/-- What the window admits, by the time it takes. -/
theorem window_bound {window : List (Int × Operation)} {t₀ t₁ : Int}
    (hkept : ∀ c ∈ window, RatesKept c.1 s) (hclock : Nondecreasing window) (hwindow : t₀ ≤ t₁)
    (hinside : ∀ c ∈ window, t₀ ≤ c.1 ∧ c.1 ≤ t₁) (hcapacity : 0 < capacity)
    (hpolicy : (machine fingerprint).Along
      (fun s c => UnderPolicy client revision capacity ((machine fingerprint).step s c).1)
      s window) :
    (admissions client (effects fingerprint s window) : ℚ)
      ≤ capacity + ((t₁ - t₀ : Int) : ℚ) * tokenRate capacity := by
  have hrate := tokenRate_nonneg hcapacity.le
  have hcap : (0 : ℚ) ≤ capacity := by exact_mod_cast hcapacity.le
  have htime : (0 : ℚ) ≤ ((t₁ - t₀ : Int) : ℚ) := by exact_mod_cast sub_nonneg.mpr hwindow
  cases window with
  | nil => exact add_nonneg hcap (mul_nonneg htime hrate)
  | cons c window =>
    -- the bucket is read at the first call of the window
    have hs := hkept c List.mem_cons_self
    have hpaced : Paced (· ≤ ·) c.1 ((c :: window).map Prod.fst) :=
      TokenBucket.paced_of_pairwise
        (List.pairwise_cons.mpr ⟨List.forall_mem_map.mpr (Machine.first_le hclock), hclock⟩)
    have hpaid := window_pays _ (c :: window) c.1 hs hpaced hcapacity hpolicy
    have hfull := (bucketAt_sound (fun state hst => hs.sound client .rpm state hst)
      (fun _ => hcapacity.le) : RateState.Sound c.1 .rpm (bucketAt _ revision capacity c.1)).within
    rw [bucketAt_capacity] at hfull
    have hlast : latest c.1 ((c :: window).map Prod.fst) ≤ t₁ :=
      TokenBucket.latest_le (hinside c List.mem_cons_self).2
        (List.forall_mem_map.mpr fun d hd => (hinside d hd).2)
    have hspan : ((latest c.1 ((c :: window).map Prod.fst) - c.1 : Int) : ℚ)
        ≤ ((t₁ - t₀ : Int) : ℚ) := by
      have hstart := (hinside c List.mem_cons_self).1
      exact_mod_cast (by omega : _ ≤ t₁ - t₀)
    calc _ ≤ _ := hpaid
      _ ≤ _ := add_le_add hfull (mul_le_mul_of_nonneg_right hspan hrate)

/-- **The request limit of the local coordinator.**  In a window of a run with a nondecreasing
    clock, in which the client's policy of the highest revision has the request capacity `C`,
    at most `C + C * T / 60` requests of the client are admitted, `T` the seconds of the
    window.  In every state request balances lie between nothing and the capacity that the
    policy of their revision gives, and token balances are not above theirs. -/
theorem rpm_limited (fingerprint : AdmissionRequest → Nat)
    (receiptCapacity client revision capacity t₀ t₁ : Int)
    (before window : List (Int × Operation)) (hclock : Nondecreasing (before ++ window))
    (hwindow : t₀ ≤ t₁) (hinside : ∀ c ∈ window, t₀ ≤ c.1 ∧ c.1 ≤ t₁) (hcapacity : 0 < capacity)
    (hpolicy : (machine fingerprint).Along
      (fun s c => UnderPolicy client revision capacity ((machine fingerprint).step s c).1)
      ((machine fingerprint).after (newAdmissionCoordinator ℚ receiptCapacity) before) window) :
    let start := newAdmissionCoordinator ℚ receiptCapacity
    let final := (machine fingerprint).after start (before ++ window)
    (admissions client
        (effects fingerprint ((machine fingerprint).after start before) window) : ℚ)
      ≤ capacity + capacity * (((t₁ - t₀ : Int) : ℚ) / second) / 60 ∧
    (∀ other state, final.rates other .rpm = some state →
      0 ≤ state.balance ∧ state.balance ≤ state.capacity ∧
      ∀ policy, final.policies other = some policy → state.revision = policy.revision →
        state.capacity = max policy.rpm 0) ∧
    (∀ other state, final.rates other .tpm = some state → state.balance ≤ state.capacity) := by
  intro start final
  have hkept : RatesKept (latest 0 ((before ++ window).map Prod.fst)) final :=
    ratesKept_run receiptCapacity (before ++ window) hclock
      (fun c hc => TokenBucket.le_latest_of_mem (List.mem_map.mpr ⟨c, hc, rfl⟩))
  refine ⟨?_, ?_, ?_⟩
  · obtain ⟨hbefore, hlater, hcross⟩ := nondecreasing_append hclock
    have hbound := window_bound _ (fun c hc => ratesKept_run receiptCapacity before hbefore
      fun d hd => hcross d hd c hc) hlater hwindow hinside hcapacity hpolicy
    have hrate : ((t₁ - t₀ : Int) : ℚ) * tokenRate capacity
        = capacity * (((t₁ - t₀ : Int) : ℚ) / second) / 60 := by
      unfold tokenRate
      ring
    rw [← hrate]
    exact hbound
  · intro other state hst
    have hsound := hkept.sound other .rpm state hst
    refine ⟨hsound.nonneg rfl, hsound.within, fun policy hp hrevision => ?_⟩
    obtain ⟨policy', hp', hunder⟩ := hkept.policed other state hst
    rw [hp] at hp'
    cases hp'
    exact hunder.2 hrevision
  · intro other state hst
    exact (hkept.sound other .tpm state hst).within

/-- A request under the given revision, which asks for `rpm` requests per minute. -/
def revisedRequest (leaseID : UUID) (revision rpm : Int) : AdmissionRequest :=
  { plainRequest leaseID 0 hour with clientPolicyRevision := revision, requestsPerMinute := rpm }

/-- The client is known under revision 2. -/
def revisedBefore : List (Int × Operation) :=
  [(0, .observeClientRatePolicy ⟨1, 2, 1, 0⟩)]

/-- A request of that revision, and two of an older and more generous one. -/
def revisedWindow : List (Int × Operation) :=
  [(0, .acquire (revisedRequest 1 2 1)), (0, .acquire (revisedRequest 2 1 100)),
   (60 * second, .acquire (revisedRequest 3 1 100))]

/-- The bound is reached: one request at once, and one after the minute. -/
theorem rpm_limited_revisedWindow :
    admissions 1 (effects (fun _ => 0) ((machine (fun _ => 0)).after
      (newAdmissionCoordinator ℚ 8) revisedBefore) revisedWindow) = 2 ∧
    (admissions 1 (effects (fun _ => 0) ((machine (fun _ => 0)).after
      (newAdmissionCoordinator ℚ 8) revisedBefore) revisedWindow) : ℚ)
      ≤ ((1 : Int) : ℚ)
        + ((1 : Int) : ℚ) * (((60 * second - 0 : Int) : ℚ) / second) / 60 := by
  refine ⟨by decide +kernel, (rpm_limited (fun _ => 0) 8 1 2 1 0 (60 * second) revisedBefore
    revisedWindow (by unfold Nondecreasing; decide) (by decide) (by decide) (by decide) ?_).1⟩
  · exact ⟨⟨⟨2, 1, 0⟩, by decide +kernel⟩, ⟨⟨2, 1, 0⟩, by decide +kernel⟩,
      ⟨⟨2, 1, 0⟩, by decide +kernel⟩, trivial⟩

end Coordination.LocalAdmission
