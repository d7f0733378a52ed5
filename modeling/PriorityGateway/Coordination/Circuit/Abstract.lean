import PriorityGateway.Coordination.Circuit.Breaker
import Mathlib.Data.Finset.Max
import Mathlib.Data.Multiset.Fold
import Mathlib.Data.Int.Order.Basic

/-! # The Abstract Circuit

    What a circuit is, without saying how it is stored: a state, a
    generation, a multiset of failures and the probes in flight, each with
    its deadline.  Both coordinators are compared with it.

    The coordinators differ in when they notice that time has passed: a probe
    whose deadline is over, a cooldown that has ended, a failure that has left
    the window.  `settle` notices everything at once, and a coordinator
    stands for the circuit it would settle to.  The central fact is
    `settle_settle`: settling now and again later is settling later, so it
    does not matter who settles when. -/

namespace Coordination

open CircuitBreaker (Options)

structure Circuit where
  state : CircuitState := .circuitClosed
  generation : Int := 0
  failures : Multiset Int := 0
  openedAt : Int := 0
  /-- The probes in flight of the current generation, with their deadlines. -/
  probes : Finset (UUID × Int) := ∅
  succeeded : Bool := false

/-- What the caller of an acquisition can see of the answer. -/
structure Observation where
  reason : Option Reason
  permit : Bool
  state : Option CircuitState
  generation : Int
  failureCount : Nat
  probesInFlight : Nat
  deriving DecidableEq, Repr

def CircuitDecision.observed (d : CircuitDecision) : Observation where
  reason := d.reason
  permit := d.permit.isSome
  state := d.snapshot.state
  generation := d.snapshot.generation
  failureCount := d.snapshot.failureCount
  probesInFlight := d.snapshot.probesInFlight

namespace Circuit

variable (o : Options) (now : Int)

/-! ## Failures -/

/-- The later of an instant and the failures. -/
def latest (t : Int) (failures : Multiset Int) : Int := failures.fold max t

/-- The failures that are inside the window at `now`. -/
def recent (failures : Multiset Int) : Multiset Int :=
  failures.filter (fun failure => now - o.failureWindow ≤ failure)

/-- The failures after one more at `t`; the latest one decides who stays. -/
def recorded (t : Int) (failures : Multiset Int) : Multiset Int :=
  recent o (latest t failures) (t ::ₘ failures)

variable {failures : Multiset Int} {t t' e ttl x : Int} {id : UUID}

theorem latest_le_iff : latest t failures ≤ x ↔ t ≤ x ∧ ∀ f ∈ failures, f ≤ x := by
  unfold latest
  induction failures using Multiset.induction with
  | empty => simp
  | cons f failures ih =>
    rw [Multiset.fold_cons_left, max_le_iff, ih]
    simp only [Multiset.mem_cons, forall_eq_or_imp]
    tauto

theorem le_latest (t : Int) (failures : Multiset Int) : t ≤ latest t failures :=
  (latest_le_iff.mp (le_refl (latest t failures))).1

theorem le_latest_of_mem {f : Int} (h : f ∈ failures) : f ≤ latest t failures :=
  (latest_le_iff.mp (le_refl (latest t failures))).2 f h

theorem latest_mem (t : Int) (failures : Multiset Int) : latest t failures ∈ t ::ₘ failures := by
  unfold latest
  induction failures using Multiset.induction with
  | empty => simp
  | cons f failures ih =>
    rw [Multiset.fold_cons_left]
    rcases max_choice f (failures.fold max t) with h | h
    · rw [h]; simp
    rw [h]
    rcases Multiset.mem_cons.mp ih with ih | ih
    · rw [ih]; simp
    · simp [ih]

theorem latest_eq_of_greatest (hmem : x ∈ t ::ₘ failures)
    (hle : ∀ f ∈ t ::ₘ failures, f ≤ x) : latest t failures = x := by
  apply le_antisymm
  · exact hle _ (latest_mem t failures)
  · rcases Multiset.mem_cons.mp hmem with rfl | h
    · exact le_latest _ _
    · exact le_latest_of_mem h

theorem recent_recent (h : t ≤ t') (failures : Multiset Int) :
    recent o t' (recent o t failures) = recent o t' failures := by
  unfold recent
  rw [Multiset.filter_filter]
  apply Multiset.filter_congr
  intro f _
  constructor
  · exact fun hf => hf.1
  · intro hf
    exact ⟨hf, by omega⟩

/-- Failures outside the window at `t` do not matter to a failure recorded at `t`. -/
theorem recorded_recent (t : Int) (failures : Multiset Int) :
    latest t (recent o t failures) = latest t failures ∧
      recorded o t (recent o t failures) = recorded o t failures := by
  have hlatest : latest t (recent o t failures) = latest t failures := by
    apply latest_eq_of_greatest
    · rcases Multiset.mem_cons.mp (latest_mem t failures) with h | h
      · rw [h]; simp
      · -- the latest failure is not before `t`, so it is inside the window
        have := le_latest t failures
        have hpos := o.window_pos
        exact Multiset.mem_cons_of_mem (Multiset.mem_filter.mpr ⟨h, by omega⟩)
    · intro f hf
      rcases Multiset.mem_cons.mp hf with rfl | hf
      · exact le_latest _ _
      · exact le_latest_of_mem (Multiset.mem_filter.mp hf).1
  constructor
  · exact hlatest
  unfold recorded
  rw [hlatest]
  have hin : ∀ fs : Multiset Int, recent o (latest t failures) (t ::ₘ fs)
      = recent o (latest t failures) (t ::ₘ recent o t fs) := by
    intro fs
    have := recent_recent o (le_latest t failures) fs
    unfold recent at this ⊢
    rw [← Multiset.singleton_add t fs, ← Multiset.singleton_add t (Multiset.filter _ fs),
      Multiset.filter_add, Multiset.filter_add, this]
  exact (hin failures).symm

/-! ## Time passing -/

/-- The circuit opens because of a failure at `t`. -/
def trip (t : Int) (c : Circuit) : Circuit where
  state := .circuitOpen
  generation := c.generation + 1
  failures := recorded o t c.failures
  openedAt := latest t c.failures

def halfOpened (c : Circuit) : Circuit where
  state := .circuitHalfOpen
  generation := c.generation + 1
  failures := c.failures

def closed (c : Circuit) : Circuit where
  state := .circuitClosed
  generation := c.generation + 1

/-- The deadlines that are over. -/
def due (c : Circuit) : Finset Int := (c.probes.image Prod.snd).filter (· ≤ now)

/-- The first deadline that is over trips a half-open circuit. -/
def expireProbes (c : Circuit) : Circuit :=
  if h : c.state = .circuitHalfOpen ∧ (c.due now).Nonempty then c.trip o ((c.due now).min' h.2)
  else c

/-- An open circuit whose cooldown is over becomes half open. -/
def cool (c : Circuit) : Circuit :=
  if c.state = .circuitOpen ∧ c.openedAt + o.openCooldown ≤ now then c.halfOpened else c

/-- A closed circuit forgets the failures that have left the window. -/
def forget (c : Circuit) : Circuit :=
  if c.state = .circuitClosed then { c with failures := recent o now c.failures } else c

/-- Everything that `now` makes due. -/
def settle (c : Circuit) : Circuit := ((c.expireProbes o now).cool o now).forget o now

variable {o now} {c : Circuit}

theorem mem_due : e ∈ c.due now ↔ (∃ id, (id, e) ∈ c.probes) ∧ e ≤ now := by
  simp [due]

theorem expireProbes_of_ne (h : c.state ≠ .circuitHalfOpen) : c.expireProbes o now = c :=
  dif_neg (fun hc => h hc.1)

theorem expireProbes_of_none (h : ∀ e, ¬ e ∈ c.due now) : c.expireProbes o now = c :=
  dif_neg (fun hc => let ⟨e, he⟩ := hc.2; h e he)

theorem expireProbes_of_earliest (hstate : c.state = .circuitHalfOpen) (hdue : e ∈ c.due now)
    (hleast : ∀ x ∈ c.due now, e ≤ x) : c.expireProbes o now = c.trip o e := by
  have hmin : (c.due now).min' ⟨e, hdue⟩ = e :=
    le_antisymm (Finset.min'_le _ _ hdue) (Finset.le_min' _ _ _ hleast)
  rw [expireProbes, dif_pos ⟨hstate, ⟨e, hdue⟩⟩, hmin]

/-- Either nothing is due, or the circuit trips at its earliest deadline. -/
theorem expireProbes_cases (o : Options) (now : Int) (c : Circuit) :
    (c.expireProbes o now = c ∧ (c.state = .circuitHalfOpen → ∀ e, ¬ e ∈ c.due now)) ∨
      ∃ e, c.state = .circuitHalfOpen ∧ e ∈ c.due now ∧ (∀ x ∈ c.due now, e ≤ x) ∧
        c.expireProbes o now = c.trip o e := by
  by_cases h : c.state = .circuitHalfOpen ∧ (c.due now).Nonempty
  · right
    have hleast : ∀ x ∈ c.due now, (c.due now).min' h.2 ≤ x := fun x hx => Finset.min'_le _ _ hx
    exact ⟨(c.due now).min' h.2, h.1, Finset.min'_mem _ _, hleast, dif_pos h⟩
  · left
    exact ⟨dif_neg h, fun hs e he => h ⟨hs, ⟨e, he⟩⟩⟩

theorem cool_of_ne (h : c.state ≠ .circuitOpen) : c.cool o now = c :=
  if_neg (fun hc => h hc.1)

theorem forget_of_ne (h : c.state ≠ .circuitClosed) : c.forget o now = c := if_neg h

theorem forget_fields (o : Options) (now : Int) (c : Circuit) :
    (c.forget o now).state = c.state ∧ (c.forget o now).generation = c.generation := by
  unfold forget
  split <;> exact ⟨rfl, rfl⟩

theorem cool_state_ne_closed (h : c.state ≠ .circuitClosed) :
    (c.cool o now).state ≠ .circuitClosed := by
  unfold cool
  split
  · simp [halfOpened]
  · exact h

theorem settle_of_closed (h : c.state = .circuitClosed) : c.settle o now = c.forget o now := by
  rw [settle, expireProbes_of_ne (by simp [h]), cool_of_ne (by simp [h])]

theorem settle_of_open (h : c.state = .circuitOpen) : c.settle o now = c.cool o now := by
  rw [settle, expireProbes_of_ne (by simp [h]),
    forget_of_ne (cool_state_ne_closed (by simp [h]))]

/-- A half-open circuit without an overdue probe stays. -/
theorem settle_of_idle (h : c.state = .circuitHalfOpen) (hdue : ∀ e, ¬ e ∈ c.due now) :
    c.settle o now = c := by
  rw [settle, expireProbes_of_none hdue, cool_of_ne (by simp [h]), forget_of_ne (by simp [h])]

theorem settle_expireProbes (c : Circuit) :
    (c.expireProbes o now).settle o now = c.settle o now := by
  rcases expireProbes_cases o now c with ⟨h, -⟩ | ⟨e, -, -, -, h⟩
  · rw [h]
  · rw [settle_of_open (by rw [h]; rfl), settle,
      forget_of_ne (cool_state_ne_closed (by rw [h]; simp [trip]))]

/-- Once overdue probes were noticed, no probe in flight is overdue. -/
theorem notMem_due_expireProbes (h : (c.expireProbes o now).state = .circuitHalfOpen) (e : Int) :
    ¬ e ∈ (c.expireProbes o now).due now := by
  rcases expireProbes_cases o now c with ⟨heq, hnone⟩ | ⟨_, -, -, -, heq⟩
  · rw [heq] at h ⊢
    exact hnone h e
  · rw [heq] at h
    cases h

/-- A circuit that is still half open once overdue probes were noticed has settled. -/
theorem settle_eq_expireProbes (h : (c.expireProbes o now).state = .circuitHalfOpen) :
    c.settle o now = c.expireProbes o now := by
  rw [← settle_expireProbes, settle_of_idle h (notMem_due_expireProbes h)]

theorem settle_of_earliest (hstate : c.state = .circuitHalfOpen) (hdue : e ∈ c.due now)
    (hleast : ∀ x ∈ c.due now, e ≤ x) : c.settle o now = (c.trip o e).cool o now := by
  rw [← settle_expireProbes, expireProbes_of_earliest hstate hdue hleast, settle_of_open rfl]

theorem settle_halfOpened (c : Circuit) : c.halfOpened.settle o now = c.halfOpened :=
  settle_of_idle rfl (by simp [due, halfOpened])

theorem settle_cool (h : t ≤ t') (hstate : c.state = .circuitOpen) :
    (c.cool o t).settle o t' = c.cool o t' := by
  by_cases hready : c.openedAt + o.openCooldown ≤ t
  · rw [cool, cool, if_pos ⟨hstate, hready⟩, if_pos ⟨hstate, by omega⟩, settle_halfOpened]
  · rw [cool, if_neg (fun hc => hready hc.2), settle_of_open hstate]

/-- **Settling is idempotent over time**: who has settled at `t` settles at a
    later instant to the same circuit as who has not. -/
theorem settle_settle (h : t ≤ t') (c : Circuit) : (c.settle o t).settle o t' = c.settle o t' := by
  cases hstate : c.state with
  | circuitClosed =>
    have hforget : ∀ x, c.forget o x = { c with failures := recent o x c.failures } :=
      fun x => if_pos hstate
    rw [settle_of_closed hstate, settle_of_closed hstate, hforget t, hforget t']
    rw [settle_of_closed (by exact hstate), forget, if_pos (by exact hstate)]
    simp only [recent_recent o h]
  | circuitOpen =>
    rw [settle_of_open hstate, settle_of_open hstate]
    exact settle_cool h hstate
  | circuitHalfOpen =>
    rcases expireProbes_cases o t c with ⟨-, hnone⟩ | ⟨e, -, hdue, hleast, -⟩
    · rw [settle_of_idle hstate (hnone hstate)]
    -- the earliest deadline at `t` is the earliest one at `t'` too
    have hdue' : e ∈ c.due t' := by
      rw [mem_due] at hdue ⊢
      exact ⟨hdue.1, hdue.2.trans h⟩
    have hleast' : ∀ x ∈ c.due t', e ≤ x := by
      intro x hx
      by_cases hxt : x ≤ t
      · exact hleast x (mem_due.mpr ⟨(mem_due.mp hx).1, hxt⟩)
      · have := (mem_due.mp hdue).2
        omega
    rw [settle_of_earliest hstate hdue hleast, settle_of_earliest hstate hdue' hleast']
    exact settle_cool h rfl

/-! ## Operations

    Each operation is defined on a circuit that has been settled, and the
    circuit after it is settled again by whoever looks next. -/

section Operations

variable (o now)

/-- One more probe is in flight. -/
def withProbe (id : UUID) (deadline : Int) (c : Circuit) : Circuit :=
  { c with probes := insert (id, deadline) c.probes }

/-- An attempt `id` asks to pass; a probe gets a deadline after `ttl`. -/
def acquire (id : UUID) (ttl : Int) (c : Circuit) : Circuit × Option Reason :=
  match c.state with
  | .circuitClosed => (c, none)
  | .circuitOpen => (c, some .circuitOpen)
  | .circuitHalfOpen =>
    if c.succeeded ∨ o.halfOpenMaxProbes ≤ c.probes.card then (c, some .probeCapacityExhausted)
    else (c.withProbe id (now + ttl), none)

/-- What the caller of an acquisition sees of the circuit it left. -/
def observe (c : Circuit) (reason : Option Reason) : Observation where
  reason := reason
  permit := reason.isNone && decide (c.state = .circuitHalfOpen)
  state := some c.state
  generation := c.generation
  failureCount := c.failures.card
  probesInFlight := c.probes.card

/-- A failure of a request that passed a closed circuit. -/
def fail (c : Circuit) : Circuit :=
  if o.failureThreshold ≤ (recorded o now c.failures).card then c.trip o now
  else { c with failures := recorded o now c.failures }

/-- A request that passed the closed circuit of `generation` ends. -/
def completeAttempt (generation : Int) (outcome : InferenceOutcome) (c : Circuit) : Circuit :=
  if c.state = .circuitClosed ∧ c.generation = generation ∧ outcome = .inferenceFailure then
    c.fail o now
  else c

/-- A probe ends. -/
def completeProbe (id : UUID) (outcome : InferenceOutcome) (c : Circuit) : Circuit :=
  if c.state = .circuitHalfOpen ∧ id ∈ c.probes.image Prod.fst then
    if outcome = .inferenceFailure then c.trip o now
    else
      let probes := c.probes.filter (fun probe => probe.1 ≠ id)
      let succeeded := c.succeeded || decide (outcome = .inferenceSuccess)
      if succeeded ∧ probes = ∅ then c.closed
      else { c with probes := probes, succeeded := succeeded }
  else c

/-- An attempt ends, as a probe if it was let through as one. -/
def complete (id : UUID) (generation : Int) (probe : Bool) (outcome : InferenceOutcome)
    (c : Circuit) : Circuit :=
  if probe then c.completeProbe o now id outcome
  else c.completeAttempt o now generation outcome

/-- The probes in `ids` get new deadlines. -/
def renew (ids : List UUID) (ttl : UUID → Int) (c : Circuit) : Circuit :=
  if c.state = .circuitHalfOpen then
    { c with
      probes := c.probes.image
        (fun probe => if probe.1 ∈ ids then (probe.1, now + ttl probe.1) else probe) }
  else c

end Operations

theorem acquire_closed (h : c.state = .circuitClosed) : c.acquire o now id ttl = (c, none) := by
  simp [acquire, h]

theorem acquire_open (h : c.state = .circuitOpen) :
    c.acquire o now id ttl = (c, some .circuitOpen) := by
  simp [acquire, h]

theorem acquire_full (h : c.state = .circuitHalfOpen)
    (hfull : c.succeeded = true ∨ o.halfOpenMaxProbes ≤ c.probes.card) :
    c.acquire o now id ttl = (c, some .probeCapacityExhausted) := by
  simp [acquire, h, hfull]

theorem acquire_probe (now : Int) (id : UUID) (ttl : Int) (h : c.state = .circuitHalfOpen)
    (hroom : ¬ (c.succeeded = true ∨ o.halfOpenMaxProbes ≤ c.probes.card)) :
    c.acquire o now id ttl = (c.withProbe id (now + ttl), none) := by
  simp [acquire, h, hroom]

/-! An operation that leaves open circuits and circuits without probes alone,
    and does not read failures outside the window, may run before or after
    the cooldown and the window are noticed. -/

theorem settle_op {f : Circuit → Circuit} (hopen : ∀ x, x.state = .circuitOpen → f x = x)
    (hhalf : ∀ x : Circuit, f x.halfOpened = x.halfOpened)
    (hclosed : ∀ x, x.state = .circuitClosed →
      (f (x.forget o now)).settle o now = (f x).settle o now) (c : Circuit) :
    (f (c.settle o now)).settle o now = (f (c.expireProbes o now)).settle o now := by
  have hsettle : c.settle o now = ((c.expireProbes o now).cool o now).forget o now := rfl
  rw [hsettle]
  generalize c.expireProbes o now = x
  cases hstate : x.state with
  | circuitClosed =>
    rw [cool_of_ne (by simp [hstate])]
    exact hclosed x hstate
  | circuitOpen =>
    have hcool : f (x.cool o now) = x.cool o now := by
      unfold cool
      split
      · exact hhalf x
      · exact hopen x hstate
    rw [forget_of_ne (cool_state_ne_closed (by simp [hstate])), hcool, hopen x hstate,
      settle_of_open hstate]
    exact settle_cool (le_refl now) hstate
  | circuitHalfOpen =>
    rw [cool_of_ne (by simp [hstate]), forget_of_ne (by simp [hstate])]

theorem settle_forget (h : c.state = .circuitClosed) :
    (c.forget o now).settle o now = c.settle o now := by
  rw [← settle_of_closed h]
  exact settle_settle (le_refl now) c

theorem fail_forget (h : c.state = .circuitClosed) :
    (c.forget o now).fail o now = c.fail o now := by
  obtain ⟨hlatest, hrecorded⟩ := recorded_recent o now c.failures
  rw [forget, if_pos h]
  simp only [fail, trip, hlatest, hrecorded]

theorem settle_completeAttempt (generation : Int) (outcome : InferenceOutcome) (c : Circuit) :
    ((c.settle o now).completeAttempt o now generation outcome).settle o now
      = ((c.expireProbes o now).completeAttempt o now generation outcome).settle o now := by
  refine settle_op (f := completeAttempt o now generation outcome) ?_ ?_ ?_ c
  · exact fun x hx => if_neg (fun hc => by simp [hx] at hc)
  · exact fun x => if_neg (fun hc => by simp [halfOpened] at hc)
  intro x hx
  unfold completeAttempt
  rw [(forget_fields o now x).1, (forget_fields o now x).2]
  split
  · rw [fail_forget hx]
  · exact settle_forget hx

theorem settle_completeProbe (id : UUID) (outcome : InferenceOutcome) (c : Circuit) :
    ((c.settle o now).completeProbe o now id outcome).settle o now
      = ((c.expireProbes o now).completeProbe o now id outcome).settle o now := by
  refine settle_op (f := completeProbe o now id outcome) ?_ ?_ ?_ c
  · exact fun x hx => if_neg (fun hc => by simp [hx] at hc)
  · exact fun x => if_neg (fun hc => by simp [halfOpened] at hc)
  intro x hx
  have hsame := (forget_fields o now x).1
  unfold completeProbe
  rw [if_neg (fun hc => by simp [hsame, hx] at hc), if_neg (fun hc => by simp [hx] at hc)]
  exact settle_forget hx

theorem settle_complete (id : UUID) (generation : Int) (probe : Bool) (outcome : InferenceOutcome)
    (c : Circuit) :
    ((c.settle o now).complete o now id generation probe outcome).settle o now
      = ((c.expireProbes o now).complete o now id generation probe outcome).settle o now := by
  cases probe with
  | false => exact settle_completeAttempt generation outcome c
  | true => exact settle_completeProbe id outcome c

theorem complete_of_notMem {generation : Int} {outcome : InferenceOutcome}
    (h : ∀ deadline, (id, deadline) ∉ c.probes) :
    c.complete o now id generation true outcome = c := by
  simp only [complete, if_true, completeProbe]
  apply if_neg
  rintro ⟨-, hid⟩
  obtain ⟨⟨id', deadline⟩, hmem, rfl⟩ := Finset.mem_image.mp hid
  exact h deadline hmem

theorem settle_renew (ids : List UUID) (ttl : UUID → Int) (c : Circuit) :
    ((c.settle o now).renew now ids ttl).settle o now
      = ((c.expireProbes o now).renew now ids ttl).settle o now := by
  refine settle_op (f := renew now ids ttl) ?_ ?_ ?_ c
  · exact fun x hx => if_neg (by simp [hx])
  · intro x
    simp [renew, halfOpened]
  intro x hx
  have hsame := (forget_fields o now x).1
  rw [renew, renew, if_neg (by simp [hsame, hx]), if_neg (by simp [hx])]
  exact settle_forget hx

theorem renew_renew (now : Int) (ids ids' : List UUID) (ttl : UUID → Int) (c : Circuit) :
    (c.renew now ids ttl).renew now ids' ttl = c.renew now (ids ++ ids') ttl := by
  by_cases hstate : c.state = .circuitHalfOpen
  · rw [renew, renew, renew, if_pos hstate, if_pos (by exact hstate), if_pos hstate]
    simp only [Finset.image_image]
    congr 2
    funext x
    by_cases h : x.1 ∈ ids <;> by_cases h' : x.1 ∈ ids' <;> simp [h, h']
  · rw [renew, renew, renew, if_neg hstate, if_neg hstate, if_neg hstate]

/-- Only which probes are renewed matters. -/
theorem renew_congr {ids ids' : List UUID} (h : ∀ id, id ∈ ids ↔ id ∈ ids') (now : Int)
    (ttl : UUID → Int) (c : Circuit) : c.renew now ids ttl = c.renew now ids' ttl := by
  unfold renew
  simp only [h]

theorem renew_of_notMem (now : Int) (ttl : UUID → Int) (h : ∀ deadline, (id, deadline) ∉ c.probes) :
    c.renew now [id] ttl = c := by
  unfold renew
  split
  · have hid : c.probes.image
        (fun probe => if probe.1 ∈ [id] then (probe.1, now + ttl probe.1) else probe)
        = c.probes := by
      conv_rhs => rw [← Finset.image_id (s := c.probes)]
      apply Finset.image_congr
      rintro ⟨id', deadline⟩ hmem
      have hne : id' ≠ id := by
        rintro rfl
        exact h deadline hmem
      simp [hne]
    rw [hid]
  · rfl

/-- Who cools down and forgets early settles to the same circuit. -/
theorem settle_cool_forget (c : Circuit) :
    ((c.cool o now).forget o now).settle o now = c.settle o now := by
  cases hstate : c.state with
  | circuitClosed =>
    rw [cool_of_ne (by simp [hstate])]
    exact settle_forget hstate
  | circuitOpen =>
    rw [forget_of_ne (cool_state_ne_closed (by simp [hstate])),
      settle_cool (le_refl now) hstate, settle_of_open hstate]
  | circuitHalfOpen =>
    rw [cool_of_ne (by simp [hstate]), forget_of_ne (by simp [hstate])]

end Circuit

end Coordination
