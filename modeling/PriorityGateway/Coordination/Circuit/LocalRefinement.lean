import PriorityGateway.Coordination.Circuit.Abstract
import PriorityGateway.Coordination.Circuit.Local

/-! # The Local Coordinator Refines the Abstract Circuit

    A breaker together with the attempts that hold a live permit of its
    generation stands for an abstract circuit (`circuitOf`).  This module says
    what the passing of time and the end of an attempt do to that circuit; the
    calls are in the next one.

    The loop of `expire` is where the two look least alike: it replays the
    overdue permits one by one through the breaker.  Only the first one that
    belongs to the current generation has an effect, and the queue order makes
    it the earliest deadline (`Sound.permitRound`). -/

namespace Coordination

open CircuitBreaker (Options Breaker latestFailure recordFailure transitionOpenToHalfOpen
  enterOpen probeReturned Advances refreshed pruneFailures)
open Circuit (latest recent recorded mem_due)

/-! ## Breakers -/

/-- The circuit that a breaker and the deadlines of its probes stand for. -/
def Circuit.ofBreaker (b : Breaker) (probes : Finset (UUID × Int)) : Circuit where
  state := b.state
  generation := b.generation
  failures := (b.failures : Multiset Int)
  openedAt := if b.state = .circuitOpen then b.openedAt else 0
  probes := if b.state = .circuitHalfOpen then probes else ∅
  succeeded := decide (b.state = .circuitHalfOpen) && b.halfOpenSucceeded

namespace Circuit

variable {o : Options} {b : Breaker} {now : Int} {probes probes' : Finset (UUID × Int)}

theorem coe_pruneFailures (o : Options) (b : Breaker) (now : Int) :
    ((pruneFailures o b now).failures : Multiset Int)
      = recent o now b.failures := by
  congr 1
  apply List.filter_congr
  intro failure _
  rw [← decide_not, decide_eq_decide]
  omega

theorem latestFailure_eq (t : Int) (failures : List Int) :
    latestFailure t failures = latest t failures := by
  have hmax : (fun latest failure : Int => if latest < failure then failure else latest)
      = max := by
    funext x y
    rw [max_def]
    split <;> split <;> omega
  rw [latestFailure, hmax, latest, Multiset.coe_fold_l]

theorem recordFailure_latest (o : Options) (b : Breaker) (t : Int) :
    (recordFailure o b t).2 = latest t b.failures := by
  unfold recordFailure
  cases b.failures with
  | nil => simp [latestFailure, latest]
  | cons f failures =>
    simp only [List.cons_append, List.headD_cons, List.tail_cons, latestFailure_eq, latest]
    rw [← Multiset.coe_add, Multiset.coe_singleton, Multiset.add_comm, Multiset.singleton_add,
      ← Multiset.cons_coe, Multiset.fold_cons'_right, Multiset.fold_cons'_right, max_comm]

theorem coe_recordFailure (o : Options) (b : Breaker) (t : Int) :
    ((recordFailure o b t).1.failures : Multiset Int)
      = recorded o t b.failures := by
  have hlatest := recordFailure_latest o b t
  unfold recordFailure at hlatest ⊢
  simp only at hlatest ⊢
  rw [coe_pruneFailures, hlatest, recorded]
  congr 1
  rw [← Multiset.coe_add, Multiset.coe_singleton, Multiset.add_comm, Multiset.singleton_add]

theorem ofBreaker_congr (h : b.state = .circuitHalfOpen → probes' = probes) :
    ofBreaker b probes' = ofBreaker b probes := by
  by_cases hstate : b.state = .circuitHalfOpen
  · rw [h hstate]
  · simp [ofBreaker, hstate]

/-- A breaker after `Snapshot` has cooled down and forgotten. -/
theorem ofBreaker_refreshed (hopen : b.state = .circuitOpen → probes' = ∅)
    (hhalf : b.state = .circuitHalfOpen → probes' = probes) :
    ofBreaker (refreshed o b now) probes'
      = ((ofBreaker b probes).cool o now).forget o now := by
  cases hstate : b.state with
  | circuitClosed =>
    rw [cool_of_ne (by simp [ofBreaker, hstate]), forget, if_pos (by exact hstate)]
    have hprune := coe_pruneFailures o b now
    simp only [ofBreaker, refreshed, transitionOpenToHalfOpen,
      hstate, ne_eq, reduceCtorEq, not_false_eq_true, true_or, if_true, if_false, hprune]
    simp [pruneFailures, hstate]
  | circuitOpen =>
    rw [forget_of_ne (cool_state_ne_closed (by simp [ofBreaker, hstate]))]
    by_cases hready : b.openedAt + o.openCooldown ≤ now
    · simp [refreshed, transitionOpenToHalfOpen, hstate, ofBreaker,
        cool, hready, halfOpened, hopen hstate, not_lt.mpr hready]
    · simp [refreshed, transitionOpenToHalfOpen, hstate, ofBreaker,
        cool, hready, not_le.mp hready]
  | circuitHalfOpen =>
    rw [cool_of_ne (by simp [ofBreaker, hstate]), forget_of_ne (by simp [ofBreaker, hstate])]
    simp [refreshed, transitionOpenToHalfOpen, hstate, ofBreaker,
      hhalf hstate]

theorem ofBreaker_tripped (t : Int) (probes probes' : Finset (UUID × Int)) :
    ofBreaker (enterOpen (recordFailure o b t).1
        (recordFailure o b t).2) probes'
      = (ofBreaker b probes).trip o t := by
  have hfailures := coe_recordFailure o b t
  have hlatest := recordFailure_latest o b t
  simp only [ofBreaker, enterOpen, trip, hfailures, hlatest]
  simp [recordFailure, pruneFailures]

/-- The end of a request that passed a closed breaker. -/
theorem ofBreaker_completeAttempt (hhalf : b.state = .circuitHalfOpen → probes' = probes)
    (generation : Nat) (outcome : InferenceOutcome) (t : Int) :
    ofBreaker (CircuitBreaker.complete o b ⟨generation, false⟩ outcome t) probes'
      = (ofBreaker b probes).completeAttempt o t generation outcome := by
  unfold completeAttempt
  by_cases happly : b.state = .circuitClosed ∧ b.generation = generation ∧
      outcome = .inferenceFailure
  · obtain ⟨hstate, rfl, rfl⟩ := happly
    have hcard : (recordFailure o b t).1.failures.length
        = (recorded o t b.failures).card := by
      rw [← coe_recordFailure, Multiset.coe_card]
    rw [if_pos ⟨hstate, rfl, rfl⟩, CircuitBreaker.complete_failed hstate, hcard]
    show _ = if o.failureThreshold ≤ ((recorded o t b.failures).card : Int) then _ else _
    split
    · exact ofBreaker_tripped t probes probes'
    · simp only [ofBreaker, coe_recordFailure]
      simp [recordFailure, pruneFailures, hstate]
  · rw [CircuitBreaker.complete_ignored happly,
      if_neg (fun h => happly ⟨h.1, Int.ofNat.inj h.2.1, h.2.2⟩)]
    exact ofBreaker_congr hhalf

/-- The end of a probe of the current generation. -/
theorem ofBreaker_completeProbe {id : UUID} {deadline : Int} (hstate : b.state = .circuitHalfOpen)
    (hcount : b.probesInFlight = probes.card) (hmem : (id, deadline) ∈ probes)
    (hunique : ∀ e, (id, e) ∈ probes → e = deadline) (outcome : InferenceOutcome) (t : Int)
    (hprobes : probes' = probes.filter (fun probe => probe.1 ≠ id)) :
    ofBreaker (CircuitBreaker.complete o b ⟨b.generation, true⟩ outcome t) probes'
      = (ofBreaker b probes).completeProbe o t id outcome := by
  have hin : (ofBreaker b probes).probes = probes := by simp [ofBreaker, hstate]
  have hid : id ∈ probes.image Prod.fst := Finset.mem_image.mpr ⟨(id, deadline), hmem, rfl⟩
  rw [completeProbe, hin, if_pos ⟨hstate, hid⟩]
  by_cases hfail : outcome = .inferenceFailure
  · rw [if_pos hfail, hfail, CircuitBreaker.complete_probe_failed hstate]
    exact ofBreaker_tripped t probes probes'
  -- the counter reaches zero when the last deadline goes
  have hnone : (probeReturned b outcome).probesInFlight = 0 ↔ probes' = ∅ := by
    have := Table.card_filter_ne hmem hunique
    rw [← hprobes] at this
    rw [← Finset.card_eq_zero]
    simp only [probeReturned]
    omega
  have hsucceeded : (probeReturned b outcome).halfOpenSucceeded
      = ((ofBreaker b probes).succeeded || decide (outcome = .inferenceSuccess)) := by
    simp [probeReturned, ofBreaker, hstate]
  rw [if_neg hfail, CircuitBreaker.complete_probe hstate hfail]
  simp only [hnone, hsucceeded, ← hprobes]
  split
  · simp [ofBreaker, CircuitBreaker.enterClosed, closed, probeReturned]
  · simp [ofBreaker, probeReturned, hstate]

end Circuit

namespace LocalCircuit

/-! ## Attempts -/

/-- The deadline of an attempt that holds a live permit of a generation. -/
def liveDeadline (generation : Nat) (_ : UUID) (a : CircuitAttempt) : Option Int :=
  if a.terminal ∨ a.complete.generation ≠ generation then none
  else a.permit.map ProbeIdentity.expiresAt

def livePermits (b : Breaker) (attempts : Table UUID CircuitAttempt) : Finset (UUID × Int) :=
  Table.project (liveDeadline b.generation) attempts

/-- The circuit that a breaker and the recorded attempts stand for. -/
def circuitOf (b : Breaker) (attempts : Table UUID CircuitAttempt) : Circuit :=
  .ofBreaker b (livePermits b attempts)

variable {a a' : CircuitAttempt} {id : UUID} {attempts t t' : Table UUID CircuitAttempt}
  {b' : Breaker} {queue : ExpiryQueue} {now e : Int} {s' : CircuitCoordinator}

theorem liveDeadline_eq_some {generation : Nat} :
    liveDeadline generation id a = some e ↔
      a.terminal = false ∧ a.complete.generation = generation ∧
        ∃ p, a.permit = some p ∧ p.expiresAt = e := by
  unfold liveDeadline
  split
  · next h => simp only [reduceCtorEq, false_iff]; grind
  · next h =>
    rw [not_or, not_not] at h
    simp [h]

variable {b : Breaker} {be : BackendIdentity}

theorem mem_livePermits :
    (id, e) ∈ livePermits b attempts ↔
      ∃ a p, attempts.lookup id = some a ∧ a.terminal = false ∧
        a.complete.generation = b.generation ∧ a.permit = some p ∧ p.expiresAt = e := by
  unfold livePermits
  rw [Table.mem_project]
  constructor
  · rintro ⟨a, ha, he⟩
    obtain ⟨hlive, hgen, p, hp, rfl⟩ := liveDeadline_eq_some.mp he
    exact ⟨a, p, ha, hlive, hgen, hp, rfl⟩
  · rintro ⟨a, p, ha, hlive, hgen, hp, rfl⟩
    exact ⟨a, ha, liveDeadline_eq_some.mpr ⟨hlive, hgen, p, hp, rfl⟩⟩

theorem livePermits_congr (h : b'.generation = b.generation)
    (attempts : Table UUID CircuitAttempt) : livePermits b' attempts = livePermits b attempts := by
  rw [livePermits, livePermits, h]

theorem mem_livePermits_insert {id' : UUID} :
    (id', e) ∈ livePermits b (attempts.insert id a) ↔
      if id' = id then liveDeadline b.generation id a = some e
      else (id', e) ∈ livePermits b attempts :=
  Table.mem_project_insert

/-- An attempt that is over, of another generation or without a permit has no deadline. -/
theorem notMem_livePermits
    (h : ∀ a, attempts.lookup id = some a → liveDeadline b.generation id a = none) (e : Int) :
    (id, e) ∉ livePermits b attempts := by
  intro hmem
  obtain ⟨a, ha, he⟩ := Table.mem_project.mp hmem
  simp [h a ha] at he

theorem notMem_livePermits_of (ha : attempts.lookup id = some a)
    (h : liveDeadline b.generation id a = none) (e : Int) : (id, e) ∉ livePermits b attempts := by
  refine notMem_livePermits (fun a' ha' => ?_) e
  rw [ha] at ha'
  cases ha'
  exact h

theorem livePermits_retire (h : a.terminal = true) :
    livePermits b (attempts.insert id a)
      = (livePermits b attempts).filter (fun probe => probe.1 ≠ id) := by
  ext ⟨id', e⟩
  rw [Finset.mem_filter, mem_livePermits_insert]
  split
  · next hid => simp [hid, liveDeadline, h]
  · next hid => simp [hid]

theorem livePermits_erase (ha : attempts.lookup id = some a) (h : a.terminal = true) :
    livePermits b (attempts.erase id) = livePermits b attempts := by
  ext ⟨id', e⟩
  rw [livePermits, livePermits, Table.mem_project, Table.mem_project]
  rw [Table.lookup_erase_eq]
  split
  · next hid =>
    subst hid
    simp [ha, liveDeadline, h]
  · rfl

/-- What holds of every attempt of the backend `be` with breaker `b`. -/
structure AttemptSound (be : BackendIdentity) (b : Breaker) (queue : ExpiryQueue) (id : UUID)
    (a : CircuitAttempt) : Prop where
  backend : a.backend = be
  generation : a.generation = a.complete.generation
  probe : a.complete.probe = a.permit.isSome
  permit : ∀ p, a.permit = some p → p.generation = a.generation
  old : a.complete.generation ≤ b.generation
  current : a.complete.generation = b.generation →
    b.state = if a.permit.isSome then .circuitHalfOpen else .circuitClosed
  queued : ∀ p, a.terminal = false → a.permit = some p →
    (⟨p.expiresAt, id, .circuitPermitExpiry⟩ : ExpiryEntry) ∈ queue

theorem AttemptSound.advance (h : AttemptSound be b queue id a)
    (hb : Advances b b') : AttemptSound be b' queue id a := by
  refine { h with old := h.old.trans hb.generation, current := fun hgen => ?_ }
  have hold := h.old
  have hle := hb.generation
  rw [hb.state (by omega)]
  exact h.current (by omega)

/-- What an attempt keeps from its acquisition on. -/
structure SameOrigin (a a' : CircuitAttempt) : Prop where
  backend : a'.backend = a.backend
  generation : a'.generation = a.generation
  complete : a'.complete = a.complete
  permit : a'.permit = a.permit

theorem AttemptSound.ended {queue' : ExpiryQueue} (h : AttemptSound be b queue id a)
    (hsame : SameOrigin a a') (hended : a'.terminal = true) : AttemptSound be b queue' id a' where
  backend := hsame.backend.trans h.backend
  generation := by rw [hsame.generation, hsame.complete]; exact h.generation
  probe := by rw [hsame.complete, hsame.permit]; exact h.probe
  permit := by rw [hsame.generation, hsame.permit]; exact h.permit
  old := by rw [hsame.complete]; exact h.old
  current := by rw [hsame.complete, hsame.permit]; exact h.current
  queued := fun p hlive => by simp [hended] at hlive

/-- What holds of a coordinator whose only backend is `be`. -/
structure Sound (be : BackendIdentity) (b : Breaker) (s : CircuitCoordinator) : Prop where
  entry : s.circuits.lookup be.id = some ⟨be, b⟩
  attempt : ∀ id a, s.attempts.lookup id = some a → AttemptSound be b s.expiries id a
  inFlight : b.probesInFlight = (livePermits b s.attempts).card

/-- An attempt without a live permit of the current generation has no deadline. -/
theorem filter_livePermits (h : ∀ e, (id, e) ∉ livePermits b attempts) :
    (livePermits b attempts).filter (fun probe => probe.1 ≠ id) = livePermits b attempts := by
  rw [Finset.filter_eq_self]
  rintro ⟨id', e⟩ hmem rfl
  exact h e hmem

/-! ## One attempt ends -/

variable {o : Options} {be : BackendIdentity} {b : Breaker} {s : CircuitCoordinator}

/-- Outside the half-open state no attempt has a live permit of the generation. -/
theorem Sound.livePermits_empty (h : Sound be b s) (hstate : b.state ≠ .circuitHalfOpen) :
    livePermits b s.attempts = ∅ := by
  rw [Finset.eq_empty_iff_forall_notMem]
  rintro ⟨id, e⟩ hmem
  obtain ⟨a, p, ha, -, hgen, hp, -⟩ := mem_livePermits.mp hmem
  have := (h.attempt id a ha).current hgen
  simp only [hp, Option.isSome_some, if_true] at this
  exact hstate this

/-- No attempt has a permit of a generation to come. -/
theorem Sound.livePermits_later (h : Sound be b s) (hgen : b.generation < b'.generation) :
    livePermits b' s.attempts = ∅ := by
  rw [Finset.eq_empty_iff_forall_notMem]
  rintro ⟨id, e⟩ hmem
  obtain ⟨a, p, ha, -, hgen', -, -⟩ := mem_livePermits.mp hmem
  have := (h.attempt id a ha).old
  omega

theorem AttemptSound.complete_eq (h : AttemptSound be b queue id a) :
    a.complete = ⟨a.complete.generation, a.permit.isSome⟩ := by
  rw [← h.probe]

/-- The coordinator with another breaker for `be`. -/
def setBreaker (be : BackendIdentity) (b : Breaker) (s : CircuitCoordinator) :
    CircuitCoordinator :=
  { s with circuits := s.circuits.insert be.id ⟨be, b⟩ }

theorem setBreaker_setBreaker (be : BackendIdentity) (b b' : Breaker) (s : CircuitCoordinator) :
    setBreaker be b' (setBreaker be b s) = setBreaker be b' s := by
  simp [setBreaker, AList.insert_insert]

section

variable (h : Sound be b s) (ha : s.attempts.lookup id = some a)
include h ha

theorem Sound.runCompletion_eq (outcome : InferenceOutcome) (t : Int) :
    runCompletion o s a outcome t
      = setBreaker be (CircuitBreaker.complete o b a.complete outcome t) s := by
  unfold runCompletion
  rw [(h.attempt id a ha).backend, h.entry]
  rfl

/-- The deadlines after an attempt has ended, in the breaker it left. -/
theorem Sound.livePermits_complete
    (hlive : a.terminal = false) (ha' : a'.terminal = true) (outcome : InferenceOutcome) (t : Int) :
    ((CircuitBreaker.complete o b a.complete outcome t).state = .circuitHalfOpen →
      livePermits (CircuitBreaker.complete o b a.complete outcome t) (s.attempts.insert id a')
        = (livePermits b s.attempts).filter (fun probe => probe.1 ≠ id)) ∧
      (CircuitBreaker.complete o b a.complete outcome t).probesInFlight
        = (livePermits (CircuitBreaker.complete o b a.complete outcome t)
            (s.attempts.insert id a')).card := by
  have hsound := h.attempt id a ha
  rw [livePermits_retire ha']
  rcases CircuitBreaker.complete_cases o b a.complete outcome t with
    ⟨hgen, -, hcount⟩ | ⟨hgen, hstate, hcount⟩
  · rw [livePermits_congr hgen]
    refine ⟨fun _ => rfl, ?_⟩
    rw [hcount, h.inFlight]
    by_cases hprobe : a.complete.generation = b.generation ∧ a.permit.isSome = true
    · obtain ⟨hcurrent, hsome⟩ := hprobe
      obtain ⟨p, hp⟩ := Option.isSome_iff_exists.mp hsome
      have hmem : (id, p.expiresAt) ∈ livePermits b s.attempts :=
        mem_livePermits.mpr ⟨a, p, ha, hlive, hcurrent, hp, rfl⟩
      have hhalf := hsound.current hcurrent
      rw [hsome] at hhalf
      have := Table.card_filter_ne hmem (fun e he => Table.project_unique he hmem)
      rw [if_pos ⟨by rw [hsound.complete_eq, hcurrent, hsome], hhalf⟩]
      omega
    · -- the attempt holds no probe of this generation
      rw [if_neg, filter_livePermits]
      · refine notMem_livePermits_of ha (Option.eq_none_iff_forall_ne_some.mpr fun e he => ?_)
        obtain ⟨-, hgen', p, hp, -⟩ := liveDeadline_eq_some.mp he
        exact hprobe ⟨hgen', by rw [hp]; rfl⟩
      · rintro ⟨heq, -⟩
        have hp := hsound.probe
        rw [heq] at hp
        exact hprobe ⟨by rw [heq], hp.symm⟩
  · rw [h.livePermits_later (by omega), hcount]
    exact ⟨fun hhalf => absurd hhalf hstate, rfl⟩

/-- The completion of a live attempt is the abstract completion. -/
theorem Sound.circuitOf_complete
    (hlive : a.terminal = false) (ha' : a'.terminal = true) (outcome : InferenceOutcome) (t : Int) :
    circuitOf (CircuitBreaker.complete o b a.complete outcome t) (s.attempts.insert id a')
      = (circuitOf b s.attempts).complete o t id a.generation a.permit.isSome outcome := by
  have hsound := h.attempt id a ha
  have hcongr := Circuit.ofBreaker_congr
    (fun hhalf : (CircuitBreaker.complete o b a.complete outcome t).state = .circuitHalfOpen =>
      (h.livePermits_complete ha hlive ha' outcome t).1 hhalf)
  rw [circuitOf, hcongr, Circuit.complete, circuitOf]
  rcases hp : a.permit with _ | p
  · have hfalse : a.complete = ⟨a.complete.generation, false⟩ := by
      rw [← Option.isSome_none (α := ProbeIdentity), ← hp, ← hsound.probe]
    simp only [Option.isSome_none, Bool.false_eq_true, if_false, hsound.generation]
    conv_lhs => rw [hfalse]
    apply Circuit.ofBreaker_completeAttempt
    intro _
    exact filter_livePermits (notMem_livePermits_of ha (by simp [liveDeadline, hp]))
  simp only [Option.isSome_some, if_true]
  by_cases hcurrent : a.complete.generation = b.generation
  · have hstate : b.state = .circuitHalfOpen := by simpa [hp] using hsound.current hcurrent
    have hmem : (id, p.expiresAt) ∈ livePermits b s.attempts :=
      mem_livePermits.mpr ⟨a, p, ha, hlive, hcurrent, hp, rfl⟩
    have htrue : a.complete = ⟨b.generation, true⟩ := by
      rw [hsound.complete_eq, hcurrent, hp, Option.isSome_some]
    rw [htrue]
    exact Circuit.ofBreaker_completeProbe hstate h.inFlight hmem
      (fun e he => Table.project_unique he hmem) outcome t rfl
  · -- a probe of an earlier generation is ignored by the breaker and has no deadline
    have hnone : ∀ e, (id, e) ∉ livePermits b s.attempts :=
      notMem_livePermits_of ha (if_pos (.inr hcurrent))
    rw [CircuitBreaker.complete_of_ne hcurrent, filter_livePermits hnone,
      Circuit.completeProbe, if_neg]
    rintro ⟨hstate, hid⟩
    have hstate' : b.state = .circuitHalfOpen := hstate
    obtain ⟨⟨id', e⟩, hmem, rfl⟩ := Finset.mem_image.mp hid
    simp only [Circuit.ofBreaker, hstate', if_true] at hmem
    exact hnone e hmem

/-- **One attempt ends**: its completion runs and it becomes terminal. -/
theorem Sound.finish (hlive : a.terminal = false) (hsame : SameOrigin a a')
    (outcome : InferenceOutcome) (t retainUntil : Int) :
    Sound be (CircuitBreaker.complete o b a.complete outcome t)
        (retire (runCompletion o s a outcome t) id a' retainUntil) ∧
      circuitOf (CircuitBreaker.complete o b a.complete outcome t)
          (retire (runCompletion o s a outcome t) id a' retainUntil).attempts
        = (circuitOf b s.attempts).complete o t id a.generation a.permit.isSome outcome := by
  have hsound := h.attempt id a ha
  have hadv := CircuitBreaker.complete_advances o b a.complete outcome t
  rw [h.runCompletion_eq ha]
  constructor
  · constructor
    · exact AList.lookup_insert _
    · refine Table.forall_insert ?_ fun id' a'' ha'' => (h.attempt id' a'' ha'').advance hadv
      exact (hsound.advance hadv).ended
        ⟨hsame.backend, hsame.generation, hsame.complete, hsame.permit⟩ rfl
    · have hended : ({ a' with terminal := true, retainUntil := retainUntil } :
          CircuitAttempt).terminal = true := rfl
      exact (h.livePermits_complete ha hlive hended outcome t).2
  · exact h.circuitOf_complete ha hlive rfl outcome t

end

/-! ## Expiry -/

/-- An attempt after some time: a probe may have got another deadline or have
    become terminal. -/
structure Older (a a' : CircuitAttempt) : Prop where
  generation : a'.generation = a.generation
  permit : a'.permit.isSome = a.permit.isSome
  ttl : a'.ttl = a.ttl
  completion : a'.completion = a.completion
  terminal : a'.terminal = a.terminal ∨ (a.permit.isSome = true ∧ a'.terminal = true)

theorem Older.refl (a : CircuitAttempt) : Older a a := ⟨rfl, rfl, rfl, rfl, Or.inl rfl⟩

theorem Older.trans {a'' : CircuitAttempt} (h : Older a a') (h' : Older a' a'') : Older a a'' where
  generation := h'.generation.trans h.generation
  permit := h'.permit.trans h.permit
  ttl := h'.ttl.trans h.ttl
  completion := h'.completion.trans h.completion
  terminal := by
    have hp := h.permit
    rcases h.terminal with ht | ht <;> rcases h'.terminal with ht' | ht' <;> simp_all

/-- The attempts after some time: terminal ones and probes may have gone. -/
structure Ages (t t' : Table UUID CircuitAttempt) : Prop where
  kept : ∀ id a', t'.lookup id = some a' → ∃ a, t.lookup id = some a ∧ Older a a'
  gone : ∀ id a, t.lookup id = some a → t'.lookup id = none →
    a.terminal = true ∨ a.permit.isSome = true

theorem Ages.refl (t : Table UUID CircuitAttempt) : Ages t t :=
  ⟨fun _ a ha => ⟨a, ha, .refl a⟩, fun _ _ ha hnone => by simp [ha] at hnone⟩

theorem Ages.trans {t'' : Table UUID CircuitAttempt} (h : Ages t t') (h' : Ages t' t'') :
    Ages t t'' := by
  constructor
  · intro id a'' ha''
    obtain ⟨a', ha', hold'⟩ := h'.kept id a'' ha''
    obtain ⟨a, ha, hold⟩ := h.kept id a' ha'
    exact ⟨a, ha, hold.trans hold'⟩
  intro id a ha hnone
  rcases ha' : t'.lookup id with _ | a'
  · exact h.gone id a ha ha'
  obtain ⟨a₀, ha₀, hold⟩ := h.kept id a' ha'
  rw [ha] at ha₀
  cases ha₀
  have hgone := h'.gone id a' ha' hnone
  rw [hold.permit] at hgone
  rcases hgone with hgone | hgone
  · rcases hold.terminal with heq | ⟨hp, -⟩
    · exact Or.inl (heq ▸ hgone)
    · exact Or.inr hp
  · exact Or.inr hgone

theorem Ages.lookup_none (h : Ages t t') (hnone : t.lookup id = none) : t'.lookup id = none := by
  cases ha' : t'.lookup id with
  | none => rfl
  | some a' =>
    obtain ⟨a, ha, -⟩ := h.kept id a' ha'
    simp [hnone] at ha

theorem Ages.size_le (h : Ages t t') : Table.size t' ≤ Table.size t := by
  have := Table.count_le_count (p := fun _ _ => true) (q := fun _ _ => true) (t := t') (u := t)
    (fun id a' ha' _ => let ⟨a, ha, _⟩ := h.kept id a' ha'; ⟨a, ha, rfl⟩)
  simpa [Table.count, Table.size] using this

theorem Ages.insert (ha : t.lookup id = some a) (hold : Older a a') : Ages t (t.insert id a') := by
  constructor
  · intro id' a'' ha''
    rcases Table.lookup_insert_cases ha'' with ⟨rfl, rfl⟩ | ⟨-, ha''⟩
    · exact ⟨a, ha, hold⟩
    · exact ⟨a'', ha'', .refl a''⟩
  · intro id' a'' ha'' hnone
    rw [Table.lookup_insert_eq] at hnone
    split at hnone
    · cases hnone
    · simp [ha''] at hnone

theorem Ages.retire (ha : t.lookup id = some a) (hp : a.permit.isSome = true) (r : Int) :
    Ages t (t.insert id { a with terminal := true, retainUntil := r }) :=
  .insert ha ⟨rfl, rfl, rfl, rfl, .inr ⟨hp, rfl⟩⟩

theorem Ages.erase (ha : t.lookup id = some a) (hended : a.terminal = true) : Ages t
    (t.erase id) := by
  constructor
  · intro id' a' ha'
    exact ⟨a', (Table.lookup_of_erase ha').2, .refl a'⟩
  intro id' a' ha' hnone
  rw [Table.lookup_erase_eq] at hnone
  split at hnone
  · next heq =>
    subst heq
    rw [ha] at ha'
    cases ha'
    exact Or.inl hended
  · simp [ha'] at hnone

/-- A due permit entry is stale, or it ends the attempt whose deadline it is. -/
theorem expirePermitEntry_cases (o : Options) (s : CircuitCoordinator) (now : Int)
    (expiry : ExpiryEntry) (hdue : expiry.at' ≤ now) :
    (expirePermitEntry o s now expiry = s ∧
      ∀ a p, s.attempts.lookup expiry.id = some a → a.terminal = false → a.permit = some p →
        expiry ≠ ⟨p.expiresAt, expiry.id, .circuitPermitExpiry⟩) ∨
    ∃ a p, s.attempts.lookup expiry.id = some a ∧ a.terminal = false ∧ a.permit = some p ∧
      p.expiresAt = expiry.at' ∧
      expirePermitEntry o s now expiry =
        retire (runCompletion o s a .inferenceFailure p.expiresAt) expiry.id a
          (circuitRetentionBoundary now [a.acquiredAt, p.expiresAt]) := by
  obtain ⟨at', id, kind⟩ := expiry
  unfold expirePermitEntry
  rcases ha : s.attempts.lookup id with _ | a
  · exact Or.inl ⟨rfl, fun _ _ => nofun⟩
  rcases hp : a.permit with _ | permit
  · refine Or.inl ⟨by cases kind <;> simp [hp], fun a' p h _ hp' => ?_⟩
    cases h
    simp [hp] at hp'
  by_cases hkind : kind = .circuitPermitExpiry
  · subst hkind
    simp only [hp]
    split
    · next hstale =>
      refine Or.inl ⟨rfl, fun a' p h hlive hp' heq => ?_⟩
      cases h
      rw [hp] at hp'
      cases hp'
      simp only [ExpiryEntry.mk.injEq] at heq hdue
      rcases hstale with hstale | hstale | hstale
      · simp [hlive] at hstale
      · exact hstale heq.1.symm
      · omega
    · next hlive =>
      rw [not_or, not_or, not_not] at hlive
      exact Or.inr ⟨a, permit, rfl, by simpa using hlive.1, hp, hlive.2.1, rfl⟩
  · refine Or.inl ⟨by cases kind <;> simp_all, fun a' p _ _ _ heq => ?_⟩
    simp only [ExpiryEntry.mk.injEq] at heq
    exact hkind heq.2.2

theorem expirePermitEntry_expiries (o : Options) (s : CircuitCoordinator) (queue : ExpiryQueue)
    (now : Int) (expiry : ExpiryEntry) :
    expirePermitEntry o { s with expiries := queue } now expiry
      = { expirePermitEntry o s now expiry with expiries := queue } := by
  unfold expirePermitEntry
  dsimp only
  split
  · rfl
  split
  · split
    · rfl
    · unfold runCompletion retire
      dsimp only
      split <;> rfl
  · rfl

section

variable (h : Sound be b s)

include h

/-- An entry may leave the queue when it is not the deadline of a live attempt. -/
theorem Sound.dequeue {expiry : ExpiryEntry} (hpop : ∀ e, e ∈ s.expiries → e = expiry ∨ e ∈ queue)
    (hstale : ∀ a p, s.attempts.lookup expiry.id = some a → a.terminal = false →
      a.permit = some p → expiry ≠ ⟨p.expiresAt, expiry.id, .circuitPermitExpiry⟩) :
    Sound be b { s with expiries := queue } := by
  refine { h with attempt := fun id a ha => { h.attempt id a ha with queued := ?_ } }
  intro p hlive hp
  rcases hpop _ ((h.attempt id a ha).queued p hlive hp) with heq | hmem
  · subst heq
    exact absurd rfl (hstale a p ha hlive hp)
  · exact hmem

/-- The failure of the probe with the earliest deadline is what an abstract
    circuit does when it notices its overdue probes. -/
theorem Sound.expireProbes_completeProbe {p : ProbeIdentity}
    (ha : s.attempts.lookup id = some a) (hp : a.permit = some p) (hdue : p.expiresAt ≤ now)
    (hleast : ∀ e, e ∈ s.expiries → p.expiresAt ≤ e.at') :
    ((circuitOf b s.attempts).completeProbe o p.expiresAt id .inferenceFailure).expireProbes o now
      = (circuitOf b s.attempts).expireProbes o now := by
  unfold Circuit.completeProbe
  split
  · next hprobe =>
    obtain ⟨hhalf, hid⟩ := hprobe
    have hstate : b.state = .circuitHalfOpen := hhalf
    have hprobes : (circuitOf b s.attempts).probes = livePermits b s.attempts := by
      simp [circuitOf, Circuit.ofBreaker, hstate]
    obtain ⟨⟨id', e⟩, hmem, rfl⟩ := Finset.mem_image.mp hid
    have hdeadline : e = p.expiresAt := by
      rw [hprobes] at hmem
      obtain ⟨a', p', ha', -, -, hp', rfl⟩ := mem_livePermits.mp hmem
      rw [ha] at ha'
      cases ha'
      rw [hp] at hp'
      cases hp'
      rfl
    subst hdeadline
    rw [if_pos rfl, Circuit.expireProbes_of_ne (by simp [Circuit.trip]),
      Circuit.expireProbes_of_earliest hhalf (mem_due.mpr ⟨⟨_, hmem⟩, hdue⟩)]
    intro x hx
    obtain ⟨⟨id'', hx'⟩, -⟩ := mem_due.mp hx
    rw [hprobes] at hx'
    obtain ⟨a', p', ha', hlive, -, hp', rfl⟩ := mem_livePermits.mp hx'
    exact hleast _ ((h.attempt id'' a' ha').queued p' hlive hp')
  · rfl

/-- **One round of the replay.**  What the circuit does when the overdue
    probes are noticed stays the same from round to round. -/
theorem Sound.permitRound (hround : expirePermitRound o now s = some s') :
    ∃ b', Sound be b' s' ∧
      (circuitOf b' s'.attempts).expireProbes o now
        = (circuitOf b s.attempts).expireProbes o now ∧
      Ages s.attempts s'.attempts ∧ s'.attemptCapacity = s.attemptCapacity := by
  unfold expirePermitRound at hround
  rcases hpop : s.expiries.due now with _ | popped
  · simp [hpop] at hround
  obtain ⟨expiry, queue⟩ := popped
  simp only [hpop, Option.some.injEq] at hround
  subst hround
  obtain ⟨hdue, hpop⟩ := MinHeap.popDue_some hpop
  have hmem : ∀ e, e ∈ s.expiries → e = expiry ∨ e ∈ queue :=
    fun e he => (MinHeap.mem_of_pop hpop).mp he
  rw [expirePermitEntry_expiries]
  rcases expirePermitEntry_cases o s now expiry hdue with
    ⟨hsame, hstale⟩ | ⟨a, p, ha, hlive, hp, hat, hended⟩
  · rw [hsame]
    exact ⟨b, h.dequeue hmem hstale, rfl, .refl _, rfl⟩
  obtain ⟨hsound, hcircuit⟩ := h.finish (o := o) ha hlive ⟨rfl, rfl, rfl, rfl⟩
    .inferenceFailure p.expiresAt (circuitRetentionBoundary now [a.acquiredAt, p.expiresAt])
  rw [h.runCompletion_eq ha] at hended hsound hcircuit
  rw [hended]
  -- the attempt of the entry is terminal now, so the entry may leave the queue
  have hstale : ∀ a' p', (s.attempts.insert expiry.id
      { a with
        terminal := true
        retainUntil := circuitRetentionBoundary now [a.acquiredAt, p.expiresAt] }).lookup
        expiry.id = some a' → a'.terminal = false → a'.permit = some p' →
      expiry ≠ ⟨p'.expiresAt, expiry.id, .circuitPermitExpiry⟩ := by
    intro a' p' ha' hlive'
    rw [AList.lookup_insert] at ha'
    cases ha'
    cases hlive'
  refine ⟨_, hsound.dequeue hmem hstale, ?_, .retire ha (by rw [hp]; rfl) _, rfl⟩
  show Circuit.expireProbes o now (circuitOf _ (retire _ _ _ _).attempts) = _
  rw [hcircuit, Circuit.complete, if_pos (by rw [hp]; rfl)]
  apply h.expireProbes_completeProbe ha hp (hat ▸ hdue)
  intro e he
  rw [hat]
  exact MinHeap.peek_le (MinHeap.peek_of_pop hpop) he

omit h in
theorem expirePermitRound_size (h : expirePermitRound o now s = some s') :
    s'.expiries.size < s.expiries.size := by
  unfold expirePermitRound at h
  cases hpop : s.expiries.due now with
  | none => simp [hpop] at h
  | some popped =>
    simp only [hpop, Option.some.injEq, expirePermitEntry_expiries] at h
    subst h
    exact MinHeap.pop_size (MinHeap.popDue_some hpop).2

/-- **The replay of the overdue permits** trips the circuit at the earliest deadline. -/
theorem Sound.permits_expired (now : Int) :
    ∃ b', Sound be b' (expirePermits o s now) ∧
      circuitOf b' (expirePermits o s now).attempts
        = (circuitOf b s.attempts).expireProbes o now ∧
      Ages s.attempts (expirePermits o s now).attempts ∧
      (expirePermits o s now).attemptCapacity = s.attemptCapacity := by
  -- the invariant of the loop is that the circuit would expire to the same one
  obtain ⟨b', hsound, hcircuit, hages, hcapacity⟩ := iterate_inv
    (I := fun s' => ∃ b', Sound be b' s' ∧
      (circuitOf b' s'.attempts).expireProbes o now
        = (circuitOf b s.attempts).expireProbes o now ∧
      Ages s.attempts s'.attempts ∧ s'.attemptCapacity = s.attemptCapacity)
    (fun s₁ s₂ ⟨b₁, h₁, hcircuit₁, hages₁, hcapacity₁⟩
        (hround : expirePermitRound o now s₁ = some s₂) => by
      obtain ⟨b₂, h₂, hcircuit₂, hages₂, hcapacity₂⟩ := h₁.permitRound hround
      exact ⟨b₂, h₂, hcircuit₂.trans hcircuit₁, hages₁.trans hages₂,
        hcapacity₂.trans hcapacity₁⟩)
    s.expiries.size s ⟨b, h, rfl, .refl _, rfl⟩
  refine ⟨b', hsound, ?_, hages, hcapacity⟩
  -- when the loop ends nothing is due any more
  have hstop : expirePermitRound o now (expirePermits o s now) = none :=
    iterate_stops (fun s => s.expiries.size) (fun _ _ => expirePermitRound_size) s.expiries.size s
      (le_refl _)
  rw [← hcircuit]
  symm
  apply Circuit.expireProbes_of_none
  intro e he
  obtain ⟨⟨id, hmem⟩, hdue⟩ := mem_due.mp he
  simp only [circuitOf, Circuit.ofBreaker] at hmem
  split at hmem
  · obtain ⟨a, p, ha, hlive, -, hp, rfl⟩ := mem_livePermits.mp hmem
    have hqueued := (hsound.attempt id a ha).queued p hlive hp
    unfold expirePermitRound at hstop
    cases hpop : (expirePermits o s now).expiries.due now with
    | none =>
      have := MinHeap.popDue_none hpop hqueued
      simp only at this
      omega
    | some popped => simp [hpop] at hstop
  · simp at hmem

theorem Sound.attemptRound (hround : expireAttemptRound now s = some s') :
    Sound be b s' ∧ circuitOf b s'.attempts = circuitOf b s.attempts ∧
      Ages s.attempts s'.attempts ∧ s'.attemptCapacity = s.attemptCapacity := by
  unfold expireAttemptRound at hround
  rcases hpop : s.terminalExpiries.due now with _ | popped
  · simp [hpop] at hround
  obtain ⟨expiry, queue⟩ := popped
  simp only [hpop, Option.some.injEq] at hround
  subst hround
  unfold expireAttemptEntry
  rcases ha : s.attempts.lookup expiry.id with _ | a
  · exact ⟨⟨h.entry, h.attempt, h.inFlight⟩, rfl, .refl _, rfl⟩
  dsimp only
  split
  · next hdone =>
    have hpermits := livePermits_erase (b := b) ha hdone.1
    refine ⟨⟨h.entry, ?_, ?_⟩, ?_, .erase ha hdone.1, rfl⟩
    · intro id a' ha'
      exact h.attempt id a' (Table.lookup_of_erase ha').2
    · exact h.inFlight.trans (congrArg Finset.card hpermits).symm
    · exact congrArg (Circuit.ofBreaker b) hpermits
  · exact ⟨⟨h.entry, h.attempt, h.inFlight⟩, rfl, .refl _, rfl⟩

theorem Sound.attempts_expired (now : Int) :
    Sound be b (expireAttempts s now) ∧
      circuitOf b (expireAttempts s now).attempts = circuitOf b s.attempts ∧
      Ages s.attempts (expireAttempts s now).attempts ∧
      (expireAttempts s now).attemptCapacity = s.attemptCapacity :=
  iterate_inv
    (I := fun s' => Sound be b s' ∧ circuitOf b s'.attempts = circuitOf b s.attempts ∧
      Ages s.attempts s'.attempts ∧ s'.attemptCapacity = s.attemptCapacity)
    (fun s₁ s₂ ⟨h₁, hcircuit₁, hages₁, hcapacity₁⟩ hround => by
      obtain ⟨h₂, hcircuit₂, hages₂, hcapacity₂⟩ := h₁.attemptRound hround
      exact ⟨h₂, hcircuit₂.trans hcircuit₁, hages₁.trans hages₂, hcapacity₂.trans hcapacity₁⟩)
    s.terminalExpiries.size s ⟨h, rfl, .refl _, rfl⟩

/-- `expire` notices the overdue probes and nothing else. -/
theorem Sound.expired (now : Int) :
    ∃ b', Sound be b' (expire o s now) ∧
      circuitOf b' (expire o s now).attempts = (circuitOf b s.attempts).expireProbes o now ∧
      Ages s.attempts (expire o s now).attempts ∧
      (expire o s now).attemptCapacity = s.attemptCapacity := by
  obtain ⟨b', h₁, hcircuit₁, hages₁, hcapacity₁⟩ := h.permits_expired (o := o) now
  obtain ⟨h₂, hcircuit₂, hages₂, hcapacity₂⟩ := h₁.attempts_expired now
  exact ⟨b', h₂, hcircuit₂.trans hcircuit₁, hages₁.trans hages₂, hcapacity₂.trans hcapacity₁⟩

end

end LocalCircuit

end Coordination
