import PriorityGateway.Coordination.Types
import Mathlib.Data.List.Basic

/-! # The Circuit Breaker

    The breaker of one backend: closed until enough failures fall into the
    failure window, then open for a cooldown, then half open, when a bounded
    number of probes may pass.  A failed probe opens it again; once one probe
    has succeeded and none is in flight it closes.

    * The change from open to half open is lazy: it is made by the first
      `acquire` or `snapshot` after the cooldown.
    * Every change of the state starts a new generation.  A completion carries
      the generation it was acquired in and is ignored in any other one.
    * The mutex of the breaker is held for each whole method.  The generation
      counter is unbounded here. -/

namespace CircuitBreaker

open Coordination (CircuitState InferenceOutcome)

/-! ## Options and state -/

/-- The options that `New` accepts. -/
structure Options where
  failureThreshold : Int
  failureWindow : Int
  openCooldown : Int
  halfOpenMaxProbes : Int
  threshold_pos : 0 < failureThreshold
  window_pos : 0 < failureWindow
  cooldown_pos : 0 < openCooldown
  probes_pos : 0 < halfOpenMaxProbes

def Options.of (threshold window cooldown probes : Int)
    (h : 0 < threshold ∧ 0 < window ∧ 0 < cooldown ∧ 0 < probes) : Options :=
  ⟨threshold, window, cooldown, probes, h.1, h.2.1, h.2.2.1, h.2.2.2⟩

/-- The breaker; its default value is the one `New` returns. -/
structure Breaker where
  state : CircuitState := .circuitClosed
  generation : Nat := 0
  failures : List Int := []
  openedAt : Int := 0
  probesInFlight : Nat := 0
  halfOpenSucceeded : Bool := false
  deriving DecidableEq, Repr

structure Snapshot where
  generation : Nat
  state : CircuitState
  failureCount : Nat
  retryAt : Int := 0
  probesInFlight : Nat
  available : Bool := false
  deriving DecidableEq, Repr

/-- What the function returned by `acquire` has captured. -/
structure Completion where
  generation : Nat
  probe : Bool
  deriving DecidableEq, Repr

/-! ## Failures -/

def pruneFailures (o : Options) (b : Breaker) (now : Int) : Breaker :=
  { b with
    failures := b.failures.filter (fun failure => !decide (failure < now - o.failureWindow)) }

/-- The loop of `recordFailure` that looks for the latest failure. -/
def latestFailure (latest : Int) (failures : List Int) : Int :=
  failures.foldl (fun latest failure => if latest < failure then failure else latest) latest

/-- `recordFailure`: the breaker with one more failure, and the latest of all. -/
def recordFailure (o : Options) (b : Breaker) (failedAt : Int) : Breaker × Int :=
  let failures := b.failures ++ [failedAt]
  let latest := latestFailure (failures.headD failedAt) failures.tail
  (pruneFailures o { b with failures := failures } latest, latest)

/-! ## Transitions -/

def transitionOpenToHalfOpen (o : Options) (b : Breaker) (now : Int) : Breaker :=
  if b.state ≠ .circuitOpen ∨ now < b.openedAt + o.openCooldown then b
  else
    { b with
      state := .circuitHalfOpen
      generation := b.generation + 1
      openedAt := 0
      probesInFlight := 0
      halfOpenSucceeded := false }

def enterOpen (b : Breaker) (openedAt : Int) : Breaker :=
  { b with
    state := .circuitOpen
    generation := b.generation + 1
    openedAt := openedAt
    probesInFlight := 0
    halfOpenSucceeded := false }

def enterClosed (b : Breaker) : Breaker :=
  { b with
    state := .circuitClosed
    generation := b.generation + 1
    failures := []
    openedAt := 0
    probesInFlight := 0
    halfOpenSucceeded := false }

/-! ## Methods -/

def acquire (o : Options) (b : Breaker) (now : Int) : Breaker × Option Completion :=
  let b := transitionOpenToHalfOpen o b now
  match b.state with
  | .circuitClosed => (pruneFailures o b now, some ⟨b.generation, false⟩)
  | .circuitOpen => (b, none)
  | .circuitHalfOpen =>
    if b.halfOpenSucceeded ∨ o.halfOpenMaxProbes ≤ b.probesInFlight then (b, none)
    else ({ b with probesInFlight := b.probesInFlight + 1 }, some ⟨b.generation, true⟩)

/-- The breaker that `Snapshot` leaves behind. -/
def refreshed (o : Options) (b : Breaker) (now : Int) : Breaker :=
  let b := transitionOpenToHalfOpen o b now
  if b.state = .circuitClosed then pruneFailures o b now else b

/-- What `Snapshot` returns once the breaker is up to date. -/
def toSnapshot (o : Options) (b : Breaker) : Snapshot where
  generation := b.generation
  state := b.state
  failureCount := b.failures.length
  retryAt := if b.state = .circuitOpen then b.openedAt + o.openCooldown else 0
  probesInFlight := b.probesInFlight
  available :=
    match b.state with
    | .circuitClosed => true
    | .circuitOpen => false
    | .circuitHalfOpen => !b.halfOpenSucceeded && decide (b.probesInFlight < o.halfOpenMaxProbes)

def snapshot (o : Options) (b : Breaker) (now : Int) : Breaker × Snapshot :=
  (refreshed o b now, toSnapshot o (refreshed o b now))

def completeProbe (o : Options) (b : Breaker) (completedAt : Int) (outcome : InferenceOutcome) :
    Breaker :=
  if b.state ≠ .circuitHalfOpen then b
  else
    let b := { b with probesInFlight := b.probesInFlight - 1 }
    match outcome with
    | .inferenceFailure =>
      let (b, latest) := recordFailure o b completedAt
      enterOpen b latest
    | _ =>
      let b := if outcome = .inferenceSuccess then { b with halfOpenSucceeded := true } else b
      if b.halfOpenSucceeded ∧ b.probesInFlight = 0 then enterClosed b else b

/-- `complete`: the body of the function that `acquire` returned. -/
def complete (o : Options) (b : Breaker) (c : Completion) (outcome : InferenceOutcome)
    (completedAt : Int) : Breaker :=
  if c.generation ≠ b.generation then b
  else if c.probe then completeProbe o b completedAt outcome
  else if b.state ≠ .circuitClosed ∨ outcome ≠ .inferenceFailure then b
  else
    let (b, openedAt) := recordFailure o b completedAt
    if o.failureThreshold ≤ b.failures.length then enterOpen b openedAt else b

/-! ## What a completion does -/

section Completions

variable {o : Options} {b : Breaker} {outcome : InferenceOutcome} {t : Int}

theorem complete_of_ne {c : Completion} (h : c.generation ≠ b.generation) :
    complete o b c outcome t = b := if_pos h

/-- The end of a request matters only as a failure in the closed state it passed. -/
theorem complete_ignored {generation : Nat}
    (h : ¬ (b.state = .circuitClosed ∧ b.generation = generation ∧
      outcome = .inferenceFailure)) : complete o b ⟨generation, false⟩ outcome t = b := by
  unfold complete
  split
  · rfl
  next hgen =>
  simp only [Bool.false_eq_true, if_false]
  rw [if_pos]
  by_contra hno
  rw [not_or, not_not, not_not] at hno
  exact h ⟨hno.1, (not_not.mp hgen).symm, hno.2⟩

theorem complete_failed (h : b.state = .circuitClosed) :
    complete o b ⟨b.generation, false⟩ .inferenceFailure t =
      if o.failureThreshold ≤ (recordFailure o b t).1.failures.length then
        enterOpen (recordFailure o b t).1 (recordFailure o b t).2
      else (recordFailure o b t).1 := by
  simp [complete, h]

/-- The breaker with one probe fewer in flight. -/
def probeReturned (b : Breaker) (outcome : InferenceOutcome) : Breaker :=
  { b with
    probesInFlight := b.probesInFlight - 1
    halfOpenSucceeded := b.halfOpenSucceeded || decide (outcome = .inferenceSuccess) }

theorem complete_probe_failed (h : b.state = .circuitHalfOpen) :
    complete o b ⟨b.generation, true⟩ .inferenceFailure t =
      enterOpen (recordFailure o b t).1 (recordFailure o b t).2 := by
  simp [complete, completeProbe, h, recordFailure, pruneFailures, enterOpen]

theorem complete_probe (h : b.state = .circuitHalfOpen) (hne : outcome ≠ .inferenceFailure) :
    complete o b ⟨b.generation, true⟩ outcome t =
      if (probeReturned b outcome).halfOpenSucceeded ∧ (probeReturned b outcome).probesInFlight = 0
      then enterClosed (probeReturned b outcome) else probeReturned b outcome := by
  cases outcome with
  | inferenceFailure => exact absurd rfl hne
  | inferenceSuccess | inferenceNeutral => simp [complete, completeProbe, h, probeReturned]

/-- What a completion does to the breaker. -/
inductive Completed (o : Options) (b : Breaker) (c : Completion) (outcome : InferenceOutcome)
    (t : Int) : Breaker → Prop where
  | ignored (h : c.generation ≠ b.generation ∨
      c.probe = false ∧ ¬ (b.state = .circuitClosed ∧ outcome = .inferenceFailure) ∨
      c.probe = true ∧ b.state ≠ .circuitHalfOpen) : Completed o b c outcome t b
  | counted (hc : c = ⟨b.generation, false⟩) (hstate : b.state = .circuitClosed)
      (hfailure : outcome = .inferenceFailure)
      (hfew : ((recordFailure o b t).1.failures.length : Int) < o.failureThreshold) :
      Completed o b c outcome t (recordFailure o b t).1
  | tripped (hc : c = ⟨b.generation, false⟩) (hstate : b.state = .circuitClosed)
      (hfailure : outcome = .inferenceFailure)
      (hmany : o.failureThreshold ≤ (recordFailure o b t).1.failures.length) :
      Completed o b c outcome t (enterOpen (recordFailure o b t).1 (recordFailure o b t).2)
  | probeFailed (hc : c = ⟨b.generation, true⟩) (hstate : b.state = .circuitHalfOpen)
      (hfailure : outcome = .inferenceFailure) :
      Completed o b c outcome t (enterOpen (recordFailure o b t).1 (recordFailure o b t).2)
  | returned (hc : c = ⟨b.generation, true⟩) (hstate : b.state = .circuitHalfOpen)
      (hfailure : outcome ≠ .inferenceFailure)
      (hwaits : ¬ ((probeReturned b outcome).halfOpenSucceeded ∧
        (probeReturned b outcome).probesInFlight = 0)) :
      Completed o b c outcome t (probeReturned b outcome)
  | drained (hc : c = ⟨b.generation, true⟩) (hstate : b.state = .circuitHalfOpen)
      (hfailure : outcome ≠ .inferenceFailure)
      (hsucceeded : (probeReturned b outcome).halfOpenSucceeded)
      (hdrained : (probeReturned b outcome).probesInFlight = 0) :
      Completed o b c outcome t (enterClosed (probeReturned b outcome))

theorem completed (o : Options) (b : Breaker) (c : Completion) (outcome : InferenceOutcome)
    (t : Int) : Completed o b c outcome t (complete o b c outcome t) := by
  obtain ⟨generation, probe⟩ := c
  by_cases hgen : generation = b.generation
  · subst hgen
    cases probe with
    | false =>
      by_cases happly : b.state = .circuitClosed ∧ outcome = .inferenceFailure
      · obtain ⟨hstate, rfl⟩ := happly
        rw [complete_failed hstate]
        split
        · next hmany => exact .tripped rfl hstate rfl hmany
        · next hfew => exact .counted rfl hstate rfl (by omega)
      · rw [complete_ignored fun h => happly ⟨h.1, h.2.2⟩]
        exact .ignored (.inr (.inl ⟨rfl, happly⟩))
    | true =>
      by_cases hstate : b.state = .circuitHalfOpen
      · by_cases hfail : outcome = .inferenceFailure
        · rw [hfail, complete_probe_failed hstate]
          exact .probeFailed rfl hstate rfl
        · rw [complete_probe hstate hfail]
          split
          · next hend => exact .drained rfl hstate hfail hend.1 hend.2
          · next hwaits => exact .returned rfl hstate hfail hwaits
      · have hsame : complete o b ⟨b.generation, true⟩ outcome t = b := by
          simp [complete, completeProbe, hstate]
        rw [hsame]
        exact .ignored (.inr (.inr ⟨rfl, hstate⟩))
  · rw [complete_of_ne hgen]
    exact .ignored (.inl hgen)

end Completions

/-! ## Generations -/

/-- The generation does not go back, and a state lasts as long as its generation. -/
structure Advances (b b' : Breaker) : Prop where
  generation : b.generation ≤ b'.generation
  state : b'.generation = b.generation → b'.state = b.state

/-- A completion keeps the generation and takes back at most one probe, or it
    starts a generation without probes that is not half open. -/
theorem complete_cases (o : Options) (b : Breaker) (c : Completion) (outcome : InferenceOutcome)
    (t : Int) :
    ((complete o b c outcome t).generation = b.generation ∧
      (complete o b c outcome t).state = b.state ∧
      (complete o b c outcome t).probesInFlight
        = if c = ⟨b.generation, true⟩ ∧ b.state = .circuitHalfOpen then b.probesInFlight - 1
          else b.probesInFlight) ∨
    ((complete o b c outcome t).generation = b.generation + 1 ∧
      (complete o b c outcome t).state ≠ .circuitHalfOpen ∧
      (complete o b c outcome t).probesInFlight = 0) := by
  have hdone := completed o b c outcome t
  generalize complete o b c outcome t = b' at hdone
  cases hdone with
  | ignored hignored =>
    refine .inl ⟨rfl, rfl, (if_neg ?_).symm⟩
    rintro ⟨rfl, hstate⟩
    simp [hstate] at hignored
  | counted hc _ _ _ => exact .inl ⟨rfl, rfl, by simp [hc, recordFailure, pruneFailures]⟩
  | returned hc hstate _ _ => exact .inl ⟨rfl, rfl, by simp [hc, hstate, probeReturned]⟩
  | tripped | probeFailed | drained => exact .inr ⟨rfl, by simp [enterOpen, enterClosed], rfl⟩

theorem complete_advances (o : Options) (b : Breaker) (c : Completion)
    (outcome : InferenceOutcome) (t : Int) : Advances b (complete o b c outcome t) := by
  rcases complete_cases o b c outcome t with ⟨hgen, hstate, -⟩ | ⟨hgen, -, -⟩
  · exact ⟨hgen.ge, fun _ => hstate⟩
  · exact ⟨by omega, fun h => by omega⟩

/-! ## Acquiring from a refreshed breaker -/

section Acquiring

variable {o : Options} {b : Breaker} {now : Int}

/-- What `Snapshot` does to the fields that are not about failures. -/
theorem refreshed_fields (o : Options) (b : Breaker) (now : Int) :
    ((refreshed o b now).state = b.state ∧ (refreshed o b now).generation = b.generation ∧
      (refreshed o b now).probesInFlight = b.probesInFlight ∧
      (refreshed o b now).halfOpenSucceeded = b.halfOpenSucceeded) ∨
    (b.state = .circuitOpen ∧ (refreshed o b now).state = .circuitHalfOpen ∧
      (refreshed o b now).generation = b.generation + 1 ∧
      (refreshed o b now).probesInFlight = 0 ∧
      (refreshed o b now).halfOpenSucceeded = false) := by
  unfold refreshed transitionOpenToHalfOpen
  split
  · left
    dsimp only
    split <;> exact ⟨rfl, rfl, rfl, rfl⟩
  · next hopen =>
    rw [not_or, not_not] at hopen
    exact .inr ⟨hopen.1, rfl, rfl, rfl, rfl⟩

theorem refreshed_advances (o : Options) (b : Breaker) (now : Int) :
    Advances b (refreshed o b now) := by
  rcases refreshed_fields o b now with ⟨hstate, hgen, -⟩ | ⟨-, -, hgen, -⟩
  · exact ⟨hgen.ge, fun _ => hstate⟩
  · exact ⟨by omega, fun h => by omega⟩

/-- The breaker lets no probe pass. -/
def Refuses (o : Options) (b : Breaker) : Prop :=
  b.state = .circuitOpen ∨ b.state = .circuitHalfOpen ∧
    (b.halfOpenSucceeded = true ∨ o.halfOpenMaxProbes ≤ b.probesInFlight)

/-- One more probe is in flight. -/
def probing (b : Breaker) : Breaker := { b with probesInFlight := b.probesInFlight + 1 }

theorem probing_advances (b : Breaker) : Advances b (probing b) := ⟨le_refl _, fun _ => rfl⟩

/-! `Acquire` asks the breaker as `Snapshot` would leave it. -/

theorem acquire_closed (h : (refreshed o b now).state = .circuitClosed) :
    acquire o b now = (refreshed o b now, some ⟨(refreshed o b now).generation, false⟩) := by
  unfold acquire refreshed at *
  cases hstate : (transitionOpenToHalfOpen o b now).state <;> simp_all [pruneFailures]

theorem acquire_refused (h : Refuses o (refreshed o b now)) :
    acquire o b now = (refreshed o b now, none) := by
  unfold acquire refreshed Refuses at *
  cases hstate : (transitionOpenToHalfOpen o b now).state <;> simp_all [pruneFailures]

theorem acquire_probe (h : (refreshed o b now).state = .circuitHalfOpen)
    (hroom : ¬ Refuses o (refreshed o b now)) :
    acquire o b now
      = (probing (refreshed o b now), some ⟨(refreshed o b now).generation, true⟩) := by
  unfold acquire refreshed Refuses probing at *
  cases hstate : (transitionOpenToHalfOpen o b now).state <;> simp_all [pruneFailures]

theorem pruneFailures_twice (o : Options) (b : Breaker) (now : Int) :
    pruneFailures o (pruneFailures o b now) now = pruneFailures o b now := by
  simp [pruneFailures, List.filter_filter]

theorem refreshed_of_halfOpen (h : b.state = .circuitHalfOpen) : refreshed o b now = b := by
  simp [refreshed, transitionOpenToHalfOpen, h]

theorem refreshed_refreshed (o : Options) (b : Breaker) (now : Int) :
    refreshed o (refreshed o b now) now = refreshed o b now := by
  have hstable : ∀ b' : Breaker, b' = transitionOpenToHalfOpen o b' now →
      refreshed o (if b'.state = .circuitClosed then pruneFailures o b' now else b') now
        = if b'.state = .circuitClosed then pruneFailures o b' now else b' := by
    intro b' hb'
    split
    · next hclosed =>
      have hclosed' : (pruneFailures o b' now).state = .circuitClosed := hclosed
      simp only [refreshed, transitionOpenToHalfOpen, hclosed', ne_eq, reduceCtorEq,
        not_false_eq_true, true_or, if_true, pruneFailures_twice]
    · next hopen =>
      unfold refreshed
      rw [← hb', if_neg hopen]
  apply hstable
  unfold transitionOpenToHalfOpen
  split
  · rfl
  · simp

end Acquiring

end CircuitBreaker
