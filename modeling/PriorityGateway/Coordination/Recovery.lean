import PriorityGateway.Framework.System
import PriorityGateway.Coordination.Errors
import Mathlib.Logic.Function.Basic

/-! # RecoveryManager

    The recovery state machine of coordination: it is `Ready` until somebody
    reports a failure, and only a `Recover` that ran all its steps brings it
    back.

    `Recover` holds `recoverMu` for the whole call but the state mutex only at
    its start and at its end, so failures are reported while its steps run.
    What protects it is a counter of reports, read at the start and compared
    at the end.  The system below interleaves any number of threads at that
    granularity: each critical section of the state mutex, each call and each
    return of a step is one transition.

    The main result, `recovery_readiness`, is about the labels of whole runs:
    what happened between the start of a `Recover` and the moment it made the
    manager ready.

    Transition observers are left out; they see the states and change nothing. -/

namespace Coordination

namespace Recovery

/-! ## The manager -/

inductive RecoveryState where
  | recoveryReady
  | recoveryDegraded
  | recoveryPermanentFault
  deriving DecidableEq, Repr

structure RecoveryStatus where
  state : RecoveryState
  lastError : Err := .nil
  lastSuccess : Int := 0
  deriving DecidableEq, Repr

/-- What the state mutex protects.  The source keeps `failures` in 64 bits; here it is
    the number of increments, and comparisons are modulo `counterRange`. -/
structure RecoveryManager where
  status : RecoveryStatus := { state := .recoveryReady }
  failures : Nat := 0
  deriving DecidableEq, Repr

def counterRange : Nat := 2 ^ 64

namespace RecoveryManager

def permanent (m : RecoveryManager) : Bool := m.status.state == .recoveryPermanentFault

def ready (m : RecoveryManager) : Bool := m.status.state == .recoveryReady

def markDegraded (m : RecoveryManager) (err : Err) : RecoveryManager :=
  if m.permanent then m
  else
    { status := { m.status with state := .recoveryDegraded, lastError := err }
      failures := m.failures + 1 }

def markPermanent (m : RecoveryManager) (err : Err) : RecoveryManager where
  status := { m.status with state := .recoveryPermanentFault, lastError := err }
  failures := m.failures + 1

def coordinationFailure (m : RecoveryManager) (err : Err) : RecoveryManager :=
  if err.isPermanent then m.markPermanent err else m.markDegraded err

/-- What `Recover` returns when it gives up because of the status it found. -/
def refusal (m : RecoveryManager) : Err :=
  if m.permanent then .permanentError m.status.lastError else m.status.lastError

/-- The last critical section of `Recover`. -/
def conclude (m : RecoveryManager) (starting : Nat) (now : Int) : RecoveryManager × Err :=
  if m.failures % counterRange ≠ starting % counterRange then (m, m.refusal)
  else ({ m with status := { state := .recoveryReady, lastSuccess := now } }, .nil)

end RecoveryManager

/-! ## Recover among other threads -/

inductive RecoveryStep where
  | ping
  | checkFingerprint
  | reloadConfiguration
  | reconcileLeases
  | replayFailures
  | refreshCircuits
  deriving DecidableEq, Repr

/-- The order in which `Recover` runs them. -/
def steps : List RecoveryStep :=
  [.ping, .checkFingerprint, .reloadConfiguration, .reconcileLeases, .replayFailures,
    .refreshCircuits]

/-- Where a thread is in `Recover`. -/
inductive Phase where
  | outside
  /-- holds `recoverMu`, has read nothing yet -/
  | entered
  | between (left : List RecoveryStep) (starting : Nat)
  | inside (step : RecoveryStep) (left : List RecoveryStep) (starting : Nat)
  /-- a step returned this error -/
  | failing (err : Err)
  | returning (answer : Err)
  deriving DecidableEq, Repr

structure State where
  manager : RecoveryManager := {}
  recoverMu : Option Nat := none
  phase : Nat → Phase := fun _ => .outside

inductive Label where
  | lock (i : Nat)
  | read (i : Nat)
  | skip (i : Nat)
  | call (i : Nat) (step : RecoveryStep)
  | ret (i : Nat) (step : RecoveryStep) (err : Err)
  | mark (i : Nat) (err : Err)
  | conclude (i : Nat) (now : Int)
  | unlock (i : Nat) (answer : Err)
  | markDegraded (err : Err)
  | markPermanent (err : Err)
  | coordinationFailure (err : Err)
  deriving DecidableEq, Repr

/-- Thread `i` moves on to another phase. -/
def State.goto (s : State) (i : Nat) (phase : Phase) : State :=
  { s with phase := Function.update s.phase i phase }

def State.withManager (s : State) (m : RecoveryManager) : State := { s with manager := m }

/-- One transition.  `present` tells which steps the manager was given; the others are nil. -/
def next (present : RecoveryStep → Bool) (s : State) : Label → Option State
  | .lock i =>
    if s.recoverMu = none ∧ s.phase i = .outside then
      some ({ s with recoverMu := some i }.goto i .entered)
    else none
  | .read i =>
    match s.phase i with
    | .entered =>
      some (s.goto i (if s.manager.permanent then .returning s.manager.refusal
        else .between steps s.manager.failures))
    | _ => none
  | .skip i =>
    match s.phase i with
    | .between (step :: left) starting =>
      if present step then none else some (s.goto i (.between left starting))
    | _ => none
  | .call i step =>
    match s.phase i with
    | .between (head :: left) starting =>
      if head = step ∧ present step then some (s.goto i (.inside step left starting)) else none
    | _ => none
  | .ret i step err =>
    match s.phase i with
    | .inside running left starting =>
      if running = step then
        some (s.goto i (if err = .nil then .between left starting else .failing err))
      else none
    | _ => none
  | .mark i err =>
    if s.phase i = .failing err then
      some ((s.withManager (s.manager.coordinationFailure err)).goto i (.returning err))
    else none
  | .conclude i now =>
    match s.phase i with
    | .between [] starting =>
      some ((s.withManager (s.manager.conclude starting now).1).goto i
        (.returning (s.manager.conclude starting now).2))
    | _ => none
  | .unlock i answer =>
    if s.phase i = .returning answer then some ({ s with recoverMu := none }.goto i .outside)
    else none
  | .markDegraded err => some (s.withManager (s.manager.markDegraded err))
  | .markPermanent err => some (s.withManager (s.manager.markPermanent err))
  | .coordinationFailure err => some (s.withManager (s.manager.coordinationFailure err))

/-- Any number of threads around one manager. -/
def recovery (present : RecoveryStep → Bool) : System State Label where
  init := fun s => s = {}
  step := fun s l s' => next present s l = some s'

/-! ## What a transition does -/

/-- A transition by its label, with all it checks. -/
inductive Next (present : RecoveryStep → Bool) (s : State) : Label → State → Prop where
  | lock {i : Nat} (free : s.recoverMu = none) (out : s.phase i = .outside) :
      Next present s (.lock i) ({ s with recoverMu := some i }.goto i .entered)
  | refuse {i : Nat} (entered : s.phase i = .entered) (perm : s.manager.permanent = true) :
      Next present s (.read i) (s.goto i (.returning s.manager.refusal))
  | read {i : Nat} (entered : s.phase i = .entered) (perm : s.manager.permanent = false) :
      Next present s (.read i) (s.goto i (.between steps s.manager.failures))
  | skip {i : Nat} {step : RecoveryStep} {left : List RecoveryStep} {starting : Nat}
      (between : s.phase i = .between (step :: left) starting) (absent : present step = false) :
      Next present s (.skip i) (s.goto i (.between left starting))
  | call {i : Nat} {step : RecoveryStep} {left : List RecoveryStep} {starting : Nat}
      (between : s.phase i = .between (step :: left) starting) (given : present step = true) :
      Next present s (.call i step) (s.goto i (.inside step left starting))
  | success {i : Nat} {step : RecoveryStep} {left : List RecoveryStep} {starting : Nat}
      (inside : s.phase i = .inside step left starting) :
      Next present s (.ret i step .nil) (s.goto i (.between left starting))
  | failure {i : Nat} {step : RecoveryStep} {left : List RecoveryStep} {starting : Nat}
      {err : Err} (inside : s.phase i = .inside step left starting) (herr : err ≠ .nil) :
      Next present s (.ret i step err) (s.goto i (.failing err))
  | mark {i : Nat} {err : Err} (failing : s.phase i = .failing err) :
      Next present s (.mark i err)
        ((s.withManager (s.manager.coordinationFailure err)).goto i (.returning err))
  | conclude {i : Nat} {now : Int} {starting : Nat} (between : s.phase i = .between [] starting) :
      Next present s (.conclude i now)
        ((s.withManager (s.manager.conclude starting now).1).goto i
          (.returning (s.manager.conclude starting now).2))
  | unlock {i : Nat} {answer : Err} (returning : s.phase i = .returning answer) :
      Next present s (.unlock i answer) ({ s with recoverMu := none }.goto i .outside)
  | markDegraded {err : Err} :
      Next present s (.markDegraded err) (s.withManager (s.manager.markDegraded err))
  | markPermanent {err : Err} :
      Next present s (.markPermanent err) (s.withManager (s.manager.markPermanent err))
  | coordinationFailure {err : Err} :
      Next present s (.coordinationFailure err)
        (s.withManager (s.manager.coordinationFailure err))

variable {l : Label} {present : RecoveryStep → Bool} {s s' : State} {i : Nat} {ls : List Label}

theorem next_inv (h : next present s l = some s') : Next present s l s' := by
  cases l with
  | lock i =>
    obtain ⟨⟨hfree, hout⟩, hs⟩ := Option.ite_none_right_eq_some.mp h
    cases hs
    exact .lock hfree hout
  | read i =>
    simp only [next] at h
    split at h <;> cases h
    next hentered =>
    cases hperm : s.manager.permanent with
    | true => exact .refuse hentered hperm
    | false => exact .read hentered hperm
  | skip i =>
    simp only [next] at h
    split at h
    · next hbetween =>
        obtain ⟨habsent, hs⟩ := Option.ite_none_left_eq_some.mp h
        cases hs
        exact .skip hbetween (by simpa using habsent)
    · cases h
  | call i step =>
    simp only [next] at h
    split at h
    · next hbetween =>
        obtain ⟨⟨rfl, hgiven⟩, hs⟩ := Option.ite_none_right_eq_some.mp h
        cases hs
        exact .call hbetween hgiven
    · cases h
  | ret i step err =>
    simp only [next] at h
    split at h
    · next hinside =>
        obtain ⟨rfl, hs⟩ := Option.ite_none_right_eq_some.mp h
        cases hs
        by_cases herr : err = .nil
        · subst herr
          exact .success hinside
        · rw [if_neg herr]
          exact .failure hinside herr
    · cases h
  | mark i | unlock i =>
    obtain ⟨hphase, hs⟩ := Option.ite_none_right_eq_some.mp h
    cases hs
    constructor
    exact hphase
  | conclude i now =>
    simp only [next] at h
    split at h <;> cases h
    next hbetween => exact .conclude hbetween
  | markDegraded | markPermanent | coordinationFailure => cases h; constructor

@[simp] theorem goto_phase_self (s : State) (i : Nat) (p : Phase) : (s.goto i p).phase i = p :=
  Function.update_self ..

@[simp] theorem goto_manager (s : State) (i : Nat) (p : Phase) : (s.goto i p).manager = s.manager :=
  rfl

@[simp] theorem withManager_phase (s : State) (m : RecoveryManager) :
    (s.withManager m).phase = s.phase := rfl

/-- The thread that makes the transition; reports come from anywhere. -/
def Label.thread : Label → Option Nat
  | .lock i | .read i | .skip i | .call i _ | .ret i _ _ | .mark i _ | .conclude i _
  | .unlock i _ => some i
  | .markDegraded _ | .markPermanent _ | .coordinationFailure _ => none

/-- The label calls a step or returns from one. -/
def Label.isStep : Label → Bool
  | .call .. | .ret .. => true
  | _ => false

def Label.isReport : Label → Bool
  | .mark .. | .markDegraded _ | .markPermanent _ | .coordinationFailure _ => true
  | _ => false

/-! ### Reports -/

namespace RecoveryManager

/-- `m'` is `m` after a failure report. -/
structure Reported (m m' : RecoveryManager) : Prop where
  le : m.failures ≤ m'.failures
  lt : m.permanent = false → m.failures < m'.failures
  permanent : m.permanent = true → m'.permanent = true
  notReady : m'.ready = false

variable (m : RecoveryManager) (err : Err) {starting : Nat}

theorem markDegraded_reported : m.Reported (m.markDegraded err) := by
  unfold markDegraded
  by_cases hperm : m.permanent = true
  · rw [if_pos hperm]
    have hstate : m.status.state = .recoveryPermanentFault := by simpa [permanent] using hperm
    exact ⟨le_refl _, fun h => by simp [h] at hperm, id, by simp [ready, hstate]⟩
  · rw [if_neg hperm]
    exact ⟨Nat.le_succ _, fun _ => Nat.lt_succ_self _, fun h => absurd h hperm, rfl⟩

theorem markPermanent_reported : m.Reported (m.markPermanent err) :=
  ⟨Nat.le_succ _, fun _ => Nat.lt_succ_self _, fun _ => rfl, rfl⟩

theorem coordinationFailure_reported : m.Reported (m.coordinationFailure err) := by
  unfold coordinationFailure
  split
  · exact m.markPermanent_reported err
  · exact m.markDegraded_reported err

/-- What is known of the counter since somebody read it as `starting` with no permanent
    fault: unless it moved on there still is none. -/
structure Counted (m : RecoveryManager) (starting : Nat) : Prop where
  le : starting ≤ m.failures
  notPermanent : m.failures = starting → m.permanent = false

/-- A reader of the counter sees every report, also one that does not count: it finds a
    permanent fault, and that one was counted. -/
theorem Reported.counted {m m' : RecoveryManager} (h : m.Reported m')
    (hc : m.Counted starting) : m'.Counted starting ∧ m'.failures ≠ starting := by
  have hle := hc.le
  have hmle := h.le
  have hne : m'.failures ≠ starting := by
    cases hperm : m.permanent with
    | false =>
      have := h.lt hperm
      omega
    | true =>
      have : m.failures ≠ starting := by
        intro heq
        rw [hc.notPermanent heq] at hperm
        cases hperm
      omega
  exact ⟨⟨by omega, fun heq => absurd heq hne⟩, hne⟩

/-- `Recover` succeeds only if the counter shows what it showed at the start. -/
theorem conclude_eq (starting : Nat) (now : Int) :
    m.conclude starting now =
      if m.failures % counterRange = starting % counterRange then
        ({ m with status := { state := .recoveryReady, lastSuccess := now } }, .nil)
      else (m, m.refusal) := by
  unfold conclude
  by_cases h : m.failures % counterRange = starting % counterRange
  · rw [if_neg (not_not_intro h), if_pos h]
  · rw [if_pos h, if_neg h]

@[simp] theorem conclude_failures (starting : Nat) (now : Int) :
    (m.conclude starting now).1.failures = m.failures := by
  rw [conclude_eq]
  split <;> rfl

/-- Fewer reports than the counter can hold do not go unnoticed. -/
theorem conclude_of_lt {m : RecoveryManager} (now : Int)
    (hle : starting ≤ m.failures) (hlt : m.failures < starting + counterRange)
    (hne : m.failures ≠ starting) : m.conclude starting now = (m, m.refusal) := by
  rw [conclude_eq, if_neg]
  unfold counterRange at *
  omega

end RecoveryManager

theorem Next.manager (h : Next present s l s') :
    (l.isReport = true ∧ s.manager.Reported s'.manager) ∨
    (l.isReport = false ∧ s'.manager = s.manager) ∨
    (∃ i now starting, l = .conclude i now ∧ s.phase i = .between [] starting ∧
      s'.manager = (s.manager.conclude starting now).1) := by
  cases h with
  | mark _ | coordinationFailure => exact .inl ⟨rfl, s.manager.coordinationFailure_reported _⟩
  | markDegraded => exact .inl ⟨rfl, s.manager.markDegraded_reported _⟩
  | markPermanent => exact .inl ⟨rfl, s.manager.markPermanent_reported _⟩
  | conclude hbetween => exact .inr (.inr ⟨_, _, _, rfl, hbetween, rfl⟩)
  | lock | refuse | read | skip | call | success | failure | unlock => exact .inr (.inl ⟨rfl, rfl⟩)

/-- What a transition does to the threads that do not make it. -/
theorem Next.phase_of_ne (h : Next present s l s') (hi : l.thread ≠ some i) :
    s'.phase i = s.phase i := by
  cases h with
  | markDegraded | markPermanent | coordinationFailure => rfl
  | lock | refuse | read | skip | call | success | failure | mark | conclude | unlock =>
    exact Function.update_of_ne (fun hj => hi (congrArg some hj.symm)) ..

/-! ## One Recover at a time -/

/-- A thread in `Recover` holds `recoverMu`. -/
def Owned (s : State) : Prop := ∀ i, s.phase i ≠ .outside → s.recoverMu = some i

/-- While a thread is in `Recover` no other thread takes one of its steps. -/
theorem Owned.alone (hs : Owned s) (h : Next present s l s') (hi : s.phase i ≠ .outside) :
    l.thread = none ∨ l.thread = some i := by
  have hmu := hs i hi
  have own : ∀ j p, s.phase j = p → p ≠ .outside → some j = some i := by
    intro j p hp hne
    rw [← hs j (by rwa [hp]), hmu]
  cases h with
  | lock hfree _ =>
    rw [hfree] at hmu
    cases hmu
  | markDegraded | markPermanent | coordinationFailure => exact .inl rfl
  | refuse hp | read hp | skip hp | call hp | success hp | failure hp | mark hp | conclude hp
  | unlock hp => exact .inr (own _ _ hp (by simp))

theorem Owned.next (hs : Owned s) (h : Next present s l s') : Owned s' := by
  intro i hi
  by_cases hthread : l.thread = some i
  · cases h with
    | markDegraded | markPermanent | coordinationFailure => cases hthread
    | lock => exact hthread
    | unlock =>
      cases hthread
      simp at hi
    | refuse hp | read hp | skip hp | call hp | success hp | failure hp | mark hp
    | conclude hp =>
      cases hthread
      exact hs _ (by rw [hp]; simp)
  · rw [h.phase_of_ne hthread] at hi
    have hmu := hs i hi
    cases hs.alone h hi with
    | inr heq => exact absurd heq hthread
    | inl hnone =>
      cases h with
      | markDegraded | markPermanent | coordinationFailure => exact hmu
      | lock | refuse | read | skip | call | success | failure | mark | conclude
      | unlock => cases hnone

/-- What the counter showed when the thread began. -/
def Phase.starting : Phase → Option Nat
  | .between _ starting | .inside _ _ starting => some starting
  | _ => none

structure Sound (s : State) : Prop where
  owned : Owned s
  counted : ∀ i starting, (s.phase i).starting = some starting → s.manager.Counted starting

/-- A thread in `Recover` that does not make the transition sees at most a report. -/
theorem Owned.reported (hs : Owned s) (h : Next present s l s') (hi : s.phase i ≠ .outside)
    (hl : l.thread ≠ some i) : l.isStep = false ∧ s.manager.Reported s'.manager := by
  have hnone : l.thread = none := (hs.alone h hi).resolve_right hl
  cases h with
  | markDegraded => exact ⟨rfl, s.manager.markDegraded_reported _⟩
  | markPermanent => exact ⟨rfl, s.manager.markPermanent_reported _⟩
  | coordinationFailure => exact ⟨rfl, s.manager.coordinationFailure_reported _⟩
  | lock | refuse | read | skip | call | success | failure | mark | conclude | unlock =>
    cases hnone

theorem Sound.next (hs : Sound s) (h : Next present s l s') : Sound s' := by
  refine ⟨hs.owned.next h, fun i starting hi => ?_⟩
  by_cases hthread : l.thread = some i
  · cases h with
    | markDegraded | markPermanent | coordinationFailure => cases hthread
    | lock | refuse | failure | mark | conclude | unlock =>
      cases hthread
      simp [Phase.starting] at hi
    | read _ hperm =>
      cases hthread
      rw [goto_phase_self] at hi
      cases hi
      exact ⟨le_refl _, fun _ => hperm⟩
    | skip hp | call hp | success hp =>
      cases hthread
      rw [goto_phase_self] at hi
      exact hs.counted i starting (by rw [hp]; exact hi)
  · rw [h.phase_of_ne hthread] at hi
    have hin : s.phase i ≠ .outside := by
      intro hout
      rw [hout] at hi
      cases hi
    exact ((hs.owned.reported h hin hthread).2.counted (hs.counted i starting hi)).1

theorem sound_init : Sound {} :=
  ⟨fun _ hi => absurd rfl hi, nofun⟩

/-! ## Readiness -/

/-- The labels of a thread that ran these steps without an error. -/
def executed (i : Nat) (done : List RecoveryStep) : List Label :=
  done.flatMap fun step => [.call i step, .ret i step .nil]

/-- The run since thread `i` read the counter as `starting`: the steps it shows are
    `events`, and unless the counter moved on nobody reported a failure. -/
def Since (s : State) (ls : List Label) (i starting : Nat) (events : List Label) : Prop :=
  ∃ before during, ls = before ++ .read i :: during ∧ during.filter Label.isStep = events ∧
    (s.manager.failures = starting → ∀ l ∈ during, l.isReport = false)

theorem Since.quiet {events events' : List Label} {starting : Nat}
    (h : Since s ls i starting events) (hl : l.isReport = false) (hm : s'.manager = s.manager)
    (he : events' = events ++ [l].filter Label.isStep) :
    Since s' (ls ++ [l]) i starting events' := by
  obtain ⟨before, during, hls, hevents, hquiet⟩ := h
  refine ⟨before, during ++ [l], by simp [hls], by simp [he, hevents], ?_⟩
  intro heq l' hl'
  rw [hm] at heq
  rcases List.mem_append.mp hl' with hold | hnew
  · exact hquiet heq l' hold
  · rwa [List.mem_singleton.mp hnew]

theorem Since.report {events : List Label} {starting : Nat} (h : Since s ls i starting events)
    (hl : l.isStep = false) (hne : s'.manager.failures ≠ starting) :
    Since s' (ls ++ [l]) i starting events := by
  obtain ⟨before, during, hls, hevents, -⟩ := h
  exact ⟨before, during ++ [l], by simp [hls], by simp [hevents, hl], fun heq => absurd heq hne⟩

/-- What is known of a thread in this phase. -/
def Underway (present : RecoveryStep → Bool) (s : State) (ls : List Label) (i : Nat) :
    Phase → Prop
  | .between left starting =>
    ∃ done, steps = done ++ left ∧ Since s ls i starting (executed i (done.filter present))
  | .inside step left starting =>
    ∃ done, steps = done ++ step :: left ∧ present step = true ∧
      Since s ls i starting (executed i (done.filter present) ++ [.call i step])
  | _ => True

structure Recorded (present : RecoveryStep → Bool) (s : State) (ls : List Label) : Prop where
  sound : Sound s
  underway : ∀ i, Underway present s ls i (s.phase i)

/-- A report changes nothing about what a thread has done. -/
theorem Underway.report {p : Phase} (h : Underway present s ls i p) (hl : l.isStep = false)
    (hne : ∀ starting, p.starting = some starting → s'.manager.failures ≠ starting) :
    Underway present s' (ls ++ [l]) i p := by
  cases p with
  | between left starting =>
    obtain ⟨done, hsteps, hsince⟩ := h
    exact ⟨done, hsteps, hsince.report hl (hne _ rfl)⟩
  | inside step left starting =>
    obtain ⟨done, hsteps, hgiven, hsince⟩ := h
    exact ⟨done, hsteps, hgiven, hsince.report hl (hne _ rfl)⟩
  | outside | entered | failing _ | returning _ => trivial

theorem Underway.next (h : Underway present s ls i (s.phase i)) (hl : l.thread = some i)
    (hnext : Next present s l s') : Underway present s' (ls ++ [l]) i (s'.phase i) := by
  cases hnext with
  | markDegraded | markPermanent | coordinationFailure => cases hl
  | lock | refuse | failure | mark | conclude | unlock =>
    cases hl
    rw [goto_phase_self]
    trivial
  | read =>
    cases hl
    rw [goto_phase_self]
    exact ⟨[], rfl, ls, [], rfl, rfl, by simp⟩
  | skip hbetween habsent =>
    cases hl
    rw [hbetween] at h
    obtain ⟨done, hsteps, hsince⟩ := h
    rw [goto_phase_self]
    refine ⟨done ++ [_], by rw [hsteps, List.append_assoc]; rfl, ?_⟩
    exact hsince.quiet rfl rfl (by simp [habsent, Label.isStep])
  | call hbetween hgiven =>
    cases hl
    rw [hbetween] at h
    obtain ⟨done, hsteps, hsince⟩ := h
    rw [goto_phase_self]
    exact ⟨done, hsteps, hgiven, hsince.quiet rfl rfl rfl⟩
  | success hinside =>
    cases hl
    rw [hinside] at h
    obtain ⟨done, hsteps, hgiven, hsince⟩ := h
    rw [goto_phase_self]
    refine ⟨done ++ [_], by rw [hsteps, List.append_assoc]; rfl, ?_⟩
    rw [List.filter_append, List.filter_cons_of_pos hgiven, List.filter_nil, executed,
      List.flatMap_append]
    exact hsince.quiet rfl rfl (by rw [List.append_assoc]; rfl)

theorem Recorded.next (h : Recorded present s ls) (hnext : Next present s l s') :
    Recorded present s' (ls ++ [l]) := by
  refine ⟨h.sound.next hnext, fun i => ?_⟩
  by_cases hthread : l.thread = some i
  · exact (h.underway i).next hthread hnext
  rw [hnext.phase_of_ne hthread]
  by_cases hout : s.phase i = .outside
  · rw [hout]
    trivial
  -- this thread is in `Recover`, so the label is a report
  obtain ⟨hstep, hm⟩ := h.sound.owned.reported hnext hout hthread
  refine (h.underway i).report hstep fun starting hi => ?_
  exact (hm.counted (h.sound.counted i starting hi)).2

/-- What holds of a run so far and of its next transition. -/
structure Readiness (present : RecoveryStep → Bool) (s : State) (ls : List Label) : Prop where
  /-- The manager becomes ready by a `Recover` that ran all its steps without an error,
      and since it began nobody reported a failure. -/
  transition : ∀ l s', next present s l = some s' → s.manager.ready = false →
    s'.manager.ready = true → ∃ i now before during, l = .conclude i now ∧
      ls = before ++ .read i :: during ∧
      during.filter Label.isStep = executed i (steps.filter present) ∧
      ∀ l ∈ during, l.isReport = false
  /-- The steps of two recoveries never overlap. -/
  exclusive : ∀ i j step step' left left' starting starting',
    s.phase i = .inside step left starting → s.phase j = .inside step' left' starting' → i = j
  /-- A permanent fault stays. -/
  permanent : s.manager.permanent = true → ∀ l s', next present s l = some s' →
    s'.manager.permanent = true

def NotWrapping (_ : State) (_ : Label) (s' : State) : Prop := s'.manager.failures < counterRange

instance (s : State) (l : Label) (s' : State) : Decidable (NotWrapping s l s') :=
  inferInstanceAs (Decidable (_ < _))

theorem Recorded.readiness (h : Recorded present s ls) (hwrap : s.manager.failures < counterRange) :
    Readiness present s ls := by
  -- at the end of a recovery the counter is compared exactly
  have unchanged : ∀ i starting now, s.phase i = .between [] starting →
      s.manager.failures = starting ∨
        (s.manager.conclude starting now).1 = s.manager := by
    intro i starting now hp
    have hle := (h.sound.counted i starting (by rw [hp]; rfl)).le
    by_cases heq : s.manager.failures = starting
    · exact .inl heq
    · exact .inr (congrArg Prod.fst (RecoveryManager.conclude_of_lt now hle (by omega) heq))
  constructor
  case transition =>
    intro l s' hl hnot hready
    obtain ⟨-, hm⟩ | ⟨-, hm⟩ | ⟨i, now, starting, rfl, hp, hm⟩ := (next_inv hl).manager
    · rw [hm.notReady] at hready
      cases hready
    · rw [hm, hnot] at hready
      cases hready
    have hu := h.underway i
    rw [hp] at hu
    obtain ⟨done, hsteps, before, during, hls, hevents, hquiet⟩ := hu
    rw [List.append_nil] at hsteps
    cases unchanged i starting now hp with
    | inl heq =>
      exact ⟨i, now, before, during, rfl, hls, by rw [hevents, hsteps], hquiet heq⟩
    | inr hsame =>
      rw [hm, hsame, hnot] at hready
      cases hready
  case exclusive =>
    intro i j step step' left left' starting starting' hi hj
    have hmui := h.sound.owned i (by rw [hi]; simp)
    have hmuj := h.sound.owned j (by rw [hj]; simp)
    exact Option.some.inj (hmui.symm.trans hmuj)
  case permanent =>
    intro hperm l s' hl
    obtain ⟨-, hm⟩ | ⟨-, hm⟩ | ⟨i, now, starting, rfl, hp, hm⟩ := (next_inv hl).manager
    · exact hm.permanent hperm
    · rwa [hm]
    cases unchanged i starting now hp with
    | inr hsame => rwa [hm, hsame]
    | inl heq =>
      -- a permanent fault was reported since the recovery began
      have hcounted := h.sound.counted i starting (by rw [hp]; rfl)
      rw [hcounted.notPermanent heq] at hperm
      cases hperm

/-- **RecoveryManager readiness**: in every interleaving of recoveries and failure reports
    in which the counter does not wrap. -/
theorem recovery_readiness (present : RecoveryStep → Bool) (s : State) (ls : List Label)
    (h : ((recovery present).restrict NotWrapping).record.Reachable (s, ls)) :
    Readiness present s ls := by
  have hinv : Recorded present s ls ∧ s.manager.failures < counterRange := by
    refine System.invariant _ (I := fun r => Recorded present r.1 r.2 ∧
      r.1.manager.failures < counterRange) ?_ ?_ h
    · rintro ⟨s, ls⟩ ⟨rfl, rfl⟩
      exact ⟨⟨sound_init, fun i => trivial⟩, by decide⟩
    · rintro ⟨s, ls⟩ l ⟨s', ls'⟩ hs ⟨⟨hstep, hwrap⟩, rfl⟩
      exact ⟨hs.1.next (next_inv hstep), hwrap⟩
  exact hinv.1.readiness hinv.2

/-- A recovery while another thread waits, up to its last critical section: a report comes
    before it begins, and the manager was given no fingerprint check. -/
def plainRecovery : List Label :=
  [.markDegraded (.text "connection lost"), .lock 0, .read 0, .call 0 .ping, .ret 0 .ping .nil,
   .skip 0, .call 0 .reloadConfiguration, .ret 0 .reloadConfiguration .nil,
   .call 0 .reconcileLeases, .ret 0 .reconcileLeases .nil, .call 0 .replayFailures,
   .ret 0 .replayFailures .nil, .call 0 .refreshCircuits, .ret 0 .refreshCircuits .nil]

def withoutFingerprint (step : RecoveryStep) : Bool := step != .checkFingerprint

/-- The transition function as long as the counter does not wrap. -/
def nextBounded (present : RecoveryStep → Bool) (s : State) (l : Label) : Option State :=
  (next present s l).filter fun s' => decide (NotWrapping s l s')

theorem nextBounded_step (s : State) (l : Label) (s' : State)
    (h : nextBounded present s l = some s') :
    ((recovery present).restrict NotWrapping).step s l s' := by
  obtain ⟨hnext, hwrap⟩ := Option.filter_eq_some_iff.mp h
  exact ⟨hnext, of_decide_eq_true hwrap⟩

def plainState : State :=
  (plainRecovery.foldlM (nextBounded withoutFingerprint) {}).getD {}

theorem recovery_readiness_plainRecovery :
    plainState.manager.ready = false ∧
    ((next withoutFingerprint plainState (.conclude 0 7)).map fun s => s.manager.ready)
      = some true ∧
    Readiness withoutFingerprint plainState plainRecovery := by
  refine ⟨by decide +kernel, by decide +kernel, recovery_readiness _ _ _ ?_⟩
  exact System.record_reachable_of_isSome _ nextBounded_step rfl _ (by decide +kernel)

end Recovery

end Coordination
