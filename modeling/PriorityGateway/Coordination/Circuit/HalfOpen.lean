import PriorityGateway.Framework.System
import PriorityGateway.Coordination.Circuit.Breaker

/-! # The Half-Open Discipline

    A breaker in use: callers acquire, look at it and report how their
    requests ended, in any order, with any timestamps, as often and as late as
    they like.  The functions that `Acquire` returned are kept in the order in
    which they were handed out, each with the state the breaker was in and with
    what it was first called with; `sync.Once` ignores its other calls.

    The breaker keeps three fields about a half-open generation
    (`probesInFlight`, `halfOpenSucceeded` and the generation itself).  The
    invariant `Probed` ties them to the functions: those of the generation that
    nobody has called, those called with a success, and none called with a
    failure. -/

namespace CircuitBreaker

open Coordination (CircuitState InferenceOutcome)

/-! ## A breaker in use -/

/-- A function that `Acquire` returned, the state and the generation in which `Acquire` left
    the breaker, and the arguments of the function's first call. -/
structure Handle where
  completion : Completion
  state : CircuitState
  generation : Nat
  report : Option (InferenceOutcome × Int) := none
  deriving DecidableEq, Repr

/-- A breaker, the functions it has handed out, and the times at which the failures of a
    closed generation were pruned, with the generation. -/
structure InUse where
  breaker : Breaker := {}
  handles : List Handle := []
  prunes : List (Nat × Int) := []
  deriving DecidableEq, Repr

inductive Call where
  | acquire (now : Int)
  | snapshot (now : Int)
  | complete (handle : Nat) (outcome : InferenceOutcome) (completedAt : Int)
  deriving DecidableEq, Repr

inductive Answer where
  | acquired (handle : Option Nat)
  | snapped (snapshot : Snapshot)
  | completed
  deriving DecidableEq, Repr

/-- When `Acquire` and `Snapshot` prune. -/
def refreshPrunes (b : Breaker) (now : Int) : List (Nat × Int) :=
  if b.state = .circuitClosed then [(b.generation, now)] else []

/-- When a completion of a closed generation prunes: at the latest of the failures that were
    kept and the new one. -/
def reportPrunes (b : Breaker) (c : Completion) (outcome : InferenceOutcome)
    (completedAt : Int) : List (Nat × Int) :=
  if c = ⟨b.generation, false⟩ ∧ b.state = .circuitClosed ∧ outcome = .inferenceFailure then
    [(b.generation, b.failures.foldl max completedAt)]
  else []

/-- The breaker as `Snapshot` leaves it. -/
def InUse.refresh (o : Options) (s : InUse) (now : Int) : InUse :=
  { s with
    breaker := refreshed o s.breaker now
    prunes := s.prunes ++ refreshPrunes s.breaker now }

/-- One more function is handed out. -/
def InUse.handOut (s : InUse) (breaker : Breaker) (completion : Completion) : InUse :=
  { s with
    breaker := breaker
    handles := s.handles ++ [⟨completion, breaker.state, breaker.generation, none⟩] }

/-- The first call of a function. -/
def InUse.finish (o : Options) (s : InUse) (i : Nat) (h : Handle) (outcome : InferenceOutcome)
    (completedAt : Int) : InUse where
  breaker := complete o s.breaker h.completion outcome completedAt
  handles := s.handles.set i { h with report := some (outcome, completedAt) }
  prunes := s.prunes ++ reportPrunes s.breaker h.completion outcome completedAt

def useAcquire (o : Options) (s : InUse) (now : Int) : InUse × Answer :=
  match acquire o s.breaker now with
  | (breaker, none) =>
    ({ s with breaker := breaker, prunes := s.prunes ++ refreshPrunes s.breaker now },
      .acquired none)
  | (breaker, some completion) =>
    (InUse.handOut { s with prunes := s.prunes ++ refreshPrunes s.breaker now } breaker completion,
      .acquired (some s.handles.length))

/-- A call of a function that was handed out. -/
def useComplete (o : Options) (s : InUse) (i : Nat) (outcome : InferenceOutcome)
    (completedAt : Int) : InUse × Answer :=
  match s.handles[i]? with
  | none => (s, .completed)
  | some h =>
    if h.report = none then (s.finish o i h outcome completedAt, .completed) else (s, .completed)

def useStep (o : Options) (s : InUse) : Call → InUse × Answer
  | .acquire now => useAcquire o s now
  | .snapshot now => (s.refresh o now, .snapped (snapshot o s.breaker now).2)
  | .complete i outcome completedAt => useComplete o s i outcome completedAt

def inUse (o : Options) : Machine InUse Call Answer where
  step := useStep o

/-! ## What a call does -/

variable (o : Options)

/-- `Acquire` refreshes the breaker, and then it refuses, lets a request pass or grants a
    probe. -/
theorem useAcquire_cases (s : InUse) (now : Int) :
    (useAcquire o s now).1 = s.refresh o now ∨
    ((s.refresh o now).breaker.state = .circuitClosed ∧
      (useAcquire o s now).1
        = (s.refresh o now).handOut (s.refresh o now).breaker
            ⟨(s.refresh o now).breaker.generation, false⟩) ∨
    ((s.refresh o now).breaker.state = .circuitHalfOpen ∧
      ¬ Refuses o (s.refresh o now).breaker ∧
      (useAcquire o s now).1
        = (s.refresh o now).handOut (probing (s.refresh o now).breaker)
            ⟨(s.refresh o now).breaker.generation, true⟩) := by
  unfold useAcquire
  cases hstate : (refreshed o s.breaker now).state with
  | circuitClosed =>
    rw [acquire_closed hstate]
    exact .inr (.inl ⟨hstate, rfl⟩)
  | circuitOpen =>
    rw [acquire_refused (.inl hstate)]
    exact .inl rfl
  | circuitHalfOpen =>
    by_cases hroom : Refuses o (refreshed o s.breaker now)
    · rw [acquire_refused hroom]
      exact .inl rfl
    · rw [acquire_probe hstate hroom]
      exact .inr (.inr ⟨hstate, hroom, rfl⟩)

/-- A completion does something the first time its function is called. -/
theorem useComplete_cases (s : InUse) (i : Nat) (outcome : InferenceOutcome) (t : Int) :
    (useComplete o s i outcome t).1 = s ∨
    ∃ h, s.handles[i]? = some h ∧ h.report = none ∧
      (useComplete o s i outcome t).1 = s.finish o i h outcome t := by
  unfold useComplete
  rcases hhandle : s.handles[i]? with _ | h
  · exact .inl rfl
  dsimp only
  by_cases hreport : h.report = none
  · rw [if_pos hreport]
    exact .inr ⟨h, rfl, hreport, rfl⟩
  · rw [if_neg hreport]
    exact .inl rfl

/-! ## The probes of a generation -/

/-- The function was handed out by a half-open breaker of the generation. -/
def Handle.Probes (h : Handle) (generation : Nat) : Prop :=
  h.state = .circuitHalfOpen ∧ h.generation = generation
  deriving Decidable

/-- A probe of the generation that was not reported yet. -/
def waits (generation : Nat) (h : Handle) : Bool := decide (h.Probes generation ∧ h.report = none)

/-- How many probes of the current generation were granted and not completed. -/
def InUse.outstanding (s : InUse) : Nat := s.handles.countP (waits s.breaker.generation)

/-- The function carries its generation, which is not a later one, and the flag it should. -/
def Handle.Labelled (h : Handle) (generation : Nat) : Prop :=
  h.completion = ⟨h.generation, decide (h.state = .circuitHalfOpen)⟩ ∧ h.generation ≤ generation

/-- What ties the fields of the breaker to the functions it has handed out. -/
structure Probed (o : Options) (s : InUse) : Prop where
  labelled : ∀ h ∈ s.handles, h.Labelled s.breaker.generation
  probes : ∀ h ∈ s.handles, h.Probes s.breaker.generation →
    s.breaker.state = .circuitHalfOpen
  inFlight : s.outstanding = s.breaker.probesInFlight
  bounded : (s.breaker.probesInFlight : Int) ≤ o.halfOpenMaxProbes
  succeeded : s.breaker.halfOpenSucceeded = true →
    0 < s.breaker.probesInFlight ∧
      ∃ h ∈ s.handles, h.Probes s.breaker.generation ∧
        ∃ t, h.report = some (.inferenceSuccess, t)
  unfailed : ∀ h ∈ s.handles, h.Probes s.breaker.generation →
    ∀ t, h.report ≠ some (.inferenceFailure, t)

theorem Probed.initial : Probed o {} where
  labelled := nofun
  probes := nofun
  inFlight := rfl
  bounded := o.probes_pos.le
  succeeded := nofun
  unfailed := nofun

theorem Probed.of_new {o : Options} {s : InUse} {generation : Nat}
    (hlabelled : ∀ h ∈ s.handles, h.Labelled generation)
    (hgeneration : s.breaker.generation = generation + 1) (hprobes : s.breaker.probesInFlight = 0)
    (hsucceeded : s.breaker.halfOpenSucceeded = false) : Probed o s := by
  have hnone : ∀ h ∈ s.handles, ¬ h.Probes s.breaker.generation := by
    intro h hh heq
    have hle := (hlabelled h hh).2
    rw [heq.2] at hle
    omega
  refine ⟨?_, ?_, ?_, ?_, ?_, ?_⟩
  · intro h hh
    obtain ⟨hflag, hle⟩ := hlabelled h hh
    exact ⟨hflag, by omega⟩
  · exact fun h hh heq => absurd heq (hnone h hh)
  · rw [hprobes]
    apply List.countP_eq_zero.mpr
    intro h hh
    simp [waits, hnone h hh]
  · rw [hprobes]
    exact o.probes_pos.le
  · intro htrue
    rw [hsucceeded] at htrue
    cases htrue
  · exact fun h hh heq => absurd heq (hnone h hh)

variable {b : Breaker} {h : Handle}

theorem mem_handOut {s : InUse} {c : Completion} (hh : h ∈ (s.handOut b c).handles) :
    h ∈ s.handles ∨ h = ⟨c, b.state, b.generation, none⟩ := by
  rcases List.mem_append.mp hh with hold | hnew
  · exact .inl hold
  · exact .inr (List.mem_singleton.mp hnew)

section Steps

variable {o : Options} {s : InUse}

/-- The invariant is about four fields of the breaker only. -/
theorem Probed.congr (hs : Probed o s) {s' : InUse} (hhandles : s'.handles = s.handles)
    (hstate : s'.breaker.state = s.breaker.state)
    (hgeneration : s'.breaker.generation = s.breaker.generation)
    (hprobes : s'.breaker.probesInFlight = s.breaker.probesInFlight)
    (hsucceeded : s'.breaker.halfOpenSucceeded = s.breaker.halfOpenSucceeded) : Probed o s' := by
  refine ⟨?_, ?_, ?_, ?_, ?_, ?_⟩
  · rw [hhandles, hgeneration]
    exact hs.labelled
  · rw [hhandles, hgeneration, hstate]
    exact hs.probes
  · unfold InUse.outstanding
    rw [hhandles, hgeneration, hprobes]
    exact hs.inFlight
  · rw [hprobes]
    exact hs.bounded
  · rw [hhandles, hgeneration, hprobes, hsucceeded]
    exact hs.succeeded
  · rw [hhandles, hgeneration]
    exact hs.unfailed

theorem Probed.refresh (hs : Probed o s) (now : Int) : Probed o (s.refresh o now) := by
  rcases refreshed_fields o s.breaker now with ⟨hstate, hgen, hprobes, hsucc⟩ |
      ⟨-, -, hgen, hprobes, hsucc⟩
  · exact hs.congr rfl hstate hgen hprobes hsucc
  · exact .of_new hs.labelled hgen hprobes hsucc

theorem Probed.labelled_handOut (hs : Probed o s) {probe : Bool}
    (hprobe : decide (b.state = .circuitHalfOpen) = probe)
    (hb : b.generation = s.breaker.generation) :
    ∀ h ∈ (s.handOut b ⟨b.generation, probe⟩).handles, h.Labelled s.breaker.generation := by
  intro h hh
  rcases mem_handOut hh with hold | rfl
  · exact hs.labelled h hold
  · exact ⟨by rw [← hprobe], hb.le⟩

/-- A request of a closed generation is no probe. -/
theorem Probed.pass (hs : Probed o s) (hclosed : s.breaker.state = .circuitClosed) :
    Probed o (s.handOut s.breaker ⟨s.breaker.generation, false⟩) := by
  have hold : ∀ h ∈ (s.handOut s.breaker ⟨s.breaker.generation, false⟩).handles,
      h.Probes s.breaker.generation → h ∈ s.handles := by
    intro h hh hprobes
    rcases mem_handOut hh with hold | rfl
    · exact hold
    · have hstate : s.breaker.state = .circuitHalfOpen := hprobes.1
      rw [hclosed] at hstate
      cases hstate
  refine ⟨hs.labelled_handOut (by simp [hclosed]) rfl, ?_, ?_, hs.bounded, ?_, ?_⟩
  · exact fun h hh heq => hs.probes h (hold h hh heq) heq
  · have hcount := hs.inFlight
    unfold InUse.outstanding InUse.handOut at *
    rw [List.countP_append, hcount]
    simp [waits, Handle.Probes, hclosed]
  · intro hsucc
    obtain ⟨hpos, h, hh, hreport⟩ := hs.succeeded hsucc
    exact ⟨hpos, h, List.mem_append_left _ hh, hreport⟩
  · exact fun h hh heq => hs.unfailed h (hold h hh heq) heq

/-- A probe is granted while there is room and none has succeeded. -/
theorem Probed.grant (hs : Probed o s) (hstate : s.breaker.state = .circuitHalfOpen)
    (hroom : ¬ Refuses o s.breaker) :
    Probed o (s.handOut (probing s.breaker) ⟨s.breaker.generation, true⟩) := by
  have hopen : s.breaker.halfOpenSucceeded = false ∧
      (s.breaker.probesInFlight : Int) < o.halfOpenMaxProbes := by
    unfold Refuses at hroom
    rw [not_or, not_and, not_or] at hroom
    obtain ⟨hsucc, hless⟩ := hroom.2 hstate
    exact ⟨Bool.not_eq_true _ ▸ hsucc, by omega⟩
  refine ⟨hs.labelled_handOut (b := probing s.breaker) (decide_eq_true hstate) rfl,
    fun _ _ _ => hstate, ?_, ?_, ?_, ?_⟩
  · -- the new function waits, whatever flag it carries
    have hcount := hs.inFlight
    show List.countP (waits s.breaker.generation) (s.handles ++ [_]) = s.breaker.probesInFlight + 1
    unfold InUse.outstanding at hcount
    rw [List.countP_append, hcount]
    simp [waits, Handle.Probes, probing, hstate]
  · show ((s.breaker.probesInFlight + 1 : Nat) : Int) ≤ o.halfOpenMaxProbes
    omega
  · intro hsucc
    have htrue : s.breaker.halfOpenSucceeded = true := hsucc
    rw [hopen.1] at htrue
    cases htrue
  · intro h hh heq t
    rcases mem_handOut hh with hold | rfl
    · exact hs.unfailed h hold heq t
    · exact nofun

/-! Reports. -/

variable {i : Nat} {h h' : Handle} {outcome : InferenceOutcome} {t : Int}

/-- What the breaker does at the first call of a function. -/
theorem finished (o : Options) (s : InUse) (i : Nat) (h : Handle) (outcome : InferenceOutcome)
    (t : Int) : Completed o s.breaker h.completion outcome t (s.finish o i h outcome t).breaker :=
  completed o s.breaker h.completion outcome t

theorem mem_finish (hh : h' ∈ (s.finish o i h outcome t).handles) :
    h' ∈ s.handles ∨ h' = { h with report := some (outcome, t) } :=
  List.mem_or_eq_of_mem_set hh

theorem mem_finish_of_reported (hi : s.handles[i]? = some h) (hreport : h.report = none)
    {report : InferenceOutcome × Int} (hh : h' ∈ s.handles) (hreported : h'.report = some report) :
    h' ∈ (s.finish o i h outcome t).handles := by
  obtain ⟨j, hj⟩ := List.getElem?_of_mem hh
  have hne : i ≠ j := by
    rintro rfl
    rw [hi] at hj
    rw [← Option.some.inj hj, hreport] at hreported
    cases hreported
  apply List.mem_of_getElem? (i := j)
  show (s.handles.set i _)[j]? = some h'
  rw [List.getElem?_set, if_neg hne, hj]

/-- A report takes a probe of the generation out of the count. -/
theorem countP_finish (hi : s.handles[i]? = some h) (hreport : h.report = none) (generation : Nat) :
    (s.finish o i h outcome t).handles.countP (waits generation)
      = s.handles.countP (waits generation) -
          if h.Probes generation then 1 else 0 := by
  obtain ⟨hlt, hget⟩ := List.getElem?_eq_some_iff.mp hi
  show (s.handles.set i _).countP (waits generation) = _
  rw [List.countP_set hlt, hget]
  simp [waits, hreport]

section

variable (hs : Probed o s) (hi : s.handles[i]? = some h)
include hs hi

theorem labelled_finish :
    ∀ h' ∈ (s.finish o i h outcome t).handles, h'.Labelled s.breaker.generation := by
  intro h' hh
  rcases mem_finish hh with hold | rfl
  · exact hs.labelled h' hold
  · exact hs.labelled h (List.mem_of_getElem? hi)

/-- The report of a request, or of a probe of another generation, that leaves the breaker in
    its generation. -/
theorem Probed.finish_other
    (hreport : h.report = none) (hother : ¬ h.Probes s.breaker.generation)
    (hb : (s.finish o i h outcome t).breaker = b) (hstate : b.state = s.breaker.state)
    (hgeneration : b.generation = s.breaker.generation)
    (hprobes : b.probesInFlight = s.breaker.probesInFlight)
    (hsucceeded : b.halfOpenSucceeded = s.breaker.halfOpenSucceeded) :
    Probed o (s.finish o i h outcome t) := by
  subst hb
  have hother' : ∀ {h' : Handle}, h' ∈ (s.finish o i h outcome t).handles →
      h'.Probes s.breaker.generation → h' ∈ s.handles := by
    intro h' hh heq
    rcases mem_finish hh with hold | rfl
    · exact hold
    · exact absurd heq hother
  refine ⟨?_, ?_, ?_, ?_, ?_, ?_⟩
  · rw [hgeneration]
    exact labelled_finish hs hi
  · rw [hgeneration, hstate]
    exact fun h' hh heq => hs.probes h' (hother' hh heq) heq
  · have hcount := hs.inFlight
    unfold InUse.outstanding at *
    rw [hgeneration, countP_finish hi hreport, if_neg hother, hprobes, ← hcount]
    rfl
  · rw [hprobes]
    exact hs.bounded
  · rw [hgeneration, hprobes, hsucceeded]
    intro hsucc
    obtain ⟨hpos, h', hh, heq, time, hreported⟩ := hs.succeeded hsucc
    exact ⟨hpos, h', mem_finish_of_reported hi hreport hh hreported, heq, time, hreported⟩
  · rw [hgeneration]
    exact fun h' hh heq => hs.unfailed h' (hother' hh heq) heq

/-- Some probe has succeeded, once a probe has set the mark. -/
theorem Probed.success_finish
    (hreport : h.report = none) (hc : h.Probes s.breaker.generation)
    (hsucc : (probeReturned s.breaker outcome).halfOpenSucceeded = true) :
    ∃ h' ∈ (s.finish o i h outcome t).handles, h'.Probes s.breaker.generation ∧
      ∃ t, h'.report = some (.inferenceSuccess, t) := by
  rcases Bool.or_eq_true _ _ ▸ hsucc with hbefore | hnow
  · obtain ⟨-, h', hh, heq, time, hreported⟩ := hs.succeeded hbefore
    exact ⟨h', mem_finish_of_reported hi hreport hh hreported, heq, time, hreported⟩
  · rw [of_decide_eq_true hnow]
    obtain ⟨hlt, -⟩ := List.getElem?_eq_some_iff.mp hi
    exact ⟨_, List.mem_set hlt _, hc, t, rfl⟩

/-- The report of a probe while others are still out. -/
theorem Probed.finish_returned
    (hreport : h.report = none) (hc : h.Probes s.breaker.generation)
    (hstate : s.breaker.state = .circuitHalfOpen) (hfailure : outcome ≠ .inferenceFailure)
    (hwaits : ¬ ((probeReturned s.breaker outcome).halfOpenSucceeded ∧
      (probeReturned s.breaker outcome).probesInFlight = 0))
    (hb : (s.finish o i h outcome t).breaker = probeReturned s.breaker outcome) :
    Probed o (s.finish o i h outcome t) := by
  have hgeneration : (s.finish o i h outcome t).breaker.generation = s.breaker.generation := by
    rw [hb]
    rfl
  refine ⟨?_, ?_, ?_, ?_, ?_, ?_⟩
  · rw [hgeneration]
    exact labelled_finish hs hi
  · rw [hb]
    exact fun _ _ _ => hstate
  · have hcount := hs.inFlight
    unfold InUse.outstanding at *
    rw [hgeneration, countP_finish hi hreport, if_pos hc, hcount, hb]
    rfl
  · rw [hb]
    have hbounded := hs.bounded
    show ((s.breaker.probesInFlight - 1 : Nat) : Int) ≤ o.halfOpenMaxProbes
    omega
  · rw [hgeneration, hb]
    intro hsucc
    exact ⟨Nat.pos_of_ne_zero fun hzero => hwaits ⟨hsucc, hzero⟩,
      hs.success_finish hi hreport hc hsucc⟩
  · rw [hgeneration]
    intro h' hh heq time hfailed
    rcases mem_finish hh with hold | rfl
    · exact hs.unfailed h' hold heq time hfailed
    · exact hfailure (Prod.mk.inj (Option.some.inj hfailed)).1

end

/-- The flag of a function says whether it is a probe of the generation. -/
theorem Probed.completion_eq (hs : Probed o s) (hh : h ∈ s.handles) :
    h.completion = ⟨s.breaker.generation, true⟩ ↔ h.Probes s.breaker.generation := by
  rw [(hs.labelled h hh).1]
  simp [Handle.Probes, and_comm]

theorem Probed.finish (hs : Probed o s) (hi : s.handles[i]? = some h) (hreport : h.report = none) :
    Probed o (s.finish o i h outcome t) := by
  have hprobe := hs.completion_eq (List.mem_of_getElem? hi)
  have hdone := finished o s i h outcome t
  generalize hb : (s.finish o i h outcome t).breaker = b at hdone
  cases hdone with
  | ignored hignored =>
    apply hs.finish_other hi hreport ?_ hb rfl rfl rfl rfl
    -- a probe of this generation is not ignored
    intro hc
    have hstate := hs.probes h (List.mem_of_getElem? hi) hc
    rw [hprobe.mpr hc] at hignored
    rcases hignored with hne | ⟨hprobe, -⟩ | ⟨-, hne⟩
    · exact hne rfl
    · cases hprobe
    · exact hne hstate
  | counted hc _ _ _ =>
    apply hs.finish_other hi hreport ?_ hb rfl rfl rfl rfl
    rw [← hprobe, hc]
    exact nofun
  | tripped | probeFailed | drained =>
    -- the new generation has no probes yet
    exact .of_new (labelled_finish hs hi) (congrArg Breaker.generation hb)
      (congrArg Breaker.probesInFlight hb) (congrArg Breaker.halfOpenSucceeded hb)
  | returned hc hstate hfailure hwaits =>
    exact hs.finish_returned hi hreport (hprobe.mp hc) hstate hfailure hwaits hb

theorem Probed.step (hs : Probed o s) (c : Call) : Probed o (useStep o s c).1 := by
  cases c with
  | acquire now =>
    have hr := hs.refresh now
    show Probed o (useAcquire o s now).1
    rcases useAcquire_cases o s now with heq | ⟨hclosed, heq⟩ | ⟨hstate, hroom, heq⟩
    · rw [heq]
      exact hr
    · rw [heq]
      exact hr.pass hclosed
    · rw [heq]
      exact hr.grant hstate hroom
  | snapshot now => exact hs.refresh now
  | complete i outcome t =>
    show Probed o (useComplete o s i outcome t).1
    rcases useComplete_cases o s i outcome t with heq | ⟨h, hi, hreport, heq⟩
    · rw [heq]
      exact hs
    · rw [heq]
      exact hs.finish hi hreport

end Steps

theorem Probed.after (o : Options) (cs : List Call) : Probed o ((inUse o).after {} cs) :=
  (inUse o).after_inv_all (I := Probed o) (fun _ c hs => hs.step c) {} cs (.initial o)

/-! ## The discipline -/

/-- What holds of a breaker in use at any time. -/
structure Disciplined (o : Options) (s : InUse) : Prop where
  inFlight : s.outstanding = s.breaker.probesInFlight
  bounded : (s.outstanding : Int) ≤ o.halfOpenMaxProbes
  /-- whoever is turned away waits for somebody -/
  notStuck : s.breaker.state = .circuitHalfOpen →
    ∀ now, (snapshot o s.breaker now).2.available = false → 0 < s.outstanding

/-- What holds of every call. -/
structure StepDisciplined (o : Options) (s : InUse) (c : Call) : Prop where
  /-- a completion of an older generation is ignored -/
  stale : ∀ i outcome t h, c = .complete i outcome t → s.handles[i]? = some h →
    h.generation < s.breaker.generation → (useStep o s c).1.breaker = s.breaker
  /-- a half-open breaker closes once every probe is back, some with success, none with failure -/
  closes : s.breaker.state = .circuitHalfOpen → (useStep o s c).1.breaker.state = .circuitClosed →
    (∀ h ∈ (useStep o s c).1.handles, h.Probes s.breaker.generation →
      ∃ outcome t, h.report = some (outcome, t) ∧ outcome ≠ .inferenceFailure) ∧
    ∃ h ∈ (useStep o s c).1.handles, h.Probes s.breaker.generation ∧
      ∃ t, h.report = some (.inferenceSuccess, t)
  /-- a failing probe opens it -/
  opens : ∀ i t h, c = .complete i .inferenceFailure t → s.handles[i]? = some h →
    h.report = none → h.Probes s.breaker.generation →
    (useStep o s c).1.breaker.state = .circuitOpen
  /-- generations count the changes of state -/
  generation : (useStep o s c).1.breaker.generation
    = if (useStep o s c).1.breaker.state = s.breaker.state then s.breaker.generation
      else s.breaker.generation + 1

section Discipline

variable {o : Options} {s : InUse} {i : Nat} {t : Int}

theorem Probed.disciplined (hs : Probed o s) : Disciplined o s := by
  refine ⟨hs.inFlight, ?_, ?_⟩
  · rw [hs.inFlight]
    exact hs.bounded
  intro hstate now havailable
  rw [hs.inFlight]
  unfold snapshot at havailable
  rw [refreshed_of_halfOpen hstate] at havailable
  simp only [toSnapshot, hstate, Bool.and_eq_false_iff, Bool.not_eq_false',
    decide_eq_false_iff_not] at havailable
  rcases havailable with hsucceeded | hfull
  · exact (hs.succeeded hsucceeded).1
  · have hpos := o.probes_pos
    omega

/-- The generation counts a change of state, in `Acquire` and `Snapshot` too. -/
theorem generation_refreshed (o : Options) (b : Breaker) (now : Int) :
    (refreshed o b now).generation
      = if (refreshed o b now).state = b.state then b.generation else b.generation + 1 := by
  rcases refreshed_fields o b now with ⟨hstate, hgen, -, -⟩ | ⟨hopen, hstate, hgen, -, -⟩
  · rw [if_pos hstate, hgen]
  · rw [if_neg (by rw [hstate, hopen]; exact nofun), hgen]

theorem generation_complete (o : Options) (b : Breaker) (c : Completion)
    (outcome : InferenceOutcome) (t : Int) :
    (complete o b c outcome t).generation
      = if (complete o b c outcome t).state = b.state then b.generation else b.generation + 1 := by
  have hdone := completed o b c outcome t
  generalize complete o b c outcome t = b' at hdone
  cases hdone with
  | ignored _ | counted _ _ _ _ | returned _ _ _ _ => exact (if_pos rfl).symm
  | tripped _ hstate _ _ | probeFailed _ hstate _ | drained _ hstate _ _ _ =>
    rw [if_neg (by rw [hstate]; exact nofun)]
    rfl

/-- `Acquire` and `Snapshot` leave the state and the generation of a refreshed breaker. -/
theorem useStep_refreshes (o : Options) (s : InUse) {now : Int} {c : Call}
    (hc : c = .acquire now ∨ c = .snapshot now) :
    (useStep o s c).1.breaker.state = (refreshed o s.breaker now).state ∧
      (useStep o s c).1.breaker.generation = (refreshed o s.breaker now).generation := by
  rcases hc with rfl | rfl
  · show (useAcquire o s now).1.breaker.state = _ ∧ (useAcquire o s now).1.breaker.generation = _
    rcases useAcquire_cases o s now with heq | ⟨-, heq⟩ | ⟨-, -, heq⟩ <;> rw [heq] <;>
      exact ⟨rfl, rfl⟩
  · exact ⟨rfl, rfl⟩

/-- How a half-open breaker is closed: by the last probe. -/
theorem Probed.closes (hs : Probed o s) {outcome : InferenceOutcome}
    (hi : s.handles[i]? = some h) (hreport : h.report = none)
    (hstate : s.breaker.state = .circuitHalfOpen)
    (hclosed : (s.finish o i h outcome t).breaker.state = .circuitClosed) :
    (∀ h' ∈ (s.finish o i h outcome t).handles, h'.Probes s.breaker.generation →
      ∃ outcome t, h'.report = some (outcome, t) ∧ outcome ≠ .inferenceFailure) ∧
    ∃ h' ∈ (s.finish o i h outcome t).handles, h'.Probes s.breaker.generation ∧
      ∃ t, h'.report = some (.inferenceSuccess, t) := by
  have hdone := finished o s i h outcome t
  generalize (s.finish o i h outcome t).breaker = b at hdone hclosed
  cases hdone with
  | ignored _ =>
    rw [hstate] at hclosed
    cases hclosed
  | counted _ hwas _ _ | tripped _ hwas _ _ =>
    rw [hstate] at hwas
    cases hwas
  | probeFailed _ _ _ => cases hclosed
  | returned _ _ _ _ =>
    have hsame : s.breaker.state = .circuitClosed := hclosed
    rw [hstate] at hsame
    cases hsame
  | drained hflag _ hfailure hsucceeded hdrained =>
    have hc := (hs.completion_eq (List.mem_of_getElem? hi)).mp hflag
    constructor
    · -- nobody is left to wait for
      have hnone : (s.finish o i h outcome t).handles.countP (waits s.breaker.generation) = 0 := by
        have hcount : s.handles.countP (waits s.breaker.generation) = s.breaker.probesInFlight :=
          hs.inFlight
        rw [countP_finish hi hreport, if_pos hc, hcount]
        exact hdrained
      intro h' hh heq
      rcases hreported : h'.report with _ | report
      · have hwaits := List.countP_eq_zero.mp hnone h' hh
        simp [waits, heq, hreported] at hwaits
      refine ⟨report.1, report.2, rfl, ?_⟩
      intro hfailed
      rcases mem_finish hh with hold | rfl
      · exact hs.unfailed h' hold heq report.2 (by rw [hreported, ← hfailed])
      · cases hreported
        exact hfailure hfailed
    · exact hs.success_finish hi hreport hc hsucceeded

/-- A probe of the generation that fails opens the breaker. -/
theorem Probed.finish_opens (hs : Probed o s)
    (hi : s.handles[i]? = some h) (hc : h.Probes s.breaker.generation) :
    (s.finish o i h .inferenceFailure t).breaker.state = .circuitOpen := by
  have hstate := hs.probes h (List.mem_of_getElem? hi) hc
  show (complete o s.breaker h.completion .inferenceFailure t).state = _
  rw [(hs.completion_eq (List.mem_of_getElem? hi)).mpr hc, complete_probe_failed hstate]
  rfl

theorem Probed.stepDisciplined (hs : Probed o s) (c : Call) : StepDisciplined o s c := by
  -- neither `Acquire` nor `Snapshot` completes anything
  have look : ∀ {now}, c = .acquire now ∨ c = .snapshot now → StepDisciplined o s c := by
    intro now hc
    obtain ⟨hstate, hgen⟩ := useStep_refreshes o s hc
    refine ⟨fun _ _ _ _ h => by simp [h] at hc, ?_, fun _ _ _ h => by simp [h] at hc, ?_⟩
    · intro hopen hclosed
      rw [hstate, refreshed_of_halfOpen hopen, hopen] at hclosed
      cases hclosed
    · rw [hstate, hgen]
      exact generation_refreshed o s.breaker now
  cases c with
  | acquire now => exact look (.inl rfl)
  | snapshot now => exact look (.inr rfl)
  | complete i outcome t =>
    have hstep : (useStep o s (.complete i outcome t)).1 = (useComplete o s i outcome t).1 := rfl
    rcases useComplete_cases o s i outcome t with heq | ⟨h, hi, hreport, heq⟩
    · rw [heq] at hstep
      refine ⟨fun _ _ _ _ _ _ _ => by rw [hstep], ?_, ?_, by rw [hstep, if_pos rfl]⟩
      · intro hopen hclosed
        rw [hstep, hopen] at hclosed
        cases hclosed
      -- the first call of a function is not ignored
      intro i' t' h hcall hi hreport hc
      cases hcall
      unfold useComplete at heq
      rw [hi] at heq
      dsimp only at heq
      rw [if_pos hreport] at heq
      rw [hstep, ← heq]
      exact hs.finish_opens hi hc
    · rw [heq] at hstep
      refine ⟨?_, ?_, ?_, ?_⟩
      · intro i' outcome' t' h' hcall hi' hold
        cases hcall
        rw [hi] at hi'
        cases hi'
        rw [hstep]
        apply complete_of_ne
        rw [(hs.labelled h (List.mem_of_getElem? hi)).1]
        exact hold.ne
      · intro hopen hclosed
        rw [hstep] at hclosed ⊢
        exact hs.closes hi hreport hopen hclosed
      · intro i' t' h' hcall hi' _ hc
        cases hcall
        rw [hi] at hi'
        cases hi'
        rw [hstep]
        exact hs.finish_opens hi hc
      · rw [hstep]
        exact generation_complete o s.breaker h.completion outcome t

/-- The generation grows by at most one with every call, so that the `uint64` of the source
    does not wrap before the last of 2^64 calls. -/
theorem generation_le (o : Options) (cs : List Call) :
    ((inUse o).after {} cs).breaker.generation ≤ cs.length := by
  induction cs using List.reverseRecOn with
  | nil => exact le_refl 0
  | append_singleton cs c ih =>
    have hstep := ((Probed.after o cs).stepDisciplined c).generation
    rw [Machine.after_append, List.length_append]
    show (useStep o ((inUse o).after {} cs) c).1.breaker.generation ≤ cs.length + 1
    rw [hstep]
    split
    · exact ih.trans (Nat.le_succ _)
    · exact Nat.succ_le_succ ih

end Discipline

/-- **The half-open discipline** holds after any calls, and at any next one. -/
theorem half_open_discipline (o : Options) (cs : List Call) (c : Call) :
    Disciplined o ((inUse o).after {} cs) ∧ StepDisciplined o ((inUse o).after {} cs) c :=
  ⟨(Probed.after o cs).disciplined, (Probed.after o cs).stepDisciplined c⟩

end CircuitBreaker
