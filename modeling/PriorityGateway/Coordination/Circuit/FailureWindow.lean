import PriorityGateway.Coordination.Circuit.HalfOpen
import Mathlib.Data.List.Perm.Basic

/-! # The Failure Window

    A closed breaker keeps the failures of its generation and prunes them at
    whatever time it happens to be called with.  The times do not have to go
    forward, so which failures are left depends on the whole history.

    The invariant `Kept` says what can be said at any time: no time has more
    failures kept than reported, and a time that no pruning of the generation
    has cut off has all of them.  Opening is then sound, because what is kept
    lies in the window before the latest failure; staying closed is complete,
    because whatever lies after the latest cut is kept. -/

namespace CircuitBreaker

open Coordination (InferenceOutcome)

/-! ## Failures of a generation -/

/-- The time of a failure that was reported for a request of the closed generation. -/
def failedAt (generation : Nat) (h : Handle) : Option Int :=
  match h.report with
  | some (.inferenceFailure, t) => if h.completion = ⟨generation, false⟩ then some t else none
  | _ => none

/-- The failures that were reported in a closed generation. -/
def InUse.reported (s : InUse) (generation : Nat) : List Int :=
  s.handles.filterMap (failedAt generation)

/-- The times used for pruning in a closed generation. -/
def InUse.cuts (s : InUse) (generation : Nat) : List Int :=
  s.prunes.filterMap fun prune => if prune.1 = generation then some prune.2 else none

variable {generation : Nat} {t : Int}

theorem mem_cuts {s : InUse} : t ∈ s.cuts generation ↔ (generation, t) ∈ s.prunes := by
  unfold InUse.cuts
  rw [List.mem_filterMap]
  constructor
  · rintro ⟨prune, hprune, hsome⟩
    obtain ⟨hgen, htime⟩ := Option.ite_none_right_eq_some.mp hsome
    rw [← hgen, ← Option.some.inj htime]
    exact hprune
  · intro h
    exact ⟨(generation, t), h, if_pos rfl⟩

/-- What a closed breaker remembers of the failures of its generation. -/
structure Kept (o : Options) (s : InUse) : Prop where
  few : s.breaker.state = .circuitClosed →
    (s.breaker.failures.length : Int) < o.failureThreshold
  genuine : s.breaker.state = .circuitClosed → ∀ t,
    s.breaker.failures.count t ≤ (s.reported s.breaker.generation).count t
  whole : s.breaker.state = .circuitClosed → ∀ t,
    (∀ cut ∈ s.cuts s.breaker.generation, cut - o.failureWindow ≤ t) →
    s.breaker.failures.count t = (s.reported s.breaker.generation).count t

/-! ## Pruning and recording -/

variable (o : Options) (b : Breaker)

theorem count_pruneFailures (now t : Int) :
    (pruneFailures o b now).failures.count t
      = if now - o.failureWindow ≤ t then b.failures.count t else 0 := by
  unfold pruneFailures
  split
  · next hkept => exact List.count_filter (by simpa using hkept)
  next hcut =>
  apply List.count_eq_zero.mpr
  intro hmem
  simp only [List.mem_filter, Bool.not_eq_true', decide_eq_false_iff_not] at hmem
  omega

theorem le_latestFailure (failures : List Int) (first : Int) :
    first ≤ latestFailure first failures ∧
      ∀ t ∈ failures, t ≤ latestFailure first failures := by
  induction failures generalizing first with
  | nil => exact ⟨le_refl _, nofun⟩
  | cons failure failures ih =>
    obtain ⟨hfirst, hrest⟩ := ih (if first < failure then failure else first)
    have hboth : first ≤ (if first < failure then failure else first) ∧
        failure ≤ (if first < failure then failure else first) := by
      split
      · omega
      · omega
    refine ⟨hboth.1.trans hfirst, ?_⟩
    intro t ht
    rcases List.mem_cons.mp ht with rfl | hmem
    · exact hboth.2.trans hfirst
    · exact hrest t hmem

theorem latestFailure_eq (failures : List Int) (first : Int) :
    latestFailure first failures = failures.foldl max first := by
  unfold latestFailure
  congr 1
  funext latest failure
  split <;> omega

/-- The time that `recordFailure` prunes at is the maximum of the failures that were kept and
    the new one. -/
theorem recordFailure_latest (failedAt : Int) :
    (recordFailure o b failedAt).2 = b.failures.foldl max failedAt := by
  show latestFailure ((b.failures ++ [failedAt]).headD failedAt) (b.failures ++ [failedAt]).tail = _
  rw [latestFailure_eq]
  cases b.failures with
  | nil => rfl
  | cons first rest =>
    show (rest ++ [failedAt]).foldl max first = rest.foldl max (max failedAt first)
    rw [List.foldl_append, List.foldl_assoc, max_comm]
    rfl

theorem le_recordFailure (failedAt : Int) :
    ∀ t ∈ b.failures ++ [failedAt], t ≤ (recordFailure o b failedAt).2 := by
  intro t ht
  show t ≤ latestFailure ((b.failures ++ [failedAt]).headD failedAt) (b.failures ++ [failedAt]).tail
  cases hfailures : b.failures ++ [failedAt] with
  | nil =>
    rw [hfailures] at ht
    cases ht
  | cons first rest =>
    rw [hfailures] at ht
    obtain ⟨hfirst, hrest⟩ := le_latestFailure rest first
    rcases List.mem_cons.mp ht with rfl | hmem
    · exact hfirst
    · exact hrest t hmem

theorem count_recordFailure (failedAt t : Int) :
    (recordFailure o b failedAt).1.failures.count t
      = if (recordFailure o b failedAt).2 - o.failureWindow ≤ t then
          b.failures.count t + if failedAt = t then 1 else 0
        else 0 := by
  have hpruned : (recordFailure o b failedAt).1
      = pruneFailures o { b with failures := b.failures ++ [failedAt] }
          (recordFailure o b failedAt).2 := rfl
  rw [hpruned, count_pruneFailures]
  rw [List.count_append, List.count_singleton]
  simp

/-- What is left after a failure lies in the window before the latest one. -/
theorem recordFailure_window (failedAt : Int) :
    ∀ t ∈ (recordFailure o b failedAt).1.failures,
      (recordFailure o b failedAt).2 - o.failureWindow ≤ t ∧
        t ≤ (recordFailure o b failedAt).2 := by
  intro t ht
  have hmem : t ∈ (b.failures ++ [failedAt]).filter fun failure =>
      !decide (failure < (recordFailure o b failedAt).2 - o.failureWindow) := ht
  rw [List.mem_filter] at hmem
  refine ⟨by simpa using hmem.2, le_recordFailure o b failedAt t hmem.1⟩

/-! ## Reports -/

section Reports

variable {o : Options} {s : InUse} {i : Nat} {h : Handle} {outcome : InferenceOutcome} {t : Int}

/-- A report adds at most its own time. -/
theorem count_reported_finish (hi : s.handles[i]? = some h) (hreport : h.report = none)
    (generation : Nat) (time : Int) :
    ((s.finish o i h outcome t).reported generation).count time
      = (s.reported generation).count time +
          if failedAt generation { h with report := some (outcome, t) } = some time then 1
          else 0 := by
  obtain ⟨hlt, hget⟩ := List.getElem?_eq_some_iff.mp hi
  unfold InUse.reported
  rw [List.count_filterMap, List.count_filterMap]
  show (s.handles.set i _).countP _ = _
  rw [List.countP_set hlt, hget, show failedAt generation h = none by rw [failedAt, hreport]]
  simp

/-- Other reports are no failures of the generation. -/
theorem failedAt_other (hother : h.completion ≠ ⟨generation, false⟩ ∨ outcome ≠ .inferenceFailure) :
    failedAt generation { h with report := some (outcome, t) } = none := by
  rcases hother with hc | hfailure
  · cases outcome with
    | inferenceFailure => exact if_neg hc
    | inferenceSuccess | inferenceNeutral => rfl
  · cases outcome with
    | inferenceFailure => exact absurd rfl hfailure
    | inferenceSuccess | inferenceNeutral => rfl

theorem reported_handOut (s : InUse) (b : Breaker) (c : Completion) (generation : Nat) :
    (s.handOut b c).reported generation = s.reported generation := by
  unfold InUse.reported InUse.handOut
  simp [failedAt]

end Reports

/-! ## The invariant along a run -/

section Steps

variable {o : Options} {s : InUse}

theorem Kept.initial (o : Options) : Kept o {} where
  few := fun _ => o.threshold_pos
  genuine := fun _ _ => le_refl _
  whole := fun _ _ _ => rfl

/-- A breaker that is not closed has nothing to remember. -/
theorem Kept.of_not_closed (h : s.breaker.state ≠ .circuitClosed) : Kept o s where
  few := fun hclosed => absurd hclosed h
  genuine := fun hclosed => absurd hclosed h
  whole := fun hclosed => absurd hclosed h

theorem refreshed_of_closed {b : Breaker} (h : b.state = .circuitClosed) (now : Int) :
    refreshed o b now = pruneFailures o b now := by
  have hstays : transitionOpenToHalfOpen o b now = b := by
    unfold transitionOpenToHalfOpen
    rw [if_pos]
    left
    rw [h]
    exact nofun
  unfold refreshed
  rw [hstays]
  exact if_pos h

theorem Kept.refresh (hs : Kept o s) (now : Int) : Kept o (s.refresh o now) := by
  by_cases hclosed : s.breaker.state = .circuitClosed
  · have hbreaker : (s.refresh o now).breaker = pruneFailures o s.breaker now :=
      refreshed_of_closed hclosed now
    have hprunes : (s.refresh o now).prunes = s.prunes ++ [(s.breaker.generation, now)] := by
      show s.prunes ++ refreshPrunes s.breaker now = _
      unfold refreshPrunes
      rw [if_pos hclosed]
    have hcount := fun t => count_pruneFailures o s.breaker now t
    refine ⟨?_, ?_, ?_⟩
    · intro _
      rw [hbreaker]
      have hfew := hs.few hclosed
      have hless : (pruneFailures o s.breaker now).failures.length ≤ s.breaker.failures.length :=
        List.length_filter_le _ _
      omega
    · intro _ t
      rw [hbreaker, hcount]
      split
      · exact hs.genuine hclosed t
      · exact Nat.zero_le _
    · intro _ t hcuts
      rw [hbreaker] at hcuts ⊢
      -- this pruning is one of those that did not reach the time
      have hnow : now - o.failureWindow ≤ t := by
        apply hcuts now
        rw [mem_cuts, hprunes]
        exact List.mem_append_right _ (List.mem_singleton.mpr rfl)
      rw [hcount, if_pos hnow]
      apply hs.whole hclosed t
      intro cut hcut
      apply hcuts cut
      rw [mem_cuts] at hcut ⊢
      exact List.mem_append_left _ hcut
  · apply Kept.of_not_closed
    rcases refreshed_fields o s.breaker now with ⟨hstate, -⟩ | ⟨-, hstate, -⟩
    · show (refreshed o s.breaker now).state ≠ _
      rw [hstate]
      exact hclosed
    · show (refreshed o s.breaker now).state ≠ _
      rw [hstate]
      exact nofun

theorem Kept.pass (hs : Kept o s) (c : Completion) : Kept o (s.handOut s.breaker c) where
  few := hs.few
  genuine := fun hclosed t => by
    rw [reported_handOut]
    exact hs.genuine hclosed t
  whole := fun hclosed t hcuts => by
    rw [reported_handOut]
    exact hs.whole hclosed t hcuts

/-! Reports. -/

variable {i : Nat} {h : Handle} {outcome : InferenceOutcome} {t : Int}

theorem mem_cuts_finish {cut : Int} (hcut : cut ∈ s.cuts generation) :
    cut ∈ (s.finish o i h outcome t).cuts generation := by
  rw [mem_cuts] at hcut ⊢
  exact List.mem_append_left _ hcut

/-- Nothing was reported in a generation that has just begun. -/
theorem reported_finish_new (hp : Probed o s) (hi : s.handles[i]? = some h) :
    (s.finish o i h outcome t).reported (s.breaker.generation + 1) = [] := by
  apply List.filterMap_eq_nil_iff.mpr
  intro h' hh
  obtain ⟨hflag, hold⟩ := labelled_finish hp hi h' hh
  unfold failedAt
  split
  · rw [if_neg]
    intro hc
    rw [hc] at hflag
    have hgeneration := (Completion.mk.inj hflag).1
    omega
  · rfl

/-- A report that the breaker ignores is no failure of its generation. -/
theorem Kept.finish_ignored (hs : Kept o s) (hi : s.handles[i]? = some h)
    (hreport : h.report = none) (hignored : h.completion.generation ≠ s.breaker.generation ∨
      h.completion.probe = false ∧
        ¬ (s.breaker.state = .circuitClosed ∧ outcome = .inferenceFailure) ∨
      h.completion.probe = true ∧ s.breaker.state ≠ .circuitHalfOpen)
    (hb : (s.finish o i h outcome t).breaker = s.breaker) : Kept o (s.finish o i h outcome t) := by
  have hcount : s.breaker.state = .circuitClosed → ∀ time,
      ((s.finish o i h outcome t).reported s.breaker.generation).count time
        = (s.reported s.breaker.generation).count time := by
    intro hclosed time
    rw [count_reported_finish hi hreport, failedAt_other]
    · simp
    rcases hignored with hne | ⟨-, hno⟩ | ⟨hprobe, -⟩
    · left
      intro hc
      rw [hc] at hne
      exact hne rfl
    · right
      exact fun hfailure => hno ⟨hclosed, hfailure⟩
    · left
      intro hc
      rw [hc] at hprobe
      cases hprobe
  refine ⟨?_, ?_, ?_⟩
  · rw [hb]
    exact hs.few
  · rw [hb]
    intro hclosed time
    rw [hcount hclosed]
    exact hs.genuine hclosed time
  · rw [hb]
    intro hclosed time hcuts
    rw [hcount hclosed]
    exact hs.whole hclosed time fun cut hcut => hcuts cut (mem_cuts_finish hcut)

/-- What a failure of the generation adds to those reported. -/
theorem count_reported_failure (hi : s.handles[i]? = some h) (hreport : h.report = none)
    (hc : h.completion = ⟨s.breaker.generation, false⟩) (time : Int) :
    ((s.finish o i h .inferenceFailure t).reported s.breaker.generation).count time
      = (s.reported s.breaker.generation).count time + if t = time then 1 else 0 := by
  rw [count_reported_finish hi hreport]
  simp [failedAt, hc]

section

variable (hs : Kept o s) (hi : s.handles[i]? = some h) (hreport : h.report = none)
  (hc : h.completion = ⟨s.breaker.generation, false⟩) (hclosed : s.breaker.state = .circuitClosed)
include hs hi hreport hc hclosed

/-- What is kept after a failure was reported. -/
theorem Kept.genuine_recordFailure (time : Int) :
    (recordFailure o s.breaker t).1.failures.count time
      ≤ ((s.finish o i h .inferenceFailure t).reported s.breaker.generation).count time := by
  rw [count_recordFailure, count_reported_failure hi hreport hc]
  split
  · have hbefore := hs.genuine hclosed time
    omega
  · exact Nat.zero_le _

theorem Kept.finish_counted
    (hfew : ((recordFailure o s.breaker t).1.failures.length : Int) < o.failureThreshold)
    (hb : (s.finish o i h .inferenceFailure t).breaker = (recordFailure o s.breaker t).1) :
    Kept o (s.finish o i h .inferenceFailure t) := by
  have hgeneration : (s.finish o i h .inferenceFailure t).breaker.generation
      = s.breaker.generation := by
    rw [hb]
    rfl
  refine ⟨?_, ?_, ?_⟩
  · rw [hb]
    exact fun _ => hfew
  · rw [hgeneration, hb]
    exact fun _ time => hs.genuine_recordFailure hi hreport hc hclosed time
  rw [hgeneration, hb]
  intro _ time hcuts
  have hlatest : (recordFailure o s.breaker t).2 - o.failureWindow ≤ time := by
    apply hcuts
    rw [mem_cuts]
    apply List.mem_append_right
    unfold reportPrunes
    rw [if_pos ⟨hc, hclosed, rfl⟩, recordFailure_latest]
    exact List.mem_singleton.mpr rfl
  rw [count_recordFailure, if_pos hlatest, count_reported_failure hi hreport hc,
    hs.whole hclosed time fun cut hcut => hcuts cut (mem_cuts_finish hcut)]

end

theorem Kept.finish (hp : Probed o s) (hs : Kept o s) (hi : s.handles[i]? = some h)
    (hreport : h.report = none) : Kept o (s.finish o i h outcome t) := by
  have hdone := finished o s i h outcome t
  generalize hb : (s.finish o i h outcome t).breaker = b at hdone
  cases hdone with
  | ignored hignored => exact hs.finish_ignored hi hreport hignored hb
  | counted hc hclosed hfailure hfew =>
    subst hfailure
    exact hs.finish_counted hi hreport hc hclosed hfew hb
  | tripped | probeFailed =>
    apply Kept.of_not_closed
    rw [hb]
    exact nofun
  | returned _ hstate _ _ =>
    apply Kept.of_not_closed
    rw [hb]
    show s.breaker.state ≠ _
    rw [hstate]
    exact nofun
  | drained =>
    -- the new generation starts without failures
    have hnone : (s.finish o i h outcome t).reported (enterClosed (probeReturned s.breaker
        outcome)).generation = [] := reported_finish_new hp hi
    refine ⟨?_, ?_, ?_⟩
    · rw [hb]
      exact fun _ => o.threshold_pos
    · rw [hb]
      exact fun _ _ => Nat.zero_le _
    · rw [hb, hnone]
      exact fun _ _ _ => rfl

theorem Kept.step (hp : Probed o s) (hs : Kept o s) (c : Call) : Kept o (useStep o s c).1 := by
  cases c with
  | acquire now =>
    have hr := hs.refresh now
    show Kept o (useAcquire o s now).1
    rcases useAcquire_cases o s now with heq | ⟨-, heq⟩ | ⟨hstate, -, heq⟩
    · rw [heq]
      exact hr
    · rw [heq]
      exact hr.pass _
    rw [heq]
    apply Kept.of_not_closed
    show (s.refresh o now).breaker.state ≠ _
    rw [hstate]
    exact nofun
  | snapshot now => exact hs.refresh now
  | complete i outcome t =>
    show Kept o (useComplete o s i outcome t).1
    rcases useComplete_cases o s i outcome t with heq | ⟨h, hi, hreport, heq⟩
    · rw [heq]
      exact hs
    · rw [heq]
      exact Kept.finish hp hs hi hreport

end Steps

theorem kept_after (cs : List Call) :
    Probed o ((inUse o).after {} cs) ∧ Kept o ((inUse o).after {} cs) :=
  (inUse o).after_inv_all (I := fun s => Probed o s ∧ Kept o s)
    (fun _ c hs => ⟨hs.1.step c, Kept.step hs.1 hs.2 c⟩) {} cs ⟨.initial o, .initial o⟩

/-! ## Soundness and completeness -/

/-- Enough failures of the generation lie in one window. -/
def Justified (o : Options) (s : InUse) (generation : Nat) : Prop :=
  ∃ start, o.failureThreshold ≤ ((s.reported generation).countP
    fun t => decide (start ≤ t ∧ t ≤ start + o.failureWindow) : Nat)

/-- Too few failures of the generation lie in the window before its latest cut. -/
def Unsuspicious (o : Options) (s : InUse) (generation : Nat) : Prop :=
  ∀ latest ∈ s.cuts generation, (∀ cut ∈ s.cuts generation, cut ≤ latest) →
    (((s.reported generation).countP fun t => decide (latest - o.failureWindow ≤ t) : Nat) : Int)
      < o.failureThreshold

section Results

variable {o : Options} {s : InUse}

theorem Kept.unsuspicious (hs : Kept o s) (hclosed : s.breaker.state = .circuitClosed) :
    Unsuspicious o s s.breaker.generation := by
  intro latest _ hlatest
  have hfew := hs.few hclosed
  -- what no cut has reached is all kept
  have hsub : ((s.reported s.breaker.generation).filter
      fun t => decide (latest - o.failureWindow ≤ t)).Subperm s.breaker.failures := by
    apply List.subperm_ext_iff.mpr
    intro t ht
    have hafter : latest - o.failureWindow ≤ t := by
      simpa using (List.mem_filter.mp ht).2
    rw [List.count_filter (by simpa using hafter), hs.whole hclosed t]
    intro cut hcut
    have hle := hlatest cut hcut
    omega
  have hlength := hsub.length_le
  rw [← List.countP_eq_length_filter] at hlength
  omega

theorem Kept.justified (hs : Kept o s) {i : Nat} {h : Handle} {outcome : InferenceOutcome}
    (hi : s.handles[i]? = some h) (hreport : h.report = none)
    (hclosed : s.breaker.state = .circuitClosed)
    (hopen : (s.finish o i h outcome t).breaker.state = .circuitOpen) :
    Justified o (s.finish o i h outcome t) s.breaker.generation := by
  have hdone := finished o s i h outcome t
  generalize (s.finish o i h outcome t).breaker = b at hdone hopen
  cases hdone with
  | ignored _ =>
    rw [hclosed] at hopen
    cases hopen
  | counted _ _ _ _ =>
    have hsame : s.breaker.state = .circuitOpen := hopen
    rw [hclosed] at hsame
    cases hsame
  | tripped hc _ hfailure hmany =>
    subst hfailure
    refine ⟨(recordFailure o s.breaker t).2 - o.failureWindow, hmany.trans ?_⟩
    have hsub : (recordFailure o s.breaker t).1.failures.Subperm
        ((s.finish o i h .inferenceFailure t).reported s.breaker.generation) :=
      List.subperm_ext_iff.mpr fun time _ =>
        hs.genuine_recordFailure hi hreport hc hclosed time
    -- everything that is kept lies in the window
    have hwindow : (recordFailure o s.breaker t).1.failures.countP
        (fun time => decide ((recordFailure o s.breaker t).2 - o.failureWindow ≤ time ∧
          time ≤ (recordFailure o s.breaker t).2 - o.failureWindow + o.failureWindow))
        = (recordFailure o s.breaker t).1.failures.length := by
      apply List.countP_eq_length.mpr
      intro time htime
      obtain ⟨hfrom, hto⟩ := recordFailure_window o s.breaker t time htime
      rw [decide_eq_true_eq]
      omega
    rw [← hwindow]
    exact_mod_cast hsub.countP_le _
  | probeFailed _ hstate _ | returned _ hstate _ _ | drained _ hstate _ _ _ =>
    rw [hclosed] at hstate
    cases hstate

end Results

/-- **The failure window**: a closed breaker that opens has a reason, and one that is closed
    has none, whatever the order of the timestamps. -/
theorem failure_window (cs : List Call) (c : Call) :
    (((inUse o).after {} cs).breaker.state = .circuitClosed →
      (useStep o ((inUse o).after {} cs) c).1.breaker.state = .circuitOpen →
      Justified o (useStep o ((inUse o).after {} cs) c).1
        ((inUse o).after {} cs).breaker.generation) ∧
    (((inUse o).after {} cs).breaker.state = .circuitClosed →
      Unsuspicious o ((inUse o).after {} cs) ((inUse o).after {} cs).breaker.generation) := by
  obtain ⟨-, hs⟩ := kept_after o cs
  refine ⟨?_, hs.unsuspicious⟩
  generalize (inUse o).after {} cs = s at hs ⊢
  intro hclosed hopen
  -- only a completion opens a closed breaker
  have look : ∀ {now}, ¬ (c = .acquire now ∨ c = .snapshot now) := by
    intro now hc
    rw [(useStep_refreshes o s hc).1, refreshed_of_closed hclosed] at hopen
    have hsame : s.breaker.state = .circuitOpen := hopen
    rw [hclosed] at hsame
    cases hsame
  cases c with
  | acquire now => exact absurd (.inl rfl) look
  | snapshot now => exact absurd (.inr rfl) look
  | complete i outcome t =>
    have hstep : (useStep o s (.complete i outcome t)).1 = (useComplete o s i outcome t).1 := rfl
    rcases useComplete_cases o s i outcome t with heq | ⟨h, hi, hreport, heq⟩
    · rw [hstep, heq, hclosed] at hopen
      cases hopen
    · rw [hstep, heq] at hopen ⊢
      exact hs.justified hi hreport hclosed hopen

end CircuitBreaker
