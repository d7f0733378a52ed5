import Mathlib.Data.List.Infix
import Mathlib.Data.List.Induction

/-! # Backend Health

    A worker polls the health of its backend and keeps two counters: the
    successes and the failures since the last poll of the other kind.  Enough
    successes in a row make the backend healthy, enough failures in a row make
    it unhealthy, and in between it stays what it was.

    `healthy_iff` says what that comes to for a whole history: the backend is
    healthy if the last run of successes that was long enough has not been
    followed by a run of failures that was. -/

namespace Monitor

/-! ## Polling -/

/-- The thresholds, as `Options.validate` leaves them. -/
structure HealthOptions where
  recoveryAfter : Int
  unhealthyAfter : Int
  recovery_pos : 0 < recoveryAfter
  unhealthy_pos : 0 < unhealthyAfter

/-- The part of `domain.BackendRuntime` that the health polls write. -/
structure BackendHealth where
  healthy : Bool := false
  consecutiveSuccess : Int := 0
  consecutiveFailure : Int := 0
  lastHealthAt : Option Int := none
  deriving DecidableEq, Repr

/-- A poll: when it was made, and the status of the response if there was one. -/
structure Poll where
  at' : Int
  status : Option Int
  deriving DecidableEq, Repr

def Poll.success (poll : Poll) : Bool :=
  poll.status.any fun status => decide (200 ≤ status) && decide (status < 300)

/-- `PollHealth`, from where the lock is taken. -/
def pollHealth (o : HealthOptions) (w : BackendHealth) (poll : Poll) : BackendHealth :=
  if poll.success then
    { healthy := decide (o.recoveryAfter ≤ w.consecutiveSuccess + 1) || w.healthy
      consecutiveSuccess := w.consecutiveSuccess + 1
      consecutiveFailure := 0
      lastHealthAt := some poll.at' }
  else
    { healthy := !decide (o.unhealthyAfter ≤ w.consecutiveFailure + 1) && w.healthy
      consecutiveSuccess := 0
      consecutiveFailure := w.consecutiveFailure + 1
      lastHealthAt := some poll.at' }

/-- The worker polls from `NewWorker` on. -/
def pollAll (o : HealthOptions) (polls : List Poll) : BackendHealth := polls.foldl (pollHealth o) {}

/-! ## Runs -/

/-- After `p` polls the last `k` of them had the outcome `b`. -/
def RunEnds (b : Bool) (k : Nat) (outcomes : List Bool) (p : Nat) : Prop :=
  p ≤ outcomes.length ∧ List.replicate k b <:+ outcomes.take p

variable {b x : Bool} {k p : Nat} {outcomes : List Bool}

theorem replicate_suffix_concat :
    List.replicate (k + 1) b <:+ outcomes ++ [x] ↔ x = b ∧ List.replicate k b <:+ outcomes := by
  rw [List.suffix_concat_iff, List.replicate_succ']
  constructor
  · rintro (hnil | ⟨t, heq, ht⟩)
    · simp at hnil
    · obtain ⟨rfl, hlast⟩ := List.append_inj' heq rfl
      cases hlast
      exact ⟨rfl, ht⟩
  · rintro ⟨rfl, ht⟩
    exact .inr ⟨_, rfl, ht⟩

/-- One more outcome adds the runs that end with it. -/
theorem runEnds_concat :
    RunEnds b k (outcomes ++ [x]) p ↔ RunEnds b k outcomes p ∨
      p = outcomes.length + 1 ∧ List.replicate k b <:+ outcomes ++ [x] := by
  unfold RunEnds
  rw [List.length_append, List.length_singleton]
  by_cases hp : p ≤ outcomes.length
  · rw [List.take_append_of_le_length hp]
    constructor
    · rintro ⟨-, hrun⟩
      exact .inl ⟨hp, hrun⟩
    · rintro (⟨-, hrun⟩ | ⟨hlast, -⟩)
      · exact ⟨by omega, hrun⟩
      · omega
  · constructor
    · rintro ⟨hle, hrun⟩
      obtain rfl : p = outcomes.length + 1 := by omega
      rw [List.take_of_length_le (by simp)] at hrun
      exact .inr ⟨rfl, hrun⟩
    · rintro (⟨hle, -⟩ | ⟨rfl, hrun⟩)
      · exact absurd hle hp
      · rw [List.take_of_length_le (by simp)]
        exact ⟨le_refl _, hrun⟩

/-! ## The history of a worker -/

/-- The last run of `recoveryAfter` successes was not followed by one of `unhealthyAfter`
    failures. -/
def LastRecoveryHolds (o : HealthOptions) (outcomes : List Bool) : Prop :=
  ∃ p, RunEnds true o.recoveryAfter.toNat outcomes p ∧
    (∀ p', RunEnds true o.recoveryAfter.toNat outcomes p' → p' ≤ p) ∧
    ∀ q, RunEnds false o.unhealthyAfter.toNat outcomes q → q ≤ p

theorem lastRecoveryHolds_concat (o : HealthOptions) :
    LastRecoveryHolds o (outcomes ++ [x]) ↔
      List.replicate o.recoveryAfter.toNat true <:+ outcomes ++ [x] ∨
      LastRecoveryHolds o outcomes ∧
        ¬ List.replicate o.unhealthyAfter.toNat false <:+ outcomes ++ [x] := by
  by_cases hrecovers : List.replicate o.recoveryAfter.toNat true <:+ outcomes ++ [x]
  · -- the run that ends here is the last one, and nothing comes after it
    refine ⟨fun _ => .inl hrecovers,
      fun _ => ⟨_, runEnds_concat.mpr (.inr ⟨rfl, hrecovers⟩), ?_, ?_⟩⟩
    · intro p' hp'
      simpa using hp'.1
    · intro q hq
      simpa using hq.1
  simp only [LastRecoveryHolds, runEnds_concat, hrecovers, and_false, or_false, false_or]
  constructor
  · rintro ⟨p, hp, hlast, hfails⟩
    refine ⟨⟨p, hp, hlast, fun q hq => hfails q (.inl hq)⟩, fun hfail => ?_⟩
    have hafter := hfails _ (.inr ⟨rfl, hfail⟩)
    have hbefore := hp.1
    omega
  · rintro ⟨⟨p, hp, hlast, hfails⟩, hfail⟩
    refine ⟨p, hp, hlast, fun q hq => ?_⟩
    rcases hq with hq | ⟨-, hrun⟩
    · exact hfails q hq
    · exact absurd hrun hfail

/-- The counters are the lengths of the runs at the end, and `healthy` is as it should be. -/
structure Polled (o : HealthOptions) (outcomes : List Bool) (w : BackendHealth) : Prop where
  success : ∀ k : Nat, List.replicate k true <:+ outcomes ↔ k ≤ w.consecutiveSuccess
  failure : ∀ k : Nat, List.replicate k false <:+ outcomes ↔ k ≤ w.consecutiveFailure
  healthy : w.healthy = true ↔ LastRecoveryHolds o outcomes

/-- The run at the end grows by an outcome of its kind, and any other one ends it. -/
theorem suffix_concat_iff {n : Int} (hn : ∀ k : Nat, List.replicate k b <:+ outcomes ↔ k ≤ n)
    (k : Nat) :
    List.replicate k b <:+ outcomes ++ [x] ↔ (k : Int) ≤ if x = b then n + 1 else 0 := by
  have hpos : 0 ≤ n := (hn 0).mp List.nil_suffix
  cases k with
  | zero =>
    refine ⟨fun _ => ?_, fun _ => List.nil_suffix⟩
    split <;> omega
  | succ k =>
    rw [replicate_suffix_concat, hn]
    split <;> simp [*]

/-- **Step lemma.** -/
theorem Polled.poll {o : HealthOptions} {w : BackendHealth} (h : Polled o outcomes w)
    (poll : Poll) : Polled o (outcomes ++ [poll.success]) (pollHealth o w poll) := by
  have hR := o.recovery_pos
  have hU := o.unhealthy_pos
  have hhealthy : LastRecoveryHolds o (outcomes ++ [poll.success]) ↔ _ := lastRecoveryHolds_concat o
  rw [suffix_concat_iff h.success, suffix_concat_iff h.failure, ← h.healthy,
    Int.toNat_of_nonneg (Int.le_of_lt hR),
    Int.toNat_of_nonneg (Int.le_of_lt hU)] at hhealthy
  unfold pollHealth
  cases hpoll : poll.success with
  | true =>
    refine ⟨suffix_concat_iff h.success, suffix_concat_iff h.failure, ?_⟩
    rw [hpoll] at hhealthy
    simp [hhealthy, Int.not_le.mpr hU]
  | false =>
    refine ⟨suffix_concat_iff h.success, suffix_concat_iff h.failure, ?_⟩
    rw [hpoll] at hhealthy
    simp [hhealthy, Int.not_le.mpr hR, and_comm]

/-- **Backend health**, after any polls. -/
theorem healthy_iff (o : HealthOptions) (polls : List Poll) :
    (pollAll o polls).healthy = true ↔ LastRecoveryHolds o (polls.map Poll.success) := by
  have hrun : Polled o (polls.map Poll.success) (pollAll o polls) := by
    induction polls using List.reverseRecOn with
    | nil =>
      have hR := Int.not_le.mpr o.recovery_pos
      exact ⟨by simp [pollAll], by simp [pollAll],
        by simp [LastRecoveryHolds, RunEnds, pollAll, hR]⟩
    | append_singleton polls poll ih =>
      rw [List.map_append, pollAll, List.foldl_append]
      exact ih.poll poll
  exact hrun.healthy

/-- The thresholds of the default configuration. -/
def defaultHealth : HealthOptions := ⟨2, 3, by decide, by decide⟩

-- two failures do not make a backend unhealthy that two successes have made healthy
example : (pollAll defaultHealth
    [⟨1, some 200⟩, ⟨2, some 204⟩, ⟨3, none⟩, ⟨4, some 503⟩]).healthy = true := by decide

end Monitor
