import PriorityGateway.Pressure.Hysteresis

/-! # Sustained Overload

    Pressure that stays high promotes the pool if it stays at one level for
    the enter window, and only then, unless the pool was not available before.
    Pressure that moves between two overload levels does not: each move makes
    the other level the candidate and starts its time over, so that the pool
    is promoted to neither, nor to any level below them
    (`alternating_stays_normal`).

    What is reached is kept as long as the pressure does not fall below it
    (`rank_observe`), because each recovery threshold lies below the threshold
    of its level. -/

namespace Pressure

open Coordination (timeSub maxDuration second)

/-! ## Ordered thresholds -/

/-- What is used of the order of pressures; it holds of any preorder, and of floating point
    numbers with NaN. -/
class Comparable (F : Type) [LT F] [LE F] : Prop where
  not_lt : ∀ {a b c : F}, c < b → b ≤ a → ¬ a < c

instance {F : Type} [Preorder F] : Comparable F where
  not_lt := fun hcb hba hac => lt_irrefl _ (hcb.trans_le (hba.trans hac.le))

/-- Recovery below entry, level by level. -/
structure Thresholds.Ordered {F : Type} [LT F] (th : Thresholds F) : Prop where
  busy : th.busyRecovery < th.busy
  apart : th.busy < th.saturatedRecovery
  saturated : th.saturatedRecovery < th.saturated
  further : th.saturated < th.emergencyRecovery
  emergency : th.emergencyRecovery < th.emergency

/-- Pressure at the level of the pool does not let it recover. -/
theorem not_belowRecovery {F : Type} [LT F] [LE F] [DecidableLE F] [Comparable F]
    {th : Thresholds F} {ob : Observation F} (hth : th.Ordered) :
    ¬ BelowRecovery th (instantaneous th ob) ob := by
  unfold instantaneous
  split
  · next hbest => exact Comparable.not_lt hth.emergency hbest
  split
  · next hbest =>
    rintro ⟨hbelow, hwaiting⟩
    rcases hbest with hbest | hall
    · exact Comparable.not_lt hth.saturated hbest hbelow
    · rw [hall] at hwaiting
      cases hwaiting
  · split
    · next hbest => exact Comparable.not_lt hth.busy hbest
    · exact id

section Escalation

variable {F : Type} [LT F] [LE F] [DecidableLT F] [DecidableLE F] [Comparable F]
variable {th : Thresholds F} {m : PoolMachine} {ob : Observation F} {r start : Int}
  {past obs : List (Observation F)}

/-! ## What is reached is kept -/

section

variable (hth : th.Ordered)

include hth

/-- No observation asks for less than both the level and the pressure. -/
theorem rank_target (hcurrent : r ≤ stateRank m.current)
    (hpressure : r ≤ stateRank (instantaneous th ob)) :
    r ≤ stateRank (target th m.current ob).1 := by
  rcases target_cases th m.current ob with ⟨-, heq⟩ | ⟨hle, hbelow, heq⟩ | ⟨-, -, heq⟩
  · rw [heq]
    exact hpressure
  · rw [heq]
    show r ≤ stateRank (lower m.current)
    rw [stateRank_lower hbelow]
    -- the pressure is below the level, or the pool would not recover
    have hne : instantaneous th ob ≠ m.current := by
      intro hsame
      rw [← hsame] at hbelow
      exact not_belowRecovery hth hbelow
    have hlt : stateRank (instantaneous th ob) ≠ stateRank m.current :=
      fun hrank => hne (stateRank_injective hrank)
    omega
  · rw [heq]
    exact hcurrent

theorem rank_observe (havailable : ob.available = true)
    (hpressure : r ≤ stateRank (instantaneous th ob)) (hcurrent : r ≤ stateRank m.current) :
    r ≤ stateRank (observe th m ob).current := by
  have hobserved := observed th m ob
  generalize observe th m ob = m' at hobserved
  cases hobserved with
  | stale _ => exact hcurrent
  | lost _ hlost =>
    rw [havailable] at hlost
    cases hlost
  | regained _ _ _ => exact hpressure
  | stayed | started => exact hcurrent
  | moved _ _ _ _ _ _ => exact rank_target hth hcurrent hpressure
  | waited _ _ _ _ _ _ => exact hcurrent

theorem rank_after (hover : ∀ ob ∈ obs, ob.available = true ∧ r ≤ stateRank (instantaneous th ob))
    (hcurrent : r ≤ stateRank m.current) : r ≤ stateRank ((pool th).after m obs).current := by
  induction obs generalizing m with
  | nil => exact hcurrent
  | cons ob obs ih =>
    obtain ⟨havailable, hpressure⟩ := hover ob List.mem_cons_self
    exact ih (fun x hx => hover x (List.mem_cons_of_mem _ hx))
      (rank_observe hth havailable hpressure hcurrent)

/-! ## A steady stretch -/

/-- The level was reached, or it has been the candidate since `start` at the latest. -/
def Underway (r start : Int) (level : PoolState) (m : PoolMachine) : Prop :=
  r ≤ stateRank m.current ∨
    m.current ≠ .unavailable ∧ stateRank m.current < r ∧ m.candidate = some level ∧
      m.candidateSince ≤ start

section

variable (hlevel : r ≤ stateRank (instantaneous th ob)) (havailable : ob.available = true)
  (haccepted : ¬ Stale m ob)

include hlevel havailable haccepted

omit [Comparable F] hth in
/-- An observation whose pressure has rank `r`, of a pool that has not: the pool comes to it, or
    the level of the pressure is the candidate, from now on or for less than the window. -/
theorem observe_rise (hcurrent : stateRank m.current < r) :
    r ≤ stateRank (observe th m ob).current ∨
      m.current ≠ .unavailable ∧ (observe th m ob).current = m.current ∧
      (observe th m ob).candidate = some (instantaneous th ob) ∧
      (m.candidate ≠ some (instantaneous th ob) ∧ (observe th m ob).candidateSince = ob.at' ∨
        m.candidate = some (instantaneous th ob) ∧
          (observe th m ob).candidateSince = m.candidateSince ∧
          timeSub ob.at' m.candidateSince < th.enterWindow) := by
  have htarget := target_of_rise th (hcurrent.trans_le hlevel)
  have hobserved := observed th m ob
  generalize observe th m ob = m' at hobserved ⊢
  cases hobserved with
  | stale h => exact absurd h haccepted
  | lost _ hlost =>
    rw [havailable] at hlost
    cases hlost
  | regained _ _ _ => exact .inl hlevel
  | stayed _ _ _ hstayed =>
    rw [htarget] at hstayed
    have hrank : stateRank (instantaneous th ob) = stateRank m.current := congrArg _ hstayed
    omega
  | started _ _ hne _ hother =>
    rw [htarget] at hother
    exact .inr ⟨hne, rfl, by rw [htarget], .inl ⟨hother, rfl⟩⟩
  | moved _ _ _ _ _ _ =>
    left
    show r ≤ stateRank (target th m.current ob).1
    rw [htarget]
    exact hlevel
  | waited _ _ hne _ hcandidate hwindow =>
    rw [htarget] at hcandidate hwindow
    exact .inr ⟨hne, rfl, hcandidate, .inr ⟨hcandidate, rfl, hwindow⟩⟩

/-- The first observation of a stretch makes its level the candidate. -/
theorem underway_first (hsince : m.candidate ≠ none → m.candidateSince ≤ ob.at') :
    Underway r ob.at' (instantaneous th ob) (observe th m ob) := by
  by_cases hcurrent : r ≤ stateRank m.current
  · exact .inl (rank_observe hth havailable hlevel hcurrent)
  rw [not_le] at hcurrent
  rcases observe_rise hlevel havailable haccepted hcurrent with
    hreached | ⟨hne, hsame, hcandidate, hstart⟩
  · exact .inl hreached
  refine .inr ⟨by rwa [hsame], by rwa [hsame], hcandidate, ?_⟩
  rcases hstart with ⟨-, hnow⟩ | ⟨hbefore, hkept, -⟩
  · exact hnow.le
  · rw [hkept]
    exact hsince (by rw [hbefore]; simp)

/-- A later observation at the same level changes to it, or goes on waiting for the window. -/
theorem Underway.observe (hm : Underway r start (instantaneous th ob) m) :
    r ≤ stateRank (observe th m ob).current ∨
      Underway r start (instantaneous th ob) (observe th m ob) ∧
        timeSub ob.at' m.candidateSince < th.enterWindow ∧ m.candidateSince ≤ start := by
  rcases hm with hcurrent | ⟨-, hcurrent, hbefore, hsince⟩
  · exact .inl (rank_observe hth havailable hlevel hcurrent)
  rcases observe_rise hlevel havailable haccepted hcurrent with
    hreached | ⟨hne, hsame, hcandidate, ⟨hother, -⟩ | ⟨-, hkept, hwindow⟩⟩
  · exact .inl hreached
  · -- the candidate of the stretch is not started over
    exact absurd hbefore hother
  · refine .inr ⟨.inr ⟨by rwa [hsame], by rwa [hsame], hcandidate, ?_⟩, hwindow, hsince⟩
    exact hkept.trans_le hsince

/-- The last observation of a stretch that is as long as the window. -/
theorem Underway.last (hm : Underway r start (instantaneous th ob) m)
    (hwindow : th.enterWindow ≤ ob.at' - start) :
    r ≤ stateRank (Pressure.observe th m ob).current := by
  rcases hm.observe hth hlevel havailable haccepted with hreached | ⟨-, hshort, hsince⟩
  · exact hreached
  · have hrange := th.enter_range
    simp only [timeSub, maxDuration] at hshort hrange
    omega

end

/-- Along a stretch at one level. -/
theorem Underway.after {level : PoolState} (hm : Underway r start level m)
    (hlevel : r ≤ stateRank level)
    (hsteady : ∀ ob ∈ obs, ob.available = true ∧ instantaneous th ob = level)
    (haccepted : (pool th).Along (fun m ob => ¬ Stale m ob) m obs) :
    Underway r start level ((pool th).after m obs) := by
  induction obs generalizing m with
  | nil => exact hm
  | cons ob obs ih =>
    obtain ⟨havailable, rfl⟩ := hsteady ob List.mem_cons_self
    apply ih ?_ (fun x hx => hsteady x (List.mem_cons_of_mem _ hx)) haccepted.2
    rcases hm.observe hth hlevel havailable haccepted.1 with hreached | ⟨hunderway, -⟩
    · exact .inl hreached
    · exact hunderway

end

/-! ## Escalation -/

/-- The pressure is at one level for as long as the enter window, over two observations at
    least, of which the last is one of `obs`; the others may have come before. -/
def SteadyStretch (th : Thresholds F) (history obs : List (Observation F)) : Prop :=
  ∃ before first rest last after level,
    history ++ obs = before ++ first :: (rest ++ last :: after) ∧ after.length < obs.length ∧
      th.enterWindow ≤ last.at' - first.at' ∧
      ∀ ob ∈ first :: (rest ++ [last]), ob.available = true ∧ instantaneous th ob = level

/-- Over a steady stretch the pool is promoted, and it stays where it is after it. -/
theorem rank_of_stretch (hth : th.Ordered) {before rest after : List (Observation F)}
    {first last : Observation F} {level : PoolState} (hlevel : r ≤ stateRank level)
    (hpositive : ∀ x ∈ before ++ first :: (rest ++ last :: after), 0 < x.at')
    (haccepted : (pool th).Along (fun m ob => ¬ Stale m ob) {}
      (before ++ first :: (rest ++ last :: after)))
    (hwindow : th.enterWindow ≤ last.at' - first.at')
    (hsteady : ∀ ob ∈ first :: (rest ++ [last]), ob.available = true ∧ instantaneous th ob = level)
    (hover : ∀ ob ∈ after, ob.available = true ∧ r ≤ stateRank (instantaneous th ob)) :
    r ≤ stateRank (run th (before ++ first :: (rest ++ last :: after))).current := by
  -- the machine that the stretch finds
  have hfound : Timely (run th before) :=
    (remembers_run th fun x hx => hpositive x (List.mem_append_left _ hx)).timely
  rw [Machine.along_append] at haccepted
  obtain ⟨-, hfirst, hstretch⟩ := haccepted
  rw [Machine.along_append] at hstretch
  obtain ⟨hrest, hlast, -⟩ := hstretch
  have hfirstTime : 0 < first.at' := hpositive first (by simp)
  have hsince : (run th before).candidate ≠ none → (run th before).candidateSince ≤ first.at' := by
    intro hcandidate
    have htimely := hfound hcandidate
    change ¬ Stale (run th before) first at hfirst
    unfold Stale at hfirst
    omega
  obtain ⟨hfirstUp, hfirstLevel⟩ := hsteady first List.mem_cons_self
  obtain ⟨hlastUp, hlastLevel⟩ := hsteady last (by simp)
  -- the candidate is at least as old as the stretch until its last observation
  have hstart := underway_first hth (hfirstLevel ▸ hlevel) hfirstUp hfirst hsince
  rw [hfirstLevel] at hstart
  have hmiddle := hstart.after hth hlevel (fun x hx => hsteady x (by simp [hx])) hrest
  rw [← hlastLevel] at hmiddle hlevel
  have hreached := hmiddle.last hth hlevel hlastUp hlast hwindow
  rw [run_append, Machine.after_cons, Machine.after_append, Machine.after_cons]
  exact rank_after hth hover hreached

/-- A steady stretch that ends in `obs`, over the observations that were accepted before. -/
theorem SteadyStretch.rank (hth : th.Ordered) (hpositive : ∀ x ∈ past ++ obs, 0 < x.at')
    (haccepted : (pool th).Along (fun m ob => ¬ Stale m ob) (run th past) obs)
    (hover : ∀ ob ∈ obs, ob.available = true ∧ r ≤ stateRank (instantaneous th ob))
    (h : SteadyStretch th (accepted th past) obs) :
    r ≤ stateRank (run th (past ++ obs)).current := by
  obtain ⟨before, first, rest, last, after, level, hsplit, hlength, hwindow, hsteady⟩ := h
  obtain ⟨hsame, halong⟩ := after_acceptedFrom th {} past
  have hall : (pool th).Along (fun m ob => ¬ Stale m ob) {} (accepted th past ++ obs) := by
    rw [Machine.along_append]
    refine ⟨halong, ?_⟩
    unfold accepted
    rw [hsame]
    exact haccepted
  have hrun : run th (past ++ obs) = run th (accepted th past ++ obs) := by
    rw [run_append, run_append]
    exact congrArg ((pool th).after · obs) hsame.symm
  -- what lies after the stretch is a part of `obs`, and so is its last observation
  have hsuffix : last :: after <:+ accepted th past ++ obs := by
    rw [hsplit]
    exact ⟨before ++ first :: rest, by simp⟩
  have hobs := List.suffix_of_suffix_length_le hsuffix (List.suffix_append _ _) hlength
  rw [hrun, hsplit]
  rw [hsplit] at hall
  refine rank_of_stretch hth ?_ ?_ hall hwindow hsteady ?_
  · rw [← (hsteady last (by simp)).2]
    exact (hover last (hobs.mem List.mem_cons_self)).2
  · intro x hx
    rw [← hsplit] at hx
    rcases List.mem_append.mp hx with hpast | hnew
    · exact hpositive x (List.mem_append_left _ (mem_of_mem_accepted th hpast))
    · exact hpositive x (List.mem_append_right _ hnew)
  · exact fun x hx => hover x (hobs.mem (List.mem_cons_of_mem _ hx))

omit [Comparable F]

/-- An observation promotes a pool that was available only as the last one of a stretch. -/
theorem stretch_of_rank (hpositive : ∀ x ∈ obs, 0 < x.at')
    (havailable : (run th obs).current ≠ .unavailable)
    (hbelow : stateRank (run th obs).current < r)
    (hreached : r ≤ stateRank (observe th (run th obs) ob).current) :
    Stretch th.enterWindow (fun x => x.available = true ∧
      instantaneous th x = (observe th (run th obs) ob).current) (accepted th obs) ob := by
  have hrise := hbelow.trans_le hreached
  have hchanges : Changes th (run th obs) ob := by
    refine ⟨havailable, ?_, fun hsame => absurd hrise (by rw [hsame]; exact lt_irrefl _)⟩
    intro hlost
    have hrank : -1 ≤ stateRank (run th obs).current := by
      cases (run th obs).current <;> decide
    rw [hlost] at hrise
    exact absurd hrise (not_lt.mpr hrank)
  exact hchanges.held_rise (remembers_run th hpositive)
    (fun x hx => hpositive x (mem_of_mem_accepted th hx)) hrise

/-- How a pool has come to a rank, by induction from the last observation. -/
theorem promoted_of_rank (hpositive : ∀ x ∈ past ++ obs, 0 < x.at')
    (haccepted : (pool th).Along (fun m ob => ¬ Stale m ob) (run th past) obs)
    (hup : ∀ ob ∈ obs, ob.available = true)
    (hreached : r ≤ stateRank (run th (past ++ obs)).current) :
    r ≤ stateRank (run th past).current ∨ ((run th past).current = .unavailable ∧ obs ≠ []) ∨
      SteadyStretch th (accepted th past) obs := by
  induction obs using List.reverseRecOn with
  | nil =>
    rw [List.append_nil] at hreached
    exact .inl hreached
  | append_singleton obs ob ih =>
    rw [Machine.along_append] at haccepted
    rw [← List.append_assoc] at hpositive hreached
    have hearlier : ∀ x ∈ past ++ obs, 0 < x.at' :=
      fun x hx => hpositive x (List.mem_append_left _ hx)
    have hbefore : ∀ x ∈ obs, x.available = true := fun x hx => hup x (List.mem_append_left _ hx)
    by_cases hdone : r ≤ stateRank (run th (past ++ obs)).current
    · rcases ih hearlier haccepted.1 hbefore hdone with hpast | ⟨hlost, -⟩ | hstretch
      · exact .inl hpast
      · exact .inr (.inl ⟨hlost, by simp⟩)
      · obtain ⟨before, first, rest, last, after, level, hsplit, hlength, hstretch⟩ := hstretch
        refine .inr (.inr ⟨before, first, rest, last, after ++ [ob], level, ?_, ?_, hstretch⟩)
        · rw [← List.append_assoc, hsplit]
          simp
        · simpa using hlength
    -- the rank is reached here
    rw [run_snoc] at hreached
    by_cases hlost : (run th (past ++ obs)).current = .unavailable
    · cases obs using List.reverseRecOn with
      | nil => exact .inr (.inl ⟨by simpa using hlost, by simp⟩)
      | append_singleton obs last _ =>
        -- an accepted observation of an available pool leaves it available
        rw [Machine.along_append, ← run_append] at haccepted
        rw [← List.append_assoc, run_snoc, observe_unavailable_iff haccepted.1.2.1,
          hbefore last (by simp)] at hlost
        cases hlost
    · obtain ⟨before, first, rest, hsplit, hwindow, hsteady⟩ :=
        stretch_of_rank hearlier hlost (not_le.mp hdone) hreached
      have hhistory : accepted th (past ++ obs) = accepted th past ++ obs := by
        unfold accepted
        rw [acceptedFrom_append]
        exact congrArg _ (acceptedFrom_of_along th haccepted.1)
      refine .inr (.inr ⟨before, first, rest, ob, [], _, ?_, by simp, hwindow, hsteady⟩)
      rw [← List.append_assoc, ← hhistory, hsplit]
      simp

/-- **Sustained overload escalates** over a steady stretch and not otherwise: while the pressure
    has rank `r` or more, the pool comes to rank `r` exactly if it had it, if it was not
    available, or if the pressure keeps to one level for the enter window. -/
theorem sustained_overload_escalates [Comparable F] (th : Thresholds F) (hth : th.Ordered)
    (past obs : List (Observation F)) (hpositive : ∀ x ∈ past ++ obs, 0 < x.at') (r : Int)
    (haccepted : (pool th).Along (fun m ob => ¬ Stale m ob) (run th past) obs)
    (hover : ∀ ob ∈ obs, ob.available = true ∧ r ≤ stateRank (instantaneous th ob)) :
    r ≤ stateRank (run th (past ++ obs)).current ↔
      r ≤ stateRank (run th past).current ∨
      ((run th past).current = .unavailable ∧ obs ≠ []) ∨
      SteadyStretch th (accepted th past) obs := by
  refine ⟨promoted_of_rank hpositive haccepted fun ob hob => (hover ob hob).1, ?_⟩
  intro hpromoted
  rcases hpromoted with hpast | ⟨hlost, hsome⟩ | hstretch
  · rw [run_append]
    exact rank_after hth hover hpast
  · obtain ⟨ob, obs, rfl⟩ := List.exists_cons_of_ne_nil hsome
    obtain ⟨havailable, hpressure⟩ := hover ob List.mem_cons_self
    rw [run_append, Machine.after_cons]
    refine rank_after hth (fun x hx => hover x (List.mem_cons_of_mem _ hx)) ?_
    show r ≤ stateRank (observe th (run th past) ob).current
    rw [observe_regained haccepted.1 havailable hlost]
    exact hpressure
  · exact hstretch.rank hth hpositive haccepted hover

end Escalation

/-! Three seconds of steady pressure, and three seconds between two levels. -/

theorem demoThresholds_ordered : demoThresholds.Ordered := by
  refine ⟨?_, ?_, ?_, ?_, ?_⟩
  all_goals decide +kernel

def steadyPressure : List (Observation ℚ) :=
  [⟨1 * second, 11 / 10, false, true⟩, ⟨4 * second, 13 / 10, false, true⟩,
    ⟨5 * second, 15 / 10, false, true⟩]

/-- The stretch starts with an observation that came before. -/
theorem sustained_overload_escalates_steady :
    2 ≤ stateRank (run demoThresholds
      ([⟨1 * second / 2, 11 / 10, false, true⟩] ++ steadyPressure)).current :=
  (sustained_overload_escalates demoThresholds demoThresholds_ordered
    [⟨1 * second / 2, 11 / 10, false, true⟩] steadyPressure
    (by decide +kernel) 2 (by decide +kernel) (by decide +kernel)).mpr
    (.inr (.inr ⟨[], ⟨1 * second / 2, 11 / 10, false, true⟩,
      [⟨1 * second, 11 / 10, false, true⟩], ⟨4 * second, 13 / 10, false, true⟩,
      [⟨5 * second, 15 / 10, false, true⟩], .saturated, rfl, by decide, by decide +kernel,
      by decide +kernel⟩))

def alternatingPressure : List (Observation ℚ) :=
  [⟨1 * second, 11 / 10, false, true⟩, ⟨2 * second, 15 / 10, false, true⟩,
    ⟨3 * second, 11 / 10, false, true⟩, ⟨4 * second, 15 / 10, false, true⟩,
    ⟨5 * second, 11 / 10, false, true⟩, ⟨6 * second, 15 / 10, false, true⟩]

theorem alternating_stays_normal :
    demoThresholds.Ordered ∧
    (pool demoThresholds).Along (fun m ob => ¬ Stale m ob) {} alternatingPressure ∧
    (∀ ob ∈ alternatingPressure, ob.available = true ∧
      2 ≤ stateRank (instantaneous demoThresholds ob)) ∧
    demoThresholds.enterWindow ≤ 6 * second - 1 * second ∧
    stateRank (run demoThresholds alternatingPressure).current = 0 :=
  ⟨demoThresholds_ordered, by decide +kernel, by decide +kernel, by decide +kernel,
    by decide +kernel⟩

end Pressure
