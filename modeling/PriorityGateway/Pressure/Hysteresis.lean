import PriorityGateway.Pressure.PoolMachine
import Mathlib.Data.Rat.Defs
import Mathlib.Algebra.Order.Ring.Rat

/-! # Hysteresis

    Every change of level has a history: for as long as its window, every
    observation asked for it.  The machine keeps one candidate and one
    instant, so the history is recovered from the accepted observations.

    The invariant `Remembers` says that a candidate has been the target of
    every accepted observation since the one that started it.  The level did
    not change meanwhile, so one `target` function answers for all of them. -/

namespace Pressure

open Coordination (timeSub maxDuration second)

/-- From some observation on, `window` before the instant `now` at the latest, all of them
    satisfy `P`. -/
def HeldFor {F : Type} (window now : Int) (P : Observation F → Prop)
    (history : List (Observation F)) : Prop :=
  ∃ before first rest, history = before ++ first :: rest ∧ window ≤ now - first.at' ∧
    ∀ ob ∈ first :: rest, P ob

/-- The same with an observation at the end of it, later than the first by the window. -/
def Stretch {F : Type} (window : Int) (P : Observation F → Prop) (history : List (Observation F))
    (ob : Observation F) : Prop :=
  ∃ before first rest, history = before ++ first :: rest ∧ window ≤ ob.at' - first.at' ∧
    ∀ x ∈ first :: (rest ++ [ob]), P x

section

variable {F : Type} {window : Int} {P Q : Observation F → Prop} {history : List (Observation F)}
  {ob : Observation F}

theorem Stretch.heldFor (h : Stretch window P history ob) :
    HeldFor window ob.at' P (history ++ [ob]) := by
  obtain ⟨before, first, rest, rfl, hwindow, hall⟩ := h
  exact ⟨before, first, rest ++ [ob], by simp, hwindow, hall⟩

theorem Stretch.mono (h : Stretch window P history ob) (hPQ : ∀ x, P x → Q x) :
    Stretch window Q history ob := by
  obtain ⟨before, first, rest, hhistory, hwindow, hall⟩ := h
  exact ⟨before, first, rest, hhistory, hwindow, fun x hx => hPQ x (hall x hx)⟩

end

section History

variable {F : Type} [LT F] [LE F] [DecidableLT F] [DecidableLE F] (th : Thresholds F)
  {obs : List (Observation F)}

/-! ## Accepted observations -/

/-- The observations of a run that were not stale. -/
def acceptedFrom (m : PoolMachine) : List (Observation F) → List (Observation F)
  | [] => []
  | ob :: obs =>
    if Stale m ob then acceptedFrom (observe th m ob) obs
    else ob :: acceptedFrom (observe th m ob) obs

/-- The accepted observations of a new machine. -/
def accepted (obs : List (Observation F)) : List (Observation F) := acceptedFrom th {} obs

/-- The machine after a run. -/
def run (obs : List (Observation F)) : PoolMachine := (pool th).after {} obs

theorem run_append (obs obs' : List (Observation F)) :
    run th (obs ++ obs') = (pool th).after (run th obs) obs' := (pool th).after_append {} obs obs'

theorem run_snoc (obs : List (Observation F)) (ob : Observation F) :
    run th (obs ++ [ob]) = observe th (run th obs) ob := run_append th obs [ob]

theorem acceptedFrom_append (obs obs' : List (Observation F)) (m : PoolMachine) :
    acceptedFrom th m (obs ++ obs')
      = acceptedFrom th m obs ++ acceptedFrom th ((pool th).after m obs) obs' := by
  induction obs generalizing m with
  | nil => rfl
  | cons ob obs ih =>
    rw [List.cons_append, acceptedFrom, acceptedFrom, ih, Machine.after_cons]
    split
    · rfl
    · rfl

theorem accepted_snoc (obs : List (Observation F)) (ob : Observation F) :
    accepted th (obs ++ [ob])
      = if Stale (run th obs) ob then accepted th obs else accepted th obs ++ [ob] := by
  unfold accepted
  rw [acceptedFrom_append]
  show acceptedFrom th {} obs ++ (if Stale (run th obs) ob then [] else [ob]) = _
  split
  · exact List.append_nil _
  · rfl

/-- An observation that was not accepted has changed nothing. -/
theorem after_acceptedFrom (m : PoolMachine) (obs : List (Observation F)) :
    (pool th).after m (acceptedFrom th m obs) = (pool th).after m obs ∧
      (pool th).Along (fun m ob => ¬ Stale m ob) m (acceptedFrom th m obs) := by
  induction obs generalizing m with
  | nil => exact ⟨rfl, trivial⟩
  | cons ob obs ih =>
    rw [acceptedFrom]
    split
    · next hstale =>
      rw [show observe th m ob = m from if_pos hstale, Machine.after_cons]
      show _ = (pool th).after (observe th m ob) obs ∧ _
      rw [show observe th m ob = m from if_pos hstale]
      exact ih m
    · next hfresh => exact ⟨(ih _).1, hfresh, (ih _).2⟩

theorem acceptedFrom_of_along {m : PoolMachine}
    (h : (pool th).Along (fun m ob => ¬ Stale m ob) m obs) : acceptedFrom th m obs = obs := by
  induction obs generalizing m with
  | nil => rfl
  | cons ob obs ih =>
    rw [acceptedFrom, if_neg h.1]
    exact congrArg _ (ih h.2)

theorem mem_of_mem_accepted {ob : Observation F} (h : ob ∈ accepted th obs) : ob ∈ obs := by
  induction obs using List.reverseRecOn with
  | nil => exact h
  | append_singleton obs last ih =>
    rw [accepted_snoc] at h
    split at h
    · exact List.mem_append_left _ (ih h)
    · rcases List.mem_append.mp h with hbefore | hlast
      · exact List.mem_append_left _ (ih hbefore)
      · exact List.mem_append_right _ hlast

/-! ## What the candidate stands for -/

/-- What the machine knows about the accepted observations. -/
structure Remembers (history : List (Observation F)) (m : PoolMachine) : Prop where
  newest : m.lastObservedAt = history.getLast?.elim 0 (·.at')
  last : ∀ ob ∈ history, ob.at' ≤ m.lastObservedAt
  since : ∀ level, m.candidate = some level →
    ∃ before first rest, history = before ++ first :: rest ∧ first.at' = m.candidateSince ∧
      ∀ ob ∈ first :: rest, ob.available = true ∧ (target th m.current ob).1 = level

variable {th} {history : List (Observation F)} {m : PoolMachine} {ob : Observation F}

/-- Accepted observations go forward in time. -/
theorem Remembers.le_of_accepted (hm : Remembers th history m)
    (hpositive : ∀ ob ∈ history, 0 < ob.at') (h : ¬ Stale m ob) :
    ∀ x ∈ history, x.at' ≤ ob.at' := by
  intro x hx
  have hlast := hm.last x hx
  have hpos := hpositive x hx
  unfold Stale at h
  omega

theorem Remembers.observe (hm : Remembers th history m)
    (hpositive : ∀ ob ∈ history, 0 < ob.at') (ob : Observation F) :
    Remembers th (if Stale m ob then history else history ++ [ob]) (observe th m ob) := by
  have hobserved := observed th m ob
  -- an accepted observation is the last one
  have hlast : ¬ Stale m ob → ∀ x ∈ history ++ [ob], x.at' ≤ ob.at' := by
    intro h x hx
    rcases List.mem_append.mp hx with hbefore | hnow
    · exact hm.le_of_accepted hpositive h x hbefore
    · rw [List.mem_singleton.mp hnow]
  generalize Pressure.observe th m ob = m' at hobserved
  cases hobserved with
  | stale h =>
    rw [if_pos h]
    exact hm
  | lost h _ | regained h _ _ | stayed h _ _ _ | moved h _ _ _ _ _ =>
    rw [if_neg h]
    refine ⟨by simp [resetCandidate], hlast h, ?_⟩
    intro level hlevel
    cases hlevel
  | started h havailable _ _ _ =>
    rw [if_neg h]
    refine ⟨by simp, hlast h, ?_⟩
    intro level hlevel
    refine ⟨history, ob, [], rfl, rfl, ?_⟩
    intro x hx
    rw [List.mem_singleton.mp hx]
    exact ⟨havailable, Option.some.inj hlevel⟩
  | waited h havailable _ _ hcandidate _ =>
    rw [if_neg h]
    refine ⟨by simp, hlast h, ?_⟩
    intro level hlevel
    obtain ⟨before, first, rest, hhistory, hfirst, hall⟩ := hm.since level hlevel
    refine ⟨before, first, rest ++ [ob], by rw [hhistory]; simp, hfirst, ?_⟩
    intro x hx
    rw [← List.cons_append] at hx
    rcases List.mem_append.mp hx with hbefore | hnow
    · exact hall x hbefore
    · rw [List.mem_singleton.mp hnow]
      rw [hcandidate] at hlevel
      exact ⟨havailable, Option.some.inj hlevel⟩

theorem remembers_run (th : Thresholds F)
    (hpositive : ∀ ob ∈ obs, 0 < ob.at') : Remembers th (accepted th obs) (run th obs) := by
  induction obs using List.reverseRecOn with
  | nil => exact ⟨rfl, nofun, nofun⟩
  | append_singleton obs ob ih =>
    have hobs : ∀ x ∈ obs, 0 < x.at' := fun x hx => hpositive x (List.mem_append_left _ hx)
    rw [accepted_snoc, run_snoc]
    exact (ih hobs).observe (fun x hx => hobs x (mem_of_mem_accepted th hx)) ob

/-- A candidate was started by an observation that is not later than the last one. -/
def Timely (m : PoolMachine) : Prop := m.candidate ≠ none → m.candidateSince ≤ m.lastObservedAt

theorem Remembers.timely (hm : Remembers th history m) : Timely m := by
  intro hcandidate
  obtain ⟨level, hlevel⟩ := Option.ne_none_iff_exists'.mp hcandidate
  obtain ⟨before, first, rest, hhistory, hfirst, -⟩ := hm.since level hlevel
  rw [← hfirst]
  apply hm.last
  rw [hhistory]
  exact List.mem_append_right _ List.mem_cons_self

/-! ## Changes of level -/

/-- The observation changes the level of a pool that is available before and after. -/
def Changes (th : Thresholds F) (m : PoolMachine) (ob : Observation F) : Prop :=
  m.current ≠ .unavailable ∧ (observe th m ob).current ≠ .unavailable ∧
    (observe th m ob).current ≠ m.current

/-- Only a candidate whose window has passed is changed to. -/
theorem Changes.moved (h : Changes th m ob) :
    ¬ Stale m ob ∧ ob.available = true ∧ m.candidate = some (target th m.current ob).1 ∧
      (target th m.current ob).2 ≤ timeSub ob.at' m.candidateSince ∧
      observe th m ob = resetCandidate
        { m with lastObservedAt := ob.at', current := (target th m.current ob).1 } := by
  obtain ⟨hbefore, hafter, hchanged⟩ := h
  have hobserved := observed th m ob
  generalize hm' : observe th m ob = m' at hobserved hafter hchanged
  cases hobserved with
  | stale _ | stayed _ _ _ _ | started _ _ _ _ _ | waited _ _ _ _ _ _ => exact absurd rfl hchanged
  | lost _ _ => exact absurd rfl hafter
  | regained _ _ hcurrent => exact absurd hcurrent hbefore
  | moved hstale havailable _ _ hcandidate hwindow =>
    exact ⟨hstale, havailable, hcandidate, hwindow, rfl⟩

theorem Changes.current (h : Changes th m ob) :
    (observe th m ob).current = (target th m.current ob).1 :=
  congrArg PoolMachine.current h.moved.2.2.2.2

theorem timeSub_le {a b : Int} (h : b ≤ a) : timeSub a b ≤ a - b := by
  simp only [timeSub, maxDuration]
  omega

/-- Every accepted observation since the candidate was started has asked for it. -/
theorem Changes.stretch (h : Changes th m ob) (hm : Remembers th history m)
    (hpositive : ∀ ob ∈ history, 0 < ob.at') :
    Stretch (target th m.current ob).2
      (fun x => x.available = true ∧ (target th m.current x).1 = (observe th m ob).current)
      history ob := by
  obtain ⟨hstale, havailable, hcandidate, hwindow, -⟩ := h.moved
  obtain ⟨before, first, rest, hhistory, hfirst, hall⟩ := hm.since _ hcandidate
  have hle : first.at' ≤ ob.at' := by
    apply hm.le_of_accepted hpositive hstale
    rw [hhistory]
    exact List.mem_append_right _ List.mem_cons_self
  refine ⟨before, first, rest, hhistory, ?_, ?_⟩
  · rw [← hfirst] at hwindow
    exact hwindow.trans (timeSub_le hle)
  intro x hx
  rw [h.current]
  rw [← List.cons_append] at hx
  rcases List.mem_append.mp hx with hbefore | hnow
  · exact hall x hbefore
  · rw [List.mem_singleton.mp hnow]
    exact ⟨havailable, rfl⟩

variable {current : PoolState} {t : Int}

/-- A target above the level is what the pressure is at. -/
theorem target_above (h : stateRank current < stateRank (target th current ob).1) :
    (target th current ob).1 = instantaneous th ob ∧ (target th current ob).2 = th.enterWindow := by
  rcases target_cases th current ob with ⟨-, heq⟩ | ⟨-, hbelow, heq⟩ | ⟨-, -, heq⟩
  · rw [heq]
    exact ⟨rfl, rfl⟩
  · rw [heq] at h
    rw [stateRank_lower hbelow] at h
    omega
  · rw [heq] at h
    exact absurd h (lt_irrefl _)

/-- A target below the level is a recovery by one level. -/
theorem target_below (h : stateRank (target th current ob).1 < stateRank current) :
    stateRank (target th current ob).1 = stateRank current - 1 ∧
      (target th current ob).2 = th.recoveryWindow ∧ BelowRecovery th current ob ∧
      stateRank (instantaneous th ob) ≤ stateRank current := by
  rcases target_cases th current ob with ⟨hrise, heq⟩ | ⟨hle, hbelow, heq⟩ | ⟨-, -, heq⟩
  · rw [heq] at h
    exact absurd hrise (not_lt.mpr h.le)
  · rw [heq]
    exact ⟨stateRank_lower hbelow, rfl, hbelow, hle⟩
  · rw [heq] at h
    exact absurd h (lt_irrefl _)

/-! ## Changes are apart -/

/-- No candidate is older than the instant. -/
structure Since (t : Int) (m : PoolMachine) : Prop where
  positive : 0 < t
  last : t ≤ m.lastObservedAt
  candidate : m.candidate ≠ none → t ≤ m.candidateSince

theorem Since.observe (hm : Since t m) (ob : Observation F) : Since t (observe th m ob) := by
  have hobserved := observed th m ob
  have hlater : ¬ Stale m ob → t ≤ ob.at' := by
    intro h
    have hpos := hm.positive
    have hlast := hm.last
    unfold Stale at h
    omega
  generalize Pressure.observe th m ob = m' at hobserved
  cases hobserved with
  | stale _ => exact hm
  | lost h _ | regained h _ _ | stayed h _ _ _ | moved h _ _ _ _ _ =>
    exact ⟨hm.positive, hlater h, fun hnone => absurd rfl hnone⟩
  | started h _ _ _ _ => exact ⟨hm.positive, hlater h, fun _ => hlater h⟩
  | waited h _ _ _ _ _ => exact ⟨hm.positive, hlater h, hm.candidate⟩

theorem Since.after (hm : Since t m) (obs : List (Observation F)) :
    Since t ((pool th).after m obs) := by
  induction obs generalizing m with
  | nil => exact hm
  | cons ob obs ih => exact ih (hm.observe ob)

section

variable (h : Changes th m ob)

include h

/-- A change starts over. -/
theorem Changes.since (hpositive : 0 < ob.at') : Since ob.at' (Pressure.observe th m ob) := by
  rw [h.moved.2.2.2.2]
  exact ⟨hpositive, le_refl _, fun hnone => absurd rfl hnone⟩

/-- The next change waits for one of the windows. -/
theorem Changes.apart (hm : Since t m) : min th.enterWindow th.recoveryWindow ≤ ob.at' - t := by
  obtain ⟨hstale, -, hcandidate, hwindow, -⟩ := h.moved
  have hsince := hm.candidate (by rw [hcandidate]; exact Option.some_ne_none _)
  have hlast := hm.last
  have hpos := hm.positive
  have hne : (target th m.current ob).1 ≠ m.current := h.current ▸ h.2.2
  -- the window is one of the two, since the target is not the level itself
  have hmin : min th.enterWindow th.recoveryWindow ≤ (target th m.current ob).2 := by
    rcases target_cases th m.current ob with ⟨-, heq⟩ | ⟨-, -, heq⟩ | ⟨-, -, heq⟩
    · rw [heq]
      exact min_le_left _ _
    · rw [heq]
      exact min_le_right _ _
    · rw [heq] at hne
      exact absurd rfl hne
  have hsub : timeSub ob.at' m.candidateSince ≤ max 0 (ob.at' - m.candidateSince) := by
    simp only [timeSub, maxDuration]
    omega
  unfold Stale at hstale
  omega

/-! ## Soundness -/

/-- What holds of a run `obs` and of the observation `ob` after it. -/
structure Sound (th : Thresholds F) (obs : List (Observation F)) (ob : Observation F) : Prop where
  rise : Changes th (run th obs) ob →
    stateRank (run th obs).current < stateRank (run th (obs ++ [ob])).current →
    HeldFor th.enterWindow ob.at'
      (fun x => x.available = true ∧ instantaneous th x = (run th (obs ++ [ob])).current)
      (accepted th (obs ++ [ob]))
  fall : Changes th (run th obs) ob →
    stateRank (run th (obs ++ [ob])).current < stateRank (run th obs).current →
    stateRank (run th (obs ++ [ob])).current = stateRank (run th obs).current - 1 ∧
    HeldFor th.recoveryWindow ob.at'
      (fun x => x.available = true ∧ BelowRecovery th (run th obs).current x ∧
        stateRank (instantaneous th x) ≤ stateRank (run th obs).current)
      (accepted th (obs ++ [ob]))
  /-- a later change is one of the windows later -/
  apart : Changes th (run th obs) ob → ∀ mid next,
    Changes th (run th (obs ++ ob :: mid)) next →
    min th.enterWindow th.recoveryWindow ≤ next.at' - ob.at'
  unavailable : ¬ Stale (run th obs) ob →
    ((run th (obs ++ [ob])).current = .unavailable ↔ ob.available = false)
  available : ¬ Stale (run th obs) ob → ob.available = true →
    (run th obs).current = .unavailable →
    (run th (obs ++ [ob])).current = instantaneous th ob
  stale : ∀ x ∈ accepted th obs, ob.at' < x.at' → run th (obs ++ [ob]) = run th obs
  /-- the machine knows when the last observation was that it has accepted -/
  newest : (run th obs).lastObservedAt = (accepted th obs).getLast?.elim 0 (·.at')

theorem Changes.held_rise (hm : Remembers th history m) (hpositive : ∀ ob ∈ history, 0 < ob.at')
    (hrise : stateRank m.current < stateRank (Pressure.observe th m ob).current) :
    Stretch th.enterWindow
      (fun x => x.available = true ∧ instantaneous th x = (Pressure.observe th m ob).current)
      history ob := by
  have hheld := h.stretch hm hpositive
  have hcurrent := h.current
  rw [(target_above (by rw [← hcurrent]; exact hrise)).2] at hheld
  apply hheld.mono
  rintro x ⟨havailable, htarget⟩
  refine ⟨havailable, ?_⟩
  rw [← htarget] at hrise
  rw [← htarget]
  exact (target_above hrise).1.symm

theorem Changes.held_fall (hm : Remembers th history m) (hpositive : ∀ ob ∈ history, 0 < ob.at')
    (hfall : stateRank (Pressure.observe th m ob).current < stateRank m.current) :
    Stretch th.recoveryWindow
      (fun x => x.available = true ∧ BelowRecovery th m.current x ∧
        stateRank (instantaneous th x) ≤ stateRank m.current) history ob := by
  have hheld := h.stretch hm hpositive
  have hcurrent := h.current
  rw [(target_below (by rw [← hcurrent]; exact hfall)).2.1] at hheld
  apply hheld.mono
  rintro x ⟨havailable, htarget⟩
  rw [← htarget] at hfall
  obtain ⟨-, -, hbelow, hle⟩ := target_below hfall
  exact ⟨havailable, hbelow, hle⟩

end

theorem target_ne_unavailable (h : current ≠ .unavailable) :
    (target th current ob).1 ≠ .unavailable := by
  rcases target_cases th current ob with ⟨-, heq⟩ | ⟨-, -, heq⟩ | ⟨-, -, heq⟩
  · rw [heq]
    exact instantaneous_ne_unavailable th ob
  · rw [heq]
    show lower current ≠ .unavailable
    cases current
    case unavailable => exact absurd rfl h
    all_goals exact nofun
  · rw [heq]
    exact h

/-- **An available pool is at a level, an unavailable one is not**, from one observation on. -/
theorem observe_unavailable_iff (h : ¬ Stale m ob) :
    (Pressure.observe th m ob).current = .unavailable ↔ ob.available = false := by
  have hobserved := observed th m ob
  generalize Pressure.observe th m ob = m' at hobserved
  cases hobserved with
  | stale hstale => exact absurd hstale h
  | lost _ havailable => simp [resetCandidate, havailable]
  | regained _ havailable _ =>
    simp [resetCandidate, havailable, instantaneous_ne_unavailable th ob]
  | stayed _ havailable hcurrent _ => simp [resetCandidate, havailable, hcurrent]
  | started _ havailable hcurrent _ _ | waited _ havailable hcurrent _ _ _ =>
    simp [havailable, hcurrent]
  | moved _ havailable hcurrent htarget _ _ =>
    simp [resetCandidate, havailable, target_ne_unavailable hcurrent]

/-- A pool that was not available is at the level of the first observation of it. -/
theorem observe_regained (haccepted : ¬ Stale m ob) (havailable : ob.available = true)
    (hlost : m.current = .unavailable) : (observe th m ob).current = instantaneous th ob := by
  unfold observe
  rw [if_neg haccepted]
  simp [havailable, hlost, resetCandidate]

/-- **Hysteresis is sound**, for observations at any times after the zero time. -/
theorem hysteresis_sound (th : Thresholds F) (obs : List (Observation F)) (ob : Observation F)
    (hpositive : ∀ x ∈ obs ++ [ob], 0 < x.at') : Sound th obs ob := by
  have hobs : ∀ x ∈ obs, 0 < x.at' := fun x hx => hpositive x (List.mem_append_left _ hx)
  have hob : 0 < ob.at' := hpositive ob (List.mem_append_right _ (List.mem_singleton.mpr rfl))
  have hm := remembers_run th hobs
  have haccepted : ∀ x ∈ accepted th obs, 0 < x.at' :=
    fun x hx => hobs x (mem_of_mem_accepted th hx)
  refine ⟨?_, ?_, ?_, ?_, ?_, ?_, hm.newest⟩
  · intro h hrise
    rw [accepted_snoc, if_neg h.moved.1]
    rw [run_snoc] at hrise ⊢
    exact (h.held_rise hm haccepted hrise).heldFor
  · intro h hfall
    rw [accepted_snoc, if_neg h.moved.1]
    rw [run_snoc] at hfall ⊢
    refine ⟨?_, (h.held_fall hm haccepted hfall).heldFor⟩
    have hcurrent := h.current
    rw [hcurrent] at hfall ⊢
    exact (target_below hfall).1
  · intro h mid next hnext
    have hsince : Since ob.at' (run th (obs ++ ob :: mid)) := by
      rw [run_append, Machine.after_cons]
      exact (h.since hob).after mid
    exact hnext.apart hsince
  · intro h
    rw [run_snoc]
    exact observe_unavailable_iff h
  · intro h havailable hcurrent
    rw [run_snoc]
    exact observe_regained h havailable hcurrent
  · intro x hx hlt
    rw [run_snoc]
    apply if_pos
    have hlast := hm.last x hx
    unfold Stale
    omega

end History

/-! A pool that is busy for three seconds. -/

def demoThresholds : Thresholds ℚ where
  busy := 7 / 10
  saturated := 1
  emergency := 14 / 10
  busyRecovery := 55 / 100
  saturatedRecovery := 85 / 100
  emergencyRecovery := 12 / 10
  enterWindow := 3 * second
  recoveryWindow := 10 * second

/-- An observation of a busy pool. -/
def busyAt (seconds : Int) : Observation ℚ := ⟨seconds * second, 8 / 10, false, true⟩

theorem hysteresis_sound_busy :
    (run demoThresholds [busyAt 100, busyAt 103]).current = .busy ∧
    HeldFor (3 * second) (103 * second)
      (fun x => x.available = true ∧ instantaneous demoThresholds x = .busy)
      (accepted demoThresholds [busyAt 100, busyAt 103]) := by
  have hsound := hysteresis_sound demoThresholds [busyAt 100] (busyAt 103) (by decide +kernel)
  have hbusy : (run demoThresholds [busyAt 100, busyAt 103]).current = .busy := by
    decide +kernel
  have hrise := hsound.rise ⟨by decide +kernel, by decide +kernel, by decide +kernel⟩
    (by decide +kernel)
  rw [List.singleton_append, hbusy] at hrise
  exact ⟨hbusy, hrise⟩

end Pressure
