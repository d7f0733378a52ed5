import PriorityGateway.Framework.System
import PriorityGateway.Coordination.Types

/-! # The Pool Machine

    The overload level of a model pool.  The monitor observes the pressure of
    the pool now and then; a level is entered or left only after the pressure
    has asked for it for a while.

    * The machine remembers one level it may change to (`candidate`) and since
      when it has been asked for it.
    * An observation that is older than the last one is ignored.  The zero
      time stands for "never observed".
    * Pressures are only compared.  They are of any type with two comparisons,
      so nothing is assumed about values such as NaN that compare false with
      everything. -/

namespace Pressure

open Coordination (timeSub maxDuration second)

/-! ## Levels and thresholds -/

inductive PoolState where
  | normal
  | busy
  | saturated
  | emergency
  | unavailable
  deriving DecidableEq, Repr

def stateRank : PoolState → Int
  | .normal => 0
  | .busy => 1
  | .saturated => 2
  | .emergency => 3
  | .unavailable => -1

/-- The thresholds of a pool; the windows are durations. -/
structure Thresholds (F : Type) where
  busy : F
  saturated : F
  emergency : F
  busyRecovery : F
  saturatedRecovery : F
  emergencyRecovery : F
  enterWindow : Int
  recoveryWindow : Int
  enter_range : enterWindow ≤ maxDuration := by decide
  recovery_range : recoveryWindow ≤ maxDuration := by decide

/-- The machine without its thresholds; its default value is the one `NewPoolMachine` returns.
    `candidate` is absent while `candidateSet` is false. -/
structure PoolMachine where
  current : PoolState := .normal
  candidate : Option PoolState := none
  candidateSince : Int := 0
  lastObservedAt : Int := 0
  deriving DecidableEq, Repr

/-- The arguments of `Observe`. -/
structure Observation (F : Type) where
  at' : Int
  bestPressure : F
  allWaiting : Bool := false
  available : Bool := true
  deriving DecidableEq, Repr

/-! ## Observing -/

section Observing

variable {F : Type} [LT F] [LE F] [DecidableLT F] [DecidableLE F] (th : Thresholds F)
  {ob : Observation F}

def instantaneous (ob : Observation F) : PoolState :=
  if th.emergency ≤ ob.bestPressure then .emergency
  else if th.saturated ≤ ob.bestPressure ∨ ob.allWaiting = true then .saturated
  else if th.busy ≤ ob.bestPressure then .busy
  else .normal

/-- The pressure is below the recovery threshold of the level. -/
def BelowRecovery (level : PoolState) (ob : Observation F) : Prop :=
  match level with
  | .emergency => ob.bestPressure < th.emergencyRecovery
  | .saturated => ob.bestPressure < th.saturatedRecovery ∧ ob.allWaiting = false
  | .busy => ob.bestPressure < th.busyRecovery
  | _ => False

instance : (level : PoolState) → (ob : Observation F) → Decidable (BelowRecovery th level ob)
  | .emergency, ob => inferInstanceAs (Decidable (ob.bestPressure < _))
  | .saturated, ob => inferInstanceAs (Decidable (ob.bestPressure < _ ∧ _))
  | .busy, ob => inferInstanceAs (Decidable (ob.bestPressure < _))
  | .normal, _ => .isFalse id
  | .unavailable, _ => .isFalse id

/-- The next level on the way down. -/
def lower : PoolState → PoolState
  | .emergency => .saturated
  | .saturated => .busy
  | .busy => .normal
  | level => level

/-- `target`: the level that the observation asks for, and for how long it has to. -/
def target (current : PoolState) (ob : Observation F) : PoolState × Int :=
  if stateRank current < stateRank (instantaneous th ob) then (instantaneous th ob, th.enterWindow)
  else if BelowRecovery th current ob then (lower current, th.recoveryWindow)
  else (current, 0)

def resetCandidate (m : PoolMachine) : PoolMachine :=
  { m with candidate := none, candidateSince := 0 }

/-- The observation is older than the last one. -/
def Stale (m : PoolMachine) (ob : Observation F) : Prop :=
  m.lastObservedAt ≠ 0 ∧ ob.at' < m.lastObservedAt

instance (m : PoolMachine) (ob : Observation F) : Decidable (Stale m ob) :=
  inferInstanceAs (Decidable (_ ∧ _))

/-- `Observe` for an observation of an available pool at some level. -/
def follow (m : PoolMachine) (ob : Observation F) : PoolMachine :=
  let (target, window) := target th m.current ob
  if target = m.current then resetCandidate m
  else if m.candidate ≠ some target then
    { m with candidate := some target, candidateSince := ob.at' }
  else if window ≤ timeSub ob.at' m.candidateSince then resetCandidate { m with current := target }
  else m

/-- `Observe`, which returns the level that it leaves. -/
def observe (m : PoolMachine) (ob : Observation F) : PoolMachine :=
  if Stale m ob then m
  else
    let m := { m with lastObservedAt := ob.at' }
    if ob.available = false then resetCandidate { m with current := .unavailable }
    else if m.current = .unavailable then
      resetCandidate { m with current := instantaneous th ob }
    else follow th m ob

/-- The pool machine, driven by observations. -/
def pool : Machine PoolMachine (Observation F) PoolState where
  step := fun m ob => (observe th m ob, (observe th m ob).current)

/-! ## What an observation does -/

/-- Every way an observation can end. -/
inductive Observed (m : PoolMachine) (ob : Observation F) : PoolMachine → Prop where
  | stale (h : Stale m ob) : Observed m ob m
  | lost (h : ¬ Stale m ob) (havailable : ob.available = false) :
      Observed m ob (resetCandidate { m with lastObservedAt := ob.at', current := .unavailable })
  | regained (h : ¬ Stale m ob) (havailable : ob.available = true)
      (hcurrent : m.current = .unavailable) :
      Observed m ob
        (resetCandidate { m with lastObservedAt := ob.at', current := instantaneous th ob })
  | stayed (h : ¬ Stale m ob) (havailable : ob.available = true)
      (hcurrent : m.current ≠ .unavailable) (htarget : (target th m.current ob).1 = m.current) :
      Observed m ob (resetCandidate { m with lastObservedAt := ob.at' })
  | started (h : ¬ Stale m ob) (havailable : ob.available = true)
      (hcurrent : m.current ≠ .unavailable) (htarget : (target th m.current ob).1 ≠ m.current)
      (hcandidate : m.candidate ≠ some (target th m.current ob).1) :
      Observed m ob
        { m with
          lastObservedAt := ob.at'
          candidate := some (target th m.current ob).1
          candidateSince := ob.at' }
  | moved (h : ¬ Stale m ob) (havailable : ob.available = true)
      (hcurrent : m.current ≠ .unavailable) (htarget : (target th m.current ob).1 ≠ m.current)
      (hcandidate : m.candidate = some (target th m.current ob).1)
      (hwindow : (target th m.current ob).2 ≤ timeSub ob.at' m.candidateSince) :
      Observed m ob
        (resetCandidate
          { m with lastObservedAt := ob.at', current := (target th m.current ob).1 })
  | waited (h : ¬ Stale m ob) (havailable : ob.available = true)
      (hcurrent : m.current ≠ .unavailable) (htarget : (target th m.current ob).1 ≠ m.current)
      (hcandidate : m.candidate = some (target th m.current ob).1)
      (hwindow : timeSub ob.at' m.candidateSince < (target th m.current ob).2) :
      Observed m ob { m with lastObservedAt := ob.at' }

theorem observed (m : PoolMachine) (ob : Observation F) : Observed th m ob (observe th m ob) := by
  unfold observe
  split
  · next h => exact .stale h
  rename_i h
  dsimp only
  split
  · next havailable => exact .lost h havailable
  rename_i havailable
  rw [Bool.not_eq_false] at havailable
  split
  · next hcurrent => exact .regained h havailable hcurrent
  rename_i hcurrent
  unfold follow
  dsimp only
  split
  · next htarget => exact .stayed h havailable hcurrent htarget
  rename_i htarget
  split
  · next hcandidate => exact .started h havailable hcurrent htarget hcandidate
  rename_i hcandidate
  rw [not_not] at hcandidate
  split
  · next hwindow => exact .moved h havailable hcurrent htarget hcandidate hwindow
  · next hwindow =>
    exact .waited h havailable hcurrent htarget hcandidate (not_le.mp hwindow)

/-- What an observation asks for when the pressure is high. -/
theorem target_of_rise {current : PoolState}
    (h : stateRank current < stateRank (instantaneous th ob)) :
    target th current ob = (instantaneous th ob, th.enterWindow) := if_pos h

/-- The three things that an observation can ask for. -/
theorem target_cases (current : PoolState) (ob : Observation F) :
    (stateRank current < stateRank (instantaneous th ob) ∧
      target th current ob = (instantaneous th ob, th.enterWindow)) ∨
    (stateRank (instantaneous th ob) ≤ stateRank current ∧ BelowRecovery th current ob ∧
      target th current ob = (lower current, th.recoveryWindow)) ∨
    (stateRank (instantaneous th ob) ≤ stateRank current ∧ ¬ BelowRecovery th current ob ∧
      target th current ob = (current, 0)) := by
  unfold target
  split
  · next hrise => exact .inl ⟨hrise, rfl⟩
  rename_i hrise
  split
  · next hbelow => exact .inr (.inl ⟨not_lt.mp hrise, hbelow, rfl⟩)
  · next hbelow => exact .inr (.inr ⟨not_lt.mp hrise, hbelow, rfl⟩)

end Observing

theorem instantaneous_ne_unavailable {F : Type} [LE F] [DecidableLE F] (th : Thresholds F)
    (ob : Observation F) : instantaneous th ob ≠ .unavailable := by
  unfold instantaneous
  split
  · exact nofun
  · split
    · exact nofun
    · split <;> exact nofun

theorem stateRank_injective : Function.Injective stateRank := by
  intro a b h
  cases a <;> cases b <;> first | rfl | cases h

/-- A pool recovers by one level. -/
theorem stateRank_lower {F : Type} [LT F] {th : Thresholds F} {current : PoolState}
    {ob : Observation F} (h : BelowRecovery th current ob) :
    stateRank (lower current) = stateRank current - 1 := by
  cases current
  case normal => exact h.elim
  case unavailable => exact h.elim
  all_goals rfl

end Pressure
