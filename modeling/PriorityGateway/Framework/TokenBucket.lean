import PriorityGateway.Framework.System
import Mathlib.Algebra.Order.Ring.Rat
import Mathlib.Algebra.BigOperators.Group.List.Basic
import Mathlib.Tactic.Linarith
import Mathlib.Tactic.Positivity

/-! # Token Buckets

    A bucket gains tokens at a constant rate up to its capacity, and loses
    some with every use.  It is refilled lazily, so that what it holds at an
    instant is a function of what it held at the last one (`refill`).

    Two rules about components that are driven by timed calls and keep such
    buckets inside:

    * `sum_le_of_paid`: what is refilled at each call is paid for by an
      instant that moves forward; then all of it is paid for by the time
      between the first and the latest reading of the clock.
    * `sum_le_of_spent`: what each call spends is taken from the balance that
      the component would hold at that reading; then all of it is at most the
      balance at the start and what the time since then is worth. -/

namespace TokenBucket

/-! ## Refilling -/

/-- A bucket after `elapsed` units of time. -/
def refill (rate capacity balance elapsed : ℚ) : ℚ := min (balance + elapsed * rate) capacity

section Refill

variable {rate capacity balance elapsed : ℚ}

theorem refill_le_capacity : refill rate capacity balance elapsed ≤ capacity := min_le_right _ _

theorem refill_gain_le : refill rate capacity balance elapsed - balance ≤ elapsed * rate := by
  have hle : refill rate capacity balance elapsed ≤ balance + elapsed * rate := min_le_left _ _
  linarith

theorem refill_nonneg (hrate : 0 ≤ rate) (hcapacity : 0 ≤ capacity) (hbalance : 0 ≤ balance)
    (helapsed : 0 ≤ elapsed) : 0 ≤ refill rate capacity balance elapsed := by
  apply le_min
  · positivity
  · exact hcapacity

/-- More time is worth at most the tokens of that time. -/
theorem refill_later_le (hrate : 0 ≤ rate) {more : ℚ} (hmore : elapsed ≤ more) :
    refill rate capacity balance more
      ≤ refill rate capacity balance elapsed + (more - elapsed) * rate := by
  have hgain : 0 ≤ (more - elapsed) * rate := mul_nonneg (by linarith) hrate
  unfold refill
  rw [min_add]
  apply le_min
  · have hle := min_le_left (balance + more * rate) capacity
    linarith
  · have hle := min_le_right (balance + more * rate) capacity
    linarith

end Refill

/-! ## Readings of a clock -/

/-- The latest of some readings. -/
def latest (first : Int) (readings : List Int) : Int := readings.foldl max first

/-- Every reading stands in the relation to the latest one before it. -/
def Paced (R : Int → Int → Prop) (m : Int) : List Int → Prop
  | [] => True
  | now :: rest => R m now ∧ Paced R (max m now) rest

instance {R : Int → Int → Prop} [∀ a b, Decidable (R a b)] :
    (m : Int) → (readings : List Int) → Decidable (Paced R m readings)
  | _, [] => .isTrue trivial
  | m, now :: rest =>
    have : Decidable (Paced R (max m now) rest) := instDecidablePaced (max m now) rest
    inferInstanceAs (Decidable (R m now ∧ Paced R (max m now) rest))

theorem le_latest (first : Int) (readings : List Int) : first ≤ latest first readings := by
  induction readings generalizing first with
  | nil => exact le_refl _
  | cons now rest ih => exact (le_max_left first now).trans (ih _)

variable {readings : List Int} {first t : Int}

theorem le_latest_of_mem (h : t ∈ readings) : t ≤ latest first readings := by
  induction readings generalizing first with
  | nil => cases h
  | cons now rest ih =>
    rcases List.mem_cons.mp h with rfl | h
    · exact (le_max_right first t).trans (le_latest _ rest)
    · exact ih h

theorem latest_le (hfirst : first ≤ t) (h : ∀ r ∈ readings, r ≤ t) : latest first readings ≤ t := by
  induction readings generalizing first with
  | nil => exact hfirst
  | cons now rest ih =>
    exact ih (max_le hfirst (h now List.mem_cons_self))
      (fun r hr => h r (List.mem_cons_of_mem _ hr))

/-- A clock that does not go back. -/
theorem paced_of_pairwise {m : Int}
    (h : (m :: readings).Pairwise (· ≤ ·)) : Paced (· ≤ ·) m readings := by
  induction readings generalizing m with
  | nil => trivial
  | cons now rest ih =>
    obtain ⟨hm, hrest⟩ := List.pairwise_cons.mp h
    have hnow : m ≤ now := hm now List.mem_cons_self
    refine ⟨hnow, ?_⟩
    rw [max_eq_right hnow]
    exact ih hrest

/-! ## Timed machines -/

section Timed

variable {State Use Answer : Type} {rate : ℚ}

/-- **What is refilled is paid for by time.**  `upTo s t` says that the tokens of the time up
    to `t` are in; a call that finds this may move `t` forward, to the latest reading at
    most, and refills at most the tokens of that time. -/
theorem sum_le_of_paid (M : Machine State (Int × Use) ℚ) (hrate : 0 ≤ rate) {R : Int → Int → Prop}
    (upTo : State → Int → Prop) (hstep : ∀ s t m (c : Int × Use), upTo s t → t ≤ m → R m c.1 →
      ∃ t', t ≤ t' ∧ t' ≤ max m c.1 ∧ upTo (M.step s c).1 t' ∧
        (M.step s c).2 ≤ ((t' - t : Int) : ℚ) * rate) (cs : List (Int × Use)) (s : State)
    (t m : Int) (hs : upTo s t) (htm : t ≤ m) (hpaced : Paced R m (cs.map Prod.fst)) :
    (M.answers s cs).sum ≤ ((latest m (cs.map Prod.fst) - t : Int) : ℚ) * rate := by
  induction cs generalizing s t m with
  | nil =>
    have hpos : (0 : ℚ) ≤ ((m - t : Int) : ℚ) := by exact_mod_cast sub_nonneg.mpr htm
    exact mul_nonneg hpos hrate
  | cons c cs ih =>
    obtain ⟨hnow, hrest⟩ := hpaced
    obtain ⟨t', hle, hmax, hs', hgain⟩ := hstep s t m c hs htm hnow
    have hlater := ih (M.step s c).1 t' (max m c.1) hs' hmax hrest
    show (M.step s c).2 + (M.answers (M.step s c).1 cs).sum
      ≤ ((latest (max m c.1) (cs.map Prod.fst) - t : Int) : ℚ) * rate
    push_cast at hgain hlater ⊢
    linarith

/-- **What is spent was in the bucket.**  `effective s t` is what the component would hold at
    `t`; a call spends from it, and time adds to it at the rate. -/
theorem sum_le_of_spent (M : Machine State (Int × Use) Answer) (spent : Answer → ℚ)
    (Inv : State → Int → Prop) (effective : State → Int → ℚ) {G : State → Int × Use → Prop}
    (hpay : ∀ s c, Inv s c.1 → G s c → Inv (M.step s c).1 c.1 ∧
      effective (M.step s c).1 c.1 + spent (M.step s c).2 ≤ effective s c.1)
    (hlater : ∀ s t t', Inv s t → t ≤ t' → Inv s t' ∧
      effective s t' ≤ effective s t + ((t' - t : Int) : ℚ) * rate)
    (hnonneg : ∀ s t, Inv s t → 0 ≤ effective s t) (cs : List (Int × Use)) (s : State) (t : Int)
    (hs : Inv s t) (hforward : Paced (· ≤ ·) t (cs.map Prod.fst)) (hG : M.Along G s cs) :
    ((M.answers s cs).map spent).sum
      ≤ effective s t + ((latest t (cs.map Prod.fst) - t : Int) : ℚ) * rate := by
  induction cs generalizing s t with
  | nil =>
    have hnow := hnonneg s t hs
    simp only [Machine.answers, List.map_nil, List.sum_nil, latest, List.foldl_nil, sub_self,
      Int.cast_zero, zero_mul, add_zero]
    exact hnow
  | cons c cs ih =>
    obtain ⟨hnow, hrest⟩ := hforward
    obtain ⟨hs', hgrown⟩ := hlater s t c.1 hs hnow
    obtain ⟨hinv, hspent⟩ := hpay s c hs' hG.1
    rw [max_eq_right hnow] at hrest
    have hmore := ih (M.step s c).1 c.1 hinv hrest hG.2
    show spent (M.step s c).2 + ((M.answers (M.step s c).1 cs).map spent).sum
      ≤ effective s t + ((latest (max t c.1) (cs.map Prod.fst) - t : Int) : ℚ) * rate
    rw [max_eq_right hnow]
    push_cast at hgrown hmore ⊢
    linarith

end Timed

end TokenBucket
