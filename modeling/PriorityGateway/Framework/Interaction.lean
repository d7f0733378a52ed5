import Mathlib.Data.List.Basic

/-! # Interactive Programs

    Sequential programs that talk to an environment and may panic.  A program
    is a function of the events so far: it adds events and ends.  What the
    environment answers is read off the events so far too, so that quantifying
    over the functions that answer quantifies over every sequence of answers.

    * `Ending`: a run returns, panics, or is still running after as many
      rounds of a loop as one chose to look at.
    * Go's `defer` in its two uses here: a cleanup that runs in any case, and
      one that runs when there is a panic to go on with.
    * `Holds`: a property of what a run adds and how it ends, with one rule
      for each way to build a program. -/

namespace Interaction

/-- How a run ends. -/
inductive Ending (α : Type) where
  | returned (a : α)
  | panicked
  /-- it has not ended within the rounds that were looked at -/
  | running
  deriving DecidableEq, Repr

/-- A program adds events to those there are, and ends. -/
def Prog (Event α : Type) : Type := List Event → List Event × Ending α

namespace Prog

variable {Event α β σ : Type}

def ret (a : α) : Prog Event α := fun _ => ([], .returned a)

/-- One program after the other; the second one does not start unless the first returns. -/
def andThen (m : Prog Event α) (f : α → Prog Event β) : Prog Event β := fun t =>
  match m t with
  | (es, .returned a) => (es ++ (f a (t ++ es)).1, (f a (t ++ es)).2)
  | (es, .panicked) => (es, .panicked)
  | (es, .running) => (es, .running)

instance : Monad (Prog Event) where
  pure := ret
  bind := andThen

/-- At most `rounds` rounds of a loop: a round goes on with a new state or ends the loop. -/
def loop (body : σ → Prog Event (σ ⊕ α)) : Nat → σ → Prog Event α
  | 0, _ => fun _ => ([], .running)
  | rounds + 1, s => andThen (body s) fun
    | .inl s => loop body rounds s
    | .inr a => ret a

end Prog

/-! ## Rules -/

/-- A property of the events since some moment and of how the run ends.  Before the moment
    `t` has happened, and since then `es`. -/
def Holds {Event α : Type} (m : Prog Event α) (t es : List Event)
    (Q : List Event → Ending α → Prop) : Prop :=
  Q (es ++ (m (t ++ es)).1) (m (t ++ es)).2

namespace Holds

variable {Event α β σ : Type} {t es : List Event}

variable {Q : List Event → Ending α → Prop} {m : Prog Event α} {cleanup : Prog Event Unit}
  {f : α → Prog Event β}

theorem mono {R : List Event → Ending α → Prop} (h : Holds m t es Q)
    (hQR : ∀ es' ending, Q es' ending → R es' ending) : Holds m t es R :=
  hQR _ _ h

theorem pure {a : α} (h : Q es (.returned a)) : Holds (Pure.pure a : Prog Event α) t es Q := by
  show Q (es ++ []) (.returned a)
  rw [List.append_nil]
  exact h

/-- What is to be shown of the rest when the first part has ended so. -/
abbrev After (f : α → Prog Event β) (t : List Event) (Q : List Event → Ending β → Prop)
    (es : List Event) : Ending α → Prop
  | .returned a => Holds (f a) t es Q
  | .panicked => Q es .panicked
  | .running => Q es .running

/-- **Sequence rule.** -/
theorem bind {Q : List Event → Ending β → Prop}
    (h : Holds m t es (After f t Q)) : Holds (m >>= f) t es Q := by
  show Q (es ++ (Prog.andThen m f (t ++ es)).1) (Prog.andThen m f (t ++ es)).2
  unfold Prog.andThen
  unfold Holds at h
  cases hm : m (t ++ es) with
  | mk es₁ ending =>
    rw [hm] at h
    cases ending with
    | panicked | running => exact h
    | returned a =>
      -- the second part sees what the first one has added
      change Q (es ++ es₁ ++ (f a (t ++ (es ++ es₁))).1) (f a (t ++ (es ++ es₁))).2 at h
      rw [← List.append_assoc t, List.append_assoc es] at h
      exact h

/-- The sequence rule, for each ending of the first part. -/
theorem bind_of {R : List Event → Ending β → Prop} (h : Holds m t es Q)
    (hrunning : ∀ es', Q es' .running → R es' .running)
    (hpanicked : ∀ es', Q es' .panicked → R es' .panicked)
    (hreturned : ∀ es' a, Q es' (.returned a) → Holds (f a) t es' R) : Holds (m >>= f) t es R := by
  apply bind
  refine h.mono ?_
  intro es' ending h'
  cases ending with
  | running => exact hrunning es' h'
  | panicked => exact hpanicked es' h'
  | returned a => exact hreturned es' a h'

/-- **Loop rule**: `I` is what every round keeps, and `Q` what holds at the end. -/
theorem loop {body : σ → Prog Event (σ ⊕ α)} {I : σ → List Event → Prop}
    (hrunning : ∀ s es, I s es → Q es .running)
    (hbody : ∀ s es, I s es → Holds (body s) t es fun es' ending =>
      match ending with
      | .returned (.inl s') => I s' es'
      | .returned (.inr a) => Q es' (.returned a)
      | .panicked => Q es' .panicked
      | .running => Q es' .running) (rounds : Nat) (s : σ) (hs : I s es) :
    Holds (Prog.loop body rounds s) t es Q := by
  induction rounds generalizing s es with
  | zero =>
    show Q (es ++ []) .running
    rw [List.append_nil]
    exact hrunning s es hs
  | succ rounds ih =>
    show Holds (body s >>= _) t es Q
    refine (hbody s es hs).bind_of (fun _ h => h) (fun _ h => h) ?_
    intro es' next h
    cases next with
    | inl s' => exact ih s' h
    | inr a => exact pure h

end Holds

end Interaction
