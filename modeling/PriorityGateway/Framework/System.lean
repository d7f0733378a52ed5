import Mathlib.Data.List.Induction
import Mathlib.Logic.Relation

/-! # Machines and Labelled Systems

    Two shapes of transition system, with the run rules that every component
    proof goes through:

    * `Machine`: a deterministic component driven by calls.  One call is one
      atomic step (the component holds its mutex for the whole call), and a
      run is a list of calls.
    * `System`: a nondeterministic labelled transition system, used where
      several threads interleave.

    The rules are stated once here: an invariant kept by one step is kept by
    a whole run, also when the steps are restricted by a side condition that
    may look at the state (`Machine.Along`, `System.restrict`).  Bounded
    loops (`iterate`) get the same treatment: what one iteration preserves
    the loop preserves, and a loop with enough fuel ends because its body
    stopped it. -/

/-! ## Computations that may fail -/

/-- A sequence succeeds when both parts do. -/
theorem Except.bind_eq_ok {ε α β : Type} {x : Except ε α} {f : α → Except ε β} {b : β} :
    x >>= f = .ok b ↔ ∃ a, x = .ok a ∧ f a = .ok b := by
  constructor
  · intro h
    cases x with
    | error e => cases h
    | ok a => exact ⟨a, rfl, h⟩
  · rintro ⟨a, rfl, h⟩
    exact h

/-! ## Deterministic machines -/

/-- A component that answers each call in one atomic step. -/
structure Machine (State Call Answer : Type) where
  step : State → Call → State × Answer

namespace Machine

variable {State Call Answer : Type} (M : Machine State Call Answer)

/-- The state after a list of calls. -/
def after (s : State) : List Call → State
  | [] => s
  | c :: cs => after (M.step s c).1 cs

/-- The answers given along a list of calls. -/
def answers (s : State) : List Call → List Answer
  | [] => []
  | c :: cs => (M.step s c).2 :: answers (M.step s c).1 cs

/-- `G` holds of every call of the run, in the state the call finds. -/
def Along (G : State → Call → Prop) (s : State) : List Call → Prop
  | [] => True
  | c :: cs => G s c ∧ Along G (M.step s c).1 cs

instance decidableAlong {G : State → Call → Prop} [∀ s c, Decidable (G s c)] :
    (s : State) → (cs : List Call) → Decidable (M.Along G s cs)
  | _, [] => .isTrue trivial
  | s, c :: cs =>
    have : Decidable (M.Along G (M.step s c).1 cs) := decidableAlong (M.step s c).1 cs
    inferInstanceAs (Decidable (G s c ∧ M.Along G (M.step s c).1 cs))

variable (s : State) (cs ds : List Call)

@[simp] theorem after_nil : M.after s [] = s := rfl

@[simp] theorem after_cons (c : Call) (cs : List Call) :
    M.after s (c :: cs) = M.after (M.step s c).1 cs := rfl

theorem after_append : M.after s (cs ++ ds) = M.after (M.after s cs) ds := by
  induction cs generalizing s with
  | nil => rfl
  | cons c cs ih => exact ih _

theorem answers_append :
    M.answers s (cs ++ ds) = M.answers s cs ++ M.answers (M.after s cs) ds := by
  induction cs generalizing s with
  | nil => rfl
  | cons c cs ih => simp only [List.cons_append, answers, after_cons, ih]

theorem length_answers (cs : List Call) : (M.answers s cs).length = cs.length := by
  induction cs generalizing s with
  | nil => rfl
  | cons c cs ih => exact congrArg Nat.succ (ih _)

variable {G : State → Call → Prop} {I : State → Prop}

theorem along_append : M.Along G s (cs ++ ds) ↔ M.Along G s cs ∧ M.Along G (M.after s cs) ds := by
  induction cs generalizing s with
  | nil => simp [Along]
  | cons c cs ih => simp only [List.cons_append, Along, ih, after_cons, and_assoc]

/-- A condition on the calls alone holds along the run when it holds of every call. -/
theorem along_of_forall {G : Call → Prop} (cs : List Call)
    (h : ∀ c ∈ cs, G c) : M.Along (fun _ c => G c) s cs := by
  induction cs generalizing s with
  | nil => trivial
  | cons c cs ih =>
    exact ⟨h c (by simp), ih _ (fun d hd => h d (by simp [hd]))⟩

/-- **Invariant rule**: what every admissible step keeps, the run keeps. -/
theorem after_inv (hstep : ∀ s c, I s → G s c → I (M.step s c).1) (s : State)
    (cs : List Call) (hs : I s) (hG : M.Along G s cs) : I (M.after s cs) := by
  induction cs generalizing s with
  | nil => exact hs
  | cons c cs ih => exact ih _ (hstep s c hs hG.1) hG.2

/-- What every step keeps, the run keeps. -/
theorem after_inv_all (hstep : ∀ s c, I s → I (M.step s c).1) (s : State) (cs : List Call)
    (hs : I s) : I (M.after s cs) :=
  M.after_inv (G := fun _ _ => True) (fun s c h _ => hstep s c h) s cs hs
    (M.along_of_forall s cs fun _ _ => trivial)

/-- **Step rule**: under an invariant, a property of single admissible steps
    holds at every step of an admissible run. -/
theorem along_inv {Q : State → Call → Prop}
    (hstep : ∀ s c, I s → G s c → I (M.step s c).1) (hQ : ∀ s c, I s → G s c → Q s c) (s : State)
    (cs : List Call) (hs : I s) (hG : M.Along G s cs) : M.Along Q s cs := by
  induction cs generalizing s with
  | nil => trivial
  | cons c cs ih => exact ⟨hQ s c hs hG.1, ih _ (hstep s c hs hG.1) hG.2⟩

/-- What holds of the answer at every step holds of all answers. -/
theorem answers_of_along {P : Answer → Prop} (cs : List Call)
    (h : M.Along (fun s c => P (M.step s c).2) s cs) : ∀ a ∈ M.answers s cs, P a := by
  induction cs generalizing s with
  | nil => intro a ha; cases ha
  | cons c cs ih =>
    intro a ha
    rcases List.mem_cons.mp ha with rfl | ha
    · exact h.1
    · exact ih _ h.2 a ha

/-- What holds of a call and its answer at every step holds along the run. -/
theorem forall₂_answers {Q : Call → Answer → Prop} {G : Call → Prop}
    (hstep : ∀ s c, I s → G c → I (M.step s c).1) (hQ : ∀ s c, I s → G c → Q c (M.step s c).2)
    (s : State) (cs : List Call) (hs : I s) (hG : ∀ c ∈ cs, G c) :
    List.Forall₂ Q cs (M.answers s cs) := by
  induction cs generalizing s with
  | nil => exact .nil
  | cons c cs ih =>
    exact .cons (hQ s c hs (hG c (by simp)))
      (ih _ (hstep s c hs (hG c (by simp))) fun d hd => hG d (by simp [hd]))

/-- A run starts at its first reading. -/
theorem first_le {c : Int × Call} {cs : List (Int × Call)}
    (hclock : ((c :: cs).map Prod.fst).Pairwise (· ≤ ·)) : ∀ d ∈ c :: cs, c.1 ≤ d.1 := by
  intro d hd
  rcases List.mem_cons.mp hd with rfl | hd
  · exact Int.le_refl _
  · exact (List.pairwise_cons.mp hclock).1 d.1 (List.mem_map.mpr ⟨d, hd, rfl⟩)

/-- Some reading is the last one. -/
theorem exists_last_reading (cs : List (Int × Call)) : ∃ t, ∀ c ∈ cs, c.1 ≤ t := by
  induction cs with
  | nil => exact ⟨0, fun _ => nofun⟩
  | cons c cs ih =>
    obtain ⟨t, ht⟩ := ih
    refine ⟨max c.1 t, fun d hd => ?_⟩
    rcases List.mem_cons.mp hd with rfl | hd
    · exact Int.le_max_left _ _
    · exact Int.le_trans (ht d hd) (Int.le_max_right _ _)

section History

variable {Event : Type} (M : Machine State (Int × Call) Answer) (events : Answer → List Event)
  {G : State → Int × Call → Prop} {I : Int → List Event → State → Prop} {t' : Int}
  (hmono : ∀ t t' H s, t ≤ t' → I t H s → I t' H s) {cs : List (Int × Call)}
  (hclock : (cs.map Prod.fst).Pairwise (· ≤ ·)) (hend : ∀ c ∈ cs, c.1 ≤ t')
  (hstep : ∀ s, ∀ c ∈ cs, ∀ H, I c.1 H s → G s c →
    I c.1 (H ++ events (M.step s c).2) (M.step s c).1)

include hmono hclock hend hstep

/-- **History rule**: the calls carry readings of a clock that never goes back, and each
    answer tells of some events.  What stays true as time goes on, and what each call
    keeps together with its events, holds of the whole history at the end of the run. -/
theorem history_inv {s : State} {H : List Event} {t : Int} (hs : I t H s)
    (hstart : ∀ c ∈ cs, t ≤ c.1) (hle : t ≤ t') (hG : M.Along G s cs) :
    I t' (H ++ ((M.answers s cs).map events).flatten) (M.after s cs) := by
  induction cs generalizing s H t with
  | nil => simpa [answers] using hmono t t' H s hle hs
  | cons c cs ih =>
    -- time goes on to the reading of the first call, and the call is made then
    have hfirst := hstep s c List.mem_cons_self H
      (hmono t c.1 H s (hstart c List.mem_cons_self) hs) hG.1
    have hrest := ih (List.pairwise_cons.mp hclock).2
      (fun d hd => hend d (List.mem_cons_of_mem _ hd))
      (fun s d hd => hstep s d (List.mem_cons_of_mem _ hd)) hfirst
      (fun d hd => first_le hclock d (List.mem_cons_of_mem _ hd)) (hend c List.mem_cons_self) hG.2
    rw [List.append_assoc] at hrest
    exact hrest

/-- The history rule for a run that may start at any time. -/
theorem history_of_init {s : State} (hs : ∀ t, I t [] s) (hG : M.Along G s cs) :
    I t' ((M.answers s cs).map events).flatten (M.after s cs) := by
  cases cs with
  | nil => exact hs t'
  | cons c cs =>
    exact history_inv M events hmono hclock hend hstep (hs c.1) (first_le hclock)
      (hend c List.mem_cons_self) hG

end History

end Machine

/-! ## Labelled systems -/

/-- A labelled transition system. -/
structure System (State Label : Type) where
  init : State → Prop
  step : State → Label → State → Prop

namespace System

variable {State Label : Type} (S : System State Label)

/-- States reached from an initial state. -/
inductive Reachable : State → Prop where
  | init {s : State} : S.init s → Reachable s
  | step {s s' : State} (l : Label) : Reachable s → S.step s l s' → Reachable s'

/-- A finite run between two states, with its labels. -/
inductive Steps : State → List Label → State → Prop where
  | nil (s : State) : Steps s [] s
  | cons {s s' s'' : State} {l : Label} {ls : List Label} :
      S.step s l s' → Steps s' ls s'' → Steps s (l :: ls) s''

/-- The system with only those steps that satisfy a side condition. -/
def restrict (G : State → Label → State → Prop) : System State Label where
  init := S.init
  step := fun s l s' => S.step s l s' ∧ G s l s'

variable {s s₀ : State} {next : State → Label → Option State}

/-- **Invariant rule** for labelled systems. -/
theorem invariant {I : State → Prop} (hinit : ∀ s, S.init s → I s)
    (hstep : ∀ s l s', I s → S.step s l s' → I s') (h : S.Reachable s) : I s := by
  induction h with
  | init hs => exact hinit _ hs
  | step l _ hl ih => exact hstep _ _ _ ih hl

/-- The system with the labels of its run so far kept beside the state. -/
def record : System (State × List Label) Label where
  init := fun r => S.init r.1 ∧ r.2 = []
  step := fun r l r' => S.step r.1 l r'.1 ∧ r'.2 = r.2 ++ [l]

/-- A weaker side condition reaches more. -/
theorem Reachable.restrict_mono {G H : State → Label → State → Prop}
    (h : ∀ s l s', G s l s' → H s l s') (hs : (S.restrict G).Reachable s) :
    (S.restrict H).Reachable s := by
  induction hs with
  | init hinit => exact .init hinit
  | step l _ hl ih => exact .step l ih ⟨hl.1, h _ _ _ hl.2⟩

/-- A side condition reaches nothing new. -/
theorem Reachable.of_restrict {S : System State Label} {G : State → Label → State → Prop}
    (h : (S.restrict G).Reachable s) : S.Reachable s := by
  induction h with
  | init hs => exact .init hs
  | step l _ hl ih => exact .step l ih hl.1

theorem Steps.trans {s' s'' : State} {ls ms : List Label} (h₁ : S.Steps s ls s')
    (h₂ : S.Steps s' ms s'') : S.Steps s (ls ++ ms) s'' := by
  induction h₁ with
  | nil _ => exact h₂
  | cons hl _ ih => exact .cons hl (ih h₂)

theorem Reachable.steps {s' : State} {ls : List Label} (hs : S.Reachable s) (h : S.Steps s ls s') :
    S.Reachable s' := by
  induction h with
  | nil _ => exact hs
  | cons hl _ ih => exact ih (.step _ hs hl)

theorem Reachable.of_record {r : State × List Label} (h : S.record.Reachable r) :
    S.Reachable r.1 := by
  induction h with
  | init hr => exact .init hr.1
  | step l _ hl ih => exact .step l ih hl.1

/-- Every run can be recorded. -/
theorem Reachable.record (h : S.Reachable s) : ∃ ls, S.record.Reachable (s, ls) := by
  induction h with
  | init hs => exact ⟨[], .init ⟨hs, rfl⟩⟩
  | step l _ hl ih =>
    obtain ⟨ls, hls⟩ := ih
    exact ⟨ls ++ [l], .step l hls ⟨hl, rfl⟩⟩

/-- A list of labels that a transition function follows to its end is a recorded run. -/
theorem record_reachable_of_isSome (hnext : ∀ s l s', next s l = some s' → S.step s l s')
    (hinit : S.init s₀) (ls : List Label) (h : (ls.foldlM next s₀).isSome) :
    S.record.Reachable ((ls.foldlM next s₀).getD s₀, ls) := by
  -- the run grows at its end, as recorded runs do
  induction ls using List.reverseRecOn with
  | nil => exact .init ⟨hinit, rfl⟩
  | append_singleton ls l ih =>
    rcases hs : ls.foldlM next s₀ with _ | s
    · simp [List.foldlM_append, hs] at h
    rcases hl : next s l with _ | s'
    · simp [List.foldlM_append, hs, hl] at h
    have hrun : S.record.Reachable (s, ls) := by
      have := ih (by rw [hs]; rfl)
      rwa [hs] at this
    have hlast : ((ls ++ [l]).foldlM next s₀).getD s₀ = s' := by
      simp [List.foldlM_append, hs, hl]
    rw [hlast]
    exact .step l hrun ⟨hnext _ _ _ hl, rfl⟩

theorem reachable_of_isSome (hnext : ∀ s l s', next s l = some s' → S.step s l s')
    (hinit : S.init s₀) (ls : List Label) (h : (ls.foldlM next s₀).isSome) :
    S.Reachable ((ls.foldlM next s₀).getD s₀) :=
  (S.record_reachable_of_isSome hnext hinit ls h).of_record

end System

/-! ## Bounded loops -/

/-- A loop that runs its body until the body says to stop, for at most `fuel` rounds. -/
def iterate {State : Type} (body : State → Option State) : Nat → State → State
  | 0, s => s
  | fuel + 1, s =>
    match body s with
    | none => s
    | some s' => iterate body fuel s'

theorem iterate_inv {State : Type} {body : State → Option State} {I : State → Prop}
    (h : ∀ s s', I s → body s = some s' → I s') (fuel : Nat) (s : State) (hs : I s) :
    I (iterate body fuel s) := by
  induction fuel generalizing s with
  | zero => exact hs
  | succ fuel ih =>
    unfold iterate
    cases hb : body s with
    | none => exact hs
    | some s' => exact ih s' (h s s' hs hb)

/-- A loop whose body stops at once does nothing. -/
theorem iterate_of_none {State : Type} {body : State → Option State} {s : State}
    (h : body s = none) (fuel : Nat) : iterate body fuel s = s := by
  cases fuel with
  | zero => rfl
  | succ fuel =>
    unfold iterate
    rw [h]

/-- A loop whose body decreases a measure, with at least that much fuel, ends
    in a state where the body stops. -/
theorem iterate_stops {State : Type} {body : State → Option State} (size : State → Nat)
    (h : ∀ s s', body s = some s' → size s' < size s) (fuel : Nat) (s : State)
    (hs : size s ≤ fuel) : body (iterate body fuel s) = none := by
  induction fuel generalizing s with
  | zero =>
    unfold iterate
    cases hb : body s with
    | none => rfl
    | some s' => have := h s s' hb; omega
  | succ fuel ih =>
    unfold iterate
    cases hb : body s with
    | none => simpa using hb
    | some s' =>
      have := h s s' hb
      exact ih s' (by omega)

/-! ## Trails

    A call of a component is often a sequence of a few kinds of small moves,
    each of which may emit events.  A `Trail` is such a sequence with the
    events it emitted in order; a property of moves becomes one of calls by
    `Trail.inv`. -/

/-- A finite sequence of moves with the events they emit. -/
inductive Trail {State Event : Type} (move : State → List Event → State → Prop) :
    State → List Event → State → Prop where
  | nil (s : State) : Trail move s [] s
  | cons {s s' s'' : State} {es es' : List Event} :
      move s es s' → Trail move s' es' s'' → Trail move s (es ++ es') s''

namespace Trail

variable {State Event : Type} {move : State → List Event → State → Prop}

variable {es : List Event} {s s' s'' : State}

theorem single (h : move s es s') : Trail move s es s' := by
  have := Trail.cons h (Trail.nil s')
  simpa using this

theorem trans {es' : List Event} (h₁ : Trail move s es s')
    (h₂ : Trail move s' es' s'') : Trail move s (es ++ es') s'' := by
  induction h₁ with
  | nil _ => exact h₂
  | cons hm _ ih =>
    rw [List.append_assoc]
    exact .cons hm (ih h₂)

/-- A silent trail before another one adds no events. -/
theorem silent_trans (h₁ : Trail move s [] s') (h₂ : Trail move s' es s'') : Trail move s es s'' :=
  h₁.trans h₂

theorem mono {other : State → List Event → State → Prop}
    (h : ∀ s es s', move s es s' → other s es s') (ht : Trail move s es s') :
    Trail other s es s' := by
  induction ht with
  | nil s => exact .nil s
  | cons hm _ ih => exact .cons (h _ _ _ hm) ih

/-- **Invariant rule** for trails: the invariant may speak about the events so far. -/
theorem inv {I : List Event → State → Prop}
    (hmove : ∀ past s es s', I past s → move s es s' → I (past ++ es) s')
    (ht : Trail move s es s') (past : List Event) (hs : I past s) : I (past ++ es) s' := by
  induction ht generalizing past with
  | nil _ => simpa using hs
  | cons hm _ ih =>
    rw [← List.append_assoc]
    exact ih _ (hmove _ _ _ _ hs hm)

/-- The invariant rule for invariants of the state alone. -/
theorem inv_state {I : State → Prop} (hmove : ∀ s es s', I s → move s es s' → I s')
    (ht : Trail move s es s') (hs : I s) : I s' := by
  induction ht with
  | nil _ => exact hs
  | cons hm _ ih => exact ih (hmove _ _ _ hs hm)

/-- A loop whose rounds are silent trails is one. -/
theorem of_iterate {body : State → Option State} (h : ∀ s s', body s = some s' → Trail move s [] s')
    (fuel : Nat) (s : State) : Trail move s [] (iterate body fuel s) := by
  induction fuel generalizing s with
  | zero => exact .nil s
  | succ fuel ih =>
    unfold iterate
    cases hb : body s with
    | none => exact .nil s
    | some s' => exact (h s s' hb).silent_trans (ih s')

/-- A batch whose entries are trails is one; the events are those of the answers. -/
theorem of_machine {Call Answer : Type} (M : Machine State Call Answer)
    (events : Answer → List Event)
    (h : ∀ s c, Trail move s (events (M.step s c).2) (M.step s c).1) (s : State)
    (cs : List Call) : Trail move s ((M.answers s cs).map events).flatten (M.after s cs) := by
  induction cs generalizing s with
  | nil => exact .nil s
  | cons c cs ih =>
    exact (h s c).trans (ih _)

end Trail
