import Mathlib.Logic.Function.Basic
import PriorityGateway.Framework.System

/-! # The Revision Guard

    The guard keeps the highest revision of the configuration that was seen.
    A caller captures it, then reads the revision of the database, and then
    has `VerifyFresh` compare the two: a database behind what was seen before
    it was asked has lost configuration, and the guard is faulted for good.

    A step is one operation on one of the two atomic values, a read of the
    database or a commit.  Commits may also take the revision back. -/

namespace Registry.RevisionGuard

/-! ## Model -/

/-- Where a thread is.  `verifying` says that `ObservePublished` is called by `VerifyFresh`. -/
inductive Phase where
  | idle
  | captured (highest : Int)
  /-- the database was read, and `VerifyFresh` is called -/
  | read (captured fresh : Int)
  | regressed
  | observing (revision : Int) (verifying : Bool)
  | swapping (revision current : Int) (verifying : Bool)
  | returned (verifying : Bool)
  | failed
  deriving DecidableEq

structure State where
  highest : Int := 0
  faulted : Bool := false
  /-- the revisions of the database, the present one first -/
  revisions : List Int
  threads : Nat → Phase := fun _ => .idle

def State.goto (s : State) (i : Nat) (phase : Phase) : State :=
  { s with threads := Function.update s.threads i phase }

inductive Label where
  | commit (revision : Int)
  | highest (i : Nat)
  | observePublished (i : Nat) (revision : Int)
  /-- the next operation of a call -/
  | proceed (i : Nat)

/-- The next operation of a thread in the given phase. -/
def proceed (s : State) (i : Nat) : Phase → Option State
  | .captured highest => s.revisions.head?.map fun fresh => s.goto i (.read highest fresh)
  | .read captured fresh => some <| s.goto i <|
    if s.faulted then .failed
    else if fresh < captured then .regressed
    else .observing fresh true
  | .regressed => some { s.goto i .failed with faulted := true }
  | .observing revision verifying => some <| s.goto i <|
    if revision ≤ s.highest then .returned verifying
    else .swapping revision s.highest verifying
  | .swapping revision current verifying => some <|
    if s.highest = current then { s.goto i (.returned verifying) with highest := revision }
    else s.goto i (.observing revision verifying)
  | .idle | .returned _ | .failed => none

/-- `ObservePublished` is called with revisions that were committed before. -/
def next (s : State) : Label → Option State
  | .commit revision => some { s with revisions := revision :: s.revisions }
  | .highest i => if s.threads i = .idle then some (s.goto i (.captured s.highest)) else none
  | .observePublished i revision =>
    if s.threads i = .idle ∧ revision ∈ s.revisions then some (s.goto i (.observing revision false))
    else none
  | .proceed i => proceed s i (s.threads i)

/-- The guard of a process, which starts on a database with a nonnegative revision. -/
def guard : System State Label where
  init := fun s => ∃ revision, 0 ≤ revision ∧ s = { revisions := [revision] }
  step := fun s l s' => next s l = some s'

/-- The revision of the database does not decrease. -/
def Nondecreasing (s : State) (l : Label) (_ : State) : Prop :=
  ∀ revision, l = .commit revision → ∀ old ∈ s.revisions.head?, old ≤ revision

/-! ## Invariants -/

variable {s s' : State} {l : Label} {i : Nat} {phase : Phase} {now : Int}

theorem forall_goto {P : Nat → Phase → Prop} (h : ∀ j, P j (s.threads j))
    (hi : P i phase) (j : Nat) : P j ((s.goto i phase).threads j) := by
  show P j (Function.update s.threads i phase j)
  rw [Function.update_apply]
  split
  · next hj => exact hj ▸ hi
  · exact h j

/-- While the database says that its revision is `now`, having grown so far: nothing that
    a thread has seen is later, and what it has read of the database is not earlier than
    what it had captured. -/
def Honest (now : Int) : Phase → Prop
  | .captured highest => highest ≤ now
  | .read captured fresh => captured ≤ fresh ∧ fresh ≤ now
  | .observing revision _ | .swapping revision _ _ => revision ≤ now
  | .regressed | .failed => False
  | _ => True

structure Healthy (now : Int) (s : State) : Prop where
  present : s.revisions.head? = some now
  revisions : ∀ revision ∈ s.revisions, revision ≤ now
  highest : s.highest ≤ now
  sound : s.faulted = false
  threads : ∀ i, Honest now (s.threads i)

theorem Healthy.goto (h : Healthy now s) (hphase : Honest now phase) :
    Healthy now (s.goto i phase) :=
  { h with threads := forall_goto h.threads hphase }

theorem Healthy.step (h : Healthy now s) (hnext : next s l = some s')
    (hgrows : Nondecreasing s l s') : ∃ later, Healthy later s' := by
  cases l with
  | commit revision =>
    cases hnext
    have hle : now ≤ revision := hgrows revision rfl now h.present
    refine ⟨revision, rfl, ?_, Int.le_trans h.highest hle, h.sound, ?_⟩
    · exact List.forall_mem_cons.mpr
        ⟨Int.le_refl _, fun r hr => Int.le_trans (h.revisions r hr) hle⟩
    · intro i
      have hi := h.threads i
      cases hphase : s.threads i <;> rw [hphase] at hi <;> simp only [Honest] at * <;> omega
  | highest i =>
    obtain ⟨-, hs⟩ := Option.ite_none_right_eq_some.mp hnext
    exact ⟨now, Option.some.inj hs ▸ h.goto h.highest⟩
  | observePublished i revision =>
    obtain ⟨⟨-, hmem⟩, hs⟩ := Option.ite_none_right_eq_some.mp hnext
    exact ⟨now, Option.some.inj hs ▸ h.goto (h.revisions revision hmem)⟩
  | proceed i =>
    have hi := h.threads i
    refine ⟨now, ?_⟩
    simp only [next] at hnext
    cases hphase : s.threads i <;> rw [hphase] at hi hnext
    case captured highest =>
      simp only [proceed, h.present, Option.map_some] at hnext
      cases hnext
      exact h.goto ⟨hi, Int.le_refl now⟩
    case read captured fresh =>
      simp only [proceed, h.sound, Int.not_lt.mpr hi.1, if_false] at hnext
      cases hnext
      exact h.goto hi.2
    case observing revision verifying =>
      cases hnext
      refine h.goto ?_
      split
      · trivial
      · exact hi
    case swapping revision current verifying =>
      cases hnext
      split
      · exact { h with highest := hi, threads := forall_goto h.threads trivial }
      · exact h.goto hi
    all_goals cases hnext
    exact hi.elim

theorem healthy_of_reachable (h : (guard.restrict Nondecreasing).Reachable s) :
    ∃ now, Healthy now s := by
  refine (guard.restrict Nondecreasing).invariant (I := fun s => ∃ now, Healthy now s) ?_ ?_ h
  · rintro s ⟨revision, hpos, rfl⟩
    exact ⟨revision, rfl, fun r hr => Int.le_of_eq (List.mem_singleton.mp hr), hpos, rfl,
      fun _ => trivial⟩
  · rintro s l s' ⟨now, hs⟩ ⟨hnext, hgrows⟩
    exact hs.step hnext hgrows

/-- A swap goes up, and a thread that has failed has left the guard faulted. -/
def Regular (faulted : Bool) : Phase → Prop
  | .swapping revision current _ => current < revision
  | .failed => faulted = true
  | _ => True

/-- The thread cannot pass `VerifyFresh` any more. -/
def Doomed (faulted : Bool) : Phase → Prop
  | .read captured fresh => faulted = true ∨ fresh < captured
  | .regressed | .failed => True
  | _ => False

/-- What holds from one state of a run to a later one. -/
structure Later (s s' : State) : Prop where
  highest : s.highest ≤ s'.highest
  faulted : s.faulted = true → s'.faulted = true
  regular : ∀ i, Regular s'.faulted (s'.threads i)
  doomed : ∀ i, Doomed s.faulted (s.threads i) → Doomed s'.faulted (s'.threads i)

theorem Later.goto (h : ∀ i, Regular s.faulted (s.threads i)) (hphase : Regular s.faulted phase)
    (hdoomed : Doomed s.faulted (s.threads i) → Doomed s.faulted phase) :
    Later s (s.goto i phase) where
  highest := Int.le_refl _
  faulted := id
  regular := forall_goto h hphase
  doomed := forall_goto (P := fun j p => Doomed s.faulted (s.threads j) → Doomed s.faulted p)
    (fun _ hj => hj) hdoomed

theorem later_of_next (h : ∀ i, Regular s.faulted (s.threads i)) (hnext : next s l = some s') :
    Later s s' := by
  cases l with
  | commit revision =>
    cases hnext
    exact ⟨Int.le_refl _, id, h, fun _ hi => hi⟩
  | highest i =>
    obtain ⟨hidle, hs⟩ := Option.ite_none_right_eq_some.mp hnext
    exact Option.some.inj hs ▸ .goto h trivial (hidle ▸ False.elim)
  | observePublished i revision =>
    obtain ⟨⟨hidle, -⟩, hs⟩ := Option.ite_none_right_eq_some.mp hnext
    exact Option.some.inj hs ▸ .goto h trivial (hidle ▸ False.elim)
  | proceed i =>
    have hi := h i
    simp only [next] at hnext
    cases hphase : s.threads i <;> rw [hphase] at hi hnext
    case captured highest =>
      obtain ⟨fresh, -, rfl⟩ := Option.map_eq_some_iff.mp hnext
      exact .goto h trivial (hphase ▸ False.elim)
    case read captured fresh =>
      cases hnext
      by_cases hfaulted : s.faulted = true
      · rw [if_pos hfaulted]
        exact .goto h hfaulted fun _ => trivial
      · rw [if_neg hfaulted]
        split
        · exact .goto h trivial fun _ => trivial
        · next hle => exact .goto h trivial (hphase ▸ fun hd => hd.elim hfaulted hle)
    case regressed =>
      cases hnext
      refine ⟨Int.le_refl _, fun _ => rfl, forall_goto (fun j => ?_) rfl,
        forall_goto (P := fun j p => Doomed s.faulted (s.threads j) → Doomed true p) (fun j => ?_)
          fun _ => trivial⟩
      · have hj := h j
        cases hthread : s.threads j <;> rw [hthread] at hj <;> trivial
      · cases s.threads j <;> simp [Doomed]
    case observing revision verifying =>
      cases hnext
      refine .goto h ?_ (hphase ▸ False.elim)
      split
      · trivial
      · next hlt => exact Int.not_le.mp hlt
    case swapping revision current verifying =>
      cases hnext
      split
      · next heq =>
        have hreturned : Later s (s.goto i (.returned verifying)) :=
          .goto h trivial (hphase ▸ False.elim)
        exact { hreturned with highest := heq ▸ Int.le_of_lt hi }
      · exact .goto h trivial (hphase ▸ False.elim)
    all_goals cases hnext

theorem later_of_steps {ls : List Label} (hs : ∀ i, Regular s.faulted (s.threads i))
    (h : guard.Steps s ls s') : Later s s' := by
  induction h with
  | nil s => exact ⟨Int.le_refl _, id, hs, fun _ hi => hi⟩
  | cons hnext _ ih =>
    have hfirst := later_of_next hs hnext
    have hrest := ih hfirst.regular
    exact ⟨Int.le_trans hfirst.highest hrest.highest, fun h => hrest.faulted (hfirst.faulted h),
      hrest.regular, fun i hi => hrest.doomed i (hfirst.doomed i hi)⟩

/-- A call that cannot pass any more has at most two operations left. -/
theorem Doomed.proceeds (h : Doomed s.faulted (s.threads i)) :
    s.threads i = .failed ∨ ∃ s', next s (.proceed i) = some s' ∧
      (s'.threads i = .failed ∨ s.threads i ≠ .regressed ∧ s'.threads i = .regressed) := by
  simp only [next]
  cases hphase : s.threads i <;> rw [hphase] at h
  case read captured fresh =>
    refine .inr ⟨_, rfl, ?_⟩
    by_cases hfaulted : s.faulted = true
    · simp [hfaulted, State.goto]
    · simp [hfaulted, h.resolve_left hfaulted, State.goto]
  case regressed => exact .inr ⟨_, rfl, .inl (Function.update_self ..)⟩
  case failed => exact .inl rfl
  all_goals exact h.elim

/-- **No false alarm and no missed regression.**  While the revision of the database does not
    decrease, nothing fails.  In every run the highest revision does not decrease and a fault
    is not taken back; a call of `VerifyFresh` that finds the guard faulted, or a revision
    below the captured one, can only fail, does so within two operations of its own, and has
    left the guard faulted when it has. -/
theorem revision_guard_sound (s : State) (hs : guard.Reachable s) :
    ((guard.restrict Nondecreasing).Reachable s →
      s.faulted = false ∧ ∀ i, s.threads i ≠ .failed ∧ s.threads i ≠ .regressed) ∧
    ∀ ls s', guard.Steps s ls s' →
      s.highest ≤ s'.highest ∧ (s.faulted = true → s'.faulted = true) ∧
      ∀ i, (s'.threads i = .failed → s'.faulted = true) ∧
        (Doomed s.faulted (s.threads i) → Doomed s'.faulted (s'.threads i) ∧
          (s'.threads i = .failed ∨ ∃ s₂, next s' (.proceed i) = some s₂ ∧
            (s₂.threads i = .failed ∨ s'.threads i ≠ .regressed ∧ s₂.threads i = .regressed))) := by
  constructor
  · intro hgrows
    obtain ⟨now, hnow⟩ := healthy_of_reachable hgrows
    refine ⟨hnow.sound, fun i => ?_⟩
    have hi := hnow.threads i
    constructor <;> intro hphase <;> rw [hphase] at hi <;> exact hi
  · intro ls s' hsteps
    have hregular := guard.invariant (I := fun s => ∀ i, Regular s.faulted (s.threads i))
      (by rintro s ⟨_, -, rfl⟩ _; trivial) (fun _ _ _ h hnext => (later_of_next h hnext).regular) hs
    have hlater := later_of_steps hregular hsteps
    refine ⟨hlater.highest, hlater.faulted, fun i => ⟨fun hi => ?_, fun hi => ?_⟩⟩
    · have hfailed := hlater.regular i
      rwa [hi] at hfailed
    · exact ⟨hlater.doomed i hi, (hlater.doomed i hi).proceeds⟩

/-- The revision 3 is published and captured, the database falls back to 1, and that is read. -/
def fallBack : List Label :=
  [.observePublished 0 3, .proceed 0, .proceed 0, .highest 1, .commit 1, .proceed 1]

def fallenBack : State :=
  (fallBack.foldlM next { revisions := [3] }).getD { revisions := [3] }

theorem revision_guard_sound_fallenBack :
    fallenBack.threads 1 = .read 3 1 ∧ ∀ ls s', guard.Steps fallenBack ls s' →
      Doomed s'.faulted (s'.threads 1) ∧ (s'.threads 1 = .failed → s'.faulted = true) := by
  refine ⟨by decide, fun ls s' hsteps => ?_⟩
  have hreachable : guard.Reachable fallenBack :=
    guard.reachable_of_isSome (fun _ _ _ h => h) ⟨3, by decide, rfl⟩ fallBack (by decide)
  obtain ⟨-, -, hthreads⟩ := (revision_guard_sound fallenBack hreachable).2 ls s' hsteps
  exact ⟨((hthreads 1).2 (.inr (by decide))).1, (hthreads 1).1⟩

end Registry.RevisionGuard
