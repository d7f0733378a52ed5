import PriorityGateway.Monitor.Attempts

/-! # Requests in Flight

    `AcquireBackend` grants a request in three ways: with the coordinator's
    admission, as an emergency while the coordinator fails, and, without a
    coordinator, with the worker's breaker alone.  The first two let go of the
    monitor's lock and look the worker up again before they grant, so an
    admission may be dropped.  Every grant is counted in `backendInflight`
    until its completion has run, and a probe permit is kept in `probes` until
    then.

    Each critical section that writes is one transition.  What a call has done
    before the section that grants only reads the monitor, so the backend it
    expects and the answers it has got are part of the label: a call may come
    there with any of them, and the workers may have changed.  A completion
    does its work once however often it is called (`sync.Once`). -/

namespace Monitor.Inflight

open Coordination (UUID ProbeIdentity)
open Attempts (Backend)

/-! ## The system -/

/-- How far the completion of a grant is. -/
inductive Completion where
  | returned
  /-- it runs, and its permit may still be in `probes` -/
  | entered
  | releasing
  deriving DecidableEq, Repr

structure Grant where
  expected : Backend
  /-- admitted by the coordinator -/
  coordinated : Bool
  completion : Completion := .returned
  deriving DecidableEq, Repr

structure State where
  workers : Int → Option Backend
  backendInflight : Int → Option Int := fun _ => none
  probes : UUID → Option ProbeIdentity := fun _ => none
  /-- the grants whose completion has not released its slot, by their attempts -/
  grants : Table UUID Grant := ∅

inductive Label where
  /-- without a coordinator: what the breaker says -/
  | acquire (id : UUID) (expected : Backend) (allowed : Bool)
  /-- the end of `acquireEmergencyBackend`: what the breaker says -/
  | emergency (id : UUID) (expected : Backend) (allowed : Bool)
  /-- the coordinator has admitted the request -/
  | publish (id : UUID) (expected : Backend) (permit : Option ProbeIdentity)
  | invoke (id : UUID)
  | forget (id : UUID)
  | release (id : UUID)
  /-- `Reconcile` and `Shutdown` -/
  | reconcile (workers : Int → Option Backend)
  /-- the end of `renewProbes` -/
  | lost (ids : List UUID)

/-- The end of `AcquireBackend`: nothing is granted unless the worker is still the expected one.
    The id of the attempt is a new one. -/
def State.grant (s : State) (id : UUID) (expected : Backend) (coordinated allowed : Bool)
    (permit : Option ProbeIdentity) : Option State :=
  let backendID := expected.identity.id
  if s.grants.lookup id ≠ none then none
  else if s.workers backendID = some expected ∧ allowed = true then
    some { s with
      backendInflight := Function.update s.backendInflight backendID
        (some ((s.backendInflight backendID).getD 0 + 1))
      probes := match permit with
        | some permit => Function.update s.probes permit.permitID (some permit)
        | none => s.probes
      grants := s.grants.insert id ⟨expected, coordinated, .returned⟩ }
  else some s

def releaseBackendInflight (inflight : Int → Option Int) (id : Int) : Int → Option Int :=
  let current := (inflight id).getD 0
  Function.update inflight id (if 1 < current then some (current - 1) else none)

def next (s : State) : Label → Option State
  | .acquire id expected allowed | .emergency id expected allowed =>
    s.grant id expected false allowed none
  | .publish id expected permit => s.grant id expected true true permit
  | .invoke id => do
    let g ← s.grants.lookup id
    if g.completion = .returned then
      let completion := if g.coordinated then Completion.entered else .releasing
      some { s with grants := s.grants.insert id { g with completion := completion } }
    else none
  | .forget id => do
    let g ← s.grants.lookup id
    if g.completion = .entered then
      some { s with
        probes := Function.update s.probes id none
        grants := s.grants.insert id { g with completion := .releasing } }
    else none
  | .release id => do
    let g ← s.grants.lookup id
    if g.completion = .releasing then
      some { s with
        backendInflight := releaseBackendInflight s.backendInflight g.expected.identity.id
        grants := s.grants.erase id }
    else none
  | .reconcile workers => some { s with workers := workers }
  | .lost ids => some { s with probes := fun id => if id ∈ ids then none else s.probes id }

def manager : System State Label where
  init := fun s => ∃ workers, s = { workers := workers }
  step := fun s l s' => next s l = some s'

/-- The coordinator issues its permits under the ids of the attempts, as both coordinators do. -/
def NamesPermits (_ : State) (l : Label) (_ : State) : Prop :=
  ∀ id expected permit, l = .publish id expected (some permit) → permit.permitID = id

/-! ## What every step keeps -/

/-- The number of grants of the backend whose completion has not released its slot. -/
def unreleased (s : State) (id : Int) : Nat :=
  Table.count (fun _ g => decide (g.expected.identity.id = id)) s.grants

/-- How a number of slots stands in `backendInflight`. -/
def slots (n : Nat) : Option Int := if n = 0 then none else some n

theorem slots_getD (n : Nat) : (slots n).getD 0 = n := by
  cases n with
  | zero => rfl
  | succ n => rfl

theorem slots_release (n : Nat) :
    (if 1 < ((n + 1 : Nat) : Int) then some (((n + 1 : Nat) : Int) - 1) else none) = slots n := by
  cases n with
  | zero => rfl
  | succ n =>
    rw [if_pos (by omega)]
    simp [slots]

/-- A grant whose permit may be in `probes`. -/
def Grant.MayProbe (g : Grant) : Prop := g.coordinated = true ∧ g.completion ≠ .releasing

/-- The slots are counted; the probes are tracked if `P` holds of the coordinator. -/
structure Kept (P : Prop) (s : State) : Prop where
  inflight : ∀ id, s.backendInflight id = slots (unreleased s id)
  tracked : P → ∀ id, s.probes id ≠ none → ∃ g, s.grants.lookup id = some g ∧ g.MayProbe

section Steps

variable {P : Prop} {s s' : State} {id : UUID} {g : Grant}
  (h : Kept P s)

include h

/-- Probes may go at any time. -/
theorem Kept.fewer {probes : UUID → Option ProbeIdentity}
    (hprobes : ∀ id, probes id ≠ none → s.probes id ≠ none) : Kept P { s with probes := probes } :=
  ⟨h.inflight, fun hp id hprobe => h.tracked hp id (hprobes id hprobe)⟩

theorem Kept.grant {expected : Backend} {coordinated allowed : Bool} {permit : Option ProbeIdentity}
    (hstep : s.grant id expected coordinated allowed permit = some s')
    (hnamed : P → ∀ p, permit = some p → p.permitID = id ∧ coordinated = true) : Kept P s' := by
  unfold State.grant at hstep
  dsimp only at hstep
  obtain ⟨hused, hstep⟩ := Option.ite_none_left_eq_some.mp hstep
  have hfree := not_not.mp hused
  split at hstep
  swap
  · cases hstep
    exact h
  cases hstep
  constructor
  · intro c
    simp only [unreleased, Table.count_insert_of_none hfree, Function.update_apply]
    split
    · next hc =>
      subst hc
      rw [h.inflight, slots_getD, decide_eq_true rfl]
      rfl
    · next hc =>
      rw [h.inflight, decide_eq_false (Ne.symm hc)]
      rfl
  · intro hp id' hprobe
    rw [Table.lookup_insert_eq]
    -- a permit goes under the id of its attempt, which had none
    split
    · next heq =>
      subst heq
      rcases permit with _ | p
      · obtain ⟨g, hg, -⟩ := h.tracked hp _ hprobe
        rw [hfree] at hg
        cases hg
      · exact ⟨_, rfl, (hnamed hp p rfl).2, nofun⟩
    · next hne =>
      apply h.tracked hp id'
      rcases permit with _ | p
      · exact hprobe
      · rw [← (hnamed hp p rfl).1] at hne
        exact fun hnone => hprobe ((Function.update_of_ne hne _ _).trans hnone)

theorem Kept.advance (hg : s.grants.lookup id = some g) {completion : Completion}
    (hkept : s.probes id = none ∨ g.coordinated = false ∨ completion ≠ .releasing) :
    Kept P { s with grants := s.grants.insert id { g with completion := completion } } where
  inflight := fun c =>
    (h.inflight c).trans (congrArg slots (Table.count_insert_of_some hg rfl).symm)
  tracked := fun hp id' hprobe => by
    obtain ⟨g', hg', hprobes⟩ := h.tracked hp id' hprobe
    rw [Table.lookup_insert_eq]
    split
    · next heq =>
      subst heq
      rw [hg] at hg'
      cases hg'
      rcases hkept with hnone | hlocal | hmore
      · exact absurd hnone hprobe
      · rw [hprobes.1] at hlocal
        cases hlocal
      · exact ⟨_, rfl, hprobes.1, hmore⟩
    · exact ⟨g', hg', hprobes⟩

theorem Kept.release (hg : s.grants.lookup id = some g) (hdone : g.completion = .releasing) :
    Kept P { s with
      backendInflight := releaseBackendInflight s.backendInflight g.expected.identity.id
      grants := s.grants.erase id } where
  inflight := fun c => by
    have hcount : unreleased s c = _ := Table.count_erase_of_some hg
    simp only [releaseBackendInflight, Function.update_apply, h.inflight, slots_getD]
    split
    · next hc =>
      subst hc
      rw [hcount, decide_eq_true rfl, if_pos rfl]
      exact slots_release _
    · next hc =>
      rw [hcount, decide_eq_false (Ne.symm hc)]
      rfl
  tracked := fun hp id' hprobe => by
    obtain ⟨g', hg', hprobes⟩ := h.tracked hp id' hprobe
    refine ⟨g', ?_, hprobes⟩
    rw [Table.lookup_erase_eq, if_neg, hg']
    rintro rfl
    rw [hg] at hg'
    cases hg'
    exact hprobes.2 hdone

theorem Kept.step {l : Label} (hnamed : P → NamesPermits s l s') (hstep : next s l = some s') :
    Kept P s' := by
  cases l with
  | acquire id expected allowed | emergency id expected allowed =>
    have hgrant : s.grant id expected false allowed none = some s' := hstep
    exact h.grant hgrant fun _ _ => nofun
  | publish id expected permit =>
    refine h.grant hstep fun hp p hpermit => ⟨?_, rfl⟩
    exact hnamed hp id expected p (by rw [hpermit])
  | invoke id =>
    obtain ⟨g, hg, hstep⟩ := Option.bind_eq_some_iff.mp hstep
    obtain ⟨-, ⟨⟩⟩ := Option.ite_none_right_eq_some.mp hstep
    apply h.advance hg
    cases g.coordinated with
    | true => exact .inr (.inr nofun)
    | false => exact .inr (.inl rfl)
  | forget id =>
    obtain ⟨g, hg, hstep⟩ := Option.bind_eq_some_iff.mp hstep
    obtain ⟨-, ⟨⟩⟩ := Option.ite_none_right_eq_some.mp hstep
    have hfewer : Kept P { s with probes := Function.update s.probes id none } := by
      refine h.fewer fun id' hprobe hnone => hprobe ?_
      rw [Function.update_apply, hnone, ite_self]
    exact hfewer.advance hg (.inl (Function.update_self ..))
  | release id =>
    obtain ⟨g, hg, hstep⟩ := Option.bind_eq_some_iff.mp hstep
    obtain ⟨hdone, ⟨⟩⟩ := Option.ite_none_right_eq_some.mp hstep
    exact h.release hg hdone
  | reconcile workers =>
    cases hstep
    exact ⟨h.inflight, h.tracked⟩
  | lost ids =>
    cases hstep
    refine h.fewer fun id hprobe hnone => hprobe ?_
    rw [hnone, ite_self]

end Steps

theorem kept_init (P : Prop) {s : State} (h : manager.init s) : Kept P s := by
  obtain ⟨workers, rfl⟩ := h
  exact ⟨fun _ => rfl, fun _ _ h => absurd rfl h⟩

/-- **Requests in flight**: `backendInflight` is exact whatever the coordinator answers, and
    `probes` holds permits of unfinished completions only, if the coordinator names them by
    their attempts. -/
theorem backend_inflight_exact :
    (∀ s, manager.Reachable s → ∀ id, s.backendInflight id
      = if unreleased s id = 0 then none else some (unreleased s id : Int)) ∧
    ∀ s, (manager.restrict NamesPermits).Reachable s → ∀ id, s.probes id ≠ none →
      ∃ g, s.grants.lookup id = some g ∧ g.completion ≠ .releasing := by
  constructor
  · intro s hs
    have hkept : Kept False s :=
      manager.invariant (fun _ => kept_init _) (fun _ _ _ h hstep => h.step nofun hstep) hs
    exact hkept.inflight
  · intro s hs id hprobe
    have hkept : Kept True s := (manager.restrict NamesPermits).invariant (fun _ => kept_init _)
      (fun _ _ _ h hstep => h.step (fun _ => hstep.2) hstep.1) hs
    obtain ⟨g, hg, -, hopen⟩ := hkept.tracked trivial id hprobe
    exact ⟨g, hg, hopen⟩

/-- A permit under an id of its own. -/
def strayPermit : ProbeIdentity := ⟨9, {}, 0, 0, 0, 0⟩

def namedPermit : ProbeIdentity := { strayPermit with permitID := 0 }

def oneWorker : State := { workers := fun _ => some ⟨{}, ""⟩ }

/-- The state after a probe is granted. -/
def probing : State := (next oneWorker (.publish 0 ⟨{}, ""⟩ (some namedPermit))).getD oneWorker

/-- The probe is tracked, and its slot is counted. -/
theorem backend_inflight_exact_probing : (manager.restrict NamesPermits).Reachable probing ∧
    probing.probes 0 = some namedPermit ∧ probing.backendInflight 0 = some 1 ∧
    ∃ g, probing.grants.lookup 0 = some g ∧ g.completion ≠ .releasing := by
  have hs : (manager.restrict NamesPermits).Reachable probing := by
    refine .step (s := oneWorker) (.publish 0 ⟨{}, ""⟩ (some namedPermit)) (.init ⟨_, rfl⟩)
      ⟨rfl, ?_⟩
    intro id expected permit h
    cases h
    rfl
  refine ⟨hs, by decide, ?_, backend_inflight_exact.2 _ hs 0 (by decide)⟩
  rw [backend_inflight_exact.1 _ hs.of_restrict]
  decide

/-- It stays when the completion has finished. -/
theorem stray_permit_stays : ∃ s, manager.Reachable s ∧ Table.size s.grants = 0 ∧
    s.probes 9 = some strayPermit := by
  refine ⟨_, manager.reachable_of_isSome (fun _ _ _ h => h)
    (⟨_, rfl⟩ : manager.init oneWorker)
    [.publish 0 ⟨{}, ""⟩ (some strayPermit), .invoke 0, .forget 0, .release 0] ?_, ?_, ?_⟩
  all_goals decide

end Monitor.Inflight
