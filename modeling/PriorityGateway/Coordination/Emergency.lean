import Mathlib.Algebra.Order.Ring.Int
import PriorityGateway.Framework.System
import PriorityGateway.Framework.Table
import PriorityGateway.Coordination.Types

/-! # Emergency Admission

    While the durable coordinator is unavailable each replica admits a few
    high and critical requests on its own.  A grant comes with a function that
    gives it back, once, however often and from however many threads it is
    called.

    `Acquire` changes the maps in one critical section.  A call of the release
    function enters its `sync.Once` first and changes the maps in a critical
    section after that; other calls wait or return and change nothing. -/

namespace Coordination.Emergency

/-! ## The admission -/

structure EmergencyAdmission where
  critical : Int
  high : Int
  byClass : PriorityClass → Int := fun _ => 0
  byClient : Int → Int := fun _ => 0

/-- The cap of a class; a class without one is never granted. -/
def EmergencyAdmission.cap (e : EmergencyAdmission) : PriorityClass → Option Int
  | .critical => some e.critical
  | .high => some e.high
  | _ => none

/-- `Acquire`: the admission with the grant, if there is one. -/
def acquire (e : Option EmergencyAdmission) (priorityClass : PriorityClass)
    (clientID clientLimit : Int) : Option EmergencyAdmission :=
  match e with
  | none => none
  | some e =>
    if clientLimit ≤ 0 then none
    else
      match e.cap priorityClass with
      | none => none
      | some cap =>
        if cap ≤ 0 then none
        else if cap ≤ e.byClass priorityClass ∨ clientLimit ≤ e.byClient clientID then none
        else some { e with
          byClass := Function.update e.byClass priorityClass (e.byClass priorityClass + 1)
          byClient := Function.update e.byClient clientID (e.byClient clientID + 1) }

def canServe (e : Option EmergencyAdmission) (priorityClass : PriorityClass)
    (clientID clientLimit : Int) : Bool :=
  match e with
  | none => false
  | some e =>
    if clientLimit ≤ 0 then false
    else
      match e.cap priorityClass with
      | none => false
      | some cap => decide (0 < cap) && decide (e.byClass priorityClass < cap) &&
          decide (e.byClient clientID < clientLimit)

structure Grant where
  priorityClass : PriorityClass
  clientID : Int
  clientLimit : Int
  /-- a call of the release function is in the `once` -/
  entered : Bool := false
  deriving DecidableEq, Repr

/-- The critical section of a release function. -/
def release (e : EmergencyAdmission) (g : Grant) : EmergencyAdmission :=
  { e with
    byClass := Function.update e.byClass g.priorityClass (e.byClass g.priorityClass - 1)
    byClient := Function.update e.byClient g.clientID (e.byClient g.clientID - 1) }

structure State where
  admission : EmergencyAdmission
  /-- every grant, in order -/
  granted : List Grant := []
  /-- the grants that were not given back, by their number -/
  unreleased : Table Nat Grant := ∅

inductive Label where
  | acquire (priorityClass : PriorityClass) (clientID clientLimit : Int)
  | enter (grant : Nat)
  | release (grant : Nat)
  deriving DecidableEq, Repr

def next (s : State) : Label → Option State
  | .acquire priorityClass clientID clientLimit =>
    (acquire s.admission priorityClass clientID clientLimit).map fun e =>
      let g : Grant := ⟨priorityClass, clientID, clientLimit, false⟩
      { admission := e
        granted := s.granted ++ [g]
        unreleased := s.unreleased.insert s.granted.length g }
  | .enter k =>
    match s.unreleased.lookup k with
    | some g => if g.entered then none
      else some { s with unreleased := s.unreleased.insert k { g with entered := true } }
    | none => none
  | .release k =>
    match s.unreleased.lookup k with
    | some g =>
      if g.entered then
        some { s with admission := release s.admission g, unreleased := s.unreleased.erase k }
      else none
    | none => none

/-- Any number of threads around one admission. -/
def admission (critical high : Int) : System State Label where
  init := fun s => s = ⟨{ critical := critical, high := high }, [], ∅⟩
  step := fun s l s' => next s l = some s'

/-! ## What holds in every state -/

structure Sound (critical high : Int) (s : State) : Prop where
  configured : s.admission.critical = critical ∧ s.admission.high = high
  /-- the maps count the grants that were not given back -/
  byClass : Table.Tally s.admission.byClass (some ·.priorityClass) s.unreleased
  byClient : Table.Tally s.admission.byClient (some ·.clientID) s.unreleased
  capped : ∀ c, s.admission.byClass c ≤ max 0 ((s.admission.cap c).getD 0)
  /-- a client has no more than a limit that it was granted under -/
  limited : ∀ c, s.admission.byClient c = 0 ∨
    ∃ g ∈ s.granted, g.clientID = c ∧ s.admission.byClient c ≤ g.clientLimit
  classes : ∀ g ∈ s.granted, g.priorityClass = .critical ∨ g.priorityClass = .high
  fresh : ∀ k, s.granted.length ≤ k → s.unreleased.lookup k = none

variable {e e' : EmergencyAdmission} {c : PriorityClass} {client limit critical high : Int}
  {s s' : State}

theorem acquire_eq_some (h : acquire e c client limit = some e') :
    ∃ cap, e.cap c = some cap ∧ e.byClass c < cap ∧ e.byClient client < limit ∧
      e' = { e with
        byClass := Function.update e.byClass c (e.byClass c + 1)
        byClient := Function.update e.byClient client (e.byClient client + 1) } := by
  simp only [acquire, Option.ite_none_left_eq_some] at h
  obtain ⟨-, h⟩ := h
  cases hcap : e.cap c with
  | none => simp [hcap] at h
  | some cap =>
    simp only [hcap, Option.ite_none_left_eq_some, Option.some.injEq] at h
    obtain ⟨-, hfull, rfl⟩ := h
    push Not at hfull
    exact ⟨cap, rfl, hfull.1, hfull.2, rfl⟩

/-- The two guards agree. -/
theorem canServe_eq (e : Option EmergencyAdmission) (c : PriorityClass) (client limit : Int) :
    canServe e c client limit = (acquire e c client limit).isSome := by
  cases e with
  | none => rfl
  | some e =>
    simp only [canServe, acquire]
    split
    · rfl
    cases e.cap c with
    | none => rfl
    | some cap =>
      simp only
      split
      · next hcap => simp [Int.not_lt.mpr hcap]
      next hcap =>
      split
      · next hfull =>
        rcases hfull with hfull | hfull
        all_goals simp [Int.not_lt.mpr hfull]
      · next hfree =>
        push Not at hcap hfree
        simp [hcap, hfree]

theorem Sound.acquire (h : Sound critical high s)
    (hacquire : acquire s.admission c client limit = some e') :
    Sound critical high { admission := e'
                          granted := s.granted ++ [⟨c, client, limit, false⟩]
                          unreleased := s.unreleased.insert s.granted.length
                            ⟨c, client, limit, false⟩ } := by
  obtain ⟨cap, hcap, hclass, hclient, rfl⟩ := acquire_eq_some hacquire
  have hfree := h.fresh _ (Nat.le_refl _)
  refine ⟨h.configured, h.byClass.insert hfree rfl, h.byClient.insert hfree rfl, ?_, ?_, ?_, ?_⟩
  · intro c'
    simp only [Function.update_apply]
    split
    · next hc =>
      subst hc
      show _ ≤ max 0 ((s.admission.cap c').getD 0)
      rw [hcap, Option.getD_some]
      omega
    · exact h.capped c'
  · intro c'
    simp only [Function.update_apply]
    split
    · next hc => exact .inr ⟨_, List.mem_append_right _ (List.mem_singleton.mpr rfl), hc.symm, by
        simp only; omega⟩
    · refine (h.limited c').imp_right ?_
      rintro ⟨g, hg, hlimit⟩
      exact ⟨g, List.mem_append_left _ hg, hlimit⟩
  · intro g hg
    rcases List.mem_append.mp hg with hg | hg
    · exact h.classes g hg
    · obtain rfl := List.mem_singleton.mp hg
      cases c with
      | critical => exact .inl rfl
      | high => exact .inr rfl
      | _ => cases hcap
  · intro k hk
    rw [List.length_append, List.length_singleton] at hk
    rw [Table.lookup_insert_eq, if_neg (by omega)]
    exact h.fresh k (by omega)

theorem Sound.release (h : Sound critical high s) {k : Nat} {g : Grant}
    (hg : s.unreleased.lookup k = some g) : Sound critical high
      { s with admission := release s.admission g, unreleased := s.unreleased.erase k } := by
  have hclient := (h.byClient.erase hg rfl).nonneg g.clientID
  refine ⟨h.configured, h.byClass.erase hg rfl, h.byClient.erase hg rfl, ?_, ?_, h.classes, ?_⟩
  · intro c
    have hcap := h.capped c
    simp only [Emergency.release, Function.update_apply]
    split
    · next hc =>
      subst hc
      exact le_trans (by omega) hcap
    · exact hcap
  · intro c
    simp only [Emergency.release, Function.update_apply] at hclient ⊢
    split
    · next hc =>
      subst hc
      rcases h.limited g.clientID with hzero | ⟨g', hg', hid, hlimit⟩
      · simp [hzero] at hclient
      · exact .inr ⟨g', hg', hid, by omega⟩
    · exact h.limited c
  · intro k' hk'
    rw [Table.lookup_erase_eq, h.fresh k' hk']
    split <;> rfl

theorem Sound.step (h : Sound critical high s) {l : Label} (hstep : next s l = some s') :
    Sound critical high s' := by
  cases l with
  | acquire c client limit =>
    obtain ⟨e, hacquire, rfl⟩ := Option.map_eq_some_iff.mp hstep
    exact h.acquire hacquire
  | enter k =>
    simp only [next] at hstep
    split at hstep
    · next g hg =>
      obtain ⟨-, ⟨⟩⟩ := Option.ite_none_left_eq_some.mp hstep
      refine ⟨h.configured, h.byClass.replace hg rfl, h.byClient.replace hg rfl, h.capped,
        h.limited, h.classes, ?_⟩
      intro k' hk'
      have hne : k' ≠ k := by
        rintro rfl
        rw [h.fresh k' hk'] at hg
        cases hg
      rw [Table.lookup_insert_eq, if_neg hne]
      exact h.fresh k' hk'
    · cases hstep
  | release k =>
    simp only [next] at hstep
    split at hstep
    · next g hg =>
      obtain ⟨-, ⟨⟩⟩ := Option.ite_none_right_eq_some.mp hstep
      exact h.release hg
    · cases hstep

/-- **Emergency admission**: the maps are exact and never negative, the caps and limits hold,
    and `CanServe` says what `Acquire` would do. -/
theorem emergency_admission_sound (critical high : Int) {s : State}
    (hs : (admission critical high).Reachable s) :
    Sound critical high s ∧ (∀ c, 0 ≤ s.admission.byClass c) ∧
      (∀ client, 0 ≤ s.admission.byClient client) ∧ ∀ c client limit,
        canServe s.admission c client limit = (acquire s.admission c client limit).isSome := by
  have hsound : Sound critical high s := by
    refine (admission critical high).invariant ?_ (fun _ _ _ h hstep => h.step hstep) hs
    rintro s rfl
    refine ⟨⟨rfl, rfl⟩, fun _ => rfl, fun _ => rfl, fun _ => le_max_left _ _, fun _ => .inl rfl, ?_,
      fun _ _ => rfl⟩
    nofun
  exact ⟨hsound, hsound.byClass.nonneg, hsound.byClient.nonneg, canServe_eq _⟩

/-- Two grants of one client, under limits that differ; the second one is given back. -/
def twoGrants : List Label :=
  [.acquire .critical 7 1, .acquire .high 7 2, .enter 1, .release 1]

theorem emergency_admission_sound_twoGrants : ∃ s, (admission 1 1).Reachable s ∧
    s.granted.length = 2 ∧ s.admission.byClient 7 = 1 ∧ Sound 1 1 s := by
  have hrun := (admission 1 1).reachable_of_isSome (fun _ _ _ h => h) rfl twoGrants (by decide)
  exact ⟨_, hrun, by decide, by decide, (emergency_admission_sound 1 1 hrun).1⟩

end Coordination.Emergency
