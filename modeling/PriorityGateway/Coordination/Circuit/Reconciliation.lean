import PriorityGateway.Coordination.Circuit.Local

/-! # A Failed Reconciliation

    `Reconcile` finds out that a backend id is repeated when it comes to it,
    and then returns with an error.  What it did for the backends before stays;
    the monitor, its caller, checks its own list only after this call.

    `failed_reconcile_iff` says when such a call has changed no circuit and
    ended no attempt: exactly if the coordinator had already been reconciled
    with every backend before the repeated one. -/

namespace Coordination.LocalCircuit

open CircuitBreaker (Options)

/-- Each circuit, with its identity and its breaker, and which attempts are terminal. -/
structure SameCircuits (s s' : CircuitCoordinator) : Prop where
  circuits : ∀ id, s'.circuits.lookup id = s.circuits.lookup id
  terminal : ∀ id, (s'.attempts.lookup id).map CircuitAttempt.terminal
    = (s.attempts.lookup id).map CircuitAttempt.terminal

/-- The backends that come before a repeated id. -/
def beforeRepeated : List Int → List BackendIdentity → List BackendIdentity
  | _, [] => []
  | seen, value :: values =>
    if value.id ∈ seen then [] else value :: beforeRepeated (value.id :: seen) values

/-- The coordinator has what `Reconcile` makes of the backend. -/
def Settled (s : CircuitCoordinator) (value : BackendIdentity) : Prop :=
  if !value.enabled ∨ value.draining then
    s.circuits.lookup value.id = none ∧ ∀ id attempt, s.attempts.lookup id = some attempt →
      attempt.backend.id = value.id → attempt.terminal = true
  else (s.circuits.lookup value.id).map CircuitEntry.identity = some value

/-- Attempts may have ended. -/
def Ends (s s' : CircuitCoordinator) : Prop :=
  ∀ id a', s'.attempts.lookup id = some a' → ∃ a, s.attempts.lookup id = some a ∧
    a.backend = a'.backend ∧ (a.terminal = true → a'.terminal = true)

variable {now : Int} {s s' : CircuitCoordinator} {value second : BackendIdentity}
  {values : List BackendIdentity}

theorem Ends.refl (s : CircuitCoordinator) : Ends s s := fun _ a h => ⟨a, h, rfl, id⟩

theorem Ends.trans {s'' : CircuitCoordinator} (h : Ends s s') (h' : Ends s' s'') : Ends s s'' := by
  intro id a'' ha''
  obtain ⟨a', ha', hbackend', hterminal'⟩ := h' id a'' ha''
  obtain ⟨a, ha, hbackend, hterminal⟩ := h id a' ha'
  exact ⟨a, ha, hbackend.trans hbackend', fun h => hterminal' (hterminal h)⟩

/-! ## One backend -/

theorem ends_invalidate (s : CircuitCoordinator) (id now : Int) : Ends s (invalidate s id now) := by
  intro k a' ha'
  obtain ⟨a, ha, rfl⟩ := Option.map_eq_some_iff.mp ((Table.lookup_mapRows ..).symm.trans ha')
  refine ⟨a, ha, ?_⟩
  split
  · exact ⟨rfl, fun _ => rfl⟩
  · exact ⟨rfl, fun h => h⟩

theorem ends_reconcileBackend (now : Int) (s : CircuitCoordinator) (value : BackendIdentity) :
    Ends s (reconcileBackend now s value) := by
  unfold reconcileBackend
  split
  · exact ends_invalidate s _ now
  split
  · exact .refl s
  · exact ends_invalidate s _ now

theorem reconcileBackend_circuits_ne {id : Int} (hid : id ≠ value.id) :
    (reconcileBackend now s value).circuits.lookup id = s.circuits.lookup id := by
  unfold reconcileBackend
  split
  · exact AList.lookup_erase_ne hid
  split
  · rfl
  · exact AList.lookup_insert_ne hid

theorem settled_reconcileBackend : Settled (reconcileBackend now s value) value := by
  unfold Settled reconcileBackend
  split
  · refine ⟨AList.lookup_erase .., ?_⟩
    intro id attempt hattempt hid
    obtain ⟨a, -, rfl⟩ := Option.map_eq_some_iff.mp ((Table.lookup_mapRows ..).symm.trans hattempt)
    -- what is not terminal yet is invalidated
    by_cases hopen : invalidates value.id a = true
    · rw [if_pos hopen]
    · rw [if_neg hopen] at hid ⊢
      simpa [invalidates, hid] using hopen
  split
  · next hsame => exact hsame
  · rw [AList.lookup_insert]
    rfl

theorem Settled.other (h : Settled s value) (hid : value.id ≠ second.id) :
    Settled (reconcileBackend now s second) value := by
  unfold Settled at *
  rw [reconcileBackend_circuits_ne hid]
  split
  · next hgone =>
    rw [if_pos hgone] at h
    refine ⟨h.1, fun id a' ha' hid => ?_⟩
    obtain ⟨a, ha, hbackend, hterminal⟩ := ends_reconcileBackend now s second id a' ha'
    exact hterminal (h.2 id a ha (hbackend ▸ hid))
  · next hkept => rwa [if_neg hkept] at h

theorem Settled.unmoved (h : Settled s value) (now : Int) :
    (∀ id, (reconcileBackend now s value).circuits.lookup id = s.circuits.lookup id) ∧
      ∀ id, (reconcileBackend now s value).attempts.lookup id = s.attempts.lookup id := by
  unfold Settled at h
  unfold reconcileBackend
  split at h
  · next hgone =>
    rw [if_pos hgone, Table.erase_of_none h.1]
    refine ⟨fun _ => rfl, fun id => (Table.lookup_mapRows ..).trans ?_⟩
    rcases ha : s.attempts.lookup id with _ | a
    · rfl
    have hkept : invalidates value.id a = false := by
      by_contra hopen
      simp only [invalidates, Bool.not_eq_false, Bool.and_eq_true, decide_eq_true_eq] at hopen
      simp [h.2 id a ha hopen.1] at hopen
    rw [Option.map_some, hkept]
    rfl
  · next hgone =>
    rw [if_neg hgone, if_pos h]
    exact ⟨fun _ => rfl, fun _ => rfl⟩

/-! ## The list -/

theorem reconcileBackends_fst (now : Int) (seen : List Int) (values : List BackendIdentity)
    (s : CircuitCoordinator) :
    (reconcileBackends now seen values s).1
      = (beforeRepeated seen values).foldl (reconcileBackend now) s := by
  induction values generalizing seen s with
  | nil => rfl
  | cons value values ih =>
    unfold reconcileBackends beforeRepeated
    split
    · rfl
    · exact ih _ _

/-- After the loop every backend that it came to is settled. -/
theorem settled_foldl (now : Int) (seen : List Int) (values : List BackendIdentity)
    (s : CircuitCoordinator) :
    Ends s ((beforeRepeated seen values).foldl (reconcileBackend now) s) ∧
    ∀ value, (value ∈ beforeRepeated seen values ∨ Settled s value ∧ value.id ∈ seen) →
      Settled ((beforeRepeated seen values).foldl (reconcileBackend now) s) value := by
  induction values generalizing seen s with
  | nil => exact ⟨.refl s, fun value h => h.elim nofun And.left⟩
  | cons first values ih =>
    unfold beforeRepeated
    split
    · exact ⟨.refl s, fun value h => h.elim nofun And.left⟩
    next hfirst =>
    obtain ⟨hends, hsettled⟩ := ih (first.id :: seen) (reconcileBackend now s first)
    refine ⟨(ends_reconcileBackend now s first).trans hends, ?_⟩
    rintro value (hmem | ⟨hold, hseen⟩)
    · rcases List.mem_cons.mp hmem with rfl | hrest
      · exact hsettled _ (.inr ⟨settled_reconcileBackend, List.mem_cons_self⟩)
      · exact hsettled value (.inl hrest)
    · have hne : value.id ≠ first.id := fun heq => hfirst (heq ▸ hseen)
      exact hsettled value (.inr ⟨hold.other hne, List.mem_cons_of_mem _ hseen⟩)

theorem unmoved_foldl (h : ∀ value ∈ values, Settled s value) :
    SameCircuits s (values.foldl (reconcileBackend now) s) := by
  induction values generalizing s with
  | nil => exact ⟨fun _ => rfl, fun _ => rfl⟩
  | cons first values ih =>
    obtain ⟨hcircuits, hattempts⟩ := (h first List.mem_cons_self).unmoved now
    have hrest := ih (s := reconcileBackend now s first) fun value hmem => by
      simpa only [Settled, hcircuits, hattempts] using h value (List.mem_cons_of_mem _ hmem)
    exact ⟨fun id => (hrest.circuits id).trans (hcircuits id),
      fun id => (hrest.terminal id).trans (by rw [hattempts])⟩

/-- What is settled and unchanged was settled before. -/
theorem Settled.before (h : Settled s' value) (hsame : SameCircuits s s') (hends : Ends s s') :
    Settled s value := by
  unfold Settled at *
  simp only [hsame.circuits] at h
  split
  · next hgone =>
    rw [if_pos hgone] at h
    refine ⟨h.1, fun id a ha hid => ?_⟩
    have hterminal := hsame.terminal id
    cases ha' : s'.attempts.lookup id with
    | none => simp [ha, ha'] at hterminal
    | some a' =>
      obtain ⟨_, hold, hbackend, -⟩ := hends id a' ha'
      cases ha.symm.trans hold
      rw [ha, ha'] at hterminal
      exact (Option.some.inj hterminal).symm.trans (h.2 id a' ha' (hbackend ▸ hid))
  · next hkept => rwa [if_neg hkept] at h

/-- **A failed reconciliation** has changed nothing exactly if the backends before the
    repeated one were settled. -/
theorem failed_reconcile_iff (o : Options) (s : CircuitCoordinator) (now : Int)
    (values : List BackendIdentity) (duplicate : Int)
    (h : (reconcile o s now values).2 = some duplicate) :
    SameCircuits (expire o s now) (reconcile o s now values).1 ↔
      ∀ value ∈ beforeRepeated [] values, Settled (expire o s now) value := by
  have hfold := reconcileBackends_fst now [] values (expire o s now)
  have hstate : (reconcile o s now values).1
      = (beforeRepeated [] values).foldl (reconcileBackend now) (expire o s now) := by
    rw [← hfold]
    unfold reconcile at h ⊢
    split at h
    · next heq => rw [heq]
    · cases h
  rw [hstate]
  obtain ⟨hends, hsettled⟩ := settled_foldl now [] values (expire o s now)
  refine ⟨fun hsame value hmem => ?_, unmoved_foldl⟩
  exact (hsettled value (.inl hmem)).before hsame hends

/-- The second entry of the list is refused, after the first was given a circuit. -/
theorem failed_reconcile_adds_circuit :
    ∃ (o : Options) (values : List BackendIdentity),
      (reconcile o (newCircuitCoordinator 0) 0 values).2 = some 1 ∧
      ¬ SameCircuits (expire o (newCircuitCoordinator 0) 0)
        (reconcile o (newCircuitCoordinator 0) 0 values).1 := by
  let backend : BackendIdentity := { id := 1, enabled := true }
  refine ⟨⟨1, 1, 1, 1, by decide, by decide, by decide, by decide⟩, [backend, backend], rfl, ?_⟩
  intro hsame
  cases hsame.circuits 1

/-- The same list of a backend that is disabled: it has no circuit, and gets none. -/
theorem failed_reconcile_iff_disabled :
    ∃ (o : Options) (values : List BackendIdentity),
      (reconcile o (newCircuitCoordinator 0) 0 values).2 = some 1 ∧
      SameCircuits (expire o (newCircuitCoordinator 0) 0)
        (reconcile o (newCircuitCoordinator 0) 0 values).1 := by
  let backend : BackendIdentity := { id := 1 }
  let o : Options := ⟨1, 1, 1, 1, by decide, by decide, by decide, by decide⟩
  refine ⟨o, [backend, backend], rfl, ?_⟩
  refine (failed_reconcile_iff o _ 0 [backend, backend] 1 rfl).mpr ?_
  intro value hmem
  rw [show beforeRepeated [] [backend, backend] = [backend] from rfl] at hmem
  rw [List.mem_singleton.mp hmem]
  exact ⟨rfl, fun _ _ => nofun⟩

end Coordination.LocalCircuit
