import PriorityGateway.Gateway.Requests

/-! # The Revocation Fence

    A request may have been admitted long before its key is revoked: from an
    older snapshot, by the emergency path, or before it waited for the
    recorder.  What protects the backends is that every selection of a target
    looks the key up again, and that a revocation, once published, is shown
    by everything that is published later, also by a `Reload` that loaded its
    data earlier. -/

namespace Gateway

open Registry (Snapshot newRegistry)

variable {σ χ ω : Type} {A : Allocator σ χ ω} {S : Service} {w w' : World σ} {l : Label χ ω}
  {id : Int}

/-! ## A revocation stays published -/

/-- The step does not bring the key back into the published snapshot. -/
def NotReappearing (id : Int) (w : World σ) (_ : Label χ ω) (w' : World σ) : Prop :=
  w'.current.Contains id → w.current.Contains id

instance (id : Int) (w : World σ) (l : Label χ ω) (w' : World σ) :
    Decidable (NotReappearing id w l w') :=
  inferInstanceAs (Decidable (_ → _))

theorem showsRevoked_step (h : next A S w l = some w') (hstays : NotReappearing id w l w')
    (hrevoked : w.current.ShowsRevoked id) : w'.current.ShowsRevoked id := by
  rcases next_publishes h with hsame | ⟨-, hpublication⟩
  · rwa [hsame]
  · exact hpublication.showsRevoked hrevoked hstays

variable {ls : List (Label χ ω)} {coordinator : σ}

theorem showsRevoked_run
    (h : ((gateway A S coordinator).restrict (NotReappearing id)).Steps w ls w')
    (hrevoked : w.current.ShowsRevoked id) : w'.current.ShowsRevoked id := by
  induction h with
  | nil w => exact hrevoked
  | cons hstep _ ih => exact ih (showsRevoked_step hstep.1 hstep.2 hrevoked)

/-! ## Selections look the key up -/

/-- The moves that read the published snapshot to get a target: a round of `selectTarget`,
    for the first target or for a retry, and the second look of `Tokenize`. -/
def Move.selectsTarget : Move χ → Bool
  | .select _ _ | .revalidate _ _ _ => true
  | _ => false

section Selections

variable {request : ForwardRequest} {current : Snapshot} {phase phase' : Phase} {call : Call}
  {now : Int}

section

variable (hkey : ∃ e, validateAPIKeySnapshot S request.apiKey current now = .error e)

include hkey

theorem targetMove_refused {choice : Option Nat}
    (h : targetMove S request current phase (.select now choice : Move χ) = some phase') :
    phase' = .ended (some invalidAPIKey) := by
  obtain ⟨e, hkey⟩ := hkey
  cases phase with
  | selecting resolved retrying exclude =>
    simp only [targetMove, selectionCandidates, hkey, Option.some.injEq] at h
    exact h.symm
  | _ => simp [targetMove] at h

theorem tokenizeMove_refused {healthy ready : Bool}
    (h : tokenizeMove S request current phase (.revalidate now healthy ready : Move χ)
      = some phase') : ∃ e, phase' = .ended (some e) := by
  obtain ⟨e, hkey⟩ := hkey
  cases phase with
  | tokenLeased t lease =>
    simp only [tokenizeMove, revalidateTokenization, hkey, Phase.orEnd, Option.some.injEq] at h
    exact ⟨e, h.symm⟩
  | _ => simp [tokenizeMove] at h

end

theorem readingMove_select (now : Int) (choice : Option Nat) :
    readingMove S request current phase (.select now choice : Move χ)
      = targetMove S request current phase (.select now choice : Move χ) := by
  cases phase <;> simp [readingMove, resolveMove, poolMove, admissionMove, checkMove, tokenizeMove]

theorem readingMove_revalidate (now : Int) (healthy ready : Bool) :
    readingMove S request current phase (.revalidate now healthy ready : Move χ)
      = tokenizeMove S request current phase (.revalidate now healthy ready : Move χ) := by
  cases phase <;> simp [readingMove, resolveMove, poolMove, admissionMove, checkMove, targetMove]

/-- A selection with a key that is not valid ends the request. -/
theorem advance_refused {move : Move χ} (hselects : move.selectsTarget = true)
    (hkey : ∀ now, ∃ e, validateAPIKeySnapshot S call.request.apiKey w.current now = .error e)
    (h : advance A S w call move = some (w', phase')) : ∃ e, phase' = .ended (some e) := by
  cases move with
  | select now choice =>
    obtain ⟨next, hnext, heq⟩ := Option.map_eq_some_iff.mp h
    cases heq
    rw [readingMove_select] at hnext
    exact ⟨_, targetMove_refused (hkey now) hnext⟩
  | revalidate now healthy ready =>
    obtain ⟨next, hnext, heq⟩ := Option.map_eq_some_iff.mp h
    cases heq
    rw [readingMove_revalidate] at hnext
    exact tokenizeMove_refused (hkey now) hnext
  | _ => cases hselects

theorem readingMove_ended (e : Option APIError) (move : Move χ) :
    readingMove S request current (.ended e) move = none := by
  cases move <;>
    simp [readingMove, resolveMove, poolMove, admissionMove, checkMove, targetMove, tokenizeMove]

theorem advance_ended {e : Option APIError} (hphase : call.phase = .ended e)
    (move : Move χ) : advance A S w call move = none := by
  unfold advance
  split
  · simp only [hphase]
  · simp only [hphase]
  · rw [hphase, readingMove_ended]
    rfl

end Selections

/-! ## The fence -/

variable {call : Call} {e : Option APIError} {k : Nat}

theorem ended_step (h : next A S w l = some w') (hk : w.calls.lookup k = some call)
    (hphase : call.phase = .ended e) : w'.calls.lookup k = some call := by
  cases l with
  | registry l =>
    obtain ⟨-, hmap⟩ := Option.ite_none_left_eq_some.mp h
    obtain ⟨registry, -, rfl⟩ := Option.map_eq_some_iff.mp hmap
    exact hk
  | coordinator call =>
    cases h
    exact hk
  | arrive k' request tokenize =>
    obtain ⟨hfree, heq⟩ := Option.ite_none_right_eq_some.mp h
    cases heq
    have hne : k ≠ k' := by
      rintro rfl
      rw [hk] at hfree
      cases hfree
    show (w.calls.insert k' _).lookup k = some call
    rw [Table.lookup_insert_eq, if_neg hne]
    exact hk
  | call k' move =>
    simp only [next] at h
    rcases hk' : w.calls.lookup k' with _ | other
    · rw [hk'] at h
      cases h
    rw [hk'] at h
    obtain ⟨⟨moved, phase⟩, hadvance, rfl⟩ := Option.map_eq_some_iff.mp h
    -- the move is one of another request, since this one makes none
    have hne : k ≠ k' := by
      rintro rfl
      rw [hk] at hk'
      obtain rfl := Option.some.inj hk'
      rw [advance_ended hphase] at hadvance
      cases hadvance
    show (moved.calls.insert k' _).lookup k = some call
    rw [Table.lookup_insert_eq, if_neg hne, (advance_publishes hadvance).1]
    exact hk

theorem ended_run (h : (gateway A S coordinator).Steps w ls w') (hk : w.calls.lookup k = some call)
    (hphase : call.phase = .ended e) : w'.calls.lookup k = some call := by
  induction h with
  | nil w => exact hk
  | cons hstep _ ih => exact ih (ended_step hstep hk hphase)

/-- The request has ended with an error, and has no target in any later state. -/
def EndsWithoutTarget (A : Allocator σ χ ω) (S : Service) (coordinator : σ) (w : World σ)
    (k : Nat) : Prop :=
  (∃ call e, w.calls.lookup k = some call ∧ call.phase = .ended (some e)) ∧
    ∀ ls w', (gateway A S coordinator).Steps w ls w' →
      ∀ call, w'.calls.lookup k = some call → call.phase.hasTarget = false

/-- **Revocation fence.**  `MarkKeyRevoked` has found the key, and the key does not disappear
    and come back.  Whatever runs in between, a request that presents the key and then reads
    the published snapshot to select a target gets none. -/
theorem revocation_fence (A : Allocator σ χ ω) (S : Service) (coordinator : σ)
    {w w₁ w₂ w₃ : World σ} {id at' : Int} {k : Nat} {move : Move χ}
    (hrevoke : (gateway A S coordinator).step w (.registry (.markKeyRevoked id at')) w₁)
    (hfound : (Registry.markKeyRevoked id at' w.current).1 = true)
    (hrun : ((gateway A S coordinator).restrict (NotReappearing id)).Steps w₁ ls w₂)
    (hk : w₂.calls.lookup k = some call) (honly : ∀ key ∈ w₂.current.keys,
      S.verify call.request.apiKey key.secretHash = true → key.id = id)
    (hselects : move.selectsTarget = true)
    (hselect : (gateway A S coordinator).step w₂ (.call k move) w₃) :
    EndsWithoutTarget A S coordinator w₃ k := by
  have hrevoked₁ : w₁.current.ShowsRevoked id := by
    obtain ⟨-, hmap⟩ := Option.ite_none_left_eq_some.mp hrevoke
    obtain ⟨registry, hnext, rfl⟩ := Option.map_eq_some_iff.mp hmap
    obtain rfl := Option.some.inj hnext
    exact Registry.markKeyRevoked_showsRevoked hfound
  have hrevoked₂ := showsRevoked_run hrun hrevoked₁
  -- no reading of the clock makes the key valid in this snapshot
  have hkey : ∀ now, ∃ e,
      validateAPIKeySnapshot S call.request.apiKey w₂.current now = .error e :=
    fun now => validateAPIKeySnapshot_revoked honly hrevoked₂
  change next A S w₂ (.call k move) = some w₃ at hselect
  simp only [next, hk] at hselect
  obtain ⟨⟨moved, phase⟩, hadvance, rfl⟩ := Option.map_eq_some_iff.mp hselect
  obtain ⟨e, rfl⟩ := advance_refused hselects hkey hadvance
  have hended : (moved.calls.insert k { call with phase := .ended (some e) }).lookup k
      = some { call with phase := .ended (some e) } := AList.lookup_insert _
  refine ⟨⟨_, e, hended, rfl⟩, ?_⟩
  intro ls' w' hsteps other hother
  have hlast := ended_run hsteps hended rfl
  rw [hlast] at hother
  obtain rfl := Option.some.inj hother
  rfl

/-- A coordinator that is out of reach. -/
def unreachable : Allocator Unit Unit Unit where
  acquire := fun s _ _ _ => (s, .error .transient)
  other := fun s _ => s

/-- The world after these steps. -/
def reached (ls : List (Label Unit Unit)) : World Unit :=
  (ls.foldlM (next unreachable oneService)
    { registry := newRegistry, coordinator := (), calls := ∅ }).getD
    { registry := newRegistry, coordinator := (), calls := ∅ }

/-- The request is admitted by the emergency path while a `Reload` has loaded the next
    revision, with the key unrevoked. -/
def admittedByEmergency : List (Label Unit Unit) :=
  untilChecked ++
    [.call 0 (.acquire () 10 10), .call 0 (.emergency true),
      .registry (.load (some (oneData 2)))]

def revokes : Label Unit Unit := .registry (.markKeyRevoked 1 20)

/-- The `Reload` publishes what it has loaded. -/
def publishesLoaded : Label Unit Unit := .registry (.publish 0 [oneSecret])

theorem reached_step (ls : List (Label Unit Unit)) (l : Label Unit Unit)
    (h : (next unreachable oneService (reached ls) l).isSome)
    (hlast : (ls.foldlM (next unreachable oneService)
      { registry := newRegistry, coordinator := (), calls := ∅ }).isSome) :
    next unreachable oneService (reached ls) l = some (reached (ls ++ [l])) := by
  unfold reached at h ⊢
  obtain ⟨w, hw⟩ := Option.isSome_iff_exists.mp hlast
  rw [hw] at h ⊢
  obtain ⟨w', hw'⟩ := Option.isSome_iff_exists.mp h
  simp only [Option.getD_some] at hw' ⊢
  simp [List.foldlM_append, hw, hw']

theorem revocation_fence_emergency :
    (reached (admittedByEmergency ++ [revokes] ++ [publishesLoaded])).current.revision = 2 ∧
      EndsWithoutTarget unreachable oneService ()
        (reached (admittedByEmergency ++ [revokes] ++ [publishesLoaded] ++
          [.call 0 (.select 30 (some 0))])) 0 := by
  refine ⟨by decide +kernel, ?_⟩
  have hrevoke := reached_step admittedByEmergency revokes (by decide +kernel) (by decide +kernel)
  have hpublish := reached_step (admittedByEmergency ++ [revokes]) publishesLoaded
    (by decide +kernel) (by decide +kernel)
  have hselect := reached_step (admittedByEmergency ++ [revokes] ++ [publishesLoaded])
    (.call 0 (.select 30 (some 0))) (by decide +kernel) (by decide +kernel)
  have hcall : ((reached (admittedByEmergency ++ [revokes] ++ [publishesLoaded])).calls.lookup
      0).isSome := by decide +kernel
  have hkeys : ∀ key ∈ (reached (admittedByEmergency ++ [revokes] ++
      [publishesLoaded])).current.keys, key.id = 1 := by decide +kernel
  obtain ⟨call, hcall⟩ := Option.isSome_iff_exists.mp hcall
  exact revocation_fence unreachable oneService () hrevoke (by decide +kernel)
    (.cons ⟨hpublish, by decide +kernel⟩ (.nil _)) hcall (fun key hkey _ => hkeys key hkey)
    rfl hselect

end Gateway
