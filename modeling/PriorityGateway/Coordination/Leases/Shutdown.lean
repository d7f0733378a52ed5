import PriorityGateway.Coordination.Leases.Conservation

/-! # Shutdown of the Lease Manager

    `CloseContext` stops the run loop, empties the channel and the retry
    list, and delivers what it found or counts it as dropped.  `Complete`
    does not look at whether the manager is closed.  A completion that
    enters the channel after the shutdown has found it empty is accepted,
    and nobody takes it out again: it is neither delivered nor counted.

    In every run in which no completion enters the channel that late, each
    accepted completion is acknowledged or counted when `CloseContext` has
    returned. -/

namespace Coordination.LeaseManager

/-- The run loop has ended. -/
def Closer.joined : Closer → Bool
  | .absent | .waiting => false
  | _ => true

/-- The channel was found empty. -/
def Closer.drained : Closer → Bool
  | .absent | .waiting | .draining _ => false
  | _ => true

/-- The retry list was taken over. -/
def Closer.merged : Closer → Bool
  | .absent | .waiting | .draining _ | .merging _ => false
  | _ => true

theorem Closer.joined_of_drained {c : Closer} (h : c.drained = true) : c.joined = true := by
  cases c <;> first | rfl | cases h

theorem Closer.drained_of_merged {c : Closer} (h : c.merged = true) : c.drained = true := by
  cases c <;> first | rfl | cases h

/-- The step puts nothing into the channel after the shutdown has found it empty. -/
def Timely (s : State) (_l : Label) (s' : State) : Prop :=
  s.closer.drained = true → s'.completions.length ≤ s.completions.length

instance (s : State) (l : Label) (s' : State) : Decidable (Timely s l s') :=
  inferInstanceAs (Decidable (_ = _ → _ ≤ _))

/-- How far the shutdown has got, and what is empty since. -/
structure Stopped (s : State) : Prop where
  loop : s.closer.joined = true → s.loop = .exited
  channel : s.closer.drained = true → s.completions = []
  pending : s.closer.merged = true → s.pending = []

variable {s s' : State}

theorem LoopNext.not_exited (h : LoopNext s s') : s.loop ≠ .exited := by
  intro hexited
  cases h with
  | receive hloop _ | batch hloop _ | queue hloop _ | overflow hloop _ =>
    rw [hexited] at hloop
    cases hloop
  | _ =>
    next hloop =>
    rw [hexited] at hloop
    cases hloop

theorem Stopped.of_not_joined (h : s.closer.joined = false) : Stopped s where
  loop := fun hjoined => by rw [h] at hjoined; cases hjoined
  channel := fun hdrained => by
    rw [Closer.joined_of_drained hdrained] at h
    cases h
  pending := fun hmerged => by
    rw [Closer.joined_of_drained (Closer.drained_of_merged hmerged)] at h
    cases h

theorem CloserNext.stopped (h : CloserNext s s') (hs : Stopped s) : Stopped s' := by
  cases h with
  | close hcloser => exact .of_not_joined rfl
  | joined hcloser hloop => exact ⟨fun _ => hloop, nofun, nofun⟩
  | drained hcloser hchan =>
    have hloop := hs.loop (by rw [hcloser]; rfl)
    exact ⟨fun _ => hloop, fun _ => hchan, nofun⟩
  | drain hcloser hchan =>
    have hloop := hs.loop (by rw [hcloser]; rfl)
    exact ⟨fun _ => hloop, nofun, nofun⟩
  | nothing hcloser hpending | merge hcloser =>
    exact ⟨fun _ => hs.loop (by rw [hcloser]; rfl), fun _ => hs.channel (by rw [hcloser]; rfl),
      fun _ => rfl⟩
  | @answer items backoff results err lastErr hcloser =>
    rw [answered_eq]
    exact ⟨fun _ => hs.loop (by rw [hcloser]; rfl), fun _ => hs.channel (by rw [hcloser]; rfl),
      fun _ => hs.pending (by rw [hcloser]; rfl)⟩
  | _ =>
    -- from here on the shutdown works on the items it holds
    next hcloser =>
    exact ⟨fun _ => hs.loop (by rw [hcloser]; rfl), fun _ => hs.channel (by rw [hcloser]; rfl),
      fun _ => hs.pending (by rw [hcloser]; rfl)⟩

/-- A step of another thread keeps what the shutdown has emptied. -/
theorem Stopped.of_frame (hs : Stopped s) (hcloser : s'.closer = s.closer)
    (hloop : s.loop = .exited → s'.loop = .exited)
    (hchan : s.closer.drained = true → s.completions = [] → s'.completions = [])
    (hpending : s.pending = [] → s'.pending = []) : Stopped s' where
  loop := fun h => hloop (hs.loop (by rwa [hcloser] at h))
  channel := fun h => by
    rw [hcloser] at h
    exact hchan h (hs.channel h)
  pending := fun h => hpending (hs.pending (by rwa [hcloser] at h))

theorem Next.stopped {l : Label} (h : Next s l s') (htimely : Timely s l s') (hs : Stopped s) :
    Stopped s' := by
  -- no step of a handle adds to an empty channel, by the condition on the run
  have hchan : s.closer.drained = true → s.completions = [] → s'.completions = [] := by
    intro hdrained hempty
    have hle := htimely hdrained
    rw [hempty] at hle
    exact List.length_eq_zero_iff.mp (Nat.le_zero.mp hle)
  cases h with
  | handle hstep =>
    obtain ⟨hcloser, hloop, hpending⟩ := hstep.frame
    exact hs.of_frame hcloser (fun h => hloop.trans h) hchan (fun h => hpending.trans h)
  | loop hstep =>
    have hrunning : s.closer.joined = false := by
      cases hjoined : s.closer.joined with
      | false => rfl
      | true => exact absurd (hs.loop hjoined) hstep.not_exited
    exact .of_not_joined (by rw [hstep.frame.2]; exact hrunning)
  | closer hstep => exact hstep.stopped hs
  | @reconciled call results err reconciles =>
    rw [renewed_eq] at hchan ⊢
    exact hs.of_frame rfl (fun h => h) hchan (fun h => h)
  | _ => exact hs.of_frame rfl (fun h => h) hchan (fun h => h)

theorem stopped_of_reachable (hs : (leaseManager.restrict Timely).Reachable s) : Stopped s := by
  refine (leaseManager.restrict Timely).invariant ?_ ?_ hs
  · intro s hinit
    obtain ⟨o, rfl⟩ := hinit
    exact .of_not_joined rfl
  · intro s l s' hs hstep
    exact (next_inv hstep.1).stopped hstep.2 hs

/-- After the shutdown nothing is in the channel, in hand or in the retry list. -/
theorem Stopped.empty (hs : Stopped s) {closeErr : Err} (hclosed : s.closer = .returned closeErr) :
    s.held .channel = [] ∧ s.held .hand = [] ∧ s.held .pending = [] := by
  have hloop := hs.loop (by rw [hclosed]; rfl)
  have hchannel := hs.channel (by rw [hclosed]; rfl)
  have hpending := hs.pending (by rw [hclosed]; rfl)
  simp only [State.held, hloop, hclosed, hchannel, hpending]
  exact ⟨trivial, rfl, rfl⟩

/-- Every accepted completion is acknowledged or counted once `CloseContext` has returned,
    in every run that puts nothing into the channel after the shutdown has found it empty. -/
theorem shutdown_loses_nothing {s : State} {closeErr : Err}
    (hs : (leaseManager.restrict Timely).Reachable s) (hclosed : s.closer = .returned closeErr) :
    (∀ x, s.Accepted x → x ∈ s.held .acknowledged ∨ x ∈ s.held .dropped) ∧
      s.droppedCompletions = ((s.held .dropped).length + s.refused) % 2 ^ 64 := by
  have hconserved := conserved_of_reachable hs.of_restrict
  obtain ⟨hchannel, hhand, hpending⟩ := (stopped_of_reachable hs).empty hclosed
  refine ⟨?_, hconserved.counted⟩
  intro x hx
  obtain ⟨place, hone, -⟩ := hconserved.placed hx
  have hmem : x ∈ s.held place := List.count_pos_iff.mp (by omega)
  cases place with
  | channel => rw [hchannel] at hmem; cases hmem
  | hand => rw [hhand] at hmem; cases hmem
  | pending => rw [hpending] at hmem; cases hmem
  | acknowledged => exact .inl hmem
  | dropped => exact .inr hmem

def nextTimely (s : State) (l : Label) : Option State :=
  (next s l).filter fun s' => decide (Timely s l s')

theorem nextTimely_step (s : State) (l : Label) (s' : State) (h : nextTimely s l = some s') :
    (leaseManager.restrict Timely).step s l s' := by
  obtain ⟨hnext, htimely⟩ := Option.filter_eq_some_iff.mp h
  exact ⟨hnext, of_decide_eq_true htimely⟩

/-- Two completions, of which the loop takes none: the shutdown delivers the first and
    gives up on the second. -/
def expiredShutdown : List Label :=
  twoCompletions ++ [.closer .close, .loop .done, .closer .joined,
    .closer .drain, .closer .drain, .closer .drain, .closer .merge, .endCloseContext true,
    .closer (.answer [{ leaseID := 1, result := some .released }] .deadlineExceeded),
    .closer .remove, .closer .settle, .closer .giveUp, .closer .drop, .closer .drop]

def expiredShutdownState : State :=
  (expiredShutdown.foldlM nextTimely (newLeaseManager {})).getD (newLeaseManager {})

theorem shutdown_loses_nothing_expired :
    expiredShutdownState.closer =
        .returned (.join (.text "drain lease completions") .deadlineExceeded) ∧
      expiredShutdownState.Accepted ⟨1, ⟨demoLease 2, none⟩⟩ ∧
      expiredShutdownState.droppedCompletions = 1 ∧
      ∀ x, expiredShutdownState.Accepted x →
        x ∈ expiredShutdownState.held .acknowledged ∨ x ∈ expiredShutdownState.held .dropped := by
  have hrun : (leaseManager.restrict Timely).Reachable expiredShutdownState :=
    System.reachable_of_isSome _ nextTimely_step ⟨{}, rfl⟩ expiredShutdown (by decide +kernel)
  have hclosed : expiredShutdownState.closer =
      .returned (.join (.text "drain lease completions") .deadlineExceeded) := by decide +kernel
  exact ⟨hclosed, by decide +kernel, by decide +kernel, (shutdown_loses_nothing hrun hclosed).1⟩

/-- A request that ends after the shutdown: its handle is still there, and the channel
    has room. -/
def lateCompletion : List Label :=
  [.track (demoLease 1), .closer .close, .loop .done, .closer .joined, .closer .drain,
    .closer .merge, .handle 0 (.claim none), .handle 0 .offer]

def lateCompletionState : State :=
  (lateCompletion.foldlM next (newLeaseManager {})).getD (newLeaseManager {})

/-- The completion was accepted, `CloseContext` has returned without an error and no call of
    `Complete` is left, but the completion is in the channel: not acknowledged, not counted. -/
theorem late_completion_is_lost :
    leaseManager.Reachable lateCompletionState ∧
      lateCompletionState.closer = .returned .nil ∧
      lateCompletionState.handles = [⟨demoLease 1, .returned none true⟩] ∧
      lateCompletionState.Accepted ⟨0, ⟨demoLease 1, none⟩⟩ ∧
      lateCompletionState.held .acknowledged = [] ∧
      lateCompletionState.droppedCompletions = 0 ∧
      lateCompletionState.held .channel = [⟨0, ⟨demoLease 1, none⟩⟩] := by
  refine ⟨?_, by decide +kernel, by decide +kernel, by decide +kernel, by decide +kernel,
    by decide +kernel, by decide +kernel⟩
  exact leaseManager.reachable_of_isSome (fun _ _ _ h => h) ⟨{}, rfl⟩ lateCompletion
    (by decide +kernel)

end Coordination.LeaseManager
