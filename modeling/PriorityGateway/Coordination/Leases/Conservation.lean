import Mathlib.Data.List.Count
import Mathlib.Data.List.Perm.Basic
import PriorityGateway.Coordination.Leases.Manager

/-! # Conservation of Completions

    A completion that was accepted into the channel is, at every moment, in
    exactly one place: the channel, the hands of the run loop or of the
    shutdown, the retry list, acknowledged, or counted as dropped.  The
    proof counts occurrences: every step of every thread leaves the number
    of occurrences of every item as it is, except the step that accepts it.

    From this follows that nothing acknowledged is ever sent again.  The
    bound of the retry list carries over to what `retryPending` takes out of
    it, so putting a batch back always finds room; and a lease enters the
    active ones by `Track` only, because a renewal replaces entries that are
    there and adds none. -/

namespace Coordination.LeaseManager

/-! ## What the steps keep of the places -/

theorem pendingItems_append (pending other : List Pending) :
    pendingItems (pending ++ other) = pendingItems pending ++ pendingItems other :=
  List.flatMap_append

@[simp] theorem pendingItems_nil : pendingItems [] = [] := rfl

@[simp] theorem pendingItems_cons (entry : Pending) (pending : List Pending) :
    pendingItems (entry :: pending) = entry.items ++ pendingItems pending := rfl

variable (origin : Origin) (now : Int) (pending : List Pending)

/-- The pass over the retry list, from any point of it.  The entries not read
    yet are still in their places, because the kept ones move to the front only. -/
theorem splitLoop_eq (fuel : Nat) (array : List Pending)
    (i k : Nat) (due : List Pending) (hlen : array.length = pending.length)
    (hfuel : i + fuel = pending.length) (hki : k ≤ i) (hrest : array.drop i = pending.drop i)
    (hkept : array.take k = (pending.take i).filter (fun e => !decide (e.next ≤ now)))
    (hdue : due = (pending.take i).filter (fun e => decide (e.next ≤ now))) :
    splitLoop now fuel array i k due =
      (pending.filter (fun e => decide (e.next ≤ now)),
        pending.filter (fun e => !decide (e.next ≤ now))) := by
  induction fuel generalizing array i k due with
  | zero =>
    have hall : pending.take i = pending := List.take_of_length_le (by omega)
    simp only [splitLoop, hkept, hdue, hall]
  | succ fuel ih =>
    obtain ⟨entry, hentry⟩ : ∃ entry, pending[i]? = some entry :=
      ⟨pending[i], List.getElem?_eq_getElem (by omega)⟩
    have hread : array[i]? = some entry := by
      rw [← List.head?_drop, hrest, List.head?_drop, hentry]
    have hnext : pending.take (i + 1) = pending.take i ++ [entry] := by
      rw [List.take_add_one, hentry]
      rfl
    have hdrop : array.drop (i + 1) = pending.drop (i + 1) := by
      rw [← List.drop_drop, ← List.drop_drop, hrest]
    simp only [splitLoop, hread]
    split
    · next hle =>
      apply ih
      · exact hlen
      · omega
      · omega
      · exact hdrop
      · rw [hkept, hnext]; simp [hle]
      · rw [hdue, hnext]; simp [hle]
    · next hlt =>
      have hk : k < array.length := by omega
      apply ih
      · simpa using hlen
      · omega
      · omega
      · rw [List.drop_set_of_lt (by omega), hdrop]
      · rw [List.take_add_one, List.take_set_of_le (Nat.le_refl k), hkept, hnext]
        simp [hk, hlt]
      · rw [hdue, hnext]; simp [hlt]

theorem splitDue_eq :
    splitDue now pending =
      (pending.filter (fun e => decide (e.next ≤ now)),
        pending.filter (fun e => !decide (e.next ≤ now))) :=
  splitLoop_eq now pending _ pending 0 0 [] rfl (Nat.zero_add _) (Nat.le_refl 0) rfl rfl rfl

/-- Splitting off the due batches neither loses nor copies an item. -/
theorem splitDue_perm :
    (pendingItems (splitDue now pending).1 ++ pendingItems (splitDue now pending).2).Perm
      (pendingItems pending) := by
  rw [splitDue_eq, ← pendingItems_append]
  exact (List.filter_append_perm _ pending).flatMap_right Pending.items

/-- An answer touches the acknowledged items and the observer only. -/
theorem answered_eq (s : State) (items : List Item) (results : List CompleteResult) (err : Err) :
    s.answered items results err =
      { s with observed := (s.answered items results err).observed,
               acknowledged := s.acknowledged ++ acknowledgedBy items results err } := by
  unfold State.answered State.observeLost
  split <;> rfl

theorem renewOne_eq (s : State) (r : RenewResult) :
    ∃ active observed, s.renewOne r = { s with active := active, observed := observed } := by
  unfold State.renewOne State.remove
  split
  · split <;> exact ⟨_, _, rfl⟩
  · split
    · split <;> exact ⟨_, _, rfl⟩
    · exact ⟨_, _, rfl⟩

theorem foldl_renewOne_eq (results : List RenewResult) (s : State) :
    ∃ active observed,
      results.foldl State.renewOne s = { s with active := active, observed := observed } := by
  induction results generalizing s with
  | nil => exact ⟨_, _, rfl⟩
  | cons r results ih =>
    obtain ⟨active, observed, hone⟩ := renewOne_eq s r
    rw [List.foldl_cons, hone]
    exact ih _

/-- A renewal touches the active leases and the observer only. -/
theorem renewed_eq (s : State) (results : List RenewResult) (err : Err) :
    s.renewed results err = { s with active := (s.renewed results err).active,
                                     observed := (s.renewed results err).observed } := by
  unfold State.renewed
  split
  · obtain ⟨active, observed, heq⟩ := foldl_renewOne_eq results s
    rw [heq]
  · obtain ⟨active, observed, heq⟩ := foldl_renewOne_eq results _
    rw [heq]

@[simp] theorem Origin.items_resume : origin.resume.items = origin.items := by
  cases origin with
  | fresh | retry => rfl

@[simp] theorem Origin.items_entry (clock : Int) (remaining : List Item) :
    (origin.entry clock remaining).items = remaining := by
  cases origin with
  | fresh | retry => rfl

theorem count_acknowledgedBy (items : List Item) (results : List CompleteResult) (err : Err)
    (x : Item) :
    (acknowledgedBy items results err).count x +
      (items.drop (completed items results err)).count x = items.count x := by
  rw [← List.count_append, ← take_completed, List.take_append_drop]

variable {s s' : State} {call call' : Call} {h : Nat} {lease : LeaseIdentity} {l : Label}
  {x : Item} {leaseID : UUID}

/-- The run loop moves items between places and never loses or copies one. -/
theorem LoopNext.occurrences (h : LoopNext s s') (x : Item) :
    s'.occurrences x = s.occurrences x := by
  unfold State.occurrences State.held
  cases h with
  | exit hloop => simp [hloop]
  | rest _ => rfl
  | renew hloop => simp [hloop]
  | renewed results err hloop =>
    rw [renewed_eq]
    simp [hloop]
  | receive hloop hchan =>
    simp only [hloop, hchan, Loop.items_selecting, Loop.items_batching, List.count_append,
      List.count_cons, List.count_nil]
    omega
  | batch hloop hchan =>
    simp only [hloop, hchan, Loop.items_batching, List.count_append, List.count_cons,
      List.count_nil]
    omega
  | deliver hloop => simp [hloop]
  | @answer batch origin results err hloop =>
    have hcount := count_acknowledgedBy batch results err x
    rw [answered_eq]
    simp only [hloop, Loop.items_delivering, Loop.items_removing, List.count_append]
    omega
  | remove hloop | dropOne hloop => simp [hloop, State.remove]
  | settled hloop | unsettled _ hloop => simp [hloop]
  | queue hloop _ =>
    simp only [hloop, Loop.items_queueing, Origin.items_resume, pendingItems_append,
      pendingItems_cons, pendingItems_nil, List.append_nil, List.count_append]
    omega
  | overflow hloop _ => simp [hloop]
  | dropped hloop =>
    simp only [hloop, Loop.items_dropping, Origin.items_resume, State.observeDropped,
      List.count_append]
    omega
  | retry now hloop =>
    have hcount := (splitDue_perm now s.pending).count_eq x
    rw [List.count_append] at hcount
    simp only [hloop, Loop.items_selecting, Loop.items_retrying, List.count_append, List.count_nil]
    omega
  | retryNext hloop | retried hloop => simp [hloop]

/-- Neither does the shutdown. -/
theorem CloserNext.occurrences (h : CloserNext s s') (x : Item) :
    s'.occurrences x = s.occurrences x := by
  cases h with
  | close hcloser | joined hcloser _ | drained hcloser _ | settled hcloser | unsettled hcloser
  | timer longer hcloser | giveUp hcloser =>
    simp [State.occurrences, State.held, hcloser, Closer.items]
  | drain hcloser hchan =>
    simp only [State.occurrences, State.held, hcloser, hchan, Closer.items, List.count_append,
      List.count_cons, List.count_nil]
    omega
  | nothing hcloser hpending =>
    simp [State.occurrences, State.held, hcloser, hpending, Closer.items]
  | merge hcloser =>
    simp only [State.occurrences, State.held, hcloser, Closer.items, List.count_append,
      pendingItems_nil, List.count_nil]
    omega
  | @answer items backoff results err lastErr hcloser =>
    have hcount := count_acknowledgedBy items results err x
    rw [answered_eq]
    simp only [State.occurrences, State.held, hcloser, Closer.items, List.count_append]
    omega
  | remove hcloser | dropOne hcloser =>
    simp [State.occurrences, State.held, hcloser, Closer.items, State.remove]
  | dropped closeErr hcloser =>
    simp only [State.occurrences, State.held, hcloser, Closer.items, State.observeDropped,
      List.count_append, List.count_nil]
    omega

/-! ## Conservation -/

/-- What `retryPending` has taken from the retry list and not yet settled. -/
def Origin.retried (batch : List Item) : Origin → List Item
  | .fresh => []
  | .retry _ _ due => batch ++ pendingItems due

def Loop.retried : Loop → List Item
  | .delivering batch origin | .removing _ batch origin | .dropping _ batch origin =>
    origin.retried batch
  | .queueing entry origin => origin.retried entry.items
  | .retrying _ due => pendingItems due
  | .selecting | .batching _ | .renewing _ | .exited => []

/-- The account of the completions in one state. -/
structure Conserved (s : State) : Prop where
  /-- an accepted completion is in exactly one place, and nothing else is in any -/
  once : ∀ x, s.occurrences x = if s.Accepted x then 1 else 0
  /-- the counter counts the dropped and the refused completions -/
  counted : s.dropped = (s.lost.length + s.refused) % 2 ^ 64
  /-- there is room in the retry list for what was taken from it -/
  backlog : (pendingItems s.pending).length + s.loop.retried.length ≤ s.backlogCap
  /-- the batch that is being dropped is not one from the retry list -/
  requeued : ∀ left items now backoff due, s.loop ≠ .dropping left items (.retry now backoff due)

section

variable (hcall : s.handles[h]? = some ⟨lease, call⟩)

include hcall

theorem accepted_setCall_of_not (hbefore : call.accepted = false)
    (hafter : call'.accepted = false) (x : Item) :
    (s.setCall h lease call').Accepted x ↔ s.Accepted x := by
  unfold State.Accepted State.setCall
  by_cases hx : h = x.handle
  · subst hx
    have hlt : x.handle < s.handles.length := (List.getElem?_eq_some_iff.mp hcall).1
    rw [List.getElem?_set_self hlt, hcall]
    constructor
    · intro heq
      cases heq
      cases hafter
    · intro heq
      cases heq
      cases hbefore
  · rw [List.getElem?_set_ne hx]

theorem accepted_setCall (usage : Option TokenUsage) (hbefore : call.accepted = false) (x : Item) :
    (s.setCall h lease (.returned usage true)).Accepted x ↔
      s.Accepted x ∨ x = ⟨h, ⟨lease, usage⟩⟩ := by
  obtain ⟨handle, ⟨xlease, xusage⟩⟩ := x
  unfold State.Accepted State.setCall
  by_cases hx : h = handle
  · subst hx
    have hlt : h < s.handles.length := (List.getElem?_eq_some_iff.mp hcall).1
    simp only [List.getElem?_set_self hlt, hcall, Option.some.injEq, LeaseHandle.mk.injEq,
      Call.returned.injEq, and_true, Item.mk.injEq, LeaseCompletion.mk.injEq, true_and]
    constructor
    · intro heq
      exact .inr ⟨heq.1.symm, heq.2.symm⟩
    · rintro (⟨-, rfl⟩ | ⟨rfl, rfl⟩)
      · cases hbefore
      · exact ⟨rfl, rfl⟩
  · simp only [List.getElem?_set_ne hx, Item.mk.injEq, Ne.symm hx, false_and, or_false]

theorem refused_setCall (hbefore : call.refused = false) :
    (s.setCall h lease call').refused = s.refused + if call'.refused then 1 else 0 := by
  obtain ⟨hlt, hget⟩ := List.getElem?_eq_some_iff.mp hcall
  show (s.handles.set h ⟨lease, call'⟩).countP (fun h => h.call.refused) = _
  rw [List.countP_set hlt, hget]
  simp only [hbefore, Bool.false_eq_true, if_false, Nat.sub_zero]
  rfl

/-- Steps of a call that neither accept nor refuse change nothing in the account. -/
theorem Conserved.setCall (hs : Conserved s) (haccepted : call.accepted = false)
    (hrefused : call.refused = false) (haccepted' : call'.accepted = false)
    (hrefused' : call'.refused = false) : Conserved (s.setCall h lease call') where
  once := by
    intro x
    have hiff := accepted_setCall_of_not hcall haccepted haccepted' x
    simp only [hiff]
    exact hs.once x
  counted := by
    rw [refused_setCall hcall hrefused, hrefused']
    exact hs.counted
  backlog := hs.backlog
  requeued := hs.requeued

end

theorem Conserved.remove (hs : Conserved s) (leaseID : UUID) : Conserved (s.remove leaseID) :=
  ⟨hs.once, hs.counted, hs.backlog, hs.requeued⟩

theorem HandleNext.conserved {i : Nat} (h : HandleNext s i s')
    (hs : Conserved s) : Conserved s' := by
  cases h with
  | claim usage hcall | full hcall => exact hs.setCall hcall rfl rfl rfl rfl
  | remove hcall => exact (hs.setCall hcall rfl rfl rfl rfl).remove _
  | @accept lease usage hcall hroom =>
    refine ⟨?_, ?_, hs.backlog, hs.requeued⟩
    · intro x
      have hnew : ¬ s.Accepted ⟨i, ⟨lease, usage⟩⟩ := by
        unfold State.Accepted
        rw [hcall]
        nofun
      have hiff := accepted_setCall hcall usage rfl x
      have honce := hs.once x
      have hadded : (s.completions ++ [(⟨i, ⟨lease, usage⟩⟩ : Item)]).count x =
          s.completions.count x + if x = ⟨i, ⟨lease, usage⟩⟩ then 1 else 0 := by
        rw [List.count_append, List.count_singleton]
        simp only [beq_iff_eq, @eq_comm Item x]
      show (s.completions ++ [(⟨i, ⟨lease, usage⟩⟩ : Item)]).count x + (s.held .hand).count x +
          (s.held .pending).count x + (s.held .acknowledged).count x + (s.held .dropped).count x =
        if (s.setCall i lease (.returned usage true)).Accepted x then 1 else 0
      simp only [State.occurrences, State.held] at honce ⊢
      simp only [hadded, hiff]
      -- the new item was nowhere before; every other item stays where it is
      by_cases hx : x = ⟨i, ⟨lease, usage⟩⟩
      · subst hx
        simp only [hnew, if_false] at honce
        simp only [or_true, if_true]
        omega
      · simp only [hx, or_false, if_false]
        omega
    · show s.dropped = (s.lost.length + (s.setCall i lease (.returned usage true)).refused) % 2 ^ 64
      rw [refused_setCall hcall rfl]
      exact hs.counted
  | @count lease usage hcall =>
    refine ⟨?_, ?_, hs.backlog, hs.requeued⟩
    · intro x
      have hiff : (s.setCall i lease (.returned usage false)).Accepted x ↔ s.Accepted x :=
        accepted_setCall_of_not hcall rfl rfl x
      show s.occurrences x = if (s.setCall i lease (.returned usage false)).Accepted x then 1 else 0
      simp only [hiff]
      exact hs.once x
    · have hrefused : (s.setCall i lease (.returned usage false)).refused = s.refused + 1 :=
        refused_setCall hcall rfl
      have hcounted := hs.counted
      show (s.dropped + 1) % 2 ^ 64 =
        (s.lost.length + (s.setCall i lease (.returned usage false)).refused) % 2 ^ 64
      omega

/-- The run loop changes neither the handles nor the shutdown. -/
theorem LoopNext.frame (h : LoopNext s s') : s'.handles = s.handles ∧ s'.closer = s.closer := by
  cases h with
  | answer => rw [answered_eq]; exact ⟨rfl, rfl⟩
  | renewed => rw [renewed_eq]; exact ⟨rfl, rfl⟩
  | _ => exact ⟨rfl, rfl⟩

theorem CloserNext.frame (h : CloserNext s s') :
    s'.handles = s.handles ∧ s'.backlogCap = s.backlogCap ∧ s'.loop = s.loop := by
  cases h with
  | @answer items backoff results err lastErr hcloser =>
    rw [answered_eq]
    exact ⟨rfl, rfl, rfl⟩
  | _ => exact ⟨rfl, rfl, rfl⟩

theorem HandleNext.frame {i : Nat} (h : HandleNext s i s') :
    s'.closer = s.closer ∧ s'.loop = s.loop ∧ s'.pending = s.pending := by
  cases h <;> exact ⟨rfl, rfl, rfl⟩

theorem once_of_frame (hs : Conserved s) (hhandles : s'.handles = s.handles)
    (hocc : ∀ x, s'.occurrences x = s.occurrences x) (x : Item) :
    s'.occurrences x = if s'.Accepted x then 1 else 0 := by
  have hiff : s'.Accepted x ↔ s.Accepted x := by
    unfold State.Accepted
    rw [hhandles]
  simp only [hocc, hiff]
  exact hs.once x

theorem LoopNext.counted (h : LoopNext s s')
    (hs : s.dropped = (s.lost.length + s.refused) % 2 ^ 64) :
    s'.dropped = (s'.lost.length + s'.refused) % 2 ^ 64 := by
  cases h with
  | @answer batch origin results err hloop =>
    rw [answered_eq]
    exact hs
  | renewed results err hloop =>
    rw [renewed_eq]
    exact hs
  | @dropped items origin hloop =>
    show (s.dropped + items.length) % 2 ^ 64 = ((s.lost ++ items).length + s.refused) % 2 ^ 64
    rw [List.length_append]
    omega
  | _ => exact hs

theorem CloserNext.counted (h : CloserNext s s')
    (hs : s.dropped = (s.lost.length + s.refused) % 2 ^ 64) :
    s'.dropped = (s'.lost.length + s'.refused) % 2 ^ 64 := by
  cases h with
  | @answer items backoff results err lastErr hcloser =>
    rw [answered_eq]
    exact hs
  | @dropped items lastErr closeErr hcloser =>
    show (s.dropped + items.length) % 2 ^ 64 = ((s.lost ++ items).length + s.refused) % 2 ^ 64
    rw [List.length_append]
    omega
  | _ => exact hs

@[simp] theorem Origin.retried_resume : origin.resume.retried = origin.items := by
  cases origin with
  | fresh | retry => rfl

theorem Origin.length_retried_le {batch batch' : List Item} (h : batch'.length ≤ batch.length) :
    (origin.retried batch').length ≤ (origin.retried batch).length := by
  cases origin with
  | fresh => exact Nat.le_refl _
  | retry now backoff due =>
    simp only [Origin.retried, List.length_append]
    omega

theorem Origin.length_items_le (batch : List Item) :
    origin.items.length ≤ (origin.retried batch).length := by
  cases origin with
  | fresh => exact Nat.le_refl _
  | retry now backoff due =>
    simp only [Origin.retried, Origin.items, List.length_append]
    omega

/-- The run loop keeps room for what it took from the retry list. -/
theorem LoopNext.backlog (h : LoopNext s s')
    (hs : (pendingItems s.pending).length + s.loop.retried.length ≤ s.backlogCap) :
    (pendingItems s'.pending).length + s'.loop.retried.length ≤ s'.backlogCap := by
  cases h with
  | exit hloop | renew hloop | receive hloop _ | batch hloop _ | deliver hloop | remove hloop
  | overflow hloop _ | dropOne hloop | retried hloop => rw [hloop] at hs; exact hs
  | rest _ => exact hs
  | renewed results err hloop =>
    rw [hloop] at hs
    rw [renewed_eq]
    exact hs
  | @answer batch origin results err hloop =>
    have hle := origin.length_retried_le
      (List.drop_sublist (completed batch results err) batch).length_le
    rw [hloop] at hs
    rw [answered_eq]
    exact Nat.le_trans (Nat.add_le_add_left hle _) hs
  | @settled origin hloop =>
    have hle := origin.length_items_le []
    rw [hloop] at hs
    simp only [Origin.retried_resume]
    exact Nat.le_trans (Nat.add_le_add_left hle _) hs
  | @unsettled remaining origin clock hloop =>
    rw [hloop] at hs
    simp only [Loop.retried, Origin.items_entry]
    exact hs
  | @queue entry origin hloop hroom =>
    rw [hloop] at hs
    simp only [Origin.retried_resume, pendingItems_append, pendingItems_cons, pendingItems_nil,
      List.append_nil, List.length_append]
    cases origin with
    | fresh => simpa using hroom
    | retry now backoff due =>
      simp only [Loop.retried, Origin.retried, List.length_append] at hs
      simp only [Origin.items_retry]
      omega
  | @dropped items origin hloop =>
    have hle := origin.length_items_le items
    rw [hloop] at hs
    simp only [Origin.retried_resume]
    exact Nat.le_trans (Nat.add_le_add_left hle _) hs
  | retry now hloop =>
    have hlen := (splitDue_perm now s.pending).length_eq
    rw [List.length_append] at hlen
    simp only [Loop.retried] at hs ⊢
    omega
  | retryNext hloop =>
    rw [hloop] at hs
    exact hs

/-- A batch from the retry list finds its room again. -/
theorem LoopNext.requeued (h : LoopNext s s') (hs : Conserved s) :
    ∀ left items now backoff due, s'.loop ≠ .dropping left items (.retry now backoff due) := by
  intro left items now backoff due hdropping
  cases h with
  | rest _ => exact hs.requeued _ _ _ _ _ hdropping
  | @overflow entry origin hloop hfull =>
    have hroom := hs.backlog
    cases hdropping
    rw [hloop] at hroom
    simp only [Loop.retried, Origin.retried, List.length_append] at hroom
    omega
  | dropOne hloop =>
    cases hdropping
    exact hs.requeued _ _ _ _ _ hloop
  | @settled origin hloop | @queue entry origin hloop hroom | @dropped items origin hloop =>
    cases origin <;> cases hdropping
  | _ => cases hdropping

theorem LoopNext.conserved (h : LoopNext s s') (hs : Conserved s) : Conserved s' :=
  ⟨once_of_frame hs h.frame.1 h.occurrences, h.counted hs.counted, h.backlog hs.backlog,
    h.requeued hs⟩

theorem CloserNext.pending_le (h : CloserNext s s') :
    (pendingItems s'.pending).length ≤ (pendingItems s.pending).length := by
  cases h with
  | nothing | merge => exact Nat.zero_le _
  | @answer items backoff results err lastErr hcloser =>
    rw [answered_eq]
  | _ => exact Nat.le_refl _

theorem CloserNext.conserved (h : CloserNext s s') (hs : Conserved s) : Conserved s' := by
  obtain ⟨hhandles, hcap, hloop⟩ := h.frame
  have hle := h.pending_le
  have hbacklog := hs.backlog
  refine ⟨once_of_frame hs hhandles h.occurrences, h.counted hs.counted, ?_, ?_⟩
  · rw [hloop, hcap]
    omega
  · rw [hloop]
    exact hs.requeued

theorem Next.conserved (h : Next s l s') (hs : Conserved s) : Conserved s' := by
  cases h with
  | track lease =>
    refine ⟨?_, ?_, hs.backlog, hs.requeued⟩
    · intro x
      have honce := hs.once x
      have hiff : (s.handles ++ [⟨lease, .idle⟩])[x.handle]? =
            some ⟨x.completion.lease, .returned x.completion.usage true⟩ ↔ s.Accepted x := by
        rw [List.getElem?_append]
        split
        · exact Iff.rfl
        next hge =>
        -- the new handle is idle, and there was none at its place
        have hnone : s.handles[x.handle]? = none := List.getElem?_eq_none (by omega)
        unfold State.Accepted
        rw [hnone, List.getElem?_singleton]
        split <;> simp
      show s.occurrences x = _
      simp only [State.Accepted, hiff] at honce ⊢
      exact honce
    · have hcounted := hs.counted
      simp only [State.refused, List.countP_append, List.countP_singleton, Call.refused,
        Bool.false_eq_true, if_false, Nat.add_zero] at hcounted ⊢
      exact hcounted
  | handle hstep | loop hstep | closer hstep => exact hstep.conserved hs
  | reconcile reconciles | cancelParent | endCloseContext err =>
    exact ⟨hs.once, hs.counted, hs.backlog, hs.requeued⟩
  | @reconciled call results err reconciles =>
    rw [renewed_eq]
    exact ⟨hs.once, hs.counted, hs.backlog, hs.requeued⟩

theorem conserved_newLeaseManager (o : LeaseManagerOptions) : Conserved (newLeaseManager o) where
  once := by
    intro x
    simp [State.occurrences, State.held, newLeaseManager, State.Accepted, Closer.items]
  counted := rfl
  backlog := Nat.zero_le _
  requeued := by
    nofun

theorem conserved_of_reachable (hs : leaseManager.Reachable s) : Conserved s := by
  refine leaseManager.invariant ?_ ?_ hs
  · intro s hinit
    obtain ⟨o, rfl⟩ := hinit
    exact conserved_newLeaseManager o
  · intro s l s' hs hstep
    exact (next_inv hstep).conserved hs

/-! ## Acknowledged completions -/

theorem acknowledged_prefix_answered (s : State) (items : List Item) (results : List CompleteResult)
    (err : Err) : s.acknowledged <+: (s.answered items results err).acknowledged :=
  List.prefix_append _ _

theorem Next.acknowledged (h : Next s l s') : s.acknowledged <+: s'.acknowledged := by
  cases h with
  | loop hstep =>
    cases hstep with
    | answer results err hloop => exact acknowledged_prefix_answered s _ results err
    | renewed results err hloop =>
      rw [renewed_eq]
    | _ => exact List.prefix_refl _
  | closer hstep =>
    cases hstep with
    | answer results err lastErr hcloser => exact acknowledged_prefix_answered s _ results err
    | _ => exact List.prefix_refl _
  | handle hstep => cases hstep <;> exact List.prefix_refl _
  | @reconciled call results err reconciles =>
    rw [renewed_eq]
  | _ => exact List.prefix_refl _

theorem acknowledged_steps {ls : List Label} (h : leaseManager.Steps s ls s') :
    s.acknowledged <+: s'.acknowledged := by
  induction h with
  | nil s => exact List.prefix_refl _
  | cons hstep _ ih => exact (next_inv hstep).acknowledged.trans ih

/-- What is with the coordinator is in hand. -/
theorem mem_hand_of_sending (h : x ∈ s.sending) : x ∈ s.held .hand := by
  unfold State.sending at h
  show x ∈ s.loop.items ++ s.closer.items
  rw [List.mem_append] at h ⊢
  rcases h with h | h
  · left
    split at h
    · next heq => rw [heq]; exact List.mem_append_left _ h
    · cases h
  · right
    split at h
    · next heq => rw [heq]; exact h
    · cases h

/-- An item in hand is not acknowledged: it is in one place only. -/
theorem Conserved.not_acknowledged (hs : Conserved s)
    (h : x ∈ s.held .hand) : x ∉ s.acknowledged := by
  intro hack
  have honce := hs.once x
  have hhand := List.count_pos_iff.mpr h
  have hacked : 0 < (s.held .acknowledged).count x := List.count_pos_iff.mpr hack
  unfold State.occurrences at honce
  split at honce <;> omega

/-! ## Active leases -/

/-- The step is a call of `Track` for the lease. -/
def Tracks (l : Label) (leaseID : UUID) : Prop :=
  ∃ lease : LeaseIdentity, l = .track lease ∧ lease.leaseID = leaseID

theorem lookup_remove {removed : UUID} (h : ((s.remove removed).active.lookup leaseID).isSome) :
    (s.active.lookup leaseID).isSome := by
  have heq : (s.remove removed).active.lookup leaseID = _ :=
    Table.lookup_erase_eq removed leaseID s.active
  rw [heq] at h
  split at h
  · cases h
  · exact h

theorem lookup_renewOne {r : RenewResult} (h : ((s.renewOne r).active.lookup leaseID).isSome) :
    (s.active.lookup leaseID).isSome := by
  unfold State.renewOne at h
  split at h
  · split at h <;> exact lookup_remove h
  split at h
  · split at h
    · next hactive =>
      rw [Table.lookup_insert_eq] at h
      -- the entry that is replaced was there
      split at h
      · next heq => rw [heq]; exact hactive
      · exact h
    · exact h
  · exact h

theorem lookup_foldl_renewOne {results : List RenewResult}
    (h : ((results.foldl State.renewOne s).active.lookup leaseID).isSome) :
    (s.active.lookup leaseID).isSome := by
  induction results generalizing s with
  | nil => exact h
  | cons r results ih => exact lookup_renewOne (ih h)

theorem lookup_renewed {results : List RenewResult} {err : Err}
    (h : ((s.renewed results err).active.lookup leaseID).isSome) :
    (s.active.lookup leaseID).isSome := by
  unfold State.renewed at h
  split at h
  · exact lookup_foldl_renewOne h
  · have hbefore := lookup_foldl_renewOne h
    exact hbefore

theorem Next.active (h : Next s l s') (hactive : (s'.active.lookup leaseID).isSome) :
    (s.active.lookup leaseID).isSome ∨ Tracks l leaseID := by
  cases h with
  | track lease =>
    rw [Table.lookup_insert_eq] at hactive
    split at hactive
    · next heq => exact .inr ⟨lease, rfl, heq.symm⟩
    · exact .inl hactive
  | handle hstep =>
    left
    cases hstep with
    | remove _ => exact lookup_remove hactive
    | _ => exact hactive
  | loop hstep =>
    left
    cases hstep with
    | @answer batch origin results err hloop =>
      rw [answered_eq] at hactive
      exact hactive
    | renewed results err _ => exact lookup_renewed hactive
    | remove _ | dropOne _ => exact lookup_remove hactive
    | _ => exact hactive
  | closer hstep =>
    left
    cases hstep with
    | @answer items backoff results err lastErr hcloser =>
      rw [answered_eq] at hactive
      exact hactive
    | remove _ | dropOne _ => exact lookup_remove hactive
    | _ => exact hactive
  | reconciled _ => exact .inl (lookup_renewed hactive)
  | _ => exact .inl hactive

theorem active_steps {ls : List Label} (h : leaseManager.Steps s ls s')
    (hactive : (s'.active.lookup leaseID).isSome) :
    (s.active.lookup leaseID).isSome ∨ ∃ l ∈ ls, Tracks l leaseID := by
  induction h with
  | nil s => exact .inl hactive
  | cons hstep _ ih =>
    rcases ih hactive with hmid | ⟨l, hl, htracks⟩
    · rcases (next_inv hstep).active hmid with hbefore | htracks
      · exact .inl hbefore
      · exact .inr ⟨_, List.mem_cons_self, htracks⟩
    · exact .inr ⟨l, List.mem_cons_of_mem _ hl, htracks⟩

/-! ## The account of a run -/

/-- What holds of the completions and leases of a manager at every moment of a run. -/
structure Accounted (s : State) : Prop where
  /-- an accepted completion is in exactly one place, once -/
  placed : ∀ x, s.Accepted x →
    ∃ place, (s.held place).count x = 1 ∧ ∀ other, other ≠ place → x ∉ s.held other
  /-- the counter of dropped completions counts those, besides the refused ones -/
  counted : s.droppedCompletions = ((s.held .dropped).length + s.refused) % 2 ^ 64
  /-- once acknowledged, a completion is never sent again -/
  settled : ∀ x ∈ s.held .acknowledged, ∀ ls s', leaseManager.Steps s ls s' → x ∉ s'.sending
  /-- the retry list is bounded -/
  bounded : (s.held .pending).length ≤ s.backlogCap
  /-- a batch that was taken from the retry list goes back into it -/
  requeued : ∀ entry now backoff due s', s.loop = .queueing entry (.retry now backoff due) →
    leaseManager.step s (.loop .queue) s' → s'.pending = s.pending ++ [entry]
  /-- a lease that is not active becomes active by `Track` only -/
  untracked : ∀ leaseID ls s', leaseManager.Steps s ls s' → s.active.lookup leaseID = none →
    (s'.active.lookup leaseID).isSome → ∃ l ∈ ls, Tracks l leaseID

theorem count_add_count_le (s : State) (x : Item) {place other : Place} (h : other ≠ place) :
    (s.held place).count x + (s.held other).count x ≤ s.occurrences x := by
  unfold State.occurrences
  cases place <;> cases other <;> first | exact absurd rfl h | omega

theorem exists_count_pos (h : 0 < s.occurrences x) : ∃ place, 0 < (s.held place).count x := by
  by_contra hnone
  have hzero : ∀ place, (s.held place).count x = 0 :=
    fun place => Nat.eq_zero_of_not_pos fun hpos => hnone ⟨place, hpos⟩
  simp only [State.occurrences, hzero] at h
  omega

theorem Conserved.placed (hs : Conserved s) (hx : s.Accepted x) :
    ∃ place, (s.held place).count x = 1 ∧ ∀ other, other ≠ place → x ∉ s.held other := by
  have honce : s.occurrences x = 1 := by rw [hs.once x, if_pos hx]
  obtain ⟨place, hpos⟩ := exists_count_pos (by omega : 0 < s.occurrences x)
  -- any second place would make it two
  have hothers : ∀ other, other ≠ place → (s.held other).count x = 0 := by
    intro other hne
    have hle := count_add_count_le s x hne
    omega
  refine ⟨place, ?_, fun other hne => List.count_eq_zero.mp (hothers other hne)⟩
  have hle : (s.held place).count x ≤ s.occurrences x := by
    unfold State.occurrences
    cases place <;> omega
  omega

theorem Conserved.requeue (hs : Conserved s) {entry : Pending} {now backoff : Int}
    {due : List Pending} (hloop : s.loop = .queueing entry (.retry now backoff due))
    (hstep : leaseManager.step s (.loop .queue) s') : s'.pending = s.pending ++ [entry] := by
  have hroom : (pendingItems s.pending).length + entry.items.length ≤ s.backlogCap := by
    have hbacklog := hs.backlog
    rw [hloop] at hbacklog
    simp only [Loop.retried, Origin.retried, List.length_append] at hbacklog
    omega
  have hnext : loopNext s .queue = some s' := hstep
  simp only [loopNext, hloop, hroom, if_true, Option.some.injEq] at hnext
  rw [← hnext]

theorem completions_conserved {s : State} (hs : leaseManager.Reachable s) : Accounted s where
  placed := fun _ hx => (conserved_of_reachable hs).placed hx
  counted := (conserved_of_reachable hs).counted
  settled := by
    intro x hx ls s' hsteps hsending
    have hafter : x ∈ s'.acknowledged := (acknowledged_steps hsteps).subset hx
    have hconserved := conserved_of_reachable (hs.steps leaseManager hsteps)
    exact hconserved.not_acknowledged (mem_hand_of_sending hsending) hafter
  bounded := Nat.le_trans (Nat.le_add_right _ _) (conserved_of_reachable hs).backlog
  requeued := fun _ _ _ _ _ hloop hstep => (conserved_of_reachable hs).requeue hloop hstep
  untracked := by
    intro leaseID ls s' hsteps hnone hactive
    rcases active_steps hsteps hactive with hbefore | htracked
    · rw [hnone] at hbefore
      cases hbefore
    · exact htracked

/-! A run in which the coordinator answers a batch of two with an error and
    the result of the first: that one is acknowledged, the other one waits in
    the retry list, is taken out when it is due, and is put back after another
    error. -/

def demoLease (leaseID : UUID) : LeaseIdentity :=
  { leaseID := leaseID, clientID := 1, poolID := 1, requestID := "", replicaID := 1,
    expiresAt := 0, ttl := 60 * second }

def twoCompletions : List Label :=
  [.track (demoLease 1), .track (demoLease 2),
    .handle 0 (.claim none), .handle 0 .offer, .handle 1 (.claim none), .handle 1 .offer]

def partialBatch : List Label :=
  twoCompletions ++ [.loop .receive, .loop .batch, .loop .batch,
    .loop (.answer [{ leaseID := 1, result := some .released }] .deadlineExceeded),
    .loop .remove, .loop (.settle 0), .loop .queue,
    .loop (.retry (20 * millisecond)), .loop .next,
    .loop (.answer [] .deadlineExceeded), .loop (.settle 0), .loop .queue]

def partialBatchState : State :=
  (partialBatch.foldlM next (newLeaseManager {})).getD (newLeaseManager {})

theorem completions_conserved_partialBatch :
    leaseManager.Reachable partialBatchState ∧
      partialBatchState.Accepted ⟨0, ⟨demoLease 1, none⟩⟩ ∧
      partialBatchState.Accepted ⟨1, ⟨demoLease 2, none⟩⟩ ∧
      partialBatchState.held .acknowledged = [⟨0, ⟨demoLease 1, none⟩⟩] ∧
      partialBatchState.held .pending = [⟨1, ⟨demoLease 2, none⟩⟩] ∧
      Accounted partialBatchState := by
  have hrun : leaseManager.Reachable partialBatchState :=
    leaseManager.reachable_of_isSome (fun _ _ _ h => h) ⟨{}, rfl⟩ partialBatch (by decide +kernel)
  exact ⟨hrun, by decide +kernel, by decide +kernel, by decide +kernel, by decide +kernel,
    completions_conserved hrun⟩

end Coordination.LeaseManager
