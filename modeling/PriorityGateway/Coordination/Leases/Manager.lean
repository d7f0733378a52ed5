import PriorityGateway.Framework.System
import PriorityGateway.Framework.Table
import PriorityGateway.Coordination.Errors

/-! # Lease Manager

    The manager keeps the leases of a replica alive and hands their
    completions to the coordinator in the background.  Four kinds of threads
    work on it:

    * the holders of lease handles, who call `Complete` once;
    * the run loop, which collects completions into batches, delivers them,
      retries what was not acknowledged, and renews the active leases;
    * callers of `Reconcile`, who renew from outside the loop;
    * the one caller of `CloseContext` that `sync.Once` lets through.  The
      others wait for it and return what it returned.

    A step of the model is what a thread does between two points at which
    another thread can see the difference: one critical section of `mu`, one
    operation on the channel, one call of the coordinator.  The coordinator
    is not modelled here: its answers are chosen by the label of the step,
    without any restriction.

    Every completion that was accepted into the channel is followed to where
    it ends.  The lists `acknowledged` and `lost` are not in the source; they
    say what has become of the completions that have left the manager. -/

namespace Coordination.LeaseManager

/-- A completion on its way, with the number of the handle it came from. -/
structure Item where
  handle : Nat
  completion : LeaseCompletion
  deriving DecidableEq, Repr

def Item.leaseID (x : Item) : UUID := x.completion.lease.leaseID

/-- `pendingCompletion`: a batch that waits for its next delivery. -/
structure Pending where
  items : List Item
  next : Int
  backoff : Int
  deriving DecidableEq, Repr

/-- The items of a list of waiting batches. -/
def pendingItems (pending : List Pending) : List Item := pending.flatMap Pending.items

def millisecond : Int := 1000000

/-! ## What an answer settles -/

/-- The comparison loop of `remainingCompletions`: every result is about the
    item in its place. -/
def sameLeases : List Item → List CompleteResult → Bool
  | item :: items, result :: results =>
    result.leaseID == item.leaseID && sameLeases items results
  | _, [] => true
  | [], _ :: _ => false

/-- `completed` in `remainingCompletions`: how many items leave the batch. -/
def completed (items : List Item) (results : List CompleteResult) (err : Err) : Nat :=
  if err = .nil then items.length
  else if items.length < results.length then 0
  else if sameLeases items results then results.length
  else 0

/-- What the coordinator has acknowledged: the whole batch without an error,
    and with one the items its results name, if they are the batch's first. -/
def acknowledgedBy (items : List Item) (results : List CompleteResult) (err : Err) : List Item :=
  if err = .nil then items
  else if results.map CompleteResult.leaseID <+: items.map Item.leaseID then
    items.take results.length
  else []

theorem sameLeases_iff {items : List Item} {results : List CompleteResult}
    (hlen : results.length ≤ items.length) :
    sameLeases items results = true ↔
      results.map CompleteResult.leaseID <+: items.map Item.leaseID := by
  induction items generalizing results with
  | nil =>
    have hnil : results = [] := List.length_eq_zero_iff.mp (Nat.le_zero.mp hlen)
    simp [hnil, sameLeases]
  | cons item items ih =>
    cases results with
    | nil => simp [sameLeases]
    | cons result results =>
      have hlen' : results.length ≤ items.length := Nat.le_of_succ_le_succ hlen
      simp only [sameLeases, Bool.and_eq_true, beq_iff_eq, ih hlen', List.map_cons,
        List.cons_prefix_cons]

/-- The code removes from the batch exactly what was acknowledged. -/
theorem take_completed (items : List Item) (results : List CompleteResult) (err : Err) :
    items.take (completed items results err) = acknowledgedBy items results err := by
  unfold completed acknowledgedBy
  by_cases herr : err = .nil
  · simp [herr]
  simp only [herr, if_false]
  by_cases hlen : items.length < results.length
  · have hnot : ¬ results.map CompleteResult.leaseID <+: items.map Item.leaseID := by
      intro hpre
      have := hpre.length_le
      simp only [List.length_map] at this
      omega
    simp [hlen, hnot]
  · simp only [hlen, if_false, sameLeases_iff (Nat.le_of_not_lt hlen)]
    split
    · rfl
    · rfl

/-! ## State -/

/-- Where a batch in the hands of the run loop came from, and so how the loop
    goes on after it. -/
inductive Origin where
  /-- collected from the channel by `complete` -/
  | fresh
  /-- one of the due batches of `retryPending(now)`; the others follow -/
  | retry (now : Int) (backoff : Int) (due : List Pending)
  deriving DecidableEq, Repr

inductive Loop where
  | selecting
  | batching (batch : List Item)
  | delivering (batch : List Item) (origin : Origin)
  /-- inside `remainingCompletions`: `done` are still to be removed -/
  | removing (done remaining : List Item) (origin : Origin)
  | queueing (entry : Pending) (origin : Origin)
  /-- the retry list has no room: `left` are still to be removed -/
  | dropping (left items : List Item) (origin : Origin)
  | retrying (now : Int) (due : List Pending)
  | renewing (batch : List LeaseIdentity)
  | exited
  deriving DecidableEq, Repr

inductive Closer where
  | absent
  /-- the context is canceled; waiting for the run loop to end -/
  | waiting
  | draining (items : List Item)
  /-- the channel was found empty -/
  | merging (items : List Item)
  | delivering (items : List Item) (backoff : Int)
  | removing (done remaining : List Item) (backoff : Int) (lastErr : Err)
  /-- waiting for the timer or the end of the caller's context -/
  | pausing (items : List Item) (backoff : Int) (lastErr : Err)
  | dropping (left items : List Item) (lastErr : Err)
  | returned (closeErr : Err)
  deriving DecidableEq, Repr

/-- A call of `Complete` on a handle. -/
inductive Call where
  /-- nobody has called `Complete` yet -/
  | idle
  /-- the compare-and-swap succeeded -/
  | offering (usage : Option TokenUsage)
  /-- the channel was full -/
  | removing (usage : Option TokenUsage)
  | counting (usage : Option TokenUsage)
  | returned (usage : Option TokenUsage) (ok : Bool)
  deriving DecidableEq, Repr

def Call.accepted : Call → Bool
  | .returned _ ok => ok
  | _ => false

/-- `Complete` has returned false for a full channel. -/
def Call.refused : Call → Bool
  | .returned _ ok => !ok
  | _ => false

structure LeaseHandle where
  lease : LeaseIdentity
  call : Call
  deriving DecidableEq, Repr

/-- The observer: none, one that does not count drops, or one that does. -/
inductive Observer where
  | absent
  | plain
  | countsDrops
  deriving DecidableEq, Repr

/-- What the observer has been told, by kind of event. -/
structure Observed where
  renewFailures : Nat := 0
  leasesLost : Nat := 0
  completionsDropped : Nat := 0
  deriving DecidableEq, Repr

structure State where
  backlogCap : Nat
  observer : Observer
  observed : Observed
  /-- the manager's own context has ended -/
  canceled : Bool
  completions : List Item
  pending : List Pending
  active : Table UUID LeaseIdentity
  /-- a 64-bit counter -/
  dropped : Nat
  handles : List LeaseHandle
  loop : Loop
  /-- calls of `Reconcile` that wait for their renewal -/
  reconciles : List (List LeaseIdentity)
  closer : Closer
  /-- the error of the context given to `CloseContext` -/
  closeContext : Err
  acknowledged : List Item
  lost : List Item

structure LeaseManagerOptions where
  completionBacklog : Int := 0
  observer : Observer := .absent

def newLeaseManager (o : LeaseManagerOptions) : State where
  backlogCap := if o.completionBacklog ≤ 0 then 4096 else o.completionBacklog.toNat
  observer := o.observer
  observed := {}
  canceled := false
  completions := []
  pending := []
  active := ∅
  dropped := 0
  handles := []
  loop := .selecting
  reconciles := []
  closer := .absent
  closeContext := .nil
  acknowledged := []
  lost := []

def State.droppedCompletions (s : State) : Nat := s.dropped

/-! ## Parts of steps -/

namespace State

def setCall (s : State) (h : Nat) (lease : LeaseIdentity) (call : Call) : State :=
  { s with handles := s.handles.set h ⟨lease, call⟩ }

def remove (s : State) (leaseID : UUID) : State := { s with active := s.active.erase leaseID }

def observeDropped (s : State) (count : Nat) : State :=
  { s with
    dropped := (s.dropped + count) % 2 ^ 64
    observed :=
      if s.observer = .countsDrops then
        { s.observed with completionsDropped := s.observed.completionsDropped + count }
      else s.observed }

/-- The results `observeLost` reports. -/
def isLost (r : CompleteResult) : Bool :=
  decide (r.result = some .leaseLost) || decide (r.reason = some .leaseLost) ||
    (decide (r.result = some .alreadyCompleted) && decide (r.originalResult = some .leaseLost))

def observeLost (s : State) (results : List CompleteResult) : State :=
  if s.observer = .absent then s
  else { s with observed :=
    { s.observed with leasesLost := s.observed.leasesLost + (results.filter isLost).length } }

/-- An answer to `items` arrives: what `remainingCompletions` reports of it,
    and what it acknowledges. -/
def answered (s : State) (items : List Item) (results : List CompleteResult) (err : Err) : State :=
  let reported :=
    s.observeLost (if err = .nil then results else results.take (completed items results err))
  { reported with acknowledged := s.acknowledged ++ acknowledgedBy items results err }

/-- The leases a renewal is about. -/
def renewalBatch (s : State) : List LeaseIdentity := s.active.entries.map Sigma.snd

/-- What `renewContext` does with one result. -/
def renewOne (s : State) (r : RenewResult) : State :=
  if r.reason = some .leaseLost then
    let removed := s.remove r.lease.leaseID
    if s.observer = .absent then removed
    else { removed with observed := { s.observed with leasesLost := s.observed.leasesLost + 1 } }
  else if r.lease.leaseID ≠ 0 then
    -- a completion may have removed the lease while the renewal was in flight
    if (s.active.lookup r.lease.leaseID).isSome then
      { s with active := s.active.insert r.lease.leaseID r.lease }
    else s
  else s

def renewed (s : State) (results : List RenewResult) (err : Err) : State :=
  let reported :=
    if err = .nil ∨ s.observer = .absent then s
    else { s with observed := { s.observed with renewFailures := s.observed.renewFailures + 1 } }
  results.foldl renewOne reported

end State

/-! ### Due batches

    `retryPending` splits the retry list in one pass: due batches are copied
    out, and the others are moved to the front of the array they are in. -/

/-- The pass, `fuel` entries before its end: `i` is the entry it reads, `k` the
    place of the next kept one in the same array. -/
def splitLoop (now : Int) : Nat → List Pending → Nat → Nat → List Pending →
    List Pending × List Pending
  | 0, array, _, k, due => (due, array.take k)
  | fuel + 1, array, i, k, due =>
    match array[i]? with
    | none => (due, array.take k)
    | some entry =>
      if entry.next ≤ now then splitLoop now fuel array (i + 1) k (due ++ [entry])
      else splitLoop now fuel (array.set k entry) (i + 1) (k + 1) due

/-- The due batches and the kept ones. -/
def splitDue (now : Int) (pending : List Pending) : List Pending × List Pending :=
  splitLoop now pending.length pending 0 0 []

/-- Where a batch goes after the loop is done with it. -/
def Origin.resume : Origin → Loop
  | .fresh => .selecting
  | .retry now _ due => .retrying now due

/-- The entry that `complete` or `retryPending` puts back into the retry list. -/
def Origin.entry (clock : Int) (remaining : List Item) : Origin → Pending
  | .fresh => ⟨remaining, clock + 10 * millisecond, 10 * millisecond⟩
  | .retry now backoff _ =>
    let doubled := if backoff * 2 > 5 * second then 5 * second else backoff * 2
    ⟨remaining, now + doubled, doubled⟩

/-! ## Steps -/

/-- The steps of a call of `Complete`.  A call that loses the compare-and-swap
    returns false without any effect and is not a step. -/
inductive HandleAct where
  | claim (usage : Option TokenUsage)
  | offer
  | remove
  | count
  deriving DecidableEq, Repr

/-- The steps of the run loop. -/
inductive LoopAct where
  /-- the four cases of the `select` of `run` -/
  | done
  | tick
  | receive
  | retry (now : Int)
  | batch
  | answer (results : List CompleteResult) (err : Err)
  | remove
  | settle (clock : Int)
  | queue
  | drop
  | next
  | renewed (results : List RenewResult) (err : Err)
  deriving DecidableEq, Repr

/-- The steps of `CloseContext`. -/
inductive CloserAct where
  | close
  | joined
  | drain
  | merge
  | answer (results : List CompleteResult) (err : Err)
  | remove
  | settle
  | timer
  | giveUp
  | drop
  deriving DecidableEq, Repr

inductive Label where
  | track (lease : LeaseIdentity)
  | handle (h : Nat) (act : HandleAct)
  | loop (act : LoopAct)
  | reconcile
  | reconciled (call : Nat) (results : List RenewResult) (err : Err)
  | closer (act : CloserAct)
  /-- the context the manager was created with ends -/
  | cancelParent
  /-- the context given to `CloseContext` ends -/
  | endCloseContext (timeout : Bool)
  deriving DecidableEq, Repr

def handleNext (s : State) (h : Nat) (act : HandleAct) : Option State :=
  match s.handles[h]?, act with
  | some ⟨lease, .idle⟩, .claim usage => some (s.setCall h lease (.offering usage))
  | some ⟨lease, .offering usage⟩, .offer =>
    if s.completions.length < s.backlogCap then
      some { s.setCall h lease (.returned usage true) with
        completions := s.completions ++ [⟨h, ⟨lease, usage⟩⟩] }
    else some (s.setCall h lease (.removing usage))
  | some ⟨lease, .removing usage⟩, .remove =>
    some ((s.setCall h lease (.counting usage)).remove lease.leaseID)
  | some ⟨lease, .counting usage⟩, .count =>
    some ((s.setCall h lease (.returned usage false)).observeDropped 1)
  | _, _ => none

def loopNext (s : State) (act : LoopAct) : Option State :=
  match s.loop, act with
  | .selecting, .done => if s.canceled then some { s with loop := .exited } else none
  | .selecting, .tick =>
    some (if s.renewalBatch = [] then s else { s with loop := .renewing s.renewalBatch })
  | .renewing _, .renewed results err => some { s.renewed results err with loop := .selecting }
  | .selecting, .receive =>
    match s.completions with
    | [] => none
    | item :: rest => some { s with completions := rest, loop := .batching [item] }
  | .batching batch, .batch =>
    if batch.length < 64 then
      match s.completions with
      | [] => some { s with loop := .delivering batch .fresh }
      | item :: rest => some { s with completions := rest, loop := .batching (batch ++ [item]) }
    else some { s with loop := .delivering batch .fresh }
  | .delivering batch origin, .answer results err =>
    let n := completed batch results err
    some { s.answered batch results err with
      loop := .removing (batch.take n) (batch.drop n) origin }
  | .removing (item :: left) remaining origin, .remove =>
    some { s.remove item.leaseID with loop := .removing left remaining origin }
  | .removing [] remaining origin, .settle clock =>
    some { s with loop :=
      if remaining = [] then origin.resume else .queueing (origin.entry clock remaining) origin }
  | .queueing entry origin, .queue =>
    if (pendingItems s.pending).length + entry.items.length ≤ s.backlogCap then
      some { s with pending := s.pending ++ [entry], loop := origin.resume }
    else some { s with loop := .dropping entry.items entry.items origin }
  | .dropping (item :: left) items origin, .drop =>
    some { s.remove item.leaseID with loop := .dropping left items origin }
  | .dropping [] items origin, .drop =>
    some { s.observeDropped items.length with lost := s.lost ++ items, loop := origin.resume }
  | .selecting, .retry now =>
    let split := splitDue now s.pending
    some { s with pending := split.2, loop := .retrying now split.1 }
  | .retrying now (entry :: due), .next =>
    some { s with loop := .delivering entry.items (.retry now entry.backoff due) }
  | .retrying _ [], .next => some { s with loop := .selecting }
  | _, _ => none

def closerNext (s : State) (act : CloserAct) : Option State :=
  match s.closer, act with
  | .absent, .close => some { s with canceled := true, closer := .waiting }
  | .waiting, .joined => if s.loop = .exited then some { s with closer := .draining [] } else none
  | .draining items, .drain =>
    match s.completions with
    | [] => some { s with closer := .merging items }
    | item :: rest => some { s with completions := rest, closer := .draining (items ++ [item]) }
  | .merging items, .merge =>
    let merged := items ++ pendingItems s.pending
    some { s with
      pending := []
      closer := if merged = [] then .returned .nil else .delivering merged (10 * millisecond) }
  | .delivering items backoff, .answer results err =>
    let n := completed items results err
    let lastErr := if err = .nil then s.closeContext else err
    some { s.answered items results err with
      closer := .removing (items.take n) (items.drop n) backoff lastErr }
  | .removing (item :: left) remaining backoff lastErr, .remove =>
    some { s.remove item.leaseID with closer := .removing left remaining backoff lastErr }
  | .removing [] remaining backoff lastErr, .settle =>
    some { s with closer :=
      if remaining = [] then .returned .nil else .pausing remaining backoff lastErr }
  | .pausing items backoff _, .timer =>
    let longer := if backoff < 200 * millisecond then backoff * 2 else backoff
    some { s with closer := .delivering items longer }
  | .pausing items _ lastErr, .giveUp =>
    if s.closeContext ≠ .nil then some { s with closer := .dropping items items lastErr } else none
  | .dropping (item :: left) items lastErr, .drop =>
    some { s.remove item.leaseID with closer := .dropping left items lastErr }
  | .dropping [] items lastErr, .drop =>
    some { s.observeDropped items.length with
      lost := s.lost ++ items
      closer := .returned (.join (.text "drain lease completions") lastErr) }
  | _, _ => none

def next (s : State) : Label → Option State
  | .track lease =>
    some { s with
      active := s.active.insert lease.leaseID lease
      handles := s.handles ++ [⟨lease, .idle⟩] }
  | .handle h act => handleNext s h act
  | .loop act => loopNext s act
  | .reconcile =>
    some (if s.renewalBatch = [] then s
      else { s with reconciles := s.reconciles ++ [s.renewalBatch] })
  | .reconciled call results err =>
    if call < s.reconciles.length then
      some { s.renewed results err with reconciles := s.reconciles.eraseIdx call }
    else none
  | .closer act => closerNext s act
  | .cancelParent => some { s with canceled := true }
  | .endCloseContext timeout =>
    some { s with closeContext :=
      if s.closeContext = .nil then (if timeout then .deadlineExceeded else .canceled)
      else s.closeContext }

/-- The manager from its creation, with any options. -/
def leaseManager : System State Label where
  init := fun s => ∃ o, s = newLeaseManager o
  step := fun s l s' => next s l = some s'

/-! ## Places -/

/-- Where an accepted completion can be. -/
inductive Place where
  | channel
  | hand
  | pending
  | acknowledged
  | dropped
  deriving DecidableEq, Repr

def Origin.items : Origin → List Item
  | .fresh => []
  | .retry _ _ due => pendingItems due

/-- The items in the hands of the run loop. -/
def Loop.items : Loop → List Item
  | .batching batch => batch
  | .delivering batch origin => batch ++ origin.items
  | .removing _ remaining origin => remaining ++ origin.items
  | .queueing entry origin => entry.items ++ origin.items
  | .dropping _ items origin => items ++ origin.items
  | .retrying _ due => pendingItems due
  | .selecting | .renewing _ | .exited => []

section
variable (batch done : List Item) (origin : Origin)

@[simp] theorem Loop.items_selecting : Loop.selecting.items = [] := rfl

@[simp] theorem Loop.items_batching : (Loop.batching batch).items = batch := rfl

@[simp] theorem Loop.items_delivering :
    (Loop.delivering batch origin).items = batch ++ origin.items := rfl

@[simp] theorem Loop.items_removing :
    (Loop.removing done batch origin).items = batch ++ origin.items := rfl

@[simp] theorem Loop.items_queueing (entry : Pending) :
    (Loop.queueing entry origin).items = entry.items ++ origin.items := rfl

@[simp] theorem Loop.items_dropping :
    (Loop.dropping done batch origin).items = batch ++ origin.items := rfl

@[simp] theorem Loop.items_retrying (now : Int) (due : List Pending) :
    (Loop.retrying now due).items = pendingItems due := rfl

@[simp] theorem Loop.items_renewing (leases : List LeaseIdentity) :
    (Loop.renewing leases).items = [] := rfl

@[simp] theorem Loop.items_exited : Loop.exited.items = [] := rfl

@[simp] theorem Origin.items_fresh : Origin.fresh.items = [] := rfl

@[simp] theorem Origin.items_retry (now backoff : Int) (due : List Pending) :
    (Origin.retry now backoff due).items = pendingItems due := rfl

end

/-- The items in the hands of the caller of `CloseContext`. -/
def Closer.items : Closer → List Item
  | .draining items | .merging items | .delivering items _ | .pausing items _ _
  | .dropping _ items _ => items
  | .removing _ remaining _ _ => remaining
  | .absent | .waiting | .returned _ => []

namespace State

/-- What is at a place. -/
def held (s : State) : Place → List Item
  | .channel => s.completions
  | .hand => s.loop.items ++ s.closer.items
  | .pending => pendingItems s.pending
  | .acknowledged => s.acknowledged
  | .dropped => s.lost

/-- How often an item occurs, over all places. -/
def occurrences (s : State) (x : Item) : Nat :=
  (s.held .channel).count x + (s.held .hand).count x + (s.held .pending).count x +
    (s.held .acknowledged).count x + (s.held .dropped).count x

/-- `Complete` has returned true for the item. -/
def Accepted (s : State) (x : Item) : Prop :=
  s.handles[x.handle]? = some ⟨x.completion.lease, .returned x.completion.usage true⟩

instance (s : State) (x : Item) : Decidable (s.Accepted x) :=
  inferInstanceAs (Decidable (_ = _))

/-- The batch that is with the coordinator. -/
def sending (s : State) : List Item :=
  (match s.loop with | .delivering batch _ => batch | _ => []) ++
    (match s.closer with | .delivering items _ => items | _ => [])

/-- How many calls of `Complete` were refused for a full channel. -/
def refused (s : State) : Nat :=
  s.handles.countP (fun h => h.call.refused)

end State

/-! ## Inversion

    What a step of each thread finds and leaves. -/

inductive HandleNext (s : State) (h : Nat) : State → Prop where
  | claim {lease : LeaseIdentity} (usage : Option TokenUsage)
      (hcall : s.handles[h]? = some ⟨lease, .idle⟩) :
      HandleNext s h (s.setCall h lease (.offering usage))
  | accept {lease : LeaseIdentity} {usage : Option TokenUsage}
      (hcall : s.handles[h]? = some ⟨lease, .offering usage⟩)
      (hroom : s.completions.length < s.backlogCap) :
      HandleNext s h { s.setCall h lease (.returned usage true) with
        completions := s.completions ++ [⟨h, ⟨lease, usage⟩⟩] }
  | full {lease : LeaseIdentity} {usage : Option TokenUsage}
      (hcall : s.handles[h]? = some ⟨lease, .offering usage⟩) :
      HandleNext s h (s.setCall h lease (.removing usage))
  | remove {lease : LeaseIdentity} {usage : Option TokenUsage}
      (hcall : s.handles[h]? = some ⟨lease, .removing usage⟩) :
      HandleNext s h ((s.setCall h lease (.counting usage)).remove lease.leaseID)
  | count {lease : LeaseIdentity} {usage : Option TokenUsage}
      (hcall : s.handles[h]? = some ⟨lease, .counting usage⟩) :
      HandleNext s h ((s.setCall h lease (.returned usage false)).observeDropped 1)

variable {s s' : State}

theorem handleNext_inv {h : Nat} {act : HandleAct}
    (hs : handleNext s h act = some s') : HandleNext s h s' := by
  unfold handleNext at hs
  split at hs
  · cases hs; exact .claim _ ‹_›
  · split at hs
    · cases hs; exact .accept ‹_› ‹_›
    · cases hs; exact .full ‹_›
  · cases hs; exact .remove ‹_›
  · cases hs; exact .count ‹_›
  · cases hs

inductive LoopNext (s : State) : State → Prop where
  | exit (hloop : s.loop = .selecting) : LoopNext s { s with loop := .exited }
  | rest (hloop : s.loop = .selecting) : LoopNext s s
  | renew (hloop : s.loop = .selecting) :
      LoopNext s { s with loop := .renewing s.renewalBatch }
  | renewed {batch : List LeaseIdentity} (results : List RenewResult) (err : Err)
      (hloop : s.loop = .renewing batch) :
      LoopNext s { s.renewed results err with loop := .selecting }
  | receive {item : Item} {rest : List Item} (hloop : s.loop = .selecting)
      (hchan : s.completions = item :: rest) :
      LoopNext s { s with completions := rest, loop := .batching [item] }
  | batch {item : Item} {batch rest : List Item} (hloop : s.loop = .batching batch)
      (hchan : s.completions = item :: rest) :
      LoopNext s { s with completions := rest, loop := .batching (batch ++ [item]) }
  | deliver {batch : List Item} (hloop : s.loop = .batching batch) :
      LoopNext s { s with loop := .delivering batch .fresh }
  | answer {batch : List Item} {origin : Origin} (results : List CompleteResult) (err : Err)
      (hloop : s.loop = .delivering batch origin) :
      LoopNext s { s.answered batch results err with
        loop := .removing (batch.take (completed batch results err))
          (batch.drop (completed batch results err)) origin }
  | remove {item : Item} {left remaining : List Item} {origin : Origin}
      (hloop : s.loop = .removing (item :: left) remaining origin) :
      LoopNext s { s.remove item.leaseID with loop := .removing left remaining origin }
  | settled {origin : Origin} (hloop : s.loop = .removing [] [] origin) :
      LoopNext s { s with loop := origin.resume }
  | unsettled {remaining : List Item} {origin : Origin} (clock : Int)
      (hloop : s.loop = .removing [] remaining origin) :
      LoopNext s { s with loop := .queueing (origin.entry clock remaining) origin }
  | queue {entry : Pending} {origin : Origin} (hloop : s.loop = .queueing entry origin)
      (hroom : (pendingItems s.pending).length + entry.items.length ≤ s.backlogCap) :
      LoopNext s { s with pending := s.pending ++ [entry], loop := origin.resume }
  | overflow {entry : Pending} {origin : Origin} (hloop : s.loop = .queueing entry origin)
      (hfull : s.backlogCap < (pendingItems s.pending).length + entry.items.length) :
      LoopNext s { s with loop := .dropping entry.items entry.items origin }
  | dropOne {item : Item} {left items : List Item} {origin : Origin}
      (hloop : s.loop = .dropping (item :: left) items origin) :
      LoopNext s { s.remove item.leaseID with loop := .dropping left items origin }
  | dropped {items : List Item} {origin : Origin} (hloop : s.loop = .dropping [] items origin) :
      LoopNext s { s.observeDropped items.length with
        lost := s.lost ++ items, loop := origin.resume }
  | retry (now : Int) (hloop : s.loop = .selecting) :
      LoopNext s { s with
        pending := (splitDue now s.pending).2, loop := .retrying now (splitDue now s.pending).1 }
  | retryNext {now : Int} {entry : Pending} {due : List Pending}
      (hloop : s.loop = .retrying now (entry :: due)) :
      LoopNext s { s with loop := .delivering entry.items (.retry now entry.backoff due) }
  | retried {now : Int} (hloop : s.loop = .retrying now []) :
      LoopNext s { s with loop := .selecting }

theorem loopNext_inv {act : LoopAct} (hs : loopNext s act = some s') : LoopNext s s' := by
  unfold loopNext at hs
  split at hs
  · split at hs
    · cases hs; exact .exit ‹_›
    · cases hs
  · split at hs
    · cases hs; exact .rest ‹_›
    · cases hs; exact .renew ‹_›
  · cases hs; exact .renewed _ _ ‹_›
  · split at hs
    · cases hs
    · cases hs; exact .receive ‹_› ‹_›
  · split at hs
    · split at hs
      · cases hs; exact .deliver ‹_›
      · cases hs; exact .batch ‹_› ‹_›
    · cases hs; exact .deliver ‹_›
  · cases hs; exact .answer _ _ ‹_›
  · cases hs; exact .remove ‹_›
  · cases hs
    split
    · next hnil => subst hnil; exact .settled ‹_›
    · exact .unsettled _ ‹_›
  · split at hs
    · cases hs; exact .queue ‹_› ‹_›
    · cases hs; exact .overflow ‹_› (by omega)
  · cases hs; exact .dropOne ‹_›
  · cases hs; exact .dropped ‹_›
  · cases hs; exact .retry _ ‹_›
  · cases hs; exact .retryNext ‹_›
  · cases hs; exact .retried ‹_›
  · cases hs

inductive CloserNext (s : State) : State → Prop where
  | close (hcloser : s.closer = .absent) :
      CloserNext s { s with canceled := true, closer := .waiting }
  | joined (hcloser : s.closer = .waiting) (hloop : s.loop = .exited) :
      CloserNext s { s with closer := .draining [] }
  | drained {items : List Item} (hcloser : s.closer = .draining items)
      (hchan : s.completions = []) : CloserNext s { s with closer := .merging items }
  | drain {item : Item} {items rest : List Item} (hcloser : s.closer = .draining items)
      (hchan : s.completions = item :: rest) :
      CloserNext s { s with completions := rest, closer := .draining (items ++ [item]) }
  | nothing (hcloser : s.closer = .merging []) (hpending : pendingItems s.pending = []) :
      CloserNext s { s with pending := [], closer := .returned .nil }
  | merge {items : List Item} (hcloser : s.closer = .merging items) :
      CloserNext s { s with
        pending := []
        closer := .delivering (items ++ pendingItems s.pending) (10 * millisecond) }
  | answer {items : List Item} {backoff : Int} (results : List CompleteResult) (err lastErr : Err)
      (hcloser : s.closer = .delivering items backoff) :
      CloserNext s { s.answered items results err with
        closer := .removing (items.take (completed items results err))
          (items.drop (completed items results err)) backoff lastErr }
  | remove {item : Item} {left remaining : List Item} {backoff : Int} {lastErr : Err}
      (hcloser : s.closer = .removing (item :: left) remaining backoff lastErr) :
      CloserNext s { s.remove item.leaseID with
        closer := .removing left remaining backoff lastErr }
  | settled {backoff : Int} {lastErr : Err} (hcloser : s.closer = .removing [] [] backoff lastErr) :
      CloserNext s { s with closer := .returned .nil }
  | unsettled {remaining : List Item} {backoff : Int} {lastErr : Err}
      (hcloser : s.closer = .removing [] remaining backoff lastErr) :
      CloserNext s { s with closer := .pausing remaining backoff lastErr }
  | timer {items : List Item} {backoff : Int} {lastErr : Err} (longer : Int)
      (hcloser : s.closer = .pausing items backoff lastErr) :
      CloserNext s { s with closer := .delivering items longer }
  | giveUp {items : List Item} {backoff : Int} {lastErr : Err}
      (hcloser : s.closer = .pausing items backoff lastErr) :
      CloserNext s { s with closer := .dropping items items lastErr }
  | dropOne {item : Item} {left items : List Item} {lastErr : Err}
      (hcloser : s.closer = .dropping (item :: left) items lastErr) :
      CloserNext s { s.remove item.leaseID with closer := .dropping left items lastErr }
  | dropped {items : List Item} {lastErr : Err} (closeErr : Err)
      (hcloser : s.closer = .dropping [] items lastErr) :
      CloserNext s { s.observeDropped items.length with
        lost := s.lost ++ items, closer := .returned closeErr }

theorem closerNext_inv {act : CloserAct} (hs : closerNext s act = some s') : CloserNext s s' := by
  unfold closerNext at hs
  split at hs
  · cases hs; exact .close ‹_›
  · split at hs
    · cases hs; exact .joined ‹_› ‹_›
    · cases hs
  · split at hs
    · cases hs; exact .drained ‹_› ‹_›
    · cases hs; exact .drain ‹_› ‹_›
  · cases hs
    split
    · next hnil =>
      obtain ⟨hitems, hpending⟩ := List.append_eq_nil_iff.mp hnil
      subst hitems
      exact .nothing ‹_› hpending
    · exact .merge ‹_›
  · cases hs; exact .answer _ _ _ ‹_›
  · cases hs; exact .remove ‹_›
  · cases hs
    split
    · next hnil => subst hnil; exact .settled ‹_›
    · exact .unsettled ‹_›
  · cases hs; exact .timer _ ‹_›
  · split at hs
    · cases hs; exact .giveUp ‹_›
    · cases hs
  · cases hs; exact .dropOne ‹_›
  · cases hs; exact .dropped _ ‹_›
  · cases hs

/-- A step of any thread. -/
inductive Next (s : State) : Label → State → Prop where
  | track (lease : LeaseIdentity) :
      Next s (.track lease) { s with
        active := s.active.insert lease.leaseID lease
        handles := s.handles ++ [⟨lease, .idle⟩] }
  | handle {h : Nat} {act : HandleAct} {s' : State} (hstep : HandleNext s h s') :
      Next s (.handle h act) s'
  | loop {act : LoopAct} {s' : State} (hstep : LoopNext s s') : Next s (.loop act) s'
  | closer {act : CloserAct} {s' : State} (hstep : CloserNext s s') : Next s (.closer act) s'
  | reconcile (reconciles : List (List LeaseIdentity)) :
      Next s .reconcile { s with reconciles := reconciles }
  | reconciled {call : Nat} {results : List RenewResult} {err : Err}
      (reconciles : List (List LeaseIdentity)) :
      Next s (.reconciled call results err) { s.renewed results err with reconciles := reconciles }
  | cancelParent : Next s .cancelParent { s with canceled := true }
  | endCloseContext {timeout : Bool} (err : Err) :
      Next s (.endCloseContext timeout) { s with closeContext := err }

theorem next_inv {l : Label} (h : next s l = some s') : Next s l s' := by
  cases l with
  | track lease => cases h; exact .track lease
  | handle i act => exact .handle (handleNext_inv h)
  | loop act => exact .loop (loopNext_inv h)
  | closer act => exact .closer (closerNext_inv h)
  | reconcile =>
    have hs : s' = { s with reconciles :=
        if s.renewalBatch = [] then s.reconciles else s.reconciles ++ [s.renewalBatch] } := by
      simp only [next, Option.some.injEq] at h
      rw [← h]
      split <;> rfl
    rw [hs]
    exact .reconcile _
  | reconciled call results err =>
    obtain ⟨-, hs⟩ := Option.ite_none_right_eq_some.mp h
    cases hs
    exact .reconciled _
  | cancelParent => cases h; exact .cancelParent
  | endCloseContext timeout => cases h; exact .endCloseContext _

end Coordination.LeaseManager
