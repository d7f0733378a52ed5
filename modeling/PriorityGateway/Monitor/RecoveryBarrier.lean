import PriorityGateway.Coordination.Recovery

/-! # Recovery Barrier

    The monitor buffers circuit failures that the coordinator could not take
    and replays them later.  While some are buffered, coordination must not be
    declared ready.

    Three locks meet here: the monitor's mutex `mu`, held over the
    notification of the `RecoveryManager` and the append; the replay gate
    `replayDone`, a channel that the running replay owns; and the recovery
    mutex.  The system is the product of the recovery system with the tasks of
    the monitor, where the `ReplayFailures` step of a recovery runs
    `ReplayCircuitFailures` and a buffered failure calls `MarkDegraded`.

    `recovery_barrier` says that whenever the manager is ready, the backlog is
    empty and no replay holds an undelivered failure.  The counter of the
    manager has 64 bits, so this needs that fewer than 2^64 failures are
    reported during one recovery; `wrapped_counter_breaks_barrier` has a run
    with so many.

    Metrics of dropped events are left out, and so is what else the monitor
    does under `mu`. -/

namespace Monitor.RecoveryBarrier

open Coordination
open Recovery (RecoveryStep goto_phase_self counterRange RecoveryManager Sound Phase)

/-! ## The system -/

/-- What a thread does for the monitor. -/
inductive Task where
  | idle
  /-- `bufferCircuitFailure` with `mu` held, before the notification -/
  | buffering (completion : CircuitCompletion)
  /-- after the notification, before the append -/
  | notified (completion : CircuitCompletion)
  /-- at the head of the loop of `beginCircuitReplay` -/
  | entering
  | waiting (active : Nat)
  /-- owns the replay gate and has not taken the backlog yet -/
  | gated (done : Nat)
  | delivering (done : Nat) (now : Int) (pending kept : List CircuitCompletion) (replayErr : Err)
  /-- merged, before `endCircuitReplay` -/
  | ending (done : Nat) (replayErr : Err)
  | finished (err : Err)
  deriving DecidableEq, Repr

structure State where
  recovery : Recovery.State := {}
  /-- the thread that holds the monitor's mutex between two transitions -/
  mu : Option Nat := none
  /-- the channel of the running replay -/
  replayDone : Option Nat := none
  /-- how many channels were made -/
  channels : Nat := 0
  circuitBacklog : List CircuitCompletion := []
  task : Nat → Task := fun _ => .idle

inductive Label where
  | recovery (l : Recovery.Label)
  | buffer (i : Nat) (completion : CircuitCompletion)
  | notify (i : Nat)
  | append (i : Nat)
  | replay (i : Nat)
  | gate (i : Nat)
  | wake (i : Nat)
  | cancel (i : Nat) (err : Err)
  | drain (i : Nat) (now : Int)
  | expire (i : Nat)
  | deliver (i : Nat) (err : Err)
  | merge (i : Nat)
  | endReplay (i : Nat)
  | ret (i : Nat)
  deriving DecidableEq, Repr

def backlogCapacity : Nat := 4096

/-- Only the newest events are kept. -/
def newest (backlog : List CircuitCompletion) : List CircuitCompletion :=
  if backlogCapacity < backlog.length then backlog.drop (backlog.length - backlogCapacity)
  else backlog

/-- The error that the monitor's callback reports. -/
def bufferedFailure : Err := .text "buffered circuit failure awaits replay"

def replayableCircuitError (err : Err) : Bool := !err.isReason

/-- The event is too old to be replayed. -/
def expired (now : Int) (completion : CircuitCompletion) : Bool :=
  decide (completion.reportedOutcomeAt ≤ now - receiptRetention)

/-- The task of a thread after the coordinator answered `err` to its first event. -/
def delivered (done : Nat) (now : Int) (completion : CircuitCompletion)
    (pending kept : List CircuitCompletion) (replayErr err : Err) : Task :=
  if err ≠ .nil ∧ replayableCircuitError err then
    .delivering done now pending (kept ++ [completion]) (.join replayErr err)
  else .delivering done now pending kept replayErr

def State.doing (s : State) (i : Nat) (task : Task) : State :=
  { s with task := Function.update s.task i task }

def State.buffered (s : State) (backlog : List CircuitCompletion) : State :=
  { s with circuitBacklog := backlog }

/-- The thread of a recovery transition is free for it: it is back from the replay when
    the replay step returns, and idle otherwise. -/
def free (task : Nat → Task) : Recovery.Label → Bool
  | .ret i .replayFailures err => task i == .finished err
  | l => (l.thread.map fun i => task i == .idle).getD true

/-- The replay step enters and leaves `ReplayCircuitFailures`. -/
def taskAfter (task : Nat → Task) : Recovery.Label → Nat → Task
  | .call i .replayFailures => Function.update task i .entering
  | .ret i .replayFailures _ => Function.update task i .idle
  | _ => task

/-- The thread is neither in a recovery nor in another task. -/
def State.unused (s : State) (i : Nat) : Prop :=
  s.task i = .idle ∧ s.recovery.phase i = .outside

instance (s : State) (i : Nat) : Decidable (s.unused i) := inferInstanceAs (Decidable (_ ∧ _))

/-- The callback that the monitor is given: `MarkDegraded`. -/
def State.circuitFailureBuffered (s : State) : State :=
  let manager := s.recovery.manager.markDegraded bufferedFailure
  { s with recovery := s.recovery.withManager manager }

/-- The end of a replay: the gate is free again if it still is this replay's. -/
def State.endCircuitReplay (s : State) (done : Nat) : State :=
  { s with replayDone := if s.replayDone = some done then none else s.replayDone }

def next (present : RecoveryStep → Bool) (s : State) : Label → Option State
  | .recovery l =>
    if free s.task l then
      (Recovery.next present s.recovery l).map fun r =>
        { s with recovery := r, task := taskAfter s.task l }
    else none
  | .buffer i completion =>
    if s.mu = none ∧ s.unused i then
      some ({ s with mu := some i }.doing i (.buffering completion))
    else none
  | .notify i =>
    match s.task i with
    | .buffering completion =>
      some (s.circuitFailureBuffered.doing i (.notified completion))
    | _ => none
  | .append i =>
    match s.task i with
    | .notified completion =>
      some (({ s with mu := none }.buffered (newest (s.circuitBacklog ++ [completion]))).doing i
        .idle)
    | _ => none
  | .replay i => if s.unused i then some (s.doing i .entering) else none
  | .gate i =>
    match s.task i with
    | .entering =>
      match s.replayDone with
      | none =>
        some ({ s with
                replayDone := some s.channels
                channels := s.channels + 1 }.doing i (.gated s.channels))
      | some active => some (s.doing i (.waiting active))
    | _ => none
  | .wake i =>
    match s.task i with
    | .waiting active => if s.replayDone = some active then none else some (s.doing i .entering)
    | _ => none
  | .cancel i err =>
    match s.task i with
    | .waiting _ => if err = .nil then none else some (s.doing i (.finished err))
    | _ => none
  | .drain i now =>
    match s.task i with
    | .gated done =>
      if s.mu = none then
        some ((s.buffered []).doing i
          (if s.circuitBacklog = [] then .ending done .nil
           else .delivering done now s.circuitBacklog [] .nil))
      else none
    | _ => none
  | .expire i =>
    match s.task i with
    | .delivering done now (completion :: pending) kept replayErr =>
      if expired now completion then some (s.doing i (.delivering done now pending kept replayErr))
      else none
    | _ => none
  | .deliver i err =>
    match s.task i with
    | .delivering done now (completion :: pending) kept replayErr =>
      if expired now completion then none
      else some (s.doing i (delivered done now completion pending kept replayErr err))
    | _ => none
  | .merge i =>
    match s.task i with
    | .delivering done _ [] kept replayErr =>
      if s.mu = none then
        some ((s.buffered (newest (kept ++ s.circuitBacklog))).doing i
          (.ending done replayErr))
      else none
    | _ => none
  | .endReplay i =>
    match s.task i with
    | .ending done replayErr =>
      some ((s.endCircuitReplay done).doing i (.finished replayErr))
    | _ => none
  | .ret i =>
    match s.task i with
    | .finished _ => if s.recovery.phase i = .outside then some (s.doing i .idle) else none
    | _ => none

/-- Any number of threads around one monitor and its recovery manager. -/
def barrier (present : RecoveryStep → Bool) : System State Label where
  init := fun s => s = {}
  step := fun s l s' => next present s l = some s'

/-! ## What a transition does -/

/-- A transition by its label, with all it checks. -/
inductive Next (present : RecoveryStep → Bool) (s : State) : Label → State → Prop where
  | recovery {l : Recovery.Label} {r : Recovery.State} (hfree : free s.task l = true)
      (hnext : Recovery.Next present s.recovery l r) :
      Next present s (.recovery l) { s with recovery := r, task := taskAfter s.task l }
  | buffer {i : Nat} {completion : CircuitCompletion} (hmu : s.mu = none) (hi : s.unused i) :
      Next present s (.buffer i completion)
        ({ s with mu := some i }.doing i (.buffering completion))
  | notify {i : Nat} {completion : CircuitCompletion} (hi : s.task i = .buffering completion) :
      Next present s (.notify i) (s.circuitFailureBuffered.doing i (.notified completion))
  | append {i : Nat} {completion : CircuitCompletion} (hi : s.task i = .notified completion) :
      Next present s (.append i)
        (({ s with mu := none }.buffered (newest (s.circuitBacklog ++ [completion]))).doing i
          .idle)
  | replay {i : Nat} (hi : s.unused i) : Next present s (.replay i) (s.doing i .entering)
  | gate {i : Nat} (hi : s.task i = .entering) (hgate : s.replayDone = none) :
      Next present s (.gate i)
        ({ s with
           replayDone := some s.channels
           channels := s.channels + 1 }.doing i (.gated s.channels))
  | wait {i active : Nat} (hi : s.task i = .entering) (hgate : s.replayDone = some active) :
      Next present s (.gate i) (s.doing i (.waiting active))
  | wake {i active : Nat} (hi : s.task i = .waiting active)
      (hclosed : s.replayDone ≠ some active) : Next present s (.wake i) (s.doing i .entering)
  | cancel {i active : Nat} {err : Err} (hi : s.task i = .waiting active) (herr : err ≠ .nil) :
      Next present s (.cancel i err) (s.doing i (.finished err))
  | drain {i done : Nat} {now : Int} (hi : s.task i = .gated done) (hmu : s.mu = none) :
      Next present s (.drain i now)
        ((s.buffered []).doing i
          (if s.circuitBacklog = [] then .ending done .nil
           else .delivering done now s.circuitBacklog [] .nil))
  | expire {i done : Nat} {now : Int} {completion : CircuitCompletion}
      {pending kept : List CircuitCompletion} {replayErr : Err}
      (hi : s.task i = .delivering done now (completion :: pending) kept replayErr)
      (hexpired : expired now completion = true) :
      Next present s (.expire i) (s.doing i (.delivering done now pending kept replayErr))
  | deliver {i done : Nat} {now : Int} {completion : CircuitCompletion}
      {pending kept : List CircuitCompletion} {replayErr err : Err}
      (hi : s.task i = .delivering done now (completion :: pending) kept replayErr)
      (hexpired : expired now completion = false) :
      Next present s (.deliver i err)
        (s.doing i (delivered done now completion pending kept replayErr err))
  | merge {i done : Nat} {now : Int} {kept : List CircuitCompletion} {replayErr : Err}
      (hi : s.task i = .delivering done now [] kept replayErr) (hmu : s.mu = none) :
      Next present s (.merge i)
        ((s.buffered (newest (kept ++ s.circuitBacklog))).doing i
          (.ending done replayErr))
  | endReplay {i done : Nat} {replayErr : Err} (hi : s.task i = .ending done replayErr) :
      Next present s (.endReplay i)
        ((s.endCircuitReplay done).doing i (.finished replayErr))
  | ret {i : Nat} {err : Err} (hi : s.task i = .finished err)
      (hout : s.recovery.phase i = .outside) : Next present s (.ret i) (s.doing i .idle)

variable {l : Label} {present : RecoveryStep → Bool} {s s' : State}
  {i j channels : Nat} {replayDone mu : Option Nat} {task : Nat → Task} {t : Task}

theorem next_inv (h : next present s l = some s') : Next present s l s' := by
  cases l with
  | recovery l =>
    obtain ⟨hfree, hs⟩ := Option.ite_none_right_eq_some.mp h
    obtain ⟨r, hr, rfl⟩ := Option.map_eq_some_iff.mp hs
    exact .recovery hfree (Recovery.next_inv hr)
  | buffer i completion =>
    obtain ⟨⟨hmu, hi⟩, hs⟩ := Option.ite_none_right_eq_some.mp h
    cases hs
    exact .buffer hmu hi
  | replay i =>
    obtain ⟨hi, hs⟩ := Option.ite_none_right_eq_some.mp h
    cases hs
    exact .replay hi
  | notify i | append i | endReplay i =>
    simp only [next] at h
    split at h <;> cases h
    next hi => constructor; exact hi
  | gate i =>
    simp only [next] at h
    split at h
    · next hi =>
        split at h <;> cases h
        · next hgate => exact .gate hi hgate
        · next hgate => exact .wait hi hgate
    · cases h
  | wake i =>
    simp only [next] at h
    split at h
    · next hi =>
        obtain ⟨hclosed, hs⟩ := Option.ite_none_left_eq_some.mp h
        cases hs
        exact .wake hi hclosed
    · cases h
  | cancel i err =>
    simp only [next] at h
    split at h
    · next hi =>
        obtain ⟨herr, hs⟩ := Option.ite_none_left_eq_some.mp h
        cases hs
        exact .cancel hi herr
    · cases h
  | drain i now | expire i | merge i | ret i =>
    -- one more check after the task
    simp only [next] at h
    split at h
    · next hi =>
        obtain ⟨hcheck, hs⟩ := Option.ite_none_right_eq_some.mp h
        cases hs
        constructor <;> assumption
    · cases h
  | deliver i err =>
    simp only [next] at h
    split at h
    · next hi =>
        obtain ⟨hexpired, hs⟩ := Option.ite_none_left_eq_some.mp h
        cases hs
        exact .deliver hi (Bool.eq_false_iff.mpr hexpired)
    · cases h

@[simp] theorem doing_task_self (s : State) (i : Nat) (t : Task) : (s.doing i t).task i = t :=
  Function.update_self ..

@[simp] theorem doing_recovery (s : State) (i : Nat) (t : Task) :
    (s.doing i t).recovery = s.recovery := rfl

@[simp] theorem buffered_recovery (s : State) (backlog : List CircuitCompletion) :
    (s.buffered backlog).recovery = s.recovery := rfl

@[simp] theorem buffered_task (s : State) (backlog : List CircuitCompletion) :
    (s.buffered backlog).task = s.task := rfl

@[simp] theorem circuitFailureBuffered_recovery (s : State) :
    s.circuitFailureBuffered.recovery =
      s.recovery.withManager (s.recovery.manager.markDegraded bufferedFailure) := rfl

@[simp] theorem endCircuitReplay_recovery (s : State) (done : Nat) :
    (s.endCircuitReplay done).recovery = s.recovery := rfl

theorem doing_task_ne (s : State) (t : Task) (h : j ≠ i) : (s.doing i t).task j = s.task j :=
  Function.update_of_ne h ..

def Label.thread : Label → Option Nat
  | .recovery l => l.thread
  | .buffer i _ | .notify i | .append i | .replay i | .gate i | .wake i | .cancel i _
  | .drain i _ | .expire i | .deliver i _ | .merge i | .endReplay i | .ret i => some i

theorem taskAfter_of_ne (task : Nat → Task) {l : Recovery.Label} (h : l.thread ≠ some j) :
    taskAfter task l j = task j := by
  have ne : ∀ i, l.thread = some i → j ≠ i := by
    rintro i hi rfl
    exact h hi
  unfold taskAfter
  split
  · exact Function.update_of_ne (ne _ rfl) ..
  · exact Function.update_of_ne (ne _ rfl) ..
  · rfl

/-- A recovery leaves a task alone or starts or forgets a replay. -/
theorem taskAfter_cases (task : Nat → Task) (l : Recovery.Label) (j : Nat) :
    taskAfter task l j = task j ∨ taskAfter task l j = .entering ∨
      taskAfter task l j = .idle := by
  by_cases h : l.thread = some j
  · unfold taskAfter
    split
    · cases h
      exact .inr (.inl (Function.update_self ..))
    · cases h
      exact .inr (.inr (Function.update_self ..))
    · exact .inl rfl
  · exact .inl (taskAfter_of_ne task h)

section

variable (h : Next present s l s')

include h

/-- The threads that do not make a transition keep their task and their phase. -/
theorem Next.frame (hj : l.thread ≠ some j) :
    s'.task j = s.task j ∧ s'.recovery.phase j = s.recovery.phase j := by
  cases h with
  | recovery _ hnext => exact ⟨taskAfter_of_ne _ hj, hnext.phase_of_ne hj⟩
  | buffer | notify | append | replay | gate | wait | wake | cancel | drain | expire | deliver
  | merge | endReplay | ret =>
    exact ⟨doing_task_ne _ _ fun h => hj (congrArg some h.symm), by simp⟩

/-- A task of the monitor goes on where it was, and changes no phase. -/
theorem Next.phase_eq (hl : ∀ r, l ≠ .recovery r) : s'.recovery.phase = s.recovery.phase := by
  cases h with
  | recovery => exact absurd rfl (hl _)
  | buffer | notify | append | replay | gate | wait | wake | cancel | drain | expire | deliver
  | merge | endReplay | ret => simp

theorem Next.manager :
    s.recovery.manager.Reported s'.recovery.manager ∨
    ((∀ i, l ≠ .notify i) ∧ s'.recovery.manager = s.recovery.manager) ∨
    ∃ i now starting, l = .recovery (.conclude i now) ∧
      s.recovery.phase i = .between [] starting ∧
      s'.recovery.manager = (s.recovery.manager.conclude starting now).1 := by
  cases h with
  | recovery _ hnext =>
    obtain ⟨-, hm⟩ | ⟨-, hm⟩ | ⟨i, now, starting, rfl, hp, hm⟩ := hnext.manager
    · exact .inl hm
    · exact .inr (.inl ⟨by simp, hm⟩)
    · exact .inr (.inr ⟨i, now, starting, rfl, hp, hm⟩)
  | notify => exact .inl (s.recovery.manager.markDegraded_reported _)
  | buffer | append | replay | gate | wait | wake | cancel | drain | expire | deliver | merge
  | endReplay | ret => exact .inr (.inl ⟨by simp, by simp⟩)

theorem Next.sound (hs : Sound s.recovery) : Sound s'.recovery := by
  cases h with
  | recovery _ hnext => exact hs.next hnext
  | notify =>
    have hnext : Recovery.Next present s.recovery (.markDegraded bufferedFailure)
        (s.recovery.withManager (s.recovery.manager.markDegraded bufferedFailure)) :=
      .markDegraded
    simpa using hs.next hnext
  | buffer | append | replay | gate | wait | wake | cancel | drain | expire | deliver | merge
  | endReplay | ret => simpa using hs

end

/-! ## The monitor's locks -/

/-- The channel of a replay that owns the gate. -/
def Task.done : Task → Option Nat
  | .gated done | .delivering done .. | .ending done _ => some done
  | _ => none

def Task.holdsMu : Task → Bool
  | .buffering _ | .notified _ => true
  | _ => false

/-- A replay that has met no error has kept nothing. -/
def Task.Consistent : Task → Prop
  | .delivering _ _ _ kept replayErr => replayErr = .nil → kept = []
  | _ => True

/-- A thread between the lock and the append of `bufferCircuitFailure` holds `mu`. -/
def MuOwned (mu : Option Nat) (task : Nat → Task) : Prop :=
  ∀ i, (task i).holdsMu = true → mu = some i

/-- The gate belongs to at most one replay. -/
structure GateOwned (replayDone : Option Nat) (channels : Nat) (task : Nat → Task) : Prop where
  gate : ∀ i done, (task i).done = some done → replayDone = some done
  made : ∀ done, replayDone = some done → done < channels
  own : ∀ i j done, (task i).done = some done → (task j).done = some done → i = j

structure Locked (s : State) : Prop where
  mu : MuOwned s.mu s.task
  gate : GateOwned s.replayDone s.channels s.task
  consistent : ∀ i, (s.task i).Consistent

variable {done starting : Nat} {task' : Nat → Task} {X : Nat → Prop} {replayErr : Err} {t' : Task}
  {now : Int}

/-- Two replays never own the gate at once. -/
theorem GateOwned.unique (h : GateOwned replayDone channels task) {di dj : Nat}
    (hi : (task i).done = some di) (hj : (task j).done = some dj) : i = j := by
  have hd := (h.gate i di hi).symm.trans (h.gate j dj hj)
  cases hd
  exact h.own i j di hi hj

/-! ### One task changes -/

theorem MuOwned.mono (h : MuOwned mu task)
    (hf : ∀ j, (task' j).holdsMu = true → (task j).holdsMu = true) : MuOwned mu task' :=
  fun j hj => h j (hf j hj)

theorem GateOwned.mono (h : GateOwned replayDone channels task)
    (hf : ∀ j done, (task' j).done = some done → (task j).done = some done) :
    GateOwned replayDone channels task' where
  gate := fun i done hi => h.gate i done (hf i done hi)
  made := h.made
  own := fun i j done hi hj => h.own i j done (hf i done hi) (hf j done hj)

/-- What holds of the new task of one thread and of the old tasks of the others. -/
theorem forall_update {P : Nat → Task → Prop} (ht : P i t) (h : ∀ j, j ≠ i → P j (task j))
    (j : Nat) : P j (Function.update task i t j) :=
  (Function.forall_update_iff task P).mpr ⟨ht, h⟩ j

theorem MuOwned.update (h : MuOwned mu task) (ht : t.holdsMu = true → (task i).holdsMu = true) :
    MuOwned mu (Function.update task i t) :=
  h.mono (forall_update (P := fun j u => u.holdsMu = true → (task j).holdsMu = true) ht
    fun _ _ => id)

theorem GateOwned.update (h : GateOwned replayDone channels task)
    (ht : ∀ done, t.done = some done → (task i).done = some done) :
    GateOwned replayDone channels (Function.update task i t) :=
  h.mono (forall_update (P := fun j u => ∀ done, u.done = some done → (task j).done = some done) ht
    fun _ _ _ => id)

theorem MuOwned.take (h : MuOwned none task) (i : Nat) (t : Task) :
    MuOwned (some i) (Function.update task i t) := by
  refine forall_update (P := fun j u => u.holdsMu = true → some i = some j) (fun _ => rfl) ?_
  intro j _ hj
  have hnone := h j hj
  cases hnone

theorem MuOwned.release (h : MuOwned mu task) (hi : (task i).holdsMu = true)
    (ht : t.holdsMu = false) : MuOwned none (Function.update task i t) := by
  refine forall_update (P := fun j u => u.holdsMu = true → none = some j) (by simp [ht]) ?_
  intro j hij hj
  have hboth := (h j hj).symm.trans (h i hi)
  exact absurd (Option.some.inj hboth) hij

theorem GateOwned.take (h : GateOwned none channels task) (i : Nat) (t : Task)
    (ht : t.done = some channels) :
    GateOwned (some channels) (channels + 1) (Function.update task i t) where
  gate := by
    refine forall_update (P := fun _ u => ∀ done, u.done = some done → some channels = some done)
      (fun done hd => ht.symm.trans hd) ?_
    intro j _ done hd
    have hnone := h.gate j done hd
    cases hnone
  made := fun done hd => by cases hd; exact Nat.lt_succ_self _
  own := by
    have only : ∀ j done, (Function.update task i t j).done = some done → j = i := by
      refine forall_update (P := fun j u => ∀ done, u.done = some done → j = i) (fun _ _ => rfl) ?_
      intro j _ done hd
      have hnone := h.gate j done hd
      cases hnone
    intro j k done hj hk
    rw [only j done hj, only k done hk]

theorem GateOwned.release (h : GateOwned replayDone channels task)
    (hi : (task i).done = some done) (ht : t.done = none) :
    GateOwned (if replayDone = some done then none else replayDone) channels
      (Function.update task i t) := by
  rw [if_pos (h.gate i done hi)]
  have nobody : ∀ j d, (Function.update task i t j).done ≠ some d := by
    refine forall_update (P := fun _ u => ∀ d, u.done ≠ some d) (by simp [ht]) ?_
    intro j hij d hd
    exact hij (h.unique hd hi)
  exact ⟨fun j d hj => absurd hj (nobody j d), nofun,
    fun j _ d hj => absurd hj (nobody j d)⟩

/-- Going on from task `t` to task `t'` takes no lock. -/
structure Task.Follows (t t' : Task) : Prop where
  holdsMu : t'.holdsMu = true → t.holdsMu = true
  done : ∀ done, t'.done = some done → t.done = some done
  consistent : t'.Consistent

/-- A task outside of the locks follows every task. -/
theorem Task.follows_of_unlocked (t : Task) (hmu : t'.holdsMu = false)
    (hdone : t'.done = none) (ht : t'.Consistent) : t.Follows t' :=
  ⟨by simp [hmu], by simp [hdone], ht⟩

theorem taskAfter_follows (h : Locked s) (l : Recovery.Label) (j : Nat) :
    (s.task j).Follows (taskAfter s.task l j) := by
  obtain heq | heq | heq := taskAfter_cases s.task l j <;> rw [heq]
  · exact ⟨id, fun _ => id, h.consistent j⟩
  · exact Task.follows_of_unlocked _ rfl rfl trivial
  · exact Task.follows_of_unlocked _ rfl rfl trivial

theorem Locked.next (h : Locked s) (hnext : Next present s l s') : Locked s' := by
  have consistent : ∀ i (t : Task), t.Consistent →
      ∀ j, (Function.update s.task i t j).Consistent := by
    intro i t ht
    exact forall_update (P := fun _ u => u.Consistent) ht fun j _ => h.consistent j
  -- most transitions take no lock
  have follow : ∀ {s₁ : State} (i : Nat) (t : Task), (s.task i).Follows t → s₁.mu = s.mu →
      s₁.replayDone = s.replayDone → s₁.channels = s.channels → s₁.task = s.task →
      Locked (s₁.doing i t) := by
    intro s₁ i t ht hmu hgate hchannels htask
    refine ⟨?_, ?_, ?_⟩ <;> simp only [State.doing, hmu, hgate, hchannels, htask]
    · exact h.mu.update ht.holdsMu
    · exact h.gate.update ht.done
    · exact consistent i t ht.consistent
  cases hnext with
  | recovery =>
    exact ⟨h.mu.mono fun j => (taskAfter_follows h _ j).holdsMu,
      h.gate.mono fun j => (taskAfter_follows h _ j).done,
      fun j => (taskAfter_follows h _ j).consistent⟩
  | buffer hmu =>
    have htaken := (hmu ▸ h.mu : MuOwned none s.task).take
    exact ⟨htaken _ _, h.gate.update (by simp [Task.done]), consistent _ _ trivial⟩
  | append hi =>
    exact ⟨h.mu.release (by rw [hi]; rfl) rfl, h.gate.update (by simp [Task.done]),
      consistent _ _ trivial⟩
  | gate hi hgate =>
    have hfree : GateOwned none s.channels s.task := hgate ▸ h.gate
    exact ⟨h.mu.update (by simp [Task.holdsMu]), hfree.take _ _ rfl, consistent _ _ trivial⟩
  | endReplay hi =>
    exact ⟨h.mu.update (by simp [Task.holdsMu]), h.gate.release (by rw [hi]; rfl) rfl,
      consistent _ _ trivial⟩
  | notify hi =>
    exact follow _ _ ⟨by simp [hi, Task.holdsMu], by simp [Task.done], trivial⟩ rfl rfl rfl rfl
  | replay | wait | wake | cancel | ret =>
    exact follow _ _ (Task.follows_of_unlocked _ rfl rfl trivial) rfl rfl rfl rfl
  | drain hi =>
    refine follow _ _ ?_ rfl rfl rfl rfl
    rw [hi]
    split
    · exact ⟨id, fun _ => id, trivial⟩
    · exact ⟨id, fun _ => id, fun _ => rfl⟩
  | expire hi =>
    have hc : Task.Consistent (.delivering ..) := hi ▸ h.consistent _
    exact follow _ _ (by rw [hi]; exact ⟨id, fun _ => id, hc⟩) rfl rfl rfl rfl
  | deliver hi =>
    have hc : Task.Consistent (.delivering ..) := hi ▸ h.consistent _
    refine follow _ _ ?_ rfl rfl rfl rfl
    rw [hi]
    unfold delivered
    split
    · exact ⟨id, fun _ => id, nofun⟩
    · exact ⟨id, fun _ => id, hc⟩
  | merge hi => exact follow _ _ (by rw [hi]; exact ⟨id, fun _ => id, trivial⟩) rfl rfl rfl rfl

/-! ## Nothing is held back -/

/-- Failures that a replay has taken and not delivered. -/
def Task.undelivered : Task → List CircuitCompletion
  | .delivering _ _ pending kept _ => pending ++ kept
  | _ => []

/-- The backlog is empty, nobody is about to append to it, and the threads of `X` hold no
    undelivered failure. -/
structure Clean (X : Nat → Prop) (s : State) : Prop where
  backlog : s.circuitBacklog = []
  held : ∀ i, X i → (s.task i).undelivered = []
  notified : ∀ i completion, s.task i ≠ .notified completion

theorem Clean.doing (h : Clean X s) (ht : X i → t.undelivered = [])
    (hn : ∀ completion, t ≠ .notified completion) (hbacklog : s'.circuitBacklog = [])
    (htask : s'.task = s.task) : Clean X (s'.doing i t) where
  backlog := hbacklog
  held := by
    simp only [State.doing, htask]
    exact forall_update (P := fun j u => X j → u.undelivered = []) ht fun j _ => h.held j
  notified := by
    simp only [State.doing, htask]
    exact forall_update (P := fun _ u => ∀ completion, u ≠ .notified completion) hn
      fun j _ => h.notified j

/-- Only a notification ends a clean state, or a merge by a thread that holds something. -/
theorem Clean.next (h : Clean X s) (hnext : Next present s l s')
    (hl : ∀ i, l ≠ .notify i) (hmerge : ∀ i done now kept replayErr, l = .merge i →
      s.task i = .delivering done now [] kept replayErr → kept = []) : Clean X s' := by
  have hbacklog := h.backlog
  -- a thread of `X` that is delivering has nothing left
  have empty : ∀ {i done now completion pending kept replayErr}, X i →
      s.task i = .delivering done now (completion :: pending) kept replayErr → False := by
    intro i done now completion pending kept replayErr hi htask
    have := h.held i hi
    rw [htask] at this
    cases this
  cases hnext with
  | notify => exact absurd rfl (hl _)
  | append hi => exact absurd hi (h.notified _ _)
  | recovery =>
    refine ⟨hbacklog, fun j hj => ?_, fun j completion => ?_⟩
    · obtain heq | heq | heq := taskAfter_cases s.task _ j
      · exact (congrArg Task.undelivered heq).trans (h.held j hj)
      · exact congrArg Task.undelivered heq
      · exact congrArg Task.undelivered heq
    · show taskAfter s.task _ j ≠ _
      obtain heq | heq | heq := taskAfter_cases s.task _ j <;> rw [heq]
      · exact h.notified j completion
      · simp
      · simp
  | buffer | replay | gate | wait | wake | cancel | endReplay | ret =>
    exact h.doing (fun _ => rfl) (by simp) hbacklog rfl
  | drain => exact h.doing (by simp [hbacklog, Task.undelivered]) (by simp [hbacklog]) rfl rfl
  | expire hi => exact h.doing (fun hX => (empty hX hi).elim) (by simp) hbacklog rfl
  | deliver hi =>
    refine h.doing (fun hX => (empty hX hi).elim) (fun completion => ?_) hbacklog rfl
    unfold delivered
    split <;> simp
  | merge hi =>
    have hkept := hmerge _ _ _ _ _ rfl hi
    refine h.doing (fun _ => rfl) (by simp) ?_ rfl
    show newest (_ ++ s.circuitBacklog) = []
    rw [hkept, hbacklog]
    rfl

/-! ## How far a recovery has come -/

/-- The replay of a recovery has taken the backlog and met no error in it so far. -/
def Task.drained : Task → Prop
  | .delivering .. => True
  | .ending _ err | .finished err => err = .nil
  | _ => False

/-- A recovery in this phase, with this task, has taken the backlog. -/
def Drained (phase : Phase) (task : Task) : Prop :=
  match phase with
  | .between left _ => .replayFailures ∉ left
  | .inside step left _ => if step = .replayFailures then task.drained else .replayFailures ∉ left
  | _ => False

/-- Only the replay step of a recovery is a task of the monitor. -/
def Idle (s : State) : Prop :=
  ∀ i, s.recovery.phase i = .outside ∨ (∃ left starting,
    s.recovery.phase i = .inside .replayFailures left starting) ∨ s.task i = .idle

theorem free_idle {l : Recovery.Label} (h : free task l = true) (hi : l.thread = some i)
    (hl : ∀ err, l ≠ .ret i .replayFailures err) : task i = .idle := by
  unfold free at h
  split at h
  · next j err =>
    cases hi
    exact absurd rfl (hl err)
  · simpa [hi] using h

theorem taskAfter_self {l : Recovery.Label} (hcall : l ≠ .call i .replayFailures)
    (hret : ∀ err, l ≠ .ret i .replayFailures err) : taskAfter task l i = task i := by
  unfold taskAfter
  split
  · next j => exact Function.update_of_ne (by rintro rfl; exact hcall rfl) ..
  · next j err => exact Function.update_of_ne (by rintro rfl; exact hret err rfl) ..
  · rfl

/-- A thread with a task of its own is in no other phase than the replay step. -/
theorem Idle.next (h : Idle s) (hnext : Next present s l s') : Idle s' := by
  intro i
  by_cases hthread : l.thread = some i
  · have working : ∀ t : Task, s.task i = t → t ≠ .idle →
        s.recovery.phase i = .outside ∨ (∃ left starting,
          s.recovery.phase i = .inside .replayFailures left starting) ∨ s'.task i = .idle := by
      intro t ht hne
      obtain hout | hin | hidle := h i
      · exact .inl hout
      · exact .inr (.inl hin)
      · exact absurd (ht.symm.trans hidle) hne
    cases hnext with
    | @recovery l r hfree hrec =>
      by_cases hcall : l = .call i .replayFailures
      · subst hcall
        cases hrec with
        | call => exact .inr (.inl ⟨_, _, goto_phase_self ..⟩)
      refine .inr (.inr ?_)
      by_cases hret : ∃ err, l = .ret i .replayFailures err
      · obtain ⟨err, rfl⟩ := hret
        exact Function.update_self ..
      · have hret' : ∀ err, l ≠ .ret i .replayFailures err := fun err h => hret ⟨err, h⟩
        exact (taskAfter_self hcall hret').trans (free_idle hfree hthread hret')
    | buffer _ hi | replay hi =>
      cases hthread
      exact .inl hi.2
    | append | ret =>
      cases hthread
      exact .inr (.inr (doing_task_self ..))
    | notify hi | gate hi | wait hi | wake hi | cancel hi | drain hi | expire hi | deliver hi
    | merge hi | endReplay hi =>
      cases hthread
      simpa using working _ hi (by simp)
  · rw [(hnext.frame hthread).1, (hnext.frame hthread).2]
    exact h i

theorem Drained.mono {phase : Phase} (h : Drained phase t')
    (ht : t'.drained → t.drained) : Drained phase t := by
  cases phase with
  | between => exact h
  | inside step left starting =>
    unfold Drained at h ⊢
    by_cases hstep : step = .replayFailures
    · simp only [if_pos hstep] at h ⊢
      exact ht h
    · simpa only [if_neg hstep] using h
  | outside | entered | failing | returning => exact h.elim

/-- A transition of the recovery itself. -/
theorem drained_of_recovery {l : Recovery.Label} {r : Recovery.State}
    (hpresent : present .replayFailures = true) (hfree : free s.task l = true)
    (hrec : Recovery.Next present s.recovery l r) (hthread : l.thread = some i)
    (h : Drained (r.phase i) (taskAfter s.task l i)) :
    Drained (s.recovery.phase i) (s.task i) ∧
      (s.recovery.phase i).starting = (r.phase i).starting := by
  cases hrec with
  | markDegraded | markPermanent | coordinationFailure => cases hthread
  | lock | refuse | failure | mark | conclude | unlock =>
    cases hthread
    rw [goto_phase_self] at h
    exact h.elim
  | read =>
    cases hthread
    rw [goto_phase_self] at h
    exact absurd (by decide) h
  | @skip _ step left starting hp habsent =>
    cases hthread
    rw [goto_phase_self] at h ⊢
    rw [hp]
    refine ⟨?_, rfl⟩
    show _ ∉ step :: left
    have hne : .replayFailures ≠ step := by
      rintro rfl
      rw [hpresent] at habsent
      cases habsent
    exact List.not_mem_cons_of_ne_of_not_mem hne h
  | @call _ step left starting hp =>
    cases hthread
    rw [goto_phase_self] at h ⊢
    rw [hp]
    refine ⟨?_, rfl⟩
    show _ ∉ step :: left
    by_cases hstep : step = .replayFailures
    · -- a replay that has just begun has not taken the backlog
      subst hstep
      simp [Drained, taskAfter, Task.drained] at h
    · simp only [Drained, if_neg hstep] at h
      exact List.not_mem_cons_of_ne_of_not_mem (Ne.symm hstep) h
  | @success _ step left starting hp =>
    cases hthread
    rw [goto_phase_self] at h ⊢
    rw [hp]
    refine ⟨?_, rfl⟩
    by_cases hstep : step = .replayFailures
    · -- the replay has finished without an error
      subst hstep
      have htask : s.task i = .finished .nil := by simpa [free] using hfree
      simp [Drained, htask, Task.drained]
    · simp only [Drained, if_neg hstep]
      exact h

/-- A recovery that has taken the backlog had done so before, unless it just did. -/
theorem Next.drained (hpresent : present .replayFailures = true) (hnext : Next present s l s')
    (h : Drained (s'.recovery.phase i) (s'.task i)) :
    (Drained (s.recovery.phase i) (s.task i) ∧
      (s.recovery.phase i).starting = (s'.recovery.phase i).starting) ∨
    ∃ now, l = .drain i now := by
  by_cases hthread : l.thread = some i
  · cases hnext with
    | recovery hfree hrec => exact .inl (drained_of_recovery hpresent hfree hrec hthread h)
    | drain =>
      cases hthread
      exact .inr ⟨_, rfl⟩
    | buffer | notify | append | replay | gate | wait | wake | ret =>
      -- the new task is none of a replay that has taken the backlog
      cases hthread
      rw [doing_task_self] at h
      exact .inl ⟨h.mono False.elim, by simp⟩
    | cancel _ herr =>
      cases hthread
      rw [doing_task_self] at h
      exact .inl ⟨h.mono fun hnil => absurd hnil herr, rfl⟩
    | expire hi | deliver hi | merge hi =>
      cases hthread
      rw [hi]
      exact .inl ⟨h.mono fun _ => trivial, by simp⟩
    | endReplay hi =>
      cases hthread
      rw [doing_task_self] at h
      rw [hi]
      exact .inl ⟨h.mono id, by simp⟩
  · rw [(hnext.frame hthread).1, (hnext.frame hthread).2] at h
    exact .inl ⟨h, by rw [(hnext.frame hthread).2]⟩

/-! ## The barrier -/

/-- A recovery sees fewer reports than the counter can tell apart. -/
def Bounded (s : State) : Prop :=
  ∀ i starting, (s.recovery.phase i).starting = some starting →
    s.recovery.manager.failures < starting + counterRange

structure Guarded (s : State) : Prop where
  sound : Sound s.recovery
  locked : Locked s
  idle : Idle s
  /-- Unless somebody reported a failure since it began, a recovery that has taken the
      backlog is the only one to hold anything. -/
  drained : ∀ i starting, (s.recovery.phase i).starting = some starting →
    Drained (s.recovery.phase i) (s.task i) → s.recovery.manager.failures = starting →
    Clean (· ≠ i) s
  ready : s.recovery.manager.ready = true → Clean (fun _ => True) s

/-- The moment a replay takes the backlog: the gate keeps other replays out, and the
    mutex those who would append. -/
theorem Locked.drain (h : Locked s) (hi : s.task i = .gated done) (hmu : s.mu = none) (t : Task)
    (ht : ∀ completion, t ≠ .notified completion) : Clean (· ≠ i) ((s.buffered []).doing i t) where
  backlog := rfl
  held := fun j hj => by
    rw [doing_task_ne _ _ hj, buffered_task]
    cases htask : s.task j with
    | delivering done' =>
      have hdone : (s.task j).done = some done' := by rw [htask]; rfl
      exact absurd (h.gate.unique hdone (by rw [hi]; rfl)) hj
    | idle | buffering | notified | entering | waiting | gated | ending | finished => rfl
  notified := fun j completion hj => by
    by_cases hij : j = i
    · subst hij
      rw [doing_task_self] at hj
      exact ht completion hj
    · rw [doing_task_ne _ _ hij, buffered_task] at hj
      have hheld := h.mu j (by rw [hj]; rfl)
      rw [hmu] at hheld
      cases hheld

/-- A recovery that goes on without an error merges nothing back. -/
theorem Guarded.merge_nil (h : Guarded s) (hnext : Next present s (.merge i) s')
    (hstarting : (s.recovery.phase i).starting = some starting)
    (hdrained : Drained (s'.recovery.phase i) (s'.task i)) {kept : List CircuitCompletion}
    (htask : s.task i = .delivering done now [] kept replayErr) : kept = [] := by
  have hconsistent : Task.Consistent (.delivering ..) := htask ▸ h.locked.consistent i
  obtain hout | ⟨left, starting', hin⟩ | hidle := h.idle i
  · rw [hout] at hstarting
    cases hstarting
  · rw [hnext.phase_eq (by simp), hin] at hdrained
    cases hnext with
    | merge hi =>
      rw [htask] at hi
      cases hi
      exact hconsistent (by simpa [Drained, Task.drained] using hdrained)
  · rw [htask] at hidle
    cases hidle

theorem Guarded.drained_next (hpresent : present .replayFailures = true) (h : Guarded s)
    (hnext : Next present s l s') (hstarting : (s'.recovery.phase i).starting = some starting)
    (hdrained : Drained (s'.recovery.phase i) (s'.task i))
    (hfailures : s'.recovery.manager.failures = starting) : Clean (· ≠ i) s' := by
  obtain ⟨hbefore, hsame⟩ | ⟨now, rfl⟩ := hnext.drained hpresent hdrained
  · rw [hstarting] at hsame
    have hcounted := h.sound.counted i starting hsame
    -- nobody has reported a failure, so the recovery was alone before
    obtain ⟨hl, hm⟩ : (∀ j, l ≠ .notify j) ∧ s.recovery.manager.failures = starting := by
      obtain hm | ⟨hl, hm⟩ | ⟨j, now, start, rfl, -, hm⟩ := hnext.manager
      · exact absurd hfailures (hm.counted hcounted).2
      · exact ⟨hl, by rw [← hm, hfailures]⟩
      · rw [hm, RecoveryManager.conclude_failures] at hfailures
        exact ⟨by simp, hfailures⟩
    have hclean := h.drained i starting hsame hbefore hm
    refine hclean.next hnext hl ?_
    intro k done now kept replayErr hmerge htask
    subst hmerge
    by_cases hk : k = i
    · subst hk
      exact h.merge_nil hnext hsame hdrained htask
    · simpa [htask, Task.undelivered] using hclean.held k hk
  · cases hnext with
    | drain hi hmu =>
      refine h.locked.drain hi hmu _ fun completion => ?_
      split <;> simp

theorem Guarded.ready_next (h : Guarded s) (hbounded : Bounded s) (hnext : Next present s l s')
    (hready : s'.recovery.manager.ready = true) : Clean (fun _ => True) s' := by
  have step : (∀ j, l ≠ .notify j) → Clean (fun _ => True) s → Clean (fun _ => True) s' := by
    intro hl hclean
    refine hclean.next hnext hl fun k done now kept replayErr _ htask => ?_
    simpa [htask, Task.undelivered] using hclean.held k trivial
  obtain hm | ⟨hl, hm⟩ | ⟨i, now, starting, rfl, hp, hm⟩ := hnext.manager
  · rw [hm.notReady] at hready
    cases hready
  · rw [hm] at hready
    exact step hl (h.ready hready)
  refine step (by simp) ?_
  have hstarting : (s.recovery.phase i).starting = some starting := by rw [hp]; rfl
  by_cases heq : s.recovery.manager.failures = starting
  · -- the recovery succeeds: it has taken the backlog, and has no task any more
    have hdrained : Drained (s.recovery.phase i) (s.task i) := by
      rw [hp]
      exact List.not_mem_nil
    have hclean := h.drained i starting hstarting hdrained heq
    refine ⟨hclean.backlog, fun j _ => ?_, hclean.notified⟩
    by_cases hj : j = i
    · subst hj
      obtain hout | ⟨left, start, hin⟩ | hidle := h.idle j
      · rw [hp] at hout
        cases hout
      · rw [hp] at hin
        cases hin
      · rw [hidle]
        rfl
    · exact hclean.held j hj
  · -- the counter has moved on, so it fails
    have hle := (h.sound.counted i starting hstarting).le
    have hlt := hbounded i starting hstarting
    rw [hm, RecoveryManager.conclude_of_lt now hle hlt heq] at hready
    exact h.ready hready

theorem Guarded.next (hpresent : present .replayFailures = true) (h : Guarded s)
    (hbounded : Bounded s) (hnext : Next present s l s') : Guarded s' where
  sound := hnext.sound h.sound
  locked := h.locked.next hnext
  idle := h.idle.next hnext
  drained := fun _ _ => h.drained_next hpresent hnext
  ready := h.ready_next hbounded hnext

theorem guarded_init : Guarded {} where
  sound := Recovery.sound_init
  locked := by
    refine ⟨fun i hi => ?_, ⟨fun i done hi => ?_, fun done hd => ?_, fun i j done hi => ?_⟩,
      fun i => trivial⟩
    · cases hi
    · cases hi
    · cases hd
    · cases hi
  idle := fun _ => .inl rfl
  drained := nofun
  ready := fun _ => ⟨rfl, fun _ _ => rfl, nofun⟩

/-- **Recovery barrier**: whenever the manager is ready, nothing waits to be replayed. -/
theorem recovery_barrier (present : RecoveryStep → Bool) (hpresent : present .replayFailures = true)
    (s : State) (h : ((barrier present).restrict fun _ _ s' => Bounded s').Reachable s)
    (hready : s.recovery.manager.ready = true) :
    s.circuitBacklog = [] ∧ ∀ i, (s.task i).undelivered = [] := by
  have hinv : Guarded s ∧ Bounded s := by
    refine System.invariant _ (I := fun s => Guarded s ∧ Bounded s) ?_ ?_ h
    · rintro s rfl
      exact ⟨guarded_init, nofun⟩
    · intro s l s' hs hstep
      exact ⟨hs.1.next hpresent hs.2 (next_inv hstep.1), hstep.2⟩
  have hclean := hinv.1.ready hready
  exact ⟨hclean.backlog, fun i => hclean.held i trivial⟩

/-! ### Runs -/

def someFailure : CircuitCompletion where
  attemptID := 1
  backend := { id := 1, revision := 1, enabled := true }
  generation := 0
  outcome := .inferenceFailure
  reportedOutcomeAt := 0

/-- Thread 1 buffers a failure. -/
def bufferOne : List Label := [.buffer 1 someFailure, .notify 1, .append 1]

/-- Thread 0 recovers up to its last critical section, and the coordinator takes the
    buffered failure.  The manager was given the replay step only. -/
def replayOne : List Label :=
  [.recovery (.lock 0), .recovery (.read 0), .recovery (.skip 0), .recovery (.skip 0),
   .recovery (.skip 0), .recovery (.skip 0), .recovery (.call 0 .replayFailures), .gate 0,
   .drain 0 7, .deliver 0 .nil, .merge 0, .endReplay 0,
   .recovery (.ret 0 .replayFailures .nil), .recovery (.skip 0)]

def replayOnly (step : RecoveryStep) : Bool := step == .replayFailures

/-- The transition function as long as the counter does not wrap. -/
def nextBounded (present : RecoveryStep → Bool) (s : State) (l : Label) : Option State :=
  (next present s l).filter fun s' =>
    decide (s'.recovery.manager.failures < counterRange)

theorem nextBounded_step (s : State) (l : Label) (s' : State)
    (h : nextBounded present s l = some s') :
    ((barrier present).restrict fun _ _ s' => Bounded s').step s l s' := by
  obtain ⟨hnext, hlt⟩ := Option.filter_eq_some_iff.mp h
  refine ⟨hnext, fun i starting _ => ?_⟩
  have := of_decide_eq_true hlt
  omega

def recoverOne : List Label := bufferOne ++ replayOne ++ [.recovery (.conclude 0 9)]

def recoveredState : State := (recoverOne.foldlM (nextBounded replayOnly) {}).getD {}

theorem recovery_barrier_recoveredState :
    recoveredState.recovery.manager = ⟨⟨.recoveryReady, .nil, 9⟩, 1⟩ ∧
    recoveredState.circuitBacklog = [] ∧ ∀ i, (recoveredState.task i).undelivered = [] := by
  refine ⟨by decide +kernel, recovery_barrier replayOnly rfl recoveredState ?_ (by decide +kernel)⟩
  exact System.reachable_of_isSome _ nextBounded_step rfl recoverOne (by decide +kernel)

/-- Reports from anywhere, `n` of them. -/
theorem reachable_reports (h : (barrier present).Reachable s)
    (hperm : s.recovery.manager.permanent = false) (n : Nat) :
    ∃ s', (barrier present).Reachable s' ∧ s'.recovery.phase = s.recovery.phase ∧
      s'.task = s.task ∧ s'.circuitBacklog = s.circuitBacklog ∧
      s'.recovery.manager.permanent = false ∧
      s'.recovery.manager.failures = s.recovery.manager.failures + n := by
  induction n with
  | zero => exact ⟨s, h, rfl, rfl, rfl, hperm, rfl⟩
  | succ n ih =>
    obtain ⟨t, ht, hphase, htask, hbacklog, htperm, hcount⟩ := ih
    have hdegraded : t.recovery.manager.markDegraded bufferedFailure =
        { status := { t.recovery.manager.status with
            state := .recoveryDegraded, lastError := bufferedFailure }
          failures := t.recovery.manager.failures + 1 } := by
      rw [RecoveryManager.markDegraded, htperm]
      rfl
    refine ⟨_, .step (.recovery (.markDegraded bufferedFailure)) ht rfl, hphase, htask, hbacklog,
      ?_, ?_⟩
    · show (t.recovery.manager.markDegraded bufferedFailure).permanent = false
      rw [hdegraded]
      rfl
    · show (t.recovery.manager.markDegraded bufferedFailure).failures = _
      rw [hdegraded, ← Nat.add_assoc, ← hcount]

/-- A second failure is buffered before the recovery ends. -/
def bufferAgain : List Label := bufferOne ++ replayOne ++ bufferOne

def pendingState : State := (bufferAgain.foldlM (next replayOnly) {}).getD {}

/-- With 2^64 reports during one recovery the counter shows its old value again, and the
    manager becomes ready over a backlog that is not empty. -/
theorem wrapped_counter_breaks_barrier :
    ∃ s, (barrier replayOnly).Reachable s ∧ s.recovery.manager.ready = true ∧
      s.circuitBacklog = [someFailure] := by
  have hrun : (barrier replayOnly).Reachable pendingState :=
    System.reachable_of_isSome _ (fun _ _ _ => id) rfl bufferAgain (by decide +kernel)
  obtain ⟨s, hs, hphase, htask, hbacklog, -, hcount⟩ :=
    reachable_reports hrun (by decide +kernel) (counterRange - 1)
  have hp : s.recovery.phase 0 = .between [] 1 := by
    rw [hphase]
    decide +kernel
  have hidle : s.task 0 = .idle := by
    rw [htask]
    decide +kernel
  have hfailures : s.recovery.manager.failures % counterRange
      = 1 % counterRange := by
    rw [hcount]
    decide +kernel
  have hconclude : (s.recovery.manager.conclude 1 9).1.ready = true := by
    rw [RecoveryManager.conclude_eq, if_pos hfailures]
    rfl
  let concluded := (s.recovery.withManager (s.recovery.manager.conclude 1 9).1).goto 0
    (.returning (s.recovery.manager.conclude 1 9).2)
  have hnext : next replayOnly s (.recovery (.conclude 0 9)) =
      some { s with recovery := concluded } := by
    simp [next, free, Recovery.Label.thread, hidle, Recovery.next, hp, taskAfter, concluded]
  refine ⟨_, .step _ hs hnext, hconclude, ?_⟩
  show s.circuitBacklog = _
  rw [hbacklog]
  decide +kernel

end Monitor.RecoveryBarrier
