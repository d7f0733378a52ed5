import PriorityGateway.Coordination.Circuit.LocalAttempts
import PriorityGateway.Monitor.RecoveryBarrier

/-! # AcquireBackend over the Local Coordinator

    The monitor asks the circuit coordinator before a request goes to a
    backend, and hands out a callback that completes the attempt.  With the
    in-process coordinator the check whether coordination is ready
    (`coordinationReady`) depends on how many attempts the coordinator holds,
    so the monitor's own attempts feed back on it:

    * a grant that fills the last place of the attempt table is dropped by
      the second check, and nobody will complete it;
    * a completion that is not a failure is skipped while coordination is not
      ready, on the ground that permits expire; the attempts of a closed
      circuit have no permit.

    `attempt_leaks` shows the first with a table of one place.
    `attempts_never_leak` says that with fewer operations at a time than
    places, and completions in time, every attempt ends.

    Each critical section of the coordinator, of the monitor's mutex and of
    the emergency breaker is one transition; the two sections at the end of a
    callback are one.  The backends do not change, no recovery replaces the
    emergency breakers, and probes are not renewed. -/

namespace Monitor.Attempts

open Coordination
open LocalCircuit (CircuitCoordinator CircuitAttempt liveAttempts Passes Matches passes_status
  passes_expire)
open CircuitBreaker (Breaker)

/-! ## The system -/

/-- A backend as the monitor compares it: what the coordinator knows of it, and the rest. -/
structure Backend where
  identity : BackendIdentity
  settings : String := ""
  deriving DecidableEq, Repr

structure Config where
  circuit : CircuitBreaker.Options
  fingerprint : CircuitAcquireRequest → Nat
  workers : Int → Option Backend
  replicaID : UUID
  probeTTL : Int

/-- Where an `AcquireBackend` operation is, from its call until its callback has run. -/
inductive Op where
  /-- the worker is current, before the first `coordinationReady` -/
  | called (backend : Backend) (at' : Int)
  /-- before `Acquire` of the coordinator -/
  | acquiring (backend : Backend) (at' : Int)
  /-- the coordinator granted, before the second `coordinationReady` -/
  | granted (backend : Backend) (decision : CircuitDecision)
  /-- before the callback is registered -/
  | publishing (backend : Backend) (decision : CircuitDecision)
  /-- in `acquireEmergencyBackend`, before `emergencyAllowed` -/
  | emergency (backend : Backend) (at' : Int)
  /-- before the cached snapshot is read -/
  | consulting (backend : Backend) (at' : Int)
  /-- before the emergency breaker is asked -/
  | entering (backend : Backend) (at' : Int) (generation : Int)
  /-- the callback was returned -/
  | held (backend : Backend) (generation : Int)
  | heldEmergency (backend : Backend) (generation : Int) (completeLocal : CircuitBreaker.Completion)
  /-- the callback runs, before its `coordinationReady` -/
  | asking (backend : Backend) (generation : Int) (outcome : InferenceOutcome)
  /-- before `Complete` of the coordinator -/
  | reporting (backend : Backend) (generation : Int) (outcome : InferenceOutcome)
  /-- an emergency failure, before `bufferCircuitFailure` -/
  | buffering (backend : Backend) (completion : CircuitCompletion)
  /-- before the deferred release -/
  | releasing (backend : Backend)
  deriving DecidableEq, Repr

structure State where
  coordinator : CircuitCoordinator
  /-- the emergency breakers of the workers -/
  breakers : Int → Breaker := fun _ => {}
  backendInflight : Int → Int := fun _ => 0
  probes : Table UUID ProbeIdentity := ∅
  circuitBacklog : List CircuitCompletion := []
  /-- the operations under way, by their attempt id -/
  ops : Table UUID Op := ∅
  /-- the attempt id that is generated next -/
  nextID : UUID := 0

inductive Label where
  | call (backend : Backend) (at' : Int)
  | ready (id : UUID) (now : Int)
  | acquire (id : UUID) (now : Int) (cancelled : Bool)
  | publish (id : UUID)
  | allow (id : UUID) (now : Int)
  | consult (id : UUID)
  | enter (id : UUID)
  | callback (id : UUID) (outcome : InferenceOutcome) (reported : Int)
  | complete (id : UUID) (reported now : Int)
  | buffer (id : UUID)
  | release (id : UUID)
  deriving DecidableEq, Repr

def State.goto (s : State) (id : UUID) (op : Op) : State := { s with ops := s.ops.insert id op }

def State.leave (s : State) (id : UUID) : State := { s with ops := s.ops.erase id }

def State.withCoordinator (s : State) (coordinator : CircuitCoordinator) : State :=
  { s with coordinator := coordinator }

/-- `AcquireBackend` asks the coordinator with this. -/
def acquireRequest (cfg : Config) (id : UUID) (backend : Backend) (at' : Int) :
    CircuitAcquireRequest where
  attemptID := id
  acquisitionStartedAt := at'
  replicaID := cfg.replicaID
  backend := backend.identity
  probeTTL := cfg.probeTTL

def completionOf (id : UUID) (backend : Backend) (generation : Int) (outcome : InferenceOutcome)
    (reported : Int) : CircuitCompletion where
  attemptID := id
  backend := backend.identity
  generation := generation
  outcome := outcome
  reportedOutcomeAt := reported

/-- The worker of the backend is still the one that was asked for. -/
def Config.current (cfg : Config) (backend : Backend) : Bool :=
  cfg.workers backend.identity.id == some backend

/-- One more request is in flight to the backend. -/
def State.publish (s : State) (id : UUID) (backend : Backend) (permit : Option ProbeIdentity) :
    State :=
  let backendID := backend.identity.id
  { s with
    backendInflight := Function.update s.backendInflight backendID (s.backendInflight backendID + 1)
    probes := match permit with
      | some permit => s.probes.insert id permit
      | none => s.probes }

/-- The deferred end of a callback. -/
def State.release (s : State) (id : UUID) (backend : Backend) : State :=
  let backendID := backend.identity.id
  let current := s.backendInflight backendID
  { s with
    probes := s.probes.erase id
    backendInflight := Function.update s.backendInflight backendID
      (if 1 < current then current - 1 else 0) }

def State.withBreaker (s : State) (backend : Backend) (breaker : Breaker) : State :=
  { s with breakers := Function.update s.breakers backend.identity.id breaker }

/-- The section of `acquireEmergencyBackend` under the monitor's mutex. -/
def acquireLocal (cfg : Config) (s : State) (id : UUID) (backend : Backend) (at' generation : Int) :
    State :=
  if !cfg.current backend then s.leave id
  else
    let (breaker, snapshot) :=
      CircuitBreaker.snapshot cfg.circuit (s.breakers backend.identity.id) at'
    let s := s.withBreaker backend breaker
    if snapshot.state ≠ .circuitClosed then s.leave id
    else
      let (breaker, completeLocal) := CircuitBreaker.acquire cfg.circuit breaker at'
      let s := s.withBreaker backend breaker
      match completeLocal with
      | none => s.leave id
      | some completeLocal =>
        (s.publish id backend none).goto id (.heldEmergency backend generation completeLocal)

/-- What the answer of `coordinationReady` does to an operation. -/
def afterReady (s : State) (id : UUID) (available : Bool) : Op → Option State
  | .called backend at' =>
    some (s.goto id (if available then .acquiring backend at' else .emergency backend at'))
  | .granted backend decision =>
    some (if available then s.goto id (.publishing backend decision) else s.leave id)
  | .asking backend generation outcome =>
    some (s.goto id
      (if available then .reporting backend generation outcome else .releasing backend))
  | _ => none

def next (cfg : Config) (s : State) : Label → Option State
  | .call backend at' =>
    if cfg.current backend then
      some ({ s with nextID := s.nextID + 1 }.goto s.nextID (.called backend at'))
    else some s
  | .ready id now =>
    match s.ops.lookup id with
    | some op =>
      let (coordinator, available) := LocalCircuit.status cfg.circuit s.coordinator now
      afterReady (s.withCoordinator coordinator) id available op
    | none => none
  | .acquire id now cancelled =>
    match s.ops.lookup id with
    | some (.acquiring backend at') =>
      if cancelled then some (s.goto id (.emergency backend at'))
      else
        let (coordinator, decision) := LocalCircuit.acquire cfg.circuit cfg.fingerprint
          s.coordinator now (acquireRequest cfg id backend at')
        let s := s.withCoordinator coordinator
        some (if decision.reason = none then s.goto id (.granted backend decision) else s.leave id)
    | _ => none
  | .publish id =>
    match s.ops.lookup id with
    | some (.publishing backend decision) =>
      some (if cfg.current backend then
          (s.publish id backend decision.permit).goto id
            (.held backend decision.snapshot.generation)
        else s.leave id)
    | _ => none
  | .allow id now =>
    match s.ops.lookup id with
    | some (.emergency backend at') =>
      -- the local coordinator is never permanently at fault
      some ((s.withCoordinator (LocalCircuit.status cfg.circuit s.coordinator now).1).goto id
        (.consulting backend at'))
    | _ => none
  | .consult id =>
    match s.ops.lookup id with
    | some (.consulting backend at') =>
      let (coordinator, cached) := LocalCircuit.snapshot cfg.circuit
        (LocalCircuit.expire cfg.circuit s.coordinator at') backend.identity.id at'
      let s := s.withCoordinator coordinator
      some (if cached.state = some .circuitClosed then
          s.goto id (.entering backend at' cached.generation)
        else s.leave id)
    | _ => none
  | .enter id =>
    match s.ops.lookup id with
    | some (.entering backend at' generation) =>
      some (acquireLocal cfg s id backend at' generation)
    | _ => none
  | .callback id outcome reported =>
    match s.ops.lookup id with
    | some (.held backend generation) =>
      some (s.goto id (if outcome ≠ .inferenceFailure then .asking backend generation outcome
        else .reporting backend generation outcome))
    | some (.heldEmergency backend generation completeLocal) =>
      let breaker := CircuitBreaker.complete cfg.circuit (s.breakers backend.identity.id)
        completeLocal outcome reported
      some ((s.withBreaker backend breaker).goto id (if outcome = .inferenceFailure then
          .buffering backend (completionOf id backend generation outcome reported)
        else .releasing backend))
    | _ => none
  | .complete id reported now =>
    match s.ops.lookup id with
    | some (.reporting backend generation outcome) =>
      -- what the coordinator may answer is a reason, and those are not replayed
      some ((s.withCoordinator (LocalCircuit.complete cfg.circuit s.coordinator now
        (completionOf id backend generation outcome reported)).1).goto id (.releasing backend))
    | _ => none
  | .buffer id =>
    match s.ops.lookup id with
    | some (.buffering backend completion) =>
      let backlog := RecoveryBarrier.newest (s.circuitBacklog ++ [completion])
      some ({ s with circuitBacklog := backlog }.goto id (.releasing backend))
    | _ => none
  | .release id =>
    match s.ops.lookup id with
    | some (.releasing backend) => some ((s.release id backend).leave id)
    | _ => none

/-- The monitor after both it and the coordinator were told of the backends. -/
def start (cfg : Config) (attemptCapacity now : Int) (values : List BackendIdentity) : State where
  coordinator := (LocalCircuit.reconcile cfg.circuit
    (LocalCircuit.newCircuitCoordinator attemptCapacity) now values).1

/-- Any number of operations around one monitor and the local coordinator. -/
def attempts (cfg : Config) (attemptCapacity now : Int) (values : List BackendIdentity) :
    System State Label where
  init := fun s => s = start cfg attemptCapacity now values
  step := fun s l s' => next cfg s l = some s'

/-! ## Who holds an attempt -/

/-- The operation will complete the attempt `a`. -/
def Op.Holds (a : CircuitAttempt) : Op → Prop
  | .granted backend decision | .publishing backend decision =>
    a.backend = backend.identity ∧ a.generation = decision.snapshot.generation ∧
      a.completion = none
  | .held backend generation | .asking backend generation _ | .reporting backend generation _ =>
    a.backend = backend.identity ∧ a.generation = generation ∧ a.completion = none
  | _ => False

/-- The operation has not asked the coordinator yet; it started at this instant. -/
def Op.unasked : Op → Option Int
  | .called _ at' | .acquiring _ at' => some at'
  | _ => none

def Op.backend : Op → Backend
  | .called backend _ | .acquiring backend _ | .granted backend _ | .publishing backend _
  | .emergency backend _ | .consulting backend _ | .entering backend _ _ | .held backend _
  | .heldEmergency backend _ _ | .asking backend _ _ | .reporting backend _ _
  | .buffering backend _ | .releasing backend => backend

/-- Every live attempt is held by an operation. -/
structure Tracked (cfg : Config) (s : State) : Prop where
  live : ∀ id a, s.coordinator.attempts.lookup id = some a → a.terminal = false →
    ∃ op, s.ops.lookup id = some op ∧ op.Holds a
  kept : LocalCircuit.Kept s.coordinator
  unasked : ∀ id op at', s.ops.lookup id = some op → op.unasked = some at' →
    s.coordinator.attempts.lookup id = none ∧ 0 ≤ at'
  current : ∀ id op, s.ops.lookup id = some op → cfg.current op.backend = true
  fresh : ∀ id, s.nextID ≤ id →
    s.coordinator.attempts.lookup id = none ∧ s.ops.lookup id = none

variable {cfg : Config}

variable {s s' t : State} {id : UUID} {op : Op} {at' : Int} {backend : Backend}
  {c : CircuitCoordinator}

theorem Tracked.live_le (h : Tracked cfg s) : liveAttempts s.coordinator ≤ Table.size s.ops := by
  have hle := Table.count_le_count (p := fun _ a => !a.terminal) (q := fun _ _ => true)
    (t := s.coordinator.attempts) (u := s.ops) fun id a ha hlive =>
      let ⟨op, hop, _⟩ := h.live id a ha (by simpa using hlive)
      ⟨op, hop, rfl⟩
  simpa [Table.count, Table.size, liveAttempts] using hle

/-- Fewer operations are under way than the coordinator has places. -/
def Spare (s : State) : Prop := (Table.size s.ops : Int) < s.coordinator.attemptCapacity

/-- With a place to spare coordination is ready. -/
theorem Tracked.available (h : Tracked cfg s) (hspare : Spare s) (now : Int) :
    (LocalCircuit.status cfg.circuit s.coordinator now).2 = true := by
  refine h.kept.available cfg.circuit now ?_
  have := h.live_le
  unfold Spare at hspare
  omega

/-! ### One operation moves on -/

/-- The operation `id` goes from `op` on, while the coordinator ends attempts only. -/
theorem Tracked.advance (h : Tracked cfg s) (hop : s.ops.lookup id = some op)
    (hpasses : Passes s.coordinator s'.coordinator) (hnext : s'.nextID = s.nextID)
    (hothers : ∀ id', id' ≠ id → s'.ops.lookup id' = s.ops.lookup id')
    (hholds : ∀ a, s'.coordinator.attempts.lookup id = some a → a.terminal = false →
      op.Holds a → ∃ op', s'.ops.lookup id = some op' ∧ op'.Holds a)
    (hunasked : ∀ op' at', s'.ops.lookup id = some op' → op'.unasked = some at' →
      op.unasked = some at')
    (hbackend : ∀ op', s'.ops.lookup id = some op' → op'.backend = op.backend) :
    Tracked cfg s' where
  live := fun id' a ha hlive => by
    obtain ⟨op', hop', hold⟩ := h.live id' a (hpasses.live id' a ha hlive) hlive
    by_cases hid : id' = id
    · subst hid
      rw [hop] at hop'
      cases hop'
      exact hholds a ha hlive hold
    · exact ⟨op', by rw [hothers id' hid]; exact hop', hold⟩
  kept := hpasses.kept h.kept
  unasked := fun id' op' at' hop' hu => by
    by_cases hid : id' = id
    · subst hid
      obtain ⟨hnone, hat⟩ := h.unasked id' op at' hop (hunasked op' at' hop' hu)
      exact ⟨hpasses.absent id' hnone, hat⟩
    · rw [hothers id' hid] at hop'
      obtain ⟨hnone, hat⟩ := h.unasked id' op' at' hop' hu
      exact ⟨hpasses.absent id' hnone, hat⟩
  current := fun id' op' hop' => by
    by_cases hid : id' = id
    · subst hid
      rw [hbackend op' hop']
      exact h.current id' op hop
    · rw [hothers id' hid] at hop'
      exact h.current id' op' hop'
  fresh := fun id' hid => by
    obtain ⟨hnone, hops⟩ := h.fresh id' (hnext ▸ hid)
    have hne : id' ≠ id := by
      rintro rfl
      rw [hop] at hops
      cases hops
    exact ⟨hpasses.absent id' hnone, by rw [hothers id' hne]; exact hops⟩

theorem lookup_goto (s : State) (id id' : UUID) (op : Op) :
    (s.goto id op).ops.lookup id' = if id' = id then some op else s.ops.lookup id' :=
  Table.lookup_insert_eq ..

theorem lookup_leave (s : State) (id id' : UUID) :
    (s.leave id).ops.lookup id' = if id' = id then none else s.ops.lookup id' :=
  Table.lookup_erase_eq ..

section

variable {op' : Op} (h : Tracked cfg s) (hop : s.ops.lookup id = some op)
  (hpasses : Passes s.coordinator t.coordinator) (hnext : t.nextID = s.nextID)
  (hops : t.ops = s.ops)

include h hop hpasses hnext hops

/-- The operation moves on to `op'`, which holds what it held. -/
theorem Tracked.goto (hholds : ∀ a, t.coordinator.attempts.lookup id = some a → a.terminal = false →
      op.Holds a → op'.Holds a) (hunasked : ∀ at', op'.unasked = some at' → op.unasked = some at')
    (hbackend : op'.backend = op.backend) : Tracked cfg (t.goto id op') := by
  refine h.advance hop hpasses hnext ?_ ?_ ?_ ?_
  · intro id' hid
    rw [lookup_goto, if_neg hid, hops]
  · intro a ha hlive hold
    exact ⟨op', by rw [lookup_goto, if_pos rfl], hholds a ha hlive hold⟩
  · intro op'' at' hop'' hu
    rw [lookup_goto, if_pos rfl] at hop''
    cases hop''
    exact hunasked at' hu
  · intro op'' hop''
    rw [lookup_goto, if_pos rfl] at hop''
    cases hop''
    exact hbackend

/-- The operation ends, and holds no live attempt. -/
theorem Tracked.leave (hholds : ∀ a, ¬ op.Holds a) : Tracked cfg (t.leave id) := by
  refine h.advance hop hpasses hnext ?_ ?_ ?_ ?_
  · intro id' hid
    rw [lookup_leave, if_neg hid, hops]
  · intro a _ _ hold
    exact absurd hold (hholds a)
  · intro op' at' hop'
    rw [lookup_leave, if_pos rfl] at hop'
    cases hop'
  · intro op' hop'
    rw [lookup_leave, if_pos rfl] at hop'
    cases hop'

end

/-! ## Every transition -/

/-- Operations start after the zero instant, and completions are reported in time. -/
def Timely : Label → Prop
  | .call _ at' => 0 ≤ at'
  | .complete _ reported now => Coordination.fresh reported now = true
  | _ => True

instance (l : Label) : Decidable (Timely l) :=
  match l with
  | .call .. => inferInstanceAs (Decidable (_ ≤ _))
  | .complete .. => inferInstanceAs (Decidable (_ = _))
  | .ready .. | .acquire .. | .publish .. | .allow .. | .consult .. | .enter .. | .callback ..
  | .buffer .. | .release .. => inferInstanceAs (Decidable True)

section

variable (h : Tracked cfg s) {coordinator : CircuitCoordinator} {generation : Int}
include h

theorem Tracked.called (hcurrent : cfg.current backend = true) (hat : 0 ≤ at') :
    Tracked cfg ({ s with nextID := s.nextID + 1 }.goto s.nextID (.called backend at')) where
  live := fun id a ha hlive => by
    obtain ⟨op, hop, hold⟩ := h.live id a ha hlive
    have hne : id ≠ s.nextID := by
      rintro rfl
      have hnone := (h.fresh s.nextID le_rfl).2
      rw [hop] at hnone
      cases hnone
    exact ⟨op, by rw [lookup_goto, if_neg hne]; exact hop, hold⟩
  kept := h.kept
  unasked := fun id op t hop hu => by
    rw [lookup_goto] at hop
    split at hop
    · next hid =>
      cases hop
      cases hu
      exact ⟨hid ▸ (h.fresh s.nextID le_rfl).1, hat⟩
    · exact h.unasked id op t hop hu
  current := fun id op hop => by
    rw [lookup_goto] at hop
    split at hop
    · cases hop
      exact hcurrent
    · exact h.current id op hop
  fresh := fun id hid => by
    obtain ⟨hnone, hops⟩ := h.fresh id (Nat.le_of_succ_le hid)
    have hne : id ≠ s.nextID := (Nat.lt_of_succ_le hid).ne'
    exact ⟨hnone, by rw [lookup_goto, if_neg hne]; exact hops⟩

/-- With a place to spare, `coordinationReady` answers true and the operation goes on. -/
theorem Tracked.afterReady (hop : s.ops.lookup id = some op)
    (hpasses : Passes s.coordinator coordinator)
    (hnext : afterReady (s.withCoordinator coordinator) id true op = some s') : Tracked cfg s' := by
  cases op with
  | called backend at' | granted backend decision | asking backend generation outcome =>
    cases hnext
    exact h.goto hop hpasses rfl rfl (fun _ _ _ hold => hold) (fun _ hu => hu) rfl
  | acquiring | publishing | emergency | consulting | entering | held | heldEmergency
  | reporting | buffering | releasing => cases hnext

/-- `Acquire` of the coordinator, for an operation without an attempt. -/
theorem Tracked.acquire (now : Int) (hop : s.ops.lookup id = some (.acquiring backend at'))
    {decision : CircuitDecision}
    (hacquire : LocalCircuit.acquire cfg.circuit cfg.fingerprint s.coordinator now
      (acquireRequest cfg id backend at') = (coordinator, decision)) :
    Tracked cfg (if decision.reason = none then
        (s.withCoordinator coordinator).goto id (.granted backend decision)
      else (s.withCoordinator coordinator).leave id) := by
  obtain ⟨hnone, hat⟩ := h.unasked id _ at' hop rfl
  have hcases := LocalCircuit.acquire_cases cfg.circuit cfg.fingerprint s.coordinator now
    (acquireRequest cfg id backend at') hnone
  rw [hacquire] at hcases
  obtain ⟨hpasses, hreason⟩ | ⟨hgrants, hreason⟩ := hcases
  · rw [if_neg hreason]
    exact h.leave hop hpasses rfl rfl fun _ hold => hold
  rw [if_pos hreason]
  constructor
  case live =>
    intro id' a ha hlive
    obtain ⟨hid, hnew⟩ | hold := hgrants.lookup ha hlive
    · refine ⟨.granted backend decision, ?_, hnew.backend, hnew.generation, hnew.completion⟩
      rw [lookup_goto]
      exact if_pos hid
    obtain ⟨op, hop', hholds⟩ := h.live id' a hold hlive
    have hne : id' ≠ id := by
      rintro rfl
      rw [hnone] at hold
      cases hold
    exact ⟨op, by rw [lookup_goto, if_neg hne]; exact hop', hholds⟩
  case kept => exact hgrants.kept h.kept hat
  case unasked =>
    intro id' op t hop' hu
    rw [lookup_goto] at hop'
    split at hop'
    · cases hop'
      cases hu
    · next hne =>
      obtain ⟨hnone', hat'⟩ := h.unasked id' op t hop' hu
      exact ⟨hgrants.absent hne hnone', hat'⟩
  case current =>
    intro id' op hop'
    rw [lookup_goto] at hop'
    split at hop'
    · cases hop'
      exact h.current id (.acquiring backend at') hop
    · exact h.current id' op hop'
  case fresh =>
    intro id' hid
    obtain ⟨hnone', hops⟩ := h.fresh id' hid
    have hne : id' ≠ id := by
      rintro rfl
      rw [hop] at hops
      cases hops
    exact ⟨hgrants.absent hne hnone', by rw [lookup_goto, if_neg hne]; exact hops⟩

/-- `Complete` of the coordinator ends the attempt, so nothing is held any more. -/
theorem Tracked.complete {reported now : Int} (hfresh : Coordination.fresh reported now = true)
    {outcome : InferenceOutcome}
    (hop : s.ops.lookup id = some (.reporting backend generation outcome)) :
    Tracked cfg ((s.withCoordinator (LocalCircuit.complete cfg.circuit s.coordinator now
      (completionOf id backend generation outcome reported)).1).goto id (.releasing backend)) := by
  have hmatch : Matches s.coordinator
      (completionOf id backend generation outcome reported) := by
    intro a ha hlive
    obtain ⟨op, hop', hholds⟩ := h.live id a ha hlive
    rw [hop] at hop'
    cases hop'
    exact hholds
  refine h.goto hop (LocalCircuit.passes_complete ..) rfl rfl ?_ nofun rfl
  intro a ha hlive _
  have hended := LocalCircuit.complete_ends cfg.circuit hfresh hmatch ha
  rw [hended] at hlive
  cases hlive

/-- The emergency path never holds an attempt. -/
theorem Tracked.acquireLocal (hop : s.ops.lookup id = some (.entering backend at' generation)) :
    Tracked cfg (acquireLocal cfg s id backend at' generation) := by
  unfold Attempts.acquireLocal
  have hleave : ∀ t : State, t.coordinator = s.coordinator → t.nextID = s.nextID →
      t.ops = s.ops → Tracked cfg (t.leave id) := by
    intro t hc hn ho
    exact h.leave hop (hc ▸ .refl _) hn ho fun _ hold => hold
  dsimp only
  split
  · exact hleave s rfl rfl rfl
  split
  · exact hleave _ rfl rfl rfl
  · split
    · exact hleave _ rfl rfl rfl
    · exact h.goto hop (.refl _) rfl rfl (fun _ _ _ hold => hold) nofun rfl

theorem Tracked.next {l : Label} (hspare : Spare s) (hl : Timely l)
    (hnext : next cfg s l = some s') : Tracked cfg s' := by
  have same := Passes.refl s.coordinator
  cases l <;> simp only [Attempts.next] at hnext
  case call backend at' =>
    split at hnext <;> cases hnext
    · next hcurrent => exact h.called hcurrent hl
    · exact h
  case ready id now =>
    split at hnext
    · next op hop =>
      rw [h.available hspare] at hnext
      exact h.afterReady hop (passes_status ..) hnext
    · cases hnext
  case acquire id now cancelled =>
    split at hnext
    · next backend at' hop =>
      split at hnext <;> cases hnext
      · exact h.goto hop same rfl rfl (fun _ _ _ hold => hold) nofun rfl
      · exact h.acquire now hop rfl
    · cases hnext
  case publish id =>
    split at hnext <;> cases hnext
    next backend decision hop =>
    have hcurrent : cfg.current backend = true := h.current id _ hop
    rw [if_pos hcurrent]
    exact h.goto hop same rfl rfl (fun _ _ _ hold => hold) nofun rfl
  case allow id now =>
    split at hnext <;> cases hnext
    next hop =>
    exact h.goto hop (passes_status ..) rfl rfl (fun _ _ _ hold => hold)
      nofun rfl
  case consult id =>
    split at hnext <;> cases hnext
    next backend at' hop =>
    have hpasses := (passes_expire cfg.circuit s.coordinator at').trans
      (LocalCircuit.passes_snapshot cfg.circuit _ backend.identity.id at')
    split
    · exact h.goto hop hpasses rfl rfl (fun _ _ _ hold => hold) nofun rfl
    · exact h.leave hop hpasses rfl rfl fun _ hold => hold
  case enter id =>
    split at hnext <;> cases hnext
    next hop => exact h.acquireLocal hop
  case callback id outcome reported =>
    split at hnext <;> cases hnext
    · next hop =>
      refine h.goto hop same rfl rfl (fun _ _ _ hold => ?_) (fun _ hu => ?_) ?_
      · split <;> exact hold
      · split at hu <;> cases hu
      · split <;> rfl
    · next hop =>
      refine h.goto hop same rfl rfl (fun _ _ _ hold => hold.elim) (fun _ hu => ?_) ?_
      · split at hu <;> cases hu
      · split <;> rfl
  case complete id reported now =>
    split at hnext <;> cases hnext
    next hop => exact h.complete hl hop
  case buffer id =>
    split at hnext <;> cases hnext
    next hop =>
    exact h.goto hop same rfl rfl (fun _ _ _ hold => hold) nofun rfl
  case release id =>
    split at hnext <;> cases hnext
    next hop => exact h.leave hop same rfl rfl fun _ hold => hold

end

/-! ## Attempts never leak -/

/-- An operation starts and ends in time, and leaves a place to spare. -/
def WithinCapacity (_ : State) (l : Label) (s' : State) : Prop := Timely l ∧ Spare s'

/-- The coordinator holds no attempt and has room for some. -/
def Vacant (c : CircuitCoordinator) : Prop :=
  (∀ id, c.attempts.lookup id = none) ∧ 0 < c.attemptCapacity

theorem Vacant.invalidate (h : Vacant c) (id now : Int) :
    Vacant (LocalCircuit.invalidate c id now) := by
  refine ⟨fun id' => ?_, h.2⟩
  simp only [LocalCircuit.invalidate, Table.lookup_mapRows, h.1 id', Option.map_none]

theorem Vacant.reconcileBackend (h : Vacant c) (now : Int) (value : BackendIdentity) :
    Vacant (LocalCircuit.reconcileBackend now c value) := by
  unfold LocalCircuit.reconcileBackend
  split
  · exact Vacant.invalidate (c := { c with circuits := c.circuits.erase value.id }) h _ _
  · split
    · exact h
    · exact h.invalidate value.id now

theorem Vacant.reconcileBackends (h : Vacant c) (now : Int) (seen : List Int)
    (values : List BackendIdentity) :
    Vacant (LocalCircuit.reconcileBackends now seen values c).1 := by
  induction values generalizing seen c with
  | nil => exact h
  | cons value values ih =>
    unfold LocalCircuit.reconcileBackends
    split
    · exact h
    · exact ih (h.reconcileBackend now value) _

theorem Vacant.drop (h : Vacant c) (now : Int) (gone : List Int) :
    Vacant (gone.foldl (fun c id =>
      LocalCircuit.invalidate { c with circuits := c.circuits.erase id } id now) c) := by
  induction gone generalizing c with
  | nil => exact h
  | cons id gone ih =>
    exact ih (Vacant.invalidate (c := { c with circuits := c.circuits.erase id }) h id now)

/-- A coordinator that was only told of the backends. -/
theorem vacant_start (cfg : Config) (attemptCapacity now : Int) (values : List BackendIdentity) :
    Vacant (start cfg attemptCapacity now values).coordinator := by
  have hnew : Vacant (LocalCircuit.newCircuitCoordinator attemptCapacity) := by
    refine ⟨fun id => AList.lookup_empty id, ?_⟩
    show 0 < if attemptCapacity ≤ 0 then LocalCircuit.defaultLocalCircuitAttemptCapacity
      else attemptCapacity
    split
    · decide
    · omega
  have hpasses := passes_expire cfg.circuit (LocalCircuit.newCircuitCoordinator attemptCapacity) now
  have hexpired : Vacant (LocalCircuit.expire cfg.circuit
      (LocalCircuit.newCircuitCoordinator attemptCapacity) now) :=
    ⟨fun id => hpasses.absent id (hnew.1 id), by rw [hpasses.capacity]; exact hnew.2⟩
  have hloop := hexpired.reconcileBackends now [] values
  show Vacant (LocalCircuit.reconcile cfg.circuit _ now values).1
  unfold LocalCircuit.reconcile
  split
  · next hresult =>
    rw [hresult] at hloop
    exact hloop
  · next hresult =>
    rw [hresult] at hloop
    exact hloop.drop now _

theorem tracked_start (cfg : Config) (attemptCapacity now : Int)
    (values : List BackendIdentity) : Tracked cfg (start cfg attemptCapacity now values) := by
  have hnone := (vacant_start cfg attemptCapacity now values).1
  constructor
  case live =>
    intro id a ha
    rw [hnone] at ha
    cases ha
  case kept =>
    constructor <;> intro id a ha <;> rw [hnone] at ha <;> cases ha
  case unasked =>
    intro id op at' hop
    cases hop
  case current =>
    intro id op hop
    cases hop
  case fresh => exact fun id _ => ⟨hnone id, rfl⟩

/-- **Attempts never leak** as long as fewer operations are under way than the coordinator
    has places and completions are reported in time: when no operation is left, every
    attempt is terminal and the coordinator is available. -/
theorem attempts_never_leak (cfg : Config) (attemptCapacity now : Int)
    (values : List BackendIdentity) (s : State)
    (h : ((attempts cfg attemptCapacity now values).restrict WithinCapacity).Reachable s)
    (hquiet : Table.size s.ops = 0) :
    (∀ id a, s.coordinator.attempts.lookup id = some a → a.terminal = true) ∧
    ∀ later, (LocalCircuit.status cfg.circuit s.coordinator later).2 = true := by
  have hinv : Tracked cfg s ∧ Spare s := by
    refine System.invariant _ (I := fun s => Tracked cfg s ∧ Spare s) ?_ ?_ h
    · rintro s rfl
      exact ⟨tracked_start .., (vacant_start cfg attemptCapacity now values).2⟩
    · intro s l s' hs hstep
      exact ⟨hs.1.next hs.2 hstep.2.1 hstep.1, hstep.2.2⟩
  refine ⟨fun id a ha => ?_, hinv.1.available hinv.2⟩
  cases hterminal : a.terminal with
  | true => rfl
  | false =>
    obtain ⟨op, hop, -⟩ := hinv.1.live id a ha hterminal
    have := Table.size_erase_of_some hop
    omega

/-! ### Runs over one backend -/

def oneBackend : Backend where
  identity := { id := 1, revision := 1, enabled := true }

def oneBackendConfig : Config where
  circuit := .of 1 (10 * second) (2 * second) 1 (by decide)
  fingerprint := fun _ => 0
  workers := fun id => if id = 1 then some oneBackend else none
  replicaID := 1
  probeTTL := 30 * second

/-- A request that succeeds. -/
def oneRequest : List Label :=
  [.call oneBackend (5 * second), .ready 0 (5 * second), .acquire 0 (5 * second) false,
   .ready 0 (5 * second), .publish 0, .callback 0 .inferenceSuccess (6 * second),
   .ready 0 (6 * second), .complete 0 (6 * second) (6 * second), .release 0]

instance (s : State) (l : Label) (s' : State) : Decidable (WithinCapacity s l s') :=
  inferInstanceAs (Decidable (Timely l ∧ (_ : Int) < _))

def nextWithin (cfg : Config) (s : State) (l : Label) : Option State :=
  (next cfg s l).filter fun s' => decide (WithinCapacity s l s')

theorem nextWithin_step {attemptCapacity now : Int} {values : List BackendIdentity} (s : State)
    (l : Label) (s' : State) (h : nextWithin cfg s l = some s') :
    ((attempts cfg attemptCapacity now values).restrict WithinCapacity).step s l s' := by
  obtain ⟨hnext, hwithin⟩ := Option.filter_eq_some_iff.mp h
  exact ⟨hnext, of_decide_eq_true hwithin⟩

def oneStart (attemptCapacity : Int) : State :=
  start oneBackendConfig attemptCapacity 0 [oneBackend.identity]

/-- The state after the request, with two places. -/
def served : State :=
  (oneRequest.foldlM (nextWithin oneBackendConfig) (oneStart 2)).getD (oneStart 2)

theorem attempts_never_leak_served :
    served.coordinator.attempts.keys = [0] ∧
    (∀ id a, served.coordinator.attempts.lookup id = some a → a.terminal = true) ∧
    ∀ later, (LocalCircuit.status oneBackendConfig.circuit served.coordinator later).2 = true := by
  refine ⟨by decide +kernel, attempts_never_leak oneBackendConfig 2 0 [oneBackend.identity] served
    ?_ (by decide +kernel)⟩
  exact System.reachable_of_isSome _ nextWithin_step rfl oneRequest (by decide +kernel)

/-- The same request with one place, up to the second `coordinationReady`. -/
def droppedRequest : List Label := oneRequest.take 4

def dropped : State :=
  (droppedRequest.foldlM (next oneBackendConfig) (oneStart 1)).getD (oneStart 1)

/-- With one place the granted attempt fills the table, the second check finds coordination
    not ready, and the grant is dropped: no callback is left, the attempt stays, and the
    coordinator is not available. -/
theorem attempt_leaks :
    (attempts oneBackendConfig 1 0 [oneBackend.identity]).Reachable dropped ∧
    Table.size dropped.ops = 0 ∧
    (dropped.coordinator.attempts.lookup 0).map CircuitAttempt.terminal = some false ∧
    (LocalCircuit.status oneBackendConfig.circuit dropped.coordinator (7 * second)).2 = false := by
  refine ⟨?_, by decide +kernel, by decide +kernel, by decide +kernel⟩
  exact System.reachable_of_isSome _ (fun _ _ _ => id) rfl droppedRequest (by decide +kernel)

end Monitor.Attempts
