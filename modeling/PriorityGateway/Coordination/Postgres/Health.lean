import PriorityGateway.Framework.System
import PriorityGateway.Coordination.Errors

/-! # Health of the PostgreSQL Coordinators

    What the admission coordinator, the circuit coordinator and the replica
    manager report about themselves, as it follows from the results of their
    database operations.

    A permanent fault is meant to stay until the process ends.  The setter
    that most operations share respects it.  Two places write the status
    themselves: a successful `Refresh` of the circuit coordinator makes it
    available again, and a heartbeat that meets an incompatible replica
    replaces the whole status (`permanent_fault_is_lost`).  Without these two
    a permanent fault stays (`permanent_faults_stick`).

    A call is given with the results of its database work; the statements
    behind them are in the other modules.  Reports to the failure observer
    are left out, they do not come back to the status. -/

namespace Coordination.PostgresHealth

/-! ## The status and its setters -/

structure Status where
  backend : String := "postgres"
  available : Bool := false
  degraded : Bool := false
  permanent : Bool := false
  lastSuccess : Int := 0
  reason : Option Reason := none
  deriving DecidableEq, Repr

/-- `setStatus`, shared by the two coordinators. -/
def setStatus (s : Status) (ok : Bool) (reason : Option Reason) (now : Int) : Status :=
  if s.permanent then s
  else
    { s with
      available := ok
      degraded := !ok
      reason := reason
      lastSuccess := if ok then now else s.lastSuccess }

/-- `setPermanent`, shared by the two coordinators. -/
def setPermanent (s : Status) : Status :=
  { s with
    available := false
    degraded := false
    permanent := true
    reason := some .coordinationUnavailable }

def recordCoordinationError (done : Bool) (err : Err) (s : Status) : Status × Err :=
  if err = .nil ∨ isCallerCancellation done err then (s, err)
  else if err.isReason then (s, err)
  else if permanentCoordinationError err then
    (setPermanent s, if err.isPermanent then err else .permanentError err)
  else (setStatus s false (some .coordinationUnavailable) 0, err)

/-- A loop that makes a second attempt after a retryable error. -/
def attemptTwice {α : Type} (expired : Bool) (error : α → Err) (first second : α) : α :=
  if error first = .nil ∨ !retryableCoordinationError (error first) ∨ expired then first
  else second

/-- The first error of a loop that stops at it. -/
def firstError : List Err → Err
  | [] => .nil
  | .nil :: errs => firstError errs
  | err :: _ => err

/-! ## AdmissionCoordinator -/

/-- A call with the results of its database work.  `done` tells whether the caller's context
    ended, `expired` whether the operation's own deadline passed. -/
inductive AdmissionCall where
  | refreshInflight (done : Bool) (result : Err)
  | acquire (done expired : Bool) (first second : Err) (inflight : Err)
  | renew (done : Bool) (batches : List Err) (inflight : Err)
  | complete (done : Bool) (items : List Err) (inflight : Err)
  | cleanupBatch (done : Bool) (result : Err)
  deriving DecidableEq, Repr

def newAdmissionCoordinator : Status := { available := true }

def refreshInflight (s : Status) (now : Int) (done : Bool) (result : Err) : Status × Err :=
  if result = .nil then (setStatus s true none now, .nil)
  else recordCoordinationError done result s

/-- The end of `Acquire`, `Renew` and `Complete`. -/
def concludeAdmission (s : Status) (now : Int) (done : Bool) (result inflight : Err) :
    Status × Err :=
  if result ≠ .nil then recordCoordinationError done result s
  else ((refreshInflight (setStatus s true none now) now done inflight).1, .nil)

def admission : Machine Status (Int × AdmissionCall) Err where
  step := fun s c =>
    match c with
    | (now, .refreshInflight done result) => refreshInflight s now done result
    | (now, .acquire done expired first second inflight) =>
      concludeAdmission s now done (attemptTwice expired id first second) inflight
    | (now, .renew done batches inflight) =>
      concludeAdmission s now done (firstError batches) inflight
    | (now, .complete done items inflight) =>
      concludeAdmission s now done (firstError items) inflight
    | (_, .cleanupBatch done result) => recordCoordinationError done result s

/-! ## CircuitCoordinator -/

/-- One attempt of `Acquire` or `Complete`: the fast path for a closed circuit, and the
    transaction if that did not handle the call. -/
structure Attempt where
  handled : Bool
  closed : Err
  transaction : Err
  deriving DecidableEq, Repr

def Attempt.error (a : Attempt) : Err :=
  if a.closed = .nil ∧ !a.handled then a.transaction else a.closed

inductive CircuitCall where
  | acquire (done expired : Bool) (first second : Attempt) (refresh : Err)
  | complete (done expired : Bool) (first second : Attempt) (refresh : Err)
  | renewProbes (done : Bool) (result : Err) (refresh : Err)
  | reconcile (done : Bool) (result : Err) (refresh : Err)
  | refresh (done : Bool) (result : Err)
  | cleanupBatch (done : Bool) (result : Err)
  deriving DecidableEq, Repr

def newCircuitCoordinator : Status := { available := true }

/-- `Refresh` writes the status without asking for a permanent fault. -/
def refresh (s : Status) (now : Int) (done : Bool) (result : Err) : Status × Err :=
  if result = .nil then
    ({ s with available := true, degraded := false, reason := none, lastSuccess := now }, .nil)
  else recordCoordinationError done result s

def concludeAttempt (s : Status) (now : Int) (done : Bool) (a : Attempt) (refreshed : Err) :
    Status × Err :=
  if a.error ≠ .nil then
    if a.error.isReason then
      (if a.handled then s else setStatus s true none now, a.error)
    else recordCoordinationError done a.error s
  else if a.handled then (s, .nil)
  else ((refresh (setStatus s true none now) now done refreshed).1, .nil)

def circuit : Machine Status (Int × CircuitCall) Err where
  step := fun s c =>
    match c with
    | (now, .acquire done expired first second refreshed)
    | (now, .complete done expired first second refreshed) =>
      concludeAttempt s now done (attemptTwice expired Attempt.error first second) refreshed
    | (now, .renewProbes done result refreshed) =>
      if result ≠ .nil then recordCoordinationError done result s
      else ((refresh (setStatus s true none now) now done refreshed).1, .nil)
    | (now, .reconcile done result refreshed) =>
      if result ≠ .nil then recordCoordinationError done result s
      else
        -- what `Refresh` returns is recorded a second time
        let (s, err) := refresh s now done refreshed
        recordCoordinationError done err s
    | (now, .refresh done result) => refresh s now done result
    | (_, .cleanupBatch done result) => recordCoordinationError done result s

/-! ## ReplicaManager -/

/-- The results of one heartbeat transaction. -/
structure Beat where
  /-- the statements up to the count of incompatible replicas -/
  counted : Err
  incompatible : Nat
  /-- the registration or its update, the count of compatible replicas and the commit -/
  committed : Err
  active : Nat
  deriving DecidableEq, Repr

structure ReplicaManager where
  status : Status := {}
  active : Nat := 0
  incompatible : Bool := false
  deriving DecidableEq, Repr

/-- The body of `heartbeatOnce` without its deferred function. -/
def heartbeatTransaction (m : ReplicaManager) (now : Int) (beat : Beat) : ReplicaManager × Err :=
  if beat.counted ≠ .nil then (m, beat.counted)
  else if 0 < beat.incompatible then
    ({ m with
       incompatible := true
       status := { available := false, reason := some .idempotencyConflict } },
      .reasonError .idempotencyConflict)
  else if beat.committed ≠ .nil then (m, beat.committed)
  else
    let m := { m with active := beat.active }
    if m.status.permanent then
      (m, .permanentError (.text "replica coordination fault is permanent for this process"))
    else if m.incompatible then (m, .reasonError .idempotencyConflict)
    else ({ m with status := { available := true, lastSuccess := now } }, .nil)

def heartbeatOnce (m : ReplicaManager) (now : Int) (beat : Beat) : ReplicaManager × Err :=
  let (m, err) := heartbeatTransaction m now beat
  if err = .nil ∨ !permanentCoordinationError err then (m, err)
  else
    ({ m with status := { permanent := true, reason := some .coordinationUnavailable } },
      if err.isPermanent then err else .permanentError err)

def isSerializationFailure (err : Err) : Bool := err.pgCode == some "40001"

structure HeartbeatCall where
  first : Beat
  second : Beat
  /-- the error of the context after the first attempt, and after the second -/
  ended : Err := .nil
  endedAgain : Err := .nil
  deriving DecidableEq, Repr

/-- An attempt of `retryReplicaHeartbeat` returns this, unless it is retried. -/
def attempted (err ended : Err) : Option Err :=
  if err = .nil ∨ !isSerializationFailure err then some err
  else if ended ≠ .nil then some ended
  else none

def retryReplicaHeartbeat (m : ReplicaManager) (now : Int) (c : HeartbeatCall) :
    ReplicaManager × Err :=
  let (m, err) := heartbeatOnce m now c.first
  match attempted err c.ended with
  | some err => (m, err)
  | none =>
    let (m, err) := heartbeatOnce m now c.second
    (m, (attempted err c.endedAgain).getD err)

def failed (m : ReplicaManager) : ReplicaManager :=
  let status := { m.status with
    available := false, degraded := true, reason := some .coordinationUnavailable }
  { m with status := status }

/-- `heartbeat`; registration and refresh differ in the statement they send only. -/
def heartbeat (m : ReplicaManager) (now : Int) (c : HeartbeatCall) : ReplicaManager × Err :=
  let (m, err) := retryReplicaHeartbeat m now c
  if err ≠ .nil ∧ !permanentCoordinationError err ∧ !err.isReason then (failed m, err)
  else (m, err)

def replica : Machine ReplicaManager (Int × HeartbeatCall) Err where
  step := fun m c => heartbeat m c.1 c.2

/-! ## Permanent faults -/

/-- A component at a permanent fault is not available. -/
def Status.Sound (s : Status) : Prop := s.permanent = true → s.available = false

/-- At a permanent fault. -/
structure Status.Faulted (s : Status) : Prop where
  permanent : s.permanent = true
  unavailable : s.available = false

/-- On the way from `s` to `s'` a permanent fault stays. -/
structure Sticks (s s' : Status) : Prop where
  sound : s.Sound → s'.Sound
  faulted : s.Faulted → s'.Faulted

theorem Sticks.refl (s : Status) : Sticks s s := ⟨id, id⟩

variable {s : Status} {m : ReplicaManager} {result : Err} {beat : Beat}

theorem Sticks.trans {s' s'' : Status} (h : Sticks s s') (h' : Sticks s' s'') : Sticks s s'' :=
  ⟨fun hs => h'.sound (h.sound hs), fun hs => h'.faulted (h.faulted hs)⟩

theorem sticks_setStatus (s : Status) (ok : Bool) (reason : Option Reason) (now : Int) :
    Sticks s (setStatus s ok reason now) := by
  unfold setStatus
  by_cases hperm : s.permanent = true
  · rw [if_pos hperm]
    exact .refl s
  · rw [if_neg hperm]
    exact ⟨fun _ h => absurd h hperm, fun h => absurd h.permanent hperm⟩

theorem sticks_record (done : Bool) (err : Err) (s : Status) :
    Sticks s (recordCoordinationError done err s).1 := by
  unfold recordCoordinationError
  split
  · exact .refl s
  split
  · exact .refl s
  · split
    · exact ⟨fun _ _ => rfl, fun _ => ⟨rfl, rfl⟩⟩
    · exact sticks_setStatus s ..

/-! ### The admission coordinator -/

theorem sticks_refreshInflight (s : Status) (now : Int) (done : Bool) (result : Err) :
    Sticks s (refreshInflight s now done result).1 := by
  unfold refreshInflight
  split
  · exact sticks_setStatus s ..
  · exact sticks_record done result s

theorem sticks_concludeAdmission (s : Status) (now : Int) (done : Bool) (result inflight : Err) :
    Sticks s (concludeAdmission s now done result inflight).1 := by
  unfold concludeAdmission
  split
  · exact sticks_record done result s
  · exact (sticks_setStatus s ..).trans (sticks_refreshInflight ..)

theorem sticks_admission (s : Status) (c : Int × AdmissionCall) :
    Sticks s (admission.step s c).1 := by
  obtain ⟨now, c⟩ := c
  cases c with
  | refreshInflight => exact sticks_refreshInflight ..
  | acquire | renew | complete => exact sticks_concludeAdmission ..
  | cleanupBatch done result => exact sticks_record done result s

/-! ### The circuit coordinator -/

/-- The call ends in a `Refresh` whose database work succeeds. -/
def CircuitCall.refreshes : CircuitCall → Bool
  | .acquire _ expired first second refreshed | .complete _ expired first second refreshed =>
    let a := attemptTwice expired Attempt.error first second
    a.error == .nil && !a.handled && refreshed == .nil
  | .renewProbes _ result refreshed | .reconcile _ result refreshed =>
    result == .nil && refreshed == .nil
  | .refresh _ result => result == .nil
  | .cleanupBatch _ _ => false

/-- `Refresh` keeps a permanent fault as long as it fails. -/
theorem sticks_refresh (now : Int) (done : Bool)
    (h : s.permanent = true → result ≠ .nil) : Sticks s (refresh s now done result).1 := by
  unfold refresh
  split
  · next hnil =>
    have hnot : s.permanent ≠ true := fun hperm => h hperm hnil
    exact ⟨fun _ hperm => absurd hperm hnot, fun hf => absurd hf.permanent hnot⟩
  · exact sticks_record done result s

theorem setStatus_permanent (s : Status) (ok : Bool) (reason : Option Reason) (now : Int) :
    (setStatus s ok reason now).permanent = s.permanent := by
  unfold setStatus
  split <;> rfl

theorem sticks_setStatus_refresh (now : Int) (done : Bool)
    (h : s.permanent = true → result ≠ .nil) :
    Sticks s (refresh (setStatus s true none now) now done result).1 :=
  (sticks_setStatus s ..).trans (sticks_refresh now done (by rwa [setStatus_permanent]))

theorem sticks_concludeAttempt (now : Int) (done : Bool) {a : Attempt} {refreshed : Err}
    (h : s.permanent = true → ¬ (a.error = .nil ∧ a.handled = false ∧ refreshed = .nil)) :
    Sticks s (concludeAttempt s now done a refreshed).1 := by
  unfold concludeAttempt
  split
  · split
    · dsimp only
      split
      · exact .refl s
      · exact sticks_setStatus s ..
    · exact sticks_record done a.error s
  · next herr =>
    split
    · exact .refl s
    · next hhandled =>
      refine sticks_setStatus_refresh now done fun hperm hnil => ?_
      exact h hperm ⟨not_not.mp herr, by simpa using hhandled, hnil⟩

theorem sticks_circuit {c : Int × CircuitCall} (h : s.permanent = true → c.2.refreshes = false) :
    Sticks s (circuit.step s c).1 := by
  obtain ⟨now, c⟩ := c
  cases c with
  | acquire | complete =>
    refine sticks_concludeAttempt now _ fun hperm hdone => ?_
    have := h hperm
    simp [CircuitCall.refreshes, hdone] at this
  | renewProbes done result refreshed =>
    show Sticks s (if _ then _ else _ : Status × Err).1
    split
    · exact sticks_record done result s
    next hok =>
    refine sticks_setStatus_refresh now done fun hperm hnil => ?_
    have := h hperm
    simp [CircuitCall.refreshes, not_not.mp hok, hnil] at this
  | reconcile done result refreshed =>
    show Sticks s (if _ then _ else _ : Status × Err).1
    split
    · exact sticks_record done result s
    next hok =>
    refine (sticks_refresh now done fun hperm hnil => ?_).trans (sticks_record ..)
    have := h hperm
    simp [CircuitCall.refreshes, not_not.mp hok, hnil] at this
  | refresh done result =>
    refine sticks_refresh now done fun hperm hnil => ?_
    have := h hperm
    simp [CircuitCall.refreshes, hnil] at this
  | cleanupBatch done result => exact sticks_record done result s

/-! ### The replica manager -/

/-- The transaction meets an incompatible replica. -/
def Beat.conflicts (beat : Beat) : Bool := beat.counted == .nil && decide (0 < beat.incompatible)

/-- Whatever a transaction writes, it never calls a permanent fault available. -/
theorem Status.Sound.transaction (h : m.status.Sound) (now : Int) (beat : Beat) :
    (heartbeatTransaction m now beat).1.status.Sound := by
  unfold heartbeatTransaction
  split
  · exact h
  split
  · nofun
  split
  · exact h
  dsimp only
  split
  · exact h
  split
  · exact h
  · nofun

theorem Status.Faulted.transaction (h : m.status.Faulted) (now : Int)
    (hbeat : beat.conflicts = false) : (heartbeatTransaction m now beat).1.status.Faulted := by
  unfold heartbeatTransaction
  split
  · exact h
  next hcounted =>
  split
  · next hconflict => simp [Beat.conflicts, not_not.mp hcounted, hconflict] at hbeat
  split
  · exact h
  · dsimp only
    rw [if_pos h.permanent]
    exact h

/-- The deferred function of `heartbeatOnce` sets a permanent fault or does nothing. -/
theorem heartbeatOnce_cases (m : ReplicaManager) (now : Int) (beat : Beat) :
    (heartbeatOnce m now beat).1 = (heartbeatTransaction m now beat).1 ∨
      (heartbeatOnce m now beat).1.status.Faulted := by
  unfold heartbeatOnce
  dsimp only
  split
  · exact .inl rfl
  · exact .inr ⟨rfl, rfl⟩

theorem Status.Sound.heartbeatOnce (h : m.status.Sound) (now : Int) (beat : Beat) :
    (heartbeatOnce m now beat).1.status.Sound := by
  obtain heq | hfaulted := heartbeatOnce_cases m now beat
  · rw [heq]
    exact h.transaction now beat
  · exact fun _ => hfaulted.unavailable

theorem Status.Faulted.heartbeatOnce (h : m.status.Faulted) (now : Int)
    (hbeat : beat.conflicts = false) : (heartbeatOnce m now beat).1.status.Faulted := by
  obtain heq | hfaulted := heartbeatOnce_cases m now beat
  · rw [heq]
    exact h.transaction now hbeat
  · exact hfaulted

theorem sticks_failed (m : ReplicaManager) : Sticks m.status (failed m).status :=
  ⟨fun _ _ => rfl, fun h => ⟨h.permanent, rfl⟩⟩

/-- What a heartbeat is made of: one attempt or two, and perhaps `failed`. -/
theorem heartbeat_cases (m : ReplicaManager) (now : Int) (c : HeartbeatCall) :
    ∃ m', (m' = (heartbeatOnce m now c.first).1 ∨
        m' = (heartbeatOnce (heartbeatOnce m now c.first).1 now c.second).1) ∧
      ((heartbeat m now c).1 = m' ∨ (heartbeat m now c).1 = failed m') := by
  have hretry : (retryReplicaHeartbeat m now c).1 = (heartbeatOnce m now c.first).1 ∨
      (retryReplicaHeartbeat m now c).1
        = (heartbeatOnce (heartbeatOnce m now c.first).1 now c.second).1 := by
    unfold retryReplicaHeartbeat
    dsimp only
    split
    · exact .inl rfl
    · exact .inr rfl
  refine ⟨_, hretry, ?_⟩
  unfold heartbeat
  dsimp only
  split
  · exact .inr rfl
  · exact .inl rfl

/-- The heartbeat meets no incompatible replica. -/
def HeartbeatCall.compatible (c : HeartbeatCall) : Bool :=
  !c.first.conflicts && !c.second.conflicts

theorem Status.Sound.heartbeat (h : m.status.Sound) (now : Int) (c : HeartbeatCall) :
    (heartbeat m now c).1.status.Sound := by
  obtain ⟨m', hm', heq | heq⟩ := heartbeat_cases m now c
  all_goals
    have hsound : m'.status.Sound := by
      obtain rfl | rfl := hm'
      · exact h.heartbeatOnce now c.first
      · exact (h.heartbeatOnce now c.first).heartbeatOnce now c.second
    rw [heq]
  · exact hsound
  · exact (sticks_failed m').sound hsound

theorem Status.Faulted.heartbeat (h : m.status.Faulted) (now : Int) {c : HeartbeatCall}
    (hc : c.compatible = true) : (heartbeat m now c).1.status.Faulted := by
  simp only [HeartbeatCall.compatible, Bool.and_eq_true, Bool.not_eq_true'] at hc
  obtain ⟨m', hm', heq | heq⟩ := heartbeat_cases m now c
  all_goals
    have hfaulted : m'.status.Faulted := by
      obtain rfl | rfl := hm'
      · exact h.heartbeatOnce now hc.1
      · exact (h.heartbeatOnce now hc.1).heartbeatOnce now hc.2
    rw [heq]
  · exact hfaulted
  · exact (sticks_failed m').faulted hfaulted

/-! ### Whole runs -/

/-- A permanent fault, once there, is there after every further call: `status` of the state
    after `before` tells of it, and it is not available again after `later` either. -/
def Stays {State Call Answer : Type} (M : Machine State Call Answer) (status : State → Status)
    (start : State) (before later : List Call) : Prop :=
  (status (M.after start before)).permanent = true →
    (status (M.after start (before ++ later))).Faulted

/-- The run rule: a call keeps the status sound, and keeps a permanent fault if it is
    admissible. -/
theorem stays_of_step {State Call Answer : Type} {M : Machine State Call Answer}
    {status : State → Status} {G : State → Call → Prop} {start : State}
    (hstart : (status start).Sound)
    (hsound : ∀ s c, (status s).Sound → G s c → (status (M.step s c).1).Sound)
    (hfaulted : ∀ s c, (status s).Faulted → G s c → (status (M.step s c).1).Faulted)
    (before later : List Call) (hG : M.Along G start (before ++ later)) :
    Stays M status start before later := by
  intro hperm
  obtain ⟨hbefore, hlater⟩ := (M.along_append start before later).mp hG
  have hmid : (status (M.after start before)).Sound :=
    M.after_inv (I := fun s => (status s).Sound) hsound start before hstart hbefore
  rw [M.after_append]
  exact M.after_inv (I := fun s => (status s).Faulted) hfaulted _ later ⟨hperm, hmid hperm⟩ hlater

/-- **Permanent faults stick**, in the admission coordinator under all calls, in the circuit
    coordinator as long as no `Refresh` succeeds at the fault, and in the replica manager as
    long as no heartbeat meets an incompatible replica at it. -/
theorem permanent_faults_stick (admissions admissions' : List (Int × AdmissionCall))
    (attempts attempts' : List (Int × CircuitCall)) (beats beats' : List (Int × HeartbeatCall))
    (hattempts : circuit.Along (fun s c => s.permanent = true → c.2.refreshes = false)
      newCircuitCoordinator (attempts ++ attempts'))
    (hbeats : replica.Along (fun m c => m.status.permanent = true → c.2.compatible = true)
      {} (beats ++ beats')) :
    Stays admission id newAdmissionCoordinator admissions admissions' ∧
    Stays circuit id newCircuitCoordinator attempts attempts' ∧
    Stays replica ReplicaManager.status {} beats beats' := by
  refine ⟨?_, ?_, ?_⟩
  · refine stays_of_step (G := fun _ _ => True) (fun hperm => by cases hperm) ?_ ?_ _ _
      (admission.along_of_forall (G := fun _ => True) _ _ fun _ _ => trivial)
    · exact fun s c hs _ => (sticks_admission s c).sound hs
    · exact fun s c hs _ => (sticks_admission s c).faulted hs
  · refine stays_of_step (fun hperm => by cases hperm) ?_ ?_ _ _ hattempts
    · exact fun s c hs hc => (sticks_circuit hc).sound hs
    · exact fun s c hs hc => (sticks_circuit hc).faulted hs
  · refine stays_of_step (fun hperm => by cases hperm) ?_ ?_ _ _ hbeats
    · exact fun m c hm _ => hm.heartbeat c.1 c.2
    · exact fun m c hm hc => hm.heartbeat c.1 (hc hm.permanent)

/-! ### Runs around a unique violation, which is a permanent error -/

def uniqueViolation : Err := .pgError "23505"

def plainBeat : Beat := ⟨.nil, 0, .nil, 1⟩

/-- A heartbeat whose first transaction has these results. -/
def beating (beat : Beat) : HeartbeatCall where
  first := beat
  second := plainBeat

def violatedRefresh : List (Int × CircuitCall) := [(1, .refresh false uniqueViolation)]

def violatedHeartbeat : List (Int × HeartbeatCall) :=
  [(1, beating ⟨uniqueViolation, 0, .nil, 1⟩)]

/-- The admission coordinator succeeds again, the circuit coordinator renews but cannot
    refresh, and the replica is compatible: the fault stays. -/
theorem permanent_faults_stick_uniqueViolation :
    (admission.after newAdmissionCoordinator
      ([(1, .refreshInflight false uniqueViolation)]
        ++ [(2, .refreshInflight false .nil)])).Faulted ∧
    (circuit.after newCircuitCoordinator
      (violatedRefresh ++ [(2, .renewProbes false .nil (.pgError "57P01"))])).Faulted ∧
    (replica.after {} (violatedHeartbeat ++ [(2, beating plainBeat)])).status.Faulted := by
  obtain ⟨hadmission, hcircuit, hreplica⟩ := permanent_faults_stick
    [(1, .refreshInflight false uniqueViolation)] [(2, .refreshInflight false .nil)]
    violatedRefresh [(2, .renewProbes false .nil (.pgError "57P01"))]
    violatedHeartbeat [(2, beating plainBeat)] (by decide +kernel) (by decide +kernel)
  exact ⟨hadmission (by decide +kernel), hcircuit (by decide +kernel), hreplica (by decide +kernel)⟩

/-- A successful `Refresh` at a permanent fault makes the circuit coordinator available, and a
    heartbeat that meets an incompatible replica forgets the permanent fault. -/
theorem permanent_fault_is_lost :
    (circuit.after newCircuitCoordinator violatedRefresh).permanent = true ∧
    (circuit.after newCircuitCoordinator (violatedRefresh ++ [(2, .refresh false .nil)])).available
      = true ∧
    (replica.after {} violatedHeartbeat).status.permanent = true ∧
    (replica.after {}
      (violatedHeartbeat ++ [(2, beating ⟨.nil, 1, .nil, 1⟩)])).status.permanent = false := by
  decide +kernel

end Coordination.PostgresHealth
