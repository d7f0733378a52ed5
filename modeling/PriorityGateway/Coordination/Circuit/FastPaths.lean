import PriorityGateway.Coordination.Circuit.PostgresRefinement

/-! # The Query Answers as the Transaction Would

    `Acquire` and `Complete` first read the committed rows with one query, and
    answer from it when they can.  The answer is compared with that of the
    transaction on the same tables at the same instant.

    On a half-open circuit the query decides only that a request is stale; the
    transaction first ends the generation of an expired probe, which keeps the
    request stale.  Two things set them apart: they cut a window that is not of
    whole microseconds differently, and the transaction fails when the expired
    probe is an active failure of another backend or revision. -/

namespace Coordination.PostgresCircuit

open CircuitBreaker (Options)
open PostgresAdmission (timestamptz timestamptz_of_whole)

/-- If the circuit is half open, the active failure of an expired probe of its
    generation, if there is one, is of the backend at the circuit's revision. -/
def OwnFailures (db : Db) (id now : Int) : Prop :=
  ∀ row permitID p f, db.circuits.lookup id = some row → row.state = .circuitHalfOpen →
    db.probes.lookup permitID = some p →
    unfinished id row.backendRevision row.generation permitID p = true → p.expiresAt ≤ now →
    db.activeFailures.lookup permitID = some f → ofBackend id row.backendRevision permitID f = true

/-- What both answers say about the circuit. -/
def SameCircuit (a b : CircuitSnapshot) : Prop :=
  a.state = b.state ∧ a.generation = b.generation ∧ a.failureCount = b.failureCount

/-- The transaction on `db` decides `decision'` where the query decides `decision`. -/
structure DecidesAs (db : Db) (id : Int) (decision : CircuitDecision) (db' : Db)
    (decision' : CircuitDecision) : Prop where
  reason : decision'.reason = decision.reason
  permits : decision.permit = none ∧ decision'.permit = none
  closed : ∀ row, db.circuits.lookup id = some row → row.state = .circuitClosed →
    db' = db ∧ SameCircuit decision'.snapshot decision.snapshot

/-- The transaction on `db` completes with `result` where the query answers. -/
def CompletesAs (db : Db) (result : Except Failure (Db × CircuitSnapshot)) :
    Except Failure CircuitSnapshot → Prop
  | .error failure => result = .error failure
  | .ok snapshot => ∃ snapshot', result = .ok (db, snapshot') ∧ SameCircuit snapshot' snapshot

variable {o : Options} {db : Db} {now : Int} {state : CircuitSnapshot} {permitID : UUID}

theorem currentClosedFailureCount_whole (hwindow : o.failureWindow % 1000 = 0)
    (hnow : now % 1000 = 0) :
    currentClosedFailureCount db state now o.failureWindow =
      failuresSince db state.backend.id state.backend.revision
        (now - interval o.failureWindow) := by
  have hwhole : (now - o.failureWindow) % 1000 = 0 := by omega
  rw [currentClosedFailureCount, timestamptz_of_whole hwhole, interval_of_whole hwindow]

/-! ## Noticing an expired probe -/

/-- The failure can be recorded unless its id is taken by another backend or revision. -/
theorem recordActiveFailure_ok (window t : Int)
    (hown : ∀ f, db.activeFailures.lookup permitID = some f →
      ofBackend state.backend.id state.backend.revision permitID f = true) :
    ∃ failures count latest, recordActiveFailure window db state permitID t =
      .ok ({ db with activeFailures := failures }, count, latest) := by
  obtain ⟨failures, f, hinsert, hf, hof⟩ : ∃ failures f,
      insertFailure db permitID ⟨state.backend.id, state.backend.revision, timestamptz t⟩ =
        { db with activeFailures := failures } ∧
      failures.lookup permitID = some f ∧
      ofBackend state.backend.id state.backend.revision permitID f = true := by
    cases hlookup : db.activeFailures.lookup permitID with
    | none =>
      exact ⟨_, _, insertFailure_eq hlookup, AList.lookup_insert _, by simp [ofBackend]⟩
    | some f => exact ⟨_, f, by simp [insertFailure, hlookup], hlookup, hown f hlookup⟩
  simp only [recordActiveFailure, hinsert, deleteFailuresBefore]
  cases hmax : maxEventAt { db with activeFailures := failures } state.backend.id
      state.backend.revision with
  | none =>
    -- the row of `permitID` is one of those the maximum is taken over
    have hnil := List.map_eq_nil_iff.mp (List.max?_eq_none_iff.mp hmax)
    exact absurd hof (List.filter_eq_nil_iff.mp hnil _ (Table.lookup_eq_some_iff.mp hf))
  | some latest => exact ⟨_, _, _, rfl⟩

theorem reconcileExpired_closed (hclosed : state.state = some .circuitClosed) :
    reconcileExpired o db state now = .ok (db, state, false) := by
  simp [reconcileExpired, hclosed]

theorem updateState_probes (db : Db) (id : Int) (f : StateRow → StateRow) :
    (updateState db id f).probes = db.probes := by
  unfold updateState
  split <;> rfl

/-- It succeeds, keeps the identity of the backend and stores no new probe. -/
theorem reconcileExpired_ok (o : Options) (db : Db) (state : CircuitSnapshot) (now : Int)
    (hown : ∀ permitID p f, state.state = some .circuitHalfOpen →
      db.probes.lookup permitID = some p →
      unfinished state.backend.id state.backend.revision state.generation permitID p = true →
      p.expiresAt ≤ now → db.activeFailures.lookup permitID = some f →
      ofBackend state.backend.id state.backend.revision permitID f = true) :
    ∃ db' state' expired, reconcileExpired o db state now = .ok (db', state', expired) ∧
      state'.backend = state.backend ∧
      ∀ id, db.probes.lookup id = none → db'.probes.lookup id = none := by
  by_cases hhalf : state.state = some .circuitHalfOpen
  · simp only [reconcileExpired, hhalf, ne_eq, not_true_eq_false, if_false]
    cases hfirst : earliestExpired db state.backend.id state.backend.revision state.generation
        now with
    | none => exact ⟨_, _, _, rfl, rfl, fun _ hnone => hnone⟩
    | some first =>
      obtain ⟨permitID, expiredAt⟩ := first
      obtain ⟨hmem, hdue, -⟩ := earliestExpired_some hfirst
      obtain ⟨p, hp, hunfinished, rfl⟩ := mem_inFlight.mp hmem
      -- the transaction looks for the failure after it has ended the generation
      obtain ⟨failures, count, latest, hrecord⟩ := @recordActiveFailure_ok
        (expireGeneration db state.backend.id state.backend.revision state.generation permitID now)
        { state with state := some .circuitOpen, generation := state.generation + 1 } permitID
        o.failureWindow p.expiresAt fun f => hown permitID p f hhalf hp hunfinished hdue
      dsimp only
      rw [hrecord]
      refine ⟨_, _, _, rfl, rfl, fun id hnone => ?_⟩
      rw [updateState_probes]
      show (Table.mapRows _ db.probes).lookup id = none
      rw [Table.lookup_mapRows, hnone]
      rfl
  · simp only [reconcileExpired, hhalf, ne_eq, not_false_eq_true, if_true]
    split <;> exact ⟨_, _, _, rfl, rfl, fun _ hnone => hnone⟩

/-! ## The two answers -/

section

variable {request : CircuitAcquireRequest} {completion : CircuitCompletion} {row : StateRow}

section

variable (fingerprint : Nat) (hwindow : o.failureWindow % 1000 = 0) (hnow : now % 1000 = 0)
  (hown : OwnFailures db request.backend.id now)
include fingerprint hwindow hnow hown

/-- The transaction decides about the state it finds after noticing expired probes;
    of a closed circuit this is the state that the query reads. -/
theorem acquireTx_known {authoritative : BackendIdentity}
    (hrow : db.circuits.lookup request.backend.id = some row)
    (hbackend : db.backends request.backend.id = some authoritative)
    (hnone : db.probes.lookup request.attemptID = none) :
    ∃ db' state', acquireTx o db now fingerprint request =
        .ok (acquireNew o db' now fingerprint request authoritative state') ∧
      state'.backend.revision = row.backendRevision ∧
      (row.state = .circuitClosed → db' = db ∧ state'.state = some row.state ∧
        state'.generation = row.generation ∧
        state'.failureCount = failuresSince db request.backend.id row.backendRevision
          (now - interval o.failureWindow)) := by
  simp only [acquireTx, lockCircuitState, hrow, hbackend, Option.map_some]
  by_cases hclosed : row.state = .circuitClosed
  · -- nothing can have expired
    rw [reconcileExpired_closed (congrArg some hclosed)]
    dsimp only [bind, Except.bind]
    rw [if_pos (congrArg some hclosed), hnone]
    exact ⟨_, _, rfl, rfl, fun _ => ⟨rfl, rfl, rfl, currentClosedFailureCount_whole hwindow hnow⟩⟩
  · generalize hlocked : CircuitSnapshot.mk _ _ _ _ _ _ _ = locked
    obtain ⟨db', state', expired, hok, hsame, hprobes⟩ :=
      reconcileExpired_ok o db locked now (by
        intro permitID p f hhalf
        subst hlocked
        exact hown row permitID p f hrow (Option.some.inj hhalf))
    have hrevision : state'.backend.revision = row.backendRevision := by
      rw [hsame, ← hlocked]
    rw [hok]
    dsimp only [bind, Except.bind]
    rw [hprobes _ hnone]
    refine ⟨db', _, rfl, ?_, fun h => absurd h hclosed⟩
    split <;> exact hrevision

/-- The answer of the transaction `acquire` when the query can decide. -/
theorem acquireTx_of_acquireClosed {decision : CircuitDecision}
    (h : acquireClosed o db now request = some decision) :
    ∃ db' decision', acquireTx o db now fingerprint request = .ok (db', decision') ∧
      DecidesAs db request.backend.id decision db' decision' := by
  unfold acquireClosed readCommittedCircuit at h
  rcases hrow : db.circuits.lookup request.backend.id with _ | row
  · simp only [hrow] at h
    cases h
    simp only [acquireTx, lockCircuitState, hrow, Option.map_none]
    exact ⟨_, _, rfl, rfl, ⟨rfl, rfl⟩, fun _ h => absurd h (by simp [hrow])⟩
  rcases hbackend : db.backends request.backend.id with _ | authoritative
  · simp only [hrow, hbackend] at h
    cases h
    simp only [acquireTx, lockCircuitState, hrow, hbackend, Option.map_some]
    exact ⟨_, _, rfl, rfl, ⟨rfl, rfl⟩, fun _ _ _ => ⟨rfl, rfl, rfl, rfl⟩⟩
  simp only [hrow, hbackend, currentBackend] at h
  obtain ⟨hretained, h⟩ := Option.ite_none_left_eq_some.mp h
  obtain ⟨db', state', htx, hrevision, hclosed⟩ := acquireTx_known fingerprint hwindow hnow
    hown hrow hbackend (Option.not_isSome_iff_eq_none.mp hretained)
  have hsame := fun row' hrow' hstate' =>
    hclosed ((Option.some.inj (hrow.symm.trans hrow' : some row = some row')) ▸ hstate')
  rw [htx, acquireNew, currentBackend, hrevision]
  split at h
  · next hstale =>
    cases h
    exact ⟨_, _, congrArg _ (if_pos hstale), rfl, ⟨rfl, rfl⟩, hsame⟩
  next hcurrent =>
  rw [if_neg hcurrent]
  split at h
  · next hlate =>
    cases h
    exact ⟨_, _, congrArg _ (if_pos hlate), rfl, ⟨rfl, rfl⟩, hsame⟩
  · next htimely =>
    obtain ⟨hopen, ⟨⟩⟩ := Option.ite_none_left_eq_some.mp h
    obtain ⟨hdb, hkept, hrest⟩ := hclosed (Option.some.inj (not_not.mp hopen))
    rw [if_neg htimely, hkept, not_not.mp hopen]
    exact ⟨_, _, rfl, rfl, ⟨rfl, rfl⟩, fun _ _ _ => ⟨hdb, rfl, hrest⟩⟩

end

/-- The answer of the transaction `complete` when the query can decide. -/
theorem completeTx_of_completeClosedNonFailure {answer : Except Failure CircuitSnapshot}
    (hwindow : o.failureWindow % 1000 = 0) (hnow : now % 1000 = 0)
    (h : completeClosedNonFailure o db now completion = some answer) :
    CompletesAs db (completeTx o db now completion) answer := by
  unfold completeClosedNonFailure readCommittedCircuit at h
  obtain ⟨houtcome, h⟩ := Option.ite_none_left_eq_some.mp h
  split at h
  · cases h
  next read hread =>
  split at hread <;> cases hread
  next row authoritative hrow _ =>
  obtain ⟨hdecides, h⟩ := Option.ite_none_left_eq_some.mp h
  obtain ⟨hretained, hopen⟩ := not_or.mp hdecides
  have hclosed : some row.state = some .circuitClosed := not_not.mp hopen
  -- no probe of a closed circuit can have expired
  simp only [completeTx, lockCircuitState, hrow, Option.map_some]
  rw [reconcileExpired_closed hclosed]
  dsimp only [bind, Except.bind]
  rw [if_pos hclosed, completeLocked, Option.not_isSome_iff_eq_none.mp hretained]
  rw [if_pos houtcome]
  split at h
  · next hlate =>
    cases h
    exact if_pos hlate
  · next htimely =>
    cases h
    exact ⟨_, if_neg htimely, rfl, rfl, currentClosedFailureCount_whole hwindow hnow⟩

end

/-- Whenever the query of `Acquire` or of `Complete` decides, the transaction on the same
    tables at the same instant gives the same reason or error and no permit; on a closed
    circuit it also reports the same state and leaves the tables as they are. -/
theorem query_decides_as_transaction (o : Options) (db : Db) (now : Int)
    (hwindow : o.failureWindow % 1000 = 0) (hnow : now % 1000 = 0) :
    (∀ request decision fingerprint, OwnFailures db request.backend.id now →
      acquireClosed o db now request = some decision →
      ∃ db' decision', acquireTx o db now fingerprint request = .ok (db', decision') ∧
        DecidesAs db request.backend.id decision db' decision') ∧
    ∀ completion answer, completeClosedNonFailure o db now completion = some answer →
      CompletesAs db (completeTx o db now completion) answer :=
  ⟨fun _ _ fingerprint hown h => acquireTx_of_acquireClosed fingerprint hwindow hnow hown h,
    fun _ _ h => completeTx_of_completeClosedNonFailure hwindow hnow h⟩

/-- Tables with one circuit and one active failure. -/
def smallDb (row : StateRow) (probes : Table UUID ProbeRow) (failure : FailureRow) : Db where
  backends := fun _ => some ⟨1, 1, true, false⟩
  circuits := (∅ : Table Int StateRow).insert 1 row
  probes := probes
  activeFailures := (∅ : Table UUID FailureRow).insert 7 failure
  receipts := ∅

def windowOptions (window : Int) (hwindow : 0 < window) : Options :=
  .of 2 window 5000 1 ⟨by decide, hwindow, by decide, by decide⟩

def requestAt (revision : Int) : CircuitAcquireRequest :=
  ⟨1, 10000, 1, ⟨1, revision, true, false⟩, 1000⟩

theorem query_decides_as_transaction_closed : let o := windowOptions 2000 (by decide)
    let db := smallDb { backendRevision := 1 } ∅ ⟨1, 1, 8000⟩
    ∃ decision, acquireTx o db 10000 0 (requestAt 1) = .ok (db, decision) ∧
      decision.reason = none ∧ decision.permit = none ∧ decision.snapshot.failureCount = 1 := by
  intro o db
  have hown : OwnFailures db 1 10000 := by
    intro row _ _ _ hrow hhalf
    obtain rfl := Option.some.inj ((AList.lookup_insert _).symm.trans hrow)
    cases hhalf
  obtain ⟨db', decision, htx, hreason, ⟨-, hpermit⟩, hclosed⟩ :=
    (query_decides_as_transaction o db 10000 (by decide) (by decide)).1 (requestAt 1) _ 0 hown rfl
  obtain ⟨rfl, -, -, hcount⟩ := hclosed _ (AList.lookup_insert _) rfl
  exact ⟨decision, htx, hreason, hpermit, hcount⟩

/-- Neither condition can go.  A failure at 8000 is outside the window of 1500 ns as the
    query cuts it; and the expired probe 7 is the active failure of another backend. -/
theorem query_and_transaction_differ : let short := windowOptions 1500 (by decide)
    let closed := smallDb { backendRevision := 1 } ∅ ⟨1, 1, 8000⟩
    let probe : ProbeRow := ⟨0, 0, 1, 1, 1, 1, 5000, none, none, none, none, none⟩
    let foreign := smallDb ⟨1, .circuitHalfOpen, 1, none, false⟩
      ((∅ : Table UUID ProbeRow).insert 7 probe) ⟨2, 1, 5000⟩
    ((acquireClosed short closed 10000 (requestAt 1)).map (·.snapshot.failureCount) = some 0 ∧
      (acquireTx short closed 10000 0 (requestAt 1)).map (·.2.snapshot.failureCount) = .ok 1) ∧
    (acquireClosed short foreign 10000 (requestAt 2)).map (·.reason) = some (some .staleBackend) ∧
      (acquireTx short foreign 10000 0 (requestAt 2)).map (·.2) = .error .database := by
  decide +kernel

end Coordination.PostgresCircuit
