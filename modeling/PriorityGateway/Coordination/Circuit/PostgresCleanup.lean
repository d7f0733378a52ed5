import Mathlib.Data.List.Destutter
import PriorityGateway.Coordination.Circuit.Postgres
import PriorityGateway.Coordination.Postgres.Cleanup

/-! # Circuit Receipts and Their Cleanup

    The cleanup of the PostgreSQL circuits deletes finished probes and failure
    receipts whose retention is over.  They are what keeps a report that is
    sent again from counting again.

    A report that comes after its rows are gone is refused as stale, except
    that a probe which expired is kept for a day after its expiry only, and
    may be reported later than that.  Then the report finds no row at all, but
    the circuit has left the generation of the probe, and a failure counts in
    the closed circuit of its own generation only.

    The calls are those of the coordinator, of the cleanup, and of the store,
    which starts a new generation whenever it changes a backend. -/

namespace Coordination.CircuitRetention

open CircuitBreaker (Options)
open PostgresAdmission (timestamptz unixEpoch Db)
open PostgresCircuit

/-! ## The cleanup and the store -/

/-- The number of rows that `CleanupBatch` deletes at most, of each kind. -/
def cleanupLimit (batch : Int) : Nat :=
  if batch ≤ 0 ∨ 1000 < batch then 256 else batch.toNat

/-- A finished probe past its retention. -/
def probeDue (now : Int) (_ : UUID) (p : ProbeRow) : Bool :=
  p.outcome.isSome && (p.retainUntil.map fun retainUntil => decide (retainUntil ≤ now)).getD false

/-- A failure receipt past its retention. -/
def receiptDue (now : Int) (_ : UUID) (r : ReceiptRow) : Bool := decide (r.retainUntil ≤ now)

/-- The first `limit` keys, in order, of the rows that satisfy `p`. -/
def firstKeys {ρ : Type} (p : UUID → ρ → Bool) (limit : Nat) (t : Table UUID ρ) : List UUID :=
  ((Table.filter p t).keys.mergeSort (· ≤ ·)).take limit

/-- `DELETE ... WHERE key IN keys` -/
def deleteKeys {ρ : Type} (keys : List UUID) (t : Table UUID ρ) : Table UUID ρ :=
  Table.filter (fun k _ => !decide (k ∈ keys)) t

/-- `CleanupBatch`: also returns whether one of the kinds filled its batch. -/
def cleanupBatch (batch : Int) (db : Db) (now : Int) : Db × Bool :=
  let probes := firstKeys (probeDue now) (cleanupLimit batch) db.probes
  let receipts := firstKeys (receiptDue now) (cleanupLimit batch) db.receipts
  ({ db with
      probes := deleteKeys probes db.probes
      receipts := deleteKeys receipts db.receipts },
    decide (probes.length = cleanupLimit batch) || decide (receipts.length = cleanupLimit batch))

/-- `CreateBackend`: the id is new, as the sequence makes it. -/
def createBackend (id : Int) (value : BackendIdentity) (db : Db) : Db :=
  if (db.backends id).isSome ∨ (db.circuits.lookup id).isSome then db
  else
    let row : StateRow := { backendRevision := 1 }
    { db with
      backends := Function.update db.backends id (some { value with id := id, revision := 1 })
      circuits := db.circuits.insert id row }

/-- What `UpdateBackend`, `SetBackendDraining` and `DeleteBackend` have in common: the
    backend is replaced, or is gone, and its circuit starts anew. -/
def changeBackend (id : Int) (value : Option BackendIdentity) (db : Db) (now : Int) : Db :=
  match db.backends id with
  | none => db
  | some old =>
    let db := terminalizeProbes db id now
    let db :=
      { db with
        activeFailures := db.activeFailures.filter (fun _ f => !decide (f.backendID = id))
        backends := Function.update db.backends id
          (value.map fun v => { v with id := id, revision := old.revision + 1 }) }
    updateState db id (fun row =>
      { backendRevision := old.revision + 1, generation := row.generation + 1 })

def updateBackend (id : Int) (value : BackendIdentity) (db : Db) (now : Int) : Db :=
  changeBackend id (some value) db now

def setBackendDraining (id : Int) (draining : Bool) (db : Db) (now : Int) : Db :=
  changeBackend id ((db.backends id).map fun v => { v with draining := draining }) db now

/-- `DeleteBackend` keeps the circuit and its receipts. -/
def deleteBackend (id : Int) (db : Db) (now : Int) : Db := changeBackend id none db now

/-! ## What a report contributes -/

/-- A report, as the receipts know it. -/
structure Report where
  attemptID : UUID
  backendID : Int
  generation : Int
  reportedOutcomeAt : Int
  deriving DecidableEq, Repr

def reportOf (completion : CircuitCompletion) : Report where
  attemptID := completion.attemptID
  backendID := completion.backend.id
  generation := completion.generation
  reportedOutcomeAt := completion.reportedOutcomeAt

/-- What must not happen twice for one report. -/
inductive Contribution where
  | failure (report : Report)
  | probeOutcome (report : Report)
  deriving DecidableEq, Repr

/-- The report is of a probe in its half-open circuit. -/
def countsAsProbe (completion : CircuitCompletion) (state : CircuitSnapshot) : Bool :=
  decide (state.generation = completion.generation) &&
    decide (state.backend.revision = completion.backend.revision) &&
    decide (state.state = some .circuitHalfOpen)

def probeContributions (now : Int) (completion : CircuitCompletion) (state : CircuitSnapshot)
    (probe : ProbeRow) : List Contribution :=
  if probe.backendRevision ≠ completion.backend.revision ∨
      probe.circuitGeneration ≠ completion.generation then []
  else if probe.outcome.isSome then []
  else if !validCircuitOperationTime completion.reportedOutcomeAt now then []
  else if completion.outcome = .inferenceFailure ∧ countsAsProbe completion state = true then
    [.probeOutcome (reportOf completion), .failure (reportOf completion)]
  else [.probeOutcome (reportOf completion)]

def failureContributions (o : Options) (db : Db) (now : Int) (completion : CircuitCompletion)
    (state : CircuitSnapshot) : List Contribution :=
  if (db.receipts.lookup completion.attemptID).isSome then []
  else if !validCircuitOperationTime completion.reportedOutcomeAt now then []
  else if failureApplies o now completion state (min completion.reportedOutcomeAt now) then
    [.failure (reportOf completion)]
  else []

/-- What `complete` contributes once the state row is locked. -/
def lockedContributions (o : Options) (db : Db) (now : Int) (completion : CircuitCompletion)
    (state : CircuitSnapshot) : List Contribution :=
  match db.probes.lookup completion.attemptID with
  | some probe => probeContributions now completion state probe
  | none =>
    if completion.outcome ≠ .inferenceFailure then []
    else failureContributions o db now completion state

/-- What the transaction `complete` contributes; a failed one contributes nothing. -/
def txContributions (o : Options) (db : Db) (now : Int) (completion : CircuitCompletion) :
    List Contribution :=
  match lockCircuitState db completion.backend.id with
  | none => []
  | some state =>
    match reconcileExpired o db state now with
    | .error _ => []
    | .ok (db, state, _) =>
      let state :=
        if state.state = some .circuitClosed then
          { state with failureCount := currentClosedFailureCount db state now o.failureWindow }
        else state
      match completeLocked o db now completion state with
      | .error _ => []
      | .ok _ => lockedContributions o db now completion state

def contributions (o : Options) (db : Db) (now : Int) (value : CircuitCompletion) :
    List Contribution :=
  let completion := { value with reportedOutcomeAt := timestamptz value.reportedOutcomeAt }
  match completeClosedNonFailure o db now completion with
  | some _ => []
  | none => txContributions o db now completion

/-! ## What every call keeps -/

/-- A later state row: another generation, or the same state. -/
def Before (row row' : StateRow) : Prop :=
  row.generation < row'.generation ∨ (row.generation = row'.generation ∧ row.state = row'.state)

theorem Before.refl (row : StateRow) : Before row row := .inr ⟨rfl, rfl⟩

variable {row : StateRow} {db db' : Db} {id : Int} {r : Report}

theorem Before.trans {row' row'' : StateRow} (h : Before row row') (h' : Before row' row'') :
    Before row row'' := by
  rcases h with hlt | ⟨hgen, hstate⟩
  · left
    rcases h' with hlt' | ⟨hgen', _⟩ <;> omega
  · rcases h' with hlt' | ⟨hgen', hstate'⟩
    · exact .inl (by omega)
    · exact .inr ⟨hgen.trans hgen', hstate.trans hstate'⟩

/-- Finished probes and receipts stay as they are, and the circuits move on. -/
structure Evolves (db db' : Db) : Prop where
  finished : ∀ id p, db.probes.lookup id = some p → p.outcome.isSome = true →
    db'.probes.lookup id = some p
  receipt : ∀ id r, db.receipts.lookup id = some r → db'.receipts.lookup id = some r
  circuit : ∀ id row, db.circuits.lookup id = some row →
    ∃ row', db'.circuits.lookup id = some row' ∧ Before row row'

theorem Evolves.trans {db'' : Db} (h : Evolves db db') (h' : Evolves db' db'') :
    Evolves db db'' where
  finished := fun id p hp hdone => h'.finished id p (h.finished id p hp hdone) hdone
  receipt := fun id r hr => h'.receipt id r (h.receipt id r hr)
  circuit := by
    intro id row hrow
    obtain ⟨row', hrow', hbefore⟩ := h.circuit id row hrow
    obtain ⟨row'', hrow'', hbefore'⟩ := h'.circuit id row' hrow'
    exact ⟨row'', hrow'', hbefore.trans hbefore'⟩

/-- What happens to backends and active failures does not matter here. -/
theorem Evolves.of_eq (hprobes : db'.probes = db.probes) (hreceipts : db'.receipts = db.receipts)
    (hcircuits : db'.circuits = db.circuits) : Evolves db db' where
  finished := fun id p hp _ => by rw [hprobes]; exact hp
  receipt := fun id r hr => by rw [hreceipts]; exact hr
  circuit := fun id row hrow => ⟨row, by rw [hcircuits]; exact hrow, .refl row⟩

theorem Evolves.refl (db : Db) : Evolves db db := .of_eq rfl rfl rfl

/-- Rewriting probe rows that have no outcome. -/
theorem evolves_mapProbes {c : UUID → ProbeRow → Prop} [∀ id p, Decidable (c id p)]
    {f : UUID → ProbeRow → ProbeRow} (h : ∀ id p, c id p → p.outcome.isNone = true) :
    Evolves db { db with probes := db.probes.mapRows fun id p => if c id p then f id p else p }
    where
  finished := by
    intro id p hp hdone
    show (Table.mapRows _ db.probes).lookup id = some p
    rw [Table.lookup_mapRows, hp, Option.map_some, if_neg]
    intro hc
    rw [Option.isNone_iff_eq_none.mp (h id p hc)] at hdone
    cases hdone
  receipt := fun _ _ hr => hr
  circuit := fun _ row hrow => ⟨row, hrow, .refl row⟩

/-- Writing the row of a probe that has no outcome, or is new. -/
theorem evolves_insertProbe {id : UUID} (p' : ProbeRow)
    (h : ∀ p, db.probes.lookup id = some p → p.outcome = none) :
    Evolves db { db with probes := db.probes.insert id p' } where
  finished := by
    intro id' p hp hdone
    show (db.probes.insert id p').lookup id' = some p
    rw [Table.lookup_insert_eq, if_neg]
    · exact hp
    · rintro rfl
      rw [h p hp] at hdone
      cases hdone
  receipt := fun _ _ hr => hr
  circuit := fun _ row hrow => ⟨row, hrow, .refl row⟩

theorem evolves_insertReceipt {id : UUID} (r : ReceiptRow) (h : db.receipts.lookup id = none) :
    Evolves db { db with receipts := db.receipts.insert id r } where
  finished := fun _ _ hp _ => hp
  receipt := by
    intro id' r' hr'
    show (db.receipts.insert id r).lookup id' = some r'
    rw [Table.lookup_insert_eq, if_neg]
    · exact hr'
    · rintro rfl
      rw [h] at hr'
      cases hr'
  circuit := fun _ row hrow => ⟨row, hrow, .refl row⟩

theorem evolves_insertCircuit {row' : StateRow}
    (h : ∀ row, db.circuits.lookup id = some row → Before row row') :
    Evolves db { db with circuits := db.circuits.insert id row' } where
  finished := fun _ _ hp _ => hp
  receipt := fun _ _ hr => hr
  circuit := by
    intro id' row hrow
    show ∃ row₁, (db.circuits.insert id row').lookup id' = some row₁ ∧ Before row row₁
    rw [Table.lookup_insert_eq]
    by_cases hid : id' = id
    · subst hid
      exact ⟨row', if_pos rfl, h row hrow⟩
    · exact ⟨row, by rw [if_neg hid]; exact hrow, .refl row⟩

variable {f : StateRow → StateRow}

theorem evolves_updateState (h : ∀ row, db.circuits.lookup id = some row → Before row (f row)) :
    Evolves db (updateState db id f) := by
  unfold updateState
  split
  · exact .refl db
  next row hrow =>
  apply evolves_insertCircuit
  intro row' hrow'
  rw [hrow] at hrow'
  cases hrow'
  exact h row hrow

theorem evolves_next
    (h : ∀ row, db.circuits.lookup id = some row → row.generation < (f row).generation) :
    Evolves db (updateState db id f) :=
  evolves_updateState fun row hrow => .inl (h row hrow)

/-- Backends and active failures may change with it. -/
theorem evolves_restart (hprobes : db'.probes = db.probes)
    (hreceipts : db'.receipts = db.receipts) (hcircuits : db'.circuits = db.circuits)
    (h : ∀ row, db'.circuits.lookup id = some row → row.generation < (f row).generation) :
    Evolves db (updateState db' id f) :=
  Evolves.trans (.of_eq hprobes hreceipts hcircuits) (evolves_next h)

theorem evolves_next_row (hrow : db.circuits.lookup id = some row)
    (h : row.generation < (f row).generation) : Evolves db (updateState db id f) := by
  apply evolves_next
  intro row' hrow'
  rw [hrow] at hrow'
  cases hrow'
  exact h

theorem evolves_foldl {α : Type} {f : Db → α → Db} (h : ∀ db a, Evolves db (f db a)) (as : List α)
    (db : Db) : Evolves db (as.foldl f db) := by
  induction as generalizing db with
  | nil => exact .refl db
  | cons a as ih => exact (h db a).trans (ih (f db a))

/-! ## Noticing expired probes -/

section Reconcile

variable {o : Options} {db db' : Db} {state state' : CircuitSnapshot} {now id : Int}
  {attemptID : UUID} {count : Nat}

/-- The snapshot says what the state row of its backend says. -/
def Locked (db : Db) (state : CircuitSnapshot) : Prop :=
  ∃ row, db.circuits.lookup state.backend.id = some row ∧ state.state = some row.state ∧
    state.generation = row.generation

theorem locked_of_lock (h : lockCircuitState db id = some state) :
    state.backend.id = id ∧ Locked db state := by
  unfold lockCircuitState at h
  obtain ⟨row, hrow, rfl⟩ := Option.map_eq_some_iff.mp h
  exact ⟨rfl, row, hrow, rfl, rfl⟩

/-- Only the active failures change when a failure is recorded. -/
theorem recordActiveFailure_frame {window eventAt latest : Int}
    (h : recordActiveFailure window db state attemptID eventAt = .ok (db', count, latest)) :
    db'.probes = db.probes ∧ db'.receipts = db.receipts ∧ db'.circuits = db.circuits := by
  unfold recordActiveFailure at h
  dsimp only at h
  split at h <;> cases h
  unfold deleteFailuresBefore insertFailure
  split <;> exact ⟨rfl, rfl, rfl⟩

theorem evolves_opened {window eventAt latest generation openedAt : Int}
    (h : recordActiveFailure window db state attemptID eventAt = .ok (db', count, latest))
    (hrow : db.circuits.lookup id = some row) (hlt : row.generation < generation) :
    Evolves db (updateState db' id (StateRow.opened generation openedAt)) := by
  obtain ⟨hprobes, hreceipts, hcircuits⟩ := recordActiveFailure_frame h
  refine Evolves.trans (.of_eq hprobes hreceipts hcircuits) (evolves_next_row ?_ hlt)
  rwa [hcircuits]

/-- The count of failures is not what the state row is about. -/
theorem Locked.counted (h : Locked db state) (count : Nat) :
    Locked db (if state.state = some .circuitClosed then { state with failureCount := count }
      else state) ∧
    (if state.state = some .circuitClosed then { state with failureCount := count }
      else state).backend = state.backend := by
  split <;> exact ⟨h, rfl⟩

theorem lookup_updateState (id' : Int) :
    (updateState db id f).circuits.lookup id'
      = if id' = id then (db.circuits.lookup id).map f else db.circuits.lookup id' := by
  unfold updateState
  cases hrow : db.circuits.lookup id with
  | none =>
    by_cases hid : id' = id
    · rw [if_pos hid, hid]
      exact hrow
    · rw [if_neg hid]
  | some row => exact Table.lookup_insert_eq _ _ _ _

theorem evolves_expireGeneration (db : Db) (id revision generation : Int) (permitID : UUID)
    (now : Int) : Evolves db (expireGeneration db id revision generation permitID now) := by
  apply evolves_mapProbes
  intro k p hunfinished
  simp only [unfinished, Bool.and_eq_true] at hunfinished
  exact hunfinished.2

/-- What noticing expired probes does: the tables evolve, the snapshot follows, and no
    other circuit is touched. -/
structure Notices (db : Db) (state : CircuitSnapshot) (db' : Db) (state' : CircuitSnapshot) :
    Prop where
  evolves : Evolves db db'
  locked : Locked db' state'
  backend : state'.backend = state.backend
  others : ∀ id, id ≠ state.backend.id → db'.circuits.lookup id = db.circuits.lookup id

theorem reconcileExpired_notices {changed : Bool} (hlocked : Locked db state)
    (h : reconcileExpired o db state now = .ok (db', state', changed)) :
    Notices db state db' state' := by
  unfold reconcileExpired at h
  dsimp only at h
  split at h
  · split at h <;> cases h <;> exact ⟨.refl _, hlocked, rfl, fun _ _ => rfl⟩
  split at h
  · cases h
    exact ⟨.refl _, hlocked, rfl, fun _ _ => rfl⟩
  next permitID expiredAt _ =>
  obtain ⟨row, hrow, hstate, hgeneration⟩ := hlocked
  obtain ⟨⟨db₁, count, latest⟩, hrecord, h⟩ := Except.bind_eq_ok.mp h
  obtain ⟨-, -, hcircuits⟩ := recordActiveFailure_frame hrecord
  cases h
  have hexpired := evolves_expireGeneration db state.backend.id state.backend.revision
    state.generation permitID now
  refine ⟨hexpired.trans (evolves_opened hrecord hrow (by omega)), ?_, rfl, ?_⟩
  · refine ⟨row.opened (state.generation + 1) (timestamptz latest), ?_, rfl, rfl⟩
    rw [lookup_updateState, if_pos rfl, hcircuits]
    exact congrArg _ hrow
  · intro id hid
    rw [lookup_updateState, if_neg hid, hcircuits]
    rfl

end Reconcile

/-! ## The calls -/

section Calls

variable {o : Options} {db db' : Db} {now : Int}
variable {fingerprint : Nat} {request : CircuitAcquireRequest} {states : List CircuitSnapshot}
  {state : CircuitSnapshot}

theorem evolves_acquireProbe (hnone : db.probes.lookup request.attemptID = none) :
    Evolves db (acquireProbe o db now fingerprint request state).1 := by
  unfold acquireProbe
  dsimp only
  split
  · exact .refl db
  apply evolves_insertProbe
  intro p hp
  rw [hnone] at hp
  cases hp

theorem evolves_acquireNew {authoritative : BackendIdentity}
    (hlocked : Locked db state) (hbackend : state.backend.id = request.backend.id)
    (hnone : db.probes.lookup request.attemptID = none) :
    Evolves db (acquireNew o db now fingerprint request authoritative state).1 := by
  obtain ⟨row, hrow, hstate, hgeneration⟩ := hlocked
  unfold acquireNew
  split
  · exact .refl db
  split
  · exact .refl db
  split
  · exact .refl db
  · split
    · exact .refl db
    · dsimp only
      have hprobes : (updateState db request.backend.id
          (StateRow.halfOpened (state.generation + 1))).probes = db.probes := by
        unfold updateState
        split <;> rfl
      refine Evolves.trans (evolves_next_row (hbackend ▸ hrow) ?_)
        (evolves_acquireProbe (by rw [hprobes]; exact hnone))
      show row.generation < state.generation + 1
      omega
  · exact evolves_acquireProbe hnone

theorem evolves_acquireTx {decision : CircuitDecision}
    (h : acquireTx o db now fingerprint request = .ok (db', decision)) : Evolves db db' := by
  unfold acquireTx at h
  split at h
  · next state authoritative hlock _ =>
    obtain ⟨hid, hlocked⟩ := locked_of_lock hlock
    obtain ⟨⟨db₁, state₁, changed⟩, hreconcile, h⟩ := Except.bind_eq_ok.mp h
    have hlocked' : Locked db { state with backend := { authoritative with
        id := state.backend.id, revision := state.backend.revision } } := hlocked
    have hnotices := reconcileExpired_notices hlocked' hreconcile
    refine hnotices.evolves.trans ?_
    have hcounted := hnotices.locked.counted (currentClosedFailureCount db₁ state₁ now
      o.failureWindow)
    dsimp only at h
    generalize (if state₁.state = some .circuitClosed then _ else state₁) = state₂ at h hcounted
    split at h
    · split at h
      · cases h
        exact .refl _
      · split at h <;> cases h <;> exact .refl _
    next hnone =>
    have hbackend : state₂.backend.id = request.backend.id := by
      rw [hcounted.2, hnotices.backend]
      exact hid
    have hevolves : Evolves db₁
        (acquireNew o db₁ now fingerprint request authoritative state₂).1 :=
      evolves_acquireNew hcounted.1 hbackend hnone
    rw [Except.ok.inj h] at hevolves
    exact hevolves
  · cases h
    exact .refl db

theorem evolves_acquire (fingerprint : CircuitAcquireRequest → Nat)
    (request : CircuitAcquireRequest) : Evolves db (acquire o fingerprint db now request).1 := by
  unfold acquire
  split
  · exact .refl db
  · split
    · next hok => exact evolves_acquireTx hok
    · exact .refl db

theorem lockAll_locked {ids : List Int} (h : lockAll db ids = .ok states) :
    states.map (fun state => state.backend.id) = ids ∧ ∀ state ∈ states, Locked db state := by
  induction ids generalizing states with
  | nil =>
    cases h
    simp
  | cons id ids ih =>
    unfold lockAll at h
    split at h
    · cases h
    next state hlock =>
    obtain ⟨rest, hrest, h⟩ := Except.bind_eq_ok.mp h
    cases h
    obtain ⟨hids, hlocked⟩ := ih hrest
    obtain ⟨hid, hfirst⟩ := locked_of_lock hlock
    refine ⟨by simp [hid, hids], ?_⟩
    intro s hs
    rcases List.mem_cons.mp hs with rfl | hs
    · exact hfirst
    · exact hlocked s hs

/-- Each backend is noticed once, so the snapshots of the others stay right. -/
theorem evolves_reconcileAll (hnodup : (states.map (fun state => state.backend.id)).Nodup)
    (hlocked : ∀ state ∈ states, Locked db state) (h : reconcileAll o now states db = .ok db') :
    Evolves db db' := by
  induction states generalizing db with
  | nil =>
    cases h
    exact .refl _
  | cons state states ih =>
    unfold reconcileAll at h
    obtain ⟨⟨db₁, state₁, changed⟩, hreconcile, h⟩ := Except.bind_eq_ok.mp h
    have hnotices := reconcileExpired_notices (hlocked state (by simp)) hreconcile
    rw [List.map_cons, List.nodup_cons] at hnodup
    refine hnotices.evolves.trans (ih hnodup.2 ?_ h)
    intro other hother
    obtain ⟨row, hrow, hrest⟩ := hlocked other (by simp [hother])
    have hne : other.backend.id ≠ state.backend.id := by
      intro heq
      exact hnodup.1 (List.mem_map.mpr ⟨other, hother, heq⟩)
    exact ⟨row, by rw [hnotices.others _ hne]; exact hrow, hrest⟩

/-- The backends of the probes are sorted, so none is locked twice. -/
theorem nodup_renewalIDs (probes : List ProbeIdentity) :
    (((renewalOrder probes).map (fun p => p.backend.id)).destutter (· ≠ ·)).Nodup := by
  have hsorted : ((renewalOrder probes).map (fun p => p.backend.id)).Pairwise (· ≤ ·) := by
    rw [List.pairwise_map]
    refine List.Pairwise.imp ?_ (List.pairwise_mergeSort ?_ ?_ probes)
    · intro a b hab
      simp only [Bool.or_eq_true, Bool.and_eq_true, decide_eq_true_eq] at hab
      omega
    · intro a b c hab hbc
      simp only [Bool.or_eq_true, Bool.and_eq_true, decide_eq_true_eq] at hab hbc ⊢
      rcases hab with hlt | ⟨heq, hle⟩
      · exact .inl (by omega)
      · rcases hbc with hlt' | ⟨heq', hle'⟩
        · exact .inl (by omega)
        · exact .inr ⟨heq.trans heq', le_trans hle hle'⟩
    · intro a b
      simp only [Bool.or_eq_true, Bool.and_eq_true, decide_eq_true_eq]
      rcases lt_trichotomy a.backend.id b.backend.id with hlt | heq | hlt
      · exact .inl (.inl hlt)
      · rcases le_total a.permitID b.permitID with hle | hle
        · exact .inl (.inr ⟨heq, hle⟩)
        · exact .inr (.inr ⟨heq.symm, hle⟩)
      · exact .inr (.inl hlt)
  rw [List.Pairwise.destutter_eq_dedup hsorted]
  exact List.nodup_dedup _

theorem evolves_renewProbe (probe : ProbeIdentity) : Evolves db (renewProbe now db probe).1 := by
  unfold renewProbe
  split
  · exact .refl db
  split
  · exact .refl db
  next p hp =>
  split
  · next hrenewable =>
    apply evolves_insertProbe
    intro p' hp'
    rw [hp] at hp'
    cases hp'
    simp only [renewable, Bool.and_eq_true, Option.isNone_iff_eq_none] at hrenewable
    exact hrenewable.1.2
  · exact .refl db

theorem evolves_renewProbes (probes : List ProbeIdentity) :
    Evolves db (renewProbes o db now probes).1 := by
  unfold renewProbes
  split
  · exact .refl db
  split
  · next db' results hok =>
    unfold renewProbesTx at hok
    obtain ⟨states, hlock, hok⟩ := Except.bind_eq_ok.mp hok
    obtain ⟨hids, hlocked⟩ := lockAll_locked hlock
    obtain ⟨db₁, hall, hok⟩ := Except.bind_eq_ok.mp hok
    cases hok
    have hnoticed : Evolves db db₁ :=
      evolves_reconcileAll (by rw [hids]; exact nodup_renewalIDs probes) hlocked hall
    exact (renewLoop now).after_inv_all (I := fun s => Evolves db s)
      (fun s c hs => hs.trans (evolves_renewProbe c)) db₁ (renewalOrder probes) hnoticed
  · exact .refl db

theorem evolves_terminalizeProbes (db : Db) (id now : Int) :
    Evolves db (terminalizeProbes db id now) :=
  evolves_mapProbes fun _ _ hopen => hopen.2

theorem evolves_refreshBackend (id : Int) : Evolves db (refreshBackend o now db id) := by
  unfold refreshBackend
  split
  · exact .refl db
  next row hrow =>
  split
  · exact .refl db
  · split
    · exact .refl db
    · next permitID expiredAt _ =>
      have hfailures : ∀ db₁ f,
          Evolves db₁ (pruneFailures o (insertFailure db₁ permitID f) id) := by
        intro db₁ f
        unfold pruneFailures insertFailure
        split <;> exact .of_eq rfl rfl rfl
      exact (evolves_expireGeneration db id row.backendRevision row.generation permitID now).trans
        ((hfailures _ _).trans (evolves_next fun row' _ => Int.lt_succ row'.generation))
  · split
    · exact .refl db
    · split
      · exact evolves_next_row hrow (Int.lt_succ row.generation)
      · exact .refl db

theorem evolves_reconcileBackend (value : BackendIdentity) :
    Evolves db (reconcileBackend now db value) := by
  unfold reconcileBackend
  split
  · exact .refl db
  next authoritative _ =>
  -- the row is made, moved on or left, and then the probes may end
  have hthen : ∀ db₁, Evolves db db₁ →
      Evolves db (if !authoritative.enabled ∨ authoritative.draining then
        terminalizeProbes db₁ value.id now else db₁) := by
    intro db₁ hevolves
    split
    · exact hevolves.trans (evolves_terminalizeProbes db₁ value.id now)
    · exact hevolves
  apply hthen
  split
  · next hnone =>
    apply evolves_insertCircuit
    intro row hrow
    rw [hnone] at hrow
    cases hrow
  · split
    · exact (evolves_terminalizeProbes db value.id now).trans
        (evolves_restart rfl rfl rfl fun row' _ => Int.lt_succ row'.generation)
    · exact .refl db

theorem evolves_createBackend (id : Int) (value : BackendIdentity) :
    Evolves db (createBackend id value db) := by
  unfold createBackend
  split
  · exact .refl db
  next hnew =>
  rw [not_or] at hnew
  have hinsert : Evolves db { db with
      circuits := db.circuits.insert id ({ backendRevision := 1 } : StateRow) } := by
    apply evolves_insertCircuit
    intro row hrow
    rw [hrow] at hnew
    exact absurd rfl hnew.2
  exact hinsert.trans (.of_eq rfl rfl rfl)

theorem evolves_changeBackend (id : Int) (value : Option BackendIdentity) :
    Evolves db (changeBackend id value db now) := by
  unfold changeBackend
  split
  · exact .refl db
  · dsimp only
    exact (evolves_terminalizeProbes db id now).trans
      (evolves_restart rfl rfl rfl fun row _ => Int.lt_succ row.generation)

end Calls

/-! ## What is left of a report -/

/-- The report is refused from now on. -/
def Stale (t : Int) (r : Report) : Prop := r.reportedOutcomeAt + receiptRetention ≤ t

/-- The probe of the report is finished, and kept until the report is stale. -/
def ProbeKept (db : Db) (r : Report) : Prop :=
  ∃ p retainUntil, db.probes.lookup r.attemptID = some p ∧ p.outcome.isSome = true ∧
    p.retainUntil = some retainUntil ∧ r.reportedOutcomeAt + receiptRetention ≤ retainUntil

/-- The failure has a receipt, kept until the report is stale; and its circuit has left
    its generation or is still closed. -/
structure FailureKept (db : Db) (r : Report) : Prop where
  receipt : ∃ receipt, db.receipts.lookup r.attemptID = some receipt ∧
    r.reportedOutcomeAt + receiptRetention ≤ receipt.retainUntil
  circuit : ∃ row, db.circuits.lookup r.backendID = some row ∧
    (r.generation < row.generation ∨
      (r.generation = row.generation ∧ row.state = .circuitClosed))

theorem ProbeKept.evolves (h : ProbeKept db r) (he : Evolves db db') : ProbeKept db' r := by
  obtain ⟨p, retainUntil, hp, hdone, hretain⟩ := h
  exact ⟨p, retainUntil, he.finished _ p hp hdone, hdone, hretain⟩

theorem FailureKept.evolves (h : FailureKept db r) (he : Evolves db db') : FailureKept db' r := by
  obtain ⟨⟨receipt, hreceipt, hretain⟩, row, hrow, hleft⟩ := h
  obtain ⟨row', hrow', hbefore⟩ := he.circuit _ row hrow
  refine ⟨⟨receipt, he.receipt _ receipt hreceipt, hretain⟩, row', hrow', ?_⟩
  rcases hbefore with hlt | ⟨hgen, hstate⟩
  · left
    rcases hleft with hlt' | ⟨heq, _⟩ <;> omega
  · rw [← hgen, ← hstate]
    exact hleft

/-- What a completed transaction `complete` did, for each list of contributions. -/
inductive Contributes (now : Int) (r : Report) (db db' : Db) : List Contribution → Prop where
  | nothing (hprobes : db'.probes = db.probes) (hfailures : db'.activeFailures = db.activeFailures)
      (hcircuits : db'.circuits = db.circuits) : Contributes now r db db' []
  | probe (p : ProbeRow) (hp : db.probes.lookup r.attemptID = some p) (hopen : p.outcome = none)
      (hfresh : now < r.reportedOutcomeAt + receiptRetention) (hkept : ProbeKept db' r) :
      Contributes now r db db' [.probeOutcome r]
  | probeFailure (p : ProbeRow) (hp : db.probes.lookup r.attemptID = some p)
      (hopen : p.outcome = none) (hfresh : now < r.reportedOutcomeAt + receiptRetention)
      (hkept : ProbeKept db' r) (row : StateRow)
      (hrow : db.circuits.lookup r.backendID = some row) (hstate : row.state = .circuitHalfOpen)
      (hgeneration : row.generation = r.generation) :
      Contributes now r db db' [.probeOutcome r, .failure r]
  | failure (hprobe : db.probes.lookup r.attemptID = none)
      (hreceipt : db.receipts.lookup r.attemptID = none)
      (hfresh : now < r.reportedOutcomeAt + receiptRetention) (hkept : FailureKept db' r)
      (row : StateRow) (hrow : db.circuits.lookup r.backendID = some row)
      (hgeneration : row.generation = r.generation) : Contributes now r db db' [.failure r]

theorem Contributes.generation {now : Int} {r' : Report} {cs : List Contribution}
    (h : Contributes now r db db' cs) (hr' : .failure r' ∈ cs) :
    ∃ row, db.circuits.lookup r'.backendID = some row ∧ row.generation = r'.generation := by
  cases h with
  | nothing => cases hr'
  | probe => simp at hr'
  | probeFailure _ _ _ _ _ row hrow _ hgeneration | failure _ _ _ _ row hrow hgeneration =>
    obtain rfl : r' = r := by simpa using hr'
    exact ⟨row, hrow, hgeneration⟩

section Complete

variable {o : Options} {db db' : Db} {now : Int} {completion : CircuitCompletion}
  {state state' : CircuitSnapshot} {p : ProbeRow}

theorem evolves_closeIfDone (h : state.state = some .circuitHalfOpen → ∀ row,
      db.circuits.lookup completion.backend.id = some row → row.generation = state.generation) :
    Evolves db (closeIfDone db state completion).1 := by
  unfold closeIfDone
  dsimp only
  split
  · next hdone =>
    refine evolves_restart rfl rfl rfl ?_
    intro row hrow
    show row.generation < state.generation + 1
    have hgeneration := h hdone.1 row hrow
    omega
  · exact .refl db

/-- The first report of a probe moves its circuit on. -/
theorem evolves_applyProbe {eventAt : Int} (hlocked : Locked db state)
    (hbackend : state.backend.id = completion.backend.id)
    (h : applyProbe o db now completion state eventAt = .ok (db', state')) : Evolves db db' := by
  obtain ⟨row, hrow, _, hgeneration⟩ := hlocked
  rw [hbackend] at hrow
  unfold applyProbe at h
  split at h
  · cases h
    exact .refl _
  split at h
  · -- a failure opens the circuit
    obtain ⟨⟨db₁, count, latest⟩, hrecord, h⟩ := Except.bind_eq_ok.mp h
    obtain rfl : _ = db' := congrArg Prod.fst (Except.ok.inj h)
    exact (evolves_mapProbes fun _ _ hopen => hopen.2.2.2).trans
      ((evolves_opened hrecord hrow (Int.lt_add_one_of_le hgeneration.ge)).trans
        (evolves_closeIfDone fun hhalf => by cases hhalf))
  · -- a success is noted, and may close the circuit
    obtain rfl : _ = db' := congrArg Prod.fst (Except.ok.inj h)
    refine Evolves.trans (evolves_updateState ?_) (evolves_closeIfDone ?_)
    · exact fun _ _ => .inr ⟨rfl, rfl⟩
    intro _ row' hrow'
    rw [lookup_updateState, if_pos rfl, hrow] at hrow'
    cases hrow'
    exact hgeneration.symm
  · obtain rfl : _ = db' := congrArg Prod.fst (Except.ok.inj h)
    apply evolves_closeIfDone
    intro _ row' hrow'
    rw [hrow] at hrow'
    cases hrow'
    exact hgeneration.symm

/-- The tables with the row of a probe that is reported. -/
def probeWritten (db : Db) (completion : CircuitCompletion) (p : ProbeRow) (eventAt now : Int) :
    Db :=
  { db with probes := db.probes.insert completion.attemptID (p.report completion eventAt now) }

/-- The tables with the receipt of a failure. -/
def receiptWritten (db : Db) (completion : CircuitCompletion) (eventAt now : Int)
    (applied : Bool) : Db :=
  { db with
    receipts := db.receipts.insert completion.attemptID
      (newReceipt completion eventAt now applied) }

/-- The row that a report leaves is kept until the report is stale. -/
theorem probeKept_report (eventAt now : Int) :
    ProbeKept (probeWritten db completion p eventAt now) (reportOf completion) := by
  refine ⟨p.report completion eventAt now, _, ?_, rfl, rfl, ?_⟩
  · exact AList.lookup_insert _
  · show completion.reportedOutcomeAt + receiptRetention
      ≤ max (max now completion.reportedOutcomeAt) p.acquisitionStartedAt + receiptRetention
    omega

section

variable (hlocked : Locked db state) (hbackend : state.backend.id = completion.backend.id)
include hlocked hbackend

theorem completeProbe_contributes (hp : db.probes.lookup completion.attemptID = some p)
    (h : completeProbe o db now completion state p = .ok (db', state')) :
    Evolves db db' ∧ Contributes now (reportOf completion) db db'
      (probeContributions now completion state p) := by
  unfold completeProbe at h
  unfold probeContributions
  split at h
  · cases h
  next hsame =>
  rw [if_neg hsame]
  split at h
  · -- the probe has an outcome already
    next outcome houtcome =>
    rw [houtcome, Option.isSome_some, if_pos rfl]
    have hdb : db' = db := by
      split at h
      · split at h <;> cases h
        rfl
      · cases h
        rfl
    rw [hdb]
    exact ⟨.refl db, .nothing rfl rfl rfl⟩
  next hopen =>
  rw [hopen, Option.isSome_none, if_neg Bool.false_ne_true]
  split at h
  · cases h
  next hvalid =>
  rw [if_neg hvalid]
  have hfresh : now < completion.reportedOutcomeAt + receiptRetention :=
    lt_of_fresh (by simpa [validCircuitOperationTime] using hvalid)
  have hwritten : Evolves db
      (probeWritten db completion p (min completion.reportedOutcomeAt now) now) := by
    apply evolves_insertProbe
    intro p' hp'
    rw [hp] at hp'
    cases hp'
    exact hopen
  have hlocked' : Locked
      (probeWritten db completion p (min completion.reportedOutcomeAt now) now) state := hlocked
  have happlied := evolves_applyProbe hlocked' hbackend h
  refine ⟨hwritten.trans happlied, ?_⟩
  have hkept : ProbeKept db' (reportOf completion) :=
    (probeKept_report (min completion.reportedOutcomeAt now) now).evolves happlied
  split
  · next hcounts =>
    obtain ⟨row, hrow, hstate, hgeneration⟩ := hlocked
    rw [hbackend] at hrow
    have hprobe := hcounts.2
    simp only [countsAsProbe, Bool.and_eq_true, decide_eq_true_eq] at hprobe
    obtain ⟨⟨hgen, _⟩, hhalf⟩ := hprobe
    refine .probeFailure p hp hopen hfresh hkept row hrow ?_ ?_
    · exact Option.some.inj (hstate.symm.trans hhalf)
    · exact hgeneration.symm.trans hgen
  · exact .probe p hp hopen hfresh hkept

theorem completeFailure_contributes (hprobe : db.probes.lookup completion.attemptID = none)
    (h : completeFailure o db now completion state = .ok (db', state')) :
    Evolves db db' ∧ Contributes now (reportOf completion) db db'
      (failureContributions o db now completion state) := by
  unfold completeFailure at h
  unfold failureContributions
  split at h
  · next receipt hreceipt =>
    rw [hreceipt, Option.isSome_some, if_pos rfl]
    split at h <;> cases h
    exact ⟨.refl _, .nothing rfl rfl rfl⟩
  next hreceipt =>
  rw [hreceipt, Option.isSome_none, if_neg Bool.false_ne_true]
  split at h
  · cases h
  next hvalid =>
  rw [if_neg hvalid]
  have hfresh : now < completion.reportedOutcomeAt + receiptRetention :=
    lt_of_fresh (by simpa [validCircuitOperationTime] using hvalid)
  dsimp only at h
  generalize happlied : failureApplies o now completion state
    (min completion.reportedOutcomeAt now) = applied at h ⊢
  have hnoted : Evolves db
      (receiptWritten db completion (min completion.reportedOutcomeAt now) now applied) :=
    evolves_insertReceipt _ hreceipt
  cases applied with
  | false =>
    cases h
    exact ⟨hnoted, .nothing rfl rfl rfl⟩
  | true =>
    -- the failure counts in the closed circuit of its generation
    obtain ⟨row, hrow, hstate, hgeneration⟩ := hlocked
    rw [hbackend] at hrow
    simp only [failureApplies, Bool.and_eq_true, decide_eq_true_eq] at happlied
    obtain ⟨⟨⟨hclosed, _⟩, hgen⟩, _⟩ := happlied
    have hkept : FailureKept
        (receiptWritten db completion (min completion.reportedOutcomeAt now) now true)
        (reportOf completion) := by
      refine ⟨⟨_, AList.lookup_insert _, ?_⟩, row, hrow, .inr ⟨?_, ?_⟩⟩
      · show completion.reportedOutcomeAt + receiptRetention
          ≤ max now completion.reportedOutcomeAt + receiptRetention
        omega
      · exact hgen.symm.trans hgeneration
      · exact Option.some.inj (hstate.symm.trans hclosed)
    have hrest : Evolves
        (receiptWritten db completion (min completion.reportedOutcomeAt now) now true) db' := by
      rw [if_pos rfl] at h
      obtain ⟨⟨db₁, count, latest⟩, hrecord, h⟩ := Except.bind_eq_ok.mp h
      split at h
      · cases h
        exact evolves_opened hrecord hrow (by omega)
      · cases h
        obtain ⟨hprobes, hreceipts, hcircuits⟩ := recordActiveFailure_frame hrecord
        exact .of_eq hprobes hreceipts hcircuits
    exact ⟨hnoted.trans hrest, .failure hprobe hreceipt hfresh (hkept.evolves hrest) row hrow
      (hgeneration.symm.trans hgen)⟩

theorem completeLocked_contributes
    (h : completeLocked o db now completion state = .ok (db', state')) :
    Evolves db db' ∧ Contributes now (reportOf completion) db db'
      (lockedContributions o db now completion state) := by
  unfold completeLocked at h
  unfold lockedContributions
  cases hp : db.probes.lookup completion.attemptID with
  | some p =>
    rw [hp] at h
    exact completeProbe_contributes hlocked hbackend hp h
  | none =>
    rw [hp] at h
    dsimp only at h ⊢
    by_cases houtcome : completion.outcome ≠ .inferenceFailure
    · rw [if_pos houtcome] at h ⊢
      split at h <;> cases h
      exact ⟨.refl _, .nothing rfl rfl rfl⟩
    · rw [if_neg houtcome] at h ⊢
      exact completeFailure_contributes hlocked hbackend hp h

end

/-- The transaction `complete` does nothing, or notices expired probes and then
    contributes. -/
theorem completeTx_contributes (o : Options) (db : Db) (now : Int)
    (completion : CircuitCompletion) :
    let after := match completeTx o db now completion with
      | .ok (db, snapshot) => (db, Except.ok snapshot)
      | .error failure => (db, Except.error failure)
    (after.1 = db ∧ txContributions o db now completion = []) ∨
    ∃ db₁ r, Evolves db db₁ ∧ Evolves db₁ after.1 ∧
      Contributes now r db₁ after.1 (txContributions o db now completion) := by
  unfold completeTx txContributions
  rcases hlock : lockCircuitState db completion.backend.id with _ | state
  · exact .inl ⟨rfl, rfl⟩
  dsimp only
  obtain ⟨hid, hlocked⟩ := locked_of_lock hlock
  cases hreconcile : reconcileExpired o db state now with
  | error failure => exact .inl ⟨rfl, rfl⟩
  | ok answer =>
    obtain ⟨db₁, state₁, changed⟩ := answer
    have hnotices := reconcileExpired_notices hlocked hreconcile
    have hcounted := hnotices.locked.counted (currentClosedFailureCount db₁ state₁ now
      o.failureWindow)
    dsimp only [bind, Except.bind]
    generalize (if state₁.state = some .circuitClosed then _ else state₁) = state₂ at hcounted ⊢
    have hbackend : state₂.backend.id = completion.backend.id := by
      rw [hcounted.2, hnotices.backend]
      exact hid
    cases hcomplete : completeLocked o db₁ now completion state₂ with
    | error failure => exact .inl ⟨rfl, rfl⟩
    | ok result =>
      obtain ⟨db', state'⟩ := result
      obtain ⟨hevolves, hcontributes⟩ := completeLocked_contributes hcounted.1 hbackend hcomplete
      exact .inr ⟨db₁, _, hnotices.evolves, hevolves, hcontributes⟩

/-- `Complete` does nothing, or notices expired probes and then contributes. -/
theorem complete_contributes (o : Options) (db : Db) (now : Int) (value : CircuitCompletion) :
    ((complete o db now value).1 = db ∧ contributions o db now value = []) ∨
    ∃ db₁ r, Evolves db db₁ ∧ Evolves db₁ (complete o db now value).1 ∧
      Contributes now r db₁ (complete o db now value).1 (contributions o db now value) := by
  unfold complete contributions
  dsimp only
  generalize ({ value with reportedOutcomeAt := timestamptz value.reportedOutcomeAt } :
    CircuitCompletion) = completion
  cases completeClosedNonFailure o db now completion with
  | some answer => exact .inl ⟨rfl, rfl⟩
  | none => exact completeTx_contributes o db now completion

end Complete

/-! ## Nothing counts twice -/

def Contribution.report : Contribution → Report
  | .failure r | .probeOutcome r => r

/-- What the tables recall of a contribution: a finished probe, or the receipt of a failure. -/
def Evidence (db : Db) : Contribution → Prop
  | .probeOutcome r => ProbeKept db r
  | .failure r => ProbeKept db r ∨ FailureKept db r

/-- What the tables at `t` recall of the contributions `H`. -/
structure Recalled (t : Int) (H : List Contribution) (db : Db) : Prop where
  kept : ∀ c ∈ H, Stale t c.report ∨ Evidence db c
  once : H.Nodup

section Recalled

variable {t t' now : Int} {H cs : List Contribution} {db db' : Db} {r : Report} {p : ProbeRow}
  {c : Contribution}

theorem recalled_init (t : Int) (db : Db) : Recalled t [] db := ⟨nofun, .nil⟩

theorem Recalled.mono (h : Recalled t H db) (hle : t ≤ t') : Recalled t' H db :=
  ⟨fun c hc => (h.kept c hc).imp (fun hstale => le_trans hstale hle) id, h.once⟩

theorem Evidence.evolves (h : Evidence db c) (he : Evolves db db') : Evidence db' c := by
  cases c with
  | probeOutcome r => exact ProbeKept.evolves h he
  | failure r => exact h.imp (fun hp => hp.evolves he) (fun hf => hf.evolves he)

theorem Recalled.evolves (h : Recalled t H db) (he : Evolves db db') : Recalled t H db' :=
  ⟨fun c hc => (h.kept c hc).imp id fun hkept => hkept.evolves he, h.once⟩

/-- What a fresh report has contributed is in the tables. -/
theorem Recalled.evidence (h : Recalled now H db) (hc : c ∈ H)
    (hfresh : now < c.report.reportedOutcomeAt + receiptRetention) : Evidence db c :=
  (h.kept c hc).resolve_left (not_le.mpr hfresh)

section Fresh

variable (h : Recalled now H db) (hfresh : now < r.reportedOutcomeAt + receiptRetention)

include h hfresh

/-- A fresh report whose probe has no outcome has not finished a probe before. -/
theorem Recalled.new_probe (hp : db.probes.lookup r.attemptID = some p) (hopen : p.outcome = none) :
    .probeOutcome r ∉ H := by
  intro hr
  obtain ⟨p', _, hp', hdone, _⟩ := h.evidence hr hfresh
  rw [Option.some.inj (hp'.symm.trans hp), hopen] at hdone
  cases hdone

/-- In the half-open circuit of its generation it has not counted as a failure either: a
    failure of that generation would have counted in a closed circuit. -/
theorem Recalled.new_probeFailure {row : StateRow}
    (hp : db.probes.lookup r.attemptID = some p) (hopen : p.outcome = none)
    (hrow : db.circuits.lookup r.backendID = some row) (hstate : row.state = .circuitHalfOpen)
    (hgeneration : row.generation = r.generation) : .failure r ∉ H := by
  intro hr
  rcases h.evidence hr hfresh with ⟨p', _, hp', hdone, _⟩ | hkept
  · rw [Option.some.inj (hp'.symm.trans hp), hopen] at hdone
    cases hdone
  obtain ⟨row', hrow', hleft⟩ := hkept.circuit
  rw [Option.some.inj (hrow'.symm.trans hrow)] at hleft
  rcases hleft with hlt | ⟨_, hclosed⟩
  · omega
  · rw [hstate] at hclosed
    cases hclosed

/-- A fresh report without any row has not counted as a failure. -/
theorem Recalled.new_failure (hprobe : db.probes.lookup r.attemptID = none)
    (hreceipt : db.receipts.lookup r.attemptID = none) : .failure r ∉ H := by
  intro hr
  rcases h.evidence hr hfresh with ⟨p', _, hp', _⟩ | hkept
  · rw [hprobe] at hp'
    cases hp'
  · obtain ⟨receipt, hreceipt', _⟩ := hkept.receipt
    rw [hreceipt] at hreceipt'
    cases hreceipt'

end Fresh

/-- What counts is in the tables afterwards. -/
theorem Contributes.kept (h : Contributes now r db db' cs) : ∀ c ∈ cs, Evidence db' c := by
  cases h with
  | nothing => simp
  | probe _ _ _ _ hkept => simpa [Evidence] using hkept
  | probeFailure _ _ _ _ hkept _ _ _ _ => simpa [Evidence] using ⟨hkept, .inl hkept⟩
  | failure _ _ _ hkept _ _ _ => simpa [Evidence] using .inr hkept

theorem Contributes.nodup (h : Contributes now r db db' cs) : cs.Nodup := by
  cases h <;> simp

theorem Recalled.new (h : Recalled now H db) (hc : Contributes now r db db' cs) :
    ∀ c ∈ cs, c ∉ H := by
  cases hc with
  | nothing => simp
  | probe p hp hopen hfresh _ => simpa using h.new_probe hfresh hp hopen
  | probeFailure p hp hopen hfresh _ row hrow hstate hgeneration =>
    simpa using ⟨h.new_probe hfresh hp hopen,
      h.new_probeFailure hfresh hp hopen hrow hstate hgeneration⟩
  | failure hprobe hreceipt hfresh _ _ _ _ => simpa using h.new_failure hfresh hprobe hreceipt

theorem Recalled.contribute (h : Recalled now H db) (he : Evolves db db')
    (hc : Contributes now r db db' cs) : Recalled now (H ++ cs) db' := by
  refine ⟨?_, List.nodup_append'.mpr ⟨h.once, hc.nodup, fun c hold hnew => h.new hc c hnew hold⟩⟩
  intro c hmem
  rcases List.mem_append.mp hmem with hold | hnew
  · exact (h.evolves he).kept c hold
  · exact .inr (hc.kept c hnew)

/-- The batch goes, and it consists of rows that satisfy `p`. -/
theorem lookup_deleteKeys {ρ : Type} {p : UUID → ρ → Bool} (limit : Nat) (t : Table UUID ρ)
    (k : UUID) :
    (deleteKeys (firstKeys p limit t) t).lookup k = t.lookup k ∨
      ∀ row, t.lookup k = some row → p k row = true := by
  unfold deleteKeys
  rw [Table.lookup_filter]
  by_cases hk : k ∈ firstKeys p limit t
  · right
    intro row hrow
    unfold firstKeys at hk
    have hkey : k ∈ (Table.filter p t).keys :=
      (List.mergeSort_perm _ _).mem_iff.mp (List.mem_of_mem_take hk)
    have hfound := AList.lookup_isSome.mpr (AList.mem_keys.mpr hkey)
    rw [Table.lookup_filter, hrow, Option.filter_some] at hfound
    by_contra hp
    simp [hp] at hfound
  · left
    cases t.lookup k with
    | none => rfl
    | some row => simp [hk]

theorem ProbeKept.cleanup (h : ProbeKept db r) (batch now : Int) :
    Stale now r ∨ ProbeKept (cleanupBatch batch db now).1 r := by
  obtain ⟨p, retainUntil, hp, hdone, hretain, hle⟩ := h
  rcases lookup_deleteKeys (p := probeDue now) (cleanupLimit batch) db.probes r.attemptID with
    hsame | hdue
  · exact .inr ⟨p, retainUntil, hsame.trans hp, hdone, hretain, hle⟩
  -- the row goes once its retention is over, and then the report is stale
  left
  have hover := hdue p hp
  simp only [probeDue, hretain, Option.map_some, Option.getD_some, Bool.and_eq_true,
    decide_eq_true_eq] at hover
  exact le_trans hle hover.2

theorem FailureKept.cleanup (h : FailureKept db r) (batch now : Int) :
    Stale now r ∨ FailureKept (cleanupBatch batch db now).1 r := by
  obtain ⟨⟨receipt, hreceipt, hle⟩, hcircuit⟩ := h
  rcases lookup_deleteKeys (p := receiptDue now) (cleanupLimit batch) db.receipts r.attemptID with
    hsame | hdue
  · exact .inr ⟨⟨receipt, hsame.trans hreceipt, hle⟩, hcircuit⟩
  · left
    have hover : receipt.retainUntil ≤ now := of_decide_eq_true (hdue receipt hreceipt)
    exact le_trans hle hover

/-- **The cleanup deletes evidence of stale reports only.** -/
theorem Evidence.cleanup (h : Evidence db c) (batch now : Int) :
    Stale now c.report ∨ Evidence (cleanupBatch batch db now).1 c := by
  cases c with
  | probeOutcome r => exact ProbeKept.cleanup h batch now
  | failure r =>
    rcases h with hkept | hkept
    · exact (hkept.cleanup batch now).imp id .inl
    · exact (hkept.cleanup batch now).imp id .inr

theorem Recalled.cleanup (h : Recalled now H db) (batch : Int) :
    Recalled now H (cleanupBatch batch db now).1 :=
  ⟨fun c hc => (h.kept c hc).elim .inl fun hkept => hkept.cleanup batch now, h.once⟩

end Recalled

/-! ## Runs -/

/-- The calls of the coordinator, the store and the cleanup. -/
inductive Call where
  | acquire (request : CircuitAcquireRequest)
  | complete (value : CircuitCompletion)
  | renewProbes (probes : List ProbeIdentity)
  | refresh (ids : List Int)
  | reconcile (values : List BackendIdentity)
  | createBackend (id : Int) (value : BackendIdentity)
  | updateBackend (id : Int) (value : BackendIdentity)
  | setBackendDraining (id : Int) (draining : Bool)
  | deleteBackend (id : Int)
  | cleanupBatch (batch : Int)

/-- One call at a reading of the clock, with what it contributes. -/
def call (o : Options) (fingerprint : CircuitAcquireRequest → Nat) (db : Db) (c : Int × Call) :
    Db × List Contribution :=
  match c.2 with
  | .acquire request => ((acquire o fingerprint db c.1 request).1, [])
  | .complete value => ((complete o db c.1 value).1, contributions o db c.1 value)
  | .renewProbes probes => ((renewProbes o db c.1 probes).1, [])
  | .refresh ids => (refresh o ids db c.1, [])
  | .reconcile values => (reconcile c.1 db values, [])
  | .createBackend id value => (createBackend id value db, [])
  | .updateBackend id value => (updateBackend id value db c.1, [])
  | .setBackendDraining id draining => (setBackendDraining id draining db c.1, [])
  | .deleteBackend id => (deleteBackend id db c.1, [])
  | .cleanupBatch batch => ((cleanupBatch batch db c.1).1, [])

/-- The circuits as a machine whose answers are the contributions. -/
def machine (o : Options) (fingerprint : CircuitAcquireRequest → Nat) :
    Machine Db (Int × Call) (List Contribution) where
  step := call o fingerprint

def contributed (o : Options) (fingerprint : CircuitAcquireRequest → Nat) (db : Db)
    (calls : List (Int × Call)) : List Contribution :=
  ((machine o fingerprint).answers db calls).flatten

/-- Every call but the cleanup lets the tables evolve. -/
theorem call_evolves (o : Options) (fingerprint : CircuitAcquireRequest → Nat) (db : Db)
    (now : Int) (c : Call) (hc : ∀ batch, c ≠ .cleanupBatch batch) :
    Evolves db (call o fingerprint db (now, c)).1 := by
  cases c with
  | acquire request => exact evolves_acquire fingerprint request
  | complete value =>
    show Evolves db (complete o db now value).1
    rcases complete_contributes o db now value with ⟨hsame, _⟩ | ⟨db₁, r, he, he', _⟩
    · rw [hsame]
      exact .refl db
    · exact he.trans he'
  | renewProbes probes => exact evolves_renewProbes probes
  | refresh ids => exact evolves_foldl (fun db id => evolves_refreshBackend id) ids db
  | reconcile values => exact evolves_foldl (fun db value => evolves_reconcileBackend value) _ db
  | createBackend id value => exact evolves_createBackend id value
  | updateBackend id value => exact evolves_changeBackend id (some value)
  | setBackendDraining id draining => exact evolves_changeBackend id _
  | deleteBackend id => exact evolves_changeBackend id none
  | cleanupBatch batch => exact absurd rfl (hc batch)

theorem Recalled.call {o : Options} {fingerprint : CircuitAcquireRequest → Nat} {c : Int × Call}
    {H : List Contribution} (h : Recalled c.1 H db) :
    Recalled c.1 (H ++ (call o fingerprint db c).2) (call o fingerprint db c).1 := by
  obtain ⟨now, c⟩ := c
  have hquiet : ∀ db', Evolves db db' → Recalled now (H ++ []) db' := by
    intro db' he
    rw [List.append_nil]
    exact h.evolves he
  cases c with
  | complete value =>
    show Recalled now (H ++ contributions o db now value) (complete o db now value).1
    rcases complete_contributes o db now value with ⟨hsame, hnone⟩ | ⟨db₁, r, he, he', hc⟩
    · rw [hsame, hnone, List.append_nil]
      exact h
    · exact (h.evolves he).contribute he' hc
  | cleanupBatch batch =>
    show Recalled now (H ++ []) (cleanupBatch batch db now).1
    rw [List.append_nil]
    exact h.cleanup batch
  | _ => exact hquiet _ (call_evolves o fingerprint db now _ nofun)

section

variable (o : Options) (fingerprint : CircuitAcquireRequest → Nat)
include o fingerprint

/-- **Run lemma**, from any tables. -/
theorem recalled_run (start : Db)
    (calls : List (Int × Call)) (hclock : PostgresRetention.Nondecreasing calls) :
    ∃ t, Recalled t (contributed o fingerprint start calls)
      ((machine o fingerprint).after start calls) := by
  obtain ⟨t, hend⟩ := Machine.exists_last_reading calls
  have hrun := (machine o fingerprint).history_of_init id (I := Recalled)
    (fun _ _ _ _ hle h => h.mono hle) hclock hend (fun _ _ _ _ h _ => h.call)
    (fun t => recalled_init t start) (Machine.along_of_forall _ _ calls fun _ _ => trivial)
  rw [List.map_id] at hrun
  exact ⟨t, hrun⟩

theorem call_circuit (db : Db) (c : Int × Call) (hrow : db.circuits.lookup id = some row) :
    ∃ row', (call o fingerprint db c).1.circuits.lookup id = some row' ∧ Before row row' := by
  obtain ⟨now, c⟩ := c
  cases c with
  | cleanupBatch batch => exact ⟨row, hrow, .refl row⟩
  | _ => exact (call_evolves o fingerprint db now _ (fun _ hc => by cases hc)).circuit id row hrow

/-- **Late reports**: once the circuit has left a generation, as it does when a probe of it
    expires, no report of that generation counts as a failure any more, whatever rows are
    gone. -/
theorem no_failure_of_left_generation
    (calls : List (Int × Call)) (hrow : db.circuits.lookup r.backendID = some row)
    (hleft : r.generation < row.generation) : .failure r ∉ contributed o fingerprint db calls := by
  induction calls generalizing db row with
  | nil =>
    nofun
  | cons c calls ih =>
    intro hin
    rcases List.mem_append.mp hin with hnow | hlater
    · -- the call finds the circuit in a later generation
      obtain ⟨now, c⟩ := c
      cases c with
      | complete value =>
        change .failure r ∈ contributions o db now value at hnow
        rcases complete_contributes o db now value with ⟨_, hnone⟩ | ⟨db₁, r₁, he, _, hc⟩
        · rw [hnone] at hnow
          cases hnow
        obtain ⟨row₁, hrow₁, hgeneration⟩ := hc.generation hnow
        obtain ⟨row', hrow', hbefore⟩ := he.circuit _ row hrow
        rw [Option.some.inj (hrow'.symm.trans hrow₁)] at hbefore
        unfold Before at hbefore
        omega
      | _ => cases hnow
    · obtain ⟨row', hrow', hbefore⟩ := call_circuit o fingerprint db c hrow
      refine ih hrow' ?_ hlater
      unfold Before at hbefore
      omega

end

/-- No report contributes a failure twice, or a probe outcome, and none counts as a failure
    after its circuit has left its generation. -/
structure CountedOnce (o : Options) (fingerprint : CircuitAcquireRequest → Nat) (start : Db)
    (calls : List (Int × Call)) : Prop where
  failure : ∀ r, (contributed o fingerprint start calls).count (.failure r) ≤ 1
  probeOutcome : ∀ r, (contributed o fingerprint start calls).count (.probeOutcome r) ≤ 1
  late : ∀ before after r row, calls = before ++ after →
    ((machine o fingerprint).after start before).circuits.lookup r.backendID = some row →
    r.generation < row.generation →
    .failure r ∉ contributed o fingerprint ((machine o fingerprint).after start before) after

open PostgresAdmission (Transaction Configuration Outcome LeaseRow activeCount emptyDb transaction)
open PostgresRetention (AtMostOnce KeepsActive Nondecreasing WholeStart cleans effects kept_run
  cleans_keepsActive resentAfter startingAt ratedSlot)

/-- **The cleanup is invisible** to requests that start at whole microseconds.  Wherever it
    stands in the runs, no request is admitted or debited twice, no usage of a lease is
    debited twice and no report counts twice; and it keeps every lease that has not run out,
    and the counts of these. -/
theorem cleanup_invisible {F : Type} [RateArith F] {fingerprint : AdmissionRequest → Nat}
    (hinj : Function.Injective fingerprint) (configuration : Configuration)
    (calls : List (Int × PostgresRetention.Call)) (hclock : Nondecreasing calls)
    (hwhole : ∀ c ∈ calls, WholeStart c.2) (o : Options)
    (circuitFingerprint : CircuitAcquireRequest → Nat) (start : Db)
    (circuitCalls : List (Int × Call)) (hcircuitClock : Nondecreasing circuitCalls) :
    AtMostOnce (effects fingerprint (emptyDb F configuration) calls) ∧
    CountedOnce o circuitFingerprint start circuitCalls ∧
    ∀ (tx : Transaction) (now : Int) (db db' : Db F) (outcome : Outcome),
      cleans tx = true → (transaction fingerprint tx).run now db = some (outcome, db') →
      KeepsActive now db db' ∧
        ∀ (p : LeaseRow → Bool) (t : Int), now ≤ t → activeCount db' p t = activeCount db p t := by
  refine ⟨?_, ?_, ?_⟩
  · obtain ⟨t, hkept⟩ := kept_run (F := F) hinj configuration calls hclock hwhole
    exact hkept.atMostOnce
  · obtain ⟨t, hrecalled⟩ := recalled_run o circuitFingerprint start circuitCalls hcircuitClock
    have honce := List.nodup_iff_count_le_one.mp hrecalled.once
    refine ⟨fun r => honce _, fun r => honce _, ?_⟩
    intro before after r row _ hrow hleft
    exact no_failure_of_left_generation o circuitFingerprint after hrow hleft
  · intro tx now db db' outcome hcleans hrun
    have hkeeps := cleans_keepsActive hcleans hrun
    exact ⟨hkeeps, fun p t ht => hkeeps.activeCount_eq p ht⟩

/-! A request and a report that come again a day later, after the cleanup. -/

def demoOptions : Options := .of 5 (30 * second) (10 * second) 1 (by decide)

def noCircuits : Db := ⟨fun _ => none, ∅, ∅, ∅, ∅⟩

def demoReport : CircuitCompletion :=
  { attemptID := 4, backend := { id := 1, revision := 1 }, generation := 0,
    outcome := .inferenceFailure, reportedOutcomeAt := second }

def demoCircuitCalls : List (Int × Call) :=
  [(0, .createBackend 1 { enabled := true }), (second, .complete demoReport),
   (second, .complete demoReport), (second + receiptRetention, .cleanupBatch 0),
   (second + receiptRetention, .complete demoReport)]

theorem cleanup_invisible_resent :
    AtMostOnce (effects exactFingerprint (emptyDb ℚ ratedSlot)
      (resentAfter (startingAt (unixEpoch + second)))) ∧
    CountedOnce demoOptions (fun _ => 0) noCircuits demoCircuitCalls ∧
    contributed demoOptions (fun _ => 0) noCircuits demoCircuitCalls
      = [.failure (reportOf demoReport)] := by
  have hinvisible := cleanup_invisible (F := ℚ) exactFingerprint_injective ratedSlot
    (resentAfter (startingAt (unixEpoch + second)))
    (by unfold Nondecreasing; decide)
    (by
      intro c hc
      simp only [resentAfter, List.mem_cons, List.not_mem_nil, or_false] at hc
      rcases hc with rfl | rfl | rfl | rfl | rfl
      · exact (by decide : (unixEpoch + second) % 1000 = 0)
      · trivial
      · trivial
      · exact (by decide : (unixEpoch + second) % 1000 = 0)
      · trivial)
    demoOptions (fun _ => 0) noCircuits demoCircuitCalls (by unfold Nondecreasing; decide)
  exact ⟨hinvisible.1, hinvisible.2.1, by decide +kernel⟩

end Coordination.CircuitRetention
