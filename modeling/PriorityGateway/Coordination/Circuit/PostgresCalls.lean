import PriorityGateway.Coordination.Circuit.PostgresRefinement
import Mathlib.Data.List.Destutter

/-! # The Calls of the PostgreSQL Circuit Coordinator

    `Acquire`, `Complete` and `RenewProbes` on tables that satisfy `Stored`
    are the operations of the abstract circuit. -/

namespace Coordination.PostgresCircuit

open CircuitBreaker (Options)
open PostgresAdmission (timestamptz timestamptz_of_whole)
open Circuit (latest recent recorded observe settle_expireProbes renew fail)

variable {o : Options} {be : BackendIdentity} {row : StateRow} {db : Db} {now : Int}

/-! ## Acquire -/

/-- An instant of the clock. -/
structure Tick (now : Int) : Prop where
  whole : now % 1000 = 0
  positive : 0 < now

/-- What `Acquire` of a new attempt does, in terms of the settled circuit `c`. -/
structure Acquired (o : Options) (be : BackendIdentity) (now : Int) (req : CircuitAcquireRequest)
    (fingerprint : Nat) (c : Circuit) (before : Db) (row' : StateRow) (db' : Db)
    (d : CircuitDecision) : Prop where
  stored : Stored be row' db'
  circuit : (circuitOf be row' db').settle o now
    = (c.acquire o now req.attemptID req.probeTTL).1.settle o now
  observed : d.observed = (c.acquire o now req.attemptID req.probeTTL).1.observe
    (c.acquire o now req.attemptID req.probeTTL).2
  receipts : db'.receipts = before.receipts
  refused : d.permit = none → ProbesAge before.probes db'.probes
  granted : d.permit ≠ none → ∃ t, ProbesAge before.probes t ∧
    db'.probes = t.insert req.attemptID (newProbe fingerprint req d.snapshot.generation now)

/-- The attempt does not become a probe, and the tables stay as they are. -/
theorem Acquired.unchanged {req : CircuitAcquireRequest} {fingerprint : Nat} {before : Db}
    {d : CircuitDecision} {c : Circuit} {reason : Option Reason} (h : Stored be row db)
    (hacquire : c.acquire o now req.attemptID req.probeTTL = (c, reason))
    (hcircuit : (circuitOf be row db).settle o now = c.settle o now)
    (hobserved : d.observed = c.observe reason) (hpermit : d.permit = none)
    (hframe : Frame before db) : Acquired o be now req fingerprint c before row db d where
  stored := h
  circuit := by rw [hacquire]; exact hcircuit
  observed := by rw [hacquire]; exact hobserved
  receipts := hframe.receipts
  refused := fun _ => hframe.probes
  granted := fun hgranted => absurd hpermit hgranted

/-- The failures inside the window, counted by a query. -/
theorem card_recent (o : Options) (be : BackendIdentity) (db : Db) (now : Int) :
    (recent o now (failuresOf be db.activeFailures)).card
      = failuresSince db be.id be.revision (now - o.failureWindow) := by
  have hcard := Table.card_filter_values (ofBackend be.id be.revision) FailureRow.eventAt
    (fun x => decide (now - o.failureWindow ≤ x)) db.activeFailures
  simp only [decide_eq_true_eq] at hcard
  exact hcard

variable {req : CircuitAcquireRequest} {id : UUID} {before db' : Db}
  {read read' : CircuitSnapshot} {row' : StateRow} {value : CircuitCompletion} {p : ProbeRow}
  {ttl : UUID → Int} {t : Table UUID ProbeRow} {probe : ProbeIdentity}

/-- What is assumed of a request for a new attempt. -/
structure Fresh (be : BackendIdentity) (db : Db) (now : Int) (req : CircuitAcquireRequest) :
    Prop where
  tick : Tick now
  backend : req.backend = be
  enabled : be.enabled = true
  draining : be.draining = false
  started : fresh req.acquisitionStartedAt now = true
  ttl_pos : 0 < req.probeTTL
  ttl_whole : req.probeTTL % 1000 = 0
  probe : db.probes.lookup req.attemptID = none
  receipt : db.receipts.lookup req.attemptID = none

theorem Fresh.ages (h : Fresh be db now req) (hframe : Frame db db') : Fresh be db' now req :=
  { h with
    probe := hframe.probes.absent _ h.probe
    receipt := by rw [hframe.receipts]; exact h.receipt }

theorem Fresh.current (h : Fresh be db now req) {state : CircuitSnapshot}
    (hrevision : state.backend.revision = be.revision) : currentBackend state be req = true := by
  simp [currentBackend, hrevision, h.backend, h.enabled, h.draining]

section

variable (h : Stored be row db)

include h

theorem Stored.readCommittedCircuit_eq (ho : WholeMicros o)
    (hnone : db.probes.lookup id = none) (now : Int) :
    ∃ read, readCommittedCircuit o db be.id id now = some ⟨read, be, false⟩ ∧
      read.backend.revision = be.revision ∧ read.state = some row.state ∧
      read.generation = row.generation ∧ read.probesInFlight = 0 ∧
      read.failureCount = (recent o now (failuresOf be db.activeFailures)).card := by
  refine ⟨_, by simp only [readCommittedCircuit, h.entry, h.backend, hnone]; rfl, ?_⟩
  refine ⟨h.revision, rfl, rfl, rfl, ?_⟩
  rw [card_recent, ← h.revision]
  simp only [interval_of_whole ho.window]

/-- The query decides for a closed circuit. -/
theorem Stored.acquire_closed (ho : WholeMicros o) (fingerprint : CircuitAcquireRequest → Nat)
    (hstate : row.state = .circuitClosed) (hreq : Fresh be db now req) :
    Acquired o be now req (fingerprint req) ((circuitOf be row db).settle o now) db row
      (acquire o fingerprint db now req).1 (acquire o fingerprint db now req).2 := by
  obtain ⟨read, hread, hrevision, hread_state, hgeneration, hprobes, hfailures⟩ :=
    h.readCommittedCircuit_eq ho hreq.probe now
  have heq : acquire o fingerprint db now req
      = (db, { snapshot := { read with available := true } }) := by
    simp only [acquire, acquireClosed, hreq.backend, hread, hread_state, hstate,
      hreq.current hrevision, validCircuitOperationTime, hreq.started]
    simp
  have hsettle : (circuitOf be row db).settle o now = (circuitOf be row db).forget o now :=
    Circuit.settle_of_closed hstate
  have hforget : (circuitOf be row db).forget o now
      = { circuitOf be row db with failures := recent o now (failuresOf be db.activeFailures) } :=
    if_pos hstate
  have hacquire : ((circuitOf be row db).settle o now).acquire o now req.attemptID req.probeTTL
      = ((circuitOf be row db).settle o now, none) := by
    apply Circuit.acquire_closed
    rw [hsettle, hforget]
    exact hstate
  rw [heq]
  refine .unchanged h hacquire (Circuit.settle_settle (le_refl now) _).symm ?_ rfl (.refl db)
  rw [hsettle, hforget]
  simp [CircuitDecision.observed, observe, circuitOf, hstate, hread_state, hgeneration,
    hprobes, hfailures]

def withRow (db : Db) (id : UUID) (p : ProbeRow) : Db :=
  { db with probes := db.probes.insert id p }

/-- A row is written that does not take back an outcome. -/
theorem Stored.withRow_stored (hrow : ProbeStored be row p)
    (hreceipt : db.receipts.lookup id = none)
    (hdone : ∀ q, db.probes.lookup id = some q → q.outcome ≠ none → p.outcome ≠ none) :
    Stored be row (withRow db id p) :=
  { h with
    probe := Table.forall_insert hrow h.probe
    apart := Table.forall_insert hreceipt h.apart
    failure := by
      intro id' f hf
      have hold := h.failure id' f hf
      refine { hold with accounted := ?_ }
      rcases hold.accounted with hr | ⟨q, hq, hout⟩
      · exact Or.inl hr
      right
      rw [withRow, Table.lookup_insert_eq]
      split
      · next heq => exact ⟨p, rfl, hdone q (heq ▸ hq) hout⟩
      · exact ⟨q, hq, hout⟩ }

omit h in
theorem mem_inFlight_insert {generation e : Int} {id' : UUID} :
    (id', e) ∈ inFlight be generation (t.insert id p) ↔
      if id' = id then unfinished be.id be.revision generation id p = true ∧ p.expiresAt = e
      else (id', e) ∈ inFlight be generation t := by
  refine Table.mem_project_insert.trans ?_
  split
  · simp [openDeadline]
  · rfl

theorem Stored.live_inFlight (hp : db.probes.lookup id = some p) (hnone : p.outcome = none) :
    unfinished be.id be.revision row.generation id p = true ∧
      (id, p.expiresAt) ∈ inFlight be row.generation db.probes := by
  have hold := h.probe id p hp
  have hunfinished : unfinished be.id be.revision row.generation id p = true :=
    unfinished_iff.mpr ⟨hold.backend, hold.revision, (hold.current hnone).1, hnone⟩
  exact ⟨hunfinished, mem_inFlight.mpr ⟨p, hp, hunfinished, rfl⟩⟩

/-- A new probe in a half-open circuit. -/
theorem Stored.probed (hstate : row.state = .circuitHalfOpen)
    (hreq : Fresh be db now req) (fingerprint : Nat) :
    Stored be row (withRow db req.attemptID (newProbe fingerprint req row.generation now)) ∧
      circuitOf be row (withRow db req.attemptID (newProbe fingerprint req row.generation now))
        = (circuitOf be row db).withProbe req.attemptID (now + req.probeTTL) := by
  have hnow := hreq.tick.whole
  have httl := hreq.ttl_whole
  have hdeadline : (newProbe fingerprint req row.generation now).expiresAt = now + req.probeTTL :=
    timestamptz_of_whole (by omega)
  have hunfinished : unfinished be.id be.revision row.generation req.attemptID
      (newProbe fingerprint req row.generation now) = true := by
    rw [unfinished_iff, ← hreq.backend]
    exact ⟨rfl, rfl, rfl, rfl⟩
  constructor
  · refine h.withRow_stored ?_ hreq.receipt (fun q hq => by simp [hreq.probe] at hq)
    exact
      { backend := by rw [← hreq.backend]; rfl
        revision := by rw [← hreq.backend]; rfl
        whole := by rw [hdeadline]; omega
        positive := by rw [hdeadline]; exact add_pos hreq.tick.positive hreq.ttl_pos
        current := fun _ => ⟨rfl, hstate⟩
        unreported := fun _ => rfl }
  · have hprobes : inFlight be row.generation
        (db.probes.insert req.attemptID (newProbe fingerprint req row.generation now))
        = insert (req.attemptID, now + req.probeTTL) (inFlight be row.generation db.probes) := by
      ext ⟨id, e⟩
      rw [mem_inFlight_insert, Finset.mem_insert, hdeadline]
      split
      · next hid =>
        rw [hid, mem_inFlight, hreq.probe, eq_comm (a := _ + _)]
        simp [hunfinished]
      · next hid => simp [hid]
    simp [circuitOf, hstate, Circuit.withProbe, withRow, hprobes]

section

variable (hreq : Fresh be db now req) (hread : Noticed o be row db read) (hframe : Frame before db)
  (fingerprint : Nat)

include hreq hread hframe

/-- The end of `acquire` in a half-open circuit that has settled. -/
theorem Stored.acquireProbe_spec (hstate : row.state = .circuitHalfOpen) :
    Acquired o be now req fingerprint (circuitOf be row db) before row
      (acquireProbe o db now fingerprint req read).1
      (acquireProbe o db now fingerprint req read).2 := by
  have hsucceeded : ((db.circuits.lookup req.backend.id).map
      StateRow.halfOpenSucceeded).getD false = (circuitOf be row db).succeeded := by
    rw [hreq.backend, h.entry]
    simp [circuitOf, hstate]
  have hcircuit_state : (circuitOf be row db).state = .circuitHalfOpen := hstate
  by_cases hfull : (circuitOf be row db).succeeded = true ∨
      o.halfOpenMaxProbes ≤ (circuitOf be row db).probes.card
  · have heq : acquireProbe o db now fingerprint req read
        = (db, { snapshot := { read with available := false }
                 reason := some .probeCapacityExhausted }) := by
      simp only [acquireProbe, hsucceeded, hread.probes, if_pos hfull]
    rw [heq]
    refine .unchanged h (Circuit.acquire_full hcircuit_state hfull) rfl ?_ rfl hframe
    simp only [CircuitDecision.observed, observe, hread.state, hread.generation,
      hread.failureCount, hread.probes]
    rfl
  · obtain ⟨hstored, hcircuit⟩ := h.probed hstate hreq fingerprint
    have heq : acquireProbe o db now fingerprint req read
        = (withRow db req.attemptID (newProbe fingerprint req row.generation now),
          { snapshot :=
              { read with
                probesInFlight := read.probesInFlight + 1
                available := decide (((read.probesInFlight + 1 : Nat) : Int)
                  < o.halfOpenMaxProbes) }
            permit := some (probePermit req read.generation (now + req.probeTTL)) }) := by
      simp only [acquireProbe, hsucceeded, hread.probes, if_neg hfull, hread.generation]
      rfl
    have hacquire := Circuit.acquire_probe now req.attemptID req.probeTTL hcircuit_state hfull
    have hcard : ((circuitOf be row db).withProbe req.attemptID (now + req.probeTTL)).probes.card
        = (circuitOf be row db).probes.card + 1 := by
      apply Finset.card_insert_of_notMem
      simp only [circuitOf, hstate, if_true]
      intro hmem
      obtain ⟨p, hp, -⟩ := mem_inFlight.mp hmem
      simp [hreq.probe] at hp
    rw [heq]
    exact
      { stored := hstored
        circuit := by rw [hacquire, hcircuit]
        observed := by
          rw [hacquire]
          simp only [CircuitDecision.observed, observe, hread.state, hread.generation,
            hread.failureCount, hread.probes, hcard]
          simp [Circuit.withProbe, circuitOf, hstate]
        receipts := hframe.receipts
        refused := fun hnone => by cases hnone
        granted := fun _ => ⟨db.probes, hframe.probes, by rw [hread.generation]; rfl⟩ }

theorem Stored.acquireNew_open (hstate : row.state = .circuitOpen)
    (hrevision : read.backend.revision = be.revision) :
    ∃ row', Acquired o be now req fingerprint ((circuitOf be row db).settle o now) before row'
      (acquireNew o db now fingerprint req be read).1
      (acquireNew o db now fingerprint req be read).2 := by
  have hread_state : read.state = some .circuitOpen := by rw [hread.state, hstate]
  have hretry := hread.retryAt hstate
  have hcurrent := hreq.current hrevision
  rw [Circuit.settle_of_open hstate]
  by_cases hwait : now < read.retryAt
  · have heq : acquireNew o db now fingerprint req be read
        = (db, { snapshot := read, reason := some .circuitOpen }) := by
      simp only [acquireNew, hcurrent, validCircuitOperationTime, hreq.started, hread_state,
        if_pos hwait]
      rfl
    have hcool : (circuitOf be row db).cool o now = circuitOf be row db := by
      apply if_neg
      rintro ⟨-, hready⟩
      omega
    rw [heq, hcool]
    refine ⟨row, .unchanged h (Circuit.acquire_open hstate) rfl ?_ rfl hframe⟩
    simp only [CircuitDecision.observed, observe, hread.state, hread.generation,
      hread.failureCount, hread.probes]
    rfl
  · obtain ⟨hstored, hcircuit⟩ := h.cooled hstate
    have hcool : (circuitOf be row db).cool o now
        = circuitOf be (row.halfOpened (row.generation + 1)) (cooling be row db) := by
      rw [hcircuit]
      exact if_pos ⟨hstate, by omega⟩
    have heq : acquireNew o db now fingerprint req be read
        = acquireProbe o (cooling be row db) now fingerprint req
          { read with
            state := some .circuitHalfOpen
            generation := row.generation + 1
            retryAt := 0
            probesInFlight := 0
            available := true } := by
      rw [← updateState_halfOpened h.entry]
      simp only [acquireNew, hcurrent, validCircuitOperationTime, hreq.started, hread_state,
        if_neg hwait, hread.generation, hreq.backend]
      rfl
    rw [heq, hcool]
    refine ⟨_, hstored.acquireProbe_spec { hreq with } ?_ ⟨hframe.receipts, hframe.probes⟩
      fingerprint rfl⟩
    exact
      { state := rfl
        generation := rfl
        failureCount := hread.failureCount
        retryAt := nofun
        probes := by rw [hcircuit]; rfl }

theorem Stored.acquireNew_halfOpen (hstate : row.state = .circuitHalfOpen)
    (hrevision : read.backend.revision = be.revision) :
    Acquired o be now req fingerprint (circuitOf be row db) before row
      (acquireNew o db now fingerprint req be read).1
      (acquireNew o db now fingerprint req be read).2 := by
  have heq : acquireNew o db now fingerprint req be read
      = acquireProbe o db now fingerprint req read := by
    have hcurrent := hreq.current hrevision
    simp only [acquireNew, hcurrent, validCircuitOperationTime, hreq.started, hread.state, hstate]
    rfl
  rw [heq]
  exact h.acquireProbe_spec hreq hread hframe fingerprint hstate

end

omit h in
/-- Noticing overdue probes does not close a circuit. -/
theorem Reconciled.state_ne (hr : Reconciled o be row db read now row' db' read')
    (hstate : row.state ≠ .circuitClosed) : row'.state ≠ .circuitClosed := by
  have heq : row'.state = ((circuitOf be row db).expireProbes o now).state := by
    rw [← hr.circuit]
    rfl
  rw [heq]
  rcases Circuit.expireProbes_cases o now (circuitOf be row db) with ⟨h, -⟩ | ⟨e, -, -, -, h⟩
  · rw [h]
    exact hstate
  · rw [h]
    simp [Circuit.trip]

/-- The query leaves a circuit that is not closed to the transaction. -/
theorem Stored.acquireClosed_none (ho : WholeMicros o) (hstate : row.state ≠ .circuitClosed)
    (hreq : Fresh be db now req) : acquireClosed o db now req = none := by
  obtain ⟨read, hread, hrevision, hread_state, -⟩ := h.readCommittedCircuit_eq ho hreq.probe now
  have hcurrent := hreq.current hrevision
  simp only [acquireClosed, hreq.backend, hread, hcurrent, validCircuitOperationTime,
    hreq.started, hread_state]
  simp [hstate]

/-- **Acquire** of a new attempt. -/
theorem Stored.acquire_new (ho : WholeMicros o)
    (hreq : Fresh be db now req) (fingerprint : CircuitAcquireRequest → Nat) :
    ∃ row', Acquired o be now req (fingerprint req) ((circuitOf be row db).settle o now) db row'
      (acquire o fingerprint db now req).1 (acquire o fingerprint db now req).2 := by
  by_cases hstate : row.state = .circuitClosed
  · exact ⟨row, h.acquire_closed ho fingerprint hstate hreq⟩
  obtain ⟨read, hread, hlock⟩ := h.lock
  obtain ⟨db₁, row₁, read₁, changed, hreconcile, hr⟩ := h.reconciled ho
    { read with backend := { be with
      id := read.backend.id, revision := read.backend.revision } } { hlock with } now
  have hstate₁ := hr.state_ne hstate
  have hreq₁ := hreq.ages hr.frame
  have hrevision₁ : read₁.backend.revision = be.revision := by
    rw [hr.backend]
    exact hlock.revision
  have heq : acquire o fingerprint db now req
      = acquireNew o db₁ now (fingerprint req) req be read₁ := by
    have hne : read₁.state ≠ some .circuitClosed := by simp [hr.noticed.state, hstate₁]
    simp only [acquire, h.acquireClosed_none ho hstate hreq, acquireTx, hreq.backend, hread,
      h.backend, hreconcile, bind, Except.bind, if_neg hne, hreq₁.probe]
  rw [heq, ← settle_expireProbes, ← hr.circuit]
  cases hstate₂ : row₁.state with
  | circuitClosed => exact absurd hstate₂ hstate₁
  | circuitOpen =>
    exact hr.stored.acquireNew_open hreq₁ hr.noticed hr.frame (fingerprint req) hstate₂ hrevision₁
  | circuitHalfOpen =>
    have hsettled : (circuitOf be row₁ db₁).settle o now = circuitOf be row₁ db₁ := by
      rw [hr.circuit, settle_expireProbes, Circuit.settle_eq_expireProbes]
      rw [← hr.circuit]
      exact hstate₂
    rw [hsettled]
    exact ⟨row₁, hr.stored.acquireNew_halfOpen hreq₁ hr.noticed hr.frame (fingerprint req)
      hstate₂ hrevision₁⟩

/-! ## Complete, for a request that was not a probe -/

def withReceipt (db : Db) (id : UUID) (r : ReceiptRow) : Db :=
  { db with receipts := db.receipts.insert id r }

def withFailures (db : Db) (f : Table UUID FailureRow) : Db := { db with activeFailures := f }

theorem Stored.withReceipt_stored {r : ReceiptRow}
    (hnone : db.probes.lookup id = none) : Stored be row (withReceipt db id r) :=
  { h with
    probe := h.probe
    apart := by
      intro id' p hp
      show (db.receipts.insert id r).lookup id' = none
      rw [Table.lookup_insert_eq, if_neg (by rintro rfl; simp [withReceipt, hnone] at hp)]
      exact h.apart id' p hp
    failure := by
      intro id' f hf
      have hold := h.failure id' f hf
      refine { hold with accounted := hold.accounted.ages (.refl _) ?_ }
      intro hr
      show ((db.receipts.insert id r).lookup id').isSome = true
      rw [Table.lookup_insert_eq]
      split
      · rfl
      · exact hr }

/-- One more failure in a circuit that does not open. -/
theorem Stored.withFailures_stored {t : Int} {f' : Table UUID FailureRow}
    (hrecorded : FailureRecorded o be db.activeFailures f' id t) (hwhole : t % 1000 = 0)
    (hid : Accounted db id) : Stored be row (withFailures db f') :=
  { h with
    probe := h.probe
    apart := h.apart
    failure := by
      intro id' f hf
      rcases hrecorded.kept id' f hf with hold | ⟨rfl, rfl⟩
      · exact { h.failure id' f hold with }
      · exact { backend := rfl, revision := rfl, whole := hwhole, accounted := hid } }

/-- What is assumed of a completion that is reported when it is processed. -/
structure Reported (be : BackendIdentity) (now : Int) (value : CircuitCompletion) : Prop where
  tick : Tick now
  backend : value.backend = be
  reported : value.reportedOutcomeAt = now

omit h in
theorem Reported.whole (h : Reported be now value) : value.reportedOutcomeAt % 1000 = 0 := by
  rw [h.reported]
  exact h.tick.whole

omit h in
/-- A failure applies exactly in the closed circuit of its generation. -/
theorem failureApplies_iff (hvalue : Reported be now value) (hseen : Seen be row read) :
    failureApplies o now value read now = true ↔
      row.state = .circuitClosed ∧ row.generation = value.generation := by
  have hwindow := o.window_pos
  have hinside : now ≤ now + o.failureWindow := by omega
  simp [failureApplies, hseen.state, hseen.revision, hseen.generation, hvalue.backend, hinside]

/-- `complete` of a failure that has no receipt yet. -/
theorem Stored.completeFailure_spec (ho : WholeMicros o)
    (hvalue : Reported be now value) (houtcome : value.outcome = .inferenceFailure)
    (hseen : Seen be row read) (hprobe : db.probes.lookup value.attemptID = none)
    (hreceipt : db.receipts.lookup value.attemptID = none) :
    ∃ row' db', (completeFailure o db now value read).map Prod.fst = .ok db' ∧
      Stored be row' db' ∧
      circuitOf be row' db'
        = (circuitOf be row db).completeAttempt o now value.generation value.outcome ∧
      db'.probes = db.probes ∧ ∃ r, db'.receipts = db.receipts.insert value.attemptID r := by
  have hwhole := hvalue.tick.whole
  by_cases happlied : row.state = .circuitClosed ∧ row.generation = value.generation
  · have happlies := (failureApplies_iff (o := o) hvalue hseen).mpr happlied
    have hnone : db.activeFailures.lookup value.attemptID = none := by
      apply h.no_failure
      rintro (hr | ⟨p, hp, -⟩)
      · simp [hreceipt] at hr
      · simp [hprobe] at hp
    let db₁ := withReceipt db value.attemptID (newReceipt value now now true)
    have h₁ : Stored be row db₁ := h.withReceipt_stored hprobe
    have haccounted : Accounted db₁ value.attemptID := by
      left
      show ((db.receipts.insert _ _).lookup value.attemptID).isSome = true
      rw [AList.lookup_insert]
      rfl
    obtain ⟨f', hrecorded, hrecord⟩ := h₁.recordActiveFailure_eq ho read db₁ hseen.id
      hseen.revision hwhole hnone rfl
    have habstract : (circuitOf be row db).completeAttempt o now value.generation value.outcome
        = (circuitOf be row db₁).fail o now := if_pos ⟨happlied.1, happlied.2, houtcome⟩
    have hcomplete : completeFailure o db now value read
        = (do
          let r ← recordActiveFailure o.failureWindow db₁ read value.attemptID now
          if o.failureThreshold ≤ r.2.1 then
            .ok (updateState r.1 be.id (StateRow.opened (row.generation + 1) (timestamptz r.2.2)),
              { read with
                failureCount := r.2.1
                state := some .circuitOpen
                generation := row.generation + 1
                retryAt := r.2.2 + o.openCooldown
                available := false })
          else .ok (r.1, { read with failureCount := r.2.1 })) := by
      simp only [completeFailure, hreceipt, validCircuitOperationTime, hvalue.reported,
        fresh_self now, min_self, happlies, hseen.generation, hvalue.backend]
      rfl
    rw [hcomplete, hrecord]
    by_cases hthreshold : o.failureThreshold ≤ (failuresOf be f').card
    · have hprep : Prepared db₁ db₁ value.attemptID :=
        ⟨rfl, rfl, rfl, .refl _, h₁.ended (by simp [happlied.1]), haccounted⟩
      obtain ⟨hstored, hcircuit⟩ := h₁.trip hvalue.tick.positive hwhole hprep hrecorded
      refine ⟨_, _, ?_, hstored, ?_, rfl, _, rfl⟩
      · show (if o.failureThreshold ≤ ((failuresOf be f').card : Int) then _ else _ :
          Except Failure (Db × CircuitSnapshot)).map Prod.fst = _
        rw [if_pos hthreshold, timestamptz_of_whole (h₁.latest_whole hwhole),
          updateState_opened h₁.entry]
        rfl
      · rw [hcircuit, habstract, fail, if_pos]
        rw [show (circuitOf be row db₁).failures = failuresOf be db₁.activeFailures from rfl,
          ← hrecorded.failures]
        exact hthreshold
    · refine ⟨row, withFailures db₁ f', ?_, h₁.withFailures_stored hrecorded hwhole haccounted,
        ?_, rfl, _, rfl⟩
      · show (if o.failureThreshold ≤ ((failuresOf be f').card : Int) then _ else _ :
          Except Failure (Db × CircuitSnapshot)).map Prod.fst = _
        rw [if_neg hthreshold]
        rfl
      · rw [habstract, fail,
          show (circuitOf be row db₁).failures = failuresOf be db₁.activeFailures from rfl,
          ← hrecorded.failures, if_neg hthreshold]
        rfl
  · have happlies : failureApplies o now value read now = false := by
      rw [← Bool.not_eq_true, failureApplies_iff hvalue hseen]
      exact happlied
    refine ⟨row, withReceipt db value.attemptID (newReceipt value now now false), ?_,
      h.withReceipt_stored hprobe, ?_, rfl, _, rfl⟩
    · simp only [completeFailure, hreceipt, validCircuitOperationTime, hvalue.reported,
        fresh_self now, min_self, happlies]
      rfl
    · symm
      apply if_neg
      rintro ⟨hclosed, hgen, -⟩
      exact happlied ⟨hclosed, hgen⟩

/-! ## Complete, for a probe -/

/-- The outcome of an unfinished probe is written. -/
theorem Stored.report_stored (hp : db.probes.lookup id = some p)
    (value : CircuitCompletion) (now : Int) :
    Stored be row (withRow db id (p.report value now now)) ∧
      ProbesAge db.probes (withRow db id (p.report value now now)).probes ∧
      circuitOf be row (withRow db id (p.report value now now))
        = { circuitOf be row db with
            probes := (circuitOf be row db).probes.filter (fun probe => probe.1 ≠ id) } := by
  have hout : (p.report value now now).outcome ≠ none := by simp [ProbeRow.report]
  refine ⟨h.withRow_stored ?_ (h.apart id p hp) (fun _ _ _ => hout),
    ProbesAge.insert hp rfl rfl (fun _ => hout), ?_⟩
  · exact
      { h.probe id p hp with
        current := fun hnone => absurd hnone hout
        unreported := fun hnone => absurd hnone hout }
  have hprobes : inFlight be row.generation (db.probes.insert id (p.report value now now))
      = (inFlight be row.generation db.probes).filter (fun probe => probe.1 ≠ id) := by
    ext ⟨id', e⟩
    rw [mem_inFlight_insert, Finset.mem_filter, unfinished_iff]
    split
    · next hid => simp [hid, hout]
    · next hid => simp [hid]
  by_cases hstate : row.state = .circuitHalfOpen
  · simp [circuitOf, withRow, hstate, hprobes]
  · simp [circuitOf, withRow, hstate]

/-- The tables once the circuit is closed. -/
def closing (be : BackendIdentity) (row : StateRow) (db : Db) : Db :=
  { db with
    activeFailures := db.activeFailures.filter (fun _ f => !decide (f.backendID = be.id))
    circuits := db.circuits.insert be.id (row.closed (row.generation + 1)) }

theorem Stored.closed (hempty : inFlight be row.generation db.probes = ∅) :
    Stored be (row.closed (row.generation + 1)) (closing be row db) ∧
      circuitOf be (row.closed (row.generation + 1)) (closing be row db)
        = (circuitOf be row db).closed := by
  have hgone : ∀ id f, (closing be row db).activeFailures.lookup id = some f → False := by
    intro id f hf
    simp only [closing, Table.lookup_filter, Option.filter_eq_some_iff] at hf
    have := (h.failure id f hf.1).backend
    simp [this] at hf
  constructor
  · refine h.rewritten rfl nofun ?_ (fun id f hf => (hgone id f hf).elim)
    -- an unfinished probe would still be in flight
    intro id p hp hnone
    have hmem := (h.live_inFlight hp hnone).2
    simp [hempty] at hmem
  · have hfailures : failuresOf be (closing be row db).activeFailures = 0 := by
      rw [Multiset.eq_zero_iff_forall_notMem]
      intro x hx
      obtain ⟨id, f, hf, -, -⟩ := Table.mem_values.mp hx
      exact hgone id f hf
    simp [circuitOf, Circuit.closed, StateRow.closed, hfailures]

/-- What the first completion of a probe does. -/
structure ProbeCompleted (be : BackendIdentity) (db : Db) (id : UUID) (c : Circuit)
    (row' : StateRow) (db' : Db) : Prop where
  stored : Stored be row' db'
  circuit : circuitOf be row' db' = c
  frame : Frame db db'
  done : ∃ p, db'.probes.lookup id = some p ∧ p.outcome ≠ none

theorem Stored.closeIfDone_spec (hstate : row.state = .circuitHalfOpen)
    (hbackend : value.backend = be) (hgeneration : value.generation = row.generation)
    (hseen : Seen be row read) (hp : db.probes.lookup id = some p) (hout : p.outcome ≠ none) :
    ∃ row', ProbeCompleted be db id
      (if (circuitOf be row db).succeeded ∧ (circuitOf be row db).probes = ∅ then
        (circuitOf be row db).closed else circuitOf be row db) row'
      (closeIfDone db read value).1 := by
  have hprobes : (circuitOf be row db).probes = inFlight be row.generation db.probes := by
    simp [circuitOf, hstate]
  have hsucceeded : (circuitOf be row db).succeeded = row.halfOpenSucceeded := by
    simp [circuitOf, hstate]
  have hremaining : Table.count (unfinished be.id be.revision row.generation) db.probes = 0 ↔
      inFlight be row.generation db.probes = ∅ := by
    rw [← Finset.card_eq_zero, inFlight, Table.card_project]
    have : (fun k p => (openDeadline be row.generation k p).isSome)
        = unfinished be.id be.revision row.generation := by
      funext k p
      unfold openDeadline
      split
      · next hu => rw [hu]; rfl
      · next hu => simp [hu]
    rw [this]
  rw [hprobes, hsucceeded]
  by_cases hdone : row.halfOpenSucceeded = true ∧ inFlight be row.generation db.probes = ∅
  · obtain ⟨hstored, hcircuit⟩ := h.closed hdone.2
    have heq : (closeIfDone db read value).1 = closing be row db := by
      subst hbackend
      rw [closeIfDone]
      rw [if_pos ⟨by rw [hseen.state, hstate], by rw [h.entry]; exact hdone.1,
        by rw [hgeneration]; exact hremaining.mpr hdone.2⟩]
      simp [updateState, h.entry, closing, hseen.generation]
    rw [heq, if_pos hdone]
    exact ⟨_, hstored, hcircuit, ⟨rfl, .refl _⟩, p, hp, hout⟩
  · have heq : (closeIfDone db read value).1 = db := by
      subst hbackend
      rw [closeIfDone]
      rw [if_neg]
      rintro ⟨-, hs, hr⟩
      rw [h.entry] at hs
      rw [hgeneration] at hr
      exact hdone ⟨hs, hremaining.mp hr⟩
    rw [heq, if_neg hdone]
    exact ⟨row, h, rfl, .refl db, p, hp, hout⟩

/-- The tables once a probe has succeeded. -/
def succeeding (be : BackendIdentity) (row : StateRow) (db : Db) : Db :=
  { db with circuits := db.circuits.insert be.id row.succeed }

theorem Stored.succeeded (hstate : row.state = .circuitHalfOpen) :
    Stored be row.succeed (succeeding be row db) ∧
      circuitOf be row.succeed (succeeding be row db)
        = { circuitOf be row db with succeeded := true } := by
  constructor
  · exact h.rewritten rfl h.opened (fun id p hp => (h.probe id p hp).current) h.failure
  · simp [circuitOf, StateRow.succeed, succeeding, hstate]

/-- All other probes of a generation end when one has failed. -/
theorem Stored.terminalizeGeneration_ended
    (hp : db.probes.lookup id = some p) (hout : p.outcome ≠ none) (now : Int) :
    Prepared db (terminalizeGeneration db be.id row.generation id now) id := by
  have hage : ProbesAge db.probes
      (terminalizeGeneration db be.id row.generation id now).probes := by
    dsimp only [terminalizeGeneration]
    apply ProbesAge.mapRows
    intro id' p
    split <;> simp [ProbeRow.finish]
  have hended : Ended db.probes
      (terminalizeGeneration db be.id row.generation id now).probes := by
    apply Ended.mapRows (fun _ => .superseded)
    intro id' q hq hnone
    have hstored := h.probe id' q hq
    refine ⟨hstored.backend, (hstored.current hnone).1, ?_, by rw [hnone]; rfl⟩
    rintro rfl
    rw [hp] at hq
    cases hq
    exact hout hnone
  refine ⟨rfl, rfl, rfl, ⟨rfl, hage⟩, hended, ?_⟩
  obtain ⟨p', hp', -⟩ := hage.kept id p hp
  exact Or.inr ⟨p', hp', (hended id p' hp').1⟩

end

/-- A probe that is not in flight. -/
theorem notMem_probes (h : ∀ p, db.probes.lookup id = some p → p.outcome ≠ none) (e : Int) :
    (id, e) ∉ (circuitOf be row db).probes := by
  intro hmem
  simp only [circuitOf] at hmem
  split at hmem
  · obtain ⟨p, hp, hunfinished, -⟩ := mem_inFlight.mp hmem
    exact h p hp (unfinished_iff.mp hunfinished).2.2.2
  · simp at hmem

/-- `applyProbe` in the half-open circuit of the probe, once its row is written. -/
theorem Stored.applyProbe_spec (h : Stored be row db) (ho : WholeMicros o)
    (hstate : row.state = .circuitHalfOpen) (hvalue : Reported be now value)
    (hgeneration : value.generation = row.generation) (hseen : Seen be row read)
    (hp : db.probes.lookup value.attemptID = some p) (hout : p.outcome ≠ none)
    (hfailure : db.activeFailures.lookup value.attemptID = none) :
    ∃ row' db', (applyProbe o db now value read now).map Prod.fst = .ok db' ∧
      ProbeCompleted be db value.attemptID
        (if value.outcome = .inferenceFailure then (circuitOf be row db).trip o now
        else
          let succeeded := (circuitOf be row db).succeeded ||
            decide (value.outcome = .inferenceSuccess)
          if succeeded ∧ (circuitOf be row db).probes = ∅ then (circuitOf be row db).closed
          else { circuitOf be row db with succeeded := succeeded }) row' db' := by
  have hwhole := hvalue.tick.whole
  have hskip : ¬ (read.generation ≠ value.generation ∨
      read.backend.revision ≠ value.backend.revision ∨ read.state ≠ some .circuitHalfOpen) := by
    simp [hseen.generation, hseen.revision, hseen.state, hgeneration, hvalue.backend, hstate]
  rw [applyProbe, if_neg hskip]
  cases houtcome : value.outcome with
  | inferenceFailure =>
    have hprep := h.terminalizeGeneration_ended hp hout now
    obtain ⟨f', hrecorded, hrecord⟩ := h.recordActiveFailure_eq ho read
      (terminalizeGeneration db be.id row.generation value.attemptID now) hseen.id hseen.revision
      hwhole hfailure hprep.activeFailures
    obtain ⟨hstored, hcircuit⟩ := h.trip hvalue.tick.positive hwhole hprep hrecorded
    refine ⟨_, _, ?_, hstored, hcircuit, ⟨hprep.frame.receipts, hprep.frame.probes⟩, ?_⟩
    · simp only [hvalue.backend, hgeneration, hrecord]
      show Except.ok (closeIfDone (updateState _ be.id (StateRow.opened (read.generation + 1)
        (timestamptz (latest now (failuresOf be db.activeFailures))))) _ value).1 = _
      rw [closeIfDone, if_neg (by simp), hseen.generation,
        timestamptz_of_whole (h.latest_whole hwhole), updateState_opened (by exact h.entry)]
    · obtain ⟨p', hp', -, -, hout'⟩ := hprep.frame.probes.kept _ p hp
      exact ⟨p', hp', hout' hout⟩
  | inferenceSuccess =>
    obtain ⟨hstored, hcircuit⟩ := h.succeeded hstate
    obtain ⟨row', hclosed⟩ :=
      hstored.closeIfDone_spec hstate hvalue.backend hgeneration { hseen with } hp hout
    refine ⟨row', _, ?_, hclosed.stored, ?_, ⟨hclosed.frame.receipts, hclosed.frame.probes⟩,
      hclosed.done⟩
    · rw [show succeeding be row db = updateState db be.id StateRow.succeed by
        simp [updateState, h.entry, succeeding], hvalue.backend]
      rfl
    · rw [hclosed.circuit, hcircuit]
      simp [Circuit.closed]
  | inferenceNeutral =>
    obtain ⟨row', hclosed⟩ := h.closeIfDone_spec hstate hvalue.backend hgeneration hseen hp hout
    refine ⟨row', _, rfl, { hclosed with circuit := ?_ }⟩
    rw [hclosed.circuit]
    simp

theorem Stored.completeProbe_spec (h : Stored be row db) (ho : WholeMicros o)
    (hvalue : Reported be now value) (hseen : Seen be row read)
    (hp : db.probes.lookup value.attemptID = some p) (hnone : p.outcome = none)
    (hgeneration : p.circuitGeneration = value.generation) :
    ∃ row' db', (completeProbe o db now value read p).map Prod.fst = .ok db' ∧
      ProbeCompleted be db value.attemptID
        ((circuitOf be row db).completeProbe o now value.attemptID value.outcome) row' db' := by
  have hstored := h.probe _ p hp
  obtain ⟨hcurrent, hstate⟩ := hstored.current hnone
  have hout : (p.report value now now).outcome ≠ none := by simp [ProbeRow.report]
  obtain ⟨h₁, hage, hcircuit₁⟩ := h.report_stored hp value now
  obtain ⟨row', db', heq, hcompleted⟩ := h₁.applyProbe_spec ho hstate hvalue
    (hgeneration.symm.trans hcurrent) hseen (AList.lookup_insert _) hout
    (h.no_failure_of_probe hp hnone)
  have hmem : value.attemptID ∈ (circuitOf be row db).probes.image Prod.fst := by
    refine Finset.mem_image.mpr ⟨(value.attemptID, p.expiresAt), ?_, rfl⟩
    simp only [circuitOf, hstate, if_true]
    exact (h.live_inFlight hp hnone).2
  refine ⟨row', db', ?_, hcompleted.stored, ?_, ?_, hcompleted.done⟩
  · rw [← heq, completeProbe, if_neg]
    · simp only [hnone, validCircuitOperationTime, hvalue.reported, fresh_self now, min_self]
      rfl
    · simp [hstored.revision, hvalue.backend, hgeneration]
  · rw [hcompleted.circuit, hcircuit₁]
    exact (if_pos ⟨hstate, hmem⟩).symm
  · exact ⟨hcompleted.frame.receipts, hage.trans hcompleted.frame.probes⟩

/-! ## Complete -/

/-- The transaction runs on the tables that `reconcileExpired` leaves. -/
theorem Stored.completeTx_eq (h : Stored be row db) (ho : WholeMicros o)
    (hbackend : value.backend = be) (now : Int) :
    ∃ row₁ db₁ read₁ read, Reconciled o be row db read now row₁ db₁ read₁ ∧
      ∃ seen, Seen be row₁ seen ∧
        completeTx o db now value = completeLocked o db₁ now value seen := by
  obtain ⟨read, hread, hlock⟩ := h.lock
  obtain ⟨db₁, row₁, read₁, changed, hreconcile, hr⟩ := h.reconciled ho read hlock now
  refine ⟨row₁, db₁, read₁, read, hr,
    if read₁.state = some .circuitClosed then
      { read₁ with
        failureCount := currentClosedFailureCount db₁ read₁ now o.failureWindow }
    else read₁, ?_, ?_⟩
  swap
  · simp only [completeTx, hbackend, hread, hreconcile, bind, Except.bind]
  have hid : read₁.backend.id = be.id := by rw [hr.backend]; exact hlock.id
  have hrevision : read₁.backend.revision = be.revision := by rw [hr.backend]; exact hlock.revision
  split <;> exact ⟨hid, hrevision, hr.noticed.state, hr.noticed.generation⟩

theorem complete_of_tx (hwhole : value.reportedOutcomeAt % 1000 = 0)
    (hquery : completeClosedNonFailure o db now value = none)
    (htx : (completeTx o db now value).map Prod.fst = .ok db') :
    (complete o db now value).1 = db' := by
  simp only [complete, timestamptz_of_whole hwhole, hquery]
  cases hcomplete : completeTx o db now value with
  | ok answer =>
    rw [hcomplete] at htx
    exact Except.ok.inj htx
  | error failure =>
    rw [hcomplete] at htx
    cases htx

/-- The query leaves the completion of a probe to the transaction. -/
theorem completeClosedNonFailure_probe (hp : db.probes.lookup value.attemptID = some p) :
    completeClosedNonFailure o db now value = none := by
  unfold completeClosedNonFailure
  split
  · rfl
  split
  · rfl
  next read hread =>
  have hretained : read.retainedPermit = true := by
    unfold readCommittedCircuit at hread
    split at hread <;> cases hread
    simp [hp]
  rw [if_pos (Or.inl hretained)]

theorem Reconciled.refreshed (hr : Reconciled o be row db read now row' db' read') :
    Refreshed o be row db now row' db' :=
  ⟨hr.stored, by rw [hr.circuit, settle_expireProbes], hr.frame⟩

/-- A completion that has nothing left to do. -/
def Settled (db : Db) (value : CircuitCompletion) : Prop :=
  (∃ p, db.probes.lookup value.attemptID = some p ∧ p.outcome ≠ none) ∨
    (db.probes.lookup value.attemptID = none ∧
      (value.outcome ≠ .inferenceFailure ∨ db.receipts.lookup value.attemptID ≠ none))

theorem Settled.ages (h : Settled db value) (hframe : Frame db db') : Settled db' value := by
  rcases h with ⟨p, hp, hout⟩ | ⟨hnone, hor⟩
  · obtain ⟨p', hp', -, -, hout'⟩ := hframe.probes.kept _ p hp
    exact Or.inl ⟨p', hp', hout' hout⟩
  · refine Or.inr ⟨hframe.probes.absent _ hnone, ?_⟩
    rw [hframe.receipts]
    exact hor

theorem completeLocked_settled (h : Settled db value) (seen : CircuitSnapshot) :
    completeLocked o db now value seen = .ok (db, seen) ∨
      ∃ failure, completeLocked o db now value seen = .error failure := by
  unfold completeLocked
  rcases h with ⟨p, hp, hout⟩ | ⟨hnone, hor⟩
  · simp only [hp, completeProbe]
    split
    · exact Or.inr ⟨_, rfl⟩
    split
    · split
      · split
        · exact Or.inr ⟨_, rfl⟩
        · exact Or.inl rfl
      · exact Or.inl rfl
    · next hnone => exact absurd hnone hout
  · simp only [hnone]
    split
    · split
      · exact Or.inr ⟨_, rfl⟩
      · exact Or.inl rfl
    next hfailure =>
    cases hreceipt : db.receipts.lookup value.attemptID with
    | none => exact absurd hreceipt (hor.resolve_left hfailure)
    | some receipt =>
      simp only [completeFailure, hreceipt]
      split
      · exact Or.inr ⟨_, rfl⟩
      · exact Or.inl rfl

/-- **Complete** with nothing left to do: at most expired probes are noticed. -/
theorem Stored.complete_settled (h : Stored be row db) (ho : WholeMicros o)
    (hbackend : value.backend = be) (hwhole : value.reportedOutcomeAt % 1000 = 0)
    (hdone : Settled db value) (now : Int) :
    ∃ row', Refreshed o be row db now row' (complete o db now value).1 := by
  simp only [complete, timestamptz_of_whole hwhole]
  split
  · exact ⟨row, h.refreshed⟩
  obtain ⟨row₁, db₁, read₁, read, hr, seen, hseen, htx⟩ := h.completeTx_eq ho hbackend now
  have heta : completeTx o db now { value with reportedOutcomeAt := value.reportedOutcomeAt }
      = completeTx o db now value := rfl
  rw [heta, htx]
  rcases completeLocked_settled (hdone.ages hr.frame) seen with hlocked | ⟨failure, hlocked⟩
  · rw [hlocked]
    exact ⟨row₁, hr.refreshed⟩
  · rw [hlocked]
    exact ⟨row, h.refreshed⟩

/-- What the first completion of an attempt does. -/
structure Completed (o : Options) (be : BackendIdentity) (now : Int) (value : CircuitCompletion)
    (probe : Bool) (row : StateRow) (db : Db) (row' : StateRow) (db' : Db) : Prop where
  stored : Stored be row' db'
  circuit : (circuitOf be row' db').settle o now
    = (((circuitOf be row db).settle o now).complete o now value.attemptID value.generation probe
        value.outcome).settle o now
  probes : ProbesAge db.probes db'.probes
  receipts : ∀ id, id ≠ value.attemptID → db'.receipts.lookup id = db.receipts.lookup id
  failed : probe = false → value.outcome = .inferenceFailure →
    db'.receipts.lookup value.attemptID ≠ none
  done : probe = true → ∃ p, db'.probes.lookup value.attemptID = some p ∧ p.outcome ≠ none

/-- **Complete**, the first time, for a request that was not a probe. -/
theorem Stored.complete_attempt (h : Stored be row db) (ho : WholeMicros o)
    (hvalue : Reported be now value) (hprobe : db.probes.lookup value.attemptID = none)
    (hreceipt : db.receipts.lookup value.attemptID = none) :
    ∃ row', Completed o be now value false row db row' (complete o db now value).1 := by
  by_cases houtcome : value.outcome = .inferenceFailure
  · obtain ⟨row₁, db₁, read₁, read, hr, seen, hseen, htx⟩ := h.completeTx_eq ho hvalue.backend now
    have hprobe₁ := hr.frame.probes.absent _ hprobe
    have hreceipt₁ : db₁.receipts.lookup value.attemptID = none := by
      rw [hr.frame.receipts]
      exact hreceipt
    obtain ⟨row', db', heq, hstored, hcircuit, hprobes, r, hreceipts⟩ :=
      hr.stored.completeFailure_spec ho hvalue houtcome hseen hprobe₁ hreceipt₁
    have hdb' : (complete o db now value).1 = db' := by
      apply complete_of_tx hvalue.whole
      · simp [completeClosedNonFailure, houtcome]
      · rw [htx, ← heq]
        simp [completeLocked, hprobe₁, houtcome]
    rw [hdb']
    refine ⟨row', hstored, ?_, ?_, ?_, ?_, nofun⟩
    · rw [hcircuit, hr.circuit, Circuit.settle_complete]
      rfl
    · rw [hprobes]
      exact hr.frame.probes
    · intro id hid
      rw [hreceipts, Table.lookup_insert_eq, if_neg hid, hr.frame.receipts]
    · intro _ _
      rw [hreceipts, Table.lookup_insert_eq, if_pos rfl]
      simp
  · -- nothing is written about a request that did not fail
    obtain ⟨row', hrefreshed⟩ := h.complete_settled ho hvalue.backend hvalue.whole
      (Or.inr ⟨hprobe, Or.inl houtcome⟩) now
    refine ⟨row', hrefreshed.stored, ?_, hrefreshed.frame.probes, ?_,
      fun _ hf => absurd hf houtcome, nofun⟩
    · have hsame : ((circuitOf be row db).settle o now).complete o now value.attemptID
          value.generation false value.outcome = (circuitOf be row db).settle o now := by
        show Circuit.completeAttempt o now value.generation value.outcome _ = _
        exact if_neg (fun hc => houtcome hc.2.2)
      rw [hrefreshed.circuit, hsame, Circuit.settle_settle (le_refl now)]
    · intro id _
      rw [hrefreshed.frame.receipts]

/-- **Complete**, the first time, for a probe. -/
theorem Stored.complete_probe (h : Stored be row db) (ho : WholeMicros o)
    (hvalue : Reported be now value) (hp : db.probes.lookup value.attemptID = some p)
    (hgeneration : p.circuitGeneration = value.generation) :
    ∃ row', Completed o be now value true row db row' (complete o db now value).1 := by
  -- the receipts stay as they are
  have hkept : ∀ {row' db'}, Stored be row' db' →
      (circuitOf be row' db').settle o now = (((circuitOf be row db).settle o now).complete o now
        value.attemptID value.generation true value.outcome).settle o now →
      Frame db db' → (∃ p, db'.probes.lookup value.attemptID = some p ∧ p.outcome ≠ none) →
      ∃ row', Completed o be now value true row db row' db' :=
    fun hstored hcircuit hframe hdone => ⟨_, hstored, hcircuit, hframe.probes,
      fun _ _ => (by rw [hframe.receipts]), nofun, fun _ => hdone⟩
  obtain ⟨row₁, db₁, read₁, read, hr, seen, hseen, htx⟩ := h.completeTx_eq ho hvalue.backend now
  obtain ⟨p₁, hp₁, hgeneration₁, -, hout₁⟩ := hr.frame.probes.kept _ p hp
  rw [Circuit.settle_complete, ← hr.circuit] at hkept
  by_cases hfinished₁ : p₁.outcome ≠ none
  · -- the probe was over before: the abstract circuit does not have it in flight
    have habsent : (circuitOf be row₁ db₁).complete o now value.attemptID value.generation true
        value.outcome = circuitOf be row₁ db₁ := by
      refine Circuit.complete_of_notMem (notMem_probes fun q hq => ?_)
      rw [hp₁] at hq
      cases hq
      exact hfinished₁
    rw [habsent] at hkept
    by_cases hfinished : p.outcome ≠ none
    · obtain ⟨row', hrefreshed⟩ := h.complete_settled ho hvalue.backend hvalue.whole
        (Or.inl ⟨p, hp, hfinished⟩) now
      obtain ⟨p', hp', -, -, hout'⟩ := hrefreshed.frame.probes.kept _ p hp
      refine hkept hrefreshed.stored ?_ hrefreshed.frame ⟨p', hp', hout' hfinished⟩
      rw [hrefreshed.circuit, hr.circuit, settle_expireProbes]
    · -- it has expired just now, so no report of it is known
      have hreported : p₁.reportedOutcomeAt = none := by
        rw [hr.silent _ p p₁ hp hp₁]
        exact (h.probe _ p hp).unreported (by simpa using hfinished)
      have hdb' : (complete o db now value).1 = db₁ := by
        apply complete_of_tx hvalue.whole
        · exact completeClosedNonFailure_probe hp
        obtain ⟨outcome, houtcome⟩ := Option.ne_none_iff_exists'.mp hfinished₁
        have hstored := hr.stored.probe _ p₁ hp₁
        rw [htx]
        simp only [completeLocked, hp₁, completeProbe, houtcome, hreported]
        rw [if_neg (by simp [hstored.revision, hvalue.backend, hgeneration₁, hgeneration])]
        rfl
      rw [hdb']
      exact hkept hr.stored rfl hr.frame ⟨p₁, hp₁, hfinished₁⟩
  · obtain ⟨row', db', heq, hcompleted⟩ := hr.stored.completeProbe_spec ho hvalue hseen hp₁
      (by simpa using hfinished₁) (hgeneration₁.trans hgeneration)
    have hdb' : (complete o db now value).1 = db' := by
      apply complete_of_tx hvalue.whole
      · exact completeClosedNonFailure_probe hp
      · rw [htx, ← heq]
        simp [completeLocked, hp₁]
    rw [hdb']
    refine hkept hcompleted.stored ?_ (hr.frame.trans hcompleted.frame) hcompleted.done
    rw [hcompleted.circuit]
    rfl

/-! ## RenewProbes -/

/-- The holder of a probe renews it, with the same duration. -/
structure Renews (be : BackendIdentity) (ttl : UUID → Int) (t : Table UUID ProbeRow)
    (probe : ProbeIdentity) : Prop where
  backend : probe.backend = be
  own : ∀ p, t.lookup probe.permitID = some p → p.circuitGeneration = probe.generation ∧
    p.replicaID = probe.replicaID ∧ probe.ttl = ttl probe.permitID ∧ 0 < probe.ttl ∧
    probe.ttl % 1000 = 0

theorem Renews.ages {t t' : Table UUID ProbeRow}
    (h : Renews be ttl t probe) (hage : ProbesAge t t') : Renews be ttl t' probe where
  backend := h.backend
  own := by
    intro p' hp'
    rcases hp : t.lookup probe.permitID with _ | p
    · simp [hage.absent _ hp] at hp'
    obtain ⟨q, hq, hgeneration, hreplica, -⟩ := hage.kept _ p hp
    rw [hp'] at hq
    cases hq
    rw [hgeneration, hreplica]
    exact h.own p hp

/-- No unfinished probe is overdue. -/
def Idle (be : BackendIdentity) (row : StateRow) (db : Db) (now : Int) : Prop :=
  ∀ id e, (id, e) ∈ inFlight be row.generation db.probes → now < e

theorem Reconciled.idle (hr : Reconciled o be row db read now row' db' read') :
    Idle be row' db' now := by
  intro id e hmem
  by_cases hstate : row'.state = .circuitHalfOpen
  · have hhalf : ((circuitOf be row db).expireProbes o now).state = .circuitHalfOpen := by
      rw [← hr.circuit]
      exact hstate
    have hnone := Circuit.notMem_due_expireProbes hhalf e
    rw [← hr.circuit, Circuit.mem_due] at hnone
    by_contra hle
    apply hnone
    refine ⟨⟨id, ?_⟩, Int.not_lt.mp hle⟩
    simp only [circuitOf, hstate, if_true]
    exact hmem
  · simp [hr.stored.inFlight_empty hstate] at hmem

theorem inFlight_extend {generation : Int} (hp : t.lookup id = some p)
    (hunfinished : unfinished be.id be.revision generation id p = true) (now : Int)
    (ttl : UUID → Int) :
    inFlight be generation (t.insert id (p.extend (now + ttl id)))
      = (inFlight be generation t).image
        (fun probe => if probe.1 ∈ [id] then (probe.1, now + ttl probe.1) else probe) := by
  ext ⟨id', e⟩
  rw [mem_inFlight_insert, Finset.mem_image]
  constructor
  · split
    · rintro ⟨-, rfl⟩
      exact ⟨(id, p.expiresAt), mem_inFlight.mpr ⟨p, hp, hunfinished, rfl⟩, by
        simp [ProbeRow.extend, *]⟩
    · next hid => exact fun hmem => ⟨(id', e), hmem, by simp [hid]⟩
  · rintro ⟨⟨k, d⟩, hmem, heq⟩
    by_cases hk : k = id
    · simp only [hk, List.mem_singleton, if_true, Prod.mk.injEq] at heq
      rw [if_pos heq.1.symm]
      exact ⟨hunfinished, heq.2⟩
    · simp only [List.mem_singleton, hk, if_false, Prod.mk.injEq] at heq
      rw [← heq.1, ← heq.2, if_neg hk]
      exact hmem

theorem Stored.extended (h : Stored be row db) (htick : Tick now)
    (hp : db.probes.lookup id = some p) (hnone : p.outcome = none) (hpos : 0 < ttl id)
    (hwhole : ttl id % 1000 = 0) (hidle : Idle be row db now) :
    Stored be row (withRow db id (p.extend (now + ttl id))) ∧
      circuitOf be row (withRow db id (p.extend (now + ttl id)))
        = (circuitOf be row db).renew now [id] ttl ∧
      Idle be row (withRow db id (p.extend (now + ttl id))) now ∧
      Frame db (withRow db id (p.extend (now + ttl id))) := by
  have hstored := h.probe id p hp
  have hstate := (hstored.current hnone).2
  have hnow := htick.whole
  have hage : ProbesAge db.probes (db.probes.insert id (p.extend (now + ttl id))) :=
    ProbesAge.insert hp rfl rfl (fun hout => absurd hnone hout)
  have hprobes := inFlight_extend hp (h.live_inFlight hp hnone).1 now ttl
  refine ⟨h.withRow_stored ?_ (h.apart id p hp) ?_, ?_, ?_, rfl, hage⟩
  · exact
      { hstored with
        whole := by simp only [ProbeRow.extend]; omega
        positive := by simp only [ProbeRow.extend]; have := htick.positive; omega }
  · intro q hq hout
    rw [hp] at hq
    cases hq
    exact absurd hnone hout
  · simp [circuitOf, withRow, hstate, renew, hprobes]
  intro id' e hmem
  simp only [withRow, hprobes] at hmem
  obtain ⟨⟨k, d⟩, hmem, heq⟩ := Finset.mem_image.mp hmem
  by_cases hk : k = id
  · simp only [hk, List.mem_singleton, if_true, Prod.mk.injEq] at heq
    omega
  · simp only [List.mem_singleton, hk, if_false, Prod.mk.injEq] at heq
    rw [← heq.2]
    exact hidle k d hmem

theorem Stored.renew_one (h : Stored be row db) (htick : Tick now)
    (hprobe : Renews be ttl db.probes probe) (hidle : Idle be row db now) :
    Stored be row (renewProbe now db probe).1 ∧
      circuitOf be row (renewProbe now db probe).1
        = (circuitOf be row db).renew now [probe.permitID] ttl ∧
      Idle be row (renewProbe now db probe).1 now ∧ Frame db (renewProbe now db probe).1 := by
  by_cases hlive : ∃ p, db.probes.lookup probe.permitID = some p ∧ p.outcome = none
  · obtain ⟨p, hp, hnone⟩ := hlive
    obtain ⟨hgeneration, hreplica, httl, hpos, hwhole⟩ := hprobe.own p hp
    have hstored := h.probe _ p hp
    have hnow := htick.whole
    have hinside : now < p.expiresAt := hidle _ _ (h.live_inFlight hp hnone).2
    have hrenewable : renewable probe now p = true := by
      simp [renewable, hstored.backend, hstored.revision, hprobe.backend, hgeneration, hreplica,
        hnone, hinside]
    have heq : (renewProbe now db probe).1
        = withRow db probe.permitID (p.extend (now + ttl probe.permitID)) := by
      have hdeadline : timestamptz (now + probe.ttl) = now + probe.ttl :=
        timestamptz_of_whole (by omega)
      simp only [renewProbe, if_neg (Int.not_le.mpr hpos), hp, hrenewable, if_true, hdeadline]
      rw [httl]
      rfl
    rw [heq]
    rw [httl] at hpos hwhole
    exact h.extended htick hp hnone hpos hwhole hidle
  · -- nothing to renew: the probe is unknown or over
    have heq : (renewProbe now db probe).1 = db := by
      unfold renewProbe
      split
      · rfl
      split
      · rfl
      next p hp =>
      rw [if_neg]
      intro hrenewable
      simp only [renewable, Bool.and_eq_true, Option.isNone_iff_eq_none] at hrenewable
      exact hlive ⟨p, hp, hrenewable.1.2⟩
    have habsent : ∀ e, (probe.permitID, e) ∉ (circuitOf be row db).probes :=
      notMem_probes fun p hp hnone => hlive ⟨p, hp, hnone⟩
    rw [heq, Circuit.renew_of_notMem now ttl habsent]
    exact ⟨h, rfl, hidle, .refl db⟩

theorem Stored.renew_loop (h : Stored be row db) (htick : Tick now) (probes : List ProbeIdentity)
    (hprobes : ∀ p ∈ probes, Renews be ttl db.probes p) (hidle : Idle be row db now) :
    Stored be row ((renewLoop now).after db probes) ∧
      circuitOf be row ((renewLoop now).after db probes)
        = (circuitOf be row db).renew now (probes.map ProbeIdentity.permitID) ttl ∧
      Frame db ((renewLoop now).after db probes) := by
  induction probes generalizing db with
  | nil =>
    refine ⟨h, ?_, .refl db⟩
    show _ = (circuitOf be row db).renew now [] ttl
    simp [renew, Machine.after]
  | cons p probes ih =>
    obtain ⟨h₁, hcircuit₁, hidle₁, hframe₁⟩ := h.renew_one htick (hprobes p (by simp)) hidle
    obtain ⟨h₂, hcircuit₂, hframe₂⟩ :=
      ih h₁ (fun q hq => (hprobes q (by simp [hq])).ages hframe₁.probes) hidle₁
    refine ⟨h₂, ?_, hframe₁.trans hframe₂⟩
    show circuitOf be row ((renewLoop now).after (renewProbe now db p).1 probes) = _
    rw [hcircuit₂, hcircuit₁, Circuit.renew_renew]
    rfl

/-- The backends of the probes, without repetitions: there is only one. -/
theorem destutter_same {a : Int} {l : List Int} (hne : l ≠ []) (h : ∀ x ∈ l, x = a) :
    l.destutter (· ≠ ·) = [a] := by
  cases l with
  | nil => exact absurd rfl hne
  | cons b l =>
    obtain rfl : b = a := h b (by simp)
    have hrest : ∀ x ∈ l, x = b := fun x hx => h x (by simp [hx])
    clear h hne
    show List.destutter' (· ≠ ·) b l = [b]
    induction l with
    | nil => rfl
    | cons x l ih =>
      obtain rfl : x = b := hrest x (by simp)
      rw [List.destutter'_cons_neg _ (by simp)]
      exact ih (fun y hy => hrest y (by simp [hy]))

theorem mem_renewalOrder {probes : List ProbeIdentity} {p : ProbeIdentity} :
    p ∈ renewalOrder probes ↔ p ∈ probes :=
  (List.mergeSort_perm probes _).mem_iff

/-- **RenewProbes** by the holders of the permits. -/
theorem Stored.renew_all (h : Stored be row db) (ho : WholeMicros o) (htick : Tick now)
    (probes : List ProbeIdentity) (hprobes : ∀ p ∈ probes, Renews be ttl db.probes p) :
    ∃ row', Stored be row' (renewProbes o db now probes).1 ∧
      (circuitOf be row' (renewProbes o db now probes).1).settle o now
        = (((circuitOf be row db).settle o now).renew now (probes.map ProbeIdentity.permitID)
            ttl).settle o now ∧
      Frame db (renewProbes o db now probes).1 := by
  rw [Circuit.settle_renew]
  by_cases hempty : probes = []
  · subst hempty
    refine ⟨row, h, ?_, .refl db⟩
    show (circuitOf be row db).settle o now = _
    have hsame : ((circuitOf be row db).expireProbes o now).renew now [] ttl
        = (circuitOf be row db).expireProbes o now := by
      simp [renew]
    rw [List.map_nil, hsame, settle_expireProbes]
  · obtain ⟨read, hread, hlock⟩ := h.lock
    obtain ⟨db₁, row₁, read₁, changed, hreconcile, hr⟩ := h.reconciled ho read hlock now
    have hids : ((renewalOrder probes).map (fun p => p.backend.id)).destutter (· ≠ ·)
        = [be.id] := by
      apply destutter_same
      · simp only [ne_eq, List.map_eq_nil_iff]
        intro hnil
        apply hempty
        exact List.length_eq_zero_iff.mp (by
          rw [← (List.mergeSort_perm probes _).length_eq]
          exact List.length_eq_zero_iff.mpr hnil)
      · intro x hx
        obtain ⟨p, hp, rfl⟩ := List.mem_map.mp hx
        rw [(hprobes p (mem_renewalOrder.mp hp)).backend]
    obtain ⟨h₂, hcircuit₂, hframe₂⟩ := hr.stored.renew_loop htick (renewalOrder probes)
      (fun p hp => (hprobes p (mem_renewalOrder.mp hp)).ages hr.frame.probes) hr.idle
    have heq : (renewProbes o db now probes).1
        = (renewLoop now).after db₁ (renewalOrder probes) := by
      simp only [renewProbes, if_neg hempty, renewProbesTx, hids, lockAll, hread, bind, Except.bind,
        reconcileAll, hreconcile]
    rw [heq]
    refine ⟨row₁, h₂, ?_, hr.frame.trans hframe₂⟩
    rw [hcircuit₂, hr.circuit]
    congr 1
    apply Circuit.renew_congr
    intro id
    simp only [List.mem_map, mem_renewalOrder]

end Coordination.PostgresCircuit
