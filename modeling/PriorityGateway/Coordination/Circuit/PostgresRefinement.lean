import PriorityGateway.Coordination.Circuit.Abstract
import PriorityGateway.Coordination.Circuit.Postgres

/-! # The PostgreSQL Circuit as an Abstract Circuit

    The tables of one backend stand for an abstract circuit (`circuitOf`).
    The tables of a run satisfy `Stored`, and noticing expired probes, in the
    transactions as in `Refresh`, is the abstract `expireProbes`. -/

namespace Coordination.PostgresCircuit

open CircuitBreaker (Options)
open PostgresAdmission (timestamptz timestamptz_of_whole)
open Circuit (latest recent recorded latest_mem le_latest le_latest_of_mem mem_due)

/-! ## The circuit that the tables stand for -/

/-- The deadline of an unfinished probe. -/
def openDeadline (be : BackendIdentity) (generation : Int) (k : UUID) (p : ProbeRow) : Option Int :=
  if unfinished be.id be.revision generation k p then some p.expiresAt else none

def inFlight (be : BackendIdentity) (generation : Int) (probes : Table UUID ProbeRow) :
    Finset (UUID × Int) :=
  Table.project (openDeadline be generation) probes

/-- The instants of the active failures. -/
def failuresOf (be : BackendIdentity) (t : Table UUID FailureRow) : Multiset Int :=
  Table.values (ofBackend be.id be.revision) FailureRow.eventAt t

def circuitOf (be : BackendIdentity) (row : StateRow) (db : Db) : Circuit where
  state := row.state
  generation := row.generation
  failures := failuresOf be db.activeFailures
  openedAt := if row.state = .circuitOpen then row.openedAt.getD 0 else 0
  probes := if row.state = .circuitHalfOpen then inFlight be row.generation db.probes else ∅
  succeeded := decide (row.state = .circuitHalfOpen) && row.halfOpenSucceeded

variable {e generation t : Int} {id : UUID} {p : ProbeRow} {f : Table UUID FailureRow}
  {read : CircuitSnapshot} {be : BackendIdentity}

theorem mem_inFlight {t : Table UUID ProbeRow} :
    (id, e) ∈ inFlight be generation t ↔ ∃ p, t.lookup id = some p ∧
      unfinished be.id be.revision generation id p = true ∧ p.expiresAt = e := by
  simp only [inFlight, Table.mem_project, openDeadline]
  constructor
  · rintro ⟨p, hp, hf⟩
    split at hf
    · next h => exact ⟨p, hp, h, Option.some.inj hf⟩
    · cases hf
  · rintro ⟨p, hp, h, rfl⟩
    exact ⟨p, hp, if_pos h⟩

theorem unfinished_iff :
    unfinished be.id be.revision generation id p = true ↔
      p.backendID = be.id ∧ p.backendRevision = be.revision ∧ p.circuitGeneration = generation ∧
        p.outcome = none := by
  simp [unfinished, and_assoc]

theorem card_failuresOf (be : BackendIdentity) (t : Table UUID FailureRow) :
    (failuresOf be t).card = Table.count (ofBackend be.id be.revision) t :=
  Table.card_values _ _ _

/-! ## What holds of the tables -/

/-- The durations that the queries get are those of the options. -/
structure WholeMicros (o : Options) : Prop where
  window : o.failureWindow % 1000 = 0
  cooldown : o.openCooldown % 1000 = 0

theorem interval_of_whole {d : Int} (h : d % 1000 = 0) : interval d = d := by
  simp [interval, h]

structure ProbeStored (be : BackendIdentity) (row : StateRow) (p : ProbeRow) : Prop where
  backend : p.backendID = be.id
  revision : p.backendRevision = be.revision
  whole : p.expiresAt % 1000 = 0
  positive : 0 < p.expiresAt
  current : p.outcome = none → p.circuitGeneration = row.generation ∧
    row.state = .circuitHalfOpen
  unreported : p.outcome = none → p.reportedOutcomeAt = none

/-- The attempt is over: its failure may have been recorded. -/
def Accounted (db : Db) (id : UUID) : Prop :=
  (db.receipts.lookup id).isSome = true ∨ ∃ p, db.probes.lookup id = some p ∧ p.outcome ≠ none

structure FailureStored (be : BackendIdentity) (db : Db) (id : UUID) (f : FailureRow) : Prop where
  backend : f.backendID = be.id
  revision : f.backendRevision = be.revision
  whole : f.eventAt % 1000 = 0
  accounted : Accounted db id

/-- What holds of tables whose only circuit is that of `be`. -/
structure Stored (be : BackendIdentity) (row : StateRow) (db : Db) : Prop where
  backend : db.backends be.id = some be
  entry : db.circuits.lookup be.id = some row
  only : ∀ id r, db.circuits.lookup id = some r → id = be.id
  revision : row.backendRevision = be.revision
  opened : row.state = .circuitOpen → ∃ t, row.openedAt = some t ∧ 0 < t
  probe : ∀ id p, db.probes.lookup id = some p → ProbeStored be row p
  /-- Receipts are for attempts that are not probes. -/
  apart : ∀ id p, db.probes.lookup id = some p → db.receipts.lookup id = none
  failure : ∀ id f, db.activeFailures.lookup id = some f → FailureStored be db id f

/-- Probe rows stay, keep their identity, and once finished stay finished. -/
structure ProbesAge (t t' : Table UUID ProbeRow) : Prop where
  absent : ∀ id, t.lookup id = none → t'.lookup id = none
  kept : ∀ id p, t.lookup id = some p → ∃ p', t'.lookup id = some p' ∧
    p'.circuitGeneration = p.circuitGeneration ∧ p'.replicaID = p.replicaID ∧
    (p.outcome ≠ none → p'.outcome ≠ none)

theorem ProbesAge.refl (t : Table UUID ProbeRow) : ProbesAge t t where
  absent := fun _ h => h
  kept := fun _ p h => ⟨p, h, rfl, rfl, id⟩

theorem ProbesAge.trans {t t' t'' : Table UUID ProbeRow} (h : ProbesAge t t')
    (h' : ProbesAge t' t'') : ProbesAge t t'' where
  absent := fun id hid => h'.absent id (h.absent id hid)
  kept := by
    intro id p hp
    obtain ⟨p', hp', hgen, hrep, hout⟩ := h.kept id p hp
    obtain ⟨p'', hp'', hgen', hrep', hout'⟩ := h'.kept id p' hp'
    exact ⟨p'', hp'', hgen'.trans hgen, hrep'.trans hrep, fun ho => hout' (hout ho)⟩

theorem ProbesAge.mapRows {t : Table UUID ProbeRow} {f : UUID → ProbeRow → ProbeRow}
    (h : ∀ id p, (f id p).circuitGeneration = p.circuitGeneration ∧
      (f id p).replicaID = p.replicaID ∧ (p.outcome ≠ none → (f id p).outcome ≠ none)) :
    ProbesAge t (Table.mapRows f t) where
  absent := by
    intro id hid
    rw [Table.lookup_mapRows, hid]
    rfl
  kept := by
    intro id p hp
    refine ⟨f id p, ?_, h id p⟩
    rw [Table.lookup_mapRows, hp]
    rfl

theorem ProbesAge.insert {t : Table UUID ProbeRow} {p' : ProbeRow} (hp : t.lookup id = some p)
    (hgen : p'.circuitGeneration = p.circuitGeneration) (hrep : p'.replicaID = p.replicaID)
    (hout : p.outcome ≠ none → p'.outcome ≠ none) : ProbesAge t (t.insert id p') where
  absent := by
    intro id' hid'
    rw [Table.lookup_insert_eq, if_neg (by rintro rfl; simp [hp] at hid')]
    exact hid'
  kept := by
    intro id' q hq
    rw [Table.lookup_insert_eq]
    by_cases heq : id' = id
    · subst heq
      rw [hp] at hq
      cases hq
      exact ⟨p', if_pos rfl, hgen, hrep, hout⟩
    · exact ⟨q, (if_neg heq).trans hq, rfl, rfl, fun ho => ho⟩

theorem Accounted.ages {db db' : Db} (h : Accounted db id)
    (hprobes : ProbesAge db.probes db'.probes)
    (hreceipts : (db.receipts.lookup id).isSome = true → (db'.receipts.lookup id).isSome = true) :
    Accounted db' id := by
  rcases h with h | ⟨p, hp, hout⟩
  · exact Or.inl (hreceipts h)
  · obtain ⟨p', hp', -, -, hout'⟩ := hprobes.kept id p hp
    exact Or.inr ⟨p', hp', hout' hout⟩

/-- What a transaction leaves alone. -/
structure Frame (db db' : Db) : Prop where
  receipts : db'.receipts = db.receipts
  probes : ProbesAge db.probes db'.probes

theorem Frame.refl (db : Db) : Frame db db := ⟨rfl, .refl _⟩

theorem Frame.trans {db db' db'' : Db} (h : Frame db db') (h' : Frame db' db'') : Frame db db'' :=
  ⟨h'.receipts.trans h.receipts, h.probes.trans h'.probes⟩

variable {o : Options} {be : BackendIdentity} {row : StateRow} {db db₀ : Db} {now x : Int}
  {f' : Table UUID FailureRow} {l : List (UUID × Int)}

/-- Outside the half-open state every probe is finished. -/
theorem Stored.inFlight_empty (h : Stored be row db) (hstate : row.state ≠ .circuitHalfOpen)
    (generation : Int) : inFlight be generation db.probes = ∅ := by
  rw [Finset.eq_empty_iff_forall_notMem]
  rintro ⟨id, e⟩ hmem
  obtain ⟨p, hp, hunfinished, -⟩ := mem_inFlight.mp hmem
  exact hstate ((h.probe id p hp).current (unfinished_iff.mp hunfinished).2.2.2).2

/-- The failures of a table whose failures are all accounted for do not have a new id. -/
theorem Stored.no_failure (h : Stored be row db) (hnot : ¬ Accounted db id) :
    db.activeFailures.lookup id = none := by
  cases hf : db.activeFailures.lookup id with
  | none => rfl
  | some f => exact absurd (h.failure id f hf).accounted hnot

/-! ## Recording a failure -/

/-- The active failures after one at `t` by `id`. -/
structure FailureRecorded (o : Options) (be : BackendIdentity) (f f' : Table UUID FailureRow)
    (id : UUID) (t : Int) : Prop where
  failures : failuresOf be f' = recorded o t (failuresOf be f)
  kept : ∀ id' r, f'.lookup id' = some r →
    f.lookup id' = some r ∨ (id' = id ∧ r = ⟨be.id, be.revision, t⟩)

theorem insertFailure_eq {f : FailureRow} (hnone : db.activeFailures.lookup id = none) :
    insertFailure db id f = { db with activeFailures := db.activeFailures.insert id f } := by
  simp [insertFailure, hnone]

theorem failuresOf_insert (hnone : f.lookup id = none) :
    failuresOf be (f.insert id ⟨be.id, be.revision, t⟩) = t ::ₘ failuresOf be f :=
  Table.values_insert_of_none hnone (by simp [ofBackend])

/-- `max(event_at)` is the latest failure. -/
theorem maxEventAt_eq (hmem : x ∈ failuresOf be db.activeFailures)
    (hle : ∀ y ∈ failuresOf be db.activeFailures, y ≤ x) :
    maxEventAt db be.id be.revision = some x := by
  rw [maxEventAt, List.max?_eq_some_iff]
  exact ⟨Multiset.mem_coe.mp hmem, fun y hy => hle y (Multiset.mem_coe.mpr hy)⟩

theorem maxEventAt_insert (be : BackendIdentity) (t : Int)
    (hnone : db.activeFailures.lookup id = none) :
    maxEventAt { db with activeFailures := db.activeFailures.insert id ⟨be.id, be.revision, t⟩ }
      be.id be.revision = some (latest t (failuresOf be db.activeFailures)) := by
  apply maxEventAt_eq
  · rw [failuresOf_insert hnone]
    exact latest_mem _ _
  intro y hy
  rw [failuresOf_insert hnone] at hy
  rcases Multiset.mem_cons.mp hy with rfl | hy
  · exact le_latest _ _
  · exact le_latest_of_mem hy

/-- Deleting what is outside the window of the latest failure records it. -/
theorem FailureRecorded.of_filter {keep : UUID → FailureRow → Bool} (hnone : f.lookup id = none)
    (hkeep : ∀ k r, ofBackend be.id be.revision k r = true →
      keep k r = decide (latest t (failuresOf be f) - o.failureWindow ≤ r.eventAt)) :
    FailureRecorded o be f
      (Table.filter keep (f.insert id ⟨be.id, be.revision, t⟩)) id t where
  failures := by
    have hfilter := Table.values_filter (t := f.insert id ⟨be.id, be.revision, t⟩)
      (g := FailureRow.eventAt)
      (fun x => decide (latest t (failuresOf be f) - o.failureWindow ≤ x)) hkeep
    rw [failuresOf, hfilter]
    show Multiset.filter _ (failuresOf be (f.insert id ⟨be.id, be.revision, t⟩)) = _
    rw [failuresOf_insert hnone, recorded, recent]
    apply Multiset.filter_congr
    intro x _
    simp
  kept := by
    intro id' r hr
    rw [Table.lookup_filter, Option.filter_eq_some_iff, Table.lookup_insert_eq] at hr
    have hr := hr.1
    split at hr
    · next heq => exact Or.inr ⟨heq, (Option.some.inj hr).symm⟩
    · exact Or.inl hr

theorem Stored.latest_whole (h : Stored be row db) (ht : t % 1000 = 0) :
    latest t (failuresOf be db.activeFailures) % 1000 = 0 := by
  rcases Multiset.mem_cons.mp (latest_mem t (failuresOf be db.activeFailures)) with heq | hmem
  · rw [heq]
    exact ht
  · obtain ⟨id, f, hf, -, heq⟩ := Table.mem_values.mp hmem
    rw [← heq]
    exact (h.failure id f hf).whole

/-- `recordActiveFailure` of an id that has no failure yet. -/
theorem Stored.recordActiveFailure_eq (h : Stored be row db) (ho : WholeMicros o)
    (state : CircuitSnapshot) (db₀ : Db) (hid : state.backend.id = be.id)
    (hrevision : state.backend.revision = be.revision) (ht : t % 1000 = 0)
    (hnone : db.activeFailures.lookup id = none)
    (hfailures : db₀.activeFailures = db.activeFailures) :
    ∃ f', FailureRecorded o be db.activeFailures f' id t ∧
      recordActiveFailure o.failureWindow db₀ state id t
        = .ok ({ db₀ with activeFailures := f' }, (failuresOf be f').card,
            latest t (failuresOf be db.activeFailures)) := by
  have hlatest := h.latest_whole ht
  have hwindow := ho.window
  have hbefore : timestamptz (latest t (failuresOf be db.activeFailures) - o.failureWindow)
      = latest t (failuresOf be db.activeFailures) - o.failureWindow :=
    timestamptz_of_whole (by omega)
  have hrecorded : FailureRecorded o be db.activeFailures
      (Table.filter (fun k f => !(ofBackend be.id be.revision k f &&
        decide (f.eventAt < latest t (failuresOf be db.activeFailures) - o.failureWindow)))
        (db.activeFailures.insert id ⟨be.id, be.revision, t⟩)) id t := by
    apply FailureRecorded.of_filter hnone
    intro k r hr
    rw [hr, Bool.true_and, ← decide_not]
    simp only [Int.not_lt]
  refine ⟨_, hrecorded, ?_⟩
  have hnone₀ : db₀.activeFailures.lookup id = none := by rw [hfailures]; exact hnone
  have hmax := maxEventAt_insert be t hnone₀
  rw [hfailures] at hmax
  simp only [recordActiveFailure, hid, hrevision, timestamptz_of_whole ht, insertFailure_eq hnone₀,
    hfailures, hmax, hbefore, deleteFailuresBefore]
  rw [card_failuresOf]

/-! ## The first expired probe -/

theorem firstProbe_none (h : firstProbe l = none) : l = [] := by
  cases l with
  | nil => rfl
  | cons x xs =>
    simp only [firstProbe] at h
    split at h
    · cases h
    · split at h <;> cases h

theorem firstProbe_some {x : UUID × Int} (h : firstProbe l = some x) :
    x ∈ l ∧ ∀ y ∈ l, x.2 ≤ y.2 := by
  induction l generalizing x with
  | nil => cases h
  | cons head tail ih =>
    simp only [firstProbe] at h
    split at h
    · next hnone =>
      cases h
      rw [firstProbe_none hnone]
      simp
    next y hy =>
    obtain ⟨hmem, hle⟩ := ih hy
    split at h
    · next hlt =>
      cases h
      refine ⟨List.mem_cons_of_mem _ hmem, ?_⟩
      intro z hz
      rcases List.mem_cons.mp hz with rfl | hz
      · omega
      · exact hle z hz
    · next hlt =>
      cases h
      refine ⟨List.mem_cons_self, ?_⟩
      intro z hz
      rcases List.mem_cons.mp hz with rfl | hz
      · exact le_refl _
      · have := hle z hz
        omega

theorem mem_expired :
    (id, e) ∈ (db.probes.entries.filter (fun x => unfinished be.id be.revision generation x.1 x.2 &&
        decide (x.2.expiresAt ≤ now))).map (fun x => (x.1, x.2.expiresAt)) ↔
      (id, e) ∈ inFlight be generation db.probes ∧ e ≤ now := by
  rw [mem_inFlight, List.mem_map]
  constructor
  · rintro ⟨⟨k, p⟩, hmem, heq⟩
    cases heq
    obtain ⟨hmem, hp⟩ := List.mem_filter.mp hmem
    simp only [Bool.and_eq_true, decide_eq_true_eq] at hp
    exact ⟨⟨p, Table.lookup_eq_some_iff.mpr hmem, hp.1, rfl⟩, hp.2⟩
  · rintro ⟨⟨p, hp, hunfinished, rfl⟩, hle⟩
    refine ⟨⟨id, p⟩, List.mem_filter.mpr ⟨Table.lookup_eq_some_iff.mp hp, ?_⟩, rfl⟩
    simp [hunfinished, hle]

theorem earliestExpired_none (h : earliestExpired db be.id be.revision generation now = none)
    (hmem : (id, e) ∈ inFlight be generation db.probes) : now < e := by
  by_contra hle
  have := mem_expired.mpr ⟨hmem, Int.not_lt.mp hle⟩
  rw [firstProbe_none h] at this
  cases this

theorem earliestExpired_some
    (h : earliestExpired db be.id be.revision generation now = some (id, e)) :
    (id, e) ∈ inFlight be generation db.probes ∧ e ≤ now ∧
      ∀ id' e', (id', e') ∈ inFlight be generation db.probes → e ≤ e' := by
  obtain ⟨hmem, hleast⟩ := firstProbe_some h
  obtain ⟨hmem, hle⟩ := mem_expired.mp hmem
  refine ⟨hmem, hle, ?_⟩
  intro id' e' hmem'
  by_cases hdue : e' ≤ now
  · exact hleast (id', e') (mem_expired.mpr ⟨hmem', hdue⟩)
  · omega

/-! ## The circuit opens -/

/-- The state row and the active failures are written. -/
theorem Stored.rewritten (h : Stored be row db) {row' : StateRow}
    (hrevision : row'.backendRevision = row.backendRevision)
    (hopened : row'.state = .circuitOpen → ∃ t, row'.openedAt = some t ∧ 0 < t)
    (hcurrent : ∀ id p, db.probes.lookup id = some p → p.outcome = none →
      p.circuitGeneration = row'.generation ∧ row'.state = .circuitHalfOpen)
    (hfailure : ∀ id r, f'.lookup id = some r → FailureStored be db id r) :
    Stored be row' { db with
      activeFailures := f'
      circuits := db.circuits.insert be.id row' } where
  backend := h.backend
  entry := AList.lookup_insert _
  only := by
    intro id r hr
    rw [Table.lookup_insert_eq] at hr
    split at hr
    · next heq => exact heq
    · exact h.only id r hr
  revision := hrevision.trans h.revision
  opened := hopened
  probe := fun id p hp => { h.probe id p hp with current := hcurrent id p hp }
  apart := h.apart
  failure := fun id r hr => { hfailure id r hr with }

/-- Every probe has ended. -/
def Ended (t t' : Table UUID ProbeRow) : Prop :=
  ∀ id p, t'.lookup id = some p → p.outcome ≠ none ∧ ∃ q, t.lookup id = some q ∧
    p.backendID = q.backendID ∧ p.backendRevision = q.backendRevision ∧ p.expiresAt = q.expiresAt

theorem Stored.ended (h : Stored be row db) (hstate : row.state ≠ .circuitHalfOpen) :
    Ended db.probes db.probes := by
  intro id p hp
  refine ⟨?_, p, hp, rfl, rfl, rfl⟩
  intro hnone
  exact hstate ((h.probe id p hp).current hnone).2

/-- The tables of a circuit whose probes have all ended because of `id`. -/
structure Prepared (db db₀ : Db) (id : UUID) : Prop where
  backends : db₀.backends = db.backends
  circuits : db₀.circuits = db.circuits
  activeFailures : db₀.activeFailures = db.activeFailures
  frame : Frame db db₀
  ended : Ended db.probes db₀.probes
  accounted : Accounted db₀ id

/-- The tables once the circuit is open. -/
def opening (be : BackendIdentity) (row : StateRow) (db : Db) (failures : Table UUID FailureRow)
    (openedAt : Int) : Db :=
  { db with
    activeFailures := failures
    circuits := db.circuits.insert be.id (row.opened (row.generation + 1) openedAt) }

theorem updateState_opened {f : Table UUID FailureRow} {t : Int}
    (h : db.circuits.lookup be.id = some row) :
    updateState { db with activeFailures := f } be.id (StateRow.opened (row.generation + 1) t)
      = opening be row db f t := by
  simp [updateState, h, opening]

theorem Prepared.stored (hprep : Prepared db db₀ id) (h : Stored be row db) :
    Stored be row db₀ where
  backend := by rw [hprep.backends]; exact h.backend
  entry := by rw [hprep.circuits]; exact h.entry
  only := by rw [hprep.circuits]; exact h.only
  revision := h.revision
  opened := h.opened
  probe := by
    intro id p hp
    obtain ⟨hout, q, hq, hbackend, hrevision, hexpires⟩ := hprep.ended id p hp
    have hq := h.probe id q hq
    exact { backend := hbackend.trans hq.backend
            revision := hrevision.trans hq.revision
            whole := by rw [hexpires]; exact hq.whole
            positive := by rw [hexpires]; exact hq.positive
            current := fun hnone => absurd hnone hout
            unreported := fun hnone => absurd hnone hout }
  apart := by
    intro id p hp
    obtain ⟨-, q, hq, -⟩ := hprep.ended id p hp
    rw [hprep.frame.receipts]
    exact h.apart id q hq
  failure := by
    intro id' f hf
    rw [hprep.activeFailures] at hf
    have hold := h.failure id' f hf
    exact { hold with accounted :=
      hold.accounted.ages hprep.frame.probes (by rw [hprep.frame.receipts]; exact fun hr => hr) }

/-- A circuit with no unfinished probe opens because of a failure at `t`. -/
theorem Stored.trip (h : Stored be row db) (hpos : 0 < t) (hwhole : t % 1000 = 0)
    (hprep : Prepared db db₀ id) (hrecorded : FailureRecorded o be db.activeFailures f' id t) :
    Stored be (row.opened (row.generation + 1) (latest t (failuresOf be db.activeFailures)))
        (opening be row db₀ f' (latest t (failuresOf be db.activeFailures))) ∧
      circuitOf be (row.opened (row.generation + 1) (latest t (failuresOf be db.activeFailures)))
        (opening be row db₀ f' (latest t (failuresOf be db.activeFailures)))
          = (circuitOf be row db).trip o t := by
  have hlatest : 0 < latest t (failuresOf be db.activeFailures) := by
    have := le_latest t (failuresOf be db.activeFailures)
    omega
  have h₀ := hprep.stored h
  refine ⟨h₀.rewritten rfl (fun _ => ⟨_, rfl, hlatest⟩) ?_ ?_, ?_⟩
  · intro id p hp hnone
    exact absurd hnone (hprep.ended id p hp).1
  · intro id' f hf
    rcases hrecorded.kept id' f hf with hold | ⟨rfl, rfl⟩
    · exact h₀.failure id' f (by rw [hprep.activeFailures]; exact hold)
    · exact { backend := rfl, revision := rfl, whole := hwhole, accounted := hprep.accounted }
  · simp [circuitOf, Circuit.trip, StateRow.opened, opening, hrecorded.failures]

theorem Ended.mapRows {t : Table UUID ProbeRow} {test : UUID → ProbeRow → Prop}
    [∀ id p, Decidable (test id p)] (outcome : UUID → ProbeOutcome)
    (h : ∀ id p, t.lookup id = some p → p.outcome = none → test id p) (now : Int) :
    Ended t (Table.mapRows
      (fun id p => if test id p then p.finish (outcome id) now else p) t) := by
  intro id p hp
  rw [Table.lookup_mapRows, Option.map_eq_some_iff] at hp
  obtain ⟨q, hq, rfl⟩ := hp
  split
  · exact ⟨by simp [ProbeRow.finish], q, hq, rfl, rfl, rfl⟩
  · next hfinished => exact ⟨fun hnone => hfinished (h id q hq hnone), q, hq, rfl, rfl, rfl⟩

/-- All probes of a generation end when one of them expires. -/
theorem Stored.expireGeneration_ended (h : Stored be row db)
    (hmem : (id, e) ∈ inFlight be row.generation db.probes) (now : Int) :
    Prepared db (expireGeneration db be.id be.revision row.generation id now) id := by
  have hage : ProbesAge db.probes
      (expireGeneration db be.id be.revision row.generation id now).probes := by
    dsimp only [expireGeneration]
    apply ProbesAge.mapRows
    intro id' p
    split <;> simp [ProbeRow.finish]
  have hended : Ended db.probes
      (expireGeneration db be.id be.revision row.generation id now).probes := by
    apply Ended.mapRows
    intro id' p hp hnone
    have hstored := h.probe id' p hp
    exact unfinished_iff.mpr ⟨hstored.backend, hstored.revision, (hstored.current hnone).1, hnone⟩
  refine ⟨rfl, rfl, rfl, ⟨rfl, hage⟩, hended, ?_⟩
  obtain ⟨p, hp, -, -⟩ := mem_inFlight.mp hmem
  obtain ⟨p', hp', -⟩ := hage.kept id p hp
  exact Or.inr ⟨p', hp', (hended id p' hp').1⟩

/-! ## Noticing expired probes -/

/-- What a transaction has read of the state row. -/
structure Seen (be : BackendIdentity) (row : StateRow) (read : CircuitSnapshot) : Prop where
  id : read.backend.id = be.id
  revision : read.backend.revision = be.revision
  state : read.state = some row.state
  generation : read.generation = row.generation

/-- The answer of `lockCircuitState` -/
structure Locked (be : BackendIdentity) (row : StateRow) (db : Db) (read : CircuitSnapshot) : Prop
    extends Seen be row read where
  failureCount : read.failureCount = (failuresOf be db.activeFailures).card
  retryAt : read.retryAt = row.openedAt.getD 0
  probes : read.probesInFlight = 0

/-- What `reconcileExpired` has read about the tables it leaves. -/
structure Noticed (o : Options) (be : BackendIdentity) (row : StateRow) (db : Db)
    (read : CircuitSnapshot) : Prop where
  state : read.state = some row.state
  generation : read.generation = row.generation
  failureCount : read.failureCount = (failuresOf be db.activeFailures).card
  retryAt : row.state = .circuitOpen →
    read.retryAt = (circuitOf be row db).openedAt + o.openCooldown
  probes : read.probesInFlight = (circuitOf be row db).probes.card

theorem Stored.lock (h : Stored be row db) :
    ∃ state, lockCircuitState db be.id = some state ∧ Locked be row db state := by
  refine ⟨_, by simp [lockCircuitState, h.entry]; rfl, ?_⟩
  exact { id := rfl, revision := h.revision, state := rfl, generation := rfl,
          failureCount := by rw [card_failuresOf, h.revision]
          retryAt := rfl, probes := rfl }

/-- No probe of a half-open circuit is overdue. -/
theorem Stored.expireProbes_idle (hstate : row.state = .circuitHalfOpen)
    (hnone : earliestExpired db be.id be.revision row.generation now = none) :
    (circuitOf be row db).expireProbes o now = circuitOf be row db := by
  apply Circuit.expireProbes_of_none
  intro e hdue
  obtain ⟨⟨id, hmem⟩, hle⟩ := mem_due.mp hdue
  simp only [circuitOf, hstate, if_true] at hmem
  have := earliestExpired_none hnone hmem
  omega

/-- The first overdue probe of a half-open circuit trips it. -/
theorem Stored.expireProbes_trip (hstate : row.state = .circuitHalfOpen)
    (hsome : earliestExpired db be.id be.revision row.generation now = some (id, e)) :
    (circuitOf be row db).expireProbes o now = (circuitOf be row db).trip o e := by
  obtain ⟨hmem, hle, hleast⟩ := earliestExpired_some hsome
  have hprobes : (circuitOf be row db).probes = inFlight be row.generation db.probes := by
    simp [circuitOf, hstate]
  apply Circuit.expireProbes_of_earliest (by exact hstate)
  · rw [mem_due, hprobes]
    exact ⟨⟨id, hmem⟩, hle⟩
  intro x hx
  rw [mem_due, hprobes] at hx
  obtain ⟨⟨id', hmem'⟩, -⟩ := hx
  exact hleast id' x hmem'

theorem card_inFlight (now : Int) {t : Table UUID ProbeRow}
    (h : ∀ id e, (id, e) ∈ inFlight be generation t → now < e) :
    (inFlight be generation t).card = Table.count (fun k p =>
      unfinished be.id be.revision generation k p && decide (now < p.expiresAt)) t := by
  rw [inFlight, Table.card_project]
  apply Table.count_congr
  intro id p hp
  unfold openDeadline
  split
  · next hunfinished =>
    have := h id p.expiresAt (mem_inFlight.mpr ⟨p, hp, hunfinished, rfl⟩)
    simp [hunfinished, this]
  · next hfinished => simp [hfinished]

section

variable (h : Stored be row db)

include h

/-- An unfinished probe has not failed yet. -/
theorem Stored.no_failure_of_probe (hp : db.probes.lookup id = some p)
    (hnone : p.outcome = none) : db.activeFailures.lookup id = none := by
  apply h.no_failure
  rintro (hr | ⟨q, hq, hout⟩)
  · simp [h.apart id p hp] at hr
  · rw [hp] at hq
    cases hq
    exact hout hnone

/-- An overdue probe of a half-open circuit, in the tables. -/
theorem Stored.overdue (hmem : (id, e) ∈ inFlight be row.generation db.probes) :
    e % 1000 = 0 ∧ 0 < e ∧ db.activeFailures.lookup id = none := by
  obtain ⟨p, hp, hunfinished, rfl⟩ := mem_inFlight.mp hmem
  have hstored := h.probe id p hp
  exact ⟨hstored.whole, hstored.positive,
    h.no_failure_of_probe hp (unfinished_iff.mp hunfinished).2.2.2⟩

/-- What `reconcileExpired` does to the tables and answers. -/
structure Reconciled (o : Options) (be : BackendIdentity) (row : StateRow) (db : Db)
    (read : CircuitSnapshot) (now : Int) (row' : StateRow) (db' : Db) (read' : CircuitSnapshot) :
    Prop where
  stored : Stored be row' db'
  circuit : circuitOf be row' db' = (circuitOf be row db).expireProbes o now
  noticed : Noticed o be row' db' read'
  backend : read'.backend = read.backend
  frame : Frame db db'
  silent : ∀ id p p', db.probes.lookup id = some p → db'.probes.lookup id = some p' →
    p'.reportedOutcomeAt = p.reportedOutcomeAt

theorem Stored.reconciled_same
    (hcircuit : (circuitOf be row db).expireProbes o now = circuitOf be row db)
    {read' : CircuitSnapshot} (hnoticed : Noticed o be row db read')
    (hbackend : read'.backend = read.backend) : Reconciled o be row db read now row db read' :=
  ⟨h, hcircuit.symm, hnoticed, hbackend, .refl db,
    fun _ _ _ hp hp' => by rw [hp] at hp'; cases hp'; rfl⟩

/-- A circuit that is not half open has no probes to notice. -/
theorem Stored.reconciled_steady (hlock : Locked be row db read)
    (hstate : row.state ≠ .circuitHalfOpen) (now : Int) :
    ∃ read', reconcileExpired o db read now = .ok (db, read', false) ∧
      Reconciled o be row db read now row db read' := by
  have hprobes : (circuitOf be row db).probes.card = 0 := by simp [circuitOf, hstate]
  have hne : read.state ≠ some .circuitHalfOpen := by simp [hlock.state, hstate]
  have hcircuit : (circuitOf be row db).expireProbes o now = circuitOf be row db :=
    Circuit.expireProbes_of_ne hstate
  by_cases hopen : row.state = .circuitOpen
  · obtain ⟨t, ht, hpos⟩ := h.opened hopen
    have hretry : read.state = some .circuitOpen ∧ read.retryAt ≠ 0 := by
      rw [hlock.state, hlock.retryAt, ht, hopen]
      exact ⟨rfl, by simp; omega⟩
    refine ⟨{ read with retryAt := read.retryAt + o.openCooldown }, ?_, ?_⟩
    · simp only [reconcileExpired, if_pos hne, if_pos hretry]
    exact h.reconciled_same hcircuit
      { hlock with
        retryAt := fun _ => by simp [hlock.retryAt, circuitOf, hopen]
        probes := by rw [hprobes]; exact hlock.probes } rfl
  · have hretry : ¬ (read.state = some .circuitOpen ∧ read.retryAt ≠ 0) := by
      simp [hlock.state, hopen]
    refine ⟨read, ?_, ?_⟩
    · simp only [reconcileExpired, if_pos hne, if_neg hretry]
    exact h.reconciled_same hcircuit
      { hlock with
        retryAt := fun hopen' => absurd hopen' hopen
        probes := by rw [hprobes]; exact hlock.probes } rfl

theorem Stored.reconciled_idle (hlock : Locked be row db read)
    (hstate : row.state = .circuitHalfOpen)
    (hnone : earliestExpired db be.id be.revision row.generation now = none) :
    ∃ read', reconcileExpired o db read now = .ok (db, read', false) ∧
      Reconciled o be row db read now row db read' := by
  refine ⟨{ read with probesInFlight := (inFlight be row.generation db.probes).card }, ?_, ?_⟩
  · rw [card_inFlight now (fun id e => earliestExpired_none hnone)]
    simp only [reconcileExpired, hlock.state, hstate, hlock.id, hlock.revision, hlock.generation,
      hnone]
    rfl
  · exact h.reconciled_same (Stored.expireProbes_idle hstate hnone)
      { hlock with
        retryAt := fun hopen => by simp [hstate] at hopen
        probes := by simp [circuitOf, hstate] } rfl

/-- A half-open circuit with an overdue probe opens. -/
theorem Stored.reconciled_trip (ho : WholeMicros o)
    (hlock : Locked be row db read) (hstate : row.state = .circuitHalfOpen)
    (hsome : earliestExpired db be.id be.revision row.generation now = some (id, e)) :
    ∃ db' row' read', reconcileExpired o db read now = .ok (db', read', true) ∧
      Reconciled o be row db read now row' db' read' := by
  obtain ⟨hmem, -, -⟩ := earliestExpired_some hsome
  obtain ⟨hwhole, hpos, hnone⟩ := h.overdue hmem
  have hprep := h.expireGeneration_ended hmem now
  obtain ⟨f', hrecorded, hrecord⟩ := h.recordActiveFailure_eq ho
    { read with state := some .circuitOpen, generation := read.generation + 1 }
    (expireGeneration db be.id be.revision row.generation id now)
    hlock.id hlock.revision hwhole hnone hprep.activeFailures
  obtain ⟨hstored, hcircuit⟩ := h.trip hpos hwhole hprep hrecorded
  refine ⟨_, _,
    { read with
      state := some .circuitOpen
      generation := row.generation + 1
      failureCount := (failuresOf be f').card
      retryAt := latest e (failuresOf be db.activeFailures) + o.openCooldown
      probesInFlight := 0
      available := false }, ?_,
    ⟨hstored, ?_, ?_, rfl, ⟨hprep.frame.receipts, hprep.frame.probes⟩, ?_⟩⟩
  · simp only [hlock.generation] at hrecord
    simp only [reconcileExpired, hlock.state, hstate, hlock.id, hlock.revision, hlock.generation,
      hsome, hrecord]
    show Except.ok (updateState _ be.id (StateRow.opened (row.generation + 1)
      (timestamptz (latest e (failuresOf be db.activeFailures)))), _, true) = _
    rw [timestamptz_of_whole (h.latest_whole hwhole), updateState_opened (by exact h.entry)]
  · rw [hcircuit, Stored.expireProbes_trip hstate hsome]
  · exact
      { state := rfl
        generation := rfl
        failureCount := rfl
        retryAt := fun _ => by simp [circuitOf, StateRow.opened]
        probes := by simp [circuitOf, StateRow.opened] }
  · intro id' p p' hp hp'
    simp only [opening, expireGeneration, Table.lookup_mapRows, hp, Option.map_some,
      Option.some.injEq] at hp'
    rw [← hp']
    split <;> rfl

/-- **reconcileExpired** is the abstract expiry of probes. -/
theorem Stored.reconciled (ho : WholeMicros o) (read : CircuitSnapshot)
    (hlock : Locked be row db read) (now : Int) :
    ∃ db' row' read' changed, reconcileExpired o db read now = .ok (db', read', changed) ∧
      Reconciled o be row db read now row' db' read' := by
  by_cases hstate : row.state = .circuitHalfOpen
  · cases hfirst : earliestExpired db be.id be.revision row.generation now with
    | none =>
      obtain ⟨read', heq, hreconciled⟩ := h.reconciled_idle hlock hstate hfirst
      exact ⟨db, row, read', false, heq, hreconciled⟩
    | some first =>
      obtain ⟨db', row', read', heq, hreconciled⟩ := h.reconciled_trip ho hlock hstate hfirst
      exact ⟨db', row', read', true, heq, hreconciled⟩
  · obtain ⟨read', heq, hreconciled⟩ := h.reconciled_steady hlock hstate now
    exact ⟨db, row, read', false, heq, hreconciled⟩

/-! ## Refresh -/

/-- The tables once an open circuit is half open. -/
def cooling (be : BackendIdentity) (row : StateRow) (db : Db) : Db :=
  { db with circuits := db.circuits.insert be.id (row.halfOpened (row.generation + 1)) }

omit h in
theorem updateState_halfOpened (h : db.circuits.lookup be.id = some row) :
    updateState db be.id (StateRow.halfOpened (row.generation + 1)) = cooling be row db := by
  simp [updateState, h, cooling]

theorem Stored.cooled (hstate : row.state = .circuitOpen) :
    Stored be (row.halfOpened (row.generation + 1)) (cooling be row db) ∧
      circuitOf be (row.halfOpened (row.generation + 1)) (cooling be row db)
        = (circuitOf be row db).halfOpened := by
  constructor
  · refine h.rewritten rfl nofun ?_ h.failure
    intro id p hp hnone
    simpa [hstate] using ((h.probe id p hp).current hnone).2
  · have hempty := h.inFlight_empty (by simp [hstate]) (row.generation + 1)
    simp [circuitOf, Circuit.halfOpened, StateRow.halfOpened, cooling, hempty]

omit h in
/-- The latest failure is inside its own window. -/
theorem latest_recorded (h : FailureRecorded o be f f' id t)
    (db : Db) (hdb : db.activeFailures = f') :
    maxEventAt db be.id be.revision = some (latest t (failuresOf be f)) := by
  have hwindow := o.window_pos
  apply maxEventAt_eq <;> rw [hdb, h.failures, recorded, recent]
  · exact Multiset.mem_filter.mpr ⟨latest_mem _ _, by omega⟩
  intro y hy
  rcases Multiset.mem_cons.mp (Multiset.mem_filter.mp hy).1 with rfl | hy
  · exact le_latest _ _
  · exact le_latest_of_mem hy

omit h in
/-- Recording a failure by the statements of `Refresh`. -/
theorem pruneFailures_recorded (ho : WholeMicros o) (be : BackendIdentity) (db₀ : Db) (t : Int)
    (hnone : db₀.activeFailures.lookup id = none) :
    ∃ f', FailureRecorded o be db₀.activeFailures f' id t ∧
      pruneFailures o (insertFailure db₀ id ⟨be.id, be.revision, t⟩) be.id
        = { db₀ with activeFailures := f' } := by
  rw [insertFailure_eq hnone]
  refine ⟨_, ?_, rfl⟩
  apply FailureRecorded.of_filter hnone
  intro k r hr
  simp only [ofBackend, Bool.and_eq_true, decide_eq_true_eq] at hr
  obtain ⟨hbackend, hrevision⟩ := hr
  simp only [hbackend, hrevision, maxEventAt_insert be t hnone, interval_of_whole ho.window,
    Option.map_some, Option.getD_some, decide_true, Bool.true_and]
  rw [← decide_not]
  simp only [Int.not_lt]

/-- What noticing late does: the tables settle to the same circuit. -/
structure Refreshed (o : Options) (be : BackendIdentity) (row : StateRow) (db : Db) (now : Int)
    (row' : StateRow) (db' : Db) : Prop where
  stored : Stored be row' db'
  circuit : (circuitOf be row' db').settle o now = (circuitOf be row db).settle o now
  frame : Frame db db'

theorem Stored.refreshed : Refreshed o be row db now row db :=
  ⟨h, rfl, .refl db⟩

theorem Stored.refreshBackend_trip (ho : WholeMicros o) (hstate : row.state = .circuitHalfOpen)
    (hsome : earliestExpired db be.id be.revision row.generation now = some (id, e)) :
    ∃ row', Refreshed o be row db now row' (refreshBackend o now db be.id) := by
  obtain ⟨hmem, -, -⟩ := earliestExpired_some hsome
  obtain ⟨hwhole, hpos, hnone⟩ := h.overdue hmem
  have hprep := h.expireGeneration_ended hmem now
  obtain ⟨f', hrecorded, hprune⟩ := pruneFailures_recorded ho be
    (expireGeneration db be.id be.revision row.generation id now) e hnone
  obtain ⟨hstored, hcircuit⟩ := h.trip hpos hwhole hprep hrecorded
  have heq : refreshBackend o now db be.id = opening be row
      (expireGeneration db be.id be.revision row.generation id now) f'
      (latest e (failuresOf be db.activeFailures)) := by
    have hmax := latest_recorded hrecorded
      { expireGeneration db be.id be.revision row.generation id now with activeFailures := f' } rfl
    have hentry : (expireGeneration db be.id be.revision row.generation id now).circuits.lookup
        be.id = some row := h.entry
    simp only [refreshBackend, h.entry, hstate, h.revision, hsome, timestamptz_of_whole hwhole,
      hprune, updateState, hentry, hmax, opening, StateRow.opened]
    rfl
  rw [heq]
  refine ⟨_, hstored, ?_, ⟨hprep.frame.receipts, hprep.frame.probes⟩⟩
  rw [hcircuit, ← Stored.expireProbes_trip hstate hsome, Circuit.settle_expireProbes]

theorem Stored.refreshBackend_cool (ho : WholeMicros o) (hstate : row.state = .circuitOpen) :
    ∃ row', Refreshed o be row db now row' (refreshBackend o now db be.id) := by
  obtain ⟨t, ht, -⟩ := h.opened hstate
  by_cases hready : t + o.openCooldown ≤ now
  · obtain ⟨hstored, hcircuit⟩ := h.cooled hstate
    have heq : refreshBackend o now db be.id = cooling be row db := by
      simp only [refreshBackend, h.entry, hstate, ht, interval_of_whole ho.cooldown, if_pos hready,
        updateState_halfOpened h.entry]
    have hcool : (circuitOf be row db).halfOpened = (circuitOf be row db).cool o now := by
      rw [Circuit.cool, if_pos ⟨hstate, by simpa [circuitOf, hstate, ht] using hready⟩]
    rw [heq]
    refine ⟨_, hstored, ?_, ⟨rfl, .refl _⟩⟩
    rw [hcircuit, hcool, Circuit.settle_cool (le_refl now) hstate, Circuit.settle_of_open hstate]
  · have heq : refreshBackend o now db be.id = db := by
      simp only [refreshBackend, h.entry, hstate, ht, interval_of_whole ho.cooldown, if_neg hready]
    rw [heq]
    exact ⟨row, h.refreshed⟩

theorem Stored.refresh_one (ho : WholeMicros o) (now id : Int) :
    ∃ row', Refreshed o be row db now row' (refreshBackend o now db id) := by
  by_cases hid : id = be.id
  · subst hid
    cases hstate : row.state with
    | circuitClosed =>
      refine ⟨row, ?_⟩
      simp only [refreshBackend, h.entry, hstate]
      exact h.refreshed
    | circuitOpen => exact h.refreshBackend_cool ho hstate
    | circuitHalfOpen =>
      cases hfirst : earliestExpired db be.id be.revision row.generation now with
      | none =>
        refine ⟨row, ?_⟩
        simp only [refreshBackend, h.entry, hstate, h.revision, hfirst]
        exact h.refreshed
      | some first => exact h.refreshBackend_trip ho hstate hfirst
  · -- there is no circuit of another backend
    have hnone : db.circuits.lookup id = none := by
      cases hr : db.circuits.lookup id with
      | none => rfl
      | some r => exact absurd (h.only id r hr) hid
    refine ⟨row, ?_⟩
    simp only [refreshBackend, hnone]
    exact h.refreshed

/-- **Refresh**, whichever backends it was told to look at. -/
theorem Stored.refresh_all (ho : WholeMicros o) (ids : List Int)
    (now : Int) : ∃ row', Refreshed o be row db now row' (refresh o ids db now) := by
  induction ids generalizing row db with
  | nil => exact ⟨row, h.refreshed⟩
  | cons id ids ih =>
    obtain ⟨row₁, h₁⟩ := h.refresh_one ho now id
    obtain ⟨row₂, h₂⟩ := ih h₁.stored
    exact ⟨row₂, h₂.stored, h₂.circuit.trans h₁.circuit, h₁.frame.trans h₂.frame⟩

end

end Coordination.PostgresCircuit
