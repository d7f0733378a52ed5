import PriorityGateway.Coordination.Circuit.LocalCalls
import PriorityGateway.Coordination.Circuit.PostgresCalls

/-! # The Two Circuit Coordinators Agree

    Both coordinators are driven by the same calls at the same readings of
    one clock.  Their states are related when they settle to the same
    abstract circuit and the records of every attempt match what its caller
    knows.  Each call keeps the relation, so every acquisition is answered
    alike (`circuits_agree`).

    Three things have to be assumed beyond what the calls are for.  Where an
    acquisition started too long ago, the local coordinator answers with an
    empty snapshot and PostgreSQL with the state of the circuit.  Durations
    that are not whole microseconds are cut by the queries.  An open circuit
    whose instant of opening is the zero instant looks as if it had none. -/

namespace Coordination.CircuitAgreement

open CircuitBreaker (Options Breaker)
open LocalCircuit (CircuitCoordinator CircuitAttempt CircuitEntry)
open PostgresCircuit (Db ProbeRow ReceiptRow StateRow ProbesAge Stored Tick WholeMicros)

/-! ## Both coordinators -/

/-- What the caller of a granted acquisition knows. -/
structure Grant where
  generation : Int
  probe : Bool
  replicaID : UUID
  ttl : Int
  deriving DecidableEq, Repr

/-- The two coordinators, the last reading of the clock, what was granted and what was
    completed. -/
structure Pair where
  coordinator : CircuitCoordinator
  db : Db
  clock : Int
  granted : UUID → Option Grant
  completed : UUID → Option CircuitCompletion

/-- A call made to both.  `Refresh` is told which backends seemed due when it looked. -/
inductive Call where
  | acquire (request : CircuitAcquireRequest)
  | complete (value : CircuitCompletion)
  | renew (probes : List ProbeIdentity)
  | refresh (ids : List Int)

/-- What the caller of an acquisition may keep of the answer. -/
def grantOf (request : CircuitAcquireRequest) (decision : CircuitDecision) : Option Grant :=
  if decision.reason = none then
    some ⟨decision.snapshot.generation, decision.permit.isSome, request.replicaID, request.probeTTL⟩
  else none

/-- Both coordinators at work.  An acquisition answers with what its caller sees of
    the local answer and of the PostgreSQL one. -/
def both (o : Options) (fingerprint : CircuitAcquireRequest → Nat) :
    Machine Pair (Int × Call) (Option (Observation × Observation)) where
  step := fun p c =>
    match c with
    | (now, .acquire request) =>
      let ours := LocalCircuit.acquire o fingerprint p.coordinator now request
      let stored := PostgresCircuit.acquire o fingerprint p.db now request
      ({ coordinator := ours.1
         db := stored.1
         clock := now
         granted := Function.update p.granted request.attemptID (grantOf request ours.2)
         completed := p.completed },
        some (ours.2.observed, stored.2.observed))
    | (now, .complete value) =>
      ({ coordinator := (LocalCircuit.complete o p.coordinator now value).1
         db := (PostgresCircuit.complete o p.db now value).1
         clock := now
         granted := p.granted
         completed := Function.update p.completed value.attemptID (some value) }, none)
    | (now, .renew probes) =>
      ({ p with
         coordinator := (LocalCircuit.renewProbes o p.coordinator now probes).1
         db := (PostgresCircuit.renewProbes o p.db now probes).1
         clock := now }, none)
    | (now, .refresh ids) =>
      ({ p with
         db := PostgresCircuit.refresh o ids p.db now
         clock := now }, none)

/-- The tables before the first `Reconcile`. -/
def emptyDb (be : BackendIdentity) : Db where
  backends := fun id => if id = be.id then some be else none
  circuits := ∅
  probes := ∅
  activeFailures := ∅
  receipts := ∅

/-- Both coordinators after they were told of the backend. -/
def start (attemptCapacity : Int) (be : BackendIdentity) : Pair where
  coordinator := LocalCircuit.reconcileBackend 0
    (LocalCircuit.newCircuitCoordinator attemptCapacity) be
  db := PostgresCircuit.reconcileBackend 0 (emptyDb be) be
  clock := 0
  granted := fun _ => none
  completed := fun _ => none

/-! ## What is assumed of a call -/

/-- What the caller of the coordinators keeps to: an acquisition has a new id, a completion
    and a renewal carry what was granted, and the local table of attempts is not full. -/
def CalledOf (be : BackendIdentity) (p : Pair) (now : Int) : Call → Prop
  | .acquire request =>
    p.granted request.attemptID = none ∧ request.backend = be ∧ 0 < request.probeTTL ∧
      request.probeTTL % 1000 = 0 ∧
      (Table.size p.coordinator.attempts : Int) < p.coordinator.attemptCapacity
  | .complete value =>
    value.backend = be ∧
      (p.granted value.attemptID).map Grant.generation = some value.generation ∧
      ((p.completed value.attemptID = none ∧ value.reportedOutcomeAt = now) ∨
        p.completed value.attemptID = some value)
  | .renew probes =>
    ∀ probe ∈ probes, probe.backend = be ∧ ∀ g ∈ p.granted probe.permitID,
      probe.generation = g.generation ∧ probe.replicaID = g.replicaID ∧ probe.ttl = g.ttl
  | .refresh _ => True

instance (be : BackendIdentity) (p : Pair) (now : Int) (call : Call) :
    Decidable (CalledOf be p now call) :=
  match call with
  | .acquire _ => inferInstanceAs (Decidable (_ ∧ _ ∧ _ ∧ _ ∧ _))
  | .complete _ => inferInstanceAs (Decidable (_ ∧ _ ∧ _))
  | .renew _ => inferInstanceAs (Decidable (∀ _ ∈ _, _ ∧ _))
  | .refresh _ => inferInstanceAs (Decidable True)

/-- The clock does not go back and is read in whole microseconds. -/
def Called (be : BackendIdentity) (p : Pair) (c : Int × Call) : Prop :=
  p.clock ≤ c.1 ∧ c.1 % 1000 = 0 ∧ CalledOf be p c.1 c.2

instance (be : BackendIdentity) (p : Pair) (c : Int × Call) : Decidable (Called be p c) :=
  inferInstanceAs (Decidable (_ ∧ _ ∧ _))

/-- An acquisition started in the window that a coordinator accepts. -/
def Timely (now : Int) : Call → Prop
  | .acquire request => fresh request.acquisitionStartedAt now = true
  | _ => True

instance (now : Int) (call : Call) : Decidable (Timely now call) :=
  match call with
  | .acquire _ => inferInstanceAs (Decidable (_ = true))
  | .complete _ | .renew _ | .refresh _ => inferInstanceAs (Decidable True)

/-- In addition the clock is past the zero instant, and acquisitions are timely. -/
def Assumed (be : BackendIdentity) (p : Pair) (c : Int × Call) : Prop :=
  Called be p c ∧ 0 < c.1 ∧ Timely c.1 c.2

instance (be : BackendIdentity) (p : Pair) (c : Int × Call) : Decidable (Assumed be p c) :=
  inferInstanceAs (Decidable (_ ∧ _ ∧ _))

/-! ## The relation -/

/-- The records of an attempt match what its caller knows: `g` was granted, `done` was
    completed, and `ours`, `row` and `receipt` are what the coordinators have. -/
structure Booked (g : Option Grant) (done : Option CircuitCompletion)
    (ours : Option CircuitAttempt) (row : Option ProbeRow) (receipt : Option ReceiptRow) :
    Prop where
  fresh : g = none → ours = none ∧ row = none ∧ receipt = none ∧ done = none
  attempt : ∀ x a, g = some x → ours = some a → a.generation = x.generation ∧
    a.permit.isSome = x.probe ∧ a.completion = done ∧ (x.probe = true → a.ttl = x.ttl)
  running : ∀ x, g = some x → x.probe = false → done = none →
    (∃ a, ours = some a ∧ a.terminal = false) ∧ receipt = none
  plain : ∀ x, g = some x → x.probe = false → row = none
  failed : ∀ x v, g = some x → x.probe = false → done = some v →
    v.outcome = .inferenceFailure → receipt ≠ none
  probe : ∀ x, g = some x → x.probe = true → 0 < x.ttl ∧ x.ttl % 1000 = 0 ∧
    ∃ r, row = some r ∧ r.circuitGeneration = x.generation ∧ r.replicaID = x.replicaID ∧
      (done ≠ none → r.outcome ≠ none)
  whole : ∀ v, done = some v → v.reportedOutcomeAt % 1000 = 0

variable {o : Options} {be : BackendIdentity} {t t' : Table UUID CircuitAttempt}
  {done : Option CircuitCompletion} {id : UUID}

/-- Time passes: nothing of this changes. -/
theorem Booked.ages {g : Option Grant} {r r' : Table UUID ProbeRow} {receipt : Option ReceiptRow}
    (h : Booked g done (t.lookup id) (r.lookup id) receipt) (hages : LocalCircuit.Ages t t')
    (hprobes : ProbesAge r r') : Booked g done (t'.lookup id) (r'.lookup id) receipt where
  fresh := by
    intro hg
    obtain ⟨ha, hr, hrest⟩ := h.fresh hg
    exact ⟨hages.lookup_none ha, hprobes.absent _ hr, hrest⟩
  attempt := by
    intro x a' hx ha'
    obtain ⟨a, ha, hold⟩ := hages.kept _ a' ha'
    rw [hold.generation, hold.permit, hold.completion, hold.ttl]
    exact h.attempt x a hx ha
  running := by
    intro x hx hprobe hdone
    obtain ⟨⟨a, ha, hlive⟩, hreceipt⟩ := h.running x hx hprobe hdone
    refine ⟨?_, hreceipt⟩
    exact hages.live ha hlive ((h.attempt x a hx ha).2.1.trans hprobe)
  plain := fun x hx hprobe => hprobes.absent _ (h.plain x hx hprobe)
  failed := h.failed
  probe := by
    intro x hx hprobe
    obtain ⟨hpos, hwhole, row, hrow, hgeneration, hreplica, hout⟩ := h.probe x hx hprobe
    obtain ⟨row', hrow', hgeneration', hreplica', hout'⟩ := hprobes.kept _ row hrow
    exact ⟨hpos, hwhole, row', hrow', hgeneration'.trans hgeneration, hreplica'.trans hreplica,
      fun hdone => hout' (hout hdone)⟩
  whole := h.whole

/-- The records of `id` in both coordinators. -/
def BookedIn (p : Pair) (id : UUID) : Prop :=
  Booked (p.granted id) (p.completed id) (p.coordinator.attempts.lookup id)
    (p.db.probes.lookup id) (p.db.receipts.lookup id)

/-- The two coordinators stand for the same circuit. -/
structure Related (o : Options) (be : BackendIdentity) (p : Pair) : Prop where
  circuit : ∃ b row, LocalCircuit.Sound be b p.coordinator ∧ Stored be row p.db ∧
    (LocalCircuit.circuitOf b p.coordinator.attempts).settle o p.clock
      = (PostgresCircuit.circuitOf be row p.db).settle o p.clock
  booked : ∀ id, BookedIn p id

variable {now : Int} {p : Pair} {g : Grant} {value : CircuitCompletion}

/-- The records of the attempt that was just completed. -/
theorem Booked.complete {row row' : Option ProbeRow} {receipt receipt' : Option ReceiptRow}
    (h : Booked (some g) none (t.lookup value.attemptID) row receipt)
    (hrecorded : LocalCircuit.CompletionRecorded t t' value)
    (hwhole : value.reportedOutcomeAt % 1000 = 0) (hplain : g.probe = false → row' = none)
    (hfailed : g.probe = false → value.outcome = .inferenceFailure → receipt' ≠ none)
    (hprobe : g.probe = true → ∃ r, row' = some r ∧ r.circuitGeneration = g.generation ∧
      r.replicaID = g.replicaID ∧ r.outcome ≠ none) :
    Booked (some g) (some value) (t'.lookup value.attemptID) row' receipt' where
  fresh := nofun
  attempt := by
    intro x a' hx ha'
    rcases hrecorded with ⟨hnone, rfl⟩ | ⟨a, r, ha, rfl⟩
    · simp [hnone] at ha'
    rw [Table.lookup_insert_eq, if_pos rfl] at ha'
    cases ha'
    obtain ⟨hgeneration, hpermit, -, httl⟩ := h.attempt x a hx ha
    exact ⟨hgeneration, hpermit, rfl, httl⟩
  running := nofun
  plain := by
    rintro x hx hprobe'
    cases hx
    exact hplain hprobe'
  failed := by
    rintro x v hx hprobe' hv houtcome
    cases hx
    cases hv
    exact hfailed hprobe' houtcome
  probe := by
    rintro x hx hprobe'
    obtain ⟨hpos, httl, -⟩ := h.probe x hx hprobe'
    cases hx
    obtain ⟨r, hr, hgeneration, hreplica, hout⟩ := hprobe hprobe'
    exact ⟨hpos, httl, r, hr, hgeneration, hreplica, fun _ => hout⟩
  whole := by
    rintro v hv
    cases hv
    exact hwhole

section

variable (h : Related o be p)

include h

/-- At a later instant they still settle to the same circuit. -/
theorem Related.later (hnow : p.clock ≤ now) :
    ∃ b row, LocalCircuit.Sound be b p.coordinator ∧ Stored be row p.db ∧
      (LocalCircuit.circuitOf b p.coordinator.attempts).settle o now
        = (PostgresCircuit.circuitOf be row p.db).settle o now := by
  obtain ⟨b, row, hsound, hstored, hsettle⟩ := h.circuit
  refine ⟨b, row, hsound, hstored, ?_⟩
  rw [← Circuit.settle_settle hnow, hsettle, Circuit.settle_settle hnow]

variable (ho : WholeMicros o)

include ho

/-- What the first completion of an attempt does to the tables. -/
theorem Related.stored_completion (hvalue : PostgresCircuit.Reported be now value)
    (hg : p.granted value.attemptID = some g)
    (hgeneration : value.generation = g.generation) (hdone : p.completed value.attemptID = none)
    {row : StateRow} (hstored : Stored be row p.db) :
    ∃ row', PostgresCircuit.Completed o be now value g.probe row p.db row'
      (PostgresCircuit.complete o p.db now value).1 := by
  have hbooked := h.booked value.attemptID
  cases hprobe : g.probe with
  | false =>
    obtain ⟨-, hreceipt⟩ := hbooked.running g hg hprobe hdone
    exact hstored.complete_attempt ho hvalue (hbooked.plain g hg hprobe) hreceipt
  | true =>
    obtain ⟨-, -, r, hr, hgen, -, -⟩ := hbooked.probe g hg hprobe
    exact hstored.complete_probe ho hvalue hr (hgen.trans hgeneration.symm)

variable (hnow : p.clock ≤ now) (fingerprint : CircuitAcquireRequest → Nat)

include hnow

/-! ## Refresh and RenewProbes -/

theorem Related.refresh (ids : List Int) :
    Related o be ((both o fingerprint).step p (now, .refresh ids)).1 := by
  obtain ⟨b, row, hsound, hstored, hsettle⟩ := h.later hnow
  obtain ⟨row', hrefreshed⟩ := hstored.refresh_all ho ids now
  refine ⟨⟨b, row', hsound, hrefreshed.stored, ?_⟩, ?_⟩
  · exact hsettle.trans hrefreshed.circuit.symm
  intro id
  have hid := (h.booked id).ages (.refl _) hrefreshed.frame.probes
  rw [← hrefreshed.frame.receipts] at hid
  exact hid

/-- The duration with which a probe was granted. -/
def grantedTTL (p : Pair) (id : UUID) : Int := ((p.granted id).map Grant.ttl).getD 0

theorem Related.renew (htick : Tick now) {probes : List ProbeIdentity}
    (hassumed : CalledOf be p now (.renew probes)) :
    Related o be ((both o fingerprint).step p (now, .renew probes)).1 := by
  obtain ⟨b, row, hsound, hstored, hsettle⟩ := h.later hnow
  have hlocal : ∀ probe ∈ probes,
      LocalCircuit.Renewable (grantedTTL p) p.coordinator.attempts probe := by
    intro probe hprobe a ha hsome
    obtain ⟨-, hown⟩ := hassumed probe hprobe
    rcases hg : p.granted probe.permitID with _ | g
    · simp [((h.booked probe.permitID).fresh hg).1] at ha
    obtain ⟨hgeneration, hpermit, -, httl⟩ := (h.booked probe.permitID).attempt g a hg ha
    obtain ⟨hpos, -⟩ := (h.booked probe.permitID).probe g hg (hpermit ▸ hsome)
    have httl := httl (hpermit ▸ hsome)
    refine ⟨hgeneration.trans (hown g hg).1.symm, ?_, by omega⟩
    simp [grantedTTL, hg, httl]
  have hremote : ∀ probe ∈ probes,
      PostgresCircuit.Renews be (grantedTTL p) p.db.probes probe := by
    intro probe hprobe
    obtain ⟨hbackend, hown⟩ := hassumed probe hprobe
    refine ⟨hbackend, ?_⟩
    intro r hr
    rcases hg : p.granted probe.permitID with _ | g
    · simp [((h.booked probe.permitID).fresh hg).2.1] at hr
    cases hprobe' : g.probe with
    | false => simp [(h.booked probe.permitID).plain g hg hprobe'] at hr
    | true =>
      obtain ⟨hpos, hwhole, r', hr', hgeneration, hreplica, -⟩ :=
        (h.booked probe.permitID).probe g hg hprobe'
      rw [hr] at hr'
      cases hr'
      obtain ⟨hg₁, hg₂, hg₃⟩ := hown g hg
      refine ⟨hgeneration.trans hg₁.symm, hreplica.trans hg₂.symm, ?_, by omega, by omega⟩
      simp [grantedTTL, hg, hg₃]
  obtain ⟨b', hsound', hcircuit, hages⟩ := hsound.renew (o := o) now probes hlocal
  obtain ⟨row', hstored', hcircuit', hframe⟩ := hstored.renew_all ho htick probes hremote
  refine ⟨⟨b', row', hsound', hstored', ?_⟩, ?_⟩
  · exact hcircuit.trans (by rw [hsettle, ← hcircuit']; rfl)
  intro id
  have hid := (h.booked id).ages hages hframe.probes
  rw [← hframe.receipts] at hid
  exact hid

/-! ## Complete -/

/-- A completion that was processed before changes nothing. -/
theorem Related.complete_again (hbackend : value.backend = be)
    (hg : p.granted value.attemptID = some g) (hdone : p.completed value.attemptID = some value) :
    Related o be ((both o fingerprint).step p (now, .complete value)).1 := by
  obtain ⟨b, row, hsound, hstored, hsettle⟩ := h.later hnow
  have hbooked := h.booked value.attemptID
  have hlocal : ∀ a, p.coordinator.attempts.lookup value.attemptID = some a →
      a.completion ≠ none := by
    intro a ha
    rw [(hbooked.attempt g a hg ha).2.2.1, hdone]
    simp
  have hremote : PostgresCircuit.Settled p.db value := by
    cases hprobe : g.probe with
    | true =>
      obtain ⟨-, -, r, hr, -, -, hout⟩ := hbooked.probe g hg hprobe
      exact Or.inl ⟨r, hr, hout (by simp [hdone])⟩
    | false =>
      refine Or.inr ⟨hbooked.plain g hg hprobe, ?_⟩
      by_cases houtcome : value.outcome = .inferenceFailure
      · exact Or.inr (hbooked.failed g value hg hprobe hdone houtcome)
      · exact Or.inl houtcome
  obtain ⟨b', hsound', hcircuit, hages⟩ := hsound.complete_again (o := o) now hbackend hlocal
  obtain ⟨row', hrefreshed⟩ :=
    hstored.complete_settled ho hbackend (hbooked.whole value hdone) hremote now
  refine ⟨⟨b', row', hsound', hrefreshed.stored, ?_⟩, ?_⟩
  · exact hcircuit.trans (hsettle.trans hrefreshed.circuit.symm)
  intro id
  have hid := (h.booked id).ages hages hrefreshed.frame.probes
  rw [← hrefreshed.frame.receipts] at hid
  have hsame : Function.update p.completed value.attemptID (some value) id = p.completed id := by
    rw [Function.update_apply]
    split
    · next heq => rw [heq, hdone]
    · rfl
  show Booked (p.granted id) (Function.update p.completed value.attemptID (some value) id) _ _ _
  rw [hsame]
  exact hid

theorem Related.complete_first (hvalue : PostgresCircuit.Reported be now value)
    (hg : p.granted value.attemptID = some g) (hgeneration : value.generation = g.generation)
    (hdone : p.completed value.attemptID = none) :
    Related o be ((both o fingerprint).step p (now, .complete value)).1 := by
  obtain ⟨b, row, hsound, hstored, hsettle⟩ := h.later hnow
  have hbooked := h.booked value.attemptID
  have hfirst : LocalCircuit.FirstReport be now g.probe p.coordinator.attempts value := by
    refine ⟨hvalue.backend, hvalue.reported, ?_,
      fun hprobe => (hbooked.running g hg hprobe hdone).1⟩
    intro a ha
    obtain ⟨hgen, hpermit, hcompletion, -⟩ := hbooked.attempt g a hg ha
    exact ⟨hcompletion.trans hdone, hgen.trans hgeneration.symm, hpermit⟩
  obtain ⟨b', t, hsound', hcircuit, hages, hrecorded⟩ := hsound.complete_new (o := o) hfirst
  obtain ⟨row', hstored', hcircuit', hprobes, hothers, hfailed, hended⟩ :=
    h.stored_completion ho hvalue hg hgeneration hdone hstored
  refine ⟨⟨b', row', hsound', hstored', ?_⟩, ?_⟩
  · exact hcircuit.trans (by rw [hsettle, ← hcircuit']; rfl)
  intro id
  show Booked (p.granted id) (Function.update p.completed value.attemptID (some value) id)
    ((LocalCircuit.complete o p.coordinator now value).1.attempts.lookup id)
    ((PostgresCircuit.complete o p.db now value).1.probes.lookup id)
    ((PostgresCircuit.complete o p.db now value).1.receipts.lookup id)
  have hid := (h.booked id).ages hages hprobes
  by_cases heq : id = value.attemptID
  · subst heq
    rw [Function.update_self]
    rw [hg, hdone] at hid
    rw [hg]
    refine hid.complete hrecorded ?_ (fun hprobe => hid.plain g rfl hprobe) hfailed ?_
    · rw [hvalue.reported]
      exact hvalue.tick.whole
    intro hprobe
    obtain ⟨-, -, r, hr, hgen, hreplica, -⟩ := hid.probe g rfl hprobe
    obtain ⟨r', hr', hout⟩ := hended hprobe
    rw [hr] at hr'
    cases hr'
    exact ⟨r, hr, hgen, hreplica, hout⟩
  · rw [Function.update_of_ne heq, hothers id heq]
    have hsame : (LocalCircuit.complete o p.coordinator now value).1.attempts.lookup id
        = t.lookup id := by
      rcases hrecorded with ⟨-, ht⟩ | ⟨a, r, -, ht⟩
      · rw [ht]
      · rw [ht, Table.lookup_insert_eq, if_neg heq]
    rw [hsame]
    exact hid

end

/-! ## Acquire -/

theorem Booked.granted {x : Grant} {a : CircuitAttempt} {row : Option ProbeRow}
    (hgeneration : a.generation = x.generation) (hpermit : a.permit.isSome = x.probe)
    (hcompletion : a.completion = none) (hlive : a.terminal = false)
    (httl : x.probe = true → a.ttl = x.ttl) (hplain : x.probe = false → row = none)
    (hpos : 0 < x.ttl) (hwhole : x.ttl % 1000 = 0)
    (hrow : x.probe = true → ∃ r, row = some r ∧ r.circuitGeneration = x.generation ∧
      r.replicaID = x.replicaID) : Booked (some x) none (some a) row none where
  fresh := nofun
  attempt := by
    intro _ _ hx ha
    cases hx
    cases ha
    exact ⟨hgeneration, hpermit, hcompletion, httl⟩
  running := fun _ _ _ _ => ⟨⟨a, rfl, hlive⟩, rfl⟩
  plain := by
    intro _ hx hprobe
    cases hx
    exact hplain hprobe
  failed := fun _ _ _ _ => nofun
  probe := by
    intro _ hx hprobe
    cases hx
    obtain ⟨r, hr, hgen, hreplica⟩ := hrow hprobe
    exact ⟨hpos, hwhole, r, hr, hgen, hreplica, fun hdone => absurd rfl hdone⟩
  whole := nofun

theorem Booked.unknown : Booked none none none none none where
  fresh := fun _ => ⟨rfl, rfl, rfl, rfl⟩
  attempt := fun _ _ => nofun
  running := nofun
  plain := nofun
  failed := nofun
  probe := nofun
  whole := nofun

section Acquired

variable {now : Int} {request : CircuitAcquireRequest} {fingerprint : Nat} {c : Circuit}
  {before : Table UUID CircuitAttempt} {b' : Breaker} {s' : CircuitCoordinator}
  {d d' : CircuitDecision} {dbBefore db' : Db} {row' : StateRow}

variable (hours : LocalCircuit.Acquired o be now request fingerprint c before b' s' d)
  (htheirs : PostgresCircuit.Acquired o be now request fingerprint c dbBefore row' db' d')
include hours htheirs

/-- The records of an attempt that was asked for, granted or not. -/
theorem Booked.acquired (hpos : 0 < request.probeTTL) (hwhole : request.probeTTL % 1000 = 0)
    (hattempt : before.lookup request.attemptID = none)
    (hprobe : dbBefore.probes.lookup request.attemptID = none)
    (hreceipt : dbBefore.receipts.lookup request.attemptID = none) :
    Booked (grantOf request d) none (s'.attempts.lookup request.attemptID)
      (db'.probes.lookup request.attemptID) (db'.receipts.lookup request.attemptID) := by
  have hobserved := hours.observed.trans htheirs.observed.symm
  have hpermit : d.permit.isSome = d'.permit.isSome := congrArg Observation.permit hobserved
  have hgeneration : d.snapshot.generation = d'.snapshot.generation :=
    congrArg Observation.generation hobserved
  rw [htheirs.receipts, hreceipt]
  by_cases hreason : d.reason = none
  · obtain ⟨t, hages, hattempts, hd⟩ := hours.granted hreason
    have hown : (b'.generation : Int) = d.snapshot.generation := by
      have hobs := congrArg Observation.generation hours.observed
      rw [← hours.circuit] at hobs
      exact hobs.symm
    rw [grantOf, if_pos hreason, hattempts, Table.lookup_insert_eq, if_pos rfl]
    apply Booked.granted
    · exact hown
    · rw [hd]
    · rfl
    · rfl
    · intro hsome
      rw [hd] at hsome
      simp only [LocalCircuit.newAttempt] at hsome ⊢
      split at hsome
      · next hstate => rw [if_pos hstate]
      · cases hsome
    · intro hnone
      apply (htheirs.refused ?_).absent _ hprobe
      rw [hpermit] at hnone
      simpa using hnone
    · exact hpos
    · exact hwhole
    · intro hsome
      obtain ⟨t, -, hprobes⟩ := htheirs.granted (by
        rw [hpermit] at hsome
        exact Option.isSome_iff_ne_none.mp hsome)
      refine ⟨_, by rw [hprobes, Table.lookup_insert_eq, if_pos rfl], ?_, rfl⟩
      exact hgeneration.symm
  · -- a refusal has no permit, and nothing was recorded
    have hnone : d.permit = none := by
      have hp := congrArg Observation.permit hours.observed
      have hr := congrArg Observation.reason hours.observed
      simp only [CircuitDecision.observed, Circuit.observe] at hp hr
      rw [← hr] at hp
      cases hd : d.reason with
      | none => exact absurd hd hreason
      | some reason => simpa [hd] using hp
    have hnone' : d'.permit = none := by simpa [hnone] using hpermit.symm
    rw [grantOf, if_neg hreason, (hours.refused hreason).lookup_none hattempt,
      (htheirs.refused hnone').absent _ hprobe]
    exact Booked.unknown

/-- An acquisition leaves the records of other attempts alone. -/
theorem Booked.others {g : Option Grant}
    (hne : id ≠ request.attemptID) (h : Booked g done (before.lookup id) (dbBefore.probes.lookup id)
      (dbBefore.receipts.lookup id)) :
    Booked g done (s'.attempts.lookup id) (db'.probes.lookup id) (db'.receipts.lookup id) := by
  have hattempts : ∃ t, LocalCircuit.Ages before t ∧ s'.attempts.lookup id = t.lookup id := by
    by_cases hreason : d.reason = none
    · obtain ⟨t, hages, hinsert, -⟩ := hours.granted hreason
      exact ⟨t, hages, by rw [hinsert, Table.lookup_insert_eq, if_neg hne]⟩
    · exact ⟨s'.attempts, hours.refused hreason, rfl⟩
  have hprobes : ∃ t, ProbesAge dbBefore.probes t ∧ db'.probes.lookup id = t.lookup id := by
    by_cases hpermit : d'.permit = none
    · exact ⟨db'.probes, htheirs.refused hpermit, rfl⟩
    · obtain ⟨t, hages, hinsert⟩ := htheirs.granted hpermit
      exact ⟨t, hages, by rw [hinsert, Table.lookup_insert_eq, if_neg hne]⟩
  obtain ⟨t, hages, hlookup⟩ := hattempts
  obtain ⟨t', hages', hlookup'⟩ := hprobes
  rw [htheirs.receipts, hlookup, hlookup']
  exact h.ages hages hages'

end Acquired

theorem Related.acquire (h : Related o be p) (ho : WholeMicros o) (henabled : be.enabled = true)
    (hdraining : be.draining = false) (hnow : p.clock ≤ now) (htick : Tick now)
    (fingerprint : CircuitAcquireRequest → Nat) {request : CircuitAcquireRequest}
    (hcalled : CalledOf be p now (.acquire request))
    (hstarted : fresh request.acquisitionStartedAt now = true) :
    Related o be ((both o fingerprint).step p (now, .acquire request)).1 ∧
      (LocalCircuit.acquire o fingerprint p.coordinator now request).2.observed
        = (PostgresCircuit.acquire o fingerprint p.db now request).2.observed := by
  obtain ⟨hfresh, hbackend, hpos, hwhole, hroom⟩ := hcalled
  obtain ⟨b, row, hsound, hstored, hsettle⟩ := h.later hnow
  obtain ⟨hattempt, hprobe, hreceipt, hdone⟩ := (h.booked request.attemptID).fresh hfresh
  obtain ⟨b', hours⟩ := hsound.acquire_new (o := o) fingerprint hattempt hroom hbackend henabled
    hdraining hstarted
  obtain ⟨row', htheirs⟩ := hstored.acquire_new ho
    ⟨htick, hbackend, henabled, hdraining, hstarted, hpos, hwhole, hprobe, hreceipt⟩ fingerprint
  rw [← hsettle] at htheirs
  refine ⟨⟨⟨b', row', hours.sound, htheirs.stored, ?_⟩, ?_⟩,
    hours.observed.trans htheirs.observed.symm⟩
  · exact (congrArg (Circuit.settle o now) hours.circuit).trans htheirs.circuit.symm
  intro id
  show Booked (Function.update p.granted request.attemptID
      (grantOf request (LocalCircuit.acquire o fingerprint p.coordinator now request).2) id)
    (p.completed id)
    ((LocalCircuit.acquire o fingerprint p.coordinator now request).1.attempts.lookup id)
    ((PostgresCircuit.acquire o fingerprint p.db now request).1.probes.lookup id)
    ((PostgresCircuit.acquire o fingerprint p.db now request).1.receipts.lookup id)
  by_cases heq : id = request.attemptID
  · subst heq
    rw [Function.update_self, hdone]
    exact Booked.acquired hours htheirs hpos hwhole hattempt hprobe hreceipt
  · rw [Function.update_of_ne heq]
    exact Booked.others hours htheirs heq (h.booked id)

/-! ## Runs -/

section

variable (attemptCapacity : Int) (henabled : be.enabled = true) (hdraining : be.draining = false)
include attemptCapacity henabled hdraining

theorem Sound.start :
    LocalCircuit.Sound be {} (start attemptCapacity be).coordinator ∧
      ∀ id, (start attemptCapacity be).coordinator.attempts.lookup id = none := by
  have hattempts : ∀ id, (CircuitAgreement.start attemptCapacity be).coordinator.attempts.lookup id
      = none := by
    intro id
    simp [CircuitAgreement.start, LocalCircuit.reconcileBackend, henabled, hdraining,
      LocalCircuit.newCircuitCoordinator, LocalCircuit.invalidate, Table.lookup_mapRows]
  refine ⟨⟨?_, ?_, ?_⟩, hattempts⟩
  · simp [CircuitAgreement.start, LocalCircuit.reconcileBackend, henabled, hdraining,
      LocalCircuit.newCircuitCoordinator]
  · intro id a ha
    simp [hattempts id] at ha
  symm
  rw [Finset.card_eq_zero, Finset.eq_empty_iff_forall_notMem]
  rintro ⟨id, e⟩ hmem
  obtain ⟨a, p, ha, -⟩ := LocalCircuit.mem_livePermits.mp hmem
  simp [hattempts id] at ha

theorem start_db :
    (start attemptCapacity be).db.backends be.id = some be ∧
      (start attemptCapacity be).db.circuits
        = (∅ : Table Int StateRow).insert be.id { backendRevision := be.revision } ∧
      (start attemptCapacity be).db.probes = ∅ ∧
      (start attemptCapacity be).db.activeFailures = ∅ ∧
      (start attemptCapacity be).db.receipts = ∅ := by
  simp [start, PostgresCircuit.reconcileBackend, emptyDb, henabled, hdraining]

theorem Stored.start :
    Stored be { backendRevision := be.revision } (start attemptCapacity be).db := by
  obtain ⟨hbackend, hcircuits, hprobes, hfailures, -⟩ :=
    start_db attemptCapacity henabled hdraining
  exact
    { backend := hbackend
      entry := by rw [hcircuits]; exact AList.lookup_insert _
      only := by
        intro id r hr
        rw [hcircuits, Table.lookup_insert_eq] at hr
        split at hr
        · next heq => exact heq
        · simp at hr
      revision := rfl
      opened := nofun
      probe := fun id p hp => by simp [hprobes] at hp
      apart := fun id p hp => by simp [hprobes] at hp
      failure := fun id f hf => by simp [hfailures] at hf }

end

theorem Related.start (o : Options) (attemptCapacity : Int) (henabled : be.enabled = true)
    (hdraining : be.draining = false) : Related o be (start attemptCapacity be) := by
  obtain ⟨hsound, hattempts⟩ := Sound.start attemptCapacity henabled hdraining
  obtain ⟨-, -, hprobes, hfailures, hreceipts⟩ := start_db attemptCapacity henabled hdraining
  refine ⟨⟨{}, _, hsound, Stored.start attemptCapacity henabled hdraining, ?_⟩, ?_⟩
  · congr 1
    simp [LocalCircuit.circuitOf, Circuit.ofBreaker, PostgresCircuit.circuitOf,
      PostgresCircuit.failuresOf, Table.values, hfailures]
  · intro id
    show Booked none none _ _ _
    rw [hattempts id, hprobes, hreceipts]
    exact Booked.unknown

theorem Related.step (h : Related o be p) (ho : WholeMicros o) (henabled : be.enabled = true)
    (hdraining : be.draining = false) (fingerprint : CircuitAcquireRequest → Nat) {c : Int × Call}
    (hassumed : Assumed be p c) :
    Related o be ((both o fingerprint).step p c).1 ∧
      ∀ ours theirs, ((both o fingerprint).step p c).2 = some (ours, theirs) → ours = theirs := by
  obtain ⟨now, call⟩ := c
  obtain ⟨⟨hnow, hwhole, hcall⟩, hpos, htimely⟩ := hassumed
  cases call with
  | acquire request =>
    obtain ⟨hrelated, hsame⟩ :=
      h.acquire ho henabled hdraining hnow ⟨hwhole, hpos⟩ fingerprint hcall htimely
    refine ⟨hrelated, ?_⟩
    intro ours theirs heq
    cases heq
    exact hsame
  | complete value =>
    obtain ⟨hbackend, hgranted, hcases⟩ := hcall
    obtain ⟨g, hg, hgeneration⟩ := Option.map_eq_some_iff.mp hgranted
    refine ⟨?_, fun _ _ => nofun⟩
    rcases hcases with ⟨hdone, hreported⟩ | hdone
    · exact h.complete_first ho hnow fingerprint ⟨⟨hwhole, hpos⟩, hbackend, hreported⟩ hg
        hgeneration.symm hdone
    · exact h.complete_again ho hnow fingerprint hbackend hg hdone
  | renew probes =>
    exact ⟨h.renew ho hnow fingerprint ⟨hwhole, hpos⟩ hcall, fun _ _ => nofun⟩
  | refresh ids => exact ⟨h.refresh ho hnow fingerprint ids, fun _ _ => nofun⟩

/-- **The two coordinators agree**: in every run every acquisition is answered with the
    same reason, permit or not, state, generation, failure count and probes in flight. -/
theorem circuits_agree (o : Options) (ho : WholeMicros o) (be : BackendIdentity)
    (henabled : be.enabled = true) (hdraining : be.draining = false)
    (fingerprint : CircuitAcquireRequest → Nat) (attemptCapacity : Int) (calls : List (Int × Call))
    (hassumed : (both o fingerprint).Along (Assumed be) (start attemptCapacity be) calls) :
    ∀ answer ∈ (both o fingerprint).answers (start attemptCapacity be) calls,
      ∀ ours theirs, answer = some (ours, theirs) → ours = theirs := by
  apply Machine.answers_of_along
  refine Machine.along_inv _ (I := Related o be) (G := Assumed be) ?_ ?_ _ calls
    (Related.start o attemptCapacity henabled hdraining) hassumed
  · intro p c hp hc
    exact (hp.step ho henabled hdraining fingerprint hc).1
  · intro p c hp hc
    exact (hp.step ho henabled hdraining fingerprint hc).2

/-! ### Runs on a small backend -/

def smallBackend : BackendIdentity := { id := 1, revision := 1, enabled := true }

/-- One failure opens the circuit, and one probe may pass at a time. -/
def smallOptions (cooldown : Int) (hcooldown : 0 < cooldown) : Options :=
  .of 1 (10 * second) cooldown 1 ⟨by decide, by decide, hcooldown, by decide⟩

def smallAcquire (id : UUID) (startedAt : Int) : Call :=
  .acquire
    { attemptID := id
      backend := smallBackend
      replicaID := 1
      acquisitionStartedAt := startedAt
      probeTTL := 30 * second }

def smallComplete (id : UUID) (generation reportedAt : Int) (outcome : InferenceOutcome) : Call :=
  .complete
    { attemptID := id
      backend := smallBackend
      generation := generation
      outcome := outcome
      reportedOutcomeAt := reportedAt }

def smallProbe (id : UUID) (generation : Int) : ProbeIdentity :=
  { permitID := id
    backend := smallBackend
    generation := generation
    replicaID := 1
    expiresAt := 0
    ttl := 30 * second }

/-- A request fails, the circuit opens, a probe passes and closes it. -/
def recoveryCalls : List (Int × Call) :=
  [(1 * second, smallAcquire 1 (1 * second)),
   (2 * second, smallComplete 1 0 (2 * second) .inferenceFailure),
   (3 * second, smallAcquire 2 (3 * second)),
   (5 * second, .refresh [1]),
   (5 * second, smallAcquire 3 (5 * second)),
   (6 * second, .renew [smallProbe 3 2]),
   (7 * second, smallComplete 3 2 (7 * second) .inferenceSuccess),
   (8 * second, smallComplete 3 2 (7 * second) .inferenceSuccess),
   (8 * second, smallAcquire 4 (8 * second))]

theorem circuits_agree_recoveryCalls :
    (∀ answer ∈ (both (smallOptions (2 * second) (by decide)) (fun _ => 0)).answers
        (start 8 smallBackend) recoveryCalls,
      ∀ ours theirs, answer = some (ours, theirs) → ours = theirs) ∧
    ((both (smallOptions (2 * second) (by decide)) (fun _ => 0)).answers
        (start 8 smallBackend) recoveryCalls).filterMap (Option.map Prod.fst)
      = [⟨none, false, some .circuitClosed, 0, 0, 0⟩,
         ⟨some .circuitOpen, false, some .circuitOpen, 1, 1, 0⟩,
         ⟨none, true, some .circuitHalfOpen, 2, 1, 1⟩,
         ⟨none, false, some .circuitClosed, 3, 0, 0⟩] := by
  refine ⟨circuits_agree _ ⟨by decide, by decide⟩ _ (by decide) (by decide) _ _ _ ?_,
    by decide +kernel⟩
  decide +kernel

/-- An acquisition that started a day and a second ago. -/
def lateCalls : List (Int × Call) :=
  [(receiptRetention + 2 * second, smallAcquire 1 (1 * second))]

/-- The circuit opens, and PostgreSQL refreshes after one microsecond. -/
def refreshedCalls : List (Int × Call) :=
  [(1 * second, smallAcquire 1 (1 * second)),
   (1 * second, smallComplete 1 0 (1 * second) .inferenceFailure),
   (1 * second + 1000, .refresh [1]),
   (1 * second + 1000, smallAcquire 2 (1 * second))]

/-- The circuit opens at the zero instant. -/
def zeroCalls : List (Int × Call) :=
  [(0, smallAcquire 1 0),
   (0, smallComplete 1 0 0 .inferenceFailure),
   (0, smallAcquire 2 0)]

/-- Where the coordinators do not agree: an acquisition that started too long ago, a
    cooldown of one and a half microseconds, and a circuit opened at the zero instant. -/
theorem circuits_disagree :
    (both (smallOptions (2 * second) (by decide)) (fun _ => 0)).Along (Called smallBackend)
        (start 8 smallBackend) lateCalls ∧
    (both (smallOptions (2 * second) (by decide)) (fun _ => 0)).answers (start 8 smallBackend)
        lateCalls
      = [some (⟨some .staleOperation, false, none, 0, 0, 0⟩,
          ⟨some .staleOperation, false, some .circuitClosed, 0, 0, 0⟩)] ∧
    (both (smallOptions 1500 (by decide)) (fun _ => 0)).Along (Called smallBackend)
        (start 8 smallBackend) refreshedCalls ∧
    (both (smallOptions 1500 (by decide)) (fun _ => 0)).answers (start 8 smallBackend)
        refreshedCalls
      = [some (⟨none, false, some .circuitClosed, 0, 0, 0⟩,
          ⟨none, false, some .circuitClosed, 0, 0, 0⟩), none, none,
         some (⟨some .circuitOpen, false, some .circuitOpen, 1, 1, 0⟩,
          ⟨none, true, some .circuitHalfOpen, 2, 1, 1⟩)] ∧
    (both (smallOptions (2 * second) (by decide)) (fun _ => 0)).Along (Called smallBackend)
        (start 8 smallBackend) zeroCalls ∧
    (both (smallOptions (2 * second) (by decide)) (fun _ => 0)).answers (start 8 smallBackend)
        zeroCalls
      = [some (⟨none, false, some .circuitClosed, 0, 0, 0⟩,
          ⟨none, false, some .circuitClosed, 0, 0, 0⟩), none,
         some (⟨some .circuitOpen, false, some .circuitOpen, 1, 1, 0⟩,
          ⟨none, true, some .circuitHalfOpen, 2, 1, 1⟩)] := by
  decide +kernel

end Coordination.CircuitAgreement
