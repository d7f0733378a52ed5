import PriorityGateway.Coordination.Circuit.LocalRefinement

/-! # The Calls of the Local Coordinator

    Every call changes the circuit that the coordinator stands for as the
    abstract operation does, up to settling, and an acquisition is answered as
    the abstract circuit answers it. -/

namespace Coordination.LocalCircuit

open CircuitBreaker (Options Breaker probing probing_advances Advances refreshed_fields
  refreshed_of_halfOpen toSnapshot refreshed_refreshed Refuses)
open Circuit (ofBreaker renew)

variable {o : Options} {be : BackendIdentity} {b : Breaker} {s : CircuitCoordinator}

/-! ## Snapshots -/

theorem Sound.setBreaker (h : Sound be b s) {b' : Breaker} (hadv : Advances b b')
    (hcount : b'.probesInFlight = (livePermits b' s.attempts).card) :
    Sound be b' (setBreaker be b' s) where
  entry := AList.lookup_insert _
  attempt := fun id a ha => (h.attempt id a ha).advance hadv
  inFlight := hcount

/-- `Snapshot` of a breaker notices the end of the cooldown and of the window. -/
theorem Sound.refreshed (h : Sound be b s) (now : Int) :
    Sound be (CircuitBreaker.refreshed o b now)
        (LocalCircuit.setBreaker be (CircuitBreaker.refreshed o b now) s) ∧
      circuitOf (CircuitBreaker.refreshed o b now) s.attempts
        = ((circuitOf b s.attempts).cool o now).forget o now := by
  have hadv := CircuitBreaker.refreshed_advances o b now
  have hsound : Sound be (CircuitBreaker.refreshed o b now)
      (LocalCircuit.setBreaker be (CircuitBreaker.refreshed o b now) s) := by
    apply h.setBreaker hadv
    rcases refreshed_fields o b now with ⟨-, hgen, hcount, -⟩ | ⟨-, -, hgen, hcount, -⟩
    · rw [hcount, livePermits_congr hgen]
      exact h.inFlight
    · rw [hcount, h.livePermits_later (by omega), Finset.card_empty]
  refine ⟨hsound, ?_⟩
  apply Circuit.ofBreaker_refreshed
  · intro hopen
    rcases refreshed_fields o b now with ⟨-, hgen, -⟩ | ⟨-, -, hgen, -⟩
    · rw [livePermits_congr hgen]
      exact h.livePermits_empty (by simp [hopen])
    · exact h.livePermits_later (by omega)
  · intro hhalf
    rw [refreshed_of_halfOpen hhalf]

/-! ## Acquire -/

theorem makeAttemptRoom_of_room (h : (Table.size s.attempts : Int) < s.attemptCapacity) :
    makeAttemptRoom s = (s, true) := by
  have hround : makeRoomRound s = none := if_pos (Or.inl h)
  have hloop : ∀ fuel, iterate makeRoomRound fuel s = s := by
    intro fuel
    cases fuel with
    | zero => rfl
    | succ fuel => rw [iterate, hround]
  simp [makeAttemptRoom, hloop, h]

def newAttempt (fingerprint : Nat) (now : Int) (req : CircuitAcquireRequest) (generation : Nat)
    (probe : Bool) : CircuitAttempt where
  fingerprint := fingerprint
  backend := req.backend
  generation := generation
  permit := if probe then some (probePermit req generation now) else none
  complete := ⟨generation, probe⟩
  ttl := if probe then req.probeTTL else 0
  acquiredAt := req.acquisitionStartedAt

variable {a : CircuitAttempt} {id : UUID} {p : ProbeIdentity} {now : Int}
  {value : CircuitCompletion} {t attempts : Table UUID CircuitAttempt} {ttl : UUID → Int}

theorem livePermits_insert_probe (hnone : attempts.lookup id = none) (hlive : a.terminal = false)
    (hgen : a.complete.generation = b.generation) (hp : a.permit = some p) :
    livePermits b (attempts.insert id a) = insert (id, p.expiresAt) (livePermits b attempts) := by
  have habsent : ∀ e, (id, e) ∉ livePermits b attempts := notMem_livePermits (by simp [hnone])
  ext ⟨id', e⟩
  rw [Finset.mem_insert, mem_livePermits_insert]
  split
  · next hid => simp [hid, habsent, liveDeadline, hlive, hgen, hp, eq_comm]
  · next hid => simp [hid]

theorem livePermits_insert_attempt (hnone : attempts.lookup id = none) (hp : a.permit = none) :
    livePermits b (attempts.insert id a) = livePermits b attempts := by
  have habsent : ∀ e, (id, e) ∉ livePermits b attempts := notMem_livePermits (by simp [hnone])
  ext ⟨id', e⟩
  rw [mem_livePermits_insert]
  split
  · next hid => simp [hid, habsent, liveDeadline, hp]
  · rfl

/-- The coordinator with the record of a new attempt. -/
def withAttempt (s : CircuitCoordinator) (now : Int) (req : CircuitAcquireRequest)
    (a : CircuitAttempt) : CircuitCoordinator :=
  { s with
    attempts := s.attempts.insert req.attemptID a
    expiries :=
      if a.permit.isSome then
        s.expiries.add .circuitPermitExpiry req.attemptID (now + req.probeTTL)
      else s.expiries }

section Asking

variable {now : Int} {fingerprint : Nat} {req : CircuitAcquireRequest} {r : Breaker}

/-! The three answers of a breaker, which is `r` once it is refreshed. -/

section

variable (hr : CircuitBreaker.refreshed o b now = r) (hbackend : req.backend = be)
include hr hbackend

theorem askBreaker_closed (h : r.state = .circuitClosed) :
    askBreaker o s now fingerprint req ⟨be, b⟩ =
      (withAttempt (setBreaker be r s) now req (newAttempt fingerprint now req r.generation false),
        { snapshot := toCircuitSnapshot be (toSnapshot o r) }) := by
  unfold askBreaker
  rw [CircuitBreaker.acquire_closed (hr.symm ▸ h)]
  simp only [CircuitBreaker.snapshot, refreshed_refreshed]
  simp [hr, record, toCircuitSnapshot, toSnapshot, h, withAttempt, setBreaker,
    newAttempt, hbackend]

theorem askBreaker_refused (h : Refuses o r) :
    askBreaker o s now fingerprint req ⟨be, b⟩ =
      (setBreaker be r s,
        { snapshot := toCircuitSnapshot be (toSnapshot o r)
          reason := some
            (if r.state = .circuitHalfOpen then .probeCapacityExhausted else .circuitOpen) }) := by
  unfold askBreaker
  rw [CircuitBreaker.acquire_refused (hr.symm ▸ h)]
  simp only [CircuitBreaker.snapshot, refreshed_refreshed]
  simp [hr, toCircuitSnapshot, toSnapshot, setBreaker, hbackend]

theorem askBreaker_probe (h : r.state = .circuitHalfOpen) (hroom : ¬ Refuses o r) :
    askBreaker o s now fingerprint req ⟨be, b⟩ =
      (withAttempt (setBreaker be (probing r) s) now req
          (newAttempt fingerprint now req r.generation true),
        { snapshot := toCircuitSnapshot be (toSnapshot o (probing r))
          permit := some (probePermit req r.generation now) }) := by
  have hstate : (probing r).state = .circuitHalfOpen := h
  unfold askBreaker
  rw [CircuitBreaker.acquire_probe (hr.symm ▸ h) (hr.symm ▸ hroom), hr]
  simp only [CircuitBreaker.snapshot, refreshed_of_halfOpen hstate]
  simp [record, toCircuitSnapshot, toSnapshot, h, withAttempt, setBreaker,
    newAttempt, hbackend, probing, probePermit]

end

/-- A request that passes the closed circuit is recorded and changes nothing else. -/
theorem Sound.passed (now : Int) (fingerprint : Nat) (h : Sound be b s)
    (hnone : s.attempts.lookup req.attemptID = none)
    (hbackend : req.backend = be) (hstate : b.state = .circuitClosed) :
    Sound be b (withAttempt s now req (newAttempt fingerprint now req b.generation false)) ∧
      circuitOf b (withAttempt s now req
          (newAttempt fingerprint now req b.generation false)).attempts
        = circuitOf b s.attempts := by
  have hpermits := livePermits_insert_attempt (b := b)
    (a := newAttempt fingerprint now req b.generation false) hnone rfl
  refine ⟨⟨h.entry, ?_, ?_⟩, congrArg (ofBreaker b) hpermits⟩
  · exact Table.forall_insert ⟨hbackend, rfl, rfl, by simp [newAttempt], le_refl _,
      fun _ => hstate, by simp [newAttempt]⟩ h.attempt
  · exact h.inFlight.trans (congrArg Finset.card hpermits).symm

theorem Sound.probed (now : Int) (fingerprint : Nat) (h : Sound be b s)
    (hnone : s.attempts.lookup req.attemptID = none)
    (hbackend : req.backend = be) (hstate : b.state = .circuitHalfOpen) :
    Sound be (probing b) (withAttempt (LocalCircuit.setBreaker be (probing b) s) now req
        (newAttempt fingerprint now req b.generation true)) ∧
      circuitOf (probing b) (withAttempt (LocalCircuit.setBreaker be (probing b) s) now req
          (newAttempt fingerprint now req b.generation true)).attempts
        = (circuitOf b s.attempts).withProbe req.attemptID (now + req.probeTTL) := by
  have hpermits : livePermits (probing b) (s.attempts.insert req.attemptID
      (newAttempt fingerprint now req b.generation true))
      = insert (req.attemptID, now + req.probeTTL) (livePermits b s.attempts) :=
    livePermits_insert_probe (p := probePermit req b.generation now) hnone rfl rfl rfl
  have hfresh : (req.attemptID, now + req.probeTTL) ∉ livePermits b s.attempts :=
    notMem_livePermits (by simp [hnone]) _
  constructor
  · refine ⟨AList.lookup_insert _, ?_, ?_⟩
    · intro id a ha
      rcases Table.lookup_insert_cases ha with ⟨rfl, rfl⟩ | ⟨-, ha⟩
      · refine ⟨hbackend, rfl, rfl, ?_, le_refl _, fun _ => hstate, ?_⟩
        · intro p hp
          cases hp
          rfl
        · intro p _ hp
          cases hp
          exact MinHeap.mem_push.mpr (Or.inl rfl)
      · refine { (h.attempt id a ha).advance (probing_advances b) with queued := ?_ }
        intro p hlive hp
        exact MinHeap.mem_push.mpr (Or.inr ((h.attempt id a ha).queued p hlive hp))
    · show b.probesInFlight + 1 = (livePermits (probing b) (s.attempts.insert _ _)).card
      rw [hpermits, Finset.card_insert_of_notMem hfresh, h.inFlight]
  · show ofBreaker (probing b) (livePermits (probing b) (s.attempts.insert _ _)) = _
    rw [hpermits]
    simp [circuitOf, ofBreaker, probing, hstate, Circuit.withProbe]

/-- What `Acquire` of a new attempt does: the circuit and the answer are those
    of the abstract acquisition, and a granted attempt is recorded. -/
structure Acquired (o : Options) (be : BackendIdentity) (now : Int) (req : CircuitAcquireRequest)
    (fingerprint : Nat) (c : Circuit) (before : Table UUID CircuitAttempt) (b' : Breaker)
    (s' : CircuitCoordinator) (d : CircuitDecision) : Prop where
  sound : Sound be b' s'
  circuit : circuitOf b' s'.attempts = (c.acquire o now req.attemptID req.probeTTL).1
  observed : d.observed = (c.acquire o now req.attemptID req.probeTTL).1.observe
    (c.acquire o now req.attemptID req.probeTTL).2
  refused : d.reason ≠ none → Ages before s'.attempts
  granted : d.reason = none → ∃ t, Ages before t ∧
    s'.attempts = t.insert req.attemptID
      (newAttempt fingerprint now req b'.generation (decide (b'.state = .circuitHalfOpen))) ∧
    d.permit = (newAttempt fingerprint now req b'.generation
      (decide (b'.state = .circuitHalfOpen))).permit

theorem Sound.card_probes (h : Sound be b s) :
    (circuitOf b s.attempts).probes.card = b.probesInFlight := by
  by_cases hstate : b.state = .circuitHalfOpen
  · simpa [circuitOf, ofBreaker, hstate] using h.inFlight.symm
  · rw [h.inFlight, h.livePermits_empty hstate]
    simp [circuitOf, ofBreaker, hstate]

theorem Sound.observe_snapshot (h : Sound be b s) (reason : Option Reason)
    (permit : Option ProbeIdentity)
    (hpermit : permit.isSome = (reason.isNone && decide (b.state = .circuitHalfOpen))) :
    ({ snapshot := toCircuitSnapshot be (toSnapshot o b), permit := permit,
       reason := reason } : CircuitDecision).observed
      = (circuitOf b s.attempts).observe reason := by
  simp only [CircuitDecision.observed, Circuit.observe, h.card_probes, hpermit]
  rfl

theorem Sound.ask (h : Sound be b s) {before : Table UUID CircuitAttempt}
    (hages : Ages before s.attempts) {c : Circuit}
    (hsettled : c = ((circuitOf b s.attempts).cool o now).forget o now)
    (hnone : s.attempts.lookup req.attemptID = none) (hbackend : req.backend = be) :
    ∃ b', Acquired o be now req fingerprint c before b'
      (askBreaker o s now fingerprint req ⟨be, b⟩).1
      (askBreaker o s now fingerprint req ⟨be, b⟩).2 := by
  obtain ⟨h₂, hcircuit⟩ := h.refreshed (o := o) now
  rw [← hcircuit] at hsettled
  subst hsettled
  generalize hr : CircuitBreaker.refreshed o b now = r at h₂ hcircuit ⊢
  by_cases hclosed : r.state = .circuitClosed
  · have hstate : (circuitOf r s.attempts).state = .circuitClosed := hclosed
    have hprobe : decide (r.state = .circuitHalfOpen) = false := by simp [hclosed]
    obtain ⟨hsound, hpassed⟩ := h₂.passed now fingerprint hnone hbackend hclosed
    rw [askBreaker_closed hr hbackend hclosed]
    refine ⟨_, hsound, ?_, ?_, fun hreason => absurd rfl hreason, fun _ => ?_⟩
    · rw [Circuit.acquire_closed hstate]
      exact hpassed
    · rw [Circuit.acquire_closed hstate]
      exact h₂.observe_snapshot none none (by simp [hclosed])
    · rw [hprobe]
      exact ⟨s.attempts, hages, rfl, rfl⟩
  · have hcount : (circuitOf r s.attempts).probes.card = r.probesInFlight := h₂.card_probes
    by_cases hrefuse : Refuses o r
    · have hacquire : (circuitOf r s.attempts).acquire o now req.attemptID req.probeTTL
          = (circuitOf r s.attempts, some
            (if r.state = .circuitHalfOpen then .probeCapacityExhausted else .circuitOpen)) := by
        rcases hrefuse with hopen | ⟨hhalf, hfull⟩
        · rw [Circuit.acquire_open (by exact hopen), if_neg (by simp [hopen])]
        · rw [Circuit.acquire_full (by exact hhalf), if_pos hhalf]
          rw [hcount]
          simpa [circuitOf, ofBreaker, hhalf] using hfull
      rw [askBreaker_refused hr hbackend hrefuse]
      refine ⟨_, h₂, ?_, ?_, fun _ => hages, fun hreason => by cases hreason⟩
      · rw [hacquire]
        rfl
      · rw [hacquire]
        exact h₂.observe_snapshot _ none (by simp)
    · have hhalf : r.state = .circuitHalfOpen := by
        cases hstate : r.state with
        | circuitClosed => exact absurd hstate hclosed
        | circuitOpen => exact absurd (Or.inl hstate) hrefuse
        | circuitHalfOpen => rfl
      have hroom : ¬ ((circuitOf r s.attempts).succeeded = true ∨
          o.halfOpenMaxProbes ≤ (circuitOf r s.attempts).probes.card) := by
        intro hfull
        apply hrefuse
        rw [hcount] at hfull
        refine Or.inr ⟨hhalf, ?_⟩
        simpa [circuitOf, ofBreaker, hhalf] using hfull
      have hacquire := Circuit.acquire_probe (o := o) now req.attemptID req.probeTTL
        (c := circuitOf r s.attempts) hhalf hroom
      have hprobe : decide ((probing r).state = .circuitHalfOpen) = true := decide_eq_true hhalf
      obtain ⟨hsound, hprobed⟩ := h₂.probed now fingerprint hnone hbackend hhalf
      rw [setBreaker_setBreaker] at hsound hprobed
      rw [askBreaker_probe hr hbackend hhalf hrefuse]
      refine ⟨_, hsound, ?_, ?_, fun hreason => absurd rfl hreason, fun _ => ?_⟩
      · rw [hacquire]
        exact hprobed
      · rw [hacquire]
        exact (hsound.observe_snapshot none _ (by simp [hprobe])).trans
          (congrArg (Circuit.observe · none) hprobed)
      · rw [hprobe]
        exact ⟨s.attempts, hages, rfl, rfl⟩

end Asking

/-- **Acquire** of a new attempt, with room in the table and a current backend. -/
theorem Sound.acquire_new (h : Sound be b s) {req : CircuitAcquireRequest}
    (fingerprint : CircuitAcquireRequest → Nat) (hnone : s.attempts.lookup req.attemptID = none)
    (hroom : (Table.size s.attempts : Int) < s.attemptCapacity) (hbackend : req.backend = be)
    (henabled : be.enabled = true) (hdraining : be.draining = false)
    (hstarted : fresh req.acquisitionStartedAt now = true) :
    ∃ b', Acquired o be now req (fingerprint req) ((circuitOf b s.attempts).settle o now)
      s.attempts b' (acquire o fingerprint s now req).1 (acquire o fingerprint s now req).2 := by
  obtain ⟨b₁, h₁, hcircuit, hages, hcapacity⟩ := h.expired (o := o) now
  have hnone₁ := hages.lookup_none hnone
  have hroom₁ : (Table.size (expire o s now).attempts : Int)
      < (expire o s now).attemptCapacity := by
    have := hages.size_le
    omega
  have hentry : (expire o s now).circuits.lookup req.backend.id = some ⟨be, b₁⟩ := by
    rw [hbackend]
    exact h₁.entry
  have hask : acquire o fingerprint s now req
      = askBreaker o (expire o s now) now (fingerprint req) req ⟨be, b₁⟩ := by
    simp only [acquire, hnone₁, acquireNew, makeAttemptRoom_of_room hroom₁, hentry]
    simp [hbackend, henabled, hdraining, hstarted]
  rw [hask]
  apply h₁.ask hages _ hnone₁ hbackend
  rw [hcircuit]
  rfl

/-! ## Complete -/

theorem complete_state (o : Options) (s : CircuitCoordinator) (now : Int)
    (value : CircuitCompletion) :
    (complete o s now value).1
      = (snapshot o (completeEntry o (expire o s now) now value).1 value.backend.id now).1 := rfl

theorem Sound.rewrite (h : Sound be b s) {a' : CircuitAttempt} (ha : s.attempts.lookup id = some a)
    (hended : a.terminal = true) (hsame : SameOrigin a a') (retainUntil : Int) :
    Sound be b (retire s id a' retainUntil) ∧
      circuitOf b (retire s id a' retainUntil).attempts = circuitOf b s.attempts := by
  have hpermits : livePermits b (retire s id a' retainUntil).attempts
      = livePermits b s.attempts := by
    rw [retire, livePermits_retire rfl]
    exact filter_livePermits (notMem_livePermits_of ha (by simp [liveDeadline, hended]))
  refine ⟨⟨h.entry, ?_, ?_⟩, congrArg (ofBreaker b) hpermits⟩
  · refine Table.forall_insert ?_ h.attempt
    exact (h.attempt _ a ha).ended
      ⟨hsame.backend, hsame.generation, hsame.complete, hsame.permit⟩ rfl
  · exact h.inFlight.trans (congrArg Finset.card hpermits).symm

/-- The snapshot at the end of a call settles nothing that was not due. -/
theorem Sound.after_snapshot (h : Sound be b s) (now : Int) :
    ∃ b', Sound be b' (snapshot o s be.id now).1 ∧
      (circuitOf b' (snapshot o s be.id now).1.attempts).settle o now
        = (circuitOf b s.attempts).settle o now ∧
      (snapshot o s be.id now).1.attempts = s.attempts := by
  obtain ⟨hsound, hcircuit⟩ := h.refreshed (o := o) now
  rw [snapshot, h.entry]
  refine ⟨_, hsound, ?_, rfl⟩
  show (circuitOf _ s.attempts).settle o now = _
  rw [hcircuit, Circuit.settle_cool_forget]

/-- A completion that repeats the recorded one, or finds no attempt, changes nothing. -/
theorem Sound.complete_again (h : Sound be b s) (now : Int) (hbackend : value.backend = be)
    (hdone : ∀ a, s.attempts.lookup value.attemptID = some a → a.completion ≠ none) :
    ∃ b', Sound be b' (complete o s now value).1 ∧
      (circuitOf b' (complete o s now value).1.attempts).settle o now
        = (circuitOf b s.attempts).settle o now ∧
      Ages s.attempts (complete o s now value).1.attempts := by
  obtain ⟨b₁, h₁, hcircuit, hages, -⟩ := h.expired (o := o) now
  have hentry : (completeEntry o (expire o s now) now value).1 = expire o s now := by
    unfold completeEntry
    rcases ha : (expire o s now).attempts.lookup value.attemptID with _ | a'
    · rfl
    obtain ⟨a, ha₀, hold⟩ := hages.kept _ a' ha
    have := hdone a ha₀
    rw [← hold.completion] at this
    dsimp only
    split
    · rfl
    · next hnone => exact absurd hnone this
  obtain ⟨b', h', hsettle, hattempts⟩ := h₁.after_snapshot (o := o) now
  rw [complete_state, hentry, hbackend]
  refine ⟨b', h', ?_, ?_⟩
  · rw [hsettle, hcircuit, Circuit.settle_expireProbes]
  · rw [hattempts]
    exact hages

/-- The attempts after the first completion of an attempt has been recorded. -/
def CompletionRecorded (t t' : Table UUID CircuitAttempt) (value : CircuitCompletion) : Prop :=
  (t.lookup value.attemptID = none ∧ t' = t) ∨
    ∃ a r, t.lookup value.attemptID = some a ∧
      t' = t.insert value.attemptID
        { a with completion := some value, terminal := true, retainUntil := r }

/-- An attempt that is terminal or gone has no deadline. -/
theorem notMem_probes (h : ∀ a, t.lookup id = some a → a.terminal = true ∨ a.permit = none)
    (e : Int) : (id, e) ∉ (circuitOf b t).probes := by
  intro hmem
  simp only [circuitOf, ofBreaker] at hmem
  split at hmem
  · refine notMem_livePermits (fun a ha => ?_) e hmem
    rcases h a ha with hended | hnone
    · simp [liveDeadline, hended]
    · simp [liveDeadline, hnone]
  · simp at hmem

/-- What is assumed of the first completion of an attempt: it has the backend and the
    generation of the attempt, is reported when it is processed, and an attempt that is not
    a probe is still there. -/
structure FirstReport (be : BackendIdentity) (now : Int) (probe : Bool)
    (t : Table UUID CircuitAttempt) (value : CircuitCompletion) : Prop where
  backend : value.backend = be
  reported : value.reportedOutcomeAt = now
  own : ∀ a, t.lookup value.attemptID = some a →
    a.completion = none ∧ a.generation = value.generation ∧ a.permit.isSome = probe
  live : probe = false → ∃ a, t.lookup value.attemptID = some a ∧ a.terminal = false

variable {t' : Table UUID CircuitAttempt} {probe : Bool}

/-- Only probes and terminal attempts age. -/
theorem Ages.live (h : Ages t t') (ha : t.lookup id = some a) (hlive : a.terminal = false)
    (hpermit : a.permit.isSome = false) : ∃ a', t'.lookup id = some a' ∧ a'.terminal = false := by
  rcases ha' : t'.lookup id with _ | a'
  · rcases h.gone _ a ha ha' with hgone | hgone
    · simp [hlive] at hgone
    · simp [hpermit] at hgone
  obtain ⟨a₀, ha₀, hold⟩ := h.kept _ a' ha'
  rw [ha] at ha₀
  cases ha₀
  rcases hold.terminal with hsame | ⟨hsome, -⟩
  · exact ⟨a', rfl, hsame.trans hlive⟩
  · simp [hpermit] at hsome

theorem FirstReport.ages (h : FirstReport be now probe t value) (hages : Ages t t') :
    FirstReport be now probe t' value := by
  refine { h with own := ?_, live := ?_ }
  · intro a' ha'
    obtain ⟨a, ha, hold⟩ := hages.kept _ a' ha'
    rw [hold.completion, hold.generation, hold.permit]
    exact h.own a ha
  · intro hprobe
    obtain ⟨a, ha, hlive⟩ := h.live hprobe
    exact hages.live ha hlive ((h.own a ha).2.2.trans hprobe)

/-- What `Complete` does to a coordinator without overdue entries. -/
theorem Sound.entry_completed (h : Sound be b s)
    (hfirst : FirstReport be now probe s.attempts value) :
    ∃ b', Sound be b' (completeEntry o s now value).1 ∧
      circuitOf b' (completeEntry o s now value).1.attempts
        = (circuitOf b s.attempts).complete o now value.attemptID value.generation probe
            value.outcome ∧
      CompletionRecorded s.attempts (completeEntry o s now value).1.attempts value := by
  obtain ⟨hbackend, hreported, hmatch, hlive⟩ := hfirst
  subst hreported
  rcases ha : s.attempts.lookup value.attemptID with _ | a
  · have hprobe : probe = true := by
      cases probe with
      | true => rfl
      | false =>
        obtain ⟨a, ha', -⟩ := hlive rfl
        simp [ha] at ha'
    have hsame : (completeEntry o s value.reportedOutcomeAt value).1 = s := by
      unfold completeEntry
      rw [ha]
    rw [hsame, hprobe]
    refine ⟨b, h, ?_, Or.inl ⟨ha, rfl⟩⟩
    rw [Circuit.complete_of_notMem (notMem_probes (by simp [ha]))]
  obtain ⟨hnew, hgen, hpermit⟩ := hmatch a ha
  have hentry : (completeEntry o s value.reportedOutcomeAt value).1
      = settleAttempt o s value.reportedOutcomeAt a value := by
    unfold completeEntry
    simp only [ha, hnew, fresh_self]
    simp [(h.attempt _ a ha).backend, hbackend, hgen]
  have horigin : SameOrigin a { a with completion := some value } := ⟨rfl, rfl, rfl, rfl⟩
  rw [hentry]
  by_cases hended : a.terminal = true
  · -- the permit has expired before; the completion is only recorded
    have hprobe : probe = true := by
      cases probe with
      | true => rfl
      | false =>
        obtain ⟨a', ha', hlive'⟩ := hlive rfl
        rw [ha] at ha'
        cases ha'
        simp [hended] at hlive'
    obtain ⟨hsound, hcircuit⟩ := h.rewrite ha hended horigin
      (circuitRetentionBoundary value.reportedOutcomeAt [a.acquiredAt, value.reportedOutcomeAt])
    rw [settleAttempt, if_pos hended, hprobe]
    refine ⟨b, hsound, ?_, Or.inr ⟨a, _, ha, rfl⟩⟩
    rw [hcircuit, Circuit.complete_of_notMem (notMem_probes _)]
    intro a' ha'
    rw [ha] at ha'
    cases ha'
    exact Or.inl hended
  · obtain ⟨hsound, hcircuit⟩ := h.finish (o := o) ha (by simpa using hended) horigin
      value.outcome value.reportedOutcomeAt
      (circuitRetentionBoundary value.reportedOutcomeAt [a.acquiredAt, value.reportedOutcomeAt])
    rw [h.runCompletion_eq ha] at hsound hcircuit
    rw [settleAttempt, if_neg hended, h.runCompletion_eq ha, ← hgen, ← hpermit]
    exact ⟨_, hsound, hcircuit, Or.inr ⟨a, _, ha, rfl⟩⟩

/-- **Complete**, the first time, with the identity and generation of the attempt. -/
theorem Sound.complete_new (h : Sound be b s) (hfirst : FirstReport be now probe s.attempts value) :
    ∃ b' t, Sound be b' (complete o s now value).1 ∧
      (circuitOf b' (complete o s now value).1.attempts).settle o now
        = (((circuitOf b s.attempts).settle o now).complete o now value.attemptID value.generation
            probe value.outcome).settle o now ∧
      Ages s.attempts t ∧ CompletionRecorded t (complete o s now value).1.attempts value := by
  obtain ⟨b₁, h₁, hcircuit, hages, -⟩ := h.expired (o := o) now
  obtain ⟨b₂, h₂, hcircuit₂, hrecorded⟩ := h₁.entry_completed (o := o) (hfirst.ages hages)
  obtain ⟨b', h', hsettle, hattempts⟩ := h₂.after_snapshot (o := o) now
  rw [complete_state, hfirst.backend]
  refine ⟨b', _, h', ?_, hages, ?_⟩
  · rw [hsettle, hcircuit₂, hcircuit, Circuit.settle_complete]
  · rw [hattempts]
    exact hrecorded

/-! ## RenewProbes -/

theorem livePermits_renew {q : ProbeIdentity} (ha : t.lookup id = some a)
    (hlive : a.terminal = false) (hq : a.permit = some q) (now : Int) (ttl : UUID → Int) :
    livePermits b (t.insert id { a with permit := some { q with expiresAt := now + ttl id } })
      = (livePermits b t).image
          (fun probe => if probe.1 ∈ [id] then (probe.1, now + ttl probe.1) else probe) := by
  have hdeadline : ∀ e, (id, e) ∈ livePermits b t →
      a.complete.generation = b.generation := by
    intro e hmem
    obtain ⟨a', p', ha', -, hgen, -⟩ := mem_livePermits.mp hmem
    rw [ha] at ha'
    cases ha'
    exact hgen
  ext ⟨id', e⟩
  rw [mem_livePermits_insert, Finset.mem_image]
  constructor
  · split
    · next hid =>
      intro he
      obtain ⟨-, hgen, p', hp', rfl⟩ := liveDeadline_eq_some.mp he
      cases hp'
      exact ⟨(id, q.expiresAt), mem_livePermits.mpr ⟨a, q, ha, hlive, hgen, hq, rfl⟩,
        by simp [hid]⟩
    · next hid => exact fun hmem => ⟨(id', e), hmem, by simp [hid]⟩
  · rintro ⟨⟨id₀, e₀⟩, hmem, heq⟩
    by_cases hid : id₀ = id
    · simp only [hid, List.mem_singleton, if_true, Prod.mk.injEq] at heq
      rw [if_pos heq.1.symm]
      exact liveDeadline_eq_some.mpr ⟨hlive, hdeadline e₀ (hid ▸ hmem), _, rfl, heq.2⟩
    · simp only [List.mem_singleton, hid, if_false, Prod.mk.injEq] at heq
      rw [← heq.1, ← heq.2, if_neg hid]
      exact hmem

/-- Renewing keeps the number of probes: a probe has one deadline. -/
theorem card_image_renew (ids : List UUID) (now : Int) (ttl : UUID → Int) :
    ((livePermits b t).image
      (fun probe => if probe.1 ∈ ids then (probe.1, now + ttl probe.1) else probe)).card
      = (livePermits b t).card := by
  apply Finset.card_image_of_injOn
  rintro ⟨id, e⟩ hmem ⟨id', e'⟩ hmem' heq
  have hid : id = id' := by
    have := congrArg Prod.fst heq
    dsimp only at this
    split at this <;> split at this <;> exact this
  subst hid
  rw [Table.project_unique hmem hmem']

/-- A caller that renews a probe of this coordinator does so with its generation. -/
def Renewable (ttl : UUID → Int) (t : Table UUID CircuitAttempt) (p : ProbeIdentity) : Prop :=
  ∀ a, t.lookup p.permitID = some a → a.permit.isSome = true →
    a.generation = p.generation ∧ a.ttl = ttl p.permitID ∧ 0 < a.ttl

theorem Renewable.ages (h : Renewable ttl t p) (hages : Ages t t') : Renewable ttl t' p := by
  intro a' ha' hsome
  obtain ⟨a, ha, hold⟩ := hages.kept _ a' ha'
  rw [hold.generation, hold.ttl]
  exact h a ha (hold.permit ▸ hsome)

/-- The coordinator after a probe got another deadline. -/
def withDeadline (s : CircuitCoordinator) (id : UUID) (a : CircuitAttempt) (q : ProbeIdentity)
    (deadline : Int) : CircuitCoordinator :=
  { s with
    attempts := s.attempts.insert id { a with permit := some { q with expiresAt := deadline } }
    expiries := s.expiries.add .circuitPermitExpiry id deadline }

/-- A probe without a live permit is lost, and one with it gets another deadline. -/
theorem Sound.renewProbe_cases (h : Sound be b s) (hp : Renewable ttl s.attempts p) (now : Int) :
    ((renewProbe now s p).1 = s ∧
      ∀ a, s.attempts.lookup p.permitID = some a → a.terminal = true ∨ a.permit = none) ∨
    ∃ a q, s.attempts.lookup p.permitID = some a ∧ a.terminal = false ∧ a.permit = some q ∧
      (renewProbe now s p).1 = withDeadline s p.permitID a q (now + ttl p.permitID) := by
  unfold renewProbe
  rcases ha : s.attempts.lookup p.permitID with _ | a
  · exact Or.inl ⟨rfl, by simp⟩
  rcases hq : a.permit with _ | q
  · exact Or.inl ⟨by simp [hq], fun a' ha' => by cases ha'; exact Or.inr hq⟩
  obtain ⟨hgen, httl, hpos⟩ := hp a ha (by rw [hq]; rfl)
  have hqgen := (h.attempt _ a ha).permit q hq
  by_cases hended : a.terminal = true
  · exact Or.inl ⟨by simp [hq, hended], fun a' ha' => by cases ha'; exact Or.inl hended⟩
  refine Or.inr ⟨a, q, rfl, by simpa using hended, hq, ?_⟩
  have hheld : ¬ (a.terminal = true ∨ q.generation ≠ p.generation) := by
    simp [hended, hqgen, hgen]
  have hpositive : ¬ a.ttl ≤ 0 := not_le.mpr hpos
  simp only [hq, if_neg hheld, if_neg hpositive]
  rw [← httl]
  rfl

theorem Sound.probe_renewed (h : Sound be b s) (hp : Renewable ttl s.attempts p) (now : Int) :
    Sound be b (renewProbe now s p).1 ∧
      circuitOf b (renewProbe now s p).1.attempts
        = (circuitOf b s.attempts).renew now [p.permitID] ttl ∧
      Ages s.attempts (renewProbe now s p).1.attempts := by
  rcases h.renewProbe_cases hp now with ⟨hsame, hdead⟩ | ⟨a, q, ha, hlive, hq, hrenewed⟩
  · rw [hsame]
    refine ⟨h, ?_, .refl _⟩
    rw [Circuit.renew_of_notMem now ttl (notMem_probes hdead)]
  rw [hrenewed]
  have hpermits : livePermits b
      (withDeadline s p.permitID a q (now + ttl p.permitID)).attempts = _ :=
    livePermits_renew (b := b) ha hlive hq now ttl
  refine ⟨⟨h.entry, ?_, ?_⟩, ?_, .insert ha ⟨rfl, by rw [hq]; rfl, rfl, rfl, .inl rfl⟩⟩
  · intro id a' ha'
    rcases Table.lookup_insert_cases ha' with ⟨rfl, rfl⟩ | ⟨-, ha'⟩
    · have hsound := h.attempt _ a ha
      have hsome : a.permit.isSome = true := by rw [hq]; rfl
      refine ⟨hsound.backend, hsound.generation, hsound.probe.trans hsome, ?_, hsound.old, ?_, ?_⟩
      · intro p' hp'
        cases hp'
        exact hsound.permit q hq
      · intro hgen
        have := hsound.current hgen
        rwa [hsome] at this
      · intro p' _ hp'
        cases hp'
        exact MinHeap.mem_push.mpr (Or.inl rfl)
    · refine { h.attempt id a' ha' with queued := fun p' hlive' hp' => ?_ }
      exact MinHeap.mem_push.mpr (Or.inr ((h.attempt id a' ha').queued p' hlive' hp'))
  · rw [hpermits, card_image_renew]
    exact h.inFlight
  · rw [circuitOf, hpermits, circuitOf]
    by_cases hstate : b.state = .circuitHalfOpen
    · simp [ofBreaker, renew, hstate]
    · simp [ofBreaker, renew, hstate]

/-- The loop of `RenewProbes`: all the probes are renewed. -/
theorem Sound.probes_renewed (h : Sound be b s) (now : Int) (probes : List ProbeIdentity)
    (hp : ∀ p ∈ probes, Renewable ttl s.attempts p) :
    Sound be b ((renewLoop now).after s probes) ∧
      circuitOf b ((renewLoop now).after s probes).attempts
        = (circuitOf b s.attempts).renew now (probes.map ProbeIdentity.permitID) ttl ∧
      Ages s.attempts ((renewLoop now).after s probes).attempts := by
  induction probes generalizing s with
  | nil =>
    refine ⟨h, ?_, .refl _⟩
    simp [renew]
  | cons p probes ih =>
    obtain ⟨h₁, hcircuit₁, hages₁⟩ := h.probe_renewed (hp p (by simp)) now
    obtain ⟨h₂, hcircuit₂, hages₂⟩ := ih h₁ (fun p' hp' => (hp p' (by simp [hp'])).ages hages₁)
    refine ⟨h₂, ?_, hages₁.trans hages₂⟩
    show circuitOf b ((renewLoop now).after (renewProbe now s p).1 probes).attempts = _
    rw [hcircuit₂, hcircuit₁, Circuit.renew_renew]
    rfl

/-- **RenewProbes** by the holders of the permits. -/
theorem Sound.renew (h : Sound be b s) (now : Int) (probes : List ProbeIdentity)
    (hp : ∀ p ∈ probes, Renewable ttl s.attempts p) :
    ∃ b', Sound be b' (renewProbes o s now probes).1 ∧
      (circuitOf b' (renewProbes o s now probes).1.attempts).settle o now
        = (((circuitOf b s.attempts).settle o now).renew now
            (probes.map ProbeIdentity.permitID) ttl).settle o now ∧
      Ages s.attempts (renewProbes o s now probes).1.attempts := by
  obtain ⟨b₁, h₁, hcircuit, hages, -⟩ := h.expired (o := o) now
  obtain ⟨h₂, hcircuit₂, hages₂⟩ :=
    h₁.probes_renewed now probes (fun p hp' => (hp p hp').ages hages)
  refine ⟨b₁, h₂, ?_, hages.trans hages₂⟩
  show (circuitOf b₁ ((renewLoop now).after (expire o s now) probes).attempts).settle o now = _
  rw [hcircuit₂, hcircuit, Circuit.settle_renew]

end Coordination.LocalCircuit
