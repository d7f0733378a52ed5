import PriorityGateway.Coordination.Circuit.LocalRefinement

/-! # The Attempts of the Local Circuit Coordinator

    The bookkeeping side of the coordinator, for any number of backends:
    which calls make an attempt live, which ones end it, and when the
    coordinator is available.

    A terminal attempt is found again through the queue of terminal
    expiries, so the coordinator is available as long as not every place of
    the table is taken by a live attempt (`Kept.available`).  That needs that
    no retention boundary is the zero instant, which reads as "not set". -/

namespace Coordination.LocalCircuit

open CircuitBreaker (Options)

/-! ## Time passes -/

/-- Every terminal attempt is queued for deletion. -/
structure Kept (s : CircuitCoordinator) : Prop where
  acquired : ∀ id a, s.attempts.lookup id = some a → 0 ≤ a.acquiredAt
  queued : ∀ id a, s.attempts.lookup id = some a → a.terminal = true →
    0 < a.retainUntil ∧
      (⟨a.retainUntil, id, .circuitAttemptExpiry⟩ : ExpiryEntry) ∈ s.terminalExpiries

/-- No attempt becomes live on the way from `s` to `s'`. -/
structure Passes (s s' : CircuitCoordinator) : Prop where
  live : ∀ id a, s'.attempts.lookup id = some a → a.terminal = false →
    s.attempts.lookup id = some a
  absent : ∀ id, s.attempts.lookup id = none → s'.attempts.lookup id = none
  capacity : s'.attemptCapacity = s.attemptCapacity
  kept : Kept s → Kept s'

theorem Passes.refl (s : CircuitCoordinator) : Passes s s :=
  ⟨fun _ _ ha _ => ha, fun _ => id, rfl, id⟩

variable {s s' : CircuitCoordinator} {a : CircuitAttempt} {id : UUID} {now generation : Int}
  {req : CircuitAcquireRequest}

theorem Passes.trans {s'' : CircuitCoordinator} (h : Passes s s') (h' : Passes s' s'') :
    Passes s s'' where
  live := fun id a ha hlive => h.live id a (h'.live id a ha hlive) hlive
  absent := fun id hid => h'.absent id (h.absent id hid)
  capacity := h'.capacity.trans h.capacity
  kept := fun hs => h'.kept (h.kept hs)

theorem Passes.of_eq (hattempts : s'.attempts = s.attempts)
    (hqueue : s'.terminalExpiries = s.terminalExpiries)
    (hcapacity : s'.attemptCapacity = s.attemptCapacity) : Passes s s' where
  live := fun id a ha _ => hattempts ▸ ha
  absent := fun id hid => by rw [hattempts]; exact hid
  capacity := hcapacity
  kept := fun h => ⟨by rw [hattempts]; exact h.acquired, by rw [hattempts, hqueue]; exact h.queued⟩

variable (o : Options) {value : CircuitCompletion} {queue : ExpiryQueue}

theorem passes_runCompletion (s : CircuitCoordinator) (attempt : CircuitAttempt)
    (outcome : InferenceOutcome) (completedAt : Int) :
    Passes s (runCompletion o s attempt outcome completedAt) := by
  unfold runCompletion
  split
  · exact .refl s
  · exact .of_eq rfl rfl rfl

theorem passes_snapshot (s : CircuitCoordinator) (id at' : Int) :
    Passes s (snapshot o s id at').1 := by
  unfold snapshot
  split
  · exact .refl s
  · exact .of_eq rfl rfl rfl

theorem circuitRetentionBoundary_pos (now at' t : Int) (h : 0 ≤ at') :
    0 < circuitRetentionBoundary now [at', t] := by
  simp only [circuitRetentionBoundary, List.foldl_cons, List.foldl_nil, receiptRetention, second]
  omega

theorem passes_retire {a' : CircuitAttempt} {retainUntil : Int} (ha : s.attempts.lookup id = some a)
    (hacquired : a'.acquiredAt = a.acquiredAt) (hretain : 0 ≤ a.acquiredAt → 0 < retainUntil) :
    Passes s (retire s id a' retainUntil) where
  live := fun id' a'' ha'' hlive => by
    rcases Table.lookup_insert_cases ha'' with ⟨rfl, rfl⟩ | ⟨-, ha''⟩
    · cases hlive
    · exact ha''
  absent := fun id' hid => by
    simp only [retire, Table.lookup_insert_eq]
    split
    · next heq =>
      rw [← heq, hid] at ha
      cases ha
    · exact hid
  capacity := rfl
  kept := fun h => by
    constructor <;> intro id' a'' ha'' <;> simp only [retire, Table.lookup_insert_eq] at ha'' <;>
      split at ha''
    · cases ha''
      exact hacquired ▸ h.acquired id a ha
    · exact h.acquired id' a'' ha''
    · next heq =>
      intro _
      cases ha''
      subst heq
      exact ⟨hretain (h.acquired _ a ha), MinHeap.mem_push.mpr (.inl rfl)⟩
    · intro hterminal
      obtain ⟨hpos, hmem⟩ := h.queued id' a'' ha'' hterminal
      exact ⟨hpos, MinHeap.mem_push.mpr (.inr hmem)⟩

/-- A terminal attempt is deleted, and the queue keeps the entries of the others. -/
theorem passes_erase (hqueue : ∀ e, e ∈ s.terminalExpiries → e.id ≠ id → e ∈ queue) :
    Passes s { s with attempts := s.attempts.erase id, terminalExpiries := queue } where
  live := fun id' a ha _ => (Table.lookup_of_erase ha).2
  absent := fun id' hid => by
    rw [Table.lookup_erase_eq, hid]
    exact ite_self _
  capacity := rfl
  kept := fun h => by
    refine ⟨fun id' a ha => h.acquired id' a (Table.lookup_of_erase ha).2, ?_⟩
    intro id' a ha hterminal
    obtain ⟨hne, ha⟩ := Table.lookup_of_erase ha
    obtain ⟨hpos, hmem⟩ := h.queued id' a ha hterminal
    exact ⟨hpos, hqueue _ hmem hne⟩

/-- An entry that belongs to no terminal attempt leaves the queue. -/
theorem passes_dequeue {expiry : ExpiryEntry}
    (hpop : ∀ e, e ∈ s.terminalExpiries → e = expiry ∨ e ∈ queue)
    (hstale : ∀ a, s.attempts.lookup expiry.id = some a → a.terminal = true →
      0 < a.retainUntil → a.retainUntil ≠ expiry.at') :
    Passes s { s with terminalExpiries := queue } where
  live := fun _ _ ha _ => ha
  absent := fun _ => id
  capacity := rfl
  kept := fun h => by
    refine ⟨h.acquired, fun id a ha hterminal => ?_⟩
    obtain ⟨hpos, hmem⟩ := h.queued id a ha hterminal
    refine ⟨hpos, (hpop _ hmem).resolve_left fun heq => ?_⟩
    subst heq
    exact hstale a ha hterminal hpos rfl

/-! ## expire -/

theorem passes_permitRound {o : Options}
    (h : expirePermitRound o now s = some s') : Passes s s' := by
  unfold expirePermitRound at h
  split at h <;> cases h
  next expiry queue hdue =>
  have hqueue : Passes s { s with expiries := queue } := .of_eq rfl rfl rfl
  refine hqueue.trans ?_
  obtain ⟨hsame, -⟩ | ⟨a, p, ha, -, -, -, hended⟩ :=
    expirePermitEntry_cases o { s with expiries := queue } now expiry
      (MinHeap.popDue_some hdue).1
  · rw [hsame]
    exact .refl _
  rw [hended]
  refine (passes_runCompletion o _ a .inferenceFailure p.expiresAt).trans ?_
  refine passes_retire (a := a) ?_ rfl (circuitRetentionBoundary_pos _ _ _)
  rw [← ha]
  unfold runCompletion
  split <;> rfl

theorem passes_attemptRound (h : expireAttemptRound now s = some s') : Passes s s' := by
  unfold expireAttemptRound at h
  split at h <;> cases h
  next expiry queue hdue =>
  obtain ⟨hle, hpop⟩ := MinHeap.popDue_some hdue
  have hmem : ∀ e, e ∈ s.terminalExpiries → e = expiry ∨ e ∈ queue :=
    fun e he => (MinHeap.mem_of_pop hpop).mp he
  unfold expireAttemptEntry
  rcases ha : s.attempts.lookup expiry.id with _ | a
  · exact passes_dequeue hmem fun a ha' => by simp [ha] at ha'
  dsimp only
  split
  · exact passes_erase fun e he hne => (hmem e he).resolve_left fun heq => hne (heq ▸ rfl)
  next hstale =>
  -- a due entry of a terminal attempt would have deleted it
  refine passes_dequeue hmem fun a' ha' hterminal _ heq => hstale ?_
  rw [ha] at ha'
  cases ha'
  exact ⟨hterminal, heq, by rw [heq]; exact not_lt.mpr hle⟩

theorem passes_iterate {body : CircuitCoordinator → Option CircuitCoordinator}
    (h : ∀ s s', body s = some s' → Passes s s') (fuel : Nat) (s : CircuitCoordinator) :
    Passes s (iterate body fuel s) :=
  iterate_inv (I := Passes s) (fun _ _ hs hb => hs.trans (h _ _ hb)) fuel s (.refl s)

theorem passes_expire (s : CircuitCoordinator) (now : Int) : Passes s (expire o s now) :=
  (passes_iterate (fun _ _ => passes_permitRound) _ s).trans
    (passes_iterate (fun _ _ => passes_attemptRound) _ _)

/-! ## Attempt room -/

theorem passes_dropStaleRound (h : dropStaleRound s = some s') : Passes s s' := by
  unfold dropStaleRound at h
  split at h
  · cases h
  next expiry queue hpop =>
  obtain ⟨hstale, hs⟩ := Option.ite_none_left_eq_some.mp h
  cases hs
  refine passes_dequeue (fun e he => (MinHeap.mem_of_pop hpop).mp he) ?_
  intro a ha hterminal hpos heq
  apply hstale
  unfold rootIsTerminal
  have hne : a.retainUntil ≠ 0 := by omega
  simp [ha, hterminal, heq ▸ hne, heq]

theorem passes_dropStale (s : CircuitCoordinator) : Passes s (dropStale s) :=
  passes_iterate (fun _ _ => passes_dropStaleRound) _ s

theorem passes_makeRoomRound (h : makeRoomRound s = some s') : Passes s s' := by
  unfold makeRoomRound at h
  obtain ⟨-, h⟩ := Option.ite_none_left_eq_some.mp h
  split at h <;> cases h
  · exact passes_dropStale s
  · next expiry queue hpop =>
    refine (passes_dropStale s).trans (passes_erase fun e he hne => ?_)
    exact ((MinHeap.mem_of_pop hpop).mp he).resolve_left fun heq => hne (heq ▸ rfl)

theorem passes_makeAttemptRoom (s : CircuitCoordinator) : Passes s (makeAttemptRoom s).1 :=
  passes_iterate (fun _ _ => passes_makeRoomRound) _ s

/-- A queued terminal attempt is found. -/
theorem Kept.hasTerminalAttempt (h : Kept s) (ha : s.attempts.lookup id = some a)
    (hterminal : a.terminal = true) : (hasTerminalAttempt s).2 = true := by
  -- cleaning the queue touches no attempt, so the entry of this one stays
  have hsame : (dropStale s).attempts = s.attempts := by
    refine iterate_inv (I := fun t => t.attempts = s.attempts) (fun t t' ht hround => ?_) _ s rfl
    unfold dropStaleRound at hround
    split at hround
    · cases hround
    · obtain ⟨-, hs⟩ := Option.ite_none_left_eq_some.mp hround
      cases hs
      exact ht
  have hmem := (((passes_dropStale s).kept h).queued id a (by rw [hsame]; exact ha) hterminal).2
  show (dropStale s).terminalExpiries.peek.isSome = true
  cases hpeek : (dropStale s).terminalExpiries.peek with
  | none => exact absurd hmem (MinHeap.peek_none hpeek _)
  | some _ => rfl

/-- The number of attempts that are not terminal. -/
def liveAttempts (s : CircuitCoordinator) : Nat := Table.count (fun _ a => !a.terminal) s.attempts

theorem Passes.live_le (h : Passes s s') : liveAttempts s' ≤ liveAttempts s :=
  Table.count_le_count fun id a ha hlive =>
    ⟨a, h.live id a ha (by simpa using hlive), hlive⟩

theorem passes_status (s : CircuitCoordinator) (now : Int) : Passes s (status o s now).1 := by
  unfold status
  dsimp only
  split
  · exact passes_expire o s now
  · exact (passes_expire o s now).trans (passes_dropStale _)

/-- **Available** unless every place of the table is taken by a live attempt. -/
theorem Kept.available (h : Kept s) (o : Options) (now : Int)
    (hlive : (liveAttempts s : Int) < s.attemptCapacity) : (status o s now).2 = true := by
  have hpasses := passes_expire o s now
  have hle := hpasses.live_le
  have hcapacity := hpasses.capacity
  unfold status
  dsimp only
  split
  · rfl
  next hfull =>
  by_cases hex : ∃ id a, (expire o s now).attempts.lookup id = some a ∧ a.terminal = true
  · obtain ⟨id, a, ha, hterminal⟩ := hex
    exact (hpasses.kept h).hasTerminalAttempt ha hterminal
  -- a full table without a terminal attempt holds too many live ones
  have hall : Table.size (expire o s now).attempts ≤ liveAttempts (expire o s now) := by
    have := Table.count_le_count (p := fun _ _ => true) (q := fun _ a => !a.terminal)
      (t := (expire o s now).attempts) (u := (expire o s now).attempts)
      fun id a ha _ => ⟨a, ha, by simpa using fun hterminal => hex ⟨id, a, ha, hterminal⟩⟩
    simpa [Table.count, Table.size, liveAttempts] using this
  omega

/-! ## Calls -/

/-- The record of an attempt that was just granted. -/
structure NewAttempt (req : CircuitAcquireRequest) (generation : Int) (a : CircuitAttempt) :
    Prop where
  live : a.terminal = false
  backend : a.backend = req.backend
  generation : a.generation = generation
  completion : a.completion = none
  acquiredAt : a.acquiredAt = req.acquisitionStartedAt

/-- `s'` is `s` after some time, with the attempt of a granted request. -/
def Grants (s s' : CircuitCoordinator) (req : CircuitAcquireRequest) (generation : Int) : Prop :=
  ∃ t a, Passes s t ∧ s'.attempts = t.attempts.insert req.attemptID a ∧
    NewAttempt req generation a ∧ s'.terminalExpiries = t.terminalExpiries ∧
    s'.attemptCapacity = t.attemptCapacity

theorem grants_record (s : CircuitCoordinator) (now : Int) (fingerprint : Nat)
    (req : CircuitAcquireRequest) (snap : CircuitSnapshot) (complete : CircuitBreaker.Completion) :
    Grants s (record s now fingerprint req snap complete).1 req
        (record s now fingerprint req snap complete).2.snapshot.generation ∧
      (record s now fingerprint req snap complete).2.reason = none := by
  unfold record
  split <;> exact ⟨⟨s, _, .refl s, rfl, ⟨rfl, rfl, rfl, rfl, rfl⟩, rfl, rfl⟩, rfl⟩

theorem Grants.after {t : CircuitCoordinator} (h : Grants t s' req generation)
    (hpasses : Passes s t) : Grants s s' req generation := by
  obtain ⟨u, a, hu, hrest⟩ := h
  exact ⟨u, a, hpasses.trans hu, hrest⟩

/-- What `Acquire` of an attempt that has no record does. -/
theorem acquireNew_cases (s : CircuitCoordinator) (now : Int) (fingerprint : Nat)
    (req : CircuitAcquireRequest) :
    (Passes s (acquireNew o s now fingerprint req).1 ∧
      (acquireNew o s now fingerprint req).2.reason ≠ none) ∨
    (Grants s (acquireNew o s now fingerprint req).1 req
        (acquireNew o s now fingerprint req).2.snapshot.generation ∧
      (acquireNew o s now fingerprint req).2.reason = none) := by
  have hroom := passes_makeAttemptRoom s
  unfold acquireNew
  dsimp only
  split
  · exact .inl ⟨hroom.trans (passes_snapshot o _ _ _), by simp⟩
  split
  · exact .inl ⟨hroom, by simp⟩
  split
  · exact .inl ⟨hroom, by simp⟩
  split
  · exact .inl ⟨hroom, by simp⟩
  unfold askBreaker
  dsimp only
  split
  · exact .inl ⟨hroom.trans (.of_eq rfl rfl rfl), by simp⟩
  · exact .inr ⟨(grants_record ..).1.after (hroom.trans (.of_eq rfl rfl rfl)),
      (grants_record ..).2⟩

theorem acquire_cases (fingerprint : CircuitAcquireRequest → Nat) (s : CircuitCoordinator)
    (now : Int) (req : CircuitAcquireRequest) (hnew : s.attempts.lookup req.attemptID = none) :
    (Passes s (acquire o fingerprint s now req).1 ∧
      (acquire o fingerprint s now req).2.reason ≠ none) ∨
    (Grants s (acquire o fingerprint s now req).1 req
        (acquire o fingerprint s now req).2.snapshot.generation ∧
      (acquire o fingerprint s now req).2.reason = none) := by
  have hexpired := passes_expire o s now
  have hnone := hexpired.absent _ hnew
  have heq : acquire o fingerprint s now req
      = acquireNew o (expire o s now) now (fingerprint req) req := by
    unfold acquire
    dsimp only
    rw [hnone]
  rw [heq]
  obtain ⟨hpasses, hreason⟩ | ⟨hgrants, hreason⟩ :=
    acquireNew_cases o (expire o s now) now (fingerprint req) req
  · exact .inl ⟨hexpired.trans hpasses, hreason⟩
  · exact .inr ⟨hgrants.after hexpired, hreason⟩

section

variable (h : Grants s s' req generation)

include h

theorem Grants.kept (hs : Kept s) (hat : 0 ≤ req.acquisitionStartedAt) : Kept s' := by
  obtain ⟨t, a, hpasses, hattempts, hnew, hqueue, -⟩ := h
  have ht := hpasses.kept hs
  constructor <;> intro id a' ha' <;> rw [hattempts, Table.lookup_insert_eq] at ha' <;> split at ha'
  · cases ha'
    rw [hnew.acquiredAt]
    exact hat
  · exact ht.acquired id a' ha'
  · cases ha'
    intro hterminal
    rw [hnew.live] at hterminal
    cases hterminal
  · rw [hqueue]
    exact ht.queued id a' ha'

theorem Grants.lookup (ha : s'.attempts.lookup id = some a) (hlive : a.terminal = false) :
    (id = req.attemptID ∧ NewAttempt req generation a) ∨ s.attempts.lookup id = some a := by
  obtain ⟨t, a', hpasses, hattempts, hnew, -, -⟩ := h
  rw [hattempts] at ha
  rcases Table.lookup_insert_cases ha with ⟨hid, rfl⟩ | ⟨-, ha⟩
  · exact .inl ⟨hid, hnew⟩
  · exact .inr (hpasses.live id a ha hlive)

theorem Grants.absent (hne : id ≠ req.attemptID)
    (hnone : s.attempts.lookup id = none) : s'.attempts.lookup id = none := by
  obtain ⟨t, a, hpasses, hattempts, -, -, -⟩ := h
  rw [hattempts, Table.lookup_insert_eq, if_neg hne]
  exact hpasses.absent id hnone

end

theorem passes_completeEntry (s : CircuitCoordinator) (now : Int)
    (value : CircuitCompletion) : Passes s (completeEntry o s now value).1 := by
  unfold completeEntry
  split
  · exact .refl s
  next attempt ha =>
  split
  · exact .refl s
  split
  · exact .refl s
  split
  · exact .refl s
  unfold settleAttempt
  split
  · exact passes_retire ha rfl (circuitRetentionBoundary_pos _ _ _)
  refine (passes_runCompletion o s attempt value.outcome value.reportedOutcomeAt).trans ?_
  refine passes_retire (a := attempt) ?_ rfl (circuitRetentionBoundary_pos _ _ _)
  rw [← ha]
  unfold runCompletion
  split <;> rfl

theorem passes_complete (s : CircuitCoordinator) (now : Int)
    (value : CircuitCompletion) : Passes s (complete o s now value).1 :=
  ((passes_expire o s now).trans (passes_completeEntry o _ now value)).trans
    (passes_snapshot o _ _ _)

theorem snapshot_attempts (s : CircuitCoordinator) (id at' : Int) :
    (snapshot o s id at').1.attempts = s.attempts := by
  unfold snapshot
  split <;> rfl

/-- The attempt that this completion is for, while it is live. -/
def Matches (s : CircuitCoordinator) (value : CircuitCompletion) : Prop :=
  ∀ a, s.attempts.lookup value.attemptID = some a → a.terminal = false →
    a.backend = value.backend ∧ a.generation = value.generation ∧ a.completion = none

theorem completeEntry_ends
    (hfresh : fresh value.reportedOutcomeAt now = true) (hmatch : Matches s value)
    (ha : (completeEntry o s now value).1.attempts.lookup value.attemptID = some a) :
    a.terminal = true := by
  -- where nothing changes, a live attempt would have matched
  have unchanged : ∀ attempt, s.attempts.lookup value.attemptID = some attempt →
      ¬ (attempt.backend = value.backend ∧ attempt.generation = value.generation ∧
        attempt.completion = none) → attempt.terminal = true := by
    intro attempt hattempt hother
    cases hterminal : attempt.terminal with
    | true => rfl
    | false => exact absurd (hmatch attempt hattempt hterminal) hother
  unfold completeEntry at ha
  split at ha
  · next hnone =>
    rw [hnone] at ha
    cases ha
  next attempt hattempt =>
  split at ha
  · next completion hcompletion =>
    rw [hattempt] at ha
    cases ha
    exact unchanged a hattempt (by simp [hcompletion])
  next hcompletion =>
  rw [if_neg (by simp [hfresh])] at ha
  split at ha
  · next hother =>
    rw [hattempt] at ha
    cases ha
    exact unchanged a hattempt (by tauto)
  · simp only [settleAttempt, retire, Table.lookup_insert_eq, if_pos] at ha
    cases ha
    rfl

/-- **Complete ends the attempt** when it is called in time with the attempt's backend and
    generation. -/
theorem complete_ends (hfresh : fresh value.reportedOutcomeAt now = true) (hmatch : Matches s value)
    (ha : (complete o s now value).1.attempts.lookup value.attemptID = some a) :
    a.terminal = true := by
  have hexpired : Matches (expire o s now) value := by
    intro a' ha' hlive
    exact hmatch a' ((passes_expire o s now).live _ a' ha' hlive) hlive
  refine completeEntry_ends o hfresh hexpired ?_
  rw [← ha]
  exact congrArg _ (snapshot_attempts o _ _ _).symm

end Coordination.LocalCircuit
