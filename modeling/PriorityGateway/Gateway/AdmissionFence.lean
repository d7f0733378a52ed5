import PriorityGateway.Coordination.Local.Moves
import PriorityGateway.Gateway.Requests

/-! # The Admission Fence

    A request is built from a snapshot that may be old.  Before the
    coordinator is asked, `acquireConfiguredAdmission` compares the request
    with the published snapshot, and it holds the read lock of the publication
    until the coordinator has answered.  So what was true when the check was
    made is true of the snapshot that is published when the lease is created.

    The clock does not stop for the lock.  The check reads it, and the
    coordinator reads it again; in between a key may expire. -/

namespace Gateway

open Coordination (AdmissionRequest AdmissionDecision)
open Coordination.LocalAdmission (AdmissionCoordinator Operation Effect)
open Registry (Snapshot Client APIKey ModelPool)

/-! ## What the check says -/

/-- The snapshot agrees with an admission request about this key, client and pool. -/
structure Agrees (current : Snapshot) (req : AdmissionRequest) (client : Client) (key : APIKey)
    (pool : ModelPool) : Prop where
  revision : current.revision = req.configurationRevision
  key_id : key.id = req.apiKeyID
  client_id : client.id = req.clientID
  priority : client.priorityClass = req.priorityClass
  policy : client.revision = req.clientPolicyRevision
  pool_lookup : current.poolsByID.lookup req.poolID = some pool
  pool_enabled : pool.enabled = true
  access : current.allows req.clientID req.poolID = true
  inflight : pool.maxGatewayInflight = req.poolGatewayInflightLimit
  reserve : pool.highPriorityReserve = req.poolHighPriorityReserve

variable {req : AdmissionRequest} {now : Int} {current : Snapshot} {phase : Phase}

theorem configurationCurrent_agrees {S : Service} {raw : Bytes}
    (h : configurationCurrent S raw req current now = true) :
    ∃ client key pool, ValidKey S raw current now client key ∧
      Agrees current req client key pool := by
  unfold configurationCurrent at h
  cases hkey : validateAPIKeySnapshot S raw current now with
  | error e =>
    rw [hkey] at h
    cases h
  | ok found =>
    obtain ⟨client, key⟩ := found
    rcases hpool : current.poolsByID.lookup req.poolID with _ | pool
    · rw [hkey, hpool] at h
      cases h
    rw [hkey, hpool] at h
    obtain ⟨hrevision, hid, hclient, hclass, hpolicy, henabled, haccess, hinflight, hreserve⟩ :=
      of_decide_eq_true h
    exact ⟨client, key, pool, validateAPIKeySnapshot_ok hkey,
      ⟨hrevision, hid, hclient, hclass, hpolicy, hpool, henabled, haccess, hinflight, hreserve⟩⟩

/-! ## Requests that have passed the check -/

/-- The request that has passed the check under the lock, and the reading of the check. -/
def Phase.checked : Phase → Option (AdmissionRequest × Int)
  | .allocating _ _ _ req checkedAt => some (req, checkedAt)
  | _ => none

theorem Phase.holdsLock_of_checked {x : AdmissionRequest × Int}
    (h : phase.checked = some x) : phase.holdsLock = true := by
  cases phase with
  | allocating => rfl
  | _ => cases h

theorem checked_orEnd {α : Type} {go : α → Phase} (hgo : ∀ a, (go a).checked = none)
    (x : Except APIError α) : (Phase.orEnd go x).checked = none := by
  cases x with
  | ok a => exact hgo a
  | error e => rfl

section Moves

variable {χ : Type} {S : Service} {request : ForwardRequest} {current : Snapshot}
  {phase phase' : Phase} {move : Move χ}

theorem decided_checked (resolved : Resolved) (retried : Bool) (limit now : Int)
    (answer : Except AcquireError AdmissionDecision) :
    (decided S resolved retried limit now answer).checked = none := by
  unfold decided
  repeat' split
  all_goals rfl

theorem resolveMove_checked (h : resolveMove S request current phase move = some phase') :
    phase'.checked = none := by
  unfold resolveMove at h
  repeat' split at h
  all_goals first
    | cases h
      rfl
    | cases h
      exact checked_orEnd (fun _ => rfl) _
    | cases h

theorem poolMove_checked (h : poolMove S current phase move = some phase') :
    phase'.checked = none := by
  unfold poolMove at h
  repeat' split at h
  all_goals first
    | cases h
      rfl
    | cases h
      unfold poolAcquired
      split <;> rfl
    | cases h

theorem admissionMove_checked (h : admissionMove S request phase move = some phase') :
    phase'.checked = none := by
  unfold admissionMove at h
  repeat' split at h
  all_goals first
    | cases h
      rfl
    | cases h

theorem targetMove_checked (h : targetMove S request current phase move = some phase') :
    phase'.checked = none := by
  unfold targetMove at h
  repeat' split at h
  all_goals first
    | cases h
      rfl
    | cases h

theorem tokenizeMove_checked (h : tokenizeMove S request current phase move = some phase') :
    phase'.checked = none := by
  unfold tokenizeMove at h
  repeat' split at h
  all_goals first
    | cases h
      rfl
    | cases h
      exact checked_orEnd (fun _ => rfl) _
    | cases h

/-- A request passes the check only if the published snapshot does. -/
theorem checkMove_checked (h : checkMove S request current phase move = some phase')
    (hchecked : phase'.checked = some (req, now)) :
    configurationCurrent S request.apiKey req current now = true := by
  unfold checkMove at h
  split at h
  · split at h
    · next hcurrent =>
      cases h
      cases hchecked
      exact hcurrent
    · cases h
      rw [decided_checked] at hchecked
      cases hchecked
  · cases h

theorem readingMove_checked (h : readingMove S request current phase move = some phase')
    (hchecked : phase'.checked = some (req, now)) :
    configurationCurrent S request.apiKey req current now = true := by
  -- every other kind of move leaves the request unchecked
  have hother : phase'.checked ≠ none := by
    rw [hchecked]
    exact Option.some_ne_none _
  unfold readingMove at h
  simp only [Option.or_eq_some_iff] at h
  rcases h with h | ⟨-, h | ⟨-, h | ⟨-, h | ⟨-, h | ⟨-, h⟩⟩⟩⟩⟩
  · exact absurd (resolveMove_checked h) hother
  · exact absurd (poolMove_checked h) hother
  · exact absurd (admissionMove_checked h) hother
  · exact checkMove_checked h hchecked
  · exact absurd (targetMove_checked h) hother
  · exact absurd (tokenizeMove_checked h) hother

end Moves

/-! ## The lock keeps the check true -/

/-- What the checked requests were checked against is published. -/
def Fenced {σ : Type} (S : Service) (w : World σ) : Prop :=
  ∀ k call req checkedAt, w.calls.lookup k = some call →
    call.phase.checked = some (req, checkedAt) →
      configurationCurrent S call.request.apiKey req w.current checkedAt = true

section Fence

variable {σ χ ω : Type} {A : Allocator σ χ ω} {S : Service} {w w' : World σ} {call : Call}
  {checkedAt : Int} {k : Nat}

theorem unchecked_of_no_readers (hreaders : w.readers = 0)
    (hk : w.calls.lookup k = some call) : call.phase.checked = none := by
  cases hchecked : call.phase.checked with
  | none => rfl
  | some x =>
    have hlock := Phase.holdsLock_of_checked hchecked
    have hpos : 0 < w.readers :=
      Table.count_pos_of_lookup (p := fun _ (call : Call) => call.phase.holdsLock) hk hlock
    omega

/-- A publication finds no request checked, so it breaks nothing. -/
theorem Fenced.published (h : Fenced S w) (hcurrent : current = w.current ∨ w.readers = 0)
    (hk : w.calls.lookup k = some call) (hchecked : call.phase.checked = some (req, checkedAt)) :
    configurationCurrent S call.request.apiKey req current checkedAt = true := by
  rcases hcurrent with rfl | hreaders
  · exact h k call req checkedAt hk hchecked
  · rw [unchecked_of_no_readers hreaders hk] at hchecked
    cases hchecked

theorem advance_checked {move : Move χ} (h : advance A S w call move = some (w', phase))
    (hchecked : phase.checked = some (req, checkedAt)) :
    w' = w ∧ configurationCurrent S call.request.apiKey req w.current checkedAt = true := by
  unfold advance at h
  split at h
  · split at h <;> cases h
    rw [decided_checked] at hchecked
    cases hchecked
  · split at h
    · obtain ⟨-, heq⟩ := Option.ite_none_right_eq_some.mp h
      cases heq
      cases hchecked
    · cases h
  · obtain ⟨next, hnext, heq⟩ := Option.map_eq_some_iff.mp h
    cases heq
    exact ⟨rfl, readingMove_checked hnext hchecked⟩

/-- **Step**: the fence holds after every step. -/
theorem fenced_step {l : Label χ ω} (h : Fenced S w) (hstep : next A S w l = some w') :
    Fenced S w' := by
  have hcurrent : w'.current = w.current ∨ w.readers = 0 :=
    (next_publishes hstep).imp_right And.left
  intro k call req checkedAt hk hchecked
  cases l with
  | registry l =>
    obtain ⟨-, hmap⟩ := Option.ite_none_left_eq_some.mp hstep
    obtain ⟨registry, -, rfl⟩ := Option.map_eq_some_iff.mp hmap
    exact h.published hcurrent hk hchecked
  | coordinator c =>
    cases hstep
    exact h k call req checkedAt hk hchecked
  | arrive k' request tokenize =>
    obtain ⟨-, heq⟩ := Option.ite_none_right_eq_some.mp hstep
    cases heq
    simp only [Table.lookup_insert_eq] at hk
    split at hk
    · -- a request that has just arrived is not checked
      cases hk
      cases tokenize <;> cases hchecked
    · exact h k call req checkedAt hk hchecked
  | call k' move =>
    simp only [next] at hstep
    rcases hk' : w.calls.lookup k' with _ | caller
    · rw [hk'] at hstep
      cases hstep
    rw [hk'] at hstep
    obtain ⟨⟨moved, phase⟩, hadvance, rfl⟩ := Option.map_eq_some_iff.mp hstep
    simp only [Table.lookup_insert_eq] at hk
    by_cases hsame : k = k'
    · rw [if_pos hsame] at hk
      cases hk
      obtain ⟨rfl, hconfigured⟩ := advance_checked hadvance hchecked
      exact hconfigured
    · rw [if_neg hsame, (advance_publishes hadvance).1] at hk
      exact h.published hcurrent hk hchecked

/-- **Run**: the fence holds in every state that is reached. -/
theorem fenced_reachable {coordinator : σ} (h : (gateway A S coordinator).Reachable w) :
    Fenced S w := by
  apply (gateway A S coordinator).invariant (I := Fenced S) ?_ ?_ h
  · rintro w rfl k call req checkedAt hk
    cases hk
  · intro w l w' hfenced hstep
    exact fenced_step hfenced hstep

end Fence

/-! ## The local coordinator -/

section Local

variable {F : Type} [Coordination.RateArith F]

/-- The local coordinator.  Its `Acquire` fails only when the context is done; the service is
    the only one to call it. -/
def localAllocator (fingerprint : AdmissionRequest → Nat) :
    Allocator (AdmissionCoordinator F) Bool (Int × Operation) where
  acquire := fun s cancelled now req =>
    if cancelled then (s, .error .transient)
    else
      let (s, decision, _) := Coordination.LocalAdmission.acquire fingerprint s now req
      (s, .ok decision)
  other := fun s c =>
    match c.2 with
    | .acquire _ => s
    | op => (Coordination.LocalAdmission.call fingerprint s c.1 op).1

/-- What a step does to the leases and the rate limits. -/
def effectsOf (fingerprint : AdmissionRequest → Nat) (w : World (AdmissionCoordinator F)) :
    Label Bool (Int × Operation) → List Effect
  | .call k (.acquire cancelled now _) =>
    match ((w.calls.lookup k).bind fun call => call.phase.checked) with
    | none => []
    | some (req, _) =>
      if cancelled then []
      else (Coordination.LocalAdmission.acquire fingerprint w.coordinator now req).2.2
  | .coordinator c =>
    match c.2 with
    | .acquire _ => []
    | op => (Coordination.LocalAdmission.call fingerprint w.coordinator c.1 op).2.2
  | _ => []

/-- A lease is created only by the `Acquire` of a request that has passed the check. -/
theorem leaseCreated_by_acquire {fingerprint : AdmissionRequest → Nat}
    {w : World (AdmissionCoordinator F)} {l : Label Bool (Int × Operation)}
    (h : .leaseCreated req ∈ effectsOf fingerprint w l) :
    ∃ k call checkedAt cancelled now answeredAt, l = .call k (.acquire cancelled now answeredAt) ∧
      w.calls.lookup k = some call ∧ call.phase.checked = some (req, checkedAt) := by
  unfold effectsOf at h
  split at h
  · next k cancelled now answeredAt =>
    rcases hk : w.calls.lookup k with _ | call
    · simp [hk] at h
    rcases hchecked : call.phase.checked with _ | x
    · simp [hk, hchecked] at h
    obtain ⟨asked, checkedAt⟩ := x
    simp only [hk, hchecked, Option.bind_some] at h
    split at h
    · cases h
    have hop : Operation.acquire asked = Operation.acquire req :=
      Coordination.LocalAdmission.leaseCreated_of_call h
    obtain rfl := Operation.acquire.inj hop
    exact ⟨k, call, checkedAt, cancelled, now, answeredAt, rfl, hk, hchecked⟩
  · next c =>
    -- the other calls of the coordinator create none
    split at h
    · cases h
    · next hop =>
      exact absurd (Coordination.LocalAdmission.leaseCreated_of_call h) (hop req)
  · cases h

/-- **Admission fence.**  When a lease is created, the published snapshot has the revision of
    the request, the presented key, unrevoked, for an enabled client of the request's id, class
    and policy revision, and an enabled pool the client has access to, of the request's limits.
    The key has not expired at the reading of the clock that this admission took under the
    publication lock. -/
theorem admission_fence (S : Service) (fingerprint : AdmissionRequest → Nat)
    (coordinator : AdmissionCoordinator F) {w : World (AdmissionCoordinator F)}
    (h : (gateway (localAllocator fingerprint) S coordinator).Reachable w)
    {l : Label Bool (Int × Operation)} (hcreated : .leaseCreated req ∈ effectsOf fingerprint w l) :
    ∃ k call checkedAt, w.calls.lookup k = some call ∧
      call.phase.checked = some (req, checkedAt) ∧
      ∃ client key pool, ValidKey S call.request.apiKey w.current checkedAt client key ∧
        Agrees w.current req client key pool := by
  obtain ⟨k, call, checkedAt, -, -, -, -, hk, hchecked⟩ := leaseCreated_by_acquire hcreated
  have hcurrent := fenced_reachable h k call req checkedAt hk hchecked
  exact ⟨k, call, checkedAt, hk, hchecked, configurationCurrent_agrees hcurrent⟩

end Local

/-- Nothing is published, and nothing has arrived. -/
def startOne : World (AdmissionCoordinator ℚ) where
  registry := Registry.newRegistry
  coordinator := Coordination.LocalAdmission.newAdmissionCoordinator ℚ 0
  calls := ∅

/-- A request of `oneRequest` has passed the check at the reading 10. -/
def checkedOne : World (AdmissionCoordinator ℚ) :=
  (untilChecked.foldlM (next (localAllocator fun _ => 0) oneService) startOne).getD startOne

def admissionOfOne : AdmissionRequest :=
  { Coordination.plainRequest 1 10 90 with
    replicaID := 1, effectiveClientLimit := 2, configuredClientLimit := 2
    poolHighPriorityReserve := 0, priorityClass := .critical }

theorem checkedOne_reachable :
    (gateway (localAllocator fun _ => 0) oneService
      (Coordination.LocalAdmission.newAdmissionCoordinator ℚ 0)).Reachable checkedOne := by
  apply System.reachable_of_isSome
  · intro w l w' h
    exact h
  · rfl
  · decide +kernel

theorem admission_fence_one :
    ∃ k call checkedAt, checkedOne.calls.lookup k = some call ∧
      call.phase.checked = some (admissionOfOne, checkedAt) ∧
      ∃ client key pool, ValidKey oneService call.request.apiKey checkedOne.current checkedAt
        client key ∧ Agrees checkedOne.current admissionOfOne client key pool :=
  admission_fence oneService (fun _ => 0) _ checkedOne_reachable
    (show .leaseCreated admissionOfOne ∈ effectsOf (fun _ => 0) checkedOne
      (.call 0 (.acquire false 20 20)) by decide +kernel)

/-- The clock passes the expiry of the key between the check, at 10, and the reading of the
    coordinator, at 100: the lease is created for a key that has expired. -/
theorem leaseCreated_after_expiry :
    (gateway (localAllocator fun _ => 0) oneService
      (Coordination.LocalAdmission.newAdmissionCoordinator ℚ 0)).Reachable checkedOne ∧
    .leaseCreated admissionOfOne ∈
      effectsOf (fun _ => 0) checkedOne (.call 0 (.acquire false 100 100)) ∧
    ∀ key ∈ checkedOne.current.keys, key.id = admissionOfOne.apiKeyID ∧ expired key 100 = true :=
  ⟨checkedOne_reachable, by decide +kernel, by decide +kernel⟩

end Gateway
