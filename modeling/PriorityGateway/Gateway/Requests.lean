import PriorityGateway.Gateway.Admission

/-! # Requests in Flight

    Any number of inference and tokenization requests run beside the
    publishers of the registry.  A step is one read of the published snapshot
    with the checks that follow it, one call of a component, or one
    publication.

    * `WithSnapshot` holds the read lock of the publication from `lock` until
      the coordinator has answered.  A publication waits until no request
      holds it, whether it comes from an administrator, from the usage
      recorder, from a `Reload` of the configuration poller or from the
      `Reload` of a request whose configuration was stale.
    * Each reading of the clock is part of the label.  Nothing is assumed
      about readings; they may come late or jump.
    * What the counters in memory, the health of backends, the router, the
      recorder and the tokenization coordinator answer is part of the label.
    * The admission coordinator is a parameter (`Allocator`). -/

namespace Gateway

open Coordination (PriorityClass UUID AdmissionRequest AdmissionDecision)
open Registry (Snapshot Client APIKey ModelPool Backend Data State)
open Pressure (PoolState)
open Bytes (ofText)

/-! ## The admission coordinator -/

/-- What `Acquire` of a coordinator may fail with. -/
inductive AcquireError where
  /-- a `coordination.PermanentError` -/
  | permanent
  | transient
  deriving DecidableEq, Repr

/-- A coordinator with states `σ`.  A call of `Acquire` depends on the clock and on things
    the service does not see (`χ`); `ω` are the other calls. -/
structure Allocator (σ χ ω : Type) where
  acquire : σ → χ → Int → AdmissionRequest → σ × Except AcquireError AdmissionDecision
  other : σ → ω → σ

/-! ## Where a request is -/

inductive Phase where
  /-- `Forward` before it authenticates. -/
  | arrived
  /-- Authenticated from this snapshot at this reading; the pool is looked up next. -/
  | authenticated (snapshot : Snapshot) (now : Int)
  /-- The reservation of the recorder is asked for. -/
  | reserving (resolved : Resolved)
  | reserved (resolved : Resolved)
  /-- `acquirePool` at the head of its loop; `retried` after a reload. -/
  | pool (resolved : Resolved) (retried : Bool)
  | poolRead (resolved : Resolved) (retried : Bool) (pool : ModelPool)
  /-- The runtime lets the request in, in this state of the pool. -/
  | poolReady (resolved : Resolved) (retried : Bool) (pool : ModelPool) (state : PoolState)
  /-- Without a coordinator: a slot of the pool is taken. -/
  | poolHeld (resolved : Resolved) (pool : ModelPool) (state : PoolState)
  /-- `acquireForwardAdmission` before its first question. -/
  | admission (resolved : Resolved) (limit : Int)
  /-- An attempt with the coordinator. -/
  | attempt (resolved : Resolved) (retried : Bool) (limit : Int)
  /-- `acquireConfiguredAdmission` before `WithSnapshot`. -/
  | requested (resolved : Resolved) (retried : Bool) (limit : Int) (req : AdmissionRequest)
  /-- The read lock is held. -/
  | guarded (resolved : Resolved) (retried : Bool) (limit : Int) (req : AdmissionRequest)
  /-- The read lock is held and the check has passed, at this reading. -/
  | allocating (resolved : Resolved) (retried : Bool) (limit : Int) (req : AdmissionRequest)
      (checkedAt : Int)
  /-- The configuration was stale: `Reload` loads. -/
  | reloading (resolved : Resolved) (limit : Int)
  /-- `Reload` has loaded and waits to publish. -/
  | publishing (resolved : Resolved) (limit : Int) (candidate : Snapshot)
  | reloaded (resolved : Resolved)
  | emergency (resolved : Resolved) (limit : Int)
  /-- `selectTarget` at the head of its loop; `retrying` for the second target. -/
  | selecting (resolved : Resolved) (retrying : Bool) (exclude : List Int)
  /-- The router has picked a backend. -/
  | routed (resolved : Resolved) (retrying : Bool) (exclude : List Int) (backend : Backend)
  /-- The request is with an upstream target. -/
  | forwarding (resolved : Resolved) (retrying : Bool) (target : Target)
  /-- `Tokenize` before its first look. -/
  | tokenizing
  | tokenStarted (t : Tokenizing)
  | tokenLeased (t : Tokenizing) (lease : TokenizationLease)
  /-- The tokenization request is with an upstream target. -/
  | tokenForwarding (target : Target)
  | ended (error : Option APIError)

def Phase.holdsLock : Phase → Bool
  | .guarded .. | .allocating .. => true
  | _ => false

/-- The phases of a request that has an upstream target. -/
def Phase.hasTarget : Phase → Bool
  | .forwarding .. | .tokenForwarding .. => true
  | _ => false

structure Call where
  request : ForwardRequest
  phase : Phase

structure World (σ : Type) where
  registry : State
  coordinator : σ
  calls : Table Nat Call

def World.current {σ : Type} (w : World σ) : Snapshot := w.registry.current

/-- How many requests hold the read lock. -/
def World.readers {σ : Type} (w : World σ) : Nat :=
  w.calls.count fun _ call => call.phase.holdsLock

/-! ## Moves that change nothing but the phase -/

/-- How the reservation of the recorder ends. -/
inductive Reservation where
  | granted
  | cancelled
  | refused
  deriving DecidableEq, Repr

inductive Move (χ : Type) where
  | authenticate (now : Int)
  | resolve
  | reserve (outcome : Reservation)
  | resolveAgain (now : Int)
  | readPool
  | poolRuntime (state : PoolState) (totalWaiting : ℚ)
  | acquirePool (ok : Bool)
  | validatePool (cancelled : Bool)
  | limiter (ok : Bool)
  | coordination (allowed ready : Bool)
  | buildRequest (now : Int) (leaseID : UUID) (startedAt : Int)
  | lock
  | check (now : Int)
  | acquire (choice : χ) (now answeredAt : Int)
  | load (data : Option Data)
  | publish (order : List Bytes)
  | emergency (ok : Bool)
  | select (now : Int) (choice : Option Nat)
  | acquireBackend (ok : Bool)
  | retry
  | finish (error : Option APIError)
  | tokenize (now : Int)
  | leaseTokenization (answer : Except APIError TokenizationLease)
  | revalidate (now : Int) (healthy ready : Bool)

/-- The request goes on, or ends with an error. -/
def Phase.orEnd {α : Type} (go : α → Phase) : Except APIError α → Phase
  | .ok a => go a
  | .error e => .ended (some e)

/-- The first half of `Forward`: authentication, the pool by name and the reservation. -/
def resolveMove (S : Service) (request : ForwardRequest) (current : Snapshot) {χ : Type} :
    Phase → Move χ → Option Phase
  | .arrived, .authenticate now =>
    match validateAPIKeySnapshot S request.apiKey current now with
    | .error e => some (.ended (some e))
    | .ok _ => some (.authenticated current now)
  | .authenticated snapshot now, .resolve =>
    some (.orEnd .reserving (resolveForwardRequest S request snapshot now current))
  | .reserving resolved, .reserve .granted => some (.reserved resolved)
  | .reserving _, .reserve .cancelled => some (.ended none)
  | .reserving _, .reserve .refused => some (.ended (some (gatewayUnavailable S.retryAfter)))
  | .reserved resolved, .resolveAgain now =>
    some (.orEnd (.pool · false) (resolveAgain S request resolved current now))
  | .reloaded resolved, .resolveAgain now =>
    some (.orEnd (.pool · true) (resolveAgain S request resolved current now))
  | _, _ => none

/-- Where `acquirePool` returns to. -/
def poolAcquired (resolved : Resolved) (retried : Bool) (state : PoolState) : Phase :=
  let limit := effectiveLimit resolved.client.priorityClass state resolved.client.maxConcurrency
  if retried then .attempt resolved true limit else .admission resolved limit

def poolMove (S : Service) (current : Snapshot) {χ : Type} : Phase → Move χ → Option Phase
  | .pool resolved retried, .readPool =>
    match currentAdmissionPool current resolved.client.id resolved.pool with
    | none => some (.ended (some (backendUnavailable S.retryAfter .poolUnavailable)))
    | some pool =>
      if S.coordinated = false ∧ 0 < pool.highPriorityReserve then
        some (.ended (some (gatewayUnavailable S.retryAfter)))
      else some (.poolRead resolved retried pool)
  | .poolRead resolved retried pool, .poolRuntime state totalWaiting =>
    if state = .unavailable then
      some (.ended (some (backendUnavailable S.retryAfter .poolUnavailable)))
    else if 0 < pool.maxWaiting ∧ (pool.maxWaiting : ℚ) ≤ totalWaiting then
      some (.ended (some (overloaded S.retryAfter .poolWaitingLimit)))
    else some (.poolReady resolved retried pool state)
  | .poolReady resolved retried pool state, .acquirePool ok =>
    -- only without a coordinator is a slot taken here
    if S.coordinated ∨ retried then none
    else if ok then some (.poolHeld resolved pool state)
    else some (.ended (some (overloaded S.retryAfter .poolInflightLimit)))
  | .poolReady resolved retried _ state, .validatePool _ =>
    if S.coordinated = false then none
    else
      match currentAdmissionPool current resolved.client.id resolved.pool with
      | none => some (.ended (some (backendUnavailable S.retryAfter .poolUnavailable)))
      | some _ => some (poolAcquired resolved retried state)
  | .poolHeld resolved pool state, .validatePool cancelled =>
    match currentAdmissionPool current resolved.client.id resolved.pool with
    | none => some (.ended (some (backendUnavailable S.retryAfter .poolUnavailable)))
    | some validated =>
      if validated.highPriorityReserve ≠ pool.highPriorityReserve ∨
          validated.maxGatewayInflight ≠ pool.maxGatewayInflight ∨
          validated.maxWaiting ≠ pool.maxWaiting then
        if cancelled then
          some (.ended (some (backendUnavailable S.retryAfter .poolUnavailable)))
        else some (.pool resolved false)
      else some (poolAcquired resolved false state)
  | _, _ => none

/-- `acquireForwardAdmission`, up to the call of the coordinator and after a failed reload. -/
def admissionMove (S : Service) (request : ForwardRequest) {χ : Type} :
    Phase → Move χ → Option Phase
  | .admission resolved _, .limiter ok =>
    if S.coordinated then none
    else if ok then some (.selecting resolved false [])
    else some (.ended (some (overloaded S.retryAfter .priorityConcurrencyLimit)))
  | .admission resolved limit, .coordination allowed ready =>
    if S.coordinated = false then none
    else if !allowed then some (.ended (some (gatewayUnavailable S.retryAfter)))
    else if !ready then some (.emergency resolved limit)
    else some (.attempt resolved false limit)
  | .attempt resolved retried limit, .buildRequest now leaseID startedAt =>
    -- the key is looked up in the snapshot the request was resolved from
    match validateAPIKeySnapshot S request.apiKey resolved.snapshot now with
    | .error e => some (.ended (some e))
    | .ok (client, key) =>
      some (.requested resolved retried limit
        (admissionRequest S request resolved client key limit leaseID startedAt))
  | .requested resolved retried limit req, .lock => some (.guarded resolved retried limit req)
  | .emergency resolved _, .emergency ok =>
    if ok then some (.selecting resolved false [])
    else some (.ended (some (gatewayUnavailable S.retryAfter)))
  | .reloading resolved limit, .load data =>
    match data.map Registry.indexData with
    | some (.ok candidate) => some (.publishing resolved limit candidate)
    | _ => some (.emergency resolved limit)
  | _, _ => none

/-- What becomes of the answer of the coordinator. -/
def decided (S : Service) (resolved : Resolved) (retried : Bool) (limit now : Int) :
    Except AcquireError AdmissionDecision → Phase
  | .error .permanent => .ended (some (gatewayUnavailable S.retryAfter))
  | .error .transient => .emergency resolved limit
  | .ok decision =>
    if decision.reason = some .staleConfiguration ∧ retried = false then .reloading resolved limit
    else if decision.reason = some .coordinationUnavailable then .emergency resolved limit
    else if decision.admitted then .selecting resolved false []
    else
      let apiErr := coordinationAPIError decision.reason S.retryAfter decision.retryAt now
      if decision.reason = some .concurrencyExhausted ∧ decision.concurrencyScope = some .pool then
        .ended (some { apiErr with decisionReason := some .poolInflightLimit })
      else .ended (some apiErr)

/-- The check under the read lock; when it fails the lock is released with the answer that
    the configuration is stale. -/
def checkMove (S : Service) (request : ForwardRequest) (current : Snapshot) {χ : Type} :
    Phase → Move χ → Option Phase
  | .guarded resolved retried limit req, .check now =>
    if configurationCurrent S request.apiKey req current now then
      some (.allocating resolved retried limit req now)
    else some (decided S resolved retried limit now (.ok { reason := some .staleConfiguration }))
  | _, _ => none

/-- `selectTarget` and what the proxy does with its target. -/
def targetMove (S : Service) (request : ForwardRequest) (current : Snapshot) {χ : Type} :
    Phase → Move χ → Option Phase
  | .selecting resolved retrying exclude, .select now choice =>
    match selectionCandidates S request.apiKey resolved.client resolved.pool current now with
    | .error e => some (.ended (some (e.apiError S retrying)))
    | .ok backends =>
      match choice.bind (backends[·]?) with
      | none => some (.ended (some (SelectError.noBackend.apiError S retrying)))
      | some backend =>
        if routable S exclude backend then some (.routed resolved retrying exclude backend)
        else none
  | .routed resolved retrying exclude backend, .acquireBackend ok =>
    if ok then some (.forwarding resolved retrying (targetOn S backend))
    else some (.selecting resolved retrying (backend.id :: exclude))
  | .forwarding resolved false target, .retry =>
    -- one retry, on another backend
    some (.selecting resolved true [target.backend.id])
  | .forwarding _ _ _, .finish error => some (.ended error)
  | _, _ => none

def tokenizeMove (S : Service) (request : ForwardRequest) (current : Snapshot) {χ : Type} :
    Phase → Move χ → Option Phase
  | .tokenizing, .tokenize now =>
    some (.orEnd .tokenStarted (startTokenization S request current now))
  | .tokenStarted t, .leaseTokenization answer =>
    -- the candidates and the coordinator's choice among them are in the answer
    if S.tokenizes then some (.orEnd (.tokenLeased t) answer)
    else some (.ended (some (tokenizationError 503 "coordination_unavailable" S.retryAfter)))
  | .tokenLeased t lease, .revalidate now healthy ready =>
    some (.orEnd (fun backend => .tokenForwarding (targetOn S backend))
      (revalidateTokenization S request t lease current now healthy ready))
  | .tokenForwarding _, .finish error => some (.ended error)
  | _, _ => none

/-- A move that reads the published snapshot at most. -/
def readingMove (S : Service) (request : ForwardRequest) (current : Snapshot) {χ : Type}
    (phase : Phase) (move : Move χ) : Option Phase :=
  (resolveMove S request current phase move).or <|
  (poolMove S current phase move).or <|
  (admissionMove S request phase move).or <|
  (checkMove S request current phase move).or <|
  (targetMove S request current phase move).or <|
  tokenizeMove S request current phase move

/-! ## Steps -/

inductive Label (χ ω : Type) where
  /-- a publisher, or a `Reload` that loads -/
  | registry (l : Registry.Label)
  /-- another call of the coordinator -/
  | coordinator (call : ω)
  | arrive (k : Nat) (request : ForwardRequest) (tokenize : Bool)
  | call (k : Nat) (move : Move χ)

/-- A step of the registry that takes the publication lock. -/
def publishes : Registry.Label → Bool
  | .load _ => false
  | .publish _ _ | .markKeyRevoked _ _ | .markKeyUsed _ _ | .markBackendDeleted _ => true

section Steps

variable {σ χ ω : Type} (A : Allocator σ χ ω) (S : Service)

def advance (w : World σ) (call : Call) : Move χ → Option (World σ × Phase)
  | .acquire choice now answeredAt =>
    match call.phase with
    | .allocating resolved retried limit req _ =>
      let (coordinator, answer) := A.acquire w.coordinator choice now req
      some ({ w with coordinator := coordinator },
        decided S resolved retried limit answeredAt answer)
    | _ => none
  | .publish order =>
    match call.phase with
    | .publishing resolved _ candidate =>
      if w.readers = 0 ∧ w.current.Ordered order then
        some
          ({ w with
              registry :=
                { w.registry with
                  current := Registry.publishReload order candidate w.current } },
            .reloaded resolved)
      else none
    | _ => none
  | move => (readingMove S call.request w.current call.phase move).map fun phase => (w, phase)

def next (w : World σ) : Label χ ω → Option (World σ)
  | .registry l =>
    if publishes l = true ∧ w.readers ≠ 0 then none
    else (Registry.next w.registry l).map fun registry => { w with registry := registry }
  | .coordinator call => some { w with coordinator := A.other w.coordinator call }
  | .arrive k request tokenize =>
    if w.calls.lookup k = none then
      some { w with
        calls := w.calls.insert k
          { request := request, phase := if tokenize then .tokenizing else .arrived } }
    else none
  | .call k move =>
    match w.calls.lookup k with
    | none => none
    | some call =>
      (advance A S w call move).map fun (w, phase) =>
        { w with calls := w.calls.insert k { call with phase := phase } }

/-- The gateway, from a new registry and a given state of the coordinator. -/
def gateway (coordinator : σ) : System (World σ) (Label χ ω) where
  init := fun w => w = { registry := Registry.newRegistry, coordinator := coordinator, calls := ∅ }
  step := fun w l w' => next A S w l = some w'

end Steps

/-! ## Publications -/

section Publications

variable {σ χ ω : Type} {A : Allocator σ χ ω} {S : Service} {w w' : World σ}

/-- What is loaded is not published yet. -/
theorem current_of_not_publishes {r r' : State} {l : Registry.Label}
    (hl : ¬publishes l = true) (h : Registry.next r l = some r') : r'.current = r.current := by
  cases l with
  | load data =>
    rcases data with _ | data
    · cases h
      rfl
    simp only [Registry.next] at h
    cases hindex : Registry.indexData data with
    | error e | ok snapshot =>
      rw [hindex] at h
      cases h
      rfl
  | publish | markKeyRevoked | markKeyUsed | markBackendDeleted => exact absurd rfl hl

/-- What a move of a request does outside the request. -/
theorem advance_publishes {call : Call} {move : Move χ} {phase : Phase}
    (h : advance A S w call move = some (w', phase)) :
    w'.calls = w.calls ∧
      (w'.current = w.current ∨
        w.readers = 0 ∧ Registry.Publication w.current w'.current) := by
  unfold advance at h
  split at h
  · -- the coordinator is called
    split at h <;> cases h
    exact ⟨rfl, .inl rfl⟩
  · -- a `Reload` publishes
    split at h
    · next resolved limit candidate hphase =>
      obtain ⟨⟨hreaders, horder⟩, heq⟩ := Option.ite_none_right_eq_some.mp h
      cases heq
      refine ⟨rfl, ?_⟩
      rcases Registry.publishReload_cases candidate horder with hsame | hpublication
      · exact .inl hsame
      · exact .inr ⟨hreaders, hpublication⟩
    · cases h
  · obtain ⟨next, hnext, heq⟩ := Option.map_eq_some_iff.mp h
    cases heq
    exact ⟨rfl, .inl rfl⟩

/-- **Publication rule**: a step leaves the published snapshot as it is, or it is one
    publication and no request holds the read lock. -/
theorem next_publishes {l : Label χ ω} (h : next A S w l = some w') :
    w'.current = w.current ∨ w.readers = 0 ∧ Registry.Publication w.current w'.current := by
  cases l with
  | registry l =>
    obtain ⟨hlock, hmap⟩ := Option.ite_none_left_eq_some.mp h
    obtain ⟨registry, hnext, rfl⟩ := Option.map_eq_some_iff.mp hmap
    by_cases hpublishes : publishes l = true
    · have hreaders : w.readers = 0 := by
        by_contra hne
        exact hlock ⟨hpublishes, hne⟩
      exact (Registry.next_publishes hnext).imp_right fun hp => ⟨hreaders, hp⟩
    · exact .inl (current_of_not_publishes hpublishes hnext)
  | coordinator call =>
    cases h
    exact .inl rfl
  | arrive k request tokenize =>
    obtain ⟨-, heq⟩ := Option.ite_none_right_eq_some.mp h
    cases heq
    exact .inl rfl
  | call k move =>
    simp only [next] at h
    cases hk : w.calls.lookup k with
    | none =>
      rw [hk] at h
      cases h
    | some call =>
      rw [hk] at h
      obtain ⟨⟨moved, phase⟩, hadvance, rfl⟩ := Option.map_eq_some_iff.mp h
      exact (advance_publishes hadvance).2

end Publications

/-! ## A gateway with one of everything -/

def oneSecret : Bytes := ofText "llmgw_abcdef"

def oneService : Service where
  verify := fun raw hash => decide (raw = oneSecret ∧ hash = 7)
  replicaID := 1
  leaseTTL := 90
  retryAfter := 2
  coordinated := true
  tokenizes := true

/-- A key that expires at 100. -/
def oneData (revision : Int) : Data where
  revision := revision
  clients := [{
    id := 1, revision := 1, name := [], enabled := true, priorityClass := .critical
    vllmPriority := 0, maxConcurrency := 2, requestsPerMinute := 0, tokensPerMinute := 0 }]
  keys :=
    [{ id := 1, clientID := 1, keyPrefix := oneSecret, secretHash := 7, expiresAt := some 100 }]
  pools := [{
    id := 1, revision := 1, publicModelName := ofText "m"
    upstreamModelName := ofText "m", enabled := true, maxGatewayInflight := 2
    highPriorityReserve := 0, maxWaiting := 0 }]
  access := [{ clientID := 1, modelPoolID := 1, enabled := true }]
  backends := [{
    id := 1, revision := 1, modelPoolID := 1, name := [], baseURL := [], enabled := true
    draining := false }]

def oneRequest : ForwardRequest where
  method := ofText "POST"
  path := ofText "/v1/completions"
  headers := ∅
  body := ofText "\x7b\"model\":\"m\"\x7d"
  apiKey := oneSecret
  requestID := "r"
  parentRequestID := ""

/-- The data is published, and a request goes as far as the check under the read lock, at
    the reading 10. -/
def untilChecked {χ ω : Type} : List (Label χ ω) :=
  [.registry (.load (some (oneData 1))), .registry (.publish 0 []), .arrive 0 oneRequest false,
    .call 0 (.authenticate 10), .call 0 .resolve, .call 0 (.reserve .granted),
    .call 0 (.resolveAgain 10), .call 0 .readPool, .call 0 (.poolRuntime .normal 0),
    .call 0 (.validatePool false), .call 0 (.coordination true true),
    .call 0 (.buildRequest 10 1 10), .call 0 .lock, .call 0 (.check 10)]

end Gateway
