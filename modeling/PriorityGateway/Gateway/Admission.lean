import PriorityGateway.Gateway.Service
import PriorityGateway.Pressure.PoolMachine
import PriorityGateway.Registry.Publication

/-! # Admission and Target Selection

    What the service checks against the published snapshot on the way of a
    request to a backend.  Each check is a function of one snapshot and one
    reading of the clock; when the snapshot is read, and what may be published
    in between, is the business of the request system.

    * `configurationCurrent` is the check of `acquireConfiguredAdmission`.
    * `selectionCandidates` is what `selectTarget` does before it routes.
    * `revalidateTokenization` is the second look of `Tokenize`.

    Counters in memory, the health of backends and the choice of the router
    come in from outside.  Fractions are rational numbers. -/

namespace Gateway

open Coordination (PriorityClass UUID AdmissionRequest)
open Registry (Snapshot Client APIKey ModelPool Backend)
open Pressure (PoolState)

/-! ## Limits -/

def admittedFraction (priority : PriorityClass) : PoolState → ℚ
  | .normal => 1
  | .busy => if priority = .background then 1 / 2 else 1
  | .saturated =>
    match priority with
    | .critical | .high => 1
    | .normal => 1 / 2
    | _ => 0
  | .emergency =>
    match priority with
    | .critical => 1
    | .high => 1 / 2
    | _ => 0
  | .unavailable => 0

def effectiveLimit (priority : PriorityClass) (state : PoolState) (maximum : Int) : Int :=
  if maximum ≤ 0 then 0
  else
    let limit := ⌊(maximum : ℚ) * admittedFraction priority state⌋
    if limit < 0 then 0 else if maximum < limit then maximum else limit

/-- `currentAdmissionPool`, when it is valid. -/
def currentAdmissionPool (snapshot : Snapshot) (clientID : Int) (original : ModelPool) :
    Option ModelPool :=
  match snapshot.poolsByID.lookup original.id, snapshot.clients.lookup clientID with
  | some pool, some client =>
    if pool.enabled ∧ pool.publicModelName = original.publicModelName ∧
        pool.upstreamModelName = original.upstreamModelName ∧ client.enabled ∧
        snapshot.allows clientID pool.id then
      some pool
    else none
  | _, _ => none

/-! ## The admission request -/

/-- The request of one attempt of `acquireForwardAdmission`. -/
def admissionRequest (S : Service) (request : ForwardRequest) (resolved : Resolved)
    (client : Client) (key : APIKey) (limit : Int) (leaseID : UUID) (startedAt : Int) :
    AdmissionRequest where
  leaseID := leaseID
  operationStartedAt := startedAt
  requestID := request.requestID
  replicaID := S.replicaID
  configurationRevision := resolved.snapshot.revision
  apiKeyID := key.id
  clientID := client.id
  poolID := resolved.pool.id
  clientPolicyRevision := client.revision
  effectiveClientLimit := limit
  configuredClientLimit := client.maxConcurrency
  poolGatewayInflightLimit := resolved.pool.maxGatewayInflight
  poolHighPriorityReserve := resolved.pool.highPriorityReserve
  priorityClass := client.priorityClass
  requestsPerMinute := client.requestsPerMinute
  tokensPerMinute := client.tokensPerMinute
  leaseTTL := S.leaseTTL

/-- The snapshot is the one the request was made from, as far as the request tells. -/
def configurationCurrent (S : Service) (raw : Bytes) (req : AdmissionRequest)
    (current : Snapshot) (now : Int) : Bool :=
  match validateAPIKeySnapshot S raw current now, current.poolsByID.lookup req.poolID with
  | .ok (client, key), some pool =>
    decide (current.revision = req.configurationRevision ∧ key.id = req.apiKeyID ∧
      client.id = req.clientID ∧ client.priorityClass = req.priorityClass ∧
      client.revision = req.clientPolicyRevision ∧ pool.enabled = true ∧
      current.allows req.clientID req.poolID = true ∧
      pool.maxGatewayInflight = req.poolGatewayInflightLimit ∧
      pool.highPriorityReserve = req.poolHighPriorityReserve)
  | _, _ => false

/-! ## Targets -/

/-- Why `selectTarget` finds no target. -/
inductive SelectError where
  /-- "API key became invalid while request was waiting" -/
  | apiKeyBecameInvalid
  /-- "no eligible backend" -/
  | noBackend
  deriving DecidableEq, Repr

/-- What `Forward` makes of it, for the first target and for the one of a retry. -/
def SelectError.apiError (S : Service) (retrying : Bool) : SelectError → APIError
  | .apiKeyBecameInvalid => invalidAPIKey
  | .noBackend =>
    if retrying then upstreamError else backendUnavailable S.retryAfter .noEligibleBackend

/-- One round of `selectTarget` up to the router: the backends of the pool, if the key, the
    client and the pool are still what they were. -/
def selectionCandidates (S : Service) (raw : Bytes) (client : Client) (pool : ModelPool)
    (current : Snapshot) (now : Int) : Except SelectError (List Backend) :=
  match validateAPIKeySnapshot S raw current now with
  | .error _ => .error .apiKeyBecameInvalid
  | .ok (currentClient, _) =>
    if currentClient.id ≠ client.id then .error .apiKeyBecameInvalid
    else
      match current.poolsByID.lookup pool.id with
      | none => .error .noBackend
      | some currentPool =>
        if currentPool.enabled ∧ currentPool.publicModelName = pool.publicModelName ∧
            currentPool.upstreamModelName = pool.upstreamModelName ∧
            (current.clients.lookup client.id).isSome ∧ currentClient.enabled ∧
            current.allows client.id pool.id then
          .ok ((current.backendsByPool.lookup pool.id).getD [])
        else .error .noBackend

/-- The router picks from these only, whatever the health of the backends. -/
def routable (S : Service) (exclude : List Int) (backend : Backend) : Bool :=
  backend.enabled && !backend.draining && (upstreamSecret S backend).2 &&
    decide (backend.id ∉ exclude)

def targetOn (S : Service) (backend : Backend) : Target where
  backend := backend
  upstreamAPIKey := (upstreamSecret S backend).1

/-! ## Tokenization -/

/-- What `Tokenize` knows after its first look. -/
structure Tokenizing where
  snapshot : Snapshot
  client : Client
  key : APIKey
  pool : ModelPool
  body : Bytes

structure TokenizationLease where
  clientID : Int
  poolID : Int
  backendID : Int
  backendRevision : Int
  deriving DecidableEq, Repr

def tokenizationError (status : Nat) (reason : String) (retry : Int) : APIError where
  httpStatus := status
  message := "Tokenization request could not be completed"
  type := if status = 429 then "rate_limit_error" else "server_error"
  code := "tokenization_" ++ reason
  retryAfter := retry

/-- The part of `tokenizationEligible` that the configuration decides. -/
def tokenizationConfigured (S : Service) (backend : Backend) : Bool :=
  backend.enabled && !backend.draining && (upstreamSecret S backend).2

/-- The first look of `Tokenize` -/
def startTokenization (S : Service) (request : ForwardRequest) (snapshot : Snapshot) (now : Int) :
    Except APIError Tokenizing := do
  let (client, key) ← validateAPIKeySnapshot S request.apiKey snapshot now
  let (body, model) ← (rewritePayload request.body).mapError invalidRequest
  match snapshot.poolsByName.lookup model with
  | none => .error modelNotAllowed
  | some pool =>
    if pool.enabled ∧ snapshot.allows client.id pool.id then
      .ok { snapshot := snapshot, client := client, key := key, pool := pool, body := body }
    else .error modelNotAllowed

/-- The second look of `Tokenize`, with a lease in hand: the backend it may use.  `healthy`
    and `ready` are what the runtime and the coordination say at this moment. -/
def revalidateTokenization (S : Service) (request : ForwardRequest) (t : Tokenizing)
    (lease : TokenizationLease) (current : Snapshot) (now : Int) (healthy ready : Bool) :
    Except APIError Backend :=
  let stale := tokenizationError 503 "stale_configuration" S.retryAfter
  match validateAPIKeySnapshot S request.apiKey current now with
  | .error e => .error e
  | .ok (_, currentKey) =>
    match current.backendsByID.lookup lease.backendID,
      t.snapshot.backendsByID.lookup lease.backendID with
    | some backend, some expected =>
      if current.revision = t.snapshot.revision ∧
          current.poolsByID.lookup t.pool.id = some t.pool ∧ currentKey.id = t.key.id ∧
          current.allows t.client.id t.pool.id ∧ backend = expected ∧
          backend.revision = lease.backendRevision ∧ backend.modelPoolID = t.pool.id ∧
          lease.clientID = t.client.id ∧ lease.poolID = t.pool.id ∧
          tokenizationConfigured S backend ∧ healthy ∧ ready then
        match replaceModel t.body t.pool.upstreamModelName with
        | none => .error (invalidRequest "Failed to encode upstream model")
        | some _ => .ok backend
      else .error stale
    | _, _ => .error stale

/-! ## What a valid key is -/

variable {key : APIKey} {raw : Bytes} {verify : Bytes → Nat → Bool} {snapshot : Snapshot}
  {S : Service}

theorem foldl_matchKey (candidates : List APIKey)
    (matched : Option APIKey) (h : candidates.foldl (fun matched candidate =>
      if verify raw candidate.secretHash then some candidate else matched) matched = some key) :
    matched = some key ∨ (key ∈ candidates ∧ verify raw key.secretHash = true) := by
  induction candidates generalizing matched with
  | nil => exact .inl h
  | cons candidate candidates ih =>
    rcases ih _ h with hmatched | ⟨hmem, hverify⟩
    · dsimp only at hmatched
      by_cases hcandidate : verify raw candidate.secretHash = true
      · rw [if_pos hcandidate] at hmatched
        obtain rfl := Option.some.inj hmatched
        exact .inr ⟨List.mem_cons_self, hcandidate⟩
      · rw [if_neg hcandidate] at hmatched
        exact .inl hmatched
    · exact .inr ⟨List.mem_cons_of_mem _ hmem, hverify⟩

/-- The snapshot has this key for the secret, unrevoked and unexpired at the reading, and
    this enabled client for the key. -/
structure ValidKey (S : Service) (raw : Bytes) (snapshot : Snapshot) (now : Int)
    (client : Client) (key : APIKey) : Prop where
  published : key ∈ snapshot.keys
  presented : S.verify raw key.secretHash = true
  unrevoked : key.revokedAt = none
  unexpired : expired key now = false
  owner : snapshot.clients.lookup key.clientID = some client
  enabled : client.enabled = true

theorem validateAPIKeySnapshot_ok {now : Int}
    {client : Client} (h : validateAPIKeySnapshot S raw snapshot now = .ok (client, key)) :
    ValidKey S raw snapshot now client key := by
  unfold validateAPIKeySnapshot at h
  split at h
  · cases h
  rcases hmatch : matchKey S.verify raw ((snapshot.keyCandidates.lookup (raw.take 12)).getD [])
    with _ | matched
  · rw [hmatch] at h
    cases h
  rw [hmatch] at h
  simp only at h
  split at h
  · cases h
  next hvalid =>
  rw [not_or, not_not, Bool.not_eq_true] at hvalid
  rcases hclient : snapshot.clients.lookup matched.clientID with _ | owner
  · rw [hclient] at h
    cases h
  rw [hclient] at h
  simp only at h
  split at h <;> cases h
  next henabled =>
  obtain ⟨hmem, hverify⟩ := (foldl_matchKey _ none hmatch).resolve_left nofun
  have hkeys : key ∈ snapshot.keys := by
    cases hcandidates : snapshot.keyCandidates.lookup (raw.take 12) with
    | none =>
      rw [hcandidates] at hmem
      cases hmem
    | some keys =>
      rw [hcandidates] at hmem
      exact Registry.mem_keys.mpr ⟨_, keys, hcandidates, hmem⟩
  exact ⟨hkeys, hverify, hvalid.1, hvalid.2, hclient, henabled⟩

theorem validateAPIKeySnapshot_revoked {id now : Int}
    (honly : ∀ key ∈ snapshot.keys, S.verify raw key.secretHash = true → key.id = id)
    (hrevoked : snapshot.ShowsRevoked id) :
    ∃ e, validateAPIKeySnapshot S raw snapshot now = .error e := by
  cases h : validateAPIKeySnapshot S raw snapshot now with
  | error e => exact ⟨e, rfl⟩
  | ok found =>
    obtain ⟨client, key⟩ := found
    have hvalid := validateAPIKeySnapshot_ok h
    have hid := honly key hvalid.published hvalid.presented
    exact absurd hvalid.unrevoked (hrevoked key hvalid.published hid)

end Gateway
