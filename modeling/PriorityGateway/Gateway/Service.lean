import PriorityGateway.Framework.Json
import PriorityGateway.Proxy.Headers
import PriorityGateway.Registry.Snapshot

/-! # The Gateway Service

    What the service computes from a request and a snapshot, without anything
    that happens in between: who the request is from, which pool it is for,
    what body and which headers go upstream, and which errors end it.

    A Go string is its bytes.  The texts of errors and the ids of requests are
    only passed on. -/

namespace Gateway

open Coordination (PriorityClass Reason UUID AdmissionRequest timeSub)
open Registry (Snapshot Client APIKey ModelPool Backend)
open Proxy (Header)
open Bytes (ofText)

/-! ## Errors -/

inductive DecisionReason where
  | poolWaitingLimit
  | poolInflightLimit
  | poolPriorityReserve
  | priorityConcurrencyLimit
  | poolUnavailable
  | noEligibleBackend
  | gatewayBackpressure
  | modelNotAllowed
  | invalidRequest
  | invalidAPIKey
  | upstreamFailure
  deriving DecidableEq, Repr

structure APIError where
  httpStatus : Nat
  message : String
  type : String
  code : String
  retryAfter : Int := 0
  decisionReason : Option DecisionReason := none
  deriving DecidableEq, Repr

def invalidAPIKey : APIError where
  httpStatus := 401
  message := "Invalid API key"
  type := "authentication_error"
  code := "invalid_api_key"
  decisionReason := some .invalidAPIKey

def invalidRequest (message : String) : APIError where
  httpStatus := 400
  message := message
  type := "invalid_request_error"
  code := "invalid_request_error"
  decisionReason := some .invalidRequest

def modelNotAllowed : APIError where
  httpStatus := 403
  message := "The requested model is not available to this client"
  type := "invalid_request_error"
  code := "model_not_allowed"
  decisionReason := some .modelNotAllowed

def overloaded (retryAfter : Int) (reason : DecisionReason) : APIError where
  httpStatus := 429
  message := "Inference cluster is currently overloaded"
  type := "rate_limit_error"
  code := "gateway_overloaded"
  retryAfter := retryAfter
  decisionReason := some reason

def backendUnavailable (retryAfter : Int) (reason : DecisionReason) : APIError where
  httpStatus := 503
  message := "No healthy inference backend is currently available"
  type := "server_error"
  code := "backend_unavailable"
  retryAfter := retryAfter
  decisionReason := some reason

def gatewayUnavailable (retryAfter : Int) : APIError where
  httpStatus := 503
  message := "The gateway is temporarily unable to accept requests"
  type := "server_error"
  code := "gateway_unavailable"
  retryAfter := retryAfter
  decisionReason := some .gatewayBackpressure

def upstreamError : APIError where
  httpStatus := 502
  message := "The inference backend could not complete the request"
  type := "server_error"
  code := "upstream_error"
  decisionReason := some .upstreamFailure

def rateLimited (code : String) (retryAfter : Int) : APIError where
  httpStatus := 429
  message := "Rate limit exceeded"
  type := "rate_limit_exceeded"
  code := code
  retryAfter := retryAfter

def coordinationAPIError (reason : Option Reason) (retryAfter : Int) (retryAt : Option Int)
    (now : Int) : APIError :=
  let retryAfter :=
    match retryAt with
    | some at' => if 0 < timeSub at' now then timeSub at' now else retryAfter
    | none => retryAfter
  match reason with
  | some .rpmExhausted => rateLimited "rpm_exhausted" retryAfter
  | some .tpmExhausted => rateLimited "tpm_exhausted" retryAfter
  | some .poolPriorityReserve => overloaded retryAfter .poolPriorityReserve
  | some .concurrencyExhausted => overloaded retryAfter .priorityConcurrencyLimit
  | _ => gatewayUnavailable retryAfter

/-! ## Keys -/

/-- What the service is configured with. -/
structure Service where
  /-- `apikey.Verify` under the service's secret -/
  verify : Bytes → Nat → Bool
  replicaID : UUID
  leaseTTL : Int
  retryAfter : Int
  /-- an admission coordinator is configured -/
  coordinated : Bool
  /-- `lookupEnv` -/
  lookupEnv : Bytes → Option Bytes := fun _ => none
  /-- tokenization has a coordinator, a forwarder and a valid policy -/
  tokenizes : Bool := false

/-- The last candidate that the key verifies against. -/
def matchKey (verify : Bytes → Nat → Bool) (raw : Bytes) (candidates : List APIKey) :
    Option APIKey :=
  candidates.foldl
    (fun matched candidate => if verify raw candidate.secretHash then some candidate else matched)
    none

/-- `!expiresAt.After(now)` -/
def expired (key : APIKey) (now : Int) : Bool :=
  match key.expiresAt with
  | none => false
  | some at' => decide (at' ≤ now)

def validateAPIKeySnapshot (S : Service) (raw : Bytes) (snapshot : Snapshot) (now : Int) :
    Except APIError (Client × APIKey) :=
  if raw.length < 12 ∨ ¬ (ofText "llmgw_").isPrefixOf raw then .error invalidAPIKey
  else
    match matchKey S.verify raw ((snapshot.keyCandidates.lookup (raw.take 12)).getD []) with
    | none => .error invalidAPIKey
    | some matched =>
      if matched.revokedAt ≠ none ∨ expired matched now then .error invalidAPIKey
      else
        match snapshot.clients.lookup matched.clientID with
        | none => .error invalidAPIKey
        | some client => if client.enabled then .ok (client, matched) else .error invalidAPIKey

def upstreamSecret (S : Service) (backend : Backend) : Bytes × Bool :=
  if backend.upstreamAPIKeyEnv = [] then ([], true)
  else
    match S.lookupEnv backend.upstreamAPIKeyEnv with
    | none => ([], false)
    | some secret => (secret, secret ≠ [])

/-! ## Session affinity -/

def maxSessionAffinityIDBytes : Nat := 256

/-- From an explicit override to the aliases of providers. -/
def sessionAffinityHeaders : List String :=
  ["X-LLM-Session-Id", "X-Opencode-Session", "X-Claude-Code-Session-Id", "Session-Id",
    "Session_id", "X-Session-Affinity", "X-Session-Id"]

def piSessionAffinityFallbackHeader : String := "X-Client-Request-Id"

/-- Lower case, as far as it can be told from ASCII: `U+0130` and `U+212A` are the characters
    beyond ASCII whose lower case is an ASCII letter. -/
def toLower : Bytes → Bytes
  | 0xC4 :: 0xB0 :: rest => 105 :: toLower rest
  | 0xE2 :: 0x84 :: 0xAA :: rest => 107 :: toLower rest
  | c :: rest => (if 65 ≤ c && c ≤ 90 then c + 32 else c) :: toLower rest
  | [] => []

def isPiCodingAgent (headers : Header) : Bool :=
  (ofText "pi (").isPrefixOf
    (toLower (Bytes.trimSpace (Header.get headers (ofText "User-Agent"))))

/-- One value of a session header, after the identifier found so far. -/
def validateSessionValue (name : String) (identifier raw : Bytes) : Except APIError Bytes :=
  let value := Bytes.trimSpace raw
  if maxSessionAffinityIDBytes < value.length then
    .error (invalidRequest (name ++ " must not exceed 256 bytes"))
  else if value = [] then .ok identifier
  else if identifier ≠ [] ∧ identifier ≠ value then
    .error (invalidRequest (name ++ " must not contain conflicting session identifiers"))
  else .ok value

def validatedSessionAffinityHeader (headers : Header) (name : String) : Except APIError Bytes :=
  (Header.values headers (ofText name)).foldlM (validateSessionValue name) []

/-- The first identifier counts, but every header is validated. -/
def selectSession (headers : Header) (selected : Bytes) (name : String) :
    Except APIError Bytes := do
  let identifier ← validatedSessionAffinityHeader headers name
  .ok (if selected = [] then identifier else selected)

def sessionAffinityID (headers : Header) : Except APIError Bytes := do
  let selected ← sessionAffinityHeaders.foldlM (selectSession headers) []
  if isPiCodingAgent headers then selectSession headers selected piSessionAffinityFallbackHeader
  else .ok selected

def stripSessionAffinityHeaders (headers : Header) : Header :=
  let headers := sessionAffinityHeaders.foldl (fun h name => Header.del h (ofText name)) headers
  if isPiCodingAgent headers then
    Header.del headers (ofText piSessionAffinityFallbackHeader)
  else headers

/-! ## Payloads -/

def maxPublicModelNameBytes : Nat := 256

/-- `rewritePayload`: the body without its priority, and the model it asks for. -/
def rewritePayload (body : Bytes) : Except String (Bytes × Bytes) :=
  match Json.unmarshalObject body with
  | none | some none => .error "request body must be a JSON object"
  | some (some payload) =>
    match payload.lookup (ofText "model") with
    | none => .error "model is required"
    | some encodedModel =>
      match Json.unmarshalString encodedModel with
      | none => .error "model must be a non-empty string"
      | some model =>
        if Bytes.trimSpace model = [] then .error "model must be a non-empty string"
        else if maxPublicModelNameBytes < model.length then
          .error "model must not exceed 256 bytes"
        else .ok (Json.marshalObject (payload.erase (ofText "priority")), model)

/-- `replaceModel`; an entry of the absent object cannot be assigned. -/
def replaceModel (body model : Bytes) : Option Bytes := do
  let payload ← Json.unmarshalObject body
  let payload ← payload
  some (Json.marshalObject (payload.insert (ofText "model") [.text (Json.quote model)]))

def streams (payload : Json.Object) : Bool :=
  match payload.lookup (ofText "stream") with
  | none => false
  | some encodedStream => (Json.unmarshalBool encodedStream).getD false

/-- The options of the stream that the payload has, or new ones. -/
def streamOptions (payload : Json.Object) : Json.Object :=
  match payload.lookup (ofText "stream_options") with
  | none => ∅
  | some encodedOptions => ((Json.unmarshalObjectValue encodedOptions).getD none).getD ∅

def forceStreamingUsage (body path : Bytes) : Option Bytes :=
  if path ≠ ofText "/v1/chat/completions" ∧ path ≠ ofText "/v1/completions" then
    some body
  else do
    let payload ← Json.unmarshalObject body
    let payload := payload.getD ∅
    if !streams payload then some body
    else
      let options := (streamOptions payload).insert (ofText "include_usage")
        [.word (ofText "true")]
      some (Json.marshalObject
        (payload.insert (ofText "stream_options") (Json.objectTokens options)))

/-! ## Inference requests -/

structure ForwardRequest where
  method : Bytes
  path : Bytes
  headers : Header
  body : Bytes
  apiKey : Bytes
  requestID : String
  parentRequestID : String

structure Resolved where
  client : Client
  pool : ModelPool
  snapshot : Snapshot
  payload : Bytes
  publicModel : Bytes
  sessionID : Bytes
  affinityKey : Bytes := []

/-- `resolveForwardRequest`, which reads the snapshot twice: to authenticate and to find the
    pool. -/
def resolveForwardRequest (S : Service) (request : ForwardRequest) (authenticated : Snapshot)
    (now : Int) (snapshot : Snapshot) : Except APIError Resolved := do
  let (client, _) ← validateAPIKeySnapshot S request.apiKey authenticated now
  let sessionID ← sessionAffinityID request.headers
  let (payload, publicModel) ← (rewritePayload request.body).mapError invalidRequest
  match snapshot.poolsByName.lookup publicModel with
  | none => .error modelNotAllowed
  | some pool =>
    .ok
      { client := client, pool := pool, snapshot := snapshot, payload := payload
        publicModel := publicModel, sessionID := sessionID }

/-- The key under which the backend of a session is remembered. -/
def affinityKey (client : Client) (pool : ModelPool) (sessionID : Bytes) : Bytes :=
  Bytes.ofInt client.id ++ [0] ++ Bytes.ofInt pool.id ++ [0] ++ sessionID

def prepareForwardPayload (request : ForwardRequest) (resolved : Resolved) :
    Except APIError Resolved :=
  if ¬ resolved.pool.enabled ∨ ¬ resolved.snapshot.allows resolved.client.id resolved.pool.id then
    .error modelNotAllowed
  else
    match forceStreamingUsage resolved.payload request.path with
    | none => .error (invalidRequest "Failed to encode the upstream request")
    | some payload =>
      match replaceModel payload resolved.pool.upstreamModelName with
      | none => .error (invalidRequest "Failed to encode the upstream model")
      | some payload =>
        .ok
          { resolved with
            payload := payload
            affinityKey :=
              if resolved.sessionID ≠ [] then
                affinityKey resolved.client resolved.pool resolved.sessionID
              else resolved.affinityKey }

/-- Identity and policy are resolved again from one current snapshot: after the reservation,
    and after a reload of the configuration. -/
def resolveAgain (S : Service) (request : ForwardRequest) (resolved : Resolved)
    (current : Snapshot) (now : Int) : Except APIError Resolved := do
  let (client, _) ← validateAPIKeySnapshot S request.apiKey current now
  match current.poolsByName.lookup resolved.publicModel with
  | none => .error modelNotAllowed
  | some pool =>
    prepareForwardPayload request
      { resolved with client := client, pool := pool, snapshot := current }

/-- `proxy.Target`, without its completion. -/
structure Target where
  backend : Backend
  upstreamAPIKey : Bytes

/-- `proxy.Request`, without the way to another target. -/
structure ProxyRequest where
  method : Bytes
  path : Bytes
  headers : Header
  body : Bytes
  requestID : String
  priority : Int
  target : Target

/-- The headers that `Forward` passes on. -/
def forwardedHeaders (headers : Header) : Header :=
  let headers := Header.del headers (ofText "X-Vllm-Priority")
  let headers := stripSessionAffinityHeaders headers
  Header.del headers (ofText "Authorization")

/-- What `Forward` hands to the forwarder. -/
def proxyRequest (request : ForwardRequest) (resolved : Resolved) (target : Target) :
    ProxyRequest where
  method := request.method
  path := request.path
  headers := forwardedHeaders request.headers
  body := resolved.payload
  requestID := request.requestID
  priority := resolved.client.vllmPriority
  target := target

/-- The headers of the upstream request, as `forwardOnce` sets them. -/
def ProxyRequest.upstreamHeaders (r : ProxyRequest) : Header :=
  Proxy.prepareUpstreamHeaders r.headers (ofText r.requestID) r.priority
    r.target.upstreamAPIKey

theorem stripSessionAffinityHeaders_eq (h : Header) :
    stripSessionAffinityHeaders h
      = if isPiCodingAgent ((sessionAffinityHeaders.map ofText).foldl Header.del h) then
          Header.del ((sessionAffinityHeaders.map ofText).foldl Header.del h)
            (ofText piSessionAffinityFallbackHeader)
        else (sessionAffinityHeaders.map ofText).foldl Header.del h := by
  rfl

theorem canonical_stripSessionAffinityHeaders {h : Header} (hc : h.Canonical) :
    (stripSessionAffinityHeaders h).Canonical := by
  have hdels := hc.foldl_del (sessionAffinityHeaders.map ofText)
  rw [stripSessionAffinityHeaders_eq]
  split
  · exact hdels.del _
  · exact hdels

theorem canonical_forwardedHeaders {h : Header} (hc : h.Canonical) :
    (forwardedHeaders h).Canonical :=
  (canonical_stripSessionAffinityHeaders (hc.del _)).del _

/-! ## Tokenization requests -/

structure TokenizationRequest where
  headers : Header
  body : Bytes
  requestID : String
  backend : Backend
  upstreamAPIKey : Bytes

/-- What `Tokenize` hands to the forwarder: the client's headers as they are. -/
def tokenizationRequest (S : Service) (request : ForwardRequest) (backend : Backend)
    (body : Bytes) : TokenizationRequest where
  headers := request.headers
  body := body
  requestID := request.requestID
  backend := backend
  upstreamAPIKey := (upstreamSecret S backend).1

/-- The headers of the upstream request, as `Tokenize` of the proxy sets them. -/
def TokenizationRequest.upstreamHeaders (r : TokenizationRequest) : Header :=
  Proxy.prepareTokenizationHeaders r.headers (ofText r.requestID) r.upstreamAPIKey

end Gateway
