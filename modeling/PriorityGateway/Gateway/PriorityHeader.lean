import PriorityGateway.Framework.System
import PriorityGateway.Gateway.Service

/-! # A Client Cannot Choose Its Priority

    vLLM takes the priority of a request from the `X-Vllm-Priority` header
    that the gateway sets.  A client could try to send one of its own, or to
    put a `priority` member into the body, in any spelling and as often as it
    likes.

    Two requests that differ in nothing but such attempts are compared.  The
    relation `AgreeOff` between their headers is kept by every operation of
    the forwarding path and shrinks to `Content-Length`; the bodies are equal
    from `rewritePayload` on, because the object that is written out has
    forgotten the key. -/

namespace Gateway

open Coordination (PriorityClass)
open Registry (Snapshot Client APIKey ModelPool)
open Proxy (Header canonicalHeaderKey hop prepareUpstreamHeaders)
open Bytes (ofText ofInt)
open Json (store Member)

/-! ## Requests that differ in their priority -/

def xVllmPriority : Bytes := ofText "X-Vllm-Priority"

def authorization : Bytes := ofText "Authorization"

def contentLength : Bytes := ofText "Content-Length"

/-- The members of a body that is a JSON object. -/
def bodyMembers (body : Bytes) : Option (List Member) := (Json.parse body).bind Json.members

/-- The members that do not spell `priority`. -/
def withoutPriority (ms : List Member) : List Member :=
  ms.filter fun m => Json.unquote m.key ≠ ofText "priority"

/-- The headers are the same except under these keys. -/
def AgreeOff (aside : List Bytes) (h₁ h₂ : Header) : Prop :=
  ∀ key ∉ aside, h₁.lookup key = h₂.lookup key

/-- Two requests that differ only in what should not matter. -/
structure DifferInPriority (r₁ r₂ : ForwardRequest) : Prop where
  method : r₁.method = r₂.method
  path : r₁.path = r₂.path
  apiKey : r₁.apiKey = r₂.apiKey
  requestID : r₁.requestID = r₂.requestID
  parentRequestID : r₁.parentRequestID = r₂.parentRequestID
  headers : AgreeOff [xVllmPriority, authorization, contentLength] r₁.headers r₂.headers
  body : ∃ ms₁ ms₂, bodyMembers r₁.body = some ms₁ ∧ bodyMembers r₂.body = some ms₂ ∧
    withoutPriority ms₁ = withoutPriority ms₂

/-- The only value that is sent as the priority, whatever the spelling of the key. -/
def SendsPriority (h : Header) (priority : Int) : Prop :=
  h.lookup xVllmPriority = some [ofInt priority] ∧
    ∀ key values, h.lookup key = some values → canonicalHeaderKey key = xVllmPriority →
      values = [ofInt priority]

/-- How `Forward` accepts a request: the snapshots it reads with the clock readings it takes,
    and what it hands to the forwarder. -/
def accept (S : Service) (request : ForwardRequest) (authenticated : Snapshot) (now : Int)
    (snapshot : Snapshot) (again : List (Snapshot × Int)) (target : Target) :
    Except APIError ProxyRequest := do
  let resolved ← resolveForwardRequest S request authenticated now snapshot
  let resolved ← again.foldlM
    (fun resolved read => resolveAgain S request resolved read.1 read.2) resolved
  .ok (proxyRequest request resolved target)

/-! ## Bodies -/

theorem unmarshalObject_of_members {body : Bytes} {ms : List Member}
    (h : bodyMembers body = some ms) :
    Json.unmarshalObject body = some (some (ms.foldl store ∅)) := by
  obtain ⟨value, hparse, hms⟩ := Option.bind_eq_some_iff.mp h
  unfold Json.unmarshalObject
  rw [hparse]
  show (if value = [.word (ofText "null")] then some none
    else (Json.members value).map fun ms => some (ms.foldl store ∅)) = _
  rw [if_neg, hms]
  · rfl
  -- a word has no members
  intro hnull
  rw [hnull] at hms
  cases hms

/-- **The priority is gone from the payload**, and the model is found all the same. -/
theorem rewritePayload_congr {body₁ body₂ : Bytes} {ms₁ ms₂ : List Member}
    (h₁ : bodyMembers body₁ = some ms₁) (h₂ : bodyMembers body₂ = some ms₂)
    (hsame : withoutPriority ms₁ = withoutPriority ms₂) :
    rewritePayload body₁ = rewritePayload body₂ := by
  have herase : (ms₁.foldl store ∅).erase (ofText "priority")
      = (ms₂.foldl store ∅).erase (ofText "priority") := by
    rw [Json.erase_foldl_store, Json.erase_foldl_store]
    exact congrArg (fun ms => List.foldl store _ ms) hsame
  have hmodel : (ms₁.foldl store ∅).lookup (ofText "model")
      = (ms₂.foldl store ∅).lookup (ofText "model") := by
    have hne : ofText "model" ≠ ofText "priority" := by decide +kernel
    rw [← AList.lookup_erase_ne hne, herase, AList.lookup_erase_ne hne]
  unfold rewritePayload
  rw [unmarshalObject_of_members h₁, unmarshalObject_of_members h₂]
  dsimp only
  rw [hmodel, herase]

/-! ## Resolution -/

/-- What of a resolved request reaches the upstream. -/
structure SameUpstream (x y : Resolved) : Prop where
  client : x.client = y.client
  pool : x.pool = y.pool
  payload : x.payload = y.payload
  publicModel : x.publicModel = y.publicModel

variable {S : Service} {snapshot current authenticated : Snapshot} {request r₁ r₂ : ForwardRequest}
  {x z y x' y' : Resolved} {now now₁ now₂ : Int}

/-- A key that is accepted twice is the same key of the same client. -/
theorem validateAPIKeySnapshot_congr {raw : Bytes} {x y : Client × APIKey}
    (h₁ : validateAPIKeySnapshot S raw snapshot now₁ = .ok x)
    (h₂ : validateAPIKeySnapshot S raw snapshot now₂ = .ok y) : x = y := by
  unfold validateAPIKeySnapshot at h₁ h₂
  split at h₁
  · cases h₁
  next hraw =>
  rw [if_neg hraw] at h₂
  split at h₁
  · cases h₁
  next matched hmatched =>
  rw [hmatched] at h₂
  dsimp only at h₂
  split at h₁
  · cases h₁
  split at h₂
  · cases h₂
  · rw [h₁] at h₂
    cases h₂
    rfl

theorem prepareForwardPayload_ok (h : prepareForwardPayload request x = .ok z) :
    z.client = x.client ∧ z.pool = x.pool ∧ z.publicModel = x.publicModel ∧
      ((forceStreamingUsage x.payload request.path).bind
        fun payload => replaceModel payload x.pool.upstreamModelName) = some z.payload := by
  unfold prepareForwardPayload at h
  split at h
  · cases h
  split at h
  · cases h
  next payload hforced =>
  split at h <;> cases h
  next replaced hreplaced =>
  refine ⟨rfl, rfl, rfl, ?_⟩
  rw [hforced]
  exact hreplaced

theorem resolveForwardRequest_ok
    (h : resolveForwardRequest S request authenticated now snapshot = .ok x) :
    ∃ key, validateAPIKeySnapshot S request.apiKey authenticated now = .ok (x.client, key) ∧
      rewritePayload request.body = .ok (x.payload, x.publicModel) ∧
      snapshot.poolsByName.lookup x.publicModel = some x.pool := by
  unfold resolveForwardRequest at h
  obtain ⟨⟨client, key⟩, hauth, h⟩ := Except.bind_eq_ok.mp h
  obtain ⟨sessionID, -, h⟩ := Except.bind_eq_ok.mp h
  obtain ⟨⟨payload, publicModel⟩, hpayload, h⟩ := Except.bind_eq_ok.mp h
  dsimp only at h
  split at h
  · cases h
  next pool hpool =>
  cases h
  refine ⟨key, hauth, ?_, hpool⟩
  -- only errors are changed on the way
  cases hrewrite : rewritePayload request.body with
  | error e =>
    rw [hrewrite] at hpayload
    cases hpayload
  | ok rewritten =>
    rw [hrewrite] at hpayload
    cases hpayload
    rfl

theorem resolveAgain_ok (h : resolveAgain S request x current now = .ok z) :
    ∃ client key pool,
      validateAPIKeySnapshot S request.apiKey current now = .ok (client, key) ∧
      current.poolsByName.lookup x.publicModel = some pool ∧
      prepareForwardPayload request { x with client := client, pool := pool, snapshot := current }
        = .ok z := by
  unfold resolveAgain at h
  obtain ⟨⟨client, key⟩, hauth, h⟩ := Except.bind_eq_ok.mp h
  dsimp only at h
  split at h
  · cases h
  · next pool hpool => exact ⟨client, key, pool, hauth, hpool, h⟩

theorem SameUpstream.resolveAgain (hxy : SameUpstream x y) (hkey : r₁.apiKey = r₂.apiKey)
    (hpath : r₁.path = r₂.path) (h₁ : resolveAgain S r₁ x current now₁ = .ok x')
    (h₂ : resolveAgain S r₂ y current now₂ = .ok y') : SameUpstream x' y' := by
  obtain ⟨client₁, key₁, pool₁, hauth₁, hpool₁, hprepare₁⟩ := resolveAgain_ok h₁
  obtain ⟨client₂, key₂, pool₂, hauth₂, hpool₂, hprepare₂⟩ := resolveAgain_ok h₂
  rw [← hkey] at hauth₂
  cases validateAPIKeySnapshot_congr hauth₁ hauth₂
  rw [hxy.publicModel, hpool₂] at hpool₁
  cases hpool₁
  obtain ⟨hclient₁, hp₁, hmodel₁, hpayload₁⟩ := prepareForwardPayload_ok hprepare₁
  obtain ⟨hclient₂, hp₂, hmodel₂, hpayload₂⟩ := prepareForwardPayload_ok hprepare₂
  refine ⟨hclient₁.trans hclient₂.symm, hp₁.trans hp₂.symm, ?_, ?_⟩
  · dsimp only at hpayload₁ hpayload₂
    rw [hxy.payload, hpath, hpayload₂] at hpayload₁
    exact (Option.some.inj hpayload₁).symm
  · exact hmodel₁.trans (hxy.publicModel.trans hmodel₂.symm)

/-- The whole sequence of resolutions, over the same snapshots at any two times. -/
theorem SameUpstream.resolveAll (hkey : r₁.apiKey = r₂.apiKey) (hpath : r₁.path = r₂.path)
    {again₁ again₂ : List (Snapshot × Int)}
    (hreads : List.Forall₂ (fun a b => a.1 = b.1) again₁ again₂) (hxy : SameUpstream x y)
    (h₁ : again₁.foldlM (fun resolved read => Gateway.resolveAgain S r₁ resolved read.1 read.2) x
      = .ok x')
    (h₂ : again₂.foldlM (fun resolved read => Gateway.resolveAgain S r₂ resolved read.1 read.2) y
      = .ok y') : SameUpstream x' y' := by
  induction hreads generalizing x y with
  | nil =>
    cases h₁
    cases h₂
    exact hxy
  | @cons a b as bs hread _ ih =>
    rw [List.foldlM_cons] at h₁ h₂
    obtain ⟨x₁, hx, h₁⟩ := Except.bind_eq_ok.mp h₁
    obtain ⟨y₁, hy, h₂⟩ := Except.bind_eq_ok.mp h₂
    rw [← hread] at hy
    exact ih (hxy.resolveAgain hkey hpath hx hy) h₁ h₂

/-! ## Headers -/

namespace AgreeOff

variable {aside : List Bytes} {h₁ h₂ : Header} {key : Bytes}

theorem del (h : AgreeOff aside h₁ h₂) (key : Bytes) : AgreeOff aside (h₁.del key)
    (h₂.del key) := by
  intro k hk
  rw [Header.lookup_del, Header.lookup_del, h k hk]

/-- What is deleted on both sides is no longer aside. -/
theorem del_aside (h : AgreeOff (canonicalHeaderKey key :: aside) h₁ h₂) :
    AgreeOff aside (h₁.del key) (h₂.del key) := by
  intro k hk
  rw [Header.lookup_del, Header.lookup_del]
  by_cases hkey : k = canonicalHeaderKey key
  · rw [if_pos hkey, if_pos hkey]
  rw [if_neg hkey, if_neg hkey]
  apply h k
  rw [List.mem_cons, not_or]
  exact ⟨hkey, hk⟩

variable (h : AgreeOff aside h₁ h₂)
include h

theorem set (key value : Bytes) : AgreeOff aside (h₁.set key value) (h₂.set key value) := by
  intro k hk
  rw [Header.lookup_set, Header.lookup_set, h k hk]

theorem values (hkey : canonicalHeaderKey key ∉ aside) : h₁.values key = h₂.values key := by
  unfold Header.values
  rw [h _ hkey]

theorem dels (names : List String) :
    AgreeOff aside
      (names.foldl (fun h name => Header.del h (ofText name)) h₁)
      (names.foldl (fun h name => Header.del h (ofText name)) h₂) := by
  induction names generalizing h₁ h₂ with
  | nil => exact h
  | cons name names ih => exact ih (h.del _)

theorem isPiCodingAgent (hagent : canonicalHeaderKey (ofText "User-Agent") ∉ aside) :
    Gateway.isPiCodingAgent h₁ = Gateway.isPiCodingAgent h₂ := by
  unfold Gateway.isPiCodingAgent Header.get
  rw [h.values hagent]

theorem stripSessionAffinityHeaders
    (hagent : canonicalHeaderKey (ofText "User-Agent") ∉ aside) :
    AgreeOff aside (Gateway.stripSessionAffinityHeaders h₁)
      (Gateway.stripSessionAffinityHeaders h₂) := by
  have hdels := h.dels sessionAffinityHeaders
  unfold Gateway.stripSessionAffinityHeaders
  dsimp only
  rw [hdels.isPiCodingAgent hagent]
  split
  · exact hdels.del _
  · exact hdels

theorem cloneEndToEndHeaders (hc₁ : h₁.Canonical) (hc₂ : h₂.Canonical)
    (hconnection : canonicalHeaderKey (ofText "Connection") ∉ aside) :
    AgreeOff aside (Proxy.cloneEndToEndHeaders h₁) (Proxy.cloneEndToEndHeaders h₂) := by
  have hhop : hop h₁ = hop h₂ := by
    unfold hop Proxy.connectionTokens
    rw [h.values hconnection]
  intro k hk
  rw [Proxy.lookup_cloneEndToEndHeaders hc₁, Proxy.lookup_cloneEndToEndHeaders hc₂, hhop, h k hk]

end AgreeOff

variable {h₁ h₂ : Header}

/-- The client's values are gone from the headers that are passed on. -/
theorem agree_forwardedHeaders (h : AgreeOff [xVllmPriority, authorization, contentLength] h₁ h₂) :
    AgreeOff [contentLength] (forwardedHeaders h₁) (forwardedHeaders h₂) := by
  have hpriority : canonicalHeaderKey (ofText "X-Vllm-Priority") = xVllmPriority := by
    decide +kernel
  have hauthorization : canonicalHeaderKey (ofText "Authorization") = authorization := by
    decide +kernel
  unfold forwardedHeaders
  rw [← hpriority] at h
  have hdel := h.del_aside.stripSessionAffinityHeaders (by decide +kernel)
  rw [← hauthorization] at hdel
  exact hdel.del_aside

theorem agree_prepareUpstreamHeaders (h : AgreeOff [contentLength] h₁ h₂) (hc₁ : h₁.Canonical)
    (hc₂ : h₂.Canonical) (requestID : Bytes) (priority : Int) (upstreamAPIKey : Bytes) :
    AgreeOff [contentLength] (prepareUpstreamHeaders h₁ requestID priority upstreamAPIKey)
      (prepareUpstreamHeaders h₂ requestID priority upstreamAPIKey) := by
  have hset := (((h.cloneEndToEndHeaders hc₁ hc₂ (by decide +kernel)).del
    (ofText "Authorization")).set (ofText "X-Request-Id") requestID).set
      (ofText "X-Vllm-Priority") (ofInt priority)
  unfold prepareUpstreamHeaders
  split
  · exact hset.set _ _
  · exact hset

theorem sendsPriority_prepareUpstreamHeaders {source : Header} (hc : source.Canonical)
    (requestID : Bytes) (priority : Int) (upstreamAPIKey : Bytes) :
    SendsPriority (prepareUpstreamHeaders source requestID priority upstreamAPIKey)
      priority := by
  have hpriority : xVllmPriority = canonicalHeaderKey (ofText "X-Vllm-Priority") := by
    decide +kernel
  have hother : xVllmPriority ≠ canonicalHeaderKey (ofText "Authorization") := by
    decide +kernel
  have hlookup : (prepareUpstreamHeaders source requestID priority upstreamAPIKey).lookup
      xVllmPriority = some [ofInt priority] := by
    unfold prepareUpstreamHeaders
    split
    · rw [Header.lookup_set, if_neg hother, Header.lookup_set, if_pos hpriority]
    · rw [Header.lookup_set, if_pos hpriority]
  refine ⟨hlookup, ?_⟩
  intro key values hvalues hkey
  -- a key of a canonical header is its own canonical form
  have hcanonical := Proxy.canonical_prepareUpstreamHeaders hc requestID priority upstreamAPIKey
  rw [← hcanonical.of_lookup hvalues, hkey, hlookup] at hvalues
  exact (Option.some.inj hvalues).symm

/-! ## The fence -/

variable {again : List (Snapshot × Int)}

/-- What an accepted request was resolved to. -/
theorem accept_ok {target : Target}
    {q : ProxyRequest} (h : accept S request authenticated now snapshot again target = .ok q) :
    ∃ x z, resolveForwardRequest S request authenticated now snapshot = .ok x ∧
      again.foldlM (fun resolved read => resolveAgain S request resolved read.1 read.2) x = .ok z ∧
      q = proxyRequest request z target := by
  unfold accept at h
  obtain ⟨x, hx, h⟩ := Except.bind_eq_ok.mp h
  obtain ⟨z, hz, h⟩ := Except.bind_eq_ok.mp h
  cases h
  exact ⟨x, z, hx, hz, rfl⟩

/-- The client that the last resolution found. -/
theorem resolveAgain_last (h : (again ++ [(current, now)]).foldlM
      (fun resolved read => resolveAgain S request resolved read.1 read.2) x = .ok z) :
    ∃ key, validateAPIKeySnapshot S request.apiKey current now = .ok (z.client, key) := by
  rw [List.foldlM_append] at h
  obtain ⟨y, -, h⟩ := Except.bind_eq_ok.mp h
  obtain ⟨z', hz, h⟩ := Except.bind_eq_ok.mp h
  cases h
  obtain ⟨client, key, pool, hauth, -, hprepare⟩ := resolveAgain_ok hz
  rw [(prepareForwardPayload_ok hprepare).1]
  exact ⟨key, hauth⟩

/-- **The client has no influence on its priority.**  Two requests of one key, accepted over
    the same snapshots at any times, that differ in priority and authorization only. -/
theorem client_has_no_influence (S : Service) (r₁ r₂ : ForwardRequest)
    (hdiffer : DifferInPriority r₁ r₂) (hc₁ : r₁.headers.Canonical) (hc₂ : r₂.headers.Canonical)
    (authenticated snapshot current : Snapshot) (again₁ again₂ : List (Snapshot × Int))
    (hreads : List.Forall₂ (fun a b => a.1 = b.1) again₁ again₂) (now₁ now₂ last₁ last₂ : Int)
    (target : Target) (q₁ q₂ : ProxyRequest)
    (h₁ : accept S r₁ authenticated now₁ snapshot (again₁ ++ [(current, last₁)]) target = .ok q₁)
    (h₂ : accept S r₂ authenticated now₂ snapshot (again₂ ++ [(current, last₂)]) target = .ok q₂) :
    q₁.body = q₂.body ∧ AgreeOff [contentLength] q₁.upstreamHeaders q₂.upstreamHeaders ∧
      ∃ client key, validateAPIKeySnapshot S r₁.apiKey current last₁ = .ok (client, key) ∧
        SendsPriority q₁.upstreamHeaders client.vllmPriority ∧
        SendsPriority q₂.upstreamHeaders client.vllmPriority := by
  obtain ⟨x₁, z₁, hx₁, hz₁, rfl⟩ := accept_ok h₁
  obtain ⟨x₂, z₂, hx₂, hz₂, rfl⟩ := accept_ok h₂
  obtain ⟨ms₁, ms₂, hms₁, hms₂, hms⟩ := hdiffer.body
  have hx : SameUpstream x₁ x₂ := by
    obtain ⟨key₁, hauth₁, hpayload₁, hpool₁⟩ := resolveForwardRequest_ok hx₁
    obtain ⟨key₂, hauth₂, hpayload₂, hpool₂⟩ := resolveForwardRequest_ok hx₂
    rw [← hdiffer.apiKey] at hauth₂
    rw [rewritePayload_congr hms₁ hms₂ hms, hpayload₂] at hpayload₁
    obtain ⟨hpayload, hmodel⟩ := Prod.mk.inj (Except.ok.inj hpayload₁)
    rw [← hmodel, hpool₂] at hpool₁
    exact ⟨congrArg Prod.fst (validateAPIKeySnapshot_congr hauth₁ hauth₂),
      (Option.some.inj hpool₁).symm, hpayload.symm, hmodel.symm⟩
  have hall : List.Forall₂ (fun a b => a.1 = b.1)
      (again₁ ++ [(current, last₁)]) (again₂ ++ [(current, last₂)]) :=
    List.rel_append hreads (.cons rfl .nil)
  have hz : SameUpstream z₁ z₂ := hx.resolveAll hdiffer.apiKey hdiffer.path hall hz₁ hz₂
  obtain ⟨key, hclient⟩ := resolveAgain_last hz₁
  have hf₁ := canonical_forwardedHeaders hc₁
  have hf₂ := canonical_forwardedHeaders hc₂
  refine ⟨hz.payload, ?_, z₁.client, key, hclient,
    sendsPriority_prepareUpstreamHeaders hf₁ _ _ _, ?_⟩
  · have hheaders := agree_forwardedHeaders hdiffer.headers
    unfold ProxyRequest.upstreamHeaders proxyRequest
    rw [hz.client, hdiffer.requestID]
    exact agree_prepareUpstreamHeaders hheaders hf₁ hf₂ _ _ _
  · rw [hz.client]
    exact sendsPriority_prepareUpstreamHeaders hf₂ _ _ _

/-! A client that sends a priority header, and the same client that hides a priority in its body. -/

def demoService : Service where
  verify := fun _ hash => hash = 42
  replicaID := 1
  leaseTTL := 90
  retryAfter := 2
  coordinated := true

def demoSnapshot : Snapshot :=
  ((Registry.indexData
    { revision := 1
      clients := [⟨1, 1, ofText "client", true, .normal, 5, 4, 0, 0⟩]
      keys := [{ id := 7, clientID := 1, keyPrefix := ofText "llmgw_abcdef", secretHash := 42 }]
      pools := [{ id := 4, revision := 1, publicModelName := ofText "model",
                  upstreamModelName := ofText "upstream", enabled := true,
                  maxGatewayInflight := 8, highPriorityReserve := 0, maxWaiting := 0 }]
      access := [⟨1, 4, true⟩] }).toOption).getD Registry.newSnapshot

def demoTarget : Target :=
  ⟨{ id := 9, revision := 1, modelPoolID := 4, name := [], baseURL := [], enabled := true,
     draining := false }, ofText "secret"⟩

def plainRequest (headers : Header) (body : String) : ForwardRequest where
  method := ofText "POST"
  path := ofText "/v1/completions"
  headers := headers
  body := ofText body
  apiKey := ofText "llmgw_abcdef_secret"
  requestID := "request"
  parentRequestID := ""

def shoutedRequest : ForwardRequest :=
  plainRequest
    (((∅ : Header).insert xVllmPriority [ofText "0", ofText "-9"]).insert contentLength
      [ofText "17"]) "\x7b\"model\":\"model\"\x7d"

def hiddenRequest : ForwardRequest :=
  plainRequest ((∅ : Header).insert contentLength [ofText "49"])
    "\x7b\"priority\":1,\"model\":\"model\",\"pr\\u0069ority\":[0]\x7d"

theorem exists_ok {α ε : Type} {e : Except ε α} (h : e.toOption.isSome) : ∃ a, e = .ok a := by
  cases e with
  | error _ => cases h
  | ok a => exact ⟨a, rfl⟩

theorem client_has_no_influence_hidden : ∃ q₁ q₂,
    accept demoService shoutedRequest demoSnapshot 10 demoSnapshot [(demoSnapshot, 20)] demoTarget
      = .ok q₁ ∧
    accept demoService hiddenRequest demoSnapshot 30 demoSnapshot [(demoSnapshot, 40)] demoTarget
      = .ok q₂ ∧
    q₁.body = q₂.body ∧ AgreeOff [contentLength] q₁.upstreamHeaders q₂.upstreamHeaders := by
  obtain ⟨q₁, h₁⟩ := exists_ok (e := accept demoService shoutedRequest demoSnapshot 10 demoSnapshot
    [(demoSnapshot, 20)] demoTarget) (by decide +kernel)
  obtain ⟨q₂, h₂⟩ := exists_ok (e := accept demoService hiddenRequest demoSnapshot 30 demoSnapshot
    [(demoSnapshot, 40)] demoTarget) (by decide +kernel)
  have hdiffer : DifferInPriority shoutedRequest hiddenRequest := by
    refine ⟨rfl, rfl, rfl, rfl, rfl, ?_, ?_⟩
    · intro key hkey
      simp only [List.mem_cons, List.not_mem_nil, or_false, not_or] at hkey
      obtain ⟨hpriority, -, hlength⟩ := hkey
      show (((∅ : Header).insert xVllmPriority _).insert contentLength _).lookup key
        = ((∅ : Header).insert contentLength _).lookup key
      rw [Table.lookup_insert_eq, if_neg hlength, Table.lookup_insert_eq, if_neg hpriority,
        Table.lookup_insert_eq, if_neg hlength]
    · exact ⟨(bodyMembers shoutedRequest.body).getD [], (bodyMembers hiddenRequest.body).getD [],
        by decide +kernel, by decide +kernel, by decide +kernel⟩
  have h := client_has_no_influence demoService shoutedRequest hiddenRequest hdiffer
    (by decide +kernel) (by decide +kernel) demoSnapshot demoSnapshot demoSnapshot [] [] .nil
    10 30 20 40 demoTarget q₁ q₂ h₁ h₂
  exact ⟨q₁, q₂, h₁, h₂, h.1, h.2.1⟩

end Gateway
