import PriorityGateway.Gateway.PriorityHeader

/-! # Session Identifiers Stay Inside

    A client names its session in one of several headers.  The gateway picks a
    backend by it; the upstream has no use for it.

    Both paths clone the end-to-end headers, remove some and set some of their
    own (`sent_of_lookup`).  They differ in what is removed.  The inference
    path removes exactly what `sessionAffinityID` consults, with the list that
    the identifier is read from.  The tokenization path has a list of its own,
    which names two of these headers. -/

namespace Gateway

open Registry (Backend)
open Proxy (Header canonicalHeaderKey connectionTokens hop)
open Bytes (ofText)

/-! ## What stays inside -/

/-- The headers that `sessionAffinityID` consults. -/
def consulted (headers : Header) : List String :=
  sessionAffinityHeaders ++
    if isPiCodingAgent headers then [piSessionAffinityFallbackHeader] else []

theorem sessionAffinityID_eq (headers : Header) :
    sessionAffinityID headers = (consulted headers).foldlM (selectSession headers) [] := by
  unfold sessionAffinityID consulted
  rw [List.foldlM_append]
  split
  · simp
  · rfl

/-- The credentials of the upstream, if it wants some. -/
def bearer (upstreamAPIKey : Bytes) : List (Bytes × Bytes) :=
  if upstreamAPIKey ≠ [] then
    [(ofText "Authorization", ofText "Bearer " ++ upstreamAPIKey)]
  else []

/-- The headers that the gateway itself sets for an inference request. -/
def ProxyRequest.ownHeaders (r : ProxyRequest) : List (Bytes × Bytes) :=
  [(ofText "X-Request-Id", ofText r.requestID),
    (ofText "X-Vllm-Priority", Bytes.ofInt r.priority)] ++ bearer r.target.upstreamAPIKey

/-- The headers that the gateway itself sets for a tokenization request. -/
def TokenizationRequest.ownHeaders (r : TokenizationRequest) : List (Bytes × Bytes) :=
  [(ofText "X-Request-Id", ofText r.requestID),
    (ofText "Content-Type", ofText "application/json")] ++ bearer r.upstreamAPIKey

/-- What the upstream must not see of the client's headers `inbound` is not in `sent`.  Header
    names are compared in canonical form. -/
structure StaysInside (own : List (Bytes × Bytes)) (inbound sent : Header) : Prop where
  session : ∀ name ∈ consulted inbound, ∀ key values, sent.lookup key = some values →
    canonicalHeaderKey key ≠ canonicalHeaderKey (ofText name)
  others : ∀ key values, sent.lookup key = some values →
    (∃ entry ∈ own, canonicalHeaderKey key = canonicalHeaderKey entry.1 ∧ values = [entry.2]) ∨
    (canonicalHeaderKey key ≠ canonicalHeaderKey (ofText "Authorization") ∧
      (∀ name ∈ Proxy.hopByHopHeaders, canonicalHeaderKey key ≠ canonicalHeaderKey name) ∧
      canonicalHeaderKey key ∉ connectionTokens inbound)

/-! ## Cloning, removing, setting -/

/-- What both paths send. -/
def sent (source : Header) (removed : List Bytes) (own : List (Bytes × Bytes)) : Header :=
  own.foldl (fun h entry => Header.set h entry.1 entry.2)
    (removed.foldl Header.del (Proxy.cloneEndToEndHeaders source))

theorem ProxyRequest.upstreamHeaders_eq (r : ProxyRequest) :
    r.upstreamHeaders = sent r.headers [ofText "Authorization"] r.ownHeaders := by
  unfold ProxyRequest.upstreamHeaders Proxy.prepareUpstreamHeaders ProxyRequest.ownHeaders bearer
  split
  · rfl
  · rfl

theorem TokenizationRequest.upstreamHeaders_eq (r : TokenizationRequest) :
    r.upstreamHeaders = sent r.headers Proxy.tokenizationRemovals r.ownHeaders := by
  unfold TokenizationRequest.upstreamHeaders Proxy.prepareTokenizationHeaders
    TokenizationRequest.ownHeaders bearer
  split
  · rfl
  · rfl

section Sent

variable {source : Header} {removed : List Bytes} {own : List (Bytes × Bytes)} {key : Bytes}

/-- What of the client's headers is left. -/
theorem lookup_removed (hc : source.Canonical) :
    (removed.foldl Header.del (Proxy.cloneEndToEndHeaders source)).lookup key
      = if key ∈ removed.map canonicalHeaderKey ∨ key ∈ hop source then none
        else source.lookup key := by
  rw [Header.lookup_foldl_del, Proxy.lookup_cloneEndToEndHeaders hc]
  by_cases hremoved : key ∈ removed.map canonicalHeaderKey
  · rw [if_pos hremoved, if_pos (.inl hremoved)]
  rw [if_neg hremoved]
  by_cases hhop : key ∈ hop source
  · rw [if_pos hhop, if_pos (.inr hhop)]
  · rw [if_neg hhop, if_neg (not_or.mpr ⟨hremoved, hhop⟩)]

/-- A header that is sent was set by the gateway, or it is a header of the client that is
    neither removed nor hop-by-hop. -/
theorem sent_of_lookup (hc : source.Canonical) {values : List Bytes}
    (h : (sent source removed own).lookup key = some values) :
    (∃ entry ∈ own, key = canonicalHeaderKey entry.1 ∧ values = [entry.2]) ∨
      (key ∉ removed.map canonicalHeaderKey ∧ key ∉ hop source ∧
        source.lookup key = some values ∧ canonicalHeaderKey key = key) := by
  rcases Header.lookup_foldl_set h with hown | hleft
  · exact .inl hown
  rw [lookup_removed hc] at hleft
  obtain ⟨hkept, hsource⟩ := Option.ite_none_left_eq_some.mp hleft
  rw [not_or] at hkept
  exact .inr ⟨hkept.1, hkept.2, hsource, hc.of_lookup hsource⟩

end Sent

/-- The names by which a client can name its session. -/
def sessionNames : List String := sessionAffinityHeaders ++ [piSessionAffinityFallbackHeader]

theorem mem_sessionNames {headers : Header} {name : String} (h : name ∈ consulted headers) :
    name ∈ sessionNames := by
  rcases List.mem_append.mp h with hsession | hpi
  · exact List.mem_append_left _ hsession
  apply List.mem_append_right
  split at hpi
  · exact hpi
  · cases hpi

theorem canonical_sessionNames : ∀ name ∈ sessionNames,
    canonicalHeaderKey (canonicalHeaderKey (ofText name))
      = canonicalHeaderKey (ofText name) := by
  decide +kernel

/-- Names that do not clash with those of sessions. -/
def Apart (key : Bytes) : Prop :=
  canonicalHeaderKey (canonicalHeaderKey key) = canonicalHeaderKey key ∧
    ∀ name ∈ sessionNames, canonicalHeaderKey key ≠ canonicalHeaderKey (ofText name)

instance (key : Bytes) : Decidable (Apart key) := inferInstanceAs (Decidable (_ ∧ _))

-- one evaluation for all the names: the canonical forms of the session names are shared
theorem apart_names : ∀ name ∈ ["Authorization", "X-Request-Id", "X-Vllm-Priority",
    "Content-Type"], Apart (ofText name) := by
  decide +kernel

/-- What both paths set: the request id, one more header, and the credentials. -/
theorem apart_ownHeaders {other : String} (hother : Apart (ofText other))
    (requestID value upstreamAPIKey : Bytes) :
    ∀ entry ∈ [(ofText "X-Request-Id", requestID), (ofText other, value)]
      ++ bearer upstreamAPIKey, Apart entry.1 := by
  intro entry hentry
  rcases List.mem_append.mp hentry with hfixed | hbearer
  · simp only [List.mem_cons, List.not_mem_nil, or_false] at hfixed
    rcases hfixed with rfl | rfl
    · exact apart_names "X-Request-Id" (by simp)
    · exact hother
  · unfold bearer at hbearer
    split at hbearer
    · rw [List.mem_singleton.mp hbearer]
      exact apart_names "Authorization" (by simp)
    · cases hbearer

/-- **What a path has to remove**: whatever is consulted and is there. -/
theorem staysInside_sent_iff {inbound source : Header} {removed : List Bytes}
    {own : List (Bytes × Bytes)} (hc : source.Canonical) (hown : ∀ entry ∈ own, Apart entry.1)
    (hauthorization : canonicalHeaderKey (ofText "Authorization")
      ∈ removed.map canonicalHeaderKey)
    (htokens : connectionTokens source = connectionTokens inbound) :
    StaysInside own inbound (sent source removed own) ↔
      ∀ name ∈ consulted inbound,
        canonicalHeaderKey (ofText name) ∈ removed.map canonicalHeaderKey ∨
        canonicalHeaderKey (ofText name) ∈ hop source ∨
        source.lookup (canonicalHeaderKey (ofText name)) = none := by
  constructor
  · intro h name hname
    have hnames := mem_sessionNames hname
    by_contra hkept
    rw [not_or, not_or] at hkept
    obtain ⟨hremoved, hhop, hthere⟩ := hkept
    obtain ⟨values, hvalues⟩ := Option.ne_none_iff_exists'.mp hthere
    -- nothing takes the header out of what is sent
    have hlookup : (sent source removed own).lookup (canonicalHeaderKey (ofText name))
        = some values := by
      unfold sent
      rw [Header.lookup_foldl_set_of_notMem
          fun entry hentry => ((hown entry hentry).2 name hnames).symm,
        lookup_removed hc, if_neg (not_or.mpr ⟨hremoved, hhop⟩), hvalues]
    exact h.session name hname _ values hlookup (canonical_sessionNames name hnames)
  · intro h
    constructor
    · intro name hname key values hlookup heq
      rcases sent_of_lookup hc hlookup with ⟨entry, hentry, hkey, -⟩ | hclient
      · rw [hkey, (hown entry hentry).1] at heq
        exact (hown entry hentry).2 name (mem_sessionNames hname) heq
      obtain ⟨hremoved, hhop, hsource, hcanonical⟩ := hclient
      rw [hcanonical] at heq
      subst heq
      rcases h name hname with hgone | hgone | hgone
      · exact hremoved hgone
      · exact hhop hgone
      · rw [hgone] at hsource
        cases hsource
    · intro key values hlookup
      rcases sent_of_lookup hc hlookup with ⟨entry, hentry, hkey, hvalues⟩ | hclient
      · left
        exact ⟨entry, hentry, by rw [hkey, (hown entry hentry).1], hvalues⟩
      right
      obtain ⟨hremoved, hhop, -, hcanonical⟩ := hclient
      unfold hop at hhop
      rw [List.mem_append, not_or, htokens] at hhop
      rw [hcanonical]
      refine ⟨?_, ?_, hhop.2⟩
      · rintro rfl
        exact hremoved hauthorization
      · intro name hname heq
        exact hhop.1 (List.mem_map.mpr ⟨name, hname, heq.symm⟩)

/-! ## The inference path -/

theorem values_foldl_del (keys : List Bytes) (h : Header) (key : Bytes)
    (hkey : canonicalHeaderKey key ∉ keys.map canonicalHeaderKey) :
    Header.values (keys.foldl Header.del h) key = Header.values h key := by
  unfold Header.values
  rw [Header.lookup_foldl_del, if_neg hkey]

def forwardedRemovals (inbound : Header) : List Bytes :=
  ofText "X-Vllm-Priority" ::
    ((consulted inbound).map ofText ++ [ofText "Authorization"])

theorem forwardedHeaders_eq (inbound : Header) :
    forwardedHeaders inbound = (forwardedRemovals inbound).foldl Header.del inbound := by
  -- the agent is still known after the removals that come before the question
  have hagent : isPiCodingAgent ((sessionAffinityHeaders.map ofText).foldl Header.del
      (Header.del inbound (ofText "X-Vllm-Priority"))) = isPiCodingAgent inbound := by
    unfold isPiCodingAgent Header.get
    rw [← List.foldl_cons, values_foldl_del _ _ _ (by decide +kernel)]
  unfold forwardedHeaders forwardedRemovals consulted
  dsimp only
  rw [stripSessionAffinityHeaders_eq, hagent]
  split <;> simp [List.foldl_append]

theorem lookup_forwardedHeaders {inbound : Header} {name : String} (h : name ∈ consulted inbound) :
    (forwardedHeaders inbound).lookup (canonicalHeaderKey (ofText name)) = none := by
  rw [forwardedHeaders_eq, Header.lookup_foldl_del, if_pos]
  apply List.mem_map_of_mem
  apply List.mem_cons_of_mem
  exact List.mem_append_left _ (List.mem_map_of_mem h)

theorem connectionTokens_forwardedHeaders (inbound : Header) :
    connectionTokens (forwardedHeaders inbound) = connectionTokens inbound := by
  have hkeys : canonicalHeaderKey (ofText "Connection")
      ∉ (forwardedRemovals inbound).map canonicalHeaderKey := by
    intro hmem
    unfold forwardedRemovals consulted at hmem
    split at hmem
    · revert hmem
      decide +kernel
    · revert hmem
      decide +kernel
  unfold connectionTokens
  rw [forwardedHeaders_eq, values_foldl_del _ _ _ hkeys]

theorem inference_staysInside (request : ForwardRequest) (hc : request.headers.Canonical)
    (resolved : Resolved) (target : Target) :
    StaysInside (proxyRequest request resolved target).ownHeaders request.headers
      (proxyRequest request resolved target).upstreamHeaders := by
  rw [ProxyRequest.upstreamHeaders_eq]
  refine (staysInside_sent_iff (canonical_forwardedHeaders hc)
    (apart_ownHeaders (apart_names "X-Vllm-Priority" (by simp)) _ _ _)
    (List.mem_singleton.mpr rfl) (connectionTokens_forwardedHeaders _)).mpr ?_
  intro name hname
  exact .inr (.inr (lookup_forwardedHeaders hname))

/-! ## The tokenization path -/

/-- The session headers that `PrepareTokenizationHeaders` does not name are absent, or the
    client itself takes them for its own connection. -/
def NoAlias (inbound : Header) : Prop :=
  ∀ name ∈ consulted inbound, name ≠ "X-LLM-Session-Id" → name ≠ "X-Session-Id" →
    inbound.lookup (canonicalHeaderKey (ofText name)) = none ∨
      canonicalHeaderKey (ofText name) ∈ connectionTokens inbound

/-- Which of the consulted headers the list of the tokenization path has. -/
theorem mem_tokenizationRemovals : ∀ name ∈ sessionNames,
    (canonicalHeaderKey (ofText name) ∈ Proxy.tokenizationRemovals.map canonicalHeaderKey ↔
      name = "X-LLM-Session-Id" ∨ name = "X-Session-Id") := by
  decide +kernel

theorem notMem_hopByHopHeaders : ∀ name ∈ sessionNames,
    canonicalHeaderKey (ofText name) ∉ Proxy.hopByHopHeaders.map canonicalHeaderKey := by
  decide +kernel

theorem tokenization_staysInside_iff (S : Service) (request : ForwardRequest)
    (hc : request.headers.Canonical) (backend : Backend) (body : Bytes) :
    StaysInside (tokenizationRequest S request backend body).ownHeaders request.headers
      (tokenizationRequest S request backend body).upstreamHeaders ↔ NoAlias request.headers := by
  rw [TokenizationRequest.upstreamHeaders_eq]
  refine (staysInside_sent_iff hc
    (apart_ownHeaders (apart_names "Content-Type" (by simp)) _ _ _) (by decide +kernel)
    rfl).trans ?_
  constructor
  · intro h name hname hfirst hlast
    have hnames := mem_sessionNames hname
    rcases h name hname with hremoved | hhop | habsent
    · rcases (mem_tokenizationRemovals name hnames).mp hremoved with heq | heq
      · exact absurd heq hfirst
      · exact absurd heq hlast
    · rcases List.mem_append.mp hhop with hfixed | htoken
      · exact absurd hfixed (notMem_hopByHopHeaders name hnames)
      · exact .inr htoken
    · exact .inl habsent
  · intro h name hname
    by_cases hnamed : name = "X-LLM-Session-Id" ∨ name = "X-Session-Id"
    · exact .inl ((mem_tokenizationRemovals name (mem_sessionNames hname)).mpr hnamed)
    rw [not_or] at hnamed
    rcases h name hname hnamed.1 hnamed.2 with habsent | htoken
    · exact .inr (.inr habsent)
    · exact .inr (.inl (List.mem_append_right _ htoken))

/-- **Where session identifiers stay inside**: always on the inference path, and on the
    tokenization path exactly without the aliases that its list lacks. -/
theorem session_headers_inside (S : Service) (request : ForwardRequest)
    (hc : request.headers.Canonical) (resolved : Resolved) (target : Target) (backend : Backend)
    (body : Bytes) :
    StaysInside (proxyRequest request resolved target).ownHeaders request.headers
      (proxyRequest request resolved target).upstreamHeaders ∧
    (StaysInside (tokenizationRequest S request backend body).ownHeaders request.headers
      (tokenizationRequest S request backend body).upstreamHeaders ↔ NoAlias request.headers) :=
  ⟨inference_staysInside request hc resolved target,
    tokenization_staysInside_iff S request hc backend body⟩

/-! A client that names its session by an alias, and one that uses the header of the gateway. -/

def sessionRequest (name : String) : ForwardRequest :=
  plainRequest ((∅ : Header).insert (canonicalHeaderKey (ofText name))
    [ofText "session"]) "\x7b\"model\":\"model\"\x7d"

def demoResolved : Resolved where
  client := ⟨1, 1, ofText "client", true, .normal, 5, 4, 0, 0⟩
  pool :=
    { id := 4, revision := 1, publicModelName := ofText "model",
      upstreamModelName := ofText "upstream", enabled := true,
      maxGatewayInflight := 8, highPriorityReserve := 0, maxWaiting := 0 }
  snapshot := demoSnapshot
  payload := []
  publicModel := ofText "model"
  sessionID := []

def tokenizing (name : String) : TokenizationRequest :=
  tokenizationRequest demoService (sessionRequest name) demoTarget.backend []

theorem session_headers_inside_override :
    NoAlias (sessionRequest "X-LLM-Session-Id").headers ∧
      StaysInside (tokenizing "X-LLM-Session-Id").ownHeaders
        (sessionRequest "X-LLM-Session-Id").headers
        (tokenizing "X-LLM-Session-Id").upstreamHeaders := by
  have hnoAlias : NoAlias (sessionRequest "X-LLM-Session-Id").headers := by
    unfold NoAlias
    decide +kernel
  exact ⟨hnoAlias, (session_headers_inside demoService (sessionRequest "X-LLM-Session-Id")
    (by decide +kernel) demoResolved demoTarget demoTarget.backend []).2.mpr hnoAlias⟩

theorem tokenization_sends_alias :
    (tokenizing "X-Opencode-Session").upstreamHeaders.lookup (ofText "X-Opencode-Session")
      = some [ofText "session"] ∧
    ¬ StaysInside (tokenizing "X-Opencode-Session").ownHeaders
      (sessionRequest "X-Opencode-Session").headers
      (tokenizing "X-Opencode-Session").upstreamHeaders := by
  have hsent : (tokenizing "X-Opencode-Session").upstreamHeaders.lookup
      (ofText "X-Opencode-Session") = some [ofText "session"] := by
    decide +kernel
  refine ⟨hsent, ?_⟩
  intro h
  exact h.session "X-Opencode-Session" (by decide +kernel) _ _ hsent (by decide +kernel)

end Gateway
