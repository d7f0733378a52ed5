import PriorityGateway.Framework.Bytes
import PriorityGateway.Framework.Table

/-! # Headers

    Which headers of a request reach the upstream, and which headers of its
    response reach the client.

    A header is a map from keys to lists of values.  The accessors write and
    read under the canonical form of a key; a map that was filled by the
    server has no other keys (`Header.Canonical`).  Copying a map goes through
    it in some order, which only matters if two keys have one canonical form. -/

namespace Proxy

open Bytes (ofText)

/-! ## Header maps -/

abbrev Header : Type := Table Bytes (List Bytes)

/-- A byte that a header key may have. -/
def validHeaderFieldByte (c : UInt8) : Bool :=
  (48 ≤ c && c ≤ 57) || (65 ≤ c && c ≤ 90) || (97 ≤ c && c ≤ 122) ||
    (ofText "!#$%&'*+-.^_`|~").contains c

/-- Letters become upper case at the start and after a hyphen, and lower case elsewhere. -/
def canonicalLetters (upper : Bool) : Bytes → Bytes
  | [] => []
  | c :: rest =>
    let c :=
      if upper && 97 ≤ c && c ≤ 122 then c - 32
      else if !upper && 65 ≤ c && c ≤ 90 then c + 32
      else c
    c :: canonicalLetters (c = 45) rest

def canonicalHeaderKey (key : Bytes) : Bytes :=
  if key.all validHeaderFieldByte then canonicalLetters true key else key

namespace Header

def values (h : Header) (key : Bytes) : List Bytes := (h.lookup (canonicalHeaderKey key)).getD []

def get (h : Header) (key : Bytes) : Bytes := (h.values key).headD []

def del (h : Header) (key : Bytes) : Header := h.erase (canonicalHeaderKey key)

def set (h : Header) (key value : Bytes) : Header := h.insert (canonicalHeaderKey key) [value]

def add (h : Header) (key value : Bytes) : Header :=
  h.insert (canonicalHeaderKey key) (h.values key ++ [value])

/-- Every key is in canonical form. -/
def Canonical (h : Header) : Prop := ∀ key ∈ h.keys, canonicalHeaderKey key = key

instance (h : Header) : Decidable h.Canonical :=
  inferInstanceAs (Decidable (∀ key ∈ h.keys, canonicalHeaderKey key = key))

end Header

/-! ## End-to-end headers -/

def hopByHopHeaders : List Bytes :=
  [ofText "Connection", ofText "Proxy-Connection", ofText "Keep-Alive",
    ofText "Proxy-Authenticate", ofText "Proxy-Authorization", ofText "Te",
    ofText "Trailer", ofText "Transfer-Encoding", ofText "Upgrade"]

/-- The header keys that the `Connection` header names. -/
def connectionTokens (source : Header) : List Bytes :=
  ((source.values (ofText "Connection")).flatMap fun value =>
    (value.splitOn 44).map fun token => canonicalHeaderKey (Bytes.trimSpace token)).filter
      fun token => !token.isEmpty

/-- The set `hop` of `cloneEndToEndHeaders`. -/
def hop (source : Header) : List Bytes :=
  hopByHopHeaders.map canonicalHeaderKey ++ connectionTokens source

def cloneEndToEndHeaders (source : Header) : Header :=
  source.entries.foldl
    (fun destination entry =>
      if canonicalHeaderKey entry.1 ∈ hop source then destination
      else destination.insert (canonicalHeaderKey entry.1) entry.2) ∅

def prepareUpstreamHeaders (source : Header) (requestID : Bytes) (priority : Int)
    (upstreamAPIKey : Bytes) : Header :=
  let headers := cloneEndToEndHeaders source
  let headers := headers.del (ofText "Authorization")
  let headers := headers.set (ofText "X-Request-Id") requestID
  let headers := headers.set (ofText "X-Vllm-Priority") (Bytes.ofInt priority)
  if upstreamAPIKey ≠ [] then
    headers.set (ofText "Authorization") (ofText "Bearer " ++ upstreamAPIKey)
  else headers

/-- The headers that `PrepareTokenizationHeaders` removes. -/
def tokenizationRemovals : List Bytes :=
  [ofText "Authorization", ofText "X-Vllm-Priority", ofText "X-LLM-Session-Id",
    ofText "X-Session-Id", ofText "Content-Length", ofText "Idempotency-Key",
    ofText "X-Idempotency-Key"]

def prepareTokenizationHeaders (source : Header) (requestID upstreamAPIKey : Bytes) : Header :=
  let headers := cloneEndToEndHeaders source
  let headers := tokenizationRemovals.foldl Header.del headers
  let headers := headers.set (ofText "X-Request-Id") requestID
  let headers := headers.set (ofText "Content-Type") (ofText "application/json")
  if upstreamAPIKey ≠ [] then
    headers.set (ofText "Authorization") (ofText "Bearer " ++ upstreamAPIKey)
  else headers

/-- `CopyResponseHeaders`: what the destination is afterwards. -/
def copyResponseHeaders (destination source : Header) : Header :=
  (cloneEndToEndHeaders source).entries.foldl
    (fun destination entry =>
      entry.2.foldl (fun destination value => destination.add entry.1 value)
        (destination.del entry.1)) destination

/-! ## What the operations do to one key -/

namespace Header

variable {h : Header} {key key' : Bytes} {own : List (Bytes × Bytes)} {values : List Bytes}

theorem lookup_del (h : Header) (key key' : Bytes) :
    (h.del key).lookup key' = if key' = canonicalHeaderKey key then none else h.lookup key' :=
  Table.lookup_erase_eq _ _ h

theorem lookup_set (h : Header) (key value key' : Bytes) :
    (h.set key value).lookup key'
      = if key' = canonicalHeaderKey key then some [value] else h.lookup key' :=
  Table.lookup_insert_eq _ _ _ h

theorem lookup_foldl_del (keys : List Bytes) (h : Header) (key' : Bytes) :
    (keys.foldl del h).lookup key'
      = if key' ∈ keys.map canonicalHeaderKey then none else h.lookup key' := by
  induction keys generalizing h with
  | nil => simp
  | cons key keys ih =>
    rw [List.foldl_cons, ih, lookup_del, List.map_cons]
    by_cases hkey : key' = canonicalHeaderKey key
    · simp [hkey]
    · simp [hkey]

/-- A header that was set is one of those set, or it was there before. -/
theorem lookup_foldl_set
    (hlookup : (own.foldl (fun h entry => h.set entry.1 entry.2) h).lookup key = some values) :
    (∃ entry ∈ own, key = canonicalHeaderKey entry.1 ∧ values = [entry.2]) ∨
      h.lookup key = some values := by
  induction own generalizing h with
  | nil => exact .inr hlookup
  | cons first own ih =>
    rcases ih hlookup with ⟨entry, hentry, hset⟩ | hbefore
    · exact .inl ⟨entry, List.mem_cons_of_mem _ hentry, hset⟩
    rw [lookup_set] at hbefore
    split at hbefore
    · next hkey => exact .inl ⟨first, List.mem_cons_self, hkey, (Option.some.inj hbefore).symm⟩
    · exact .inr hbefore

theorem lookup_foldl_set_of_notMem (hown : ∀ entry ∈ own, key ≠ canonicalHeaderKey entry.1) :
    (own.foldl (fun h entry => h.set entry.1 entry.2) h).lookup key = h.lookup key := by
  induction own generalizing h with
  | nil => rfl
  | cons first own ih =>
    rw [List.foldl_cons, ih fun entry hentry => hown entry (List.mem_cons_of_mem _ hentry),
      lookup_set, if_neg (hown first List.mem_cons_self)]

theorem Canonical.foldl_del (hc : h.Canonical) (keys : List Bytes) :
    (keys.foldl del h).Canonical := by
  intro k hk
  obtain ⟨values, hvalues⟩ := Option.isSome_iff_exists.mp
    (AList.lookup_isSome.mpr (AList.mem_keys.mpr hk))
  rw [lookup_foldl_del] at hvalues
  obtain ⟨-, hbefore⟩ := Option.ite_none_left_eq_some.mp hvalues
  apply hc k
  rw [← AList.mem_keys, ← AList.lookup_isSome, hbefore]
  rfl

theorem Canonical.del (hc : h.Canonical) (key : Bytes) : (h.del key).Canonical := by
  intro k hk
  have hmem : k ∈ h := (AList.mem_erase.mp (AList.mem_keys.mpr hk)).2
  exact hc k (AList.mem_keys.mp hmem)

theorem Canonical.set (hc : h.Canonical) (key value : Bytes)
    (hkey : canonicalHeaderKey (canonicalHeaderKey key) = canonicalHeaderKey key) :
    (h.set key value).Canonical := by
  intro k hk
  rcases (AList.mem_insert _).mp (AList.mem_keys.mpr hk) with rfl | hmem
  · exact hkey
  · exact hc k (AList.mem_keys.mp hmem)

theorem Canonical.of_lookup (hc : h.Canonical)
    (hlookup : h.lookup key = some values) : canonicalHeaderKey key = key := by
  apply hc key
  rw [← AList.mem_keys, ← AList.lookup_isSome, hlookup]
  rfl

end Header

/-- With canonical keys a header is copied under the key it has. -/
theorem lookup_foldl_copied (blocked : List Bytes)
    (entries : List (Sigma fun _ : Bytes => List Bytes))
    (hcanonical : ∀ entry ∈ entries, canonicalHeaderKey entry.1 = entry.1)
    (hnodup : entries.NodupKeys) (destination : Header) (key : Bytes) :
    (entries.foldl
        (fun destination entry =>
          if canonicalHeaderKey entry.1 ∈ blocked then destination
          else destination.insert (canonicalHeaderKey entry.1) entry.2) destination).lookup key
      = if key ∈ blocked then destination.lookup key
        else (entries.dlookup key).or (destination.lookup key) := by
  induction entries generalizing destination with
  | nil => simp
  | cons entry entries ih =>
    obtain ⟨k, values⟩ := entry
    have hk : canonicalHeaderKey k = k := hcanonical ⟨k, values⟩ List.mem_cons_self
    have hrest := fun entry hentry => hcanonical entry (List.mem_cons_of_mem _ hentry)
    have hother : k ∉ entries.keys := (List.nodupKeys_cons.mp hnodup).1
    rw [List.foldl_cons, ih hrest (List.nodupKeys_cons.mp hnodup).2, hk]
    by_cases hkey : key = k
    · subst hkey
      -- no later entry has this key
      rw [List.dlookup_eq_none.mpr hother, List.dlookup_cons_eq]
      by_cases hblocked : key ∈ blocked
      · simp [hblocked]
      · simp [hblocked]
    · rw [List.dlookup_cons_ne _ _ hkey]
      by_cases hblocked : k ∈ blocked
      · rw [if_pos hblocked]
      · rw [if_neg hblocked, Table.lookup_insert_eq, if_neg hkey]

variable {source : Header}

/-- **What is cloned**: everything but the hop-by-hop headers. -/
theorem lookup_cloneEndToEndHeaders (hc : source.Canonical) (key : Bytes) :
    (cloneEndToEndHeaders source).lookup key
      = if key ∈ hop source then none else source.lookup key := by
  unfold cloneEndToEndHeaders
  rw [lookup_foldl_copied (hop source) source.entries
    (fun entry hentry => hc entry.1 (List.mem_map_of_mem hentry)) source.nodupKeys ∅ key]
  simp [AList.lookup]

theorem canonical_cloneEndToEndHeaders (hc : source.Canonical) :
    (cloneEndToEndHeaders source).Canonical := by
  intro key hkey
  obtain ⟨values, hvalues⟩ := Option.isSome_iff_exists.mp
    (AList.lookup_isSome.mpr (AList.mem_keys.mpr hkey))
  rw [lookup_cloneEndToEndHeaders hc] at hvalues
  obtain ⟨-, hsource⟩ := Option.ite_none_left_eq_some.mp hvalues
  exact hc.of_lookup hsource

theorem canonical_prepareUpstreamHeaders (hc : source.Canonical)
    (requestID : Bytes) (priority : Int) (upstreamAPIKey : Bytes) :
    (prepareUpstreamHeaders source requestID priority upstreamAPIKey).Canonical := by
  have hset := (((canonical_cloneEndToEndHeaders hc).del (ofText "Authorization")).set
    (ofText "X-Request-Id") requestID (by decide +kernel)).set
      (ofText "X-Vllm-Priority") (Bytes.ofInt priority) (by decide +kernel)
  unfold prepareUpstreamHeaders
  split
  · exact hset.set _ _ (by decide +kernel)
  · exact hset

end Proxy
