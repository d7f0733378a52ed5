import PriorityGateway.Framework.Bytes
import PriorityGateway.Framework.Table
import PriorityGateway.Coordination.Types

/-! # Registry Snapshots

    The gateway reads its configuration from one published snapshot.  A
    snapshot is built from the data of the store (`indexData`) and is never
    changed; whoever has something new publishes another one.

    There are four publishers.

    * `Reload` publishes what it has loaded, if it is newer than what is
      published.  It keeps the runtime state of the keys
      (`mergeKeyRuntimeState`).
    * `MarkKeyRevoked` and `MarkKeyUsed` publish a copy with one key changed.
    * `MarkBackendDeleted` publishes a copy without a backend.

    Go iterates over maps in any order.  Where the order can be seen it is a
    parameter: two keys with the same id may stand under two prefixes, and
    the one that `mergeKeyRuntimeState` meets last counts. -/

namespace Registry

open Coordination (PriorityClass)

/-! ## Configuration -/

structure Client where
  id : Int
  revision : Int
  name : Bytes
  enabled : Bool
  priorityClass : PriorityClass
  vllmPriority : Int
  maxConcurrency : Int
  requestsPerMinute : Int
  tokensPerMinute : Int
  deriving DecidableEq, Repr

structure APIKey where
  id : Int
  clientID : Int
  keyPrefix : Bytes
  /-- the 32 bytes as a number -/
  secretHash : Nat
  expiresAt : Option Int := none
  revokedAt : Option Int := none
  lastUsedAt : Option Int := none
  deriving DecidableEq, Repr

structure ClientModelAccess where
  clientID : Int
  modelPoolID : Int
  enabled : Bool
  deriving DecidableEq, Repr

structure ModelPool where
  id : Int
  revision : Int
  publicModelName : Bytes
  upstreamModelName : Bytes
  enabled : Bool
  maxGatewayInflight : Int
  highPriorityReserve : Int
  maxWaiting : Int
  createdAt : Int := 0
  updatedAt : Int := 0
  deriving DecidableEq, Repr

structure Backend where
  id : Int
  revision : Int
  modelPoolID : Int
  name : Bytes
  baseURL : Bytes
  enabled : Bool
  draining : Bool
  capacityHint : ℚ := 1
  runningSoftLimit : ℚ := 0
  upstreamAPIKeyEnv : Bytes := []
  createdAt : Int := 0
  updatedAt : Int := 0
  deriving DecidableEq, Repr

/-- What `LoadSnapshot` returns. -/
structure Data where
  revision : Int
  clients : List Client := []
  keys : List APIKey := []
  pools : List ModelPool := []
  access : List ClientModelAccess := []
  backends : List Backend := []
  deriving DecidableEq, Repr

structure Snapshot where
  revision : Int
  clients : Table Int Client
  keyCandidates : Table Bytes (List APIKey)
  poolsByID : Table Int ModelPool
  poolsByName : Table Bytes ModelPool
  access : Table Int (Table Int Bool)
  backendsByID : Table Int Backend
  backendsByPool : Table Int (List Backend)

/-- `newSnapshot`, with the zero revision. -/
def newSnapshot : Snapshot where
  revision := 0
  clients := ∅
  keyCandidates := ∅
  poolsByID := ∅
  poolsByName := ∅
  access := ∅
  backendsByID := ∅
  backendsByPool := ∅

/-- `snapshot.Access[clientID][poolID]`; a missing entry reads as false. -/
def Snapshot.allows (s : Snapshot) (clientID poolID : Int) : Bool :=
  (((s.access.lookup clientID).bind fun pools => pools.lookup poolID)).getD false

/-! ## Indexing -/

/-- Why the data of the store is refused. -/
inductive IndexError where
  /-- "duplicate client ID %d" -/
  | duplicateClient (id : Int)
  /-- "duplicate model pool ID %d" -/
  | duplicatePool (id : Int)
  /-- "duplicate public model name %q" -/
  | duplicateModelName (name : Bytes)
  /-- "API key %d references missing client %d" -/
  | keyWithoutClient (key client : Int)
  /-- "model access references missing client %d" -/
  | accessWithoutClient (client : Int)
  /-- "model access references missing pool %d" -/
  | accessWithoutPool (pool : Int)
  /-- "backend %d references missing pool %d" -/
  | backendWithoutPool (backend pool : Int)
  /-- "duplicate backend ID %d" -/
  | duplicateBackend (id : Int)
  deriving DecidableEq, Repr

namespace Snapshot

def addClient (s : Snapshot) (client : Client) : Except IndexError Snapshot :=
  if (s.clients.lookup client.id).isSome then .error (.duplicateClient client.id)
  else .ok { s with clients := s.clients.insert client.id client }

def addPool (s : Snapshot) (pool : ModelPool) : Except IndexError Snapshot :=
  if (s.poolsByID.lookup pool.id).isSome then .error (.duplicatePool pool.id)
  else if (s.poolsByName.lookup pool.publicModelName).isSome then
    .error (.duplicateModelName pool.publicModelName)
  else .ok
    { s with
      poolsByID := s.poolsByID.insert pool.id pool
      poolsByName := s.poolsByName.insert pool.publicModelName pool }

def addKey (s : Snapshot) (key : APIKey) : Except IndexError Snapshot :=
  if (s.clients.lookup key.clientID).isNone then .error (.keyWithoutClient key.id key.clientID)
  else .ok
    { s with
      keyCandidates := s.keyCandidates.insert key.keyPrefix
        ((s.keyCandidates.lookup key.keyPrefix).getD [] ++ [key]) }

def addAccess (s : Snapshot) (a : ClientModelAccess) : Except IndexError Snapshot :=
  if (s.clients.lookup a.clientID).isNone then .error (.accessWithoutClient a.clientID)
  else if (s.poolsByID.lookup a.modelPoolID).isNone then .error (.accessWithoutPool a.modelPoolID)
  else .ok
    { s with
      access := s.access.insert a.clientID
        (((s.access.lookup a.clientID).getD ∅).insert a.modelPoolID a.enabled) }

def addBackend (s : Snapshot) (backend : Backend) : Except IndexError Snapshot :=
  if (s.poolsByID.lookup backend.modelPoolID).isNone then
    .error (.backendWithoutPool backend.id backend.modelPoolID)
  else if (s.backendsByID.lookup backend.id).isSome then .error (.duplicateBackend backend.id)
  else .ok
    { s with
      backendsByID := s.backendsByID.insert backend.id backend
      backendsByPool := s.backendsByPool.insert backend.modelPoolID
        ((s.backendsByPool.lookup backend.modelPoolID).getD [] ++ [backend]) }

end Snapshot

def indexData (data : Data) : Except IndexError Snapshot := do
  let s ← data.clients.foldlM Snapshot.addClient { newSnapshot with revision := data.revision }
  let s ← data.pools.foldlM Snapshot.addPool s
  let s ← data.keys.foldlM Snapshot.addKey s
  let s ← data.access.foldlM Snapshot.addAccess s
  data.backends.foldlM Snapshot.addBackend s

/-! ## Publishers -/

/-- The map `currentByID` of `mergeKeyRuntimeState`, filled in this order of prefixes. -/
def currentByID (order : List Bytes) (current : Snapshot) : Table Int APIKey :=
  (order.flatMap fun p => (current.keyCandidates.lookup p).getD []).foldl
    (fun byID key => byID.insert key.id key) ∅

/-- One key of a new snapshot takes over the runtime state of the published one. -/
def mergeKey (byID : Table Int APIKey) (key : APIKey) : APIKey :=
  match byID.lookup key.id with
  | none => key
  | some state =>
    let revokedAt :=
      if key.revokedAt = none ∧ state.revokedAt ≠ none then state.revokedAt else key.revokedAt
    let lastUsedAt :=
      match state.lastUsedAt, key.lastUsedAt with
      | none, own => own
      | some used, none => some used
      | some used, some own => if own < used then some used else some own
    { key with revokedAt := revokedAt, lastUsedAt := lastUsedAt }

def mergeKeyRuntimeState (order : List Bytes) (candidate current : Snapshot) : Snapshot :=
  { candidate with
    keyCandidates := Table.mapRows
      (fun _ keys => keys.map (mergeKey (currentByID order current))) candidate.keyCandidates }

/-- The critical section of `Reload`. -/
def publishReload (order : List Bytes) (candidate current : Snapshot) : Snapshot :=
  if candidate.revision ≤ current.revision then current
  else mergeKeyRuntimeState order candidate current

def Snapshot.keys (s : Snapshot) : List APIKey := s.keyCandidates.entries.flatMap Sigma.snd

/-- `updateKey`: whether the key was found, and what is published then. -/
def updateKey (id : Int) (update : APIKey → APIKey) (current : Snapshot) : Bool × Snapshot :=
  if current.keys.any fun key => decide (key.id = id) then
    (true, { current with
      keyCandidates := Table.mapRows
        (fun _ keys => keys.map fun key => if key.id = id then update key else key)
        current.keyCandidates })
  else (false, current)

def markKeyRevoked (id at' : Int) (current : Snapshot) : Bool × Snapshot :=
  updateKey id (fun key => { key with revokedAt := some at' }) current

def markKeyUsed (id at' : Int) (current : Snapshot) : Bool × Snapshot :=
  updateKey id (fun key => { key with lastUsedAt := some at' }) current

/-- `MarkBackendDeleted`.  A pool that loses its last backend loses its entry; other
    empty entries stay. -/
def markBackendDeleted (id : Int) (current : Snapshot) : Bool × Snapshot :=
  match current.backendsByID.lookup id with
  | none => (false, current)
  | some backend =>
    (true, { current with
      backendsByID := Table.filter (fun backendID _ => decide (backendID ≠ id)) current.backendsByID
      backendsByPool :=
        Table.filter (fun poolID left => !left.isEmpty || decide (poolID ≠ backend.modelPoolID))
          (Table.mapRows (fun _ candidates => candidates.filter fun b => decide (b.id ≠ id))
            current.backendsByPool) })

end Registry
