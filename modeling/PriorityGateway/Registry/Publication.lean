import PriorityGateway.Framework.System
import PriorityGateway.Registry.Snapshot

/-! # Publication

    Every publisher holds the publication lock while it reads the published
    snapshot and replaces it, so a publication is one step.  Loading is not
    under the lock: a `Reload` that has loaded its data waits for its turn as
    long as it takes, and publishes what may be old by then.

    What a publication can do is said once (`Publication`).  Two things follow
    for every run: the published revision never goes back, and a revoked key
    stays revoked, also under a `Reload` that has loaded before the key was
    revoked. -/

namespace Registry

/-! ## Keys of a snapshot -/

/-- The key with this id is in the snapshot, under some prefix. -/
def Snapshot.Contains (s : Snapshot) (id : Int) : Prop := ∃ key ∈ s.keys, key.id = id

/-- Every key with this id is revoked. -/
def Snapshot.ShowsRevoked (s : Snapshot) (id : Int) : Prop :=
  ∀ key ∈ s.keys, key.id = id → key.revokedAt ≠ none

instance (s : Snapshot) (id : Int) : Decidable (s.Contains id) :=
  inferInstanceAs (Decidable (∃ key ∈ s.keys, key.id = id))

instance (s : Snapshot) (id : Int) : Decidable (s.ShowsRevoked id) :=
  inferInstanceAs (Decidable (∀ key ∈ s.keys, key.id = id → key.revokedAt ≠ none))

/-- A snapshot whose keys are changed one by one. -/
theorem keys_mapRows (s : Snapshot) (f : APIKey → APIKey) :
    ({ s with keyCandidates := Table.mapRows (fun _ keys => keys.map f) s.keyCandidates } :
      Snapshot).keys = s.keys.map f := by
  simp only [Snapshot.keys, Table.mapRows, List.flatMap_map, List.map_flatMap]

theorem mem_keys {s : Snapshot} {key : APIKey} :
    key ∈ s.keys ↔ ∃ p keys, s.keyCandidates.lookup p = some keys ∧ key ∈ keys := by
  simp only [Snapshot.keys, List.mem_flatMap, Table.lookup_eq_some_iff]
  constructor
  · rintro ⟨⟨p, keys⟩, hentry, hkey⟩
    exact ⟨p, keys, hentry, hkey⟩
  · rintro ⟨p, keys, hentry, hkey⟩
    exact ⟨⟨p, keys⟩, hentry, hkey⟩

/-- The order in which a map is read: every prefix once. -/
def Snapshot.Ordered (s : Snapshot) (order : List Bytes) : Prop := order.Perm s.keyCandidates.keys

instance (s : Snapshot) (order : List Bytes) : Decidable (s.Ordered order) :=
  inferInstanceAs (Decidable (order.Perm _))

theorem lookup_foldl_insert (keys : List APIKey) (byID : Table Int APIKey) (id : Int) :
    ((∀ key ∈ keys, key.id ≠ id) ∧
      (keys.foldl (fun byID key => byID.insert key.id key) byID).lookup id = byID.lookup id) ∨
    ∃ key ∈ keys, key.id = id ∧
      (keys.foldl (fun byID key => byID.insert key.id key) byID).lookup id = some key := by
  induction keys generalizing byID with
  | nil => exact .inl ⟨nofun, rfl⟩
  | cons key keys ih =>
    rw [List.foldl_cons]
    rcases ih (byID.insert key.id key) with ⟨hnone, hlookup⟩ | ⟨found, hfound, hid, hlookup⟩
    · by_cases hkey : key.id = id
      · refine .inr ⟨key, List.mem_cons_self, hkey, ?_⟩
        rw [hlookup, Table.lookup_insert_eq, if_pos hkey.symm]
      · refine .inl ⟨?_, ?_⟩
        · intro key' hkey'
          rcases List.mem_cons.mp hkey' with rfl | hrest
          · exact hkey
          · exact hnone key' hrest
        · rw [hlookup, Table.lookup_insert_eq, if_neg (Ne.symm hkey)]
    · exact .inr ⟨found, List.mem_cons_of_mem _ hfound, hid, hlookup⟩

variable {current : Snapshot} {id : Int} {update : APIKey → APIKey} {order : List Bytes}

/-- `currentByID` has an entry for exactly the keys of the published snapshot. -/
theorem currentByID_lookup (horder : current.Ordered order) (id : Int) :
    (¬ current.Contains id ∧ (currentByID order current).lookup id = none) ∨
    ∃ key ∈ current.keys, key.id = id ∧ (currentByID order current).lookup id = some key := by
  -- the keys read in this order are the keys of the snapshot
  have hmem : ∀ key, key ∈ order.flatMap (fun p => (current.keyCandidates.lookup p).getD []) ↔
      key ∈ current.keys := by
    intro key
    rw [mem_keys, List.mem_flatMap]
    constructor
    · rintro ⟨p, -, hkey⟩
      cases hp : current.keyCandidates.lookup p with
      | none =>
        rw [hp] at hkey
        cases hkey
      | some keys =>
        rw [hp] at hkey
        exact ⟨p, keys, hp, hkey⟩
    · rintro ⟨p, keys, hp, hkey⟩
      refine ⟨p, ?_, by rw [hp]; exact hkey⟩
      rw [horder.mem_iff]
      exact AList.mem_keys.mp (AList.lookup_isSome.mp (by rw [hp]; rfl))
  unfold currentByID
  rcases lookup_foldl_insert (order.flatMap fun p => (current.keyCandidates.lookup p).getD []) ∅ id
    with ⟨hnone, hlookup⟩ | ⟨key, hkey, hid, hlookup⟩
  · refine .inl ⟨?_, hlookup⟩
    rintro ⟨key, hkey, hid⟩
    exact hnone key ((hmem key).mpr hkey) hid
  · exact .inr ⟨key, (hmem key).mp hkey, hid, hlookup⟩

/-! ## Publications -/

/-- One publication: the published snapshot is replaced. -/
inductive Publication (current : Snapshot) : Snapshot → Prop where
  | reload (order : List Bytes) (candidate : Snapshot) (horder : current.Ordered order)
      (hnewer : current.revision < candidate.revision) :
      Publication current (mergeKeyRuntimeState order candidate current)
  | revoked (id at' : Int) (hfound : (markKeyRevoked id at' current).1 = true) :
      Publication current (markKeyRevoked id at' current).2
  | used (id at' : Int) (hfound : (markKeyUsed id at' current).1 = true) :
      Publication current (markKeyUsed id at' current).2
  | deleted (id : Int) (hfound : (markBackendDeleted id current).1 = true) :
      Publication current (markBackendDeleted id current).2

theorem updateKey_found : (updateKey id update current).1 = true ↔ current.Contains id := by
  unfold updateKey Snapshot.Contains
  split <;> next h => simpa using h

theorem keys_updateKey (update : APIKey → APIKey) (h : current.Contains id) :
    (updateKey id update current).2.keys
      = current.keys.map fun key => if key.id = id then update key else key := by
  unfold updateKey
  rw [if_pos (by simpa [Snapshot.Contains] using h)]
  exact keys_mapRows current _

theorem markBackendDeleted_frame (id : Int) (current : Snapshot) :
    (markBackendDeleted id current).2.revision = current.revision ∧
      (markBackendDeleted id current).2.keyCandidates = current.keyCandidates := by
  unfold markBackendDeleted
  split <;> exact ⟨rfl, rfl⟩

theorem updateKey_revision (id : Int) (update : APIKey → APIKey) (current : Snapshot) :
    (updateKey id update current).2.revision = current.revision := by
  unfold updateKey
  split
  · rfl
  · rfl

theorem Publication.revision_le {next : Snapshot} (h : Publication current next) :
    current.revision ≤ next.revision := by
  cases h with
  | reload order candidate _ hnewer =>
    show current.revision ≤ candidate.revision
    omega
  | revoked id at' _ | used id at' _ => exact le_of_eq (updateKey_revision id _ current).symm
  | deleted id _ => exact le_of_eq (markBackendDeleted_frame id current).1.symm

@[simp] theorem mergeKey_id (byID : Table Int APIKey) (key : APIKey) :
    (mergeKey byID key).id = key.id := by
  unfold mergeKey
  split
  · rfl
  · rfl

/-- A key that is revoked, or whose published state is, is revoked after the merge. -/
theorem mergeKey_revoked {byID : Table Int APIKey} {key state : APIKey}
    (hstate : byID.lookup key.id = some state) (hrevoked : state.revokedAt ≠ none) :
    (mergeKey byID key).revokedAt ≠ none := by
  unfold mergeKey
  rw [hstate]
  show (if key.revokedAt = none ∧ state.revokedAt ≠ none then state.revokedAt
    else key.revokedAt) ≠ none
  split
  · exact hrevoked
  · next h =>
    intro hnone
    exact h ⟨hnone, hrevoked⟩

/-- **Revocation survives every publication**, unless the key was not there to be revoked. -/
theorem Publication.showsRevoked {next : Snapshot} (h : Publication current next)
    (hrevoked : current.ShowsRevoked id) (hcontains : next.Contains id → current.Contains id) :
    next.ShowsRevoked id := by
  have hupdate : ∀ id' (update : APIKey → APIKey), current.Contains id' →
      (∀ key, (update key).id = key.id) →
      (∀ key, key.revokedAt ≠ none → (update key).revokedAt ≠ none) →
      (updateKey id' update current).2.ShowsRevoked id := by
    intro id' update hfound hid hkeeps key hkey hkeyID
    rw [keys_updateKey update hfound, List.mem_map] at hkey
    obtain ⟨old, hold, rfl⟩ := hkey
    split at hkeyID
    · next hsame =>
      rw [if_pos hsame]
      exact hkeeps old (hrevoked old hold (by rw [← hid old]; exact hkeyID))
    · next hother =>
      rw [if_neg hother]
      exact hrevoked old hold hkeyID
  cases h with
  | reload order candidate horder _ =>
    intro key hkey hkeyID
    -- the id is published, so `currentByID` knows it, and knows it revoked
    obtain hnone | ⟨state, hstate, hstateID, hlookup⟩ := currentByID_lookup horder id
    · exact absurd (hcontains ⟨key, hkey, hkeyID⟩) hnone.1
    rw [mergeKeyRuntimeState, keys_mapRows, List.mem_map] at hkey
    obtain ⟨own, -, rfl⟩ := hkey
    rw [mergeKey_id] at hkeyID
    rw [← hkeyID] at hlookup
    exact mergeKey_revoked hlookup (hrevoked state hstate hstateID)
  | revoked id' at' hfound =>
    exact hupdate id' _ (updateKey_found.mp hfound) (fun _ => rfl) (fun _ _ => by simp)
  | used id' at' hfound =>
    exact hupdate id' _ (updateKey_found.mp hfound) (fun _ => rfl) (fun _ h => h)
  | deleted id' _ =>
    intro key hkey hkeyID
    have hkeys : (markBackendDeleted id' current).2.keys = current.keys := by
      unfold Snapshot.keys
      rw [(markBackendDeleted_frame id' current).2]
    rw [hkeys] at hkey
    exact hrevoked key hkey hkeyID

theorem markKeyRevoked_showsRevoked {at' : Int}
    (hfound : (markKeyRevoked id at' current).1 = true) :
    (markKeyRevoked id at' current).2.ShowsRevoked id := by
  intro key hkey hkeyID
  unfold markKeyRevoked at hkey
  rw [keys_updateKey _ (updateKey_found.mp hfound), List.mem_map] at hkey
  obtain ⟨old, -, rfl⟩ := hkey
  split
  · simp
  · next hother =>
    rw [if_neg hother] at hkeyID
    exact absurd hkeyID hother

/-! ## Runs -/

structure State where
  current : Snapshot
  /-- the calls of `Reload` that have loaded and not published yet -/
  loaded : List Snapshot

inductive Label where
  /-- a `Reload` has loaded this data, or has failed to load any -/
  | load (data : Option Data)
  /-- a `Reload` publishes, if it still has to -/
  | publish (k : Nat) (order : List Bytes)
  | markKeyRevoked (id at' : Int)
  | markKeyUsed (id at' : Int)
  | markBackendDeleted (id : Int)
  deriving DecidableEq, Repr

/-- `New` -/
def newRegistry : State where
  current := { newSnapshot with revision := -1 }
  loaded := []

def next (s : State) : Label → Option State
  | .load none => some s
  | .load (some data) =>
    match indexData data with
    | .error _ => some s
    | .ok snapshot => some { s with loaded := s.loaded ++ [snapshot] }
  | .publish k order =>
    match s.loaded[k]? with
    | none => none
    | some candidate =>
      if s.current.Ordered order then
        some
          { current := publishReload order candidate s.current
            loaded := s.loaded.eraseIdx k }
      else none
  | .markKeyRevoked id at' => some { s with current := (markKeyRevoked id at' s.current).2 }
  | .markKeyUsed id at' => some { s with current := (markKeyUsed id at' s.current).2 }
  | .markBackendDeleted id => some { s with current := (markBackendDeleted id s.current).2 }

def registry : System State Label where
  init := fun s => s = newRegistry
  step := fun s l s' => next s l = some s'

theorem publishReload_cases (candidate : Snapshot) (horder : current.Ordered order) :
    publishReload order candidate current = current ∨
      Publication current (publishReload order candidate current) := by
  unfold publishReload
  split
  · exact .inl rfl
  · next hnewer => exact .inr (.reload order candidate horder (by omega))

theorem updateKey_not_found
    (h : (updateKey id update current).1 ≠ true) : (updateKey id update current).2 = current := by
  unfold updateKey at h ⊢
  split
  · next hfound =>
    rw [if_pos hfound] at h
    exact absurd rfl h
  · rfl

theorem markBackendDeleted_not_found (h : (markBackendDeleted id current).1 ≠ true) :
    (markBackendDeleted id current).2 = current := by
  unfold markBackendDeleted at h ⊢
  split
  · rfl
  · next backend hfound =>
    rw [hfound] at h
    exact absurd rfl h

variable {s s' : State} {ls : List Label}

/-- A step publishes at most once. -/
theorem next_publishes {l : Label} (h : next s l = some s') :
    s'.current = s.current ∨ Publication s.current s'.current := by
  cases l with
  | load data =>
    left
    rcases data with _ | data
    · cases h
      rfl
    simp only [next] at h
    cases hindex : indexData data with
    | error e | ok snapshot =>
      rw [hindex] at h
      cases h
      rfl
  | publish k order =>
    simp only [next] at h
    cases hk : s.loaded[k]? with
    | none =>
      rw [hk] at h
      cases h
    | some candidate =>
      rw [hk] at h
      obtain ⟨horder, heq⟩ := Option.ite_none_right_eq_some.mp h
      cases heq
      exact publishReload_cases candidate horder
  | markKeyRevoked id at' =>
    cases h
    by_cases hfound : (markKeyRevoked id at' s.current).1 = true
    · exact .inr (.revoked id at' hfound)
    · exact .inl (updateKey_not_found hfound)
  | markKeyUsed id at' =>
    cases h
    by_cases hfound : (markKeyUsed id at' s.current).1 = true
    · exact .inr (.used id at' hfound)
    · exact .inl (updateKey_not_found hfound)
  | markBackendDeleted id =>
    cases h
    by_cases hfound : (markBackendDeleted id s.current).1 = true
    · exact .inr (.deleted id hfound)
    · exact .inl (markBackendDeleted_not_found hfound)

theorem revision_steps (h : registry.Steps s ls s') : s.current.revision ≤ s'.current.revision := by
  induction h with
  | nil s => exact le_refl _
  | cons hstep _ ih =>
    rcases next_publishes hstep with hsame | hpublication
    · rwa [hsame] at ih
    · exact le_trans hpublication.revision_le ih

/-- The step does not bring the key back into the published snapshot. -/
def NotReappearing (id : Int) (s : State) (_ : Label) (s' : State) : Prop :=
  s'.current.Contains id → s.current.Contains id

instance (id : Int) (s : State) (l : Label) (s' : State) : Decidable (NotReappearing id s l s') :=
  inferInstanceAs (Decidable (_ → _))

theorem showsRevoked_steps (h : (registry.restrict (NotReappearing id)).Steps s ls s')
    (hrevoked : s.current.ShowsRevoked id) : s'.current.ShowsRevoked id := by
  induction h with
  | nil s => exact hrevoked
  | cons hstep _ ih =>
    apply ih
    rcases next_publishes hstep.1 with hsame | hpublication
    · rwa [hsame]
    · exact hpublication.showsRevoked hrevoked hstep.2

/-- What holds of every run of the registry that goes through `s`. -/
structure Monotone (s : State) : Prop where
  /-- the published revision never decreases -/
  revision : ∀ ls s', registry.Steps s ls s' → s.current.revision ≤ s'.current.revision
  /-- a `Reload` publishes a larger revision or nothing -/
  reload : ∀ k order s', registry.step s (.publish k order) s' →
    s'.current = s.current ∨ s.current.revision < s'.current.revision
  /-- after a `MarkKeyRevoked` that returned true the key is shown revoked wherever it is
      shown, as long as it does not disappear and come back -/
  revoked : ∀ id at' s', registry.step s (.markKeyRevoked id at') s' →
    (markKeyRevoked id at' s.current).1 = true → ∀ ls s'',
      (registry.restrict (NotReappearing id)).Steps s' ls s'' → s''.current.ShowsRevoked id

theorem registry_monotone (s : State) : Monotone s where
  revision := fun _ _ h => revision_steps h
  reload := by
    intro k order s' hstep
    change next s (.publish k order) = some s' at hstep
    simp only [next] at hstep
    rcases hk : s.loaded[k]? with _ | candidate
    · rw [hk] at hstep
      cases hstep
    rw [hk] at hstep
    obtain ⟨-, heq⟩ := Option.ite_none_right_eq_some.mp hstep
    cases heq
    show publishReload order candidate s.current = s.current ∨
      s.current.revision < (publishReload order candidate s.current).revision
    unfold publishReload
    split
    · exact .inl rfl
    next hnewer =>
    right
    show s.current.revision < candidate.revision
    omega
  revoked := by
    intro id at' s' hstep hfound ls s'' hsteps
    refine showsRevoked_steps hsteps ?_
    cases hstep
    exact markKeyRevoked_showsRevoked hfound

/-! A `Reload` that has loaded the key before it was revoked publishes after. -/

/-- `llmgw_abcdef` -/
def demoPrefix : Bytes := [108, 108, 109, 103, 119, 95, 97, 98, 99, 100, 101, 102]

def demoData (revision : Int) : Data where
  revision := revision
  clients := [⟨1, 1, Bytes.ofText "client", true, .normal, 5, 4, 0, 0⟩]
  keys := [{ id := 7, clientID := 1, keyPrefix := demoPrefix, secretHash := 42 }]

def staleReload : List Label :=
  [.load (some (demoData 1)), .publish 0 [], .load (some (demoData 2))]

/-- The key is published, and a newer copy of it is loaded. -/
def staleReloadState : State := (staleReload.foldlM next newRegistry).getD newRegistry

def revokedState : State :=
  { staleReloadState with current := (markKeyRevoked 7 100 staleReloadState.current).2 }

def reloadedState : State :=
  { current := publishReload [demoPrefix] (revokedState.loaded.getD 0 newSnapshot)
      revokedState.current
    loaded := [] }

theorem registry_monotone_staleReload :
    registry.Reachable staleReloadState ∧ reloadedState.current.Contains 7 ∧
      reloadedState.current.revision = 2 ∧ reloadedState.current.ShowsRevoked 7 := by
  have hreach : registry.Reachable staleReloadState :=
    registry.reachable_of_isSome (fun _ _ _ h => h) rfl staleReload (by decide +kernel)
  have hpublish : (registry.restrict (NotReappearing 7)).Steps revokedState
      [.publish 0 [demoPrefix]] reloadedState :=
    .cons ⟨rfl, by decide +kernel⟩ (.nil _)
  refine ⟨hreach, by decide +kernel, by decide +kernel, ?_⟩
  exact (registry_monotone staleReloadState).revoked 7 100 revokedState rfl (by decide +kernel)
    _ _ hpublish

end Registry
