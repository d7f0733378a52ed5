import PriorityGateway.Registry.Publication

/-! # Deleted Backends

    The registry above a store.  Each commit of the store has a larger
    revision than the one before, and the id of a deleted backend is not used
    again.  `MarkBackendDeleted` is called after the deletion was committed,
    and takes the backend out of the published snapshot at once.

    The runtime state of keys is carried into the next snapshot that is
    loaded.  Nothing is carried over for backends: a `Reload` that has loaded
    before the deletion, but has a newer revision than what is published,
    brings the backend back (`deleted_backend_returns`).  If no such `Reload`
    is under way when `MarkBackendDeleted` runs, the backend stays away
    (`backend_deletion_sticks`). -/

namespace Registry

/-! ## Backends of a snapshot -/

def Data.backendIDs (data : Data) : List Int := data.backends.map Backend.id

/-- The backend is in one of the two indexes. -/
def Snapshot.HasBackend (s : Snapshot) (id : Int) : Prop :=
  (s.backendsByID.lookup id).isSome ∨ ∃ entry ∈ s.backendsByPool.entries, ∃ b ∈ entry.2, b.id = id

instance (s : Snapshot) (id : Int) : Decidable (s.HasBackend id) :=
  inferInstanceAs (Decidable (_ ∨ _))

variable {s s' : Snapshot} {revision id : Int} {data : Data}

theorem hasBackend_congr (hid : s'.backendsByID = s.backendsByID)
    (hpool : s'.backendsByPool = s.backendsByPool) (id : Int) :
    s'.HasBackend id ↔ s.HasBackend id := by
  unfold Snapshot.HasBackend
  rw [hid, hpool]

/-- What every step of a fold keeps holds at its end. -/
theorem foldlM_inv {α ε σ : Type} {f : σ → α → Except ε σ} {I : σ → Prop} (as : List α)
    (hstep : ∀ s a s', a ∈ as → I s → f s a = .ok s' → I s') {s s' : σ} (hs : I s)
    (h : as.foldlM f s = .ok s') : I s' := by
  induction as generalizing s with
  | nil =>
    cases h
    exact hs
  | cons a as ih =>
    obtain ⟨s₁, hfirst, h⟩ := Except.bind_eq_ok.mp h
    exact ih (fun s b s' hb => hstep s b s' (List.mem_cons_of_mem _ hb))
      (hstep s a s₁ List.mem_cons_self hs hfirst) h

/-- The first passes of `indexData` leave revision and backends alone. -/
structure Blank (revision : Int) (s : Snapshot) : Prop where
  revision : s.revision = revision
  backendsByID : s.backendsByID = ∅
  backendsByPool : s.backendsByPool = ∅

section

variable (hs : Blank revision s)

include hs

theorem Blank.addClient {client : Client}
    (h : s.addClient client = .ok s') : Blank revision s' := by
  unfold Snapshot.addClient at h
  split at h <;> cases h
  exact ⟨hs.revision, hs.backendsByID, hs.backendsByPool⟩

theorem Blank.addPool {pool : ModelPool} (h : s.addPool pool = .ok s') : Blank revision s' := by
  unfold Snapshot.addPool at h
  split at h
  · cases h
  split at h <;> cases h
  exact ⟨hs.revision, hs.backendsByID, hs.backendsByPool⟩

theorem Blank.addKey {key : APIKey} (h : s.addKey key = .ok s') : Blank revision s' := by
  unfold Snapshot.addKey at h
  split at h <;> cases h
  exact ⟨hs.revision, hs.backendsByID, hs.backendsByPool⟩

theorem Blank.addAccess {a : ClientModelAccess}
    (h : s.addAccess a = .ok s') : Blank revision s' := by
  unfold Snapshot.addAccess at h
  split at h
  · cases h
  split at h <;> cases h
  exact ⟨hs.revision, hs.backendsByID, hs.backendsByPool⟩

end

/-- The last pass: only backends of the data have come in so far. -/
structure Indexed (data : Data) (s : Snapshot) : Prop where
  revision : s.revision = data.revision
  backends : ∀ id, s.HasBackend id → id ∈ data.backendIDs

theorem Indexed.addBackend {backend : Backend} (hs : Indexed data s)
    (hmem : backend ∈ data.backends) (h : s.addBackend backend = .ok s') : Indexed data s' := by
  unfold Snapshot.addBackend at h
  split at h
  · cases h
  split at h
  · cases h
  cases h
  refine ⟨hs.revision, ?_⟩
  intro id hid
  have hnew : backend.id ∈ data.backendIDs := List.mem_map.mpr ⟨backend, hmem, rfl⟩
  rcases hid with hbyID | ⟨entry, hentry, b, hb, hbID⟩
  · have hlookup : ((s.backendsByID.insert backend.id backend).lookup id).isSome := hbyID
    rw [Table.lookup_insert_eq] at hlookup
    split at hlookup
    · next hid =>
      rw [hid]
      exact hnew
    · exact hs.backends id (.inl hlookup)
  · -- the entry is an old one, or the one of the pool with the backend appended
    have hlookup : (s.backendsByPool.insert backend.modelPoolID
        ((s.backendsByPool.lookup backend.modelPoolID).getD [] ++ [backend])).lookup entry.1
        = some entry.2 := Table.lookup_eq_some_iff.mpr hentry
    have hold : ∀ pool backends, s.backendsByPool.lookup pool = some backends → b ∈ backends →
        id ∈ data.backendIDs := by
      intro pool backends hpool hmem'
      have hentry' := Table.lookup_eq_some_iff.mp hpool
      exact hs.backends id (.inr ⟨⟨pool, backends⟩, hentry', b, hmem', hbID⟩)
    rw [Table.lookup_insert_eq] at hlookup
    split at hlookup
    · rw [← Option.some.inj hlookup] at hb
      rcases List.mem_append.mp hb with hb | hb
      · cases hpool : s.backendsByPool.lookup backend.modelPoolID with
        | none =>
          rw [hpool] at hb
          cases hb
        | some backends =>
          rw [hpool] at hb
          exact hold _ _ hpool hb
      · rw [List.mem_singleton.mp hb] at hbID
        rw [← hbID]
        exact hnew
    · exact hold _ _ hlookup hb

/-- A snapshot has the backends of its data, and its revision. -/
theorem indexData_backends (h : indexData data = .ok s) : Indexed data s := by
  unfold indexData at h
  obtain ⟨s₁, hclients, h⟩ := Except.bind_eq_ok.mp h
  obtain ⟨s₂, hpools, h⟩ := Except.bind_eq_ok.mp h
  obtain ⟨s₃, hkeys, h⟩ := Except.bind_eq_ok.mp h
  obtain ⟨s₄, haccess, hbackends⟩ := Except.bind_eq_ok.mp h
  have hstart : Blank data.revision { newSnapshot with revision := data.revision } :=
    ⟨rfl, rfl, rfl⟩
  have h₁ := foldlM_inv _ (fun _ _ _ _ hs h => hs.addClient h) hstart hclients
  have h₂ := foldlM_inv _ (fun _ _ _ _ hs h => hs.addPool h) h₁ hpools
  have h₃ := foldlM_inv _ (fun _ _ _ _ hs h => hs.addKey h) h₂ hkeys
  have h₄ := foldlM_inv _ (fun _ _ _ _ hs h => hs.addAccess h) h₃ haccess
  have hnone : Indexed data s₄ := by
    refine ⟨h₄.revision, ?_⟩
    intro id hid
    unfold Snapshot.HasBackend at hid
    rw [h₄.backendsByID, h₄.backendsByPool] at hid
    rcases hid with hid | ⟨entry, hentry, -⟩
    · cases hid
    · cases hentry
  exact foldlM_inv _ (fun _ _ _ hmem hs h => hs.addBackend hmem h) hnone hbackends

/-- The publishers of keys leave the backends alone, a `Reload` publishes those it has loaded. -/
theorem updateKey_hasBackend (keyID : Int) (update : APIKey → APIKey) (current : Snapshot)
    (id : Int) : (updateKey keyID update current).2.HasBackend id ↔ current.HasBackend id := by
  unfold updateKey
  split
  · exact hasBackend_congr rfl rfl id
  · exact Iff.rfl

/-- After `MarkBackendDeleted` the backend is in neither index, and no other has come in. -/
theorem markBackendDeleted_hasBackend {current : Snapshot}
    (hfound : (markBackendDeleted id current).1 = true) (id' : Int) :
    (markBackendDeleted id current).2.HasBackend id' → id' ≠ id ∧ current.HasBackend id' := by
  unfold markBackendDeleted at hfound ⊢
  rcases hlookup : current.backendsByID.lookup id with _ | backend
  · rw [hlookup] at hfound
    cases hfound
  rintro (hbyID | ⟨entry, hentry, b, hb, hbID⟩)
  · have hkept : ((Table.filter (fun backendID _ => decide (backendID ≠ id))
        current.backendsByID).lookup id').isSome := hbyID
    rw [Table.lookup_filter] at hkept
    obtain ⟨found, hfound⟩ := Option.isSome_iff_exists.mp hkept
    obtain ⟨hold, hne⟩ := Option.filter_eq_some_iff.mp hfound
    refine ⟨by simpa using hne, .inl ?_⟩
    rw [hold]
    rfl
  · -- what is left in a pool was there, and is another backend
    have hmem : entry ∈ (Table.mapRows (fun _ candidates =>
        candidates.filter fun b => decide (b.id ≠ id)) current.backendsByPool).entries :=
      (List.mem_filter.mp hentry).1
    obtain ⟨old, hold, heq⟩ := List.mem_map.mp hmem
    rw [← heq] at hb
    obtain ⟨hb, hne⟩ := List.mem_filter.mp hb
    refine ⟨?_, .inr ⟨old, hold, b, hb, hbID⟩⟩
    rw [← hbID]
    simpa using hne

/-! ## The registry above a store -/

structure Store where
  data : Data
  /-- every backend id that was ever stored -/
  used : List Int

structure World where
  store : Store
  registry : State

inductive WorldLabel where
  | commit (data : Data)
  /-- a `Reload` loads what is stored -/
  | load
  | registry (l : Label)
  deriving DecidableEq, Repr

/-- A commit has a larger revision, and its new backends have new ids. -/
def Store.Accepts (store : Store) (data : Data) : Prop :=
  store.data.revision < data.revision ∧
    ∀ id ∈ data.backendIDs, id ∈ store.data.backendIDs ∨ id ∉ store.used

instance (store : Store) (data : Data) : Decidable (store.Accepts data) :=
  inferInstanceAs (Decidable (_ ∧ _))

def World.next (w : World) : WorldLabel → Option World
  | .commit data =>
    if w.store.Accepts data then some { w with store := ⟨data, w.store.used ++ data.backendIDs⟩ }
    else none
  | .load =>
    (Registry.next w.registry (.load (some w.store.data))).map fun r => { w with registry := r }
  -- data comes from the store only
  | .registry (.load (some _)) => none
  | .registry l => (Registry.next w.registry l).map fun r => { w with registry := r }

/-- Any store, and a registry that has loaded nothing. -/
def world : System World WorldLabel where
  init := fun w => (∀ id ∈ w.store.data.backendIDs, id ∈ w.store.used) ∧ w.registry = newRegistry
  step := fun w l w' => w.next l = some w'

/-- What a step does to the registry: nothing, a load of what is stored, the end of a
    `Reload`, or another publication that brings no backend. -/
inductive WorldStep (w : World) : WorldLabel → World → Prop where
  | commit (data : Data) (h : w.store.Accepts data) :
      WorldStep w (.commit data) { w with store := ⟨data, w.store.used ++ data.backendIDs⟩ }
  | loaded (snapshot : Snapshot) (h : indexData w.store.data = .ok snapshot) :
      WorldStep w .load
        { w with registry := { w.registry with loaded := w.registry.loaded ++ [snapshot] } }
  | same (l : WorldLabel) : WorldStep w l w
  | published (k : Nat) (order : List Bytes) (candidate : Snapshot)
      (hk : w.registry.loaded[k]? = some candidate) :
      WorldStep w (.registry (.publish k order))
        { w with registry :=
          { current := publishReload order candidate w.registry.current
            loaded := w.registry.loaded.eraseIdx k } }
  | key (l : Label) (id : Int) (update : APIKey → APIKey) :
      WorldStep w (.registry l)
        { w with registry :=
          { w.registry with current := (updateKey id update w.registry.current).2 } }
  | deleted (id : Int) (hfound : (markBackendDeleted id w.registry.current).1 = true) :
      WorldStep w (.registry (.markBackendDeleted id))
        { w with registry :=
          { w.registry with current := (markBackendDeleted id w.registry.current).2 } }

variable {l : WorldLabel} {w w' : World}

theorem World.next_inv (h : w.next l = some w') : WorldStep w l w' := by
  cases l with
  | commit data =>
    obtain ⟨haccepts, heq⟩ := Option.ite_none_right_eq_some.mp h
    cases heq
    exact .commit data haccepts
  | load =>
    obtain ⟨r, hr, rfl⟩ := Option.map_eq_some_iff.mp h
    simp only [Registry.next] at hr
    cases hindex : indexData w.store.data with
    | error e =>
      rw [hindex] at hr
      cases hr
      exact .same _
    | ok snapshot =>
      rw [hindex] at hr
      cases hr
      exact .loaded snapshot hindex
  | registry l =>
    cases l with
    | load data =>
      cases data with
      | none =>
        cases h
        exact .same _
      | some data => cases h
    | publish k order =>
      obtain ⟨r, hr, rfl⟩ := Option.map_eq_some_iff.mp h
      simp only [Registry.next] at hr
      cases hk : w.registry.loaded[k]? with
      | none =>
        rw [hk] at hr
        cases hr
      | some candidate =>
        rw [hk] at hr
        obtain ⟨-, heq⟩ := Option.ite_none_right_eq_some.mp hr
        cases heq
        exact .published k order candidate hk
    | markKeyRevoked id at' | markKeyUsed id at' =>
      cases h
      exact .key _ id _
    | markBackendDeleted id =>
      cases h
      by_cases hfound : (markBackendDeleted id w.registry.current).1 = true
      · exact .deleted id hfound
      · rw [markBackendDeleted_not_found hfound]
        exact .same _

/-! ## What comes from where -/

/-- Every backend that is stored, loaded or published was stored once. -/
structure Known (w : World) : Prop where
  stored : ∀ id ∈ w.store.data.backendIDs, id ∈ w.store.used
  loaded : ∀ c ∈ w.registry.loaded, ∀ id, c.HasBackend id → id ∈ w.store.used
  current : ∀ id, w.registry.current.HasBackend id → id ∈ w.store.used

theorem publishReload_hasBackend {order : List Bytes} {candidate current : Snapshot}
    (h : (publishReload order candidate current).HasBackend id) :
    current.HasBackend id ∨ (current.revision < candidate.revision ∧ candidate.HasBackend id) := by
  unfold publishReload at h
  split at h
  · exact .inl h
  · next hnewer => exact .inr ⟨by omega, (hasBackend_congr rfl rfl id).mp h⟩

theorem Known.step (h : Known w) (hstep : WorldStep w l w') : Known w' := by
  cases hstep with
  | commit data haccepts =>
    refine ⟨?_, ?_, ?_⟩
    · intro id hid
      exact List.mem_append_right _ hid
    · intro c hc id hid
      exact List.mem_append_left _ (h.loaded c hc id hid)
    · intro id hid
      exact List.mem_append_left _ (h.current id hid)
  | loaded snapshot hindex =>
    refine ⟨h.stored, ?_, h.current⟩
    intro c hc id hid
    rcases List.mem_append.mp hc with hold | hnew
    · exact h.loaded c hold id hid
    · rw [List.mem_singleton.mp hnew] at hid
      exact h.stored id ((indexData_backends hindex).backends id hid)
  | same => exact h
  | published k order candidate hk =>
    refine ⟨h.stored, ?_, ?_⟩
    · intro c hc id hid
      exact h.loaded c (List.mem_of_mem_eraseIdx hc) id hid
    intro id hid
    rcases publishReload_hasBackend hid with hold | ⟨-, hnew⟩
    · exact h.current id hold
    · exact h.loaded candidate (List.mem_of_getElem? hk) id hnew
  | key l keyID update =>
    refine ⟨h.stored, h.loaded, ?_⟩
    intro id hid
    exact h.current id ((updateKey_hasBackend keyID update _ id).mp hid)
  | deleted deletedID hfound =>
    refine ⟨h.stored, h.loaded, ?_⟩
    intro id hid
    exact h.current id (markBackendDeleted_hasBackend hfound id hid).2

/-- Whoever has loaded the backend and has not published yet is not newer than what is
    published. -/
def NoneNewer (id : Int) (w : World) : Prop :=
  ∀ c ∈ w.registry.loaded, c.HasBackend id → c.revision ≤ w.registry.current.revision

instance (id : Int) (w : World) : Decidable (NoneNewer id w) :=
  inferInstanceAs (Decidable (∀ c ∈ w.registry.loaded, _ → _))

/-- The backend is gone for good: it is not stored and not published, and whoever has
    loaded it has come too late. -/
structure Gone (id : Int) (w : World) : Prop where
  used : id ∈ w.store.used
  stored : id ∉ w.store.data.backendIDs
  published : ¬ w.registry.current.HasBackend id
  outdated : NoneNewer id w

theorem Gone.step (h : Gone id w) (hstep : WorldStep w l w') : Gone id w' := by
  cases hstep with
  | commit data haccepts =>
    refine ⟨List.mem_append_left _ h.used, ?_, h.published, h.outdated⟩
    intro hid
    rcases haccepts.2 id hid with hold | hfresh
    · exact h.stored hold
    · exact hfresh h.used
  | loaded snapshot hindex =>
    refine ⟨h.used, h.stored, h.published, ?_⟩
    intro c hc hid
    rcases List.mem_append.mp hc with hold | hnew
    · exact h.outdated c hold hid
    · rw [List.mem_singleton.mp hnew] at hid
      exact absurd ((indexData_backends hindex).backends id hid) h.stored
  | same => exact h
  | published k order candidate hk =>
    have hcandidate := h.outdated candidate (List.mem_of_getElem? hk)
    refine ⟨h.used, h.stored, ?_, ?_⟩
    · intro hid
      rcases publishReload_hasBackend hid with hold | ⟨hnewer, hnew⟩
      · exact h.published hold
      · have := hcandidate hnew
        omega
    · -- the published revision does not go back
      intro c hc hid
      have hbefore := h.outdated c (List.mem_of_mem_eraseIdx hc) hid
      have hmono : w.registry.current.revision
          ≤ (publishReload order candidate w.registry.current).revision := by
        unfold publishReload
        split
        · exact le_refl _
        · show w.registry.current.revision ≤ candidate.revision
          omega
      exact le_trans hbefore hmono
  | key l keyID update =>
    refine ⟨h.used, h.stored, ?_, ?_⟩
    · intro hid
      exact h.published ((updateKey_hasBackend keyID update _ id).mp hid)
    intro c hc hid
    show c.revision ≤ (updateKey keyID update w.registry.current).2.revision
    rw [updateKey_revision]
    exact h.outdated c hc hid
  | deleted deletedID hfound =>
    refine ⟨h.used, h.stored, ?_, ?_⟩
    · intro hid
      exact h.published (markBackendDeleted_hasBackend hfound id hid).2
    intro c hc hid
    show c.revision ≤ (markBackendDeleted deletedID w.registry.current).2.revision
    rw [(markBackendDeleted_frame deletedID w.registry.current).1]
    exact h.outdated c hc hid

/-! ## The deletion in the published snapshots -/

theorem known_of_reachable (hw : world.Reachable w) : Known w := by
  refine world.invariant ?_ ?_ hw
  · intro w hinit
    obtain ⟨hused, hregistry⟩ := hinit
    refine ⟨hused, ?_, ?_⟩
    · intro c hc
      rw [hregistry] at hc
      cases hc
    · intro id hid
      rw [hregistry] at hid
      rcases hid with hid | ⟨entry, hentry, -⟩
      · cases hid
      · cases hentry
  · intro w l w' hknown hstep
    exact hknown.step (World.next_inv hstep)

/-- **A deleted backend stays away**: if its deletion was committed, no newer `Reload` that
    has loaded it is under way and `MarkBackendDeleted` returns true, no snapshot published
    later has it. -/
theorem backend_deletion_sticks {w w' w'' : World} {id : Int} {ls : List WorldLabel}
    (hw : world.Reachable w) (hdeleted : id ∉ w.store.data.backendIDs) (hnone : NoneNewer id w)
    (hmark : world.step w (.registry (.markBackendDeleted id)) w')
    (htrue : (markBackendDeleted id w.registry.current).1 = true)
    (hsteps : world.Steps w' ls w'') :
    ¬ w''.registry.current.HasBackend id := by
  have hknown := known_of_reachable hw
  have hpublished : w.registry.current.HasBackend id := by
    left
    unfold markBackendDeleted at htrue
    cases hlookup : w.registry.current.backendsByID.lookup id with
    | none =>
      rw [hlookup] at htrue
      cases htrue
    | some backend => rfl
  have hgone : Gone id w' := by
    cases hmark
    refine ⟨hknown.current id hpublished, hdeleted, ?_, ?_⟩
    · intro hid
      exact (markBackendDeleted_hasBackend htrue id hid).1 rfl
    intro c hc hid
    show c.revision ≤ (markBackendDeleted id w.registry.current).2.revision
    rw [(markBackendDeleted_frame id w.registry.current).1]
    exact hnone c hc hid
  have hend : Gone id w'' := by
    clear hmark
    induction hsteps with
    | nil => exact hgone
    | cons hstep _ ih => exact ih (hgone.step (World.next_inv hstep))
  exact hend.published

/-! A pool with one backend, a change elsewhere, and the deletion of the backend. -/

def poolData (revision : Int) (backends : List Backend) : Data where
  revision := revision
  pools := [{ id := 4, revision := 1, publicModelName := Bytes.ofText "model",
              upstreamModelName := Bytes.ofText "upstream", enabled := true,
              maxGatewayInflight := 0, highPriorityReserve := 0, maxWaiting := 0 }]
  backends := backends

def demoBackend : Backend :=
  { id := 9, revision := 1, modelPoolID := 4, name := Bytes.ofText "gpu",
    baseURL := Bytes.ofText "http://127.0.0.1:8000", enabled := true, draining := false }

def demoWorld : World := ⟨⟨poolData 1 [demoBackend], [9]⟩, newRegistry⟩

/-- The backend is published, and its deletion is committed as revision 3. -/
def deletion : List WorldLabel :=
  [.load, .registry (.publish 0 []), .commit (poolData 2 [demoBackend]), .commit (poolData 3 [])]

/-- The same with a `Reload` that has loaded revision 2 and is slow. -/
def slowReload : List WorldLabel :=
  [.load, .registry (.publish 0 []), .commit (poolData 2 [demoBackend]), .load,
    .commit (poolData 3 [])]

/-- The world after these steps, as far as they can be taken. -/
def World.run (ls : List WorldLabel) : World := (ls.foldlM World.next demoWorld).getD demoWorld

def World.after (w : World) (l : WorldLabel) : World := (w.next l).getD w

theorem World.after_step (h : (w.next l).isSome) : world.step w l (w.after l) := by
  obtain ⟨w', hw'⟩ := Option.isSome_iff_exists.mp h
  unfold World.after
  rw [hw']
  exact hw'

def markedWorld : World := (World.run deletion).after (.registry (.markBackendDeleted 9))

theorem run_reachable {ls : List WorldLabel} (h : (ls.foldlM World.next demoWorld).isSome) :
    world.Reachable (World.run ls) :=
  world.reachable_of_isSome (fun _ _ _ h => h) ⟨by decide, rfl⟩ ls h

/-- The deletion is marked and reloaded, and the backend is away at the end. -/
theorem backend_deletion_sticks_deletion :
    let w := (markedWorld.after .load).after (.registry (.publish 0 []))
    (World.run deletion).registry.current.HasBackend 9 ∧ w.registry.current.revision = 3 ∧
      ¬ w.registry.current.HasBackend 9 := by
  refine ⟨by decide +kernel, by decide +kernel, ?_⟩
  exact backend_deletion_sticks (run_reachable (by decide +kernel)) (by decide +kernel)
    (by decide +kernel) (World.after_step (by decide +kernel)) (by decide +kernel)
    (.cons (World.after_step (by decide +kernel))
      (.cons (World.after_step (by decide +kernel)) (.nil _)))

/-- The slow `Reload` goes on after the deletion is marked. -/
def slowPublication : List WorldLabel :=
  slowReload ++ [.registry (.markBackendDeleted 9), .registry (.publish 0 [])]

/-- The slow `Reload` publishes revision 2 over the marked revision 1, with the backend. -/
theorem deleted_backend_returns :
    world.Reachable (World.run slowPublication) ∧
    9 ∉ (World.run slowReload).store.data.backendIDs ∧
    (markBackendDeleted 9 (World.run slowReload).registry.current).1 = true ∧
    (World.run slowPublication).registry.current.HasBackend 9 := by
  refine ⟨run_reachable (by decide +kernel), ?_, ?_, ?_⟩
  all_goals decide +kernel

end Registry
