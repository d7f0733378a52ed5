import Mathlib.Data.List.Destutter
import PriorityGateway.Coordination.Circuit.Local
import PriorityGateway.Coordination.Circuit.Postgres

/-! # Renewal of Tracked Probes

    The monitor renews the probes it tracks and forgets those that the
    coordinator reports as lost.  Which ones these are it learns from the
    lease ids of the answers only:

    * PostgreSQL answers for every probe with the id of its permit;
    * the in-process coordinator answers without an id for a permit that it
      does not hold any more.  The monitor then deletes the zero id, keeps the
      probe and counts it again in the next round (`lost_probe_is_kept`).

    Probes are tracked and completed by others while a round waits for its
    answer, so asking and applying the answer are two steps.  The coordinator
    may be in any state whenever it is asked. -/

namespace Monitor.ProbeRenewal

open Coordination

/-! ## What the coordinators answer -/

/-- The coordinator still has the permit and may renew it. -/
def Held (s : LocalCircuit.CircuitCoordinator) (p : ProbeIdentity) : Prop :=
  ∃ a permit, s.attempts.lookup p.permitID = some a ∧ a.permit = some permit ∧
    a.terminal = false ∧ permit.generation = p.generation

/-- `RenewProbes` of either coordinator, in any state, answers without an error.  `K` is
    what is known of the in-process coordinator and the probes it is asked for. -/
inductive Answers (K : LocalCircuit.CircuitCoordinator → ProbeIdentity → Prop) :
    List ProbeIdentity → List RenewResult → Prop where
  | postgres (o : CircuitBreaker.Options) (db : PostgresCircuit.Db) (now : Int)
      {probes : List ProbeIdentity} {results : List (Option RenewResult)}
      (h : (PostgresCircuit.renewProbes o db now probes).2 = .ok results) :
      -- a permit without a result reads the zero value of the map
      Answers K probes (results.map fun r => r.getD { lease := LocalCircuit.zeroLease })
  | inProcess (o : CircuitBreaker.Options) (s : LocalCircuit.CircuitCoordinator) (now : Int)
      (probes : List ProbeIdentity) (h : ∀ p ∈ probes, K (LocalCircuit.expire o s now) p) :
      Answers K probes (LocalCircuit.renewProbes o s now probes).2

/-- Every answer has the id of its probe. -/
def Names (probes : List ProbeIdentity) (results : List RenewResult) : Prop :=
  List.Forall₂ (fun p r => r.lease.leaseID = p.permitID) probes results

section Coordinators

variable {probes : List ProbeIdentity} {now : Int} {p : ProbeIdentity}

theorem postgres_renewProbe_names (db : PostgresCircuit.Db) (p : ProbeIdentity) :
    (PostgresCircuit.renewProbe now db p).2.lease.leaseID = p.permitID := by
  unfold PostgresCircuit.renewProbe
  split
  · rfl
  split
  · rfl
  split <;> rfl

/-- The result kept for a probe has its id, whatever else was updated. -/
theorem resultByID_names (db : PostgresCircuit.Db) (ordered : List ProbeIdentity)
    (hp : p ∈ ordered) :
    ∃ r, PostgresCircuit.resultByID
        (ordered.zip ((PostgresCircuit.renewLoop now).answers db ordered)) p.permitID = some r ∧
      r.lease.leaseID = p.permitID := by
  have hnames : List.Forall₂ (fun q r => r.lease.leaseID = q.permitID) ordered
      ((PostgresCircuit.renewLoop now).answers db ordered) :=
    (PostgresCircuit.renewLoop now).forall₂_answers (I := fun _ => True) (G := fun _ => True)
      (fun _ _ _ _ => trivial) (fun db q _ _ => postgres_renewProbe_names db q) db ordered trivial
      (fun _ _ => trivial)
  obtain ⟨x, hx, hxp⟩ := List.mem_map.mp ((List.map_fst_zip hnames.length_eq.le).symm ▸ hp)
  unfold PostgresCircuit.resultByID
  cases hfind : List.find? (fun r => decide (r.1.permitID = p.permitID))
      (ordered.zip ((PostgresCircuit.renewLoop now).answers db ordered)).reverse with
  | none =>
    have hnot := List.find?_eq_none.mp hfind x (List.mem_reverse.mpr hx)
    simp [hxp] at hnot
  | some found =>
    have hid : found.1.permitID = p.permitID := by simpa using List.find?_some hfind
    have hmem := List.mem_reverse.mp (List.mem_of_find?_eq_some hfind)
    exact ⟨found.2, rfl, ((List.forall₂_iff_zip.mp hnames).2 hmem).trans hid⟩

theorem Held.renewProbe (s : LocalCircuit.CircuitCoordinator) {q : ProbeIdentity} (h : Held s p) :
    Held (LocalCircuit.renewProbe now s q).1 p := by
  unfold LocalCircuit.renewProbe
  dsimp only
  split
  · exact h
  next a ha =>
  split
  · exact h
  next permit hpermit =>
  split
  · exact h
  generalize (if a.ttl ≤ 0 then q.ttl else a.ttl) = ttl
  split
  · exact h
  -- the renewed attempt keeps its generation and stays live
  by_cases hid : p.permitID = q.permitID
  · obtain ⟨a', permit', ha', hpermit', hterminal, hgeneration⟩ := h
    rw [hid, ha] at ha'
    cases ha'
    rw [hpermit] at hpermit'
    cases hpermit'
    exact ⟨_, _, (Table.lookup_insert_eq _ _ _ _).trans (if_pos hid), rfl, hterminal, hgeneration⟩
  · obtain ⟨a', permit', ha', hrest⟩ := h
    exact ⟨a', permit', (Table.lookup_insert_eq _ _ _ _).trans ((if_neg hid).trans ha'), hrest⟩

theorem Held.names {s : LocalCircuit.CircuitCoordinator} (h : Held s p) :
    (LocalCircuit.renewProbe now s p).2.lease.leaseID = p.permitID := by
  obtain ⟨a, permit, ha, hpermit, hterminal, hgeneration⟩ := h
  unfold LocalCircuit.renewProbe
  simp only [ha, hpermit, hterminal, hgeneration, ne_eq, not_true, or_false, Bool.false_eq_true,
    if_false]
  generalize (if a.ttl ≤ 0 then p.ttl else a.ttl) = ttl
  split <;> rfl

theorem Answers.names {results : List RenewResult} (h : Answers Held probes results) :
    Names probes results := by
  cases h with
  | @postgres o db now _ stored h =>
    unfold PostgresCircuit.renewProbes at h
    split at h
    · next hnil =>
      cases h
      rw [hnil]
      exact .nil
    cases htx : PostgresCircuit.renewProbesTx o db now probes with
    | error failure =>
      rw [htx] at h
      cases h
    | ok answer =>
      rw [htx] at h
      cases h
      obtain ⟨states, -, htx⟩ := Except.bind_eq_ok.mp htx
      obtain ⟨locked, -, htx⟩ := Except.bind_eq_ok.mp htx
      cases htx
      rw [List.map_map, Names, List.forall₂_map_right_iff, List.forall₂_same]
      intro p hp
      obtain ⟨r, hr, hid⟩ := @resultByID_names now p locked
        (PostgresCircuit.renewalOrder probes) ((List.mergeSort_perm _ _).mem_iff.mpr hp)
      simpa [hr] using hid
  | inProcess o s now _ h =>
    exact (LocalCircuit.renewLoop now).forall₂_answers
      (I := fun s => ∀ p ∈ probes, Held s p) (G := fun p => p ∈ probes)
      (fun s q hs _ p hp => (hs p hp).renewProbe s) (fun s p hs hp => (hs p hp).names) _ probes h
      (fun _ hp => hp)

end Coordinators

/-! ## The monitor -/

structure State where
  probes : Table UUID ProbeIdentity := ∅
  /-- The calls of `CoordinationLeaseLost`. -/
  lostLeases : Nat := 0
  /-- A round that was answered and not applied yet. -/
  round : Option (List ProbeIdentity × List RenewResult) := none
  /-- The permits reported as lost in the rounds applied so far. -/
  lost : List UUID := []

inductive Label where
  | track (permit : ProbeIdentity)
  | completed (id : UUID)
  | ask (probes : List ProbeIdentity) (results : List RenewResult)
  | apply

/-- One result, in the loop of `renewProbes`. -/
def applyResult (s : State) (r : RenewResult) : State :=
  if r.reason = some .leaseLost then
    { s with probes := s.probes.erase r.lease.leaseID, lostLeases := s.lostLeases + 1 }
  else s

def lostOf (probes : List ProbeIdentity) (results : List RenewResult) : List UUID :=
  ((probes.zip results).filter fun x => decide (x.2.reason = some .leaseLost)).map
    fun x => x.1.permitID

/-- The monitor with a coordinator that answers by `A`.  The probes are visited in any
    order; the id of a lost permit is not given to another. -/
def renewals (A : List ProbeIdentity → List RenewResult → Prop) : System State Label where
  init := fun s => s = {}
  step := fun s l s' =>
    match l with
    | .track permit => permit.permitID ∉ s.lost ∧
        s' = { s with probes := s.probes.insert permit.permitID permit }
    | .completed id => s' = { s with probes := s.probes.erase id }
    | .ask probes results => s.round = none ∧ probes ≠ [] ∧
        probes.Perm (s.probes.entries.map fun e => e.2) ∧ A probes results ∧
        s' = { s with round := some (probes, results) }
    | .apply => ∃ probes results, s.round = some (probes, results) ∧
        s' = { results.foldl applyResult s with
          round := none
          lost := s.lost ++ lostOf probes results }

/-! ## Lost probes are forgotten -/

variable {probes : List ProbeIdentity} {results : List RenewResult}

/-- The loop over the results of a round. -/
theorem foldl_applyResult (h : Names probes results) (s : State) :
    (∀ id, (results.foldl applyResult s).probes.lookup id =
      if id ∈ lostOf probes results then none else s.probes.lookup id) ∧
    (results.foldl applyResult s).lostLeases = s.lostLeases + (lostOf probes results).length := by
  induction h generalizing s with
  | nil => exact ⟨fun _ => by simp [lostOf], rfl⟩
  | @cons p r probes results hname _ ih =>
    obtain ⟨hlookup, hcount⟩ := ih (applyResult s r)
    rw [List.foldl_cons]
    by_cases hlost : r.reason = some .leaseLost
    · have hone : applyResult s r =
          { s with probes := s.probes.erase p.permitID, lostLeases := s.lostLeases + 1 } := by
        rw [applyResult, if_pos hlost, hname]
      have hcons : lostOf (p :: probes) (r :: results) = p.permitID :: lostOf probes results := by
        simp [lostOf, hlost]
      rw [hone] at hlookup hcount ⊢
      rw [hcons]
      refine ⟨?_, hcount.trans (Nat.succ_add_eq_add_succ _ _)⟩
      intro id
      rw [hlookup, Table.lookup_erase_eq]
      by_cases hid : id = p.permitID
      · simp [hid]
      · simp [hid]
    · have hcons : lostOf (p :: probes) (r :: results) = lostOf probes results := by
        simp [lostOf, hlost]
      rw [hcons]
      rw [show applyResult s r = s from if_neg hlost] at hlookup hcount ⊢
      exact ⟨hlookup, hcount⟩

structure Inv (s : State) : Prop where
  named : ∀ id p, s.probes.lookup id = some p → p.permitID = id
  count : s.lostLeases = s.lost.length
  once : s.lost.Nodup
  forgotten : ∀ id ∈ s.lost, s.probes.lookup id = none
  asked : ∀ probes results, s.round = some (probes, results) → Names probes results ∧
    (probes.map ProbeIdentity.permitID).Nodup ∧ ∀ p ∈ probes, p.permitID ∉ s.lost

variable {s s' : State}

/-- The probes of a round are those of the map, each once. -/
theorem Inv.nodup (h : Inv s) (hperm : probes.Perm (s.probes.entries.map fun e => e.2)) :
    (probes.map ProbeIdentity.permitID).Nodup ∧
      ∀ p ∈ probes, s.probes.lookup p.permitID = some p := by
  have hentry : ∀ e ∈ s.probes.entries, e.2.permitID = e.1 := fun e he =>
    h.named e.1 e.2 (Table.lookup_eq_some_iff.mpr he)
  constructor
  · rw [(hperm.map _).nodup_iff, List.map_map]
    have hkeys : s.probes.entries.map (ProbeIdentity.permitID ∘ fun e => e.2) = s.probes.keys :=
      List.map_congr_left hentry
    rw [hkeys]
    exact s.probes.keys_nodup
  · intro p hp
    obtain ⟨e, he, rfl⟩ := List.mem_map.mp (hperm.mem_iff.mp hp)
    rw [hentry e he]
    exact Table.lookup_eq_some_iff.mpr he

theorem mem_lostOf {id : UUID}
    (h : id ∈ lostOf probes results) : ∃ p ∈ probes, p.permitID = id := by
  obtain ⟨x, hx, rfl⟩ := List.mem_map.mp h
  exact ⟨x.1, (List.of_mem_zip (List.mem_filter.mp hx).1).1, rfl⟩

theorem nodup_lostOf
    (h : Names probes results) (hnodup : (probes.map ProbeIdentity.permitID).Nodup) :
    (lostOf probes results).Nodup := by
  have hall : (probes.zip results).map (fun x => x.1.permitID) =
      probes.map ProbeIdentity.permitID :=
    List.map_map.symm.trans (congrArg (List.map _) (List.map_fst_zip h.length_eq.le))
  exact (hall ▸ hnodup).sublist (List.filter_sublist.map _)

/-- **Step**: every step keeps the account of the lost permits. -/
theorem Inv.step (h : Inv s) {l : Label} (hl : (renewals (Answers Held)).step s l s') : Inv s' := by
  cases l with
  | track permit =>
    obtain ⟨hfresh, rfl⟩ := hl
    refine { h with named := Table.forall_insert rfl h.named, forgotten := ?_ }
    intro id hid
    rw [Table.lookup_insert_eq, if_neg (by rintro rfl; exact hfresh hid)]
    exact h.forgotten id hid
  | completed id =>
    cases hl
    refine { h with named := ?_, forgotten := ?_ }
    · intro id' p hp
      exact h.named id' p (Table.lookup_of_erase hp).2
    · intro id' hid'
      rw [Table.lookup_erase_eq, h.forgotten id' hid']
      split <;> rfl
  | ask probes results =>
    obtain ⟨-, -, hperm, hanswer, rfl⟩ := hl
    refine { h with asked := ?_ }
    intro probes' results' hround
    cases hround
    obtain ⟨hnodup, hlookup⟩ := h.nodup hperm
    refine ⟨hanswer.names, hnodup, ?_⟩
    intro p hp hlost
    have hnone := h.forgotten _ hlost
    rw [hlookup p hp] at hnone
    cases hnone
  | apply =>
    obtain ⟨probes, results, hround, rfl⟩ := hl
    obtain ⟨hnames, hnodup, hnew⟩ := h.asked probes results hround
    obtain ⟨hlookup, hcount⟩ := foldl_applyResult hnames s
    refine ⟨?_, ?_, ?_, ?_, nofun⟩
    · intro id p hp
      rw [hlookup] at hp
      split at hp
      · cases hp
      · exact h.named id p hp
    · show (results.foldl applyResult s).lostLeases = (s.lost ++ lostOf probes results).length
      rw [hcount, h.count, List.length_append]
    · refine List.nodup_append.mpr ⟨h.once, nodup_lostOf hnames hnodup, ?_⟩
      rintro id hid _ hlost rfl
      obtain ⟨p, hp, rfl⟩ := mem_lostOf hlost
      exact hnew p hp hid
    · intro id hid
      show (results.foldl applyResult s).probes.lookup id = none
      rw [hlookup]
      split
      · rfl
      · next hnot =>
        exact h.forgotten id ((List.mem_append.mp hid).resolve_right hnot)

theorem reachable_inv (h : (renewals (Answers Held)).Reachable s) : Inv s := by
  apply (renewals (Answers Held)).invariant ?_ ?_ h
  · rintro s rfl
    exact ⟨nofun, rfl, .nil, nofun, nofun⟩
  · intro s l s' hinv hl
    exact hinv.step hl

/-- **Lost probes stop being renewed.**  Over any number of rounds each permit reported as
    lost is counted once, and none of them is tracked any more.  A round that is applied
    forgets the permits reported as lost, counts them, and keeps every other permit that is
    still there. -/
theorem lost_probes_forgotten (h : (renewals (Answers Held)).Reachable s) :
    (s.lostLeases = s.lost.length ∧ s.lost.Nodup ∧
      ∀ id ∈ s.lost, s.probes.lookup id = none) ∧
    ∀ probes results s', s.round = some (probes, results) →
      (renewals (Answers Held)).step s .apply s' →
      (∀ id ∈ lostOf probes results, s'.probes.lookup id = none) ∧
      (∀ id, id ∉ lostOf probes results → s'.probes.lookup id = s.probes.lookup id) ∧
      s'.lostLeases = s.lostLeases + (lostOf probes results).length := by
  have hinv := reachable_inv h
  refine ⟨⟨hinv.count, hinv.once, hinv.forgotten⟩, ?_⟩
  rintro probes results s' hround ⟨probes', results', hround', rfl⟩
  rw [hround] at hround'
  cases hround'
  obtain ⟨hlookup, hcount⟩ := foldl_applyResult (hinv.asked probes results hround).1 s
  refine ⟨?_, ?_, hcount⟩
  · intro id hid
    exact (hlookup id).trans (if_pos hid)
  · intro id hid
    exact (hlookup id).trans (if_neg hid)

/-! ## Two runs -/

/-- A round of renewals that nobody comes between. -/
theorem renewals_round {A : List ProbeIdentity → List RenewResult → Prop}
    (h : (renewals A).Reachable s) (hround : s.round = none) (hne : probes ≠ [])
    (hperm : probes.Perm (s.probes.entries.map fun e => e.2)) (hanswer : A probes results) :
    (renewals A).Reachable
      { results.foldl applyResult { s with round := some (probes, results) } with
        round := none
        lost := s.lost ++ lostOf probes results } :=
  .step .apply (.step (.ask probes results) h ⟨hround, hne, hperm, hanswer, rfl⟩)
    ⟨probes, results, rfl, rfl⟩

def options : CircuitBreaker.Options :=
  .of 1 1000 1000 1 (by decide)

def backend : BackendIdentity := { id := 1, revision := 1, enabled := true }

def permit : ProbeIdentity := ⟨2, backend, 2, 1, 1010, 10⟩

def tracking : State := { probes := AList.insert 2 permit ∅ }

theorem reachable_tracking (A : List ProbeIdentity → List RenewResult → Prop) :
    (renewals A).Reachable tracking :=
  .step (.track permit) (.init rfl) ⟨List.not_mem_nil, rfl⟩

/-- The circuit is closed, and the permit is unknown. -/
def closedDb : PostgresCircuit.Db where
  backends := fun _ => some backend
  circuits := AList.insert 1 { backendRevision := 1 } ∅
  probes := ∅
  activeFailures := ∅
  receipts := ∅

theorem lost_probes_forgotten_closedDb :
    ∃ s, (renewals (Answers Held)).Reachable s ∧ s.lost = [2] ∧
      s.probes.lookup 2 = none ∧ s.lostLeases = 1 := by
  have hlost : (PostgresCircuit.renewProbes options closedDb 1010 [permit]).2 =
      .ok [some ⟨PostgresCircuit.requestedLease permit, some .leaseLost⟩] := by
    have horder : PostgresCircuit.renewalOrder [permit] = [permit] := List.mergeSort_singleton _
    simp only [PostgresCircuit.renewProbes, PostgresCircuit.renewProbesTx, horder]
    rfl
  have h := renewals_round (reachable_tracking (Answers Held)) rfl (List.cons_ne_nil permit [])
    (.refl _) (.postgres options closedDb 1010 hlost)
  obtain ⟨⟨hcount, -, hforgotten⟩, -⟩ := lost_probes_forgotten h
  exact ⟨_, h, rfl, hforgotten 2 (List.mem_singleton.mpr rfl), hcount⟩

/-- A request fails, the circuit opens, and after the cooldown a probe is permitted. -/
def halfOpened : LocalCircuit.CircuitCoordinator × CircuitDecision :=
  let s := (LocalCircuit.reconcile options (LocalCircuit.newCircuitCoordinator 8) 0 [backend]).1
  let s := (LocalCircuit.acquire options (fun _ => 0) s 0 ⟨1, 0, 1, backend, 10⟩).1
  let s := (LocalCircuit.complete options s 0 ⟨1, backend, 0, .inferenceFailure, 0⟩).1
  LocalCircuit.acquire options (fun _ => 0) s 1000 ⟨2, 1000, 1, backend, 10⟩

/-- A permit that the in-process coordinator gave and that expired is kept, and counted
    in every round. -/
theorem lost_probe_is_kept :
    halfOpened.2.permit = some permit ∧
    ∃ s, (renewals (Answers fun _ _ => True)).Reachable s ∧ s.lost = [2, 2] ∧
      s.probes.lookup 2 = some permit ∧ s.lostLeases = 2 := by
  have hone := renewals_round (reachable_tracking (Answers fun _ _ => True)) rfl
    (List.cons_ne_nil permit []) (.refl _)
    (.inProcess options halfOpened.1 1010 _ fun _ _ => trivial)
  have htwo := renewals_round hone rfl (List.cons_ne_nil permit []) (by decide +kernel)
    (.inProcess options (LocalCircuit.renewProbes options halfOpened.1 1010 [permit]).1 1020 _
      fun _ _ => trivial)
  exact ⟨by decide +kernel, _, htwo, by decide +kernel⟩

end Monitor.ProbeRenewal
