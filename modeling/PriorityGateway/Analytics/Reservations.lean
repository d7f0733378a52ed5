import PriorityGateway.Analytics.Recorder

/-! # Reservations of the Analytics Recorder

    Two invariants of the recorder under every interleaving.

    * `Balanced`: who holds the permits.  Each permit belongs to a call, to a
      live reservation, to a queued record or to the writer between its two
      receives.  The send of `ResponseComplete` is made by a call that holds a
      permit, so the queue has room; the wait group counts every reservation
      until its last step, so the channel is closed after the last send.
    * `Owned`: what became of each reservation.  `fate` reads it off the
      labels of the run alone; the invariant says that the maps of the recorder
      agree with it, and that each record handed over is in exactly one place. -/

namespace Analytics

/-! ## Who holds the permits -/

/-- The calls in progress that satisfy `p`. -/
def tally (p : Caller → Bool) (calls : Table Nat Caller) : Nat := calls.count fun _ c => p c

/-- What a call counts for; `none` is a call that is not in the table. -/
def weight (p : Caller → Bool) : Option Caller → Nat
  | none => 0
  | some c => if p c then 1 else 0

/-- One call has gone on from `c` to `c'`. -/
def Moves (calls calls' : Table Nat Caller) (c c' : Option Caller) : Prop :=
  ∀ p, tally p calls' + weight p c = tally p calls + weight p c'

section Moves

variable {p : Caller → Bool} {calls : Table Nat Caller} {k : Nat} {c : Caller}

theorem Moves.begun (h : calls.lookup k = none) (c : Caller) :
    Moves calls (calls.insert k c) none (some c) :=
  fun _ => (Nat.add_zero _).trans (Table.count_insert_of_none h)

theorem Moves.on (h : calls.lookup k = some c) (c' : Caller) :
    Moves calls (calls.insert k c') (some c) (some c') :=
  fun _ => Table.count_replace h c'

theorem Moves.ended (h : calls.lookup k = some c) : Moves calls (calls.erase k) (some c) none :=
  fun _ => (Table.count_erase_of_some h).symm

theorem tally_pos (h : calls.lookup k = some c) (hp : p c = true) : 0 < tally p calls :=
  Table.count_pos_of_lookup h hp

end Moves

def Caller.holdsPermit : Caller → Bool
  | .waiting _ | .ending => false
  | .permitted _ | .refused | .releasing | .handing _ => true

/-- The wait group still counts the reservation this call has ended. -/
def Caller.holdsLifecycle : Caller → Bool
  | .waiting _ | .permitted _ | .refused => false
  | .releasing | .handing _ | .ending => true

/-- The permit of the record the writer has just taken. -/
def WriterPhase.owed : WriterPhase → Nat
  | .dequeued => 1
  | .selecting | .flushing _ | .exited => 0

structure Balanced (o : RecorderSettings) (s : Recorder) : Prop where
  permits_eq : s.permits =
    tally Caller.holdsPermit s.calls + s.reserved.size + s.events.length + s.writer.owed
  permits_le : s.permits ≤ o.queueCapacity
  lifecycles_eq : s.lifecycles = s.reserved.size + tally Caller.holdsLifecycle s.calls
  closed : s.eventsClosed = true →
    s.accepting = false ∧ s.closing = false ∧ s.lifecycles = 0
  closing : s.closing = true → s.accepting = false
  leaving : s.writer = .flushing true ∨ s.writer = .exited →
    s.eventsClosed = true ∧ s.events = []
  exited : s.writer = .exited → s.batch = []
  fault_eq : s.fault = none

namespace Balanced

variable {o : RecorderSettings} {s s' : Recorder}

theorem init : Balanced o {} where
  permits_eq := rfl
  permits_le := Nat.zero_le _
  lifecycles_eq := rfl
  closed := by intro h; cases h
  closing := by intro h; cases h
  leaving := by rintro (h | h) <;> cases h
  exited := by intro h; cases h
  fault_eq := rfl

variable {c : Caller} {k : Nat}

section

variable (h : Balanced o s) (hk : s.calls.lookup k = some c)
include h hk

/-- While a call ends a reservation, the queue is open. -/
theorem open_of_lifecycle (hc : c.holdsLifecycle = true) : s.eventsClosed = false := by
  have hpos := tally_pos (p := Caller.holdsLifecycle) hk hc
  have hlife := h.lifecycles_eq
  cases hclosed : s.eventsClosed with
  | false => rfl
  | true =>
    have := (h.closed hclosed).2.2
    omega

/-- A call with a permit leaves room in the queue. -/
theorem room_of_permit (hc : c.holdsPermit = true) : s.events.length < o.queueCapacity := by
  have hpos := tally_pos (p := Caller.holdsPermit) hk hc
  have hpermits := h.permits_eq
  have hle := h.permits_le
  omega

/-- No call that takes its permit back waits for one. -/
theorem permit_ready (hc : c.holdsPermit = true) : 0 < s.permits := by
  have hpos := tally_pos (p := Caller.holdsPermit) hk hc
  have hpermits := h.permits_eq
  omega

end

theorem writer_ready (h : Balanced o s) (hw : s.writer = .dequeued) : 0 < s.permits := by
  have hpermits := h.permits_eq
  rw [hw] at hpermits
  simp only [WriterPhase.owed] at hpermits
  omega

/-- While the writer still selects, `leaving` and `exited` say nothing. -/
theorem not_leaving {w : WriterPhase} (hw : w = .selecting ∨ w = .dequeued ∨ w = .flushing false) :
    ¬(w = .flushing true ∨ w = .exited) := by
  rcases hw with rfl | rfl | rfl <;> simp

theorem not_closed (h : Balanced o s) (hopen : s.accepting = true) : s.eventsClosed ≠ true := by
  intro hclosed
  have := (h.closed hclosed).1
  simp [hopen] at this

variable {calls : Table Nat Caller} {was now : Option Caller} {permits lifecycles : Nat}

/-- A call goes on, with the permits and the lifecycles that it takes or gives back. -/
theorem moved (h : Balanced o s) (hm : Moves s.calls calls was now)
    (hp : permits + weight Caller.holdsPermit was = s.permits + weight Caller.holdsPermit now)
    (hle : permits ≤ o.queueCapacity) (hl : lifecycles + weight Caller.holdsLifecycle was =
      s.lifecycles + weight Caller.holdsLifecycle now) (hzero : lifecycles ≤ s.lifecycles) :
    Balanced o { s with permits := permits, lifecycles := lifecycles, calls := calls } := by
  have hpermits := h.permits_eq
  have hlife := h.lifecycles_eq
  have hholders := hm Caller.holdsPermit
  have hlive := hm Caller.holdsLifecycle
  exact { h with
    permits_eq := by dsimp only; omega
    permits_le := hle
    lifecycles_eq := by dsimp only; omega
    closed := fun hclosed => by
      obtain ⟨haccepting, hclosing, hnone⟩ := h.closed hclosed
      exact ⟨haccepting, hclosing, by dsimp only; omega⟩ }

variable {requestID : String} {n : Nat}

/-- A live reservation ends: its permit and its lifecycle pass to the call. -/
theorem ending (h : Balanced o s) {pending : Table Nat RequestRecord} {rolledBack : List Nat}
    (hk : s.calls.lookup k = none) (howner : s.reserved.lookup requestID = some n)
    (c : Caller) (hpermit : c.holdsPermit = true) (hlifecycle : c.holdsLifecycle = true) :
    Balanced o { s with
      rolledBack := rolledBack
      reserved := s.reserved.erase requestID
      pending := pending
      calls := s.calls.insert k c } := by
  have hholders := Moves.begun hk c Caller.holdsPermit
  have hlive := Moves.begun hk c Caller.holdsLifecycle
  have hsize := Table.size_erase_of_some howner
  have hpermits := h.permits_eq
  have hlife := h.lifecycles_eq
  simp only [weight, hpermit, hlifecycle, if_true] at hholders hlive
  exact { h with permits_eq := by dsimp only; omega, lifecycles_eq := by dsimp only; omega }

/-- The permit and the new count of the wait group pass to the reservation. -/
theorem register (h : Balanced o s) {reservations : List String}
    (hk : s.calls.lookup k = some (.permitted requestID)) (hopen : s.accepting = true)
    (hfree : s.reserved.lookup requestID = none) :
    Balanced o { s with
      reserved := s.reserved.insert requestID n
      reservations := reservations
      lifecycles := s.lifecycles + 1
      calls := s.calls.erase k } := by
  have hholders := Moves.ended hk Caller.holdsPermit
  have hlive := Moves.ended hk Caller.holdsLifecycle
  have hsize := Table.size_insert_of_none (r := n) hfree
  have hpermits := h.permits_eq
  have hlife := h.lifecycles_eq
  simp only [weight, Caller.holdsPermit, Caller.holdsLifecycle, Bool.false_eq_true, if_false,
    if_true] at hholders hlive
  exact { h with
    permits_eq := by dsimp only; omega
    lifecycles_eq := by dsimp only; omega
    closed := fun hclosed => absurd hclosed (h.not_closed hopen) }

theorem send (h : Balanced o s) {item : Item} (hk : s.calls.lookup k = some (.handing item))
    (hopen : s.eventsClosed = false) :
    Balanced o { s with
      events := s.events ++ [item]
      calls := s.calls.insert k .ending } := by
  have hholders := Moves.on hk .ending Caller.holdsPermit
  have hlive := Moves.on hk .ending Caller.holdsLifecycle
  have hlen : (s.events ++ [item]).length = s.events.length + 1 := by simp
  have hpermits := h.permits_eq
  have hlife := h.lifecycles_eq
  simp only [weight, Caller.holdsPermit, Caller.holdsLifecycle, Bool.false_eq_true, if_false,
    if_true] at hholders hlive
  exact { h with
    permits_eq := by dsimp only; omega
    lifecycles_eq := by dsimp only; omega
    leaving := fun hw => by
      have := (h.leaving hw).1
      simp [hopen] at this }

end Balanced

/-! ## What became of a reservation -/

/-- A reservation is live, with the record staged last, or it has ended and handed a
    record over or none. -/
inductive Fate where
  | live (staged : Option RequestRecord)
  | ended (handed : Option RequestRecord)
  deriving DecidableEq, Repr

/-- The reservation that a step is about. -/
def Label.reservation : Label → Option Nat
  | .stage n _ | .responseComplete _ n | .rollback _ n => some n
  | _ => none

/-- The first `ResponseComplete` or rollback ends the reservation. -/
def Label.ends (n : Nat) : Label → Bool
  | .responseComplete _ m | .rollback _ m => decide (m = n)
  | _ => false

def Label.stages (n : Nat) : Label → Option RequestRecord
  | .stage m event => if m = n then some (requestRecord event) else none
  | _ => none

def Fate.after (n : Nat) (f : Fate) (l : Label) : Fate :=
  match f, l with
  | .live staged, .stage m event => .live (if m = n then some (requestRecord event) else staged)
  | .live staged, .responseComplete _ m => if m = n then .ended staged else .live staged
  | .live staged, .rollback _ m => if m = n then .ended none else .live staged
  | f, _ => f

def fate (ls : List Label) (n : Nat) : Fate := ls.foldl (Fate.after n) (.live none)

/-- The reservation was ended by `ResponseComplete`, not rolled back first, and `record` is
    what was staged last before that. -/
def Handed (ls : List Label) (n : Nat) (record : RequestRecord) : Prop :=
  ∃ before k after, ls = before ++ .responseComplete k n :: after ∧
    (∀ l ∈ before, l.ends n = false) ∧ (before.filterMap (Label.stages n)).getLast? = some record

theorem fate_append (ls : List Label) (l : Label) (n : Nat) :
    fate (ls ++ [l]) n = (fate ls n).after n l := by
  simp [fate, List.foldl_append]

variable {l : Label} {m n : Nat} {ls : List Label} {handed : Option RequestRecord}

theorem Fate.after_other (h : l.reservation ≠ some n) (f : Fate) : f.after n l = f := by
  cases f with
  | ended handed => rfl
  | live staged =>
    cases l with
    | stage m event =>
      have hm : m ≠ n := fun heq => h (congrArg some heq)
      simp [Fate.after, hm]
    | responseComplete k m | rollback k m => exact if_neg fun heq => h (congrArg some heq)
    | _ => rfl

theorem fate_append_other (h : l.reservation ≠ some n) : fate (ls ++ [l]) n = fate ls n := by
  rw [fate_append, Fate.after_other h]

/-- What is done with a reservation that has ended changes nothing. -/
theorem fate_append_ended (hl : l.reservation = some m) (h : fate ls m = .ended handed)
    (n : Nat) : fate (ls ++ [l]) n = fate ls n := by
  by_cases hn : m = n
  · subst hn
    rw [fate_append, h]
    rfl
  · exact fate_append_other fun heq => hn (Option.some.inj (hl.symm.trans heq))

theorem foldl_after_ended (n : Nat) (handed : Option RequestRecord) (ls : List Label) :
    ls.foldl (Fate.after n) (.ended handed) = .ended handed := by
  induction ls with
  | nil => rfl
  | cons l ls ih => exact ih

/-- A reservation is live as long as nothing ended it. -/
theorem fate_eq_live (h : ∀ l ∈ ls, l.ends n = false) :
    fate ls n = .live (ls.filterMap (Label.stages n)).getLast? := by
  induction ls using List.reverseRecOn with
  | nil => rfl
  | append_singleton ls l ih =>
    have hend := h l (by simp)
    rw [fate_append, ih (fun b hb => h b (by simp [hb])), List.filterMap_append]
    cases l with
    | stage m event =>
      by_cases hm : m = n
      · simp [Fate.after, Label.stages, hm]
      · simp [Fate.after, Label.stages, hm]
    | responseComplete k m | rollback k m =>
      have hm : m ≠ n := of_decide_eq_false hend
      simp [Fate.after, Label.stages, hm]
    | _ => simp [Fate.after, Label.stages]

theorem not_ends_of_live {staged : Option RequestRecord} (h : fate ls n = .live staged) :
    ∀ l ∈ ls, l.ends n = false := by
  induction ls using List.reverseRecOn generalizing staged with
  | nil => intro l hl; cases hl
  | append_singleton ls l ih =>
    rw [fate_append] at h
    cases hf : fate ls n with
    | ended handed =>
      rw [hf] at h
      cases h
    | live staged' =>
      rw [hf] at h
      intro b hb
      rcases List.mem_append.mp hb with hb | hb
      · exact ih hf b hb
      obtain rfl := List.mem_singleton.mp hb
      by_contra hend
      -- a step that ends the reservation would not have left it live
      cases b with
      | responseComplete k m | rollback k m =>
        have hm : m = n := by simpa [Label.ends] using hend
        simp [Fate.after, hm] at h
      | _ => exact hend rfl

variable {record : RequestRecord}

theorem Handed.append (h : Handed ls n record) (l : Label) : Handed (ls ++ [l]) n record := by
  obtain ⟨before, k, after, rfl, hlive, hrecord⟩ := h
  exact ⟨before, k, after ++ [l], by simp, hlive, hrecord⟩

/-- The two readings of the history agree. -/
theorem handed_iff : Handed ls n record ↔ fate ls n = .ended (some record) := by
  constructor
  · rintro ⟨before, k, after, rfl, hlive, hrecord⟩
    have hbefore := fate_eq_live hlive
    unfold fate at hbefore ⊢
    rw [List.foldl_append, hbefore, hrecord, List.foldl_cons]
    simp only [Fate.after, if_true]
    exact foldl_after_ended n _ after
  · intro h
    induction ls using List.reverseRecOn with
    | nil => cases h
    | append_singleton ls l ih =>
      rw [fate_append] at h
      cases hf : fate ls n with
      | ended handed =>
        rw [hf] at h
        exact (ih (hf.trans h)).append l
      | live staged =>
        -- the last step ended the reservation, and only `ResponseComplete` hands over
        rw [hf] at h
        have hlive := not_ends_of_live hf
        cases l with
        | responseComplete k m =>
          simp only [Fate.after] at h
          split at h
          · next hm =>
            subst hm
            cases h
            refine ⟨ls, k, [], rfl, hlive, ?_⟩
            have hsame := (fate_eq_live hlive).symm.trans hf
            exact Fate.live.inj hsame
          · cases h
        | rollback k m =>
          simp only [Fate.after] at h
          split at h <;> cases h
        | _ => cases h

/-! ## Where a handed record is -/

/-- How often an item is in the store's batches, in the writer's batch, in the queue and in
    the hands of a call. -/
def Recorder.places (s : Recorder) (item : Item) : Nat :=
  s.inserted.flatten.count item + s.batch.count item + s.events.count item +
    tally (fun c => decide (c = .handing item)) s.calls

/-- How often it should be. -/
def due (ls : List Label) (item : Item) : Nat :=
  if fate ls item.owner = .ended (some item.record) then 1 else 0

structure Owned (ls : List Label) (s : Recorder) : Prop where
  named : ∀ requestID n, s.reserved.lookup requestID = some n →
    s.reservations[n]? = some requestID
  live : ∀ requestID n, s.reservations[n]? = some requestID →
    s.reserved.lookup requestID = some n → fate ls n = .live (s.pending.lookup n)
  gone : ∀ requestID n, s.reservations[n]? = some requestID →
    s.reserved.lookup requestID ≠ some n → ∃ handed, fate ls n = .ended handed
  unborn : ∀ n, s.reservations.length ≤ n →
    fate ls n = .live none ∧ s.pending.lookup n = none
  accounted : ∀ item, s.places item = due ls item

namespace Owned

variable {o : RecorderSettings} {s s' : Recorder}

theorem init : Owned [] {} where
  named := by intro requestID n h; cases h
  live := by intro requestID n h; cases h
  gone := by intro requestID n h; cases h
  unborn := fun _ _ => ⟨rfl, rfl⟩
  accounted := fun _ => rfl

variable {requestID : String} {k permits lifecycles : Nat} {c : Caller} {rolledBack : List Nat}

section

variable (h : Owned ls s)

include h

/-- A step that leaves the fate of every reservation as it was. -/
theorem same_fate {ls' : List Label} (hfate : ∀ n, fate ls' n = fate ls n) : Owned ls' s where
  named := h.named
  live := fun id n hn howner => (hfate n).trans (h.live id n hn howner)
  gone := fun id n hn howner => by
    rw [hfate]
    exact h.gone id n hn howner
  unborn := fun n hn => by
    rw [hfate]
    exact h.unborn n hn
  accounted := fun item => by
    unfold due
    rw [hfate]
    exact h.accounted item

/-- A step on a reservation that has ended, whatever it does to the staged record. -/
theorem act_ended {pending : Table Nat RequestRecord} (hl : l.reservation = some n)
    (hn : s.reservations[n]? = some requestID) (howner : s.reserved.lookup requestID ≠ some n)
    (hpending : ∀ m, m ≠ n → pending.lookup m = s.pending.lookup m) :
    Owned (ls ++ [l]) { s with rolledBack := rolledBack, pending := pending } := by
  obtain ⟨handed, hended⟩ := h.gone requestID n hn howner
  have hborn := (List.getElem?_eq_some_iff.mp hn).1
  have hsame := h.same_fate (fate_append_ended hl hended)
  refine { hsame with live := ?_, unborn := ?_ }
  · intro id m hm hid
    have hne : m ≠ n := by
      rintro rfl
      rw [hn] at hm
      obtain rfl := Option.some.inj hm
      exact howner hid
    show fate _ m = .live (pending.lookup m)
    rw [hpending m hne]
    exact hsame.live id m hm hid
  · intro m hm
    obtain ⟨hlive, hnone⟩ := hsame.unborn m hm
    refine ⟨hlive, (hpending m ?_).trans hnone⟩
    change s.reservations.length ≤ m at hm
    omega

/-- A live reservation ends, and `c` is what the call that ended it goes on with. -/
theorem act_ending (hl : l.reservation = some n) (hn : s.reservations[n]? = some requestID)
    (hk : s.calls.lookup k = none) (howner : s.reserved.lookup requestID = some n) (c : Caller)
    (hends : (Fate.live (s.pending.lookup n)).after n l = .ended handed)
    (hhands : ∀ item, c = .handing item ↔ item.owner = n ∧ handed = some item.record) :
    Owned (ls ++ [l]) { s with
      rolledBack := rolledBack
      reserved := s.reserved.erase requestID
      pending := s.pending.erase n
      calls := s.calls.insert k c } := by
  have hlive := h.live requestID n hn howner
  have hended : fate (ls ++ [l]) n = .ended handed := by
    rw [fate_append, hlive, hends]
  have hkept : ∀ m, n ≠ m → fate (ls ++ [l]) m = fate ls m := by
    intro m hm
    exact fate_append_other fun heq => hm (Option.some.inj (hl.symm.trans heq))
  have hborn := (List.getElem?_eq_some_iff.mp hn).1
  refine { named := ?_, live := ?_, gone := ?_, unborn := ?_, accounted := ?_ }
  · intro id m hid
    exact h.named id m (Table.lookup_of_erase hid).2
  · intro id m hm hid
    simp only [Table.lookup_erase_eq] at hid ⊢
    split at hid
    · cases hid
    next hne =>
    have hother : n ≠ m := by
      rintro rfl
      rw [hn] at hm
      exact hne (Option.some.inj hm).symm
    rw [hkept m hother, if_neg (Ne.symm hother)]
    exact h.live id m hm hid
  · intro id m hm hid
    simp only [Table.lookup_erase_eq] at hid ⊢
    by_cases hother : n = m
    · subst hother
      exact ⟨handed, hended⟩
    rw [hkept m hother]
    apply h.gone id m hm
    split at hid
    · next hsame =>
      -- the request's reservation was the one that ended
      subst hsame
      rw [howner]
      exact fun heq => hother (Option.some.inj heq)
    · exact hid
  · intro m hm
    obtain ⟨hfate, hnone⟩ := h.unborn m hm
    have hother : n ≠ m := by
      change s.reservations.length ≤ m at hm
      omega
    simp only [Table.lookup_erase_eq]
    rw [hkept m hother, if_neg (Ne.symm hother)]
    exact ⟨hfate, hnone⟩
  · intro item
    have htally := Moves.begun hk c (fun c => decide (c = .handing item))
    have hold := h.accounted item
    simp only [weight, decide_eq_true_eq, hhands item] at htally
    simp only [Recorder.places, due] at hold ⊢
    by_cases howns : item.owner = n
    · rw [howns] at hold htally ⊢
      rw [hlive] at hold
      rw [hended]
      simp only [reduceCtorEq, if_false] at hold
      simp only [Fate.ended.injEq]
      simp only [true_and] at htally
      omega
    · rw [hkept _ (Ne.symm howns)]
      rw [if_neg (fun hc => howns hc.1)] at htally
      omega

theorem register (hk : s.calls.lookup k = some (.permitted requestID))
    (hfree : s.reserved.lookup requestID = none) :
    Owned ls { s with
      reserved := s.reserved.insert requestID s.reservations.length
      reservations := s.reservations ++ [requestID]
      lifecycles := lifecycles
      calls := s.calls.erase k } := by
  refine { named := ?_, live := ?_, gone := ?_, unborn := ?_, accounted := ?_ }
  · intro id m hid
    simp only [Table.lookup_insert_eq] at hid
    split at hid
    · next hsame =>
      obtain rfl := Option.some.inj hid
      simp [hsame]
    · have hold := h.named id m hid
      have hlt := (List.getElem?_eq_some_iff.mp hold).1
      simpa [List.getElem?_append_left hlt] using hold
  · intro id m hm hid
    simp only [Table.lookup_insert_eq] at hid
    split at hid
    · obtain rfl := Option.some.inj hid
      obtain ⟨hlive, hnone⟩ := h.unborn s.reservations.length (Nat.le_refl _)
      show fate ls _ = .live (s.pending.lookup _)
      rw [hlive, hnone]
    · exact h.live id m (h.named id m hid) hid
  · intro id m hm hid
    simp only [Table.lookup_insert_eq] at hid
    by_cases hlt : m < s.reservations.length
    · simp only [List.getElem?_append_left hlt] at hm
      apply h.gone id m hm
      split at hid
      · next hsame =>
        rw [hsame, hfree]
        simp
      · exact hid
    · -- the only other number is the new one, which is live
      have hlast := (List.getElem?_eq_some_iff.mp hm).1
      simp only [List.length_append, List.length_singleton] at hlast
      have hm' : m = s.reservations.length := by omega
      subst hm'
      simp only [List.getElem?_concat_length, Option.some.injEq] at hm
      exact absurd (if_pos hm.symm) hid
  · intro m hm
    simp only [List.length_append, List.length_singleton] at hm
    exact h.unborn m (by omega)
  · intro item
    have htally := Moves.ended hk (fun c => decide (c = .handing item))
    have hold := h.accounted item
    simp only [weight, decide_eq_true_eq, reduceCtorEq, if_false] at htally
    simp only [Recorder.places] at hold ⊢
    omega

theorem stage {event : RequestEvent}
    (hn : s.reservations[n]? = some requestID) (howner : s.reserved.lookup requestID = some n) :
    Owned (ls ++ [.stage n event])
      { s with pending := s.pending.insert n (requestRecord event) } := by
  have hlive := h.live requestID n hn howner
  have hstaged : fate (ls ++ [.stage n event]) n = .live (some (requestRecord event)) := by
    rw [fate_append, hlive]
    exact congrArg Fate.live (if_pos rfl)
  have hborn := (List.getElem?_eq_some_iff.mp hn).1
  have hother : ∀ m, m ≠ n → fate (ls ++ [.stage n event]) m = fate ls m :=
    fun m hm => fate_append_other fun heq => hm (Option.some.inj heq).symm
  refine { named := h.named, live := ?_, gone := ?_, unborn := ?_, accounted := ?_ }
  · intro id m hm hid
    simp only [Table.lookup_insert_eq]
    by_cases hsame : m = n
    · rw [if_pos hsame, hsame]
      exact hstaged
    · rw [if_neg hsame, hother m hsame]
      exact h.live id m hm hid
  · intro id m hm hid
    have hne : m ≠ n := by
      rintro rfl
      rw [hn] at hm
      obtain rfl := Option.some.inj hm
      exact hid howner
    obtain ⟨handed, hended⟩ := h.gone id m hm hid
    exact ⟨handed, (hother m hne).trans hended⟩
  · intro m hm
    obtain ⟨hfate, hnone⟩ := h.unborn m hm
    have hne : m ≠ n := by
      change s.reservations.length ≤ m at hm
      omega
    simp only [Table.lookup_insert_eq]
    rw [if_neg hne, hother m hne]
    exact ⟨hfate, hnone⟩
  · intro item
    have hold := h.accounted item
    show s.places item = due (ls ++ [.stage n event]) item
    rw [hold]
    unfold due
    by_cases howns : item.owner = n
    · rw [howns, hlive, hstaged]
      simp
    · rw [hother _ howns]

/-- A call goes on without a record in its hands. -/
theorem moved {calls : Table Nat Caller}
    {was now : Option Caller} (hm : Moves s.calls calls was now)
    (hhands : ∀ item, weight (fun c => decide (c = .handing item)) was =
      weight (fun c => decide (c = .handing item)) now) :
    Owned ls { s with permits := permits, lifecycles := lifecycles, calls := calls } :=
  { h with
    accounted := fun item => by
      have hold := h.accounted item
      have htally := hm fun c => decide (c = .handing item)
      rw [hhands item] at htally
      simp only [Recorder.places] at hold ⊢
      omega }

theorem send {item : Item} (hk : s.calls.lookup k = some (.handing item)) :
    Owned ls { s with
      events := s.events ++ [item]
      calls := s.calls.insert k .ending } := by
  refine { h with accounted := ?_ }
  intro other
  have htally := Moves.on hk .ending (fun c => decide (c = .handing other))
  have hold := h.accounted other
  simp only [weight, decide_eq_true_eq, reduceCtorEq, if_false, Caller.handing.injEq] at htally
  simp only [Recorder.places, List.count_append, List.count_singleton, beq_iff_eq] at hold ⊢
  omega

end

end Owned

/-! ## Steps -/

structure Inv (o : RecorderSettings) (ls : List Label) (s : Recorder) : Prop where
  balanced : Balanced o s
  owned : Owned ls s

section Steps

variable {o : RecorderSettings} {s s' : Recorder} {k n : Nat} {calls : Table Nat Caller}

theorem Inv.moved (h : Inv o ls s) {permits lifecycles : Nat}
    {was now : Option Caller} (hm : Moves s.calls calls was now)
    (hp : permits + weight Caller.holdsPermit was = s.permits + weight Caller.holdsPermit now)
    (hle : permits ≤ o.queueCapacity) (hl : lifecycles + weight Caller.holdsLifecycle was =
      s.lifecycles + weight Caller.holdsLifecycle now) (hzero : lifecycles ≤ s.lifecycles)
    (hhands : ∀ item, weight (fun c => decide (c = .handing item)) was =
      weight (fun c => decide (c = .handing item)) now) :
    Inv o ls { s with permits := permits, lifecycles := lifecycles, calls := calls } :=
  ⟨h.balanced.moved hm hp hle hl hzero, h.owned.moved hm hhands⟩

theorem takeBack_eq_some (h : s.takeBack calls = some s') :
    0 < s.permits ∧ s' = { s with permits := s.permits - 1, calls := calls } := by
  obtain ⟨hpos, ⟨⟩⟩ := Option.ite_none_right_eq_some.mp h
  exact ⟨hpos, rfl⟩

/-! ### `ReserveResponseComplete` -/

variable (h : Inv o ls s)
include h

theorem reserve_inv {requestID : String} (hs : reserve s k requestID = some s') : Inv o ls s' := by
  obtain ⟨hguard, ⟨⟩⟩ := Option.ite_none_right_eq_some.mp hs
  exact h.moved (.begun hguard.2.2.2 _) rfl h.balanced.permits_le rfl (Nat.le_refl _) (fun _ => rfl)

theorem takePermit_inv (hs : takePermit o s k = some s') : Inv o ls s' := by
  unfold takePermit at hs
  split at hs
  · next hk =>
    obtain ⟨hroom, ⟨⟩⟩ := Option.ite_none_right_eq_some.mp hs
    exact h.moved (.on hk _) rfl hroom rfl (Nat.le_refl _) (fun _ => rfl)
  · cases hs

theorem giveUp_inv (hs : giveUp s k = some s') : Inv o ls s' := by
  unfold giveUp at hs
  split at hs <;> cases hs
  next hk => exact h.moved (.ended hk) rfl h.balanced.permits_le rfl (Nat.le_refl _) (fun _ => rfl)

theorem register_inv (hs : register s k = some s') : Inv o ls s' := by
  unfold register at hs
  split at hs
  · next hk =>
    obtain ⟨⟨hopen, hfree⟩, ⟨⟩⟩ := Option.ite_none_right_eq_some.mp hs
    exact ⟨h.balanced.register hk hopen hfree, h.owned.register hk hfree⟩
  · cases hs

theorem refuse_inv (hs : refuse s k = some s') : Inv o ls s' := by
  unfold refuse at hs
  split at hs <;> cases hs
  next hk => exact h.moved (.on hk _) rfl h.balanced.permits_le rfl (Nat.le_refl _) (fun _ => rfl)

theorem returnPermit_inv (hs : returnPermit s k = some s') : Inv o ls s' := by
  unfold returnPermit at hs
  split at hs
  · next hk =>
    obtain ⟨hpos, rfl⟩ := takeBack_eq_some hs
    exact h.moved (.ended hk) (Nat.sub_add_cancel hpos)
      ((Nat.sub_le _ _).trans h.balanced.permits_le) rfl (Nat.le_refl _) (fun _ => rfl)
  · cases hs

/-! ### Reservations -/

theorem rollback_inv (hs : rollback s k n = some s') :
    Inv o (ls ++ [.rollback k n]) s' := by
  unfold rollback at hs
  split at hs
  · cases hs
  next hn =>
  obtain ⟨hguard, hs⟩ := Option.ite_none_left_eq_some.mp hs
  obtain ⟨-, hk⟩ := not_or.mp hguard
  rw [Option.not_isSome_iff_eq_none] at hk
  simp only [Recorder.owns, decide_eq_true_eq] at hs
  split at hs
  · next howner =>
    cases hs
    exact ⟨h.balanced.ending hk howner .releasing rfl rfl,
      h.owned.act_ending rfl hn hk howner .releasing (if_pos rfl) (by simp)⟩
  · next howner =>
    cases hs
    exact ⟨{ h.balanced with }, h.owned.act_ended rfl hn howner (fun _ _ => rfl)⟩

theorem stage_inv {event : RequestEvent} (hs : stage s n event = some s') :
    Inv o (ls ++ [.stage n event]) s' := by
  unfold stage at hs
  split at hs
  · cases hs
  next hn =>
  obtain ⟨-, hs⟩ := Option.ite_none_left_eq_some.mp hs
  simp only [Recorder.owns, decide_eq_true_eq] at hs
  split at hs
  · next howner =>
    cases hs
    exact ⟨{ h.balanced with }, h.owned.stage hn howner⟩
  · next howner =>
    cases hs
    exact ⟨{ h.balanced with }, h.owned.act_ended rfl hn howner (fun _ _ => rfl)⟩

theorem responseComplete_inv (hs : responseComplete s k n = some s') :
    Inv o (ls ++ [.responseComplete k n]) s' := by
  unfold responseComplete at hs
  split at hs
  · cases hs
  next hn =>
  obtain ⟨hk, hs⟩ := Option.ite_none_left_eq_some.mp hs
  rw [Option.not_isSome_iff_eq_none] at hk
  simp only [Recorder.owns, Bool.not_eq_true', decide_eq_false_iff_not] at hs
  split at hs
  · next howner =>
    cases hs
    exact ⟨{ h.balanced with }, h.owned.act_ended rfl hn howner
      (fun m hm => (Table.lookup_erase_eq n m _).trans (if_neg hm))⟩
  next howner =>
  rw [not_not] at howner
  split at hs
  · next hrecord =>
    cases hs
    exact ⟨h.balanced.ending hk howner .releasing rfl rfl,
      h.owned.act_ending rfl hn hk howner .releasing (if_pos rfl)
        (by simp [hrecord])⟩
  · next record hrecord =>
    cases hs
    refine ⟨h.balanced.ending hk howner (.handing ⟨n, record⟩) rfl rfl,
      h.owned.act_ending rfl hn hk howner (.handing ⟨n, record⟩) (if_pos rfl) ?_⟩
    intro item
    rw [hrecord]
    constructor
    · intro heq
      obtain rfl := Caller.handing.inj heq
      exact ⟨rfl, rfl⟩
    · rintro ⟨rfl, hsame⟩
      rw [Option.some.inj hsame]

theorem release_inv (hs : release s k = some s') : Inv o ls s' := by
  unfold release at hs
  split at hs
  · next hk =>
    obtain ⟨hpos, rfl⟩ := takeBack_eq_some hs
    exact h.moved (.on hk _) (Nat.sub_add_cancel hpos)
      ((Nat.sub_le _ _).trans h.balanced.permits_le) rfl (Nat.le_refl _) (fun _ => rfl)
  · cases hs

/-- The queue is open and has room: neither panic of the send happens. -/
theorem send_inv (hs : send o s k = some s') : Inv o ls s' := by
  unfold send at hs
  split at hs
  · next hk =>
    have hopen := h.balanced.open_of_lifecycle hk rfl
    rw [if_neg (by simp [hopen]), if_pos (h.balanced.room_of_permit hk rfl)] at hs
    cases hs
    exact ⟨h.balanced.send hk hopen, h.owned.send hk⟩
  · cases hs

theorem done_inv (hs : done s k = some s') : Inv o ls s' := by
  unfold done at hs
  split at hs
  · next hk =>
    have hpos := tally_pos (p := Caller.holdsLifecycle) hk rfl
    have hlife := h.balanced.lifecycles_eq
    rw [if_neg (by omega)] at hs
    cases hs
    exact h.moved (.ended hk) rfl h.balanced.permits_le (Nat.sub_add_cancel (by omega))
      (Nat.sub_le _ _) (fun _ => rfl)
  · cases hs

/-! ### `Close` and the writer -/

theorem close_inv (hs : close s = some s') : Inv o ls s' := by
  obtain ⟨hopen, ⟨⟩⟩ := Option.ite_none_right_eq_some.mp hs
  exact ⟨{ h.balanced with
      closed := fun hclosed => absurd hclosed (h.balanced.not_closed hopen)
      closing := fun _ => rfl }, { h.owned with }⟩

theorem closeEvents_inv (hs : closeEvents s = some s') : Inv o ls s' := by
  obtain ⟨⟨hclosing, hzero⟩, hs⟩ := Option.ite_none_right_eq_some.mp hs
  split at hs
  · next hclosed =>
    have := (h.balanced.closed hclosed).2.1
    simp [hclosing] at this
  · cases hs
    exact ⟨{ h.balanced with
        closed := fun _ => ⟨h.balanced.closing hclosing, rfl, hzero⟩
        closing := nofun
        leaving := fun hw => ⟨rfl, (h.balanced.leaving hw).2⟩ }, { h.owned with }⟩

theorem receive_inv (hs : receive s = some s') : Inv o ls s' := by
  unfold receive at hs
  split at hs <;> cases hs
  next hw hitem =>
  have hpermits := h.balanced.permits_eq
  rw [hw, hitem] at hpermits
  simp only [WriterPhase.owed, List.length_cons] at hpermits
  refine ⟨{ h.balanced with
      permits_eq := by simp only [WriterPhase.owed]; omega
      leaving := fun hx => absurd hx (Balanced.not_leaving (.inr (.inl rfl)))
      exited := nofun }, { h.owned with accounted := ?_ }⟩
  intro other
  have hold := h.owned.accounted other
  simp only [Recorder.places, hitem, List.count_append, List.count_cons, List.count_nil] at hold ⊢
  omega

theorem freePermit_inv (hs : freePermit o s = some s') : Inv o ls s' := by
  obtain ⟨⟨hw, hpos⟩, ⟨⟩⟩ := Option.ite_none_right_eq_some.mp hs
  have hpermits := h.balanced.permits_eq
  have hcap := h.balanced.permits_le
  rw [hw] at hpermits
  simp only [WriterPhase.owed] at hpermits
  -- the writer goes on selecting, or flushes a full batch and selects again
  obtain ⟨writer, hwriter, hnext⟩ : ∃ writer, (if o.batchSize ≤ s.batch.length then
      WriterPhase.flushing false else .selecting) = writer ∧
      (writer = .selecting ∨ writer = .flushing false) := by
    split
    · exact ⟨_, rfl, .inr rfl⟩
    · exact ⟨_, rfl, .inl rfl⟩
  rw [hwriter]
  have howed : writer.owed = 0 := by rcases hnext with rfl | rfl <;> rfl
  have hstays : ¬(writer = .flushing true ∨ writer = .exited) :=
    Balanced.not_leaving (hnext.elim .inl (fun hf => .inr (.inr hf)))
  exact ⟨{ h.balanced with
      permits_eq := by dsimp only; omega
      permits_le := by dsimp only; omega
      leaving := fun hx => absurd hx hstays
      exited := fun hx => absurd (.inr hx) hstays }, { h.owned with }⟩

theorem tick_inv (hs : tick s = some s') : Inv o ls s' := by
  obtain ⟨⟨hw, -⟩, ⟨⟩⟩ := Option.ite_none_right_eq_some.mp hs
  have hpermits := h.balanced.permits_eq
  rw [hw] at hpermits
  exact ⟨{ h.balanced with
      permits_eq := hpermits
      leaving := fun hx => absurd hx (Balanced.not_leaving (.inr (.inr rfl)))
      exited := nofun }, { h.owned with }⟩

theorem insert_inv (hs : insert s = some s') : Inv o ls s' := by
  unfold insert at hs
  split at hs <;> cases hs
  next last hw =>
  have hpermits := h.balanced.permits_eq
  rw [hw] at hpermits
  refine ⟨{ h.balanced with
      permits_eq := by rw [show (if last then WriterPhase.exited else .selecting).owed = 0 by
        cases last <;> rfl]; exact hpermits
      leaving := ?_
      exited := fun _ => rfl }, { h.owned with accounted := ?_ }⟩
  · cases last with
    | false => exact fun hx => absurd hx (Balanced.not_leaving (.inl rfl))
    | true => exact fun _ => h.balanced.leaving (.inl hw)
  · intro other
    have hold := h.owned.accounted other
    simp only [Recorder.places, List.flatten_append, List.flatten_singleton, List.count_append,
      List.count_nil] at hold ⊢
    omega

theorem drained_inv (hs : drained s = some s') : Inv o ls s' := by
  obtain ⟨⟨hw, hempty, hclosed⟩, ⟨⟩⟩ := Option.ite_none_right_eq_some.mp hs
  have hpermits := h.balanced.permits_eq
  rw [hw] at hpermits
  have howed : (if s.batch = [] then WriterPhase.exited else .flushing true).owed = 0 := by
    split <;> rfl
  exact ⟨{ h.balanced with
      permits_eq := by rw [howed]; exact hpermits
      leaving := fun _ => ⟨hclosed, hempty⟩
      exited := fun hx => by
        by_contra hbatch
        rw [if_neg hbatch] at hx
        cases hx }, { h.owned with }⟩

/-- A step that is about no reservation. -/
theorem Inv.silent {l : Label} (hl : l.reservation = none) : Inv o (ls ++ [l]) s :=
  ⟨h.balanced, h.owned.same_fate fun _ => fate_append_other (by rw [hl]; exact nofun)⟩

/-- **Step**: every step keeps both invariants. -/
theorem next_inv {l : Label} (hs : next o s l = some s') : Inv o (ls ++ [l]) s' := by
  cases l with
  | reserve k requestID => exact reserve_inv (h.silent rfl) hs
  | takePermit k => exact takePermit_inv (h.silent rfl) hs
  | giveUp k => exact giveUp_inv (h.silent rfl) hs
  | register k => exact register_inv (h.silent rfl) hs
  | refuse k => exact refuse_inv (h.silent rfl) hs
  | returnPermit k => exact returnPermit_inv (h.silent rfl) hs
  | rollback k n => exact rollback_inv h hs
  | stage n event => exact stage_inv h hs
  | responseComplete k n => exact responseComplete_inv h hs
  | release k => exact release_inv (h.silent rfl) hs
  | send k => exact send_inv (h.silent rfl) hs
  | done k => exact done_inv (h.silent rfl) hs
  | close => exact close_inv (h.silent rfl) hs
  | closeEvents => exact closeEvents_inv (h.silent rfl) hs
  | receive => exact receive_inv (h.silent rfl) hs
  | freePermit => exact freePermit_inv (h.silent rfl) hs
  | tick => exact tick_inv (h.silent rfl) hs
  | insert => exact insert_inv (h.silent rfl) hs
  | drained => exact drained_inv (h.silent rfl) hs

end Steps

/-! ## Every interleaving -/

section Runs

variable {o : RecorderSettings} {s : Recorder} {n : Nat}

/-- **Run**: both invariants hold in every state that is reached. -/
theorem reachable_inv {r : Recorder × List Label} (h : (recorder o).record.Reachable r) :
    Inv o r.2 r.1 := by
  apply (recorder o).record.invariant ?_ ?_ h
  · rintro ⟨s, ls⟩ ⟨rfl, rfl⟩
    exact ⟨.init, .init⟩
  · rintro ⟨s, ls⟩ l ⟨s', ls'⟩ hinv ⟨hl, rfl⟩
    exact next_inv hinv hl

/-- No receive from the channel of permits ever waits: whoever takes a permit back finds one. -/
theorem takeBack_ready (h : (recorder o).Reachable s) :
    (∀ k, s.calls.lookup k = some .refused → (returnPermit s k).isSome) ∧
    (∀ k, s.calls.lookup k = some .releasing → (release s k).isSome) ∧
    (s.writer = .dequeued → (freePermit o s).isSome) := by
  obtain ⟨ls, hls⟩ := h.record
  have hbalanced := (reachable_inv hls).balanced
  refine ⟨?_, ?_, ?_⟩
  · intro k hk
    simp [returnPermit, hk, Recorder.takeBack, hbalanced.permit_ready hk rfl]
  · intro k hk
    simp [release, hk, Recorder.takeBack, hbalanced.permit_ready hk rfl]
  · intro hw
    simp [freePermit, hw, hbalanced.writer_ready hw]

/-- The queue is empty and the writer is done with the record it took last. -/
def Recorder.Drained (s : Recorder) : Prop := s.events = [] ∧ s.writer ≠ .dequeued

def recordsOf (n : Nat) (batch : List Item) : List RequestRecord :=
  (batch.filter (fun item => decide (item.owner = n))).map Item.record

/-- The batches passed to `InsertUsageBatch` that have records of a reservation, cut down to
    these records. -/
def Recorder.batchesOf (s : Recorder) (n : Nat) : List (List RequestRecord) :=
  (s.inserted.map (recordsOf n)).filter (fun records => decide (records ≠ []))

theorem count_recordsOf (n : Nat) (record : RequestRecord) (batch : List Item) :
    (recordsOf n batch).count record = batch.count ⟨n, record⟩ := by
  induction batch with
  | nil => rfl
  | cons item batch ih =>
    obtain ⟨owner, r⟩ := item
    unfold recordsOf at ih ⊢
    by_cases howner : owner = n
    · simp [List.count_cons, howner, ih]
    · simp [howner, ih]

theorem flatten_batchesOf (s : Recorder) (n : Nat) :
    (s.batchesOf n).flatten = recordsOf n s.inserted.flatten := by
  unfold Recorder.batchesOf
  induction s.inserted with
  | nil => rfl
  | cons batch batches ih =>
    have hcut : recordsOf n (batch :: batches).flatten =
        recordsOf n batch ++ recordsOf n batches.flatten := by
      simp [recordsOf]
    rw [hcut, ← ih, List.map_cons, List.filter_cons]
    by_cases hempty : recordsOf n batch = []
    · simp [hempty]
    · simp [hempty]

/-- Lists that are not empty and make up one element are one list. -/
theorem eq_singleton_of_flatten {records : List (List RequestRecord)}
    (hne : [] ∉ records) (h : records.flatten = [record]) : records = [[record]] := by
  cases records with
  | nil => cases h
  | cons first rest =>
    cases first with
    | nil => exact absurd (by simp) hne
    | cons r first =>
      simp only [List.flatten_cons, List.cons_append, List.cons.injEq,
        List.append_eq_nil_iff] at h
      obtain ⟨rfl, rfl, hrest⟩ := h
      cases rest with
      | nil => rfl
      | cons second rest =>
        have hsecond := (List.flatten_eq_nil_iff.mp hrest) second (by simp)
        exact absurd (by simp [hsecond]) hne

theorem batchesOf_eq_nil (h : Owned ls s) (hnone : ∀ record, ¬Handed ls n record) :
    s.batchesOf n = [] := by
  have hempty : recordsOf n s.inserted.flatten = [] := by
    apply List.eq_nil_iff_forall_not_mem.mpr
    intro record hmem
    have hpos := List.count_pos_iff.mpr hmem
    -- a reservation contributes at most the record it handed over
    have hle : (recordsOf n s.inserted.flatten).count record ≤ due ls ⟨n, record⟩ := by
      rw [count_recordsOf, ← h.accounted ⟨n, record⟩, Recorder.places]
      omega
    rw [show due ls ⟨n, record⟩ = 0 from
      if_neg (fun hended => hnone record (handed_iff.mpr hended))] at hle
    omega
  rw [← flatten_batchesOf, List.flatten_eq_nil_iff] at hempty
  apply List.eq_nil_iff_forall_not_mem.mpr
  intro records hmem
  have hne := (List.mem_filter.mp hmem).2
  simp [hempty records hmem] at hne

/-- Once the writer has exited nothing is left on the way. -/
theorem places_of_exited (hb : Balanced o s) (hexit : s.writer = .exited) (item : Item) :
    s.places item = s.inserted.flatten.count item := by
  obtain ⟨hclosed, hevents⟩ := hb.leaving (.inr hexit)
  have hbatch := hb.exited hexit
  have hzero := (hb.closed hclosed).2.2
  have hlife := hb.lifecycles_eq
  -- a call that hands a record over is counted by the wait group, which is at zero
  have hle : tally (fun c => decide (c = .handing item)) s.calls ≤
      tally Caller.holdsLifecycle s.calls := by
    apply Table.count_le_count
    intro k c hk hc
    obtain rfl := of_decide_eq_true hc
    exact ⟨_, hk, rfl⟩
  unfold Recorder.places
  rw [hevents, hbatch]
  simp only [List.count_nil]
  omega

theorem batchesOf_eq_singleton (hb : Balanced o s) (h : Owned ls s) (hexit : s.writer = .exited)
    (hhanded : Handed ls n record) : s.batchesOf n = [[record]] := by
  have hended := handed_iff.mp hhanded
  have hcount : ∀ r, (recordsOf n s.inserted.flatten).count r = [record].count r := by
    intro r
    rw [count_recordsOf, ← places_of_exited hb hexit, h.accounted]
    simp only [due, hended, Fate.ended.injEq, Option.some.injEq, List.count_singleton,
      beq_iff_eq]
  have hall : recordsOf n s.inserted.flatten = [record] :=
    List.perm_singleton.mp (List.perm_iff_count.mpr hcount)
  rw [← flatten_batchesOf] at hall
  apply eq_singleton_of_flatten ?_ hall
  intro hmem
  have hne := (List.mem_filter.mp hmem).2
  simp at hne

/-- **Reservations of the recorder.**  In every interleaving nothing panics: the queue has
    room for every record, nothing is sent on the closed channel, the wait group stays
    nonnegative and the channel is closed once.  The permits cover the live reservations and
    the queued records and fit the capacity, and they are all free when nothing holds one.
    When the writer has exited, each reservation that `ResponseComplete` ended with a staged
    record has this record in one batch, once; no other reservation ever has any. -/
theorem reservations_sound (o : RecorderSettings) {s : Recorder} {ls : List Label}
    (h : (recorder o).record.Reachable (s, ls)) :
    s.fault = none ∧
    s.reserved.size + s.events.length ≤ s.permits ∧ s.permits ≤ o.queueCapacity ∧
    (s.calls = ∅ → s.reserved = ∅ → s.Drained → s.permits = 0) ∧
    (s.writer = .exited → ∀ n record, Handed ls n record → s.batchesOf n = [[record]]) ∧
    (∀ n, (∀ record, ¬Handed ls n record) → s.batchesOf n = []) := by
  obtain ⟨hbalanced, howned⟩ : Inv o ls s := reachable_inv h
  have hpermits := hbalanced.permits_eq
  refine ⟨hbalanced.fault_eq, by omega, hbalanced.permits_le, ?_, ?_, ?_⟩
  · intro hcalls hreserved ⟨hevents, hwriter⟩
    have howed : s.writer.owed = 0 := by
      cases hw : s.writer with
      | dequeued => exact absurd hw hwriter
      | selecting | flushing | exited => rfl
    rw [hcalls, hreserved, hevents, howed] at hpermits
    exact hpermits
  · intro hexit n record hhanded
    exact batchesOf_eq_singleton hbalanced howned hexit hhanded
  · intro n hnone
    exact batchesOf_eq_nil howned hnone

end Runs

/-- One request's metadata. -/
def servedEvent : RequestEvent :=
  { occurredAt := 0, requestID := "r", clientID := 1, modelPoolID := 1, duration := 1500000 }

/-- A recorder of capacity one: a reservation is staged and completed, rolled back too late
    and completed again; a second one is rolled back before it is completed. -/
def servedRun : List Label :=
  [.reserve 0 "r", .takePermit 0, .register 0, .stage 0 servedEvent,
    .responseComplete 0 0, .rollback 1 0, .send 0, .responseComplete 1 0, .receive, .done 0,
    .reserve 0 "q", .freePermit, .insert, .takePermit 0, .register 0,
    .stage 1 { servedEvent with requestID := "q" }, .rollback 0 1, .responseComplete 1 1,
    .close, .release 0, .done 0, .closeEvents, .drained]

def served : Recorder := (servedRun.foldlM (next (newSettings 1 1)) {}).getD {}

theorem served_reachable : (recorder (newSettings 1 1)).record.Reachable (served, servedRun) :=
  (recorder (newSettings 1 1)).record_reachable_of_isSome (fun _ _ _ h => h) rfl servedRun
    (by decide +kernel)

theorem reservations_sound_served :
    served.writer = .exited ∧ served.permits = 0 ∧
      served.batchesOf 0 = [[requestRecord servedEvent]] ∧ served.batchesOf 1 = [] := by
  have hsound := reservations_sound (newSettings 1 1) served_reachable
  have hexit : served.writer = .exited := by decide +kernel
  have hfirst : Handed servedRun 0 (requestRecord servedEvent) :=
    handed_iff.mpr (by decide +kernel)
  have hsecond : fate servedRun 1 = .ended none := by decide +kernel
  refine ⟨hexit, ?_, hsound.2.2.2.2.1 hexit 0 _ hfirst, hsound.2.2.2.2.2 1 ?_⟩
  · apply hsound.2.2.2.1
    · exact AList.ext (show served.calls.entries = [] by decide +kernel)
    · exact AList.ext (show served.reserved.entries = [] by decide +kernel)
    · exact ⟨by decide +kernel, by rw [hexit]; simp⟩
  · intro record hhanded
    have := hsecond.symm.trans (handed_iff.mp hhanded)
    simp at this

/-- The second reservation is about to give its permit back. -/
theorem takeBack_ready_served : ∃ s, (recorder (newSettings 1 1)).Reachable s ∧
    s.calls.lookup 0 = some .releasing ∧ (release s 0).isSome := by
  have h := (recorder (newSettings 1 1)).reachable_of_isSome (fun _ _ _ h => h) rfl
    (servedRun.take 19) (by decide +kernel)
  refine ⟨_, h, ?_, (takeBack_ready h).2.1 0 ?_⟩ <;> decide +kernel

end Analytics
