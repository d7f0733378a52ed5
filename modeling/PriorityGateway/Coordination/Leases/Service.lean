import PriorityGateway.Coordination.Leases.Conservation

/-! # The Lease Manager on Top of a Coordinator

    The manager and an admission coordinator, composed, as seen from one
    lease.  Of the coordinator the composition only knows what is stored about
    that lease: whether there is a receipt for it, whether the receipt is
    completed, and whether the lease still has its slot (`Account`).  A
    coordinator is anything that respects the life of the account
    (`Coordinator`); the local and the PostgreSQL coordinator are shown to be
    such in modules of their own, for every lease.

    A call of `Complete` is taken apart into what the coordinator does with
    one completion after the other.  The answer comes later, and may tell of
    fewer completions than were processed: that is a commit whose response
    was lost.  An error can come after any number of completions.  Other
    callers may have their completions processed at any time, also for the
    same lease.

    This allows more than the code does: the local coordinator processes a
    whole batch under its mutex, and the PostgreSQL coordinator loses the
    response of the last transaction of a call at most. -/

namespace Coordination.LeaseManager

/-! ## The life of a lease -/

/-- The receipt of an acquisition. -/
inductive Receipt where
  /-- no lease was granted -/
  | rejected
  | granted
  | completed
  deriving DecidableEq, Repr

/-- What a coordinator has stored about one lease id. -/
structure Account where
  receipt : Option Receipt
  /-- the lease occupies a slot -/
  slot : Bool
  deriving DecidableEq, Repr

/-- What can happen to an account besides a completion: it is opened, or its
    slot is released. -/
structure Account.Ages (a a' : Account) : Prop where
  receipt : ∀ r, a.receipt = some r → a'.receipt = some r
  opened : a.receipt = none → a'.receipt ≠ some .completed
  slot : a'.slot = true → a.slot = true ∨ a.receipt = none

theorem Account.Ages.refl (a : Account) : a.Ages a :=
  ⟨fun _ h => h, fun h => by rw [h]; simp, fun h => .inl h⟩

/-- A completion that a coordinator has processed: its answer, and the usages
    it took from the client's TPM bucket. -/
structure Entry where
  completion : LeaseCompletion
  /-- a receipt of the lease was stored when the coordinator took the completion up -/
  found : Bool
  result : CompleteResult
  debits : List TokenUsage
  deriving DecidableEq, Repr

namespace Entry

def leaseID (e : Entry) : UUID := e.completion.lease.leaseID

/-- The completion was answered from the receipt of a lease. -/
def processed (id : UUID) (e : Entry) : Bool :=
  decide (e.leaseID = id) && decide (e.result.reason = none)

/-- The completion was the one that ended its lease. -/
def applied (id : UUID) (e : Entry) : Bool :=
  e.processed id && decide (e.result.result ≠ some .alreadyCompleted)

/-- The usages debited for a lease. -/
def debitsOf (id : UUID) (e : Entry) : List TokenUsage := if e.leaseID = id then e.debits else []

end Entry

/-- What processing a completion does to the account of the lease `id`. -/
inductive Processes (id : UUID) (e : Entry) (before after : Account) : Prop where
  /-- a completion of another lease -/
  | other (hid : e.leaseID ≠ id) (hages : before.Ages after)
  /-- the first completion of a granted lease -/
  | applied (hid : e.leaseID = id)
      (hresult : e.result.reason = none ∧ e.result.result ≠ some .alreadyCompleted)
      (hgranted : before.receipt = some .granted) (hafter : after = ⟨some .completed, false⟩)
      (hdebits : e.debits <+: e.completion.usage.toList)
  /-- a completion after the first -/
  | repeated (hid : e.leaseID = id)
      (hresult : e.result.reason = none ∧ e.result.result = some .alreadyCompleted)
      (hcompleted : before.receipt = some .completed) (hdebits : e.debits = [])
      (hsame : after = before)
  /-- a completion without a lease: no receipt was found, or that of a rejected request -/
  | refused (hid : e.leaseID = id)
      (hresult : e.result.reason = some .staleOperation ∧ e.found = false ∨
        e.result.reason = some .leaseLost ∧ before.receipt = some .rejected)
      (hdebits : e.debits = []) (hsame : after = before)

/-- A coordinator, as far as the completions of the lease `id` go. -/
structure Coordinator (C : Type) (id : UUID) where
  init : C → Prop
  /-- acquisitions, renewals, expiry -/
  background : C → C → Prop
  /-- one completion is processed, for this manager or for anybody else -/
  process : C → Entry → C → Prop
  /-- what is stored about the lease -/
  account : C → Account
  Inv : C → Prop
  inv_init : ∀ c, init c → Inv c ∧ account c = ⟨none, false⟩
  ages : ∀ c c', Inv c → background c c' → Inv c' ∧ (account c).Ages (account c')
  processes : ∀ c e c', Inv c → process c e c' →
    Inv c' ∧ Processes id e (account c) (account c')

/-! ## The composition -/

/-- The manager, the coordinator, and the calls between them. -/
structure Composite (C : Type) where
  manager : State
  coordinator : C
  /-- every completion the coordinator has processed so far -/
  log : List Entry
  /-- what was processed for the call the run loop is in -/
  loopCall : List Entry
  /-- what was processed for the call the shutdown is in -/
  closerCall : List Entry
  /-- what the manager's acknowledged completions were processed as -/
  answered : List Entry

/-- The two steps of the manager that take an answer of `Complete`. -/
def Label.isAnswer : Label → Bool
  | .loop (.answer _ _) | .closer (.answer _ _) => true
  | _ => false

inductive CompositeLabel where
  | manager (l : Label)
  | background
  /-- somebody else's completion -/
  | process
  | processLoop
  | processCloser
  /-- the call ends; the answer tells of the first `k` completions -/
  | answerLoop (k : Nat) (err : Err)
  | answerCloser (k : Nat) (err : Err)

section Composition

variable {C : Type} {id : UUID} (K : Coordinator C id)

inductive CompositeStep : Composite C → CompositeLabel → Composite C → Prop where
  | manager (s : Composite C) (l : Label) (m : State) (hl : l.isAnswer = false)
      (h : next s.manager l = some m) : CompositeStep s (.manager l) { s with manager := m }
  | background (s : Composite C) (c : C) (h : K.background s.coordinator c) :
      CompositeStep s .background { s with coordinator := c }
  | process (s : Composite C) (e : Entry) (c : C) (h : K.process s.coordinator e c) :
      CompositeStep s .process { s with coordinator := c, log := s.log ++ [e] }
  | processLoop (s : Composite C) (e : Entry) (c : C) (batch : List Item) (origin : Origin)
      (hloop : s.manager.loop = .delivering batch origin)
      (hitem : (batch.map Item.completion)[s.loopCall.length]? = some e.completion)
      (h : K.process s.coordinator e c) :
      CompositeStep s .processLoop
        { s with coordinator := c, log := s.log ++ [e], loopCall := s.loopCall ++ [e] }
  | processCloser (s : Composite C) (e : Entry) (c : C) (items : List Item) (backoff : Int)
      (hcloser : s.manager.closer = .delivering items backoff)
      (hitem : (items.map Item.completion)[s.closerCall.length]? = some e.completion)
      (h : K.process s.coordinator e c) :
      CompositeStep s .processCloser
        { s with coordinator := c, log := s.log ++ [e], closerCall := s.closerCall ++ [e] }
  | answerLoop (s : Composite C) (k : Nat) (err : Err) (m : State) (batch : List Item)
      (origin : Origin) (hloop : s.manager.loop = .delivering batch origin)
      (hk : k ≤ s.loopCall.length) (hall : err = .nil → k = batch.length)
      (h : next s.manager (.loop (.answer ((s.loopCall.take k).map Entry.result) err)) = some m) :
      CompositeStep s (.answerLoop k err) { s with
        manager := m, loopCall := [],
        answered := s.answered ++ s.loopCall.take
          (acknowledgedBy batch ((s.loopCall.take k).map Entry.result) err).length }
  | answerCloser (s : Composite C) (k : Nat) (err : Err) (m : State) (items : List Item)
      (backoff : Int) (hcloser : s.manager.closer = .delivering items backoff)
      (hk : k ≤ s.closerCall.length) (hall : err = .nil → k = items.length)
      (h : next s.manager (.closer (.answer ((s.closerCall.take k).map Entry.result) err))
        = some m) :
      CompositeStep s (.answerCloser k err) { s with
        manager := m, closerCall := [],
        answered := s.answered ++ s.closerCall.take
          (acknowledgedBy items ((s.closerCall.take k).map Entry.result) err).length }

/-- A new manager and a new coordinator. -/
def Coordinator.system : System (Composite C) CompositeLabel where
  init := fun s => leaseManager.init s.manager ∧ K.init s.coordinator ∧ s.log = [] ∧
    s.loopCall = [] ∧ s.closerCall = [] ∧ s.answered = []
  step := CompositeStep K

/-! ## The receipt and the log -/

/-- The log agrees with what the coordinator has stored about the lease: the first
    completion answered from its receipt ended it, all later ones were repetitions. -/
inductive Ledger (id : UUID) (log : List Entry) (account : Account) : Prop where
  | untouched (hlog : log.filter (Entry.processed id) = [])
      (hreceipt : account.receipt ≠ some .completed)
  | ended (first : Entry) (rest : List Entry)
      (hlog : log.filter (Entry.processed id) = first :: rest)
      (hfirst : first.result.result ≠ some .alreadyCompleted)
      (hdebits : first.debits <+: first.completion.usage.toList)
      (hrest : ∀ e ∈ rest, e.result.result = some .alreadyCompleted ∧ e.debits = [])
      (haccount : account = ⟨some .completed, false⟩)

/-- The log as a whole. -/
structure Logged (id : UUID) (log : List Entry) (account : Account) : Prop where
  ledger : Ledger id log account
  /-- what was refused had found no receipt, or the receipt of a rejected request -/
  refused : ∀ e ∈ log, e.leaseID = id → e.result.reason ≠ none → e.debits = [] ∧
    (e.found = false ∨ account.receipt = some .rejected)

variable {log : List Entry} {account account' : Account}

theorem Account.Ages.completed {a a' : Account} (h : a.Ages a')
    (ha : a = ⟨some .completed, false⟩) : a' = ⟨some .completed, false⟩ := by
  have hreceipt := h.receipt .completed (by rw [ha])
  have hslot : a'.slot = false := by
    cases hslot : a'.slot with
    | false => rfl
    | true => rcases h.slot hslot with h | h <;> rw [ha] at h <;> cases h
  rw [← hreceipt, ← hslot]

theorem Logged.ages (h : Logged id log account) (hages : account.Ages account') :
    Logged id log account' := by
  constructor
  · cases h.ledger with
    | untouched hlog hreceipt =>
      refine .untouched hlog ?_
      cases hr : account.receipt with
      | none => exact hages.opened hr
      | some r =>
        rw [hages.receipt r hr]
        rw [hr] at hreceipt
        exact hreceipt
    | ended first rest hlog hfirst hdebits hrest haccount =>
      exact .ended first rest hlog hfirst hdebits hrest (hages.completed haccount)
  · intro e he hid hreason
    obtain ⟨hdebits, hcause⟩ := h.refused e he hid hreason
    exact ⟨hdebits, hcause.imp_right (hages.receipt _)⟩

variable {e : Entry} {call : List Entry} {batch items : List Item} {err : Err}
  {m m' : State} {s s' : Composite C} {origin : Origin} {act : CloserAct} {backoff : Int}
  {results : List CompleteResult}

theorem Entry.processed_self (hid : e.leaseID = id) (h : e.result.reason = none) :
    e.processed id = true := by
  simp [Entry.processed, hid, h]

/-- A completion of another lease, or a refused one, leaves the ledger. -/
theorem Ledger.append_of_not (h : Ledger id log account) (he : e.processed id = false) :
    Ledger id (log ++ [e]) account := by
  have hfilter : (log ++ [e]).filter (Entry.processed id) = log.filter (Entry.processed id) := by
    simp [he]
  cases h with
  | untouched hlog hreceipt => exact .untouched (hfilter.trans hlog) hreceipt
  | ended first rest hlog hfirst hdebits hrest haccount =>
    exact .ended first rest (hfilter.trans hlog) hfirst hdebits hrest haccount

theorem Logged.process (h : Logged id log account) (hp : Processes id e account account') :
    Logged id (log ++ [e]) account' := by
  cases hp with
  | other hid hages =>
    have h' := h.ages hages
    refine ⟨h'.ledger.append_of_not (by simp [Entry.processed, hid]),
      List.forall_mem_append.mpr ⟨h'.refused, List.forall_mem_singleton.mpr ?_⟩⟩
    exact fun hid' => absurd hid' hid
  | applied hid hresult hgranted hafter hdebits =>
    refine ⟨?_, List.forall_mem_append.mpr ⟨?_, List.forall_mem_singleton.mpr ?_⟩⟩
    · cases h.ledger with
      | untouched hlog hreceipt =>
        refine .ended e [] ?_ hresult.2 hdebits (fun _ => nofun) hafter
        rw [List.filter_append, hlog]
        simp [Entry.processed_self hid hresult.1]
      | ended first rest hlog hfirst hdebits' hrest haccount =>
        -- a completed lease is not granted any more
        rw [haccount] at hgranted
        cases hgranted
    · intro e' he' hid' hreason
      obtain ⟨hnone, hfound | hrejected⟩ := h.refused e' he' hid' hreason
      · exact ⟨hnone, .inl hfound⟩
      · rw [hgranted] at hrejected
        cases hrejected
    · exact fun _ hreason => absurd hresult.1 hreason
  | repeated hid hresult hcompleted hdebits hsame =>
    subst hsame
    refine ⟨?_, List.forall_mem_append.mpr ⟨h.refused, List.forall_mem_singleton.mpr ?_⟩⟩
    · cases h.ledger with
      | untouched hlog hreceipt => exact absurd hcompleted hreceipt
      | ended first rest hlog hfirst hdebits' hrest haccount =>
        refine .ended first (rest ++ [e]) ?_ hfirst hdebits' ?_ haccount
        · rw [List.filter_append, hlog]
          simp [Entry.processed_self hid hresult.1]
        · exact List.forall_mem_append.mpr
            ⟨hrest, List.forall_mem_singleton.mpr ⟨hresult.2, hdebits⟩⟩
    · exact fun _ hreason => absurd hresult.1 hreason
  | refused hid hresult hdebits hsame =>
    subst hsame
    have hreason : e.result.reason ≠ none := by
      rcases hresult with ⟨hr, -⟩ | ⟨hr, -⟩ <;> rw [hr] <;> simp
    refine ⟨h.ledger.append_of_not (by simp [Entry.processed, hreason]),
      List.forall_mem_append.mpr ⟨h.refused, List.forall_mem_singleton.mpr ?_⟩⟩
    exact fun _ _ => ⟨hdebits, hresult.imp (·.2) (·.2)⟩

/-! ## Calls under way -/

/-- The batch the run loop has sent. -/
def Loop.sent : Loop → Option (List Item)
  | .delivering batch _ => some batch
  | _ => none

/-- The items the shutdown has sent. -/
def Closer.sent : Closer → Option (List Item)
  | .delivering items _ => some items
  | _ => none

/-- What was processed for a call: completions of the log, in the order of the batch. -/
structure Underway (sent : Option (List Item)) (call log : List Entry) : Prop where
  logged : ∀ e ∈ call, e ∈ log
  idle : sent = none → call = []
  order : ∀ batch, sent = some batch → call.map Entry.completion <+: batch.map Item.completion

theorem Underway.nil (sent : Option (List Item)) (log : List Entry) : Underway sent [] log :=
  ⟨fun _ => nofun, fun _ => rfl, fun _ _ => List.nil_prefix⟩

theorem Underway.append_log {sent : Option (List Item)} (h : Underway sent call log) (e : Entry) :
    Underway sent call (log ++ [e]) :=
  ⟨fun e' he' => List.mem_append_left _ (h.logged e' he'), h.idle, h.order⟩

/-- The manager may go on while it has not sent anything. -/
theorem Underway.sent {sent sent' : Option (List Item)} (h : Underway sent call log)
    (hsent : ∀ batch, sent = some batch → sent' = some batch) : Underway sent' call log := by
  cases sent with
  | none =>
    rw [h.idle rfl]
    exact .nil _ _
  | some batch =>
    rw [hsent batch rfl]
    exact h

theorem prefix_concat_of_getElem? {α : Type} {l m : List α} {a : α} (h : l <+: m)
    (ha : m[l.length]? = some a) : l ++ [a] <+: m := by
  obtain ⟨t, rfl⟩ := h
  rw [List.getElem?_append_right (Nat.le_refl _), Nat.sub_self] at ha
  cases t with
  | nil => cases ha
  | cons b t =>
    cases ha
    exact ⟨t, by simp⟩

theorem Underway.process (h : Underway (some batch) call log)
    (hitem : (batch.map Item.completion)[call.length]? = some e.completion) :
    Underway (some batch) (call ++ [e]) (log ++ [e]) := by
  refine ⟨?_, nofun, ?_⟩
  · intro e' he'
    rcases List.mem_append.mp he' with hold | hnew
    · exact List.mem_append_left _ (h.logged e' hold)
    · exact List.mem_append_right _ hnew
  · intro batch' hbatch
    cases hbatch
    rw [List.map_append]
    exact prefix_concat_of_getElem? (h.order batch rfl) (by rwa [List.length_map])

theorem acknowledgedBy_initial : acknowledgedBy batch results err <+: batch := by
  unfold acknowledgedBy
  split
  · exact List.prefix_rfl
  · split
    · exact List.take_prefix _ _
    · exact List.nil_prefix

/-- What an answer acknowledges was processed, whatever part of it the answer tells. -/
theorem Underway.answered {k : Nat} (h : Underway (some batch) call log)
    (hk : k ≤ call.length) (hall : err = .nil → k = batch.length) :
    (call.take (acknowledgedBy batch ((call.take k).map Entry.result) err).length).map
        Entry.completion
      = (acknowledgedBy batch ((call.take k).map Entry.result) err).map Item.completion := by
  have hlen : (acknowledgedBy batch ((call.take k).map Entry.result) err).length
      ≤ call.length := by
    unfold acknowledgedBy
    split
    · next hnil => exact (hall hnil).symm.trans_le hk
    · split <;> simp
  -- the acknowledged items and the call are both the first of the batch
  have hfirst := List.prefix_iff_eq_take.mp (List.prefix_of_prefix_length_le
    (acknowledgedBy_initial.map Item.completion) (h.order batch rfl)
    (by rwa [List.length_map, List.length_map]))
  rw [List.length_map] at hfirst
  rw [List.map_take]
  exact hfirst.symm

theorem Loop.sent_eq_some {loop : Loop} (h : loop.sent = some batch) :
    ∃ origin, loop = .delivering batch origin := by
  cases loop <;> cases h
  exact ⟨_, rfl⟩

theorem Closer.sent_eq_some {closer : Closer} (h : closer.sent = some items) :
    ∃ backoff, closer = .delivering items backoff := by
  cases closer <;> cases h
  exact ⟨_, rfl⟩

/-- A step without an answer acknowledges nothing and ends no call. -/
structure Unanswered (m m' : State) : Prop where
  acknowledged : m'.acknowledged = m.acknowledged
  loop : ∀ batch, m.loop.sent = some batch → m'.loop.sent = some batch
  closer : ∀ items, m.closer.sent = some items → m'.closer.sent = some items

theorem Unanswered.of_eq (hack : m'.acknowledged = m.acknowledged) (hloop : m'.loop = m.loop)
    (hcloser : m'.closer = m.closer) : Unanswered m m' :=
  ⟨hack, fun _ h => by rwa [hloop], fun _ h => by rwa [hcloser]⟩

theorem unanswered_loop {act : LoopAct} (hact : (Label.loop act).isAnswer = false)
    (h : loopNext m act = some m') : Unanswered m m' := by
  have hidle : ∀ batch origin, m.loop ≠ .delivering batch origin := by
    -- without an answer the run loop stays in its call
    intro batch origin hloop
    cases act with
    | answer results err => cases hact
    | _ => simp [loopNext, hloop] at h
  have hstep := loopNext_inv h
  refine ⟨?_, ?_, fun items hitems => by rwa [hstep.frame.2]⟩
  · cases hstep with
    | answer results err hloop => exact absurd hloop (hidle _ _)
    | renewed results err hloop => rw [renewed_eq]
    | _ => rfl
  · intro batch hsent
    obtain ⟨origin, hloop⟩ := Loop.sent_eq_some hsent
    exact absurd hloop (hidle batch origin)

theorem unanswered_closer (hact : (Label.closer act).isAnswer = false)
    (h : closerNext m act = some m') : Unanswered m m' := by
  have hidle : ∀ items backoff, m.closer ≠ .delivering items backoff := by
    intro items backoff hcloser
    cases act with
    | answer results err => cases hact
    | _ => simp [closerNext, hcloser] at h
  have hstep := closerNext_inv h
  refine ⟨?_, fun batch hbatch => by rwa [hstep.frame.2.2], ?_⟩
  · cases hstep with
    | answer results err lastErr hcloser => exact absurd hcloser (hidle _ _)
    | _ => rfl
  · intro items hsent
    obtain ⟨backoff, hcloser⟩ := Closer.sent_eq_some hsent
    exact absurd hcloser (hidle items backoff)

theorem unanswered_next {l : Label} (hl : l.isAnswer = false) (h : next m l = some m') :
    Unanswered m m' := by
  cases l with
  | loop act => exact unanswered_loop hl h
  | closer act => exact unanswered_closer hl h
  | handle i act =>
    have hstep := handleNext_inv h
    obtain ⟨hcloser, hloop, -⟩ := hstep.frame
    refine .of_eq ?_ hloop hcloser
    cases hstep <;> rfl
  | reconcile =>
    cases h
    split <;> exact .of_eq rfl rfl rfl
  | reconciled call results err =>
    obtain ⟨-, hm⟩ := Option.ite_none_right_eq_some.mp h
    cases hm
    rw [renewed_eq]
    exact .of_eq rfl rfl rfl
  | _ => cases h; exact .of_eq rfl rfl rfl

/-! ## Exactly once -/

/-- What holds in every state of the composition. -/
structure Consistent (s : Composite C) : Prop where
  inv : K.Inv s.coordinator
  logged : Logged id s.log (K.account s.coordinator)
  loop : Underway s.manager.loop.sent s.loopCall s.log
  closer : Underway s.manager.closer.sent s.closerCall s.log
  answered : s.answered.map Entry.completion = s.manager.acknowledged.map Item.completion
  recorded : ∀ e ∈ s.answered, e ∈ s.log

variable {K} {l : CompositeLabel}

/-- An answer to the run loop, in terms of the state after it. -/
theorem answer_loop (hloop : m.loop = .delivering batch origin)
    (h : next m (.loop (.answer results err)) = some m') :
    m'.loop.sent = none ∧ m'.closer = m.closer ∧
      m'.acknowledged = m.acknowledged ++ acknowledgedBy batch results err := by
  simp only [next, loopNext, hloop, Option.some.injEq] at h
  rw [← h, answered_eq]
  exact ⟨rfl, rfl, rfl⟩

theorem answer_closer (hcloser : m.closer = .delivering items backoff)
    (h : next m (.closer (.answer results err)) = some m') :
    m'.closer.sent = none ∧ m'.loop = m.loop ∧
      m'.acknowledged = m.acknowledged ++ acknowledgedBy items results err := by
  simp only [next, closerNext, hcloser, Option.some.injEq] at h
  rw [← h, answered_eq]
  exact ⟨rfl, rfl, rfl⟩

theorem Consistent.step (h : Consistent K s) (hstep : CompositeStep K s l s') :
    Consistent K s' := by
  cases hstep with
  | manager l m hl hm =>
    have hun := unanswered_next hl hm
    refine ⟨h.inv, h.logged, h.loop.sent hun.loop, h.closer.sent hun.closer, ?_, h.recorded⟩
    rw [hun.acknowledged]
    exact h.answered
  | background c hc =>
    obtain ⟨hinv, hages⟩ := K.ages _ _ h.inv hc
    exact ⟨hinv, h.logged.ages hages, h.loop, h.closer, h.answered, h.recorded⟩
  | process e c hc =>
    obtain ⟨hinv, hprocess⟩ := K.processes _ _ _ h.inv hc
    exact ⟨hinv, h.logged.process hprocess, h.loop.append_log e, h.closer.append_log e,
      h.answered, fun e' he' => List.mem_append_left _ (h.recorded e' he')⟩
  | processLoop e c batch origin hloop hitem hc =>
    obtain ⟨hinv, hprocess⟩ := K.processes _ _ _ h.inv hc
    have hcall := h.loop
    rw [hloop] at hcall
    refine ⟨hinv, h.logged.process hprocess, ?_, h.closer.append_log e, h.answered,
      fun e' he' => List.mem_append_left _ (h.recorded e' he')⟩
    rw [hloop]
    exact hcall.process hitem
  | processCloser e c items backoff hcloser hitem hc =>
    obtain ⟨hinv, hprocess⟩ := K.processes _ _ _ h.inv hc
    have hcall := h.closer
    rw [hcloser] at hcall
    refine ⟨hinv, h.logged.process hprocess, h.loop.append_log e, ?_, h.answered,
      fun e' he' => List.mem_append_left _ (h.recorded e' he')⟩
    rw [hcloser]
    exact hcall.process hitem
  | answerLoop k err m batch origin hloop hk hall hm =>
    -- the call is over, and what it acknowledges it has processed first
    obtain ⟨hsent, hcloser, hack⟩ := answer_loop hloop hm
    have hcall := h.loop
    rw [hloop] at hcall
    refine ⟨h.inv, h.logged, .nil _ _, by rw [hcloser]; exact h.closer, ?_,
      List.forall_mem_append.mpr
        ⟨h.recorded, fun e he => hcall.logged e (List.mem_of_mem_take he)⟩⟩
    rw [hack, List.map_append, List.map_append, h.answered, hcall.answered hk hall]
  | answerCloser k err m items backoff hcloser hk hall hm =>
    obtain ⟨hsent, hloop, hack⟩ := answer_closer hcloser hm
    have hcall := h.closer
    rw [hcloser] at hcall
    refine ⟨h.inv, h.logged, by rw [hloop]; exact h.loop, .nil _ _, ?_,
      List.forall_mem_append.mpr
        ⟨h.recorded, fun e he => hcall.logged e (List.mem_of_mem_take he)⟩⟩
    rw [hack, List.map_append, List.map_append, h.answered, hcall.answered hk hall]

theorem consistent_of_reachable (hs : K.system.Reachable s) : Consistent K s := by
  refine K.system.invariant ?_ (fun s l s' h hstep => h.step hstep) hs
  intro s hinit
  obtain ⟨⟨o, hmanager⟩, hcoordinator, hlog, hloop, hcloser, hanswered⟩ := hinit
  obtain ⟨hinv, haccount⟩ := K.inv_init _ hcoordinator
  refine ⟨hinv, ⟨.untouched (by rw [hlog]; rfl) ?_, ?_⟩, ?_, ?_, ?_, ?_⟩
  · rw [haccount]
    simp
  · rw [hlog]
    exact fun _ => nofun
  · rw [hloop]
    exact .nil _ _
  · rw [hcloser]
    exact .nil _ _
  · rw [hanswered, hmanager]
    rfl
  · rw [hanswered]
    exact fun _ => nofun

theorem Account.Ages.freed {a a' : Account} (h : a.Ages a') (hreceipt : a.receipt ≠ none)
    (hslot : a.slot = false) : a'.receipt ≠ none ∧ a'.slot = false := by
  obtain ⟨r, hr⟩ := Option.ne_none_iff_exists'.mp hreceipt
  refine ⟨by rw [h.receipt r hr]; simp, ?_⟩
  cases hslot' : a'.slot with
  | false => rfl
  | true =>
    rcases h.slot hslot' with h | h
    · rw [hslot] at h; cases h
    · exact absurd h hreceipt

/-- A lease that has lost its slot does not get it back. -/
theorem slot_step (h : Consistent K s) (hstep : CompositeStep K s l s')
    (hreceipt : (K.account s.coordinator).receipt ≠ none)
    (hslot : (K.account s.coordinator).slot = false) :
    (K.account s'.coordinator).receipt ≠ none ∧ (K.account s'.coordinator).slot = false := by
  have hprocess : ∀ {e : Entry} {c : C}, K.process s.coordinator e c →
      (K.account c).receipt ≠ none ∧ (K.account c).slot = false := by
    intro e c hc
    cases (K.processes _ _ _ h.inv hc).2 with
    | other hid hages => exact hages.freed hreceipt hslot
    | applied hid hresult hgranted hafter hdebits =>
      rw [hafter]
      exact ⟨by simp, rfl⟩
    | repeated _ _ _ _ hsame | refused _ _ _ hsame => rw [hsame]; exact ⟨hreceipt, hslot⟩
  cases hstep with
  | background c hc => exact (K.ages _ _ h.inv hc).2.freed hreceipt hslot
  | process _ _ hc | processLoop _ _ _ _ _ _ hc | processCloser _ _ _ _ _ _ hc => exact hprocess hc
  | _ => exact ⟨hreceipt, hslot⟩

theorem slot_steps {ls : List CompositeLabel} (hsteps : K.system.Steps s ls s')
    (hs : K.system.Reachable s) (hreceipt : (K.account s.coordinator).receipt ≠ none)
    (hslot : (K.account s.coordinator).slot = false) :
    (K.account s'.coordinator).slot = false := by
  induction hsteps with
  | nil s => exact hslot
  | cons hstep _ ih =>
    obtain ⟨hreceipt', hslot'⟩ := slot_step (consistent_of_reachable hs) hstep hreceipt hslot
    exact ih (.step _ hs hstep) hreceipt' hslot'

variable (K)

/-- The effect of the completions of the lease `id`, over a whole run. -/
structure ExactlyOnce (s : Composite C) : Prop where
  /-- when the lease has a receipt and has lost its slot, it never has one again -/
  released : (K.account s.coordinator).receipt ≠ none → (K.account s.coordinator).slot = false →
    ∀ ls s', K.system.Steps s ls s' → (K.account s'.coordinator).slot = false
  /-- at most one completion ends the lease, and its slot is free after it -/
  applied : (s.log.filter (Entry.applied id)).length ≤ 1
  freed : ∀ e ∈ s.log, e.applied id = true → (K.account s.coordinator).slot = false
  /-- at most one usage is debited for the lease -/
  debited : (s.log.flatMap (Entry.debitsOf id)).length ≤ 1
  /-- and it is the usage of the first completion that was processed for it -/
  usage : ∀ u ∈ s.log.flatMap (Entry.debitsOf id), ∃ first,
    (s.log.filter (Entry.processed id)).head? = some first ∧ first.completion.usage = some u
  /-- every completion the manager counts as acknowledged was processed -/
  answered : s.answered.map Entry.completion = s.manager.acknowledged.map Item.completion ∧
    ∀ e ∈ s.answered, e ∈ s.log
  /-- and if the coordinator had found a receipt of the lease for it, that was the receipt of
      a rejected request, or exactly one completion has ended the lease -/
  acknowledged : ∀ e ∈ s.answered, e.leaseID = id → e.found = true →
    (K.account s.coordinator).receipt = some .rejected ∨
      e.result.reason = none ∧ (s.log.filter (Entry.applied id)).length = 1

variable {K}

theorem filter_applied (log : List Entry) (id : UUID) :
    log.filter (Entry.applied id) = (log.filter (Entry.processed id)).filter
      (fun e => decide (e.result.result ≠ some .alreadyCompleted)) := by
  rw [List.filter_filter]
  apply List.filter_congr
  intro e _
  exact Bool.and_comm _ _

theorem Ledger.filter_applied_ended {first : Entry} {rest : List Entry}
    (hlog : log.filter (Entry.processed id) = first :: rest)
    (hfirst : first.result.result ≠ some .alreadyCompleted)
    (hrest : ∀ e ∈ rest, e.result.result = some .alreadyCompleted ∧ e.debits = []) :
    log.filter (Entry.applied id) = [first] := by
  rw [filter_applied, hlog, List.filter_cons_of_pos (by simpa using hfirst)]
  have hnone : rest.filter (fun e => decide (e.result.result ≠ some .alreadyCompleted)) = [] := by
    rw [List.filter_eq_nil_iff]
    intro e he
    simp [(hrest e he).1]
  rw [hnone]

theorem Ledger.length_applied_le (h : Ledger id log account) :
    (log.filter (Entry.applied id)).length ≤ 1 := by
  cases h with
  | untouched hlog _ =>
    rw [filter_applied, hlog]
    exact Nat.zero_le 1
  | ended first rest hlog hfirst hdebits hrest haccount =>
    rw [filter_applied_ended hlog hfirst hrest]
    exact Nat.le_refl 1

/-- A processed completion shows that the lease has ended, by one completion. -/
theorem Ledger.length_applied (h : Ledger id log account) (he : e ∈ log)
    (hprocessed : e.processed id = true) :
    (log.filter (Entry.applied id)).length = 1 ∧ account.slot = false := by
  cases h with
  | untouched hlog _ =>
    have hmem : e ∈ log.filter (Entry.processed id) := List.mem_filter.mpr ⟨he, hprocessed⟩
    rw [hlog] at hmem
    cases hmem
  | ended first rest hlog hfirst hdebits hrest haccount =>
    rw [filter_applied_ended hlog hfirst hrest, haccount]
    exact ⟨rfl, rfl⟩

/-- Elements that contribute nothing may be left out of a concatenation. -/
theorem flatMap_eq_flatMap_filter {α β : Type} {f : α → List β} {p : α → Bool} {l : List α}
    (h : ∀ a ∈ l, p a = false → f a = []) : l.flatMap f = (l.filter p).flatMap f := by
  induction l with
  | nil => rfl
  | cons a l ih =>
    have hrest := ih fun b hb => h b (List.mem_cons_of_mem a hb)
    cases hp : p a with
    | true => simp [hp, hrest]
    | false => simp [hp, hrest, h a List.mem_cons_self hp]

/-- What was debited for the lease is at most the usage of the first completion that was
    processed for it. -/
theorem Logged.debits (h : Logged id log account) :
    log.flatMap (Entry.debitsOf id) <+:
      (log.filter (Entry.processed id)).head?.elim [] fun first =>
        first.completion.usage.toList := by
  have hnot : ∀ e ∈ log, e.processed id = false → e.debitsOf id = [] := by
    intro e he hnot
    unfold Entry.debitsOf
    split
    · next hid =>
      refine (h.refused e he hid fun hreason => ?_).1
      rw [Entry.processed_self hid hreason] at hnot
      cases hnot
    · rfl
  rw [flatMap_eq_flatMap_filter hnot]
  cases h.ledger with
  | untouched hlog _ =>
    rw [hlog]
    exact List.nil_prefix
  | ended first rest hlog hfirst hdebits hrest haccount =>
    have hnone : rest.flatMap (Entry.debitsOf id) = [] := by
      rw [List.flatMap_eq_nil_iff]
      intro e he
      simp [Entry.debitsOf, (hrest e he).2]
    rw [hlog, List.flatMap_cons, hnone, List.append_nil]
    unfold Entry.debitsOf
    split
    · exact hdebits
    · exact List.nil_prefix

/-- **Exactly once**, for every coordinator that respects the life of an account. -/
theorem exactlyOnce_of_reachable (hs : K.system.Reachable s) : ExactlyOnce K s := by
  have h := consistent_of_reachable hs
  have hdebits := h.logged.debits
  refine ⟨?_, h.logged.ledger.length_applied_le, ?_, ?_, ?_, ⟨h.answered, h.recorded⟩, ?_⟩
  · intro hreceipt hslot ls s' hsteps
    exact slot_steps hsteps hs hreceipt hslot
  · intro e he happlied
    simp only [Entry.applied, Bool.and_eq_true] at happlied
    exact (h.logged.ledger.length_applied he happlied.1).2
  · refine hdebits.length_le.trans ?_
    cases (s.log.filter (Entry.processed id)).head? with
    | none => exact Nat.zero_le 1
    | some first => exact Option.length_toList_le
  · intro u hu
    -- the debits are those of the first processed completion
    have hmem := hdebits.subset hu
    cases hfirst : (s.log.filter (Entry.processed id)).head? with
    | none =>
      rw [hfirst] at hmem
      cases hmem
    | some first =>
      rw [hfirst] at hmem
      exact ⟨first, rfl, Option.mem_toList.mp hmem⟩
  · intro e he hid hfound
    have hlog := h.recorded e he
    by_cases hreason : e.result.reason = none
    · exact .inr ⟨hreason,
        (h.logged.ledger.length_applied hlog (Entry.processed_self hid hreason)).1⟩
    · rcases (h.logged.refused e hlog hid hreason).2 with hnone | hrejected
      · rw [hfound] at hnone
        cases hnone
      · exact .inl hrejected

end Composition

end Coordination.LeaseManager
