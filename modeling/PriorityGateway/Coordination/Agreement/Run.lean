import PriorityGateway.Coordination.Fingerprint
import PriorityGateway.Coordination.Agreement.Acquire
import PriorityGateway.Coordination.Agreement.Renew
import PriorityGateway.Coordination.Agreement.Complete

/-! # The Two Admission Coordinators Agree

    Both coordinators are driven by the same calls at the same readings of
    one clock, and what they answer is compared.  A call is an acquisition, a
    renewal, a completion, or a change of the committed configuration that
    the local coordinator is told of.

    The run theorem `coordinators_agree` assumes of every call, in the state
    that finds it, what `Assumed` lists.  Where an assumption is needed is
    shown at the end: a receipt table that is full of live receipts makes the
    local coordinator refuse what PostgreSQL admits. -/

namespace Coordination.Agreement

open LocalAdmission (AdmissionReceipt AdmissionCoordinator RateState RatePolicy Retained)
open PostgresAdmission (Db OperationRow LeaseRow RateRow ClientRow Configuration serialAcquire
  serialRenew serialComplete)

/-! ## Both coordinators -/

/-- The two coordinators, the last reading of the clock, and for every operation that
    ended when its local receipt may be deleted. -/
structure Pair where
  coordinator : AdmissionCoordinator ℚ
  db : Db ℚ
  clock : Int
  retention : UUID → Option Int

/-- A call made to both.  A change of the configuration names the clients whose policy
    the local coordinator is told. -/
inductive Call where
  | acquire (request : AdmissionRequest)
  | renew (leases : List LeaseIdentity)
  | complete (completions : List LeaseCompletion)
  | configure (configuration : Configuration) (told : List Int)

/-- What is compared: decisions, verdicts on renewals, results of completions. -/
inductive Reply where
  | decision (reply : DecisionReply)
  | renewed (reasons : List (Option Reason))
  | completed (results : List CompleteResult)
  | configured
  deriving DecidableEq, Repr

/-- The local coordinator is told the policy of a client. -/
def tell (configuration : Configuration) (s : AdmissionCoordinator ℚ) (clientID : Int) :
    AdmissionCoordinator ℚ :=
  match configuration.clients clientID with
  | none => s
  | some client => (LocalAdmission.observeClientRatePolicy s
      { clientID := clientID, revision := client.revision,
        requestsPerMinute := client.requestsPerMinute,
        tokensPerMinute := client.tokensPerMinute }).1

def localCall (fingerprint : AdmissionRequest → Nat) (s : AdmissionCoordinator ℚ) (now : Int) :
    Call → AdmissionCoordinator ℚ × Reply
  | .acquire r =>
    ((LocalAdmission.acquire fingerprint s now r).1,
      .decision (decisionReply (LocalAdmission.acquire fingerprint s now r).2.1))
  | .renew leases =>
    ((LocalAdmission.renew s now leases).1,
      .renewed ((LocalAdmission.renew s now leases).2.map RenewResult.reason))
  | .complete items =>
    ((LocalAdmission.complete s now items).1,
      .completed ((LocalAdmission.complete s now items).2.map Prod.fst))
  | .configure configuration told => (told.foldl (tell configuration) s, .configured)

/-- A new configuration is committed; a client that is gone takes its buckets along. -/
def commitConfiguration (configuration : Configuration) (db : Db ℚ) : Db ℚ :=
  { db with
    configuration := configuration
    rates := fun c kind => if (configuration.clients c).isSome then db.rates c kind else none }

def storedCall (fingerprint : AdmissionRequest → Nat) (db : Db ℚ) (now : Int) :
    Call → Db ℚ × Option Reply
  | .acquire r =>
    ((serialAcquire fingerprint now db r).1,
      (serialAcquire fingerprint now db r).2.map fun d =>
        .decision (decisionReply d))
  | .renew leases =>
    ((serialRenew now db leases).1,
      (serialRenew now db leases).2.map fun results =>
        .renewed (results.map RenewResult.reason))
  | .complete items =>
    ((serialComplete now db items).1,
      (serialComplete now db items).2.map .completed)
  | .configure configuration _ => (commitConfiguration configuration db, some .configured)

instance (receipt : AdmissionReceipt) : Decidable receipt.Ended :=
  inferInstanceAs (Decidable (_ ∨ _))

/-- The retention of the receipts in `s`; what is deleted is remembered. -/
def noteRetention (s : AdmissionCoordinator ℚ) (retention : UUID → Option Int) :
    UUID → Option Int := fun id =>
  match s.receipts.lookup id with
  | none => retention id
  | some receipt => if receipt.Ended then some receipt.retainUntil else none

/-- Both coordinators at work.  The first reply is the local one. -/
def both (fingerprint : AdmissionRequest → Nat) :
    Machine Pair (Int × Call) (Reply × Option Reply) where
  step := fun p c =>
    ({ coordinator := (localCall fingerprint p.coordinator c.1 c.2).1
       db := (storedCall fingerprint p.db c.1 c.2).1
       clock := c.1
       retention :=
        noteRetention (localCall fingerprint p.coordinator c.1 c.2).1 p.retention },
      (localCall fingerprint p.coordinator c.1 c.2).2,
      (storedCall fingerprint p.db c.1 c.2).2)

/-- Both coordinators empty, with the clock at its zero instant. -/
def start (receiptCapacity : Int) (configuration : Configuration) : Pair where
  coordinator := LocalAdmission.newAdmissionCoordinator ℚ receiptCapacity
  db := PostgresAdmission.emptyDb ℚ configuration
  clock := 0
  retention := fun _ => none

/-! ## What is assumed of a call -/

/-- `id` is not used again after the retention of its operation. -/
def NotLate (p : Pair) (now : Int) (id : UUID) : Prop :=
  ∀ boundary, p.retention id = some boundary → now < boundary

instance (p : Pair) (now : Int) (id : UUID) : Decidable (NotLate p now id) :=
  inferInstanceAs (Decidable (∀ boundary ∈ p.retention id, now < boundary))

/-- The local coordinator has room for the receipt of a new operation. -/
def HasRoom (p : Pair) (now : Int) (id : UUID) : Prop :=
  (LocalAdmission.expire p.coordinator now).receipts.lookup id = none →
    (Table.size (LocalAdmission.expire p.coordinator now).receipts : Int)
      < (LocalAdmission.expire p.coordinator now).receiptCapacity

instance (p : Pair) (now : Int) (id : UUID) : Decidable (HasRoom p now id) :=
  inferInstanceAs (Decidable (_ → _))

/-- The local coordinator is told of every client whose policy is not the one it was,
    and a policy that changes gets a higher revision. -/
def Announced (p : Pair) (configuration : Configuration) (told : List Int) : Prop :=
  ∀ c client', configuration.clients c = some client' →
    (∃ client, p.db.configuration.clients c = some client ∧ policyOf client = policyOf client') ∨
    (c ∈ told ∧
      (∀ client, p.db.configuration.clients c = some client →
        client.revision < client'.revision) ∧
      ∀ policy, p.coordinator.policies c = some policy → policy.revision < client'.revision)

/-- The assumptions on one call. -/
def AssumedOf (p : Pair) (now : Int) : Call → Prop
  | .acquire r => NotLate p now r.leaseID ∧ HasRoom p now r.leaseID ∧
      (p.db.operations.lookup r.leaseID = none →
        MatchesConfiguration p.db.configuration r now ∧ ValidRequest r now)
  | .renew leases => Owns p.coordinator leases
  | .complete items => ∀ item ∈ items, NotLate p now item.lease.leaseID
  | .configure configuration told => Announced p configuration told

/-- The clock does not go back and is read in whole microseconds. -/
def Assumed (p : Pair) (c : Int × Call) : Prop :=
  p.clock ≤ c.1 ∧ c.1 % 1000 = 0 ∧ AssumedOf p c.1 c.2

/-! ## A change of the configuration -/

/-- The policy the local coordinator knows of a client once it is told. -/
def observed (configuration : Configuration) (c : Int) (old : Option RatePolicy) :
    Option RatePolicy :=
  match configuration.clients c, old with
  | none, old => old
  | some client, none => some (policyOf client)
  | some client, some policy =>
    if policy.revision < client.revision then some (policyOf client) else some policy

variable (configuration : Configuration)

theorem tell_eq (s : AdmissionCoordinator ℚ) (c : Int) :
    tell configuration s c
      = { s with
          policies := Function.update s.policies c (observed configuration c (s.policies c)) } := by
  unfold tell observed
  rcases hclient : configuration.clients c with _ | client
  · simp
  unfold LocalAdmission.observeClientRatePolicy
  dsimp only
  cases hpolicy : s.policies c with
  | none => rfl
  | some policy =>
    dsimp only
    split
    · rfl
    · rw [← hpolicy, Function.update_eq_self]

theorem observed_observed (c : Int) (old : Option RatePolicy) :
    observed configuration c (observed configuration c old) = observed configuration c old := by
  unfold observed
  rcases configuration.clients c with _ | client
  · rfl
  cases old with
  | none => simp [policyOf]
  | some policy =>
    by_cases hlower : policy.revision < client.revision
    · simp [hlower, policyOf]
    · simp [hlower]

/-- Telling several clients, in any order and any number of times. -/
theorem tell_foldl (told : List Int) (s : AdmissionCoordinator ℚ) :
    told.foldl (tell configuration) s
      = { s with policies := fun c =>
            if c ∈ told then observed configuration c (s.policies c) else s.policies c } := by
  induction told generalizing s with
  | nil => simp
  | cons c told ih =>
    rw [List.foldl_cons, ih, tell_eq]
    dsimp only
    congr 1
    funext c'
    by_cases hc : c' = c
    · subst hc
      by_cases hmem : c' ∈ told
      · simp [hmem, observed_observed]
      · simp [hmem]
    · simp [hc]

/-- What is known stays known, and its revision does not go down. -/
theorem observed_of_some (c : Int) (policy : RatePolicy) :
    ∃ policy', observed configuration c (some policy) = some policy' ∧
      policy.revision ≤ policy'.revision := by
  unfold observed
  cases configuration.clients c with
  | none => exact ⟨policy, rfl, le_refl _⟩
  | some client =>
    dsimp only
    split
    · next hlower => exact ⟨_, rfl, le_of_lt hlower⟩
    · exact ⟨policy, rfl, le_refl _⟩

variable {client : ClientRow} {configuration : Configuration} {now c : Int} {p : Pair}
  {fingerprint : AdmissionRequest → Nat} {old : Option RatePolicy} {told : List Int}

/-- A client whose policy is known with a lower revision only. -/
theorem observed_of_lower (hclient : configuration.clients c = some client)
    (hlower : ∀ policy, old = some policy → policy.revision < client.revision) :
    observed configuration c old = some (policyOf client) := by
  unfold observed
  rw [hclient]
  cases old with
  | none => rfl
  | some policy => simp [hlower policy rfl]

theorem observed_of_known (hclient : configuration.clients c = some client)
    (hknown : old = none ∨ old = some (policyOf client)) :
    observed configuration c old = some (policyOf client) := by
  unfold observed
  rw [hclient]
  rcases hknown with rfl | rfl
  · rfl
  · simp [policyOf]

theorem capacity_eq_of_policyOf {client' : ClientRow} (h : policyOf client = policyOf client')
    (kind : RateKind) :
    capacity client kind = capacity client' kind ∧ client.revision = client'.revision := by
  simp only [policyOf, RatePolicy.mk.injEq] at h
  refine ⟨?_, h.1⟩
  cases kind with
  | rpm => exact h.2.1
  | tpm => exact h.2.2

/-- Buckets agree under the new configuration: an unchanged policy keeps its bucket, and
    a bucket of an older revision stands for a full one. -/
theorem RatesAgree.configure
    (h : RatesAgree p.db.configuration p.coordinator.policies p.coordinator.rates p.db.rates now)
    (hannounced : Announced p configuration told) :
    RatesAgree configuration
      (fun c => if c ∈ told then observed configuration c (p.coordinator.policies c)
        else p.coordinator.policies c)
      p.coordinator.rates (commitConfiguration configuration p.db).rates now := by
  refine ⟨?_, ?_, ?_, ?_⟩
  · intro c client' hclient'
    rcases hannounced c client' hclient' with ⟨client, hclient, hsame⟩ | ⟨htold, -, hlower⟩
    · have hknown := h.policy c client hclient
      rw [hsame] at hknown
      split
      · exact .inr (observed_of_known hclient' hknown)
      · exact hknown
    · rw [if_pos htold]
      exact .inr (observed_of_lower hclient' hlower)
  · intro c client' kind hclient' hcap
    have hrows : (commitConfiguration configuration p.db).rates c kind = p.db.rates c kind := by
      unfold commitConfiguration
      simp [hclient']
    rw [hrows]
    rcases hannounced c client' hclient' with ⟨client, hclient, hsame⟩ | ⟨-, hhigher, hlower⟩
    · obtain ⟨hcapacity, hrevision⟩ := capacity_eq_of_policyOf hsame kind
      rw [← hcapacity] at hcap ⊢
      rw [← hrevision]
      exact h.bucket c client kind hclient hcap
    -- nothing has been used under the new revision
    refine .inr ⟨?_, ?_⟩
    · intro st hst
      obtain ⟨policy, hpolicy, hle⟩ := h.stateRevision c kind st hst
      have := hlower policy hpolicy
      omega
    · intro row hrow
      obtain ⟨client, hclient, hle⟩ := h.rowRevision c kind row hrow
      have := hhigher client hclient
      exact .inl (by omega)
  · intro c kind st hst
    obtain ⟨policy, hpolicy, hle⟩ := h.stateRevision c kind st hst
    split
    · obtain ⟨policy', hpolicy', hle'⟩ := observed_of_some configuration c policy
      exact ⟨policy', by rw [hpolicy, hpolicy'], le_trans hle hle'⟩
    · exact ⟨policy, hpolicy, hle⟩
  · intro c kind row hrow
    unfold commitConfiguration at hrow
    dsimp only at hrow
    split at hrow
    · next hsome =>
      obtain ⟨client', hclient'⟩ := Option.isSome_iff_exists.mp hsome
      obtain ⟨client, hclient, hle⟩ := h.rowRevision c kind row hrow
      refine ⟨client', hclient', ?_⟩
      rcases hannounced c client' hclient' with ⟨client₀, hclient₀, hsame⟩ | ⟨-, hhigher, -⟩
      · rw [hclient] at hclient₀
        cases hclient₀
        rw [← (capacity_eq_of_policyOf hsame kind).2]
        exact hle
      · have := hhigher client hclient
        omega
    · cases hrow

theorem Core.configure {gone : UUID → Prop} (h : Core fingerprint gone now p.coordinator p.db)
    (hannounced : Announced p configuration told) :
    Core fingerprint gone now (told.foldl (tell configuration) p.coordinator)
      (commitConfiguration configuration p.db) := by
  rw [tell_foldl]
  refine ⟨h.retained.of_eq (h.retained.good.withRates _ _) rfl rfl, h.receipt, h.gone, h.lease,
    h.active, h.lost, h.operation, ?_, h.rates.configure hannounced⟩
  intro id receipt hreceipt hadmitted
  obtain ⟨policy, hpolicy⟩ := h.observed id receipt hreceipt hadmitted
  dsimp only
  split
  · obtain ⟨policy', hpolicy', -⟩ :=
      observed_of_some configuration receipt.request.clientID policy
    exact ⟨policy', by rw [hpolicy, hpolicy']⟩
  · exact ⟨policy, hpolicy⟩

/-! ## Runs -/

/-- The operation of `id` ended and its retention is over at `now`. -/
def Gone (p : Pair) (now : Int) (id : UUID) : Prop :=
  ∃ boundary, p.retention id = some boundary ∧ boundary ≤ now

/-- The simulation relation between calls. -/
structure Related (fingerprint : AdmissionRequest → Nat) (p : Pair) : Prop where
  core : Core fingerprint (Gone p p.clock) p.clock p.coordinator p.db
  ended : ∀ id receipt, p.coordinator.receipts.lookup id = some receipt → receipt.Ended →
    p.retention id = some receipt.retainUntil
  epoch : 0 ≤ p.clock

theorem related_start (fingerprint : AdmissionRequest → Nat) (receiptCapacity : Int)
    (configuration : Configuration) :
    Related fingerprint (start receiptCapacity configuration) where
  core := core_init fingerprint _ 0 receiptCapacity configuration
  ended := fun id receipt h => by simp [start, LocalAdmission.newAdmissionCoordinator] at h
  epoch := le_refl _

theorem Related.note {s : AdmissionCoordinator ℚ} {db : Db ℚ}
    (hcore : Core fingerprint (Gone p now) now s db) (hepoch : 0 ≤ now) :
    Related fingerprint ⟨s, db, now, noteRetention s p.retention⟩ := by
  refine ⟨hcore.mono ?_ (le_refl _), ?_, hepoch⟩
  · rintro id hnone ⟨boundary, hboundary, hle⟩
    refine ⟨boundary, ?_, hle⟩
    simp only [noteRetention, hnone, hboundary]
  · intro id receipt hreceipt hended
    have hreceipt' : s.receipts.lookup id = some receipt := hreceipt
    simp only [noteRetention, hreceipt', if_pos hended]

theorem NotLate.not_gone {id : UUID} (h : NotLate p now id) : ¬ Gone p now id := by
  rintro ⟨boundary, hboundary, hle⟩
  have := h boundary hboundary
  omega

/-- **Step lemma**: a call keeps the relation, and both give the same reply. -/
theorem related_step (p : Pair) (c : Int × Call) (h : Related fingerprint p)
    (hassumed : Assumed p c) :
    Related fingerprint ((both fingerprint).step p c).1 ∧
      ((both fingerprint).step p c).2.2 = some ((both fingerprint).step p c).2.1 := by
  obtain ⟨now, call⟩ := c
  obtain ⟨hclock, hwhole, hcall⟩ := hassumed
  have hepoch : 0 ≤ now := le_trans h.epoch hclock
  have hcore : Core fingerprint (Gone p now) now p.coordinator p.db := by
    refine h.core.mono ?_ hclock
    rintro id - ⟨boundary, hboundary, hle⟩
    exact ⟨boundary, hboundary, le_trans hle hclock⟩
  have hended : ∀ id receipt, p.coordinator.receipts.lookup id = some receipt → receipt.Ended →
      receipt.retainUntil ≤ now → Gone p now id :=
    fun id receipt hreceipt hend hle => ⟨_, h.ended id receipt hreceipt hend, hle⟩
  -- each call keeps the core relation with the same reply
  suffices hsim : Core fingerprint (Gone p now) now
      (localCall fingerprint p.coordinator now call).1 (storedCall fingerprint p.db now call).1 ∧
      (storedCall fingerprint p.db now call).2
        = some (localCall fingerprint p.coordinator now call).2 from
    ⟨.note hsim.1 hepoch, hsim.2⟩
  cases call with
  | acquire r =>
    obtain ⟨hkept, hroom, hnew⟩ := hcall
    obtain ⟨db', d, hrun, hreply, hcore'⟩ :=
      hcore.acquire hended hkept.not_gone hroom hnew hwhole
    simp only [storedCall, localCall, hrun, Option.map_some, hreply]
    exact ⟨hcore', trivial⟩
  | renew leases =>
    obtain ⟨results, db', hrun, hreasons, hcore'⟩ := hcore.renew hended hcall hepoch hwhole
    simp only [storedCall, localCall, hrun, Option.map_some, hreasons]
    exact ⟨hcore', trivial⟩
  | complete items =>
    obtain ⟨db', hrun, hcore'⟩ :=
      hcore.complete hended (fun item hitem => (hcall item hitem).not_gone) hwhole
    simp only [storedCall, localCall, hrun, Option.map_some]
    exact ⟨hcore', trivial⟩
  | configure configuration told => exact ⟨hcore.configure hcall, rfl⟩

/-- **The two admission coordinators agree** along every run whose calls are as assumed. -/
theorem coordinators_agree (fingerprint : AdmissionRequest → Nat) (receiptCapacity : Int)
    (configuration : Configuration) (calls : List (Int × Call))
    (h : (both fingerprint).Along Assumed (start receiptCapacity configuration) calls) :
    ∀ replies ∈ (both fingerprint).answers (start receiptCapacity configuration) calls,
      replies.2 = some replies.1 := by
  apply Machine.answers_of_along
  refine Machine.along_inv (both fingerprint) (I := Related fingerprint) ?_ ?_ _ calls
    (related_start fingerprint receiptCapacity configuration) h
  · intro p c hp hc
    exact (related_step p c hp hc).1
  · intro p c hp hc
    exact (related_step p c hp hc).2

/-! ## An agreeing run and a disagreeing one -/

/-- One client with both rates and room for two requests, a pool with a reserve and one
    without limits. -/
def smallConfiguration (revision rpm : Int) (hrpm : 0 ≤ rpm) : Configuration where
  revision := revision
  clients := fun id =>
    if id = 1 then some (.normal revision 2 rpm 1000 ⟨hrpm, by decide⟩) else none
  apiKeys := fun id => if id = 1 then some ⟨1, none, false⟩ else none
  pools := fun id =>
    if id = 1 then some .pair
    else if id = 2 then some ⟨true, 0, 0, by decide⟩
    else none

/-- A request under the small configuration. -/
def smallRequest (leaseID : UUID) (startedAt revision rpm : Int) : AdmissionRequest :=
  { plainRequest leaseID startedAt (30 * second) with
    configurationRevision := revision, clientPolicyRevision := revision
    effectiveClientLimit := 2, configuredClientLimit := 2, priorityClass := .normal
    requestsPerMinute := rpm, tokensPerMinute := 1000 }

def smallLease : LeaseIdentity := LocalAdmission.grantedLease second (smallRequest 1 second 1 60)

/-- A request is granted, another one rejected for the reserve; the first is renewed,
    the policy changes, the first is completed with its usage, replayed, and completed
    again; and a third one is granted under the new policy. -/
def agreedCalls : List (Int × Call) :=
  [(second, .acquire (smallRequest 1 second 1 60)),
   (second, .acquire (smallRequest 2 second 1 60)),
   (2 * second, .renew [smallLease]),
   (3 * second, .configure (smallConfiguration 2 30 (by decide)) [1]),
   (4 * second, .complete [⟨smallLease, some ⟨100, 50, 0⟩⟩]),
   (5 * second, .acquire (smallRequest 1 second 1 60)),
   (5 * second, .complete [⟨smallLease, none⟩]),
   (5 * second, .acquire (smallRequest 3 (5 * second) 2 30))]

theorem smallConfiguration_announced (p : Pair) (h : (p.db.configuration.clients 1).any
      (fun client => decide (client.revision < 2)) = true)
    (hpolicy : ∀ policy ∈ p.coordinator.policies 1, policy.revision < 2) :
    Announced p (smallConfiguration 2 30 (by decide)) [1] := by
  intro c client' hclient'
  simp only [smallConfiguration] at hclient'
  split at hclient'
  · next hc =>
    subst hc
    cases hclient'
    refine .inr ⟨by simp, ?_, hpolicy⟩
    intro client hclient
    simpa [hclient, ClientRow.normal] using h
  · cases hclient'

theorem coordinators_agree_agreedCalls :
    (∀ replies ∈ (both exactFingerprint).answers
        (start 8 (smallConfiguration 1 60 (by decide))) agreedCalls,
      replies.2 = some replies.1) ∧
    ((both exactFingerprint).answers (start 8 (smallConfiguration 1 60 (by decide)))
        agreedCalls).map Prod.fst
      = [.decision ⟨true, none, none, none⟩,
         .decision ⟨false, some .poolPriorityReserve, none, none⟩,
         .renewed [none],
         .configured,
         .completed [{ leaseID := 1, result := some .released }],
         .decision ⟨false, some .leaseLost, none, none⟩,
         .completed [{ leaseID := 1, result := some .alreadyCompleted,
                       originalResult := some .released }],
         .decision ⟨true, none, none, none⟩] := by
  refine ⟨coordinators_agree _ _ _ _ ?_, by decide +kernel⟩
  refine ⟨⟨by decide, by decide, by decide, by decide, by decide⟩,
    ⟨by decide, by decide, by decide, by decide, by decide⟩,
    ⟨by decide, by decide, (show Owns _ _ by decide +kernel)⟩,
    ⟨by decide, by decide,
      smallConfiguration_announced _ (by decide +kernel) (by decide +kernel)⟩,
    ⟨by decide, by decide, (show ∀ item ∈ _, NotLate _ _ _ by decide +kernel)⟩,
    ⟨by decide, by decide, by decide +kernel, by decide +kernel, by decide +kernel⟩,
    ⟨by decide, by decide, (show ∀ item ∈ _, NotLate _ _ _ by decide +kernel)⟩,
    ⟨by decide, by decide, by decide +kernel, by decide +kernel, by decide +kernel⟩, trivial⟩

/-- A request for the pool without limits. -/
def openRequest (leaseID : UUID) (startedAt : Int) : AdmissionRequest :=
  { smallRequest leaseID startedAt 1 60 with
    poolID := 2, poolGatewayInflightLimit := 0, poolHighPriorityReserve := 0 }

/-- Two requests for a receipt table of one. -/
def fullTableCalls : List (Int × Call) :=
  [(second, .acquire (openRequest 1 second)), (2 * second, .acquire (openRequest 2 (2 * second)))]

/-- The day after an operation was completed. -/
def nextDay : Int := 2 * second + receiptRetention

/-- A request is completed, and the day after another one comes with its lease id. -/
def reusedLeaseCalls : List (Int × Call) :=
  [(second, .acquire (openRequest 1 second)),
   (2 * second, .complete [⟨LocalAdmission.grantedLease second (openRequest 1 second), none⟩]),
   (nextDay, .acquire (openRequest 1 nextDay))]

/-- The lease of a request granted before the zero instant. -/
def earlyLease : LeaseIdentity :=
  LocalAdmission.grantedLease (-200 * second) (openRequest 1 (-200 * second))

/-- The lease is renewed twice, each time before it expires. -/
def earlyCalls : List (Int × Call) :=
  [(-200 * second, .acquire (openRequest 1 (-200 * second))),
   (-180 * second, .renew [earlyLease]), (-160 * second, .renew [earlyLease])]

/-- Valid requests that match the configuration are answered differently where the local
    table is full of live receipts, and where a lease id is used again after retention.
    Nothing is evicted: the first receipt is still there.  Before the zero instant `renew`
    answers that a lease is renewed and does not store it. -/
theorem full_table_or_reused_lease_disagrees :
    Function.Injective exactFingerprint ∧
    (∀ c ∈ [(second, openRequest 1 second), (2 * second, openRequest 2 (2 * second)),
        (nextDay, openRequest 1 nextDay), (-200 * second, openRequest 1 (-200 * second))],
      MatchesConfiguration (smallConfiguration 1 60 (by decide)) c.2 c.1 ∧
        ValidRequest c.2 c.1) ∧
    (both exactFingerprint).answers (start 1 (smallConfiguration 1 60 (by decide))) fullTableCalls
      = [(.decision ⟨true, none, none, none⟩, some (.decision ⟨true, none, none, none⟩)),
         (.decision ⟨false, some .coordinationUnavailable, none, none⟩,
          some (.decision ⟨true, none, none, none⟩))] ∧
    (((both exactFingerprint).after (start 1 (smallConfiguration 1 60 (by decide)))
        fullTableCalls).coordinator.receipts.lookup 1).isSome = true ∧
    (both exactFingerprint).answers (start 8 (smallConfiguration 1 60 (by decide)))
        reusedLeaseCalls
      = [(.decision ⟨true, none, none, none⟩, some (.decision ⟨true, none, none, none⟩)),
         (.completed [{ leaseID := 1, result := some .released }],
          some (.completed [{ leaseID := 1, result := some .released }])),
         (.decision ⟨true, none, none, none⟩,
          some (.decision ⟨false, some .idempotencyConflict, none, none⟩))] ∧
    (both exactFingerprint).answers (start 8 (smallConfiguration 1 60 (by decide))) earlyCalls
      = [(.decision ⟨true, none, none, none⟩, some (.decision ⟨true, none, none, none⟩)),
         (.renewed [none], some (.renewed [none])),
         (.renewed [none], some (.renewed [some .leaseLost]))] := by
  refine ⟨exactFingerprint_injective, ?_, ?_, ?_, ?_, ?_⟩
  all_goals decide +kernel

end Coordination.Agreement
