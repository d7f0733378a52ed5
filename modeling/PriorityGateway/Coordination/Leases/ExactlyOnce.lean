import PriorityGateway.Coordination.Leases.LocalService
import PriorityGateway.Coordination.Leases.PostgresService
import PriorityGateway.Coordination.Local.AtMostOnce
import PriorityGateway.Coordination.Postgres.NoOverAdmission

/-! # Completions Take Effect Exactly Once

    The lease manager retries what was not acknowledged, and does not know
    whether the coordinator has processed it.  The coordinator's receipts
    make the retry harmless.  Put together, over either coordinator, a lease
    is ended by one completion, its slot is given back once, its tokens are
    debited once, and nothing is acknowledged that was not processed.

    At the end a run that needs this: a completion commits, its response is
    lost, and the retry of it is acknowledged. -/

namespace Coordination.LeaseManager

open LocalAdmission (coordinator)

/-- For every lease, and over every run that does not delete its receipt. -/
theorem completions_exactly_once (F : Type) [RateArith F] (fingerprint : AdmissionRequest → Nat)
    (id : UUID) :
    (∀ s, (coordinator F id fingerprint).system.Reachable s →
      ExactlyOnce (coordinator F id fingerprint) s) ∧
    (∀ s, (PostgresCompletion.coordinator F id fingerprint).system.Reachable s →
      ExactlyOnce (PostgresCompletion.coordinator F id fingerprint) s) :=
  ⟨fun _ hs => exactlyOnce_of_reachable hs, fun _ hs => exactlyOnce_of_reachable hs⟩

/-! ## A lost response -/

section Scenario

variable {C : Type} {id : UUID} {K : Coordinator C id} {s : Composite C}

/-- The manager may take any steps that need no answer. -/
theorem Coordinator.reachable_manager (hs : K.system.Reachable s)
    (ls : List Label) {m : State} (hls : ∀ l ∈ ls, l.isAnswer = false)
    (h : ls.foldlM next s.manager = some m) : K.system.Reachable { s with manager := m } := by
  induction ls generalizing s with
  | nil =>
    cases h
    exact hs
  | cons l ls ih =>
    obtain ⟨m₁, hfirst, hrest⟩ := Option.bind_eq_some_iff.mp h
    have hone : K.system.Reachable { s with manager := m₁ } :=
      .step (.manager l) hs (.manager s l m₁ (hls l List.mem_cons_self) hfirst)
    exact ih (s := { s with manager := m₁ }) hone
      (fun l' hl' => hls l' (List.mem_cons_of_mem _ hl')) hrest

theorem Coordinator.reachable_background (hs : K.system.Reachable s) {c : C}
    (h : Relation.ReflTransGen K.background s.coordinator c) :
    K.system.Reachable { s with coordinator := c } := by
  induction h with
  | refl => exact hs
  | tail _ hstep ih => exact .step .background ih (.background _ _ hstep)

def demoCompletion : LeaseCompletion := ⟨demoLease 1, some ⟨10, 20, 0⟩⟩

/-- The lease is tracked and completed, and the run loop takes up the completion. -/
def send : List Label :=
  [.track (demoLease 1), .handle 0 (.claim demoCompletion.usage), .handle 0 .offer,
    .loop .receive, .loop .batch]

/-- What was not acknowledged is queued and taken up again when it is due. -/
def resend : List Label :=
  [.loop (.settle 0), .loop .queue, .loop (.retry (20 * millisecond)), .loop .next]

/-- The completion is in the hands of the coordinator. -/
def sentState : State := (send.foldlM next (newLeaseManager {})).getD (newLeaseManager {})

/-- The call has ended with an error and without a result. -/
def unansweredState : State :=
  (next sentState (.loop (.answer [] .deadlineExceeded))).getD sentState

/-- The completion is sent again. -/
def resentState : State := (resend.foldlM next unansweredState).getD unansweredState

/-- Over any coordinator: a completion is processed, its response is lost, and it is
    processed again and acknowledged. -/
theorem Coordinator.lostResponse {c₀ c₁ c₂ c₃ c₄ : C} {e₁ e₂ : Entry} (hinit : K.init c₀)
    (hbefore : Relation.ReflTransGen K.background c₀ c₁) (hfirst : K.process c₁ e₁ c₂)
    (hbetween : Relation.ReflTransGen K.background c₂ c₃) (hsecond : K.process c₃ e₂ c₄)
    (he₁ : e₁.completion = demoCompletion) (he₂ : e₂.completion = demoCompletion) :
    ∃ s, K.system.Reachable s ∧ s.log = [e₁, e₂] ∧
      s.manager.acknowledged = [⟨0, demoCompletion⟩] ∧ s.answered = [e₂] := by
  have hstart : K.system.Reachable ⟨newLeaseManager {}, c₀, [], [], [], []⟩ :=
    .init ⟨⟨{}, rfl⟩, hinit, rfl, rfl, rfl, rfl⟩
  have hsent : K.system.Reachable ⟨sentState, c₀, [], [], [], []⟩ :=
    Coordinator.reachable_manager hstart send (by decide) rfl
  have hgranted : K.system.Reachable ⟨sentState, c₁, [], [], [], []⟩ :=
    Coordinator.reachable_background hsent hbefore
  have hprocessed : K.system.Reachable ⟨sentState, c₂, [e₁], [e₁], [], []⟩ :=
    .step .processLoop hgranted (.processLoop _ e₁ c₂ _ _ rfl (by rw [he₁]; rfl) hfirst)
  have hlost : K.system.Reachable ⟨unansweredState, c₂, [e₁], [], [], []⟩ :=
    .step (.answerLoop 0 .deadlineExceeded) hprocessed
      (.answerLoop _ 0 _ _ _ _ rfl (Nat.zero_le _) nofun rfl)
  have hresent : K.system.Reachable ⟨resentState, c₃, [e₁], [], [], []⟩ :=
    Coordinator.reachable_background
      (Coordinator.reachable_manager hlost resend (by decide) rfl) hbetween
  have hagain : K.system.Reachable ⟨resentState, c₄, [e₁, e₂], [e₂], [], []⟩ :=
    .step .processLoop hresent (.processLoop _ e₂ c₄ _ _ rfl (by rw [he₂]; rfl) hsecond)
  exact ⟨_, .step (.answerLoop 1 .nil) hagain
    (.answerLoop _ 1 _ _ _ _ rfl (Nat.le_refl 1) (fun _ => rfl) rfl), rfl, rfl, rfl⟩

end Scenario

/-! The local coordinator grants a lease with a token limit and is asked twice. -/

section LocalRun

open LocalAdmission

def localGranted : AdmissionCoordinator ℚ :=
  (call exactFingerprint (newAdmissionCoordinator ℚ 8) 0 (.acquire ratedRequest)).1

def localEnded : AdmissionCoordinator ℚ := (completeEntry second localGranted demoCompletion).1

theorem localGranted_background : (coordinator ℚ 1 exactFingerprint).background
    (newAdmissionCoordinator ℚ 8) localGranted :=
  ⟨0, .acquire ratedRequest, fun _ => by simp, nofun, rfl⟩

end LocalRun

/-! The PostgreSQL coordinator does the same in three transactions. -/

section PostgresRun

open PostgresAdmission PostgresCompletion

def tokenSlot : Configuration := .single (.normal 1 1 0 1000 (by decide))

def tokenRequest : AdmissionRequest := { oneRequest with leaseID := 1, tokensPerMinute := 1000 }

def tablesGranted : Db ℚ :=
  afterAlone exactFingerprint (emptyDb ℚ tokenSlot) (.acquire tokenRequest)

def tablesEnded : Db ℚ := afterAlone exactFingerprint tablesGranted (.completeOne demoCompletion)

theorem tokenRequest_admitted :
    ((transaction exactFingerprint (.acquire tokenRequest)).run unixEpoch
      (emptyDb ℚ tokenSlot)).map Prod.fst
      = some (.admitted (grantedLease unixEpoch tokenRequest) unixEpoch) := by
  decide +kernel

theorem tablesGranted_released :
    ((transaction exactFingerprint (.completeOne demoCompletion)).run unixEpoch
      tablesGranted).map Prod.fst = some (.completed ⟨1, some .released, none, none⟩) := by
  decide +kernel

theorem tablesEnded_repeated :
    ((transaction exactFingerprint (.completeOne demoCompletion)).run unixEpoch
      tablesEnded).map Prod.fst
      = some (.completed ⟨1, some .alreadyCompleted, some .released, none⟩) := by
  decide +kernel

/-- The first completion takes its tokens from the bucket. -/
theorem tablesEnded_rates : tablesEnded.rates ≠ tablesGranted.rates := by
  intro h
  have hbucket := congrFun (congrFun h 1) .tpm
  revert hbucket
  decide +kernel

/-- A repetition leaves the tables. -/
theorem completeOne_repeated {db db' : Db ℚ} {item : LeaseCompletion} {now : Int}
    {result : CompleteResult} (h : (completeOne item).run now db = some (.completed result, db'))
    (hresult : result.result = some .alreadyCompleted) : db' = db := by
  rw [completeOne_run] at h
  split at h
  · cases h
    rfl
  · split at h
    · cases h
      rfl
    · split at h
      · split at h <;> cases h
        rfl
      · cases h
        exact absurd (Option.some.inj hresult) (completionOf_ne _ _)

end PostgresRun

/-- The completion that ends the lease, and its repetition. -/
def endingEntry : Entry :=
  ⟨demoCompletion, true, ⟨1, some .released, none, none⟩, [⟨10, 20, 0⟩]⟩

def repeatedEntry : Entry :=
  ⟨demoCompletion, true, ⟨1, some .alreadyCompleted, some .released, none⟩, []⟩

theorem completions_exactly_once_lostResponse :
    (∃ s, (coordinator ℚ 1 exactFingerprint).system.Reachable s ∧
      s.log = [endingEntry, repeatedEntry] ∧ s.manager.acknowledged = [⟨0, demoCompletion⟩] ∧
      s.answered = [repeatedEntry] ∧ ExactlyOnce (coordinator ℚ 1 exactFingerprint) s) ∧
    (∃ s, (PostgresCompletion.coordinator ℚ 1 exactFingerprint).system.Reachable s ∧
      s.log = [endingEntry, repeatedEntry] ∧ s.manager.acknowledged = [⟨0, demoCompletion⟩] ∧
      s.answered = [repeatedEntry] ∧
      ExactlyOnce (PostgresCompletion.coordinator ℚ 1 exactFingerprint) s) := by
  constructor
  · have hprocess : ∀ c e, LocalAdmission.entryOf second c demoCompletion = e →
        e.completion = demoCompletion → (coordinator ℚ 1 exactFingerprint).process c e
          (LocalAdmission.completeEntry second c demoCompletion).1 := by
      intro c e he hcompletion
      exact ⟨second, by rw [hcompletion, he], by rw [hcompletion]⟩
    obtain ⟨s, hs, hlog, hacknowledged, hanswered⟩ := Coordinator.lostResponse
      (K := coordinator ℚ 1 exactFingerprint) ⟨8, rfl⟩ (.single localGranted_background)
      (hprocess localGranted endingEntry (by decide +kernel) rfl) .refl
      (hprocess localEnded repeatedEntry (by decide +kernel) rfl) rfl rfl
    exact ⟨s, hs, hlog, hacknowledged, hanswered,
      (completions_exactly_once ℚ exactFingerprint 1).1 s hs⟩
  · have hended := PostgresAdmission.run_alone tablesGranted_released
    have hagain := PostgresAdmission.run_alone tablesEnded_repeated
    obtain ⟨c₁, hbefore, hfirst⟩ := PostgresCompletion.process_of_run 1 (e := endingEntry)
      (by decide +kernel) hended (.inr ⟨tablesEnded_rates, rfl⟩)
    obtain ⟨c₃, hbetween, hsecond⟩ := PostgresCompletion.process_of_run 1
      (e := repeatedEntry) (by decide +kernel) hagain
      (.inl ⟨by rw [completeOne_repeated hagain rfl], rfl⟩)
    have hgranted := PostgresCompletion.background_of_run 1 (fun _ => by simp)
      (fun h => by cases h) (PostgresAdmission.run_alone tokenRequest_admitted)
    obtain ⟨s, hs, hlog, hacknowledged, hanswered⟩ := Coordinator.lostResponse
      (K := PostgresCompletion.coordinator ℚ 1 exactFingerprint)
      ⟨⟨tokenSlot, rfl⟩, rfl⟩ (hgranted.trans hbefore) hfirst hbetween hsecond rfl rfl
    exact ⟨s, hs, hlog, hacknowledged, hanswered,
      (completions_exactly_once ℚ exactFingerprint 1).2 s hs⟩

end Coordination.LeaseManager
