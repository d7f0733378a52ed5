import PriorityGateway.Coordination.Local.RateLimit
import PriorityGateway.Coordination.Postgres.Admission
import PriorityGateway.Coordination.Tokenization

/-! # Rate Buckets and a Clock That Goes Back

    There are four rate buckets in the repository: of the local and of the
    PostgreSQL admission coordinator, and of the local and of the PostgreSQL
    tokenization coordinator.  Each is an `Account` here: the accesses that the
    coordinator makes to the bucket of one client under a fixed policy, with
    the tokens that each access refills.

    None of them takes tokens away when the clock goes back.  They differ in
    the instant they store then:

    * local admission keeps the later one, so that no time counts twice,
      whatever the clock does;
    * the other three store the earlier one with every bucket they write, and
      the time from there on is refilled again (`regressions_mint`).

    On a clock that does not go back all four refill at most what the time is
    worth. -/

namespace Coordination

open LocalAdmission (RateState bucketAt tokenRate refill_eq tokenRate_nonneg)
open LocalTokenization (TokenizationRate cleanupRate rateAt)
open PostgresAdmission (RateRow seededRow normalizedRow timestamptz refreshed)
open PostgresTokenization (checkRate seeded balanceAt)
open TokenBucket (Paced latest paced_of_pairwise)

namespace ClockSteps

/-! ## Accounts -/

/-- The bucket of one client under a fixed policy: what an access at a reading of the clock
    leaves, and how many tokens it refilled. -/
structure Account where
  State : Type
  Use : Type
  start : State
  machine : Machine State (Int × Use) ℚ
  /-- Tokens per second. -/
  rate : ℚ

/-- All that was refilled is worth the time from the first to the latest reading, at most, for
    all readings that meet the condition. -/
def Account.MintsNothing (B : Account) (condition : List Int → Prop) : Prop :=
  ∀ (c : Int × B.Use) (cs : List (Int × B.Use)), condition ((c :: cs).map Prod.fst) →
    (B.machine.answers B.start (c :: cs)).sum
      ≤ B.rate * (((latest c.1 (cs.map Prod.fst) - c.1 : Int) : ℚ) / second)

/-- The clock does not go back. -/
def Forward (readings : List Int) : Prop := readings.Pairwise (· ≤ ·)

/-- Readings of the database clock. -/
def WholeMicroseconds (readings : List Int) : Prop := ∀ now ∈ readings, now % 1000 = 0

variable {R : Int → Int → Prop}

theorem paced_of_forall {P : Int → Prop} {m : Int} {readings : List Int}
    (hpaced : Paced R m readings) (h : ∀ now ∈ readings, P now) :
    Paced (fun m now => R m now ∧ P now) m readings := by
  induction readings generalizing m with
  | nil => trivial
  | cons now rest ih =>
    exact ⟨⟨hpaced.1, h now List.mem_cons_self⟩,
      ih hpaced.2 fun r hr => h r (List.mem_cons_of_mem _ hr)⟩

/-- **Accounts that are paid by time.**  The first access refills nothing and fixes the instant
    `upTo` which time has been counted; every later one moves it on. -/
theorem Account.mintsNothing_of (B : Account) (hrate : 0 ≤ B.rate) {condition : List Int → Prop}
    (upTo : B.State → Int → Prop)
    (hcondition : ∀ first rest, condition (first :: rest) →
      R first first ∧ Paced R first rest) (hfirst : ∀ c : Int × B.Use, R c.1 c.1 →
      upTo (B.machine.step B.start c).1 c.1 ∧ (B.machine.step B.start c).2 ≤ 0)
    (hstep : ∀ s t m (c : Int × B.Use), upTo s t → t ≤ m → R m c.1 →
      ∃ t', t ≤ t' ∧ t' ≤ max m c.1 ∧ upTo (B.machine.step s c).1 t' ∧
        (B.machine.step s c).2 ≤ ((t' - t : Int) : ℚ) * (B.rate / second)) :
    B.MintsNothing condition := by
  intro c cs h
  obtain ⟨hstart, hpaced⟩ := hcondition c.1 (cs.map Prod.fst) h
  obtain ⟨hupTo, hnone⟩ := hfirst c hstart
  have hsecond : (0 : ℚ) ≤ second := by norm_num [second]
  have hrest := TokenBucket.sum_le_of_paid B.machine (div_nonneg hrate hsecond) upTo hstep cs
    (B.machine.step B.start c).1 c.1 c.1 hupTo (le_refl _) hpaced
  have hcomm : ((latest c.1 (cs.map Prod.fst) - c.1 : Int) : ℚ) * (B.rate / second)
      = B.rate * (((latest c.1 (cs.map Prod.fst) - c.1 : Int) : ℚ) / second) := by
    ring
  rw [hcomm] at hrest
  show (B.machine.step B.start c).2 + (B.machine.answers (B.machine.step B.start c).1 cs).sum ≤ _
  linarith

/-! ## The admission coordinators -/

/-- What an admission coordinator does with a bucket it has refilled. -/
inductive Access where
  /-- A request bucket is asked and debited. -/
  | request
  /-- A token bucket is asked. -/
  | check
  /-- A usage is taken out of a token bucket. -/
  | charge (usage : TokenUsage)
  deriving DecidableEq, Repr

/-- The balance that the access leaves. -/
def Access.apply (balance : ℚ) : Access → ℚ
  | .request => if RateArith.exhausted balance then balance else RateArith.debit balance
  | .check => balance
  | .charge usage => RateArith.charge balance usage

/-- The bucket of the local admission coordinator. -/
def localAdmission (revision capacity : Int) : Account where
  State := Option (RateState ℚ)
  Use := Access
  start := none
  machine.step old c :=
    let state := bucketAt old revision capacity c.1
    (some { state with balance := c.2.apply state.balance },
      match old with
      | none => 0
      | some before => state.balance - before.balance)
  rate := (capacity : ℚ) / 60

/-- The bucket of the PostgreSQL admission coordinator, seeded with the first access. -/
def postgresAdmission (revision capacity : Int) : Account where
  State := RateRow ℚ
  Use := Access
  start := seededRow revision capacity
  machine.step row c :=
    (match c.2 with
      | .request => normalizedRow row revision capacity c.1 true
      | .check => normalizedRow row revision capacity c.1 false
      | .charge usage =>
        let row := normalizedRow row revision capacity c.1 false
        { row with
          balance := RateArith.charge row.balance usage
          lastRefillAt := timestamptz c.1 },
      refreshed row revision capacity c.1 - row.balance)
  rate := (capacity : ℚ) / 60

section Admission

variable {revision capacity : Int}

section

variable (hcapacity : 0 < capacity)

include hcapacity

theorem rate_nonneg : 0 ≤ (capacity : ℚ) / 60 := by
  have hcap : (0 : ℚ) ≤ capacity := by exact_mod_cast hcapacity.le
  positivity

/-- The tokens of `a` to `b` cover a refill of the saturated difference. -/
theorem refill_gain_le (balance : ℚ) {a b : Int} (h : a ≤ b) :
    RateArith.refill balance (timeSub b a) capacity - balance
      ≤ ((b - a : Int) : ℚ) * ((capacity : ℚ) / 60 / second) := by
  have helapsed : ((timeSub b a : Int) : ℚ) ≤ ((b - a : Int) : ℚ) := by
    exact_mod_cast (by simp only [timeSub, maxDuration]; omega : timeSub b a ≤ b - a)
  rw [refill_eq, ← tokenRate]
  calc _ ≤ ((timeSub b a : Int) : ℚ) * tokenRate capacity :=
        TokenBucket.refill_gain_le
    _ ≤ _ := mul_le_mul_of_nonneg_right helapsed (tokenRate_nonneg hcapacity.le)

/-- The local bucket stores no instant before the one it has. -/
theorem bucketAt_gain (before : RateState ℚ) (now : Int)
    (hrevision : before.revision = revision) (hsame : before.capacity = capacity) :
    (bucketAt (some before) revision capacity now).at' = max before.at' now ∧
    (bucketAt (some before) revision capacity now).balance - before.balance
      ≤ ((max before.at' now - before.at' : Int) : ℚ) * ((capacity : ℚ) / 60 / second) := by
  have hfixed : ¬ (before.revision ≠ revision ∨ before.capacity ≠ capacity) := by
    simp [hrevision, hsame]
  unfold bucketAt
  dsimp only
  rw [if_neg hfixed]
  split
  · rename_i hlater
    rw [timeSub_pos] at hlater
    rw [max_eq_right hlater.le]
    exact ⟨rfl, refill_gain_le hcapacity _ hlater.le⟩
  · rename_i hlater
    rw [timeSub_pos, not_lt] at hlater
    rw [max_eq_left hlater]
    refine ⟨rfl, ?_⟩
    rw [sub_self, sub_self, Int.cast_zero, zero_mul]

theorem localAdmission_mintsNothing :
    (localAdmission revision capacity).MintsNothing fun _ => True := by
  apply Account.mintsNothing_of (localAdmission revision capacity) (R := fun _ _ => True)
    (rate_nonneg hcapacity)
    (fun state t => ∃ bucket, state = some bucket ∧ bucket.revision = revision ∧
      bucket.capacity = capacity ∧ bucket.at' = t)
  · intro first rest _
    refine ⟨trivial, ?_⟩
    induction rest generalizing first with
    | nil => trivial
    | cons now rest ih => exact ⟨trivial, ih _⟩
  · intro c _
    exact ⟨⟨_, rfl, rfl, rfl, rfl⟩, le_refl _⟩
  · intro state t m c hstate htm _
    obtain ⟨before, rfl, hrevision, hsame, rfl⟩ := hstate
    obtain ⟨hat, hgain⟩ := bucketAt_gain hcapacity before c.1 hrevision hsame
    refine ⟨max before.at' c.1, le_max_left _ _, max_le_max_right _ htm, ⟨_, rfl, ?_, ?_, hat⟩,
      hgain⟩
    · exact LocalAdmission.bucketAt_revision _
    · exact LocalAdmission.bucketAt_capacity _

end

/-- Every access stores the reading it was made at. -/
theorem postgresAdmission_step (row : RateRow ℚ) (now : Int) (use : Access)
    (hwhole : now % 1000 = 0) :
    (((postgresAdmission revision capacity).machine.step row (now, use)).1 :
        RateRow ℚ).policyRevision = revision ∧
    (((postgresAdmission revision capacity).machine.step row (now, use)).1 :
        RateRow ℚ).lastRefillAt = now := by
  have hstored := PostgresAdmission.timestamptz_of_whole hwhole
  cases use with
  | request | check | charge => exact ⟨rfl, hstored⟩

theorem postgresAdmission_mintsNothing (hcapacity : 0 < capacity) :
    (postgresAdmission revision capacity).MintsNothing
      fun readings => Forward readings ∧ WholeMicroseconds readings := by
  apply Account.mintsNothing_of (postgresAdmission revision capacity)
    (R := fun m now => m ≤ now ∧ now % 1000 = 0) (rate_nonneg hcapacity)
    (fun row t => row.policyRevision = revision ∧ row.lastRefillAt = t)
  · intro first rest h
    refine ⟨⟨le_refl _, h.2 first List.mem_cons_self⟩, ?_⟩
    exact paced_of_forall (paced_of_pairwise h.1)
      (fun now hnow => h.2 now (List.mem_cons_of_mem _ hnow))
  · intro c hc
    refine ⟨postgresAdmission_step _ c.1 c.2 hc.2, ?_⟩
    -- the seeded bucket is full
    show refreshed (seededRow revision capacity) revision
      capacity c.1 - (RateArith.full capacity : ℚ) ≤ 0
    unfold refreshed
    rw [if_neg (by simp [seededRow])]
    split
    · rw [refill_eq]
      exact sub_nonpos.mpr TokenBucket.refill_le_capacity
    · exact (sub_self _).le
  · intro row t m c hrow htm hc
    obtain ⟨hrevision, rfl⟩ := hrow
    have hforward : row.lastRefillAt ≤ c.1 := htm.trans hc.1
    refine ⟨c.1, hforward, le_max_right _ _, postgresAdmission_step row c.1 c.2 hc.2, ?_⟩
    show refreshed row revision capacity c.1 - row.balance ≤ _
    unfold refreshed
    rw [if_neg (by simp [hrevision])]
    split
    · exact refill_gain_le hcapacity _ hforward
    rw [sub_self]
    apply mul_nonneg
    · exact_mod_cast sub_nonneg.mpr hforward
    · exact tokenRate_nonneg hcapacity.le

end Admission

/-! ## The tokenization coordinators -/

/-- What the local tokenization coordinator does to the bucket of a client. -/
inductive Upkeep where
  /-- An `Acquire` that does not get as far as this bucket. -/
  | cleanup
  /-- An `Acquire` that asks it. -/
  | acquire
  deriving DecidableEq, Repr

/-- What is in the bucket for the client: a deleted bucket is as good as a full one. -/
def inBucket (p : TokenizationPolicy) (rate : Option TokenizationRate) : ℚ :=
  match rate with
  | none => p.burst
  | some state => state.balance

/-- The bucket of the local tokenization coordinator. -/
def localTokenization (p : TokenizationPolicy) : Account where
  State := Option TokenizationRate
  Use := Upkeep
  start := none
  machine.step old c :=
    let kept := cleanupRate old c.1
    match c.2 with
    | .cleanup => (kept, inBucket p kept - inBucket p old)
    | .acquire =>
      ((LocalTokenization.checkRate p kept c.1).1,
        if (LocalTokenization.checkRate p kept c.1).2 then
          (rateAt p kept c.1).balance - inBucket p old
        else inBucket p kept - inBucket p old)
  rate := (p.clientRPM : ℚ) / 60

/-- The bucket of the PostgreSQL tokenization coordinator. -/
def postgresTokenization (p : TokenizationPolicy) : Account where
  State := Option PostgresTokenization.TokenizationRateRow
  Use := Unit
  start := none
  machine.step old c :=
    (some (checkRate p old c.1).1,
      if (checkRate p old c.1).2 then
        balanceAt p old c.1 - (seeded p old c.1).balance
      else 0)
  rate := (p.clientRPM : ℚ) / 60

section Tokenization

variable {p : TokenizationPolicy} {t now a b : Int}

theorem tokenization_rate_nonneg (hp : p.validate = true) : 0 ≤ (p.clientRPM : ℚ) / 60 / second :=
  tokenRate_nonneg (by have := p.one_le_clientRPM hp; omega)

theorem tokenization_refill_le_burst (balance : ℚ) (elapsed : Int) :
    p.refill balance elapsed ≤ p.burst := min_le_left _ _

theorem tokenization_gain_le (hp : p.validate = true) (balance : ℚ) (h : a ≤ b) :
    p.refill balance (timeSub b a) - balance
      ≤ ((b - a : Int) : ℚ) * ((p.clientRPM : ℚ) / 60 / second) := by
  have hsecond : (0 : ℚ) < second := by norm_num [second]
  have helapsed : ((timeSub b a : Int) : ℚ) ≤ ((b - a : Int) : ℚ) := by
    exact_mod_cast (by simp only [timeSub, maxDuration]; omega : timeSub b a ≤ b - a)
  have hnonneg : (0 : ℚ) ≤ ((timeSub b a : Int) : ℚ) := by
    exact_mod_cast (by simp only [timeSub, maxDuration]; omega : 0 ≤ timeSub b a)
  have hrefill : p.refill balance (timeSub b a)
      ≤ balance + max 0 (((timeSub b a : Int) : ℚ) / second) * p.clientRPM / 60 := min_le_right _ _
  rw [max_eq_right (div_nonneg hnonneg hsecond.le)] at hrefill
  have hrate := mul_le_mul_of_nonneg_right helapsed (tokenization_rate_nonneg hp)
  have hcomm : ((timeSub b a : Int) : ℚ) / second * p.clientRPM / 60
      = ((timeSub b a : Int) : ℚ) * ((p.clientRPM : ℚ) / 60 / second) := by ring
  linarith

theorem burst_le_day (hp : p.validate = true) (hday : 24 * 3600 * second ≤ timeSub b a) :
    p.burst ≤ ((b - a : Int) : ℚ) * ((p.clientRPM : ℚ) / 60 / second) := by
  have hrpm : (0 : ℚ) ≤ p.clientRPM := by
    exact_mod_cast (by have := p.one_le_clientRPM hp; omega : 0 ≤ p.clientRPM)
  have hburst : p.burst ≤ p.clientRPM := by
    show ((min p.clientRPM 10 : Int) : ℚ) ≤ p.clientRPM
    exact_mod_cast min_le_left p.clientRPM 10
  have hspan : (24 * 3600 * second : Int) ≤ b - a := by
    simp only [timeSub, maxDuration, second] at hday ⊢
    omega
  have hspan' : ((24 * 3600 * second : Int) : ℚ) ≤ ((b - a : Int) : ℚ) := by exact_mod_cast hspan
  have hworth := mul_le_mul_of_nonneg_right hspan' (tokenization_rate_nonneg hp)
  have hday : ((24 * 3600 * second : Int) : ℚ) * ((p.clientRPM : ℚ) / 60 / second)
      = 1440 * p.clientRPM := by
    have hsecond : (second : ℚ) ≠ 0 := by norm_num [second]
    push_cast
    field_simp
    ring
  linarith

theorem rateAt_none_le (now : Int) : (rateAt p none now).balance ≤ p.burst :=
  tokenization_refill_le_burst _ _

/-- A bucket that the local tokenization coordinator stores holds no negative balance. -/
theorem localTokenization_checkRate (rate : Option TokenizationRate) (now : Int) :
    LocalTokenization.checkRate p rate now = (rate, false) ∨
    ∃ balance, LocalTokenization.checkRate p rate now = (some ⟨balance, now⟩, true) ∧
      0 ≤ balance := by
  unfold LocalTokenization.checkRate
  split
  · exact .inl rfl
  · rename_i hleft
    exact .inr ⟨_, rfl, sub_nonneg.mpr (not_lt.mp hleft)⟩

/-- Time up to `t` is in the bucket. -/
def CountedUpTo (rate : Option TokenizationRate) (t : Int) : Prop :=
  ∀ state, rate = some state → state.at' = t ∧ 0 ≤ state.balance

section

variable (hp : p.validate = true)

include hp

/-- Cleaning counts on to its reading if it deletes the bucket, and leaves it otherwise; a bucket
    that is refilled then has at most the tokens of the time. -/
theorem cleanupRate_gain (rate : Option TokenizationRate) (hrate : CountedUpTo rate t)
    (h : t ≤ now) :
    ∃ t', t ≤ t' ∧ t' ≤ now ∧ CountedUpTo (cleanupRate rate now) t' ∧
      inBucket p (cleanupRate rate now) - inBucket p rate
        ≤ ((t' - t : Int) : ℚ) * ((p.clientRPM : ℚ) / 60 / second) ∧
      (rateAt p (cleanupRate rate now) now).balance
          - inBucket p rate
        ≤ ((now - t : Int) : ℚ) * ((p.clientRPM : ℚ) / 60 / second) := by
  have htime : (0 : ℚ) ≤ ((now - t : Int) : ℚ) := by exact_mod_cast sub_nonneg.mpr h
  have hworth := mul_nonneg htime (tokenization_rate_nonneg hp)
  rcases rate with _ | state
  · refine ⟨t, le_refl _, h, hrate, ?_, ?_⟩
    · show p.burst - p.burst ≤ _
      rw [sub_self, sub_self, Int.cast_zero, zero_mul]
    · have hnew := rateAt_none_le (p := p) now
      show (rateAt p none now).balance - p.burst ≤ _
      linarith
  obtain ⟨rfl, hnonneg⟩ := hrate state rfl
  unfold cleanupRate
  dsimp only
  split
  · rename_i hday
    -- the deleted bucket had a day to fill
    have hfull := burst_le_day hp hday
    refine ⟨now, h, le_refl _, nofun, ?_, ?_⟩
    · show p.burst - state.balance ≤ _
      linarith
    · have hnew := rateAt_none_le (p := p) now
      show (rateAt p none now).balance - state.balance ≤ _
      linarith
  · refine ⟨state.at', le_refl _, h, hrate, ?_, ?_⟩
    · rw [sub_self, sub_self, Int.cast_zero, zero_mul]
    · exact tokenization_gain_le hp state.balance h

/-- **Step lemma**: an access counts on, at most to its reading. -/
theorem localTokenization_step (rate : Option TokenizationRate) (use : Upkeep)
    (hrate : CountedUpTo rate t) (h : t ≤ now) :
    ∃ t', t ≤ t' ∧ t' ≤ now ∧
      CountedUpTo ((localTokenization p).machine.step rate (now, use)).1 t' ∧
      ((localTokenization p).machine.step rate (now, use)).2
        ≤ ((t' - t : Int) : ℚ) * ((p.clientRPM : ℚ) / 60 / second) := by
  obtain ⟨t', hle, hge, hkept, hcleaned, hrefilled⟩ := cleanupRate_gain hp rate hrate h
  cases use with
  | cleanup => exact ⟨t', hle, hge, hkept, hcleaned⟩
  | acquire =>
    show ∃ u, t ≤ u ∧ u ≤ now ∧
      CountedUpTo (LocalTokenization.checkRate p (cleanupRate rate now) now).1 u ∧
      (if (LocalTokenization.checkRate p (cleanupRate rate now) now).2 then _
        else _) ≤ _
    rcases localTokenization_checkRate (p := p) (cleanupRate rate now) now with
      hreject | ⟨balance, hgranted, hnonneg⟩
    · rw [hreject]
      exact ⟨t', hle, hge, hkept, hcleaned⟩
    rw [hgranted]
    refine ⟨now, h, le_refl _, ?_, hrefilled⟩
    intro state hstate
    cases hstate
    exact ⟨rfl, hnonneg⟩

theorem localTokenization_mintsNothing : (localTokenization p).MintsNothing Forward := by
  apply Account.mintsNothing_of (localTokenization p) (R := (· ≤ ·)) _ CountedUpTo
  · intro first rest h
    exact ⟨le_refl _, paced_of_pairwise h⟩
  · intro c _
    have hnone : CountedUpTo none c.1 := nofun
    obtain ⟨t', hle, hge, hcounted, hgain⟩ :=
      localTokenization_step hp none c.2 hnone (le_refl c.1)
    obtain rfl : t' = c.1 := le_antisymm hge hle
    rw [sub_self, Int.cast_zero, zero_mul] at hgain
    exact ⟨hcounted, hgain⟩
  · intro rate t m c hcounted htm hc
    obtain ⟨t', hle, hge, hcounted', hgain⟩ :=
      localTokenization_step hp rate c.2 hcounted (htm.trans hc)
    exact ⟨t', hle, hge.trans (le_max_right _ _), hcounted', hgain⟩
  · show 0 ≤ (p.clientRPM : ℚ) / 60
    exact rate_nonneg (by have := p.one_le_clientRPM hp; omega)

theorem postgresTokenization_mintsNothing : (postgresTokenization p).MintsNothing Forward := by
  have hrate := tokenization_rate_nonneg hp
  apply Account.mintsNothing_of (postgresTokenization p) (R := (· ≤ ·)) _
    (fun row t => ∃ stored, row = some stored ∧ stored.lastRefillAt = t)
  · intro first rest h
    exact ⟨le_refl _, paced_of_pairwise h⟩
  · intro c _
    show (∃ stored, some (checkRate p none c.1).1 = some stored ∧ _) ∧
      (if (checkRate p none c.1).2 then _ else _) ≤ _
    unfold checkRate
    split
    · exact ⟨⟨_, rfl, rfl⟩, le_refl _⟩
    · refine ⟨⟨_, rfl, rfl⟩, ?_⟩
      exact sub_nonpos.mpr (tokenization_refill_le_burst _ _)
  · intro row t m c hrow htm hc
    obtain ⟨stored, rfl, rfl⟩ := hrow
    have hforward : stored.lastRefillAt ≤ c.1 := htm.trans hc
    show ∃ t', _ ∧ _ ∧ (∃ next, some (checkRate p (some stored) c.1).1
      = some next ∧ _) ∧ (if (checkRate p (some stored) c.1).2 then _ else _)
        ≤ _
    unfold checkRate
    split
    · -- a rejected request leaves the row as it is
      refine ⟨stored.lastRefillAt, le_refl _, htm.trans (le_max_left _ _), ⟨_, rfl, rfl⟩, ?_⟩
      rw [sub_self, Int.cast_zero, zero_mul]
      exact le_refl _
    · exact ⟨c.1, hforward, le_max_right _ _, ⟨_, rfl, rfl⟩,
        tokenization_gain_le hp stored.balance hforward⟩
  · show 0 ≤ (p.clientRPM : ℚ) / 60
    exact rate_nonneg (by have := p.one_le_clientRPM hp; omega)

end

end Tokenization

/-! ## Clocks that go back -/

/-- **Time is counted once.**  Whatever the clock does, the local admission bucket is refilled
    with at most the tokens of the time between the first and the latest reading; the other
    three are so on every clock that does not go back. -/
theorem refills_bounded (revision capacity : Int) (p : TokenizationPolicy)
    (hcapacity : 0 < capacity) (hp : p.validate = true) :
    (localAdmission revision capacity).MintsNothing (fun _ => True) ∧
    (postgresAdmission revision capacity).MintsNothing
      (fun readings => Forward readings ∧ WholeMicroseconds readings) ∧
    (localTokenization p).MintsNothing Forward ∧
    (postgresTokenization p).MintsNothing Forward :=
  ⟨localAdmission_mintsNothing hcapacity, postgresAdmission_mintsNothing hcapacity,
    localTokenization_mintsNothing hp, postgresTokenization_mintsNothing hp⟩

theorem refills_bounded_default :
    (localAdmission 1 60).MintsNothing (fun _ => True) ∧
    (postgresAdmission 1 60).MintsNothing
      (fun readings => Forward readings ∧ WholeMicroseconds readings) ∧
    (localTokenization .default).MintsNothing Forward ∧
    (postgresTokenization .default).MintsNothing Forward :=
  refills_bounded 1 60 .default (by decide) (by decide)

/-- **A regression mints tokens.**  Four accesses at 0 s, 1 s, 0 s and 1 s, on a whole
    microsecond each: the second is refilled twice. -/
theorem regressions_mint :
    ¬ (postgresAdmission 1 60).MintsNothing WholeMicroseconds ∧
    ¬ (localTokenization .default).MintsNothing WholeMicroseconds ∧
    ¬ (postgresTokenization .default).MintsNothing WholeMicroseconds := by
  refine ⟨fun h => ?_, fun h => ?_, fun h => ?_⟩
  · have hsum := h (0, .request) [(second, .request), (0, .request), (second, .request)]
      (by unfold WholeMicroseconds; decide)
    revert hsum
    decide +kernel
  · have hsum := h (0, .acquire) [(second, .acquire), (0, .acquire), (second, .acquire)]
      (by unfold WholeMicroseconds; decide)
    revert hsum
    decide +kernel
  · have hsum := h (0, ()) [(second, ()), (0, ()), (second, ())]
      (by unfold WholeMicroseconds; decide)
    revert hsum
    decide +kernel

end ClockSteps

end Coordination
