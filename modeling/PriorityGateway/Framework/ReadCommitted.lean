import Mathlib.Logic.Function.Basic
import PriorityGateway.Framework.System

/-! # Transactions at READ COMMITTED

    A small model of a database that runs many transactions at once, one SQL
    statement at a time.

    * A transaction is a program (`Prog`): statements, and at the end a commit
      or a rollback.  What comes next may depend on what a statement saw.
    * A statement takes its snapshot when it starts and so sees every commit
      made before.  It may have to wait for row locks; what it locks or writes
      it sees in the version that is current when it gets them (`View`).
    * Row locks are exclusive and held to the end of the transaction.
    * Writes stay with the transaction until it commits; it sees them itself.
      They are kept as a function on the database: the rows it touches are
      locked, so it does not matter that it is applied later.
    * The clock never goes back.  A statement reads it between its start and
      its finish.
    * A transaction may be rolled back at any time.

    `Prog.run` is the same program without anybody else, and
    `run_reaches_commit` says that this is one of its concurrent executions.

    The proof rule is rely–guarantee (`guaranteed`): a program is checked
    against what others may commit while it holds its locks, and has to say
    what its own commit does. -/

namespace ReadCommitted

/-! ## Programs -/

/-- What a statement sees: its snapshot, the versions current when its locks
    were granted, and the clock.  Both states include the transaction's own writes. -/
structure View (Db : Type) where
  snapshot : Db
  current : Db
  now : Int

/-- A transaction. -/
inductive Prog (Db Lock Result : Type) where
  /-- The transaction commits. -/
  | commit (result : Result)
  /-- An error ends the transaction. -/
  | rollback
  /-- A statement: the rows it locks, what it writes, and what the
      transaction does next. -/
  | stmt (locks : View Db → List Lock) (write : View Db → Db → Db)
      (next : View Db → Prog Db Lock Result)

variable {Db Lock Result Kind : Type}

namespace Prog

/-- A statement that only reads. -/
def read (next : View Db → Prog Db Lock Result) : Prog Db Lock Result :=
  .stmt (fun _ => []) (fun _ db => db) next

/-- A statement that only locks. -/
def lock (locks : View Db → List Lock) (next : View Db → Prog Db Lock Result) :
    Prog Db Lock Result :=
  .stmt locks (fun _ db => db) next

/-- The transaction on its own, at one clock reading. -/
def run (now : Int) : Prog Db Lock Result → Db → Option (Result × Db)
  | .commit result, db => some (result, db)
  | .rollback, _ => none
  | .stmt _ write next, db => run now (next ⟨db, db, now⟩) (write ⟨db, db, now⟩ db)

attribute [simp] run

/-- Every statement writes as `P` allows, and every result is in `R`. -/
def Each (P : List Lock → (Db → Db) → Prop) (R : Result → Prop) : Prog Db Lock Result → Prop
  | .commit result => R result
  | .rollback => True
  | .stmt locks write next => ∀ view, P (locks view) (write view) ∧ Each P R (next view)

variable (now : Int)

@[simp] theorem run_read (next : View Db → Prog Db Lock Result) (db : Db) :
    run now (read next) db = run now (next ⟨db, db, now⟩) db := rfl

@[simp] theorem run_lock (locks : View Db → List Lock) (next : View Db → Prog Db Lock Result)
    (db : Db) : run now (lock locks next) db = run now (next ⟨db, db, now⟩) db := rfl

end Prog

/-! ## Concurrent executions -/

/-- A transaction under way: what it still has to do, its locks, its writes,
    and the snapshot of the statement it is in. -/
structure Session (Db Lock Result : Type) where
  prog : Prog Db Lock Result
  held : List Lock
  pending : Db → Db
  started : Option (Db × Int)

/-- The committed database, the clock, and the transactions under way with the
    kind of work each one does. -/
structure State (Db Lock Result Kind : Type) where
  db : Db
  clock : Int
  sessions : Nat → Option (Kind × Session Db Lock Result)

/-- What can happen next. -/
inductive Label (Kind : Type) where
  | begin (i : Nat) (kind : Kind)
  | start (i : Nat)
  | finish (i : Nat) (now : Int)
  | commit (i : Nat)
  | rollback (i : Nat)
  | tick (now : Int)

/-- The state with another session `i`, or with none. -/
def State.set (s : State Db Lock Result Kind) (i : Nat)
    (session : Option (Kind × Session Db Lock Result)) : State Db Lock Result Kind :=
  { s with sessions := Function.update s.sessions i session }

variable (s : State Db Lock Result Kind)

@[simp] theorem State.set_set (i : Nat)
    (a b : Option (Kind × Session Db Lock Result)) : (s.set i a).set i b = s.set i b := by
  simp [State.set]

@[simp] theorem State.set_self (i : Nat)
    (a : Option (Kind × Session Db Lock Result)) : (s.set i a).sessions i = a := by
  simp [State.set]

theorem State.set_of_ne {i j : Nat} (h : j ≠ i)
    (a : Option (Kind × Session Db Lock Result)) : (s.set i a).sessions j = s.sessions j := by
  simp [State.set, Function.update_of_ne h]

theorem State.set_none {i : Nat} (h : s.sessions i = none) : s.set i none = s := by
  simp only [State.set, ← h, Function.update_eq_self]

/-- Nobody but `i` holds any of these locks. -/
def FreeFor (s : State Db Lock Result Kind) (i : Nat) (locks : List Lock) : Prop :=
  ∀ l ∈ locks, ∀ j, j ≠ i → ∀ kind σ, s.sessions j = some (kind, σ) → l ∉ σ.held

/-- The session after the statement it is in has finished. -/
def Session.advance (σ : Session Db Lock Result) (view : View Db)
    (locks : View Db → List Lock) (write : View Db → Db → Db)
    (next : View Db → Prog Db Lock Result) : Session Db Lock Result where
  prog := next view
  held := σ.held ++ locks view
  pending := fun db => write view (σ.pending db)
  started := none

/-- One step. -/
inductive Step (p : Kind → Prog Db Lock Result) :
    State Db Lock Result Kind → Label Kind → State Db Lock Result Kind → Prop where
  | begin (s : State Db Lock Result Kind) (i : Nat) (kind : Kind) (hfree : s.sessions i = none) :
      Step p s (.begin i kind)
        (s.set i (some (kind, ⟨p kind, [], id, none⟩)))
  | start (s : State Db Lock Result Kind) (i : Nat) (kind : Kind) (σ : Session Db Lock Result)
      (hi : s.sessions i = some (kind, σ)) (hidle : σ.started = none) :
      Step p s (.start i)
        (s.set i (some (kind, { σ with started := some (s.db, s.clock) })))
  | finish (s : State Db Lock Result Kind) (i : Nat) (kind : Kind) (σ : Session Db Lock Result)
      (locks : View Db → List Lock) (write : View Db → Db → Db)
      (next : View Db → Prog Db Lock Result) (snapshot : Db) (since now : Int)
      (hi : s.sessions i = some (kind, σ)) (hprog : σ.prog = .stmt locks write next)
      (hstarted : σ.started = some (snapshot, since)) (hsince : since ≤ now)
      (hnow : now ≤ s.clock)
      (hfree : FreeFor s i (locks ⟨σ.pending snapshot, σ.pending s.db, now⟩)) :
      Step p s (.finish i now)
        (s.set i (some (kind,
          σ.advance ⟨σ.pending snapshot, σ.pending s.db, now⟩ locks write next)))
  | commit (s : State Db Lock Result Kind) (i : Nat) (kind : Kind) (σ : Session Db Lock Result)
      (result : Result) (hi : s.sessions i = some (kind, σ)) (hprog : σ.prog = .commit result) :
      Step p s (.commit i)
        { s.set i none with db := σ.pending s.db }
  | rollback (s : State Db Lock Result Kind) (i : Nat) :
      Step p s (.rollback i) (s.set i none)
  | tick (s : State Db Lock Result Kind) (now : Int) (hnow : s.clock ≤ now) :
      Step p s (.tick now) { s with clock := now }

/-- All executions from a committed database without transactions under way. -/
def system (program : Kind → Prog Db Lock Result) (initial : Db → Prop) :
    System (State Db Lock Result Kind) (Label Kind) where
  init := fun s => initial s.db ∧ s.sessions = fun _ => none
  step := Step program

section

variable (program : Kind → Prog Db Lock Result) (initial : Db → Prop)
  (G : State Db Lock Result Kind → Label Kind → State Db Lock Result Kind → Prop) (i : Nat)
  (others : Nat → Option (Kind × Session Db Lock Result)) {result : Result} {db' : Db}
include program initial G i

/-- **The atomic run is an execution**: a transaction that meets no lock comes to its commit
    and to what `Prog.run` says, whatever others are under way.  Nobody else takes a step
    meanwhile, so a side condition on steps need only allow its own. -/
theorem run_reaches_commit
    (hfree : ∀ j kind σ, others j = some (kind, σ) → σ.held = [])
    (hG : ∀ s l s', l = .start i ∨ (∃ now, l = .finish i now) → G s l s')
    (clock : Int) (kind : Kind) (p : Prog Db Lock Result) (held : List Lock) (pending : Db → Db)
    (db : Db) (hrun : p.run clock (pending db) = some (result, db')) :
    ∃ ls held' pending', pending' db = db' ∧
      ((system program initial).restrict G).Steps
        (State.set ⟨db, clock, others⟩ i (some (kind, ⟨p, held, pending, none⟩))) ls
        (State.set ⟨db, clock, others⟩ i
          (some (kind, ⟨.commit result, held', pending', none⟩))) := by
  have hothers : ∀ σ, ∀ j, j ≠ i → (State.set ⟨db, clock, others⟩ i σ).sessions j = others j :=
    fun σ j hj => State.set_of_ne _ hj σ
  induction p generalizing held pending with
  | commit r =>
    simp only [Prog.run, Option.some.injEq, Prod.mk.injEq] at hrun
    obtain ⟨rfl, hdb⟩ := hrun
    exact ⟨[], held, pending, hdb, .nil _⟩
  | rollback => simp at hrun
  | stmt locks write next ih =>
    have hstart := Step.start _ i kind _ (State.set_self ⟨db, clock, others⟩ i
        (some (kind, ⟨.stmt locks write next, held, pending, none⟩))) rfl (p := program)
    rw [State.set_set] at hstart
    have hfinish := Step.finish _ i kind _ locks write next db clock clock
      (State.set_self ⟨db, clock, others⟩ i
        (some (kind, ⟨.stmt locks write next, held, pending, some (db, clock)⟩)))
      rfl rfl (Int.le_refl _) (Int.le_refl _)
      (fun l _ j hj kind' σ hσ => by
        rw [hothers _ j hj] at hσ
        simp [hfree j kind' σ hσ])
      (p := program)
    rw [State.set_set] at hfinish
    obtain ⟨ls, held', pending', hdb, hls⟩ := ih ⟨pending db, pending db, clock⟩
      (held ++ locks ⟨pending db, pending db, clock⟩)
      (fun db' => write ⟨pending db, pending db, clock⟩ (pending db')) hrun
    exact ⟨.start i :: .finish i clock :: ls, held', pending', hdb,
      .cons ⟨hstart, hG _ _ _ (.inl rfl)⟩
        (.cons ⟨hfinish, hG _ _ _ (.inr ⟨clock, rfl⟩)⟩ hls)⟩

end

/-! ## Contracts

    What a transaction may rely on while others commit, and what its own
    commit guarantees.  Both depend on the locks it holds.  An invariant of
    the committed database may mention the clock. -/

/-- A rely–guarantee contract for the transactions of a system. -/
structure Contract (Db Lock Result Kind : Type) where
  /-- How the database may change while a transaction holds these locks. -/
  rely : Kind → List Lock → Db → Db → Prop
  /-- What a commit with these locks and this result does. -/
  guar : Kind → List Lock → Result → Db → Db → Prop
  /-- What always holds of the committed database. -/
  inv : Db → Int → Prop
  /-- Which commits may happen while a transaction of another kind is under way. -/
  compatible : Kind → Result → Kind → Db → Db → Prop
  rely_refl : ∀ kind held db, rely kind held db db
  rely_trans : ∀ kind held db db' db'',
    rely kind held db db' → rely kind held db' db'' → rely kind held db db''
  inv_mono : ∀ db t t', t ≤ t' → inv db t → inv db t'
  /-- What one transaction guarantees is what those with other locks rely on. -/
  rely_of_guar : ∀ kind held result db db' kind' held', guar kind held result db db' →
    (∀ l ∈ held, l ∉ held') → compatible kind result kind' db db' → rely kind' held' db db'

namespace Contract

variable (C : Contract Db Lock Result Kind)

/-- The rest of a transaction keeps the contract, when it holds these locks, has
    made these writes, and the database and the clock were last seen as given. -/
def Upholds (kind : Kind) : Prog Db Lock Result → List Lock → (Db → Db) → Db → Int → Prop
  | .commit result, held, w, db, t => ∀ db' t', t ≤ t' → C.rely kind held db db' →
      C.inv db' t' → C.guar kind held result db' (w db') ∧ C.inv (w db') t'
  | .rollback, _, _, _, _ => True
  | .stmt locks write next, held, w, db, t => ∀ snap t₀ cur now t₁,
      t ≤ t₀ → C.rely kind held db snap → C.inv snap t₀ →
      t₀ ≤ now → now ≤ t₁ → C.rely kind held snap cur →
      Upholds kind (next ⟨w snap, w cur, now⟩) (held ++ locks ⟨w snap, w cur, now⟩)
        (fun db => write ⟨w snap, w cur, now⟩ (w db)) cur t₁

variable {db db' : Db} {held : List Lock} {kind : Kind} {t t' : Int} {w : Db → Db}
  {σ : Session Db Lock Result} {s : State Db Lock Result Kind}
  {next : View Db → Prog Db Lock Result}

/-- What a transaction may rely on does not break what is left to do. -/
theorem Upholds.mono {C : Contract Db Lock Result Kind} {p : Prog Db Lock Result}
    (h : C.Upholds kind p held w db t) (ht : t ≤ t') (hrely : C.rely kind held db db') :
    C.Upholds kind p held w db' t' := by
  cases p with
  | commit result =>
    intro db'' t'' ht'' hrely' hinv
    exact h db'' t'' (Int.le_trans ht ht'') (C.rely_trans _ _ _ _ _ hrely hrely') hinv
  | rollback => trivial
  | stmt locks write next =>
    intro snap t₀ cur now t₁ ht₀ hsnap hinv h₁ h₂ hcur
    exact h snap t₀ cur now t₁ (Int.le_trans ht ht₀) (C.rely_trans _ _ _ _ _ hrely hsnap)
      hinv h₁ h₂ hcur

/-- The rule for a statement that only reads. -/
theorem Upholds.read {C : Contract Db Lock Result Kind}
    (h : ∀ snap t₀ cur now t₁, t ≤ t₀ → C.rely kind held db snap → C.inv snap t₀ →
      t₀ ≤ now → now ≤ t₁ → C.rely kind held snap cur →
      C.Upholds kind (next ⟨w snap, w cur, now⟩) held w cur t₁) :
    C.Upholds kind (.read next) held w db t := by
  intro snap t₀ cur now t₁ ht₀ hsnap hinv h₁ h₂ hcur
  have hnext := h snap t₀ cur now t₁ ht₀ hsnap hinv h₁ h₂ hcur
  simpa using hnext

/-- The rule for a statement that only locks. -/
theorem Upholds.lock {C : Contract Db Lock Result Kind} {locks : View Db → List Lock}
    (h : ∀ snap t₀ cur now t₁, t ≤ t₀ → C.rely kind held db snap → C.inv snap t₀ →
      t₀ ≤ now → now ≤ t₁ → C.rely kind held snap cur →
      C.Upholds kind (next ⟨w snap, w cur, now⟩) (held ++ locks ⟨w snap, w cur, now⟩) w cur t₁) :
    C.Upholds kind (.lock locks next) held w db t :=
  h

/-- The rule for a whole program, by what one statement may write.  `Q` says what the program
    has written and relied on so far. -/
theorem Upholds.of_each {C : Contract Db Lock Result Kind} {p : Prog Db Lock Result}
    {P : List Lock → (Db → Db) → Prop} {R : Result → Prop}
    {Q : List Lock → (Db → Db) → Db → Prop}
    (hrely : ∀ held w db db', Q held w db → C.rely kind held db db' → Q held w db')
    (hstmt : ∀ held w db locks write, Q held w db → P locks write →
      Q (held ++ locks) (fun db => write (w db)) db)
    (hcommit : ∀ held w db t result, Q held w db → R result → C.inv db t →
      C.guar kind held result db (w db) ∧ C.inv (w db) t)
    (hp : p.Each P R) (h : Q held w db) (t : Int) : C.Upholds kind p held w db t := by
  induction p generalizing held w db t with
  | commit result =>
    intro db' t' _ hdb' hinv
    exact hcommit held w db' t' result (hrely _ _ _ _ h hdb') hp hinv
  | rollback => trivial
  | stmt locks write next ih =>
    intro snap t₀ cur now t₁ _ hsnap _ _ _ hcur
    obtain ⟨hwrite, hnext⟩ := hp ⟨w snap, w cur, now⟩
    exact ih _ hnext (hstmt _ _ _ _ _ (hrely _ _ _ _ (hrely _ _ _ _ h hsnap) hcur) hwrite) t₁

/-- A session keeps the contract.  Inside a statement the snapshot is what it
    saw last, and the others have changed the database since. -/
def SessionUpholds (kind : Kind) (σ : Session Db Lock Result) (db : Db) (t : Int) : Prop :=
  match σ.started with
  | none => C.Upholds kind σ.prog σ.held σ.pending db t
  | some (snap, t₀) =>
    C.Upholds kind σ.prog σ.held σ.pending snap t₀ ∧ C.inv snap t₀ ∧ t₀ ≤ t ∧
      C.rely kind σ.held snap db

/-- Only compatible transactions are under way when one commits. -/
def Allowed (s : State Db Lock Result Kind) (l : Label Kind)
    (_ : State Db Lock Result Kind) : Prop :=
  match l with
  | .commit i => ∀ kind σ result, s.sessions i = some (kind, σ) → σ.prog = .commit result →
      ∀ j, j ≠ i → ∀ kind' τ, s.sessions j = some (kind', τ) →
        C.compatible kind result kind' s.db (σ.pending s.db)
  | _ => True

/-- Locks are exclusive, every session keeps the contract, and the invariant holds. -/
structure Sound (s : State Db Lock Result Kind) : Prop where
  exclusive : ∀ i j, i ≠ j → ∀ kind σ kind' τ, s.sessions i = some (kind, σ) →
    s.sessions j = some (kind', τ) → ∀ l ∈ σ.held, l ∉ τ.held
  upholds : ∀ i kind σ, s.sessions i = some (kind, σ) →
    C.SessionUpholds kind σ s.db s.clock
  inv : C.inv s.db s.clock

variable {C} {program : Kind → Prog Db Lock Result} {i : Nat}

theorem SessionUpholds.mono (h : C.SessionUpholds kind σ db t) (ht : t ≤ t')
    (hrely : C.rely kind σ.held db db') : C.SessionUpholds kind σ db' t' := by
  unfold SessionUpholds at h ⊢
  cases hs : σ.started with
  | none =>
    rw [hs] at h
    exact h.mono ht hrely
  | some start =>
    rw [hs] at h
    obtain ⟨hup, hinv, hle, hsince⟩ := h
    exact ⟨hup, hinv, Int.le_trans hle ht, C.rely_trans _ _ _ _ _ hsince hrely⟩

/-- A session may be replaced by one that keeps the contract and whose locks
    nobody else holds. -/
theorem Sound.set (h : C.Sound s) (i : Nat) (kind : Kind) (σ : Session Db Lock Result)
    (hfree : FreeFor s i σ.held) (hup : C.SessionUpholds kind σ s.db s.clock) :
    C.Sound (s.set i (some (kind, σ))) := by
  refine ⟨?_, ?_, h.inv⟩
  · intro a b hab kinda σa kindb σb ha hb l hl hl'
    simp only [State.set, Function.update_apply] at ha hb
    -- at most one of the two is the new session
    by_cases hai : a = i
    · have hbi : b ≠ i := fun hbi => hab (hai.trans hbi.symm)
      rw [if_pos hai] at ha
      rw [if_neg hbi] at hb
      cases ha
      exact hfree l hl b hbi _ _ hb hl'
    · rw [if_neg hai] at ha
      by_cases hbi : b = i
      · rw [if_pos hbi] at hb
        cases hb
        exact hfree l hl' a hai _ _ ha hl
      · rw [if_neg hbi] at hb
        exact h.exclusive a b hab _ _ _ _ ha hb l hl hl'
  · intro a kinda σa ha
    simp only [State.set, Function.update_apply] at ha
    split at ha
    · cases ha
      exact hup
    · exact h.upholds a kinda σa ha

/-- A session may end. -/
theorem Sound.clear (h : C.Sound s) (i : Nat) : C.Sound (s.set i none) := by
  have hkeep : ∀ a kind σ, (s.set i none).sessions a = some (kind, σ) →
      s.sessions a = some (kind, σ) := by
    intro a kind σ ha
    simp only [State.set, Function.update_apply] at ha
    split at ha
    · cases ha
    · exact ha
  refine ⟨?_, ?_, h.inv⟩
  · intro a b hab kinda σa kindb σb ha hb
    exact h.exclusive a b hab _ _ _ _ (hkeep _ _ _ ha) (hkeep _ _ _ hb)
  · intro a kind σ ha
    exact h.upholds a kind σ (hkeep _ _ _ ha)

/-- The database may change as all sessions can rely on. -/
theorem Sound.withDb (h : C.Sound s) (hinv : C.inv db' s.clock)
    (hrely : ∀ j kind τ, s.sessions j = some (kind, τ) → C.rely kind τ.held s.db db') :
    C.Sound { s with db := db' } :=
  ⟨h.exclusive, fun j kind τ hj =>
    (h.upholds j kind τ hj).mono (Int.le_refl _) (hrely j kind τ hj), hinv⟩

/-- What a session already holds stays free of others. -/
theorem Sound.free (h : C.Sound s) (hi : s.sessions i = some (kind, σ)) : FreeFor s i σ.held := by
  intro l hl j hji kind' τ hj
  exact h.exclusive i j (fun hij => hji hij.symm) _ _ _ _ hi hj l hl

/-- **A commit keeps its guarantee**, and the invariant with it. -/
theorem Sound.commit_guar (h : C.Sound s) {result : Result}
    (hi : s.sessions i = some (kind, σ)) (hprog : σ.prog = .commit result) :
    C.guar kind σ.held result s.db (σ.pending s.db) ∧ C.inv (σ.pending s.db) s.clock := by
  have hup := h.upholds i kind σ hi
  unfold SessionUpholds at hup
  cases hs : σ.started with
  | none =>
    rw [hs, hprog] at hup
    exact hup s.db s.clock (Int.le_refl _) (C.rely_refl _ _ _) h.inv
  | some start =>
    rw [hs, hprog] at hup
    obtain ⟨hup, -, hle, hrely⟩ := hup
    exact hup s.db s.clock hle hrely h.inv

/-- The step lemma of the rule. -/
theorem Sound.step {s' : State Db Lock Result Kind} {l : Label Kind}
    (hbegin : ∀ i kind, l = .begin i kind → C.Upholds kind (program kind) [] id s.db s.clock)
    (h : C.Sound s) (hstep : Step program s l s') (hallowed : C.Allowed s l s') : C.Sound s' := by
  cases hstep with
  | begin i kind hfree =>
    refine h.set i kind _ ?_ (hbegin i kind rfl)
    nofun
  | start i kind σ hi hidle =>
    have hfree := h.free hi
    refine h.set i kind _ hfree ?_
    have hup := h.upholds i kind σ hi
    unfold SessionUpholds at hup
    rw [hidle] at hup
    exact ⟨hup, h.inv, (Int.le_refl _), C.rely_refl _ _ _⟩
  | finish i kind σ locks write next snapshot since now hi hprog hstarted hsince hnow hfree =>
    refine h.set i kind _ ?_ ?_
    · intro l hl
      rcases List.mem_append.mp hl with hold | hnew
      · exact h.free hi l hold
      · exact hfree l hnew
    · have hup := h.upholds i kind σ hi
      unfold SessionUpholds at hup
      rw [hstarted, hprog] at hup
      obtain ⟨hup, hinv, -, hrely⟩ := hup
      exact hup snapshot since s.db now s.clock (Int.le_refl _) (C.rely_refl _ _ _) hinv hsince
        hnow hrely
  | commit i kind σ result hi hprog =>
    obtain ⟨hguar, hinv⟩ := h.commit_guar hi hprog
    refine (h.clear i).withDb hinv ?_
    intro j kind' τ hj
    -- the others see the commit as something they may rely on
    have hne : j ≠ i := by
      rintro rfl
      simp [State.set] at hj
    have hj' : s.sessions j = some (kind', τ) := (State.set_of_ne s hne none).symm.trans hj
    exact C.rely_of_guar _ _ _ _ _ kind' τ.held hguar
      (fun l hl => h.free hi l hl j hne _ _ hj')
      (hallowed kind σ result hi hprog j hne kind' τ hj')
  | rollback i => exact h.clear i
  | tick now hnow =>
    refine ⟨h.exclusive, ?_, C.inv_mono _ _ _ hnow h.inv⟩
    intro j kind τ hj
    exact (h.upholds j kind τ hj).mono hnow (C.rely_refl _ _ _)

/-- **Rely–guarantee rule**: if every program keeps the contract on its own, every
    execution in which only compatible transactions overlap is sound. -/
theorem sound_of_reachable {initial : Db → Prop} (hinit : ∀ db t, initial db → C.inv db t)
    (hbegin : ∀ kind db t, C.inv db t → C.Upholds kind (program kind) [] id db t)
    (h : ((system program initial).restrict C.Allowed).Reachable s) : C.Sound s := by
  refine System.invariant _ ?_ ?_ h
  · intro s hs
    obtain ⟨hdb, hnone⟩ := hs
    refine ⟨?_, ?_, hinit _ _ hdb⟩
    · intro i j _ kind σ kind' τ hi
      simp [hnone] at hi
    · intro i kind σ hi
      simp [hnone] at hi
  · intro s l s' hs hstep
    exact hs.step (fun _ kind _ => hbegin kind _ _ hs.inv) hstep.1 hstep.2

end Contract

end ReadCommitted
