import PriorityGateway.Coordination.Postgres.Admission

/-! # The PostgreSQL Coordinator, One Transaction at a Time

    The public calls of the PostgreSQL coordinator when nothing else runs:
    every transaction is atomic (`Prog.run`).  An acquisition is one
    transaction, a completion one for each item, and a renewal one for each
    256 leases.  The first transaction that fails ends the call.

    The second part says in closed form what each transaction does, so that
    proofs about serial runs do not go through the statements. -/

namespace Coordination.PostgresAdmission

open ReadCommitted

variable {F : Type} [RateArith F]

/-! ## Public calls -/

def Outcome.decision : Outcome → Option AdmissionDecision
  | .admitted lease _ => some { lease := some lease }
  | .decided d => some d
  | _ => none

def serialAcquire (fingerprint : AdmissionRequest → Nat) (now : Int) (db : Db F)
    (r : AdmissionRequest) : Db F × Option AdmissionDecision :=
  match (acquire fingerprint r).run now db with
  | none => (db, none)
  | some (outcome, db') => (db', outcome.decision)

def serialComplete (now : Int) : Db F → List LeaseCompletion → Db F × Option (List CompleteResult)
  | db, [] => (db, some [])
  | db, item :: items =>
    match (completeOne item).run now db with
    | some (.completed result, db') =>
      ((serialComplete now db' items).1,
        (serialComplete now db' items).2.map fun results => result :: results)
    | _ => (db, none)

/-- The size of a chunk of a `Renew` call. -/
def renewalBatchSize : Nat := 256

/-- The chunks of a `Renew` call; the last one is what is left. -/
def renewalChunks : Nat → List LeaseIdentity → List (List LeaseIdentity)
  | 0, _ => []
  | _ + 1, [] => []
  | rounds + 1, leases =>
    leases.take renewalBatchSize :: renewalChunks rounds (leases.drop renewalBatchSize)

/-- The transactions of `Renew`, one for each chunk. -/
def renewChunks (now : Int) :
    Db F → List (List LeaseIdentity) → Db F × Option (List RenewResult)
  | db, [] => (db, some [])
  | db, chunk :: chunks =>
    match (renew chunk).run now db with
    | some (.renewed results, db') =>
      ((renewChunks now db' chunks).1,
        (renewChunks now db' chunks).2.map fun rest => results ++ rest)
    | _ => (db, none)

def serialRenew (now : Int) (db : Db F) (leases : List LeaseIdentity) :
    Db F × Option (List RenewResult) :=
  renewChunks now db (renewalChunks leases.length leases)

/-- The chunks are the whole call. -/
theorem renewalChunks_flatten (rounds : Nat) (leases : List LeaseIdentity)
    (h : leases.length ≤ rounds) : (renewalChunks rounds leases).flatten = leases := by
  fun_induction renewalChunks rounds leases with
  | case1 leases => simpa using h
  | case2 => rfl
  | case3 rounds leases hne ih =>
    rw [List.flatten_cons, ih ?_, List.take_append_drop]
    rw [List.length_drop]
    unfold renewalBatchSize
    omega

/-! ## Rows -/

omit [RateArith F] in
theorem lookup_updateOperations (ids : UUID → Bool) (f : OperationRow → OperationRow) (db : Db F)
    (id : UUID) : (updateOperations ids f db).operations.lookup id
      = (db.operations.lookup id).map fun row => if ids id then f row else row :=
  Table.lookup_mapRows _ _ _

omit [RateArith F] in
theorem lookup_updateOperation (id : UUID) (f : OperationRow → OperationRow) (db : Db F)
    (id' : UUID) : (updateOperation id f db).operations.lookup id'
      = if id' = id then (db.operations.lookup id').map f else db.operations.lookup id' := by
  unfold updateOperation
  rw [lookup_updateOperations]
  by_cases hid : id' = id
  · simp [hid]
  · simp [hid]

omit [RateArith F] in
theorem lookup_deleteLeases (p : UUID → LeaseRow → Bool) (db : Db F) (id : UUID) :
    (deleteLeases p db).leases.lookup id
      = (db.leases.lookup id).filter fun row => !p id row :=
  Table.lookup_filter _ _ _

omit [RateArith F] in
/-- Alone, a `FOR UPDATE` finds what is stored. -/
@[simp] theorem lockedLease_self (db : Db F) (now : Int) (id : UUID) :
    lockedLease ⟨db, db, now⟩ id = db.leases.lookup id := by
  unfold lockedLease
  cases db.leases.lookup id <;> rfl

omit [RateArith F] in
@[simp] theorem lockedOperation_self (db : Db F) (now : Int) (id : UUID) :
    lockedOperation ⟨db, db, now⟩ id = db.operations.lookup id := by
  unfold lockedOperation
  cases db.operations.lookup id <;> rfl

/-! ## Transactions in closed form -/

variable {clientID now t poolID : Int} {db : Db F} {r : AdmissionRequest} {op : OperationRow}
  {lease : Option LeaseRow} {fingerprint : AdmissionRequest → Nat}

theorem normalizeRate_run {kind : RateKind} {revision capacity : Int} {debit : Bool}
    {next : Bool → Int → Tx F} {row : RateRow F} (h : db.rates clientID kind = some row) :
    (normalizeRate clientID kind revision capacity now debit next).run t db
      = (next (!RateArith.exhausted (refreshed row revision capacity now))
          (RateArith.rateRetryAt (refreshed row revision capacity now) capacity now)).run t
          (setRate clientID kind (normalizedRow row revision capacity now debit) db) := by
  unfold normalizeRate
  rw [Prog.run_read]
  rw [h]
  rfl

omit [RateArith F] in
/-- A lease is granted to an id without a lease row. -/
theorem grantLease_run {priorityClass : PriorityClass} (h : db.leases.lookup r.leaseID = none) :
    (grantLease r priorityClass now).run t db
      = some (.admitted (grantedLease now r) now,
          updateOperation r.leaseID (admittedOperation now)
            (insertLease r.leaseID (grantedRow now r priorityClass) db)) := by
  unfold grantLease
  rw [Prog.run]
  rw [h]
  rfl

/-- A new operation: the receipt goes in, the buckets are seeded, and the counts decide. -/
theorem acquire_run_of_none (h : db.operations.lookup r.leaseID = none) :
    (acquire fingerprint r).run now db
      = let created := insertOperation (fingerprint r) r ⟨db, db, now⟩ db
        (acquireCounted db.configuration r (countActive ⟨db, db, now⟩ r)).run now
          (seedRates ⟨created, created, now⟩ r.clientID created) := by
  have hleases : ∀ view : View (Db F), (seedRates view r.clientID
      (insertOperation (fingerprint r) r ⟨db, db, now⟩ db)).leases = db.leases := by
    intro view
    unfold seedRates seedRate insertOperation setRate
    repeat' split
    all_goals rfl
  have hconfiguration : (insertOperation (fingerprint r) r ⟨db, db, now⟩ db).configuration
      = db.configuration := by
    unfold insertOperation
    split <;> rfl
  unfold acquire
  rw [Prog.run]
  rw [h]
  simp only [Option.isNone_none, if_true, acquireCreated, Prog.run_lock, Prog.run_read,
    Prog.run, hconfiguration]
  congr 2
  unfold countActive poolCount lowerCount clientCount activeCount
  simp only [hleases]

omit [RateArith F] in
/-- A replay: the stored receipt and lease decide. -/
theorem resolveAcquire_run {fingerprint : Nat} (h : db.operations.lookup r.leaseID = some op) :
    (resolveAcquire fingerprint r).run now db
      = (resolveLocked fingerprint r (db.leases.lookup r.leaseID) op).run now db := by
  unfold resolveAcquire
  rw [Prog.run_read]
  rw [h]
  dsimp only
  split
  · next hconflict =>
    unfold resolveLocked
    rw [if_pos hconflict]
  · simp only [Prog.run_lock, lockedOperation_self, lockedLease_self, h]

theorem acquire_run_of_some (h : db.operations.lookup r.leaseID = some op) :
    (acquire fingerprint r).run now db
      = (resolveLocked (fingerprint r) r (db.leases.lookup r.leaseID) op).run now db := by
  unfold acquire insertOperation
  rw [Prog.run]
  rw [h]
  exact resolveAcquire_run h

section Updates

variable {now expires : Int} {stored : UUID → Option LeaseRow} {updates : UUID → Option Int}
  {lease : LeaseIdentity} {id : UUID}

theorem addUpdate_of_ne (h : id ≠ lease.leaseID) :
    addUpdate now stored updates lease id = updates id := by
  unfold addUpdate
  cases renewedUntil now (stored lease.leaseID) lease with
  | none => rfl
  | some expires =>
    dsimp only
    split_ifs
    · exact Function.update_of_ne h _ _
    · rfl

/-- An entry that renews its lease until `expires`, like those before it. -/
theorem addUpdate_self (hpos : 0 < expires)
    (hrenewed : renewedUntil now (stored lease.leaseID) lease = some expires)
    (hupdates : updates lease.leaseID = none ∨ updates lease.leaseID = some expires) :
    addUpdate now stored updates lease lease.leaseID = some expires := by
  unfold addUpdate
  rw [hrenewed]
  rcases hupdates with hnone | hsome
  · simp [hnone, hpos]
  · simp [hsome]

/-- When the entries of `id` all renew it alike, it does not matter which one decides. -/
theorem renewUpdates_of_same (hpos : 0 < expires) (leases : List LeaseIdentity)
    (hsame : ∀ lease ∈ leases, lease.leaseID = id →
      renewedUntil now (stored id) lease = some expires) :
    renewUpdates now stored leases id
      = if id ∈ leases.map LeaseIdentity.leaseID then some expires else none := by
  -- the map holds nothing or `expires` under `id` all along
  have hfold : ∀ (leases : List LeaseIdentity) (updates : UUID → Option Int),
      (∀ lease ∈ leases, lease.leaseID = id →
        renewedUntil now (stored id) lease = some expires) →
      (updates id = none ∨ updates id = some expires) →
      leases.foldl (addUpdate now stored) updates id
        = if id ∈ leases.map LeaseIdentity.leaseID then some expires else updates id := by
    intro leases
    induction leases with
    | nil =>
      intro updates _ _
      simp
    | cons lease leases ih =>
      intro updates hall hupdates
      have hrest := fun l hl => hall l (List.mem_cons_of_mem lease hl)
      rw [List.foldl_cons]
      by_cases hid : id = lease.leaseID
      · subst hid
        have hadded := addUpdate_self hpos (hall lease List.mem_cons_self rfl) hupdates
        rw [ih _ hrest (.inr hadded), hadded]
        simp
      · have hadded : addUpdate now stored updates lease id = updates id := addUpdate_of_ne hid
        rw [ih _ hrest (by rw [hadded]; exact hupdates), hadded]
        simp [hid]
  exact hfold leases _ hsame (.inl rfl)

end Updates

omit [RateArith F] in
/-- The row a renewal leaves under `id`: extended if the batch renews it, gone if the
    batch names it and it has run out. -/
def renewedRow (leases : List LeaseIdentity) (now : Int) (db : Db F) (id : UUID) :
    Option LeaseRow :=
  match db.leases.lookup id with
  | none => none
  | some row =>
    match renewUpdates now db.leases.lookup leases id with
    | some expires =>
      if id ∈ leases.map LeaseIdentity.leaseID ∧ timestamptz expires ≤ now then none
      else some { row with expiresAt := timestamptz expires }
    | none =>
      if id ∈ leases.map LeaseIdentity.leaseID ∧ row.expiresAt ≤ now then none else some row

omit [RateArith F] in
def renewedOperation (leases : List LeaseIdentity) (now : Int) (db : Db F) (id : UUID) :
    Option OperationRow :=
  (db.operations.lookup id).map fun row =>
    if (db.leases.lookup id).isSome && (renewedRow leases now db id).isNone then
      expireOperation now row
    else row

omit [RateArith F] in
theorem lookup_updateExpiries (updates : UUID → Option Int) (db : Db F) (id : UUID) :
    (updateExpiries updates db).leases.lookup id
      = (db.leases.lookup id).map fun row =>
          match updates id with
          | none => row
          | some expires => { row with expiresAt := timestamptz expires } :=
  Table.lookup_mapRows _ _ _

omit [RateArith F] in
theorem mem_expiredIDs {ids : List UUID} {id : UUID} :
    id ∈ expiredIDs ⟨db, db, t⟩ ids now ↔
      id ∈ ids ∧ ∃ row, db.leases.lookup id = some row ∧ row.expiresAt ≤ now := by
  unfold expiredIDs
  rw [List.mem_filter]
  cases db.leases.lookup id <;> simp

omit [RateArith F] in
/-- What the last statement of a renewal leaves. -/
theorem renewExpire_run (ids : List UUID) (now t : Int) (results : List RenewResult) (db : Db F) :
    ∃ db', (renewExpire ids now results).run t db = some (.renewed results, db') ∧
      db'.configuration = db.configuration ∧ db'.rates = db.rates ∧
      (∀ id, db'.leases.lookup id = (db.leases.lookup id).filter fun row =>
        !decide (id ∈ ids ∧ row.expiresAt ≤ now)) ∧
      (∀ id, db'.operations.lookup id = (db.operations.lookup id).map fun op =>
        if id ∈ ids ∧ ∃ row, db.leases.lookup id = some row ∧ row.expiresAt ≤ now then
          expireOperation now op
        else op) := by
  refine ⟨_, rfl, rfl, rfl, ?_, ?_⟩
  · intro id
    show (deleteLeases _ db).leases.lookup id = _
    rw [lookup_deleteLeases]
    cases hrow : db.leases.lookup id with
    | none => rfl
    | some row =>
      rw [Option.filter_some, Option.filter_some]
      congr 3
      rw [decide_eq_decide, mem_expiredIDs]
      simp [hrow]
  · intro id
    rw [lookup_updateOperations]
    show (db.operations.lookup id).map _ = _
    congr 1
    funext op
    simp only [decide_eq_true_eq, mem_expiredIDs]

omit [RateArith F] in
/-- A renewal in closed form. -/
theorem renew_run (leases : List LeaseIdentity) (now : Int) (db : Db F) :
    ∃ db', (renew leases).run now db
        = some (.renewed (leases.map (renewResult now db.leases.lookup)), db') ∧
      db'.configuration = db.configuration ∧ db'.rates = db.rates ∧
      (∀ id, db'.leases.lookup id = renewedRow leases now db id) ∧
      (∀ id, db'.operations.lookup id = renewedOperation leases now db id) := by
  by_cases hempty : leases = []
  · subst hempty
    refine ⟨db, rfl, rfl, rfl, ?_, ?_⟩
    · intro id
      unfold renewedRow
      cases db.leases.lookup id <;> simp [renewUpdates]
    · intro id
      unfold renewedOperation renewedRow
      cases db.leases.lookup id <;> cases db.operations.lookup id <;> simp [renewUpdates]
  -- the update statement, sent or not, leaves the same rows
  have hrun : ∃ db₁, (renew leases).run now db
        = (renewExpire (leases.map LeaseIdentity.leaseID) now
            (leases.map (renewResult now db.leases.lookup))).run now db₁ ∧
      db₁.configuration = db.configuration ∧ db₁.rates = db.rates ∧
      db₁.operations = db.operations ∧
      ∀ id, db₁.leases.lookup id
        = (updateExpiries (renewUpdates now db.leases.lookup leases) db).leases.lookup id := by
    have hstored : (renew leases).run now db
        = (renewStored leases now db.leases.lookup).run now db := by
      unfold renew
      rw [if_neg hempty]
      rfl
    rw [hstored]
    unfold renewStored
    dsimp only
    split
    · exact ⟨_, rfl, rfl, rfl, rfl, fun _ => rfl⟩
    next hany =>
    refine ⟨db, rfl, rfl, rfl, rfl, ?_⟩
    intro id
    have hnone : renewUpdates now db.leases.lookup leases id = none := by
      cases hupdate : renewUpdates now db.leases.lookup leases id with
      | none => rfl
      | some expires =>
        exfalso
        apply hany
        rw [List.any_eq_true]
        exact ⟨id, (renewUpdates_some hupdate).1, by rw [hupdate]; rfl⟩
    rw [lookup_updateExpiries, hnone]
    simp
  obtain ⟨db₁, hrun, hconfiguration, hrates, hoperations, hleases⟩ := hrun
  obtain ⟨db', hexpire, hconfiguration', hrates', hleases', hoperations'⟩ :=
    renewExpire_run (leases.map LeaseIdentity.leaseID) now now
      (leases.map (renewResult now db.leases.lookup)) db₁
  have hrow : ∀ id, db'.leases.lookup id = renewedRow leases now db id := by
    intro id
    rw [hleases', hleases, lookup_updateExpiries]
    unfold renewedRow
    cases db.leases.lookup id with
    | none => rfl
    | some row =>
      cases renewUpdates now db.leases.lookup leases id <;>
        simp only [Option.map_some, Option.filter_some, Bool.not_eq_true', decide_eq_false_iff_not,
          ite_not]
  refine ⟨db', hrun.trans hexpire, hconfiguration'.trans hconfiguration, hrates'.trans hrates,
    hrow, ?_⟩
  intro id
  rw [hoperations', hoperations]
  unfold renewedOperation
  congr 1
  funext op
  -- a receipt is marked exactly when its row was there and is gone
  have hiff : (id ∈ leases.map LeaseIdentity.leaseID ∧
      ∃ row, db₁.leases.lookup id = some row ∧ row.expiresAt ≤ now) ↔
      ((db.leases.lookup id).isSome && (renewedRow leases now db id).isNone) = true := by
    rw [← hrow, hleases', hleases, lookup_updateExpiries]
    cases db.leases.lookup id with
    | none => simp
    | some row => simp [Option.filter_some]
  simp only [hiff]

/-- The bucket a usage is charged to, charged. -/
def chargedRow (row : RateRow F) (client : ClientRow) (now : Int) (usage : TokenUsage) :
    RateRow F where
  policyRevision := client.revision
  balance := RateArith.charge (refreshed row client.revision client.tokensPerMinute now) usage
  lastRefillAt := timestamptz now

/-- The buckets a completion leaves: a present and valid usage is charged to a client
    that exists and has a token limit, with a seeded bucket if it had none. -/
def chargedRates (configuration : Configuration) (clientID now : Int) (usage : Option TokenUsage)
    (rates : Int → RateKind → Option (RateRow F)) : Int → RateKind → Option (RateRow F) :=
  match usage, configuration.clients clientID with
  | some usage, some client =>
    if usage.valid = true ∧ 0 < client.tokensPerMinute then
      Function.update rates clientID (Function.update (rates clientID) .tpm
        (some (chargedRow ((rates clientID .tpm).getD
          (seededRow client.revision client.tokensPerMinute)) client now usage)))
    else rates
  | _, _ => rates

/-- What a completion that is not a replay leaves. -/
def completedDb (item : LeaseCompletion) (clientID poolID now : Int) (lease : Option LeaseRow)
    (db : Db F) : Db F :=
  updateOperation item.lease.leaseID (completedOperation now (completionOf lease now))
    (deleteLease item.lease.leaseID clientID poolID
      { db with rates := chargedRates db.configuration clientID now item.usage db.rates })

omit [RateArith F] in
@[simp] theorem setRate_setRate (clientID : Int) (kind : RateKind) (row row' : RateRow F)
    (db : Db F) :
    setRate clientID kind row' (setRate clientID kind row db) = setRate clientID kind row' db := by
  unfold setRate
  simp

omit [RateArith F] in
theorem setRate_rates (clientID clientID' : Int) (kind kind' : RateKind) (row : RateRow F)
    (db : Db F) : (setRate clientID kind row db).rates clientID' kind'
      = if clientID' = clientID ∧ kind' = kind then some row else db.rates clientID' kind' :=
  update_rate_apply ..

omit [RateArith F] in
@[simp] theorem setRate_rates_self (clientID : Int) (kind : RateKind) (row : RateRow F)
    (db : Db F) : (setRate clientID kind row db).rates clientID kind = some row := by
  simp [setRate]

@[simp] theorem setRate_seedRate (view : View (Db F)) (clientID : Int) (kind : RateKind)
    (revision capacity : Int) (row : RateRow F) (db : Db F) :
    setRate clientID kind row (seedRate view clientID kind revision capacity db)
      = setRate clientID kind row db := by
  unfold seedRate
  split
  · exact setRate_setRate _ _ _ _ _
  · rfl

/-- Refilling and charging the bucket comes to one update. -/
theorem chargeRate_normalized (clientID now : Int) (client : ClientRow) (tokens : TokenUsage)
    (row : RateRow F) (db : Db F) :
    chargeRate clientID now tokens (setRate clientID .tpm
        (normalizedRow row client.revision client.tokensPerMinute now false) db)
      = setRate clientID .tpm (chargedRow row client now tokens) db := by
  unfold chargeRate
  rw [setRate_rates_self]
  dsimp only
  rw [setRate_setRate]
  simp only [normalizedRow, chargedRow, Bool.and_false, Bool.false_eq_true, if_false]

/-- Seeding, normalizing and charging a bucket comes to one update. -/
theorem charge_run {id : UUID} {usage : TokenUsage} {client : ClientRow} (db : Db F)
    (hlimit : 0 < client.tokensPerMinute) :
    (completeAt id clientID poolID lease (some (usage, client))).run now
        (seedRate ⟨db, db, now⟩ clientID .tpm client.revision client.tokensPerMinute db)
      = (completeRelease id clientID poolID now (completionOf lease now)).run now
          { db with
            rates := Function.update db.rates clientID (Function.update (db.rates clientID) .tpm
              (some (chargedRow ((db.rates clientID .tpm).getD
                (seededRow client.revision client.tokensPerMinute)) client now usage))) } := by
  have hseeded : (seedRate ⟨db, db, now⟩ clientID .tpm client.revision client.tokensPerMinute
      db).rates clientID .tpm = some ((db.rates clientID .tpm).getD
        (seededRow client.revision client.tokensPerMinute)) := by
    unfold seedRate
    cases hrow : db.rates clientID .tpm with
    | none => simp [hlimit, setRate]
    | some row => simp [hrow]
  unfold completeAt
  rw [Prog.run_read]
  rw [normalizeRate_run hseeded, Prog.run]
  rw [chargeRate_normalized, setRate_seedRate]
  rfl

theorem completeLocked_run (item : LeaseCompletion) (clientID poolID now : Int)
    (lease : Option LeaseRow) (db : Db F) :
    (completeLocked item clientID poolID lease).run now db
      = some (.completed
          { leaseID := item.lease.leaseID, result := some (completionOf lease now) },
          completedDb item clientID poolID now lease db) := by
  unfold completeLocked completedDb chargedRates
  rcases item.usage with _ | usage
  · rfl
  dsimp only
  rcases hclient : db.configuration.clients clientID with _ | client
  · split
    · rw [Prog.run_read]
      simp only [hclient]
      rfl
    · rfl
  by_cases hvalid : usage.valid = true
  · by_cases hlimit : 0 < client.tokensPerMinute
    · simp only [hvalid, hlimit, if_true, Prog.run_read, hclient, Prog.run, Prog.run_lock,
        and_self]
      rw [charge_run db hlimit]
      rfl
    · simp only [hvalid, hlimit, if_true, if_false, Prog.run_read, hclient, and_false]
      rfl
  · simp only [hvalid, if_false, Bool.false_eq_true, false_and]
    rfl

variable {item : LeaseCompletion}

theorem lookup_completedDb (hop : db.operations.lookup item.lease.leaseID = some op) (id : UUID) :
    (completedDb item clientID poolID now lease db).operations.lookup id
      = if id = item.lease.leaseID then some (completedOperation now (completionOf lease now) op)
        else db.operations.lookup id := by
  unfold completedDb
  rw [lookup_updateOperation]
  split
  · next hid =>
    show (db.operations.lookup id).map _ = _
    rw [hid, hop]
    rfl
  · rfl

theorem lookup_completedDb_leases (id : UUID) :
    (completedDb item clientID poolID now lease db).leases.lookup id
      = (db.leases.lookup id).filter fun row => !(decide (id = item.lease.leaseID) &&
          decide (row.clientID = clientID) && decide (row.poolID = poolID)) :=
  lookup_deleteLeases _ _ _

/-- A completion in closed form. -/
theorem completeOne_run (item : LeaseCompletion) (now : Int) (db : Db F) :
    (completeOne item).run now db
      = match db.operations.lookup item.lease.leaseID with
        | none => some (.completed
            { leaseID := item.lease.leaseID, reason := some .staleOperation }, db)
        | some op =>
          if op.decision ≠ .admitted then
            some (.completed { leaseID := item.lease.leaseID, result := some .leaseLost,
                               reason := some .leaseLost }, db)
          else if op.completedAt.isSome then
            match op.completionResult with
            | none => none
            | some original => some (.completed
                { leaseID := item.lease.leaseID, result := some .alreadyCompleted,
                  originalResult := some original }, db)
          else
            some (.completed
              { leaseID := item.lease.leaseID,
                result := some (completionOf (db.leases.lookup item.lease.leaseID) now) },
              completedDb item op.clientID op.poolID now
                (db.leases.lookup item.lease.leaseID) db) := by
  unfold completeOne
  rw [Prog.run_read]
  rcases hop : db.operations.lookup item.lease.leaseID with _ | op
  · rfl
  dsimp only
  split
  · rfl
  simp only [Prog.run_lock, lockedOperation_self, lockedLease_self, hop]
  split
  · cases op.completionResult <;> rfl
  · exact completeLocked_run item op.clientID op.poolID now _ db

end Coordination.PostgresAdmission
