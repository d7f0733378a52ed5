import PriorityGateway.Framework.System
import PriorityGateway.Framework.Table

/-! # The Analytics Recorder

    The recorder hands the metadata of completed requests to a background
    writer through a bounded channel.  A request reserves its place in the
    channel before its response is generated, so that handing its record over
    at the end never waits.

    A permit is an element of the channel `permits`.  A reservation takes one
    and passes it on to its record when the record is queued; the writer gives
    it back when it has taken the record from the queue.

    Six kinds of threads work on a recorder: those that reserve, those that
    roll back, stage or complete a reservation, the goroutine that `Close`
    starts, and the writer loop.  A step of the model is one critical section
    of `mu`, one operation on a channel or one call of the wait group or the
    store.  Contexts may be cancelled at any time; the answers of the store
    make no difference here.

    * A call that changes nothing and returns is not a step.
    * A reservation is known by its number, which stands for the pointer.
    * The owner of a queued record is not in the source.
    * The retention cleanup, the health flags and `lastErr` are left out. -/

namespace Analytics

/-! ## Records -/

structure TokenUsage where
  inputTokens : Int
  outputTokens : Int
  cacheReadTokens : Option Int
  deriving DecidableEq, Repr

/-- `gateway.RequestEvent`, as far as a record is made from it; durations in nanoseconds. -/
structure RequestEvent where
  occurredAt : Int
  requestID : String
  parentRequestID : String := ""
  clientID : Int
  modelPoolID : Int
  client : String := ""
  model : String := ""
  backend : String := ""
  status : Int := 0
  duration : Int := 0
  ttft : Int := 0
  disconnect : Bool := false
  retryCount : Int := 0
  usage : Option TokenUsage := none
  deriving DecidableEq, Repr

structure RequestRecord where
  occurredAt : Int
  requestID : String
  parentRequestID : String
  clientID : Int
  clientName : String
  modelPoolID : Int
  modelName : String
  backendName : String
  httpStatus : Int
  durationMS : Int
  retryCount : Int
  disconnected : Bool
  ttftMS : Option Int
  usageAvailable : Bool
  inputTokens : Option Int
  outputTokens : Option Int
  cacheReadTokens : Option Int
  deriving DecidableEq, Repr

def milliseconds (d : Int) : Int := d.tdiv 1000000

def requestRecord (event : RequestEvent) : RequestRecord where
  occurredAt := event.occurredAt
  requestID := event.requestID
  parentRequestID := event.parentRequestID
  clientID := event.clientID
  clientName := event.client
  modelPoolID := event.modelPoolID
  modelName := event.model
  backendName := event.backend
  httpStatus := event.status
  durationMS := milliseconds event.duration
  retryCount := event.retryCount
  disconnected := event.disconnect
  ttftMS := if 0 < event.ttft then some (milliseconds event.ttft) else none
  usageAvailable := event.usage.isSome
  inputTokens := event.usage.map TokenUsage.inputTokens
  outputTokens := event.usage.map TokenUsage.outputTokens
  cacheReadTokens := event.usage.bind TokenUsage.cacheReadTokens

/-- The tests of `StageResponseComplete` on the event. -/
def stageable (event : RequestEvent) (requestID : String) : Bool :=
  decide (event.requestID = requestID) && decide (0 < event.clientID) &&
    decide (0 < event.modelPoolID)

/-! ## The state -/

structure RecorderSettings where
  queueCapacity : Nat
  batchSize : Nat
  capacity_pos : 0 < queueCapacity
  batch_pos : 0 < batchSize

def recorderQueueCapacity : Nat := 1024

def recorderBatchSize : Nat := 64

/-- The defaults of `newRecorder` -/
def newSettings (queueCapacity batchSize : Int) : RecorderSettings where
  queueCapacity := if queueCapacity ≤ 0 then recorderQueueCapacity else queueCapacity.toNat
  batchSize := if batchSize ≤ 0 then recorderBatchSize else batchSize.toNat
  capacity_pos := by
    split
    · decide
    · omega
  batch_pos := by
    split
    · decide
    · omega

/-- A queued record, with the reservation it came from. -/
structure Item where
  owner : Nat
  record : RequestRecord
  deriving DecidableEq, Repr

/-- Where a call is that is not in a critical section. -/
inductive Caller where
  /-- `ReserveResponseComplete` at its select. -/
  | waiting (requestID : String)
  /-- It has put a permit into the channel and has not looked at the state again. -/
  | permitted (requestID : String)
  /-- It was refused and takes the permit back. -/
  | refused
  /-- A reservation without a record has ended; its permit is to be taken back. -/
  | releasing
  /-- `ResponseComplete` before its send. -/
  | handing (item : Item)
  /-- Only `lifecycles.Done` is left. -/
  | ending
  deriving DecidableEq, Repr

inductive WriterPhase where
  | selecting
  /-- A record was taken from the queue, its permit not yet from the other channel. -/
  | dequeued
  /-- The batch goes to the store; `last` is the flush before the exit. -/
  | flushing (last : Bool)
  | exited
  deriving DecidableEq, Repr

/-- What would bring the process down. -/
inductive Fault where
  | invariantViolated
  | sendOnClosedChannel
  | negativeWaitGroup
  | closeOfClosedChannel
  deriving DecidableEq, Repr

structure Recorder where
  accepting : Bool := true
  permits : Nat := 0
  events : List Item := []
  eventsClosed : Bool := false
  pending : Table Nat RequestRecord := ∅
  reserved : Table String Nat := ∅
  lifecycles : Nat := 0
  /-- The request ids of the reservations made so far. -/
  reservations : List String := []
  /-- The reservations whose rollback has run. -/
  rolledBack : List Nat := []
  /-- The goroutine of `Close` waits for the lifecycles. -/
  closing : Bool := false
  calls : Table Nat Caller := ∅
  writer : WriterPhase := .selecting
  batch : List Item := []
  /-- The batches passed to `InsertUsageBatch`. -/
  inserted : List (List Item) := []
  fault : Option Fault := none

/-! ## Steps -/

inductive Label where
  | reserve (k : Nat) (requestID : String)
  | takePermit (k : Nat)
  | giveUp (k : Nat)
  | register (k : Nat)
  | refuse (k : Nat)
  | returnPermit (k : Nat)
  | rollback (k reservation : Nat)
  | stage (reservation : Nat) (event : RequestEvent)
  | responseComplete (k reservation : Nat)
  | release (k : Nat)
  | send (k : Nat)
  | done (k : Nat)
  | close
  | closeEvents
  | receive
  | freePermit
  | tick
  | insert
  | drained
  deriving DecidableEq, Repr

/-- The reservation is the one stored for its request. -/
def Recorder.owns (s : Recorder) (reservation : Nat) (requestID : String) : Bool :=
  decide (s.reserved.lookup requestID = some reservation)

/-- The first critical section of `ReserveResponseComplete`, when it lets the call go on. -/
def reserve (s : Recorder) (k : Nat) (requestID : String) : Option Recorder :=
  if requestID ≠ "" ∧ s.accepting = true ∧ s.reserved.lookup requestID = none ∧
      s.calls.lookup k = none then
    some { s with calls := s.calls.insert k (.waiting requestID) }
  else none

/-- The send of the permit, which waits for room. -/
def takePermit (o : RecorderSettings) (s : Recorder) (k : Nat) : Option Recorder :=
  match s.calls.lookup k with
  | some (.waiting requestID) =>
    if s.permits < o.queueCapacity then
      some { s with
        permits := s.permits + 1
        calls := s.calls.insert k (.permitted requestID) }
    else none
  | _ => none

/-- The context is done or the intake is closed. -/
def giveUp (s : Recorder) (k : Nat) : Option Recorder :=
  match s.calls.lookup k with
  | some (.waiting _) => some { s with calls := s.calls.erase k }
  | _ => none

/-- The second critical section of `ReserveResponseComplete`: a new reservation. -/
def register (s : Recorder) (k : Nat) : Option Recorder :=
  match s.calls.lookup k with
  | some (.permitted requestID) =>
    if s.accepting = true ∧ s.reserved.lookup requestID = none then
      some { s with
        reserved := s.reserved.insert requestID s.reservations.length
        reservations := s.reservations ++ [requestID]
        lifecycles := s.lifecycles + 1
        calls := s.calls.erase k }
    else none
  | _ => none

/-- The second critical section refuses: the recorder is closed, the request has another
    reservation, or the context was cancelled, which may be at any time. -/
def refuse (s : Recorder) (k : Nat) : Option Recorder :=
  match s.calls.lookup k with
  | some (.permitted _) => some { s with calls := s.calls.insert k .refused }
  | _ => none

/-- A receive from `permits`, which waits for a permit. -/
def Recorder.takeBack (s : Recorder) (calls : Table Nat Caller) : Option Recorder :=
  if 0 < s.permits then some { s with permits := s.permits - 1, calls := calls } else none

def returnPermit (s : Recorder) (k : Nat) : Option Recorder :=
  match s.calls.lookup k with
  | some .refused => s.takeBack (s.calls.erase k)
  | _ => none

/-- The rollback function, which runs once. -/
def rollback (s : Recorder) (k reservation : Nat) : Option Recorder :=
  match s.reservations[reservation]? with
  | none => none
  | some requestID =>
    if reservation ∈ s.rolledBack ∨ (s.calls.lookup k).isSome then none
    else
      let s := { s with rolledBack := reservation :: s.rolledBack }
      if s.owns reservation requestID then
        some { s with
          reserved := s.reserved.erase requestID
          pending := s.pending.erase reservation
          calls := s.calls.insert k .releasing }
      else some s

def stage (s : Recorder) (reservation : Nat) (event : RequestEvent) : Option Recorder :=
  match s.reservations[reservation]? with
  | none => none
  | some requestID =>
    if !stageable event requestID then none
    else if s.owns reservation requestID then
      some { s with pending := s.pending.insert reservation (requestRecord event) }
    else some s

def responseComplete (s : Recorder) (k reservation : Nat) : Option Recorder :=
  match s.reservations[reservation]? with
  | none => none
  | some requestID =>
    if (s.calls.lookup k).isSome then none
    else
      let record := s.pending.lookup reservation
      let reserved := s.owns reservation requestID
      let s := { s with pending := s.pending.erase reservation }
      if !reserved then some s
      else
        let s := { s with reserved := s.reserved.erase requestID }
        match record with
        | none => some { s with calls := s.calls.insert k .releasing }
        | some record => some { s with calls := s.calls.insert k (.handing ⟨reservation, record⟩) }

/-- The permit of a reservation that ended without a record. -/
def release (s : Recorder) (k : Nat) : Option Recorder :=
  match s.calls.lookup k with
  | some .releasing => s.takeBack (s.calls.insert k .ending)
  | _ => none

/-- The send of `ResponseComplete`, which does not wait. -/
def send (o : RecorderSettings) (s : Recorder) (k : Nat) : Option Recorder :=
  match s.calls.lookup k with
  | some (.handing item) =>
    if s.eventsClosed then some { s with fault := some .sendOnClosedChannel }
    else if s.events.length < o.queueCapacity then
      some { s with
        events := s.events ++ [item]
        calls := s.calls.insert k .ending }
    else some { s with fault := some .invariantViolated }
  | _ => none

def done (s : Recorder) (k : Nat) : Option Recorder :=
  match s.calls.lookup k with
  | some .ending =>
    if s.lifecycles = 0 then some { s with fault := some .negativeWaitGroup }
    else some { s with lifecycles := s.lifecycles - 1, calls := s.calls.erase k }
  | _ => none

/-- The body of `closeOnce`; only the first `Close` runs it. -/
def close (s : Recorder) : Option Recorder :=
  if s.accepting then some { s with accepting := false, closing := true } else none

/-- The goroutine of `Close` once the wait group lets it through. -/
def closeEvents (s : Recorder) : Option Recorder :=
  if s.closing = true ∧ s.lifecycles = 0 then
    if s.eventsClosed then some { s with fault := some .closeOfClosedChannel }
    else some { s with eventsClosed := true, closing := false }
  else none

/-- The writer takes a record from the queue. -/
def receive (s : Recorder) : Option Recorder :=
  match s.writer, s.events with
  | .selecting, item :: events =>
    some { s with events := events, batch := s.batch ++ [item], writer := .dequeued }
  | _, _ => none

/-- The writer takes the permit of the record. -/
def freePermit (o : RecorderSettings) (s : Recorder) : Option Recorder :=
  if s.writer = .dequeued ∧ 0 < s.permits then
    some { s with
      permits := s.permits - 1
      writer := if o.batchSize ≤ s.batch.length then .flushing false else .selecting }
  else none

/-- A flush tick with a batch that is not empty. -/
def tick (s : Recorder) : Option Recorder :=
  if s.writer = .selecting ∧ s.batch ≠ [] then some { s with writer := .flushing false } else none

/-- `flush` passes the batch to the store; a failed batch is not passed again. -/
def insert (s : Recorder) : Option Recorder :=
  match s.writer with
  | .flushing last =>
    some { s with
      inserted := s.inserted ++ [s.batch]
      batch := []
      writer := if last then .exited else .selecting }
  | _ => none

/-- The writer finds the channel closed and empty. -/
def drained (s : Recorder) : Option Recorder :=
  if s.writer = .selecting ∧ s.events = [] ∧ s.eventsClosed = true then
    some { s with writer := if s.batch = [] then .exited else .flushing true }
  else none

def next (o : RecorderSettings) (s : Recorder) : Label → Option Recorder
  | .reserve k requestID => reserve s k requestID
  | .takePermit k => takePermit o s k
  | .giveUp k => giveUp s k
  | .register k => register s k
  | .refuse k => refuse s k
  | .returnPermit k => returnPermit s k
  | .rollback k reservation => rollback s k reservation
  | .stage reservation event => stage s reservation event
  | .responseComplete k reservation => responseComplete s k reservation
  | .release k => release s k
  | .send k => send o s k
  | .done k => done s k
  | .close => close s
  | .closeEvents => closeEvents s
  | .receive => receive s
  | .freePermit => freePermit o s
  | .tick => tick s
  | .insert => insert s
  | .drained => drained s

/-- A recorder and the threads that use it. -/
def recorder (o : RecorderSettings) : System Recorder Label where
  init := fun s => s = {}
  step := fun s l s' => next o s l = some s'

end Analytics
