import PriorityGateway.Proxy.Forward

/-! # Forwarding Is Safe to Retry

    What a run of `Forward` has passed on to the client, and what it has
    reported about the targets, read off its events.

    The copier keeps an invariant between any two of its calls (`Copying`):
    what the connection has taken and what is still in the buffer are together
    what was read, the header is out exactly if the result says so, and a read
    has failed before the context ended exactly if `provenReadFailure` says so.  An attempt
    (`Segment`) follows from it at every ending, a panic included.  Only an
    attempt that has passed on nothing is followed by another. -/

namespace Proxy

open Coordination (InferenceOutcome)
open Gateway (Target ProxyRequest)
open Interaction

/-! ## What a trace shows -/

/-- The bytes that the client's connection has taken. -/
def accepted (es : List Event) : Bytes :=
  es.flatMap fun
    | .wrote data n _ => data.take n
    | _ => []

/-- The bytes that were read from the upstream. -/
def body (es : List Event) : Bytes :=
  es.flatMap fun
    | .read data _ => data
    | _ => []

def Event.isHeader : Event → Bool
  | .wroteHeader _ _ => true
  | _ => false

/-- Something is passed on to the client. -/
def Event.delivers : Event → Bool
  | .wroteHeader _ _ | .wrote _ _ _ => true
  | _ => false

/-- Neither a header nor a byte was passed on. -/
def Untouched (es : List Event) : Prop := ∀ e ∈ es, e.delivers = false

/-- Where an attempt starts, or where the next target is looked for. -/
def Event.isBoundary : Event → Bool
  | .began _ | .selecting _ => true
  | _ => false

/-- The events of an attempt that has just started. -/
def attempt (rest : List Event) : List Event := rest.takeWhile fun e => !e.isBoundary

/-- The attempts, each with its target and its events. -/
def attempts : List Event → List (Target × List Event)
  | [] => []
  | .began target :: rest => (target, attempt rest) :: attempts rest
  | _ :: rest => attempts rest

/-- The runs of `Complete`. -/
def completions (es : List Event) : List (Target × InferenceOutcome) :=
  es.filterMap fun
    | .completed target outcome => some (target, outcome)
    | _ => none

/-- What the upstream did is a failure: there is no response or a read has failed, and the
    caller's context has not ended by then, or the status is 500 or more. -/
def Event.Fails (E : Environment) (past : List Event) : Event → Prop
  | .failed text => E.cancelled (past ++ [.failed text]) = false
  | .read data (some (.other text)) =>
    E.cancelled (past ++ [.read data (some (.other text))]) = false
  | .responded status _ => 500 ≤ status
  | _ => False

/-- One of the events that came after `past` is a failure. -/
def FailureSeen (E : Environment) (past : List Event) : List Event → Prop
  | [] => False
  | e :: es => e.Fails E past ∨ FailureSeen E (past ++ [e]) es

/-- Everything that reached the client is this attempt's. -/
structure DeliveredBy (E : Environment) (es trace : List Event) : Prop where
  all : trace.filter Event.delivers = es.filter Event.delivers
  headers : (es.filter Event.isHeader).length ≤ 1
  header : ∀ status header, .wroteHeader status header ∈ es →
    ∃ h, .responded status h ∈ es ∧ header = copyResponseHeaders E.header h
  bytes : accepted trace <+: body es

@[simp] theorem accepted_append (es es' : List Event) :
    accepted (es ++ es') = accepted es ++ accepted es' := List.flatMap_append

@[simp] theorem body_append (es es' : List Event) : body (es ++ es') = body es ++ body es' :=
  List.flatMap_append

@[simp] theorem completions_append (es es' : List Event) :
    completions (es ++ es') = completions es ++ completions es' := List.filterMap_append

variable {es es' : List Event} {e : Event}

theorem untouched_append : Untouched (es ++ es') ↔ Untouched es ∧ Untouched es' :=
  List.forall_mem_append

@[simp] theorem untouched_cons : Untouched (e :: es) ↔ e.delivers = false ∧ Untouched es :=
  List.forall_mem_cons

@[simp] theorem untouched_nil : Untouched [] := fun _ => nofun

theorem Untouched.accepted (h : Untouched es) : accepted es = [] := by
  apply List.flatMap_eq_nil_iff.mpr
  intro e he
  have hquiet := h e he
  cases e
  case wrote => cases hquiet
  all_goals rfl

theorem Untouched.filter (h : Untouched es) : es.filter Event.delivers = [] :=
  List.filter_eq_nil_iff.mpr fun e he => by simp [h e he]

theorem failureSeen_concat (E : Environment) (past : List Event) :
    FailureSeen E past (es ++ [e]) ↔ FailureSeen E past es ∨ e.Fails E (past ++ es) := by
  induction es generalizing past with
  | nil => simp [FailureSeen]
  | cons e' es ih =>
    simp only [List.cons_append, FailureSeen, ih, or_assoc, List.append_assoc, List.nil_append]

/-! ## Copying -/

/-- Events of a copier: none of those that frame an attempt. -/
def Event.copies : Event → Bool
  | .read _ _ | .sawContext _ | .wroteHeader _ _ | .wrote _ _ _ | .flushed
  | .inspected | .panicked => true
  | _ => false

/-- What holds of the events of a copier at any time. -/
structure Copies (E : Environment) (response : Response) (es : List Event) : Prop where
  copies : ∀ e ∈ es, e.copies = true
  headers : (es.filter Event.isHeader).length ≤ 1
  header : ∀ status header, .wroteHeader status header ∈ es →
    status = response.status ∧ header = copyResponseHeaders E.header response.header
  bytes : accepted es <+: body es

/-- What the copier keeps between two calls.  `unread` is in the buffer and not taken yet. -/
structure Copying {U : Type} {I : Inspector U} (E : Environment) (t : List Event)
    (response : Response) (c : Copier I) (unread : Bytes) (proven : Bool) (es : List Event) :
    Prop where
  copies : ∀ e ∈ es, e.copies = true
  quiet : .panicked ∉ es
  headers : (es.filter Event.isHeader).length = if c.result.responseStarted then 1 else 0
  header : ∀ status header, .wroteHeader status header ∈ es →
    status = response.status ∧ header = copyResponseHeaders E.header response.header
  bytes : accepted es ++ unread = body es
  sent : c.result.bytesSent = (accepted es).length
  started : c.result.responseStarted = false → Untouched es
  proven : FailureSeen E t es ↔ proven = true

section Copier

variable {E : Environment} {U : Type} {I : Inspector U} {response : Response} {started : Int}
  {c : Copier I} {unread : Bytes} {proven : Bool} {t es : List Event}

variable (h : Copying E t response c unread proven es) {unread' data : Bytes} {proven' : Bool}
  {c' : Copier I}

include h

theorem Copying.passed : Copies E response es where
  copies := h.copies
  headers := by
    rw [h.headers]
    split
    · exact le_refl 1
    · exact Nat.zero_le 1
  header := h.header
  bytes := ⟨unread, h.bytes⟩

/-- Events that the invariant does not look at. -/
def Event.isSilent : Event → Bool
  | .sawContext _ | .flushed | .inspected => true
  | _ => false

section

variable (hcopies : e.copies = true) (hquiet : e ≠ .panicked)
  (hproven : (proven = true ∨ e.Fails E (t ++ es)) ↔ proven' = true)

include hcopies hquiet hproven

/-- One more event, and what it does to the copier. -/
theorem Copying.add (hheaders : (if c.result.responseStarted then 1 else 0)
      + ([e].filter Event.isHeader).length = if c'.result.responseStarted then 1 else 0)
    (hheader : ∀ status header, e = .wroteHeader status header →
      status = response.status ∧ header = copyResponseHeaders E.header response.header)
    (hbytes : accepted [e] ++ unread' = unread ++ body [e])
    (hsent : c'.result.bytesSent = c.result.bytesSent + (accepted [e]).length)
    (hstarted : c'.result.responseStarted = false →
      c.result.responseStarted = false ∧ e.delivers = false) :
    Copying E t response c' unread' proven' (es ++ [e]) where
  copies := List.forall_mem_append.mpr ⟨h.copies, List.forall_mem_singleton.mpr hcopies⟩
  quiet := by
    intro hpanic
    rcases List.mem_append.mp hpanic with hold | hnew
    · exact h.quiet hold
    · exact hquiet (List.mem_singleton.mp hnew).symm
  headers := by
    rw [List.filter_append, List.length_append, h.headers]
    exact hheaders
  header := by
    intro status header hmem
    rcases List.mem_append.mp hmem with hold | hnew
    · exact h.header status header hold
    · exact hheader status header (List.mem_singleton.mp hnew).symm
  bytes := by
    rw [accepted_append, List.append_assoc, hbytes, ← List.append_assoc, h.bytes, body_append]
  sent := by
    rw [accepted_append, List.length_append, ← h.sent]
    exact hsent
  started := by
    intro hfalse
    rw [untouched_append, untouched_cons]
    exact ⟨h.started (hstarted hfalse).1, (hstarted hfalse).2, untouched_nil⟩
  proven := by
    rw [failureSeen_concat, h.proven]
    exact hproven

/-- An event that passes nothing on. -/
theorem Copying.quietly (hdelivers : e.delivers = false) (hbytes : unread' = unread ++ body [e]) :
    Copying E t response c unread' proven' (es ++ [e]) := by
  have haccepted : accepted [e] = [] :=
    Untouched.accepted (untouched_cons.mpr ⟨hdelivers, untouched_nil⟩)
  apply h.add hcopies hquiet hproven
  · cases e
    case wroteHeader => cases hdelivers
    all_goals rfl
  · intro status header heq
    rw [heq] at hdelivers
    cases hdelivers
  · rw [haccepted, hbytes]
    rfl
  · rw [haccepted]
    rfl
  · exact fun hfalse => ⟨hfalse, hdelivers⟩

end

theorem Copying.silent (he : e.isSilent = true) :
    Copying E t response c unread proven (es ++ [e]) := by
  apply h.quietly
  all_goals
    cases e
    case sawContext | flushed | inspected => simp [Event.copies, body, Event.delivers, Event.Fails]
    all_goals cases he

/-- A panic has left what was passed on as it was. -/
def CopyPanics (E : Environment) (response : Response) (es : List Event) : Prop :=
  Copies E response es ∧ .panicked ∈ es

theorem Copying.panicked : CopyPanics E response (es ++ [.panicked]) := by
  have hpassed := h.passed
  refine ⟨⟨?_, ?_, ?_, ?_⟩, by simp⟩
  · exact List.forall_mem_append.mpr ⟨h.copies, List.forall_mem_singleton.mpr rfl⟩
  · rw [List.filter_append]
    simpa [Event.isHeader] using hpassed.headers
  · intro status header hmem
    rcases List.mem_append.mp hmem with hold | hnew
    · exact h.header status header hold
    · cases List.mem_singleton.mp hnew
  · rw [accepted_append, body_append]
    simpa [accepted, body] using hpassed.bytes

/-! ### One lemma for each function of the copier -/

theorem Copying.wroteHeader (hstarted : c.result.responseStarted = false) (firstByte : Int) :
    Copying E t response
      { c with result := { c.result with firstByte := firstByte, responseStarted := true } }
      unread proven
      (es ++ [.wroteHeader response.status (copyResponseHeaders E.header response.header)]) := by
  apply h.add rfl (by simp) (by simp [Event.Fails])
  · rw [hstarted]
    rfl
  · intro status header heq
    cases heq
    exact ⟨rfl, rfl⟩
  · simp [accepted, body]
  · simp [accepted]
  · nofun

omit h in
/-- The connection takes the first `n` bytes of the buffer. -/
theorem Copying.wrote (h : Copying E t response c data proven es)
    (hstarted : c.result.responseStarted = true) {n : Nat} (hn : n ≤ data.length)
    (err : Option String) :
    Copying E t response
      { c with result := { c.result with bytesSent := c.result.bytesSent + n } }
      (data.drop n) proven (es ++ [.wrote data n err]) := by
  apply h.add rfl (by simp) (by simp [Event.Fails])
  · simp [Event.isHeader]
  · intro status header heq
    cases heq
  · -- what is taken and what is left are the buffer
    simp [accepted, body]
  · simp [accepted, hn]
  · intro hfalse
    rw [hstarted] at hfalse
    cases hfalse

/-- The copier's fields that the invariant does not look at. -/
theorem Copying.congr (hstarted : c'.result.responseStarted = c.result.responseStarted)
    (hsent : c'.result.bytesSent = c.result.bytesSent) :
    Copying E t response c' unread proven es := by
  refine ⟨h.copies, h.quiet, ?_, h.header, h.bytes, ?_, ?_, h.proven⟩
  · rw [hstarted]
    exact h.headers
  · rw [hsent]
    exact h.sent
  · rw [hstarted]
    exact h.started

omit h

/-- The read has failed, and the context has not ended. -/
def readFails (E : Environment) (t : List Event) : Option ReadError → Bool
  | some (.other _) => !E.cancelled t
  | _ => false

theorem Copying.read (h : Copying E t response c [] false es) (data : Bytes)
    (err : Option ReadError) :
    Copying E t response c data (readFails E (t ++ (es ++ [.read data err])) err)
      (es ++ [.read data err]) := by
  apply h.quietly rfl (by simp) ?_ rfl
  · simp [body]
  · rw [← List.append_assoc]
    cases err with
    | none => simp [Event.Fails, readFails]
    | some err => cases err <;> simp [Event.Fails, readFails]

/-- A read that has failed without proof has failed when the context had ended. -/
def Judged (E : Environment) (t : List Event) (proven : Bool) : Option ReadError → Prop
  | some (.other _) => proven = false → E.cancelled t = true
  | _ => proven = false

/-- A context that has ended stays so. -/
theorem Judged.later {err : Option ReadError} (h : Judged E t proven err) (es : List Event) :
    Judged E (t ++ es) proven err := by
  unfold Judged at h ⊢
  split
  · exact fun hfalse => E.cancelled_append _ _ (h hfalse)
  · next hother =>
    split at h
    · next text => exact absurd rfl (hother text)
    · exact h

/-- What is returned after the events `es`, where `failed` says whether the upstream failed. -/
structure Returns (failed : Prop) (es : List Event) (copied : Copied U) : Prop where
  quiet : .panicked ∉ es
  sent : copied.result.bytesSent = (accepted es).length
  retryable : copied.retryable = true → Untouched es
  outcome : copied.outcome = .inferenceFailure ↔ failed

/-- How `copy` ends. -/
structure CopyEnds (E : Environment) (t : List Event) (response : Response) (es : List Event)
    (ending : Ending (Copied U)) : Prop where
  copies : Copies E response es
  panicked : ending = .panicked → .panicked ∈ es
  returned : ∀ copied, ending = .returned copied →
    Returns (500 ≤ response.status ∨ FailureSeen E t es) es copied

theorem Copying.ends {copied : Copied U} (h : Copying E t response c unread proven es)
    (hsent : copied.result.bytesSent = c.result.bytesSent)
    (hretryable : copied.retryable = true → c.result.responseStarted = false)
    (houtcome : copied.outcome = .inferenceFailure ↔ 500 ≤ response.status ∨ proven = true) :
    CopyEnds E t response es (.returned copied) := by
  refine ⟨h.passed, nofun, ?_⟩
  intro copied' heq
  cases heq
  refine ⟨h.quiet, hsent.trans h.sent, fun hretry => h.started (hretryable hretry), ?_⟩
  rw [h.proven]
  exact houtcome

end Copier

/-! ## Attempts -/

/-- What holds of the events of an attempt at any time. -/
structure Segment (E : Environment) (es : List Event) : Prop where
  inner : ∀ e ∈ es, e.isBoundary = false
  headers : (es.filter Event.isHeader).length ≤ 1
  header : ∀ status header, .wroteHeader status header ∈ es →
    ∃ h, .responded status h ∈ es ∧ header = copyResponseHeaders E.header h
  bytes : accepted es <+: body es

/-- Events that say nothing about the exchange with the upstream. -/
def Event.isFrame : Event → Bool
  | .closed | .panicked | .completed _ _ => true
  | _ => false

section Attempt

variable {E : Environment} {U : Type} {I : Inspector U} {request : ProxyRequest} {target : Target}
  {started : Int} {rounds : Nat} {t es : List Event}

variable {e : Event} {response : Response} {ending : Ending (Copied U)}
  {ending' : Ending (Result U × Bool)} {outcome : InferenceOutcome}

theorem frame_accepted (he : e.isFrame = true) : accepted [e] = [] := by
  cases e
  case wrote => cases he
  all_goals rfl

theorem frame_body (he : e.isFrame = true) : body [e] = [] := by
  cases e
  case read => cases he
  all_goals rfl

theorem Segment.frame (h : Segment E es) (he : e.isFrame = true) : Segment E (es ++ [e]) where
  inner := List.forall_mem_append.mpr ⟨h.inner, List.forall_mem_singleton.mpr
    (by cases e <;> first | rfl | cases he)⟩
  headers := by
    have hnone : [e].filter Event.isHeader = [] := by
      cases e
      case wroteHeader => cases he
      all_goals rfl
    rw [List.filter_append, hnone, List.append_nil]
    exact h.headers
  header := by
    intro status header hmem
    rcases List.mem_append.mp hmem with hold | hnew
    · obtain ⟨h', hresponded, heq⟩ := h.header status header hold
      exact ⟨h', List.mem_append_left _ hresponded, heq⟩
    · rw [← List.mem_singleton.mp hnew] at he
      cases he
  bytes := by
    rw [accepted_append, body_append, frame_accepted he, frame_body he, List.append_nil,
      List.append_nil]
    exact h.bytes

theorem Untouched.frame (h : Untouched es) (he : e.isFrame = true) : Untouched (es ++ [e]) := by
  rw [untouched_append, untouched_cons]
  exact ⟨h, (by cases e <;> first | rfl | cases he), untouched_nil⟩

theorem failureSeen_frame (he : e.isFrame = true) :
    FailureSeen E t (es ++ [e]) ↔ FailureSeen E t es := by
  rw [failureSeen_concat]
  cases e
  case closed | panicked | completed => simp [Event.Fails]
  all_goals cases he

/-- How `forwardOnce` ends. -/
structure OnceEnds (E : Environment) (t es : List Event) (ending : Ending (Copied U)) : Prop where
  segment : Segment E es
  completions : completions es = []
  panicked : ending = .panicked → .panicked ∈ es
  returned : ∀ copied, ending = .returned copied → Returns (FailureSeen E t es) es copied

/-- The body is closed, or closing it panics. -/
theorem OnceEnds.closed (h : OnceEnds E t es ending) : OnceEnds E t (es ++ [.closed]) ending where
  segment := h.segment.frame rfl
  completions := by
    rw [completions_append, h.completions]
    rfl
  panicked := fun hpanicked => List.mem_append_left _ (h.panicked hpanicked)
  returned := by
    intro copied hreturned
    have hcopied := h.returned copied hreturned
    refine ⟨by simpa using hcopied.quiet, ?_,
      fun hretry => (hcopied.retryable hretry).frame rfl, ?_⟩
    · rw [accepted_append]
      simpa [accepted] using hcopied.sent
    · rw [failureSeen_frame rfl]
      exact hcopied.outcome

theorem OnceEnds.panics (h : OnceEnds E t es ending) :
    OnceEnds E t (es ++ [.panicked]) (.panicked : Ending (Copied U)) where
  segment := h.segment.frame rfl
  completions := by
    rw [completions_append, h.completions]
    rfl
  panicked := fun _ => by simp
  returned := fun _ => nofun

/-- How an attempt ends. -/
structure AttemptEnds (E : Environment) (t : List Event) (target : Target) (es : List Event)
    (ending : Ending (Result U × Bool)) : Prop where
  segment : Segment E es
  once : (completions es).length ≤ 1
  completed : ending ≠ .running → E.completes target = true →
    ∃ outcome, completions es = [(target, outcome)] ∧
      (.panicked ∉ es → (outcome = .inferenceFailure ↔ FailureSeen E t es))
  returned : ∀ result retryable, ending = .returned (result, retryable) →
    result.bytesSent = (accepted es).length ∧ (retryable = true → Untouched es)

section

variable (h : OnceEnds E t es ending)
  (hreturned : ∀ result retryable, ending' = .returned (result, retryable) →
    result.bytesSent = (accepted es).length ∧ (retryable = true → Untouched es))

include h hreturned

end

theorem AttemptEnds.panicked {ending : Ending (Result U × Bool)}
    (h : AttemptEnds E t target es ending) (hrunning : ending ≠ .running) :
    AttemptEnds E t target (es ++ [.panicked]) (.panicked : Ending (Result U × Bool)) where
  segment := h.segment.frame rfl
  once := by
    simpa [completions] using h.once
  completed := by
    intro _ hcompletes
    obtain ⟨outcome, hdone, -⟩ := h.completed hrunning hcompletes
    refine ⟨outcome, ?_, ?_⟩
    · rw [completions_append, hdone]
      rfl
    · intro hquiet
      exact absurd (by simp) hquiet
  returned := fun _ _ => nofun

end Attempt

/-! ## Runs -/

theorem attempts_append_of_inner (h : ∀ e ∈ es, e.isBoundary = false) (rest : List Event) :
    attempts (es ++ rest) = attempts rest := by
  induction es with
  | nil => rfl
  | cons e es ih =>
    have htail := ih fun e' he' => h e' (List.mem_cons_of_mem _ he')
    have hhead := h e List.mem_cons_self
    cases e
    case began => cases hhead
    all_goals exact htail

/-- An attempt ends where the next target is looked for, or with the run. -/
theorem attempt_append (h : ∀ e ∈ es, e.isBoundary = false) {rest : List Event}
    (hrest : ∀ e ∈ rest.head?, e.isBoundary = true) : attempt (es ++ rest) = es := by
  unfold attempt
  rw [List.takeWhile_append_of_pos (by simpa using h)]
  cases rest with
  | nil => simp
  | cons e rest =>
    have hstop : e.isBoundary = true := hrest e rfl
    simp [hstop]

theorem attempts_began (h : ∀ e ∈ es, e.isBoundary = false) (target : Target) {rest : List Event}
    (hrest : ∀ e ∈ rest.head?, e.isBoundary = true) :
    attempts (.began target :: (es ++ rest)) = (target, es) :: attempts rest := by
  show (target, attempt (es ++ rest)) :: attempts (es ++ rest) = _
  rw [attempts_append_of_inner h, attempt_append h hrest]

/-- The result of the attempt that was made last. -/
def Reports {U : Type} (own : List Event) (ending : Ending (Result U × Bool))
    (ending' : Ending (Result U)) : Prop :=
  (ending = .running → ending' = .running) ∧
    ∀ r, ending' = .returned r → r.bytesSent = (accepted own).length

/-- What comes after the last attempt: nothing, or a search for another target that finds none. -/
inductive Stops : List Event → Prop where
  | nothing : Stops []
  | error (exclude : List Int) : Stops [.selecting exclude, .selected none]
  | panic (exclude : List Int) : Stops [.selecting exclude, .panicked]

/-- At most so many attempts after `past`, of which all but the last have passed on nothing. -/
inductive Runs {U : Type} (E : Environment) :
    List Event → Nat → List Event → Ending (Result U) → Prop where
  | last {past : List Event} {n : Nat} {target : Target} {own rest : List Event}
      {ending : Ending (Result U × Bool)} {ending' : Ending (Result U)}
      (h : AttemptEnds E (past ++ [.began target]) target own ending) (hrest : Stops rest)
      (hreports : Reports own ending ending') :
      Runs E past (n + 1) (.began target :: (own ++ rest)) ending'
  | retry {past : List Event} {n : Nat} {target next : Target} {own trace : List Event}
      {exclude : List Int} {ending : Ending (Result U × Bool)} {ending' : Ending (Result U)}
      (h : AttemptEnds E (past ++ [.began target]) target own ending) (hending : ending ≠ .running)
      (huntouched : Untouched own)
      (hruns : Runs E
        (past ++ .began target :: (own ++ [.selecting exclude, .selected (some next)])) n trace
        ending') :
      Runs E past (n + 1)
        (.began target :: (own ++ .selecting exclude :: .selected (some next) :: trace)) ending'

section Run

variable {E : Environment} {U : Type} {I : Inspector U} {request : ProxyRequest}
  {started : Int} {rounds : Nat} {t : List Event}

variable {rest own : List Event}

variable {n : Nat} {past trace : List Event} {ending : Ending (Result U)}

theorem Stops.head (h : Stops rest) : ∀ e ∈ rest.head?, e.isBoundary = true := by
  cases h <;> simp [Event.isBoundary]

theorem attempts_last (h : Segment E own) (hrest : Stops rest) (target : Target) :
    attempts (.began target :: (own ++ rest)) = [(target, own)] := by
  rw [attempts_began h.inner target hrest.head]
  cases hrest <;> rfl

theorem attempts_retry (h : Segment E own) (target next : Target) (exclude : List Int)
    (trace : List Event) :
    attempts (.began target :: (own ++ .selecting exclude :: .selected (some next) :: trace))
      = (target, own) :: attempts trace :=
  attempts_began h.inner target fun e he => (by cases he; rfl)

theorem Stops.untouched (h : Stops rest) : Untouched rest := by
  cases h <;> simp [Event.delivers]

theorem Segment.delivered (h : Segment E own) : DeliveredBy E own own :=
  ⟨rfl, h.headers, h.header, h.bytes⟩

/-- Quiet events may come before and after. -/
theorem DeliveredBy.within {before after : List Event} (h : DeliveredBy E own trace)
    (hbefore : Untouched before) (hafter : Untouched after) :
    DeliveredBy E own (before ++ (trace ++ after)) where
  all := by
    rw [List.filter_append, List.filter_append, hbefore.filter, hafter.filter, List.append_nil]
    exact h.all
  headers := h.headers
  header := h.header
  bytes := by
    rw [accepted_append, accepted_append, hbefore.accepted, hafter.accepted, List.append_nil]
    exact h.bytes

theorem untouched_retry (huntouched : Untouched own) (target next : Target) (exclude : List Int) :
    Untouched (.began target :: (own ++ [.selecting exclude, .selected (some next)])) := by
  simp only [untouched_cons, untouched_append, untouched_nil]
  exact ⟨rfl, huntouched, rfl, rfl, trivial⟩

theorem retry_eq (own trace : List Event) (target next : Target) (exclude : List Int) :
    .began target :: (own ++ .selecting exclude :: .selected (some next) :: trace)
      = (.began target :: (own ++ [.selecting exclude, .selected (some next)])) ++ trace := by
  simp

theorem Runs.delivered (h : Runs E past n trace ending) :
    Untouched trace ∨ ∃ a ∈ attempts trace, DeliveredBy E a.2 trace := by
  induction h with
  | @last past n target own rest _ _ h hrest _ =>
    right
    rw [attempts_last h.segment hrest]
    refine ⟨(target, own), List.mem_singleton.mpr rfl, ?_⟩
    exact h.segment.delivered.within (untouched_cons.mpr ⟨rfl, untouched_nil⟩) hrest.untouched
  | @retry past n target next own trace exclude _ _ h _ huntouched _ ih =>
    have hquiet := untouched_retry huntouched target next exclude
    rcases ih with hnone | ⟨a, ha, hdelivered⟩
    · left
      rw [retry_eq]
      exact untouched_append.mpr ⟨hquiet, hnone⟩
    · right
      rw [attempts_retry h.segment]
      refine ⟨a, List.mem_cons_of_mem _ ha, ?_⟩
      rw [retry_eq, ← List.append_nil trace]
      exact hdelivered.within hquiet untouched_nil

theorem Runs.bytesSent (h : Runs E past n trace ending) :
    ∀ r, ending = .returned r → r.bytesSent = (accepted trace).length := by
  induction h with
  | @last past n target own rest _ _ h hrest hreports =>
    intro r heq
    show r.bytesSent = (accepted (own ++ rest)).length
    rw [accepted_append, hrest.untouched.accepted, List.append_nil]
    exact hreports.2 r heq
  | @retry past n target next own trace exclude _ _ h _ huntouched _ ih =>
    intro r heq
    rw [retry_eq, accepted_append, (untouched_retry huntouched target next exclude).accepted]
    exact ih r heq

end Run

end Proxy
