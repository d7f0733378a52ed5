import PriorityGateway.Framework.MinHeap
import PriorityGateway.Coordination.Types

/-! # Expiry Queues

    The queue that the in-process coordinators clean lazily: entries are
    never removed when their lease or attempt changes, so whoever pops an
    entry compares it with the current deadline. -/

namespace Coordination

inductive ExpiryKind where
  | admissionLeaseExpiry
  | admissionReceiptExpiry
  | circuitPermitExpiry
  | circuitAttemptExpiry
  deriving DecidableEq, Repr

structure ExpiryEntry where
  at' : Int
  id : UUID
  kind : ExpiryKind
  deriving DecidableEq, Repr

/-- A heap of entries ordered by their instant. -/
abbrev ExpiryQueue : Type := MinHeap ExpiryEntry ExpiryEntry.at'

def ExpiryQueue.add (q : ExpiryQueue) (kind : ExpiryKind) (id : UUID) (at' : Int) : ExpiryQueue :=
  q.push ⟨at', id, kind⟩

/-- `due`: the oldest entry, if its instant has been reached. -/
def ExpiryQueue.due (q : ExpiryQueue) (now : Int) : Option (ExpiryEntry × ExpiryQueue) :=
  q.popDue now

end Coordination
