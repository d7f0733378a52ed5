import Mathlib.Logic.Equiv.List
import PriorityGateway.Coordination.Types

/-! # Fingerprints Without Collisions

    Both coordinators recognise a replay by a fingerprint of the request: the
    SHA-256 hash of its JSON text.  The models leave the function open, since
    all that is ever done with fingerprints is to compare them.

    Results that assume there are no collisions say so.  This is a function
    that has none: a request is written out as numbers, which are then encoded
    as one. -/

namespace Coordination

/-- The code points of a text. -/
def codePoints (text : String) : List Nat := text.toList.map Char.toNat

theorem codePoints_injective : Function.Injective codePoints := by
  intro a b h
  have hchars : a.toList = b.toList :=
    List.map_injective_iff.mpr (fun _ _ hc => Char.toNat_inj.mp hc) h
  exact String.toList_inj.mp hchars

/-- A number for the class, with the text of an unknown one. -/
def PriorityClass.code : PriorityClass → Nat × List Nat
  | .critical => (0, [])
  | .high => (1, [])
  | .normal => (2, [])
  | .background => (3, [])
  | .unset => (4, [])
  | .other text => (5, codePoints text)

theorem PriorityClass.code_injective : Function.Injective PriorityClass.code := by
  intro a b h
  cases a <;> cases b <;> simp [PriorityClass.code] at h <;>
    first
    | rfl
    | exact congrArg _ (codePoints_injective h)

/-- All fields of a request as numbers. -/
def AdmissionRequest.fields (r : AdmissionRequest) :
    List Nat × List Int × List Nat × Nat × List Nat :=
  ([r.leaseID, r.replicaID],
    [r.operationStartedAt, r.configurationRevision, r.apiKeyID, r.clientID, r.poolID,
      r.clientPolicyRevision, r.effectiveClientLimit, r.configuredClientLimit,
      r.poolGatewayInflightLimit, r.poolHighPriorityReserve, r.requestsPerMinute,
      r.tokensPerMinute, r.leaseTTL],
    codePoints r.requestID, r.priorityClass.code)

theorem AdmissionRequest.fields_injective : Function.Injective AdmissionRequest.fields := by
  intro a b h
  cases a
  cases b
  simp only [AdmissionRequest.fields, Prod.mk.injEq, List.cons.injEq] at h
  obtain ⟨hids, hnumbers, htext, hclass⟩ := h
  have htext := codePoints_injective htext
  have hclass := PriorityClass.code_injective hclass
  simp_all

/-- The request itself, encoded as a number. -/
def exactFingerprint (r : AdmissionRequest) : Nat := Encodable.encode r.fields

theorem exactFingerprint_injective : Function.Injective exactFingerprint :=
  Encodable.encode_injective.comp AdmissionRequest.fields_injective

end Coordination
