import Mathlib.Data.List.Count
import Mathlib.Logic.Function.Basic
import PriorityGateway.Framework.System

/-! # Receipt Ledgers

    A component that must not do the same work twice keeps a receipt for each
    request under the request's key, refuses requests that started too long
    ago, and deletes a receipt only when its request has become too old.

    This is that idea with nothing else around it.  A request is granted only
    while its key is free and the request is fresh; a granted receipt can be
    closed once, and closing it may charge; a receipt may be dropped when its
    request is no longer fresh.  Then each request is granted at most once and
    charged at most once over any history with a nondecreasing clock, although
    receipts do not live for ever.

    The ledger is a function from keys to receipts, so that a component is
    related to it by saying what its lookups are. -/

namespace ReceiptLedger

/-- A receipt: the request, whether it was granted and whether it is closed. -/
structure Entry (ρ : Type) where
  request : ρ
  granted : Bool
  closed : Bool
  deriving DecidableEq

/-- What has to happen at most once. -/
inductive Event (ρ : Type) where
  | created (request : ρ)
  | charged (request : ρ)
  deriving DecidableEq

section Ledger

variable {κ ρ : Type} [DecidableEq κ] (key : ρ → κ) (started : ρ → Int) (retention : Int)

/-! ## Steps -/

/-- One step of the ledger at `now`, with the events it emits. -/
inductive Step (now : Int) :
    (κ → Option (Entry ρ)) → List (Event ρ) → (κ → Option (Entry ρ)) → Prop where
  | keep (L : κ → Option (Entry ρ)) : Step now L [] L
  | reject (L : κ → Option (Entry ρ)) (r : ρ) (hfree : L (key r) = none) :
      Step now L [] (Function.update L (key r) (some ⟨r, false, false⟩))
  | grant (L : κ → Option (Entry ρ)) (r : ρ) (hfree : L (key r) = none)
      (hfresh : now < started r + retention) :
      Step now L [.created r] (Function.update L (key r) (some ⟨r, true, false⟩))
  | close (L : κ → Option (Entry ρ)) (k : κ) (e : Entry ρ) (es : List (Event ρ))
      (he : L k = some e) (hgranted : e.granted = true) (hopen : e.closed = false)
      (hes : es = [] ∨ es = [.charged e.request]) :
      Step now L es (Function.update L k (some { e with closed := true }))
  | drop (L : κ → Option (Entry ρ)) (k : κ) (e : Entry ρ) (he : L k = some e)
      (hold : started e.request + retention ≤ now) :
      Step now L [] (Function.update L k none)

/-! ## The invariant -/

variable [DecidableEq ρ]

/-- What the history `H` up to `now` says about the ledger. -/
structure Recorded (now : Int) (H : List (Event ρ)) (L : κ → Option (Entry ρ)) : Prop where
  /-- A receipt is stored under its own key, and a granted one is in the history. -/
  held : ∀ k e, L k = some e → key e.request = k ∧ (e.granted = true → .created e.request ∈ H)
  /-- A granted request has its receipt, or is too old. -/
  created : ∀ r, .created r ∈ H →
    (∃ e, L (key r) = some e ∧ e.request = r ∧ e.granted = true) ∨
      started r + retention ≤ now
  /-- A charged request was granted, and no receipt of it is open. -/
  charged : ∀ r, .charged r ∈ H → .created r ∈ H ∧
    ∀ e, L (key r) = some e → e.request = r → e.granted = true → e.closed = true
  createdOnce : ∀ r, H.count (.created r) ≤ 1
  chargedOnce : ∀ r, H.count (.charged r) ≤ 1

omit [DecidableEq κ] in
theorem recorded_init (now : Int) :
    Recorded key started retention now [] (fun _ => none : κ → Option (Entry ρ)) := by
  refine ⟨?_, ?_, ?_, ?_, ?_⟩
  · nofun
  · nofun
  · nofun
  · intro r
    simp
  · intro r
    simp

variable {key started retention} {now now' : Int} {H es : List (Event ρ)}
  {L L' : κ → Option (Entry ρ)} (h : Recorded key started retention now H L)

include h

omit [DecidableEq κ] in
/-- Time only makes requests older. -/
theorem Recorded.mono (hle : now ≤ now') : Recorded key started retention now' H L := by
  refine ⟨h.held, ?_, h.charged, h.createdOnce, h.chargedOnce⟩
  intro r hr
  rcases h.created r hr with hheld | hold
  · exact .inl hheld
  · exact .inr (by omega)

variable {r : ρ} {e : Entry ρ} {k : κ}

omit [DecidableEq κ] in
/-- A request that can be granted has not been granted before. -/
theorem Recorded.not_created (hfree : L (key r) = none) (hfresh : now < started r + retention) :
    .created r ∉ H := by
  intro hr
  rcases h.created r hr with ⟨e, he, _⟩ | hold
  · rw [hfree] at he
    cases he
  · omega

omit [DecidableEq κ] in
/-- An open granted receipt has not been charged before. -/
theorem Recorded.not_charged (he : L k = some e)
    (hgranted : e.granted = true) (hopen : e.closed = false) : .charged e.request ∉ H := by
  intro hr
  have hkey := (h.held k e he).1
  have hclosed := (h.charged e.request hr).2 e (by rw [hkey]; exact he) rfl hgranted
  rw [hopen] at hclosed
  cases hclosed

/-! ## Every step keeps the invariant -/

theorem Recorded.reject (hfree : L (key r) = none) :
    Recorded key started retention now H
      (Function.update L (key r) (some ⟨r, false, false⟩)) := by
  refine ⟨?_, ?_, ?_, h.createdOnce, h.chargedOnce⟩
  · intro k e he
    rw [Function.update_apply] at he
    split at he
    · next hk => cases he; exact ⟨hk.symm, nofun⟩
    · exact h.held k e he
  · intro r' hr'
    rcases h.created r' hr' with ⟨e, he, hrest⟩ | hold
    · have hne : key r' ≠ key r := by
        intro hk
        rw [hk, hfree] at he
        cases he
      exact .inl ⟨e, by rw [Function.update_of_ne hne]; exact he, hrest⟩
    · exact .inr hold
  · intro r' hr'
    refine ⟨(h.charged r' hr').1, ?_⟩
    intro e he hreq hg
    rw [Function.update_apply] at he
    split at he
    · cases he
      cases hg
    · exact (h.charged r' hr').2 e he hreq hg

theorem Recorded.grant (hfree : L (key r) = none) (hfresh : now < started r + retention) :
    Recorded key started retention now (H ++ [.created r])
      (Function.update L (key r) (some ⟨r, true, false⟩)) := by
  have hnew := h.not_created hfree hfresh
  refine ⟨?_, ?_, ?_, ?_, ?_⟩
  · intro k e he
    rw [Function.update_apply] at he
    split at he
    · next hk => cases he; exact ⟨hk.symm, fun _ => by simp⟩
    · exact ⟨(h.held k e he).1, fun hg => by simp [(h.held k e he).2 hg]⟩
  · intro r' hr'
    by_cases hrr : r' = r
    · subst hrr
      exact .inl ⟨_, by rw [Function.update_self], rfl, rfl⟩
    have hin : .created r' ∈ H := by simpa [hrr] using hr'
    rcases h.created r' hin with ⟨e, he, hrest⟩ | hold
    · have hne : key r' ≠ key r := by
        intro hk
        rw [hk, hfree] at he
        cases he
      exact .inl ⟨e, by rw [Function.update_of_ne hne]; exact he, hrest⟩
    · exact .inr hold
  · intro r' hr'
    have hin : .charged r' ∈ H := by simpa using hr'
    obtain ⟨hcreated, hclosed⟩ := h.charged r' hin
    refine ⟨by simp [hcreated], ?_⟩
    intro e he hreq hg
    rw [Function.update_apply] at he
    split at he
    · -- the new receipt is of a request that was never granted before
      cases he
      subst hreq
      exact absurd hcreated hnew
    · exact hclosed e he hreq hg
  · intro r'
    rw [List.count_append]
    by_cases hrr : r' = r
    · subst hrr
      rw [List.count_eq_zero.mpr hnew]
      simp
    · have := h.createdOnce r'
      simpa [Ne.symm hrr] using this
  · intro r'
    have := h.chargedOnce r'
    simpa using this

theorem Recorded.close (he : L k = some e) (hgranted : e.granted = true) (hopen : e.closed = false)
    (hes : es = [] ∨ es = [.charged e.request]) :
    Recorded key started retention now (H ++ es)
      (Function.update L k (some { e with closed := true })) := by
  have hnew := h.not_charged he hgranted hopen
  obtain ⟨hkey, hheld⟩ := h.held k e he
  have hcreated : ∀ r, .created r ∈ H ++ es ↔ .created r ∈ H := by
    intro r
    rcases hes with rfl | rfl <;> simp
  have hcharged : ∀ r, .charged r ∈ H ++ es → .charged r ∈ H ∨ r = e.request := by
    intro r hr
    rcases hes with rfl | rfl
    · exact .inl (by simpa using hr)
    · simpa using hr
  refine ⟨?_, ?_, ?_, ?_, ?_⟩
  · intro k' e' he'
    rw [hcreated]
    rw [Function.update_apply] at he'
    split at he'
    · next hk => cases he'; subst hk; exact ⟨hkey, hheld⟩
    · exact h.held k' e' he'
  · intro r hr
    rw [hcreated] at hr
    rcases h.created r hr with ⟨e', he', hreq, hg⟩ | hold
    · by_cases hk : key r = k
      · rw [hk, he] at he'
        cases he'
        exact .inl ⟨{ e with closed := true }, by rw [hk, Function.update_self], hreq, hg⟩
      · exact .inl ⟨e', by rw [Function.update_of_ne hk]; exact he', hreq, hg⟩
    · exact .inr hold
  · intro r hr
    rw [hcreated]
    rcases hcharged r hr with hin | rfl
    · refine ⟨(h.charged r hin).1, ?_⟩
      intro e' he' hreq hg
      rw [Function.update_apply] at he'
      split at he'
      · cases he'
        rfl
      · exact (h.charged r hin).2 e' he' hreq hg
    · refine ⟨hheld hgranted, ?_⟩
      intro e' he' _ _
      rw [hkey, Function.update_self] at he'
      cases he'
      rfl
  · intro r
    have hcount := h.createdOnce r
    rcases hes with rfl | rfl <;> simpa [List.count_append] using hcount
  · intro r
    have hcount := h.chargedOnce r
    rcases hes with rfl | rfl
    · simpa using hcount
    rw [List.count_append]
    by_cases hr : r = e.request
    · subst hr
      rw [List.count_eq_zero.mpr hnew]
      simp
    · simpa [Ne.symm hr] using hcount

omit [DecidableEq κ] in
/-- Any number of receipts may be dropped at once, as long as each of them is too old. -/
theorem Recorded.dropAll (hdrop : ∀ k, L' k = L k ∨
      (L' k = none ∧ ∀ e, L k = some e → started e.request + retention ≤ now)) :
    Recorded key started retention now H L' := by
  have hsub : ∀ k e, L' k = some e → L k = some e := by
    intro k e he
    rcases hdrop k with hsame | ⟨hnone, _⟩
    · rw [← hsame]
      exact he
    · rw [hnone] at he
      cases he
  refine ⟨fun k e he => h.held k e (hsub k e he), ?_, ?_, h.createdOnce, h.chargedOnce⟩
  · intro r hr
    rcases h.created r hr with ⟨e, he, hreq, hg⟩ | hold
    · rcases hdrop (key r) with hsame | ⟨_, hold⟩
      · exact .inl ⟨e, hsame.trans he, hreq, hg⟩
      · -- the dropped receipt is of a request that is too old by now
        rw [← hreq]
        exact .inr (hold e he)
    · exact .inr hold
  · intro r hr
    exact ⟨(h.charged r hr).1, fun e he => (h.charged r hr).2 e (hsub _ e he)⟩

theorem Recorded.drop (he : L k = some e) (hold : started e.request + retention ≤ now) :
    Recorded key started retention now H (Function.update L k none) := by
  apply h.dropAll
  intro k'
  by_cases hk : k' = k
  · subst hk
    refine .inr ⟨Function.update_self .., ?_⟩
    intro e' he'
    rw [he] at he'
    cases he'
    exact hold
  · exact .inl (Function.update_of_ne hk ..)

theorem Recorded.step (hstep : Step key started retention now L es L') :
    Recorded key started retention now (H ++ es) L' := by
  cases hstep with
  | keep => simpa using h
  | reject r hfree => simpa using h.reject hfree
  | grant r hfree hfresh => exact h.grant hfree hfresh
  | close k e _ he hgranted hopen hes => exact h.close he hgranted hopen hes
  | drop k e he hold => simpa using h.drop he hold

end Ledger

end ReceiptLedger
