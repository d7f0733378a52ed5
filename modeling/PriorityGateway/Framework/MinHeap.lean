import Mathlib.Data.List.Basic
import Mathlib.Order.WithBot
import Mathlib.Logic.Equiv.Basic

/-! # Binary Min-Heaps

    The binary heap on a slice: position `i` has its parent at `(i - 1) / 2`
    and its children at `2 i + 1` and `2 i + 2`; `push` appends and sifts up,
    `pop` moves the last item to the root and sifts down.  Items are compared
    by a key only, so two items with one key are tied and leave in the order
    the sifts happen to give.

    `MinHeap` carries its order as a field, so no client has to.  What clients
    use are the three facts at the end: a push adds one item, a pop removes
    one item, and the item popped has the least key.

    Positions outside the slice read as `⊤`.  That removes every bounds check
    from the order argument: the comparison with a missing child fails by
    itself. -/

variable {α τ : Type} [LinearOrder τ]

namespace HeapSlice

/-- The key at a position, `⊤` outside the slice. -/
def keyAt (key : α → τ) (l : List α) (i : Nat) : WithTop τ :=
  match l[i]? with
  | some a => (key a : WithTop τ)
  | none => ⊤

/-- Exchanges two positions of a slice. -/
def swap (l : List α) (i j : Nat) : List α :=
  match l[i]?, l[j]? with
  | some a, some b => (l.set i b).set j a
  | _, _ => l

/-- Sifts the item at `j` towards the root. -/
def up (key : α → τ) : Nat → List α → Nat → List α
  | 0, l, _ => l
  | fuel + 1, l, j =>
    if keyAt key l j < keyAt key l ((j - 1) / 2) then
      up key fuel (swap l ((j - 1) / 2) j) ((j - 1) / 2)
    else l

/-- The child of `i` with the smaller key, the left one on a tie. -/
def smallerChild (key : α → τ) (l : List α) (i : Nat) : Nat :=
  if keyAt key l (2 * i + 2) < keyAt key l (2 * i + 1) then 2 * i + 2 else 2 * i + 1

/-- Sifts the item at `i` towards the leaves. -/
def down (key : α → τ) : Nat → List α → Nat → List α
  | 0, l, _ => l
  | fuel + 1, l, i =>
    if keyAt key l (smallerChild key l i) < keyAt key l i then
      down key fuel (swap l i (smallerChild key l i)) (smallerChild key l i)
    else l

/-- Every item is at or after its parent. -/
def Ordered (key : α → τ) (l : List α) : Prop :=
  ∀ i, keyAt key l ((i - 1) / 2) ≤ keyAt key l i

/-! ## Swapping -/

variable {i j : Nat} {key : α → τ} {l : List α}

omit [LinearOrder τ] in
theorem keyAt_of_ge (h : l.length ≤ i) : keyAt key l i = ⊤ := by
  simp [keyAt, List.getElem?_eq_none h]

theorem lt_length_of_keyAt_lt {k : WithTop τ} (h : keyAt key l i < k) : i < l.length := by
  by_contra hi
  rw [keyAt_of_ge (by omega)] at h
  exact not_top_lt h

theorem swap_perm (l : List α) (i j : Nat) : (swap l i j).Perm l := by
  unfold swap
  split
  · next a b ha hb =>
    obtain ⟨hi, rfl⟩ := List.getElem?_eq_some_iff.mp ha
    obtain ⟨hj, rfl⟩ := List.getElem?_eq_some_iff.mp hb
    exact List.set_set_perm hi hj
  · exact List.Perm.refl l

theorem swap_length (l : List α) (i j : Nat) : (swap l i j).length = l.length :=
  (swap_perm l i j).length_eq

omit [LinearOrder τ] in
theorem keyAt_swap (hi : i < l.length) (hj : j < l.length) (x : Nat) :
    keyAt key (swap l i j) x = keyAt key l (Equiv.swap i j x) := by
  have hswap : swap l i j = (l.set i l[j]).set j l[i] := by
    simp [swap, List.getElem?_eq_getElem hi, List.getElem?_eq_getElem hj]
  by_cases hxj : x = j
  · subst hxj
    rw [Equiv.swap_apply_right, hswap]
    simp [keyAt, hi, hj]
  by_cases hxi : x = i
  · subst hxi
    rw [Equiv.swap_apply_left, hswap]
    simp [keyAt, hi, hj, List.getElem_set_ne (Ne.symm hxj)]
  · rw [Equiv.swap_apply_of_ne_of_ne hxi hxj, hswap]
    simp [keyAt, List.getElem?_set_ne (Ne.symm hxj), List.getElem?_set_ne (Ne.symm hxi)]

theorem up_perm (key : α → τ) (fuel : Nat) (l : List α) (j : Nat) : (up key fuel l j).Perm l := by
  induction fuel generalizing l j with
  | zero => exact List.Perm.refl l
  | succ fuel ih =>
    unfold up
    split
    · exact (ih _ _).trans (swap_perm _ _ _)
    · exact List.Perm.refl l

theorem down_perm (key : α → τ) (fuel : Nat) (l : List α) (i : Nat) :
    (down key fuel l i).Perm l := by
  induction fuel generalizing l i with
  | zero => exact List.Perm.refl l
  | succ fuel ih =>
    unfold down
    split
    · exact (ih _ _).trans (swap_perm _ _ _)
    · exact List.Perm.refl l

/-! ## Sifting up -/

/-- All pairs are in order except that of `j` with its parent, and the
    children of `j` are at or after its parent. -/
structure UpOrder (key : α → τ) (l : List α) (j : Nat) : Prop where
  others : ∀ x, x ≠ j → keyAt key l ((x - 1) / 2) ≤ keyAt key l x
  grand : ∀ x, (x - 1) / 2 = j → x ≠ j → keyAt key l ((j - 1) / 2) ≤ keyAt key l x

theorem UpOrder.move (h : UpOrder key l j) (hlt : keyAt key l j < keyAt key l ((j - 1) / 2))
    (hj : j < l.length) : UpOrder key (swap l ((j - 1) / 2) j) ((j - 1) / 2) := by
  have hpj : (j - 1) / 2 ≠ j := by
    intro heq
    rw [heq] at hlt
    exact lt_irrefl _ hlt
  have hp : (j - 1) / 2 < l.length := by omega
  constructor
  · intro x hx
    rw [keyAt_swap hp hj, keyAt_swap hp hj]
    by_cases hxj : x = j
    · -- the exchanged pair itself
      subst hxj
      rw [Equiv.swap_apply_left, Equiv.swap_apply_right]
      exact hlt.le
    rw [Equiv.swap_apply_of_ne_of_ne hx hxj]
    by_cases hxp : (x - 1) / 2 = j
    · rw [hxp, Equiv.swap_apply_right]
      exact h.grand x hxp hxj
    by_cases hxg : (x - 1) / 2 = (j - 1) / 2
    · rw [hxg, Equiv.swap_apply_left]
      have := h.others x hxj
      rw [hxg] at this
      exact hlt.le.trans this
    · rw [Equiv.swap_apply_of_ne_of_ne hxg hxp]
      exact h.others x hxj
  · intro x hxp hx
    rw [keyAt_swap hp hj, keyAt_swap hp hj]
    have hgrand : keyAt key l ((((j - 1) / 2) - 1) / 2) ≤ keyAt key l ((j - 1) / 2) :=
      h.others _ hpj
    have hpp : ((j - 1) / 2 - 1) / 2 ≠ j := by omega
    by_cases hroot : ((j - 1) / 2 - 1) / 2 = (j - 1) / 2
    · -- the parent is the root: its own parent is itself
      rw [hroot, Equiv.swap_apply_left]
      by_cases hxj : x = j
      · subst hxj
        rw [Equiv.swap_apply_right]
        exact hlt.le
      · rw [Equiv.swap_apply_of_ne_of_ne hx hxj]
        have := h.others x hxj
        rw [hxp] at this
        exact hlt.le.trans this
    · rw [Equiv.swap_apply_of_ne_of_ne hroot hpp]
      by_cases hxj : x = j
      · subst hxj
        rw [Equiv.swap_apply_right]
        exact hgrand
      · rw [Equiv.swap_apply_of_ne_of_ne hx hxj]
        have := h.others x hxj
        rw [hxp] at this
        exact hgrand.trans this

theorem up_ordered (key : α → τ) (fuel : Nat) (l : List α) (j : Nat) (hfuel : j ≤ fuel)
    (h : UpOrder key l j) : Ordered key (up key fuel l j) := by
  -- induction on the fuel: the position moves to its parent, which is smaller
  induction fuel generalizing l j with
  | zero =>
    intro x
    have hj : j = 0 := by omega
    by_cases hx : x = j
    · subst hx
      rw [hj]
    · exact h.others x hx
  | succ fuel ih =>
    unfold up
    split
    · next hlt =>
      have hj := lt_length_of_keyAt_lt hlt
      have hpj : (j - 1) / 2 ≠ j := by
        intro heq
        rw [heq] at hlt
        exact lt_irrefl _ hlt
      exact ih _ _ (by omega) (h.move hlt hj)
    · next hge =>
      intro x
      by_cases hx : x = j
      · subst hx
        exact not_lt.mp hge
      · exact h.others x hx

/-! ## Sifting down -/

/-- All pairs are in order except those of `i` with its children, and the
    children of `i` are at or after its parent. -/
structure DownOrder (key : α → τ) (l : List α) (i : Nat) : Prop where
  others : ∀ x, (x - 1) / 2 ≠ i ∨ x = i → keyAt key l ((x - 1) / 2) ≤ keyAt key l x
  grand : ∀ x, (x - 1) / 2 = i → x ≠ i → i ≠ 0 → keyAt key l ((i - 1) / 2) ≤ keyAt key l x

theorem smallerChild_eq (key : α → τ) (l : List α) (i : Nat) :
    smallerChild key l i = 2 * i + 1 ∨ smallerChild key l i = 2 * i + 2 := by
  unfold smallerChild
  split <;> simp

theorem smallerChild_le {x : Nat} (hx : (x - 1) / 2 = i) (hxi : x ≠ i) :
    keyAt key l (smallerChild key l i) ≤ keyAt key l x := by
  have hcases : x = 2 * i + 1 ∨ x = 2 * i + 2 := by omega
  unfold smallerChild
  split
  · next h =>
    rcases hcases with rfl | rfl
    · exact h.le
    · exact le_rfl
  · next h =>
    rcases hcases with rfl | rfl
    · exact le_rfl
    · exact not_lt.mp h

theorem DownOrder.move (h : DownOrder key l i)
    (hlt : keyAt key l (smallerChild key l i) < keyAt key l i) :
    DownOrder key (swap l i (smallerChild key l i)) (smallerChild key l i) := by
  have hc := lt_length_of_keyAt_lt hlt
  have hcase := smallerChild_eq key l i
  have hle : ∀ x, (x - 1) / 2 = i → x ≠ i →
      keyAt key l (smallerChild key l i) ≤ keyAt key l x :=
    fun x hx hxi => smallerChild_le hx hxi
  generalize smallerChild key l i = c at *
  have hi : i < l.length := by omega
  have hpc : (c - 1) / 2 = i := by omega
  have hci : c ≠ i := by omega
  constructor
  · intro x hx
    rw [keyAt_swap hi hc, keyAt_swap hi hc]
    by_cases hxc : x = c
    · subst hxc
      rw [hpc, Equiv.swap_apply_left, Equiv.swap_apply_right]
      exact hlt.le
    have hxp : (x - 1) / 2 ≠ c := by
      rcases hx with hx | hx
      · exact hx
      · exact absurd hx hxc
    by_cases hxi : x = i
    · subst hxi
      rw [Equiv.swap_apply_left]
      by_cases hx0 : x = 0
      · subst hx0
        exact le_rfl
      · have hpx : (x - 1) / 2 ≠ x := by omega
        rw [Equiv.swap_apply_of_ne_of_ne hpx hxp]
        exact h.grand c hpc hci hx0
    · rw [Equiv.swap_apply_of_ne_of_ne hxi hxc]
      by_cases hpi : (x - 1) / 2 = i
      · rw [hpi, Equiv.swap_apply_left]
        exact hle x hpi hxi
      · rw [Equiv.swap_apply_of_ne_of_ne hpi hxp]
        exact h.others x (Or.inl hpi)
  · intro x hxp hxc hc0
    rw [keyAt_swap hi hc, keyAt_swap hi hc, hpc, Equiv.swap_apply_left]
    have hxi : x ≠ i := by omega
    rw [Equiv.swap_apply_of_ne_of_ne hxi hxc]
    have := h.others x (Or.inl (by omega))
    rw [hxp] at this
    exact this

theorem down_ordered (key : α → τ) (fuel : Nat) (l : List α) (i : Nat)
    (hfuel : l.length ≤ fuel + i) (h : DownOrder key l i) : Ordered key (down key fuel l i) := by
  -- induction on the fuel: the position moves to a child, which is larger
  induction fuel generalizing l i with
  | zero =>
    intro x
    by_cases hx : (x - 1) / 2 = i ∧ x ≠ i
    · have hout : keyAt key l x = ⊤ := keyAt_of_ge (by omega)
      show keyAt key l _ ≤ keyAt key l x
      rw [hout]
      exact le_top
    · apply h.others
      by_cases hxi : x = i
      · exact Or.inr hxi
      · exact Or.inl (fun hp => hx ⟨hp, hxi⟩)
  | succ fuel ih =>
    unfold down
    split
    · next hlt =>
      have hcase := smallerChild_eq key l i
      exact ih _ _ (by rw [swap_length]; omega) (h.move hlt)
    next hge =>
    intro x
    by_cases hx : (x - 1) / 2 = i ∧ x ≠ i
    · rw [hx.1]
      exact (not_lt.mp hge).trans (smallerChild_le hx.1 hx.2)
    apply h.others
    by_cases hxi : x = i
    · exact Or.inr hxi
    · exact Or.inl (fun hp => hx ⟨hp, hxi⟩)

/-! ## The root -/

theorem Ordered.root_le (h : Ordered key l) (i : Nat) : keyAt key l 0 ≤ keyAt key l i := by
  induction i using Nat.strong_induction_on with
  | _ i ih =>
    by_cases hi : i = 0
    · subst hi; exact le_rfl
    · exact (ih ((i - 1) / 2) (by omega)).trans (h i)

end HeapSlice

/-! ## Heaps that carry their order -/

open HeapSlice in
/-- A heap: a slice whose items are in heap order of their keys. -/
structure MinHeap (α : Type) {τ : Type} [LinearOrder τ] (key : α → τ) where
  items : List α
  ordered : Ordered key items

namespace MinHeap

open HeapSlice

variable {key : α → τ}

/-- The heap without items. -/
def empty : MinHeap α key where
  items := []
  ordered := fun i => by simp [keyAt]

/-- The number of items. -/
def size (h : MinHeap α key) : Nat := h.items.length

/-- The item at the root. -/
def peek (h : MinHeap α key) : Option α := h.items.head?

variable {l : List α} {a b : α} {h h' : MinHeap α key} {limit : τ}

theorem upOrder_append (h : Ordered key l) (a : α) : UpOrder key (l ++ [a]) l.length := by
  have hkey : ∀ x, x < l.length → keyAt key (l ++ [a]) x = keyAt key l x := fun x hx => by
    simp [keyAt, List.getElem?_append_left hx]
  have hout : ∀ x, l.length < x → keyAt key (l ++ [a]) x = ⊤ := fun x hx =>
    keyAt_of_ge (by simp; omega)
  constructor
  · intro x hx
    rcases Nat.lt_or_ge x l.length with hlt | hge
    · rw [hkey x hlt, hkey _ (by omega)]
      exact h x
    · rw [hout x (by omega)]
      exact le_top
  · intro x hxp hx
    rw [hout x (by omega)]
    exact le_top

/-- Adds an item. -/
def push (h : MinHeap α key) (a : α) : MinHeap α key where
  items := up key h.items.length (h.items ++ [a]) h.items.length
  ordered := up_ordered key _ _ _ (Nat.le_refl _) (upOrder_append h.ordered a)

/-- The slice after the root was exchanged with the last item and cut off. -/
def cutRoot (l : List α) : List α := (swap l 0 (l.length - 1)).dropLast

theorem cutRoot_length (l : List α) : (cutRoot l).length = l.length - 1 := by
  simp [cutRoot, swap_length]

omit [LinearOrder τ] in
theorem keyAt_cutRoot {x : Nat} (hx : x < l.length - 1) (hx0 : x ≠ 0) :
    keyAt key (cutRoot l) x = keyAt key l x := by
  have hdrop : keyAt key (cutRoot l) x = keyAt key (swap l 0 (l.length - 1)) x := by
    have hlt : x < (swap l 0 (l.length - 1)).length := by rw [swap_length]; omega
    simp [keyAt, cutRoot, swap_length, hx, List.getElem?_eq_getElem hlt]
  rw [hdrop, keyAt_swap (by omega) (by omega), Equiv.swap_apply_of_ne_of_ne hx0 (by omega)]

theorem downOrder_cutRoot (h : Ordered key l) : DownOrder key (cutRoot l) 0 := by
  constructor
  · intro x hx
    rcases Nat.lt_or_ge x (l.length - 1) with hlt | hge
    · by_cases hx0 : x = 0
      · subst hx0; exact le_rfl
      · have hp : (x - 1) / 2 ≠ 0 := by
          rcases hx with hx | hx
          · exact hx
          · exact absurd hx hx0
        rw [keyAt_cutRoot hlt hx0, keyAt_cutRoot (by omega) hp]
        exact h x
    · have hout : keyAt key (cutRoot l) x = ⊤ := keyAt_of_ge (by rw [cutRoot_length]; exact hge)
      rw [hout]
      exact le_top
  · intro x _ _ h0
    exact absurd rfl h0

/-- Removes the root. -/
def pop (h : MinHeap α key) : Option (α × MinHeap α key) :=
  match h.items with
  | [] => none
  | a :: _ =>
    some (a, { items := down key (cutRoot h.items).length (cutRoot h.items) 0
               ordered := down_ordered key _ _ 0 (by simp) (downOrder_cutRoot h.ordered) })

/-- Removes the root when its key has been reached. -/
def popDue (h : MinHeap α key) (limit : τ) : Option (α × MinHeap α key) :=
  match h.peek with
  | none => none
  | some a => if limit < key a then none else h.pop

instance : Membership α (MinHeap α key) := ⟨fun h a => a ∈ h.items⟩

theorem mem_def : a ∈ h ↔ a ∈ h.items := Iff.rfl

@[simp] theorem not_mem_empty (a : α) : ¬ a ∈ (empty : MinHeap α key) := by
  simp [mem_def, empty]

theorem push_perm (h : MinHeap α key) (a : α) : (h.push a).items.Perm (a :: h.items) :=
  (up_perm key _ _ _).trans (List.perm_append_singleton a h.items)

@[simp] theorem mem_push : b ∈ h.push a ↔ b = a ∨ b ∈ h := by
  simp [mem_def, (push_perm h a).mem_iff]

omit [LinearOrder τ] in
theorem cutRoot_perm (a : α) (l : List α) : (a :: cutRoot (a :: l)).Perm (a :: l) := by
  have hne : swap (a :: l) 0 l.length ≠ [] := by
    intro hnil
    have := congrArg List.length hnil
    simp [swap_length] at this
  have hlast : (swap (a :: l) 0 l.length).getLast hne = a := by
    have hswap : swap (a :: l) 0 l.length =
        ((a :: l).set 0 (a :: l)[l.length]).set l.length a := by
      simp [swap]
    simp only [List.getLast_eq_getElem, hswap]
    simp
  have hsplit := List.dropLast_concat_getLast hne
  rw [hlast] at hsplit
  have hcut : cutRoot (a :: l) = (swap (a :: l) 0 l.length).dropLast := rfl
  rw [hcut]
  refine (List.perm_append_singleton a _).symm.trans ?_
  rw [hsplit]
  exact swap_perm _ _ _

theorem pop_perm (hp : h.pop = some (a, h')) : (a :: h'.items).Perm h.items := by
  obtain ⟨items, hord⟩ := h
  cases items with
  | nil => simp [pop] at hp
  | cons b l =>
    simp only [pop, Option.some.injEq, Prod.mk.injEq] at hp
    obtain ⟨rfl, rfl⟩ := hp
    exact (List.Perm.cons b (down_perm key _ _ _)).trans (cutRoot_perm b l)

theorem peek_of_pop (hp : h.pop = some (a, h')) : h.peek = some a := by
  obtain ⟨items, hord⟩ := h
  cases items with
  | nil => simp [pop] at hp
  | cons b l =>
    simp only [pop, Option.some.injEq, Prod.mk.injEq] at hp
    simp [peek, hp.1]

theorem pop_isSome_of_peek (hp : h.peek = some a) : ∃ h', h.pop = some (a, h') := by
  obtain ⟨items, hord⟩ := h
  cases items with
  | nil => simp [peek] at hp
  | cons b l =>
    simp only [peek, List.head?_cons, Option.some.injEq] at hp
    subst hp
    exact ⟨_, rfl⟩

theorem peek_none (hp : h.peek = none) (a : α) : ¬ a ∈ h := by
  rw [mem_def, List.head?_eq_none_iff.mp hp]
  simp

/-- The root has the least key. -/
theorem peek_le (hp : h.peek = some a) (hb : b ∈ h) : key a ≤ key b := by
  obtain ⟨i, hi, rfl⟩ := List.getElem_of_mem hb
  have hroot := h.ordered.root_le i
  have h0 : h.items[0]? = some a := by rw [← List.head?_eq_getElem?]; exact hp
  simp only [keyAt, h0, List.getElem?_eq_getElem hi] at hroot
  exact WithTop.coe_le_coe.mp hroot

theorem pop_size (hp : h.pop = some (a, h')) : h'.size < h.size := by
  have := (pop_perm hp).length_eq
  simp only [List.length_cons] at this
  simp only [size]
  omega

theorem mem_of_pop (hp : h.pop = some (a, h')) : b ∈ h ↔ b = a ∨ b ∈ h' := by
  simp [mem_def, ← (pop_perm hp).mem_iff]

/-- Popping what is due: the item popped is due and was in the heap. -/
theorem popDue_some (hp : h.popDue limit = some (a, h')) :
    key a ≤ limit ∧ h.pop = some (a, h') := by
  unfold popDue at hp
  rcases hpeek : h.peek with _ | b
  · simp [hpeek] at hp
  simp only [hpeek] at hp
  split at hp
  · cases hp
  next hle =>
  have := peek_of_pop hp
  rw [hpeek] at this
  cases this
  exact ⟨not_lt.mp hle, hp⟩

/-- When nothing is due, every item lies after the limit. -/
theorem popDue_none (hp : h.popDue limit = none) (hb : b ∈ h) : limit < key b := by
  unfold popDue at hp
  rcases hpeek : h.peek with _ | a
  · exact absurd hb (peek_none hpeek b)
  simp only [hpeek] at hp
  split at hp
  · next hlt => exact lt_of_lt_of_le hlt (peek_le hpeek hb)
  · obtain ⟨h', hpop⟩ := pop_isSome_of_peek hpeek
    rw [hpop] at hp
    cases hp

end MinHeap
