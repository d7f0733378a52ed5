import Mathlib.Data.Finset.Card
import Mathlib.Data.List.AList
import Mathlib.Data.List.Perm.Subperm

/-! # Keyed Tables

    A finite table of rows with a unique key.  The same type stands for an
    in-memory map and for a database table with a primary key, so both use
    the same lemmas.  The uniqueness of keys is part of the type (`AList`);
    lookups, insertion and erasure are Mathlib's.

    What is added here is counting: how many rows satisfy a predicate, and
    how that number moves when one row is inserted, replaced or erased.  The
    general comparison rule is `count_le_count`: a table whose counted rows
    all have a counted counterpart under the same key is no larger. -/

/-- A table of `ρ` rows with key type `κ`. -/
abbrev Table (κ ρ : Type) : Type := AList (fun _ : κ => ρ)

namespace Table

variable {κ ρ : Type}

/-- The number of rows. -/
def size (t : Table κ ρ) : Nat := t.entries.length

/-- The number of rows that satisfy `p`. -/
def count (p : κ → ρ → Bool) (t : Table κ ρ) : Nat :=
  t.entries.countP (fun e => p e.1 e.2)

/-- The table of the rows that satisfy `p`. -/
def filter (p : κ → ρ → Bool) (t : Table κ ρ) : Table κ ρ where
  entries := t.entries.filter (fun e => p e.1 e.2)
  nodupKeys := t.nodupKeys.sublist List.filter_sublist

/-- Rewrites every row, keeping its key. -/
def mapRows (f : κ → ρ → ρ) (t : Table κ ρ) : Table κ ρ where
  entries := t.entries.map (fun e => ⟨e.1, f e.1 e.2⟩)
  nodupKeys := t.nodupKeys.map₂ f

variable [DecidableEq κ]

/-! ## Lookups -/

variable {k k' : κ} {r r' : ρ} {t : Table κ ρ} {p : κ → ρ → Bool}

theorem lookup_eq_some_iff : t.lookup k = some r ↔ (⟨k, r⟩ : Σ _ : κ, ρ) ∈ t.entries :=
  AList.mem_lookup_iff

theorem lookup_insert_eq (k k' : κ) (r : ρ) (t : Table κ ρ) :
    (t.insert k r).lookup k' = if k' = k then some r else t.lookup k' := by
  split
  · next h => subst h; exact AList.lookup_insert t
  · next h => exact AList.lookup_insert_ne h

theorem lookup_erase_eq (k k' : κ) (t : Table κ ρ) :
    (t.erase k).lookup k' = if k' = k then none else t.lookup k' := by
  split
  · next h => subst h; exact AList.lookup_erase k' t
  · next h => exact AList.lookup_erase_ne h

/-- A row after an insertion is the new one or an old one. -/
theorem lookup_insert_cases (h : (t.insert k r).lookup k' = some r') :
    (k' = k ∧ r' = r) ∨ (k' ≠ k ∧ t.lookup k' = some r') := by
  rw [lookup_insert_eq] at h
  split at h
  · next heq => exact .inl ⟨heq, (Option.some.inj h).symm⟩
  · next hne => exact .inr ⟨hne, h⟩

/-- What holds of the new row and of the old ones holds of all. -/
theorem forall_insert {P : κ → ρ → Prop} (hnew : P k r)
    (hold : ∀ k' r', t.lookup k' = some r' → P k' r') (k' : κ) (r' : ρ)
    (h : (t.insert k r).lookup k' = some r') : P k' r' := by
  rcases lookup_insert_cases h with ⟨rfl, rfl⟩ | ⟨-, h⟩
  · exact hnew
  · exact hold k' r' h

theorem lookup_of_erase (h : (t.erase k).lookup k' = some r) : k' ≠ k ∧ t.lookup k' = some r := by
  rw [lookup_erase_eq] at h
  split at h
  · cases h
  · next hne => exact ⟨hne, h⟩

theorem lookup_filter (p : κ → ρ → Bool) (k : κ) (t : Table κ ρ) :
    (filter p t).lookup k = (t.lookup k).filter (p k) := by
  ext r
  rw [lookup_eq_some_iff, Option.filter_eq_some_iff, lookup_eq_some_iff]
  simp [filter, List.mem_filter]

theorem lookup_mapRows (f : κ → ρ → ρ) (k : κ) (t : Table κ ρ) :
    (mapRows f t).lookup k = (t.lookup k).map (f k) :=
  List.dlookup_map₂ k

/-! ## Sizes -/

theorem erase_of_none (h : t.lookup k = none) : t.erase k = t :=
  AList.ext (List.kerase_of_notMem_keys (AList.lookup_eq_none.mp h))

theorem size_insert_of_none (h : t.lookup k = none) : size (t.insert k r) = size t + 1 := by
  show size (t.erase k) + 1 = _
  rw [erase_of_none h]

theorem size_erase_of_some (h : t.lookup k = some r) : size (t.erase k) + 1 = size t := by
  have hmem : k ∈ t.entries.keys := AList.mem_keys.mp (AList.lookup_isSome.mp (by simp [h]))
  have hlen : (t.erase k).entries.keys.length = (t.entries.keys.erase k).length := by
    rw [show (t.erase k).entries.keys = t.entries.keys.erase k from AList.keys_erase k t]
  have hkeys : ∀ l : List (Σ _ : κ, ρ), l.keys.length = l.length := fun l => by
    simp [List.keys]
  have hpos : 0 < t.entries.keys.length := List.length_pos_of_mem hmem
  rw [hkeys, List.length_erase_of_mem hmem, hkeys] at hlen
  rw [hkeys] at hpos
  unfold size
  omega

/-! ## Counting -/

omit [DecidableEq κ] in
theorem count_eq_keys_length (p : κ → ρ → Bool) (t : Table κ ρ) :
    count p t = (filter p t).keys.length := by
  simp [count, filter, AList.keys, List.keys, List.countP_eq_length_filter]

/-- **Comparison rule**: if every row counted by `p` has a row counted by `q`
    under the same key, the first count is no larger. -/
theorem count_le_count {ρ' : Type} {q : κ → ρ' → Bool} {u : Table κ ρ'}
    (h : ∀ k r, t.lookup k = some r → p k r = true →
      ∃ r', u.lookup k = some r' ∧ q k r' = true) : count p t ≤ count q u := by
  rw [count_eq_keys_length, count_eq_keys_length]
  have hsub : (filter p t).keys ⊆ (filter q u).keys := by
    intro k hk
    have hk' : ((filter p t).lookup k).isSome := AList.lookup_isSome.mpr (AList.mem_keys.mpr hk)
    rw [lookup_filter, Option.isSome_iff_exists] at hk'
    obtain ⟨r, hr⟩ := hk'
    rw [Option.filter_eq_some_iff] at hr
    obtain ⟨r', hr', hq⟩ := h k r hr.1 hr.2
    apply AList.mem_keys.mp
    apply AList.lookup_isSome.mp
    rw [lookup_filter, hr', Option.filter_some, hq]
    rfl
  exact (List.subperm_of_subset (filter p t).keys_nodup hsub).length_le

variable {q : κ → ρ → Bool}

theorem count_congr (h : ∀ k r, t.lookup k = some r → p k r = q k r) : count p t = count q t := by
  apply Nat.le_antisymm
  · exact count_le_count (fun k r hr hp => ⟨r, hr, by rw [← h k r hr]; exact hp⟩)
  · exact count_le_count (fun k r hr hq => ⟨r, hr, by rw [h k r hr]; exact hq⟩)

/-- Erasing a row takes its own contribution away. -/
theorem count_erase_of_some (h : t.lookup k = some r) :
    count p t = count p (t.erase k) + (if p k r then 1 else 0) := by
  obtain ⟨l, hl⟩ := t
  have hmem : (⟨k, r⟩ : Σ _ : κ, ρ) ∈ l := lookup_eq_some_iff.mp h
  show l.countP _ = (l.kerase k).countP _ + _
  induction l with
  | nil => cases hmem
  | cons e l ih =>
    have hl' := List.nodupKeys_of_nodupKeys_cons hl
    by_cases hk : k = e.1
    · have he : e = ⟨k, r⟩ := List.NodupKeys.eq_of_fst_eq hl (by simp) hmem hk.symm
      subst he
      rw [List.kerase_cons_eq hk, List.countP_cons]
    have hmem' : (⟨k, r⟩ : Σ _ : κ, ρ) ∈ l := by
      rcases List.mem_cons.mp hmem with heq | hin
      · exact absurd (congrArg Sigma.fst heq) hk
      · exact hin
    rw [List.kerase_cons_ne hk, List.countP_cons, List.countP_cons,
      ih hl' (lookup_eq_some_iff.mpr hmem') hmem']
    omega

theorem count_insert_of_none (h : t.lookup k = none) :
    count p (t.insert k r) = count p t + (if p k r then 1 else 0) := by
  unfold count
  rw [AList.entries_insert_of_notMem (AList.lookup_eq_none.mp h), List.countP_cons]

/-- Replacing a row exchanges its contribution. -/
theorem count_replace (h : t.lookup k = some r) (r' : ρ) :
    count p (t.insert k r') + (if p k r then 1 else 0) =
      count p t + (if p k r' then 1 else 0) := by
  have h' : (t.insert k r').lookup k = some r' := AList.lookup_insert t
  have herase : (t.insert k r').erase k = t.erase k := by
    apply AList.ext
    show (t.insert k r').entries.kerase k = (t.entries).kerase k
    exact List.kerase_cons_eq rfl
  have hold := count_erase_of_some (p := p) h
  have hnew := count_erase_of_some (p := p) h'
  rw [herase] at hnew
  omega

/-- Replacing a row by one that is counted alike leaves the count as it was. -/
theorem count_insert_of_some (h : t.lookup k = some r) (hp : p k r' = p k r) :
    count p (t.insert k r') = count p t := by
  have hreplace := count_replace (p := p) h r'
  rw [hp] at hreplace
  omega

theorem count_pos_of_lookup (h : t.lookup k = some r) (hp : p k r = true) : 0 < count p t := by
  have := count_erase_of_some (p := p) h
  simp [hp] at this
  omega

omit [DecidableEq κ] in
/-- Rows split into those that satisfy a second predicate and those that do not. -/
theorem count_split (t : Table κ ρ) :
    count p t = count (fun k r => p k r && q k r) t + count (fun k r => p k r && !q k r) t := by
  unfold count
  induction t.entries with
  | nil => rfl
  | cons e l ih =>
    simp only [List.countP_cons, ih]
    cases p e.1 e.2 <;> cases q e.1 e.2 <;> simp <;> omega

/-! ## Tallies -/

section Tally

variable {β : Type} [DecidableEq β] {m : β → Int} {key : ρ → Option β} {b : β}

/-- `m` counts the rows by their keys; a row without one is not counted. -/
def Tally (m : β → Int) (key : ρ → Option β) (t : Table κ ρ) : Prop :=
  ∀ b, m b = count (fun _ r => decide (key r = some b)) t

omit [DecidableEq κ] in
theorem Tally.nonneg (h : Tally m key t) (b : β) : 0 ≤ m b := by
  rw [h b]
  exact Int.natCast_nonneg _

theorem Tally.insert (h : Tally m key t) (hk : t.lookup k = none) (hkey : key r = some b) :
    Tally (Function.update m b (m b + 1)) key (t.insert k r) := by
  intro c
  rw [count_insert_of_none hk, Function.update_apply, hkey]
  split
  · next hc => simp [hc, h b]
  · next hc => simp [Ne.symm hc, h c]

theorem Tally.erase (h : Tally m key t) (hk : t.lookup k = some r) (hkey : key r = some b) :
    Tally (Function.update m b (m b - 1)) key (t.erase k) := by
  intro c
  have hcount := h c
  rw [count_erase_of_some hk, hkey] at hcount
  rw [Function.update_apply]
  split
  · next hc => subst hc; simp [hcount]
  · next hc => simpa [Ne.symm hc] using hcount

theorem Tally.replace (h : Tally m key t) (hk : t.lookup k = some r) (hkey : key r' = key r) :
    Tally m key (t.insert k r') := by
  intro c
  rw [h c, count_insert_of_some hk (by rw [hkey])]

end Tally

/-! ## Projections

    A table seen from outside: the finite set of key and value pairs that its
    rows project to, and the multiset of the values of some of its rows.
    Both forget the order of the rows, so two tables that store the same
    facts in different rows can be compared by equality. -/

section Projections

variable {β : Type}

/-- The values of the rows that satisfy `p`. -/
def values (p : κ → ρ → Bool) (g : ρ → β) (t : Table κ ρ) : Multiset β :=
  ((t.entries.filter (fun e => p e.1 e.2)).map (fun e => g e.2) : List β)

omit [DecidableEq κ] in
theorem card_values (p : κ → ρ → Bool) (g : ρ → β) (t : Table κ ρ) :
    (values p g t).card = count p t := by
  simp [values, count, List.countP_eq_length_filter]

variable {g : ρ → β} {k : κ} {p : κ → ρ → Bool} {t : Table κ ρ} {b : β}

theorem values_insert_of_none {r : ρ} (h : t.lookup k = none) (hp : p k r = true) :
    values p g (t.insert k r) = g r ::ₘ values p g t := by
  unfold values
  rw [AList.entries_insert_of_notMem (AList.lookup_eq_none.mp h), List.filter_cons, if_pos hp]
  rfl

omit [DecidableEq κ] in
theorem values_filter (keep : β → Bool) (h : ∀ k r, p k r = true → q k r = keep (g r)) :
    values p g (filter q t) = (values p g t).filter (fun b => keep b = true) := by
  unfold values filter
  rw [Multiset.filter_coe, List.filter_map, List.filter_filter, List.filter_filter]
  congr 2
  apply List.filter_congr
  intro e _
  cases hp : p e.1 e.2 with
  | false => simp
  | true => simp [h e.1 e.2 hp]

omit [DecidableEq κ] in
theorem card_filter_values (p : κ → ρ → Bool) (g : ρ → β) (keep : β → Bool) (t : Table κ ρ) :
    ((values p g t).filter (fun b => keep b = true)).card
      = count (fun k r => p k r && keep (g r)) t := by
  rw [← values_filter (q := fun _ r => keep (g r)) keep (fun _ _ _ => rfl), card_values]
  unfold count filter
  rw [List.countP_filter]

theorem mem_values : b ∈ values p g t ↔ ∃ k r, t.lookup k = some r ∧ p k r = true ∧ g r = b := by
  simp only [values, Multiset.mem_coe, List.mem_map, List.mem_filter]
  constructor
  · rintro ⟨⟨k, r⟩, ⟨hmem, hp⟩, hg⟩
    exact ⟨k, r, lookup_eq_some_iff.mpr hmem, hp, hg⟩
  · rintro ⟨k, r, hr, hp, hg⟩
    exact ⟨⟨k, r⟩, ⟨lookup_eq_some_iff.mp hr, hp⟩, hg⟩

variable [DecidableEq β]

/-- The key and value pairs of the rows that have a value. -/
def project (f : κ → ρ → Option β) (t : Table κ ρ) : Finset (κ × β) :=
  (t.entries.filterMap (fun e => (f e.1 e.2).map (Prod.mk e.1))).toFinset

variable {f : κ → ρ → Option β}

@[simp] theorem mem_project {x : κ × β} :
    x ∈ project f t ↔ ∃ r, t.lookup x.1 = some r ∧ f x.1 r = some x.2 := by
  obtain ⟨k, b⟩ := x
  simp only [project, List.mem_toFinset, List.mem_filterMap, Option.map_eq_some_iff,
    Prod.mk.injEq]
  constructor
  · rintro ⟨⟨k', r⟩, hmem, b', hf, rfl, rfl⟩
    exact ⟨r, lookup_eq_some_iff.mpr hmem, hf⟩
  · rintro ⟨r, hr, hf⟩
    exact ⟨⟨k, r⟩, lookup_eq_some_iff.mp hr, b, hf, rfl, rfl⟩

theorem mem_project_insert :
    (k', b) ∈ project f (t.insert k r) ↔
      if k' = k then f k r = some b else (k', b) ∈ project f t := by
  rw [mem_project, mem_project]
  dsimp only
  rw [lookup_insert_eq]
  split
  · next heq => simp [heq]
  · rfl

/-- A key has at most one value. -/
theorem project_unique {b' : β} (h : (k, b) ∈ project f t)
    (h' : (k, b') ∈ project f t) : b = b' := by
  obtain ⟨r, hr, hf⟩ := mem_project.mp h
  obtain ⟨r', hr', hf'⟩ := mem_project.mp h'
  simp only [hr, Option.some.injEq] at hr'
  subst hr'
  simpa [hf] using hf'

theorem card_project (f : κ → ρ → Option β) (t : Table κ ρ) :
    (project f t).card = count (fun k r => (f k r).isSome) t := by
  unfold project count
  rw [List.toFinset_card_of_nodup, List.length_filterMap_eq_countP]
  · congr 1
    funext e
    simp
  -- pairs with different keys differ
  apply List.Nodup.of_map Prod.fst
  have hsub : ((t.entries.filterMap (fun e => (f e.1 e.2).map (Prod.mk e.1))).map
      Prod.fst).Sublist t.entries.keys := by
    induction t.entries with
    | nil => exact List.Sublist.slnil
    | cons e es ih =>
      cases hf : f e.1 e.2 with
      | none => simpa [hf] using ih.cons e.1
      | some b => simpa [hf] using ih.cons_cons e.1
  exact List.Nodup.sublist hsub t.nodupKeys

/-- Erasing a key with a value leaves one pair fewer. -/
theorem card_filter_ne {s : Finset (κ × β)} (h : (k, b) ∈ s) (unique : ∀ b', (k, b') ∈ s → b' = b) :
    (s.filter (fun x => x.1 ≠ k)).card + 1 = s.card := by
  have herase : s.filter (fun x => x.1 ≠ k) = s.erase (k, b) := by
    ext ⟨k', b'⟩
    simp only [Finset.mem_filter, Finset.mem_erase, ne_eq, Prod.mk.injEq, not_and]
    constructor
    · rintro ⟨hmem, hne⟩
      exact ⟨fun heq => absurd heq hne, hmem⟩
    rintro ⟨hne, hmem⟩
    refine ⟨hmem, ?_⟩
    rintro rfl
    exact hne rfl (unique b' hmem)
  rw [herase]
  exact Finset.card_erase_add_one h

end Projections

end Table
