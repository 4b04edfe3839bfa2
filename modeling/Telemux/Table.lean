namespace Telemux

/-- A finite map from natural numbers. Its entries stand in ascending order of their keys, so that two
tables with the same entries are equal. -/
structure Table (α : Type) where
  entries : List (Nat × α)
  sorted : entries.Pairwise fun x y => x.1 < y.1
  deriving DecidableEq

namespace Table

variable {α β : Type}

def lookup (k : Nat) : List (Nat × α) → Option α
  | [] => none
  | (m, x) :: rest => if m = k then some x else lookup k rest

def insertEntry (k : Nat) (v : α) : List (Nat × α) → List (Nat × α)
  | [] => [(k, v)]
  | (m, x) :: rest =>
    if k < m then (k, v) :: (m, x) :: rest
    else if k = m then (k, v) :: rest
    else (m, x) :: insertEntry k v rest

theorem mem_insertEntry {k : Nat} {v : α} {xs : List (Nat × α)} {y : Nat × α}
    (h : y ∈ insertEntry k v xs) : y = (k, v) ∨ y ∈ xs := by
  induction xs with
  | nil => exact Or.inl (List.mem_singleton.mp h)
  | cons x xs ih =>
    unfold insertEntry at h
    split at h
    next => simpa using h
    next =>
      split at h
      next =>
        rcases List.mem_cons.mp h with h | h
        · exact Or.inl h
        · exact Or.inr (List.mem_cons_of_mem _ h)
      next =>
        rcases List.mem_cons.mp h with h | h
        · exact Or.inr (h ▸ List.mem_cons_self)
        · exact (ih h).imp id (List.mem_cons_of_mem _)

theorem sorted_insertEntry (k : Nat) (v : α) {xs : List (Nat × α)}
    (h : xs.Pairwise fun x y => x.1 < y.1) :
    (insertEntry k v xs).Pairwise fun x y => x.1 < y.1 := by
  induction xs with
  | nil => simp [insertEntry]
  | cons x xs ih =>
    obtain ⟨hx, hxs⟩ := List.pairwise_cons.mp h
    unfold insertEntry
    split
    next hk =>
      refine List.pairwise_cons.mpr ⟨?_, h⟩
      intro y hy
      rcases List.mem_cons.mp hy with rfl | hy
      · exact hk
      · exact Nat.lt_trans hk (hx y hy)
    next hk =>
      split
      next he => exact List.pairwise_cons.mpr ⟨fun y hy => he ▸ hx y hy, hxs⟩
      next he =>
        refine List.pairwise_cons.mpr ⟨?_, ih hxs⟩
        intro y hy
        rcases mem_insertEntry hy with rfl | hy
        · show x.1 < k
          omega
        · exact hx y hy

def empty : Table α := ⟨[], .nil⟩

def find? (t : Table α) (k : Nat) : Option α :=
  lookup k t.entries

def contains (t : Table α) (k : Nat) : Bool :=
  (t.find? k).isSome

def size (t : Table α) : Nat :=
  t.entries.length

def keys (t : Table α) : List Nat :=
  t.entries.map Prod.fst

def insert (t : Table α) (k : Nat) (v : α) : Table α :=
  ⟨insertEntry k v t.entries, sorted_insertEntry k v t.sorted⟩

def filter (p : Nat → α → Bool) (t : Table α) : Table α :=
  ⟨t.entries.filter fun x => p x.1 x.2, t.sorted.filter _⟩

def erase (t : Table α) (k : Nat) : Table α :=
  t.filter fun m _ => m ≠ k

/-- Changes every value; keys stay as they are. -/
def map (f : Nat → α → β) (t : Table α) : Table β :=
  ⟨t.entries.map fun x => (x.1, f x.1 x.2), List.pairwise_map.mpr t.sorted⟩

def adjust (t : Table α) (k : Nat) (f : α → α) : Table α :=
  t.map fun m x => if m = k then f x else x

theorem lookup_eq_none_of_forall_lt {k : Nat} {xs : List (Nat × α)} (h : ∀ x ∈ xs, k < x.1) :
    lookup k xs = none := by
  induction xs with
  | nil => rfl
  | cons x xs ih =>
    have hx := h x List.mem_cons_self
    simp [lookup, Nat.ne_of_gt hx, ih fun y hy => h y (List.mem_cons_of_mem _ hy)]

theorem mem_of_lookup {k : Nat} {v : α} {xs : List (Nat × α)} (h : lookup k xs = some v) :
    (k, v) ∈ xs := by
  induction xs with
  | nil => cases h
  | cons x xs ih =>
    unfold lookup at h
    split at h
    next he =>
      cases h
      exact he ▸ List.mem_cons_self
    next => exact List.mem_cons_of_mem _ (ih h)

theorem lookup_of_mem {k : Nat} {v : α} {xs : List (Nat × α)}
    (hs : xs.Pairwise fun x y => x.1 < y.1) (h : (k, v) ∈ xs) : lookup k xs = some v := by
  induction xs with
  | nil => cases h
  | cons x xs ih =>
    obtain ⟨hx, hxs⟩ := List.pairwise_cons.mp hs
    rcases List.mem_cons.mp h with rfl | h
    · simp [lookup]
    · have hlt : x.1 < k := hx _ h
      simpa [lookup, Nat.ne_of_lt hlt] using ih hxs h

theorem mem_entries_iff {t : Table α} {k : Nat} {v : α} : (k, v) ∈ t.entries ↔ t.find? k = some v :=
  ⟨lookup_of_mem t.sorted, mem_of_lookup⟩

theorem lookup_insertEntry (k m : Nat) (v : α) (xs : List (Nat × α)) :
    lookup m (insertEntry k v xs) = if m = k then some v else lookup m xs := by
  induction xs with
  | nil => simp [insertEntry, lookup, eq_comm]
  | cons x xs ih =>
    unfold insertEntry
    split
    next => simp [lookup, eq_comm]
    next =>
      split
      next he =>
        subst he
        by_cases h : x.1 = m
        · simp [lookup, h]
        · simp [lookup, h, Ne.symm h]
      next he =>
        by_cases h : x.1 = m
        · have hne : m ≠ k := fun e => he (e ▸ h.symm)
          simp [lookup, h, hne]
        · simp [lookup, h, ih]

@[simp] theorem find?_empty (k : Nat) : (empty : Table α).find? k = none := rfl

theorem find?_insert (t : Table α) (k m : Nat) (v : α) :
    (t.insert k v).find? m = if m = k then some v else t.find? m :=
  lookup_insertEntry k m v t.entries

theorem find?_filter (p : Nat → α → Bool) (t : Table α) (k : Nat) :
    (t.filter p).find? k = (t.find? k).filter (p k) := by
  refine Option.ext fun v => ?_
  rw [← mem_entries_iff, Option.filter_eq_some_iff, ← mem_entries_iff]
  exact List.mem_filter

theorem find?_erase (t : Table α) (k m : Nat) :
    (t.erase k).find? m = if m = k then none else t.find? m := by
  rw [erase, find?_filter]
  by_cases h : m = k
  · cases t.find? m <;> simp [h]
  · cases t.find? m <;> simp [h]

theorem find?_map (f : Nat → α → β) (t : Table α) (k : Nat) :
    (t.map f).find? k = (t.find? k).map (f k) := by
  obtain ⟨xs, hs⟩ := t
  simp only [map, find?]
  clear hs
  induction xs with
  | nil => rfl
  | cons x xs ih =>
    by_cases h : x.1 = k
    · subst h
      simp [lookup]
    · simpa [lookup, h] using ih

theorem find?_adjust (t : Table α) (k m : Nat) (f : α → α) :
    (t.adjust k f).find? m = if m = k then (t.find? m).map f else t.find? m := by
  rw [adjust, find?_map]
  by_cases h : m = k
  · simp [h]
  · cases t.find? m <;> simp [h]

theorem mem_keys_iff {t : Table α} {k : Nat} : k ∈ t.keys ↔ t.contains k = true := by
  rw [contains, Option.isSome_iff_exists, keys, List.mem_map]
  constructor
  · rintro ⟨⟨m, v⟩, hm, rfl⟩
    exact ⟨v, mem_entries_iff.mp hm⟩
  · rintro ⟨v, hv⟩
    exact ⟨(k, v), mem_entries_iff.mpr hv, rfl⟩

theorem entries_eq_of_lookup_eq {xs ys : List (Nat × α)}
    (hx : xs.Pairwise fun x y => x.1 < y.1) (hy : ys.Pairwise fun x y => x.1 < y.1)
    (h : ∀ k, lookup k xs = lookup k ys) : xs = ys := by
  induction xs generalizing ys with
  | nil =>
    cases ys with
    | nil => rfl
    | cons y ys => simpa [lookup] using h y.1
  | cons x xs ih =>
    cases ys with
    | nil => simpa [lookup] using h x.1
    | cons y ys =>
      obtain ⟨hx0, hxs⟩ := List.pairwise_cons.mp hx
      obtain ⟨hy0, hys⟩ := List.pairwise_cons.mp hy
      have hxy : x.1 = y.1 := by
        rcases Nat.lt_trichotomy x.1 y.1 with hlt | he | hgt
        · have hn : lookup x.1 (y :: ys) = none := by
            refine lookup_eq_none_of_forall_lt fun z hz => ?_
            rcases List.mem_cons.mp hz with rfl | hz
            · exact hlt
            · exact Nat.lt_trans hlt (hy0 z hz)
          have := (h x.1).trans hn
          simp [lookup] at this
        · exact he
        · have hn : lookup y.1 (x :: xs) = none := by
            refine lookup_eq_none_of_forall_lt fun z hz => ?_
            rcases List.mem_cons.mp hz with rfl | hz
            · exact hgt
            · exact Nat.lt_trans hgt (hx0 z hz)
          have := (h y.1).symm.trans hn
          simp [lookup] at this
      have hv : x.2 = y.2 := by simpa [lookup, hxy] using h x.1
      have ht : xs = ys := by
        refine ih hxs hys fun k => ?_
        by_cases hk : x.1 = k
        · subst hk
          rw [lookup_eq_none_of_forall_lt hx0, lookup_eq_none_of_forall_lt (hxy ▸ hy0)]
        · simpa [lookup, hk, show y.1 ≠ k from hxy ▸ hk] using h k
      rw [ht, Prod.ext hxy hv]

theorem ext_find? {t u : Table α} (h : ∀ k, t.find? k = u.find? k) : t = u := by
  obtain ⟨xs, hx⟩ := t
  obtain ⟨ys, hy⟩ := u
  have := entries_eq_of_lookup_eq hx hy h
  subst this
  rfl

end Table

end Telemux
