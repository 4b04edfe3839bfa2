import Mathlib.Data.List.Forall2
import Telemux.Proofs.Document
import Telemux.Proofs.Record

namespace Telemux

theorem Fields.find?_of_not_mem {fs : Fields} {key : String} (h : key ∉ keys fs) :
    find? fs key = none := by
  induction fs with
  | nil => rfl
  | cons f fs ih =>
    simp only [keys, List.map_cons, List.mem_cons, not_or] at h
    simp [find?, Ne.symm h.1, ih h.2]

namespace Slot

variable {β : Type} {c : Codec β}

/-- What is written for a value of a field gives that value back. -/
def Keeps (slot : Slot β) (y : β) : Prop :=
  slot.Gets (slot.write y) y

/-- An optional field comes back because what is written for a value is not null. -/
theorem keeps_some (solid : ∀ x, c.write x ≠ .null) {y : β} (again : c.read (c.write y) = .ok y) :
    (optional c).Keeps (some y) := by
  have visible : given (some (c.write y)) = some (c.write y) := by simp [given, solid y]
  exact gets_optional.mpr (.inr ⟨_, y, visible, again, rfl⟩)

theorem keeps_none : (optional c).Keeps none :=
  gets_optional.mpr (.inl ⟨rfl, rfl⟩)

end Slot

namespace Layout

variable {σ α : Type}

/-- The values of the declared fields, in their order. -/
def Values : {α : Type} → Layout σ α → Type
  | _, .make _ => Unit
  | _, @Layout.field _ β _ front _ _ _ => front.Values × β

def assemble : {α : Type} → (l : Layout σ α) → l.Values → α
  | _, .make f, _ => f
  | _, .field front _ _ _, ys => front.assemble ys.1 ys.2

def values (x : σ) : {α : Type} → (l : Layout σ α) → l.Values
  | _, .make _ => ()
  | _, .field front _ _ get => (front.values x, get x)

/-- Every field gets its value from the part with its key. -/
def GetsAll (part : String → Nat → Option Value) : {α : Type} → (l : Layout σ α) → l.Values → Prop
  | _, .make _, _ => True
  | _, .field front key slot _, ys => front.GetsAll part ys.1 ∧ slot.Gets (part key front.size) ys.2

def Keeps : {α : Type} → (l : Layout σ α) → l.Values → Prop
  | _, .make _, _ => True
  | _, .field front _ slot _, ys => front.Keeps ys.1 ∧ slot.Keeps ys.2

theorem each_mono {part : String → Nat → Option Value} {l : Layout σ α} {P Q : α → Prop}
    (h : l.Each part P) (imp : ∀ a, P a → Q a) : l.Each part Q := by
  induction l with
  | make f => exact imp f h
  | field front key slot get ih => exact ih h fun g hg y hy => imp (g y) (hg y hy)

theorem each_values (part : String → Nat → Option Value) (l : Layout σ α) :
    l.Each part fun a => ∃ ys, l.GetsAll part ys ∧ a = l.assemble ys := by
  induction l with
  | make f => exact ⟨(), trivial, rfl⟩
  | field front key slot get ih =>
    have each : front.Each part fun g => ∀ y, slot.Gets (part key front.size) y →
        ∃ ys, (field front key slot get).GetsAll part ys ∧ g y = (field front key slot get).assemble ys := by
      refine each_mono ih fun g hg y hy => ?_
      obtain ⟨ys, all, rfl⟩ := hg
      exact ⟨(ys, y), ⟨all, hy⟩, rfl⟩
    exact each

/-- Values that are found are enough to build a record. -/
theorem build_of_getsAll {find : String → Option Value} {l : Layout σ α} {ys : l.Values}
    (h : l.GetsAll (fun key _ => find key) ys) : l.build find = .ok (l.assemble ys) := by
  induction l with
  | make f => rfl
  | field front key slot get ih =>
    obtain ⟨all, last⟩ := h
    rw [build, ih all]
    simp only [bind, Except.bind]
    cases hk : find key with
    | some v =>
      have read : slot.read v = .ok ys.2 := by simpa [Slot.Gets, hk] using last
      simp only [read]
      rfl
    | none =>
      have absent : slot.absent = some ys.2 := by simpa [Slot.Gets, hk] using last
      simp only [absent]
      rfl

section Write

variable {x : σ} {l : Layout σ α}

theorem keys_field {β : Type} (front : Layout σ (β → α)) (key : String) (slot : Slot β) (get : σ → β) :
    (field front key slot get).keys = front.keys ++ [key] := rfl

theorem write_field {β : Type} (x : σ) (front : Layout σ (β → α)) (key : String) (slot : Slot β)
    (get : σ → β) : (field front key slot get).write x =
      front.write x ++ ((slot.write (get x)).map fun v => (key, v)).toList := by
  rw [write]
  cases slot.write (get x) with
  | some v => rfl
  | none => exact (List.append_nil _).symm

/-- The fields are written in their order, and some are left out. -/
theorem keys_write_sublist (x : σ) (l : Layout σ α) : (Fields.keys (l.write x)).Sublist l.keys := by
  induction l with
  | make f => exact List.Sublist.refl []
  | field front key slot get ih =>
    rw [write_field, Fields.keys, List.map_append]
    refine ih.append ?_
    cases slot.write (get x) with
    | some v => exact List.Sublist.refl [key]
    | none => exact List.nil_sublist [key]

theorem find?_write_of_not_mem (x : σ) {key : String} (h : key ∉ l.keys) :
    Fields.find? (l.write x) key = none :=
  Fields.find?_of_not_mem fun mem => h ((keys_write_sublist x l).mem mem)

/-- The written fields are found again as long as fields of other keys stand behind them. -/
theorem getsAll_write (distinct : l.keys.Nodup) (keeps : l.Keeps (l.values x)) {rest : Fields}
    (apart : ∀ key ∈ l.keys, Fields.find? rest key = none) :
    l.GetsAll (fun key _ => Fields.find? (l.write x ++ rest) key) (l.values x) := by
  induction l generalizing rest with
  | make f => trivial
  | field front key slot get ih =>
    rw [keys_field] at distinct apart
    obtain ⟨distinct, -, fresh⟩ := List.nodup_append.mp distinct
    have other : ∀ k ∈ front.keys, k ≠ key := fun k hk => fresh k hk key List.mem_cons_self
    have behind : ∀ k, Fields.find? (((slot.write (get x)).map fun v => (key, v)).toList ++ rest) k =
        if k = key then slot.write (get x) else Fields.find? rest k := by
      intro k
      by_cases same : k = key
      · subst same
        have absent := apart k (List.mem_append_right _ List.mem_cons_self)
        cases slot.write (get x) <;> simp [Fields.find?, absent]
      · cases slot.write (get x) <;> simp [Fields.find?, same, Ne.symm same]
    rw [write_field, List.append_assoc]
    refine ⟨ih distinct keeps.1 fun k hk => ?_, ?_⟩
    · rw [behind, if_neg (other k hk)]
      exact apart k (List.mem_append_left _ hk)
    · have new : key ∉ front.keys := fun mem => other key mem rfl
      have found : Fields.find? (front.write x ++
          (((slot.write (get x)).map fun v => (key, v)).toList ++ rest)) key = slot.write (get x) := by
        rw [Fields.find?_append, find?_write_of_not_mem x new, Option.none_or, behind, if_pos rfl]
      have last : slot.Keeps (get x) := keeps.2
      rw [Slot.Keeps, ← found] at last
      exact last

theorem examine_of_not_mem {key : String} (h : key ∉ l.keys) (v : Value) : l.examine key v = .ok () := by
  induction l with
  | make f => rfl
  | field front k slot get ih =>
    rw [keys_field, List.mem_append, List.mem_singleton, not_or] at h
    rw [examine, if_neg (Ne.symm h.2), ih h.1]

theorem examineAll_eq_ok {fs : Fields} :
    l.examineAll fs = .ok () ↔ ∀ f ∈ fs, l.examine f.1 f.2 = .ok () := by
  induction fs with
  | nil => simp [examineAll]
  | cons f fs ih =>
    simp only [examineAll, List.forall_mem_cons, ← ih]
    cases l.examine f.1 f.2 <;> simp [bind, Except.bind]

theorem examine_write (distinct : l.keys.Nodup) (keeps : l.Keeps (l.values x)) :
    ∀ f ∈ l.write x, l.examine f.1 f.2 = .ok () := by
  induction l with
  | make f => exact nofun
  | field front key slot get ih =>
    rw [keys_field] at distinct
    obtain ⟨distinct, -, fresh⟩ := List.nodup_append.mp distinct
    intro f hf
    rw [write_field, List.mem_append] at hf
    rcases hf with hf | hf
    · have mem : f.1 ∈ front.keys := (keys_write_sublist x front).mem (List.mem_map_of_mem hf)
      rw [examine, if_neg (Ne.symm (fresh f.1 mem key List.mem_cons_self))]
      exact ih distinct keeps.1 f hf
    · cases hw : slot.write (get x) with
      | none => simp [hw] at hf
      | some v =>
        have last : slot.Keeps (get x) := keeps.2
        have read : slot.read v = .ok (get x) := by simpa [Slot.Keeps, Slot.Gets, hw] using last
        obtain rfl : f = (key, v) := by simpa [hw] using hf
        rw [examine, if_pos rfl, read]
        rfl

theorem readFields_write (distinct : l.keys.Nodup) (keeps : l.Keeps (l.values x)) {rest : Fields}
    (apart : ∀ f ∈ rest, f.1 ∉ l.keys) :
    l.readFields (l.write x ++ rest) = .ok (l.assemble (l.values x)) := by
  have fit : l.examineAll (l.write x ++ rest) = .ok () := by
    refine examineAll_eq_ok.mpr fun f hf => ?_
    rcases List.mem_append.mp hf with hf | hf
    · exact examine_write distinct keeps f hf
    · exact examine_of_not_mem (apart f hf) f.2
  have unused : ∀ key ∈ l.keys, Fields.find? rest key = none := by
    intro key hk
    refine Fields.find?_of_not_mem fun mem => ?_
    obtain ⟨f, hf, rfl⟩ := List.mem_map.mp mem
    exact apart f hf hk
  unfold readFields
  rw [fit]
  exact build_of_getsAll (getsAll_write distinct keeps unused)

theorem undeclared_write {rest : Fields} (apart : ∀ f ∈ rest, f.1 ∉ l.keys) :
    l.undeclared (l.write x ++ rest) = rest := by
  have declared : (l.write x).filter (fun f => decide (f.1 ∉ l.keys)) = [] := by
    refine List.filter_eq_nil_iff.mpr fun f hf => ?_
    have mem : f.1 ∈ l.keys := (keys_write_sublist x l).mem (List.mem_map_of_mem hf)
    simpa using mem
  have others : rest.filter (fun f => decide (f.1 ∉ l.keys)) = rest :=
    List.filter_eq_self.mpr fun f hf => by simpa using apart f hf
  rw [undeclared, List.filter_append, declared, others, List.nil_append]

end Write

end Layout

namespace Codec

theorem readAll_eq_ok_iff {α : Type} {c : Codec α} {vs : List Value} {xs : List α} :
    c.readAll vs = .ok xs ↔ List.Forall₂ (fun v x => c.read v = .ok x) vs xs := by
  constructor
  · intro h
    induction vs generalizing xs with
    | nil =>
      cases h
      exact .nil
    | cons v vs ih =>
      obtain ⟨y, hv, h⟩ := exists_of_bind h
      obtain ⟨ys, hvs, h⟩ := exists_of_bind h
      cases h
      exact .cons hv (ih hvs)
  · intro h
    induction h with
    | nil => rfl
    | cons hv _ ih => simp only [readAll, hv, ih, bind, Except.bind]

theorem list_read_write {α : Type} {c : Codec α} {xs : List α} :
    c.list.read (c.list.write xs) = .ok xs ↔ ∀ x ∈ xs, c.read (c.write x) = .ok x := by
  have items : c.list.read (c.list.write xs) = c.readAll (xs.map c.write) := rfl
  rw [items, readAll_eq_ok_iff, List.forall₂_map_left_iff, List.forall₂_same]

variable {σ : Type} {name : String} {v : Value} {x : σ}

theorem values_of_closedRecord {l : Layout σ σ} (h : (closedRecord name l).read v = .ok x) :
    ∃ ys, l.GetsAll (fun key place => v.part key place) ys ∧ x = l.assemble ys :=
  of_closedRecord h (l.each_values _)

theorem values_of_openRecord {l : Layout σ (Fields → σ)} {extra : σ → Fields}
    (h : (openRecord name l extra).read v = .ok x) : ∃ fs ys, v = .object fs ∧
      l.GetsAll (fun key _ => Fields.find? fs key) ys ∧ x = l.assemble ys (l.undeclared fs) := by
  obtain ⟨fs, f, rfl, built, rfl⟩ := built_of_openRecord h
  obtain ⟨ys, all, rfl⟩ := Layout.each_build built (l.each_values _)
  exact ⟨fs, ys, rfl, all, rfl⟩

theorem read_write_closedRecord {l : Layout σ σ} (distinct : l.keys.Nodup)
    (keeps : l.Keeps (l.values x)) :
    (closedRecord name l).read ((closedRecord name l).write x) = .ok (l.assemble (l.values x)) := by
  have nothing : ∀ f ∈ ([] : Fields), f.1 ∉ l.keys := nofun
  have read := Layout.readFields_write distinct keeps nothing
  rw [List.append_nil] at read
  exact read

theorem read_write_openRecord {l : Layout σ (Fields → σ)} {extra : σ → Fields}
    (distinct : l.keys.Nodup) (keeps : l.Keeps (l.values x)) (apart : ∀ f ∈ extra x, f.1 ∉ l.keys) :
    (openRecord name l extra).read ((openRecord name l extra).write x) =
      .ok (l.assemble (l.values x) (extra x)) := by
  unfold openRecord
  simp only [Layout.readFields_write distinct keeps apart, Layout.undeclared_write apart, Except.map]

end Codec

end Telemux
