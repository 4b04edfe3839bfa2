import Telemux.Json.Codec

namespace Telemux

theorem exists_of_bind {ε α β : Type} {x : Except ε α} {f : α → Except ε β} {b : β}
    (h : (x >>= f) = .ok b) : ∃ a, x = .ok a ∧ f a = .ok b := by
  cases x with
  | error => cases h
  | ok a => exact ⟨a, rfl, h⟩

theorem exists_of_map {ε α β : Type} {r : Except ε α} {f : α → β} {y : β} (h : r.map f = .ok y) :
    ∃ x, r = .ok x ∧ f x = y := by
  cases r with
  | error e => cases h
  | ok x =>
    cases h
    exact ⟨x, rfl, rfl⟩

theorem ok_of_mapError {ε δ α : Type} {r : Except ε α} {f : ε → δ} {x : α} (h : r.mapError f = .ok x) :
    r = .ok x := by
  cases r with
  | error e => cases h
  | ok y =>
    cases h
    rfl

/-- What a document holds for a field of a record: what stands under its key, or at its place in a
record that is sent as an array. -/
def Value.part (key : String) (place : Nat) : Value → Option Value
  | .object fs => Fields.find? fs key
  | .array vs => vs[place]?
  | _ => none

/-- What an object holds under a key. -/
def Value.under (key : String) : Value → Option Value
  | .object fs => Fields.find? fs key
  | _ => none

/-- What stands in a field. Null counts as nothing. -/
def given (found : Option Value) : Option Value :=
  found.filter (· ≠ .null)

namespace Slot

variable {α : Type}

/-- A field gets its value from what is found for it, or else has one of its own. -/
def Gets (slot : Slot α) (found : Option Value) (x : α) : Prop :=
  match found with
  | some v => slot.read v = .ok x
  | none => slot.absent = some x

theorem gets_required {c : Codec α} {found : Option Value} {x : α} :
    (required c).Gets found x ↔ ∃ v, found = some v ∧ c.read v = .ok x := by
  cases found <;> simp [Gets, required]

theorem gets_optional {c : Codec α} {found : Option Value} {x : Option α} :
    (optional c).Gets found x ↔
      given found = none ∧ x = none ∨ ∃ v y, given found = some v ∧ c.read v = .ok y ∧ x = some y := by
  cases found with
  | none =>
    have nothing : given none = none := rfl
    simp [Gets, optional, nothing, eq_comm]
  | some v =>
    by_cases hv : v = .null
    · have nothing : given (some .null) = none := rfl
      subst hv
      simp [Gets, optional, nothing, eq_comm]
    · have something : given (some v) = some v := by simp [given, hv]
      have read : (optional c).read v = (c.read v).map some := by
        unfold optional
        cases v <;> first | rfl | exact absurd rfl hv
      simp only [Gets, read, something]
      cases hr : c.read v <;> simp [Except.map, hr, eq_comm (a := x)]

end Slot

namespace Codec

theorem text_read {v : Value} {s : String} : text.read v = .ok s ↔ v = .string s := by
  unfold text
  cases v <;> simp

theorem int64_read {v : Value} {n : Int} (h : int64.read v = .ok n) : v = .number (.int n) := by
  unfold int64 integer at h
  cases v with
  | number m =>
    cases m with
    | int m =>
      simp only at h
      split at h
      next => cases h; rfl
      next => cases h
    | double d => cases h
  | _ => cases h

theorem nat32_read {v : Value} {n : Nat} (h : nat32.read v = .ok n) : v = .number (.int n) := by
  obtain ⟨m, hm, rfl⟩ := exists_of_map h
  cases v with
  | number k =>
    cases k with
    | int k =>
      simp only [integer] at hm
      split at hm
      next range =>
        cases hm
        rw [Int.toNat_of_nonneg range.1]
      next => cases hm
    | double d => cases hm
  | _ => cases hm

end Codec

namespace Layout

variable {σ α : Type}

/-- Whether something holds of all that can be built when the field at each place gets its value from
the part with its key. -/
def Each (part : String → Nat → Option Value) : {α : Type} → Layout σ α → (α → Prop) → Prop
  | _, .make f, P => P f
  | _, .field front key slot _, P =>
    front.Each part fun g => ∀ y, slot.Gets (part key front.size) y → P (g y)

theorem each_build {find : String → Option Value} {l : Layout σ α} {x : α}
    (h : l.build find = .ok x) {P : α → Prop} (each : l.Each (fun key _ => find key) P) : P x := by
  induction l with
  | make f =>
    cases h
    exact each
  | field front key slot get ih =>
    rw [build] at h
    cases hf : front.build find with
    | error e => simp [hf, bind, Except.bind] at h
    | ok f =>
      have gets : ∃ y, slot.Gets (find key) y ∧ f y = x := by
        simp only [hf, bind, Except.bind] at h
        cases hk : find key with
        | some v => cases hr : slot.read v <;> simp_all [Slot.Gets, Except.map]
        | none => cases ha : slot.absent <;> simp_all [Slot.Gets]
      obtain ⟨y, hy, rfl⟩ := gets
      exact ih hf each y hy

/-- An array is filled in by places, and what is left of it is behind them. -/
theorem each_fill {whole : String} {vs rest : List Value} {l : Layout σ α} {x : α}
    (h : l.fill whole vs = .ok (x, rest)) :
    rest = vs.drop l.size ∧ ∀ {P : α → Prop}, l.Each (fun _ place => vs[place]?) P → P x := by
  induction l generalizing rest with
  | make f =>
    cases h
    exact ⟨rfl, fun each => each⟩
  | field front key slot get ih =>
    rw [fill] at h
    cases hf : front.fill whole vs with
    | error e => simp [hf, bind, Except.bind] at h
    | ok found =>
      obtain ⟨f, left⟩ := found
      obtain ⟨behind, all⟩ := ih hf
      have size : (field front key slot get).size = front.size + 1 := by simp [Layout.size, keys]
      have first : left.head? = vs[front.size]? := by rw [behind, List.head?_drop]
      have tail : left.tail = vs.drop (front.size + 1) := by rw [behind, List.tail_drop]
      have gets : ∃ y, slot.Gets left.head? y ∧ f y = x ∧ rest = left.tail := by
        simp only [hf, bind, Except.bind] at h
        cases left with
        | nil => cases ha : slot.absent <;> simp_all [Slot.Gets]
        | cons v more => cases hr : slot.read v <;> simp_all [Slot.Gets]
      obtain ⟨y, hy, rfl, hrest⟩ := gets
      rw [first] at hy
      exact ⟨by rw [hrest, tail, size], fun each => all each y hy⟩

end Layout

namespace Codec

variable {σ : Type} {name : String} {v : Value} {x : σ} {P : σ → Prop}

/-- The fields of a closed record come from their keys or, in an array, from their places. -/
@[elab_as_elim]
theorem of_closedRecord {l : Layout σ σ} (h : (closedRecord name l).read v = .ok x)
    (each : l.Each (fun key place => v.part key place) P) : P x := by
  unfold closedRecord at h
  cases v with
  | object fs =>
    simp only [Layout.readFields] at h
    cases he : l.examineAll fs with
    | error e => simp [he, bind, Except.bind] at h
    | ok u =>
      rw [he] at h
      exact Layout.each_build h each
  | array vs =>
    simp only [bind, Except.bind] at h
    cases hf : l.fill (l.arrayName name) vs with
    | error e => simp [hf] at h
    | ok found =>
      obtain ⟨y, rest⟩ := found
      rw [hf] at h
      cases rest with
      | nil =>
        cases h
        exact (Layout.each_fill hf).2 each
      | cons _ _ => cases h
  | _ => cases h

/-- An open record is built of an object, and what the object holds besides goes with it. -/
theorem built_of_openRecord {l : Layout σ (Fields → σ)} {extra : σ → Fields}
    (h : (openRecord name l extra).read v = .ok x) :
    ∃ fs f, v = .object fs ∧ l.build (Fields.find? fs) = .ok f ∧ x = f (l.undeclared fs) := by
  unfold openRecord at h
  cases v with
  | object fs =>
    simp only [Layout.readFields] at h
    cases he : l.examineAll fs with
    | error e => simp [he, bind, Except.bind, Except.map] at h
    | ok u =>
      cases hb : l.build (Fields.find? fs) with
      | error e => simp [he, hb, bind, Except.bind, Except.map] at h
      | ok f =>
        simp only [he, hb, bind, Except.bind, Except.map, Except.ok.injEq] at h
        exact ⟨fs, f, rfl, hb, h.symm⟩
  | _ => cases h

@[elab_as_elim]
theorem of_openRecord {l : Layout σ (Fields → σ)} {extra : σ → Fields}
    (h : (openRecord name l extra).read v = .ok x)
    (each : l.Each (fun key _ => v.under key) fun f => ∀ rest, P (f rest)) : P x := by
  obtain ⟨fs, f, rfl, built, rfl⟩ := built_of_openRecord h
  have all : ∀ rest, P (f rest) := Layout.each_build built each
  exact all _

end Codec

end Telemux
