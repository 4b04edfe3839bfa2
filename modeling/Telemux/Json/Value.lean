import Telemux.Number.Double

namespace Telemux

/-- A JSON number: whole numbers are kept apart from doubles, so `1` and `1.0` differ. -/
inductive Number where
  | int (n : Int)
  | double (x : Double)
  deriving DecidableEq

/-- A JSON value. An object is a list of fields, because the order of its keys is kept. -/
inductive Value where
  | null
  | bool (b : Bool)
  | number (n : Number)
  | string (s : String)
  | array (items : List Value)
  | object (fields : List (String × Value))

abbrev Fields := List (String × Value)

namespace Value

mutual

def beq : Value → Value → Bool
  | .null, .null => true
  | .bool a, .bool b => a = b
  | .number m, .number n => m = n
  | .string s, .string t => s = t
  | .array xs, .array ys => beqItems xs ys
  | .object fs, .object gs => beqFields fs gs
  | _, _ => false

def beqItems : List Value → List Value → Bool
  | [], [] => true
  | x :: xs, y :: ys => beq x y && beqItems xs ys
  | _, _ => false

def beqFields : Fields → Fields → Bool
  | [], [] => true
  | (k, x) :: fs, (l, y) :: gs => k = l && beq x y && beqFields fs gs
  | _, _ => false

end

mutual

theorem beq_eq_true_iff : (a b : Value) → (beq a b = true ↔ a = b)
  | .null, b => by cases b <;> simp [beq]
  | .bool _, b => by cases b <;> simp [beq]
  | .number _, b => by cases b <;> simp [beq]
  | .string _, b => by cases b <;> simp [beq]
  | .array xs, b => by cases b <;> simp [beq, beqItems_eq_true_iff xs]
  | .object fs, b => by cases b <;> simp [beq, beqFields_eq_true_iff fs]

theorem beqItems_eq_true_iff : (xs ys : List Value) → (beqItems xs ys = true ↔ xs = ys)
  | [], ys => by cases ys <;> simp [beqItems]
  | x :: xs, ys => by cases ys <;> simp [beqItems, beq_eq_true_iff x, beqItems_eq_true_iff xs]

theorem beqFields_eq_true_iff : (fs gs : Fields) → (beqFields fs gs = true ↔ fs = gs)
  | [], gs => by cases gs <;> simp [beqFields]
  | (k, x) :: fs, gs => by
    cases gs <;>
      simp [beqFields, beq_eq_true_iff x, beqFields_eq_true_iff fs, Prod.ext_iff]

end

instance : DecidableEq Value := fun a b => decidable_of_iff _ (beq_eq_true_iff a b)

def string? : Value → Option String
  | .string s => some s
  | _ => none

def nat? : Value → Option Nat
  | .number (.int (.ofNat n)) => some n
  | _ => none

mutual

/-- How deep arrays and objects are nested; a scalar has depth zero. -/
def nesting : Value → Nat
  | .array xs => nestingItems xs + 1
  | .object fs => nestingFields fs + 1
  | _ => 0

def nestingItems : List Value → Nat
  | [] => 0
  | x :: xs => max (nesting x) (nestingItems xs)

def nestingFields : Fields → Nat
  | [] => 0
  | (_, x) :: fs => max (nesting x) (nestingFields fs)

end

end Value

namespace Fields

def keys (fs : Fields) : List String :=
  fs.map Prod.fst

def find? (fs : Fields) (key : String) : Option Value :=
  match fs with
  | [] => none
  | (k, v) :: rest => if k = key then some v else find? rest key

/-- Gives a key a value: a known key keeps its place, a new one goes to the end. -/
def put (fs : Fields) (key : String) (value : Value) : Fields :=
  match fs with
  | [] => [(key, value)]
  | (k, v) :: rest => if k = key then (k, value) :: rest else (k, v) :: put rest key value

theorem find?_put_self (fs : Fields) (key : String) (value : Value) :
    find? (put fs key value) key = some value := by
  induction fs with
  | nil => simp [put, find?]
  | cons f fs ih =>
    unfold put
    split
    next h => simp [find?, h]
    next h => simpa [find?, h] using ih

theorem find?_put_of_ne {fs : Fields} {key other : String} {value : Value} (h : other ≠ key) :
    find? (put fs key value) other = find? fs other := by
  induction fs with
  | nil => simp [put, find?, Ne.symm h]
  | cons f fs ih =>
    unfold put
    split
    next hk => simp [find?, hk, Ne.symm h]
    next => simp [find?, ih]

theorem put_of_not_mem_keys {fs : Fields} {key : String} {value : Value} (h : key ∉ keys fs) :
    put fs key value = fs ++ [(key, value)] := by
  induction fs with
  | nil => rfl
  | cons f fs ih =>
    simp only [keys, List.map_cons, List.mem_cons, not_or] at h
    simp [put, Ne.symm h.1, ih h.2]

theorem keys_put_of_mem {fs : Fields} {key : String} {value : Value} (h : key ∈ keys fs) :
    keys (put fs key value) = keys fs := by
  induction fs with
  | nil => cases h
  | cons f fs ih =>
    unfold put
    split
    next => rfl
    next hne =>
      have tail : key ∈ keys fs := (List.mem_cons.mp h).resolve_left (Ne.symm hne)
      exact congrArg (f.1 :: ·) (ih tail)

theorem nodup_keys_put {fs : Fields} (h : (keys fs).Nodup) (key : String) (value : Value) :
    (keys (put fs key value)).Nodup := by
  by_cases hk : key ∈ keys fs
  · rw [keys_put_of_mem hk]
    exact h
  · rw [put_of_not_mem_keys hk, keys, List.map_append]
    refine List.nodup_append.mpr ⟨h, by simp, ?_⟩
    intro a ha b hb e
    rw [List.map_singleton, List.mem_singleton] at hb
    subst e hb
    exact hk ha

end Fields

end Telemux
