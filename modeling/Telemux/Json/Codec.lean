import Telemux.Json.Misfit

namespace Telemux

structure Codec (α : Type) where
  read : Value → Except Misfit α
  write : α → Value

namespace Codec

def any : Codec Value where
  read := .ok
  write := id

def text : Codec String where
  read
    | .string s => .ok s
    | v => .error (.kind v "a string")
  write := .string

def flag : Codec Bool where
  read
    | .bool b => .ok b
    | v => .error (.kind v "a boolean")
  write := .bool

/-- Whole numbers from `low` to `high`; a number with a fraction is none, even `1.0`. -/
def integer (low high : Int) (name : String) : Codec Int where
  read
    | .number (.int n) => if low ≤ n ∧ n ≤ high then .ok n else .error (.range n name)
    | v => .error (.kind v name)
  write n := .number (.int n)

def int64 : Codec Int :=
  integer (-0x8000000000000000) 0x7FFFFFFFFFFFFFFF "i64"

def nat32 : Codec Nat where
  read v := (integer 0 0xFFFFFFFF "u32").read v |>.map Int.toNat
  write n := .number (.int n)

/-- Reads items from the first on and stops at the first that does not fit. -/
def readAll (c : Codec α) : List Value → Except Misfit (List α)
  | [] => .ok []
  | v :: vs => do
    let x ← c.read v
    let xs ← readAll c vs
    .ok (x :: xs)

def list (c : Codec α) : Codec (List α) where
  read
    | .array vs => c.readAll vs
    | v => .error (.kind v "a sequence")
  write xs := .array (xs.map c.write)

end Codec

/-- A place for a field: how its value is read, what stands for a missing one, and what is written. -/
structure Slot (β : Type) where
  read : Value → Except Misfit β
  absent : Option β
  write : β → Option Value

namespace Slot

def required (c : Codec β) : Slot β where
  read := c.read
  absent := none
  write x := some (c.write x)

/-- A field that may be missing or null, and is then left out. -/
def optional (c : Codec β) : Slot (Option β) where
  read
    | .null => .ok none
    | v => (c.read v).map some
  absent := some none
  write x := x.map c.write

/-- A field with a value of its own when it is missing. It is always written. -/
def withDefault (c : Codec β) (default : β) : Slot β where
  read := c.read
  absent := some default
  write x := some (c.write x)

end Slot

/-- The declared fields of a record `σ`, in order: a function that takes their values, and what each
of them is in a given record. -/
inductive Layout (σ : Type) : Type → Type 1 where
  | make {α : Type} (f : α) : Layout σ α
  | field {β γ : Type} (front : Layout σ (β → γ)) (key : String) (slot : Slot β) (get : σ → β) :
      Layout σ γ

namespace Layout

def keys : Layout σ α → List String
  | .make _ => []
  | .field front key _ _ => front.keys ++ [key]

def size (l : Layout σ α) : Nat :=
  l.keys.length

/-- Whether a value fits the field of the given key; a key that is not declared takes any. -/
def examine (key : String) (v : Value) : Layout σ α → Except Misfit Unit
  | .make _ => .ok ()
  | .field front k slot _ => if k = key then (slot.read v).map fun _ => () else front.examine key v

def build (find : String → Option Value) : Layout σ α → Except Misfit α
  | .make f => .ok f
  | .field front key slot _ => do
    let f ← front.build find
    match find key, slot.absent with
    | some v, _ => (slot.read v).map f
    | none, some x => .ok (f x)
    | none, none => .error (.missing key)

/-- Puts the record together from values in the order of its fields, and leaves the rest of them. -/
def fill (whole : String) (vs : List Value) : Layout σ α → Except Misfit (α × List Value)
  | .make f => .ok (f, vs)
  | .field front _ slot _ => do
    let (f, rest) ← front.fill whole vs
    match rest, slot.absent with
    | v :: rest, _ => do
      let x ← slot.read v
      .ok (f x, rest)
    | [], some x => .ok (f x, [])
    | [], none => .error (.length front.size whole)

def write (x : σ) : Layout σ α → Fields
  | .make _ => []
  | .field front key slot get =>
    match slot.write (get x) with
    | some v => front.write x ++ [(key, v)]
    | none => front.write x

def examineAll (l : Layout σ α) : Fields → Except Misfit Unit
  | [] => .ok ()
  | (key, v) :: fs => do
    l.examine key v
    l.examineAll fs

/-- Reads the declared fields. A value that does not fit is reported before a missing field. -/
def readFields (l : Layout σ α) (fs : Fields) : Except Misfit α := do
  l.examineAll fs
  l.build fs.find?

def undeclared (l : Layout σ α) (fs : Fields) : Fields :=
  fs.filter fun f => f.1 ∉ l.keys

def arrayName (l : Layout σ α) (name : String) : String :=
  "struct " ++ name ++ " with " ++ String.ofList (decimal l.size)
    ++ (if l.size = 1 then " element" else " elements")

end Layout

namespace Codec

/-- A record of exactly the declared fields: others are dropped, and an array of the fields in order
is accepted as well. -/
def closedRecord (name : String) (l : Layout σ σ) : Codec σ where
  read
    | .object fs => l.readFields fs
    | .array vs => do
      let (x, rest) ← l.fill (l.arrayName name) vs
      match rest with
      | [] => .ok x
      | _ => .error (.length vs.length "fewer elements in array")
    | v => .error (.kind v ("struct " ++ name))
  write x := .object (l.write x)

/-- A record that keeps the fields it does not declare. They are written behind the declared ones. -/
def openRecord (name : String) (l : Layout σ (Fields → σ)) (extra : σ → Fields) : Codec σ where
  read
    | .object fs => (l.readFields fs).map fun f => f (l.undeclared fs)
    | v => .error (.kind v ("struct " ++ name))
  write x := .object (l.write x ++ extra x)

end Codec

end Telemux
