import Telemux.Table

namespace Telemux

/-- A request that waits for its answer: the generation of the link it was written to, and what the
answer is for. -/
structure Pending (α : Type) where
  sequence : Nat
  generation : Nat
  purpose : α
  deriving DecidableEq

/-- The requests that wait for their answers. Sequences start at one and are never given twice. They are
natural numbers, which agree with a counter of sixty-four bits below 2^64. -/
structure Correlator (α : Type) where
  next : Nat := 1
  pending : Table (Pending α) := .empty
  deriving DecidableEq

namespace Correlator

variable {α : Type}

def register (c : Correlator α) (generation : Nat) (purpose : α) : Correlator α :=
  ⟨c.next + 1, c.pending.insert c.next ⟨c.next, generation, purpose⟩⟩

def take (c : Correlator α) (sequence : Nat) : Option (Pending α × Correlator α) :=
  (c.pending.find? sequence).map fun p => (p, { c with pending := c.pending.erase sequence })

/-- The requests of a link and of the links before it, in the order of their sequences. -/
def upTo (c : Correlator α) (generation : Nat) : List (Pending α) :=
  (c.pending.entries.map Prod.snd).filter (·.generation ≤ generation)

def drain (c : Correlator α) (generation : Nat) : List (Pending α) × Correlator α :=
  (c.upTo generation,
    { c with pending := c.pending.filter fun _ p => generation < p.generation })

/-- Takes requests one after the other. -/
def takeEach (c : Correlator α) : List Nat → List (Pending α) × Correlator α
  | [] => ([], c)
  | s :: rest =>
    match c.take s with
    | some (p, left) => (p :: (left.takeEach rest).1, (left.takeEach rest).2)
    | none => c.takeEach rest

/-- Drains a table whose requests are come upon in some order: their sequences are collected, then
they are taken, and what was taken is sorted. -/
def drainThrough (c : Correlator α) (order : List (Pending α)) (generation : Nat) :
    List (Pending α) × Correlator α :=
  let (found, left) := c.takeEach ((order.filter (·.generation ≤ generation)).map (·.sequence))
  (found.mergeSort fun p q => p.sequence ≤ q.sequence, left)

def drainAll (c : Correlator α) : List (Pending α) × Correlator α :=
  (c.pending.entries.map Prod.snd, { c with pending := .empty })

end Correlator

end Telemux
