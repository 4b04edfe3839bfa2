namespace Telemux

/-- Whether a code point lies in one of the given ranges, ends included, in ascending order. -/
def inRanges (n : Nat) : List (Nat × Nat) → Bool
  | [] => false
  | (low, high) :: rest => if n < low then false else n ≤ high || inRanges n rest

end Telemux
