namespace Telemux

def digitChar (d : Nat) : Char :=
  Char.ofNat ('0'.toNat + d)

def digitValue (c : Char) : Nat :=
  c.toNat - '0'.toNat

def decimal (n : Nat) : List Char :=
  if n < 10 then [digitChar n] else decimal (n / 10) ++ [digitChar (n % 10)]

def ofDigits (cs : List Char) : Nat :=
  cs.foldl (fun n c => 10 * n + digitValue c) 0

/-- The decimal digits of an integer, behind a minus sign when it is negative. -/
def signedDecimal : Int → List Char
  | .ofNat n => decimal n
  | .negSucc n => '-' :: decimal (n + 1)

def digitCount (n : Nat) : Nat :=
  (decimal n).length

theorem digitValue_digitChar {d : Nat} (h : d < 10) : digitValue (digitChar d) = d := by
  have all : ∀ d < 10, digitValue (digitChar d) = d := by decide
  exact all d h

theorem isDigit_digitChar {d : Nat} (h : d < 10) : (digitChar d).isDigit = true := by
  have all : ∀ d < 10, (digitChar d).isDigit = true := by decide
  exact all d h

theorem decimal_ne_nil (n : Nat) : decimal n ≠ [] := by
  rw [decimal]
  split <;> simp

theorem isDigit_of_mem_decimal {n : Nat} {c : Char} (h : c ∈ decimal n) : c.isDigit = true := by
  rw [decimal] at h
  split at h
  next small =>
    rw [List.mem_singleton.mp h]
    exact isDigit_digitChar small
  next =>
    rcases List.mem_append.mp h with h | h
    · exact isDigit_of_mem_decimal h
    · rw [List.mem_singleton.mp h]
      exact isDigit_digitChar (Nat.mod_lt n (by decide))
termination_by n
decreasing_by omega

theorem ofDigits_append_singleton (cs : List Char) (c : Char) :
    ofDigits (cs ++ [c]) = 10 * ofDigits cs + digitValue c := by
  simp [ofDigits]

theorem ofDigits_decimal (n : Nat) : ofDigits (decimal n) = n := by
  rw [decimal]
  split
  next small => simp [ofDigits, digitValue_digitChar small]
  next =>
    rw [ofDigits_append_singleton, ofDigits_decimal (n / 10),
      digitValue_digitChar (Nat.mod_lt n (by decide))]
    omega
termination_by n
decreasing_by omega

end Telemux
