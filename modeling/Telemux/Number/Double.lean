import Telemux.Number.Decimal

namespace Telemux

/-- A binary64 number, held by its bit pattern so that equality of numbers is equality of bits. -/
structure Double where
  bits : UInt64
  deriving DecidableEq

namespace Double

def ofFloat (x : Float) : Double :=
  ⟨x.toBits⟩

def isNegative (x : Double) : Bool :=
  x.bits >>> 63 = 1

def biasedExponent (x : Double) : Nat :=
  ((x.bits >>> 52) &&& 0x7FF).toNat

def fraction (x : Double) : Nat :=
  (x.bits &&& 0xFFFFFFFFFFFFF).toNat

def isFinite (x : Double) : Bool :=
  x.biasedExponent != 0x7FF

/-- The whole number `m` of the magnitude `m * 2 ^ q`. -/
def significand (x : Double) : Nat :=
  if x.biasedExponent = 0 then x.fraction else x.fraction + 0x10000000000000

/-- The power `q` of the magnitude `m * 2 ^ q`. -/
def power (x : Double) : Int :=
  if x.biasedExponent = 0 then -1074 else (x.biasedExponent : Int) - 1075

def neg (x : Double) : Double :=
  ⟨x.bits ^^^ 0x8000000000000000⟩

end Double

/-- A positive magnitude with the two ends of the interval of reals that round to it,
all three over one denominator. -/
structure RoundingInterval where
  low : Nat
  value : Nat
  high : Nat
  denominator : Nat
  closed : Bool

/-- The reals that round to a double. The interval is closed when the significand is even, and its
lower half is half as wide where the significand is a power of two. -/
def Double.interval (x : Double) : RoundingInterval :=
  let m := x.significand
  let below := if x.fraction = 0 ∧ 1 < x.biasedExponent then 1 else 2
  let q := x.power - 2
  let up := Nat.pow 2 q.toNat
  { low := (4 * m - below) * up
    value := 4 * m * up
    high := (4 * m + 2) * up
    denominator := Nat.pow 2 (-q).toNat
    closed := m % 2 = 0 }

/-- Whether the grid point `n * step / scale` rounds to the interval's value. -/
def RoundingInterval.holds (i : RoundingInterval) (step scale n : Nat) : Bool :=
  let point := n * step * i.denominator
  if i.closed then i.low * scale ≤ point && point ≤ i.high * scale
  else i.low * scale < point && point < i.high * scale

def leadingPower (numerator denominator : Nat) : Int :=
  if denominator ≤ numerator then (digitCount (numerator / denominator) : Int) - 1
  else -(digitCount ((denominator - 1) / numerator) : Int)

/-- The point of the grid of multiples of `10 ^ power` that is nearest to the value among those that
round to it; a tie goes to the even multiple. -/
def RoundingInterval.onGrid (i : RoundingInterval) (power : Int) : Option Nat :=
  let step := Nat.pow 10 power.toNat
  let scale := Nat.pow 10 (-power).toNat
  let unit := step * i.denominator
  let target := i.value * scale
  let down := target / unit
  let rest := target % unit
  let downHolds := i.holds step scale down
  let upHolds := i.holds step scale (down + 1)
  if downHolds && upHolds then
    if 2 * rest < unit || (2 * rest = unit && down % 2 = 0) then some down else some (down + 1)
  else if downHolds then some down
  else if upHolds then some (down + 1)
  else none

structure Scientific where
  digits : Nat
  power : Int
  deriving DecidableEq

def Scientific.trimmed (s : Scientific) : Scientific :=
  if s.digits % 10 = 0 ∧ 0 < s.digits then trimmed ⟨s.digits / 10, s.power + 1⟩ else s
termination_by s.digits
decreasing_by omega

/-- The first hit when the number of digits grows from `17 - left`. -/
def RoundingInterval.shortestFrom (i : RoundingInterval) (leading : Int) : Nat → Scientific
  | 0 => ⟨i.value / i.denominator, 0⟩
  | left + 1 =>
    let power := leading - (17 - (left + 1) : Nat)
    match i.onGrid power with
    | some digits => Scientific.trimmed ⟨digits, power⟩
    | none => shortestFrom i leading left

def Double.shortest (x : Double) : Scientific :=
  let i := x.interval
  i.shortestFrom (leadingPower i.value i.denominator) 17

/-- How a double is laid out as text: positionally while the power of ten of its leading digit lies
in a range, and with an exponent elsewhere. -/
structure DoubleLayout where
  least : Int
  above : Int
  positiveMark : List Char
  negativeMark : List Char

/-- Positional from `0.00001` up to, but not including, `1e+16`. -/
def jsonDoubleLayout : DoubleLayout :=
  { least := -5
    above := 16
    positiveMark := ['e', '+']
    negativeMark := ['e', '-'] }

def DoubleLayout.write (layout : DoubleLayout) (s : Scientific) : List Char :=
  let ds := decimal s.digits
  let point := (ds.length : Int) + s.power
  let leading := point - 1
  if layout.least ≤ leading ∧ leading < layout.above then
    if 0 ≤ s.power then ds ++ List.replicate s.power.toNat '0' ++ ['.', '0']
    else if 0 < point then ds.take point.toNat ++ '.' :: ds.drop point.toNat
    else '0' :: '.' :: List.replicate (-point).toNat '0' ++ ds
  else
    let mantissa := match ds with
      | [] => []
      | [d] => [d]
      | d :: rest => d :: '.' :: rest
    let mark := if leading < 0 then layout.negativeMark else layout.positiveMark
    mantissa ++ mark ++ decimal leading.natAbs

/-- The text of a double; one that is not finite has no JSON number and is written as null. -/
def Double.text (x : Double) : List Char :=
  if x.isFinite then
    let sign := if x.isNegative then ['-'] else []
    if x.significand = 0 then sign ++ ['0', '.', '0']
    else sign ++ jsonDoubleLayout.write x.shortest
  else ['n', 'u', 'l', 'l']

def largestPowerStep : Nat := 308

def powerOfTen (n : Nat) : Float :=
  Float.ofScientific 1 false n

/-- Divides by `10 ^ n`, at most `10 ^ 308` at a time, until the quotient is zero. -/
def scaleDown (x : Float) (n : Nat) : Float :=
  if n ≤ largestPowerStep then x / powerOfTen n
  else if x == 0 then x
  else scaleDown (x / powerOfTen largestPowerStep) (n - largestPowerStep)
termination_by n
decreasing_by simp only [largestPowerStep] at *; omega

/-- The double of `significand * 10 ^ power`: the significand is rounded first, and then scaled. A
magnitude beyond the largest double has none. -/
def Double.ofScientific? (negative : Bool) (s : Scientific) : Option Double :=
  let x := s.digits.toUInt64.toFloat
  let scaled :=
    if s.power < 0 then some (scaleDown x s.power.natAbs)
    else if x == 0 then some x
    else if s.power.natAbs ≤ largestPowerStep then
      let y := x * powerOfTen s.power.natAbs
      if y.isInf then none else some y
    else none
  scaled.map fun y => if negative then (Double.ofFloat y).neg else Double.ofFloat y

end Telemux
