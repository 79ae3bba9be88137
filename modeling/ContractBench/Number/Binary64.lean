/-! # Binary floating point, exactly

A finite number is a sign and a whole number of units of `2 ^ -1074`, the smallest step of the
binary64 format; it is representable when its magnitude has at most 53 significant bits. Order and
sums are then those of the integers, followed by one rounding (`roundUnits`).
-/

namespace ContractBench

/-- A number of the binary64 format. -/
inductive Binary64 where
  /-- The number `± units / 2 ^ 1074`; zero has two signs. -/
  | finite (negative : Bool) (units : Nat)
  /-- Positive or negative infinity. -/
  | infinite (negative : Bool)
  /-- Not a number. -/
  | nan
  deriving Repr, DecidableEq, Inhabited

namespace Binary64

/-- The power of two that one unit divides. -/
def unitBits : Nat := 1074

/-- The number of units from which a magnitude is out of range. -/
def overflowUnits : Nat := Nat.pow 2 (1024 + unitBits)

/-- The quotient `num / den` rounded to a whole number, a half to the even neighbour. -/
def roundQuotient (num den : Nat) : Nat :=
  let quotient := num / den
  let rest := num % den
  if 2 * rest < den then quotient
  else if 2 * rest = den then quotient + quotient % 2
  else quotient + 1

/-- How many low bits of a magnitude with this integer part do not fit into 53 bits. -/
def excessBits (whole : Nat) : Nat := (Nat.log2 whole + 1) - 53

/-- The number of units nearest to `num / den` units that 53 significant bits can hold, a half to
    the even neighbour. -/
def roundUnits (num den : Nat) : Nat :=
  let scale := Nat.pow 2 (excessBits (num / den))
  roundQuotient num (den * scale) * scale

/-- A magnitude in units as a number, infinite from the overflow bound on. -/
def ofUnits (negative : Bool) (units : Nat) : Binary64 :=
  if units < overflowUnits then .finite negative units else .infinite negative

/-- The number nearest to `± num / den`. -/
def ofRatio (negative : Bool) (num den : Nat) : Binary64 :=
  ofUnits negative (roundUnits (num * Nat.pow 2 unitBits) den)

/-- The number nearest to an integer. -/
def ofInt (n : Int) : Binary64 := ofRatio (decide (n < 0)) n.natAbs 1

/-- How many decimal digits a natural number has; zero has none. -/
def digitCount (n : Nat) : Nat := if n = 0 then 0 else (Nat.repr n).length

/-- The number nearest to `± digits * 10 ^ exponent`. Exponents far outside the format are decided
    by size alone. -/
def ofDecimal (negative : Bool) (digits : Nat) (exponent : Int) : Binary64 :=
  if digits = 0 then .finite negative 0
  else
    let magnitude := exponent + digitCount digits
    if magnitude > 400 then .infinite negative
    else if magnitude < -400 then .finite negative 0
    else if 0 ≤ exponent then ofRatio negative (digits * Nat.pow 10 exponent.toNat) 1
    else ofRatio negative digits (Nat.pow 10 (-exponent).toNat)

/-- The signed number of units of a finite number. -/
def signedUnits (negative : Bool) (units : Nat) : Int :=
  if negative then -(units : Int) else units

/-- The sum rounded to the nearest number. Opposite finite numbers cancel to positive zero. -/
def add : Binary64 → Binary64 → Binary64
  | .nan, _ => .nan
  | _, .nan => .nan
  | .infinite s, .infinite t => if s = t then .infinite s else .nan
  | .infinite s, .finite _ _ => .infinite s
  | .finite _ _, .infinite t => .infinite t
  | .finite s m, .finite t n =>
    let sum := signedUnits s m + signedUnits t n
    if sum = 0 then .finite (s && t) 0
    else ofUnits (decide (sum < 0)) (roundUnits sum.natAbs 1)

instance : Add Binary64 := ⟨add⟩

/-- Strictly less, false as soon as one side is not a number. -/
def lt : Binary64 → Binary64 → Bool
  | .nan, _ => false
  | _, .nan => false
  | .infinite s, .infinite t => s && !t
  | .infinite s, .finite _ _ => s
  | .finite _ _, .infinite t => !t
  | .finite s m, .finite t n => decide (signedUnits s m < signedUnits t n)

/-- At least zero; true of both zeros and false of `nan`. -/
def isAtLeastZero : Binary64 → Bool
  | .nan => false
  | .infinite s => !s
  | .finite s m => !s || m = 0

/-- Zero of either sign. -/
def isZero : Binary64 → Bool
  | .finite _ m => m = 0
  | _ => false

/-- Neither infinite nor `nan`. -/
def isFinite : Binary64 → Bool
  | .finite _ _ => true
  | _ => false

/-- The integer that a finite number is, when it is one. -/
def toInt? : Binary64 → Option Int
  | .finite s m =>
    if m % Nat.pow 2 unitBits = 0 then some (signedUnits s (m / Nat.pow 2 unitBits)) else none
  | _ => none

/-- Zero. -/
def zero : Binary64 := .finite false 0

/-- Equality as numbers: the zeros are equal and `nan` equals nothing. -/
def numericEq : Binary64 → Binary64 → Bool
  | .finite s m, .finite t n => decide (signedUnits s m = signedUnits t n)
  | .infinite s, .infinite t => s = t
  | _, _ => false

end Binary64

end ContractBench
