import ContractBench.Number.Binary64

/-! # Numbers to some places

A positive ratio is written to a number of decimal places, in one of three layouts: with all places
behind a point, with one digit before the point and an exponent, or in the shorter of both without
zeros at the end.
-/

namespace ContractBench.Places

/-- A text filled with zeros on the left. -/
def zeroPadded (width : Nat) (text : String) : String :=
  String.ofList (List.replicate (width - text.length) '0') ++ text

/-- Digits with a point before the last `places` of them. -/
def withPoint (places : Nat) (marked : Bool) (digits : String) : String :=
  let cs := (zeroPadded (places + 1) digits).toList
  let whole := String.ofList (cs.take (cs.length - places))
  let fraction := String.ofList (cs.drop (cs.length - places))
  if places = 0 then (if marked then whole ++ "." else whole) else whole ++ "." ++ fraction

/-- A ratio with all its places behind a point, which is written even before none if it is
    marked. -/
def fixed (places : Nat) (marked : Bool) (num den : Nat) : String :=
  withPoint places marked (Nat.repr (Binary64.roundQuotient (num * Nat.pow 10 places) den))

/-- A ratio divided by a power of ten, rounded. -/
def scaled (num den : Nat) (exponent : Int) : Nat :=
  if exponent < 0 then Binary64.roundQuotient (num * Nat.pow 10 (-exponent).toNat) den
  else Binary64.roundQuotient num (den * Nat.pow 10 exponent.toNat)

/-- The exponent of the greatest power of ten that a ratio reaches, guessed from the lengths of
    its parts and mended. -/
def exponentOf (num den : Nat) : Int :=
  if num = 0 then 0
  else
    let guess : Int := Int.ofNat (Nat.repr num).length - Int.ofNat (Nat.repr den).length
    let reaches : Bool :=
      if guess < 0 then decide (den ≤ num * Nat.pow 10 (-guess).toNat)
      else decide (den * Nat.pow 10 guess.toNat ≤ num)
    if reaches then guess else guess - 1

/-- The digits of a ratio, one more than `places`, and its exponent, after rounding. -/
def digits (places : Nat) (num den : Nat) : Nat × Int :=
  let exponent := exponentOf num den
  let n := scaled num den (exponent - places)
  if n = Nat.pow 10 (places + 1) then (Nat.pow 10 places, exponent + 1) else (n, exponent)

/-- An exponent of at least two digits behind its letter. -/
def exponentText (letter : Char) (exponent : Int) : String :=
  String.singleton letter ++ (if exponent < 0 then "-" else "+") ++
    zeroPadded 2 (Nat.repr exponent.natAbs)

/-- A ratio with one digit before the point and an exponent. -/
def scientific (letter : Char) (places : Nat) (marked : Bool) (num den : Nat) : String :=
  let (n, exponent) := digits places num den
  withPoint places marked (zeroPadded (places + 1) (Nat.repr n)) ++ exponentText letter exponent

/-- A decimal text without zeros at the end of its fraction, nor a point before none. -/
def dropZeros (text : String) : String :=
  if text.toList.contains '.' then
    let cs := text.toList.reverse.dropWhile (· = '0')
    String.ofList (match cs with
      | '.' :: rest => rest.reverse
      | cs => cs.reverse)
  else text

/-- A ratio to a number of significant digits, in the layout that is shorter. Zeros at the end
    stay if the point is marked. -/
def general (letter : Char) (significant : Nat) (marked : Bool) (num den : Nat) : String :=
  let significant := max 1 significant
  let (n, exponent) := digits (significant - 1) num den
  let tidy (text : String) : String := if marked then text else dropZeros text
  if -4 ≤ exponent ∧ exponent < significant then
    tidy (fixed (Int.toNat (Int.ofNat significant - 1 - exponent)) marked num den)
  else
    tidy (withPoint (significant - 1) marked (zeroPadded significant (Nat.repr n))) ++
      exponentText letter exponent

end ContractBench.Places
