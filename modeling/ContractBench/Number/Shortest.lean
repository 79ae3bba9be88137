import ContractBench.Number.Binary64

/-! # The shortest text that reads back

`Shortest.digits` finds, for a positive finite number, the fewest decimal digits of which some
choice rounds back to the number, and of those the choice nearest to it. `Binary64.text` lays the
digits out: positionally for exponents from -4 to 15, otherwise with an exponent of at least two
digits.
-/

namespace ContractBench.Shortest

/-- A positive magnitude in quarter units, with the bounds of what rounds to it. -/
structure Interval where
  /-- The magnitude. -/
  value : Nat
  /-- The least magnitude that may still round to it. -/
  low : Nat
  /-- The greatest magnitude that may still round to it. -/
  high : Nat
  /-- Whether the bounds themselves round to it. -/
  closed : Bool
  deriving Repr

/-- The interval of magnitudes that round to `units`. The gap below a power of two is half as
    wide as the gap above it, except at the bottom of the range. -/
def Interval.of (units : Nat) : Interval :=
  let gap := Nat.pow 2 (Binary64.excessBits units)
  let significand := units / gap
  let below := if significand = Nat.pow 2 52 ∧ 1 < gap then 1 else 2
  { value := 4 * units
    low := 4 * units - below * gap
    high := 4 * units + 2 * gap
    closed := significand % 2 = 0 }

/-- The number of quarter units in one. -/
def quartersInOne : Nat := 4 * Nat.pow 2 Binary64.unitBits

/-- A decimal grid: its points are the multiples of `10 ^ exponent`. A magnitude `q` in quarter
    units lies at `scaleUp q / scaleDown` steps of the grid. -/
structure Grid where
  /-- Multiplier of a magnitude in quarter units. -/
  numerator : Nat
  /-- Divisor that then gives steps of the grid. -/
  denominator : Nat

/-- The grid of multiples of `10 ^ exponent`. -/
def Grid.of (exponent : Int) : Grid :=
  if 0 ≤ exponent then ⟨1, quartersInOne * Nat.pow 10 exponent.toNat⟩
  else ⟨Nat.pow 10 (-exponent).toNat, quartersInOne⟩

/-- Whether the grid's `step`-th point rounds to the number. -/
def Interval.holds (interval : Interval) (grid : Grid) (step : Nat) : Bool :=
  let point := step * grid.denominator
  let low := interval.low * grid.numerator
  let high := interval.high * grid.numerator
  if interval.closed then decide (low ≤ point ∧ point ≤ high)
  else decide (low < point ∧ point < high)

/-- The grid point next to the number that rounds to it, the nearer one if both do, the even one
    at equal distance. -/
def Interval.nearest? (interval : Interval) (grid : Grid) : Option Nat :=
  let scaled := interval.value * grid.numerator
  let below := scaled / grid.denominator
  let rest := scaled % grid.denominator
  let above := below + 1
  match interval.holds grid below, interval.holds grid above with
  | true, true =>
    if 2 * rest < grid.denominator then some below
    else if 2 * rest = grid.denominator then some (below + below % 2)
    else some above
  | true, false => some below
  | false, true => some above
  | false, false => none

/-- Whether a magnitude in quarter units is at least `10 ^ exponent`. -/
def reaches (quarters : Nat) (exponent : Int) : Bool :=
  let grid := Grid.of exponent
  decide (grid.denominator ≤ quarters * grid.numerator)

/-- Raise the estimate while the magnitude reaches it: the least exponent not reached. -/
def settleExponent (quarters : Nat) : Nat → Int → Int
  | 0, estimate => estimate
  | fuel + 1, estimate =>
    if reaches quarters estimate then settleExponent quarters fuel (estimate + 1) else estimate

/-- The `k` with `10 ^ (k - 1) ≤ magnitude < 10 ^ k`. The start, from the binary logarithm, is low
    by at most three. -/
def decimalExponent (quarters : Nat) : Int :=
  let log2 : Int := (Nat.log2 quarters : Int) - (Binary64.unitBits + 2 : Nat)
  settleExponent quarters 6 ((log2 * 30103).fdiv 100000 - 1)

/-- Try one digit after the other, from `count` on. -/
def search (interval : Interval) (exponent : Int) : Nat → Nat → Nat × Int
  | 0, count => (0, exponent - count)
  | fuel + 1, count =>
    match interval.nearest? (Grid.of (exponent - count)) with
    | some step => (step, exponent - count)
    | none => search interval exponent fuel (count + 1)

/-- Move trailing zeros of the digits into the exponent. -/
def dropZeros : Nat → Nat → Int → Nat × Int
  | 0, digits, exponent => (digits, exponent)
  | fuel + 1, digits, exponent =>
    if digits % 10 = 0 then dropZeros fuel (digits / 10) (exponent + 1) else (digits, exponent)

/-- The shortest digits of a positive magnitude in units, and the power of ten that their last
    place counts. -/
def digits (units : Nat) : Nat × Int :=
  let interval := Interval.of units
  let found := search interval (decimalExponent interval.value) 17 1
  dropZeros 17 found.1 found.2

end Shortest

/-- Which decimal exponents are written positionally, and how an exponent looks. -/
structure NumberLayout where
  /-- The least exponent written positionally. -/
  leastPositional : Int
  /-- The greatest exponent written positionally. -/
  greatestPositional : Int
  /-- The least number of digits of a written exponent. -/
  exponentDigits : Nat

/-- Exponents from -4 to 15 are positional; others have at least two digits. -/
def Binary64.layout : NumberLayout := ⟨-4, 15, 2⟩

/-- A run of zeros. -/
def zeros (count : Int) : String := String.ofList (List.replicate count.toNat '0')

/-- Pad a numeral with zeros on the left. -/
def padLeft (width : Nat) (numeral : String) : String :=
  zeros (width - numeral.length : Int) ++ numeral

/-- The digits `ds` with value `0.ds * 10 ^ point`, laid out. -/
def NumberLayout.write (layout : NumberLayout) (ds : String) (point : Int) : String :=
  let exponent := point - 1
  let count : Int := ds.length
  if layout.leastPositional ≤ exponent ∧ exponent ≤ layout.greatestPositional then
    if point ≤ 0 then "0." ++ zeros (-point) ++ ds
    else if count ≤ point then ds ++ zeros (point - count) ++ ".0"
    else
      let cs := ds.toList
      String.ofList (cs.take point.toNat) ++ "." ++ String.ofList (cs.drop point.toNat)
  else
    let cs := ds.toList
    let fraction := cs.drop 1
    let mantissa := String.ofList (cs.take 1) ++
      (if fraction.isEmpty then "" else "." ++ String.ofList fraction)
    let sign := if exponent < 0 then "-" else "+"
    mantissa ++ "e" ++ sign ++ padLeft layout.exponentDigits (Nat.repr exponent.natAbs)

/-- The shortest decimal text of a number; `nan`, `inf` and `-inf` stand for themselves. -/
def Binary64.text : Binary64 → String
  | .nan => "nan"
  | .infinite negative => if negative then "-inf" else "inf"
  | .finite negative units =>
    let sign := if negative then "-" else ""
    if units = 0 then sign ++ "0.0"
    else
      let found := Shortest.digits units
      let ds := Nat.repr found.1
      sign ++ Binary64.layout.write ds (found.2 + ds.length)

end ContractBench
