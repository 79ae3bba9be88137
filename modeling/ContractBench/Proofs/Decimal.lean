import ContractBench.Number.Shortest
import ContractBench.Proofs.Grammar
import Mathlib.Algebra.Group.Nat.Defs

/-! # Numbers are numbers of the grammar

The text of a finite number derives from `number`. Its digits come from a search on ever finer
decimal grids. What the search finds is never zero, since the bounds of what rounds to a number are
positive. It could only fail to find anything where the number is laid out with an exponent, for
among numbers of one to sixteen places before the point the grid of seventeen digits is finer than
those bounds are apart (`nearest?_of_fine`).
-/

namespace ContractBench

namespace Shortest

/-! ## What is found is positive -/

theorem gap_le {units : Nat} (positive : 0 < units) :
    Nat.pow 2 (Binary64.excessBits units) ≤ units := by
  have least : 2 ^ Nat.log2 units ≤ units := Nat.log2_self_le (by omega)
  unfold Binary64.excessBits
  calc 2 ^ (Nat.log2 units + 1 - 53) ≤ 2 ^ Nat.log2 units :=
        Nat.pow_le_pow_right (by decide) (by omega)
    _ ≤ units := least

theorem low_of {units : Nat} (positive : 0 < units) : 0 < (Interval.of units).low := by
  have gap := gap_le positive
  simp only [Interval.of]
  split <;> omega

theorem numerator_pos (exponent : Int) : 0 < (Grid.of exponent).numerator := by
  unfold Grid.of
  split
  · exact Nat.one_pos
  · exact Nat.pow_pos (by decide)

theorem pos_of_holds {interval : Interval} {grid : Grid} {step : Nat}
    (low : 0 < interval.low * grid.numerator) (holds : interval.holds grid step = true) :
    0 < step := by
  apply Nat.pos_of_ne_zero
  rintro rfl
  unfold Interval.holds at holds
  split at holds
  · have below := (of_decide_eq_true holds).1
    rw [Nat.zero_mul] at below
    exact Nat.not_le_of_gt low below
  · have below := (of_decide_eq_true holds).1
    rw [Nat.zero_mul] at below
    exact Nat.not_lt_zero _ below

theorem pos_of_nearest? {interval : Interval} {grid : Grid} {step : Nat}
    (low : 0 < interval.low * grid.numerator) (found : interval.nearest? grid = some step) :
    0 < step := by
  simp only [Interval.nearest?] at found
  split at found
  next holds _ =>
    have below := pos_of_holds low holds
    split at found
    · cases found
      exact below
    · split at found
      · cases found
        omega
      · cases found
        omega
  next holds _ =>
    cases found
    exact pos_of_holds low holds
  next =>
    cases found
    exact Nat.succ_pos _
  next => cases found

theorem search_spec {interval : Interval} (low : 0 < interval.low) (exponent : Int)
    (fuel count : Nat) :
    0 < (search interval exponent fuel count).1 ∨
      search interval exponent fuel count = (0, exponent - (count + fuel : Nat)) ∧
        ∀ i < fuel, interval.nearest? (Grid.of (exponent - (count + i : Nat))) = none := by
  induction fuel generalizing count with
  | zero => exact .inr ⟨rfl, by simp⟩
  | succ fuel ih =>
      unfold search
      cases found : interval.nearest? (Grid.of (exponent - count)) with
      | some step =>
          exact .inl (pos_of_nearest? (Nat.mul_pos low (numerator_pos _)) found)
      | none =>
          rcases ih (count + 1) with positive | ⟨nothing, missed⟩
          · exact .inl positive
          · refine .inr ⟨?_, ?_⟩
            · simp only [nothing]
              congr 2
              omega
            · intro i small
              cases i with
              | zero => exact found
              | succ i =>
                  have other := missed i (by omega)
                  rwa [show count + 1 + i = count + (i + 1) by omega] at other

theorem dropZeros_pos {fuel digits : Nat} {exponent : Int} (positive : 0 < digits) :
    0 < (dropZeros fuel digits exponent).1 := by
  induction fuel generalizing digits exponent with
  | zero => exact positive
  | succ fuel ih =>
      unfold dropZeros
      split
      · apply ih
        omega
      · exact positive

theorem dropZeros_zero (fuel : Nat) (exponent : Int) :
    dropZeros fuel 0 exponent = (0, exponent + fuel) := by
  induction fuel generalizing exponent with
  | zero => simp [dropZeros]
  | succ fuel ih =>
      unfold dropZeros
      rw [if_pos rfl, ih]
      congr 1
      omega

/-! ## Fine grids -/

theorem outside_of_not_holds {interval : Interval} {grid : Grid} {step : Nat}
    (misses : interval.holds grid step = false) :
    step * grid.denominator ≤ interval.low * grid.numerator ∨
      interval.high * grid.numerator ≤ step * grid.denominator := by
  unfold Interval.holds at misses
  split at misses
  · simp at misses
    omega
  · simp at misses
    omega

theorem missed_both {interval : Interval} {grid : Grid} (missed : interval.nearest? grid = none) :
    let below := interval.value * grid.numerator / grid.denominator
    interval.holds grid below = false ∧ interval.holds grid (below + 1) = false := by
  intro below
  simp only [Interval.nearest?] at missed
  split at missed
  next =>
    split at missed
    · cases missed
    · split at missed <;> cases missed
  next => cases missed
  next => cases missed
  next first second => exact ⟨first, second⟩

/-- The two grid points next to a magnitude both miss an interval only if it is no wider than the
    grid. -/
theorem wide_of_missed {interval : Interval} {grid : Grid} (positive : 0 < grid.denominator)
    (above : interval.low * grid.numerator < interval.value * grid.numerator)
    (below : interval.value * grid.numerator < interval.high * grid.numerator)
    (missed : interval.nearest? grid = none) :
    interval.high * grid.numerator ≤ interval.low * grid.numerator + grid.denominator := by
  obtain ⟨first, second⟩ := missed_both missed
  have lower := outside_of_not_holds first
  have upper := outside_of_not_holds second
  have next := Nat.add_one_mul (interval.value * grid.numerator / grid.denominator) grid.denominator
  have reached : interval.value * grid.numerator / grid.denominator * grid.denominator ≤
      interval.value * grid.numerator := Nat.div_mul_le_self ..
  have passed : interval.value * grid.numerator <
      (interval.value * grid.numerator / grid.denominator + 1) * grid.denominator :=
    Nat.lt_mul_of_div_lt (Nat.lt_succ_self _) positive
  omega

theorem lt_gap (units : Nat) : units < 2 ^ 53 * 2 ^ Binary64.excessBits units := by
  have most : units < 2 ^ (Nat.log2 units + 1) := Nat.lt_log2_self
  unfold Binary64.excessBits
  rw [← Nat.pow_add]
  exact Nat.lt_of_lt_of_le most (Nat.pow_le_pow_right (by decide) (by omega))

theorem value_inside {units : Nat} (positive : 0 < units) :
    (Interval.of units).low < (Interval.of units).value ∧
      (Interval.of units).value < (Interval.of units).high := by
  have gap := gap_le positive
  have some : 0 < Nat.pow 2 (Binary64.excessBits units) := Nat.pow_pos (by decide)
  simp only [Interval.of]
  split <;> omega

/-- The bounds of what rounds to a number are four gaps apart, or three at a power of two. -/
theorem width_of {units : Nat} (positive : 0 < units) :
    let gap := 2 ^ Binary64.excessBits units
    (Interval.of units).high = (Interval.of units).low + 4 * gap ∨
      (Interval.of units).high = (Interval.of units).low + 3 * gap ∧
        units < (2 ^ 52 + 1) * gap := by
  intro gap
  have some : 0 < gap := Nat.two_pow_pos _
  have enough : gap ≤ units := gap_le positive
  simp only [Interval.of]
  change (4 * units + 2 * gap =
    4 * units - (if units / gap = 2 ^ 52 ∧ 1 < gap then 1 else 2) * gap + 4 * gap) ∨ _
  split
  next exact =>
    right
    refine ⟨?_, ?_⟩
    · change 4 * units + 2 * gap =
        4 * units - (if units / gap = 2 ^ 52 ∧ 1 < gap then 1 else 2) * gap + 3 * gap
      rw [if_pos exact]
      omega
    · rw [← exact.1]
      exact Nat.lt_mul_of_div_lt (Nat.lt_succ_self _) some
  next =>
    left
    omega

/-- A grid on which a number has at least seventeen digits has a point that rounds to the number. -/
theorem nearest?_of_fine {units : Nat} (positive : 0 < units) {grid : Grid}
    (numerator : 0 < grid.numerator) (denominator : 0 < grid.denominator)
    (fine : grid.denominator * 10 ^ 16 ≤ 4 * units * grid.numerator) :
    (Interval.of units).nearest? grid ≠ none := by
  intro missed
  obtain ⟨above, below⟩ := value_inside positive
  have wide := wide_of_missed denominator (Nat.mul_lt_mul_of_pos_right above numerator)
    (Nat.mul_lt_mul_of_pos_right below numerator) missed
  have gap : 0 < 2 ^ Binary64.excessBits units := Nat.two_pow_pos _
  have some := Nat.mul_pos gap numerator
  rw [Nat.mul_assoc] at fine
  rcases width_of positive with width | ⟨width, bound⟩
  · have scaled := Nat.mul_lt_mul_of_pos_right (lt_gap units) numerator
    rw [width, Nat.add_mul, Nat.mul_assoc] at wide
    rw [Nat.mul_assoc] at scaled
    omega
  · have scaled := Nat.mul_lt_mul_of_pos_right bound numerator
    rw [width, Nat.add_mul, Nat.mul_assoc] at wide
    rw [Nat.mul_assoc] at scaled
    omega

/-! ## The place of the first digit -/

theorem settleExponent_spec (quarters fuel : Nat) (estimate : Int) :
    settleExponent quarters fuel estimate = estimate ∨
      reaches quarters (settleExponent quarters fuel estimate - 1) = true := by
  induction fuel generalizing estimate with
  | zero => exact .inl rfl
  | succ fuel ih =>
      unfold settleExponent
      split
      next reached =>
        right
        rcases ih (estimate + 1) with same | further
        · rw [same, Int.add_sub_cancel]
          exact reached
        · exact further
      next => exact .inl rfl

theorem reaches_iff {quarters : Nat} {exponent : Nat} :
    reaches quarters exponent = true ↔ quartersInOne * 10 ^ exponent ≤ quarters := by
  unfold reaches Grid.of
  rw [if_pos (Int.natCast_nonneg exponent), Int.toNat_natCast]
  simp

/-- The first guess at the place of the first digit, from the binary logarithm. -/
def estimate (quarters : Nat) : Int :=
  (((Nat.log2 quarters : Int) - (Binary64.unitBits + 2 : Nat)) * 30103).fdiv 100000 - 1

theorem decimalExponent_eq (quarters : Nat) :
    decimalExponent quarters = settleExponent quarters 6 (estimate quarters) := rfl

theorem estimate_eq {quarters : Nat} (few : 2 ≤ estimate quarters)
    (most : estimate quarters ≤ 16) :
    ∃ log, Nat.log2 quarters = log + (Binary64.unitBits + 2) ∧ 10 ≤ log ∧ log < 60 ∧
      estimate quarters = (log * 30103 / 100000 - 1 : Nat) := by
  unfold estimate at *
  rw [Int.fdiv_eq_ediv_of_nonneg _ (by decide)] at *
  refine ⟨Nat.log2 quarters - (Binary64.unitBits + 2), ?_⟩
  omega

theorem estimate_low : ∀ log < 60, 10 ≤ log →
    10 ^ (log * 30103 / 100000 - 1 - 1) ≤ 2 ^ log := by
  decide +kernel

theorem four_mul_pow (bits : Nat) : 4 * Nat.pow 2 bits = 2 ^ (bits + 2) := by
  rw [Nat.pow_add, Nat.mul_comm]
  rfl

theorem quartersInOne_eq : quartersInOne = 2 ^ (Binary64.unitBits + 2) :=
  four_mul_pow Binary64.unitBits

theorem quartersInOne_pos : 0 < quartersInOne := by
  rw [quartersInOne_eq]
  generalize Binary64.unitBits + 2 = bits
  exact Nat.two_pow_pos bits

theorem reaches_estimate {quarters : Nat} (positive : 0 < quarters)
    (few : 2 ≤ estimate quarters) (most : estimate quarters ≤ 16) :
    reaches quarters (estimate quarters - 1) = true := by
  obtain ⟨log, logarithm, least, greatest, place⟩ := estimate_eq few most
  have low := estimate_low log greatest least
  have start : estimate quarters - 1 = (log * 30103 / 100000 - 1 - 1 : Nat) := by omega
  rw [start, reaches_iff]
  calc quartersInOne * 10 ^ (log * 30103 / 100000 - 1 - 1)
      ≤ quartersInOne * 2 ^ log := Nat.mul_le_mul_left _ low
    _ = 2 ^ (log + (Binary64.unitBits + 2)) := by
        rw [quartersInOne_eq, ← Nat.pow_add, Nat.add_comm]
    _ ≤ quarters := by
        rw [← logarithm]
        exact Nat.log2_self_le (by omega)

theorem reaches_decimalExponent {quarters : Nat} (positive : 0 < quarters)
    (few : 2 ≤ decimalExponent quarters) (most : decimalExponent quarters ≤ 16) :
    reaches quarters (decimalExponent quarters - 1) = true := by
  rcases settleExponent_spec quarters 6 (estimate quarters) with same | reached
  · rw [decimalExponent_eq, same] at few most ⊢
    exact reaches_estimate positive few most
  · exact reached

/-! ## The digits -/

/-- Seventeen digits are enough for a number that has at most sixteen of them before the point. -/
theorem nearest?_seventeen {units : Nat} (positive : 0 < units) {place : Int} (few : 2 ≤ place)
    (most : place ≤ 16) (reached : reaches (Interval.of units).value (place - 1) = true) :
    (Interval.of units).nearest? (Grid.of (place - (1 + 16 : Nat))) ≠ none := by
  obtain ⟨before, rfl⟩ : ∃ before : Nat, place = before + 1 := ⟨(place - 1).toNat, by omega⟩
  rw [Int.add_sub_cancel, reaches_iff] at reached
  have grid : Grid.of ((before : Int) + 1 - (1 + 16 : Nat)) =
      ⟨10 ^ (16 - before), quartersInOne⟩ := by
    unfold Grid.of
    rw [if_neg (by omega)]
    congr 2
    omega
  rw [grid]
  apply nearest?_of_fine positive
  · exact Nat.pow_pos (by decide)
  · exact quartersInOne_pos
  · change quartersInOne * 10 ^ 16 ≤ 4 * units * 10 ^ (16 - before)
    calc quartersInOne * 10 ^ 16
        = quartersInOne * 10 ^ before * 10 ^ (16 - before) := by
          rw [Nat.mul_assoc, ← Nat.pow_add]
          congr 2
          omega
      _ ≤ 4 * units * 10 ^ (16 - before) := Nat.mul_le_mul_right _ reached

/-- Either there are digits, or the number is laid out with an exponent. -/
theorem digits_spec {units : Nat} (positive : 0 < units) :
    0 < (digits units).1 ∨
      (digits units).1 = 0 ∧ ((digits units).2 + 1 < 2 ∨ 16 < (digits units).2 + 1) := by
  have low := low_of positive
  have quarters : 0 < (Interval.of units).value := by
    simp only [Interval.of]
    omega
  unfold digits
  rcases search_spec low (decimalExponent (Interval.of units).value) 17 1 with
    found | ⟨nothing, missed⟩
  · exact .inl (dropZeros_pos found)
  · right
    simp only [nothing, dropZeros_zero, true_and]
    by_cases inside : 2 ≤ decimalExponent (Interval.of units).value ∧
        decimalExponent (Interval.of units).value ≤ 16
    · exfalso
      obtain ⟨few, most⟩ := inside
      have reached := reaches_decimalExponent quarters few most
      exact nearest?_seventeen positive few most reached (missed 16 (by decide))
    · omega

end Shortest

/-! ## The layout -/

namespace Json

theorem toList_zeros (count : Int) : (zeros count).toList = List.replicate count.toNat '0' := by
  rw [zeros, String.toList_ofList]

theorem digits_repr (n : Nat) : Digits (Nat.repr n).toList := by
  rw [Nat.toList_repr]
  constructor
  · exact Nat.toDigits_ne_nil
  · intro c inside
    exact Nat.isDigit_of_mem_toDigits (by decide) (by decide) inside

theorem digits_zero : Digits ['0'] := ⟨by simp, by simp⟩

theorem digits_padded {ds : List Char} (digits : Digits ds) (count : Nat) :
    Digits (List.replicate count '0' ++ ds) := by
  constructor
  · simp [digits.1]
  · intro c inside
    rcases List.mem_append.mp inside with zero | digit
    · rw [List.eq_of_mem_replicate zero]
      rfl
    · exact digits.2 c digit

theorem digits_part {ds part : List Char} (digits : Digits ds) (some : part ≠ [])
    (inside : ∀ c ∈ part, c ∈ ds) : Digits part :=
  ⟨some, fun c held => digits.2 c (inside c held)⟩

theorem exponent_of {e : Char} {sign : String} {numeral : List Char}
    (letter : e = 'e' ∨ e = 'E') (sign' : sign = "-" ∨ sign = "+") (digits : Digits numeral) :
    Exponent (e :: (sign.toList ++ numeral)) := by
  refine .inr ⟨e, sign.toList, numeral, letter, ?_, digits, rfl⟩
  rcases sign' with rfl | rfl <;> simp

variable {n : Nat} {point : Int}

theorem head_repr (positive : 0 < n) : (Nat.repr n).toList.head? ≠ some '0' := by
  rw [Nat.toList_repr]
  exact head_toDigits positive

/-- A beginning of the digits of a number begins a numeral. -/
theorem whole_take {count : Nat} (some : 0 < count) (positive : 0 < n) :
    Whole ((Nat.repr n).toList.take count) := by
  right
  constructor
  · apply digits_part (digits_repr n)
    · simp [Nat.ne_of_gt some]
    · intro c inside
      exact List.mem_of_mem_take inside
  · rw [List.head?_take, if_neg (Nat.ne_of_gt some)]
    exact head_repr positive

theorem unsigned_small (n : Nat) (point : Int) :
    Unsigned ("0." ++ zeros (-point) ++ Nat.repr n).toList := by
  refine ⟨['0'], '.' :: (List.replicate (-point).toNat '0' ++ (Nat.repr n).toList), [], .inl rfl,
    .inr ⟨_, digits_padded (digits_repr n) _, rfl⟩, .inl rfl, ?_⟩
  simp [String.toList_append, toList_zeros]

/-- The digits of a number with zeros behind them; zero has none behind it. -/
theorem whole_padded {count : Nat} (shaped : 0 < n ∨ n = 0 ∧ count = 0) :
    Whole ((Nat.repr n).toList ++ List.replicate count '0') := by
  rcases shaped with positive | ⟨rfl, rfl⟩
  · right
    constructor
    · constructor
      · simp
      · intro c inside
        rcases List.mem_append.mp inside with digit | zero
        · exact (digits_repr n).2 c digit
        · rw [List.eq_of_mem_replicate zero]
          rfl
    · rw [List.head?_append, Option.or_of_isSome (by simp)]
      exact head_repr positive
  · exact .inl rfl

theorem unsigned_large {count : Int} (shaped : 0 < n ∨ n = 0 ∧ count.toNat = 0) :
    Unsigned (Nat.repr n ++ zeros count ++ ".0").toList := by
  refine ⟨(Nat.repr n).toList ++ List.replicate count.toNat '0', ['.', '0'], [],
    whole_padded shaped, .inr ⟨['0'], digits_zero, rfl⟩, .inl rfl, ?_⟩
  simp [String.toList_append, toList_zeros]

theorem fraction_drop {count : Nat} (inside : count < (Nat.repr n).length) :
    Fraction ('.' :: (Nat.repr n).toList.drop count) := by
  refine .inr ⟨_, ?_, rfl⟩
  apply digits_part (digits_repr n)
  · rw [← String.length_toList] at inside
    simpa using inside
  · intro c held
    exact List.mem_of_mem_drop held

theorem unsigned_between {count : Nat} (some : 0 < count) (inside : count < (Nat.repr n).length) :
    Unsigned (String.ofList ((Nat.repr n).toList.take count) ++ "." ++
      String.ofList ((Nat.repr n).toList.drop count)).toList := by
  have positive : 0 < n := by
    apply Nat.pos_of_ne_zero
    rintro rfl
    have one : (Nat.repr 0).length = 1 := rfl
    omega
  refine ⟨_, _, [], whole_take some positive, fraction_drop inside, .inl rfl, ?_⟩
  simp [String.toList_append]

theorem unsigned_scaled (n : Nat) (exponent : Int) :
    Unsigned (String.ofList ((Nat.repr n).toList.take 1) ++
      (if ((Nat.repr n).toList.drop 1).isEmpty then ""
        else "." ++ String.ofList ((Nat.repr n).toList.drop 1)) ++
      "e" ++ (if exponent < 0 then "-" else "+") ++
      padLeft 2 (Nat.repr exponent.natAbs)).toList := by
  have whole : Whole ((Nat.repr n).toList.take 1) := by
    rcases Nat.eq_zero_or_pos n with rfl | positive
    · exact .inl rfl
    · exact whole_take Nat.one_pos positive
  have sign : (if exponent < 0 then "-" else "+" : String) = "-" ∨
      (if exponent < 0 then "-" else "+" : String) = "+" := by
    split
    · exact .inl rfl
    · exact .inr rfl
  have scale : Exponent ('e' :: ((if exponent < 0 then "-" else "+" : String).toList ++
      (padLeft 2 (Nat.repr exponent.natAbs)).toList)) := by
    apply exponent_of (.inl rfl) sign
    rw [padLeft, String.toList_append, toList_zeros]
    exact digits_padded (digits_repr _) _
  refine ⟨_, if ((Nat.repr n).toList.drop 1).isEmpty then [] else
    '.' :: (Nat.repr n).toList.drop 1, _, whole, ?_, scale, ?_⟩
  · split
    · exact .inl rfl
    next some =>
      apply fraction_drop
      rw [List.isEmpty_iff, List.drop_eq_nil_iff, String.length_toList] at some
      omega
  · split <;> simp [String.toList_append]

/-- The layout of a number is a number, unless zero is laid out with places before the point. -/
theorem unsigned_write (shaped : 0 < n ∨ n = 0 ∧ (point < 2 ∨ 16 < point)) :
    Unsigned (Binary64.layout.write (Nat.repr n) point).toList := by
  unfold NumberLayout.write
  simp only [Binary64.layout]
  split
  next near =>
    split
    · exact unsigned_small n point
    next before =>
      split
      next few =>
        apply unsigned_large
        rcases shaped with positive | ⟨rfl, small | large⟩
        · exact .inl positive
        · have one : (Nat.repr 0).length = 1 := rfl
          right
          omega
        · omega
      next many =>
        apply unsigned_between <;> omega
  next => exact unsigned_scaled n (point - 1)

theorem number_finite (negative : Bool) (units : Nat) :
    Number (Binary64.finite negative units).text.toList := by
  have sign (text : String) (unsigned : Unsigned text.toList) :
      Number ((if negative then "-" else "") ++ text).toList := by
    refine ⟨(if negative then "-" else "" : String).toList, text.toList, ?_, unsigned, ?_⟩
    · cases negative <;> simp
    · rw [String.toList_append]
  rw [Binary64.text]
  split
  · refine sign "0.0" ⟨['0'], ['.', '0'], [], .inl rfl, ?_, .inl rfl, rfl⟩
    exact .inr ⟨['0'], digits_zero, rfl⟩
  next some =>
    apply sign
    apply unsigned_write
    rcases Shortest.digits_spec (Nat.pos_of_ne_zero some) with found | ⟨nothing, far⟩
    · exact .inl found
    · rw [nothing]
      exact .inr ⟨rfl, far⟩

end Json

end ContractBench
