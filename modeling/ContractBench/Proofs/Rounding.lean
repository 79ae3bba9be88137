import ContractBench.Number.Binary64
import Mathlib.Tactic.Ring
import Mathlib.Tactic.Linarith

/-! # Rounding keeps the order

A sum is rounded to one of its neighbours among the representable numbers, and every power of two is
representable, so a larger sum is never rounded to a smaller number (`roundUnits_mono`). Adding a
finite number therefore keeps the order of two numbers (`AtMost.add_finite`).
-/

namespace ContractBench.Binary64

/-! ## Order -/

/-- A number that is not above another, or is the same even if it is no number. -/
def AtMost (x y : Binary64) : Prop := x = y ∨ x.lt y = true ∨ x.numericEq y = true

namespace AtMost

variable {x y z : Binary64}

theorem refl (x : Binary64) : AtMost x x := .inl rfl

theorem lt_of_lt (h : AtMost y z) (below : x.lt y = true) : x.lt z = true := by
  rcases h with rfl | h | h
  · exact below
  all_goals
    cases x <;> cases y <;> cases z <;> simp_all [lt, numericEq]
    try omega

theorem lt_of_le (h : AtMost x y) (below : y.lt z = true) : x.lt z = true := by
  rcases h with rfl | h | h
  · exact below
  all_goals
    cases x <;> cases y <;> cases z <;> simp_all [lt, numericEq]
    try omega

theorem trans (h : AtMost x y) (h' : AtMost y z) : AtMost x z := by
  rcases h with rfl | h | h
  · exact h'
  · exact .inr (.inl (h'.lt_of_lt h))
  · rcases h' with rfl | h' | h'
    · exact .inr (.inr h)
    · exact .inr (.inl (lt_of_le (.inr (.inr h)) h'))
    · refine .inr (.inr ?_)
      cases x <;> cases y <;> cases z <;> simp_all [numericEq]

end AtMost

/-! ## Rounding -/

variable {m n den : Nat}

/-- The quotient is rounded to its floor, or to the next number if it is no whole one. -/
theorem roundQuotient_bounds (num : Nat) (positive : 0 < den) :
    num / den ≤ roundQuotient num den ∧
      (roundQuotient num den = num / den ∨
        roundQuotient num den = num / den + 1 ∧ 0 < num % den) := by
  simp only [roundQuotient]
  split
  · omega
  · split
    · have parity := Nat.mod_two_eq_zero_or_one (num / den)
      omega
    · omega

/-- A number up to a multiple of the divisor is not rounded beyond it. -/
theorem roundQuotient_le {q : Nat} (positive : 0 < den) (below : m ≤ q * den) :
    roundQuotient m den ≤ q := by
  obtain ⟨-, same | ⟨next, rest⟩⟩ := roundQuotient_bounds m positive
  · rw [same]
    exact Nat.div_le_of_le_mul (by rwa [Nat.mul_comm])
  · rw [next]
    refine (Nat.div_lt_iff_lt_mul positive).mpr (Nat.lt_of_le_of_ne below ?_)
    rintro rfl
    simp at rest

theorem le_roundQuotient {q : Nat} (positive : 0 < den) (above : q * den ≤ m) :
    q ≤ roundQuotient m den :=
  ((Nat.le_div_iff_mul_le positive).mpr above).trans (roundQuotient_bounds m positive).1

theorem roundQuotient_mono (positive : 0 < den) (h : m ≤ n) :
    roundQuotient m den ≤ roundQuotient n den := by
  have floors : m / den ≤ n / den := Nat.div_le_div_right h
  rcases Nat.lt_or_eq_of_le floors with apart | same
  · obtain ⟨-, bound⟩ := roundQuotient_bounds m positive
    have low := (roundQuotient_bounds n positive).1
    omega
  · -- With the same floor the remainders are in the same order as the numbers.
    have rests : m % den ≤ n % den := by
      have whole := Nat.div_add_mod m den
      have whole' := Nat.div_add_mod n den
      rw [same] at whole
      omega
    have below := Nat.mod_lt n positive
    simp only [roundQuotient, same]
    split <;> split <;> (try split) <;> (try split) <;> omega

theorem excessBits_le_log2 (n : Nat) : excessBits n ≤ Nat.log2 n := by
  unfold excessBits
  omega

/-- A power of two is not jumped over from below. -/
theorem roundUnits_le_two_pow {k : Nat} (below : m < 2 ^ k) (roomy : Nat.log2 m < k) :
    roundUnits m 1 ≤ 2 ^ k := by
  have fits : excessBits m ≤ k := (excessBits_le_log2 m).trans (Nat.le_of_lt roomy)
  have split : 2 ^ k = 2 ^ (k - excessBits m) * 2 ^ excessBits m := by
    rw [← Nat.pow_add, Nat.sub_add_cancel fits]
  simp only [roundUnits, Nat.div_one, Nat.one_mul]
  change roundQuotient m (2 ^ excessBits m) * 2 ^ excessBits m ≤ 2 ^ k
  rw [split]
  exact Nat.mul_le_mul_right _
    (roundQuotient_le (Nat.two_pow_pos _) (by rw [← split]; exact Nat.le_of_lt below))

/-- The greatest power of two in a number is not jumped over from above. -/
theorem two_pow_le_roundUnits (some : n ≠ 0) : 2 ^ Nat.log2 n ≤ roundUnits n 1 := by
  have split : 2 ^ Nat.log2 n = 2 ^ (Nat.log2 n - excessBits n) * 2 ^ excessBits n := by
    rw [← Nat.pow_add, Nat.sub_add_cancel (excessBits_le_log2 n)]
  simp only [roundUnits, Nat.div_one, Nat.one_mul]
  change 2 ^ Nat.log2 n ≤ roundQuotient n (2 ^ excessBits n) * 2 ^ excessBits n
  rw [split]
  exact Nat.mul_le_mul_right _
    (le_roundQuotient (Nat.two_pow_pos _) (by rw [← split]; exact Nat.log2_self_le some))

theorem roundUnits_mono (h : m ≤ n) : roundUnits m 1 ≤ roundUnits n 1 := by
  rcases Nat.eq_zero_or_pos m with rfl | positive
  · simp [roundUnits, roundQuotient]
  have some : n ≠ 0 := by omega
  have logs : Nat.log2 m ≤ Nat.log2 n :=
    (Nat.le_log2 some).mpr ((Nat.log2_self_le (by omega)).trans h)
  -- Between two binades lies a power of two. Within one both are rounded on the same scale.
  rcases Nat.lt_or_eq_of_le logs with apart | same
  · have below : m < 2 ^ Nat.log2 n :=
      (Nat.lt_log2_self).trans_le (Nat.pow_le_pow_right (by decide) apart)
    exact (roundUnits_le_two_pow below apart).trans (two_pow_le_roundUnits some)
  · have scales : excessBits m = excessBits n := by rw [excessBits, excessBits, same]
    simp only [roundUnits, Nat.div_one, Nat.one_mul, scales]
    exact Nat.mul_le_mul_right _ (roundQuotient_mono (Nat.two_pow_pos _) h)

/-! ## Sums -/

/-- The number nearest to a signed number of units. -/
def ofSum (sum : Int) : Binary64 := ofUnits (decide (sum < 0)) (roundUnits sum.natAbs 1)

theorem ofUnits_atMost_ofUnits {s t : Bool} (h : signedUnits s m ≤ signedUnits t n)
    (signs : t = true → s = true) : AtMost (ofUnits s m) (ofUnits t n) := by
  cases s <;> cases t <;> simp only [signedUnits] at h
  case false.true => simp at signs
  all_goals
    unfold ofUnits
    split <;> split <;> simp only [AtMost, lt, numericEq, signedUnits] <;> grind

theorem ofSum_mono {a b : Int} (h : a ≤ b) : AtMost (ofSum a) (ofSum b) := by
  refine ofUnits_atMost_ofUnits ?_ ?_
  · simp only [signedUnits, decide_eq_true_eq]
    split <;> split
    · have reversed : b.natAbs ≤ a.natAbs := by omega
      have rounded := roundUnits_mono reversed
      omega
    · omega
    · omega
    · have same : a.natAbs ≤ b.natAbs := by omega
      have rounded := roundUnits_mono same
      omega
  · simp only [decide_eq_true_eq]
    omega

theorem numericEq_comm (x y : Binary64) : x.numericEq y = y.numericEq x := by
  cases x <;> cases y <;> simp [numericEq, eq_comm]

/-- The sum of finite numbers is the nearest number, up to the sign of a zero. -/
theorem finite_add_finite (s t : Bool) (m n : Nat) :
    (Binary64.finite s m + .finite t n).numericEq
      (ofSum (signedUnits s m + signedUnits t n)) = true := by
  change (add _ _).numericEq _ = true
  simp only [add]
  split
  next cancelled =>
    have zero : ofSum 0 = .finite false 0 := by decide +kernel
    rw [cancelled, zero]
    simp [numericEq, signedUnits]
  next =>
    rw [ofSum, ofUnits]
    split <;> simp [numericEq]

namespace AtMost

theorem of_numericEq {x y : Binary64} (h : x.numericEq y = true) : AtMost x y := .inr (.inr h)

theorem infinite_left {z : Binary64} (number : z ≠ .nan) : AtMost (.infinite true) z := by
  cases z with
  | nan => exact absurd rfl number
  | infinite s => cases s <;> simp [AtMost, lt]
  | finite s m => simp [AtMost, lt]

theorem infinite_right {z : Binary64} (number : z ≠ .nan) : AtMost z (.infinite false) := by
  cases z with
  | nan => exact absurd rfl number
  | infinite s => cases s <;> simp [AtMost, lt]
  | finite s m => simp [AtMost, lt]

theorem finite_add_finite_ne_nan (s t : Bool) (m n : Nat) :
    Binary64.finite s m + .finite t n ≠ .nan := by
  intro undefined
  have sum := finite_add_finite s t m n
  simp [undefined, numericEq] at sum

/-- Adding a finite number on both sides keeps the order. -/
theorem add_finite {x y z : Binary64} (h : AtMost x y) (finite : z.isFinite = true) :
    AtMost (x + z) (y + z) := by
  obtain ⟨t, n, rfl⟩ : ∃ t n, z = .finite t n := by cases z <;> simp_all [isFinite]
  cases x with
  | nan =>
    cases y <;> simp [AtMost, lt, numericEq] at h
    exact refl _
  | infinite s =>
    cases y with
    | nan => simp [AtMost, lt, numericEq] at h
    | infinite s' => exact h
    | finite s' m' =>
      simp only [AtMost, lt, numericEq, reduceCtorEq, false_or, or_false] at h
      rw [h]
      exact infinite_left (finite_add_finite_ne_nan _ _ _ _)
  | finite s m =>
    cases y with
    | nan => simp [AtMost, lt, numericEq] at h
    | infinite s' =>
      simp only [AtMost, lt, numericEq, reduceCtorEq, false_or, or_false, Bool.not_eq_true'] at h
      rw [h]
      exact infinite_right (finite_add_finite_ne_nan _ _ _ _)
    | finite s' m' =>
      have below : signedUnits s m ≤ signedUnits s' m' := by
        rcases h with h | h | h
        · cases h
          exact Int.le_refl _
        all_goals
          simp only [lt, numericEq, decide_eq_true_eq] at h
          omega
      have sums : AtMost (ofSum (signedUnits s m + signedUnits t n))
          (ofSum (signedUnits s' m' + signedUnits t n)) := ofSum_mono (by omega)
      have low := finite_add_finite s t m n
      have high := finite_add_finite s' t m' n
      rw [numericEq_comm] at high
      exact (of_numericEq low).trans (sums.trans (of_numericEq high))

end AtMost

end ContractBench.Binary64
