import LayeredPage.Number.Shortest
import Mathlib.Algebra.Order.Field.Power
import Mathlib.Data.Rat.Cast.Order
import Mathlib.Tactic.FieldSimp
import Mathlib.Tactic.Linarith
import Mathlib.Tactic.Positivity
import Mathlib.Tactic.Ring

/-!
# The nearest value

Which quotients are rounded to a magnitude: those between the midpoints to its neighbours, and the
midpoints themselves if its significand is even. Below a power of two the next value is only half as
far.
-/

namespace LayeredPage.Number.Binary

def value (b : Binary) : ℚ := b.significand * 2 ^ b.exponent

/-- The magnitudes of the format, each with one significand. -/
structure Proper (b : Binary) : Prop where
  positive : 0 < b.significand
  narrow : b.significand < 2 * hiddenBit
  least : -1074 ≤ b.exponent
  most : b.exponent ≤ 971
  normal : hiddenBit ≤ b.significand ∨ b.exponent = -1074

/-- The bits of a magnitude, in which the hidden bit carries into the exponent. -/
def bits (b : Binary) : Nat := (b.exponent + 1074).toNat * hiddenBit + b.significand

def low (b : Binary) : ℚ := b.lowQuarters / 4 * 2 ^ b.exponent

def high (b : Binary) : ℚ := b.highQuarters / 4 * 2 ^ b.exponent

/-- The rational numbers that are rounded to a magnitude. -/
structure Attracts (b : Binary) (q : ℚ) : Prop where
  above : b.low ≤ q
  below : q ≤ b.high
  closed : q = b.low ∨ q = b.high → b.significand % 2 = 0

end LayeredPage.Number.Binary

namespace LayeredPage.Proofs

open Number

section Rounding

variable {n d s : Nat} {e : Int} {b : Binary} {q : ℚ}

/-- A power of a natural number is a quotient of natural numbers. -/
lemma zpow_eq_div (base : Nat) (positive : 0 < base) (e : Int) :
    (base : ℚ) ^ e = (base ^ e.toNat : Nat) / (base ^ (-e).toNat : Nat) := by
  have unit : (base : ℚ) ≠ 0 := by positivity
  push_cast
  obtain ⟨k, rfl | rfl⟩ := e.eq_nat_or_neg
  · simp
  · simp [zpow_neg]

lemma two_zpow_pos (e : Int) : (0 : ℚ) < 2 ^ e := by positivity

/-- A power of two is compared with a quotient by scaling one of its sides. -/
lemma scaled_le_iff (positive : 0 < d) (g : Int) :
    (if 0 ≤ g then d * Nat.pow 2 g.toNat ≤ n else d ≤ n * Nat.pow 2 (-g).toNat) ↔
    (2 : ℚ) ^ g ≤ n / d := by
  have denominator : (0 : ℚ) < d := by exact_mod_cast positive
  obtain ⟨k, rfl | rfl⟩ := g.eq_nat_or_neg
  · rw [if_pos (by simp), le_div_iff₀ denominator, mul_comm]
    simp only [zpow_natCast, Int.toNat_natCast, Nat.pow_eq]
    exact_mod_cast Iff.rfl
  · rcases k.eq_zero_or_pos with rfl | some
    · rw [if_pos (by simp), le_div_iff₀ denominator]
      simp
    · rw [if_neg (by omega), le_div_iff₀ denominator, zpow_neg,
        inv_mul_le_iff₀ (by positivity), mul_comm _ (n : ℚ)]
      simp only [zpow_natCast, neg_neg, Int.toNat_natCast, Nat.pow_eq]
      exact_mod_cast Iff.rfl

/-- Fifty-two binary places are the weight of the hidden bit. -/
lemma hiddenBit_mul (e : Int) : (2 : ℚ) ^ (e + 52) = hiddenBit * 2 ^ e := by
  rw [zpow_add₀ (by norm_num), hiddenBit]
  norm_num
  ring

/-- The binary logarithm is exact. -/
lemma binaryLog_spec (some : 0 < n) (positive : 0 < d) :
    (2 : ℚ) ^ binaryLog n d ≤ n / d ∧ (n / d : ℚ) < 2 ^ (binaryLog n d + 1) := by
  have denominator : (0 : ℚ) < d := by exact_mod_cast positive
  have n_low : (2 : ℚ) ^ n.log2 ≤ n := by exact_mod_cast Nat.log2_self_le some.ne'
  have n_high : (n : ℚ) < 2 ^ (n.log2 + 1) := by exact_mod_cast Nat.lt_log2_self
  have d_low : (2 : ℚ) ^ d.log2 ≤ d := by exact_mod_cast Nat.log2_self_le positive.ne'
  have d_high : (d : ℚ) < 2 ^ (d.log2 + 1) := by exact_mod_cast Nat.lt_log2_self
  have below : (n / d : ℚ) < 2 ^ ((n.log2 : Int) - d.log2 + 1) := by
    rw [div_lt_iff₀ denominator]
    calc (n : ℚ) < 2 ^ (n.log2 + 1) := n_high
      _ = 2 ^ ((n.log2 : Int) - d.log2 + 1) * 2 ^ d.log2 := by
        rw [← zpow_natCast, ← zpow_natCast, ← zpow_add₀ (by norm_num)]
        congr 1
        push_cast
        ring
      _ ≤ _ := by gcongr
  have above : (2 : ℚ) ^ ((n.log2 : Int) - d.log2 - 1) ≤ n / d := by
    rw [le_div_iff₀ denominator]
    calc (2 : ℚ) ^ ((n.log2 : Int) - d.log2 - 1) * d ≤ 2 ^ ((n.log2 : Int) - d.log2 -
      1) * 2 ^ (d.log2 + 1) := by gcongr
      _ = 2 ^ n.log2 := by
        rw [← zpow_natCast, ← zpow_natCast, ← zpow_add₀ (by norm_num)]
        congr 1
        push_cast
        ring
      _ ≤ n := n_low
  have reached_iff :
      (if 0 ≤ (n.log2 : Int) - d.log2 then d * Nat.pow 2 ((n.log2 : Int) - d.log2).toNat ≤ n
        else d ≤ n * Nat.pow 2 (-((n.log2 : Int) - d.log2)).toNat) ↔
        (2 : ℚ) ^ ((n.log2 : Int) - d.log2) ≤ n / d :=
    scaled_le_iff positive _
  unfold binaryLog
  simp only [reached_iff]
  split_ifs with reached
  · exact ⟨reached, below⟩
  · exact ⟨above, by simpa using reached⟩

/-- Rounding to an integer gives the one that is at most half a unit away, of two the even one. -/
lemma roundHalfEven_eq (positive : 0 < d) (above : (s : ℚ) - 1 / 2 ≤ n / d)
    (below : (n / d : ℚ) ≤ s + 1 / 2)
    (even : (n / d : ℚ) = s - 1 / 2 ∨ (n / d : ℚ) = s + 1 / 2 → s % 2 = 0) :
    roundHalfEven n d = s := by
  have denominator : (0 : ℚ) < d := by exact_mod_cast positive
  -- the bounds in natural numbers, twice as large
  have twice_above : 2 * (d * s) ≤ 2 * n + d := by
    have scaled := (le_div_iff₀ denominator).1 above
    have : (2 * (d * s) : ℚ) ≤ 2 * n + d := by linarith
    exact_mod_cast this
  have twice_below : 2 * n ≤ 2 * (d * s) + d := by
    have scaled := (div_le_iff₀ denominator).1 below
    have : (2 * n : ℚ) ≤ 2 * (d * s) + d := by linarith
    exact_mod_cast this
  have tie : 2 * n + d = 2 * (d * s) ∨ 2 * n = 2 * (d * s) + d → s % 2 = 0 := by
    rintro (same | same)
    · have : (2 * n + d : ℚ) = 2 * (d * s) := by exact_mod_cast same
      exact even (.inl (by rw [div_eq_iff denominator.ne']; linarith))
    · have : (2 * n : ℚ) = 2 * (d * s) + d := by exact_mod_cast same
      exact even (.inr (by rw [div_eq_iff denominator.ne']; linarith))
  have split : d * (n / d) + n % d = n := Nat.div_add_mod n d
  have small : n % d < d := Nat.mod_lt n positive
  have at_least : n / d ≤ s := by
    by_contra less
    have : d * (s + 1) ≤ d * (n / d) := Nat.mul_le_mul_left d (by omega)
    rw [Nat.mul_add] at this
    omega
  have at_most : s ≤ n / d + 1 := by
    by_contra more
    have : d * (n / d + 2) ≤ d * s := Nat.mul_le_mul_left d (by omega)
    rw [Nat.mul_add] at this
    omega
  unfold roundHalfEven
  obtain same | same : s = n / d ∨ s = n / d + 1 := by omega
  · rw [same] at twice_above twice_below tie ⊢
    grind
  · rw [same, Nat.mul_add] at twice_above twice_below tie
    rw [same]
    grind

/-- The significand for a given exponent. -/
lemma scaledSignificand_eq (positive : 0 < d) {E : Int} (above : (s - 1 / 2) * 2 ^ E ≤ (n / d : ℚ))
    (below : (n / d : ℚ) ≤ (s + 1 / 2) * 2 ^ E)
    (even : (n / d : ℚ) = (s - 1 / 2) * 2 ^ E ∨ (n / d : ℚ) = (s + 1 / 2) * 2 ^ E → s % 2 = 0) :
    (if 0 ≤ E then roundHalfEven n (d * Nat.pow 2 E.toNat) else roundHalfEven
      (n * Nat.pow 2 (-E).toNat) d) = s := by
  have step := two_zpow_pos E
  split_ifs with sign
  · obtain ⟨k, rfl⟩ := Int.eq_ofNat_of_zero_le sign
    simp only [Int.toNat_natCast, Nat.pow_eq]
    have scale : (n / (d * 2 ^ k : Nat) : ℚ) = n / d / 2 ^ (k : Int) := by
      push_cast
      rw [zpow_natCast, div_div]
    refine roundHalfEven_eq (by positivity) ?_ ?_ ?_ <;> rw [scale]
    · exact (le_div_iff₀ step).2 above
    · exact (div_le_iff₀ step).2 below
    · simpa only [div_eq_iff step.ne'] using even
  · obtain ⟨k, rfl⟩ : ∃ k : Nat, E = -k := ⟨(-E).toNat, by omega⟩
    simp only [neg_neg, Int.toNat_natCast, Nat.pow_eq]
    have scale : ((n * 2 ^ k : Nat) / d : ℚ) = n / d / 2 ^ (-k : Int) := by
      push_cast
      rw [zpow_neg, zpow_natCast, div_inv_eq_mul]
      ring
    refine roundHalfEven_eq positive ?_ ?_ ?_ <;> rw [scale]
    · exact (le_div_iff₀ step).2 above
    · exact (div_le_iff₀ step).2 below
    · simpa only [div_eq_iff step.ne'] using even

/-- The exponent is the least one with which the quotient fits the significand. -/
lemma nearestBits?_of_exponent (positive : 0 < d) {E : Int} (least : -1074 ≤ E)
    (filled : E = -1074 ∧ n ≠ 0 ∨ (2 : ℚ) ^ (E + 52) ≤ n / d) (fits : (n / d : ℚ) < 2 ^ (E + 53))
    (above : (s - 1 / 2) * 2 ^ E ≤ (n / d : ℚ)) (below : (n / d : ℚ) ≤ (s + 1 / 2) * 2 ^ E)
    (even : (n / d : ℚ) = (s - 1 / 2) * 2 ^ E ∨ (n / d : ℚ) = (s + 1 / 2) * 2 ^ E → s % 2 = 0)
    (finite : (E + 1074).toNat * hiddenBit + s < 2047 * hiddenBit) :
    nearestBits? n d = some ((E + 1074).toNat * hiddenBit + s) := by
  have some : 0 < n := by
    rcases filled with filled | filled
    · omega
    · by_contra none
      obtain rfl : n = 0 := by omega
      have := two_zpow_pos (E + 52)
      simp at filled
      linarith
  obtain ⟨log_low, log_high⟩ := binaryLog_spec some positive
  have exponent : max (binaryLog n d - 52) (-1074) = E := by
    have less : binaryLog n d < E + 53 :=
      (zpow_lt_zpow_iff_right₀ (by norm_num : (1 : ℚ) < 2)).1 (log_low.trans_lt fits)
    rcases filled with ⟨filled, -⟩ | filled
    · omega
    · have more : E + 52 < binaryLog n d + 1 :=
        (zpow_lt_zpow_iff_right₀ (by norm_num : (1 : ℚ) < 2)).1 (filled.trans_lt log_high)
      omega
  simp only [nearestBits?, exponent, scaledSignificand_eq positive above below even]
  rw [if_neg (by simpa using some.ne'), if_pos finite]

lemma high_eq (b : Binary) : b.high = (b.significand + 1 / 2) * 2 ^ b.exponent := by
  simp only [Binary.high, Binary.highQuarters]
  push_cast
  ring

/-- The lower end is half a unit away, or a quarter below a power of two. -/
lemma low_eq (proper : b.Proper) : b.low = (b.significand - 1 / 2) * 2 ^ b.exponent ∨
    b.significand = hiddenBit ∧ -1074 < b.exponent ∧
    b.low = (b.significand - 1 / 4) * 2 ^ b.exponent := by
  have positive := proper.positive
  simp only [Binary.low, Binary.lowQuarters]
  split_ifs with power
  · simp only [Bool.and_eq_true, beq_iff_eq, decide_eq_true_eq] at power
    refine .inr ⟨power.1, power.2, ?_⟩
    rw [Nat.cast_sub (by omega)]
    push_cast
    ring
  · refine .inl ?_
    rw [Nat.cast_sub (by omega)]
    push_cast
    ring

/-- The lower end is at least half a unit away. -/
lemma le_low (proper : b.Proper) : (b.significand - 1 / 2) * 2 ^ b.exponent ≤ b.low := by
  have step := two_zpow_pos b.exponent
  rcases low_eq proper with same | ⟨-, -, same⟩ <;> rw [same]
  nlinarith

/-- Only an even significand keeps a value half a unit away. -/
lemma even_of_attracts (proper : b.Proper) (attracts : b.Attracts q)
    (tie : q = (b.significand - 1 / 2) * 2 ^ b.exponent ∨
      q = (b.significand + 1 / 2) * 2 ^ b.exponent) :
    b.significand % 2 = 0 := by
  rcases tie with tie | tie
  · exact attracts.closed (.inl (le_antisymm (tie ▸ le_low proper) attracts.above))
  · exact attracts.closed (.inr (tie.trans (high_eq b).symm))

/-- Below the least significand there is only the interval of a power of two. -/
lemma power_of_attracts (proper : b.Proper) (attracts : b.Attracts q) (least : -1074 < b.exponent)
    (small : q < 2 ^ (b.exponent + 52)) :
    b.significand = hiddenBit ∧ (hiddenBit - 1 / 4) * 2 ^ b.exponent ≤ q := by
  have step := two_zpow_pos b.exponent
  have large : hiddenBit ≤ b.significand := proper.normal.resolve_right (by omega)
  rw [hiddenBit_mul] at small
  have same : b.significand = hiddenBit := by
    by_contra other
    have more : (hiddenBit + 1 : ℚ) ≤ b.significand := by
      exact_mod_cast (by omega : hiddenBit + 1 ≤ b.significand)
    have := (le_low proper).trans attracts.above
    nlinarith
  refine ⟨same, ?_⟩
  have above := attracts.above
  rw [Binary.low, Binary.lowQuarters, if_pos (by simp [same, least]), same,
    Nat.cast_sub (by decide)] at above
  refine le_trans (le_of_eq ?_) above
  push_cast
  ring

lemma bits_lt (proper : b.Proper) : b.bits < 2047 * hiddenBit := by
  have most := proper.most
  have narrow := proper.narrow
  have exponent : (b.exponent + 1074).toNat ≤ 2045 := by omega
  have := Nat.mul_le_mul_right hiddenBit exponent
  simp only [Binary.bits]
  omega

lemma pos_of_attracts (proper : b.Proper) (attracts : b.Attracts q) : 0 < q := by
  have some : (1 : ℚ) ≤ b.significand := by exact_mod_cast proper.positive
  have half : (0 : ℚ) < b.significand - 1 / 2 := by linarith only [some]
  exact (mul_pos half (two_zpow_pos b.exponent)).trans_le ((le_low proper).trans attracts.above)

/-- Just below a power of two the exponent is one less, and the significand is carried. -/
lemma nearestBits?_below_power (proper : b.Proper) (positive : 0 < d)
    (attracts : b.Attracts (n / d))
    (more : -1074 < b.exponent) (small : (n / d : ℚ) < 2 ^ (b.exponent + 52)) :
    nearestBits? n d = some b.bits := by
  obtain ⟨same, above⟩ := power_of_attracts proper attracts more small
  have half : (2 : ℚ) ^ b.exponent = 2 * 2 ^ (b.exponent - 1) := by
    rw [zpow_sub_one₀ (by norm_num)]
    ring
  have bits : (b.exponent - 1 + 1074).toNat * hiddenBit + 2 * hiddenBit = b.bits := by
    rw [Binary.bits, same, show (b.exponent + 1074).toNat =
      (b.exponent - 1 + 1074).toNat + 1 by omega]
    ring
  have finite := bits_lt proper
  rw [hiddenBit_mul, half] at small
  rw [half] at above
  have step := two_zpow_pos (b.exponent - 1)
  have carry : ((2 * hiddenBit : Nat) : ℚ) = 2 * hiddenBit := by push_cast; ring
  have large : (1 : ℚ) ≤ hiddenBit := by norm_num [hiddenBit]
  rw [← bits] at finite ⊢
  refine nearestBits?_of_exponent positive (by omega) (.inr ?_) ?_ ?_ ?_
    (fun _ => Nat.mul_mod_right 2 hiddenBit) finite
  · rw [hiddenBit_mul]
    nlinarith only [above, step, large]
  · rw [show b.exponent - 1 + 53 = b.exponent - 1 + 52 + 1 by ring,
      zpow_add_one₀ (by norm_num), hiddenBit_mul]
    linarith only [small]
  · rw [carry]
    linarith only [above]
  · rw [carry]
    nlinarith only [small, step]

/-- A quotient in the interval of a magnitude is rounded to it. -/
theorem nearestBits?_eq (proper : b.Proper) (positive : 0 < d) (attracts : b.Attracts (n / d)) :
    nearestBits? n d = some b.bits := by
  have least := proper.least
  have some : n ≠ 0 := by
    rintro rfl
    simpa using pos_of_attracts proper attracts
  by_cases small : -1074 < b.exponent ∧ (n / d : ℚ) < 2 ^ (b.exponent + 52)
  · exact nearestBits?_below_power proper positive attracts small.1 small.2
  · refine nearestBits?_of_exponent positive least ?_ ?_ ((le_low proper).trans attracts.above)
      (attracts.below.trans_eq (high_eq b)) (even_of_attracts proper attracts) (bits_lt proper)
    · by_cases lowest : b.exponent = -1074
      · exact .inl ⟨lowest, some⟩
      · exact .inr (not_lt.1 fun less => small ⟨by omega, less⟩)
    · have narrow : (b.significand + 1 : ℚ) ≤ 2 * hiddenBit := by exact_mod_cast proper.narrow
      have below := attracts.below.trans_eq (high_eq b)
      have step := two_zpow_pos b.exponent
      rw [show b.exponent + 53 = b.exponent + 52 + 1 by ring,
        zpow_add_one₀ (by norm_num), hiddenBit_mul]
      nlinarith only [narrow, below, step]

end Rounding

end LayeredPage.Proofs
