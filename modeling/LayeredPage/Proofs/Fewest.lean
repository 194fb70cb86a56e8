import LayeredPage.Proofs.Nearest

/-!
# The shortest digits stay in the interval

A point that `onGrid?` takes lies in the rounding interval, and a grid finer than the interval has
such a point. The sixteenth grid below the leading digit is that fine, since a significand has at
most sixteen decimal places.
-/

namespace LayeredPage.Number

def Decimal.value (p : Decimal) : ℚ := p.digits * 10 ^ p.exponent

end LayeredPage.Number

namespace LayeredPage.Proofs

open Number

section Grids

variable {b : Binary} {g : Int} {tie : Tie} {p : Decimal}

/-- Quarters of the last place and steps of the grid are counted in one unit. -/
lemma exists_unit (b : Binary) (g : Int) :
    ∃ c : ℚ, 0 < c ∧ (b.quarterNumerator g : ℚ) = c * (2 ^ b.exponent / 4) ∧
      (b.quarterDenominator g : ℚ) = c * 10 ^ g := by
  have two := zpow_eq_div 2 (by decide) (b.exponent - 2)
  have ten := zpow_eq_div 10 (by decide) g
  rw [neg_sub, zpow_sub₀ (by norm_num)] at two
  push_cast at two ten
  simp only [Binary.quarterNumerator, Binary.quarterDenominator, Nat.pow_eq]
  refine ⟨2 ^ (2 - b.exponent).toNat * 10 ^ (-g).toNat, by positivity, ?_, ?_⟩
  · rw [two]
    push_cast
    field_simp
  · rw [ten]
    push_cast
    field_simp

/-- What is compared on a grid is compared as well in the rational numbers. -/
lemma quarters_cmp (b : Binary) (g : Int) (quarters steps : Nat) :
    (quarters * b.quarterNumerator g < steps * b.quarterDenominator g ↔
      (quarters / 4 * 2 ^ b.exponent : ℚ) < steps * 10 ^ g) ∧
    (quarters * b.quarterNumerator g = steps * b.quarterDenominator g ↔
      (quarters / 4 * 2 ^ b.exponent : ℚ) = steps * 10 ^ g) ∧
    (steps * b.quarterDenominator g < quarters * b.quarterNumerator g ↔
      (steps * 10 ^ g : ℚ) < quarters / 4 * 2 ^ b.exponent) := by
  obtain ⟨c, positive, numerator, denominator⟩ := exists_unit b g
  have left : (quarters * b.quarterNumerator g : ℚ) = c * (quarters / 4 * 2 ^ b.exponent) := by
    rw [numerator]
    ring
  have right : (steps * b.quarterDenominator g : ℚ) = c * (steps * 10 ^ g) := by
    rw [denominator]
    ring
  rw [← Nat.cast_lt (α := ℚ), ← Nat.cast_lt (α := ℚ), ← Nat.cast_inj (R := ℚ), Nat.cast_mul,
    Nat.cast_mul, left, right,
    mul_lt_mul_iff_right₀ positive, mul_lt_mul_iff_right₀ positive, mul_right_inj' positive.ne']
  exact ⟨Iff.rfl, Iff.rfl, Iff.rfl⟩

lemma value_lt_high (b : Binary) : b.value < b.high := by
  have step := two_zpow_pos b.exponent
  rw [high_eq, Binary.value]
  linarith

lemma low_lt_value (proper : b.Proper) : b.low < b.value := by
  have step := two_zpow_pos b.exponent
  rcases low_eq proper with same | ⟨-, -, same⟩ <;> rw [same, Binary.value] <;> linarith

/-- The interval is wider than half a unit and a quarter. -/
lemma width (proper : b.Proper) : b.low + 2 ^ b.exponent ≤ b.high ∨
    b.significand = hiddenBit ∧ b.low + 3 / 4 * 2 ^ b.exponent ≤ b.high := by
  rcases low_eq proper with same | ⟨power, -, same⟩
  · exact .inl (by rw [same, high_eq]; linarith)
  · exact .inr ⟨power, by rw [same, high_eq]; linarith⟩

/-- The floor of a value on a grid. -/
def floor (b : Binary) (g : Int) : Nat :=
  4 * b.significand * b.quarterNumerator g / b.quarterDenominator g

lemma floor_spec (b : Binary) (g : Int) :
    (floor b g * 10 ^ g : ℚ) ≤ b.value ∧ b.value < (floor b g + 1 : Nat) * 10 ^ g := by
  have positive : 0 < b.quarterDenominator g := by
    simp only [Binary.quarterDenominator, Nat.pow_eq]
    positivity
  have value : (4 * b.significand : Nat) / 4 * 2 ^ b.exponent = b.value := by
    rw [Binary.value]
    push_cast
    ring
  rw [← value]
  refine ⟨not_lt.1 fun less => ?_, ?_⟩
  · exact (Nat.div_mul_le_self _ _).not_gt ((quarters_cmp b g _ _).1.2 less)
  · exact (quarters_cmp b g _ _).1.1 (Nat.lt_mul_of_div_lt (Nat.lt_succ_self _) positive)

/-- Whether a point below the value lies in the interval. -/
def reachesLow (b : Binary) (g : Int) (steps : Nat) : Bool :=
  b.lowQuarters * b.quarterNumerator g < steps * b.quarterDenominator g ||
    (b.significand % 2 == 0 &&
      b.lowQuarters * b.quarterNumerator g == steps * b.quarterDenominator g)

/-- Whether a point above the value lies in the interval. -/
def reachesHigh (b : Binary) (g : Int) (steps : Nat) : Bool :=
  steps * b.quarterDenominator g < b.highQuarters * b.quarterNumerator g ||
    (b.significand % 2 == 0 &&
      b.highQuarters * b.quarterNumerator g == steps * b.quarterDenominator g)

lemma attracts_of_reachesLow {steps : Nat} (reaches : reachesLow b g steps = true)
    (below : (steps * 10 ^ g : ℚ) ≤ b.value) : b.Attracts (steps * 10 ^ g) := by
  obtain ⟨less, same, -⟩ := quarters_cmp b g b.lowQuarters steps
  have high := below.trans_lt (value_lt_high b)
  simp only [reachesLow, Bool.or_eq_true, decide_eq_true_eq, Bool.and_eq_true, beq_iff_eq,
    less, same] at reaches
  rcases reaches with inside | ⟨even, edge⟩
  · refine ⟨inside.le, high.le, ?_⟩
    rintro (edge | edge)
    · exact absurd edge inside.ne'
    · exact absurd edge high.ne
  · exact ⟨edge.le, high.le, fun _ => even⟩

lemma attracts_of_reachesHigh {steps : Nat} (proper : b.Proper)
    (reaches : reachesHigh b g steps = true)
    (above : b.value ≤ (steps * 10 ^ g : ℚ)) : b.Attracts (steps * 10 ^ g) := by
  obtain ⟨-, same, more⟩ := quarters_cmp b g b.highQuarters steps
  have low := (low_lt_value proper).trans_le above
  simp only [reachesHigh, Bool.or_eq_true, decide_eq_true_eq, Bool.and_eq_true, beq_iff_eq,
    more, same] at reaches
  rcases reaches with inside | ⟨even, edge⟩
  · refine ⟨low.le, inside.le, ?_⟩
    rintro (edge | edge)
    · exact absurd edge low.ne'
    · exact absurd edge inside.ne
  · exact ⟨low.le, edge.ge, fun _ => even⟩

/-- A grid offers the neighbours of the value on it, as far as they lie in the interval. -/
lemma onGrid?_cases (tie : Tie) (b : Binary) (g : Int) :
    b.onGrid? tie g = none ∧ reachesLow b g (floor b g) = false ∧
    reachesHigh b g (floor b g + 1) = false ∨
    b.onGrid? tie g = some ⟨floor b g, g⟩ ∧ reachesLow b g (floor b g) = true ∨
    b.onGrid? tie g = some ⟨floor b g + 1, g⟩ ∧ reachesHigh b g (floor b g + 1) = true := by
  cases low : reachesLow b g (floor b g) <;> cases high : reachesHigh b g (floor b g + 1)
  all_goals
    unfold reachesLow floor at low
    unfold reachesHigh floor at high
    simp only [Binary.onGrid?, low, high]
  · simp
  · simp [floor]
  · simp [floor]
  · cases tie <;> grind [floor]

/-- A point that stands for a value lies in its interval. -/
lemma attracts_of_onGrid? (proper : b.Proper) (found : b.onGrid? tie g = some p) :
    b.Attracts p.value := by
  obtain ⟨floor_le, lt_next⟩ := floor_spec b g
  rcases onGrid?_cases tie b g with ⟨nothing, -⟩ | ⟨point, reaches⟩ | ⟨point, reaches⟩
  · rw [nothing] at found
    exact nomatch found
  · obtain rfl := Option.some.inj (point.symm.trans found)
    exact attracts_of_reachesLow reaches floor_le
  · obtain rfl := Option.some.inj (point.symm.trans found)
    exact attracts_of_reachesHigh proper reaches lt_next.le

/-- A grid finer than the interval has a point in it. -/
lemma onGrid?_isSome (fine : b.low + 10 ^ g < b.high) : (b.onGrid? tie g).isSome := by
  rcases onGrid?_cases tie b g with ⟨-, low, high⟩ | ⟨point, -⟩ | ⟨point, -⟩
  · simp only [reachesLow, reachesHigh, Bool.or_eq_false_iff, decide_eq_false_iff_not,
      (quarters_cmp b g _ _).1, (quarters_cmp b g _ _).2.2] at low high
    have below := not_lt.1 low.1
    have above := not_lt.1 high.1
    simp only [Binary.low, Binary.high] at fine
    push_cast at above
    linarith
  · rw [point, Option.isSome_some]
  · rw [point, Option.isSome_some]

/-- The logarithm 0.30103 of two is exact up to one place. -/
lemma ten_zpow_le {power : Int} {L : Int} (small : L ≤ 1100) (large : -1100 ≤ L)
    (bound : 100000 * power ≤ 30103 * L) :
    (10 : ℚ) ^ (power - 1) ≤ 2 ^ L := by
  rcases le_total 0 L with sign | sign
  · rw [← pow_le_pow_iff_left₀ (by positivity) (by positivity) (by decide : 196 ≠ 0)]
    calc ((10 : ℚ) ^ (power - 1)) ^ 196 = 10 ^ ((power - 1) * 196) := by rw [zpow_mul]; norm_cast
      _ ≤ 10 ^ (59 * L) := zpow_le_zpow_right₀ (by norm_num) (by omega)
      _ = (10 ^ 59) ^ L := by rw [zpow_mul]; norm_cast
      _ ≤ (2 ^ 196) ^ L := zpow_le_zpow_left₀ sign (by positivity) (by norm_num)
      _ = (2 ^ L) ^ 196 := by rw [← zpow_natCast, ← zpow_natCast, zpow_comm]
  · rw [← pow_le_pow_iff_left₀ (by positivity) (by positivity) (by decide : 93 ≠ 0)]
    calc ((10 : ℚ) ^ (power - 1)) ^ 93 = 10 ^ ((power - 1) * 93) := by rw [zpow_mul]; norm_cast
      _ ≤ 10 ^ (28 * L) := zpow_le_zpow_right₀ (by norm_num) (by omega)
      _ = (10 ^ 28) ^ L := by rw [zpow_mul]; norm_cast
      _ ≤ (2 ^ 93) ^ L := by
        obtain ⟨k, rfl⟩ : ∃ k : Nat, L = -k := ⟨L.natAbs, by omega⟩
        simp only [zpow_neg, zpow_natCast]
        gcongr
        norm_num
      _ = (2 ^ L) ^ 93 := by rw [← zpow_natCast, ← zpow_natCast, zpow_comm]

/-- The leading digit's power of ten is not above the value. -/
lemma decimalLog_le (proper : b.Proper) : (10 : ℚ) ^ b.decimalLog ≤ b.value := by
  have reaches_iff (power : Int) : b.reaches power = true ↔ (10 : ℚ) ^ power ≤ b.value := by
    have cmp := (quarters_cmp b power (4 * b.significand) 1).1
    have value : (4 * b.significand : Nat) / 4 * 2 ^ b.exponent = b.value := by
      rw [Binary.value]
      push_cast
      ring
    rw [value, Nat.cast_one, one_mul, one_mul] at cmp
    rw [Binary.reaches, decide_eq_true_eq, ← not_lt, cmp, not_lt]
  simp only [Binary.decimalLog]
  split_ifs with next here
  · exact (reaches_iff _).1 next
  · exact (reaches_iff _).1 here
  · have length : b.significand.log2 < 53 :=
      (Nat.log2_lt proper.positive.ne').2 (by simpa [hiddenBit] using proper.narrow)
    have least := proper.least
    have most := proper.most
    have guess : 100000 * Int.fdiv (((b.significand.log2 : Int) + b.exponent) * 30103) 100000 ≤
        30103 * ((b.significand.log2 : Int) + b.exponent) := by
      rw [Int.fdiv_eq_ediv_of_nonneg _ (by decide)]
      omega
    refine (ten_zpow_le (by omega) (by omega) guess).trans ?_
    rw [zpow_add₀ (by norm_num), Binary.value, zpow_natCast]
    gcongr
    exact_mod_cast Nat.log2_self_le proper.positive.ne'

/-- The shortest digits lie in the interval. -/
theorem attracts_shortest (tie : Tie) (proper : b.Proper) : b.Attracts (b.shortest tie).value := by
  have step := two_zpow_pos b.exponent
  have fine : b.low + 10 ^ (b.decimalLog - (16 : Nat)) < b.high := by
    have leading := decimalLog_le proper
    have grid : (10 : ℚ) ^ b.decimalLog = 10 ^ 16 * 10 ^ (b.decimalLog - (16 : Nat)) := by
      rw [zpow_sub₀ (by norm_num), zpow_natCast]
      field_simp
    rw [grid, Binary.value] at leading
    rcases width proper with wide | ⟨power, wide⟩
    · have narrow : (b.significand : ℚ) ≤ 2 ^ 53 := by exact_mod_cast proper.narrow.le
      nlinarith
    · have size : (hiddenBit : ℚ) = 4503599627370496 := by norm_num [hiddenBit]
      rw [power, size] at leading
      linarith
  have found :
      ((List.range 17).findSome? fun (n : Nat) => b.onGrid? tie (b.decimalLog - n)).isSome :=
    List.findSome?_isSome_iff.2 ⟨16, by simp, onGrid?_isSome fine⟩
  obtain ⟨p, point⟩ := Option.isSome_iff_exists.1 found
  rw [Binary.shortest, point, Option.getD_some]
  obtain ⟨n, -, here⟩ := List.exists_of_findSome?_eq_some point
  exact attracts_of_onGrid? proper here

end Grids

end LayeredPage.Proofs
