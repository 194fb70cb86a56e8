import LayeredPage.Json.Reader
import LayeredPage.Proofs.Fewest
import Mathlib

/-!
# Numerals

The texts of numbers in messages and what is read from them. A finite number is laid out as digits,
perhaps with a point and a power of ten, whose quotient lies in the rounding interval of the number:
it is read back exactly.
-/

namespace LayeredPage.Number

/-- An unsigned number as it is written. -/
structure Numeral where
  whole : List Char
  fraction : Option (List Char)
  power : Option Int

namespace Numeral

def fractionChars : Option (List Char) → List Char
  | none => []
  | some digits => '.' :: digits

def powerChars : Option Int → List Char
  | none => []
  | some power => 'e' :: (if power < 0 then '-' else '+') :: Nat.toDigits 10 power.natAbs

def chars (n : Numeral) : List Char := n.whole ++ (fractionChars n.fraction ++ powerChars n.power)

/-- Digits on either side of the point that is written, and no zero in front of another digit. -/
structure Sound (n : Numeral) : Prop where
  whole : ∀ c ∈ n.whole, c.isDigit
  started : n.whole ≠ []
  leading : n.whole.length = 1 ∨ n.whole.head? ≠ some '0'
  fraction : ∀ digits ∈ n.fraction, digits ≠ [] ∧ ∀ c ∈ digits, c.isDigit

def digits (n : Numeral) : Nat := digitsValue (n.whole ++ n.fraction.getD [])

def exponent (n : Numeral) : Int := n.power.getD 0 - (n.fraction.getD []).length

end Numeral

/-- Values that are numbers and not infinite. -/
def Reading.isFinite : Reading → Bool
  | .zero _ | .finite _ _ => true
  | .notANumber | .infinite _ => false

end LayeredPage.Number

namespace LayeredPage.Proofs

open Number

/-! ## Reading -/

section Reading

variable {n : Numeral} {negative : Bool} {digits rest : List Char}

/-- What may follow a number. -/
def Stops (rest : List Char) : Prop :=
  ∀ c ∈ rest.head?, c.isDigit = false ∧ c ≠ '.' ∧ c ≠ 'e' ∧ c ≠ 'E'

lemma span_digits (run : ∀ c ∈ digits, c.isDigit) (stop : ∀ c ∈ rest.head?, c.isDigit = false) :
    (digits ++ rest).takeWhile Char.isDigit = digits ∧
    (digits ++ rest).dropWhile Char.isDigit = rest := by
  rw [List.takeWhile_append_of_pos run, List.dropWhile_append_of_pos run]
  cases rest with
  | nil => simp
  | cons c rest =>
    have last : c.isDigit = false := stop c rfl
    simp [last]

lemma toDigits_run (k : Nat) : ∀ c ∈ Nat.toDigits 10 k, c.isDigit := fun _ digit =>
  Nat.isDigit_of_mem_toDigits (by decide) le_rfl digit

lemma digitsValue_toDigits (k : Nat) : digitsValue (Nat.toDigits 10 k) = k :=
  Nat.ofDigitChars_ten_toDigits

/-- A power of ten is read up to what stops a number. -/
lemma power?_powerChars (power : Option Int) (stops : Stops rest) :
    Json.power? (Numeral.powerChars power ++ rest) = some (power, rest) := by
  cases power with
  | none =>
    cases rest with
    | nil => rfl
    | cons c rest =>
      obtain ⟨-, -, small, capital⟩ := stops c rfl
      simp [Numeral.powerChars, Json.power?, small, capital]
  | some power =>
    obtain ⟨taken, dropped⟩ :=
      span_digits (toDigits_run power.natAbs) fun c first => (stops c first).1
    by_cases sign : power < 0
    · simp only [Numeral.powerChars, if_pos sign, List.cons_append, Json.power?, splitSign, taken,
        dropped, digitsValue_toDigits]
      simp [abs_of_neg sign]
    · simp only [Numeral.powerChars, if_neg sign, List.cons_append, Json.power?, splitSign, taken,
        dropped, digitsValue_toDigits]
      simp [abs_of_nonneg (not_lt.1 sign)]

lemma stops_powerChars (power : Option Int) (stops : Stops rest) :
    ∀ c ∈ (Numeral.powerChars power ++ rest).head?, c.isDigit = false ∧ c ≠ '.' := by
  cases power with
  | none => exact fun c first => ⟨(stops c first).1, (stops c first).2.1⟩
  | some power => simp [Numeral.powerChars]

lemma fraction?_fractionChars {fraction : Option (List Char)}
    (sound : ∀ digits ∈ fraction, digits ≠ [] ∧ ∀ c ∈ digits, c.isDigit)
    (stops : ∀ c ∈ rest.head?, c.isDigit = false ∧ c ≠ '.') :
    Json.fraction? (Numeral.fractionChars fraction ++ rest) = some (fraction, rest) := by
  cases fraction with
  | none =>
    cases rest with
    | nil => rfl
    | cons c rest => simp [Numeral.fractionChars, Json.fraction?, (stops c rfl).2]
  | some digits =>
    obtain ⟨started, run⟩ := sound digits rfl
    obtain ⟨taken, dropped⟩ := span_digits run fun c first => (stops c first).1
    simp [Numeral.fractionChars, Json.fraction?, taken, dropped, started]

/-- A numeral is read up to what stops a number: whole if it has neither point nor power, else as
the value nearest to it. -/
lemma number?_chars (sound : n.Sound) (stops : Stops rest) (negative : Bool) :
    Json.number? .nearest negative (n.chars ++ rest) =
      match if n.fraction.isNone && n.power.isNone then Json.whole? negative (digitsValue
        n.whole) else none with
      | some k => some (.int k, rest)
      | none => (ofDecimal? negative n.digits n.exponent).map fun x => (.float x, rest) := by
  have tail :
      ∀ c ∈ (Numeral.fractionChars n.fraction ++ (Numeral.powerChars n.power ++ rest)).head?,
      c.isDigit = false := by
    cases n.fraction with
    | none => exact fun c first => (stops_powerChars n.power stops c first).1
    | some digits => simp [Numeral.fractionChars]
  obtain ⟨taken, dropped⟩ := span_digits sound.whole tail
  have shape : (n.whole.isEmpty || n.whole.length != 1 && n.whole.head? == some '0') = false := by
    have := sound.started
    rcases sound.leading with one | leading
    · simp [this, one]
    · simp [this, leading]
  simp only [Numeral.chars, List.append_assoc, Json.number?, taken, dropped, shape,
    fraction?_fractionChars sound.fraction (stops_powerChars n.power stops)]
  simp only [Bool.false_eq_true, if_false, Option.bind_eq_bind, Option.bind_some,
    power?_powerChars n.power stops, Option.pure_def,
    Json.Decimals.value?, ← Numeral.digits.eq_def, ← Numeral.exponent.eq_def]
  cases if n.fraction.isNone && n.power.isNone then Json.whole? negative
    (digitsValue n.whole) else none with
  | some k => rfl
  | none => exact (Option.map_eq_bind ..).symm

end Reading

/-! ## Writing -/

section Writing

variable {d : Decimal} {b : Binary} {l : Layout} {n : Numeral} {digits : List Char} {point : Int}

lemma digitsValue_append (ds es : List Char) :
    digitsValue (ds ++ es) = digitsValue ds * 10 ^ es.length + digitsValue es := by
  induction es using List.reverseRecOn with
  | nil => simp [digitsValue]
  | append_singleton es c ih =>
    simp only [digitsValue, List.foldl_append, List.foldl_cons, List.foldl_nil, List.length_append,
      List.length_singleton] at *
    rw [ih]
    ring

lemma digitsValue_zeros (k : Nat) : digitsValue (Layout.zeros k) = 0 := by
  induction k with
  | zero => rfl
  | succ k ih =>
    rw [Layout.zeros, List.replicate_succ', digitsValue_append, ← Layout.zeros, ih]
    rfl

lemma zeros_run (k : Nat) : ∀ c ∈ Layout.zeros k, c.isDigit := by
  intro c digit
  rw [List.eq_of_mem_replicate digit]
  rfl

/-- A positive number does not start with a zero. -/
lemma head?_toDigits {k : Nat} (positive : 0 < k) : (Nat.toDigits 10 k).head? ≠ some '0' := by
  induction k using Nat.strong_induction_on with
  | _ k ih =>
    rw [Nat.toDigits_eq_if (by decide)]
    split_ifs with small
    · interval_cases k <;> decide
    · rw [List.head?_append_of_ne_nil _ Nat.toDigits_ne_nil]
      exact ih (k / 10) (by omega) (by omega)

/-- What is trimmed off digits is a run of zeros. -/
lemma exists_zeros (digits : List Char) :
    ∃ k, digits = (digits.reverse.dropWhile (· == '0')).reverse ++ Layout.zeros k := by
  refine ⟨(digits.reverse.takeWhile (· == '0')).length, List.reverse_injective ?_⟩
  have zeros :
      digits.reverse.takeWhile (· == '0') =
        Layout.zeros (digits.reverse.takeWhile (· == '0')).length :=
    List.eq_replicate_length.2 fun c zero => by simpa using List.mem_takeWhile_imp zero
  have same : (Layout.zeros (digits.reverse.takeWhile (· == '0')).length).reverse =
      digits.reverse.takeWhile (· == '0') := by
    rw [Layout.zeros, List.reverse_replicate, ← Layout.zeros, ← zeros]
  rw [List.reverse_append, List.reverse_reverse, same, List.takeWhile_append_dropWhile]

/-- Without its trailing zeros a decimal has the same value. -/
lemma significant_spec (positive : 0 < d.digits) (same : Layout.significant d = (digits, point)) :
    digits ≠ [] ∧ (∀ c ∈ digits, c.isDigit) ∧ digits.head? ≠ some '0' ∧
      (digitsValue digits * 10 ^ (point - digits.length) : ℚ) = d.value := by
  obtain ⟨rfl, rfl⟩ := Prod.mk.inj same
  set all := Nat.toDigits 10 d.digits with all_def
  set kept := (all.reverse.dropWhile (· == '0')).reverse with kept_def
  obtain ⟨k, split⟩ : ∃ k, all = kept ++ Layout.zeros k := exists_zeros all
  have value : digitsValue kept * 10 ^ k = d.digits := by
    have := congrArg digitsValue split
    rw [digitsValue_append, digitsValue_zeros, all_def, digitsValue_toDigits] at this
    simpa [Layout.zeros] using this.symm
  have started : kept ≠ [] := by
    intro none
    rw [none] at value
    simp [digitsValue] at value
    omega
  refine ⟨started, ?_, ?_, ?_⟩
  · intro c digit
    refine toDigits_run d.digits c ?_
    rw [← all_def, split]
    exact List.mem_append_left _ digit
  · rw [← List.head?_append_of_ne_nil _ started, ← split]
    exact head?_toDigits positive
  · have places : (all.length : Int) = kept.length + k := by
      rw [split]
      simp [Layout.zeros]
    rw [Decimal.value, ← value, places]
    push_cast
    rw [show (kept.length + k + d.exponent - kept.length : Int) = k + d.exponent by ring,
      zpow_add₀ (by norm_num), zpow_natCast]
    ring

/-- What a layout with points on whole numbers writes is a numeral of the value of the digits. -/
structure Renders (l : Layout) (b : Binary) (n : Numeral) : Prop where
  sound : n.Sound
  marked : n.fraction.isSome ∨ n.power.isSome
  chars : n.chars = l.magnitudeText b
  value : (n.digits * 10 ^ n.exponent : ℚ) = (b.shortest l.tie).value

/-- Zeros between a leading point and the digits. -/
lemma small_spec (started : digits ≠ []) (run : ∀ c ∈ digits, c.isDigit) (k : Nat) :
    ∃ n : Numeral, n.Sound ∧ n.fraction.isSome ∧
      n.chars = '0' :: '.' :: (Layout.zeros k ++ digits) ∧
      (n.digits * 10 ^ n.exponent : ℚ) = digitsValue digits * 10 ^ (-k - digits.length : Int) := by
  refine ⟨⟨['0'], some (Layout.zeros k ++ digits), none⟩,
    ⟨by simp, by simp, .inl rfl, ?_⟩, rfl, ?_, ?_⟩
  · rintro _ ⟨⟩
    refine ⟨by simp [started], fun c digit => ?_⟩
    exact (List.mem_append.1 digit).elim (zeros_run k c) (run c)
  · simp [Numeral.chars, Numeral.fractionChars, Numeral.powerChars]
  · have value : digitsValue (['0'] ++ (Layout.zeros k ++ digits)) = digitsValue digits := by
      rw [← List.append_assoc, digitsValue_append, show ['0'] ++ Layout.zeros k =
        Layout.zeros (k + 1) from rfl,
        digitsValue_zeros, zero_mul, zero_add]
    simp only [Numeral.digits, Numeral.exponent, Option.getD_some, Option.getD_none,
      value, List.length_append]
    rw [Layout.zeros, List.length_replicate]
    push_cast
    congr 2
    ring

/-- Zeros between the digits and a trailing point. -/
lemma large_spec (started : digits ≠ []) (run : ∀ c ∈ digits, c.isDigit)
    (leading : digits.head? ≠ some '0') (k : Nat) :
    ∃ n : Numeral, n.Sound ∧ n.fraction.isSome ∧ n.chars = digits ++ Layout.zeros k ++ ['.', '0'] ∧
      (n.digits * 10 ^ n.exponent : ℚ) = digitsValue digits * 10 ^ k := by
  refine ⟨⟨digits ++ Layout.zeros k, some ['0'], none⟩,
    ⟨?_, by simp [started], .inr ?_, ?_⟩, rfl, ?_, ?_⟩
  · intro c digit
    exact (List.mem_append.1 digit).elim (run c) (zeros_run k c)
  · rwa [List.head?_append_of_ne_nil _ started]
  · rintro _ ⟨⟩
    simp
  · simp [Numeral.chars, Numeral.fractionChars, Numeral.powerChars]
  · simp only [Numeral.digits, Numeral.exponent, Option.getD_some, Option.getD_none]
    rw [digitsValue_append, digitsValue_append, digitsValue_zeros, show digitsValue ['0'] =
      0 from rfl, Layout.zeros,
      List.length_replicate]
    simp

/-- A point with digits on either side. -/
lemma inner_spec (run : ∀ c ∈ digits, c.isDigit) (leading : digits.head? ≠ some '0')
    {k : Nat} (positive : 0 < k) (inside : k < digits.length) :
    ∃ n : Numeral, n.Sound ∧ n.fraction.isSome ∧ n.chars = digits.take k ++ '.' :: digits.drop k ∧
      (n.digits * 10 ^ n.exponent : ℚ) = digitsValue digits * 10 ^ (k - digits.length : Int) := by
  have started : digits ≠ [] := List.ne_nil_of_length_pos (positive.trans inside)
  refine ⟨⟨digits.take k, some (digits.drop k), none⟩, ⟨?_, ?_, .inr ?_, ?_⟩, rfl, ?_, ?_⟩
  · exact fun c digit => run c (List.mem_of_mem_take digit)
  · simpa [started] using positive.ne'
  · rwa [List.head?_take, if_neg positive.ne']
  · rintro _ ⟨⟩
    exact ⟨by simpa using inside, fun c digit => run c (List.mem_of_mem_drop digit)⟩
  · simp [Numeral.chars, Numeral.fractionChars, Numeral.powerChars]
  · simp only [Numeral.digits, Numeral.exponent, Option.getD_some, Option.getD_none,
      List.take_append_drop, List.length_drop]
    congr 2
    omega

/-- Where a point is put among digits, zeros filling up on either side. -/
lemma positionalText_spec (pointed : l.wholePoint = true) (started : digits ≠ [])
    (run : ∀ c ∈ digits, c.isDigit)
    (leading : digits.head? ≠ some '0') (point : Int) : ∃ n : Numeral, n.Sound ∧ n.fraction.isSome ∧
      n.chars = l.positionalText digits point ∧
      (n.digits * 10 ^ n.exponent : ℚ) = digitsValue digits * 10 ^ (point - digits.length) := by
  unfold Layout.positionalText
  split_ifs with small large
  · obtain ⟨k, rfl⟩ : ∃ k : Nat, point = -k := ⟨(-point).toNat, by omega⟩
    rw [neg_neg, Int.toNat_natCast]
    exact small_spec started run k
  · obtain ⟨k, rfl⟩ : ∃ k : Nat, point = digits.length + k :=
      ⟨(point - digits.length).toNat, by omega⟩
    rw [show ((digits.length : Int) + k).toNat - digits.length = k by omega,
      add_sub_cancel_left, zpow_natCast]
    exact large_spec started run leading k
  · obtain ⟨k, rfl⟩ : ∃ k : Nat, point = k := ⟨point.toNat, by omega⟩
    rw [Int.toNat_natCast]
    exact inner_spec run leading (by omega) (by omega)

/-- A power of ten after one digit and the others. -/
lemma scientificText_spec (started : digits ≠ []) (run : ∀ c ∈ digits, c.isDigit) (exponent : Int) :
    ∃ n : Numeral, n.Sound ∧ n.power.isSome ∧ n.chars = Layout.scientificText digits exponent ∧
      (n.digits * 10 ^ n.exponent : ℚ) =
        digitsValue digits * 10 ^ (exponent + 1 - digits.length) := by
  obtain ⟨c, more, rfl⟩ := List.exists_cons_of_ne_nil started
  have first : ∀ d ∈ [c], d.isDigit := by simpa using run c List.mem_cons_self
  cases more with
  | nil =>
    refine ⟨⟨[c], none, some exponent⟩, ⟨first, by simp, .inl rfl, by simp⟩, rfl, rfl, ?_⟩
    simp [Numeral.digits, Numeral.exponent]
  | cons d more =>
    refine ⟨⟨[c], some (d :: more), some exponent⟩, ⟨first, by simp, .inl rfl, ?_⟩, rfl, ?_, ?_⟩
    · rintro _ ⟨⟩
      exact ⟨by simp, fun e digit => run e (List.mem_cons_of_mem c digit)⟩
    · simp [Numeral.chars, Numeral.fractionChars, Numeral.powerChars, Layout.scientificText]
    · simp only [Numeral.digits, Numeral.exponent, Option.getD_some, List.length_cons,
        List.singleton_append]
      congr 2
      push_cast
      ring

/-- A layout with points on whole numbers renders a magnitude as a numeral. -/
theorem exists_renders (pointed : l.wholePoint = true) (positive : 0 < (b.shortest l.tie).digits) :
    ∃ n, Renders l b n := by
  rcases significant : Layout.significant (b.shortest l.tie) with ⟨digits, point⟩
  obtain ⟨started, run, leading, value⟩ := significant_spec positive significant
  have text : l.magnitudeText b =
      if l.positional (point - 1) then l.positionalText digits point else Layout.scientificText
        digits (point - 1) := by
    rw [Layout.magnitudeText, significant]
  by_cases positional : l.positional (point - 1) = true
  · obtain ⟨n, sound, marked, chars, same⟩ := positionalText_spec pointed started run leading point
    exact ⟨n, sound, .inl marked, by rw [chars, text, if_pos positional], same.trans value⟩
  · obtain ⟨n, sound, marked, chars, same⟩ := scientificText_spec started run (point - 1)
    rw [sub_add_cancel] at same
    exact ⟨n, sound, .inr marked, by rw [chars, text, if_neg positional], same.trans value⟩

end Writing

/-! ## Values -/

section Bits

variable {bits : Nat} {negative : Bool} {b : Binary} {x : Float}

/-- The parts of a bit pattern. -/
lemma bits_split (word : bits < 2 * signBit) :
    bits = bits / signBit % 2 * signBit + bits / hiddenBit % 2048 * hiddenBit +
      bits % hiddenBit := by
  simp only [signBit, hiddenBit] at *
  omega

/-- A sign and a magnitude make up the bits that they were read from. -/
lemma bits_of_finite (word : bits < 2 * signBit)
    (reading : Reading.ofBits bits = .finite negative b) :
    b.Proper ∧ (if negative then signBit + b.bits else b.bits) = bits := by
  have split := bits_split word
  have sign : bits / signBit % 2 < 2 := Nat.mod_lt _ (by decide)
  have narrow : bits / hiddenBit % 2048 < 2048 := Nat.mod_lt _ (by decide)
  have short : bits % hiddenBit < hiddenBit := Nat.mod_lt _ (by decide)
  simp only [Reading.ofBits] at reading
  generalize bits / signBit % 2 = s at *
  generalize bits / hiddenBit % 2048 = biased at *
  generalize bits % hiddenBit = fraction at *
  simp only [beq_iff_eq] at reading
  split_ifs at reading with special infinite subnormal zero
  · obtain ⟨rfl, rfl⟩ := Reading.finite.inj reading
    refine ⟨⟨Nat.pos_of_ne_zero zero, by dsimp only; omega, le_rfl, by norm_num, .inr rfl⟩, ?_⟩
    obtain rfl | rfl : s = 0 ∨ s = 1 := by omega
    · simpa [Binary.bits, subnormal] using split.symm
    · simpa [Binary.bits, subnormal] using split.symm
  · obtain ⟨rfl, rfl⟩ := Reading.finite.inj reading
    refine ⟨⟨by dsimp only [hiddenBit]; omega, by dsimp only; omega, by dsimp only; omega,
      by dsimp only; omega,
      .inl (Nat.le_add_right _ _)⟩, ?_⟩
    obtain ⟨k, rfl⟩ : ∃ k, biased = k + 1 := ⟨biased - 1, by omega⟩
    have exponent : ((k + 1 : Nat) - 1075 + 1074 : Int).toNat = k := by omega
    rw [Nat.add_mul] at split
    obtain rfl | rfl : s = 0 ∨ s = 1 := by omega
    · simp only [Binary.bits, exponent]
      simp
      omega
    · simp only [Binary.bits, exponent]
      simp
      omega

lemma bits_of_zero (word : bits < 2 * signBit) (reading : Reading.ofBits bits = .zero negative) :
    (if negative then signBit + 0 else 0) = bits := by
  have split := bits_split word
  have sign : bits / signBit % 2 < 2 := Nat.mod_lt _ (by decide)
  simp only [Reading.ofBits, beq_iff_eq] at reading
  split_ifs at reading with special infinite subnormal zero
  obtain rfl := Reading.zero.inj reading
  rw [subnormal, zero] at split
  obtain same | same : bits / signBit % 2 = 0 ∨ bits / signBit % 2 = 1 := by omega
  · simpa [same] using split.symm
  · simpa [same] using split.symm

/-- A finite value is the one with its sign and magnitude. -/
lemma eq_ofMagnitude_of_finite (reading : Reading.ofFloat x = .finite negative b) :
    b.Proper ∧ ofMagnitude negative b.bits = x := by
  obtain ⟨proper, same⟩ := bits_of_finite x.toBits.toNat_lt reading
  exact ⟨proper, by rw [ofMagnitude, same, UInt64.ofNat_toNat, Float.ofBits_toBits]⟩

lemma eq_ofMagnitude_of_zero (reading : Reading.ofFloat x = .zero negative) :
    ofMagnitude negative 0 = x := by
  rw [ofMagnitude, bits_of_zero x.toBits.toNat_lt reading, UInt64.ofNat_toNat, Float.ofBits_toBits]

/-- What is rounded to a magnitude has less than four hundred places. -/
lemma attracts_bounds {q : ℚ} (proper : b.Proper) (attracts : b.Attracts q) :
    (10 : ℚ) ^ (-400 : Int) < q ∧ q < 10 ^ (400 : Int) := by
  have three : (2 : ℚ) ^ (1200 : Int) < 10 ^ (400 : Int) := by
    rw [show (1200 : Int) = 3 * 400 by norm_num, zpow_mul]
    exact zpow_lt_zpow_left₀ (by norm_num) (by norm_num) (by norm_num)
  have positive : (1 : ℚ) ≤ b.significand := by exact_mod_cast proper.positive
  have narrow : (b.significand : ℚ) ≤ 2 * hiddenBit := by exact_mod_cast proper.narrow.le
  have size : (1 : ℚ) ≤ hiddenBit := by norm_num [hiddenBit]
  have low : (1 / 2 : ℚ) ≤ b.significand - 1 / 2 := by linarith only [positive]
  have high : (b.significand + 1 / 2 : ℚ) ≤ hiddenBit * 4 := by linarith only [narrow, size]
  have least : (2 : ℚ) ^ (-1074 : Int) ≤ 2 ^ b.exponent :=
    zpow_le_zpow_right₀ (by norm_num) proper.least
  have most : (2 : ℚ) ^ b.exponent ≤ 2 ^ (971 : Int) :=
    zpow_le_zpow_right₀ (by norm_num) proper.most
  have step := two_zpow_pos b.exponent
  constructor
  · calc (10 : ℚ) ^ (-400 : Int) < 2 ^ (-1200 : Int) := by
          rw [zpow_neg, zpow_neg]
          exact inv_strictAnti₀ (by positivity) three
      _ ≤ 2 ^ (-1074 - 1 : Int) := zpow_le_zpow_right₀ (by norm_num) (by norm_num)
      _ = 1 / 2 * 2 ^ (-1074 : Int) := by rw [zpow_sub_one₀ (by norm_num)]; ring
      _ ≤ (b.significand - 1 / 2) * 2 ^ b.exponent :=
        mul_le_mul low least (by positivity) (one_half_pos.le.trans low)
      _ ≤ q := (le_low proper).trans attracts.above
  · calc q ≤ (b.significand + 1 / 2) * 2 ^ b.exponent := attracts.below.trans_eq (high_eq b)
      _ ≤ hiddenBit * 4 * 2 ^ (971 : Int) := mul_le_mul high most step.le (by positivity)
      _ ≤ 2 ^ (1200 : Int) := by
        rw [show (hiddenBit * 4 : ℚ) = 2 ^ (54 : Int) by norm_num [hiddenBit],
          ← zpow_add₀ (by norm_num)]
        exact zpow_le_zpow_right₀ (by norm_num) (by norm_num)
      _ < _ := three

/-- The digits of a number give its size. -/
lemma toDigits_bounds {k : Nat} (positive : 0 < k) :
    10 ^ ((Nat.toDigits 10 k).length - 1) ≤ k ∧ k < 10 ^ (Nat.toDigits 10 k).length := by
  refine ⟨?_, (Nat.length_toDigits_le_iff (by decide) Nat.length_toDigits_pos).1 le_rfl⟩
  rcases Nat.eq_zero_or_pos ((Nat.toDigits 10 k).length - 1) with one | more
  · rwa [one]
  · exact not_lt.1 fun less => by
      have := (Nat.length_toDigits_le_iff (by decide) more).2 less
      omega

/-- Neither end of the range that is scaled is reached. -/
lemma places_bounds {digits : Nat} {exponent : Int} (positive : 0 < digits)
    (large : (10 : ℚ) ^ (-400 : Int) < digits * 10 ^ exponent)
    (small : (digits * 10 ^ exponent : ℚ) < 10 ^ (400 : Int)) :
    -400 ≤ (Nat.toDigits 10 digits).length + exponent ∧
    (Nat.toDigits 10 digits).length + exponent ≤ 400 := by
  obtain ⟨at_least, less⟩ := toDigits_bounds positive
  have started : 0 < (Nat.toDigits 10 digits).length := Nat.length_toDigits_pos
  generalize (Nat.toDigits 10 digits).length = length at *
  have less : (digits : ℚ) < 10 ^ (length : Int) := by exact_mod_cast less
  have at_least : (10 : ℚ) ^ ((length - 1 : Nat) : Int) ≤ digits := by exact_mod_cast at_least
  have ten := zpow_pos (by norm_num : (0 : ℚ) < 10) exponent
  have below : (digits * 10 ^ exponent : ℚ) < 10 ^ (length + exponent) := by
    rw [zpow_add₀ (by norm_num)]
    gcongr
  have above : (10 : ℚ) ^ ((length - 1 : Nat) + exponent) ≤ digits * 10 ^ exponent := by
    rw [zpow_add₀ (by norm_num)]
    gcongr
  have enough := (zpow_lt_zpow_iff_right₀ (by norm_num : (1 : ℚ) < 10)).1 (large.trans below)
  have few := (zpow_lt_zpow_iff_right₀ (by norm_num : (1 : ℚ) < 10)).1 (above.trans_lt small)
  omega

/-- A decimal in the interval of a magnitude is read as it. -/
theorem ofDecimal?_eq {digits : Nat} {exponent : Int} (negative : Bool) (proper : b.Proper)
    (attracts : b.Attracts (digits * 10 ^ exponent)) :
    ofDecimal? negative digits exponent = some (ofMagnitude negative b.bits) := by
  obtain ⟨large, small⟩ := attracts_bounds proper attracts
  have positive : 0 < digits := by
    refine Nat.pos_of_ne_zero ?_
    rintro rfl
    simpa using pos_of_attracts proper attracts
  obtain ⟨enough, few⟩ := places_bounds positive large small
  have bits? : (if 0 ≤ exponent then nearestBits? (digits * Nat.pow 10 exponent.toNat) 1
      else nearestBits? digits (Nat.pow 10 (-exponent).toNat)) = Option.some b.bits := by
    split_ifs with sign
    · obtain ⟨k, rfl⟩ := Int.eq_ofNat_of_zero_le sign
      refine nearestBits?_eq proper one_pos ?_
      rw [zpow_natCast] at attracts
      simpa using attracts
    · obtain ⟨k, rfl⟩ : ∃ k : Nat, exponent = -k := ⟨(-exponent).toNat, by omega⟩
      refine nearestBits?_eq proper (by simp) ?_
      rw [zpow_neg, zpow_natCast, ← div_eq_mul_inv] at attracts
      simpa using attracts
  simp only [ofDecimal?, bits?]
  rw [if_neg (by simp; omega), if_neg (by omega), Option.map_some]

/-- The text of a finite number is a numeral after its sign, and is read as the number itself. -/
theorem messageText_spec (finite : (Reading.ofFloat x).isFinite = true) :
    ∃ (negative : Bool) (n : Numeral),
    (messageText x).toList = Layout.signed negative n.chars ∧ n.Sound ∧
    (n.fraction.isSome ∨ n.power.isSome) ∧
      ofDecimal? negative n.digits n.exponent = some x := by
  rcases reading : Reading.ofFloat x with _ | _ | negative | ⟨negative, b⟩
  · simp [reading, Reading.isFinite] at finite
  · simp [reading, Reading.isFinite] at finite
  · refine ⟨negative, ⟨['0'], some ['0'], none⟩, ?_,
      ⟨by simp, by simp, .inl rfl, by simp⟩, .inl rfl, ?_⟩
    · simp [messageText, Layout.text, reading, messageLayout, Numeral.chars,
        Numeral.fractionChars, Numeral.powerChars]
    · rw [← eq_ofMagnitude_of_zero reading]
      simp [ofDecimal?, Numeral.digits, digitsValue, digitValue]
  · obtain ⟨proper, same⟩ := eq_ofMagnitude_of_finite reading
    have attracts := attracts_shortest messageLayout.tie proper
    have positive : 0 < (b.shortest messageLayout.tie).digits := by
      refine Nat.pos_of_ne_zero fun none => ?_
      simpa [Decimal.value, none] using pos_of_attracts proper attracts
    obtain ⟨n, renders⟩ := exists_renders (l := messageLayout) rfl positive
    refine ⟨negative, n, ?_, renders.sound, renders.marked, ?_⟩
    · simp [messageText, Layout.text, reading, renders.chars]
    · rw [ofDecimal?_eq negative proper (renders.value ▸ attracts), same]

end Bits


end LayeredPage.Proofs
