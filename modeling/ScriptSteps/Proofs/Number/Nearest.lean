import Mathlib
import ScriptSteps.Number.Decimal

/-!
# Rounding to the nearest number

Fractions and decimals are rounded by integer arithmetic. Here the rounding is described on the
rational value alone, so that two ways to write one value always give the same number.

## Main definitions

* `Binary64.nearest`: the number nearest to a non-negative rational
* `Binary64.value`, `Decimal.value`: the rational that a finite number or a decimal stands for

## Main statements

* `Binary64.ofDecimal_eq_nearest`: reading a decimal gives the number nearest to its value
* `Binary64.nearest_value`: a finite number is the nearest one to its own value
-/

namespace ScriptSteps

/-- The value of a decimal. -/
def Decimal.value (d : Decimal) : ℚ := d.coefficient * (10 : ℚ) ^ d.exponent

namespace Binary64

/-! ## Magnitudes -/

theorem toNat_bits_ofMagnitude {m : ℕ} (h : m < signWeight) :
    (ofMagnitude m).bits.toNat = m := by
  have hm : m < UInt64.size := h.trans (by decide)
  exact UInt64.toNat_ofNat_of_lt hm

theorem isNegative_ofMagnitude {m : ℕ} (h : m < signWeight) :
    (ofMagnitude m).isNegative = false := by
  simpa [isNegative, toNat_bits_ofMagnitude h] using h

theorem magnitude_ofMagnitude {m : ℕ} (h : m < signWeight) : (ofMagnitude m).magnitude = m := by
  rw [magnitude, toNat_bits_ofMagnitude h, Nat.mod_eq_of_lt h]

/-- A number without a sign is its magnitude. -/
theorem ofMagnitude_magnitude {x : Binary64} (h : x.isNegative = false) :
    ofMagnitude x.magnitude = x := by
  obtain ⟨bits⟩ := x
  have hlt : bits.toNat < signWeight := by simpa [isNegative] using h
  simp [ofMagnitude, magnitude, Nat.mod_eq_of_lt hlt]

theorem eq_of_magnitude_eq {x y : Binary64} (hx : x.isNegative = false)
    (hy : y.isNegative = false) (h : x.magnitude = y.magnitude) : x = y := by
  rw [← ofMagnitude_magnitude hx, ← ofMagnitude_magnitude hy, h]

/-- The non-negative numbers, infinity among them. -/
def IsMagnitude (x : Binary64) : Prop := x.isNaN = false ∧ x.isNegative = false

instance (x : Binary64) : Decidable x.IsMagnitude := inferInstanceAs (Decidable (_ ∧ _))

theorem isMagnitude_ofMagnitude {m : ℕ} (h : m ≤ infinityMagnitude) :
    (ofMagnitude m).IsMagnitude := by
  have hm : m < signWeight := h.trans_lt (by decide)
  refine ⟨?_, isNegative_ofMagnitude hm⟩
  simpa [isNaN, magnitude_ofMagnitude hm] using h

theorem isMagnitude_ofRatio (num den : ℕ) : (ofRatio num den).IsMagnitude := by
  unfold ofRatio
  split
  · decide
  · exact isMagnitude_ofMagnitude (min_le_right _ _)

theorem isMagnitude_ofDecimal (d : Decimal) : (ofDecimal d).IsMagnitude := by
  unfold ofDecimal
  split_ifs
  · decide
  · decide
  · exact isMagnitude_ofRatio _ _
  · decide
  · exact isMagnitude_ofRatio _ _

/-! ## Rounding a rational -/

/-- The natural number nearest to a non-negative rational; a half goes to the even neighbour. -/
def halfEven (x : ℚ) : ℕ :=
  if 2 * (x - ⌊x⌋₊) < 1 then ⌊x⌋₊
  else if 1 < 2 * (x - ⌊x⌋₊) then ⌊x⌋₊ + 1
  else ⌊x⌋₊ + ⌊x⌋₊ % 2

@[simp] theorem halfEven_natCast (n : ℕ) : halfEven n = n := by simp [halfEven]

theorem le_halfEven {x : ℚ} {n : ℕ} (h : (n : ℚ) ≤ x) : n ≤ halfEven x := by
  have hfloor : n ≤ ⌊x⌋₊ := Nat.le_floor h
  unfold halfEven
  split_ifs <;> omega

theorem halfEven_eq_zero {x : ℚ} (h : 2 * x < 1) : halfEven x = 0 := by
  have hfloor : ⌊x⌋₊ = 0 := Nat.floor_eq_zero.2 (by linarith)
  simp [halfEven, hfloor, h]

/-- Rounding a fraction by its remainder is rounding its value. -/
theorem roundDiv_eq_halfEven (num : ℕ) {den : ℕ} (hden : 0 < den) :
    roundDiv num den = halfEven (num / den) := by
  have hpos : (0 : ℚ) < den := by exact_mod_cast hden
  have hfloor : ⌊(num : ℚ) / den⌋₊ = num / den := Nat.floor_div_eq_div num den
  have hdouble : 2 * ((num : ℚ) / den - (num / den : ℕ)) = (2 * (num % den) : ℕ) / den := by
    have hsplit : (num : ℚ) = den * (num / den : ℕ) + (num % den : ℕ) := by
      exact_mod_cast (Nat.div_add_mod num den).symm
    field_simp
    push_cast
    linarith
  have hless : (2 * (num % den) : ℕ) / (den : ℚ) < 1 ↔ 2 * (num % den) < den := by
    rw [div_lt_one hpos, Nat.cast_lt]
  have hmore : 1 < (2 * (num % den) : ℕ) / (den : ℚ) ↔ den < 2 * (num % den) := by
    rw [one_lt_div hpos, Nat.cast_lt]
  simp only [roundDiv, halfEven, hfloor, hdouble, hless, hmore]

/-- The power of two that the significand of a value counts. -/
def unit (r : ℚ) : ℤ := max (Int.log 2 r - 52) (-1074)

/-- The number nearest to a non-negative rational. -/
def nearest (r : ℚ) : Binary64 :=
  if r = 0 then zero
  else ofMagnitude (min ((unit r + 1074).toNat * fractionCount + halfEven (r / 2 ^ unit r))
    infinityMagnitude)

theorem two_zpow_pos (q : ℤ) : (0 : ℚ) < 2 ^ q := zpow_pos (by norm_num) q

theorem two_zpow_le_iff {r : ℚ} (hr : 0 < r) {q : ℤ} : (2 : ℚ) ^ q ≤ r ↔ q ≤ Int.log 2 r := by
  simpa using Int.zpow_le_iff_le_log (b := 2) (by decide) hr

theorem lt_two_zpow_iff {r : ℚ} (hr : 0 < r) {q : ℤ} : r < (2 : ℚ) ^ q ↔ Int.log 2 r < q := by
  simpa using Int.lt_zpow_iff_log_lt (b := 2) (by decide) hr

/-- `scaled` divides by a power of two. -/
theorem scaled_div (num den : ℕ) (q : ℤ) :
    ((scaled num den q).1 : ℚ) / (scaled num den q).2 = num / den / 2 ^ q := by
  unfold scaled
  split
  case isTrue hq =>
    lift q to ℕ using hq
    simp [div_div]
  case isFalse hq =>
    obtain ⟨n, rfl⟩ : ∃ n : ℕ, q = -n := ⟨(-q).toNat, by omega⟩
    simp [mul_div_right_comm]

theorem scaled_den_pos {num den : ℕ} (hden : 0 < den) (q : ℤ) : 0 < (scaled num den q).2 := by
  unfold scaled
  split
  · exact Nat.mul_pos hden (Nat.pow_pos (by decide))
  · exact hden

/-- The logarithm of a fraction is that of the numerator less that of the denominator, or one
less. -/
theorem log_div_mem {num den : ℕ} (hnum : 0 < num) (hden : 0 < den) :
    Int.log 2 ((num : ℚ) / den) = num.log2 - den.log2
      ∨ Int.log 2 ((num : ℚ) / den) = num.log2 - den.log2 - 1 := by
  have hn : (0 : ℚ) < num := by exact_mod_cast hnum
  have hd : (0 : ℚ) < den := by exact_mod_cast hden
  have hlow : ∀ {n : ℕ}, 0 < n → (2 : ℚ) ^ (n.log2 : ℤ) ≤ n := fun {n} h => by
    rw [zpow_natCast]
    exact_mod_cast Nat.log2_self_le h.ne'
  have hhigh : ∀ n : ℕ, (n : ℚ) < 2 ^ (n.log2 + 1 : ℤ) := fun n => by
    exact_mod_cast (Nat.lt_log2_self : n < 2 ^ (n.log2 + 1))
  have hbelow : (2 : ℚ) ^ ((num.log2 : ℤ) - den.log2 - 1) ≤ num / den := by
    rw [le_div_iff₀ hd]
    calc (2 : ℚ) ^ ((num.log2 : ℤ) - den.log2 - 1) * den
        ≤ 2 ^ ((num.log2 : ℤ) - den.log2 - 1) * 2 ^ (den.log2 + 1 : ℤ) := by
          gcongr
          exact (hhigh den).le
      _ = 2 ^ (num.log2 : ℤ) := by rw [← zpow_add₀ (by norm_num)]; congr 1; ring
      _ ≤ num := hlow hnum
  have habove : (num : ℚ) / den < 2 ^ ((num.log2 : ℤ) - den.log2 + 1) := by
    rw [div_lt_iff₀ hd]
    calc (num : ℚ) < 2 ^ (num.log2 + 1 : ℤ) := hhigh num
      _ = 2 ^ ((num.log2 : ℤ) - den.log2 + 1) * 2 ^ (den.log2 : ℤ) := by
          rw [← zpow_add₀ (by norm_num)]; congr 1; ring
      _ ≤ 2 ^ ((num.log2 : ℤ) - den.log2 + 1) * den := by
          gcongr
          exact hlow hden
  have hr : (0 : ℚ) < num / den := div_pos hn hd
  have h₁ := (two_zpow_le_iff hr).1 hbelow
  have h₂ := (lt_two_zpow_iff hr).1 habove
  omega

theorem unitOf_eq_unit {num den : ℕ} (hnum : 0 < num) (hden : 0 < den) :
    unitOf num den = unit (num / den) := by
  have hn : (0 : ℚ) < num := by exact_mod_cast hnum
  have hd : (0 : ℚ) < den := by exact_mod_cast hden
  have hr : (0 : ℚ) < num / den := div_pos hn hd
  have hlog := log_div_mem hnum hden
  -- The guess is too small by one exactly if its significand does not fit 53 bits.
  have hfits : ∀ q : ℤ, 2 * fractionCount ≤ (scaled num den q).1 / (scaled num den q).2
      ↔ q + 53 ≤ Int.log 2 ((num : ℚ) / den) := fun q => by
    have hden' : 0 < (scaled num den q).2 := scaled_den_pos hden q
    have hpos : (0 : ℚ) < (scaled num den q).2 := by exact_mod_cast hden'
    rw [Nat.le_div_iff_mul_le hden', ← two_zpow_le_iff hr]
    calc 2 * fractionCount * (scaled num den q).2 ≤ (scaled num den q).1
        ↔ (2 : ℚ) ^ (53 : ℤ) * (scaled num den q).2 ≤ (scaled num den q).1 := by
          rw [← Nat.cast_le (α := ℚ)]
          norm_num [fractionCount]
      _ ↔ (2 : ℚ) ^ (53 : ℤ) ≤ num / den / 2 ^ q := by
          rw [← le_div_iff₀ hpos, scaled_div]
      _ ↔ (2 : ℚ) ^ (q + 53) ≤ num / den := by
          rw [le_div_iff₀ (two_zpow_pos q), ← zpow_add₀ (by norm_num), add_comm]
  simp only [unitOf, unit, hfits]
  split_ifs <;> omega

/-- The nearest number to a fraction depends on its value only. -/
theorem ofRatio_eq_nearest (num : ℕ) {den : ℕ} (hden : 0 < den) :
    ofRatio num den = nearest (num / den) := by
  have hd : (den : ℚ) ≠ 0 := by exact_mod_cast hden.ne'
  rcases Nat.eq_zero_or_pos num with rfl | hnum
  · simp [ofRatio, nearest]
  · have hn : (num : ℚ) ≠ 0 := by exact_mod_cast hnum.ne'
    simp only [ofRatio, nearest, hnum.ne', div_eq_zero_iff, hn, hd, or_self, if_false,
      unitOf_eq_unit hnum hden, roundDiv_eq_halfEven _ (scaled_den_pos hden _), scaled_div]

/-! ## Values out of range -/

theorem nearest_eq_infinity {r : ℚ} (h : (2 : ℚ) ^ (1024 : ℤ) ≤ r) : nearest r = infinity := by
  have hr : 0 < r := (two_zpow_pos _).trans_le h
  have hlog : 1024 ≤ Int.log 2 r := (two_zpow_le_iff hr).1 h
  have hunit : unit r = Int.log 2 r - 52 := by
    unfold unit
    omega
  have hsignificand : ((fractionCount : ℕ) : ℚ) ≤ r / 2 ^ unit r := by
    rw [le_div_iff₀ (two_zpow_pos _)]
    calc ((fractionCount : ℕ) : ℚ) * 2 ^ unit r = 2 ^ Int.log 2 r := by
          rw [show ((fractionCount : ℕ) : ℚ) = 2 ^ (52 : ℤ) by norm_num [fractionCount],
            ← zpow_add₀ (by norm_num), hunit]
          congr 1
          ring
      _ ≤ r := (two_zpow_le_iff hr).2 le_rfl
  have hround := le_halfEven hsignificand
  have hfield : 2046 ≤ (unit r + 1074).toNat := by omega
  have hbig : infinityMagnitude
      ≤ (unit r + 1074).toNat * fractionCount + halfEven (r / 2 ^ unit r) := by
    have := Nat.mul_le_mul_right fractionCount hfield
    unfold infinityMagnitude
    omega
  rw [nearest, if_neg hr.ne', min_eq_right hbig]
  rfl

theorem nearest_eq_zero {r : ℚ} (hr : 0 < r) (h : r < (2 : ℚ) ^ (-1075 : ℤ)) :
    nearest r = zero := by
  have hlog : Int.log 2 r < -1075 := (lt_two_zpow_iff hr).1 h
  have hunit : unit r = -1074 := by
    unfold unit
    omega
  have hround : halfEven (r / 2 ^ unit r) = 0 := by
    apply halfEven_eq_zero
    rw [hunit, mul_div_assoc', div_lt_one (two_zpow_pos _)]
    calc 2 * r < 2 * 2 ^ (-1075 : ℤ) := by gcongr
      _ = 2 ^ (-1074 : ℤ) := by rw [← zpow_one_add₀ (by norm_num)]; norm_num
  rw [nearest, if_neg hr.ne', hround, hunit]
  rfl

/-! ## Decimals -/

theorem two_pow_le_ten_pow : (2 : ℚ) ^ (1024 : ℤ) ≤ 10 ^ (311 : ℤ) := by
  have h : 2 ^ 1024 ≤ 10 ^ 311 := by decide +kernel
  exact_mod_cast h

theorem ten_pow_le_two_pow : (10 : ℚ) ^ (-330 : ℤ) ≤ 2 ^ (-1075 : ℤ) := by
  have h : 2 ^ 1075 ≤ 10 ^ 330 := by decide +kernel
  have hq : (2 : ℚ) ^ 1075 ≤ 10 ^ 330 := by exact_mod_cast h
  have hinv := inv_anti₀ (by positivity) hq
  simpa [zpow_neg] using hinv

/-- A third of the binary logarithm bounds the number of decimal digits. -/
theorem lt_ten_pow_log2 (n : ℕ) : n < 10 ^ (n.log2 / 3 + 1) := by
  calc n < 2 ^ (n.log2 + 1) := Nat.lt_log2_self
    _ ≤ 2 ^ (3 * (n.log2 / 3 + 1)) := Nat.pow_le_pow_right (by decide) (by omega)
    _ = 8 ^ (n.log2 / 3 + 1) := by rw [Nat.pow_mul]
    _ ≤ 10 ^ (n.log2 / 3 + 1) := Nat.pow_le_pow_left (by decide) _

theorem value_lt_ten_zpow (d : Decimal) :
    d.value < 10 ^ ((d.coefficient.log2 / 3 + 1 : ℕ) + d.exponent) := by
  have hlt : (d.coefficient : ℚ) < 10 ^ (d.coefficient.log2 / 3 + 1) := by
    exact_mod_cast lt_ten_pow_log2 d.coefficient
  rw [zpow_add₀ (by norm_num), zpow_natCast, Decimal.value]
  gcongr

/-- Reading a decimal gives the number nearest to its value. -/
theorem ofDecimal_eq_nearest (d : Decimal) : ofDecimal d = nearest d.value := by
  rcases Nat.eq_zero_or_pos d.coefficient with hzero | hpos
  · simp [ofDecimal, nearest, Decimal.value, hzero]
  have hc : (1 : ℚ) ≤ d.coefficient := by exact_mod_cast hpos
  have hten : (0 : ℚ) < 10 ^ d.exponent := zpow_pos (by norm_num) _
  rw [ofDecimal, if_neg hpos.ne']
  split_ifs with hlarge hwhole hsmall
  · symm
    apply nearest_eq_infinity
    calc (2 : ℚ) ^ (1024 : ℤ) ≤ 10 ^ (311 : ℤ) := two_pow_le_ten_pow
      _ ≤ 10 ^ d.exponent := zpow_le_zpow_right₀ (by norm_num) (by omega)
      _ ≤ d.coefficient * 10 ^ d.exponent := le_mul_of_one_le_left hten.le hc
  · rw [ofRatio_eq_nearest _ Nat.one_pos]
    obtain ⟨n, hn⟩ := Int.eq_ofNat_of_zero_le hwhole
    simp [Decimal.value, hn]
  · symm
    apply nearest_eq_zero (mul_pos (by linarith) hten)
    calc d.value < 10 ^ ((d.coefficient.log2 / 3 + 1 : ℕ) + d.exponent) := value_lt_ten_zpow d
      _ ≤ 10 ^ (-330 : ℤ) := zpow_le_zpow_right₀ (by norm_num) (by omega)
      _ ≤ 2 ^ (-1075 : ℤ) := ten_pow_le_two_pow
  · have hden : 0 < Nat.pow 10 (-d.exponent).toNat := Nat.pow_pos (by decide)
    rw [ofRatio_eq_nearest _ hden]
    obtain ⟨n, hn⟩ : ∃ n : ℕ, d.exponent = -n := ⟨(-d.exponent).toNat, by omega⟩
    simp [Decimal.value, hn, div_eq_mul_inv]

/-! ## Finite numbers -/

/-- The value of a finite number without its sign. -/
def value (x : Binary64) : ℚ := x.significand * (2 : ℚ) ^ x.scale

theorem log_mul_two_zpow {m e : ℕ} (hlow : 2 ^ e ≤ m) (hhigh : m < 2 ^ (e + 1)) (q : ℤ) :
    Int.log 2 ((m : ℚ) * 2 ^ q) = e + q := by
  have hm : (2 : ℚ) ^ (e : ℤ) ≤ m := by exact_mod_cast hlow
  have hm' : (m : ℚ) < 2 ^ ((e : ℤ) + 1) := by exact_mod_cast hhigh
  have hr : (0 : ℚ) < m * 2 ^ q := mul_pos ((two_zpow_pos _).trans_le hm) (two_zpow_pos q)
  have h₁ : (e : ℤ) + q ≤ Int.log 2 ((m : ℚ) * 2 ^ q) := by
    rw [← two_zpow_le_iff hr, zpow_add₀ (by norm_num)]
    gcongr
  have h₂ : Int.log 2 ((m : ℚ) * 2 ^ q) < (e : ℤ) + 1 + q := by
    rw [← lt_two_zpow_iff hr, zpow_add₀ (by norm_num)]
    gcongr
  omega

/-- The magnitude of a finite number in terms of its unit and its significand. -/
theorem unit_value {x : Binary64} (hx : x.magnitude ≠ 0) :
    unit x.value = x.scale
      ∧ (x.scale + 1074).toNat * fractionCount + x.significand = x.magnitude := by
  have hdiv := Nat.div_add_mod x.magnitude fractionCount
  have hmod : x.magnitude % fractionCount < fractionCount := Nat.mod_lt _ (by decide)
  have hcount : fractionCount = 2 ^ 52 := by decide
  by_cases hfield : x.exponentField = 0
  · -- Below the normal numbers the significand is the magnitude and may be short.
    have hsignificand : x.significand = x.magnitude := by simp [significand, hfield]
    have hscale : x.scale = -1074 := by simp [scale, hfield]
    have hsmall : x.magnitude < 2 ^ 52 :=
      hcount ▸ (Nat.div_eq_zero_iff_lt (by decide)).1 hfield
    have hlog : Int.log 2 x.value < -1022 := by
      have hpos : (0 : ℚ) < x.magnitude := by exact_mod_cast Nat.pos_of_ne_zero hx
      have hlt : (x.magnitude : ℚ) < 2 ^ (52 : ℤ) := by exact_mod_cast hsmall
      rw [value, hsignificand, hscale, ← lt_two_zpow_iff (mul_pos hpos (two_zpow_pos _))]
      calc (x.magnitude : ℚ) * 2 ^ (-1074 : ℤ) < 2 ^ (52 : ℤ) * 2 ^ (-1074 : ℤ) := by gcongr
        _ = 2 ^ (-1022 : ℤ) := by rw [← zpow_add₀ (by norm_num)]; norm_num
    refine ⟨?_, ?_⟩
    · rw [hscale, unit]
      omega
    · rw [hscale, hsignificand]
      simp
  · have hsignificand : x.significand = x.magnitude % fractionCount + fractionCount := by
      simp [significand, hfield]
    have hscale : x.scale = x.exponentField - 1075 := by
      simp only [scale]
      omega
    have hlog : Int.log 2 x.value = 52 + x.scale :=
      log_mul_two_zpow (e := 52) (by omega) (by omega) x.scale
    refine ⟨?_, ?_⟩
    · rw [unit, hlog]
      omega
    · have hnat : (x.scale + 1074).toNat + 1 = x.exponentField := by omega
      have hfactor : x.exponentField * fractionCount
          = (x.scale + 1074).toNat * fractionCount + fractionCount := by
        rw [← hnat, Nat.succ_mul]
      have hquot : x.magnitude / fractionCount = x.exponentField := rfl
      rw [hquot, Nat.mul_comm] at hdiv
      omega

/-- A finite number is the nearest one to its own value. -/
theorem nearest_value {x : Binary64} (hsign : x.isNegative = false)
    (hfinite : x.magnitude < infinityMagnitude) : nearest x.value = x := by
  by_cases hzero : x.magnitude = 0
  · have hx : x = zero := eq_of_magnitude_eq hsign (by decide) (hzero.trans (by decide))
    subst hx
    decide +kernel
  · obtain ⟨hunit, hmagnitude⟩ := unit_value hzero
    have hsignificand : x.significand ≠ 0 := by
      intro h
      unfold significand at h
      split at h
      · exact hzero h
      · have : 0 < fractionCount := by decide
        omega
    have hvalue : x.value ≠ 0 := by
      simp [value, hsignificand, (two_zpow_pos x.scale).ne']
    have hround : x.value / 2 ^ x.scale = x.significand := by
      rw [value, mul_div_cancel_right₀ _ (two_zpow_pos _).ne']
    rw [nearest, if_neg hvalue, hunit, hround, halfEven_natCast, hmagnitude,
      min_eq_left hfinite.le, ofMagnitude_magnitude hsign]

/-- All digits of a finite number stand for its value. -/
theorem value_exactDecimal (x : Binary64) : x.exactDecimal.value = x.value := by
  unfold exactDecimal
  split
  case isTrue h =>
    obtain ⟨n, hn⟩ := Int.eq_ofNat_of_zero_le h
    simp [Decimal.value, value, hn]
  case isFalse h =>
    obtain ⟨n, hn⟩ : ∃ n : ℕ, x.scale = -n := ⟨(-x.scale).toNat, by omega⟩
    have hpow : (10 : ℚ) ^ n = 5 ^ n * 2 ^ n := by rw [← mul_pow]; norm_num
    have hfive : (5 : ℚ) ^ n ≠ 0 := by positivity
    simp [Decimal.value, value, hn, hpow]
    field_simp

/-- The fewest digits of a finite number read back as the number. -/
theorem ofDecimal_shortest {x : Binary64} (hsign : x.isNegative = false)
    (hfinite : x.magnitude < infinityMagnitude) : ofDecimal x.shortest = x := by
  have hmagnitude : (ofDecimal x.shortest).magnitude = x.magnitude := by
    unfold shortest
    dsimp only
    cases hfound : (List.range 17).findSome? fun n =>
        (x.neighbours (integerDigits x.ratio.1 x.ratio.2 - (n + 1 : ℕ))).head? with
    | none =>
      rw [Option.getD_none, ofDecimal_eq_nearest, value_exactDecimal,
        nearest_value hsign hfinite]
    | some d =>
      obtain ⟨n, -, hd⟩ := List.exists_of_findSome?_eq_some hfound
      exact ofDecimal_of_mem_neighbours (List.mem_of_head? hd)
  exact eq_of_magnitude_eq (isMagnitude_ofDecimal _).2 hsign hmagnitude

end Binary64

end ScriptSteps
