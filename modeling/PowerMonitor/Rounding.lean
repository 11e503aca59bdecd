import PowerMonitor.Binary32
import Mathlib.Algebra.Order.Ring.Abs
import Mathlib.Tactic.FieldSimp
import Mathlib.Tactic.Linarith

/-! Rounding to binary32: the word nearest to a ratio of natural numbers and, of two that are
equally near, the even one. Everything is counted in units of the smallest subnormal, of which
the words of one exponent are the multiples of a power of two. -/
namespace PowerMonitor.Binary32

/-- The natural number nearest to a ratio, and the even one of two. -/
def nearestNat (a d : ℕ) : ℕ :=
  if 2 * (a % d) < d then a / d
  else if d < 2 * (a % d) then a / d + 1
  else a / d + a / d % 2

/-- The words around so many units are `2 ^ spacing` units apart. -/
def spacing (a b : ℕ) : ℕ := Nat.log 2 (a / b) - 23

/-- The significand of the word nearest to so many units, with its leading one. -/
def significand (a b : ℕ) : ℕ := nearestNat a (b * 2 ^ spacing a b)

/-- The word nearest to `a / b` units. A significand that is rounded up to the next power of two
carries into the exponent, and the largest exponent is that of infinity. -/
def nearestWord (a b : ℕ) : UInt32 :=
  UInt32.ofNat (min (spacing a b * 2 ^ 23 + significand a b) (255 * 2 ^ 23))

/-- The word nearest to a ratio. -/
def ofRatio (a b : ℕ) : UInt32 := nearestWord (a * 2 ^ 149) b

/-- The quotient of two finite words that are not negative. -/
def quotient (w v : UInt32) : UInt32 := ofRatio (magnitude w) (magnitude v)

/-- The product of two finite words that are not negative. -/
def product (w v : UInt32) : UInt32 := ofRatio (magnitude w * magnitude v) (2 ^ 149 * 2 ^ 149)

example : ofRatio 1 3 = 0x3EAAAAAB := by decide

/-! ## Natural numbers -/

variable {a b d s m : ℕ}

/-- Half the divisor is the largest error, and only an even number has it. -/
theorem nearest_nat_error (positive : 0 < d) :
    2 * a ≤ 2 * (nearestNat a d * d) + d ∧ 2 * (nearestNat a d * d) ≤ 2 * a + d ∧
      (2 * a = 2 * (nearestNat a d * d) + d ∨ 2 * (nearestNat a d * d) = 2 * a + d →
        nearestNat a d % 2 = 0) := by
  have whole := Nat.div_add_mod' a d
  have rest := Nat.mod_lt a positive
  have next : (a / d + 1) * d = a / d * d + d := Nat.succ_mul _ _
  unfold nearestNat
  by_cases below : 2 * (a % d) < d
  · rw [if_pos below]
    omega
  by_cases above : d < 2 * (a % d)
  · rw [if_neg below, if_pos above, next]
    omega
  rw [if_neg below, if_neg above]
  rcases Nat.mod_two_eq_zero_or_one (a / d) with even | odd
  · rw [even, Nat.add_zero]
    omega
  · rw [odd, next]
    omega

/-- No multiple of the divisor is nearer, and another one that is as near leaves an even
number. -/
theorem nearest_nat_closest (positive : 0 < d) (j : ℤ) :
    |(a : ℤ) - nearestNat a d * d| ≤ |(a : ℤ) - j * d| ∧
      (|(a : ℤ) - nearestNat a d * d| = |(a : ℤ) - j * d| → j = nearestNat a d ∨
        nearestNat a d % 2 = 0) := by
  obtain ⟨lower, upper, even⟩ := nearest_nat_error (a := a) positive
  generalize nearestNat a d = m at lower upper even ⊢
  zify at lower upper
  have tie : |(a : ℤ) - m * d| * 2 = d → m % 2 = 0 := by
    intro tie
    apply even
    zify
    rcases abs_cases ((a : ℤ) - m * d) with ⟨same, _⟩ | ⟨same, _⟩
    · left
      linarith
    · right
      linarith
  have error : |(a : ℤ) - m * d| * 2 ≤ d := by
    rcases abs_cases ((a : ℤ) - m * d) with ⟨same, _⟩ | ⟨same, _⟩ <;> linarith
  by_cases same : j = m
  · subst same
    exact ⟨le_refl _, fun _ => Or.inl rfl⟩
  have apart : (d : ℤ) ≤ |(a : ℤ) - m * d| + |(a : ℤ) - j * d| := by
    have one : 1 ≤ |(m : ℤ) - j| := Int.one_le_abs (sub_ne_zero.mpr fun h => same h.symm)
    calc (d : ℤ) = 1 * d := (one_mul _).symm
      _ ≤ |(m : ℤ) - j| * d := mul_le_mul_of_nonneg_right one (Int.natCast_nonneg d)
      _ = |((a : ℤ) - m * d) - (a - j * d)| := by
        rw [← abs_of_nonneg (Int.natCast_nonneg d), ← abs_mul, abs_sub_comm, Nat.abs_cast]
        congr 1
        ring
      _ ≤ |(a : ℤ) - m * d| + |(a : ℤ) - j * d| := abs_sub _ _
  refine ⟨by linarith, fun equal => Or.inr (tie (by linarith))⟩

/-! ## The grid of the words -/

private theorem spacing_upper (positive : 0 < b) : a < b * 2 ^ spacing a b * 2 ^ 24 := by
  have bound := Nat.lt_pow_succ_log_self (b := 2) (by decide) (a / b)
  have grid : 2 ^ (Nat.log 2 (a / b) + 1) ≤ 2 ^ (spacing a b + 24) :=
    Nat.pow_le_pow_right (by decide) (by unfold spacing; omega)
  rw [Nat.mul_assoc, ← Nat.pow_add, Nat.mul_comm]
  exact (Nat.div_lt_iff_lt_mul positive).mp (bound.trans_le grid)

private theorem spacing_lower (positive : 0 < b) (wide : 0 < spacing a b) :
    b * 2 ^ spacing a b * 2 ^ 23 ≤ a := by
  have some : a / b ≠ 0 := by
    intro zero
    simp [spacing, zero] at wide
  have bound := Nat.pow_log_le_self 2 some
  have log : spacing a b + 23 = Nat.log 2 (a / b) := by
    unfold spacing at wide ⊢
    omega
  rw [Nat.mul_assoc, ← Nat.pow_add, log, Nat.mul_comm]
  exact (Nat.le_div_iff_mul_le positive).mp bound

/-- The significand is one of its exponent, or is rounded up to the next power of two. -/
private theorem significand_bounds (positive : 0 < b) :
    significand a b ≤ 2 ^ 24 ∧ (spacing a b = 0 ∨ 2 ^ 23 ≤ significand a b) := by
  have unit : 0 < b * 2 ^ spacing a b := by positivity
  obtain ⟨lower, upper, _⟩ := nearest_nat_error (a := a) unit
  have above := spacing_upper (a := a) positive
  unfold significand
  generalize nearestNat a (b * 2 ^ spacing a b) = m at lower upper ⊢
  refine ⟨?_, ?_⟩
  · by_contra large
    have more : b * 2 ^ spacing a b * (2 ^ 24 + 1) ≤ m * (b * 2 ^ spacing a b) := by
      rw [Nat.mul_comm]
      exact Nat.mul_le_mul_right _ (by omega)
    rw [Nat.mul_add, Nat.mul_one] at more
    omega
  · rcases Nat.eq_zero_or_pos (spacing a b) with none | wide
    · exact Or.inl none
    · right
      have below := spacing_lower positive wide
      by_contra small
      have less : m * (b * 2 ^ spacing a b) ≤ (2 ^ 23 - 1) * (b * 2 ^ spacing a b) :=
        Nat.mul_le_mul_right _ (by omega)
      rw [Nat.sub_mul, Nat.one_mul, Nat.mul_comm (2 ^ 23)] at less
      omega

/-- A word put together from a significand and the exponent of its spacing. -/
private theorem magnitude_of_grid (most : m ≤ 2 ^ 24) (normal : s = 0 ∨ 2 ^ 23 ≤ m)
    (finite : s < 253) {w : UInt32} (bits : w.toNat = s * 2 ^ 23 + m) :
    exponent w ≠ 255 ∧ sign w = false ∧ magnitude w = m * 2 ^ s := by
  have positive : sign w = false := by
    simp only [sign, decide_eq_false_iff_not]
    omega
  have whole : magnitude w = m * 2 ^ s ∧ exponent w ≠ 255 := by
    unfold magnitude
    by_cases subnormal : m < 2 ^ 23
    · have none : s = 0 := by omega
      have exponentIs : exponent w = 0 := by
        unfold exponent
        omega
      have fractionIs : fraction w = m := by
        unfold fraction
        omega
      simp [exponentIs, fractionIs, none]
    by_cases carried : m = 2 ^ 24
    · have exponentIs : exponent w = s + 2 := by
        unfold exponent
        omega
      have fractionIs : fraction w = 0 := by
        unfold fraction
        omega
      rw [if_neg (by omega), exponentIs, fractionIs, carried]
      refine ⟨?_, by omega⟩
      rw [show s + 2 - 1 = 1 + s by omega, Nat.pow_add]
      ring
    · have exponentIs : exponent w = s + 1 := by
        unfold exponent
        omega
      have fractionIs : fraction w = m - 2 ^ 23 := by
        unfold fraction
        omega
      have whole : 2 ^ 23 + (m - 2 ^ 23) = m := by omega
      rw [if_neg (by omega), exponentIs, fractionIs, Nat.add_sub_cancel, whole]
      exact ⟨rfl, by omega⟩
  exact ⟨whole.2, positive, whole.1⟩

/-- So far above the spacing, the words are multiples of it. -/
private theorem grid_divides {w : UInt32} (large : 2 ^ (s + 23) ≤ magnitude w) :
    2 ^ s ∣ magnitude w := by
  have fractionBound := fraction_lt w
  unfold magnitude at large ⊢
  split
  · rename_i subnormal
    rw [if_pos subnormal] at large
    have least : 2 ^ 23 ≤ 2 ^ (s + 23) := Nat.pow_le_pow_right (by decide) (by omega)
    omega
  · rename_i normal
    rw [if_neg normal] at large
    have small : (2 ^ 23 + fraction w) * 2 ^ (exponent w - 1) < 2 ^ (24 + (exponent w - 1)) := by
      rw [Nat.pow_add]
      exact Nat.mul_lt_mul_of_pos_right (by omega) (by positivity)
    have order := (Nat.pow_lt_pow_iff_right (by decide)).mp (large.trans_lt small)
    exact Dvd.dvd.mul_left (pow_dvd_pow 2 (by omega)) _

/-! ## The nearest word -/

/-- So many units are far below the largest finite word. -/
def Small (a b : ℕ) : Prop := a < b * 2 ^ 250

private theorem spacing_small (small : Small a b) : spacing a b < 253 := by
  have bound : a / b < 2 ^ 250 := Nat.div_lt_of_lt_mul small
  have log : Nat.log 2 (a / b) < 250 := by
    by_cases zero : a / b = 0
    · simp [zero]
    · exact (Nat.log_lt_iff_lt_pow (by decide) zero).mpr bound
  unfold spacing
  omega

private theorem nearest_word_bits (positive : 0 < b) (small : Small a b) :
    (nearestWord a b).toNat = spacing a b * 2 ^ 23 + significand a b := by
  have most := (significand_bounds (a := a) positive).1
  have finite := spacing_small small
  unfold nearestWord
  rw [UInt32.toNat_ofNat_of_lt' (by simp only [UInt32.size]; omega)]
  omega

theorem nearest_word_grid (positive : 0 < b) (small : Small a b) :
    exponent (nearestWord a b) ≠ 255 ∧ sign (nearestWord a b) = false ∧
      magnitude (nearestWord a b) = significand a b * 2 ^ spacing a b := by
  obtain ⟨most, normal⟩ := significand_bounds (a := a) positive
  exact magnitude_of_grid most normal (spacing_small small) (nearest_word_bits positive small)

/-- The word is one a ratio of units may be rounded to: finite and not negative, no finite word
is nearer, and another finite word that is as near leaves it even. -/
structure IsNearest (q : ℚ) (w : UInt32) : Prop where
  finite : exponent w ≠ 255
  positive : sign w = false
  nearest : ∀ v, exponent v ≠ 255 → |q - scaled w| ≤ |q - scaled v|
  even : ∀ v, exponent v ≠ 255 → |q - scaled w| = |q - scaled v| → scaled v ≠ scaled w →
    w.toNat % 2 = 0

/-- The distance from a multiple of the spacing, in parts of the divisor. -/
private theorem distance_eq (positive : 0 < b) (j : ℤ) :
    |(a : ℚ) / b - j * 2 ^ s| = (|(a : ℤ) - j * (b * 2 ^ s : ℕ)| : ℤ) / b := by
  have some : (0 : ℚ) < b := Nat.cast_pos.mpr positive
  rw [Int.cast_abs, ← abs_of_pos some, ← abs_div, abs_of_pos some]
  congr 1
  push_cast
  field_simp

/-- No multiple of the spacing is nearer than the word. -/
theorem grid_nearest (positive : 0 < b) (j : ℤ) :
    |(a : ℚ) / b - significand a b * 2 ^ spacing a b| ≤ |(a : ℚ) / b - j * 2 ^ spacing a b| ∧
      (|(a : ℚ) / b - significand a b * 2 ^ spacing a b| = |(a : ℚ) / b - j * 2 ^ spacing a b| →
        j = significand a b ∨ significand a b % 2 = 0) := by
  have some : (0 : ℚ) < b := Nat.cast_pos.mpr positive
  have unit : 0 < b * 2 ^ spacing a b := by positivity
  have own := distance_eq (a := a) (s := spacing a b) positive (significand a b)
  obtain ⟨nearest, even⟩ := nearest_nat_closest (a := a) unit j
  rw [Int.cast_natCast] at own
  rw [own, distance_eq positive j]
  refine ⟨div_le_div_of_nonneg_right (Int.cast_le.mpr nearest) some.le, fun same => even ?_⟩
  exact Int.cast_injective ((div_left_inj' some.ne').mp same)

/-- A word is on the grid too, or below the power of two from which the grid begins. -/
private theorem grid_or_below (s : ℕ) (v : UInt32) :
    (∃ j : ℤ, scaled v = j * 2 ^ s) ∨ 0 < s ∧ scaled v < 2 ^ 23 * 2 ^ s := by
  rcases Nat.eq_zero_or_pos s with rfl | wide
  · exact Or.inl ⟨scaled v, by simp⟩
  by_cases below : scaled v < 2 ^ 23 * 2 ^ s
  · exact Or.inr ⟨wide, below⟩
  left
  have power : (0 : ℤ) < 2 ^ 23 * 2 ^ s := by positivity
  have unsigned : scaled v = magnitude v := by
    have bounds := scaled_bounds v
    unfold scaled at bounds below ⊢
    split
    · rename_i negative
      rw [if_pos negative] at below
      omega
    · rfl
  have large : 2 ^ (s + 23) ≤ magnitude v := by
    rw [unsigned] at below
    rw [Nat.add_comm, Nat.pow_add]
    exact_mod_cast not_lt.mp below
  obtain ⟨k, whole⟩ := grid_divides large
  refine ⟨k, ?_⟩
  rw [unsigned, whole]
  push_cast
  ring

/-- Rounding to nearest with ties to even. -/
theorem nearest_word_nearest (positive : 0 < b) (small : Small a b) :
    IsNearest ((a : ℚ) / b) (nearestWord a b) := by
  obtain ⟨finite, unsigned, magnitudeIs⟩ := nearest_word_grid positive small
  have own : (scaled (nearestWord a b) : ℚ) = significand a b * 2 ^ spacing a b := by
    rw [scaled, unsigned, if_neg Bool.false_ne_true, magnitudeIs]
    push_cast
    rfl
  -- Below the grid the distance is larger than that of the grid's first multiple.
  have farther {v : UInt32} (wide : 0 < spacing a b)
      (below : scaled v < 2 ^ 23 * 2 ^ spacing a b) :
      |(a : ℚ) / b - significand a b * 2 ^ spacing a b| < |(a : ℚ) / b - scaled v| := by
    have begins : (2 : ℚ) ^ 23 * 2 ^ spacing a b ≤ a / b := by
      rw [le_div_iff₀ (Nat.cast_pos.mpr positive)]
      have least := spacing_lower positive wide
      have cast : ((b * 2 ^ spacing a b * 2 ^ 23 : ℕ) : ℚ) ≤ a := Nat.cast_le.mpr least
      push_cast at cast
      linarith
    have under : (scaled v : ℚ) < 2 ^ 23 * 2 ^ spacing a b := by exact_mod_cast below
    have first := (grid_nearest (a := a) positive (2 ^ 23)).1
    simp only [Int.cast_pow, Int.cast_ofNat] at first
    rw [abs_of_nonneg (sub_nonneg.mpr begins)] at first
    rw [abs_of_pos (by linarith : 0 < (a : ℚ) / b - scaled v)]
    linarith
  refine ⟨finite, unsigned, fun v _ => ?_, fun v _ same apart => ?_⟩
  · rw [own]
    rcases grid_or_below (spacing a b) v with ⟨j, multiple⟩ | ⟨wide, below⟩
    · rw [multiple]
      push_cast
      exact (grid_nearest positive j).1
    · exact (farther wide below).le
  · rw [own] at same
    rcases grid_or_below (spacing a b) v with ⟨j, multiple⟩ | ⟨wide, below⟩
    · rw [multiple] at same
      push_cast at same
      rw [nearest_word_bits positive small]
      rcases (grid_nearest positive j).2 same with equal | even
      · refine absurd ?_ apart
        have words : (scaled v : ℚ) = scaled (nearestWord a b) := by
          rw [own, multiple, equal]
          push_cast
          rfl
        exact_mod_cast words
      · omega
    · exact absurd same (farther wide below).ne

/-! ## The value of the word -/

theorem scaled_of_value {q : ℚ} (numeric : value w = some (number q)) :
    (scaled w : ℚ) = q * 2 ^ 149 := by
  have unit : (0 : ℚ) < 2 ^ 149 := by positivity
  unfold value at numeric
  split at numeric
  · cases numeric
  split at numeric
  · split at numeric <;> simp [number] at numeric
  · have ratio : (scaled w : ℚ) / 2 ^ 149 = q := by simpa [number] using numeric
    rw [← ratio, div_mul_cancel₀ _ unit.ne']

/-- The magnitude of a value that is not negative. -/
theorem magnitude_of_value {q : ℚ} (numeric : value w = some (number q)) (nonneg : 0 ≤ q) :
    (magnitude w : ℚ) = q * 2 ^ 149 := by
  have units := scaled_of_value numeric
  have least : (0 : ℚ) ≤ scaled w := by
    rw [units]
    positivity
  unfold scaled at units least
  split at units
  · rename_i negative
    rw [if_pos negative] at least
    push_cast at units least
    have none : (0 : ℚ) ≤ magnitude w := Nat.cast_nonneg _
    linarith
  · exact_mod_cast units

/-- The ratio is zero, or far from the subnormal and from the infinite words. -/
def Normal (a b : ℕ) : Prop := a < b * 2 ^ 101 ∧ (a = 0 ∨ b ≤ a * 2 ^ 126)

instance (a b : ℕ) : Decidable (Normal a b) := inferInstanceAs (Decidable (_ ∧ _))

/-- The error is half the spacing at most, and the spacing a small part of what is rounded. -/
private theorem significand_error (positive : 0 < b) (normal : a = 0 ∨ b * 2 ^ 23 ≤ a) :
    |(a : ℚ) / b - significand a b * 2 ^ spacing a b| ≤ a / b / 2 ^ 24 := by
  have some : (0 : ℚ) < b := Nat.cast_pos.mpr positive
  have unit : 0 < b * 2 ^ spacing a b := by positivity
  have part : a = 0 ∨ b * 2 ^ spacing a b * 2 ^ 23 ≤ a := by
    rcases Nat.eq_zero_or_pos (spacing a b) with none | wide
    · rwa [none, Nat.pow_zero, Nat.mul_one]
    · exact Or.inr (spacing_lower positive wide)
  have own := distance_eq (a := a) (s := spacing a b) positive (significand a b)
  rw [Int.cast_natCast] at own
  rw [own, div_right_comm]
  refine div_le_div_of_nonneg_right ?_ some.le
  rw [le_div_iff₀ (by positivity)]
  suffices error : |(a : ℤ) - significand a b * (b * 2 ^ spacing a b : ℕ)| * 2 ^ 24 ≤ a by
    exact_mod_cast error
  obtain ⟨lower, upper, _⟩ := nearest_nat_error (a := a) unit
  unfold significand
  generalize b * 2 ^ spacing a b = d at unit part lower upper ⊢
  rcases part with rfl | part
  · have none : nearestNat 0 d = 0 := by
      by_contra some
      have least := Nat.le_mul_of_pos_left d (Nat.pos_of_ne_zero some)
      omega
    simp [none]
  · zify at part lower upper
    rcases abs_cases ((a : ℤ) - nearestNat a d * d) with ⟨same, _⟩ | ⟨same, _⟩
    · rw [same]
      linarith
    · rw [same]
      linarith

private theorem small_of_normal (normal : Normal a b) : Small (a * 2 ^ 149) b := by
  have bound := Nat.mul_lt_mul_of_pos_right normal.1 (show 0 < 2 ^ 149 by positivity)
  rwa [Nat.mul_assoc, ← Nat.pow_add] at bound

/-- The word of a ratio is nearest to it. -/
private theorem ratio_nearest (positive : 0 < b) (normal : Normal a b) :
    IsNearest ((a : ℚ) / b * 2 ^ 149) (ofRatio a b) := by
  have nearest := nearest_word_nearest positive (small_of_normal normal)
  rwa [Nat.cast_mul, Nat.cast_pow, Nat.cast_ofNat, mul_div_right_comm] at nearest

/-- Rounding a ratio changes it by a small part. -/
private theorem value_of_ratio (positive : 0 < b) (normal : Normal a b) :
    ∃ q : ℚ, value (ofRatio a b) = some (number q) ∧ |(a : ℚ) / b - q| ≤ a / b / 2 ^ 24 := by
  have small := small_of_normal normal
  have units : a * 2 ^ 149 = 0 ∨ b * 2 ^ 23 ≤ a * 2 ^ 149 := by
    rcases normal.2 with rfl | large
    · exact Or.inl (Nat.zero_mul _)
    · have bound := Nat.mul_le_mul_right (2 ^ 23) large
      rw [Nat.mul_assoc, ← Nat.pow_add] at bound
      exact Or.inr bound
  obtain ⟨finite, unsigned, magnitudeIs⟩ : exponent (ofRatio a b) ≠ 255 ∧
      sign (ofRatio a b) = false ∧ magnitude (ofRatio a b) = _ := nearest_word_grid positive small
  have numeric : isNaN (ofRatio a b) = false := by simp [isNaN, finite]
  refine ⟨(significand (a * 2 ^ 149) b * 2 ^ spacing (a * 2 ^ 149) b : ℕ) / 2 ^ 149, ?_, ?_⟩
  · rw [value, numeric, if_neg Bool.false_ne_true, if_neg finite, scaled, unsigned,
      if_neg Bool.false_ne_true, magnitudeIs]
    simp
  · have error := significand_error positive units
    have scale : (a : ℚ) / b - (significand (a * 2 ^ 149) b * 2 ^ spacing (a * 2 ^ 149) b : ℕ) /
        2 ^ 149 = (((a * 2 ^ 149 : ℕ) : ℚ) / b -
          significand (a * 2 ^ 149) b * 2 ^ spacing (a * 2 ^ 149) b) / 2 ^ 149 := by
      rw [sub_div, Nat.cast_mul, Nat.cast_mul, Nat.cast_pow, Nat.cast_pow, Nat.cast_ofNat,
        div_right_comm, mul_div_cancel_right₀ _ (by positivity)]
    calc |(a : ℚ) / b - (significand (a * 2 ^ 149) b * 2 ^ spacing (a * 2 ^ 149) b : ℕ) / 2 ^ 149|
        = |((a * 2 ^ 149 : ℕ) : ℚ) / b -
            significand (a * 2 ^ 149) b * 2 ^ spacing (a * 2 ^ 149) b| / 2 ^ 149 := by
          rw [scale, abs_div, abs_of_pos (show (0 : ℚ) < 2 ^ 149 by positivity)]
      _ ≤ ((a * 2 ^ 149 : ℕ) : ℚ) / b / 2 ^ 24 / 2 ^ 149 :=
          div_le_div_of_nonneg_right error (by positivity)
      _ = a / b / 2 ^ 24 := by
          rw [Nat.cast_mul, Nat.cast_pow, Nat.cast_ofNat, div_right_comm,
            div_right_comm _ _ (2 ^ 149), mul_div_cancel_right₀ _ (by positivity)]

/-! ## Quotients and products -/

/-- The number is zero, or far from what subnormal and infinite words are for. -/
def InRange (q : ℚ) : Prop := q < 2 ^ 101 ∧ (q = 0 ∨ 1 ≤ q * 2 ^ 126)

theorem normal_of_in_range (positive : 0 < b) (range : InRange ((a : ℚ) / b)) : Normal a b := by
  have some : (0 : ℚ) < b := Nat.cast_pos.mpr positive
  obtain ⟨below, above⟩ := range
  rw [div_lt_iff₀ some] at below
  refine ⟨by rw [Nat.mul_comm]; exact_mod_cast below, ?_⟩
  rcases above with zero | above
  · left
    exact_mod_cast (div_eq_zero_iff.mp zero).resolve_right some.ne'
  · right
    rw [div_mul_eq_mul_div, le_div_iff₀ some, one_mul] at above
    exact_mod_cast above

/-- A quotient is rounded once. -/
theorem value_quotient {q p : ℚ} (dividend : value w = some (number q))
    (divisor : value v = some (number p)) (nonneg : 0 ≤ q) (positive : 0 < p)
    (range : InRange (q / p)) : IsNearest (q / p * 2 ^ 149) (quotient w v) ∧
    ∃ r, value (quotient w v) = some (number r) ∧ |q / p - r| ≤ q / p / 2 ^ 24 := by
  have unit : (2 : ℚ) ^ 149 ≠ 0 := by positivity
  have above := magnitude_of_value dividend nonneg
  have below := magnitude_of_value divisor positive.le
  have ratio : (magnitude w : ℚ) / magnitude v = q / p := by
    rw [above, below, mul_div_mul_right _ _ unit]
  have some : 0 < magnitude v := by
    have least : (0 : ℚ) < magnitude v := by
      rw [below]
      positivity
    exact_mod_cast least
  rw [← ratio] at range ⊢
  have normal := normal_of_in_range some range
  exact ⟨ratio_nearest some normal, value_of_ratio some normal⟩

/-- A product is rounded once. -/
theorem value_product {q p : ℚ} (first : value w = some (number q))
    (second : value v = some (number p)) (nonneg : 0 ≤ q) (nonneg' : 0 ≤ p)
    (range : InRange (q * p)) :
    ∃ r, value (product w v) = some (number r) ∧ |q * p - r| ≤ q * p / 2 ^ 24 := by
  have unit : (2 : ℚ) ^ 149 ≠ 0 := by positivity
  have ratio : ((magnitude w * magnitude v : ℕ) : ℚ) / (2 ^ 149 * 2 ^ 149 : ℕ) = q * p := by
    rw [Nat.cast_mul, Nat.cast_mul, Nat.cast_pow, Nat.cast_ofNat, magnitude_of_value first nonneg,
      magnitude_of_value second nonneg', mul_mul_mul_comm,
      mul_div_cancel_right₀ _ (mul_ne_zero unit unit)]
  rw [← ratio] at range ⊢
  exact value_of_ratio (by positivity) (normal_of_in_range (by positivity) range)

end PowerMonitor.Binary32
