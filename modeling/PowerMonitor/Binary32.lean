import Mathlib.Algebra.Order.Field.Rat
import Mathlib.Algebra.Order.Field.Basic
import Mathlib.Order.WithBot
import Mathlib.Data.Nat.Log
import Mathlib.Tactic.NormNum
import Mathlib.Tactic.Positivity
import Mathlib.Tactic.Ring

/-! Binary32 words and their ordered comparison. A comparison is computed on the bits, as a
signed multiple of the smallest subnormal; the value of a word is an extended rational, and
the comparison is shown to be the order of the values, false on every NaN. -/
namespace PowerMonitor.Binary32

/-- The sign bit. -/
def sign (w : UInt32) : Bool := decide (2 ^ 31 ≤ w.toNat)

/-- The biased exponent. -/
def exponent (w : UInt32) : Nat := w.toNat / 2 ^ 23 % 2 ^ 8

/-- The trailing significand. -/
def fraction (w : UInt32) : Nat := w.toNat % 2 ^ 23

/-- All ones in the exponent and a significand. -/
def isNaN (w : UInt32) : Bool := exponent w == 255 && fraction w != 0

/-- The magnitude in units of the smallest subnormal. The same formula puts an infinity above
every finite word. -/
def magnitude (w : UInt32) : Nat :=
  if exponent w = 0 then fraction w else (2 ^ 23 + fraction w) * 2 ^ (exponent w - 1)

/-- The signed magnitude. -/
def scaled (w : UInt32) : Int := if sign w then -magnitude w else magnitude w

/-- `w < v` of two `float`s. -/
def lt (w v : UInt32) : Bool := !isNaN w && !isNaN v && decide (scaled w < scaled v)

/-- The word of a small natural number, which binary32 holds exactly below `2 ^ 24`. -/
def ofNat (n : Nat) : UInt32 :=
  if n = 0 then 0 else UInt32.ofNat ((126 + Nat.log 2 n) * 2 ^ 23 + n * 2 ^ (23 - Nat.log 2 n))

/-- A rational number or an infinity. -/
abbrev Extended : Type := WithBot (WithTop ℚ)

/-- A rational number as a value. -/
def number (q : ℚ) : Extended := ((q : WithTop ℚ) : WithBot (WithTop ℚ))

/-- The value of a word; a NaN has none. -/
def value (w : UInt32) : Option Extended :=
  if isNaN w then none
  else if exponent w = 255 then some (if sign w then ⊥ else ((⊤ : WithTop ℚ) : Extended))
  else some (number (scaled w / 2 ^ 149))

@[simp] theorem number_lt_number {p q : ℚ} : number p < number q ↔ p < q := by
  simp [number]

@[simp] theorem number_le_number {p q : ℚ} : number p ≤ number q ↔ p ≤ q := by
  simp [number]

/-- What lies between two numbers is a number. -/
theorem number_of_between {v : Extended} {p q : ℚ} (lower : number p ≤ v) (upper : v ≤ number q) :
    ∃ d, v = number d ∧ p ≤ d ∧ d ≤ q := by
  induction v using WithBot.recBotCoe with
  | bot => simp [number] at lower
  | coe v =>
    induction v using WithTop.recTopCoe with
    | top => simp [number] at upper
    | coe d => exact ⟨d, rfl, number_le_number.mp lower, number_le_number.mp upper⟩

theorem value_eq_none_iff (w : UInt32) : value w = none ↔ isNaN w = true := by
  unfold value
  split
  · simp_all
  · split <;> simp_all

private theorem exponent_lt (w : UInt32) : exponent w < 256 := Nat.mod_lt _ (by decide)

theorem fraction_lt (w : UInt32) : fraction w < 2 ^ 23 := Nat.mod_lt _ (by decide)

/-- The formula's value of an infinity. -/
def overflow : Nat := 2 ^ 24 * 2 ^ 253

private theorem magnitude_finite (finite : exponent w ≠ 255) : magnitude w < overflow := by
  have fractionBound := fraction_lt w
  have exponentBound := exponent_lt w
  unfold magnitude overflow
  split
  · exact Nat.lt_trans fractionBound (by decide)
  · calc (2 ^ 23 + fraction w) * 2 ^ (exponent w - 1)
        ≤ (2 ^ 23 + fraction w) * 2 ^ 253 :=
          Nat.mul_le_mul_left _ (Nat.pow_le_pow_right (by decide) (by omega))
      _ < 2 ^ 24 * 2 ^ 253 := Nat.mul_lt_mul_of_pos_right (by omega) (by positivity)

private theorem magnitude_infinite (infinite : exponent w = 255) (number : isNaN w = false) :
    magnitude w = overflow := by
  have zero : fraction w = 0 := by simpa [isNaN, infinite] using number
  simp only [magnitude, infinite, zero, overflow]
  norm_num

theorem scaled_bounds (w : UInt32) :
    -(magnitude w : Int) ≤ scaled w ∧ scaled w ≤ magnitude w := by
  unfold scaled
  split <;> omega

private theorem scaled_infinite (infinite : exponent w = 255) (number : isNaN w = false) :
    scaled w = if sign w then -(overflow : Int) else overflow := by
  rw [scaled, magnitude_infinite infinite number]

/-- A finite word lies strictly between the infinities. -/
private theorem scaled_finite (finite : exponent w ≠ 255) :
    -(overflow : Int) < scaled w ∧ scaled w < overflow := by
  have small : (magnitude w : Int) < overflow := Int.ofNat_lt.mpr (magnitude_finite finite)
  obtain ⟨lower, upper⟩ := scaled_bounds w
  omega

/-- The order of the signed magnitudes is the order of the values. -/
theorem value_lt_iff (wNumber : isNaN w = false) (vNumber : isNaN v = false) :
    ∃ a b, value w = some a ∧ value v = some b ∧ (a < b ↔ scaled w < scaled v) := by
  have unit : (0 : ℚ) < 2 ^ 149 := by positivity
  have positive : (0 : Int) < overflow := by decide
  simp only [value, wNumber, vNumber, Bool.false_eq_true, ↓reduceIte]
  by_cases wInfinite : exponent w = 255 <;> by_cases vInfinite : exponent v = 255
  · refine ⟨_, _, by rw [if_pos wInfinite], by rw [if_pos vInfinite], ?_⟩
    rw [scaled_infinite wInfinite wNumber, scaled_infinite vInfinite vNumber]
    cases sign w <;> cases sign v <;> simp
    omega
  · refine ⟨_, _, by rw [if_pos wInfinite], by rw [if_neg vInfinite], ?_⟩
    have between := scaled_finite vInfinite
    rw [scaled_infinite wInfinite wNumber]
    cases sign w <;> simp [number] <;> omega
  · refine ⟨_, _, by rw [if_neg wInfinite], by rw [if_pos vInfinite], ?_⟩
    have between := scaled_finite wInfinite
    rw [scaled_infinite vInfinite vNumber]
    cases sign v with
    | true => simp [number]; omega
    | false => exact iff_of_true (WithBot.coe_lt_coe.mpr (WithTop.coe_lt_top _)) between.2
  · refine ⟨_, _, by rw [if_neg wInfinite], by rw [if_neg vInfinite], ?_⟩
    rw [number_lt_number, div_lt_div_iff_of_pos_right unit, Int.cast_lt]

/-- A comparison is true exactly when both words have values and these are so ordered. -/
theorem lt_iff : lt w v = true ↔ ∃ a b, value w = some a ∧ value v = some b ∧ a < b := by
  simp only [lt, Bool.and_eq_true, Bool.not_eq_true', decide_eq_true_eq]
  constructor
  · rintro ⟨⟨wNumber, vNumber⟩, below⟩
    obtain ⟨a, b, wValue, vValue, order⟩ := value_lt_iff wNumber vNumber
    exact ⟨a, b, wValue, vValue, order.mpr below⟩
  · rintro ⟨a, b, wValue, vValue, below⟩
    have wNumber : isNaN w = false := by
      rw [← Bool.not_eq_true, ← value_eq_none_iff, wValue]; simp
    have vNumber : isNaN v = false := by
      rw [← Bool.not_eq_true, ← value_eq_none_iff, vValue]; simp
    obtain ⟨a', b', wValue', vValue', order⟩ := value_lt_iff wNumber vNumber
    rw [wValue, Option.some.injEq] at wValue'
    rw [vValue, Option.some.injEq] at vValue'
    subst wValue' vValue'
    exact ⟨⟨wNumber, vNumber⟩, order.mp below⟩

/-- A word limited from above, then from below, each by one comparison. -/
def clamp (lo hi w : UInt32) : UInt32 :=
  let w := if lt hi w then hi else w
  if lt w lo then lo else w

/-- Limiting a number is what it is for the values. -/
theorem value_clamp (low : value lo = some l) (high : value hi = some h) (order : l ≤ h)
    (number : value w = some a) : value (clamp lo hi w) = some (max l (min h a)) := by
  have above : lt hi w = true ↔ h < a := by simp [lt_iff, high, number]
  unfold clamp
  dsimp only
  by_cases exceeds : lt hi w = true
  · have below : ¬ lt hi lo = true := by simpa [lt_iff, high, low] using order
    rw [if_pos exceeds, if_neg below, high, min_eq_left (above.mp exceeds).le, max_eq_right order]
  · have within : a ≤ h := not_lt.mp fun beyond => exceeds (above.mpr beyond)
    rw [if_neg exceeds, min_eq_right within]
    have under : lt w lo = true ↔ a < l := by simp [lt_iff, low, number]
    by_cases short : lt w lo = true
    · rw [if_pos short, low, max_eq_left (under.mp short).le]
    · rw [if_neg short, number,
        max_eq_right (not_lt.mp fun beyond => short (under.mpr beyond))]

/-- No comparison holds of a NaN, so it is not limited. -/
theorem clamp_nan (nan : isNaN w = true) : clamp lo hi w = w := by
  simp [clamp, lt, nan]

/-- A positive normal word, from its fields. -/
private theorem value_normal (bits : w.toNat = e * 2 ^ 23 + f) (fields : f < 2 ^ 23)
    (normal : 0 < e) (finite : e < 255) :
    value w = some (number ((2 ^ 23 + f : ℕ) * 2 ^ (e - 1) / 2 ^ 149)) := by
  have exponentIs : exponent w = e := by
    unfold exponent
    omega
  have fractionIs : fraction w = f := by
    unfold fraction
    omega
  have positive : sign w = false := by
    simp only [sign, decide_eq_false_iff_not]
    omega
  have notInfinite : e ≠ 255 := by omega
  have notSubnormal : e ≠ 0 := by omega
  simp [value, isNaN, scaled, magnitude, exponentIs, fractionIs, positive, notInfinite,
    notSubnormal]

/-- A small natural number is the value of its word. -/
theorem value_ofNat {n : Nat} (small : n < 2 ^ 24) :
    value (ofNat n) = some (number n) := by
  by_cases zero : n = 0
  · subst zero
    have plain : exponent 0 ≠ 255 ∧ isNaN 0 = false ∧ scaled 0 = 0 := by decide
    simp [ofNat, value, plain.1, plain.2.1, plain.2.2]
  have lower := Nat.pow_log_le_self 2 zero
  have upper := Nat.lt_pow_succ_log_self (b := 2) (by decide) n
  have few : Nat.log 2 n < 24 := (Nat.log_lt_iff_lt_pow (by decide) zero).mpr small
  rw [ofNat, if_neg zero]
  generalize Nat.log 2 n = e at lower upper few ⊢
  -- The significand, with its leading one at bit 23.
  have unit : 2 ^ e * 2 ^ (23 - e) = 2 ^ 23 := by
    rw [← pow_add]
    congr 1
    omega
  have least : 2 ^ 23 ≤ n * 2 ^ (23 - e) := unit ▸ Nat.mul_le_mul_right _ lower
  have most : n * 2 ^ (23 - e) < 2 ^ 24 := by
    calc n * 2 ^ (23 - e) < 2 ^ (e + 1) * 2 ^ (23 - e) :=
          Nat.mul_lt_mul_of_pos_right upper (by positivity)
      _ = 2 ^ e * 2 ^ (23 - e) * 2 := by ring
      _ = 2 ^ 24 := by rw [unit]; norm_num
  have scale : ((n * 2 ^ (23 - e) : ℕ) : ℚ) * 2 ^ (126 + e) = n * 2 ^ 149 := by
    push_cast
    rw [mul_assoc, ← pow_add]
    congr 2
    omega
  generalize n * 2 ^ (23 - e) = m at least most scale ⊢
  have bits : (UInt32.ofNat ((126 + e) * 2 ^ 23 + m)).toNat =
      (127 + e) * 2 ^ 23 + (m - 2 ^ 23) := by
    rw [UInt32.toNat_ofNat_of_lt' (by simp only [UInt32.size]; omega)]
    omega
  rw [value_normal bits (by omega) (by omega) (by omega)]
  congr 2
  rw [show 2 ^ 23 + (m - 2 ^ 23) = m by omega, show 127 + e - 1 = 126 + e by omega, scale,
    mul_div_cancel_right₀ _ (by positivity)]

/-- Small natural numbers have different words. -/
theorem ofNat_injective {n m : Nat} (nSmall : n < 2 ^ 24) (mSmall : m < 2 ^ 24)
    (same : ofNat n = ofNat m) : n = m := by
  have values := congrArg value same
  rw [value_ofNat nSmall, value_ofNat mSmall] at values
  simpa [number] using values

end PowerMonitor.Binary32
