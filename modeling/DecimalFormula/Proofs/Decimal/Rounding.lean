import Mathlib
import DecimalFormula.Proofs.Decimal.Value

/-!
# Rounding of rational numbers

A rational number is rounded to a multiple of a power of ten, the nearest one and the
even one of two that are equally near. The power is that of the last of the digits that
a context keeps, or the last place of small results. Rounding a finite number to a
context rounds its value so, and fails if what it is rounded to is too large. Numbers
between the same two neighbours among finer multiples are rounded to the same.
-/

set_option autoImplicit false

namespace DecimalFormula.Decimal

/-!
## The nearest integer
-/

/-- The nearest integer, and the even one of two that are equally near. -/
def nearestEven (number : ℚ) : ℤ :=
  let whole := ⌊number⌋
  if number - whole < 1 / 2 then whole
  else if 1 / 2 < number - whole then whole + 1
  else if Even whole then whole
  else whole + 1

theorem nearestEven_near (number : ℚ) :
    |number - nearestEven number| ≤ 1 / 2 ∧ (|number - nearestEven number| = 1 / 2 → Even (nearestEven number)) := by
  have below := Int.floor_le number
  have above := Int.lt_floor_add_one number
  simp only [nearestEven]
  split_ifs with less more even
  · rw [abs_of_nonneg (sub_nonneg.mpr below)]
    exact ⟨less.le, fun equal => absurd equal less.ne⟩
  · push_cast
    rw [abs_of_nonpos (by linarith)]
    exact ⟨by linarith, fun equal => by linarith⟩
  · rw [abs_of_nonneg (sub_nonneg.mpr below)]
    exact ⟨le_of_not_gt more, fun _ => even⟩
  · push_cast
    rw [abs_of_nonpos (by linarith)]
    exact ⟨by linarith, fun _ => (Int.not_even_iff_odd.mp even).add_one⟩

/-- One integer is nearest, with ties to the even one. -/
theorem nearestEven_eq_iff {number : ℚ} {integer : ℤ} :
    nearestEven number = integer ↔
      |number - integer| ≤ 1 / 2 ∧ (|number - integer| = 1 / 2 → Even integer) := by
  constructor
  · rintro rfl
    exact nearestEven_near number
  · rintro ⟨near, tie⟩
    obtain ⟨otherNear, otherTie⟩ := nearestEven_near number
    generalize nearestEven number = other at otherNear otherTie
    by_contra different
    obtain ⟨lower, upper⟩ := abs_le.mp near
    obtain ⟨otherLower, otherUpper⟩ := abs_le.mp otherNear
    have apart : other - integer ≤ 1 ∧ integer - other ≤ 1 := by
      constructor
      · exact_mod_cast (show (other - integer : ℚ) ≤ 1 by linarith)
      · exact_mod_cast (show (integer - other : ℚ) ≤ 1 by linarith)
    rcases lt_or_gt_of_ne different with less | greater
    · have next : (integer : ℚ) = other + 1 := by exact_mod_cast (show integer = other + 1 by omega)
      have even := tie (by rw [abs_of_nonpos (by linarith)]; linarith)
      have otherEven := otherTie (by rw [abs_of_nonneg (by linarith)]; linarith)
      rw [Int.even_iff] at even otherEven
      omega
    · have next : (other : ℚ) = integer + 1 := by exact_mod_cast (show other = integer + 1 by omega)
      have even := tie (by rw [abs_of_nonneg (by linarith)]; linarith)
      have otherEven := otherTie (by rw [abs_of_nonpos (by linarith)]; linarith)
      rw [Int.even_iff] at even otherEven
      omega

theorem nearestEven_intCast (integer : ℤ) : nearestEven integer = integer :=
  nearestEven_eq_iff.mpr (by simp)

theorem nearestEven_neg (number : ℚ) : nearestEven (-number) = -nearestEven number := by
  obtain ⟨near, tie⟩ := nearestEven_near number
  have mirrored : -number - (-nearestEven number : ℤ) = -(number - nearestEven number) := by
    push_cast
    ring
  rw [nearestEven_eq_iff, mirrored, abs_neg]
  exact ⟨near, fun equal => (tie equal).neg⟩

theorem nearestEven_of_between_halves {number : ℚ} {step : ℤ} (lower : step * (1 / 2) < number)
    (upper : number < (step + 1) * (1 / 2)) : nearestEven number = (step + 1) / 2 := by
  have near : |number - ((step + 1) / 2 : ℤ)| < 1 / 2 := by
    rw [abs_sub_lt_iff]
    rcases Int.even_or_odd' step with ⟨half, rfl | rfl⟩
    · rw [show (2 * half + 1) / 2 = half by omega]
      push_cast at lower upper
      constructor <;> linarith
    · rw [show (2 * half + 1 + 1) / 2 = half + 1 by omega]
      push_cast at lower upper ⊢
      constructor <;> linarith
  exact nearestEven_eq_iff.mpr ⟨near.le, fun equal => absurd equal near.ne⟩

theorem nearestEven_of_short {number places : Nat} (short : digitCount number < places) :
    nearestEven (number / 10 ^ places) = 0 := by
  have below : number * 10 < 10 ^ places := by
    calc number * 10
        < 10 ^ digitCount number * 10 := Nat.mul_lt_mul_of_pos_right (lt_ten_pow_digitCount number) (by decide)
      _ = 10 ^ (digitCount number + 1) := (pow_succ 10 _).symm
      _ ≤ 10 ^ places := Nat.pow_le_pow_right (by decide) short
  have castBelow : (number : ℚ) * 10 < 10 ^ places := by exact_mod_cast below
  have nonneg : (0 : ℚ) ≤ number := Nat.cast_nonneg number
  have small : (number : ℚ) / 10 ^ places < 1 / 2 := by
    rw [div_lt_iff₀ (by positivity)]
    linarith
  refine nearestEven_eq_iff.mpr ?_
  rw [Int.cast_zero, sub_zero, abs_of_nonneg (by positivity)]
  exact ⟨small.le, fun equal => absurd equal small.ne⟩

theorem dropDigits_eq_nearestEven (number places : Nat) :
    (dropDigits number places : ℤ) = nearestEven (number / 10 ^ places) := by
  rw [dropDigits]
  split
  · next short => rw [nearestEven_of_short short, Nat.cast_zero]
  · have unit_pos : (0 : ℚ) < 10 ^ places := by positivity
    have unit : ((powerOfTen places : Nat) : ℚ) = 10 ^ places := by rw [powerOfTen_eq, Nat.cast_pow, Nat.cast_ofNat]
    have whole : ⌊(number : ℚ) / 10 ^ places⌋ = (number / powerOfTen places : Nat) := by
      rw [← unit, Rat.floor_natCast_div_natCast, Int.natCast_ediv]
    have excess : (number : ℚ) / 10 ^ places - (number / powerOfTen places : Nat) =
        (number % powerOfTen places : Nat) / 10 ^ places := by
      have split : (number : ℚ) =
          (number / powerOfTen places : Nat) * 10 ^ places + (number % powerOfTen places : Nat) := by
        exact_mod_cast (Nat.div_add_mod' number (powerOfTen places)).symm
      rw [sub_eq_iff_eq_add, div_add' _ _ _ unit_pos.ne', add_comm, ← split]
    have less : ∀ rest : Nat, (rest : ℚ) / 10 ^ places < 1 / 2 ↔ 2 * rest < powerOfTen places := by
      intro rest
      rw [div_lt_div_iff₀ unit_pos two_pos, one_mul, mul_comm, ← unit]
      exact_mod_cast Iff.rfl
    have more : ∀ rest : Nat, 1 / 2 < (rest : ℚ) / 10 ^ places ↔ powerOfTen places < 2 * rest := by
      intro rest
      rw [div_lt_div_iff₀ two_pos unit_pos, one_mul, mul_comm, ← unit]
      exact_mod_cast Iff.rfl
    simp only [nearestEven, whole, Int.cast_natCast, excess, less, more, Int.even_coe_nat, Nat.cast_ite]
    refine if_congr Iff.rfl rfl (if_congr Iff.rfl (Nat.cast_succ _) ?_)
    split_ifs with even
    · rw [Nat.even_iff.mp even, Nat.add_zero]
    · rw [Nat.not_even_iff.mp even, Nat.cast_succ]

/-- Rounding carries into one digit more at most. -/
theorem dropDigits_le {number places digits : Nat} (bound : number < 10 ^ (places + digits)) :
    dropDigits number places ≤ 10 ^ digits := by
  have quotient : (number : ℚ) / 10 ^ places < 10 ^ digits := by
    rw [div_lt_iff₀ (by positivity), mul_comm, ← pow_add]
    exact_mod_cast bound
  have near := (abs_le.mp (nearestEven_near (number / 10 ^ places)).1).1
  rw [← dropDigits_eq_nearestEven, Int.cast_natCast] at near
  have below : (dropDigits number places : ℚ) < (10 ^ digits + 1 : Nat) := by
    push_cast
    linarith
  exact Nat.le_of_lt_succ (by exact_mod_cast below)

/-!
## Rounding to a context
-/

namespace Context

variable (context : Context)

/-- The exponent of the last digit that a number keeps. -/
def place (number : ℚ) : ℤ :=
  max (Int.log 10 |number| - context.precision + 1) (context.leastExponent - context.precision + 1)

/-- The nearest multiple of the last place, and the even one of two that are equally
near. -/
def rounded (number : ℚ) : ℚ :=
  nearestEven (number / 10 ^ context.place number) * 10 ^ context.place number

/-- What a number is rounded to, if that is not too large. -/
def kept? (number : ℚ) : Option ℚ :=
  if 10 ^ (context.greatestExponent + 1) ≤ |context.rounded number| then none else some (context.rounded number)

theorem rounded_zero : context.rounded 0 = 0 := by
  have zero := nearestEven_intCast 0
  rw [Int.cast_zero] at zero
  rw [rounded, zero_div, zero, Int.cast_zero, zero_mul]

theorem place_neg (number : ℚ) : context.place (-number) = context.place number := by
  rw [place, place, abs_neg]

theorem rounded_neg (number : ℚ) : context.rounded (-number) = -context.rounded number := by
  rw [rounded, place_neg, neg_div, nearestEven_neg, Int.cast_neg, neg_mul, rounded]

theorem rounded_signed (negative : Bool) (number : ℚ) :
    context.rounded (Finite.signFactor negative * number) = Finite.signFactor negative * context.rounded number := by
  cases negative
  · simp [Finite.signFactor]
  · simpa [Finite.signFactor] using context.rounded_neg number

theorem rounded_of_multiple {number : ℚ} {units exponent : ℤ} (multiple : number = units * 10 ^ exponent)
    (coarser : context.place number ≤ exponent) : context.rounded number = number := by
  have integral : number / 10 ^ context.place number =
      (units * (10 ^ (exponent - context.place number).toNat : Nat) : ℤ) := by
    rw [div_eq_iff (ten_zpow_pos _).ne', Int.cast_mul, Int.cast_natCast, mul_assoc, ← ten_zpow_eq_mul coarser]
    exact multiple
  rw [rounded, integral, nearestEven_intCast, ← integral, div_mul_cancel₀ _ (ten_zpow_pos _).ne']

variable {number : Finite}

theorem roundedExponent_eq (nonzero : number.coefficient ≠ 0) :
    context.roundedExponent number = max number.exponent (context.place number.value) := by
  rw [roundedExponent, place, Finite.log_abs_value nonzero, lastPlace]
  congr 2
  ring

/-- The coefficient that remains after digits were dropped, at the exponent of the last
place, has the rounded value. -/
theorem rounded_value (nonzero : number.coefficient ≠ 0) :
    context.rounded number.value = Finite.signFactor number.negative *
      (dropDigits number.coefficient (context.roundedExponent number - number.exponent).toNat *
        10 ^ context.roundedExponent number) := by
  have magnitude : |number.value| = number.coefficient * 10 ^ number.exponent := number.abs_value
  rw [number.value_eq, rounded_signed, ← magnitude]
  congr 1
  have samePlace : context.place |number.value| = context.place number.value := by rw [place, abs_abs, place]
  rw [roundedExponent_eq context nonzero]
  rcases le_total number.exponent (context.place number.value) with finer | coarser
  · have quotient : |number.value| / 10 ^ context.place number.value =
        number.coefficient / 10 ^ (context.place number.value - number.exponent).toNat := by
      rw [magnitude, ten_zpow_eq_mul finer, mul_div_mul_right _ _ (ten_zpow_pos _).ne', Nat.cast_pow, Nat.cast_ofNat]
    rw [max_eq_right finer, rounded, samePlace, quotient, ← dropDigits_eq_nearestEven, Int.cast_natCast]
  · have kept : (dropDigits number.coefficient 0 : ℤ) = number.coefficient := by
      rw [dropDigits_eq_nearestEven, pow_zero, div_one]
      exact nearestEven_intCast number.coefficient
    rw [max_eq_left coarser, sub_self, Int.toNat_zero, Int.natCast_inj.mp kept, ← magnitude]
    have multiple : |number.value| = (number.coefficient : ℤ) * 10 ^ number.exponent := by exact_mod_cast magnitude
    exact context.rounded_of_multiple multiple (samePlace.trans_le coarser)

/-- No more digits than the context keeps stand left of the last place. -/
theorem coefficient_lt (number : Finite) :
    number.coefficient < 10 ^ ((context.roundedExponent number - number.exponent).toNat + context.precision) := by
  refine (lt_ten_pow_digitCount _).trans_le (Nat.pow_le_pow_right (by decide) ?_)
  have := le_max_left (number.adjusted - context.precision + 1) context.lastPlace
  rw [roundedExponent]
  rw [Finite.adjusted] at *
  omega

/-- A coefficient of one digit too many is a power of ten and is moved by one place. -/
theorem value_carried {precision coefficient : Nat} (some_digit : 0 < precision) (bound : coefficient ≤ 10 ^ precision)
    (negative : Bool) (exponent : ℤ) :
    Finite.value (if precision < digitCount coefficient then ⟨negative, coefficient / 10, exponent + 1⟩
      else ⟨negative, coefficient, exponent⟩) = Finite.signFactor negative * (coefficient * 10 ^ exponent) := by
  split
  · next long =>
      have reached : 10 ^ precision ≤ coefficient := by
        by_contra! below
        exact absurd ((digitCount_le_iff some_digit).mpr below) (Nat.not_le_of_lt long)
      have tenfold : (coefficient : ℚ) = (coefficient / 10 : Nat) * 10 := by
        have power : 10 ^ precision = 10 ^ (precision - 1) * 10 := by rw [← pow_succ, Nat.sub_add_cancel some_digit]
        have divides : 10 ∣ coefficient := le_antisymm bound reached ▸ power ▸ Dvd.intro_left _ rfl
        exact_mod_cast (Nat.div_mul_cancel divides).symm
      rw [Finite.value_eq, zpow_add_one₀ (by norm_num), tenfold]
      ring
  · exact Finite.value_eq _

/-- Rounding a number to a context rounds its value, and fails if what that is rounded to
is too large. -/
theorem round?_kept (number : Finite) : (context.round? number).map Finite.value = context.kept? number.value := by
  by_cases zero : number.coefficient = 0
  · have isZero : ∀ exponent, Finite.value { number with exponent } = 0 := fun exponent =>
      (Finite.value_eq_zero_iff _).mpr zero
    rw [round?, if_pos zero, Option.map_some, isZero, kept?, (Finite.value_eq_zero_iff number).mpr zero, rounded_zero,
      abs_zero, if_neg (not_le.mpr (ten_zpow_pos _))]
  · have value := value_carried context.precision_pos (dropDigits_le (context.coefficient_lt number)) number.negative
      (context.roundedExponent number)
    rw [← rounded_value context zero] at value
    rw [round?, if_neg zero]
    simp only
    generalize (if context.precision < digitCount _ then _ else _ : Finite) = result at value ⊢
    rw [kept?, ← value]
    by_cases vanished : result.coefficient = 0
    · have isZero := (Finite.value_eq_zero_iff result).mpr vanished
      rw [if_neg (fun large => large.1 vanished), isZero, abs_zero, if_neg (not_le.mpr (ten_zpow_pos _)),
        Option.map_some, isZero]
    · have reached := Finite.ten_zpow_le_abs_value_iff vanished (context.greatestExponent + 1)
      by_cases large : context.greatestExponent < result.adjusted
      · rw [if_pos ⟨vanished, large⟩, if_pos (reached.mpr large), Option.map_none]
      · rw [if_neg (fun both => large both.2), if_neg (mt reached.mp large), Option.map_some]

end Context

/-!
## Numbers that are rounded to the same
-/

/-- A number lies strictly between two neighbouring multiples of a unit. -/
def Between (unit : ℚ) (step : ℤ) (number : ℚ) : Prop :=
  step * unit < number ∧ number < (step + 1) * unit

namespace Between

variable {unit number other : ℚ} {step place : ℤ}

theorem neg (between : Between unit step number) : Between unit (-(step + 1)) (-number) := by
  obtain ⟨lower, upper⟩ := between
  constructor <;> push_cast <;> linarith

theorem multiple_le_iff (between : Between unit step number) (unit_pos : 0 < unit) (multiple : ℤ) :
    multiple * unit ≤ number ↔ multiple ≤ step := by
  obtain ⟨lower, upper⟩ := between
  constructor
  · intro reached
    have below := lt_of_mul_lt_mul_right (reached.trans_lt upper) unit_pos.le
    exact Int.le_of_lt_add_one (by exact_mod_cast below)
  · intro earlier
    exact (mul_le_mul_of_nonneg_right (by exact_mod_cast earlier) unit_pos.le).trans lower.le

theorem lt_multiple_iff (between : Between unit step number) (unit_pos : 0 < unit) (multiple : ℤ) :
    number < multiple * unit ↔ step < multiple := by
  obtain ⟨lower, upper⟩ := between
  constructor
  · intro below
    exact_mod_cast lt_of_mul_lt_mul_right (lower.trans below) unit_pos.le
  · intro later
    exact upper.trans_le (mul_le_mul_of_nonneg_right (by exact_mod_cast later) unit_pos.le)

theorem pos_of_nonneg (between : Between unit step number) (unit_pos : 0 < unit) (nonneg : 0 ≤ step) : 0 < number :=
  (mul_nonneg (by exact_mod_cast nonneg) unit_pos.le).trans_lt between.1

theorem neg_of_neg (between : Between unit step number) (unit_pos : 0 < unit) (negative : step < 0) : number < 0 := by
  simpa using (between.lt_multiple_iff unit_pos 0).mpr negative

theorem coarsen (between : Between unit step number) (unit_pos : 0 < unit) {times : Nat} (times_pos : 0 < times) :
    Between (times * unit) (step / times) number := by
  have positive : (0 : ℤ) < times := by exact_mod_cast times_pos
  have lower := Int.ediv_mul_le step positive.ne'
  have upper := Int.lt_ediv_add_one_mul_self step positive
  constructor
  · calc ((step / times : ℤ) : ℚ) * (times * unit)
        = (step / times * times : ℤ) * unit := by push_cast; ring
      _ ≤ step * unit := mul_le_mul_of_nonneg_right (by exact_mod_cast lower) unit_pos.le
      _ < number := between.1
  · calc number
        < ((step / times + 1) * times : ℤ) * unit := (between.lt_multiple_iff unit_pos _).mpr upper
      _ = (((step / times : ℤ) : ℚ) + 1) * (times * unit) := by push_cast; ring

theorem halfPlace_pos : (0 : ℚ) < 10 ^ place / 2 :=
  half_pos (ten_zpow_pos place)

theorem ten_zpow_eq_halves {exponent : ℤ} (coarser : place ≤ exponent) :
    (10 : ℚ) ^ exponent = (2 * 10 ^ (exponent - place).toNat : Nat) * (10 ^ place / 2) := by
  rw [ten_zpow_eq_mul coarser]
  push_cast
  ring

/-- No power of ten separates numbers between the same halves, if they reach the power
of these halves. -/
theorem log_eq (between : Between (10 ^ place / 2) step number) (otherBetween : Between (10 ^ place / 2) step other)
    (positive : 0 < number) (coarser : place ≤ Int.log 10 number) : Int.log 10 other = Int.log 10 number := by
  have lower : (10 : ℚ) ^ Int.log 10 number ≤ number := by
    exact_mod_cast Int.zpow_log_le_self (b := 10) (by norm_num) positive
  have upper : number < (10 : ℚ) ^ (Int.log 10 number + 1) := by
    exact_mod_cast Int.lt_zpow_succ_log_self (b := 10) (by norm_num) number
  rw [ten_zpow_eq_halves coarser, ← Int.cast_natCast, between.multiple_le_iff halfPlace_pos] at lower
  rw [ten_zpow_eq_halves (show place ≤ Int.log 10 number + 1 by omega), ← Int.cast_natCast,
    between.lt_multiple_iff halfPlace_pos] at upper
  apply Finite.log_eq_of_bounds
  · rwa [ten_zpow_eq_halves coarser, ← Int.cast_natCast, otherBetween.multiple_le_iff halfPlace_pos]
  · rwa [ten_zpow_eq_halves (show place ≤ Int.log 10 number + 1 by omega), ← Int.cast_natCast,
      otherBetween.lt_multiple_iff halfPlace_pos]

theorem log_abs_eq (between : Between (10 ^ place / 2) step number)
    (otherBetween : Between (10 ^ place / 2) step other) (coarser : place ≤ Int.log 10 |number|) :
    Int.log 10 |other| = Int.log 10 |number| := by
  rcases lt_or_ge step 0 with negative | nonneg
  · have number_neg := between.neg_of_neg halfPlace_pos negative
    rw [abs_of_neg number_neg] at coarser ⊢
    rw [abs_of_neg (otherBetween.neg_of_neg halfPlace_pos negative)]
    exact between.neg.log_eq otherBetween.neg (neg_pos.mpr number_neg) coarser
  · have number_pos := between.pos_of_nonneg halfPlace_pos nonneg
    rw [abs_of_pos number_pos] at coarser ⊢
    rw [abs_of_pos (otherBetween.pos_of_nonneg halfPlace_pos nonneg)]
    exact between.log_eq otherBetween number_pos coarser

theorem nearestEven_eq (between : Between (10 ^ place / 2) step number) :
    nearestEven (number / 10 ^ place) = (step + 1) / 2 := by
  obtain ⟨lower, upper⟩ := between
  apply nearestEven_of_between_halves
  · rw [lt_div_iff₀ (ten_zpow_pos place)]
    linarith
  · rw [div_lt_iff₀ (ten_zpow_pos place)]
    linarith

/-- Numbers between the same halves of a place are rounded to the same, if the place is
not left of the last digit that is kept. -/
theorem rounded_eq (between : Between (10 ^ place / 2) step number)
    (otherBetween : Between (10 ^ place / 2) step other) (context : Context)
    (finer : place ≤ Int.log 10 |number| - context.precision + 1) :
    context.rounded number = context.rounded other := by
  have some_digit := context.precision_pos
  have same := between.log_abs_eq otherBetween (by omega)
  have samePlace : context.place other = context.place number := by rw [Context.place, same, Context.place]
  have lower : place ≤ context.place number := finer.trans (le_max_left _ _)
  have halves : (10 : ℚ) ^ context.place number / 2 =
      (10 ^ (context.place number - place).toNat : Nat) * (10 ^ place / 2) := by
    rw [ten_zpow_eq_mul lower]
    ring
  have times_pos : 0 < 10 ^ (context.place number - place).toNat := by positivity
  have coarse := between.coarsen halfPlace_pos times_pos
  have otherCoarse := otherBetween.coarsen halfPlace_pos times_pos
  rw [← halves] at coarse otherCoarse
  rw [Context.rounded, Context.rounded, samePlace, coarse.nearestEven_eq, otherCoarse.nearestEven_eq]

end Between

end DecimalFormula.Decimal
