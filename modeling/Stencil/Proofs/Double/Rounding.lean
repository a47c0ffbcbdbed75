import Stencil.Proofs.Double.Canonical

set_option autoImplicit false

namespace Stencil.Double

open Float.Model Float.Model.UnpackedFloat

-- Twice the number is twice the mantissa and the round bit, counted in units, and a tail of less than
-- one unit. Of the tail the sticky bit knows whether there is one.
structure Represents (extended : ExtendedMantissa) (number unit tail : Nat) : Prop where
  parts : 2 * number = (2 * extended.mantissa + extended.roundBit.toNat) * unit + tail
  short : tail < unit
  sticky : extended.stickyBit = true ↔ tail ≠ 0

theorem represents_whole (number : Nat) : Represents ⟨number, false, false⟩ number 1 0 where
  parts := by simp
  short := Nat.one_pos
  sticky := by simp

section Shift

variable {extended : ExtendedMantissa} {number unit tail : Nat}

theorem represents_shift (represents : Represents extended number unit tail) :
    Represents extended.shiftRightOne number (2 * unit) (extended.roundBit.toNat * unit + tail) where
  parts := by
    have digits : 2 * (extended.mantissa / 2) + (extended.mantissa % 2 != 0).toNat =
        extended.mantissa := by
      rcases Nat.mod_two_eq_zero_or_one extended.mantissa with even | odd
      · rw [even]
        simp only [bne_self_eq_false, Bool.toNat_false]
        omega
      · rw [odd]
        simp only [Nat.reduceBneDiff, Bool.toNat_true]
        omega
    rw [ExtendedMantissa.shiftRightOne, digits, represents.parts]
    ring
  short := by
    have short := represents.short
    cases extended.roundBit with
    | false => simp only [Bool.toNat_false]; omega
    | true => simp only [Bool.toNat_true]; omega
  sticky := by
    have positive : 0 < unit := Nat.zero_lt_of_lt represents.short
    rw [ExtendedMantissa.shiftRightOne, Bool.or_eq_true, represents.sticky]
    cases extended.roundBit with
    | false => simp
    | true => simp; omega

theorem represents_shifts (number count : Nat) :
    ∃ tail, Represents (ExtendedMantissa.mk number false false >>> count) number (2 ^ count) tail := by
  induction count with
  | zero => exact ⟨0, represents_whole number⟩
  | succ count ih =>
    obtain ⟨tail, represents⟩ := ih
    rw [Nat.pow_succ']
    exact ⟨_, represents_shift represents⟩

theorem represents_expanded (represents : Represents extended number unit tail) :
    2 * number = 2 * (extended.mantissa * unit) + extended.roundBit.toNat * unit + tail := by
  rw [represents.parts]
  ring

theorem rounded_near (represents : Represents extended number unit tail) :
    2 * number ≤ 2 * (extended.roundedMantissa * unit) + unit ∧
      2 * (extended.roundedMantissa * unit) ≤ 2 * number + unit := by
  have expanded := represents_expanded represents
  obtain ⟨mantissa, roundBit, stickyBit⟩ := extended
  obtain ⟨_, short, sticky⟩ := represents
  rw [ExtendedMantissa.roundedMantissa]
  cases roundBit with
  | false =>
    simp only [Bool.toNat_false, Nat.zero_mul] at expanded
    cases stickyBit <;> simp only [ExtendedMantissa.accuracy, Accuracy.roundToNearestEven] <;> omega
  | true =>
    simp only [Bool.toNat_true, Nat.one_mul] at expanded
    cases stickyBit with
    | false =>
      have whole : tail = 0 := by simpa using sticky
      have up : mantissa % 2 * unit ≤ 1 * unit :=
        Nat.mul_le_mul_right unit (Nat.le_of_lt_succ (Nat.mod_lt mantissa Nat.two_pos))
      simp only [ExtendedMantissa.accuracy, Accuracy.roundToNearestEven, Nat.add_mul]
      omega
    | true =>
      simp only [ExtendedMantissa.accuracy, Accuracy.roundToNearestEven, Nat.add_mul]
      omega

theorem rounded_even (represents : Represents extended number unit tail)
    (middle : 2 * number = 2 * (extended.roundedMantissa * unit) + unit ∨
      2 * (extended.roundedMantissa * unit) = 2 * number + unit) :
    2 ∣ extended.roundedMantissa := by
  have expanded := represents_expanded represents
  obtain ⟨mantissa, roundBit, stickyBit⟩ := extended
  obtain ⟨_, short, sticky⟩ := represents
  rw [ExtendedMantissa.roundedMantissa] at middle ⊢
  cases roundBit with
  | false =>
    simp only [Bool.toNat_false, Nat.zero_mul] at expanded
    cases stickyBit <;> simp only [ExtendedMantissa.accuracy, Accuracy.roundToNearestEven] at middle <;>
      omega
  | true =>
    simp only [Bool.toNat_true, Nat.one_mul] at expanded
    cases stickyBit with
    | false =>
      simp only [ExtendedMantissa.accuracy, Accuracy.roundToNearestEven]
      omega
    | true =>
      have gone : tail ≠ 0 := sticky.mp rfl
      simp only [ExtendedMantissa.accuracy, Accuracy.roundToNearestEven, Nat.add_mul] at middle
      omega

end Shift

-- The number has 53 binary digits before the unit `2 ^ place`, and the value is this number rounded to
-- whole units, from the middle between two of them to the even one.
structure Rounds (number value place : Nat) : Prop where
  wide : 2 ^ 52 * 2 ^ place ≤ number
  narrow : number < 2 ^ 53 * 2 ^ place
  whole : 2 ^ place ∣ value
  below : 2 * number ≤ 2 * value + 2 ^ place
  above : 2 * value ≤ 2 * number + 2 ^ place
  even : 2 * number = 2 * value + 2 ^ place ∨ 2 * value = 2 * number + 2 ^ place → 2 * 2 ^ place ∣ value

theorem rounds_scaled {number value place : Nat} (rounds : Rounds number value place) (steps : Nat) :
    Rounds (number * 2 ^ steps) (value * 2 ^ steps) (place + steps) := by
  obtain ⟨wide, narrow, whole, below, above, even⟩ := rounds
  have scale : 2 ^ (place + steps) = 2 ^ place * 2 ^ steps := Nat.pow_add 2 place steps
  have positive := Nat.two_pow_pos steps
  constructor
  · rw [scale, ← Nat.mul_assoc]
    exact Nat.mul_le_mul_right _ wide
  · rw [scale, ← Nat.mul_assoc]
    exact Nat.mul_lt_mul_of_pos_right narrow positive
  · rw [scale]
    exact Nat.mul_dvd_mul_right whole _
  · have scaled := Nat.mul_le_mul_right (2 ^ steps) below
    rw [scale]
    linarith
  · have scaled := Nat.mul_le_mul_right (2 ^ steps) above
    rw [scale]
    linarith
  · intro middle
    rw [scale] at middle ⊢
    rw [← Nat.mul_assoc]
    refine Nat.mul_dvd_mul_right (even (middle.imp (fun rest => ?_) fun excess => ?_)) _
    · exact Nat.eq_of_mul_eq_mul_right positive (by linarith)
    · exact Nat.eq_of_mul_eq_mul_right positive (by linarith)

section Round

variable (mantissa places : Nat) (exponent : Int)

theorem shift_to_target (wide : 2 ^ 52 * 2 ^ places ≤ mantissa) (narrow : mantissa < 2 ^ 53 * 2 ^ places)
    (least : -1074 ≤ exponent + places) :
    shiftToTargetExponent Format.binary64 mantissa exponent .exact =
      (ExtendedMantissa.mk mantissa false false >>> places, exponent + places) := by
  have nonzero : mantissa ≠ 0 :=
    Nat.ne_of_gt (Nat.lt_of_lt_of_le (Nat.mul_pos (by decide) (Nat.two_pow_pos places)) wide)
  have digits : mantissa.log2 = 52 + places := by
    rw [Nat.log2_eq_iff nonzero, Nat.pow_add, Nat.add_right_comm, Nat.pow_add]
    exact ⟨wide, narrow⟩
  have target : Format.binary64.targetExponent (totalExponent mantissa exponent) =
      exponent + places := by
    change max ((mantissa.log2 : Int) + 1 + exponent - 53) (-1074) = _
    rw [digits]
    omega
  have amount : (exponent + places - exponent).toNat = places := by omega
  simp only [shiftToTargetExponent, shiftToExponent, target, amount]
  rfl

theorem round_finite (sign : Sign) (wide : 2 ^ 52 * 2 ^ places ≤ mantissa)
    (narrow : mantissa < 2 ^ 53 * 2 ^ places) (least : -1074 ≤ exponent) :
    ∃ digits power, ∃ positive : 0 < digits,
      roundWithAccuracy Format.binary64 sign mantissa exponent .exact =
        .finite sign digits power positive ∧
      2 ^ 52 ≤ digits ∧ digits < 2 ^ 53 ∧ exponent + places ≤ power ∧ power ≤ exponent + places + 1 ∧
      Rounds (magnitude mantissa exponent) (magnitude digits power)
        ((exponent + 1074).toNat + places) := by
  obtain ⟨tail, represents⟩ := represents_shifts mantissa places
  have near := rounded_near represents
  have even := rounded_even represents
  have first := shift_to_target mantissa places exponent wide narrow (by omega)
  generalize ExtendedMantissa.mk mantissa false false >>> places = extended at near even first
  generalize rounded : extended.roundedMantissa = digits at near even
  have positive := Nat.two_pow_pos places
  have full : 2 ^ 52 ≤ digits := by
    by_contra fewer
    have bound := Nat.mul_le_mul_right (2 ^ places) (show digits ≤ 2 ^ 52 - 1 by omega)
    omega
  have short : digits ≤ 2 ^ 53 := by
    by_contra more
    have bound := Nat.mul_le_mul_right (2 ^ places) (show 2 ^ 53 + 1 ≤ digits by omega)
    omega
  have rounds := rounds_scaled
    (⟨wide, narrow, Nat.dvd_mul_left _ _, near.1, near.2,
      fun middle => Nat.mul_dvd_mul_right (even middle) _⟩ :
        Rounds mantissa (digits * 2 ^ places) places)
    (exponent + 1074).toNat
  rw [Nat.add_comm places, Nat.mul_assoc, ← Nat.pow_add] at rounds
  rcases Nat.lt_or_eq_of_le short with short | carry
  · have second := shift_to_target digits 0 (exponent + places)
      (by omega) (by omega) (by omega)
    refine ⟨digits, exponent + places, by omega, ?_, full, short, le_refl _, by omega, ?_⟩
    · simp only [roundWithAccuracy, first, rounded, second]
      exact (dif_neg (show digits ≠ 0 by omega)).trans (finite_congr rfl (Int.add_zero _))
    · rwa [magnitude, magnitude, show (exponent + places + 1074).toNat =
        places + (exponent + 1074).toNat by omega]
  -- Rounding has carried into a 54th bit. The second shift takes it away, and all bits below it are zero.
  · subst carry
    have second := shift_to_target (2 ^ 53) 1 (exponent + places)
      (by decide) (by decide) (by omega)
    refine ⟨2 ^ 52, exponent + places + 1, by decide, ?_, le_refl _, by decide, by omega, le_refl _, ?_⟩
    · simp only [roundWithAccuracy, first, rounded, second]
      exact (dif_neg (show 2 ^ 52 ≠ 0 by decide)).trans (finite_congr rfl rfl)
    · have doubled : 2 ^ 53 * 2 ^ (places + (exponent + 1074).toNat) =
          2 ^ 52 * 2 ^ (places + (exponent + 1074).toNat + 1) := by ring
      rwa [magnitude, magnitude, show (exponent + places + 1 + 1074).toNat =
        places + (exponent + 1074).toNat + 1 by omega, ← doubled]

end Round

section Nearest

variable {number value place : Nat}

theorem rounds_whole (rounds : Rounds number value place) (divides : 2 ^ place ∣ number) :
    value = number := by
  obtain ⟨units, rfl⟩ := rounds.whole
  obtain ⟨others, rfl⟩ := divides
  have below := rounds.below
  have above := rounds.above
  have positive := Nat.two_pow_pos place
  congr 1
  rcases Nat.lt_trichotomy units others with fewer | same | more
  · have bound := Nat.mul_le_mul_left (2 ^ place) (Nat.succ_le_of_lt fewer)
    rw [Nat.mul_succ] at bound
    omega
  · exact same
  · have bound := Nat.mul_le_mul_left (2 ^ place) (Nat.succ_le_of_lt more)
    rw [Nat.mul_succ] at bound
    omega

theorem rounds_multiple (rounds : Rounds number value place) {other : Int}
    (divides : (2 : Int) ^ place ∣ other) : |(value : Int) - number| ≤ |other - number| := by
  have unit : (0 : Int) < 2 ^ place := by positivity
  have below : 2 * (number : Int) ≤ 2 * value + 2 ^ place := mod_cast rounds.below
  have above : 2 * (value : Int) ≤ 2 * number + 2 ^ place := mod_cast rounds.above
  obtain ⟨others, rfl⟩ := divides
  obtain ⟨units, shape⟩ : (2 : Int) ^ place ∣ value := mod_cast rounds.whole
  rw [shape] at below above ⊢
  rcases lt_trichotomy units others with fewer | same | more
  · have step : 2 ^ place * (units + 1) ≤ 2 ^ place * others := mul_le_mul_of_nonneg_left fewer unit.le
    refine le_trans (abs_le.mpr ⟨?_, ?_⟩) (le_abs_self _) <;> linarith
  · rw [same]
  · have step : 2 ^ place * (others + 1) ≤ 2 ^ place * units := mul_le_mul_of_nonneg_left more unit.le
    refine le_trans (abs_le.mpr ⟨?_, ?_⟩) (neg_le_abs _) <;> linarith

theorem measured_apart {unpacked : UnpackedFloat} {units : Int} (measures : Measures unpacked units)
    (place : Nat) : (2 : Int) ^ place ∣ units ∨ |units| < 2 ^ 52 * 2 ^ place := by
  cases measures with
  | zero sign => exact .inl (dvd_zero _)
  | @finite sign mantissa exponent positive canonical =>
    have size : |sign.apply (magnitude mantissa exponent)| = (magnitude mantissa exponent : Int) := by
      cases sign <;> simp [Sign.apply]
    rw [size, ← dvd_abs, size]
    rcases Nat.lt_or_ge (exponent + 1074).toNat place with below | above
    · right
      have less : magnitude mantissa exponent < 2 ^ 52 * 2 ^ place :=
        calc magnitude mantissa exponent < 2 ^ 53 * 2 ^ (exponent + 1074).toNat :=
              Nat.mul_lt_mul_of_pos_right canonical.short (Nat.two_pow_pos _)
          _ = 2 ^ 52 * 2 ^ ((exponent + 1074).toNat + 1) := by ring
          _ ≤ 2 ^ 52 * 2 ^ place := Nat.mul_le_mul_left _ (Nat.pow_le_pow_right Nat.two_pos below)
      exact_mod_cast less
    · left
      have divides : 2 ^ place ∣ magnitude mantissa exponent :=
        Nat.dvd_mul_left_of_dvd (Nat.pow_dvd_pow 2 above) mantissa
      exact_mod_cast divides

theorem rounds_small_farther (rounds : Rounds number value place) {other : Int}
    (small : |other| < 2 ^ 52 * 2 ^ place) : |(value : Int) - number| < |other - number| := by
  have wide : (2 : Int) ^ 52 * 2 ^ place ≤ number := mod_cast rounds.wide
  have limit := rounds_multiple rounds (dvd_mul_left ((2 : Int) ^ place) (2 ^ 52))
  rw [abs_of_nonpos (sub_nonpos.mpr wide)] at limit
  have less := (abs_lt.mp small).2
  calc |(value : Int) - number| ≤ -(2 ^ 52 * 2 ^ place - number) := limit
    _ < -(other - number) := by linarith
    _ ≤ |other - number| := neg_le_abs _

theorem rounds_nearest (rounds : Rounds number value place) {other : Int}
    (apart : (2 : Int) ^ place ∣ other ∨ |other| < 2 ^ 52 * 2 ^ place) :
    |(value : Int) - number| ≤ |other - number| := by
  rcases apart with divides | small
  · exact rounds_multiple rounds divides
  · exact le_of_lt (rounds_small_farther rounds small)

theorem rounds_middle (rounds : Rounds number value place) {other : Int}
    (divides : (2 : Int) ^ place ∣ other) (same : |other - number| = |(value : Int) - number|)
    (different : other ≠ value) :
    (other - value = 2 ^ place ∧ 2 * number = 2 * value + 2 ^ place) ∨
      (value - other = 2 ^ place ∧ 2 * value = 2 * number + 2 ^ place) := by
  have unit : (0 : Int) < 2 ^ place := by positivity
  have below : 2 * (number : Int) ≤ 2 * value + 2 ^ place := mod_cast rounds.below
  have above : 2 * (value : Int) ≤ 2 * number + 2 ^ place := mod_cast rounds.above
  have mirrored : other - number = -(value - number) :=
    (abs_eq_abs.mp same).resolve_left fun equal => different (sub_left_injective equal)
  have apart : (2 : Int) ^ place ∣ other - value := dvd_sub divides (mod_cast rounds.whole)
  rcases lt_or_gt_of_ne different with less | more
  · right
    have step : 2 ^ place ≤ value - other :=
      Int.le_of_dvd (sub_pos.mpr less) ((dvd_sub_comm).mp apart)
    have distance : value - other = 2 ^ place := by linarith
    refine ⟨distance, ?_⟩
    have middle : 2 * (value : Int) = 2 * number + 2 ^ place := by linarith
    exact_mod_cast middle
  · left
    have step : 2 ^ place ≤ other - value := Int.le_of_dvd (sub_pos.mpr more) apart
    have distance : other - value = 2 ^ place := by linarith
    refine ⟨distance, ?_⟩
    have middle : 2 * (number : Int) = 2 * value + 2 ^ place := by linarith
    exact_mod_cast middle

theorem rounds_tied (rounds : Rounds number value place) {other : Int}
    (apart : (2 : Int) ^ place ∣ other ∨ |other| < 2 ^ 52 * 2 ^ place)
    (same : |other - number| = |(value : Int) - number|) :
    other = value ∨ 2 * (other - value) ∣ (value : Int) := by
  rcases apart with divides | small
  · by_cases different : other = value
    · exact .inl different
    · right
      have even (middle : 2 * number = 2 * value + 2 ^ place ∨ 2 * value = 2 * number + 2 ^ place) :
          2 * (2 : Int) ^ place ∣ value := mod_cast rounds.even middle
      rcases rounds_middle rounds divides same different with ⟨distance, middle⟩ | ⟨distance, middle⟩
      · rw [distance]
        exact even (.inl middle)
      · rw [← neg_sub, distance, mul_neg, neg_dvd]
        exact even (.inr middle)
  · exact absurd same (ne_of_gt (rounds_small_farther rounds small))

end Nearest

end Stencil.Double
