import Stencil.Proofs.Double.Rounding

set_option autoImplicit false

namespace Stencil.Double

open Float.Model Float.Model.UnpackedFloat

structure Holds (number : Nat) (mantissa : Nat) (exponent : Int) : Prop where
  full : 2 ^ 52 ≤ mantissa
  short : mantissa < 2 ^ 53
  least : -52 ≤ exponent
  most : exponent ≤ 12
  rounded : ∃ place, Rounds (number * 2 ^ 1074) (magnitude mantissa exponent) place

section Natural

variable {number mantissa : Nat} {exponent : Int}

-- Up to 2^53 the units are so small that the number is whole already.
theorem rounds_small {value place steps : Nat} (rounds : Rounds (number * 2 ^ steps) value place)
    (small : number ≤ 2 ^ 53) : value = number * 2 ^ steps := by
  have wide : 2 ^ (52 + place) ≤ 2 ^ (53 + steps) :=
    calc 2 ^ (52 + place) = 2 ^ 52 * 2 ^ place := Nat.pow_add 2 52 place
      _ ≤ number * 2 ^ steps := rounds.wide
      _ ≤ 2 ^ 53 * 2 ^ steps := Nat.mul_le_mul_right _ small
      _ = 2 ^ (53 + steps) := (Nat.pow_add 2 53 steps).symm
  have bound := (Nat.pow_le_pow_iff_right Nat.one_lt_two).mp wide
  refine rounds_whole rounds ?_
  rcases Nat.lt_or_ge steps place with above | inside
  · obtain rfl : place = steps + 1 := by omega
    have filled : 2 ^ 53 * 2 ^ steps ≤ number * 2 ^ steps :=
      calc 2 ^ 53 * 2 ^ steps = 2 ^ 52 * 2 ^ (steps + 1) := by ring
        _ ≤ number * 2 ^ steps := rounds.wide
    obtain rfl : number = 2 ^ 53 :=
      Nat.le_antisymm small (Nat.le_of_mul_le_mul_right filled (Nat.two_pow_pos steps))
    exact ⟨2 ^ 52, by ring⟩
  · exact Nat.dvd_mul_left_of_dvd (Nat.pow_dvd_pow 2 inside) number

theorem holds_small (holds : Holds number mantissa exponent) (small : number ≤ 2 ^ 53) :
    magnitude mantissa exponent = number * 2 ^ 1074 := by
  obtain ⟨place, rounds⟩ := holds.rounded
  exact rounds_small rounds small

theorem unpack_pack_held (holds : Holds number mantissa exponent) (sign : Sign) (positive : 0 < mantissa) :
    (Float.Model.pack (.finite sign mantissa exponent positive)).unpack =
      .finite sign mantissa exponent positive := by
  have least := holds.least
  have most := holds.most
  exact unpack_pack_normal holds.full holds.short (by omega) (by omega)

end Natural

section Steps

variable {number : Nat}

theorem magnitude_shifted (steps rest : Nat) (whole : steps + rest = 1074) :
    magnitude (number * 2 ^ steps) (-steps) = number * 2 ^ 1074 := by
  have left : (-(steps : Int) + 1074).toNat = rest := by omega
  calc magnitude (number * 2 ^ steps) (-steps) = number * 2 ^ steps * 2 ^ rest := by rw [magnitude, left]
    _ = number * 2 ^ (steps + rest) := by rw [Nat.mul_assoc, ← Nat.pow_add]
    _ = number * 2 ^ 1074 := congrArg (fun power => number * 2 ^ power) whole

theorem log2_bounds (positive : 0 < number) : 2 ^ number.log2 ≤ number ∧ number < 2 ^ (number.log2 + 1) :=
  (Nat.log2_eq_iff (Nat.ne_of_gt positive)).mp rfl

theorem of_nat_holds (positive : 0 < number) (small : number < 2 ^ 53) :
    ∃ mantissa exponent, ∃ nonzero : 0 < mantissa,
      UnpackedFloat.ofNat Format.binary64 number = .finite .positive mantissa exponent nonzero ∧
      exponent ≤ 11 ∧ Holds number mantissa exponent := by
  obtain ⟨lower, upper⟩ := log2_bounds positive
  obtain ⟨steps, digits⟩ : ∃ steps, number.log2 + steps = 52 :=
    Nat.le.dest (Nat.lt_succ_iff.mp ((Nat.log2_lt (Nat.ne_of_gt positive)).mpr small))
  have wide : 2 ^ 52 * 2 ^ 0 ≤ number * 2 ^ steps :=
    calc 2 ^ 52 * 2 ^ 0 = 2 ^ number.log2 * 2 ^ steps := by rw [← Nat.pow_add _ number.log2, digits]; rfl
      _ ≤ number * 2 ^ steps := Nat.mul_le_mul_right _ lower
  have narrow : number * 2 ^ steps < 2 ^ 53 * 2 ^ 0 :=
    calc number * 2 ^ steps < 2 ^ (number.log2 + 1) * 2 ^ steps :=
          Nat.mul_lt_mul_of_pos_right upper (Nat.two_pow_pos steps)
      _ = 2 ^ 53 * 2 ^ 0 := by rw [← Nat.pow_add, Nat.add_right_comm, digits]; rfl
  obtain ⟨mantissa, exponent, nonzero, shape, full, short, least, most, rounds⟩ :=
    round_finite (number * 2 ^ steps) 0 (-steps) .positive wide narrow (by omega)
  rw [magnitude_shifted steps (1074 - steps) (by omega)] at rounds
  refine ⟨mantissa, exponent, nonzero, ?_, by omega, full, short, by omega, by omega, _, rounds⟩
  have sign : compare (number : Int) 0 = .gt := compare_gt_iff_gt.mpr (Int.natCast_pos.mpr positive)
  have target : Format.binary64.targetExponent (totalExponent number 0) = -steps := by
    change max ((number.log2 : Int) + 1 + 0 - 53) (-1074) = -steps
    omega
  rw [UnpackedFloat.ofNat, UnpackedFloat.ofInt, UnpackedFloat.normalize, sign]
  simp only [Int.toNat_natCast, UnpackedFloat.round, decreaseExponent, target, Nat.shiftLeft_eq,
    Int.zero_sub, Int.neg_neg]
  exact shape

theorem mul_positive {mantissa digits : Nat} {exponent power : Int} (positive : 0 < mantissa)
    (otherPositive : 0 < digits) :
    UnpackedFloat.mul Format.binary64 (.finite .positive mantissa exponent positive)
        (.finite .positive digits power otherPositive) =
      roundWithAccuracy Format.binary64 .positive (mantissa * digits) (exponent + power) .exact :=
  rfl

theorem mul_one_holds {mantissa : Nat} {exponent : Int} (holds : Holds number mantissa exponent)
    (room : exponent ≤ 11) (small : number < 2 ^ 53) (nonzero : 0 < mantissa) :
    ∃ digits power, ∃ positive : 0 < digits,
      UnpackedFloat.mul Format.binary64 (.finite .positive mantissa exponent nonzero)
          (.finite .positive (2 ^ 52) (-52) (by decide)) = .finite .positive digits power positive ∧
      Holds number digits power := by
  have start := holds.least
  obtain ⟨digits, power, positive, shape, full, short, least, most, rounds⟩ :=
    round_finite (mantissa * 2 ^ 52) 52 (exponent + -52) .positive
      (Nat.mul_le_mul_right _ holds.full) (Nat.mul_lt_mul_of_pos_right holds.short (by decide)) (by omega)
  have same : magnitude (mantissa * 2 ^ 52) (exponent + -52) = magnitude mantissa exponent := by
    rw [magnitude, magnitude, Nat.mul_assoc, ← Nat.pow_add]
    congr 2
    omega
  rw [same, holds_small holds (Nat.le_of_lt small)] at rounds
  refine ⟨digits, power, positive, ?_, full, short, by omega, by omega, _, rounds⟩
  rw [mul_positive, shape]

theorem scale_holds (large : 2 ^ 53 ≤ number) (bound : number ≤ 2 ^ 63)
    (nonzero : 0 < number <<< 53) :
    ∃ digits power, ∃ positive : 0 < digits,
      UnpackedFloat.mul Format.binary64 (.finite .positive (number <<< 53) (-53) nonzero)
          (.finite .positive (10 ^ 0) 0 (by decide)) = .finite .positive digits power positive ∧
      Holds number digits power := by
  obtain ⟨lower, upper⟩ := log2_bounds (Nat.lt_of_lt_of_le (by decide) large)
  have most : number.log2 ≤ 63 :=
    (Nat.pow_le_pow_iff_right Nat.one_lt_two).mp (lower.trans bound)
  have least : 53 < number.log2 + 1 :=
    (Nat.pow_lt_pow_iff_right Nat.one_lt_two).mp (large.trans_lt upper)
  have wide : 2 ^ 52 * 2 ^ (number.log2 + 1) ≤ number * 2 ^ 53 :=
    calc 2 ^ 52 * 2 ^ (number.log2 + 1) = 2 ^ number.log2 * 2 ^ 53 := by ring
      _ ≤ number * 2 ^ 53 := Nat.mul_le_mul_right _ lower
  have narrow : number * 2 ^ 53 < 2 ^ 53 * 2 ^ (number.log2 + 1) := by
    rw [Nat.mul_comm]
    exact Nat.mul_lt_mul_of_pos_left upper (by decide)
  obtain ⟨digits, power, positive, shape, full, short, lowest, highest, rounds⟩ :=
    round_finite (number * 2 ^ 53) (number.log2 + 1) (-(53 : Nat)) .positive wide narrow (by omega)
  rw [magnitude_shifted 53 1021 rfl] at rounds
  refine ⟨digits, power, positive, ?_, full, short, by omega, by omega, _, rounds⟩
  rw [mul_positive, Nat.pow_zero, Nat.mul_one, Nat.shiftLeft_eq, Int.add_zero]
  exact shape

end Steps

theorem of_nat_small {number : Nat} (small : number < 2 ^ 53) :
    (Float.ofNat number).toModel =
      (Float.Model.pack (UnpackedFloat.ofNat Format.binary64 number)).mul
        (Float.ofBits 0x3FF0000000000000).toModel := by
  have fits : number.toUInt64.toNat = number := UInt64.toNat_ofNat_of_lt (small.trans (by decide))
  change (Float.ofScientific number false 0).toModel = _
  rw [Float.ofScientific, dif_pos ⟨small, by decide⟩]
  change (Float.Model.pack (UnpackedFloat.ofNat Format.binary64 number.toUInt64.toNat)).mul _ = _
  rw [fits]
  rfl

theorem unpack_one :
    (Float.ofBits 0x3FF0000000000000).toModel.unpack = .finite .positive (2 ^ 52) (-52) (by decide) :=
  rfl

theorem of_nat_large {number : Nat} (large : 2 ^ 53 ≤ number) (positive : 0 < number <<< 53) :
    (Float.ofNat number).toModel =
      Float.Model.pack (UnpackedFloat.mul Format.binary64
        (.finite .positive (number <<< 53) (-53) positive) (.finite .positive (10 ^ 0) 0 (by decide))) := by
  change (Float.ofScientific number false 0).toModel = _
  rw [Float.ofScientific, dif_neg (by omega)]
  change Float.Model.ofScientific number 0 = _
  have inRange : ¬ (0 : Int) < -(2 ^ Format.binary64.exponentBits + number.log2) := by
    change ¬ (0 : Int) < -(2048 + number.log2)
    omega
  rw [Float.Model.ofScientific, UnpackedFloat.ofScientific, dif_neg (by omega), if_neg (by decide),
    if_neg inRange, if_pos (by decide)]
  rfl

theorem unpack_of_nat {number : Nat} (positive : 0 < number) (bound : number ≤ 2 ^ 63) :
    ∃ mantissa exponent, ∃ nonzero : 0 < mantissa,
      (Float.ofNat number).toModel.unpack = .finite .positive mantissa exponent nonzero ∧
      Holds number mantissa exponent := by
  rcases Nat.lt_or_ge number (2 ^ 53) with small | large
  · obtain ⟨mantissa, exponent, nonzero, shape, room, holds⟩ := of_nat_holds positive small
    obtain ⟨digits, power, kept, product, result⟩ := mul_one_holds holds room small nonzero
    refine ⟨digits, power, kept, ?_, result⟩
    rw [of_nat_small small, Float.Model.mul, shape, unpack_pack_held holds, unpack_one, product,
      unpack_pack_held result]
  · have shifted : 0 < number <<< 53 := by
      rw [Nat.shiftLeft_eq]
      exact Nat.mul_pos positive (by decide)
    obtain ⟨digits, power, kept, product, result⟩ := scale_holds large bound shifted
    refine ⟨digits, power, kept, ?_, result⟩
    rw [of_nat_large large shifted, product, unpack_pack_held result]

theorem canonical_of_holds {number mantissa : Nat} {exponent : Int}
    (holds : Holds number mantissa exponent) : Canonical mantissa exponent where
  short := holds.short
  least := by
    have least := holds.least
    omega
  full := .inl holds.full

-- These are the units of a double that is as near to the integer as any other. If another one is equally
-- near, the units are an even multiple of the distance between the two.
structure Nearest (number : Int) (x : Float) (units : Int) : Prop where
  measures : Measures x.toModel.unpack units
  nearest : ∀ {other : UnpackedFloat} {others : Int}, Measures other others →
    |units - number * 2 ^ 1074| ≤ |others - number * 2 ^ 1074|
  tied : ∀ {other : UnpackedFloat} {others : Int}, Measures other others →
    |others - number * 2 ^ 1074| = |units - number * 2 ^ 1074| →
    others = units ∨ 2 * (others - units) ∣ units
  whole : number.natAbs ≤ 2 ^ 53 → units = number * 2 ^ 1074

section Sign

variable {number mantissa : Nat} {exponent : Int}

theorem units_cast (number : Nat) : ((number * 2 ^ 1074 : Nat) : Int) = number * 2 ^ 1074 := by
  rw [Nat.cast_mul, Nat.cast_pow, Nat.cast_ofNat]

theorem held_nearest (holds : Holds number mantissa exponent) {other : UnpackedFloat} {others : Int}
    (measures : Measures other others) :
    |(magnitude mantissa exponent : Int) - number * 2 ^ 1074| ≤ |others - number * 2 ^ 1074| := by
  obtain ⟨place, rounds⟩ := holds.rounded
  rw [← units_cast]
  exact rounds_nearest rounds (measured_apart measures place)

theorem held_tied (holds : Holds number mantissa exponent) {other : UnpackedFloat} {others : Int}
    (measures : Measures other others)
    (same : |others - number * 2 ^ 1074| = |(magnitude mantissa exponent : Int) - number * 2 ^ 1074|) :
    others = magnitude mantissa exponent ∨
      2 * (others - magnitude mantissa exponent) ∣ (magnitude mantissa exponent : Int) := by
  obtain ⟨place, rounds⟩ := holds.rounded
  rw [← units_cast] at same
  exact rounds_tied rounds (measured_apart measures place) same

theorem measures_neg {unpacked : UnpackedFloat} {units : Int} (measures : Measures unpacked units) :
    Measures unpacked.neg (-units) := by
  cases measures with
  | zero sign => exact .zero (-sign)
  | @finite sign mantissa exponent positive canonical =>
    cases sign with
    | positive => exact .finite .negative canonical
    | negative =>
      rw [Sign.apply, Int.neg_neg]
      exact .finite .positive canonical

theorem nearest_positive (positive : 0 < number) (bound : number ≤ 2 ^ 63) :
    ∃ units, Nearest number (Float.ofNat number) units := by
  obtain ⟨mantissa, exponent, nonzero, shape, holds⟩ := unpack_of_nat positive bound
  refine ⟨magnitude mantissa exponent, ?_, held_nearest holds, held_tied holds, fun small => ?_⟩
  · rw [shape]
    exact .finite .positive (canonical_of_holds holds)
  · rw [holds_small holds small, units_cast]

theorem distance_neg (units number : Int) :
    |-units - -number * 2 ^ 1074| = |units - number * 2 ^ 1074| := by
  rw [neg_mul, neg_sub_neg, abs_sub_comm]

theorem nearest_negative (positive : 0 < number) (bound : number ≤ 2 ^ 63) :
    ∃ units, Nearest (-number) (Float.ofNat number).neg units := by
  obtain ⟨mantissa, exponent, nonzero, shape, holds⟩ := unpack_of_nat positive bound
  refine ⟨-magnitude mantissa exponent, ?_, ?_, ?_, fun small => ?_⟩
  · have unpacked : (Float.ofNat number).neg.toModel.unpack =
        .finite .negative mantissa exponent nonzero := by
      change (Float.Model.pack (Float.ofNat number).toModel.unpack.neg).unpack = _
      rw [shape]
      exact unpack_pack_held holds .negative nonzero
    rw [unpacked]
    exact .finite .negative (canonical_of_holds holds)
  · intro other others measures
    have near := held_nearest holds (measures_neg measures)
    rwa [← neg_neg others, distance_neg, distance_neg]
  · intro other others measures same
    rw [← neg_neg others, distance_neg, distance_neg] at same
    refine (held_tied holds (measures_neg measures) same).imp neg_eq_iff_eq_neg.mp fun even => ?_
    have mirrored : others - -magnitude mantissa exponent =
        -(-others - magnitude mantissa exponent) := by ring
    rwa [mirrored, mul_neg, neg_dvd, dvd_neg]
  · rw [Int.natAbs_neg, Int.natAbs_natCast] at small
    rw [holds_small holds small, units_cast, Int.neg_mul]

end Sign

theorem nearest_zero : Nearest 0 (Float.ofInt 0) 0 where
  measures := .zero .positive
  nearest measures := by
    rw [zero_mul, sub_zero, abs_zero]
    exact abs_nonneg _
  tied _ _ := .inr (dvd_zero _)
  whole _ := (zero_mul _).symm

theorem of_int_nearest {number : Int} (bound : number.natAbs ≤ 2 ^ 63) :
    ∃ units, Nearest number (Float.ofInt number) units := by
  cases number with
  | ofNat number =>
    cases number with
    | zero => exact ⟨0, nearest_zero⟩
    | succ number => exact nearest_positive (Nat.succ_pos number) bound
  | negSucc number => exact nearest_negative (Nat.succ_pos number) bound

end Stencil.Double
