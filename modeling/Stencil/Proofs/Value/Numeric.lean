import Stencil.Proofs.Double.Conversion

set_option autoImplicit false

namespace Stencil

open Double

-- How an integer and a finite double compare: the integer gives way to a double that stands for the
-- first rational number, and the other double stands for the second. If another double is as near to
-- the integer as the first, then the first is an even multiple of the distance between them.
structure ComparesRounded (i : Int64) (x : Float) (q r : ℚ) : Prop where
  rounded : rational? (nearestFloat i) = some q
  double : rational? x = some r
  nearest : ∀ y s, rational? y = some s → |q - i.toInt| ≤ |s - i.toInt|
  tied : ∀ y s, rational? y = some s → |s - i.toInt| = |q - i.toInt| →
    s = q ∨ ∃ times : ℤ, q = 2 * (s - q) * times
  whole : i.toInt.natAbs ≤ 2 ^ 53 → q = i.toInt
  order : Value.order (.int i) (.float x) = some (compare q r)
  swapped : Value.order (.float x) (.int i) = some (compare r q)
  equal : Value.equal (.int i) (.float x) = true ↔ q = r
  equalSwapped : Value.equal (.float x) (.int i) = true ↔ q = r
  below : Value.order (.int i) (.float x) = some .lt → i.toInt < r
  above : Value.order (.int i) (.float x) = some .gt → r < i.toInt

namespace Double

theorem distance_units (units number : Int) (steps : Nat) :
    |(units : ℚ) / 2 ^ steps - number| = ((|units - number * 2 ^ steps| : Int) : ℚ) / 2 ^ steps := by
  have positive : (0 : ℚ) < 2 ^ steps := by positivity
  have parts : (units : ℚ) / 2 ^ steps - number =
      ((units - number * 2 ^ steps : Int) : ℚ) / 2 ^ steps := by
    push_cast
    rw [sub_div, mul_div_cancel_right₀ _ positive.ne']
  rw [parts, abs_div, abs_of_pos positive, Int.cast_abs]

theorem compare_units (units others : Int) (steps : Nat) :
    compare units others = compare ((units : ℚ) / 2 ^ steps) ((others : ℚ) / 2 ^ steps) := by
  have positive : (0 : ℚ) < 2 ^ steps := by positivity
  exact compare_transfer
    (fun less => div_lt_div_of_pos_right (Int.cast_lt.mpr less) positive)
    (fun same => by rw [same])
    (fun more => div_lt_div_of_pos_right (Int.cast_lt.mpr more) positive)

theorem measured_of_rational {x : Float} {r : ℚ} (stands : rational? x = some r) :
    ∃ units, Measures x.toModel.unpack units ∧ r = (units : ℚ) / 2 ^ 1074 := by
  have finite : x.isFinite = true := by
    change x.toModel.unpack.isFinite = true
    rw [rational?] at stands
    cases unpacked : x.toModel.unpack with
    | infinity => rw [unpacked] at stands; cases stands
    | notANumber => rw [unpacked] at stands; cases stands
    | zero => rfl
    | finite => rfl
  obtain ⟨units, measures⟩ := measured_of_finite finite
  exact ⟨units, measures, Option.some.inj (stands.symm.trans (rational_measured measures))⟩

end Double

namespace Value

section Rounded

variable {i : Int64} {x : Float} {q r : ℚ}

theorem toInt_bound (i : Int64) : i.toInt.natAbs ≤ 2 ^ 63 := by
  have lower := i.le_toInt
  have upper := i.toInt_lt
  omega

theorem compare_floats {x y : Float} {q r : ℚ} (first : rational? x = some q)
    (second : rational? y = some r) : orderFloats x y = some (compare q r) := by
  obtain ⟨units, measures, rfl⟩ := measured_of_rational first
  obtain ⟨others, otherMeasures, rfl⟩ := measured_of_rational second
  rw [order_floats_eq, ← compare_units]
  exact compare_measured measures otherMeasures

theorem nearest_float (i : Int64) :
    ∃ q : ℚ, rational? (nearestFloat i) = some q ∧
      (∀ y s, rational? y = some s → |q - i.toInt| ≤ |s - i.toInt|) ∧
      (∀ y s, rational? y = some s → |s - i.toInt| = |q - i.toInt| →
        s = q ∨ ∃ times : ℤ, q = 2 * (s - q) * times) ∧
      (i.toInt.natAbs ≤ 2 ^ 53 → q = i.toInt) := by
  obtain ⟨units, nearest⟩ := of_int_nearest (toInt_bound i)
  refine ⟨_, rational_measured nearest.measures, fun y s stands => ?_, fun y s stands same => ?_,
    fun small => ?_⟩
  · obtain ⟨others, measures, rfl⟩ := measured_of_rational stands
    rw [distance_units, distance_units]
    exact div_le_div_of_nonneg_right (Int.cast_le.mpr (nearest.nearest measures)) (by positivity)
  · obtain ⟨others, measures, rfl⟩ := measured_of_rational stands
    rw [distance_units, distance_units, div_left_inj' (by positivity), Int.cast_inj] at same
    refine (nearest.tied measures same).imp (fun equal => by rw [equal]) ?_
    rintro ⟨times, even⟩
    refine ⟨times, ?_⟩
    rw [← sub_div, mul_div_assoc', div_mul_eq_mul_div]
    exact congrArg (· / _) (mod_cast even)
  · rw [nearest.whole small, Int.cast_mul, Int.cast_pow, Int.cast_ofNat]
    exact mul_div_cancel_right₀ _ (pow_ne_zero 1074 two_ne_zero)

theorem lt_of_nearest {number q r : ℚ} (nearest : |q - number| ≤ |r - number|) (less : q < r) :
    number < r := by
  -- Otherwise the other double would be the nearer one.
  by_contra above
  rw [abs_of_neg (by linarith), abs_of_nonpos (by linarith)] at nearest
  linarith

theorem gt_of_nearest {number q r : ℚ} (nearest : |q - number| ≤ |r - number|) (more : r < q) :
    r < number := by
  by_contra below
  rw [abs_of_pos (by linarith), abs_of_nonneg (by linarith)] at nearest
  linarith

end Rounded

theorem compares_rounded (i : Int64) {x : Float} (finite : x.isFinite = true) :
    ∃ q r, ComparesRounded i x q r := by
  obtain ⟨q, rounded, nearest, tied, whole⟩ := nearest_float i
  obtain ⟨units, measures⟩ := measured_of_finite finite
  have double := rational_measured measures
  have order := compare_floats rounded double
  have swapped := compare_floats double rounded
  refine ⟨q, _, rounded, double, nearest, tied, whole, order, swapped, ?_, ?_, fun less => ?_,
    fun more => ?_⟩
  · rw [equal, order_floats_beq, order, Option.some.injEq, compare_eq_iff_eq]
  · rw [equal, order_floats_beq, order, Option.some.injEq, compare_eq_iff_eq]
  · exact lt_of_nearest (nearest _ _ double) (compare_lt_iff_lt.mp (Option.some.inj (order.symm.trans less)))
  · exact gt_of_nearest (nearest _ _ double) (compare_gt_iff_gt.mp (Option.some.inj (order.symm.trans more)))

theorem compares_rounded_whole :
    (0.5 : Float).isFinite = true ∧
      ∃ q r, ComparesRounded (-9007199254740992) 0.5 q r ∧ q = -9007199254740992 := by
  have finite : (0.5 : Float).isFinite = true := by decide +kernel
  obtain ⟨q, r, compares⟩ := compares_rounded (-9007199254740992) finite
  have whole := compares.whole (by decide)
  rw [show (-9007199254740992 : Int64).toInt = -9007199254740992 by decide] at whole
  exact ⟨finite, q, r, compares, mod_cast whole⟩

-- One more than 2^53 gives way to 2^53 and equals it as a double, so that two different integers equal
-- the same double.
theorem merged_with_double :
    let x : Float := 9007199254740992
    x.isFinite = true ∧ rational? x = some 9007199254740992 ∧
      order (.int 9007199254740993) (.float x) = some .eq ∧
      equal (.int 9007199254740993) (.float x) = true ∧ equal (.float x) (.int 9007199254740992) = true ∧
      equal (.int 9007199254740993) (.int 9007199254740992) = false ∧
      ¬ ∀ (i : Int64) (y : Float), y.isFinite = true →
        (equal (.int i) (.float y) = true ↔ rational? y = some (i.toInt : ℚ)) := by
  intro x
  have finite : x.isFinite = true := by decide +kernel
  have double : rational? x = some 9007199254740992 := by
    obtain ⟨q, stands, _, _, whole⟩ := nearest_float 9007199254740992
    rw [show (9007199254740992 : Int64).toInt = 9007199254740992 by decide] at whole
    have exactly := whole (by decide)
    rw [← show nearestFloat 9007199254740992 = x from rfl, stands, exactly]
    norm_num
  have merged : equal (.int 9007199254740993) (.float x) = true := by decide +kernel
  refine ⟨finite, double, by decide +kernel, merged, by decide +kernel, by decide +kernel, fun all => ?_⟩
  have same := Option.some.inj (double.symm.trans ((all 9007199254740993 x finite).mp merged))
  rw [show (9007199254740993 : Int64).toInt = 9007199254740993 by decide] at same
  norm_num at same

end Value

end Stencil
