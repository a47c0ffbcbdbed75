import Mathlib
import Stencil.Proofs.Value.Coherence

set_option autoImplicit false

namespace Stencil.Double

open Float.Model Float.Model.UnpackedFloat

def unpackedRational? : UnpackedFloat → Option ℚ
  | .zero _ => some 0
  | .finite sign mantissa exponent _ => some (sign.apply mantissa * 2 ^ exponent)
  | _ => none

def rational? (x : Float) : Option ℚ :=
  unpackedRational? x.toModel.unpack

-- Mantissa and exponent as they come out of 64 bits: the mantissa has all its 53 bits unless the exponent
-- is the smallest.
structure Canonical (mantissa : Nat) (exponent : Int) : Prop where
  short : mantissa < 2 ^ 53
  least : -1074 ≤ exponent
  full : 2 ^ 52 ≤ mantissa ∨ exponent = -1074

def magnitude (mantissa : Nat) (exponent : Int) : Nat :=
  mantissa * 2 ^ (exponent + 1074).toNat

inductive Measures : UnpackedFloat → Int → Prop where
  | zero (sign : Sign) : Measures (.zero sign) 0
  | finite (sign : Sign) {mantissa : Nat} {exponent : Int} {positive : 0 < mantissa}
      (canonical : Canonical mantissa exponent) :
      Measures (.finite sign mantissa exponent positive) (sign.apply (magnitude mantissa exponent))

theorem compare_transfer {α β : Type} [LinearOrder α] [LinearOrder β] {a b : α} {c d : β}
    (less : a < b → c < d) (same : a = b → c = d) (more : b < a → d < c) :
    compare a b = compare c d := by
  rcases lt_trichotomy a b with below | equal | above
  · rw [compare_lt_iff_lt.mpr below, compare_lt_iff_lt.mpr (less below)]
  · rw [compare_eq_iff_eq.mpr equal, compare_eq_iff_eq.mpr (same equal)]
  · rw [compare_gt_iff_gt.mpr above, compare_gt_iff_gt.mpr (more above)]

section Magnitude

variable {mantissa other : Nat} {exponent power : Int}

theorem magnitude_lt (canonical : Canonical mantissa exponent) (otherCanonical : Canonical other power)
    (less : exponent < power) : magnitude mantissa exponent < magnitude other power := by
  have least := canonical.least
  have full : 2 ^ 52 ≤ other := otherCanonical.full.resolve_right (by omega)
  have steps : (exponent + 1074).toNat + 1 ≤ (power + 1074).toNat := by omega
  calc magnitude mantissa exponent < 2 ^ 53 * 2 ^ (exponent + 1074).toNat :=
        Nat.mul_lt_mul_of_pos_right canonical.short (Nat.two_pow_pos _)
    _ = 2 ^ 52 * 2 ^ ((exponent + 1074).toNat + 1) := by ring
    _ ≤ other * 2 ^ (power + 1074).toNat :=
        Nat.mul_le_mul full (Nat.pow_le_pow_right Nat.two_pos steps)

theorem magnitude_pos (positive : 0 < mantissa) : 0 < magnitude mantissa exponent :=
  Nat.mul_pos positive (Nat.two_pow_pos _)

theorem compare_magnitude (canonical : Canonical mantissa exponent)
    (otherCanonical : Canonical other power) :
    (compare exponent power).then (compare mantissa other) =
      compare (magnitude mantissa exponent : Int) (magnitude other power) := by
  rcases lt_trichotomy exponent power with below | same | above
  · have less := magnitude_lt canonical otherCanonical below
    rw [compare_lt_iff_lt.mpr below, compare_lt_iff_lt.mpr (Int.ofNat_lt.mpr less)]
    rfl
  · subst same
    rw [compare_eq_iff_eq.mpr rfl]
    exact compare_transfer
      (fun less => Int.ofNat_lt.mpr (Nat.mul_lt_mul_of_pos_right less (Nat.two_pow_pos _)))
      (fun same => by rw [same])
      (fun more => Int.ofNat_lt.mpr (Nat.mul_lt_mul_of_pos_right more (Nat.two_pow_pos _)))
  · have more := magnitude_lt otherCanonical canonical above
    rw [compare_gt_iff_gt.mpr above, compare_gt_iff_gt.mpr (Int.ofNat_lt.mpr more)]
    rfl

end Magnitude

theorem compare_neg_swap (a b : Int) : (compare a b).swap = compare (-a) (-b) := by
  rw [← Std.OrientedCmp.eq_swap]
  exact compare_transfer (fun less => neg_lt_neg less) (fun same => by rw [same])
    (fun more => neg_lt_neg more)

theorem compare_measured {a b : UnpackedFloat} {units others : Int} (measures : Measures a units)
    (otherMeasures : Measures b others) : a.compare b = some (compare units others) := by
  cases measures with
  | zero sign =>
    cases otherMeasures with
    | zero other => rfl
    | @finite other digits power positive _ =>
      have weight : 0 < (magnitude digits power : Int) := Int.natCast_pos.mpr (magnitude_pos positive)
      cases other with
      | positive => exact congrArg some (compare_lt_iff_lt.mpr weight).symm
      | negative => exact congrArg some (compare_gt_iff_gt.mpr (Int.neg_neg_of_pos weight)).symm
  | @finite sign mantissa exponent positive canonical =>
    have weight : 0 < (magnitude mantissa exponent : Int) :=
      Int.natCast_pos.mpr (magnitude_pos positive)
    cases otherMeasures with
    | zero other =>
      cases sign with
      | positive => exact congrArg some (compare_gt_iff_gt.mpr weight).symm
      | negative => exact congrArg some (compare_lt_iff_lt.mpr (Int.neg_neg_of_pos weight)).symm
    | @finite other digits power otherPositive otherCanonical =>
      have otherWeight : 0 < (magnitude digits power : Int) :=
        Int.natCast_pos.mpr (magnitude_pos otherPositive)
      have same := compare_magnitude canonical otherCanonical
      cases sign with
      | positive =>
        cases other with
        | positive => exact congrArg some same
        | negative =>
          have more : -(magnitude digits power : Int) < magnitude mantissa exponent := by omega
          exact congrArg some (compare_gt_iff_gt.mpr more).symm
      | negative =>
        cases other with
        | positive =>
          have less : -(magnitude mantissa exponent : Int) < magnitude digits power := by omega
          exact congrArg some (compare_lt_iff_lt.mpr less).symm
        | negative =>
          refine congrArg some ?_
          rw [same]
          exact compare_neg_swap _ _

theorem rational_measured {unpacked : UnpackedFloat} {units : Int} (measures : Measures unpacked units) :
    unpackedRational? unpacked = some ((units : ℚ) / 2 ^ 1074) := by
  cases measures with
  | zero sign => simp [unpackedRational?]
  | @finite sign mantissa exponent positive canonical =>
    have least := canonical.least
    obtain ⟨steps, shape⟩ : ∃ steps : Nat, exponent = (steps : Int) - 1074 :=
      ⟨(exponent + 1074).toNat, by omega⟩
    have scaled : (2 : ℚ) ^ exponent = 2 ^ steps / 2 ^ 1074 := by
      rw [shape, zpow_sub₀ two_ne_zero, zpow_natCast]
      rfl
    have weight : magnitude mantissa exponent = mantissa * 2 ^ steps := by
      rw [magnitude, shape, Int.sub_add_cancel, Int.toNat_natCast]
    rw [unpackedRational?, scaled, weight, mul_div_assoc']
    cases sign <;> simp [Sign.apply]

theorem canonical_subnormal {mantissa : Nat} (short : mantissa < 2 ^ 52) : Canonical mantissa (-1074) where
  short := short.trans (by decide)
  least := le_refl _
  full := .inr rfl

theorem canonical_normal {fraction biased : Nat} (short : fraction < 2 ^ 52) (positive : 0 < biased) :
    Canonical (2 ^ 52 + fraction) (biased - 1075) where
  short := by omega
  least := by omega
  full := .inl (by omega)

theorem implicit_bit (fraction : BitVec 52) : (1#1 ++ fraction).toNat = 2 ^ 52 + fraction.toNat := by
  rw [BitVec.toNat_append, ← Nat.shiftLeft_add_eq_or_of_lt fraction.isLt]
  rfl

theorem unpack_measured (bits : BitVec Format.binary64.numBits) :
    (UnpackedFloat.unpack Format.binary64 bits).isFinite = true →
      ∃ units, Measures (UnpackedFloat.unpack Format.binary64 bits) units := by
  fun_cases UnpackedFloat.unpack with
  | case1 => simp [UnpackedFloat.isFinite]
  | case2 => simp [UnpackedFloat.isFinite]
  | case3 => exact fun _ => ⟨0, .zero _⟩
  | case4 fraction biased exponent signBit sign notSpecial subnormal nonzero =>
    intro _
    have least : exponent + 1 = -1074 := by
      change (biased.toNat : Int) - 1075 + 1 = -1074
      rw [subnormal]
      rfl
    refine ⟨_, .finite sign ?_⟩
    rw [least]
    exact canonical_subnormal fraction.isLt
  | case5 fraction biased exponent signBit sign notSpecial normal =>
    intro _
    have positive : 0 < biased.toNat :=
      Nat.pos_of_ne_zero fun zero => normal (BitVec.eq_of_toNat_eq zero)
    refine ⟨_, .finite sign ?_⟩
    rw [implicit_bit]
    exact canonical_normal fraction.isLt positive

theorem measured_of_finite {x : Float} (finite : x.isFinite = true) :
    ∃ units, Measures x.toModel.unpack units :=
  unpack_measured _ finite

theorem finite_congr {sign : Sign} {mantissa other : Nat} {exponent power : Int}
    {positive : 0 < mantissa} {otherPositive : 0 < other} (sameMantissa : mantissa = other)
    (sameExponent : exponent = power) :
    UnpackedFloat.finite sign mantissa exponent positive =
      .finite sign other power otherPositive := by
  subst sameMantissa sameExponent
  rfl

theorem unpack_components {sign : Sign} {fraction biased : Nat} (short : fraction < 2 ^ 52)
    (least : 0 < biased) (most : biased < 2047) (positive : 0 < 2 ^ 52 + fraction) :
    UnpackedFloat.unpack Format.binary64 (packComponents Format.binary64 sign
        (BitVec.ofNat 11 biased) (BitVec.ofNat 52 fraction)) =
      .finite sign (2 ^ 52 + fraction) (biased - 1075) positive := by
  have held : (BitVec.ofNat 11 biased).toNat = biased := by
    rw [BitVec.toNat_ofNat, Nat.mod_eq_of_lt (by omega)]
  have kept : (BitVec.ofNat 52 fraction).toNat = fraction := by
    rw [BitVec.toNat_ofNat, Nat.mod_eq_of_lt short]
  have notSpecial : BitVec.ofNat 11 biased ≠ -1#11 := by
    intro special
    have largest : (-1#11).toNat = 2047 := rfl
    rw [special, largest] at held
    omega
  have normal : BitVec.ofNat 11 biased ≠ 0#11 := by
    intro zero
    have smallest : (0#11).toNat = 0 := rfl
    rw [zero, smallest] at held
    omega
  simp only [UnpackedFloat.unpack, unpackExponent_packComponents, unpackMantissa_packComponents,
    unpackSign_packComponents, Sign.ofBitVec_toBitVec]
  rw [if_neg notSpecial, if_neg normal]
  refine finite_congr ?_ ?_
  · rw [implicit_bit, kept]
  · rw [held]
    rfl

theorem unpack_pack_normal {sign : Sign} {mantissa : Nat} {exponent : Int} {positive : 0 < mantissa}
    (full : 2 ^ 52 ≤ mantissa) (short : mantissa < 2 ^ 53) (least : -1074 ≤ exponent)
    (most : exponent ≤ 971) :
    (Float.Model.pack (.finite sign mantissa exponent positive)).unpack =
      .finite sign mantissa exponent positive := by
  obtain ⟨fraction, rfl⟩ := Nat.exists_eq_add_of_le full
  obtain ⟨biased, rfl⟩ : ∃ biased : Nat, exponent = (biased : Int) - 1075 :=
    ⟨(exponent + 1075).toNat, by omega⟩
  have bits : (2 ^ 52 + fraction).log2 = 52 :=
    (Nat.log2_eq_iff (by omega)).mpr ⟨by omega, by omega⟩
  have stored : ((biased : Int) - 1075 + Format.binary64.exponentBias +
      Format.binary64.mantissaBitsWithoutImplicit).toNat = biased := by
    change ((biased : Int) - 1075 + 1023 + 52).toNat = biased
    omega
  have packed : UnpackedFloat.pack Format.binary64
      (.finite sign (2 ^ 52 + fraction) (biased - 1075) positive) =
        packComponents Format.binary64 sign (BitVec.ofNat 11 biased) (BitVec.ofNat 52 fraction) := by
    simp only [UnpackedFloat.pack, stored, bits]
    have implicit : BitVec.ofNat 52 (2 ^ 52 + fraction) = BitVec.ofNat 52 fraction :=
      BitVec.eq_of_toNat_eq (by rw [BitVec.toNat_ofNat, BitVec.toNat_ofNat, Nat.add_mod_left])
    rw [if_neg (by omega), if_pos (by rfl), implicit]
  change UnpackedFloat.unpack Format.binary64 (UnpackedFloat.pack Format.binary64 _) = _
  rw [packed]
  exact unpack_components (by omega) (by omega) (by omega) positive

end Stencil.Double
