import ColumnRoles.Proofs.Ratio
import ColumnRoles.Ruleset
import Mathlib.Algebra.Order.Field.Power
import Mathlib.Algebra.Order.Ring.Rat
import Mathlib.Tactic.GCongr
import Mathlib.Tactic.Linarith
import Mathlib.Tactic.NormNum
import Mathlib.Tactic.Positivity
import Mathlib.Tactic.Ring

/-!
The rational numbers that floating-point numbers stand for. A number that is read from its bits has
a full mantissa, unless its exponent is the least one. A greater exponent therefore means a greater
number, and finite numbers compare as the rational numbers they stand for. A ratio is one that
stands for a number from zero to one: what is infinite or not a number is none.
-/
namespace ColumnRoles

namespace Ratio

open Float.Model UnpackedFloat

def unpackedValue : UnpackedFloat → Option ℚ
  | .notANumber | .infinity _ => none
  | .zero _ => some 0
  | .finite sign mantissa exponent _ => some (sign.apply mantissa * 2 ^ exponent)

/-- The rational number that a number stands for, if it is finite. Zeros of both signs stand for
the same. -/
def value (x : Float) : Option ℚ :=
  unpackedValue x.toModel.unpack

structure FullMantissa (mantissa : ℕ) (exponent : ℤ) : Prop where
  lt : mantissa < 2 ^ 53
  least_le : -1074 ≤ exponent
  full_or_least : 2 ^ 52 ≤ mantissa ∨ exponent = -1074

namespace FullMantissa

variable {m n : ℕ} {e f : ℤ}

theorem lt_of_exponent_lt (hm : FullMantissa m e) (hn : FullMantissa n f) (h : e < f) :
    (m : ℚ) * 2 ^ e < n * 2 ^ f := by
  have hleast := hm.least_le
  have hfull : 2 ^ 52 ≤ n := hn.full_or_least.resolve_right (by omega)
  calc (m : ℚ) * 2 ^ e < 2 ^ 53 * 2 ^ e := by
        have hlt : (m : ℚ) < 2 ^ 53 := by exact_mod_cast hm.lt
        gcongr
    _ = 2 ^ 52 * 2 ^ (e + 1) := by
        rw [zpow_add_one₀ two_ne_zero]
        ring
    _ ≤ n * 2 ^ f := by
        have hle : (2 : ℚ) ^ 52 ≤ n := by exact_mod_cast hfull
        gcongr
        · norm_num
        · omega

/-- Full mantissas compare by their exponents first. -/
theorem mul_le_mul_iff (hm : FullMantissa m e) (hn : FullMantissa n f) :
    (m : ℚ) * 2 ^ e ≤ n * 2 ^ f ↔ e < f ∨ e = f ∧ m ≤ n := by
  rcases lt_trichotomy e f with h | rfl | h
  · simp [h, (hm.lt_of_exponent_lt hn h).le]
  · have hpos : (0 : ℚ) < 2 ^ e := zpow_pos two_pos e
    rw [mul_le_mul_iff_left₀ hpos, Nat.cast_le]
    simp
  · have hlt := hn.lt_of_exponent_lt hm h
    simp [h.not_gt, h.ne', hlt]

end FullMantissa

/-- If the number is finite, its mantissa is full. -/
def Canonical : UnpackedFloat → Prop
  | .finite _ mantissa exponent _ => FullMantissa mantissa exponent
  | _ => True

/-- The bit that is not written stands before the others. -/
theorem toNat_implicit_append {width : ℕ} (digits : BitVec width) :
    (1#1 ++ digits).toNat = 2 ^ width + digits.toNat := by
  rw [BitVec.toNat_append, ← Nat.shiftLeft_add_eq_or_of_lt digits.isLt, Nat.shiftLeft_eq]
  simp

/-- What is read from bits is canonical. -/
theorem canonical_unpack (x : Float.Model) : Canonical x.unpack := by
  have hdigits := (@unpackMantissa Format.binary64 x.toBits.toBitVec).isLt
  change _ < 2 ^ 52 at hdigits
  have hbias : (Format.binary64.exponentBias : ℤ) + Format.binary64.mantissaBitsWithoutImplicit =
      1075 := by decide
  unfold Float.Model.unpack UnpackedFloat.unpack
  dsimp only
  rw [hbias]
  refine iteInduction (fun _ => ?infinite) fun _ =>
    iteInduction (fun hpower => ?least) fun hpower => ?full
  case infinite => exact iteInduction (fun _ => trivial) fun _ => trivial
  case least =>
    by_cases hzero : @unpackMantissa Format.binary64 x.toBits.toBitVec = 0#_
    · rw [dif_pos hzero]
      trivial
    · -- without the unwritten bit the mantissa is not full, and the exponent is the least one
      have hexponent : (@unpackExponent Format.binary64 x.toBits.toBitVec).toNat = 0 :=
        congrArg BitVec.toNat hpower
      rw [dif_neg hzero]
      exact ⟨by omega, by omega, Or.inr (by omega)⟩
  case full =>
    have hexponent : (@unpackExponent Format.binary64 x.toBits.toBitVec).toNat ≠ 0 :=
      fun hzero => hpower (BitVec.eq_of_toNat_eq hzero)
    have hfull : (1#1 ++ @unpackMantissa Format.binary64 x.toBits.toBitVec).toNat =
        2 ^ 52 + (@unpackMantissa Format.binary64 x.toBits.toBitVec).toNat :=
      toNat_implicit_append _
    exact ⟨by omega, by omega, Or.inl (by omega)⟩

/-- The keys of finite numbers are ordered as the numbers that they stand for. -/
theorem keyLe_iff_value_le {a b : UnpackedFloat} {p q : ℚ} (ha : Canonical a) (hb : Canonical b)
    (hp : unpackedValue a = some p) (hq : unpackedValue b = some q) :
    (∃ k l, key a = some k ∧ key b = some l ∧ KeyLe k l) ↔ p ≤ q := by
  have hpos (m : ℕ) (e : ℤ) (h : 0 < m) : (0 : ℚ) < m * 2 ^ e := by positivity
  rcases a with _ | _ | _ | ⟨_ | _, m, e, hm⟩ <;>
    rcases b with _ | _ | _ | ⟨_ | _, n, f, hn⟩ <;>
    dsimp only [unpackedValue, key] at hp hq ⊢ <;>
    simp only [Option.some.injEq, reduceCtorEq] at hp hq <;>
    subst hp hq <;>
    simp [KeyLe, Sign.apply]
  case zero.finite.negative => exact hpos n f hn
  case zero.finite.positive => exact (hpos n f hn).le
  case finite.negative.zero => exact (hpos m e hm).le
  case finite.positive.zero => exact hpos m e hm
  case finite.negative.finite.positive => linarith only [hpos m e hm, hpos n f hn]
  case finite.positive.finite.negative => linarith only [hpos m e hm, hpos n f hn]
  case finite.positive.finite.positive => exact (FullMantissa.mul_le_mul_iff ha hb).symm
  case finite.negative.finite.negative =>
    -- of negative numbers the one with the greater exponent is the lesser one
    rw [FullMantissa.mul_le_mul_iff hb ha, eq_comm]

/-- Finite numbers compare as the rational numbers that they stand for. -/
theorem le_iff_value_le {x y : Float} {p q : ℚ} (hx : value x = some p) (hy : value y = some q) :
    x ≤ y ↔ p ≤ q :=
  (le_iff x y).trans (keyLe_iff_value_le (canonical_unpack _) (canonical_unpack _) hx hy)

/-- What is infinite stands outside all finite numbers. -/
theorem key_bounds {a : UnpackedFloat} {k : ℤ × ℤ × ℤ} (ha : (unpackedValue a).isSome)
    (hk : key a = some k) : -2 < k.1 ∧ k.1 < 2 := by
  rcases a with _ | _ | _ | ⟨_ | _, m, e, hm⟩ <;>
    dsimp only [unpackedValue, key] at ha hk <;>
    simp only [Option.isSome_none, Bool.false_eq_true, Option.some.injEq] at ha hk <;>
    subst hk <;>
    simp

/-- What is infinite, or no number at all, does not lie between finite numbers. -/
theorem isSome_value_of_between {x low high : Float} (hlow : (value low).isSome)
    (hhigh : (value high).isSome) (hle : low ≤ x) (hge : x ≤ high) : (value x).isSome := by
  obtain ⟨k, l, hk, hl, hkl⟩ := (le_iff low x).mp hle
  obtain ⟨l', u, hl', hu, hlu⟩ := (le_iff x high).mp hge
  obtain rfl := Option.some.inj (hl.symm.trans hl')
  have hmin := (key_bounds hlow hk).1
  have hmax := (key_bounds hhigh hu).2
  unfold value
  cases hx : x.toModel.unpack with
  | zero | finite => rfl
  | notANumber =>
    rw [hx] at hl
    cases hl
  | infinity sign =>
    rw [hx] at hl
    unfold KeyLe at hkl hlu
    cases sign <;>
    · obtain rfl := Option.some.inj hl
      omega

theorem value_zero : value 0 = some 0 :=
  rfl

theorem value_one : value 1 = some 1 := by
  have hvalue : value 1 = some ((Sign.positive.apply (2 ^ 52 : ℕ) : ℚ) * 2 ^ (-52 : ℤ)) := rfl
  rw [hvalue]
  norm_num [Sign.apply]

/-- The number lies between zero and one, which it may be itself. -/
def WithinUnit (x : Float) : Prop :=
  ∃ q, value x = some q ∧ 0 ≤ q ∧ q ≤ 1

theorem withinUnit_iff (x : Float) : WithinUnit x ↔ 0 ≤ x ∧ x ≤ 1 := by
  constructor
  · rintro ⟨q, hq, hlow, hhigh⟩
    exact ⟨(le_iff_value_le value_zero hq).mpr hlow, (le_iff_value_le hq value_one).mpr hhigh⟩
  · rintro ⟨hlow, hhigh⟩
    obtain ⟨q, hq⟩ := Option.isSome_iff_exists.mp <|
      isSome_value_of_between (Option.isSome_of_eq_some value_zero)
        (Option.isSome_of_eq_some value_one) hlow hhigh
    exact ⟨q, hq, (le_iff_value_le value_zero hq).mp hlow, (le_iff_value_le hq value_one).mp hhigh⟩

end Ratio

theorem RulesetConfig.isRatio_iff {x : Float} : isRatio x = true ↔ Ratio.WithinUnit x := by
  simp [isRatio, Ratio.withinUnit_iff]

end ColumnRoles
