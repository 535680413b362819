import ColumnRoles.Column

/-!
Thresholds of ratios. Floating-point numbers are compared by sign and kind, then by exponent and
then by mantissa, and what is not a number compares with nothing. A ratio that does not exceed one
threshold therefore does not exceed a greater one, and one that lies beyond a threshold is not
within it. A number divided by itself is one, if it is a number at all, so a column in which no
value repeats exceeds every threshold below one.
-/
namespace ColumnRoles

namespace Ratio

open Float.Model

/-- Where a number stands among the others: its sign and kind, its exponent and its mantissa. -/
def key : UnpackedFloat → Option (Int × Int × Int)
  | .notANumber => none
  | .infinity .negative => some (-2, 0, 0)
  | .finite .negative mantissa exponent _ => some (-1, -exponent, -mantissa)
  | .zero _ => some (0, 0, 0)
  | .finite .positive mantissa exponent _ => some (1, exponent, mantissa)
  | .infinity .positive => some (2, 0, 0)

def KeyLe (a b : Int × Int × Int) : Prop :=
  a.1 < b.1 ∨ a.1 = b.1 ∧ (a.2.1 < b.2.1 ∨ a.2.1 = b.2.1 ∧ a.2.2 ≤ b.2.2)

theorem KeyLe.trans {a b c : Int × Int × Int} (hab : KeyLe a b) (hbc : KeyLe b c) : KeyLe a c := by
  unfold KeyLe at *
  omega

theorem isLE_then_compare (e f : Int) (m n : Nat) :
    ((compare e f).then (compare m n)).isLE = true ↔ e < f ∨ e = f ∧ m ≤ n := by
  rw [Ordering.isLE_then_iff_or]
  simp [Int.compare_eq_lt, Nat.isLE_compare]

theorem isGE_then_compare (e f : Int) (m n : Nat) :
    ((compare e f).then (compare m n)).isGE = true ↔ f < e ∨ f = e ∧ n ≤ m := by
  rw [← isLE_then_compare, ← Int.compare_swap, ← Nat.compare_swap, ← Ordering.swap_then,
    Ordering.isGE_swap]

/-- Numbers are compared by their keys. -/
theorem unpacked_le_iff (a b : UnpackedFloat) :
    a.le b = true ↔ ∃ k l, key a = some k ∧ key b = some l ∧ KeyLe k l := by
  unfold UnpackedFloat.le
  rcases a with (_ | _) | _ | _ | ⟨_ | _, m, e, _⟩ <;>
    rcases b with (_ | _) | _ | _ | ⟨_ | _, n, f, _⟩ <;>
    dsimp only [UnpackedFloat.compare, key] <;>
    simp [KeyLe, isLE_then_compare, isGE_then_compare]
  all_goals first | decide | rw [eq_comm]

theorem le_iff (x y : Float) : x ≤ y ↔
    ∃ k l, key x.toModel.unpack = some k ∧ key y.toModel.unpack = some l ∧ KeyLe k l := by
  rw [← unpacked_le_iff]
  exact decide_eq_true_iff

theorem le_trans {x y z : Float} (hxy : x ≤ y) (hyz : y ≤ z) : x ≤ z := by
  obtain ⟨k, l, hk, hl, hkl⟩ := (le_iff x y).mp hxy
  obtain ⟨l', m, hl', hm, hlm⟩ := (le_iff y z).mp hyz
  obtain rfl := Option.some.inj (hl.symm.trans hl')
  exact (le_iff x z).mpr ⟨k, m, hk, hm, hkl.trans hlm⟩

theorem unpacked_compare_swap (a b : UnpackedFloat) :
    b.compare a = (a.compare b).map Ordering.swap := by
  rcases a with (_ | _) | _ | _ | ⟨_ | _, m, e, _⟩ <;>
    rcases b with (_ | _) | _ | _ | ⟨_ | _, n, f, _⟩ <;>
    dsimp only [UnpackedFloat.compare, Option.map_some, Option.map_none] <;>
    simp [Ordering.swap_then, Int.compare_swap, Nat.compare_swap]
  all_goals rfl

/-- What is below a number does not reach it. -/
theorem not_le_of_lt {x y : Float} (h : x < y) : ¬y ≤ x := by
  have hlt : x.toModel.unpack.lt y.toModel.unpack = true := of_decide_eq_true h
  have hcompare : x.toModel.unpack.compare y.toModel.unpack = some .lt := by
    simpa [UnpackedFloat.lt] using hlt
  intro hle
  have hle' : y.toModel.unpack.le x.toModel.unpack = true := of_decide_eq_true hle
  rw [UnpackedFloat.le, unpacked_compare_swap, hcompare] at hle'
  cases hle'

def oneMantissa : Nat :=
  0x20000000000000

/-- The division of a number by itself does not depend on the number. -/
theorem divCore_self (mantissa : Nat) (exponent : Int) (h : 0 < mantissa) :
    UnpackedFloat.divCore .binary64 mantissa exponent mantissa exponent =
      (oneMantissa, -53, .exact) := by
  have htarget : min 0 (Format.binary64.targetExponent 0) = -53 := by decide
  have hshift : mantissa <<< (0 - (-53 : Int)).toNat = oneMantissa * mantissa := by
    rw [Nat.shiftLeft_eq, Nat.mul_comm]
    rfl
  simp only [UnpackedFloat.divCore, Int.sub_self, htarget, hshift, Nat.mul_div_cancel _ h,
    Nat.mul_mod_left]
  rfl

theorem div_self_cases (a : UnpackedFloat) :
    UnpackedFloat.div .binary64 a a = .notANumber ∨
      UnpackedFloat.div .binary64 a a =
        UnpackedFloat.roundWithAccuracy .binary64 .positive oneMantissa (-53) .exact := by
  cases a with
  | notANumber => exact Or.inl rfl
  | infinity sign => exact Or.inl rfl
  | zero sign => exact Or.inl rfl
  | finite sign mantissa exponent h =>
    right
    dsimp only [UnpackedFloat.div]
    rw [divCore_self mantissa exponent h]
    cases sign <;> rfl

/-- What does not fall below the quotient of a number by itself does not fall below one. -/
theorem one_le_of_div_self_le {x y : Float} (h : x / x ≤ y) : 1 ≤ y := by
  have hquotient : (x / x).toModel =
      pack (UnpackedFloat.div .binary64 x.toModel.unpack x.toModel.unpack) := rfl
  obtain ⟨k, l, hk, hl, hkl⟩ := (le_iff (x / x) y).mp h
  rw [hquotient] at hk
  rcases div_self_cases x.toModel.unpack with hnone | hone
  · have hkey : key (pack .notANumber).unpack = none := by decide
    rw [hnone, hkey] at hk
    cases hk
  · have hkey : key (pack (UnpackedFloat.roundWithAccuracy .binary64 .positive oneMantissa (-53)
        .exact)).unpack = key (1 : Float).toModel.unpack := by decide
    rw [hone, hkey] at hk
    exact (le_iff 1 y).mpr ⟨k, l, hk, hl, hkl⟩

end Ratio

/-- What counts as few distinct values by one threshold counts as few by a greater one. -/
theorem ColumnProfile.hasLowCardinality_mono {profile : ColumnProfile} {low high : Float}
    (hle : low ≤ high) (h : profile.hasLowCardinality low = true) :
    profile.hasLowCardinality high = true := by
  unfold hasLowCardinality at h ⊢
  cases hratio : profile.cardinalityRatio with
  | none => rw [hratio] at h; cases h
  | some ratio =>
    rw [hratio] at h
    exact decide_eq_true (Ratio.le_trans (of_decide_eq_true h) hle)

/-- A column in which no value repeats does not have few distinct values. -/
theorem ColumnProfile.not_hasLowCardinality {profile : ColumnProfile} {threshold : Float}
    (hbelow : ¬1 ≤ threshold) (h : profile.allValuesDistinct = true) :
    profile.hasLowCardinality threshold = false := by
  unfold allValuesDistinct at h
  split at h
  · next distinct rows hdistinct hrows =>
    rw [Bool.and_eq_true, decide_eq_true_eq, beq_iff_eq] at h
    obtain ⟨hpos, rfl⟩ := h
    rw [hasLowCardinality, cardinalityRatio, hdistinct, hrows]
    simp only [hpos, if_true, decide_eq_false_iff_not]
    exact mt Ratio.one_le_of_div_self_le hbelow
  · cases h

end ColumnRoles
