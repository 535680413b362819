/-!
Decimal digits. A digit is that of a number below ten, so what holds of these ten holds of every
digit; and the digits of a number stand for this number.
-/
namespace ColumnRoles.Text

/-- A digit is the digit of a number below ten. -/
theorem exists_digitChar {c : Char} (h : c.isDigit) : ∃ d < 10, c = Nat.digitChar d := by
  simp only [Char.isDigit, Bool.and_eq_true, decide_eq_true_eq] at h
  have hlow : 48 ≤ c.toNat := h.1
  have hhigh : c.toNat ≤ 57 := h.2
  have hsmall : c.toNat - 48 < 10 := by omega
  have hcode := Nat.toNat_digitChar_of_lt_ten hsmall
  refine ⟨c.toNat - 48, hsmall, Char.toNat_inj.mp ?_⟩
  omega

/-- What holds of the ten digits holds of every digit of a number. -/
theorem forall_mem_toDigits {p : Char → Prop} (h : ∀ d < 10, p (Nat.digitChar d)) (n : Nat) :
    ∀ c ∈ Nat.toDigits 10 n, p c := by
  intro c hc
  have hdigit : c.isDigit := Nat.isDigit_of_mem_toDigits (by decide) (by decide) hc
  obtain ⟨d, hd, rfl⟩ := exists_digitChar hdigit
  exact h d hd

/-- The digits of a number stand for it. -/
theorem foldl_toDigits (n : Nat) :
    ((Nat.toDigits 10 n).map fun c => c.toNat - '0'.toNat).foldl (fun n d => 10 * n + d) 0 = n := by
  rw [List.foldl_map]
  exact Nat.ofDigitChars_ten_toDigits

end ColumnRoles.Text
