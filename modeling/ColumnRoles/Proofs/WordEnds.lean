import ColumnRoles.Proofs.Names
import Mathlib.Data.List.Forall2

/-!
Lower-case forms of texts that are put together. Each character has a form of its own, but for the
capital sigma, whose form depends on whether it ends a word. So the form of a text does not depend
on what stands behind it, unless the text ends in such a sigma and what follows goes on with the
word. Signs that may stand inside a word do not count on either side.
-/
namespace ColumnRoles.Text

theorem startsCased_cons (c : Char) (rest : List Char) :
    startsCased (c :: rest) = if isCaseIgnorable c then startsCased rest else isCased c := by
  unfold startsCased
  by_cases hc : isCaseIgnorable c = true
  · rw [List.dropWhile_cons_of_pos hc, if_pos hc]
  · rw [List.dropWhile_cons_of_neg hc, if_neg hc]

/-- A text goes on with what stands behind it only where nothing of its own counts. -/
theorem startsCased_append (text after : List Char) :
    startsCased (text ++ after) =
      if text.all isCaseIgnorable then startsCased after else startsCased text := by
  induction text with
  | nil => simp
  | cons c rest ih =>
    rw [List.cons_append, startsCased_cons, startsCased_cons, ih]
    by_cases hc : isCaseIgnorable c = true <;> simp [hc]

theorem startsCased_of_ignorable {text : List Char} (h : ∀ c ∈ text, isCaseIgnorable c = true) :
    startsCased text = false := by
  have hends := startsCased_append text []
  rw [List.append_nil, if_pos (List.all_eq_true.mpr h)] at hends
  exact hends

/-- The lower-case form of a text between what stands before it, read backwards, and what stands
behind it. -/
def lowerWithin (before after : List Char) : List Char → List Char
  | [] => []
  | c :: rest => lowerBetween before c (rest ++ after) ++ lowerWithin (c :: before) after rest

theorem lowerAfter_append (before text after : List Char) :
    lowerAfter before (text ++ after) =
      lowerWithin before after text ++ lowerAfter (text.reverse ++ before) after := by
  induction text generalizing before with
  | nil => rfl
  | cons c rest ih =>
    rw [List.cons_append, lowerAfter_cons, ih, lowerWithin, List.reverse_cons, List.append_assoc,
      List.append_assoc]
    rfl

theorem lowerAfter_eq (before text : List Char) :
    lowerAfter before text = lowerWithin before [] text := by
  have happend := lowerAfter_append before text []
  rwa [List.append_nil, lowerAfter, List.append_nil] at happend

theorem lowerChars_append (text after : List Char) :
    lowerChars (text ++ after) = lowerWithin [] after text ++ lowerAfter text.reverse after := by
  rw [lowerChars, lowerAfter_append, List.append_nil]

/-- All that matters of what stands behind a text is whether it goes on with a word. -/
theorem lowerWithin_congr {after other : List Char} (h : startsCased after = startsCased other)
    (before text : List Char) : lowerWithin before after text = lowerWithin before other text := by
  induction text generalizing before with
  | nil => rfl
  | cons c rest ih =>
    have hfollow : startsCased (rest ++ after) = startsCased (rest ++ other) := by
      rw [startsCased_append, startsCased_append, h]
    rw [lowerWithin, lowerWithin, ih, lowerBetween, lowerBetween, lowerSigma, lowerSigma, hfollow]

def SameLetter (a b : Char) : Prop :=
  a = b ∨ a ∈ ['σ', 'ς'] ∧ b ∈ ['σ', 'ς']

instance (a b : Char) : Decidable (SameLetter a b) :=
  inferInstanceAs (Decidable (a = b ∨ a ∈ ['σ', 'ς'] ∧ b ∈ ['σ', 'ς']))

theorem lowerSigma_mem (before after : List Char) : lowerSigma before after ∈ ['σ', 'ς'] := by
  unfold lowerSigma
  split <;> decide

theorem lowerBetween_sameLetter (before : List Char) (c : Char) (after other : List Char) :
    List.Forall₂ SameLetter (lowerBetween before c after) (lowerBetween before c other) := by
  unfold lowerBetween
  split
  · exact .cons (Or.inr ⟨lowerSigma_mem _ _, lowerSigma_mem _ _⟩) .nil
  · exact List.forall₂_same.mpr fun _ _ => Or.inl rfl

/-- What stands behind a text makes a difference to its sigmas only. -/
theorem lowerWithin_sameLetter (before after other text : List Char) :
    List.Forall₂ SameLetter (lowerWithin before after text) (lowerWithin before other text) := by
  induction text generalizing before with
  | nil => exact .nil
  | cons c rest ih => exact List.rel_append (lowerBetween_sameLetter _ _ _ _) (ih _)

/-- The text, behind `before` read backwards, ends in a capital sigma at the end of a word, apart
from signs that may stand inside a word. -/
def FinalSigmaAfter (before text : List Char) : Prop :=
  ∃ init tail, text = init ++ 'Σ' :: tail ∧ startsCased (init.reverse ++ before) = true ∧
    ∀ c ∈ tail, isCaseIgnorable c = true

def EndsInFinalSigma (text : List Char) : Prop :=
  FinalSigmaAfter [] text

theorem not_finalSigmaAfter_nil (before : List Char) : ¬FinalSigmaAfter before [] := by
  rintro ⟨init, tail, h, _⟩
  simp at h

theorem finalSigmaAfter_cons {before : List Char} {c : Char} {rest : List Char} :
    FinalSigmaAfter before (c :: rest) ↔
      (c = 'Σ' ∧ startsCased before = true ∧ ∀ d ∈ rest, isCaseIgnorable d = true) ∨
        FinalSigmaAfter (c :: before) rest := by
  constructor
  · rintro ⟨init, tail, htext, hbefore, htail⟩
    cases init with
    | nil =>
      obtain ⟨rfl, rfl⟩ := List.cons.inj htext
      exact Or.inl ⟨rfl, hbefore, htail⟩
    | cons first init =>
      obtain ⟨rfl, rfl⟩ := List.cons.inj htext
      exact Or.inr ⟨init, tail, rfl, by simpa using hbefore, htail⟩
  · rintro (⟨rfl, hbefore, hrest⟩ | ⟨init, tail, rfl, hbefore, htail⟩)
    · exact ⟨[], rest, rfl, hbefore, hrest⟩
    · exact ⟨c :: init, tail, rfl, by simpa using hbefore, htail⟩

/-- A word that goes on changes the form of a capital sigma that would have ended it. -/
theorem lowerBetween_append_eq_iff {before after : List Char} {c : Char} {rest : List Char}
    (hafter : startsCased after = true) :
    lowerBetween before c (rest ++ after) = lowerBetween before c rest ↔
      ¬(c = 'Σ' ∧ startsCased before = true ∧ ∀ d ∈ rest, isCaseIgnorable d = true) := by
  unfold lowerBetween lowerSigma
  by_cases hc : c = 'Σ'
  · by_cases hrest : ∀ d ∈ rest, isCaseIgnorable d = true
    · rw [startsCased_append, if_pos (List.all_eq_true.mpr hrest), hafter,
        startsCased_of_ignorable hrest]
      by_cases hbefore : startsCased before = true
      · simpa [hc, hbefore] using hrest
      · simp [hbefore]
    · rw [startsCased_append, if_neg (mt List.all_eq_true.mp hrest)]
      simp [hrest]
  · simp [hc]

/-- The form of a text stays as it is when a word follows, unless the text ends in a final sigma. -/
theorem lowerWithin_eq_iff {before after text : List Char} (hafter : startsCased after = true) :
    lowerWithin before after text = lowerWithin before [] text ↔ ¬FinalSigmaAfter before text := by
  induction text generalizing before with
  | nil => exact iff_of_true rfl (not_finalSigmaAfter_nil before)
  | cons c rest ih =>
    have hlength := (lowerBetween_sameLetter before c (rest ++ after) rest).length_eq
    rw [lowerWithin, lowerWithin, List.append_nil, finalSigmaAfter_cons, not_or, ← ih,
      ← lowerBetween_append_eq_iff hafter]
    constructor
    · exact fun h => List.append_inj h hlength
    · rintro ⟨hfirst, hrest⟩
      rw [hfirst, hrest]

end ColumnRoles.Text
