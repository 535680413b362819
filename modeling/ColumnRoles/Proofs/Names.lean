import ColumnRoles.Rule.Naming
import ColumnRoles.Proofs.Matching

/-!
What names say, in terms of their last characters. No character but the letter itself, large or
small, has a lower-case form that ends in a small `i` or `d`, so a text whose lower-case form ends
with `id` ends with these two letters itself. Primary identifiers therefore have the names of
identifiers. The usual names of time columns end in other letters.
-/
namespace ColumnRoles

namespace Text

theorem ofNat_toNat_cases (n : Nat) : (Char.ofNat n).toNat = n ∨ (Char.ofNat n).toNat = 0 := by
  unfold Char.ofNat
  by_cases h : n.isValidChar
  · rw [dif_pos h]
    exact Or.inl rfl
  · rw [dif_neg h]
    exact Or.inr rfl

/-- Runs that lead above a limit take nothing to a character up to the limit. -/
theorem eq_of_mapByRuns {runs : List CodeRun} {limit : Nat} {c d : Char}
    (hruns : ∀ run ∈ runs, limit < run.target) (hd : 0 < d.toNat) (hlimit : d.toNat ≤ limit)
    (h : mapByRuns runs c = d) : c = d := by
  unfold mapByRuns at h
  split at h
  · next run hrun =>
    have htarget := hruns run (List.mem_of_find?_eq_some hrun)
    have himage : (Char.ofNat (run.image c.toNat)).toNat = d.toNat := congrArg Char.toNat h
    have htaken := ofNat_toNat_cases (run.image c.toNat)
    have hbelow : run.target ≤ run.image c.toNat := Nat.le_add_left _ _
    omega
  · exact h

theorem lowerRuns_target : ∀ run ∈ lowerRuns, 'i'.toNat < run.target := by
  decide +kernel

theorem eq_of_suffix_singleton {l c : Char} (h : [l] <:+ [c]) : l = c :=
  List.head_eq_of_cons_eq (h.eq_of_length rfl)

def lowerBetween (before : List Char) (c : Char) (after : List Char) : List Char :=
  if c = 'Σ' then [lowerSigma before after] else lowerChar c

theorem lowerAfter_cons (before : List Char) (c : Char) (rest : List Char) :
    lowerAfter before (c :: rest) = lowerBetween before c rest ++ lowerAfter (c :: before) rest :=
  rfl

theorem length_lowerBetween (before : List Char) (c : Char) (after : List Char) :
    1 ≤ (lowerBetween before c after).length := by
  unfold lowerBetween lowerChar
  split
  · simp
  · split
    · simp
    · split <;> simp

theorem length_le_lowerAfter (before text : List Char) :
    text.length ≤ (lowerAfter before text).length := by
  induction text generalizing before with
  | nil => exact Nat.le_refl _
  | cons c rest ih =>
    rw [lowerAfter_cons, List.length_append, List.length_cons]
    have hfirst := length_lowerBetween before c rest
    have hrest := ih (c :: before)
    omega

theorem toLower_eq_cases {c l : Char} (hl : l = 'i' ∨ l = 'd') (h : c.toLower = l) :
    c = l ∨ c = l.toUpper := by
  unfold Char.toLower at h
  split at h
  · have hval : c.val + 32 = l.val := congrArg Char.val h
    have hcode : c.val = l.val - 32 := by rw [← hval, UInt32.add_sub_cancel]
    right
    apply Char.ext
    rw [hcode]
    rcases hl with rfl | rfl <;> rfl
  · exact Or.inl h

/-- A small `i` or `d` at the end of a lower-case form comes from that letter. -/
theorem letter_of_suffix {before after : List Char} {c l : Char} (hl : l = 'i' ∨ l = 'd')
    (h : [l] <:+ lowerBetween before c after) :
    lowerBetween before c after = [l] ∧ (c = l ∨ c = l.toUpper) := by
  unfold lowerBetween lowerChar at h ⊢
  split at h
  · have hsigma := eq_of_suffix_singleton h
    unfold lowerSigma at hsigma
    split at hsigma <;> rcases hl with rfl | rfl <;> exact absurd hsigma (by decide)
  · next hnot =>
    rw [if_neg hnot]
    split at h
    · next hc =>
      have hlower := eq_of_suffix_singleton h
      rw [if_pos hc, hlower]
      exact ⟨rfl, hlower ▸ toLower_eq_cases hl hlower.symm⟩
    · next hc =>
      rw [if_neg hc]
      split at h
      · -- the dot that is left of the dotted capital stands behind the letter
        have hdot : l = '\u0307' := eq_of_suffix_singleton
          (List.suffix_of_suffix_length_le h (List.suffix_cons 'i' ['\u0307']) (Nat.le_refl _))
        rcases hl with rfl | rfl <;> exact absurd hdot (by decide)
      · have hmap := eq_of_suffix_singleton h
        have hself : c = l := by
          refine eq_of_mapByRuns lowerRuns_target ?_ ?_ hmap.symm <;>
            rcases hl with rfl | rfl <;> decide
        rcases hl with rfl | rfl <;> subst hself <;> exact absurd (by decide) hc

/-- The text ends with `id`, the letters in whatever case. -/
def EndsWithId (text : List Char) : Prop :=
  ∃ init i d, text = init ++ [i, d] ∧ (i = 'i' ∨ i = 'I') ∧ (d = 'd' ∨ d = 'D')

theorem EndsWithId.cons {text : List Char} (h : EndsWithId text) (c : Char) :
    EndsWithId (c :: text) := by
  obtain ⟨init, i, d, rfl, hletters⟩ := h
  exact ⟨c :: init, i, d, rfl, hletters⟩

/-- A text whose lower-case form ends with `id` ends with these letters itself. -/
theorem endsWithId_of_lowerAfter {before text : List Char}
    (h : ['i', 'd'] <:+ lowerAfter before text) : EndsWithId text := by
  -- every character has a form of its own, so two characters from the end are all that matters
  induction text generalizing before with
  | nil => exact absurd (List.suffix_nil.mp h) (by decide)
  | cons first rest ih =>
    rw [lowerAfter_cons] at h
    have hlength := length_le_lowerAfter (first :: before) rest
    match rest, hlength with
    | [], _ =>
      rw [lowerAfter, List.append_nil] at h
      have hlast : ['d'] <:+ lowerBetween before first [] :=
        (List.suffix_cons 'i' ['d']).trans h
      rw [(letter_of_suffix (Or.inr rfl) hlast).1] at h
      exact absurd h.length_le (by decide)
    | [second], _ =>
      have hform := length_lowerBetween (first :: before) second []
      rw [lowerAfter_cons, lowerAfter, List.append_nil] at h
      have hlast : ['d'] <:+ lowerBetween (first :: before) second [] :=
        List.suffix_of_suffix_length_le ((List.suffix_cons 'i' ['d']).trans h)
          (List.suffix_append _ _) hform
      obtain ⟨heq, hsecond⟩ := letter_of_suffix (Or.inr rfl) hlast
      rw [heq] at h
      have hi : ['i'] <:+ lowerBetween before first [second] := by
        obtain ⟨init, hinit⟩ := h
        have hends : init ++ ['i'] ++ ['d'] = lowerBetween before first [second] ++ ['d'] := by
          rw [← hinit, List.append_assoc]
          rfl
        exact ⟨init, List.append_cancel_right hends⟩
      exact ⟨[], first, second, rfl, (letter_of_suffix (Or.inl rfl) hi).2, hsecond⟩
    | second :: third :: more, hlength =>
      have htwo : ['i', 'd'].length ≤
          (lowerAfter (first :: before) (second :: third :: more)).length := by
        simp only [List.length_cons, List.length_nil] at hlength ⊢
        omega
      exact (ih (List.suffix_of_suffix_length_le h (List.suffix_append _ _) htwo)).cons first

end Text

namespace Naming

open Text

theorem inAnyCase_i : Pattern.inAnyCase 'i' = .one [(73, 73), (105, 105)] := by
  decide +kernel

theorem inAnyCase_d : Pattern.inAnyCase 'd' = .one [(68, 68), (100, 100)] := by
  decide +kernel

theorem inRanges_pair {upper lower : Nat} {c : Char} :
    inRanges [(upper, upper), (lower, lower)] c = true ↔ c.toNat = lower ∨ c.toNat = upper := by
  simp only [inRanges, CodeRange.covers, List.any_cons, List.any_nil, Bool.or_false,
    Bool.or_eq_true, Bool.and_eq_true, decide_eq_true_eq]
  omega

/-- Identifiers are the names that end with `id`, in any case. -/
theorem isIdentifier_iff (ref : ColumnRef) :
    isIdentifier ref = true ↔ EndsWithId ref.column.toList := by
  unfold isIdentifier
  rw [Pattern.matchesText_iff]
  unfold identifierPattern
  simp only [Pattern.reach_sequence, inAnyCase_i, inAnyCase_d, Pattern.reachAll, List.foldl_cons,
    List.foldl_nil, Pattern.reach, Marks.at_both, Marks.at_textEnd, Marks.at_advance, Marks.at_all,
    inRanges_pair]
  generalize ref.column.toList = text
  constructor
  · rintro ⟨k, ⟨j, d, hk, ⟨m, i, hj, _, hi, hicode⟩, hd, hdcode⟩, hlength⟩
    subst hj
    obtain ⟨him, rfl⟩ := List.getElem?_eq_some_iff.mp hi
    obtain ⟨hdm, rfl⟩ := List.getElem?_eq_some_iff.mp hd
    refine ⟨text.take m, text[m], text[m + 1], ?_, ?_, ?_⟩
    · have htail : text.drop m = [text[m], text[m + 1]] := by
        rw [List.drop_eq_getElem_cons him, List.drop_eq_getElem_cons hdm,
          List.drop_eq_nil_of_le (by omega)]
      rw [← htail, List.take_append_drop]
    · exact hicode.imp Char.toNat_inj.mp Char.toNat_inj.mp
    · exact hdcode.imp Char.toNat_inj.mp Char.toNat_inj.mp
  · rintro ⟨init, i, d, rfl, hi, hd⟩
    refine ⟨init.length + 2, ⟨init.length + 1, d, rfl, ⟨init.length, i, rfl, ?_, ?_, ?_⟩, ?_, ?_⟩,
      ?_⟩
    · simp
    · simp
    · rcases hi with rfl | rfl <;> decide
    · simp
    · rcases hd with rfl | rfl <;> decide
    · simp

theorem suffix_of_isIdentifierOf {table column : List Char}
    (h : isIdentifierOf table column = true) : ['i', 'd'] <:+ column := by
  simp only [isIdentifierOf, Bool.and_eq_true, Bool.or_eq_true, beq_iff_eq] at h
  rcases h.2 with rfl | rfl
  · exact ⟨table ++ ['_'], by simp⟩
  · exact List.suffix_append _ _

/-- The name of a primary identifier is the name of an identifier. -/
theorem isIdentifier_of_isPrimaryIdentifier {ref : ColumnRef}
    (h : isPrimaryIdentifier ref = true) : isIdentifier ref = true := by
  have hlower : ['i', 'd'] <:+ lowerAfter [] ref.column.toList := by
    simp only [isPrimaryIdentifier, Bool.or_eq_true, beq_iff_eq] at h
    rcases h with (hplain | hwritten) | hsingular
    · exact hplain ▸ List.suffix_refl _
    · exact suffix_of_isIdentifierOf hwritten
    · exact suffix_of_isIdentifierOf hsingular
  exact (isIdentifier_iff ref).mpr (endsWithId_of_lowerAfter hlower)

def timeNameEnds : List CodeRange :=
  [(69, 69), (83, 84), (101, 101), (115, 116), (383, 383)]

theorem usualTime_endsIn : NamePattern.usualTimePattern.endsIn timeNameEnds = true := by
  decide +kernel

theorem usualTime_closes : NamePattern.usualTimePattern.closes = true := by
  decide +kernel

/-- No identifier has a usual name of a time column. -/
theorem not_usualTime_of_isIdentifier {ref : ColumnRef} (h : isIdentifier ref = true) :
    NamePattern.usualTime.accepts ref = false := by
  refine Bool.eq_false_iff.mpr fun htime => ?_
  rw [NamePattern.accepts_usualTime] at htime
  obtain ⟨c, hlast, hends⟩ := Pattern.getLast?_of_matches usualTime_endsIn usualTime_closes htime
  obtain ⟨init, i, d, htext, _, hd⟩ := (isIdentifier_iff ref).mp h
  obtain rfl : d = c := by simpa [htext] using hlast
  rcases hd with rfl | rfl <;> exact absurd hends (by decide)

end Naming

end ColumnRoles
