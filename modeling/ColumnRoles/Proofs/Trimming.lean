import ColumnRoles.Column
import Mathlib.Data.List.DropRight

/-!
Trimming. A text is what is left of it after trimming, with blanks on either side, and such blanks
make no difference to trimming. Hence nothing is left to trim in what was trimmed; and a declared
type belongs to the same family whether or not it is trimmed before its parameters are cut off, as
no bracket is a blank.
-/
namespace ColumnRoles.Text

theorem toList_trim (text : String) : (trim text).toList = trimChars text.toList :=
  String.toList_ofList

/-- Blanks on either side make no difference. -/
theorem trimChars_surrounded {front behind : List Char} (text : List Char)
    (hfront : ∀ c ∈ front, isBlank c) (hbehind : ∀ c ∈ behind, isBlank c) :
    trimChars (front ++ text ++ behind) = trimChars text := by
  have hend : ∀ rest : List Char,
      ((rest ++ behind).reverse.dropWhile isBlank) = rest.reverse.dropWhile isBlank := by
    intro rest
    rw [List.reverse_append, List.dropWhile_append_of_pos]
    intro c hc
    exact hbehind c (List.mem_reverse.mp hc)
  unfold trimChars
  rw [List.append_assoc, List.dropWhile_append_of_pos hfront, List.dropWhile_append]
  split
  · next hempty =>
    have hnone : behind.dropWhile isBlank = [] := List.dropWhile_eq_nil_iff.mpr hbehind
    rw [List.isEmpty_iff.mp hempty, hnone]
  · rw [hend]

/-- A text is what trimming leaves of it, with blanks on either side. -/
theorem exists_surrounding (text : List Char) :
    ∃ front behind, (∀ c ∈ front, isBlank c) ∧ (∀ c ∈ behind, isBlank c) ∧
      text = front ++ trimChars text ++ behind := by
  refine ⟨text.takeWhile isBlank, (text.dropWhile isBlank).rtakeWhile isBlank, ?_, ?_, ?_⟩
  · intro c hc
    exact List.mem_takeWhile_imp hc
  · intro c hc
    exact List.mem_rtakeWhile_imp hc
  · have hkept : trimChars text = (text.dropWhile isBlank).rdropWhile isBlank := rfl
    rw [hkept, List.append_assoc, List.rdropWhile_append_rtakeWhile,
      List.takeWhile_append_dropWhile]

/-- Nothing is left to trim in what was trimmed. -/
theorem trim_trim (text : String) : trim (trim text) = trim text := by
  obtain ⟨front, behind, hfront, hbehind, htext⟩ := exists_surrounding text.toList
  have htwice : trimChars text.toList = trimChars (trimChars text.toList) := by
    nth_rewrite 1 [htext]
    exact trimChars_surrounded _ hfront hbehind
  rw [trim, toList_trim, ← htwice]
  rfl

/-- Nothing is left of a text of blanks. -/
theorem trim_eq_empty_of_allBlank {text : String} (h : allBlank text) : trim text = "" := by
  have hblank : ∀ c ∈ text.toList, isBlank c := List.all_eq_true.mp h
  have hnone : ∀ c ∈ ([] : List Char), isBlank c := by simp
  have hnothing := trimChars_surrounded [] hblank hnone
  rw [List.append_nil, List.append_nil] at hnothing
  rw [trim, hnothing]
  rfl

theorem allBlank_eq_false_iff {text : String} : allBlank text = false ↔ trim text ≠ "" := by
  constructor
  · intro h hempty
    obtain ⟨front, behind, hfront, hbehind, htext⟩ := exists_surrounding text.toList
    have hnothing : trimChars text.toList = [] := by
      rw [← toList_trim, hempty]
      rfl
    rw [hnothing, List.append_nil] at htext
    have hblank : allBlank text = true := by
      rw [allBlank, htext]
      exact List.all_eq_true.mpr fun c hc =>
        (List.mem_append.mp hc).elim (hfront c) (hbehind c)
    rw [hblank] at h
    cases h
  · intro hne
    by_contra hblank
    exact hne (trim_eq_empty_of_allBlank (Bool.not_eq_false _ ▸ hblank))

theorem trim_eq_self {text : String} (h : ∀ c ∈ text.toList, isBlank c = false) :
    trim text = text := by
  have hfront : text.toList.dropWhile isBlank = text.toList := by
    rw [List.dropWhile_eq_self_iff]
    intro hlength
    rw [h _ (List.getElem_mem hlength)]
    decide
  have hend : text.toList.reverse.dropWhile isBlank = text.toList.reverse := by
    rw [List.dropWhile_eq_self_iff]
    intro hlength
    have hlast := h _ (List.mem_reverse.mp (List.getElem_mem hlength))
    rw [hlast]
    decide
  rw [trim, trimChars, hfront, hend, List.reverse_reverse, String.ofList_toList]

end ColumnRoles.Text

namespace ColumnRoles.ColumnType

theorem baseName_trim (declared : String) : baseName (Text.trim declared) = baseName declared := by
  obtain ⟨front, behind, hfront, hbehind, htext⟩ := Text.exists_surrounding declared.toList
  have hbracket : ∀ c : Char, Text.isBlank c → decide (c ≠ '(') = true := by
    intro c hc
    refine decide_eq_true ?_
    rintro rfl
    exact absurd hc (by decide)
  have hsame : Text.trimChars (declared.toList.takeWhile (· ≠ '(')) =
      Text.trimChars ((Text.trimChars declared.toList).takeWhile (· ≠ '(')) := by
    nth_rewrite 1 [htext]
    rw [List.append_assoc, List.takeWhile_append_of_pos fun c hc => hbracket c (hfront c hc)]
    by_cases hall : ∀ c ∈ Text.trimChars declared.toList, decide (c ≠ '(') = true
    · rw [List.takeWhile_append_of_pos hall, List.takeWhile_eq_self_iff.mpr hall,
        List.takeWhile_eq_self_iff.mpr fun c hc => hbracket c (hbehind c hc), ← List.append_assoc]
      exact Text.trimChars_surrounded _ hfront hbehind
    · -- the parameters begin within what trimming leaves
      have hnone : ∀ c ∈ ([] : List Char), Text.isBlank c := by simp
      have hcut := Text.trimChars_surrounded
        ((Text.trimChars declared.toList).takeWhile (· ≠ '(')) hfront hnone
      have hshort : ((Text.trimChars declared.toList).takeWhile (· ≠ '(')).length ≠
          (Text.trimChars declared.toList).length := by
        intro hlength
        have hwhole := (List.takeWhile_prefix _).eq_of_length hlength
        exact hall (List.takeWhile_eq_self_iff.mp hwhole)
      rw [List.append_nil] at hcut
      rw [List.takeWhile_append, if_neg hshort]
      exact hcut
  unfold baseName
  rw [Text.toList_trim, Text.trim, Text.trim, String.toList_ofList, String.toList_ofList, hsame]

/-- Blanks around a declared type do not matter. -/
theorem ofDeclared_trim (declared : String) :
    ofDeclared (Text.trim declared) = ofDeclared declared := by
  rw [ofDeclared, baseName_trim]
  rfl

end ColumnRoles.ColumnType
