import ColumnRoles.Proofs.Strongest
import ColumnRoles.Proofs.WordEnds

/-!
How tables name their identifiers. The name of a table with `_id` or `id` behind it is recognised as
that of its primary identifier, and so is its singular with one of them, by comparing lower-case
forms. The form of a capital sigma depends on what follows it, so a name that ends in a final sigma
is not recognised where a letter takes its place behind it. Whatever is recognised ends with `id`,
so that a rule for identifiers never misses a column that a rule for primary identifiers finds.
-/
namespace ColumnRoles

namespace Naming

open Text

/-- The column is called `name` with `_id` or `id` behind it. -/
def NamedAfter (name column : List Char) : Prop :=
  name ≠ [] ∧ (column = name ++ ['_', 'i', 'd'] ∨ column = name ++ ['i', 'd'])

theorem isIdentifierOf_iff {name column : List Char} :
    isIdentifierOf name column = true ↔ NamedAfter name column := by
  simp [isIdentifierOf, NamedAfter]

theorem isPrimaryIdentifier_iff (ref : ColumnRef) :
    isPrimaryIdentifier ref = true ↔
      lowerChars ref.column.toList = ['i', 'd'] ∨
        NamedAfter (lowerChars ref.table.toList) (lowerChars ref.column.toList) ∨
        NamedAfter (singular (lowerChars ref.table.toList)) (lowerChars ref.column.toList) := by
  simp [isPrimaryIdentifier, isIdentifierOf_iff, or_assoc]

theorem singular_concat (text : List Char) : singular (text ++ ['s']) = text := by
  simp [singular]

theorem singular_cases (text : List Char) : singular text = text ∨ text = singular text ++ ['s'] := by
  rcases List.eq_nil_or_concat text with rfl | ⟨init, last, rfl⟩
  · exact Or.inl rfl
  · by_cases hlast : last = 's'
    · subst hlast
      exact Or.inr (by rw [List.concat_eq_append, singular_concat])
    · left
      unfold singular
      split
      · next h => exact absurd (by simpa using h) hlast
      · rfl

/-- Forms that differ in sigmas only have the same last letter, but for a sigma. -/
theorem sameLetter_of_concat {left right : List Char} {a b : Char}
    (h : List.Forall₂ SameLetter (left ++ [a]) (right ++ [b])) : SameLetter a b := by
  have hreverse := List.forall₂_reverse_iff.mpr h
  rw [List.reverse_append, List.reverse_append] at hreverse
  exact (List.forall₂_cons.mp hreverse).1

section Forms

variable {name form : List Char}

theorem namedAfter_underscored (hname : name ≠ []) :
    NamedAfter name (form ++ ['_', 'i', 'd']) ↔ form = name ∨ form ++ ['_'] = name := by
  have hsplit : form ++ ['_', 'i', 'd'] = (form ++ ['_']) ++ ['i', 'd'] := by simp
  rw [NamedAfter, and_iff_right hname, List.append_left_inj, hsplit, List.append_left_inj]

theorem namedAfter_plain (hname : name ≠ []) :
    NamedAfter name (form ++ ['i', 'd']) ↔ form = name ++ ['_'] ∨ form = name := by
  have hsplit : name ++ ['_', 'i', 'd'] = (name ++ ['_']) ++ ['i', 'd'] := by simp
  rw [NamedAfter, and_iff_right hname, List.append_left_inj, hsplit, List.append_left_inj]

/-- Between forms of one length the underscore cannot be taken for a part of the name. -/
theorem namedAfter_underscored_of_length (hname : name ≠ []) (hlength : form.length = name.length) :
    NamedAfter name (form ++ ['_', 'i', 'd']) ↔ form = name := by
  rw [namedAfter_underscored hname]
  refine or_iff_left fun heq => ?_
  rw [← heq] at hlength
  simp at hlength

theorem namedAfter_plain_of_length (hname : name ≠ []) (hlength : form.length = name.length) :
    NamedAfter name (form ++ ['i', 'd']) ↔ form = name := by
  rw [namedAfter_plain hname]
  refine or_iff_right fun heq => ?_
  rw [heq] at hlength
  simp at hlength

/-- A form that differs from the name in sigmas only is not named after the singular instead. -/
theorem eq_of_namedAfter_singular (hsame : List.Forall₂ SameLetter form name)
    (h : NamedAfter (singular name) (form ++ ['i', 'd'])) : form = name := by
  have hlength := hsame.length_eq
  rcases singular_cases name with heq | heq
  · rw [heq] at h
    exact (namedAfter_plain_of_length h.1 hlength).mp h
  · -- the form is as long as the name, so it would have an underscore for its plural sign
    rcases (namedAfter_plain h.1).mp h with hunderscored | hshort
    · rw [hunderscored, heq, singular_concat] at hsame
      exact absurd (sameLetter_of_concat hsame) (by decide)
    · rw [hshort, heq, singular_concat] at hlength
      simp at hlength

end Forms

/-- What follows the name of a table goes on with a word, but for the underscore. -/
theorem startsCased_endings :
    startsCased ['_', 'i', 'd'] = false ∧ startsCased ['i', 'd'] = true ∧
      startsCased ['s'] = true ∧ startsCased ['S'] = true := by
  decide +kernel

section Lowered

variable (text : List Char)

theorem lowerChars_underscored :
    lowerChars (text ++ ['_', 'i', 'd']) = lowerChars text ++ ['_', 'i', 'd'] := by
  have hends : startsCased ['_', 'i', 'd'] = startsCased [] := startsCased_endings.1
  rw [lowerChars_append, lowerWithin_congr hends, ← lowerAfter_eq]
  rfl

theorem lowerChars_plain :
    lowerChars (text ++ ['i', 'd']) = lowerWithin [] ['i', 'd'] text ++ ['i', 'd'] := by
  rw [lowerChars_append]
  rfl

/-- The plural sign carries the word on, as `id` does. -/
theorem lowerChars_plural {letter : Char} (h : letter ∈ ['s', 'S']) :
    lowerChars (text ++ [letter]) = lowerWithin [] ['i', 'd'] text ++ ['s'] := by
  obtain ⟨-, hid, hsmall, hcapital⟩ := startsCased_endings
  have hcased : startsCased [letter] = startsCased ['i', 'd'] := by
    rcases List.mem_pair.mp h with rfl | rfl
    · rw [hsmall, hid]
    · rw [hcapital, hid]
  have hlower : lowerAfter text.reverse [letter] = ['s'] := by
    rcases List.mem_pair.mp h with rfl | rfl <;> rfl
  rw [lowerChars_append, lowerWithin_congr hcased, hlower]

theorem lowerWithin_id_eq_iff :
    lowerWithin [] ['i', 'd'] text = lowerChars text ↔ ¬EndsInFinalSigma text := by
  rw [lowerChars, lowerAfter_eq]
  exact lowerWithin_eq_iff startsCased_endings.2.1

theorem lowerWithin_id_sameLetter :
    List.Forall₂ SameLetter (lowerWithin [] ['i', 'd'] text) (lowerChars text) := by
  rw [lowerChars, lowerAfter_eq]
  exact lowerWithin_sameLetter _ _ _ _

variable {text} (hne : text ≠ [])
include hne

theorem lowerChars_ne_nil : lowerChars text ≠ [] := by
  intro hnil
  have hlength := length_le_lowerAfter [] text
  rw [← lowerChars, hnil] at hlength
  exact hne (List.length_eq_zero_iff.mp (Nat.le_zero.mp hlength))

theorem lowerWithin_id_ne_nil : lowerWithin [] ['i', 'd'] text ≠ [] := by
  intro hnil
  have hsame := lowerWithin_id_sameLetter text
  rw [hnil] at hsame
  exact lowerChars_ne_nil hne (List.forall₂_nil_left_iff.mp hsame)

end Lowered

section Conventions

variable {table stem : String}

theorem toList_ne_nil {text : String} (h : text ≠ "") : text.toList ≠ [] :=
  mt String.toList_eq_nil_iff.mp h

/-- Nothing changes in the form of a name before `_id`. -/
theorem isPrimaryIdentifier_underscored (h : table ≠ "") :
    isPrimaryIdentifier ⟨table, table ++ "_id"⟩ = true := by
  have hname := lowerChars_ne_nil (toList_ne_nil h)
  rw [isPrimaryIdentifier_iff, String.toList_append]
  right
  left
  exact ⟨hname, Or.inl (lowerChars_underscored _)⟩

/-- Before `id` the form of a name changes where it ends in a final sigma, and no other way to name
an identifier makes up for that. -/
theorem isPrimaryIdentifier_plain_iff (h : table ≠ "") :
    isPrimaryIdentifier ⟨table, table ++ "id"⟩ = true ↔ ¬EndsInFinalSigma table.toList := by
  have hname := lowerChars_ne_nil (toList_ne_nil h)
  have hform := lowerWithin_id_ne_nil (toList_ne_nil h)
  have hsame := lowerWithin_id_sameLetter table.toList
  have hlower : lowerChars (table ++ "id").toList =
      lowerWithin [] ['i', 'd'] table.toList ++ ['i', 'd'] := by
    rw [String.toList_append]
    exact lowerChars_plain _
  rw [isPrimaryIdentifier_iff, hlower, ← lowerWithin_id_eq_iff]
  generalize lowerWithin [] ['i', 'd'] table.toList = form at hform hsame
  generalize lowerChars table.toList = name at hname hsame
  have hwritten := namedAfter_plain_of_length hname hsame.length_eq
  constructor
  · rintro (hbare | hnamed | hnamed)
    · simp [hform] at hbare
    · exact hwritten.mp hnamed
    · exact eq_of_namedAfter_singular hsame hnamed
  · intro heq
    exact Or.inr (Or.inl (hwritten.mpr heq))

variable {plural : String} (hplural : plural ∈ ["s", "S"])
include hplural

theorem lowerChars_table (stem : String) : lowerChars (stem ++ plural).toList =
    lowerWithin [] ['i', 'd'] stem.toList ++ ['s'] := by
  rw [String.toList_append]
  rcases List.mem_pair.mp hplural with rfl | rfl
  · exact lowerChars_plural _ (by decide)
  · exact lowerChars_plural _ (by decide)

/-- The plural sign changes the form of a singular that ends in a final sigma, and `_id` does not. -/
theorem isPrimaryIdentifier_singular_underscored_iff (h : stem ≠ "") :
    isPrimaryIdentifier ⟨stem ++ plural, stem ++ "_id"⟩ = true ↔
      ¬EndsInFinalSigma stem.toList := by
  have hform := lowerWithin_id_ne_nil (toList_ne_nil h)
  have hlength := (lowerWithin_id_sameLetter stem.toList).length_eq
  have hlower : lowerChars (stem ++ "_id").toList = lowerChars stem.toList ++ ['_', 'i', 'd'] := by
    rw [String.toList_append]
    exact lowerChars_underscored _
  rw [isPrimaryIdentifier_iff, hlower, lowerChars_table hplural, singular_concat,
    ← lowerWithin_id_eq_iff]
  generalize lowerWithin [] ['i', 'd'] stem.toList = form at hform hlength
  generalize lowerChars stem.toList = name at hlength
  have hsingular : NamedAfter form (name ++ ['_', 'i', 'd']) ↔ form = name :=
    (namedAfter_underscored_of_length hform hlength.symm).trans eq_comm
  have hplain : ¬NamedAfter (form ++ ['s']) (name ++ ['_', 'i', 'd']) := by
    rw [namedAfter_underscored (List.append_ne_nil_of_right_ne_nil form (List.cons_ne_nil _ _))]
    rintro (heq | heq)
    · simp [heq] at hlength
    · exact absurd (List.append_inj' heq rfl).2 (by decide)
  have hlonger : ¬name ++ ['_', 'i', 'd'] = ['i', 'd'] := fun heq => by
    simpa using congrArg List.length heq
  rw [or_iff_right hlonger, or_iff_right hplain, hsingular]

theorem isPrimaryIdentifier_singular_plain (h : stem ≠ "") :
    isPrimaryIdentifier ⟨stem ++ plural, stem ++ "id"⟩ = true := by
  have hform := lowerWithin_id_ne_nil (toList_ne_nil h)
  rw [isPrimaryIdentifier_iff, lowerChars_table hplural, singular_concat, String.toList_append]
  right
  right
  exact ⟨hform, Or.inr (lowerChars_plain _)⟩

end Conventions

/-- The primary identifier of a table is recognised by the name of the table, but for a final sigma
that loses its place at the end of a word. The name with `_id` behind it always is in the table of
that name, and the name with `id` in the table of its plural. With `id` in its own table, and with
`_id` in that of its plural, the name is recognised unless it ends in a capital sigma that ends a
word. -/
theorem table_name_recognised_iff (name : String) (h : name ≠ "") :
    isPrimaryIdentifier ⟨name, name ++ "_id"⟩ = true ∧
    (isPrimaryIdentifier ⟨name, name ++ "id"⟩ = true ↔ ¬EndsInFinalSigma name.toList) ∧
    ∀ plural ∈ ["s", "S"],
      (isPrimaryIdentifier ⟨name ++ plural, name ++ "_id"⟩ = true ↔
        ¬EndsInFinalSigma name.toList) ∧
      isPrimaryIdentifier ⟨name ++ plural, name ++ "id"⟩ = true := by
  refine ⟨isPrimaryIdentifier_underscored h, isPrimaryIdentifier_plain_iff h, ?_⟩
  intro plural hplural
  exact ⟨isPrimaryIdentifier_singular_underscored_iff hplural h,
    isPrimaryIdentifier_singular_plain hplural h⟩

/-- The last letter of this name has its final form, unless another letter follows. -/
theorem endsInFinalSigma_odos : EndsInFinalSigma "ΟΔΟΣ".toList :=
  ⟨['Ο', 'Δ', 'Ο'], [], rfl, by decide +kernel, by simp⟩

theorem table_name_recognised_iff_final_sigma :
    "ΟΔΟΣ" ≠ "" ∧ EndsInFinalSigma "ΟΔΟΣ".toList ∧
      isPrimaryIdentifier ⟨"ΟΔΟΣ", "ΟΔΟΣ" ++ "_id"⟩ = true ∧
      isPrimaryIdentifier ⟨"ΟΔΟΣ", "ΟΔΟΣ" ++ "id"⟩ = false ∧
      "S" ∈ ["s", "S"] ∧ isPrimaryIdentifier ⟨"ΟΔΟΣ" ++ "S", "ΟΔΟΣ" ++ "_id"⟩ = false ∧
      isPrimaryIdentifier ⟨"ΟΔΟΣ" ++ "S", "ΟΔΟΣ" ++ "id"⟩ = true := by
  have hne : "ΟΔΟΣ" ≠ "" := by decide
  have hplural : "S" ∈ ["s", "S"] := by decide
  have hends := endsInFinalSigma_odos
  obtain ⟨hunderscored, hplain, hplurals⟩ := table_name_recognised_iff "ΟΔΟΣ" hne
  obtain ⟨hsingular, hjoined⟩ := hplurals "S" hplural
  refine ⟨hne, hends, hunderscored, ?_, hplural, ?_, hjoined⟩
  · exact Bool.eq_false_iff.mpr fun h => hplain.mp h hends
  · exact Bool.eq_false_iff.mpr fun h => hsingular.mp h hends

/-- Not every table has its name with `id` behind it recognised, nor every plural its singular. -/
theorem not_recognised_at_final_sigma :
    ¬(∀ table : String, table ≠ "" → isPrimaryIdentifier ⟨table, table ++ "id"⟩ = true) ∧
      ¬∀ stem : String, stem ≠ "" →
        isPrimaryIdentifier ⟨stem ++ "S", stem ++ "_id"⟩ = true := by
  have hne : "ΟΔΟΣ" ≠ "" := by decide
  constructor
  · intro h
    exact (isPrimaryIdentifier_plain_iff hne).mp (h _ hne) endsInFinalSigma_odos
  · intro h
    exact (isPrimaryIdentifier_singular_underscored_iff (by decide) hne).mp (h _ hne)
      endsInFinalSigma_odos

end Naming

namespace Runner

/-- The names of primary identifiers are names of identifiers, which are those that end with an `i`
and a `d` in whatever case. In a run with both rules for names, a column of which one rule says that
it is a primary identifier is one of which the other says for sure that it is an identifier, and the
decision about the column rests on both signals. -/
theorem primary_identifiers_identified :
    (∀ ref : ColumnRef, Naming.isPrimaryIdentifier ref = true → Naming.isIdentifier ref = true) ∧
    (∀ ref : ColumnRef, Naming.isIdentifier ref = true ↔ Text.EndsWithId ref.column.toList) ∧
    ∀ (runner : Runner) (warehouse : Warehouse) (any primary : Tuning),
      Builtin.anyIdentifierByName.rule any ∈ runner.rules →
      Builtin.primaryIdentifierByName.rule primary ∈ runner.rules →
      ∀ s ∈ (Builtin.primaryIdentifierByName.rule primary).emitted warehouse,
        ∃ t ∈ (Builtin.anyIdentifierByName.rule any).emitted warehouse,
          t.column = s.column ∧ t.role = .idUnknown ∧ t.confidence = .forSure ∧ t.Definitive ∧
          s ∈ Ruleset.emitted runner.rules warehouse ∧
          t ∈ Ruleset.emitted runner.rules warehouse ∧
          (runner.solver = Resolver.solve → ∃ decision,
            (runner.run warehouse).decision? s.column = some decision ∧
            s ∈ decision.signals ∧ t ∈ decision.signals) := by
  refine ⟨fun _ => Naming.isIdentifier_of_isPrimaryIdentifier, Naming.isIdentifier_iff, ?_⟩
  intro runner warehouse any primary hany hprimary s hs
  obtain ⟨profile, hmem, htest, rfl⟩ := Rule.mem_emitted_matcher.mp hs
  have hidentifier := Naming.isIdentifier_of_isPrimaryIdentifier (Except.ok.inj htest)
  have ht : _ ∈ (Builtin.anyIdentifierByName.rule any).emitted warehouse :=
    Rule.mem_emitted_matcher.mpr ⟨profile, hmem, congrArg Except.ok hidentifier, rfl⟩
  have hs_emitted := Ruleset.mem_emitted.mpr ⟨_, hprimary, hs⟩
  have ht_emitted := Ruleset.mem_emitted.mpr ⟨_, hany, ht⟩
  refine ⟨_, ht, rfl, rfl, rfl, rfl, hs_emitted, ht_emitted, fun hsolver => ?_⟩
  rw [decision?_run (mem_keys_of_mem_columns hmem), hsolver]
  refine ⟨_, rfl, ?_, ?_⟩
  · rw [Resolver.signals_solve]
    exact List.mem_filter.mpr ⟨hs_emitted, decide_eq_true rfl⟩
  · rw [Resolver.signals_solve]
    exact List.mem_filter.mpr ⟨ht_emitted, decide_eq_true rfl⟩

theorem primary_identifiers_identified_shop :
    Naming.isPrimaryIdentifier orderId.ref = true ∧ Naming.isIdentifier orderId.ref = true ∧
      Text.EndsWithId orderId.ref.column.toList ∧
      Builtin.anyIdentifierByName.rule .usual ∈ noisy.rules ∧
      Builtin.primaryIdentifierByName.rule .usual ∈ noisy.rules ∧
      ∃ s ∈ (Builtin.primaryIdentifierByName.rule .usual).emitted shop,
        s.column = orderId.ref ∧
        ∃ t ∈ (Builtin.anyIdentifierByName.rule .usual).emitted shop,
          t.column = orderId.ref ∧ t.role = .idUnknown ∧ t.confidence = .forSure ∧
          ∃ decision, (noisy.run shop).decision? orderId.ref = some decision ∧
            s ∈ decision.signals ∧ t ∈ decision.signals := by
  obtain ⟨hprimary, hends, hrun⟩ := primary_identifiers_identified
  have hmem : orderId ∈ shop.columns := by decide
  have hname : Naming.isPrimaryIdentifier orderId.ref = true := by decide +kernel
  have hidentifier := hprimary _ hname
  have hany_mem : Builtin.anyIdentifierByName.rule .usual ∈ noisy.rules := by simp [noisy]
  have hprimary_mem : Builtin.primaryIdentifierByName.rule .usual ∈ noisy.rules := by
    simp [noisy]
  have hs : _ ∈ (Builtin.primaryIdentifierByName.rule .usual).emitted shop :=
    Rule.mem_emitted_matcher.mpr ⟨orderId, hmem, congrArg Except.ok hname, rfl⟩
  obtain ⟨t, ht, hcolumn, hrole, hsure, _, _, _, hdecided⟩ :=
    hrun noisy shop .usual .usual hany_mem hprimary_mem _ hs
  exact ⟨hname, hidentifier, (hends _).mp hidentifier, hany_mem, hprimary_mem, _, hs, rfl, t, ht,
    hcolumn, hrole, hsure, hdecided rfl⟩

end Runner

end ColumnRoles
