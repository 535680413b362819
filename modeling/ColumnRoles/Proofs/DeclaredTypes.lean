import ColumnRoles.Proofs.Names
import ColumnRoles.Proofs.Trimming

/-!
Which declared types are recognised. A declared type has the name that is written before its
parameters, without the blanks around it, and it belongs to a family exactly if that is one of the
names of the family in some mixture of small and capital ASCII letters. Lower-case forms leave room
for nothing else: of the characters outside ASCII only the dotted capital I and the Kelvin sign have
ASCII letters in their forms. The first of them keeps its dot, which is in no name, and no name has
the `k` of the second.
-/
namespace ColumnRoles

namespace Text

def IsAscii (c : Char) : Prop :=
  c.toNat < 0x80

instance (c : Char) : Decidable (IsAscii c) :=
  inferInstanceAs (Decidable (c.toNat < 0x80))

/-- An ASCII character to which no run of lower-case forms leads from outside. -/
def Native (c : Char) : Prop :=
  0 < c.toNat ∧ IsAscii c ∧ c ≠ 'k'

instance (c : Char) : Decidable (Native c) :=
  inferInstanceAs (Decidable (0 < c.toNat ∧ IsAscii c ∧ c ≠ 'k'))

/-- An ASCII capital is moved to its small letter, and no other character is moved. -/
theorem toLower_cases (c : Char) :
    c.toLower = c ∨ 65 ≤ c.toNat ∧ c.toNat ≤ 90 ∧ c.toLower.toNat = c.toNat + 32 := by
  unfold Char.toLower
  split
  · next h =>
    right
    have hlow : 65 ≤ c.toNat := h.1
    have hhigh : c.toNat ≤ 90 := h.2
    refine ⟨hlow, hhigh, ?_⟩
    change (c.val + 32).toNat = c.val.toNat + 32
    rw [UInt32.toNat_add]
    exact Nat.mod_eq_of_lt (Nat.lt_of_le_of_lt (Nat.add_le_add_right hhigh 32) (by decide))
  · exact Or.inl rfl

theorem isAscii_toLower_iff (c : Char) : IsAscii c.toLower ↔ IsAscii c := by
  unfold IsAscii
  rcases toLower_cases c with h | ⟨hlow, hhigh, h⟩
  · rw [h]
  · omega

theorem toLower_eq_bracket_iff (c : Char) : c.toLower = '(' ↔ c = '(' := by
  rcases toLower_cases c with h | ⟨hlow, hhigh, h⟩
  · rw [h]
  · have hbracket : '('.toNat = 40 := rfl
    constructor
    · intro heq
      rw [heq] at h
      omega
    · rintro rfl
      omega

theorem isBlank_toLower (c : Char) : isBlank c.toLower = isBlank c := by
  rcases toLower_cases c with h | ⟨hlow, hhigh, h⟩
  · rw [h]
  · -- neither capitals nor small letters are blanks
    have hnone : ∀ n : Nat, 65 ≤ n → n ≤ 122 → blankRanges.any (·.covers n) = false := by
      intro n hn hn'
      simp only [blankRanges, CodeRange.covers, List.any_cons, List.any_nil, Bool.or_false,
        Bool.or_eq_false_iff, Bool.and_eq_false_iff, decide_eq_false_iff_not]
      omega
    unfold isBlank inRanges
    rw [hnone _ (by omega) (by omega), hnone _ (by omega) (by omega)]

/-- No run leads to ASCII but the one of the Kelvin sign. -/
theorem lowerRuns_cases : ∀ run ∈ lowerRuns,
    0x80 ≤ run.target ∨ run.target = 'k'.toNat ∧ run.first = run.last := by
  decide +kernel

theorem not_native_mapByRuns {c : Char} (h : ¬IsAscii c) : ¬Native (mapByRuns lowerRuns c) := by
  unfold mapByRuns
  split
  · next run hrun =>
    rintro ⟨hpos, hascii, hk⟩
    have hcovers := List.find?_some hrun
    simp only [CodeRun.covers, Bool.and_eq_true, decide_eq_true_eq] at hcovers
    have htaken := ofNat_toNat_cases (run.image c.toNat)
    have himage : run.image c.toNat = c.toNat - run.first + run.target := rfl
    unfold IsAscii at hascii
    rcases lowerRuns_cases run (List.mem_of_find?_eq_some hrun) with htarget | ⟨htarget, hsingle⟩
    · omega
    · refine hk (Char.toNat_inj.mp ?_)
      omega
  · exact fun hnative => h hnative.2.1

section Forms

variable {before after : List Char} {c : Char}

theorem lowerBetween_of_isAscii (h : IsAscii c) : lowerBetween before c after = [c.toLower] := by
  have hsigma : c ≠ 'Σ' := by
    rintro rfl
    exact absurd h (by decide)
  have hcode : c.toNat < 0x80 := h
  rw [lowerBetween, if_neg hsigma, lowerChar, if_pos hcode]

/-- What has a form of native characters is an ASCII character itself. -/
theorem isAscii_of_lowerBetween (h : ∀ l ∈ lowerBetween before c after, Native l) : IsAscii c := by
  by_contra hascii
  have hform : lowerChar c =
      if c = '\u0130' then ['i', '\u0307'] else [mapByRuns lowerRuns c] := if_neg hascii
  unfold lowerBetween at h
  split at h
  · have hsigma := h _ List.mem_cons_self
    unfold lowerSigma at hsigma
    split at hsigma <;> exact absurd hsigma (by decide)
  · rw [hform] at h
    split at h
    · exact absurd (h '\u0307' (by simp)) (by decide)
    · exact not_native_mapByRuns hascii (h _ List.mem_cons_self)

theorem lowerAfter_of_isAscii {text : List Char} (h : ∀ c ∈ text, IsAscii c) :
    lowerAfter before text = text.map Char.toLower := by
  induction text generalizing before with
  | nil => rfl
  | cons c rest ih =>
    rw [lowerAfter_cons, lowerBetween_of_isAscii (h c List.mem_cons_self),
      ih fun d hd => h d (List.mem_cons_of_mem _ hd)]
    rfl

theorem isAscii_of_lowerAfter {text : List Char} (h : ∀ l ∈ lowerAfter before text, Native l) :
    ∀ c ∈ text, IsAscii c := by
  induction text generalizing before with
  | nil => exact fun c hc => absurd hc List.not_mem_nil
  | cons first rest ih =>
    rw [lowerAfter_cons] at h
    intro c hc
    rcases List.mem_cons.mp hc with rfl | hc
    · exact isAscii_of_lowerBetween fun l hl => h l (List.mem_append_left _ hl)
    · exact ih (fun l hl => h l (List.mem_append_right _ hl)) c hc

end Forms

/-- A word of native characters is the lower-case form of the same word in any mixture of ASCII
cases, and of no other text. -/
theorem lowerChars_eq_iff {text word : List Char} (h : ∀ c ∈ word, Native c) :
    lowerChars text = word ↔ text.map Char.toLower = word := by
  constructor
  · rintro rfl
    exact (lowerAfter_of_isAscii (isAscii_of_lowerAfter h)).symm
  · rintro rfl
    refine lowerAfter_of_isAscii fun c hc => ?_
    exact (isAscii_toLower_iff c).mp (h _ (List.mem_map_of_mem hc)).2.1

/-- What is left of a text from the first character on that fails a test starts with one. -/
theorem eq_false_of_mem_head?_dropWhile {test : Char → Bool} {text : List Char} {c : Char}
    (h : c ∈ (text.dropWhile test).head?) : test c = false := by
  have hfirst := List.head?_dropWhile_not test text
  rw [Option.mem_def.mp h] at hfirst
  exact hfirst

theorem not_blank_first {text : List Char} {c : Char} (h : c ∈ (trimChars text).head?) :
    isBlank c = false := by
  have hprefix : trimChars text <+: text.dropWhile isBlank := List.rdropWhile_prefix _ _
  obtain ⟨rest, hrest⟩ := List.head?_eq_some_iff.mp h
  obtain ⟨behind, hbehind⟩ := hprefix
  have hleft : c ∈ (text.dropWhile isBlank).head? := by
    rw [← hbehind, hrest]
    rfl
  exact eq_false_of_mem_head?_dropWhile hleft

theorem not_blank_last {text : List Char} {c : Char} (h : c ∈ (trimChars text).getLast?) :
    isBlank c = false := by
  rw [trimChars, List.getLast?_reverse] at h
  exact eq_false_of_mem_head?_dropWhile h

/-- Nothing is trimmed where neither the first character nor the last is a blank. -/
theorem trimChars_eq_self {text : List Char} (hfirst : ∀ c ∈ text.head?, isBlank c = false)
    (hlast : ∀ c ∈ text.getLast?, isBlank c = false) : trimChars text = text := by
  have hkept : ∀ l : List Char, (∀ c ∈ l.head?, isBlank c = false) → l.dropWhile isBlank = l := by
    intro l hl
    cases l with
    | nil => rfl
    | cons c rest => exact List.dropWhile_cons_of_neg (by simp [hl c rfl])
  rw [trimChars, hkept text hfirst, hkept text.reverse, List.reverse_reverse]
  rwa [List.head?_reverse]

theorem map_toLower_trimChars (text : List Char) :
    (trimChars text).map Char.toLower = trimChars (text.map Char.toLower) := by
  have hblank : isBlank ∘ Char.toLower = isBlank := funext isBlank_toLower
  simp only [trimChars, List.dropWhile_map, ← List.map_reverse, hblank]

def SameButForCase (left right : String) : Prop :=
  left.toList.map Char.toLower = right.toList.map Char.toLower

instance (left right : String) : Decidable (SameButForCase left right) :=
  inferInstanceAs (Decidable (left.toList.map Char.toLower = right.toList.map Char.toLower))

theorem SameButForCase.symm {left right : String} (h : SameButForCase left right) :
    SameButForCase right left :=
  Eq.symm h

theorem SameButForCase.trans {left middle right : String} (h : SameButForCase left middle)
    (h' : SameButForCase middle right) : SameButForCase left right :=
  Eq.trans h h'

theorem trim_surrounded {front behind : String} (text : String) (hfront : allBlank front = true)
    (hbehind : allBlank behind = true) : trim (front ++ text ++ behind) = trim text := by
  have h := trimChars_surrounded text.toList (List.all_eq_true.mp hfront)
    (List.all_eq_true.mp hbehind)
  rw [trim, trim, String.toList_append, String.toList_append, h]

end Text

namespace ColumnType

open Text

theorem native_declaredNames (family : ColumnType) :
    ∀ name ∈ family.declaredNames, ∀ c ∈ name.toList, Native c := by
  have hall : family.declaredNames.all (fun name => name.toList.all fun c => Native c) = true := by
    cases family <;> decide
  simpa only [List.all_eq_true, decide_eq_true_eq] using hall

theorem declaredNames_lower (family : ColumnType) :
    ∀ name ∈ family.declaredNames, name.toList.map Char.toLower = name.toList := by
  cases family <;> decide +kernel

/-- No name belongs to two families. -/
theorem find?_declaredNames (family : ColumnType) : ∀ name ∈ family.declaredNames,
    (all.find? fun other => name ∈ other.declaredNames) = some family := by
  cases family <;> decide

theorem toList_baseName (declared : String) :
    (baseName declared).toList = trimChars (declared.toList.takeWhile (· ≠ '(')) := by
  rw [baseName, toList_trim, String.toList_ofList]

/-- A family has a declared type if it has the lower-case form of its name. -/
theorem ofDeclared_eq_iff_mem {family : ColumnType} (h : family ≠ unknown) (declared : String) :
    ofDeclared declared = family ↔ lowerCase (baseName declared) ∈ family.declaredNames := by
  unfold ofDeclared
  constructor
  · intro heq
    cases hfind : all.find? fun other => lowerCase (baseName declared) ∈ other.declaredNames with
    | none =>
      simp only [hfind, Option.getD_none] at heq
      exact absurd heq.symm h
    | some found =>
      simp only [hfind, Option.getD_some] at heq
      subst heq
      simpa using List.find?_some hfind
  · intro hmem
    simp only [find?_declaredNames family _ hmem, Option.getD_some]

theorem lowerCase_eq_iff {family : ColumnType} {name : String} (hname : name ∈ family.declaredNames)
    (text : String) : lowerCase text = name ↔ SameButForCase text name := by
  rw [SameButForCase, declaredNames_lower family name hname,
    ← lowerChars_eq_iff (native_declaredNames family name hname), lowerCase, ← String.toList_inj,
    String.toList_ofList]

theorem ofDeclared_eq_iff {family : ColumnType} (h : family ≠ unknown) (declared : String) :
    ofDeclared declared = family ↔
      ∃ name ∈ family.declaredNames, SameButForCase (baseName declared) name := by
  rw [ofDeclared_eq_iff_mem h]
  constructor
  · intro hmem
    exact ⟨_, hmem, (lowerCase_eq_iff hmem _).mp rfl⟩
  · rintro ⟨name, hname, hsame⟩
    rwa [(lowerCase_eq_iff hname _).mpr hsame]

/-- The declared type is `base`, between blanks where there are any and before parameters where
there are any. -/
structure WrittenAs (declared base : String) : Prop where
  parts : ∃ front behind parameters : List Char,
    declared.toList = front ++ base.toList ++ behind ++ parameters ∧
      (∀ c ∈ front, isBlank c) ∧ (∀ c ∈ behind, isBlank c) ∧ ∀ c ∈ parameters.head?, c = '('
  no_bracket : '(' ∉ base.toList
  first_not_blank : ∀ c ∈ base.toList.head?, isBlank c = false
  last_not_blank : ∀ c ∈ base.toList.getLast?, isBlank c = false

theorem writtenAs_baseName (declared : String) : WrittenAs declared (baseName declared) where
  parts := by
    obtain ⟨front, behind, hfront, hbehind, hwritten⟩ :=
      exists_surrounding (declared.toList.takeWhile (· ≠ '('))
    refine ⟨front, behind, declared.toList.dropWhile (· ≠ '('), ?_, hfront, hbehind, ?_⟩
    · rw [toList_baseName, ← hwritten, List.takeWhile_append_dropWhile]
    · intro c hc
      simpa using eq_false_of_mem_head?_dropWhile hc
  no_bracket hmem := by
    rw [toList_baseName] at hmem
    obtain ⟨front, behind, _, _, hwritten⟩ :=
      exists_surrounding (declared.toList.takeWhile (· ≠ '('))
    have hkept : '(' ∈ declared.toList.takeWhile (· ≠ '(') := by
      rw [hwritten]
      exact List.mem_append_left _ (List.mem_append_right _ hmem)
    simpa using List.mem_takeWhile_imp hkept
  first_not_blank c hc := not_blank_first (toList_baseName declared ▸ hc)
  last_not_blank c hc := not_blank_last (toList_baseName declared ▸ hc)

theorem baseName_of_writtenAs {declared base : String} (h : WrittenAs declared base) :
    baseName declared = base := by
  obtain ⟨front, behind, parameters, hdeclared, hfront, hbehind, hparameters⟩ := h.parts
  have hbracket : ¬isBlank '(' := by decide
  have hkept : declared.toList.takeWhile (· ≠ '(') = front ++ base.toList ++ behind := by
    have hnone : parameters.takeWhile (· ≠ '(') = [] := by
      cases parameters with
      | nil => rfl
      | cons c rest => rw [hparameters c rfl]; rfl
    rw [hdeclared, List.takeWhile_append_of_pos, hnone, List.append_nil]
    intro c hc
    refine decide_eq_true ?_
    rintro rfl
    rcases List.mem_append.mp hc with hc | hc
    · rcases List.mem_append.mp hc with hc | hc
      · exact hbracket (hfront _ hc)
      · exact h.no_bracket hc
    · exact hbracket (hbehind _ hc)
  rw [← String.toList_inj, toList_baseName, hkept, trimChars_surrounded _ hfront hbehind,
    trimChars_eq_self h.first_not_blank h.last_not_blank]

theorem baseName_eq_iff {declared base : String} :
    baseName declared = base ↔ WrittenAs declared base :=
  ⟨fun h => h ▸ writtenAs_baseName declared, baseName_of_writtenAs⟩

/-- What stands behind the first bracket does not matter, be it the first or a later one that is
added. -/
theorem baseName_append_parameters (declared parameters : String) :
    baseName (declared ++ "(" ++ parameters) = baseName declared := by
  have hcut : ∀ text : List Char, (text ++ ['('] ++ parameters.toList).takeWhile (· ≠ '(') =
      text.takeWhile (· ≠ '(') := by
    intro text
    induction text with
    | nil => rfl
    | cons c rest ih => by_cases hc : c = '(' <;> simp_all
  rw [← String.toList_inj, toList_baseName, toList_baseName, String.toList_append,
    String.toList_append, ← hcut declared.toList]
  rfl

theorem sameButForCase_baseName {left right : String} (h : SameButForCase left right) :
    SameButForCase (baseName left) (baseName right) := by
  have hbracket : (fun c : Char => decide (c ≠ '(')) ∘ Char.toLower = fun c => decide (c ≠ '(') :=
    funext fun c => decide_eq_decide.mpr (not_congr (toLower_eq_bracket_iff c))
  have hcut : ∀ text : List Char, (text.takeWhile (· ≠ '(')).map Char.toLower =
      (text.map Char.toLower).takeWhile (· ≠ '(') := by
    intro text
    rw [List.takeWhile_map, hbracket]
  rw [SameButForCase, toList_baseName, toList_baseName, map_toLower_trimChars,
    map_toLower_trimChars, hcut, hcut, h]

theorem ofDeclared_of_sameButForCase {left right : String} (h : SameButForCase left right) :
    ofDeclared left = ofDeclared right := by
  have hbase := sameButForCase_baseName h
  have hfamily : ∀ family ≠ unknown, ofDeclared left = family ↔ ofDeclared right = family := by
    intro family hknown
    rw [ofDeclared_eq_iff hknown, ofDeclared_eq_iff hknown]
    exact exists_congr fun name => and_congr_right fun _ =>
      ⟨fun hleft => hbase.symm.trans hleft, fun hright => hbase.trans hright⟩
  by_cases hleft : ofDeclared left = unknown
  · by_contra hne
    exact hne ((hfamily _ fun hright => hne (hleft.trans hright.symm)).mpr rfl)
  · exact ((hfamily _ hleft).mp rfl).symm

theorem ofDeclared_surrounded {front behind : String} (declared : String)
    (hfront : allBlank front = true) (hbehind : allBlank behind = true) :
    ofDeclared (front ++ declared ++ behind) = ofDeclared declared := by
  rw [← ofDeclared_trim, trim_surrounded declared hfront hbehind, ofDeclared_trim]

theorem isAscii_of_ofDeclared {declared : String} (h : ofDeclared declared ≠ unknown) :
    ∀ c ∈ (baseName declared).toList, IsAscii c := by
  obtain ⟨name, hname, hsame⟩ := (ofDeclared_eq_iff h declared).mp rfl
  intro c hc
  have hlower : c.toLower ∈ name.toList := by
    rw [← declaredNames_lower _ name hname, ← hsame]
    exact List.mem_map_of_mem hc
  exact (isAscii_toLower_iff c).mp (native_declaredNames _ name hname _ hlower).2.1

/-- A declared type is recognised exactly by its name. The name is what stands before the first
bracket, without the blanks around it, and a type is of a family exactly if its name is one of those
of the family but for the case of ASCII letters. Parameters, blanks on either side and the case of
ASCII letters therefore make no difference, and a name with any other character is not recognised. -/
theorem recognised_iff_named (declared : String) :
    (∀ base, baseName declared = base ↔ WrittenAs declared base) ∧
    (∀ family, family ≠ unknown → (ofDeclared declared = family ↔
      ∃ name ∈ family.declaredNames, SameButForCase (baseName declared) name)) ∧
    (∀ parameters, ofDeclared (declared ++ "(" ++ parameters) = ofDeclared declared) ∧
    (∀ front behind, allBlank front = true → allBlank behind = true →
      ofDeclared (front ++ declared ++ behind) = ofDeclared declared) ∧
    (∀ other, SameButForCase other declared → ofDeclared other = ofDeclared declared) ∧
    ((∃ c ∈ (baseName declared).toList, ¬IsAscii c) → ofDeclared declared = unknown) := by
  refine ⟨fun base => baseName_eq_iff, fun family h => ofDeclared_eq_iff h declared, ?_, ?_, ?_, ?_⟩
  · intro parameters
    rw [ofDeclared, baseName_append_parameters]
    rfl
  · intro front behind hfront hbehind
    exact ofDeclared_surrounded declared hfront hbehind
  · intro other hother
    exact ofDeclared_of_sameButForCase hother
  · rintro ⟨c, hc, hascii⟩
    by_contra hknown
    exact hascii (isAscii_of_ofDeclared hknown c hc)

def spacedType : String :=
  "\u00a0Character VARYING (255)"

theorem recognised_iff_named_spaced :
    string ≠ unknown ∧ "character varying" ∈ string.declaredNames ∧
      SameButForCase (baseName spacedType) "character varying" ∧
      ofDeclared spacedType = string ∧ ofDeclared (spacedType ++ "(" ++ "max") = string ∧
      allBlank "\t" = true ∧ allBlank "\u2003" = true ∧
      ofDeclared ("\t" ++ spacedType ++ "\u2003") = string ∧
      SameButForCase "\u00a0CHARACTER varying (255)" spacedType ∧
      ofDeclared "\u00a0CHARACTER varying (255)" = string ∧
      (∃ c ∈ (baseName "TİME").toList, ¬IsAscii c) ∧ ofDeclared "TİME" = unknown := by
  have hknown : string ≠ unknown := by decide
  have hname : "character varying" ∈ string.declaredNames := by decide
  have hsame : SameButForCase (baseName spacedType) "character varying" := by decide +kernel
  have hfront : allBlank "\t" = true := by decide
  have hbehind : allBlank "\u2003" = true := by decide
  have hcase : SameButForCase "\u00a0CHARACTER varying (255)" spacedType := by decide
  have hdotted : ∃ c ∈ (baseName "TİME").toList, ¬IsAscii c :=
    ⟨'İ', by decide +kernel, by decide⟩
  obtain ⟨_, hfamily, hparameters, hblanks, hother, _⟩ := recognised_iff_named spacedType
  obtain ⟨_, _, _, _, _, hforeign⟩ := recognised_iff_named "TİME"
  have hstring := (hfamily string hknown).mpr ⟨_, hname, hsame⟩
  exact ⟨hknown, hname, hsame, hstring, (hparameters "max").trans hstring, hfront, hbehind,
    (hblanks _ _ hfront hbehind).trans hstring, hcase, (hother _ hcase).trans hstring, hdotted,
    hforeign hdotted⟩

end ColumnType

end ColumnRoles
