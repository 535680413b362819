import ColumnRoles.Pattern.Simplify

/-!
Where matches end. The marks of a text are read as a set of positions, and each step of a pattern is
described by what it does to this set. Of some patterns it can be told without a text in what
characters every match ends, or that it ends where the text does.
-/
namespace ColumnRoles

namespace Marks

variable {text : List Char} {marks others : Marks} {k : Nat}

def At (marks : Marks) (k : Nat) : Prop :=
  marks[k]? = some true

theorem at_all : (all text).At k ↔ k ≤ text.length := by
  unfold At all
  cases k with
  | zero => simp
  | succ k =>
    rw [List.getElem?_cons_succ, List.getElem?_map, Option.map_eq_some_iff]
    constructor
    · rintro ⟨c, hc, _⟩
      exact (List.getElem?_eq_some_iff.mp hc).1
    · intro h
      exact ⟨text[k], List.getElem?_eq_getElem h, rfl⟩

theorem at_both : (marks.both others).At k ↔ marks.At k ∧ others.At k := by
  unfold At both
  rw [List.getElem?_zipWith_eq_some]
  simp only [Bool.and_eq_true]
  constructor
  · rintro ⟨x, y, hx, hy, rfl, rfl⟩
    exact ⟨hx, hy⟩
  · rintro ⟨hx, hy⟩
    exact ⟨true, true, hx, hy, rfl, rfl⟩

theorem at_of_union (h : (marks.union others).At k) : marks.At k ∨ others.At k := by
  obtain ⟨x, y, hx, hy, hxy⟩ := List.getElem?_zipWith_eq_some.mp h
  rcases Bool.or_eq_true_iff.mp hxy with rfl | rfl
  · exact Or.inl hx
  · exact Or.inr hy

/-- A step over a character ends one position behind the character. -/
theorem at_advance {test : Char → Bool} :
    (advance test text marks).At k ↔
      ∃ j c, k = j + 1 ∧ marks.At j ∧ text[j]? = some c ∧ test c = true := by
  unfold At advance
  cases k with
  | zero => simp
  | succ k =>
    rw [List.getElem?_cons_succ, List.getElem?_zipWith_eq_some]
    simp only [Bool.and_eq_true]
    constructor
    · rintro ⟨x, c, hx, hc, rfl, htest⟩
      exact ⟨k, c, rfl, hx, hc, htest⟩
    · rintro ⟨j, c, hj, hx, hc, htest⟩
      obtain rfl := Nat.succ.inj hj
      exact ⟨true, c, hx, hc, rfl, htest⟩

theorem at_textEnd : (Place.marks text .textEnd).At k ↔ k = text.length := by
  unfold At
  rw [Place.marks, List.getElem?_append, List.length_map]
  split
  · next h =>
    rw [List.getElem?_map, List.getElem?_eq_getElem h]
    simp only [Option.map_some, Option.some.injEq, Bool.false_eq_true, false_iff]
    omega
  · next h =>
    rw [List.getElem?_singleton]
    split
    · simp only [true_iff]
      omega
    · simp only [reduceCtorEq, false_iff]
      omega

end Marks

namespace Pattern

variable {text : List Char} {marks : Marks} {k : Nat} {p : Pattern}

theorem matchesText_iff {pattern : Pattern} {name : String} :
    pattern.matchesText name = true ↔
      ∃ k, (pattern.reach name.toList (Marks.all name.toList)).At k := by
  unfold matchesText Marks.At
  rw [List.any_eq_true]
  constructor
  · rintro ⟨mark, hmem, hmark⟩
    obtain ⟨k, hk, rfl⟩ := List.mem_iff_getElem.mp hmem
    exact ⟨k, by rw [List.getElem?_eq_getElem hk]; exact congrArg some hmark⟩
  · rintro ⟨k, hk⟩
    exact ⟨true, List.mem_of_getElem? hk, rfl⟩

def stays : Pattern → Bool
  | empty | place _ => true
  | _ => false

theorem at_of_stays (hp : p.stays = true) (h : (p.reach text marks).At k) : marks.At k := by
  cases p with
  | empty => exact h
  | place q => exact (Marks.at_both.mp h).1
  | literal | one | group | seq | either | repeated => cases hp

/-- Every match ends behind a character of the set. -/
def endsIn (set : List Text.CodeRange) : Pattern → Bool
  | literal chars => chars.getLast?.any (Text.inRanges set)
  | one ranges => ranges.all fun r => set.any fun s => s.1 ≤ r.1 && r.2 ≤ s.2
  | group _ inner => inner.endsIn set
  | seq first second => second.endsIn set || (second.stays && first.endsIn set)
  | either left right => left.endsIn set && right.endsIn set
  | empty | place _ | repeated _ _ _ _ => false

theorem inRanges_of_within {set ranges : List Text.CodeRange} {c : Char}
    (h : (ranges.all fun r => set.any fun s => s.1 ≤ r.1 && r.2 ≤ s.2) = true)
    (hc : Text.inRanges ranges c = true) : Text.inRanges set c = true := by
  obtain ⟨r, hr, hcovers⟩ := List.any_eq_true.mp hc
  obtain ⟨s, hs, hle⟩ := List.any_eq_true.mp (List.all_eq_true.mp h r hr)
  refine List.any_eq_true.mpr ⟨s, hs, ?_⟩
  simp only [Text.CodeRange.covers, Bool.and_eq_true, decide_eq_true_eq] at hcovers hle ⊢
  omega

theorem exists_last_of_endsIn {set : List Text.CodeRange} (hp : p.endsIn set = true)
    (h : (p.reach text marks).At k) :
    ∃ j c, k = j + 1 ∧ text[j]? = some c ∧ Text.inRanges set c = true := by
  induction p generalizing marks k with
  | empty => cases hp
  | place => cases hp
  | repeated => cases hp
  | literal chars =>
    cases hlast : chars.getLast? with
    | none => simp [endsIn, hlast] at hp
    | some last =>
      have hset : Text.inRanges set last = true := by simpa [endsIn, hlast] using hp
      obtain ⟨init, rfl⟩ := List.getLast?_eq_some_iff.mp hlast
      rw [reach, List.foldl_append] at h
      obtain ⟨j, c, hk, _, hc, htest⟩ := Marks.at_advance.mp h
      exact ⟨j, c, hk, hc, eq_of_beq htest ▸ hset⟩
  | one ranges =>
    obtain ⟨j, c, hk, _, hc, htest⟩ := Marks.at_advance.mp h
    exact ⟨j, c, hk, hc, inRanges_of_within hp htest⟩
  | group _ inner ih => exact ih hp h
  | seq first second ihFirst ihSecond =>
    simp only [endsIn, Bool.or_eq_true, Bool.and_eq_true] at hp
    rcases hp with hsecond | ⟨hstays, hfirst⟩
    · exact ihSecond hsecond h
    · exact ihFirst hfirst (at_of_stays hstays h)
  | either left right ihLeft ihRight =>
    simp only [endsIn, Bool.and_eq_true] at hp
    rcases Marks.at_of_union h with h | h
    · exact ihLeft hp.1 h
    · exact ihRight hp.2 h

/-- Every match ends where the text does. -/
def closes : Pattern → Bool
  | place .textEnd => true
  | seq _ second => second.closes
  | _ => false

theorem eq_length_of_closes (hp : p.closes = true) (h : (p.reach text marks).At k) :
    k = text.length := by
  induction p generalizing marks with
  | place q =>
    cases q with
    | textEnd => exact Marks.at_textEnd.mp (Marks.at_both.mp h).2
    | textStart | lineStart | lineEnd | wordEdge => cases hp
  | seq first second _ ih => exact ih hp h
  | empty | literal | one | group | either | repeated => cases hp

/-- A name that matches such a pattern ends in a character of the set. -/
theorem getLast?_of_matches {pattern : Pattern} {set : List Text.CodeRange} {name : String}
    (hends : pattern.endsIn set = true) (hcloses : pattern.closes = true)
    (h : pattern.matchesText name = true) :
    ∃ c, name.toList.getLast? = some c ∧ Text.inRanges set c = true := by
  obtain ⟨k, hk⟩ := matchesText_iff.mp h
  obtain ⟨j, c, hj, hc, hset⟩ := exists_last_of_endsIn hends hk
  have hlength := eq_length_of_closes hcloses hk
  refine ⟨c, ?_, hset⟩
  rw [List.getLast?_eq_getElem?, ← hlength, hj, Nat.add_sub_cancel]
  exact hc

end Pattern

end ColumnRoles
