import ColumnRoles.Proofs.Outcome
import Mathlib.Data.List.Forall2

/-!
What a signal says apart from its words, and relations between lists of signals that nothing but
what is said can tell apart. Such a relation is kept by filters and appends, as long as a filter
only looks at what signals say. Equality up to order, repetition and reasons is one, and so are
rearrangement and the replacement of signals one by one.
-/
namespace ColumnRoles

def Signal.stance (signal : Signal) : Role × Confidence × Bool :=
  (signal.role, signal.confidence, signal.complimentary)

namespace Resolver

section Stance

variable {a b : Signal} (h : a.stance = b.stance)
include h

theorem role_eq_of_stance : a.role = b.role :=
  congrArg (fun stance => stance.1) h

theorem confidence_eq_of_stance : a.confidence = b.confidence :=
  congrArg (fun stance => stance.2.1) h

theorem definitive_iff_of_stance : a.Definitive ↔ b.Definitive := by
  have hkind : a.complimentary = b.complimentary := congrArg (fun stance => stance.2.2) h
  unfold Signal.Definitive
  rw [hkind]

end Stance

/-- The same is said in both lists, in whatever order, how often and in whatever words. -/
def SameStances (left right : List Signal) : Prop :=
  ∀ stance, stance ∈ left.map Signal.stance ↔ stance ∈ right.map Signal.stance

instance (left right : List Signal) : Decidable (SameStances left right) :=
  decidable_of_iff ((∀ stance ∈ left.map Signal.stance, stance ∈ right.map Signal.stance) ∧
      ∀ stance ∈ right.map Signal.stance, stance ∈ left.map Signal.stance)
    ⟨fun h stance => ⟨h.1 stance, h.2 stance⟩,
      fun h => ⟨fun stance => (h stance).mp, fun stance => (h stance).mpr⟩⟩

namespace SameStances

variable {left right : List Signal}

theorem symm (h : SameStances left right) : SameStances right left :=
  fun stance => (h stance).symm

theorem exists_mem (h : SameStances left right) {a : Signal} (ha : a ∈ left) :
    ∃ b ∈ right, b.stance = a.stance :=
  List.mem_map.mp ((h a.stance).mp (List.mem_map_of_mem ha))

theorem eq_nil_iff (h : SameStances left right) : left = [] ↔ right = [] := by
  have aux : ∀ {l r : List Signal}, SameStances l r → r = [] → l = [] := by
    intro l r hlr hr
    refine List.eq_nil_iff_forall_not_mem.mpr ?_
    intro a ha
    obtain ⟨b, hb, _⟩ := hlr.exists_mem ha
    simp [hr] at hb
  exact ⟨aux h.symm, aux h⟩

/-- What can be said of two members of one list can be said of two members of the other. -/
theorem compatible (h : SameStances left right) (hagree : Compatible left) :
    Compatible right := by
  rw [compatible_iff] at hagree ⊢
  intro a ha b hb hab
  obtain ⟨a', ha', hastance⟩ := h.symm.exists_mem ha
  obtain ⟨b', hb', hbstance⟩ := h.symm.exists_mem hb
  refine hagree a' ha' b' hb' ?_
  unfold Signal.Conflicts at hab ⊢
  rw [role_eq_of_stance hastance, role_eq_of_stance hbstance]
  exact hab

theorem compatible_iff (h : SameStances left right) : Compatible left ↔ Compatible right :=
  ⟨h.compatible, h.symm.compatible⟩

theorem exists_definitive (h : SameStances left right)
    (hdefinitive : ∃ s ∈ left, s.Definitive) : ∃ s ∈ right, s.Definitive := by
  obtain ⟨a, ha, hdef⟩ := hdefinitive
  obtain ⟨b, hb, hstance⟩ := h.exists_mem ha
  exact ⟨b, hb, (definitive_iff_of_stance hstance).mpr hdef⟩

/-- Whether some member conflicts with a signal is the same for both lists. -/
theorem exists_conflict (h : SameStances left right) {s t : Signal}
    (hst : s.stance = t.stance) (hconflict : ∃ a ∈ left, a.Conflicts s) :
    ∃ b ∈ right, b.Conflicts t := by
  obtain ⟨a, ha, has⟩ := hconflict
  obtain ⟨b, hb, hstance⟩ := h.exists_mem ha
  refine ⟨b, hb, ?_⟩
  unfold Signal.Conflicts at has ⊢
  rw [role_eq_of_stance hstance, ← role_eq_of_stance hst]
  exact has

end SameStances

/-- A way in which two lists may differ that filters and appends carry on, so that no step of a
resolution can tell the lists apart. -/
structure BlindTo (R : List Signal → List Signal → Prop) : Prop where
  sameStances : ∀ {left right}, R left right → SameStances left right
  nil : R [] []
  append : ∀ {left right left' right'}, R left right → R left' right' →
    R (left ++ left') (right ++ right')
  filter : ∀ {left right} {p q : Signal → Prop} [DecidablePred p] [DecidablePred q],
    (∀ a b, a.stance = b.stance → (p a ↔ q b)) → R left right →
      R (left.filter fun s => p s) (right.filter fun s => q s)

theorem blindTo_sameStances : BlindTo SameStances where
  sameStances h := h
  nil := fun _ => Iff.rfl
  append h h' stance := by
    simp only [List.map_append, List.mem_append]
    exact or_congr (h stance) (h' stance)
  filter hpq h := by
    intro stance
    simp only [List.mem_map, List.mem_filter, decide_eq_true_eq]
    constructor
    · rintro ⟨a, ⟨ha, hpa⟩, rfl⟩
      obtain ⟨b, hb, hstance⟩ := h.exists_mem ha
      exact ⟨b, ⟨hb, (hpq a b hstance.symm).mp hpa⟩, hstance⟩
    · rintro ⟨b, ⟨hb, hqb⟩, rfl⟩
      obtain ⟨a, ha, hstance⟩ := h.symm.exists_mem hb
      exact ⟨a, ⟨ha, (hpq a b hstance).mpr hqb⟩, hstance⟩

theorem blindTo_perm : BlindTo List.Perm where
  sameStances h _ := (h.map Signal.stance).mem_iff
  nil := List.Perm.nil
  append := List.Perm.append
  filter {left right p q} _ _ hpq h := by
    have hfilter : (left.filter fun s => p s) = left.filter fun s => q s :=
      List.filter_congr fun s _ => decide_eq_decide.mpr (hpq s s rfl)
    rw [hfilter]
    exact h.filter _

/-- Signals that are replaced one by one, each by one that says the same. -/
theorem blindTo_forall₂ {r : Signal → Signal → Prop}
    (hr : ∀ a b, r a b → a.stance = b.stance) : BlindTo (List.Forall₂ r) where
  sameStances h stance := by
    have hmap : _ = _ := List.forall₂_eq_eq_eq ▸ List.rel_map (fun {a b} => hr a b) h
    rw [hmap]
  nil := List.Forall₂.nil
  append h h' := List.rel_append h h'
  filter hpq h := List.rel_filter (fun {a b} hab => by simpa using hpq a b (hr a b hab)) h

end Resolver

end ColumnRoles
