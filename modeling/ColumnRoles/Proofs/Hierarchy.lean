import ColumnRoles.Role

/-!
The order of the role hierarchy, derived from the parent table alone. Refinement is a partial
order, the roles that one role refines lie on a single path, and on a path the deeper role is the
more specific one. Only the last fact needs the shape of these particular trees: below a role that
is not generic there is a single path, so a conflict can only open directly under a root.
-/
namespace ColumnRoles.Role

/-- Refining strictly starts with the step to the parent. -/
theorem strictlyRefines_iff (r s : Role) :
    r.StrictlyRefines s ↔ ∃ p, r.parent = some p ∧ p.Refines s := by
  cases r <;> cases s <;> simp only [parent, reduceCtorEq, Option.some.injEq, false_and,
    exists_false, exists_eq_left'] <;> decide

theorem depth_of_parent {r p : Role} (h : r.parent = some p) : r.depth = p.depth + 1 := by
  cases r <;> cases h <;> rfl

/-- What holds of a role once it holds of its parent holds of every role. -/
theorem induction_on_parent {motive : Role → Prop}
    (step : ∀ r, (∀ p, r.parent = some p → motive p) → motive r) (r : Role) : motive r := by
  have aux : ∀ n : Nat, ∀ r : Role, r.depth = n → motive r := by
    intro n
    induction n using Nat.strongRecOn with
    | ind n ih =>
      intro r hr
      refine step r ?_
      intro p hp
      have hdepth := depth_of_parent hp
      exact ih p.depth (by omega) p rfl
  exact aux r.depth r rfl

theorem Refines.trans {r s t : Role} (hrs : r.Refines s) (hst : s.Refines t) : r.Refines t := by
  induction r using induction_on_parent with
  | step r ih =>
    rcases hrs with rfl | hrs
    · exact hst
    · obtain ⟨p, hp, hps⟩ := (strictlyRefines_iff r s).mp hrs
      exact Or.inr ((strictlyRefines_iff r t).mpr ⟨p, hp, ih p hp hps⟩)

theorem StrictlyRefines.refines {r s : Role} (h : r.StrictlyRefines s) : r.Refines s :=
  Or.inr h

theorem StrictlyRefines.depth_lt {r s : Role} (h : r.StrictlyRefines s) :
    s.depth < r.depth := by
  induction r using induction_on_parent with
  | step r ih =>
    obtain ⟨p, hp, hps⟩ := (strictlyRefines_iff r s).mp h
    have hdepth := depth_of_parent hp
    rcases hps with rfl | hps
    · omega
    · have := ih p hp hps
      omega

/-- The roles that one role refines lie on one path. -/
theorem Refines.path {r a b : Role} (ha : r.Refines a) (hb : r.Refines b) :
    a.Refines b ∨ b.Refines a := by
  induction r using induction_on_parent with
  | step r ih =>
    rcases ha with rfl | ha
    · exact Or.inl hb
    · rcases hb with rfl | hb
      · exact Or.inr (Or.inr ha)
      · obtain ⟨p, hp, hpa⟩ := (strictlyRefines_iff r a).mp ha
        obtain ⟨q, hq, hqb⟩ := (strictlyRefines_iff r b).mp hb
        have hpq : p = q := Option.some.inj (hp.symm.trans hq)
        subst hpq
        exact ih p hp hpa hqb

theorem not_conflicts_iff {r s : Role} : ¬r.Conflicts s ↔ r.Refines s ∨ s.Refines r :=
  Decidable.not_not

theorem Refines.not_conflicts {r s : Role} (h : r.Refines s) : ¬r.Conflicts s :=
  not_conflicts_iff.mpr (Or.inl h)

/-- Of two roles that do not conflict the deeper one refines the other. -/
theorem refines_of_depth_le {r s : Role} (h : ¬r.Conflicts s) (hdepth : s.depth ≤ r.depth) :
    r.Refines s := by
  rcases not_conflicts_iff.mp h with hrs | rfl | hsr
  · exact hrs
  · exact Refines.refl _
  · have := hsr.depth_lt
    omega

/-- Roles of one depth conflict unless they are the same. -/
theorem eq_of_depth_eq {r s : Role} (h : ¬r.Conflicts s) (hdepth : r.depth = s.depth) : r = s := by
  rcases refines_of_depth_le h (Nat.le_of_eq hdepth.symm) with heq | hstrict
  · exact heq
  · have := hstrict.depth_lt
    omega

/-- A role conflicts with everything that a role above it conflicts with. -/
theorem Conflicts.of_refines {r s t : Role} (hts : s.Conflicts t) (hrs : r.Refines s) :
    r.Conflicts t := by
  intro hrt
  rcases hrt with hrt | htr
  · exact hts (hrs.path hrt)
  · exact hts (Or.inr (htr.trans hrs))

/-- Of two conflicting roles that both agree with a third, each is more specific than the third. -/
theorem Conflicts.strictlyRefines {r a b : Role} (hab : a.Conflicts b) (ha : ¬a.Conflicts r)
    (hb : ¬b.Conflicts r) : a.StrictlyRefines r := by
  have hnot : ¬r.Refines a := fun hra => hb (hab.of_refines hra).symm
  rcases not_conflicts_iff.mp ha with har | hra
  · rcases har with rfl | hstrict
    · exact absurd (Refines.refl a) hnot
    · exact hstrict
  · exact absurd hra hnot

/-- Below a role that is not generic there is a single path. -/
theorem not_conflicts_of_refines_nongeneric {r a b : Role} (hr : r.parent ≠ none)
    (ha : a.Refines r) (hb : b.Refines r) : ¬a.Conflicts b := by
  revert hr ha hb
  cases r <;> cases a <;> cases b <;> decide

theorem StrictlyRefines.parent_ne_none {r s : Role} (h : r.StrictlyRefines s) :
    r.parent ≠ none := by
  obtain ⟨p, hp, _⟩ := (strictlyRefines_iff r s).mp h
  simp [hp]

/-- Whatever agrees with a role that is not generic agrees among itself. -/
theorem not_conflicts_of_agree_nongeneric {r a b : Role} (hr : r.parent ≠ none)
    (ha : ¬a.Conflicts r) (hb : ¬b.Conflicts r) : ¬a.Conflicts b := by
  intro hab
  have har := (hab.strictlyRefines ha hb).refines
  have hbr := (Conflicts.strictlyRefines hab.symm hb ha).refines
  exact not_conflicts_of_refines_nongeneric hr har hbr hab

end ColumnRoles.Role
