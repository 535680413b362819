import ColumnRoles.Proofs.Hierarchy
import ColumnRoles.Resolver

/-!
Lists of signals that agree, and the signal that is picked from a list. Agreement is a matter of
the members alone, although it is tested along the list. The picked signal is the first of those
with the greatest key; on signals that agree the deepest role is also the one that refines all
others, so the pick by depth is a pick by refinement.
-/
namespace ColumnRoles.Resolver

/-- Agreement concerns any two members, in either order. -/
theorem compatible_iff {signals : List Signal} :
    Compatible signals ↔ ∀ a ∈ signals, ∀ b ∈ signals, ¬a.Conflicts b := by
  constructor
  · intro h a ha b hb
    refine List.Pairwise.forall_of_forall_of_flip ?_ h ?_ ha hb
    · intro s _
      exact Role.not_conflicts_self s.role
    · exact h.imp fun hab hba => hab (Role.Conflicts.symm hba)
  · intro h
    exact List.pairwise_of_forall_mem_list h

theorem not_compatible_iff {signals : List Signal} :
    ¬Compatible signals ↔ ∃ a ∈ signals, ∃ b ∈ signals, a.Conflicts b := by
  rw [compatible_iff]
  constructor
  · intro h
    by_cases hconf : ∃ a ∈ signals, ∃ b ∈ signals, a.Conflicts b
    · exact hconf
    · refine absurd ?_ h
      intro a ha b hb hab
      exact hconf ⟨a, ha, b, hb, hab⟩
  · rintro ⟨a, ha, b, hb, hab⟩ h
    exact h a ha b hb hab

theorem KeyLess.trans {a b c : Nat × Nat} (hab : KeyLess a b) (hbc : KeyLess b c) :
    KeyLess a c := by
  unfold KeyLess at *
  omega

theorem KeyLess.of_not_left {a b c : Nat × Nat} (hab : ¬KeyLess a b) (hac : KeyLess a c) :
    KeyLess b c := by
  unfold KeyLess at *
  omega

theorem eq_of_not_keyLess {a b : Nat × Nat} (hab : ¬KeyLess a b) (hba : ¬KeyLess b a) :
    a = b := by
  unfold KeyLess at *
  ext <;> omega

/-- Everything before `winner` has a smaller key, and nothing behind it a greater one. -/
def LeadsBy (key : Signal → Nat × Nat) (signals : List Signal) (winner : Signal) : Prop :=
  ∃ before behind, signals = before ++ winner :: behind ∧
    (∀ s ∈ before, KeyLess (key s) (key winner)) ∧
    ∀ s ∈ behind, ¬KeyLess (key winner) (key s)

theorem LeadsBy.mem {key : Signal → Nat × Nat} {signals : List Signal} {winner : Signal}
    (h : LeadsBy key signals winner) : winner ∈ signals := by
  obtain ⟨before, behind, rfl, _, _⟩ := h
  simp

theorem LeadsBy.not_keyLess {key : Signal → Nat × Nat} {signals : List Signal}
    {winner s : Signal} (h : LeadsBy key signals winner) (hs : s ∈ signals) :
    ¬KeyLess (key winner) (key s) := by
  obtain ⟨before, behind, rfl, hbefore, hbehind⟩ := h
  rcases List.mem_append.mp hs with hs | hs
  · have := hbefore s hs
    unfold KeyLess at *
    omega
  · rcases List.mem_cons.mp hs with rfl | hs
    · unfold KeyLess
      omega
    · exact hbehind s hs

/-- Whichever of the two signals at the head has the greater key, the leader of the rest together
with it is the leader of the whole list. -/
private theorem leadsBy_cons_cons {key : Signal → Nat × Nat} {best s winner : Signal}
    {rest : List Signal}
    (h : LeadsBy key ((if KeyLess (key best) (key s) then s else best) :: rest) winner) :
    LeadsBy key (best :: s :: rest) winner := by
  obtain ⟨before, behind, heq, hbefore, hbehind⟩ := h
  split at heq
  case isTrue hless =>
    -- `best` moves into the part before the winner, which the new head leads to
    have hlead : KeyLess (key best) (key winner) := by
      cases before with
      | nil =>
        have hs : s = winner := (List.cons.inj heq).1
        exact hs ▸ hless
      | cons first before =>
        have hs : s = first := (List.cons.inj heq).1
        subst hs
        exact hless.trans (hbefore s (by simp))
    refine ⟨best :: before, behind, by rw [heq]; rfl, ?_, hbehind⟩
    intro t ht
    rcases List.mem_cons.mp ht with rfl | ht
    · exact hlead
    · exact hbefore t ht
  case isFalse hless =>
    cases before with
    | nil =>
      obtain ⟨rfl, rfl⟩ := List.cons.inj heq
      refine ⟨[], s :: rest, rfl, hbefore, ?_⟩
      intro t ht
      rcases List.mem_cons.mp ht with rfl | ht
      · exact hless
      · exact hbehind t ht
    | cons first before =>
      obtain ⟨rfl, rfl⟩ := List.cons.inj heq
      have hs : KeyLess (key s) (key winner) :=
        KeyLess.of_not_left hless (hbefore best (by simp))
      refine ⟨best :: s :: before, behind, rfl, ?_, hbehind⟩
      intro t ht
      simp only [List.mem_cons] at ht
      rcases ht with rfl | rfl | ht
      · exact hbefore t (by simp)
      · exact hs
      · exact hbefore t (by simp [ht])

private theorem foldl_leadsBy (key : Signal → Nat × Nat) (rest : List Signal) (first : Signal) :
    LeadsBy key (first :: rest)
      (rest.foldl (fun best s => if KeyLess (key best) (key s) then s else best) first) := by
  induction rest generalizing first with
  | nil => exact ⟨[], [], rfl, by simp, by simp⟩
  | cons s rest ih => exact leadsBy_cons_cons (ih _)

theorem firstGreatest_eq_none_iff {key : Signal → Nat × Nat} {signals : List Signal} :
    firstGreatest key signals = none ↔ signals = [] := by
  cases signals <;> simp [firstGreatest]

theorem leadsBy_of_firstGreatest {key : Signal → Nat × Nat} {signals : List Signal}
    {winner : Signal} (h : firstGreatest key signals = some winner) :
    LeadsBy key signals winner := by
  cases signals with
  | nil => exact absurd h (by simp [firstGreatest])
  | cons first rest =>
    obtain rfl := Option.some.inj h
    exact foldl_leadsBy key rest first

section MostSpecific

variable {signals : List Signal} {winner : Signal}

theorem mostSpecific_eq_none_iff : mostSpecific signals = none ↔ signals = [] :=
  firstGreatest_eq_none_iff

theorem mem_of_mostSpecific (h : mostSpecific signals = some winner) : winner ∈ signals :=
  (leadsBy_of_firstGreatest h).mem

theorem depth_le_of_mostSpecific (h : mostSpecific signals = some winner) {s : Signal}
    (hs : s ∈ signals) : s.role.depth ≤ winner.role.depth := by
  have hkey := (leadsBy_of_firstGreatest h).not_keyLess hs
  unfold KeyLess at hkey
  omega

/-- Where signals agree, the deepest role refines the role of each of them. -/
theorem refines_of_mostSpecific (hcompat : Compatible signals)
    (h : mostSpecific signals = some winner) {s : Signal} (hs : s ∈ signals) :
    winner.role.Refines s.role :=
  Role.refines_of_depth_le (compatible_iff.mp hcompat winner (mem_of_mostSpecific h) s hs)
    (depth_le_of_mostSpecific h hs)

/-- Of the signals of the deepest role the most confident is picked. -/
theorem confidence_le_of_mostSpecific (h : mostSpecific signals = some winner) {s : Signal}
    (hs : s ∈ signals) (hrole : s.role = winner.role) : s.confidence ≤ winner.confidence := by
  have hkey := (leadsBy_of_firstGreatest h).not_keyLess hs
  unfold KeyLess at hkey
  rw [hrole] at hkey
  change s.confidence.rank ≤ winner.confidence.rank
  omega

end MostSpecific

section MostConfident

variable {signals : List Signal} {winner : Signal}

theorem mem_of_mostConfident (h : mostConfident signals = some winner) : winner ∈ signals :=
  (leadsBy_of_firstGreatest h).mem

theorem confidence_le_of_mostConfident (h : mostConfident signals = some winner) {s : Signal}
    (hs : s ∈ signals) : s.confidence ≤ winner.confidence := by
  have hkey := (leadsBy_of_firstGreatest h).not_keyLess hs
  unfold KeyLess at hkey
  change s.confidence.rank ≤ winner.confidence.rank
  omega

/-- Of the most confident signals the one of the deepest role is picked. -/
theorem depth_le_of_mostConfident (h : mostConfident signals = some winner) {s : Signal}
    (hs : s ∈ signals) (hconfidence : s.confidence = winner.confidence) :
    s.role.depth ≤ winner.role.depth := by
  have hkey := (leadsBy_of_firstGreatest h).not_keyLess hs
  unfold KeyLess at hkey
  rw [hconfidence] at hkey
  omega

end MostConfident

end ColumnRoles.Resolver
