import ColumnRoles.Proofs.Winner

/-!
Evidence that agrees. The roles of signals that agree lie on one path, and neither walk drops any of
them, so a decision that rests on definitive evidence ends at the deepest role of all, which every
signal supports. Complimentary signals alone are not followed that far: the most confident of them
decide, and the others lie above their deepest role or below it.
-/
namespace ColumnRoles.Resolver

/-- A role that is named, and lies deeper than every other that is. -/
def Deepest (signals : List Signal) (role : Role) : Prop :=
  (∃ s ∈ signals, s.role = role) ∧ ∀ s ∈ signals, s.role ≠ role → s.role.depth < role.depth

instance (signals : List Signal) (role : Role) : Decidable (Deepest signals role) :=
  inferInstanceAs (Decidable ((∃ s ∈ signals, s.role = role) ∧
    ∀ s ∈ signals, s.role ≠ role → s.role.depth < role.depth))

section Agreeing

variable {signals : List Signal} {winner s : Signal}

/-- On a path the role that refines all others is the deepest. -/
theorem deepest_of_refines (hwinner : winner ∈ signals)
    (h : ∀ s ∈ signals, winner.role.Refines s.role) : Deepest signals winner.role := by
  refine ⟨⟨winner, hwinner, rfl⟩, ?_⟩
  intro s hs hne
  rcases h s hs with heq | hstrict
  · exact absurd heq.symm hne
  · exact hstrict.depth_lt

variable (hagree : Compatible signals)
include hagree

theorem not_contradicted_of_agree (hs : s ∈ signals) : ¬Contradicted signals s := by
  rintro ⟨_, d, hd, _, hconflict⟩
  exact compatible_iff.mp hagree d hd s hs hconflict

/-- A signal that agrees with the base lies above it, or among the refinements. -/
theorem base_refines_or_mem_refinements {base : Signal}
    (hbase : mostSpecific (ground signals).accepted = some base) (hs : s ∈ signals) :
    base.role.Refines s.role ∨ s ∈ refinements signals base.role := by
  by_cases hdef : s.Definitive
  · have hmem := (ground_sorts signals).mem_accepted_of_agree (hagree.filter _)
      (mem_definitive.mpr ⟨hs, hdef⟩)
    exact Or.inl (refines_of_mostSpecific (ground_sorts signals).accepted_agree hbase hmem)
  · have hnot := compatible_iff.mp hagree s hs base (base_mem hbase).1
    rcases Role.not_conflicts_iff.mp hnot with (heq | hstrict) | habove
    · exact Or.inl (Or.inl heq.symm)
    · have hclear := not_contradicted_of_agree hagree hs
      exact Or.inr (mem_refinements.mpr ⟨hs, hdef, hclear, hstrict⟩)
    · exact Or.inl habove

/-- Neither walk loses any of the signals, so the winner is the most specific of all. -/
theorem Wins.refines_of_agree (h : Wins signals winner) (hdefinitive : ∃ s ∈ signals, s.Definitive)
    (hs : s ∈ signals) : winner.role.Refines s.role := by
  have accepted : ∀ {base : Signal}, s ∈ refinements signals base.role →
      s ∈ (deepening signals base).accepted := fun hmem =>
    (deepening_sorts signals _).mem_accepted_of_agree (hagree.filter _) hmem
  cases h with
  | base winner hbase hnone =>
    rcases base_refines_or_mem_refinements hagree hbase hs with habove | hmem
    · exact habove
    · exact absurd (accepted hmem) (by simp [hnone])
  | refinement base winner hbase hpick =>
    rcases base_refines_or_mem_refinements hagree hbase hs with habove | hmem
    · have hdeeper := (mem_refinements.mp (mem_refinements_of_pick hpick)).2.2.2.refines
      exact hdeeper.trans habove
    · exact refines_of_mostSpecific (deepening_sorts signals base).accepted_agree hpick
        (accepted hmem)
  | hint winner hhints _ hwinner =>
    obtain ⟨d, hd, hdef⟩ := hdefinitive
    exact absurd hdef (hhints d hd)

/-- Definitive evidence that agrees resolves the column. -/
theorem resolved_of_agree (column : ColumnRef) (hdefinitive : ∃ s ∈ signals, s.Definitive) :
    ∃ role, (solve column signals).resolution = .resolved role := by
  obtain ⟨d, hd, hdef⟩ := hdefinitive
  have hmem := (ground_sorts signals).mem_accepted_of_agree (hagree.filter _)
    (mem_definitive.mpr ⟨hd, hdef⟩)
  have hsome : mostSpecific (ground signals).accepted ≠ none :=
    mt mostSpecific_eq_none_iff.mp (List.ne_nil_of_mem hmem)
  obtain ⟨base, hbase⟩ := Option.ne_none_iff_exists'.mp hsome
  rw [solve_decided column hbase]
  exact ⟨_, rfl⟩

/-- A role that refines all others is borne out by every signal. -/
theorem supportingReasons_of_agree {role : Role} (h : ∀ s ∈ signals, role.Refines s.role) :
    supportingReasons signals role = signals.map (·.reason) := by
  unfold supportingReasons
  rw [List.filter_eq_self.mpr]
  intro s hs
  simpa using ⟨h s hs, not_contradicted_of_agree hagree hs⟩

/-- Among the most confident of complimentary signals the deepest role is picked. -/
theorem deepest_of_mostConfident (hwinner : mostConfident signals = some winner) :
    Deepest (signals.filter (·.confidence = winner.confidence)) winner.role := by
  have hmem := mem_of_mostConfident hwinner
  refine deepest_of_refines (by simp [hmem]) ?_
  intro s hs
  obtain ⟨hs, hconfidence⟩ := List.mem_filter.mp hs
  exact Role.refines_of_depth_le (compatible_iff.mp hagree winner hmem s hs)
    (depth_le_of_mostConfident hwinner hs (of_decide_eq_true hconfidence))

end Agreeing

/-- Evidence that agrees is followed all the way down. With a definitive signal among signals that
do not conflict the column is resolved to the deepest role that any of them names, and the reasons
are those of all signals in the order of emission. Complimentary signals alone resolve the column to
the deepest role that the most confident of them name, with their confidence, and the role of every
signal lies on one path with it. -/
theorem agreement_followed_down (column : ColumnRef) {signals : List Signal}
    (hagree : ∀ a ∈ signals, ∀ b ∈ signals, ¬a.Conflicts b) :
    ((∃ s ∈ signals, s.Definitive) → ∃ role,
      (solve column signals).resolution = .resolved role ∧ Deepest signals role ∧
      (∀ s ∈ signals, role.Refines s.role) ∧
      (solve column signals).reasons = signals.map (·.reason)) ∧
    (signals ≠ [] → (∀ s ∈ signals, ¬s.Definitive) → ∃ role confidence,
      (solve column signals).resolution = .resolved role ∧
      (solve column signals).confidence = some confidence ∧ Highest signals confidence ∧
      Deepest (signals.filter (·.confidence = confidence)) role ∧
      ∀ s ∈ signals, role.Refines s.role ∨ s.role.Refines role) := by
  rw [← compatible_iff] at hagree
  constructor
  · intro hdefinitive
    obtain ⟨role, hresolved⟩ := resolved_of_agree hagree column hdefinitive
    obtain ⟨winner, problems, hwins, rfl, hsolve⟩ := exists_wins hresolved
    have hrefines : ∀ s ∈ signals, winner.role.Refines s.role := fun s hs =>
      hwins.refines_of_agree hagree hdefinitive hs
    refine ⟨winner.role, hresolved, deepest_of_refines hwins.mem hrefines, hrefines, ?_⟩
    rw [hsolve]
    exact supportingReasons_of_agree hagree hrefines
  · intro hne hhints
    have hsome : mostConfident signals ≠ none := mt firstGreatest_eq_none_iff.mp hne
    obtain ⟨winner, hwinner⟩ := Option.ne_none_iff_exists'.mp hsome
    have hmem := mem_of_mostConfident hwinner
    rw [solve_hintsAgree column hhints hagree hwinner]
    refine ⟨winner.role, winner.confidence, rfl, rfl, ⟨⟨winner, hmem, rfl⟩, ?_⟩,
      deepest_of_mostConfident hagree hwinner, ?_⟩
    · intro s hs
      exact confidence_le_of_mostConfident hwinner hs
    · intro s hs
      exact Role.not_conflicts_iff.mp (compatible_iff.mp hagree winner hmem s hs)

def harmoniousEvidence : List Signal :=
  [⟨layeredColumn, .idUnique, .high, true, "all values distinct"⟩,
    ⟨layeredColumn, .idUnknown, .forSure, false, "identifier by name"⟩,
    ⟨layeredColumn, .idPrimary, .low, true, "first column"⟩,
    ⟨layeredColumn, .idUnknown, .medium, true, "whole numbers"⟩]

theorem agreement_followed_down_harmonious :
    (∀ a ∈ harmoniousEvidence, ∀ b ∈ harmoniousEvidence, ¬a.Conflicts b) ∧
      (∃ s ∈ harmoniousEvidence, s.Definitive) ∧
      Deepest harmoniousEvidence .idPrimary ∧
      (∃ role, (solve layeredColumn harmoniousEvidence).resolution = .resolved role ∧
        Deepest harmoniousEvidence role ∧ (∀ s ∈ harmoniousEvidence, role.Refines s.role) ∧
        (solve layeredColumn harmoniousEvidence).reasons =
          harmoniousEvidence.map (·.reason)) ∧
      (∀ s ∈ harmoniousEvidence.drop 2, ¬s.Definitive) ∧
      ∃ role confidence,
        (solve layeredColumn (harmoniousEvidence.drop 2)).resolution = .resolved role ∧
        (solve layeredColumn (harmoniousEvidence.drop 2)).confidence = some confidence ∧
        Highest (harmoniousEvidence.drop 2) confidence ∧
        Deepest ((harmoniousEvidence.drop 2).filter (·.confidence = confidence)) role ∧
        ∀ s ∈ harmoniousEvidence.drop 2, role.Refines s.role ∨ s.role.Refines role := by
  have hagree : ∀ a ∈ harmoniousEvidence, ∀ b ∈ harmoniousEvidence, ¬a.Conflicts b := by decide
  have hdefinitive : ∃ s ∈ harmoniousEvidence, s.Definitive := by decide
  have hhints : ∀ s ∈ harmoniousEvidence.drop 2, ¬s.Definitive := by decide
  have hagree' : ∀ a ∈ harmoniousEvidence.drop 2, ∀ b ∈ harmoniousEvidence.drop 2,
      ¬a.Conflicts b := by decide
  exact ⟨hagree, hdefinitive, by decide,
    (agreement_followed_down layeredColumn hagree).1 hdefinitive, hhints,
    (agreement_followed_down layeredColumn hagree').2 (by decide) hhints⟩

end ColumnRoles.Resolver
