import ColumnRoles.Proofs.Rearrangement

/-!
What the problems of a decision tell. There are none exactly when the evidence is there and agrees:
every conflict is found by the walk through the definitive signals, between definitive and
complimentary ones, or by the walk through the refinements. A signal that the outcome contradicts
is quoted in some problem, unless it is definitive and stands below a tier at which the walk
stopped. Such a signal was never looked at, and the problems say nothing of it.
-/
namespace ColumnRoles.Resolver

theorem mem_refinements {signals : List Signal} {base : Role} {s : Signal} :
    s ∈ refinements signals base ↔ s ∈ signals ∧ ¬s.Definitive ∧ ¬Contradicted signals s ∧
      s.role.StrictlyRefines base := by
  simp [refinements]

theorem mem_contradicted {signals : List Signal} {s : Signal} :
    (s ∈ signals.filter fun s => Contradicted signals s) ↔
      s ∈ signals ∧ Contradicted signals s := by
  simp

theorem not_contradicted_iff {signals : List Signal} {s : Signal} :
    ¬Contradicted signals s ↔
      s.Definitive ∨ ∀ d ∈ signals, d.Definitive → ¬d.Conflicts s := by
  rw [Contradicted, not_and, Decidable.or_iff_not_imp_left]
  simp only [not_exists, not_and]

/-- A complimentary signal that is not contradicted agrees with every definitive one. -/
theorem agrees_of_not_contradicted {signals : List Signal} {s d : Signal}
    (hhint : ¬s.Definitive) (hnot : ¬Contradicted signals s) (hd : d ∈ signals)
    (hdef : d.Definitive) : ¬d.Conflicts s :=
  (not_contradicted_iff.mp hnot).resolve_left hhint d hd hdef

section Decided

variable {signals : List Signal} {base : Signal}
  (hbase : mostSpecific (ground signals).accepted = some base)
include hbase

theorem base_mem : base ∈ signals ∧ base.Definitive :=
  mem_definitive.mp ((ground_sorts signals).accepted_mem (mem_of_mostSpecific hbase))

theorem agrees_base {s : Signal} (hhint : ¬s.Definitive) (hnot : ¬Contradicted signals s) :
    ¬s.role.Conflicts base.role := by
  obtain ⟨hmem, hdef⟩ := base_mem hbase
  exact fun h => agrees_of_not_contradicted hhint hnot hmem hdef h.symm

/-- Conflicting complimentary signals that no definitive one contradicts refine the base. -/
theorem mem_refinements_of_conflicts {a : Signal} {role : Role} (ha : a ∈ signals)
    (hhint : ¬a.Definitive) (hnot : ¬Contradicted signals a) (hrole : ¬role.Conflicts base.role)
    (hconflict : a.role.Conflicts role) : a ∈ refinements signals base.role := by
  have hstrict := hconflict.strictlyRefines (agrees_base hbase hhint hnot) hrole
  exact mem_refinements.mpr ⟨ha, hhint, hnot, hstrict⟩

end Decided

section Finalist

variable {signals : List Signal} {base : Signal}

theorem mem_refinements_of_pick {winner : Signal}
    (hpick : mostSpecific (deepening signals base).accepted = some winner) :
    winner ∈ refinements signals base.role :=
  (deepening_sorts signals base).accepted_mem (mem_of_mostSpecific hpick)

theorem finalist_refines (signals : List Signal) (base : Signal) :
    (finalist signals base).role.Refines base.role := by
  rcases finalist_cases signals base with ⟨_, heq⟩ | hpick
  · rw [heq]
    exact Role.Refines.refl _
  · exact (mem_refinements.mp (mem_refinements_of_pick hpick)).2.2.2.refines

/-- Signals that all agree with one role cannot tie, unless the role is generic: there is a single
path to what they could still say. -/
theorem Chain.Sorts.tied_eq_nil {chain : Chain} (h : Chain.Sorts signals chain) {role : Role}
    (hrole : role.parent ≠ none) (hagree : ∀ t ∈ chain.tied, ¬t.role.Conflicts role) :
    chain.tied = [] := by
  by_contra htied
  obtain ⟨a, ha, b, hb, hab⟩ := not_compatible_iff.mp (h.tied_disagree htied)
  exact Role.not_conflicts_of_agree_nongeneric hrole (hagree a ha) (hagree b hb) hab

/-- Refinements cannot tie once one of them is accepted: all of them agree with it. -/
theorem deepening_tied_eq_nil (h : (deepening signals base).accepted ≠ []) :
    (deepening signals base).tied = [] := by
  have hsorts := deepening_sorts signals base
  obtain ⟨x, hx⟩ := List.exists_mem_of_ne_nil _ h
  have hstrict := (mem_refinements.mp (hsorts.accepted_mem hx)).2.2.2
  refine hsorts.tied_eq_nil hstrict.parent_ne_none ?_
  intro t ht hconflict
  exact hsorts.tied_fit t ht x hx hconflict.symm

end Finalist

theorem losses_eq_nil_iff {signals : List Signal} :
    losses signals = [] ↔
      (∀ s ∈ signals, ¬Contradicted signals s) ∧ (ground signals).overruled = [] := by
  simp [losses, List.filter_eq_nil_iff]

theorem stoppedProblems_eq_nil_iff {base : Role} {tied : List Signal} :
    stoppedProblems base tied = [] ↔ tied = [] := by
  simp [stoppedProblems]

theorem refinementProblems_eq_nil_iff {base : Role} {refined : Chain} :
    refinementProblems base refined = [] ↔ refined.overruled = [] ∧ refined.tied = [] := by
  simp [refinementProblems]

theorem decidedProblems_eq_nil_iff {signals : List Signal} {base : Signal}
    (hbase : mostSpecific (ground signals).accepted = some base) :
    decidedProblems signals base = [] ↔ Compatible signals := by
  have hground := (ground_sorts signals).quiet_iff
  have hdeep := (deepening_sorts signals base).quiet_iff
  rw [decidedProblems, List.append_eq_nil_iff, List.append_eq_nil_iff, losses_eq_nil_iff,
    stoppedProblems_eq_nil_iff, refinementProblems_eq_nil_iff, hdeep]
  constructor
  · rintro ⟨⟨⟨hnot, hoverruled⟩, htied⟩, hrefined⟩
    have hdefinitive := compatible_iff.mp (hground.mp ⟨hoverruled, htied⟩)
    refine compatible_iff.mpr ?_
    intro a ha b hb hab
    by_cases hadef : a.Definitive
    · by_cases hbdef : b.Definitive
      · exact hdefinitive a (mem_definitive.mpr ⟨ha, hadef⟩) b
          (mem_definitive.mpr ⟨hb, hbdef⟩) hab
      · exact agrees_of_not_contradicted hbdef (hnot b hb) ha hadef hab
    · by_cases hbdef : b.Definitive
      · exact agrees_of_not_contradicted hadef (hnot a ha) hb hbdef hab.symm
      · -- both agree with the base, so the second walk meets both of them
        have haref := mem_refinements_of_conflicts hbase ha hadef (hnot a ha)
          (agrees_base hbase hbdef (hnot b hb)) hab
        have hbref := mem_refinements_of_conflicts hbase hb hbdef (hnot b hb)
          (agrees_base hbase hadef (hnot a ha)) hab.symm
        exact compatible_iff.mp hrefined a haref b hbref hab
  · intro hagree
    obtain ⟨hoverruled, htied⟩ := hground.mpr (hagree.filter _)
    refine ⟨⟨⟨?_, hoverruled⟩, htied⟩, hagree.filter _⟩
    rintro s hs ⟨_, d, hd, _, hconflict⟩
    exact compatible_iff.mp hagree d hd s hs hconflict

/-- Contradictory evidence is never passed over: there are no problems exactly when there are
signals and no two of them conflict. A column without problems is always resolved. -/
theorem problems_eq_nil_iff (column : ColumnRef) (signals : List Signal) :
    ((solve column signals).problems = [] ↔
      signals ≠ [] ∧ ∀ a ∈ signals, ∀ b ∈ signals, ¬a.Conflicts b) ∧
    ((solve column signals).problems = [] → (solve column signals).isResolved = true) := by
  have houtcome := outcome_solve column signals
  generalize solve column signals = decision at houtcome
  rw [← compatible_iff]
  cases houtcome with
  | noSignals text hnil => simp [hnil]
  | hintsConflict text hhints hconflict => simp [hconflict]
  | hintsAgree winner hhints hagree hwinner =>
    have hne : signals ≠ [] := List.ne_nil_of_mem (mem_of_mostConfident hwinner)
    simp [settle, hne, hagree, Decision.isResolved, Resolution.isResolved]
  | tied text hdefinitive hnil =>
    obtain ⟨a, ha, b, hb, _, _, hab, _⟩ := (ground_accepted_eq_nil_iff hdefinitive).mp hnil
    have hconflict : ¬Compatible signals := not_compatible_iff.mpr ⟨a, ha, b, hb, hab⟩
    simp [hconflict]
  | decided base hbase =>
    have hne := ne_nil_of_definitive (exists_definitive_of_base hbase).1
    simp [settle, decidedProblems_eq_nil_iff hbase, hne, Decision.isResolved,
      Resolution.isResolved]

end ColumnRoles.Resolver
