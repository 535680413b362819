import ColumnRoles.Proofs.Tiers

/-!
The ways in which a column is solved, and when each of them occurs. Every decision is one of five
kinds, told apart by the definitive signals, by agreement and by what the walk accepted. From
there the causes of an unresolved column are characterised on the signals themselves: the walk
accepts nothing exactly when its top tier contradicts itself, so lower tiers and complimentary
evidence have no part in a tie. A resolved column owes its role to one signal, the base of the
definitive walk, a refinement of it, or the most confident of complimentary signals that agree.
-/
namespace ColumnRoles.Resolver

def ground (signals : List Signal) : Chain :=
  Chain.walk (signals.filter fun s => s.Definitive)

def deepening (signals : List Signal) (base : Signal) : Chain :=
  Chain.walk (refinements signals base.role)

def finalist (signals : List Signal) (base : Signal) : Signal :=
  (mostSpecific (deepening signals base).accepted).getD base

def losses (signals : List Signal) : List String :=
  (signals.filter fun s => Contradicted signals s).map ignoredProblem ++
    (ground signals).overruled.map overruledProblem

def decidedProblems (signals : List Signal) (base : Signal) : List String :=
  losses signals ++ stoppedProblems base.role (ground signals).tied ++
    refinementProblems base.role (deepening signals base)

/-- The kinds of decision, each with everything the decision holds but the words of a problem. -/
inductive Outcome (column : ColumnRef) (signals : List Signal) : Decision → Prop
  | noSignals (text : String) (hnil : signals = []) :
      Outcome column signals
        { Decision.unresolved column .noSignals signals with problems := [text] }
  | hintsConflict (text : String) (hhints : ∀ s ∈ signals, ¬s.Definitive)
      (hconflict : ¬Compatible signals) :
      Outcome column signals
        { Decision.unresolved column .conflictingComplimentary signals with problems := [text] }
  | hintsAgree (winner : Signal) (hhints : ∀ s ∈ signals, ¬s.Definitive)
      (hagree : Compatible signals) (hwinner : mostConfident signals = some winner) :
      Outcome column signals (settle column signals winner [])
  | tied (text : String) (hdefinitive : ∃ s ∈ signals, s.Definitive)
      (hnil : (ground signals).accepted = []) :
      Outcome column signals
        { Decision.unresolved column .tiedDefinitive signals with
          problems := losses signals ++ [text] }
  | decided (base : Signal) (hbase : mostSpecific (ground signals).accepted = some base) :
      Outcome column signals
        (settle column signals (finalist signals base) (decidedProblems signals base))

section Kinds

variable (column : ColumnRef) {signals : List Signal}

theorem solve_hints (hhints : ∀ s ∈ signals, ¬s.Definitive) :
    solve column signals = solveComplimentary column signals := by
  refine if_neg ?_
  rintro ⟨s, hs, hdef⟩
  exact hhints s hs hdef

theorem solve_hintsConflict (hhints : ∀ s ∈ signals, ¬s.Definitive)
    (hconflict : ¬Compatible signals) :
    ∃ text, solve column signals =
      { Decision.unresolved column .conflictingComplimentary signals with
        problems := [text] } := by
  rw [solve_hints column hhints, solveComplimentary, if_neg hconflict]
  exact ⟨_, rfl⟩

theorem solve_hintsAgree (hhints : ∀ s ∈ signals, ¬s.Definitive) (hagree : Compatible signals)
    {winner : Signal} (hwinner : mostConfident signals = some winner) :
    solve column signals = settle column signals winner [] := by
  rw [solve_hints column hhints, solveComplimentary, if_pos hagree, hwinner]

theorem solve_tied (hdefinitive : ∃ s ∈ signals, s.Definitive)
    (hnil : (ground signals).accepted = []) :
    ∃ text, solve column signals =
      { Decision.unresolved column .tiedDefinitive signals with
        problems := losses signals ++ [text] } := by
  have hnone : mostSpecific (Chain.walk (signals.filter fun s => s.Definitive)).accepted = none :=
    mostSpecific_eq_none_iff.mpr hnil
  rw [solve, if_pos hdefinitive]
  simp only [solveDefinitive, hnone]
  exact ⟨_, rfl⟩

theorem mem_definitive {s : Signal} :
    (s ∈ signals.filter fun s => s.Definitive) ↔ s ∈ signals ∧ s.Definitive := by
  simp

theorem ground_sorts (signals : List Signal) :
    Chain.Sorts (signals.filter fun s => s.Definitive) (ground signals) :=
  Chain.walk_sorts _

theorem deepening_sorts (signals : List Signal) (base : Signal) :
    Chain.Sorts (refinements signals base.role) (deepening signals base) :=
  Chain.walk_sorts _

/-- A base was accepted from definitive signals, which are then not tied at the top. -/
theorem exists_definitive_of_base {base : Signal}
    (hbase : mostSpecific (ground signals).accepted = some base) :
    (∃ s ∈ signals, s.Definitive) ∧ (ground signals).accepted ≠ [] := by
  have hmem := mem_of_mostSpecific hbase
  have hdef := mem_definitive.mp ((ground_sorts signals).accepted_mem hmem)
  exact ⟨⟨base, hdef⟩, List.ne_nil_of_mem hmem⟩

theorem solve_decided {base : Signal}
    (hbase : mostSpecific (ground signals).accepted = some base) :
    solve column signals =
      settle column signals (finalist signals base) (decidedProblems signals base) := by
  have hsome : mostSpecific (Chain.walk (signals.filter fun s => s.Definitive)).accepted =
      some base := hbase
  rw [solve, if_pos (exists_definitive_of_base hbase).1]
  simp only [solveDefinitive, hsome]
  rfl

end Kinds

theorem outcome_solve (column : ColumnRef) (signals : List Signal) :
    Outcome column signals (solve column signals) := by
  by_cases hdefinitive : ∃ s ∈ signals, s.Definitive
  · cases hbase : mostSpecific (ground signals).accepted with
    | none =>
      have hnil := mostSpecific_eq_none_iff.mp hbase
      obtain ⟨text, htext⟩ := solve_tied column hdefinitive hnil
      exact htext ▸ Outcome.tied text hdefinitive hnil
    | some base => exact solve_decided column hbase ▸ Outcome.decided base hbase
  · have hhints : ∀ s ∈ signals, ¬s.Definitive := by
      intro s hs hdef
      exact hdefinitive ⟨s, hs, hdef⟩
    by_cases hagree : Compatible signals
    · cases hwinner : mostConfident signals with
      | none =>
        obtain rfl := firstGreatest_eq_none_iff.mp hwinner
        exact Outcome.noSignals _ rfl
      | some winner =>
        exact solve_hintsAgree column hhints hagree hwinner ▸
          Outcome.hintsAgree winner hhints hagree hwinner
    · obtain ⟨text, htext⟩ := solve_hintsConflict column hhints hagree
      exact htext ▸ Outcome.hintsConflict text hhints hagree

/-- The outcome is the base itself, or the most specific accepted refinement. -/
theorem finalist_cases (signals : List Signal) (base : Signal) :
    (deepening signals base).accepted = [] ∧ finalist signals base = base ∨
      mostSpecific (deepening signals base).accepted = some (finalist signals base) := by
  unfold finalist
  cases hpick : mostSpecific (deepening signals base).accepted with
  | none => exact Or.inl ⟨mostSpecific_eq_none_iff.mp hpick, rfl⟩
  | some winner => exact Or.inr rfl

theorem finalist_eq_base {signals : List Signal} {base : Signal}
    (h : (deepening signals base).accepted = []) : finalist signals base = base := by
  rw [finalist, mostSpecific_eq_none_iff.mpr h]
  rfl

theorem finalist_eq_winner {signals : List Signal} {base winner : Signal}
    (h : mostSpecific (deepening signals base).accepted = some winner) :
    finalist signals base = winner := by
  rw [finalist, h]
  rfl

/-- The signal to which a resolved column owes its role: the base that definitive signals agree on,
a refinement of it, or the most confident signal where all are complimentary and agree. -/
inductive Wins (signals : List Signal) : Signal → Prop
  | base (winner : Signal) (hbase : mostSpecific (ground signals).accepted = some winner)
      (hnone : (deepening signals winner).accepted = []) : Wins signals winner
  | refinement (base winner : Signal)
      (hbase : mostSpecific (ground signals).accepted = some base)
      (hpick : mostSpecific (deepening signals base).accepted = some winner) :
      Wins signals winner
  | hint (winner : Signal) (hhints : ∀ s ∈ signals, ¬s.Definitive)
      (hagree : Compatible signals) (hwinner : mostConfident signals = some winner) :
      Wins signals winner

theorem exists_wins {column : ColumnRef} {signals : List Signal} {role : Role}
    (hresolved : (solve column signals).resolution = .resolved role) :
    ∃ winner problems, Wins signals winner ∧ winner.role = role ∧
      solve column signals = settle column signals winner problems := by
  have houtcome := outcome_solve column signals
  generalize solve column signals = decision at houtcome hresolved ⊢
  cases houtcome with
  | noSignals text hnil => cases hresolved
  | hintsConflict text hhints hconflict => cases hresolved
  | hintsAgree winner hhints hagree hwinner =>
    exact ⟨winner, [], .hint winner hhints hagree hwinner, Resolution.resolved.inj hresolved, rfl⟩
  | tied text hdefinitive hnil => cases hresolved
  | decided base hbase =>
    have hrole := Resolution.resolved.inj hresolved
    refine ⟨finalist signals base, decidedProblems signals base, ?_, hrole, rfl⟩
    rcases finalist_cases signals base with ⟨hnone, heq⟩ | hpick
    · rw [heq]
      exact .base base hbase hnone
    · exact .refinement base _ hbase hpick

def HintsConflict (signals : List Signal) : Prop :=
  signals ≠ [] ∧ (∀ s ∈ signals, ¬s.Definitive) ∧
    ∃ a ∈ signals, ∃ b ∈ signals, a.Conflicts b

instance (signals : List Signal) : Decidable (HintsConflict signals) :=
  inferInstanceAs (Decidable (signals ≠ [] ∧ (∀ s ∈ signals, ¬s.Definitive) ∧
    ∃ a ∈ signals, ∃ b ∈ signals, a.Conflicts b))

/-- Two conflicting definitive signals, and no definitive signal is more confident than either. -/
def TopTied (signals : List Signal) : Prop :=
  ∃ a ∈ signals, ∃ b ∈ signals, a.Definitive ∧ b.Definitive ∧ a.Conflicts b ∧
    ∀ s ∈ signals, s.Definitive → s.confidence ≤ a.confidence ∧ s.confidence ≤ b.confidence

instance (signals : List Signal) : Decidable (TopTied signals) :=
  inferInstanceAs (Decidable (∃ a ∈ signals, ∃ b ∈ signals,
    a.Definitive ∧ b.Definitive ∧ a.Conflicts b ∧
      ∀ s ∈ signals, s.Definitive →
        s.confidence ≤ a.confidence ∧ s.confidence ≤ b.confidence))

/-- Definitive evidence is accepted at all unless its top tier contradicts itself. -/
theorem ground_accepted_eq_nil_iff {signals : List Signal}
    (hdefinitive : ∃ s ∈ signals, s.Definitive) :
    (ground signals).accepted = [] ↔ TopTied signals := by
  have hne : (signals.filter fun s => s.Definitive) ≠ [] := by
    obtain ⟨s, hs, hdef⟩ := hdefinitive
    exact List.ne_nil_of_mem (mem_definitive.mpr ⟨hs, hdef⟩)
  rw [(ground_sorts signals).accepted_eq_nil_iff hne]
  simp only [mem_definitive]
  constructor
  · rintro ⟨a, ⟨ha, hadef⟩, b, ⟨hb, hbdef⟩, hab, htop⟩
    exact ⟨a, ha, b, hb, hadef, hbdef, hab, fun s hs hdef => htop s ⟨hs, hdef⟩⟩
  · rintro ⟨a, ha, b, hb, hadef, hbdef, hab, htop⟩
    exact ⟨a, ⟨ha, hadef⟩, b, ⟨hb, hbdef⟩, hab, fun s hs => htop s hs.1 hs.2⟩

theorem ne_nil_of_definitive {signals : List Signal} (h : ∃ s ∈ signals, s.Definitive) :
    signals ≠ [] := by
  obtain ⟨s, hs, _⟩ := h
  exact List.ne_nil_of_mem hs

theorem not_topTied_of_hints {signals : List Signal} (h : ∀ s ∈ signals, ¬s.Definitive) :
    ¬TopTied signals := by
  rintro ⟨a, ha, b, hb, hadef, _⟩
  exact h a ha hadef

theorem not_hintsConflict_of_definitive {signals : List Signal}
    (h : ∃ s ∈ signals, s.Definitive) : ¬HintsConflict signals := by
  rintro ⟨_, hhints, _⟩
  obtain ⟨s, hs, hdef⟩ := h
  exact hhints s hs hdef

/-- Neither lower tiers nor complimentary evidence have a part in a tie. -/
theorem tied_iff_topTied {column : ColumnRef} {signals : List Signal} :
    (solve column signals).resolution = .unresolved .tiedDefinitive ↔ TopTied signals := by
  have houtcome := outcome_solve column signals
  generalize solve column signals = decision at houtcome
  cases houtcome with
  | noSignals text hnil => simp [Decision.unresolved, hnil, TopTied]
  | hintsConflict text hhints hconflict =>
    simp [Decision.unresolved, not_topTied_of_hints hhints]
  | hintsAgree winner hhints hagree hwinner => simp [settle, not_topTied_of_hints hhints]
  | tied text hdefinitive hnil =>
    simp [Decision.unresolved, (ground_accepted_eq_nil_iff hdefinitive).mp hnil]
  | decided base hbase =>
    obtain ⟨hdefinitive, haccepted⟩ := exists_definitive_of_base hbase
    simp [settle, mt (ground_accepted_eq_nil_iff hdefinitive).mpr haccepted]

/-- A column is left unresolved for no signals, for hints that conflict without definitive
evidence, or for a contradiction at the top of the definitive evidence, and in no other case. An
unresolved column has neither a confidence nor reasons, a resolved one has a confidence. -/
theorem unresolved_causes (column : ColumnRef) (signals : List Signal) :
    ((solve column signals).resolution = .unresolved .noSignals ↔ signals = []) ∧
    ((solve column signals).resolution = .unresolved .conflictingComplimentary ↔
      HintsConflict signals) ∧
    ((solve column signals).resolution = .unresolved .tiedDefinitive ↔ TopTied signals) ∧
    ((∃ role confidence, (solve column signals).resolution = .resolved role ∧
        (solve column signals).confidence = some confidence) ↔
      signals ≠ [] ∧ ¬HintsConflict signals ∧ ¬TopTied signals) ∧
    ((∃ cause, (solve column signals).resolution = .unresolved cause) →
      (solve column signals).confidence = none ∧ (solve column signals).reasons = []) := by
  have h := outcome_solve column signals
  generalize solve column signals = decision at h ⊢
  cases h with
  | noSignals text hnil =>
    subst hnil
    have hconflict : ¬HintsConflict [] := by decide
    have htied : ¬TopTied [] := by decide
    simp [Decision.unresolved, hconflict, htied]
  | hintsConflict text hhints hdisagree =>
    obtain ⟨a, ha, b, hb, hab⟩ := not_compatible_iff.mp hdisagree
    have hne : signals ≠ [] := List.ne_nil_of_mem ha
    have hconflict : HintsConflict signals := ⟨hne, hhints, a, ha, b, hb, hab⟩
    have htied := not_topTied_of_hints hhints
    simp [Decision.unresolved, hne, hconflict, htied]
  | hintsAgree winner hhints hagree hwinner =>
    have hne : signals ≠ [] := List.ne_nil_of_mem (mem_of_mostConfident hwinner)
    have hconflict : ¬HintsConflict signals := by
      rintro ⟨_, _, a, ha, b, hb, hab⟩
      exact compatible_iff.mp hagree a ha b hb hab
    have htied := not_topTied_of_hints hhints
    simp [settle, hne, hconflict, htied]
  | tied text hdefinitive hnil =>
    have hne := ne_nil_of_definitive hdefinitive
    have hconflict := not_hintsConflict_of_definitive hdefinitive
    have htied := (ground_accepted_eq_nil_iff hdefinitive).mp hnil
    simp [Decision.unresolved, hne, hconflict, htied]
  | decided base hbase =>
    obtain ⟨hdefinitive, haccepted⟩ := exists_definitive_of_base hbase
    have hne := ne_nil_of_definitive hdefinitive
    have hconflict := not_hintsConflict_of_definitive hdefinitive
    have htied : ¬TopTied signals := mt (ground_accepted_eq_nil_iff hdefinitive).mpr haccepted
    simp [settle, hne, hconflict, htied]

end ColumnRoles.Resolver
