import ColumnRoles.Proofs.Reported

/-!
The signal that a resolved column owes its role to, and the signals that support it. No signal of
the winning kind and role is lost on the way to the winner while it is more confident: an overruled
one would contradict the role, and one that stands at a tie or below it is less confident than
everything accepted. Nor does a refinement win where a definitive signal names its role, because
definitive signals cannot tie below a base that a refinement deepens. The supporters are told by
their roles and by the definitive signals alone; what the walks accepted is among them, and what
they overruled is not.
-/
namespace ColumnRoles.Resolver

section Walk

variable {signals : List Signal} {chain : Chain} {s : Signal}

/-- What a walk overruled does not support a role that all of its accepted signals support. -/
theorem Chain.Sorts.not_refines_overruled (h : Chain.Sorts signals chain) {role : Role}
    (haccepted : ∀ a ∈ chain.accepted, role.Refines a.role) (hs : s ∈ chain.overruled) :
    ¬role.Refines s.role := by
  intro href
  obtain ⟨a, ha, _, hconflict⟩ := h.overruled_lose s hs
  exact hconflict ((haccepted a ha).path href)

/-- Where a walk picks a signal, no signal of that role is more confident, wherever the walk put
it. -/
theorem Chain.Sorts.confidence_le (h : Chain.Sorts signals chain) {winner : Signal}
    (hpick : mostSpecific chain.accepted = some winner) (hs : s ∈ signals)
    (hrole : s.role = winner.role) : s.confidence ≤ winner.confidence := by
  have hwinner := mem_of_mostSpecific hpick
  rcases h.cases_or_below hs with ha | ho | ht | ⟨t, ht, hlt⟩
  · exact confidence_le_of_mostSpecific hpick ha hrole
  · have hnot := h.not_refines_overruled
      (fun _ ha => refines_of_mostSpecific h.accepted_agree hpick ha) ho
    rw [hrole] at hnot
    exact absurd (Role.Refines.refl _) hnot
  · exact Nat.le_of_lt (h.tied_below s ht winner hwinner)
  · exact Nat.le_of_lt (Nat.lt_trans hlt (h.tied_below t ht winner hwinner))

end Walk

section Refinement

variable {signals : List Signal} {base : Signal}

/-- Definitive signals cannot tie below a base that is deepened: all of them agree with the
refinement. -/
theorem ground_tied_eq_nil (h : (deepening signals base).accepted ≠ []) :
    (ground signals).tied = [] := by
  have hsorts := ground_sorts signals
  obtain ⟨x, hx⟩ := List.exists_mem_of_ne_nil _ h
  obtain ⟨_, hhint, hnot, hstrict⟩ :=
    mem_refinements.mp ((deepening_sorts signals base).accepted_mem hx)
  refine hsorts.tied_eq_nil hstrict.parent_ne_none ?_
  intro t ht
  obtain ⟨hmem, hdef⟩ := mem_definitive.mp (hsorts.tied_mem ht)
  exact agrees_of_not_contradicted hhint hnot hmem hdef

/-- A refinement that is picked says what no definitive signal says. -/
theorem role_ne_of_refinement {winner s : Signal}
    (hbase : mostSpecific (ground signals).accepted = some base)
    (hpick : mostSpecific (deepening signals base).accepted = some winner) (hs : s ∈ signals)
    (hdef : s.Definitive) : s.role ≠ winner.role := by
  intro hrole
  have hagree : ¬s.role.Conflicts (finalist signals base).role := by
    rw [finalist_eq_winner hpick, hrole]
    exact Role.not_conflicts_self _
  rcases accepted_or_tied hbase hs hdef hagree with ha | ⟨t, ht, _⟩
  · have hdepth := depth_le_of_mostSpecific hbase ha
    have hdeeper := (mem_refinements.mp (mem_refinements_of_pick hpick)).2.2.2.depth_lt
    rw [hrole] at hdepth
    omega
  · rw [ground_tied_eq_nil (List.ne_nil_of_mem (mem_of_mostSpecific hpick))] at ht
    exact absurd ht List.not_mem_nil

end Refinement

namespace Wins

variable {signals : List Signal} {winner s : Signal}

theorem mem (h : Wins signals winner) : winner ∈ signals := by
  cases h with
  | base winner hbase hnone => exact (base_mem hbase).1
  | refinement base winner hbase hpick =>
    exact (mem_refinements.mp (mem_refinements_of_pick hpick)).1
  | hint winner hhints hagree hwinner => exact mem_of_mostConfident hwinner

theorem not_contradicted (h : Wins signals winner) : ¬Contradicted signals winner := by
  cases h with
  | base winner hbase hnone => exact not_contradicted_iff.mpr (Or.inl (base_mem hbase).2)
  | refinement base winner hbase hpick =>
    exact (mem_refinements.mp (mem_refinements_of_pick hpick)).2.2.1
  | hint winner hhints hagree hwinner =>
    rintro ⟨_, d, hd, hdef, _⟩
    exact hhints d hd hdef

/-- A role that some definitive signal names is not won by a complimentary one. -/
theorem definitive (h : Wins signals winner) (hs : s ∈ signals) (hdef : s.Definitive)
    (hrole : s.role = winner.role) : winner.Definitive := by
  cases h with
  | base winner hbase hnone => exact (base_mem hbase).2
  | refinement base winner hbase hpick =>
    exact absurd hrole (role_ne_of_refinement hbase hpick hs hdef)
  | hint winner hhints hagree hwinner => exact absurd hdef (hhints s hs)

/-- No signal of the winner's kind and role is more confident. -/
theorem confidence_le (h : Wins signals winner) (hs : s ∈ signals)
    (hkind : s.Definitive ↔ winner.Definitive) (hrole : s.role = winner.role) :
    s.confidence ≤ winner.confidence := by
  cases h with
  | base winner hbase hnone =>
    have hdef := hkind.mpr (base_mem hbase).2
    exact (ground_sorts signals).confidence_le hbase (mem_definitive.mpr ⟨hs, hdef⟩) hrole
  | refinement base winner hbase hpick =>
    obtain ⟨_, hhint, hnot, hstrict⟩ := mem_refinements.mp (mem_refinements_of_pick hpick)
    -- what contradicts a signal of the role contradicts the winner
    have hmem : s ∈ refinements signals base.role := by
      refine mem_refinements.mpr ⟨hs, mt hkind.mp hhint, ?_, hrole ▸ hstrict⟩
      rintro ⟨_, d, hd, hdef, hconflict⟩
      rw [Signal.Conflicts, hrole] at hconflict
      exact hnot ⟨hhint, d, hd, hdef, hconflict⟩
    exact (deepening_sorts signals base).confidence_le hpick hmem hrole
  | hint winner hhints hagree hwinner => exact confidence_le_of_mostConfident hwinner hs

theorem refines_ground (h : Wins signals winner) (hs : s ∈ (ground signals).accepted) :
    winner.role.Refines s.role := by
  cases h with
  | base winner hbase hnone =>
    exact refines_of_mostSpecific (ground_sorts signals).accepted_agree hbase hs
  | refinement base winner hbase hpick =>
    rw [← finalist_eq_winner hpick]
    exact finalist_refines_accepted hbase hs
  | hint winner hhints hagree hwinner =>
    obtain ⟨hmem, hdef⟩ := mem_definitive.mp ((ground_sorts signals).accepted_mem hs)
    exact absurd hdef (hhints s hmem)

theorem refines_deepening (h : Wins signals winner) {base : Signal}
    (hbase : mostSpecific (ground signals).accepted = some base)
    (hs : s ∈ (deepening signals base).accepted) : winner.role.Refines s.role := by
  cases h with
  | base winner hbase' hnone =>
    obtain rfl := Option.some.inj (hbase'.symm.trans hbase)
    rw [hnone] at hs
    exact absurd hs List.not_mem_nil
  | refinement base' winner hbase' hpick =>
    obtain rfl := Option.some.inj (hbase'.symm.trans hbase)
    exact refines_of_mostSpecific (deepening_sorts signals base').accepted_agree hpick hs
  | hint winner hhints hagree hwinner =>
    obtain ⟨d, hd, hdef⟩ := (exists_definitive_of_base hbase).1
    exact absurd hdef (hhints d hd)

end Wins

def Highest (signals : List Signal) (confidence : Confidence) : Prop :=
  (∃ s ∈ signals, s.confidence = confidence) ∧ ∀ s ∈ signals, s.confidence ≤ confidence

/-- The confidence of a decision is earned. It is the highest among the definitive signals of the
role that is decided, or, where no definitive signal names the role, the highest among the
complimentary signals of the role. -/
theorem confidence_earned (column : ColumnRef) {signals : List Signal} {role : Role}
    (hresolved : (solve column signals).resolution = .resolved role) :
    ∃ confidence, (solve column signals).confidence = some confidence ∧
      ((∃ s ∈ signals, s.Definitive ∧ s.role = role) →
        Highest (signals.filter fun s => s.Definitive ∧ s.role = role) confidence) ∧
      ((∀ s ∈ signals, s.Definitive → s.role ≠ role) →
        Highest (signals.filter fun s => ¬s.Definitive ∧ s.role = role) confidence) := by
  obtain ⟨winner, problems, hwins, rfl, hsolve⟩ := exists_wins hresolved
  refine ⟨winner.confidence, congrArg Decision.confidence hsolve, ?_, ?_⟩
  · rintro ⟨s, hs, hdef, hrole⟩
    have hwinner := hwins.definitive hs hdef hrole
    refine ⟨⟨winner, by simp [hwins.mem, hwinner], rfl⟩, ?_⟩
    intro t ht
    simp only [List.mem_filter, decide_eq_true_eq] at ht
    obtain ⟨htmem, htdef, htrole⟩ := ht
    exact hwins.confidence_le htmem (iff_of_true htdef hwinner) htrole
  · intro hnone
    have hwinner : ¬winner.Definitive := fun hdef => hnone winner hwins.mem hdef rfl
    refine ⟨⟨winner, by simp [hwins.mem, hwinner], rfl⟩, ?_⟩
    intro t ht
    simp only [List.mem_filter, decide_eq_true_eq] at ht
    obtain ⟨htmem, hthint, htrole⟩ := ht
    exact hwins.confidence_le htmem (iff_of_false hthint hwinner) htrole

def layeredColumn : ColumnRef :=
  ⟨"orders", "code"⟩

def layeredEvidence : List Signal :=
  [⟨layeredColumn, .idUnknown, .high, false, "identifier by name"⟩,
    ⟨layeredColumn, .idUnknown, .medium, false, "identifier by pattern"⟩,
    ⟨layeredColumn, .idUnique, .medium, true, "hardly any repeats"⟩,
    ⟨layeredColumn, .idForeign, .low, true, "few values"⟩,
    ⟨layeredColumn, .dimensionTime, .forSure, true, "looks like a date"⟩,
    ⟨layeredColumn, .idUnique, .high, true, "all values distinct"⟩]

theorem confidence_earned_layered :
    (solve layeredColumn layeredEvidence).resolution = .resolved .idUnique ∧
      (∀ s ∈ layeredEvidence, s.Definitive → s.role ≠ .idUnique) ∧
      (∃ confidence, (solve layeredColumn layeredEvidence).confidence = some confidence ∧
        Highest (layeredEvidence.filter fun s => ¬s.Definitive ∧ s.role = .idUnique) confidence) ∧
      (solve layeredColumn (layeredEvidence.take 2)).resolution = .resolved .idUnknown ∧
      (∃ s ∈ layeredEvidence.take 2, s.Definitive ∧ s.role = .idUnknown) ∧
      ∃ confidence,
        (solve layeredColumn (layeredEvidence.take 2)).confidence = some confidence ∧
        Highest ((layeredEvidence.take 2).filter fun s => s.Definitive ∧ s.role = .idUnknown)
          confidence := by
  have hdeepened : (solve layeredColumn layeredEvidence).resolution = .resolved .idUnique := by
    decide
  have hnone : ∀ s ∈ layeredEvidence, s.Definitive → s.role ≠ .idUnique := by decide
  have hground : (solve layeredColumn (layeredEvidence.take 2)).resolution =
      .resolved .idUnknown := by decide
  have hsome : ∃ s ∈ layeredEvidence.take 2, s.Definitive ∧ s.role = .idUnknown := by decide
  obtain ⟨_, hheld, _, hhints⟩ := confidence_earned layeredColumn hdeepened
  obtain ⟨_, hbase, hdefinitive, _⟩ := confidence_earned layeredColumn hground
  exact ⟨hdeepened, hnone, ⟨_, hheld, hhints hnone⟩, hground, hsome,
    ⟨_, hbase, hdefinitive hsome⟩⟩

/-- The signals that bear the role out and are definitive or conflict with no definitive signal,
in the order of emission. -/
def supporters (signals : List Signal) (role : Role) : List Signal :=
  signals.filter fun s =>
    role.Refines s.role ∧ (s.Definitive ∨ ∀ d ∈ signals, d.Definitive → ¬d.Conflicts s)

section Supporters

variable {signals : List Signal} {role : Role} {s : Signal}

theorem mem_supporters :
    s ∈ supporters signals role ↔
      s ∈ signals ∧ role.Refines s.role ∧ ¬Contradicted signals s := by
  simp only [supporters, List.mem_filter, decide_eq_true_eq, not_contradicted_iff]

theorem supportingReasons_eq (signals : List Signal) (role : Role) :
    supportingReasons signals role = (supporters signals role).map (·.reason) := by
  simp only [supportingReasons, supporters, not_contradicted_iff]

end Supporters

/-- The reasons are exactly the supporting evidence. They are those of the supporters of the role,
in the order of emission. The winning signal is a supporter, and so is whatever one of the walks
accepted; nothing that was overruled or contradicted is one. -/
theorem reasons_are_supporting_evidence (column : ColumnRef) {signals : List Signal} {role : Role}
    (hresolved : (solve column signals).resolution = .resolved role) :
    (solve column signals).reasons = (supporters signals role).map (·.reason) ∧
    (∃ winner ∈ supporters signals role, Wins signals winner ∧ winner.role = role ∧
      (solve column signals).confidence = some winner.confidence) ∧
    (∀ s ∈ (ground signals).accepted, s ∈ supporters signals role) ∧
    (∀ s ∈ (ground signals).overruled, s ∉ supporters signals role) ∧
    (∀ s ∈ signals, Contradicted signals s → s ∉ supporters signals role) ∧
    ∀ base, mostSpecific (ground signals).accepted = some base →
      (∀ s ∈ (deepening signals base).accepted, s ∈ supporters signals role) ∧
      ∀ s ∈ (deepening signals base).overruled, s ∉ supporters signals role := by
  obtain ⟨winner, problems, hwins, rfl, hsolve⟩ := exists_wins hresolved
  have hground := ground_sorts signals
  refine ⟨?_, ?_, ?_, ?_, ?_, ?_⟩
  · rw [hsolve, ← supportingReasons_eq]
    rfl
  · have hmem := mem_supporters.mpr ⟨hwins.mem, Role.Refines.refl _, hwins.not_contradicted⟩
    exact ⟨winner, hmem, hwins, rfl, congrArg Decision.confidence hsolve⟩
  · intro s hs
    obtain ⟨hmem, hdef⟩ := mem_definitive.mp (hground.accepted_mem hs)
    exact mem_supporters.mpr ⟨hmem, hwins.refines_ground hs, fun hc => hc.1 hdef⟩
  · intro s hs hsupports
    exact hground.not_refines_overruled (fun _ ha => hwins.refines_ground ha) hs
      (mem_supporters.mp hsupports).2.1
  · intro s _ hcontradicted hsupports
    exact (mem_supporters.mp hsupports).2.2 hcontradicted
  · intro base hbase
    have hdeep := deepening_sorts signals base
    constructor
    · intro s hs
      obtain ⟨hmem, _, hnot, _⟩ := mem_refinements.mp (hdeep.accepted_mem hs)
      exact mem_supporters.mpr ⟨hmem, hwins.refines_deepening hbase hs, hnot⟩
    · intro s hs hsupports
      exact hdeep.not_refines_overruled (fun _ ha => hwins.refines_deepening hbase ha) hs
        (mem_supporters.mp hsupports).2.1

theorem reasons_are_supporting_evidence_layered :
    (solve layeredColumn layeredEvidence).resolution = .resolved .idUnique ∧
      (supporters layeredEvidence .idUnique).length = 4 ∧
      (solve layeredColumn layeredEvidence).reasons =
        (supporters layeredEvidence .idUnique).map (·.reason) ∧
      (∃ s ∈ layeredEvidence,
        Contradicted layeredEvidence s ∧ s ∉ supporters layeredEvidence .idUnique) ∧
      ∃ base, mostSpecific (ground layeredEvidence).accepted = some base ∧
        ∃ s ∈ (deepening layeredEvidence base).overruled,
          s ∉ supporters layeredEvidence .idUnique := by
  have hresolved : (solve layeredColumn layeredEvidence).resolution = .resolved .idUnique := by
    decide
  obtain ⟨hreasons, _, _, _, hcontradicted, hdeepening⟩ :=
    reasons_are_supporting_evidence layeredColumn hresolved
  have hdate : ∃ s ∈ layeredEvidence, Contradicted layeredEvidence s := by decide
  obtain ⟨date, hmem, hdate⟩ := hdate
  have hbase : mostSpecific (ground layeredEvidence).accepted =
      some ⟨layeredColumn, .idUnknown, .high, false, "identifier by name"⟩ := by decide
  have hfew : (⟨layeredColumn, .idForeign, .low, true, "few values"⟩ : Signal) ∈
      (deepening layeredEvidence
        ⟨layeredColumn, .idUnknown, .high, false, "identifier by name"⟩).overruled := by decide
  exact ⟨hresolved, by decide, hreasons, ⟨date, hmem, hdate, hcontradicted date hmem hdate⟩,
    _, hbase, _, hfew, (hdeepening _ hbase).2 _ hfew⟩

end ColumnRoles.Resolver
