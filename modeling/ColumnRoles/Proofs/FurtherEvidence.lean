import ColumnRoles.Proofs.Winner

/-!
What more evidence does to a decision. Definitive signals that are less confident than all others
are met last: the walk has then accepted whatever it accepts without them, and what it accepts after
that can only deepen the outcome. Complimentary signals have no part in the walk through the
definitive ones. They deepen its base, or they leave it as it is because the foremost of them
contradict each other. There is no other tie among them, since all that agrees with an accepted
refinement agrees with itself.
-/
namespace ColumnRoles.Resolver

namespace Chain

variable {chain : Chain} {tiers : List Confidence}

/-- What is accepted once stays accepted. -/
theorem accepted_prefix_descend (signals : List Signal) (chain : Chain)
    (tiers : List Confidence) :
    chain.accepted <+: (descend signals chain tiers).accepted := by
  induction tiers generalizing chain with
  | nil => exact List.prefix_rfl
  | cons tier lower ih =>
    rw [descend_cons]
    split
    · exact (List.prefix_append _ _).trans (ih (chain.accept signals tier))
    · exact List.prefix_rfl

/-- Tiers without signals change nothing. -/
theorem descend_of_absent {signals : List Signal} (h : ∀ s ∈ signals, s.confidence ∉ tiers) :
    descend signals chain tiers = chain := by
  induction tiers with
  | nil => rfl
  | cons tier lower ih =>
    have hhere : signals.filter (·.confidence = tier) = [] := by
      refine List.filter_eq_nil_iff.mpr ?_
      intro s hs
      have hne := List.ne_of_not_mem_cons (h s hs)
      simpa using hne
    have hfitting : chain.fitting signals tier = [] := by simp [fitting, hhere]
    have hlosing : chain.losing signals tier = [] := by simp [losing, hhere]
    have haccept : chain.accept signals tier = chain := by simp [accept, hfitting, hlosing]
    have hagree : Compatible [] := List.Pairwise.nil
    rw [descend_cons, hfitting, if_pos hagree, haccept]
    exact ih fun s hs => List.not_mem_of_not_mem_cons (h s hs)

section Weaker

variable {strong weak : List Signal}
  (hweaker : ∀ w ∈ weak, ∀ s ∈ strong, w.confidence < s.confidence)
include hweaker

/-- At a tier that some strong signal does not exceed the weak signals are still to come. -/
theorem filter_append_weaker {tier : Confidence} {s : Signal} (hs : s ∈ strong)
    (hle : s.confidence ≤ tier) :
    (strong ++ weak).filter (·.confidence = tier) = strong.filter (·.confidence = tier) := by
  have hnone : weak.filter (·.confidence = tier) = [] := by
    refine List.filter_eq_nil_iff.mpr ?_
    intro w hw
    have hlt : w.confidence.rank < s.confidence.rank := hweaker w hw s hs
    have hrank : s.confidence.rank ≤ tier.rank := hle
    simp only [decide_eq_true_eq, Confidence.eq_iff]
    omega
  rw [List.filter_append, hnone, List.append_nil]

/-- With weaker signals added a walk accepts all that it accepts without them. -/
theorem accepted_prefix_of_weaker (hladder : Confidence.Ladder tiers) :
    (descend strong chain tiers).accepted <+:
      (descend (strong ++ weak) chain tiers).accepted := by
  -- on the tiers still to come: the walks do the same while strong signals are left, and after
  -- the last of them the first walk adds nothing
  induction tiers generalizing chain with
  | nil => exact List.prefix_rfl
  | cons tier lower ih =>
    by_cases hleft : ∃ s ∈ strong, s.confidence ≤ tier
    · obtain ⟨s, hs, hle⟩ := hleft
      have hhere := filter_append_weaker hweaker hs hle
      have hfitting : chain.fitting (strong ++ weak) tier = chain.fitting strong tier := by
        rw [fitting, hhere, fitting]
      have hlosing : chain.losing (strong ++ weak) tier = chain.losing strong tier := by
        rw [losing, hhere, losing]
      have haccept : chain.accept (strong ++ weak) tier = chain.accept strong tier := by
        rw [accept, hfitting, hlosing, accept]
      rw [descend_cons, descend_cons, hfitting, haccept]
      split
      · exact ih hladder.tail
      · exact List.prefix_rfl
    · have habsent : ∀ s ∈ strong, s.confidence ∉ tier :: lower := by
        intro s hs hmem
        refine hleft ⟨s, hs, ?_⟩
        rcases List.mem_cons.mp hmem with heq | hlower
        · exact Nat.le_of_eq (congrArg Confidence.rank heq)
        · exact Nat.le_of_lt (hladder.mem_tail_iff.mp hlower)
      rw [descend_of_absent habsent]
      exact accepted_prefix_descend _ _ _

end Weaker

end Chain

section Definitive

variable {column : ColumnRef} {signals : List Signal}

theorem ground_of_definitive (h : ∀ s ∈ signals, s.Definitive) :
    ground signals = Chain.walk signals := by
  rw [ground, List.filter_eq_self.mpr fun s hs => decide_eq_true (h s hs)]

/-- Definitive evidence alone resolves a column to the base. -/
theorem base_of_definitive (h : ∀ s ∈ signals, s.Definitive) {role : Role}
    (hresolved : (solve column signals).resolution = .resolved role) :
    ∃ base, mostSpecific (ground signals).accepted = some base ∧ base.role = role ∧
      (solve column signals).confidence = some base.confidence := by
  obtain ⟨winner, problems, hwins, rfl, hsolve⟩ := exists_wins hresolved
  cases hwins with
  | base winner hbase hnone =>
    rw [hsolve]
    exact ⟨winner, hbase, rfl, rfl⟩
  | refinement base winner hbase hpick =>
    obtain ⟨hmem, hhint, _⟩ := mem_refinements.mp (mem_refinements_of_pick hpick)
    exact absurd (h winner hmem) hhint
  | hint winner hhints hagree hwinner =>
    have hmem := mem_of_mostConfident hwinner
    exact absurd (h winner hmem) (hhints winner hmem)

end Definitive

/-- Weaker signals neither make nor break a tie at the top. -/
theorem topTied_append_iff {strong weak : List Signal} (hne : strong ≠ [])
    (hdefinitive : ∀ s ∈ strong, s.Definitive)
    (hweaker : ∀ w ∈ weak, ∀ s ∈ strong, w.confidence < s.confidence) :
    TopTied (strong ++ weak) ↔ TopTied strong := by
  obtain ⟨s, hs⟩ := List.exists_mem_of_ne_nil _ hne
  -- a signal that no strong one exceeds is strong itself
  have hstrong : ∀ a ∈ strong ++ weak, s.confidence ≤ a.confidence → a ∈ strong := by
    intro a ha hle
    rcases List.mem_append.mp ha with ha | ha
    · exact ha
    · exact absurd (hweaker a ha s hs) (Nat.not_lt.mpr hle)
  constructor
  · rintro ⟨a, ha, b, hb, hadef, hbdef, hab, htop⟩
    have hsmem : s ∈ strong ++ weak := List.mem_append_left _ hs
    obtain ⟨hsa, hsb⟩ := htop s hsmem (hdefinitive s hs)
    exact ⟨a, hstrong a ha hsa, b, hstrong b hb hsb, hadef, hbdef, hab,
      fun t ht => htop t (List.mem_append_left _ ht)⟩
  · rintro ⟨a, ha, b, hb, hadef, hbdef, hab, htop⟩
    refine ⟨a, List.mem_append_left _ ha, b, List.mem_append_left _ hb, hadef, hbdef, hab, ?_⟩
    intro t ht htdef
    rcases List.mem_append.mp ht with ht | ht
    · exact htop t ht htdef
    · exact ⟨Nat.le_of_lt (hweaker t ht a ha), Nat.le_of_lt (hweaker t ht b hb)⟩

/-- Weaker definitive evidence never overturns stronger. Definitive signals that are each less
confident than all others leave a tie a tie, and otherwise the column is resolved to a role that
refines the one without them, in whatever order all of the signals come. -/
theorem weaker_never_overturns (column : ColumnRef) {strong weak signals : List Signal}
    (hne : strong ≠ []) (hdefinitive : ∀ s ∈ strong ++ weak, s.Definitive)
    (hweaker : ∀ w ∈ weak, ∀ s ∈ strong, w.confidence < s.confidence)
    (hmixed : signals.Perm (strong ++ weak)) :
    (∀ base, (solve column strong).resolution = .resolved base →
      ∃ role, (solve column signals).resolution = .resolved role ∧ role.Refines base) ∧
    ((solve column strong).resolution = .unresolved .tiedDefinitive ↔
      (solve column signals).resolution = .unresolved .tiedDefinitive) := by
  have hstrong : ∀ s ∈ strong, s.Definitive := fun s hs =>
    hdefinitive s (List.mem_append_left _ hs)
  rw [(resolution_same column (blindTo_perm.sameStances hmixed)).1]
  constructor
  · intro role hresolved
    obtain ⟨base, hbase, rfl, _⟩ := base_of_definitive hstrong hresolved
    have haccepted : base ∈ (ground (strong ++ weak)).accepted := by
      have hmem := mem_of_mostSpecific hbase
      rw [ground_of_definitive hstrong] at hmem
      rw [ground_of_definitive hdefinitive]
      exact (Chain.accepted_prefix_of_weaker hweaker Confidence.ladder_descending).subset hmem
    have hsome : mostSpecific (ground (strong ++ weak)).accepted ≠ none :=
      mt mostSpecific_eq_none_iff.mp (List.ne_nil_of_mem haccepted)
    obtain ⟨deeper, hdeeper⟩ := Option.ne_none_iff_exists'.mp hsome
    rw [solve_decided column hdeeper]
    exact ⟨_, rfl, finalist_refines_accepted hdeeper haccepted⟩
  · rw [tied_iff_topTied, tied_iff_topTied, topTied_append_iff hne hstrong hweaker]

def datedColumn : ColumnRef :=
  ⟨"orders", "placed_at"⟩

def datedEvidence : List Signal :=
  [⟨datedColumn, .dimensionTime, .forSure, false, "date type"⟩,
    ⟨datedColumn, .dimensionUnknown, .forSure, false, "no number"⟩]

def weakerEvidence : List Signal :=
  [⟨datedColumn, .measureUnknown, .medium, false, "numbers"⟩,
    ⟨datedColumn, .dimensionPrimaryTime, .high, false, "only date of the table"⟩]

theorem weaker_never_overturns_dated :
    datedEvidence ≠ [] ∧ (∀ s ∈ datedEvidence ++ weakerEvidence, s.Definitive) ∧
      (∀ w ∈ weakerEvidence, ∀ s ∈ datedEvidence, w.confidence < s.confidence) ∧
      (solve datedColumn datedEvidence).resolution = .resolved .dimensionTime ∧
      ∃ role, (solve datedColumn (weakerEvidence ++ datedEvidence)).resolution = .resolved role ∧
        role.Refines .dimensionTime := by
  have hne : datedEvidence ≠ [] := by decide
  have hdefinitive : ∀ s ∈ datedEvidence ++ weakerEvidence, s.Definitive := by decide
  have hweaker : ∀ w ∈ weakerEvidence, ∀ s ∈ datedEvidence, w.confidence < s.confidence := by
    decide
  have hresolved : (solve datedColumn datedEvidence).resolution = .resolved .dimensionTime := by
    decide
  obtain ⟨hdeepened, _⟩ := weaker_never_overturns datedColumn hne hdefinitive hweaker
    List.perm_append_comm
  exact ⟨hne, hdefinitive, hweaker, hresolved, hdeepened _ hresolved⟩

/-- The signal is complimentary, no definitive signal conflicts with it, and it is strictly more
specific than the role. -/
def Deepens (signals : List Signal) (base : Role) (signal : Signal) : Prop :=
  ¬signal.Definitive ∧ (∀ d ∈ signals, d.Definitive → ¬d.Conflicts signal) ∧
    signal.role.StrictlyRefines base

instance (signals : List Signal) (base : Role) (signal : Signal) :
    Decidable (Deepens signals base signal) :=
  inferInstanceAs (Decidable (¬signal.Definitive ∧
    (∀ d ∈ signals, d.Definitive → ¬d.Conflicts signal) ∧ signal.role.StrictlyRefines base))

/-- None of the signals that deepen the role is more confident than this one. -/
def Foremost (signals : List Signal) (base : Role) (signal : Signal) : Prop :=
  Deepens signals base signal ∧
    ∀ s ∈ signals, Deepens signals base s → s.confidence ≤ signal.confidence

instance (signals : List Signal) (base : Role) (signal : Signal) :
    Decidable (Foremost signals base signal) :=
  inferInstanceAs (Decidable (Deepens signals base signal ∧
    ∀ s ∈ signals, Deepens signals base s → s.confidence ≤ signal.confidence))

def ForemostConflict (signals : List Signal) (base : Role) : Prop :=
  ∃ a ∈ signals, ∃ b ∈ signals, Foremost signals base a ∧ Foremost signals base b ∧ a.Conflicts b

instance (signals : List Signal) (base : Role) : Decidable (ForemostConflict signals base) :=
  inferInstanceAs (Decidable (∃ a ∈ signals, ∃ b ∈ signals,
    Foremost signals base a ∧ Foremost signals base b ∧ a.Conflicts b))

section Deepening

variable {signals : List Signal} {base : Signal}

theorem mem_refinements_iff_deepens {role : Role} {s : Signal} :
    s ∈ refinements signals role ↔ s ∈ signals ∧ Deepens signals role s := by
  rw [mem_refinements, Deepens, not_contradicted_iff]
  constructor
  · rintro ⟨hs, hhint, hnot, hstrict⟩
    exact ⟨hs, hhint, hnot.resolve_left hhint, hstrict⟩
  · rintro ⟨hs, hhint, hnot, hstrict⟩
    exact ⟨hs, hhint, Or.inr hnot, hstrict⟩

/-- Nothing deepens the base where there is nothing to do so or its foremost part disagrees. -/
theorem deepening_accepted_eq_nil_iff :
    (deepening signals base).accepted = [] ↔
      (∀ s ∈ signals, ¬Deepens signals base.role s) ∨ ForemostConflict signals base.role := by
  have hsorts := deepening_sorts signals base
  by_cases hnone : ∀ s ∈ signals, ¬Deepens signals base.role s
  · refine iff_of_true ?_ (Or.inl hnone)
    refine List.eq_nil_iff_forall_not_mem.mpr ?_
    intro s hs
    obtain ⟨hmem, hdeepens⟩ := mem_refinements_iff_deepens.mp (hsorts.accepted_mem hs)
    exact hnone s hmem hdeepens
  · have hne : refinements signals base.role ≠ [] := by
      simp only [not_forall, Decidable.not_not] at hnone
      obtain ⟨s, hs, hdeepens⟩ := hnone
      exact List.ne_nil_of_mem (mem_refinements_iff_deepens.mpr ⟨hs, hdeepens⟩)
    rw [or_iff_right hnone, hsorts.accepted_eq_nil_iff hne]
    simp only [mem_refinements_iff_deepens]
    constructor
    · rintro ⟨a, ⟨ha, hadeep⟩, b, ⟨hb, hbdeep⟩, hab, htop⟩
      exact ⟨a, ha, b, hb, ⟨hadeep, fun s hs hdeep => (htop s ⟨hs, hdeep⟩).1⟩,
        ⟨hbdeep, fun s hs hdeep => (htop s ⟨hs, hdeep⟩).2⟩, hab⟩
    · rintro ⟨a, ha, b, hb, ⟨hadeep, hatop⟩, ⟨hbdeep, hbtop⟩, hab⟩
      exact ⟨a, ⟨ha, hadeep⟩, b, ⟨hb, hbdeep⟩, hab,
        fun s hs => ⟨hatop s hs.1 hs.2, hbtop s hs.1 hs.2⟩⟩

/-- Refinements tie at their top or nowhere. -/
theorem deepening_tied_ne_nil_iff :
    (deepening signals base).tied ≠ [] ↔ ForemostConflict signals base.role := by
  have hsorts := deepening_sorts signals base
  constructor
  · intro htied
    have hnil : (deepening signals base).accepted = [] := by
      by_contra haccepted
      exact htied (deepening_tied_eq_nil haccepted)
    rcases deepening_accepted_eq_nil_iff.mp hnil with hnone | hconflict
    · obtain ⟨t, ht⟩ := List.exists_mem_of_ne_nil _ htied
      obtain ⟨hmem, hdeepens⟩ := mem_refinements_iff_deepens.mp (hsorts.tied_mem ht)
      exact absurd hdeepens (hnone t hmem)
    · exact hconflict
  · intro hconflict htied
    have hnil := deepening_accepted_eq_nil_iff.mpr (Or.inr hconflict)
    obtain ⟨a, ha, _, _, ⟨hadeep, _⟩, _⟩ := hconflict
    -- without anything accepted nothing is overruled, so the signals can only be tied
    rcases hsorts.cases_or_below (mem_refinements_iff_deepens.mpr ⟨ha, hadeep⟩)
      with hmem | hmem | hmem | ⟨t, hmem, _⟩
    · simp [hnil] at hmem
    · obtain ⟨x, hx, _⟩ := hsorts.overruled_lose a hmem
      simp [hnil] at hx
    · simp [htied] at hmem
    · simp [htied] at hmem

/-- Where something is accepted the outcome is strictly deeper than the base, and refines whatever
is foremost. -/
theorem finalist_of_deepening (h : (deepening signals base).accepted ≠ []) :
    (finalist signals base).role.StrictlyRefines base.role ∧
      ∀ s ∈ signals, Foremost signals base.role s →
        (finalist signals base).role.Refines s.role := by
  have hsorts := deepening_sorts signals base
  rcases finalist_cases signals base with ⟨hnil, _⟩ | hpick
  · exact absurd hnil h
  · refine ⟨(mem_refinements.mp (mem_refinements_of_pick hpick)).2.2.2, ?_⟩
    rintro s hs ⟨hdeepens, htop⟩
    refine refines_of_mostSpecific hsorts.accepted_agree hpick ?_
    refine hsorts.top_accepted h (mem_refinements_iff_deepens.mpr ⟨hs, hdeepens⟩) ?_
    intro t ht
    obtain ⟨htmem, htdeepens⟩ := mem_refinements_iff_deepens.mp ht
    exact htop t htmem htdeepens

end Deepening

/-- A tie among all signals is one among the definitive signals. -/
theorem topTied_filter_iff {signals : List Signal} :
    TopTied (signals.filter fun s => s.Definitive) ↔ TopTied signals := by
  simp only [TopTied, mem_definitive]
  constructor
  · rintro ⟨a, ⟨ha, _⟩, b, ⟨hb, _⟩, hadef, hbdef, hab, htop⟩
    exact ⟨a, ha, b, hb, hadef, hbdef, hab, fun s hs hdef => htop s ⟨hs, hdef⟩ hdef⟩
  · rintro ⟨a, ha, b, hb, hadef, hbdef, hab, htop⟩
    exact ⟨a, ⟨ha, hadef⟩, b, ⟨hb, hbdef⟩, hadef, hbdef, hab, fun s hs hdef => htop s hs.1 hdef⟩

/-- Complimentary evidence only deepens a decision. A column is tied with it exactly when it is tied
without it. Where definitive evidence alone resolves the column, the role and its confidence stay as
they are unless a signal deepens the role and the foremost of those that do agree. The role then
becomes a strictly deeper one, which refines all the foremost. A disagreement of refinements is
reported exactly where the foremost disagree. -/
theorem hints_only_deepen (column : ColumnRef) (signals : List Signal) :
    ((solve column (signals.filter fun s => s.Definitive)).resolution =
        .unresolved .tiedDefinitive ↔
      (solve column signals).resolution = .unresolved .tiedDefinitive) ∧
    ∀ base confidence,
      (solve column (signals.filter fun s => s.Definitive)).resolution = .resolved base →
      (solve column (signals.filter fun s => s.Definitive)).confidence = some confidence →
      ((∀ s ∈ signals, ¬Deepens signals base s) ∨ ForemostConflict signals base →
        (solve column signals).resolution = .resolved base ∧
          (solve column signals).confidence = some confidence) ∧
      ((∃ s ∈ signals, Deepens signals base s) → ¬ForemostConflict signals base →
        ∃ role, (solve column signals).resolution = .resolved role ∧
          role.StrictlyRefines base ∧
          ∀ s ∈ signals, Foremost signals base s → role.Refines s.role) ∧
      ((∃ problem ∈ (solve column signals).problems, SaysRefinementsDisagree problem) ↔
        ForemostConflict signals base) := by
  constructor
  · rw [tied_iff_topTied, tied_iff_topTied, topTied_filter_iff]
  · intro role confidence hresolved hconfidence
    have hdefinitive : ∀ s ∈ signals.filter fun s => s.Definitive, s.Definitive := fun s hs =>
      (mem_definitive.mp hs).2
    obtain ⟨base, hbase, rfl, hheld⟩ := base_of_definitive hdefinitive hresolved
    obtain rfl := Option.some.inj (hheld.symm.trans hconfidence)
    rw [ground_of_definitive hdefinitive] at hbase
    change mostSpecific (ground signals).accepted = some base at hbase
    rw [solve_decided column hbase]
    refine ⟨?_, ?_, ?_⟩
    · intro hnone
      rw [finalist_eq_base (deepening_accepted_eq_nil_iff.mpr hnone)]
      exact ⟨rfl, rfl⟩
    · rintro ⟨s, hs, hdeepens⟩ hagree
      have hne : (deepening signals base).accepted ≠ [] := by
        rw [Ne, deepening_accepted_eq_nil_iff, not_or]
        exact ⟨fun hnone => hnone s hs hdeepens, hagree⟩
      exact ⟨_, rfl, finalist_of_deepening hne⟩
    · exact exists_saysRefinementsDisagree_iff.trans deepening_tied_ne_nil_iff

def disputedEvidence : List Signal :=
  [⟨layeredColumn, .idUnknown, .forSure, false, "identifier by name"⟩,
    ⟨layeredColumn, .idForeign, .medium, true, "few values"⟩,
    ⟨layeredColumn, .idUnique, .medium, true, "all values distinct"⟩,
    ⟨layeredColumn, .idPrimary, .low, true, "first column"⟩]

theorem hints_only_deepen_layered :
    (solve layeredColumn (layeredEvidence.filter fun s => s.Definitive)).resolution =
        .resolved .idUnknown ∧
      (∃ s ∈ layeredEvidence, Deepens layeredEvidence .idUnknown s) ∧
      ¬ForemostConflict layeredEvidence .idUnknown ∧
      (∃ role, (solve layeredColumn layeredEvidence).resolution = .resolved role ∧
        role.StrictlyRefines .idUnknown ∧
        ∀ s ∈ layeredEvidence, Foremost layeredEvidence .idUnknown s → role.Refines s.role) ∧
      (solve layeredColumn (disputedEvidence.filter fun s => s.Definitive)).resolution =
        .resolved .idUnknown ∧
      ForemostConflict disputedEvidence .idUnknown ∧
      (solve layeredColumn disputedEvidence).resolution = .resolved .idUnknown ∧
      ∃ problem ∈ (solve layeredColumn disputedEvidence).problems,
        SaysRefinementsDisagree problem := by
  have hbase : (solve layeredColumn (layeredEvidence.filter fun s => s.Definitive)).resolution =
      .resolved .idUnknown := by decide
  have hheld : (solve layeredColumn (layeredEvidence.filter fun s => s.Definitive)).confidence =
      some .high := by decide
  have hdeepens : ∃ s ∈ layeredEvidence, Deepens layeredEvidence .idUnknown s := by decide
  have hagree : ¬ForemostConflict layeredEvidence .idUnknown := by decide
  obtain ⟨_, hlayered⟩ := hints_only_deepen layeredColumn layeredEvidence
  obtain ⟨_, hdeeper, _⟩ := hlayered _ _ hbase hheld
  have hbase' : (solve layeredColumn (disputedEvidence.filter fun s => s.Definitive)).resolution =
      .resolved .idUnknown := by decide
  have hheld' : (solve layeredColumn (disputedEvidence.filter fun s => s.Definitive)).confidence =
      some .forSure := by decide
  have hconflict : ForemostConflict disputedEvidence .idUnknown := by decide
  obtain ⟨_, hdisputed⟩ := hints_only_deepen layeredColumn disputedEvidence
  obtain ⟨hsame, _, hsays⟩ := hdisputed _ _ hbase' hheld'
  exact ⟨hbase, hdeepens, hagree, hdeeper hdeepens hagree, hbase', hconflict,
    (hsame (Or.inr hconflict)).1, hsays.mpr hconflict⟩

end ColumnRoles.Resolver
