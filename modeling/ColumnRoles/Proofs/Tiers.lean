import ColumnRoles.Proofs.Agreement

/-!
What the walk through the tiers makes of its signals. The invariant is that the chain sorts the
signals seen so far: none is lost or repeated, the accepted ones agree, an overruled one conflicts
with something accepted at a higher tier, and a tie agrees with everything above it but not with
itself. One tier keeps the invariant, whether it is accepted or stops the walk, so the whole walk
ends with its signals sorted; only those below a tie are left out.
-/
namespace ColumnRoles

namespace Confidence

theorem lt_iff {a b : Confidence} : a < b ↔ a.rank < b.rank :=
  Iff.rfl

theorem eq_iff {a b : Confidence} : a = b ↔ a.rank = b.rank :=
  ⟨congrArg rank, rank_injective⟩

/-- Tiers from one of them downwards, none left out. -/
structure Ladder (tiers : List Confidence) : Prop where
  descending : tiers.Pairwise fun a b => b < a
  closed : ∀ t ∈ tiers, ∀ c, c < t → c ∈ tiers

namespace Ladder

variable {tier : Confidence} {lower : List Confidence}

theorem mem_tail_iff (h : Ladder (tier :: lower)) {c : Confidence} : c ∈ lower ↔ c < tier := by
  constructor
  · intro hc
    exact (List.pairwise_cons.mp h.descending).1 c hc
  · intro hc
    rcases List.mem_cons.mp (h.closed tier (by simp) c hc) with rfl | hmem
    · exact absurd hc (Nat.lt_irrefl _)
    · exact hmem

theorem tail (h : Ladder (tier :: lower)) : Ladder lower where
  descending := (List.pairwise_cons.mp h.descending).2
  closed t ht c hc := by
    have htier := h.mem_tail_iff.mp ht
    exact h.mem_tail_iff.mpr (Nat.lt_trans hc htier)

theorem head_not_mem (h : Ladder (tier :: lower)) : tier ∉ lower := by
  intro hmem
  exact absurd (h.mem_tail_iff.mp hmem) (Nat.lt_irrefl _)

end Ladder

theorem ladder_descending : Ladder descending where
  descending := by decide
  closed _ _ c _ := mem_descending c

end Confidence

namespace Resolver

def seen (signals : List Signal) (tiers : List Confidence) : List Signal :=
  signals.filter fun s => s.confidence ∉ tiers

theorem seen_nil (signals : List Signal) : seen signals [] = signals := by
  simp [seen]

theorem seen_descending (signals : List Signal) : seen signals Confidence.descending = [] := by
  simp [seen, Confidence.mem_descending]

theorem seen_cons_perm {tier : Confidence} {lower : List Confidence} (h : tier ∉ lower)
    (signals : List Signal) :
    (seen signals (tier :: lower) ++ signals.filter (·.confidence = tier)).Perm
      (seen signals lower) := by
  have hhere : signals.filter (·.confidence = tier) =
      (seen signals lower).filter (·.confidence = tier) := by
    unfold seen
    rw [List.filter_filter]
    refine List.filter_congr ?_
    intro s _
    by_cases hs : s.confidence = tier
    · simp [hs, h]
    · simp [hs]
  have hrest : seen signals (tier :: lower) =
      (seen signals lower).filter fun s => !decide (s.confidence = tier) := by
    unfold seen
    rw [List.filter_filter]
    refine List.filter_congr ?_
    intro s _
    simp [List.mem_cons, not_or]
  rw [hhere, hrest]
  exact List.perm_append_comm.trans (List.filter_append_perm _ _)

namespace Chain

/-- The signals of a tier that conflict with nothing accepted so far. -/
def fitting (chain : Chain) (signals : List Signal) (tier : Confidence) : List Signal :=
  (signals.filter (·.confidence = tier)).filter fun s => chain.Admits s

def losing (chain : Chain) (signals : List Signal) (tier : Confidence) : List Signal :=
  (signals.filter (·.confidence = tier)).filter fun s => ¬chain.Admits s

def accept (chain : Chain) (signals : List Signal) (tier : Confidence) : Chain :=
  { chain with
    accepted := chain.accepted ++ chain.fitting signals tier
    overruled := chain.overruled ++ chain.losing signals tier }

def stop (chain : Chain) (signals : List Signal) (tier : Confidence) : Chain :=
  { chain with
    overruled := chain.overruled ++ chain.losing signals tier
    tied := chain.fitting signals tier }

theorem descend_cons (signals : List Signal) (chain : Chain) (tier : Confidence)
    (lower : List Confidence) :
    descend signals chain (tier :: lower) =
      if Compatible (chain.fitting signals tier) then
        descend signals (chain.accept signals tier) lower
      else chain.stop signals tier :=
  rfl

theorem fitting_eq_filter (chain : Chain) (signals : List Signal) (tier : Confidence) :
    chain.fitting signals tier = signals.filter fun s => s.confidence = tier ∧ chain.Admits s := by
  rw [fitting, List.filter_filter]
  refine List.filter_congr fun s _ => ?_
  rw [Bool.and_comm, Bool.decide_and]

theorem mem_fitting {chain : Chain} {signals : List Signal} {tier : Confidence} {s : Signal} :
    s ∈ chain.fitting signals tier ↔
      s ∈ signals ∧ s.confidence = tier ∧ chain.Admits s := by
  simp only [fitting, List.mem_filter, decide_eq_true_eq, and_assoc]

theorem mem_losing {chain : Chain} {signals : List Signal} {tier : Confidence} {s : Signal} :
    s ∈ chain.losing signals tier ↔
      s ∈ signals ∧ s.confidence = tier ∧ ¬chain.Admits s := by
  simp only [losing, List.mem_filter, decide_eq_true_eq, and_assoc]

theorem fitting_append_losing_perm (chain : Chain) (signals : List Signal)
    (tier : Confidence) :
    (chain.fitting signals tier ++ chain.losing signals tier).Perm
      (signals.filter (·.confidence = tier)) := by
  have hlosing : chain.losing signals tier =
      (signals.filter (·.confidence = tier)).filter fun s => !decide (chain.Admits s) := by
    simp [losing]
  rw [hlosing]
  exact List.filter_append_perm _ _

/-- The walk got as far down as this tier. -/
def Reached (chain : Chain) (tier : Confidence) : Prop :=
  ∀ t ∈ chain.tied, t.confidence ≤ tier

instance (chain : Chain) (tier : Confidence) : Decidable (chain.Reached tier) :=
  inferInstanceAs (Decidable (∀ t ∈ chain.tied, t.confidence ≤ tier))

structure Sorts (signals : List Signal) (chain : Chain) : Prop where
  accepted_agree : Compatible chain.accepted
  overruled_lose : ∀ o ∈ chain.overruled, ∃ a ∈ chain.accepted,
    o.confidence < a.confidence ∧ a.Conflicts o
  tied_below : ∀ t ∈ chain.tied, ∀ a ∈ chain.accepted, t.confidence < a.confidence
  tied_fit : ∀ t ∈ chain.tied, chain.Admits t
  tied_level : ∀ t ∈ chain.tied, ∀ u ∈ chain.tied, t.confidence = u.confidence
  tied_disagree : chain.tied ≠ [] → ¬Compatible chain.tied
  accounted : (chain.accepted ++ chain.overruled ++ chain.tied).Perm
    (signals.filter fun s => chain.Reached s.confidence)

theorem not_admits_iff {chain : Chain} {s : Signal} :
    ¬chain.Admits s ↔ ∃ a ∈ chain.accepted, a.Conflicts s := by
  simp [Admits]

theorem filter_reached_of_tied_nil {chain : Chain} (h : chain.tied = [])
    (signals : List Signal) :
    (signals.filter fun s => chain.Reached s.confidence) = signals := by
  simp [Reached, h]

theorem lt_of_mem_seen {signals : List Signal} {tier : Confidence} {lower : List Confidence}
    (hladder : Confidence.Ladder (tier :: lower)) {s : Signal}
    (hs : s ∈ seen signals (tier :: lower)) : tier < s.confidence := by
  have hnot : s.confidence ∉ tier :: lower := by simpa [seen] using (List.mem_filter.mp hs).2
  rw [List.mem_cons, not_or, hladder.mem_tail_iff] at hnot
  obtain ⟨hne, hnlt⟩ := hnot
  rw [Confidence.eq_iff] at hne
  rw [Confidence.lt_iff] at hnlt ⊢
  omega

namespace Sorts

section Members

variable {signals : List Signal} {chain : Chain} {s : Signal}

theorem accepted_mem (h : Sorts signals chain) (hs : s ∈ chain.accepted) : s ∈ signals :=
  (List.mem_filter.mp (h.accounted.mem_iff.mp (by simp [hs]))).1

theorem overruled_mem (h : Sorts signals chain) (hs : s ∈ chain.overruled) : s ∈ signals :=
  (List.mem_filter.mp (h.accounted.mem_iff.mp (by simp [hs]))).1

theorem tied_mem (h : Sorts signals chain) (hs : s ∈ chain.tied) : s ∈ signals :=
  (List.mem_filter.mp (h.accounted.mem_iff.mp (by simp [hs]))).1

/-- A signal that the walk got to is in one of the three parts. -/
theorem cases (h : Sorts signals chain) (hs : s ∈ signals)
    (hreached : chain.Reached s.confidence) :
    s ∈ chain.accepted ∨ s ∈ chain.overruled ∨ s ∈ chain.tied := by
  have hmem := h.accounted.mem_iff.mpr (List.mem_filter.mpr ⟨hs, by simpa using hreached⟩)
  simpa [or_assoc] using hmem

/-- Only signals below a tie are left out. -/
theorem cases_or_below (h : Sorts signals chain) (hs : s ∈ signals) :
    s ∈ chain.accepted ∨ s ∈ chain.overruled ∨ s ∈ chain.tied ∨
      ∃ t ∈ chain.tied, s.confidence < t.confidence := by
  by_cases hreached : chain.Reached s.confidence
  · rcases h.cases hs hreached with ha | ho | ht
    · exact Or.inl ha
    · exact Or.inr (Or.inl ho)
    · exact Or.inr (Or.inr (Or.inl ht))
  · simp only [Reached, Classical.not_forall] at hreached
    obtain ⟨t, ht, hlt⟩ := hreached
    exact Or.inr (Or.inr (Or.inr ⟨t, ht, Nat.lt_of_not_le hlt⟩))

/-- The walk got as far down as each signal it sorted. -/
theorem reached (h : Sorts signals chain)
    (hs : s ∈ chain.accepted ∨ s ∈ chain.overruled ∨ s ∈ chain.tied) :
    chain.Reached s.confidence := by
  have hmem : s ∈ chain.accepted ++ chain.overruled ++ chain.tied := by
    simpa [or_assoc] using hs
  simpa using (List.mem_filter.mp (h.accounted.mem_iff.mp hmem)).2

/-- Where nothing is overruled or tied, everything is accepted. -/
theorem mem_accepted_of_quiet (h : Sorts signals chain)
    (hquiet : chain.overruled = [] ∧ chain.tied = []) (hs : s ∈ signals) : s ∈ chain.accepted := by
  simpa [hquiet.1, hquiet.2] using h.cases_or_below hs

/-- Nothing is overruled or tied exactly when all signals agree. -/
theorem quiet_iff (h : Sorts signals chain) :
    chain.overruled = [] ∧ chain.tied = [] ↔ Compatible signals := by
  constructor
  · intro hquiet
    refine compatible_iff.mpr ?_
    intro a ha b hb
    exact compatible_iff.mp h.accepted_agree a (h.mem_accepted_of_quiet hquiet ha) b
      (h.mem_accepted_of_quiet hquiet hb)
  · intro hagree
    have hnone := compatible_iff.mp hagree
    constructor
    · refine List.eq_nil_iff_forall_not_mem.mpr ?_
      intro o ho
      obtain ⟨a, ha, _, hao⟩ := h.overruled_lose o ho
      exact hnone a (h.accepted_mem ha) o (h.overruled_mem ho) hao
    · by_cases htied : chain.tied = []
      · exact htied
      · obtain ⟨a, ha, b, hb, hab⟩ := not_compatible_iff.mp (h.tied_disagree htied)
        exact absurd hab (hnone a (h.tied_mem ha) b (h.tied_mem hb))

theorem mem_accepted_of_agree (h : Sorts signals chain) (hagree : Compatible signals)
    (hs : s ∈ signals) : s ∈ chain.accepted :=
  h.mem_accepted_of_quiet (h.quiet_iff.mpr hagree) hs

/-- Where anything is accepted, so is every signal of the highest confidence. -/
theorem top_accepted (h : Sorts signals chain) (hne : chain.accepted ≠ []) (hs : s ∈ signals)
    (htop : ∀ t ∈ signals, t.confidence ≤ s.confidence) : s ∈ chain.accepted := by
  rcases h.cases_or_below hs with ha | ho | ht | ⟨t, ht, hlt⟩
  · exact ha
  · obtain ⟨a, ha, hlt, _⟩ := h.overruled_lose s ho
    exact absurd hlt (Nat.not_lt.mpr (htop a (h.accepted_mem ha)))
  · obtain ⟨a, ha⟩ := List.exists_mem_of_ne_nil _ hne
    exact absurd (h.tied_below s ht a ha) (Nat.not_lt.mpr (htop a (h.accepted_mem ha)))
  · exact absurd hlt (Nat.not_lt.mpr (htop t (h.tied_mem ht)))

/-- Nothing is accepted exactly when two conflicting signals are the most confident ones. -/
theorem accepted_eq_nil_iff (h : Sorts signals chain) (hne : signals ≠ []) :
    chain.accepted = [] ↔ ∃ a ∈ signals, ∃ b ∈ signals, a.Conflicts b ∧
      ∀ s ∈ signals, s.confidence ≤ a.confidence ∧ s.confidence ≤ b.confidence := by
  constructor
  · intro hnil
    -- overruling takes something accepted, so everything is at the tie or below it
    have hcases : ∀ s ∈ signals, ∃ t ∈ chain.tied, s.confidence ≤ t.confidence := by
      intro s hs
      rcases h.cases_or_below hs with ha | ho | ht | ⟨t, ht, hlt⟩
      · simp [hnil] at ha
      · obtain ⟨a, ha, _⟩ := h.overruled_lose s ho
        simp [hnil] at ha
      · exact ⟨s, ht, Nat.le_refl _⟩
      · exact ⟨t, ht, Nat.le_of_lt hlt⟩
    obtain ⟨s, hs⟩ := List.exists_mem_of_ne_nil _ hne
    obtain ⟨t, ht, _⟩ := hcases s hs
    obtain ⟨a, ha, b, hb, hab⟩ :=
      not_compatible_iff.mp (h.tied_disagree (List.ne_nil_of_mem ht))
    refine ⟨a, h.tied_mem ha, b, h.tied_mem hb, hab, ?_⟩
    intro u hu
    obtain ⟨v, hv, hle⟩ := hcases u hu
    exact ⟨h.tied_level v hv a ha ▸ hle, h.tied_level v hv b hb ▸ hle⟩
  · rintro ⟨a, ha, b, hb, hab, htop⟩
    by_cases hnil : chain.accepted = []
    · exact hnil
    · have haAccept := h.top_accepted hnil ha fun s hs => (htop s hs).1
      have hbAccept := h.top_accepted hnil hb fun s hs => (htop s hs).2
      exact absurd hab (compatible_iff.mp h.accepted_agree a haAccept b hbAccept)

end Members

section Step

variable {signals : List Signal} {chain : Chain} {tier : Confidence} {lower : List Confidence}

/-- What was overruled before or at this tier lost to something accepted above the tier. -/
private theorem losing_lose (hladder : Confidence.Ladder (tier :: lower))
    (h : Sorts (seen signals (tier :: lower)) chain) :
    ∀ o ∈ chain.overruled ++ chain.losing signals tier, ∃ a ∈ chain.accepted,
      o.confidence < a.confidence ∧ a.Conflicts o := by
  intro o ho
  rcases List.mem_append.mp ho with ho | ho
  · exact h.overruled_lose o ho
  · obtain ⟨_, htier, hnot⟩ := mem_losing.mp ho
    obtain ⟨a, ha, hconf⟩ := not_admits_iff.mp hnot
    exact ⟨a, ha, htier ▸ lt_of_mem_seen hladder (h.accepted_mem ha), hconf⟩

private theorem tier_perm (hladder : Confidence.Ladder (tier :: lower))
    (h : Sorts (seen signals (tier :: lower)) chain) (htied : chain.tied = []) :
    (chain.accepted ++ chain.overruled ++
      (chain.fitting signals tier ++ chain.losing signals tier)).Perm (seen signals lower) := by
  have hbefore : (chain.accepted ++ chain.overruled).Perm (seen signals (tier :: lower)) := by
    simpa [htied, filter_reached_of_tied_nil htied] using h.accounted
  exact (hbefore.append (fitting_append_losing_perm chain signals tier)).trans
    (seen_cons_perm hladder.head_not_mem signals)

theorem accept (hladder : Confidence.Ladder (tier :: lower))
    (h : Sorts (seen signals (tier :: lower)) chain) (htied : chain.tied = [])
    (hagree : Compatible (chain.fitting signals tier)) :
    Sorts (seen signals lower) (chain.accept signals tier) where
  accepted_agree := by
    refine List.pairwise_append.mpr ⟨h.accepted_agree, hagree, ?_⟩
    intro a ha s hs
    exact (mem_fitting.mp hs).2.2 a ha
  overruled_lose o ho := by
    obtain ⟨a, ha, hlose⟩ := losing_lose hladder h o ho
    exact ⟨a, List.mem_append_left _ ha, hlose⟩
  tied_below := by simp [Chain.accept, htied]
  tied_fit := by simp [Chain.accept, htied]
  tied_level := by simp [Chain.accept, htied]
  tied_disagree hne := absurd htied hne
  accounted := by
    have hnil : (chain.accept signals tier).tied = [] := htied
    rw [filter_reached_of_tied_nil hnil]
    refine List.Perm.trans ?_ (tier_perm hladder h htied)
    refine List.perm_iff_count.mpr fun s => ?_
    simp only [Chain.accept, htied, List.append_nil, List.count_append]
    omega

/-- A tier that contradicts itself ends the walk with all signals down to it sorted. -/
theorem stop (hladder : Confidence.Ladder (tier :: lower))
    (h : Sorts (seen signals (tier :: lower)) chain) (htied : chain.tied = [])
    (hdisagree : ¬Compatible (chain.fitting signals tier)) :
    Sorts signals (chain.stop signals tier) where
  accepted_agree := h.accepted_agree
  overruled_lose := losing_lose hladder h
  tied_below t ht a ha := by
    rw [(mem_fitting.mp ht).2.1]
    exact lt_of_mem_seen hladder (h.accepted_mem ha)
  tied_fit t ht := (mem_fitting.mp ht).2.2
  tied_level t ht u hu := (mem_fitting.mp ht).2.1.trans (mem_fitting.mp hu).2.1.symm
  tied_disagree _ := hdisagree
  accounted := by
    -- a tie is not empty, so the walk got to this tier and no further
    have hreached : ∀ c, (chain.stop signals tier).Reached c ↔ c ∉ lower := by
      intro c
      obtain ⟨t, ht, _⟩ := not_compatible_iff.mp hdisagree
      rw [hladder.mem_tail_iff, Confidence.lt_iff, Nat.not_lt]
      constructor
      · intro hall
        have hle := hall t ht
        rwa [(mem_fitting.mp ht).2.1] at hle
      · intro hle u hu
        rw [(mem_fitting.mp hu).2.1]
        exact hle
    have hseen : (signals.filter fun s => (chain.stop signals tier).Reached s.confidence) =
        seen signals lower := by
      simp only [hreached, seen]
    rw [hseen]
    refine List.Perm.trans ?_ (tier_perm hladder h htied)
    refine List.perm_iff_count.mpr fun s => ?_
    simp only [Chain.stop, List.count_append]
    omega

end Step

end Sorts

theorem descend_sorts {signals : List Signal} {chain : Chain} {tiers : List Confidence}
    (hladder : Confidence.Ladder tiers) (h : Sorts (seen signals tiers) chain)
    (htied : chain.tied = []) : Sorts signals (descend signals chain tiers) := by
  -- on the tiers still to come; `h` speaks of those already passed
  induction tiers generalizing chain with
  | nil =>
    rw [seen_nil] at h
    exact h
  | cons tier lower ih =>
    rw [descend_cons]
    by_cases hagree : Compatible (chain.fitting signals tier)
    · rw [if_pos hagree]
      exact ih hladder.tail (h.accept hladder htied hagree) htied
    · rw [if_neg hagree]
      exact h.stop hladder htied hagree

theorem empty_sorts : Sorts [] empty where
  accepted_agree := List.Pairwise.nil
  overruled_lose := by simp [empty]
  tied_below := by simp [empty]
  tied_fit := by simp [empty]
  tied_level := by simp [empty]
  tied_disagree hne := absurd rfl hne
  accounted := List.Perm.nil

theorem walk_sorts (signals : List Signal) : Sorts signals (walk signals) := by
  refine descend_sorts Confidence.ladder_descending ?_ rfl
  rw [seen_descending]
  exact empty_sorts

end Chain

end Resolver

end ColumnRoles
