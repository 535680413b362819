import ColumnRoles.Proofs.Tiers

/-!
Where a walk through the tiers puts each of its signals. A walk that is not stopped accepts or
overrules all of them. One that is stopped by a tie has gone down to the tier of the tie, and what
is tied is all that agrees with the accepted signals in that tier; the tiers above it and the rest
of that tier are accepted or overruled, and the tiers below it are left out.
-/
namespace ColumnRoles.Resolver.Chain

/-- A tie is what fits the accepted signals in the tier at which the walk stopped. -/
theorem tied_descend (signals : List Signal) {chain : Chain} (tiers : List Confidence)
    (htied : chain.tied = []) :
    (descend signals chain tiers).tied = [] ∨ ∃ tier,
      (descend signals chain tiers).tied = (descend signals chain tiers).fitting signals tier := by
  induction tiers generalizing chain with
  | nil => exact Or.inl htied
  | cons tier lower ih =>
    rw [descend_cons]
    split
    · exact ih htied
    · exact Or.inr ⟨tier, rfl⟩

theorem exists_tier_of_tied {signals : List Signal} (h : (walk signals).tied ≠ []) :
    ∃ tier, (walk signals).tied = (walk signals).fitting signals tier :=
  (tied_descend signals Confidence.descending rfl).resolve_left h

namespace Sorts

variable {signals : List Signal} {chain : Chain} {tier : Confidence}

/-- Every tied signal is of the tier of the tie. -/
theorem reached_iff (h : chain.tied = chain.fitting signals tier) (hne : chain.tied ≠ [])
    (confidence : Confidence) : chain.Reached confidence ↔ tier ≤ confidence := by
  have hlevel : ∀ t ∈ chain.tied, t.confidence = tier := by
    intro t ht
    rw [h] at ht
    exact (mem_fitting.mp ht).2.1
  constructor
  · intro hreached
    obtain ⟨t, ht⟩ := List.exists_mem_of_ne_nil _ hne
    exact hlevel t ht ▸ hreached t ht
  · intro hle t ht
    exact hlevel t ht ▸ hle

theorem tier_lt_accepted (hsorts : Sorts signals chain) (h : chain.tied = chain.fitting signals tier)
    (hne : chain.tied ≠ []) {a : Signal} (ha : a ∈ chain.accepted) : tier < a.confidence := by
  obtain ⟨t, ht⟩ := List.exists_mem_of_ne_nil _ hne
  have hlt := hsorts.tied_below t ht a ha
  rw [h] at ht
  rwa [(mem_fitting.mp ht).2.1] at hlt

end Sorts

/-- A walk puts every signal into its place. Accepted signals never conflict, and each overruled one
conflicts with a more confident accepted one. Without a tie these two are all of the signals, each
as often as it was given. A tie is all that conflicts with nothing accepted in one tier, and two of
its signals conflict. Whatever is accepted lies above that tier, whatever is overruled lies not
below it, and the three together are all signals that do not lie below it. -/
theorem walk_places_every_signal (signals : List Signal) :
    (∀ a ∈ (walk signals).accepted, ∀ b ∈ (walk signals).accepted, ¬a.Conflicts b) ∧
    (∀ o ∈ (walk signals).overruled, ∃ a ∈ (walk signals).accepted,
      o.confidence < a.confidence ∧ a.Conflicts o) ∧
    ((walk signals).tied = [] →
      ((walk signals).accepted ++ (walk signals).overruled).Perm signals) ∧
    ((walk signals).tied ≠ [] → ∃ tier,
      ((walk signals).tied = signals.filter fun s =>
        s.confidence = tier ∧ ∀ a ∈ (walk signals).accepted, ¬a.Conflicts s) ∧
      (∃ a ∈ (walk signals).tied, ∃ b ∈ (walk signals).tied, a.Conflicts b) ∧
      (∀ a ∈ (walk signals).accepted, tier < a.confidence) ∧
      (∀ o ∈ (walk signals).overruled, tier ≤ o.confidence) ∧
      ((walk signals).accepted ++ (walk signals).overruled ++ (walk signals).tied).Perm
        (signals.filter fun s => tier ≤ s.confidence)) := by
  have hsorts := walk_sorts signals
  refine ⟨compatible_iff.mp hsorts.accepted_agree, hsorts.overruled_lose, ?_, ?_⟩
  · intro htied
    have haccounted := hsorts.accounted
    rwa [filter_reached_of_tied_nil htied, htied, List.append_nil] at haccounted
  · intro hne
    obtain ⟨tier, htier⟩ := exists_tier_of_tied hne
    have hreached := Sorts.reached_iff htier hne
    refine ⟨tier, ?_, not_compatible_iff.mp (hsorts.tied_disagree hne), ?_, ?_, ?_⟩
    · rw [htier, fitting_eq_filter]
      rfl
    · intro a ha
      exact hsorts.tier_lt_accepted htier hne ha
    · intro o ho
      exact (hreached _).mp (hsorts.reached (Or.inr (Or.inl ho)))
    · have haccounted := hsorts.accounted
      simpa only [hreached] using haccounted

def codeColumn : ColumnRef :=
  ⟨"orders", "code"⟩

def splitEvidence : List Signal :=
  [⟨codeColumn, .idPrimary, .low, false, "first column"⟩,
    ⟨codeColumn, .idForeign, .high, false, "few values"⟩,
    ⟨codeColumn, .idUnknown, .forSure, false, "identifier by name"⟩,
    ⟨codeColumn, .measureUnknown, .high, false, "numbers"⟩,
    ⟨codeColumn, .idUnique, .high, false, "all values distinct"⟩]

theorem walk_places_every_signal_split :
    (walk splitEvidence).tied ≠ [] ∧
      (∃ tier, (walk splitEvidence).tied.length = 2 ∧
        (∀ a ∈ (walk splitEvidence).accepted, tier < a.confidence) ∧
        ((walk splitEvidence).accepted ++ (walk splitEvidence).overruled ++
          (walk splitEvidence).tied).Perm
            (splitEvidence.filter fun s => tier ≤ s.confidence)) ∧
      (∃ o ∈ (walk splitEvidence).overruled, ∃ a ∈ (walk splitEvidence).accepted,
        o.confidence < a.confidence ∧ a.Conflicts o) ∧
      (walk splitEvidence.dropLast).tied = [] ∧
      ((walk splitEvidence.dropLast).accepted ++ (walk splitEvidence.dropLast).overruled).Perm
        splitEvidence.dropLast := by
  have hne : (walk splitEvidence).tied ≠ [] := by decide
  have hlength : (walk splitEvidence).tied.length = 2 := by decide
  have hover : (⟨codeColumn, .measureUnknown, .high, false, "numbers"⟩ : Signal) ∈
      (walk splitEvidence).overruled := by decide
  have hnil : (walk splitEvidence.dropLast).tied = [] := by decide
  obtain ⟨_, hlose, _, hstopped⟩ := walk_places_every_signal splitEvidence
  obtain ⟨_, _, hquiet, _⟩ := walk_places_every_signal splitEvidence.dropLast
  obtain ⟨tier, _, _, habove, _, hall⟩ := hstopped hne
  exact ⟨hne, ⟨tier, hlength, habove, hall⟩, ⟨_, hover, hlose _ hover⟩, hnil, hquiet hnil⟩

end ColumnRoles.Resolver.Chain
