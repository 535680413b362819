import ColumnRoles.Proofs.Reported
import ColumnRoles.Proofs.Run

/-!
The weight of the strongest definitive evidence. Where a column is decided, the walk has accepted
every definitive signal of the highest confidence, so the outcome refines all of them, whatever
else was said. If one of them names with certainty a role that nothing refines, there is no other
outcome than that role, held for sure, or a tie.
-/
namespace ColumnRoles

theorem Confidence.le_forSure (c : Confidence) : c ≤ .forSure := by
  cases c <;> decide

theorem Role.not_strictlyRefines_idPrimary (role : Role) : ¬role.StrictlyRefines .idPrimary := by
  cases role <;> decide

namespace Resolver

section Definitive

variable {signals : List Signal} {base s : Signal}

/-- Where definitive evidence is accepted at all, so is the strongest. -/
theorem strongest_accepted (hbase : mostSpecific (ground signals).accepted = some base)
    (hs : s ∈ signals) (hdef : s.Definitive)
    (htop : ∀ t ∈ signals, t.Definitive → t.confidence ≤ s.confidence) :
    s ∈ (ground signals).accepted := by
  refine (ground_sorts signals).top_accepted (exists_definitive_of_base hbase).2
    (mem_definitive.mpr ⟨hs, hdef⟩) ?_
  intro t ht
  obtain ⟨hmem, htdef⟩ := mem_definitive.mp ht
  exact htop t hmem htdef

/-- Definitive evidence leads to a tie or to a decision that rests on it. -/
theorem tied_or_decided (column : ColumnRef) (hs : s ∈ signals) (hdef : s.Definitive) :
    (solve column signals).resolution = .unresolved .tiedDefinitive ∨
      ∃ base, mostSpecific (ground signals).accepted = some base ∧
        solve column signals =
          settle column signals (finalist signals base) (decidedProblems signals base) := by
  cases hbase : mostSpecific (ground signals).accepted with
  | none =>
    obtain ⟨text, htext⟩ := solve_tied column ⟨s, hs, hdef⟩ (mostSpecific_eq_none_iff.mp hbase)
    exact Or.inl (by rw [htext]; rfl)
  | some base => exact Or.inr ⟨base, rfl, solve_decided column hbase⟩

theorem refines_strongest {column : ColumnRef} {role : Role}
    (hresolved : (solve column signals).resolution = .resolved role) (hs : s ∈ signals)
    (hdef : s.Definitive) (htop : ∀ t ∈ signals, t.Definitive → t.confidence ≤ s.confidence) :
    role.Refines s.role := by
  rcases tied_or_decided column hs hdef with htied | ⟨base, hbase, hsolve⟩
  · rw [htied] at hresolved
    cases hresolved
  · rw [hsolve] at hresolved
    obtain rfl := Resolution.resolved.inj hresolved
    exact finalist_refines_accepted hbase (strongest_accepted hbase hs hdef htop)

/-- A role that nothing refines, once it is held for sure, is the outcome if there is one. -/
theorem leaf_or_tied (column : ColumnRef) (hs : s ∈ signals) (hdef : s.Definitive)
    (hsure : s.confidence = .forSure) (hleaf : ∀ role : Role, ¬role.StrictlyRefines s.role) :
    ((solve column signals).resolution = .resolved s.role ∧
        (solve column signals).confidence = some .forSure) ∨
      (solve column signals).resolution = .unresolved .tiedDefinitive := by
  rcases tied_or_decided column hs hdef with htied | ⟨base, hbase, hsolve⟩
  · exact Or.inr htied
  · have hmem : s ∈ (ground signals).accepted :=
      strongest_accepted hbase hs hdef fun t _ _ => hsure ▸ t.confidence.le_forSure
    have hrole : base.role = s.role :=
      (refines_of_mostSpecific (ground_sorts signals).accepted_agree hbase hmem).resolve_right
        (hleaf base.role)
    -- of the accepted signals of one role the most confident is picked
    have hconfidence : base.confidence = .forSure := by
      have hge := confidence_le_of_mostSpecific hbase hmem hrole.symm
      rw [hsure] at hge
      exact Confidence.rank_injective (Nat.le_antisymm base.confidence.le_forSure hge)
    have hnone : (deepening signals base).accepted = [] := by
      refine List.eq_nil_iff_forall_not_mem.mpr fun t ht => hleaf t.role ?_
      rw [← hrole]
      exact (mem_refinements.mp ((deepening_sorts signals base).accepted_mem ht)).2.2.2
    rw [hsolve, finalist_eq_base hnone]
    exact Or.inl ⟨congrArg Resolution.resolved hrole, congrArg some hconfidence⟩

end Definitive

end Resolver

/-- A matcher emits its signal about each column that passes its test, and nothing else. -/
theorem Rule.mem_emitted_matcher {matcher : ColumnMatcher} {warehouse : Warehouse}
    {s : Signal} : s ∈ (Rule.matcher matcher).emitted warehouse ↔
      ∃ profile ∈ warehouse.columns, matcher.test profile = .ok true ∧
        { column := profile.ref, role := matcher.role, confidence := matcher.confidence,
          complimentary := matcher.complimentary, reason := matcher.reason } = s := by
  refine List.mem_filterMap.trans (exists_congr fun profile => and_congr_right fun _ => ?_)
  unfold ColumnMatcher.signal?
  split
  · next htest => simp [htest]
  · next hfailed => exact ⟨nofun, fun h => absurd h.1 hfailed⟩

namespace Runner

/-- A rule that matches a column has its say on it, whatever the other rules do. -/
theorem mem_emitted_of_test {rules : Ruleset} {warehouse : Warehouse} {matcher : ColumnMatcher}
    {profile : ColumnProfile} (hrule : .matcher matcher ∈ rules)
    (hmem : profile ∈ warehouse.columns) (htest : matcher.test profile = .ok true) :
    { column := profile.ref, role := matcher.role, confidence := matcher.confidence,
      complimentary := matcher.complimentary, reason := matcher.reason } ∈
      Ruleset.emitted rules warehouse :=
  Ruleset.mem_emitted.mpr ⟨_, hrule, Rule.mem_emitted_matcher.mpr ⟨profile, hmem, htest, rfl⟩⟩

/-- The strongest definitive evidence cannot be outvoted. Where a column is resolved, its role
refines the role of every definitive signal about it that no definitive signal about it exceeds in
confidence. With the rule for primary identifiers among the rules, a column that has the name of one
is a primary identifier for sure, or is left unresolved by a tie. -/
theorem strongest_evidence_prevails (runner : Runner) (hsolver : runner.solver = Resolver.solve)
    (warehouse : Warehouse) :
    (∀ (c : ColumnRef) (decision : Decision) (role : Role),
      (runner.run warehouse).decision? c = some decision →
      decision.resolution = .resolved role →
      ∀ s ∈ Ruleset.emitted runner.rules warehouse, s.column = c → s.Definitive →
        (∀ t ∈ Ruleset.emitted runner.rules warehouse, t.column = c → t.Definitive →
          t.confidence ≤ s.confidence) →
        role.Refines s.role) ∧
    (∀ tuning, Builtin.primaryIdentifierByName.rule tuning ∈ runner.rules →
      ∀ profile ∈ warehouse.columns, Naming.isPrimaryIdentifier profile.ref = true →
        ∃ decision, (runner.run warehouse).decision? profile.ref = some decision ∧
          (decision.resolution = .resolved .idPrimary ∧ decision.confidence = some .forSure ∨
            decision.resolution = .unresolved .tiedDefinitive)) := by
  have mem_own : ∀ {c : ColumnRef} {s : Signal},
      s ∈ (Ruleset.emitted runner.rules warehouse).filter (·.column = c) ↔
        s ∈ Ruleset.emitted runner.rules warehouse ∧ s.column = c := by
    simp
  constructor
  · intro c decision role hdecision hresolved s hs hcolumn hdef htop
    rw [decision?_run (mem_keys_of_decision? hdecision), hsolver] at hdecision
    obtain rfl := Option.some.inj hdecision
    refine Resolver.refines_strongest hresolved (mem_own.mpr ⟨hs, hcolumn⟩) hdef ?_
    intro t ht htdef
    obtain ⟨hmem, htcolumn⟩ := mem_own.mp ht
    exact htop t hmem htcolumn htdef
  · intro tuning hrule profile hmem hname
    have hsignal := mem_emitted_of_test hrule hmem (congrArg Except.ok hname)
    rw [decision?_run (mem_keys_of_mem_columns hmem), hsolver]
    refine ⟨_, rfl, ?_⟩
    exact Resolver.leaf_or_tied profile.ref (mem_own.mpr ⟨hsignal, rfl⟩) rfl rfl
      Role.not_strictlyRefines_idPrimary

theorem strongest_evidence_prevails_shop :
    noisy.solver = Resolver.solve ∧
      (∃ decision, (noisy.run shop).decision? orderId.ref = some decision ∧
        decision.resolution = .resolved .idPrimary) ∧
      (∃ s ∈ Ruleset.emitted noisy.rules shop, s.Definitive ∧ s.confidence = .forSure ∧
        Role.idPrimary.Refines s.role) ∧
      ∃ decision, (noisy.run shop).decision? orderId.ref = some decision ∧
        (decision.resolution = .resolved .idPrimary ∧ decision.confidence = some .forSure ∨
          decision.resolution = .unresolved .tiedDefinitive) := by
  obtain ⟨hrefines, hnamed⟩ := strongest_evidence_prevails noisy rfl shop
  have hmem : orderId ∈ shop.columns := by decide +kernel
  have hkey : orderId.ref ∈ (noisy.run shop).decisions.keys := mem_keys_of_mem_columns hmem
  have hresolved : (noisy.solver orderId.ref ((Ruleset.emitted noisy.rules shop).filter
      (·.column = orderId.ref))).resolution = .resolved .idPrimary := by decide +kernel
  have hidentifier : Builtin.anyIdentifierByName.rule .usual ∈ noisy.rules := by simp [noisy]
  have hprimary : Builtin.primaryIdentifierByName.rule .usual ∈ noisy.rules := by simp [noisy]
  have hname : Naming.isIdentifier orderId.ref = true := by decide +kernel
  have hsignal := mem_emitted_of_test hidentifier hmem (congrArg Except.ok hname)
  exact ⟨rfl, ⟨_, decision?_run hkey, hresolved⟩,
    ⟨_, hsignal, rfl, rfl, hrefines _ _ _ (decision?_run hkey) hresolved _ hsignal rfl rfl
      fun t _ _ _ => t.confidence.le_forSure⟩,
    hnamed .usual hprimary _ hmem (by decide +kernel)⟩

end Runner

end ColumnRoles
