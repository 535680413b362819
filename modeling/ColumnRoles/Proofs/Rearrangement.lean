import ColumnRoles.Proofs.Stance

/-!
Nothing is decided by order, by counting or by the words of a reason. Each step of a resolution
keeps every relation that looks at what signals say only, so the walks through related lists stop
at the same tier with related parts, and the decisions have the same role and confidence. For
rearranged lists the reasons are rearranged as well, and the number of problems is the same.
-/
namespace ColumnRoles.Resolver

/-- Complimentary signals are contradicted by what is said, not by how. -/
theorem SameStances.contradicted_iff {left right : List Signal} (h : SameStances left right)
    {s t : Signal} (hst : s.stance = t.stance) : Contradicted left s ↔ Contradicted right t := by
  have hdefinitive : SameStances (left.filter fun s => s.Definitive)
      (right.filter fun s => s.Definitive) :=
    blindTo_sameStances.filter (fun _ _ hab => definitive_iff_of_stance hab) h
  have hfilter : ∀ (l : List Signal) (u : Signal), Contradicted l u ↔
      ¬u.Definitive ∧ ∃ d ∈ l.filter fun s => s.Definitive, d.Conflicts u := by
    intro l u
    simp only [Contradicted, mem_definitive, and_assoc]
  rw [hfilter, hfilter, definitive_iff_of_stance hst]
  exact and_congr_right fun _ =>
    ⟨hdefinitive.exists_conflict hst, hdefinitive.symm.exists_conflict hst.symm⟩

structure Chain.Related (R : List Signal → List Signal → Prop) (left right : Chain) : Prop where
  accepted : R left.accepted right.accepted
  overruled : R left.overruled right.overruled
  tied : R left.tied right.tied

namespace BlindTo

variable {R : List Signal → List Signal → Prop} (hR : BlindTo R)
include hR

section Walk

variable {left right : List Signal} {c d : Chain}

theorem admits_iff (h : c.Related R d) {a b : Signal} (hstance : a.stance = b.stance) :
    c.Admits a ↔ d.Admits b := by
  have hsame := hR.sameStances h.accepted
  rw [← not_iff_not, Chain.not_admits_iff, Chain.not_admits_iff]
  exact ⟨hsame.exists_conflict hstance, hsame.symm.exists_conflict hstance.symm⟩

theorem tier (h : R left right) (tier : Confidence) :
    R (left.filter (·.confidence = tier)) (right.filter (·.confidence = tier)) :=
  hR.filter (fun a b hab => by rw [confidence_eq_of_stance hab]) h

theorem fitting (h : R left right) (hcd : c.Related R d) (tier : Confidence) :
    R (c.fitting left tier) (d.fitting right tier) :=
  hR.filter (fun _ _ hab => hR.admits_iff hcd hab) (hR.tier h tier)

theorem losing (h : R left right) (hcd : c.Related R d) (tier : Confidence) :
    R (c.losing left tier) (d.losing right tier) :=
  hR.filter (fun _ _ hab => not_congr (hR.admits_iff hcd hab)) (hR.tier h tier)

/-- The walks stop at the same tier, with related parts. -/
theorem descend (h : R left right) (hcd : c.Related R d) (tiers : List Confidence) :
    (Chain.descend left c tiers).Related R (Chain.descend right d tiers) := by
  -- the chains stay related, so both sides take the same branch at each tier
  induction tiers generalizing c d with
  | nil => exact hcd
  | cons tier lower ih =>
    have hfitting := hR.fitting h hcd tier
    have hoverruled := hR.append hcd.overruled (hR.losing h hcd tier)
    have hagree := (hR.sameStances hfitting).compatible_iff
    rw [Chain.descend_cons, Chain.descend_cons]
    by_cases hc : Compatible (c.fitting left tier)
    · rw [if_pos hc, if_pos (hagree.mp hc)]
      exact ih ⟨hR.append hcd.accepted hfitting, hoverruled, hcd.tied⟩
    · rw [if_neg hc, if_neg (mt hagree.mpr hc)]
      exact ⟨hcd.accepted, hoverruled, hfitting⟩

theorem walk (h : R left right) : (Chain.walk left).Related R (Chain.walk right) :=
  hR.descend h ⟨hR.nil, hR.nil, hR.nil⟩ _

end Walk

section Parts

variable {left right : List Signal} (h : R left right)
include h

theorem contradicted :
    R (left.filter fun s => Contradicted left s) (right.filter fun s => Contradicted right s) :=
  hR.filter (fun _ _ hab => (hR.sameStances h).contradicted_iff hab) h

theorem ground : (ground left).Related R (ground right) :=
  hR.walk (hR.filter (fun _ _ hab => definitive_iff_of_stance hab) h)

theorem refinements {base base' : Role} (hbase : base = base') :
    R (refinements left base) (refinements right base') := by
  refine hR.filter ?_ h
  intro a b hab
  rw [hbase, definitive_iff_of_stance hab, (hR.sameStances h).contradicted_iff hab,
    role_eq_of_stance hab]

theorem deepening {base base' : Signal} (hbase : base.role = base'.role) :
    (deepening left base).Related R (deepening right base') :=
  hR.walk (hR.refinements h hbase)

end Parts

end BlindTo

section Picks

variable {left right : List Signal} {w w' : Signal}

/-- The leaders of two lists that say the same have the same key. -/
private theorem key_eq_of_leadsBy {key : Signal → Nat × Nat}
    (hkey : ∀ a b : Signal, a.stance = b.stance → key a = key b) (h : SameStances left right)
    (hw : LeadsBy key left w) (hw' : LeadsBy key right w') : key w = key w' := by
  have aux : ∀ {l r : List Signal} {v v' : Signal}, SameStances l r → LeadsBy key l v →
      LeadsBy key r v' → ¬KeyLess (key v') (key v) := by
    intro l r v v' hlr hv hv'
    obtain ⟨u, hu, hstance⟩ := hlr.exists_mem hv.mem
    rw [← hkey u v hstance]
    exact hv'.not_keyLess hu
  exact eq_of_not_keyLess (aux h.symm hw' hw) (aux h hw hw')

/-- Among signals that agree there is one role to a depth. -/
private theorem role_eq_of_depth (h : SameStances left right) (hagree : Compatible left)
    (hw : w ∈ left) (hw' : w' ∈ right) (hdepth : w.role.depth = w'.role.depth) :
    w.role = w'.role := by
  obtain ⟨u, hu, hstance⟩ := h.symm.exists_mem hw'
  rw [← role_eq_of_stance hstance] at hdepth ⊢
  exact Role.eq_of_depth_eq (compatible_iff.mp hagree w hw u hu) hdepth

private theorem firstGreatest_same {key : Signal → Nat × Nat}
    (hkey : ∀ a b : Signal, a.stance = b.stance → key a = key b)
    (hinj : ∀ a b : Signal, key a = key b →
      a.role.depth = b.role.depth ∧ a.confidence.rank = b.confidence.rank)
    (h : SameStances left right) (hagree : Compatible left)
    (hw : firstGreatest key left = some w) :
    ∃ w', firstGreatest key right = some w' ∧ w.role = w'.role ∧
      w.confidence = w'.confidence := by
  have hlead := leadsBy_of_firstGreatest hw
  have hright : firstGreatest key right ≠ none := by
    rw [Ne, firstGreatest_eq_none_iff, ← h.eq_nil_iff]
    exact List.ne_nil_of_mem hlead.mem
  obtain ⟨w', hw'⟩ := Option.ne_none_iff_exists'.mp hright
  have hlead' := leadsBy_of_firstGreatest hw'
  obtain ⟨hdepth, hrank⟩ := hinj w w' (key_eq_of_leadsBy hkey h hlead hlead')
  exact ⟨w', hw', role_eq_of_depth h hagree hlead.mem hlead'.mem hdepth,
    Confidence.rank_injective hrank⟩

theorem mostSpecific_same (h : SameStances left right) (hagree : Compatible left)
    (hw : mostSpecific left = some w) :
    ∃ w', mostSpecific right = some w' ∧ w.role = w'.role ∧ w.confidence = w'.confidence :=
  firstGreatest_same
    (fun a b hab => by rw [role_eq_of_stance hab, confidence_eq_of_stance hab])
    (fun _ _ hab => Prod.mk.inj hab) h hagree hw

theorem mostConfident_same (h : SameStances left right) (hagree : Compatible left)
    (hw : mostConfident left = some w) :
    ∃ w', mostConfident right = some w' ∧ w.role = w'.role ∧ w.confidence = w'.confidence :=
  firstGreatest_same
    (fun a b hab => by rw [role_eq_of_stance hab, confidence_eq_of_stance hab])
    (fun _ _ hab => (Prod.mk.inj hab).symm) h hagree hw

/-- The same base leads to the same final role, held with the same confidence. -/
theorem finalist_same (h : SameStances left right) {base base' : Signal}
    (hrole : base.role = base'.role) (hconfidence : base.confidence = base'.confidence) :
    (finalist left base).role = (finalist right base').role ∧
      (finalist left base).confidence = (finalist right base').confidence := by
  have hsame := (blindTo_sameStances.deepening h hrole).accepted
  unfold finalist
  cases hw : mostSpecific (deepening left base).accepted with
  | none =>
    have hnil := hsame.eq_nil_iff.mp (mostSpecific_eq_none_iff.mp hw)
    rw [mostSpecific_eq_none_iff.mpr hnil]
    exact ⟨hrole, hconfidence⟩
  | some w =>
    obtain ⟨w', hw', heq⟩ :=
      mostSpecific_same hsame (deepening_sorts left base).accepted_agree hw
    rw [hw']
    exact heq

end Picks

section Solve

variable (column : ColumnRef) {left right : List Signal}

theorem hints_of_sameStances (h : SameStances left right)
    (hhints : ∀ s ∈ left, ¬s.Definitive) : ∀ s ∈ right, ¬s.Definitive := by
  intro s hs hdef
  obtain ⟨t, ht, htdef⟩ := h.symm.exists_definitive ⟨s, hs, hdef⟩
  exact hhints t ht htdef

/-- Neither order nor repetition nor the words of a reason decide anything. -/
theorem resolution_same (h : SameStances left right) :
    (solve column left).resolution = (solve column right).resolution ∧
      (solve column left).confidence = (solve column right).confidence := by
  have hground := (blindTo_sameStances.ground h).accepted
  have houtcome := outcome_solve column left
  generalize hleft : solve column left = decision at houtcome
  cases houtcome with
  | noSignals text hnil =>
    have hnil' := h.eq_nil_iff.mp hnil
    rw [← hleft, hnil, hnil']
    exact ⟨rfl, rfl⟩
  | hintsConflict text hhints hconflict =>
    obtain ⟨text', hright⟩ := solve_hintsConflict column (hints_of_sameStances h hhints)
      (mt h.compatible_iff.mpr hconflict)
    rw [hright]
    exact ⟨rfl, rfl⟩
  | hintsAgree winner hhints hagree hwinner =>
    obtain ⟨winner', hwinner', hrole, hconfidence⟩ := mostConfident_same h hagree hwinner
    rw [solve_hintsAgree column (hints_of_sameStances h hhints) (h.compatible hagree) hwinner']
    simp only [settle, hrole, hconfidence, and_self]
  | tied text hdefinitive hnil =>
    obtain ⟨text', hright⟩ := solve_tied column (h.exists_definitive hdefinitive)
      (hground.eq_nil_iff.mp hnil)
    rw [hright]
    exact ⟨rfl, rfl⟩
  | decided base hbase =>
    obtain ⟨base', hbase', hrole, hconfidence⟩ :=
      mostSpecific_same hground (ground_sorts left).accepted_agree hbase
    obtain ⟨hfinal, hheld⟩ := finalist_same h hrole hconfidence
    rw [solve_decided column hbase']
    simp only [settle, hfinal, hheld, and_self]

theorem supportingReasons_perm (h : left.Perm right) (role : Role) :
    (supportingReasons left role).Perm (supportingReasons right role) := by
  have hsame := blindTo_perm.sameStances h
  refine List.Perm.map _ (blindTo_perm.filter ?_ h)
  intro a b hab
  rw [role_eq_of_stance hab, hsame.contradicted_iff hab]

theorem length_stoppedProblems (base : Role) (tied : List Signal) :
    (stoppedProblems base tied).length = min tied.length 1 := by
  cases tied <;> simp [stoppedProblems]

theorem length_refinementProblems (base : Role) (refined : Chain) :
    (refinementProblems base refined).length =
      refined.overruled.length + min refined.tied.length 1 := by
  unfold refinementProblems
  cases refined.tied <;> simp

theorem length_losses_perm (h : left.Perm right) :
    (losses left).length = (losses right).length := by
  have hignored := (blindTo_perm.contradicted h).length_eq
  have hoverruled := (blindTo_perm.ground h).overruled.length_eq
  simp only [losses, List.length_append, List.length_map, hignored, hoverruled]

/-- Another order of the same signals gives the same reasons and as many problems. -/
theorem solve_perm (h : left.Perm right) :
    (solve column left).reasons.Perm (solve column right).reasons ∧
      (solve column left).problems.length = (solve column right).problems.length := by
  have hsame := blindTo_perm.sameStances h
  have hground := blindTo_perm.ground h
  have houtcome := outcome_solve column left
  generalize hleft : solve column left = decision at houtcome
  cases houtcome with
  | noSignals text hnil =>
    have hnil' := hsame.eq_nil_iff.mp hnil
    rw [← hleft, hnil, hnil']
    exact ⟨List.Perm.refl _, rfl⟩
  | hintsConflict text hhints hconflict =>
    obtain ⟨text', hright⟩ := solve_hintsConflict column (hints_of_sameStances hsame hhints)
      (mt hsame.compatible_iff.mpr hconflict)
    rw [hright]
    exact ⟨List.Perm.refl _, rfl⟩
  | hintsAgree winner hhints hagree hwinner =>
    obtain ⟨winner', hwinner', hrole, _⟩ := mostConfident_same hsame hagree hwinner
    rw [solve_hintsAgree column (hints_of_sameStances hsame hhints) (hsame.compatible hagree)
      hwinner']
    simp only [settle, hrole, and_true]
    exact supportingReasons_perm h _
  | tied text hdefinitive hnil =>
    have hnil' := (blindTo_perm.sameStances hground.accepted).eq_nil_iff.mp hnil
    obtain ⟨text', hright⟩ := solve_tied column (hsame.exists_definitive hdefinitive) hnil'
    rw [hright]
    refine ⟨List.Perm.refl _, ?_⟩
    simp only [List.length_append, length_losses_perm h, List.length_singleton]
  | decided base hbase =>
    obtain ⟨base', hbase', hrole, hconfidence⟩ :=
      mostSpecific_same (blindTo_perm.sameStances hground.accepted)
        (ground_sorts left).accepted_agree hbase
    obtain ⟨hfinal, _⟩ := finalist_same hsame hrole hconfidence
    have hdeep := blindTo_perm.deepening h hrole
    rw [solve_decided column hbase']
    simp only [settle, hfinal]
    refine ⟨supportingReasons_perm h _, ?_⟩
    simp only [decidedProblems, List.length_append, length_losses_perm h,
      length_stoppedProblems, length_refinementProblems, hground.tied.length_eq,
      hdeep.overruled.length_eq, hdeep.tied.length_eq]

end Solve

/-- Nothing is decided by order or by counting. Lists that contain the same stances lead to the
same role and confidence. If one list is a rearrangement of the other, so are the reasons, and
there are as many problems. -/
theorem solve_order_insensitive (column : ColumnRef) {left right : List Signal}
    (h : SameStances left right) :
    (solve column left).resolution = (solve column right).resolution ∧
    (solve column left).confidence = (solve column right).confidence ∧
    (left.Perm right →
      (solve column left).reasons.Perm (solve column right).reasons ∧
      (solve column left).problems.length = (solve column right).problems.length) := by
  obtain ⟨hresolution, hconfidence⟩ := resolution_same column h
  exact ⟨hresolution, hconfidence, solve_perm column⟩

def mixedEvidence : List Signal :=
  [⟨⟨"orders", "id"⟩, .idUnknown, .forSure, false, "identifier by name"⟩,
    ⟨⟨"orders", "id"⟩, .idUnknown, .forSure, false, "identifier by pattern"⟩,
    ⟨⟨"orders", "id"⟩, .idPrimary, .forSure, false, "primary by name"⟩,
    ⟨⟨"orders", "id"⟩, .idUnique, .forSure, true, "all values distinct"⟩,
    ⟨⟨"orders", "id"⟩, .measureUnknown, .medium, true, "integer"⟩]

theorem solve_order_insensitive_reverse :
    SameStances mixedEvidence mixedEvidence.reverse ∧
      (solve ⟨"orders", "id"⟩ mixedEvidence).resolution =
        (solve ⟨"orders", "id"⟩ mixedEvidence.reverse).resolution ∧
      (solve ⟨"orders", "id"⟩ mixedEvidence).confidence =
        (solve ⟨"orders", "id"⟩ mixedEvidence.reverse).confidence ∧
      (solve ⟨"orders", "id"⟩ mixedEvidence).reasons.Perm
        (solve ⟨"orders", "id"⟩ mixedEvidence.reverse).reasons ∧
      (solve ⟨"orders", "id"⟩ mixedEvidence).problems.length =
        (solve ⟨"orders", "id"⟩ mixedEvidence.reverse).problems.length := by
  have hsame : SameStances mixedEvidence mixedEvidence.reverse := by decide
  obtain ⟨hresolution, hconfidence, hperm⟩ :=
    solve_order_insensitive ⟨"orders", "id"⟩ hsame
  exact ⟨hsame, hresolution, hconfidence, hperm (List.reverse_perm _).symm⟩

end ColumnRoles.Resolver
