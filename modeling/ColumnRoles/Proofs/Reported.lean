import ColumnRoles.Proofs.Quotes

/-!
Which losing signals the problems quote. A signal loses when the outcome contradicts it. It was
then ignored, overruled or part of a tie, and some problem quotes it, or else it is definitive and
stands below a tie of definitive signals, where the walk did not look. The problems do not depend
on the reason of such a signal, so whether it is quoted is left to chance. The condition is put in
terms of the signals and the outcome alone.
-/
namespace ColumnRoles.Resolver

/-- The signal is definitive, and less confident than two definitive signals of one tier that
conflict with each other but not with the role. -/
def BelowTie (signals : List Signal) (role : Role) (signal : Signal) : Prop :=
  signal.Definitive ∧ ∃ a ∈ signals, ∃ b ∈ signals, a.Definitive ∧ b.Definitive ∧
    a.confidence = b.confidence ∧ signal.confidence < a.confidence ∧ a.Conflicts b ∧
    ¬a.role.Conflicts role ∧ ¬b.role.Conflicts role

instance (signals : List Signal) (role : Role) (signal : Signal) :
    Decidable (BelowTie signals role signal) :=
  inferInstanceAs (Decidable (signal.Definitive ∧ ∃ a ∈ signals, ∃ b ∈ signals,
    a.Definitive ∧ b.Definitive ∧ a.confidence = b.confidence ∧
    signal.confidence < a.confidence ∧ a.Conflicts b ∧
    ¬a.role.Conflicts role ∧ ¬b.role.Conflicts role))

section Losing

variable {signals : List Signal} {base : Signal}
  (hbase : mostSpecific (ground signals).accepted = some base)
include hbase

/-- The outcome agrees with all accepted definitive signals. -/
theorem finalist_refines_accepted {s : Signal} (hs : s ∈ (ground signals).accepted) :
    (finalist signals base).role.Refines s.role :=
  (finalist_refines signals base).trans
    (refines_of_mostSpecific (ground_sorts signals).accepted_agree hbase hs)

/-- The outcome could still become any of the signals at which the walk stopped. -/
theorem tied_agrees_finalist {t : Signal} (ht : t ∈ (ground signals).tied) :
    ¬t.role.Conflicts (finalist signals base).role := by
  have hsorts := ground_sorts signals
  rcases finalist_cases signals base with ⟨_, heq⟩ | hpick
  · rw [heq]
    exact fun hc => hsorts.tied_fit t ht base (mem_of_mostSpecific hbase) hc.symm
  · obtain ⟨_, hhint, hnot, _⟩ := mem_refinements.mp (mem_refinements_of_pick hpick)
    obtain ⟨htmem, hdef⟩ := mem_definitive.mp (hsorts.tied_mem ht)
    exact agrees_of_not_contradicted hhint hnot htmem hdef

/-- A definitive signal that agrees with the outcome was not overruled. -/
theorem accepted_or_tied {s : Signal} (hs : s ∈ signals) (hdef : s.Definitive)
    (hagree : ¬s.role.Conflicts (finalist signals base).role) :
    s ∈ (ground signals).accepted ∨
      ∃ t ∈ (ground signals).tied, s.confidence ≤ t.confidence := by
  have hsorts := ground_sorts signals
  rcases hsorts.cases_or_below (mem_definitive.mpr ⟨hs, hdef⟩) with ha | ho | ht | ⟨t, ht, hlt⟩
  · exact Or.inl ha
  · obtain ⟨a, ha, _, hconflict⟩ := hsorts.overruled_lose s ho
    have hlose := Role.Conflicts.of_refines hconflict (finalist_refines_accepted hbase ha)
    exact absurd hlose.symm hagree
  · exact Or.inr ⟨s, ht, Nat.le_refl _⟩
  · exact Or.inr ⟨t, ht, Nat.le_of_lt hlt⟩

/-- The signals below the tie of the walk, in terms of the outcome. -/
theorem belowTie_iff {s : Signal} :
    BelowTie signals (finalist signals base).role s ↔
      s.Definitive ∧ ∃ t ∈ (ground signals).tied, s.confidence < t.confidence := by
  have hsorts := ground_sorts signals
  constructor
  · rintro ⟨hdef, a, ha, b, hb, hadef, hbdef, heq, hlt, hab, haagree, hbagree⟩
    refine ⟨hdef, ?_⟩
    rcases accepted_or_tied hbase ha hadef haagree with haccept | ⟨t, ht, hle⟩
    · rcases accepted_or_tied hbase hb hbdef hbagree with hbaccept | ⟨t, ht, hle⟩
      · exact absurd hab (compatible_iff.mp hsorts.accepted_agree a haccept b hbaccept)
      · exact ⟨t, ht, Nat.lt_of_lt_of_le (heq ▸ hlt) hle⟩
    · exact ⟨t, ht, Nat.lt_of_lt_of_le hlt hle⟩
  · rintro ⟨hdef, t, ht, hlt⟩
    obtain ⟨a, ha, b, hb, hab⟩ :=
      not_compatible_iff.mp (hsorts.tied_disagree (List.ne_nil_of_mem ht))
    obtain ⟨hamem, hadef⟩ := mem_definitive.mp (hsorts.tied_mem ha)
    obtain ⟨hbmem, hbdef⟩ := mem_definitive.mp (hsorts.tied_mem hb)
    exact ⟨hdef, a, hamem, b, hbmem, hadef, hbdef, hsorts.tied_level a ha b hb,
      hsorts.tied_level t ht a ha ▸ hlt, hab, tied_agrees_finalist hbase ha,
      tied_agrees_finalist hbase hb⟩

/-- A complimentary signal that the outcome contradicts was ignored or overruled. -/
theorem losing_hint {s : Signal} (hs : s ∈ signals) (hhint : ¬s.Definitive)
    (hlose : s.role.Conflicts (finalist signals base).role) :
    Contradicted signals s ∨ s ∈ (deepening signals base).overruled := by
  have hsorts := deepening_sorts signals base
  by_cases hnot : Contradicted signals s
  · exact Or.inl hnot
  · have hmem := mem_refinements_of_conflicts hbase hs hhint hnot
      (finalist_refines signals base).not_conflicts hlose
    have hstrict := (mem_refinements.mp hmem).2.2.2
    rcases finalist_cases signals base with ⟨_, heq⟩ | hpick
    · rw [heq] at hlose
      exact absurd hlose hstrict.refines.not_conflicts
    · have hne := List.ne_nil_of_mem (mem_of_mostSpecific hpick)
      have htied := deepening_tied_eq_nil hne
      rcases hsorts.cases_or_below hmem with ha | ho | ht | ⟨t, ht, _⟩
      · have href := refines_of_mostSpecific hsorts.accepted_agree hpick ha
        exact absurd hlose.symm href.not_conflicts
      · exact Or.inr ho
      · simp [htied] at ht
      · simp [htied] at ht

theorem quoted_of_losing {s : Signal} (hs : s ∈ signals)
    (hlose : s.role.Conflicts (finalist signals base).role)
    (hnot : ¬BelowTie signals (finalist signals base).role s) :
    ∃ problem ∈ decidedProblems signals base, Quotes problem s := by
  rw [belowTie_iff hbase] at hnot
  unfold decidedProblems
  by_cases hdef : s.Definitive
  · rcases (ground_sorts signals).cases_or_below (mem_definitive.mpr ⟨hs, hdef⟩)
      with ha | ho | ht | hbelow
    · exact absurd hlose.symm (finalist_refines_accepted hbase ha).not_conflicts
    · obtain ⟨problem, hmem, hquote⟩ := quoted_losses signals (Or.inr ho)
      exact ⟨problem, by simp [hmem], hquote⟩
    · obtain ⟨problem, hmem, hquote⟩ := quoted_stoppedProblems base.role ht
      exact ⟨problem, by simp [hmem], hquote⟩
    · exact absurd ⟨hdef, hbelow⟩ hnot
  · rcases losing_hint hbase hs hdef hlose with hc | ho
    · obtain ⟨problem, hmem, hquote⟩ := quoted_losses signals (Or.inl ⟨hs, hc⟩)
      exact ⟨problem, by simp [hmem], hquote⟩
    · obtain ⟨problem, hmem, hquote⟩ := quoted_refinementProblems base.role ho
      exact ⟨problem, by simp [hmem], hquote⟩

end Losing

section Unseen

variable {left right : List Signal} {base base' : Signal}

theorem eq_of_forall₂ {r : Signal → Signal → Prop} (h : List.Forall₂ r left right)
    (heq : ∀ a ∈ left, ∀ b, r a b → a = b) : left = right := by
  induction h with
  | nil => rfl
  | cons hab _ ih =>
    rw [heq _ (by simp) _ hab, ih fun a ha => heq a (by simp [ha])]

/-- The second signal is the first, or says the same where the definitive walk did not look. -/
def Alike (chain : Chain) (a b : Signal) : Prop :=
  a = b ∨ (a.stance = b.stance ∧ a.Definitive ∧ ¬chain.Reached a.confidence)

theorem Alike.stance_eq {chain : Chain} {a b : Signal} (h : Alike chain a b) :
    a.stance = b.stance := by
  rcases h with rfl | ⟨hstance, _⟩
  · rfl
  · exact hstance

theorem Alike.eq_of_hint {chain : Chain} {a b : Signal} (h : Alike chain a b)
    (hhint : ¬a.Definitive) : a = b := by
  rcases h with heq | ⟨_, hdef, _⟩
  · exact heq
  · exact absurd hdef hhint

theorem Alike.eq_of_reached {chain : Chain} {a b : Signal} (h : Alike chain a b)
    (hreached : chain.Reached a.confidence) : a = b := by
  rcases h with heq | ⟨_, _, hnot⟩
  · exact heq
  · exact absurd hreached hnot

/-- The problems say nothing of signals that the definitive walk did not look at. -/
theorem decidedProblems_of_alike (h : List.Forall₂ (Alike (ground left)) left right)
    (hrole : base.role = base'.role) :
    decidedProblems left base = decidedProblems right base' := by
  have hblind : BlindTo (List.Forall₂ (Alike (ground left))) :=
    blindTo_forall₂ fun _ _ hab => hab.stance_eq
  have hsorts := ground_sorts left
  have hdeepSorts := deepening_sorts left base
  have hground := hblind.ground h
  have hdeep := hblind.deepening h hrole
  have hhint : ∀ a ∈ refinements left base.role, ¬a.Definitive := fun a ha =>
    (mem_refinements.mp ha).2.1
  have hignored := eq_of_forall₂ (hblind.contradicted h) fun a ha _ hab =>
    hab.eq_of_hint (mem_contradicted.mp ha).2.1
  have hoverruled := eq_of_forall₂ hground.overruled fun a ha _ hab =>
    hab.eq_of_reached (hsorts.reached (Or.inr (Or.inl ha)))
  have htied := eq_of_forall₂ hground.tied fun a ha _ hab =>
    hab.eq_of_reached (hsorts.reached (Or.inr (Or.inr ha)))
  have hdeepOverruled := eq_of_forall₂ hdeep.overruled fun a ha _ hab =>
    hab.eq_of_hint (hhint a (hdeepSorts.overruled_mem ha))
  have hdeepTied := eq_of_forall₂ hdeep.tied fun a ha _ hab =>
    hab.eq_of_hint (hhint a (hdeepSorts.tied_mem ha))
  simp only [decidedProblems, losses, refinementProblems, hignored, hoverruled, htied,
    hdeepOverruled, hdeepTied, hrole]

end Unseen

/-- Only a decision that rests on definitive evidence contradicts one of the signals. -/
theorem decided_of_losing {column : ColumnRef} {signals : List Signal} {role : Role}
    {s : Signal} (hresolved : (solve column signals).resolution = .resolved role)
    (hs : s ∈ signals) (hlose : s.role.Conflicts role) :
    ∃ base, mostSpecific (ground signals).accepted = some base ∧
      role = (finalist signals base).role := by
  obtain ⟨winner, _, hwins, rfl, _⟩ := exists_wins hresolved
  cases hwins with
  | base winner hbase hnone => exact ⟨winner, hbase, by rw [finalist_eq_base hnone]⟩
  | refinement base winner hbase hpick =>
    exact ⟨base, hbase, by rw [finalist_eq_winner hpick]⟩
  | hint winner hhints hagree hwinner =>
    exact absurd hlose (compatible_iff.mp hagree s hs winner (mem_of_mostConfident hwinner))

theorem reported_of_losing {column : ColumnRef} {signals : List Signal} {role : Role}
    {s : Signal} (hresolved : (solve column signals).resolution = .resolved role)
    (hs : s ∈ signals) (hlose : s.role.Conflicts role) (hnot : ¬BelowTie signals role s) :
    Reported (solve column signals) s := by
  obtain ⟨base, hbase, rfl⟩ := decided_of_losing hresolved hs hlose
  rw [solve_decided column hbase]
  exact quoted_of_losing hbase hs hlose hnot

theorem BelowTie.of_sameStances {left right : List Signal} {role : Role} {s t : Signal}
    (h : SameStances left right) (hst : s.stance = t.stance) (hbelow : BelowTie left role s) :
    BelowTie right role t := by
  obtain ⟨hdef, a, ha, b, hb, hadef, hbdef, heq, hlt, hab, haagree, hbagree⟩ := hbelow
  obtain ⟨a', ha', hastance⟩ := h.exists_mem ha
  obtain ⟨b', hb', hbstance⟩ := h.exists_mem hb
  refine ⟨(definitive_iff_of_stance hst).mp hdef, a', ha', b', hb',
    (definitive_iff_of_stance hastance).mpr hadef,
    (definitive_iff_of_stance hbstance).mpr hbdef, ?_⟩
  unfold Signal.Conflicts at hab ⊢
  rw [confidence_eq_of_stance hastance, confidence_eq_of_stance hbstance,
    ← confidence_eq_of_stance hst, role_eq_of_stance hastance, role_eq_of_stance hbstance]
  exact ⟨heq, hlt, hab, haagree, hbagree⟩

section Reason

variable {column : ColumnRef} {before behind : List Signal} {signal : Signal}

/-- Another reason for one signal leaves what is said in the list as it is. -/
theorem sameStances_reason (before behind : List Signal) (signal : Signal) (reason : String) :
    SameStances (before ++ signal :: behind) (before ++ { signal with reason } :: behind) := by
  intro stance
  simp [Signal.stance]

theorem problems_of_belowTie {role : Role}
    (hresolved : (solve column (before ++ signal :: behind)).resolution = .resolved role)
    (hlose : signal.role.Conflicts role)
    (hbelow : BelowTie (before ++ signal :: behind) role signal) (reason : String) :
    (solve column (before ++ { signal with reason } :: behind)).problems =
      (solve column (before ++ signal :: behind)).problems := by
  have hsame := sameStances_reason before behind signal reason
  obtain ⟨base, hbase, rfl⟩ := decided_of_losing hresolved (by simp) hlose
  obtain ⟨base', hbase', hrole, _⟩ := mostSpecific_same
    (blindTo_sameStances.ground hsame).accepted (ground_sorts _).accepted_agree hbase
  obtain ⟨hdef, t, ht, hlt⟩ := (belowTie_iff hbase).mp hbelow
  have hunseen : ¬(ground (before ++ signal :: behind)).Reached signal.confidence :=
    fun hreached => absurd hlt (Nat.not_lt.mpr (hreached t ht))
  have hself : ∀ l : List Signal, List.Forall₂ (Alike (ground (before ++ signal :: behind))) l l :=
    fun l => List.forall₂_same.mpr fun _ _ => Or.inl rfl
  have halike := List.rel_append (hself before)
    (List.Forall₂.cons (Or.inr ⟨rfl, hdef, hunseen⟩ : Alike _ signal { signal with reason })
      (hself behind))
  rw [solve_decided column hbase, solve_decided column hbase']
  exact (decidedProblems_of_alike halike hrole).symm

theorem exists_longer (texts : List String) :
    ∃ longer : String, ∀ text ∈ texts, text.length < longer.length := by
  induction texts with
  | nil => exact ⟨"", by simp⟩
  | cons first rest ih =>
    obtain ⟨longer, hlonger⟩ := ih
    refine ⟨longer ++ first ++ "+", ?_⟩
    intro text htext
    simp only [String.length_append]
    have hplus : "+".length = 1 := rfl
    rcases List.mem_cons.mp htext with rfl | htext
    · omega
    · have := hlonger text htext
      omega

end Reason

def stoppedColumn : ColumnRef :=
  ⟨"orders", "code"⟩

def evidenceAbove : List Signal :=
  [⟨stoppedColumn, .idUnknown, .forSure, false, "identifier by name"⟩]

def evidenceTied : List Signal :=
  [⟨stoppedColumn, .idForeign, .high, false, "few values"⟩,
    ⟨stoppedColumn, .idUnique, .high, false, "all values distinct"⟩]

def evidenceBelow : Signal :=
  ⟨stoppedColumn, .measureUnknown, .medium, false, "numbers"⟩

/-- Losing evidence is reported, but for what stands below a tie. A signal that the outcome
contradicts is quoted in the problems whatever its reason says exactly when it is not a definitive
signal less confident than two definitive signals of one tier that conflict with each other and
agree with the outcome. -/
theorem losing_reported_iff (column : ColumnRef) (before behind : List Signal) (signal : Signal)
    (role : Role)
    (hresolved : (solve column (before ++ signal :: behind)).resolution = .resolved role)
    (hlose : signal.role.Conflicts role) :
    (∀ reason, Reported (solve column (before ++ { signal with reason } :: behind))
        { signal with reason }) ↔
      ¬BelowTie (before ++ signal :: behind) role signal := by
  constructor
  · intro hreported hbelow
    -- a reason that is longer than every problem cannot be quoted, and it changes no problem
    obtain ⟨reason, hlonger⟩ :=
      exists_longer (solve column (before ++ signal :: behind)).problems
    obtain ⟨problem, hmem, hquote⟩ := hreported reason
    rw [problems_of_belowTie hresolved hlose hbelow] at hmem
    have hlong := hlonger problem hmem
    have hshort : reason.length ≤ problem.length := hquote.length_reason_le
    omega
  · intro hnot reason
    have hsame := sameStances_reason before behind signal reason
    have hresolved' := (resolution_same column hsame).1.symm.trans hresolved
    refine reported_of_losing hresolved' (by simp) hlose ?_
    intro hbelow
    exact hnot (hbelow.of_sameStances hsame.symm rfl)

/-- A losing signal at the tier of the tie itself is overruled and quoted. -/
theorem losing_reported_iff_at_tie :
    (solve stoppedColumn (evidenceAbove ++ ⟨stoppedColumn, .measureUnknown, .high, false,
        "numbers"⟩ :: evidenceTied)).resolution = .resolved .idUnknown ∧
      Role.measureUnknown.Conflicts .idUnknown ∧
      ∀ reason, Reported (solve stoppedColumn (evidenceAbove ++
        ⟨stoppedColumn, .measureUnknown, .high, false, reason⟩ :: evidenceTied))
        ⟨stoppedColumn, .measureUnknown, .high, false, reason⟩ := by
  have hresolved : (solve stoppedColumn (evidenceAbove ++ ⟨stoppedColumn, .measureUnknown, .high,
      false, "numbers"⟩ :: evidenceTied)).resolution = .resolved .idUnknown := by decide
  have hlose : Role.measureUnknown.Conflicts .idUnknown := by decide
  refine ⟨hresolved, hlose, ?_⟩
  exact (losing_reported_iff stoppedColumn evidenceAbove evidenceTied _ _ hresolved hlose).mpr
    (by decide)

theorem stoppedEvidence_problems :
    (solve stoppedColumn (evidenceAbove ++ evidenceTied ++ [evidenceBelow])).problems =
      ["Stopped refining at ID.UNKNOWN: " ++ "equally confident signals disagree: " ++
        "ID.FOREIGN (few values, high confidence)" ++ " vs " ++
        "ID.UNIQUE (all values distinct, " ++ "high confidence)"] := by
  cbv

/-- Below a tie, evidence that the outcome contradicts can go without a word. -/
theorem not_reported_below_tie :
    (solve stoppedColumn (evidenceAbove ++ evidenceTied ++ [evidenceBelow])).resolution =
        .resolved .idUnknown ∧
      evidenceBelow.role.Conflicts .idUnknown ∧
      ¬Reported (solve stoppedColumn (evidenceAbove ++ evidenceTied ++ [evidenceBelow]))
        evidenceBelow := by
  refine ⟨by decide, by decide, ?_⟩
  rintro ⟨problem, hmem, left, right, hquote⟩
  rw [stoppedEvidence_problems, List.mem_singleton] at hmem
  -- the only problem has no capital M, which the description starts with
  have hmissing : 'M' ∉ problem.toList := by
    subst hmem
    simp only [String.toList_append, List.mem_append, not_or]
    decide +kernel
  have hdescribed : 'M' ∈ evidenceBelow.describe.toList := by decide +kernel
  rw [hquote] at hmissing
  simp only [String.toList_append, List.mem_append] at hmissing
  exact hmissing (Or.inl (Or.inr hdescribed))

end ColumnRoles.Resolver
