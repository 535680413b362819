import ColumnRoles.Proofs.Problems

/-!
What a problem says. Each problem names the signals it is about by their descriptions, one alone or
several side by side, with fixed words around them. The words in front tell the kinds of problem
apart, whatever the reasons of the signals contain.
-/
namespace ColumnRoles.Resolver

/-- The text contains the signal's description. -/
def Quotes (text : String) (signal : Signal) : Prop :=
  ∃ before behind, text = before ++ signal.describe ++ behind

/-- Some problem of the decision quotes the signal. -/
def Reported (decision : Decision) (signal : Signal) : Prop :=
  ∃ problem ∈ decision.problems, Quotes problem signal

section Quotes

variable {signal : Signal}

theorem Quotes.within {text : String} (h : Quotes text signal) (before behind : String) :
    Quotes (before ++ text ++ behind) signal := by
  obtain ⟨left, right, rfl⟩ := h
  refine ⟨before ++ left, right ++ behind, ?_⟩
  simp only [String.append_assoc]

theorem Quotes.after {text : String} (h : Quotes text signal) (before : String) :
    Quotes (before ++ text) signal := by
  simpa using h.within before ""

theorem quotes_describe (signal : Signal) : Quotes signal.describe signal :=
  ⟨"", "", by simp⟩

theorem quotes_ignoredProblem (signal : Signal) : Quotes (ignoredProblem signal) signal :=
  ⟨_, _, rfl⟩

theorem quotes_overruledProblem (signal : Signal) : Quotes (overruledProblem signal) signal :=
  (quotes_describe signal).after _

/-- Signals quoted side by side are each quoted. -/
theorem quotes_describeAll {signals : List Signal} (h : signal ∈ signals) :
    Quotes (describeAll signals) signal := by
  unfold describeAll
  induction signals with
  | nil => exact absurd h (by simp)
  | cons first rest ih =>
    cases rest with
    | nil =>
      obtain rfl := List.mem_singleton.mp h
      simpa using quotes_describe signal
    | cons second rest =>
      rw [List.map_cons, List.map_cons, String.intercalate_cons_cons]
      rcases List.mem_cons.mp h with rfl | h
      · simpa [String.append_assoc] using (quotes_describe signal).within ""
          (" vs " ++ " vs ".intercalate (second.describe :: rest.map Signal.describe))
      · simpa using (ih h).within (first.describe ++ " vs ") ""

theorem quoted_stoppedProblems (base : Role) {tied : List Signal} (h : signal ∈ tied) :
    ∃ problem ∈ stoppedProblems base tied, Quotes problem signal := by
  rw [stoppedProblems, if_neg (List.ne_nil_of_mem h)]
  exact ⟨_, List.mem_singleton_self _, (quotes_describeAll h).after _⟩

theorem quoted_refinementProblems (base : Role) {refined : Chain}
    (h : signal ∈ refined.overruled) :
    ∃ problem ∈ refinementProblems base refined, Quotes problem signal := by
  exact ⟨_, List.mem_append_left _ (List.mem_map_of_mem h), (quotes_describe signal).after _⟩

theorem quoted_losses (signals : List Signal)
    (h : signal ∈ signals ∧ Contradicted signals signal ∨
      signal ∈ (ground signals).overruled) :
    ∃ problem ∈ losses signals, Quotes problem signal := by
  rcases h with h | h
  · have hmem := List.mem_map_of_mem (f := ignoredProblem) (mem_contradicted.mpr h)
    exact ⟨_, List.mem_append_left _ hmem, quotes_ignoredProblem signal⟩
  · have hmem := List.mem_map_of_mem (f := overruledProblem) h
    exact ⟨_, List.mem_append_right _ hmem, quotes_overruledProblem signal⟩

theorem Quotes.length_reason_le {text : String} (h : Quotes text signal) :
    signal.reason.length ≤ text.length := by
  obtain ⟨left, right, rfl⟩ := h
  simp only [Signal.describe, toString, String.length_append]
  omega

end Quotes

def SaysRefinementsDisagree (problem : String) : Prop :=
  ∃ base tied, problem = "Complimentary refinements of " ++ base ++ " disagree: " ++ tied

section FirstWords

theorem head?_append {text : String} {first : Char} (h : text.toList.head? = some first)
    (rest : String) : (text ++ rest).toList.head? = some first := by
  rw [String.toList_append, List.head?_append, h]
  rfl

theorem head?_of_saysRefinementsDisagree {problem : String}
    (h : SaysRefinementsDisagree problem) : problem.toList.head? = some 'C' := by
  obtain ⟨base, tied, rfl⟩ := h
  exact head?_append (head?_append (head?_append (by decide) base) _) tied

theorem head?_ignoredProblem (signal : Signal) :
    (ignoredProblem signal).toList.head? = some 'I' :=
  head?_append (head?_append (by decide) _) _

theorem head?_overruledProblem (signal : Signal) :
    (overruledProblem signal).toList.head? = some 'O' :=
  head?_append (by decide) _

theorem head?_stoppedProblem {base : Role} {tied : List Signal} {problem : String}
    (h : problem ∈ stoppedProblems base tied) : problem.toList.head? = some 'S' := by
  unfold stoppedProblems at h
  split at h
  · exact absurd h List.not_mem_nil
  · obtain rfl := List.mem_singleton.mp h
    exact head?_append (head?_append (head?_append (by decide) _) _) _

theorem head?_loss {signals : List Signal} {problem : String} (h : problem ∈ losses signals) :
    problem.toList.head? ≠ some 'C' := by
  simp only [losses, List.mem_append, List.mem_map] at h
  rcases h with ⟨s, _, rfl⟩ | ⟨s, _, rfl⟩
  · rw [head?_ignoredProblem]
    decide
  · rw [head?_overruledProblem]
    decide

/-- No problem but the one about tied refinements says that refinements disagree. -/
theorem exists_saysRefinementsDisagree_iff {signals : List Signal} {base : Signal} :
    (∃ problem ∈ decidedProblems signals base, SaysRefinementsDisagree problem) ↔
      (deepening signals base).tied ≠ [] := by
  constructor
  · rintro ⟨problem, hmem, hsays⟩ htied
    have hhead := head?_of_saysRefinementsDisagree hsays
    simp only [decidedProblems, refinementProblems, htied, if_true, List.append_nil,
      List.mem_append, List.mem_map] at hmem
    rcases hmem with (hloss | hstopped) | ⟨s, _, rfl⟩
    · exact head?_loss hloss hhead
    · rw [head?_stoppedProblem hstopped] at hhead
      exact absurd hhead (by decide)
    · have hfirst : ("Overruled complimentary " ++ s.describe).toList.head? = some 'O' :=
        head?_append (by decide) _
      exact absurd (hfirst.symm.trans hhead) (by decide)
  · intro htied
    refine ⟨_, List.mem_append_right _ (List.mem_append_right _ ?_), base.role.name,
      describeAll (deepening signals base).tied, rfl⟩
    rw [if_neg htied]
    exact List.mem_singleton_self _

end FirstWords

end ColumnRoles.Resolver
