import ColumnRoles.Proofs.Agreement

/-!
Signals that agree lie on one path, and the most specific of them ends it. Agreement is tested
between each signal and those behind it; no pair is left out, and the test succeeds exactly where
one role refines all that are named. The most specific signal is picked by the depth of its role,
without a look at the roles themselves. On a path the greater depth still belongs to the role that
refines the other, so what is picked is the end of the path, in the first of the most confident
signals that name it.
-/
namespace ColumnRoles.Resolver

/-- The role of the signal refines that of every signal of the list, and none of its own role is
more confident. -/
def Tops (signals : List Signal) (signal : Signal) : Prop :=
  (∀ s ∈ signals, signal.role.Refines s.role) ∧
    ∀ s ∈ signals, s.role = signal.role → s.confidence ≤ signal.confidence

instance (signals : List Signal) (signal : Signal) : Decidable (Tops signals signal) :=
  inferInstanceAs (Decidable ((∀ s ∈ signals, signal.role.Refines s.role) ∧
    ∀ s ∈ signals, s.role = signal.role → s.confidence ≤ signal.confidence))

variable {signals : List Signal}

/-- Signals that disagree stand at two positions, as no signal conflicts with itself. -/
theorem not_compatible_iff_positions :
    ¬Compatible signals ↔
      ∃ i j : Fin signals.length, i ≠ j ∧ signals[i].Conflicts signals[j] := by
  rw [not_compatible_iff]
  constructor
  · rintro ⟨a, ha, b, hb, hconflict⟩
    obtain ⟨i, rfl⟩ := List.mem_iff_get.mp ha
    obtain ⟨j, rfl⟩ := List.mem_iff_get.mp hb
    refine ⟨i, j, ?_, hconflict⟩
    intro hij
    subst hij
    exact Role.not_conflicts_self _ hconflict
  · rintro ⟨i, j, _, hconflict⟩
    exact ⟨signals[i], List.getElem_mem i.isLt, signals[j], List.getElem_mem j.isLt, hconflict⟩

/-- Signals agree exactly if one role refines the roles of all of them. -/
theorem compatible_iff_exists_refines :
    Compatible signals ↔ ∃ role : Role, ∀ s ∈ signals, role.Refines s.role := by
  constructor
  · intro hagree
    cases hpick : mostSpecific signals with
    | none =>
      obtain rfl := mostSpecific_eq_none_iff.mp hpick
      exact ⟨.idUnknown, by simp⟩
    | some winner => exact ⟨winner.role, fun s hs => refines_of_mostSpecific hagree hpick hs⟩
  · rintro ⟨role, hrefines⟩
    rw [compatible_iff]
    intro a ha b hb
    exact Role.not_conflicts_iff.mpr ((hrefines a ha).path (hrefines b hb))

/-- Nothing in the list goes before a signal at the end of the path. -/
theorem Tops.not_keyLess {signal s : Signal} (h : Tops signals signal) (hs : s ∈ signals) :
    ¬KeyLess (signal.role.depth, signal.confidence.rank) (s.role.depth, s.confidence.rank) := by
  unfold KeyLess
  rcases h.1 s hs with heq | hstrict
  · have hconfidence : s.confidence.rank ≤ signal.confidence.rank := h.2 s hs heq.symm
    rw [heq]
    omega
  · have hdepth := hstrict.depth_lt
    omega

theorem tops_of_mostSpecific (hagree : Compatible signals) {winner : Signal}
    (hpick : mostSpecific signals = some winner) : Tops signals winner := by
  constructor
  · intro s hs
    exact refines_of_mostSpecific hagree hpick hs
  · intro s hs hrole
    exact confidence_le_of_mostSpecific hpick hs hrole

/-- Whatever stands before the picked signal has a smaller key, so it cannot end the path. -/
theorem exists_first_of_mostSpecific {winner : Signal} (hpick : mostSpecific signals = some winner) :
    ∃ i : Fin signals.length, signals[i] = winner ∧ ∀ j < i, ¬Tops signals signals[j] := by
  obtain ⟨before, behind, hsplit, hbefore, _⟩ := leadsBy_of_firstGreatest hpick
  subst hsplit
  have hlength : before.length < (before ++ winner :: behind).length := by simp
  refine ⟨⟨before.length, hlength⟩, by simp, ?_⟩
  intro j hj htops
  have hj : j.val < before.length := hj
  have hmem : (before ++ winner :: behind)[j] ∈ before := by
    simp [List.getElem_append_left hj]
  exact htops.not_keyLess (by simp) (hbefore _ hmem)

/-- Agreement is one path. The test on a list of signals fails exactly if those at two positions of
it conflict, whichever comes first, and it succeeds exactly if one role refines the roles of all.
From signals that agree, and are not none, the most specific is picked: its role refines that of
every signal, nothing of the same role is more confident, and nothing before it has both of these
properties. -/
theorem agreement_is_one_path (signals : List Signal) :
    (decide (Compatible signals) = false ↔
      ∃ i j : Fin signals.length, i ≠ j ∧ signals[i].Conflicts signals[j]) ∧
    (Compatible signals ↔ ∃ role : Role, ∀ s ∈ signals, role.Refines s.role) ∧
    (signals ≠ [] → Compatible signals → ∃ i : Fin signals.length,
      mostSpecific signals = some signals[i] ∧ Tops signals signals[i] ∧
        ∀ j < i, ¬Tops signals signals[j]) := by
  refine ⟨?_, compatible_iff_exists_refines, ?_⟩
  · rw [decide_eq_false_iff_not]
    exact not_compatible_iff_positions
  · intro hne hagree
    obtain ⟨winner, hpick⟩ := Option.ne_none_iff_exists'.mp (mt mostSpecific_eq_none_iff.mp hne)
    obtain ⟨i, hi, hfirst⟩ := exists_first_of_mostSpecific hpick
    subst hi
    exact ⟨i, hpick, tops_of_mostSpecific hagree hpick, hfirst⟩

def invoiceNumber : ColumnRef :=
  ⟨"invoices", "number"⟩

def pathEvidence : List Signal :=
  [⟨invoiceNumber, .idUnique, .forSure, false, "all values distinct"⟩,
    ⟨invoiceNumber, .idPrimary, .low, true, "first column"⟩,
    ⟨invoiceNumber, .idUnknown, .forSure, false, "identifier by name"⟩,
    ⟨invoiceNumber, .idPrimary, .medium, true, "named after the table"⟩,
    ⟨invoiceNumber, .idPrimary, .medium, false, "never absent"⟩]

theorem agreement_is_one_path_invoices :
    pathEvidence ≠ [] ∧ Compatible pathEvidence ∧
      (∃ i : Fin pathEvidence.length,
        mostSpecific pathEvidence = some pathEvidence[i] ∧ Tops pathEvidence pathEvidence[i] ∧
          ∀ j < i, ¬Tops pathEvidence pathEvidence[j]) ∧
      (mostSpecific pathEvidence).map (·.reason) = some "named after the table" ∧
      decide (Compatible
        (pathEvidence ++ [⟨invoiceNumber, .idForeign, .high, false, "few values"⟩])) = false := by
  have hne : pathEvidence ≠ [] := by decide
  have hagree : Compatible pathEvidence := by decide
  obtain ⟨_, _, hpick⟩ := agreement_is_one_path pathEvidence
  obtain ⟨hfork, _, _⟩ := agreement_is_one_path
    (pathEvidence ++ [⟨invoiceNumber, .idForeign, .high, false, "few values"⟩])
  exact ⟨hne, hagree, hpick hne hagree, by decide,
    hfork.mpr ⟨⟨5, by decide⟩, ⟨0, by decide⟩, by decide, by decide⟩⟩

end ColumnRoles.Resolver
