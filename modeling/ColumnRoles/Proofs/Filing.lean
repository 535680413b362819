import ColumnRoles.Report
import ColumnRoles.Proofs.Columns

/-!
How signals are filed by column. The evidence starts with the columns of the warehouse and nothing
known about them. Filing one signal keeps an invariant: the keys are the columns known from the
start and then those that only signals mention, in the order in which they are first met; each
column stands for its own signals, in the order of emission; and all that was filed is there once.
From this the evidence of all signals follows by going through them.
-/
namespace ColumnRoles

namespace OrderedMap

variable {α β : Type} [DecidableEq α]

theorem updateEntries_of_not_mem {k : α} {entries : List (α × β)} (f : Option β → β)
    (h : k ∉ entries.map Prod.fst) : updateEntries k f entries = entries ++ [(k, f none)] := by
  induction entries with
  | nil => rfl
  | cons e rest ih =>
    rw [List.map_cons, List.mem_cons, not_or] at h
    rw [updateEntries, if_neg fun he => h.1 he.symm, ih h.2, List.cons_append]

theorem insert_entries_of_not_mem {m : OrderedMap α β} {k : α} (v : β) (h : k ∉ m.keys) :
    (m.insert k v).entries = m.entries ++ [(k, v)] :=
  updateEntries_of_not_mem (fun _ => v) h

/-- Entries without repeated keys are the entries of their map. -/
theorem entries_ofList {entries : List (α × β)} (h : (entries.map Prod.fst).Nodup) :
    (ofList entries).entries = entries := by
  -- on the entries still to come; none of their keys is in the map so far
  have aux : ∀ (rest : List (α × β)) (m : OrderedMap α β),
      (m.keys ++ rest.map Prod.fst).Nodup →
      (rest.foldl (fun m e => m.insert e.1 e.2) m).entries = m.entries ++ rest := by
    intro rest
    induction rest with
    | nil => simp
    | cons e rest ih =>
      intro m hnodup
      have hnew : e.1 ∉ m.keys := fun hmem =>
        (List.nodup_append.mp hnodup).2.2 e.1 hmem e.1 (by simp) rfl
      have hinsert := insert_entries_of_not_mem e.2 hnew
      have hkeys : (m.insert e.1 e.2).keys = m.keys ++ [e.1] := by
        simp only [keys, hinsert, List.map_append, List.map_cons, List.map_nil]
      rw [List.foldl_cons, ih, hinsert, List.append_assoc]
      · rfl
      · simpa [hkeys] using hnodup
  simpa [ofList, empty] using aux entries empty (by simpa [empty, keys] using h)

end OrderedMap

/-- One more element is met for the first time, or it was met before. -/
theorem eraseDups_concat {α : Type} [DecidableEq α] (l : List α) (a : α) :
    (l ++ [a]).eraseDups = if a ∈ l then l.eraseDups else l.eraseDups ++ [a] := by
  rw [List.eraseDups_append]
  by_cases h : a ∈ l
  · simp [List.removeAll, h]
  · simp [List.removeAll, h, List.eraseDups_cons]

namespace Evidence

/-- The columns that signals mention beyond those already known, in the order of first mention. -/
def newcomers (known : List ColumnRef) (signals : List Signal) : List ColumnRef :=
  ((signals.map (·.column)).filter (· ∉ known)).eraseDups

theorem mem_newcomers {known : List ColumnRef} {signals : List Signal} {c : ColumnRef} :
    c ∈ newcomers known signals ↔ (∃ s ∈ signals, s.column = c) ∧ c ∉ known := by
  simp [newcomers]

theorem newcomers_append (known : List ColumnRef) (signals : List Signal) (signal : Signal) :
    newcomers known (signals ++ [signal]) =
      if signal.column ∈ known ++ newcomers known signals then newcomers known signals
      else newcomers known signals ++ [signal.column] := by
  unfold newcomers
  rw [List.map_append, List.filter_append, List.map_singleton]
  by_cases hknown : signal.column ∈ known
  · simp [hknown]
  · have hnew : [signal.column].filter (· ∉ known) = [signal.column] := by simp [hknown]
    rw [hnew, eraseDups_concat]
    simp [hknown]

/-- The evidence after `seen` was filed, where the columns `known` were there at the start. -/
structure Files (known : List ColumnRef) (seen : List Signal) (evidence : Evidence) : Prop where
  keys_eq : evidence.keys = known ++ newcomers known seen
  get?_eq : ∀ c ∈ evidence.keys, evidence.get? c = some (seen.filter (·.column = c))
  perm : evidence.values.flatten.Perm seen

theorem mem_keys_file (evidence : Evidence) (signal : Signal) (c : ColumnRef) :
    c ∈ (evidence.file signal).keys ↔ c ∈ evidence.keys ∨ c = signal.column := by
  rw [file, OrderedMap.keys_update]
  split
  · next h => exact ⟨Or.inl, fun hc => hc.elim id fun heq => heq ▸ h⟩
  · simp

theorem values_updateEntries_perm (k : ColumnRef) (signal : Signal)
    (entries : List (ColumnRef × List Signal)) :
    ((updateEntries k (fun known => known.getD [] ++ [signal]) entries).map
      Prod.snd).flatten.Perm ((entries.map Prod.snd).flatten ++ [signal]) := by
  induction entries with
  | nil => exact List.Perm.refl _
  | cons e rest ih =>
    unfold updateEntries
    split
    · rw [List.map_cons, List.map_cons, List.flatten_cons, List.flatten_cons,
        Option.getD_some, List.append_assoc, List.append_assoc]
      exact List.Perm.append_left _ List.perm_append_comm
    · rw [List.map_cons, List.map_cons, List.flatten_cons, List.flatten_cons, List.append_assoc]
      exact List.Perm.append_left _ ih

/-- Filing a signal adds it to what is there, wherever its place may be. -/
theorem values_file_perm (evidence : Evidence) (signal : Signal) :
    (evidence.file signal).values.flatten.Perm (evidence.values.flatten ++ [signal]) :=
  values_updateEntries_perm signal.column signal evidence.entries

namespace Files

variable {known : List ColumnRef} {seen : List Signal} {evidence : Evidence}

theorem mem_keys (h : Files known seen evidence) {c : ColumnRef} :
    c ∈ evidence.keys ↔ c ∈ known ∨ ∃ s ∈ seen, s.column = c := by
  rw [h.keys_eq, List.mem_append, mem_newcomers]
  by_cases hknown : c ∈ known <;> simp [hknown]

/-- What is known of a column, nothing if it was never mentioned. -/
theorem getD_get? (h : Files known seen evidence) (c : ColumnRef) :
    (evidence.get? c).getD [] = seen.filter (·.column = c) := by
  by_cases hmem : c ∈ evidence.keys
  · rw [h.get?_eq c hmem, Option.getD_some]
  · rw [OrderedMap.get?_eq_none_iff.mpr hmem, Option.getD_none, eq_comm, List.filter_eq_nil_iff]
    intro s hs heq
    exact hmem (h.mem_keys.mpr (Or.inr ⟨s, hs, by simpa using heq⟩))

theorem file (h : Files known seen evidence) (signal : Signal) :
    Files known (seen ++ [signal]) (evidence.file signal) where
  keys_eq := by
    rw [Evidence.file, OrderedMap.keys_update, newcomers_append, h.keys_eq]
    split
    · rfl
    · rw [List.append_assoc]
  get?_eq c hc := by
    rw [Evidence.file, OrderedMap.get?_update, List.filter_append]
    by_cases heq : c = signal.column
    · subst heq
      simp [h.getD_get?]
    · have hold : c ∈ evidence.keys := ((mem_keys_file _ _ _).mp hc).resolve_right heq
      have hne : ¬signal.column = c := fun h => heq h.symm
      simp [heq, hne, h.get?_eq c hold]
  perm := (values_file_perm evidence signal).trans (h.perm.append_right _)

theorem foldl_file (h : Files known seen evidence) (signals : List Signal) :
    Files known (seen ++ signals) (signals.foldl Evidence.file evidence) := by
  induction signals generalizing seen evidence with
  | nil => simpa using h
  | cons signal rest ih => simpa using ih (h.file signal)

end Files

theorem entries_start (warehouse : Warehouse) :
    (start warehouse).entries = warehouse.columns.map fun profile => (profile.ref, []) := by
  refine OrderedMap.entries_ofList ?_
  rw [List.map_map]
  exact warehouse.nodup_refs

theorem start_files (warehouse : Warehouse) : Files warehouse.refs [] (start warehouse) where
  keys_eq := by simp [OrderedMap.keys, entries_start, Warehouse.refs, newcomers]
  get?_eq c hc := by
    obtain ⟨e, he, rfl⟩ := List.mem_map.mp hc
    rw [OrderedMap.get?_eq_some_iff]
    rw [entries_start] at he ⊢
    obtain ⟨profile, hmem, rfl⟩ := List.mem_map.mp he
    exact List.mem_map_of_mem hmem
  perm := by simp [OrderedMap.values, entries_start]

/-- All signals are filed, each once and in its place. -/
theorem gather_files (warehouse : Warehouse) (signals : List Signal) :
    Files warehouse.refs signals (gather warehouse signals) := by
  simpa [gather] using (start_files warehouse).foldl_file signals

end Evidence

end ColumnRoles
