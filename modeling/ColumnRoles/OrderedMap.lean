/-!
Finite maps that remember the order in which their keys were first met. A key keeps its place when
its value is replaced. Main statements: an update leaves the keys as they are, or adds its own at
the end; it changes the value of its own key and of no other.
-/
namespace ColumnRoles

def updateEntries {α β : Type} [DecidableEq α] (k : α) (f : Option β → β) :
    List (α × β) → List (α × β)
  | [] => [(k, f none)]
  | e :: rest => if e.1 = k then (k, f (some e.2)) :: rest else e :: updateEntries k f rest

theorem keys_updateEntries {α β : Type} [DecidableEq α] (k : α) (f : Option β → β)
    (entries : List (α × β)) :
    (updateEntries k f entries).map Prod.fst =
      if k ∈ entries.map Prod.fst then entries.map Prod.fst else entries.map Prod.fst ++ [k] := by
  induction entries with
  | nil => simp [updateEntries]
  | cons e rest ih =>
    by_cases h : e.1 = k
    · simp [updateEntries, h]
    · have h' : ¬k = e.1 := fun h'' => h h''.symm
      simp only [updateEntries, h, if_false, List.map_cons, ih, List.mem_cons, h', false_or]
      split <;> simp

theorem nodup_keys_updateEntries {α β : Type} [DecidableEq α] (k : α) (f : Option β → β)
    (entries : List (α × β)) (h : (entries.map Prod.fst).Nodup) :
    ((updateEntries k f entries).map Prod.fst).Nodup := by
  rw [keys_updateEntries]
  split
  · exact h
  · next hk =>
    refine List.nodup_append.2 ⟨h, by simp, ?_⟩
    intro a ha b hb hab
    rw [List.mem_singleton.1 hb] at hab
    exact hk (hab ▸ ha)

theorem lookup_cons_ite {α β : Type} [DecidableEq α] (e : α × β) (rest : List (α × β)) (a : α) :
    (e :: rest).lookup a = if a = e.1 then some e.2 else rest.lookup a := by
  rw [List.lookup_cons]
  split
  · next h => rw [if_pos (eq_of_beq h)]
  · next h => rw [if_neg (ne_of_beq_false h)]

theorem lookup_updateEntries {α β : Type} [DecidableEq α] (k : α) (f : Option β → β)
    (entries : List (α × β)) (a : α) :
    (updateEntries k f entries).lookup a =
      if a = k then some (f (entries.lookup k)) else entries.lookup a := by
  induction entries with
  | nil => rw [updateEntries, lookup_cons_ite]; rfl
  | cons e rest ih =>
    unfold updateEntries
    by_cases he : e.1 = k
    · subst he
      rw [if_pos rfl, lookup_cons_ite, lookup_cons_ite, lookup_cons_ite, if_pos rfl]
      by_cases ha : a = e.1 <;> simp only [ha, if_true, if_false]
    · have hke : ¬k = e.1 := fun h => he h.symm
      rw [if_neg he, lookup_cons_ite, lookup_cons_ite, lookup_cons_ite, ih, if_neg hke]
      by_cases ha : a = e.1
      · subst ha
        rw [if_pos rfl, if_neg he, if_pos rfl]
      · rw [if_neg ha, if_neg ha]

/-- A map as its entries in order, no key twice. -/
structure OrderedMap (α β : Type) where
  entries : List (α × β)
  nodup_keys : (entries.map Prod.fst).Nodup
deriving DecidableEq

namespace OrderedMap

variable {α β γ : Type}

/-- A map is its entries. -/
@[ext] theorem ext {m n : OrderedMap α β} (h : m.entries = n.entries) : m = n := by
  cases m
  cases n
  cases h
  rfl

instance [Repr α] [Repr β] : Repr (OrderedMap α β) :=
  ⟨fun m n => reprPrec m.entries n⟩

def empty : OrderedMap α β :=
  ⟨[], by simp⟩

def keys (m : OrderedMap α β) : List α :=
  m.entries.map Prod.fst

def values (m : OrderedMap α β) : List β :=
  m.entries.map Prod.snd

def size (m : OrderedMap α β) : Nat :=
  m.entries.length

def get? [DecidableEq α] (m : OrderedMap α β) (k : α) : Option β :=
  m.entries.lookup k

def contains [DecidableEq α] (m : OrderedMap α β) (k : α) : Bool :=
  decide (k ∈ m.keys)

/-- Replace the value of a key in its place, or add the key at the end. -/
def update [DecidableEq α] (m : OrderedMap α β) (k : α) (f : Option β → β) : OrderedMap α β :=
  ⟨updateEntries k f m.entries, nodup_keys_updateEntries k f m.entries m.nodup_keys⟩

def insert [DecidableEq α] (m : OrderedMap α β) (k : α) (v : β) : OrderedMap α β :=
  m.update k fun _ => v

def ofList [DecidableEq α] (entries : List (α × β)) : OrderedMap α β :=
  entries.foldl (fun m e => m.insert e.1 e.2) empty

def mapEntries (f : α → β → γ) (m : OrderedMap α β) : OrderedMap α γ :=
  ⟨m.entries.map fun e => (e.1, f e.1 e.2), by
    simpa [List.map_map, Function.comp_def] using m.nodup_keys⟩

theorem length_values (m : OrderedMap α β) : m.values.length = m.size := by
  rw [values, List.length_map, size]

theorem keys_update [DecidableEq α] (m : OrderedMap α β) (k : α) (f : Option β → β) :
    (m.update k f).keys = if k ∈ m.keys then m.keys else m.keys ++ [k] :=
  keys_updateEntries k f m.entries

/-- An update changes the value of its own key and of no other. -/
theorem get?_update [DecidableEq α] (m : OrderedMap α β) (k : α) (f : Option β → β) (a : α) :
    (m.update k f).get? a = if a = k then some (f (m.get? k)) else m.get? a :=
  lookup_updateEntries k f m.entries a

theorem get?_eq_none_iff [DecidableEq α] {m : OrderedMap α β} {k : α} :
    m.get? k = none ↔ k ∉ m.keys := by
  simp only [get?, keys, List.lookup_eq_none_iff, bne_iff_ne, List.mem_map, not_exists, not_and]
  exact ⟨fun h e he heq => h e he heq.symm, fun h e he heq => h e he heq.symm⟩

/-- The value of a key is what stands with it in the map. -/
theorem get?_eq_some_iff [DecidableEq α] {m : OrderedMap α β} {k : α} {v : β} :
    m.get? k = some v ↔ (k, v) ∈ m.entries := by
  unfold get?
  rw [List.lookup_eq_some_iff]
  constructor
  · rintro ⟨before, behind, heq, -⟩
    simp [heq]
  · intro h
    obtain ⟨before, behind, heq⟩ := List.append_of_mem h
    refine ⟨before, behind, heq, ?_⟩
    intro e he
    have hnodup := m.nodup_keys
    rw [heq, List.map_append, List.map_cons] at hnodup
    have hne : e.1 ≠ k :=
      (List.nodup_append.1 hnodup).2.2 e.1 (List.mem_map_of_mem he) k (by simp)
    simpa using fun h => hne h.symm

theorem get?_mapEntries [DecidableEq α] (f : α → β → γ) (m : OrderedMap α β) (k : α) :
    (m.mapEntries f).get? k = (m.get? k).map (f k) := by
  refine Option.ext fun v => ?_
  rw [get?_eq_some_iff, Option.map_eq_some_iff]
  simp only [mapEntries, List.mem_map, Prod.mk.injEq, get?_eq_some_iff]
  constructor
  · rintro ⟨e, he, rfl, rfl⟩
    exact ⟨e.2, he, rfl⟩
  · rintro ⟨v, hv, rfl⟩
    exact ⟨(k, v), hv, rfl, rfl⟩

@[simp] theorem keys_mapEntries (f : α → β → γ) (m : OrderedMap α β) :
    (m.mapEntries f).keys = m.keys := by
  simp [mapEntries, keys, List.map_map, Function.comp_def]

end OrderedMap

end ColumnRoles
