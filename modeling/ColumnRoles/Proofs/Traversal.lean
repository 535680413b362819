import Mathlib.Data.List.Forall2

/-!
Lists that are gone through by a function that may fail. Such a walk succeeds exactly when the
function does so on every element, and then the results stand in the order of the elements.
-/
namespace ColumnRoles

theorem bind_eq_ok_iff {α β ε : Type} {x : Except ε α} {f : α → Except ε β} {b : β} :
    x >>= f = .ok b ↔ ∃ a, x = .ok a ∧ f a = .ok b := by
  cases x with
  | error fault =>
    constructor
    · intro h
      cases h
    · rintro ⟨a, h, -⟩
      cases h
  | ok a =>
    constructor
    · intro h
      exact ⟨a, rfl, h⟩
    · rintro ⟨a', h, hf⟩
      cases h
      exact hf

theorem mapM_eq_ok_iff {α β ε : Type} {f : α → Except ε β} {l : List α} {made : List β} :
    l.mapM f = .ok made ↔ List.Forall₂ (fun a b => f a = .ok b) l made := by
  induction l generalizing made with
  | nil =>
    rw [List.mapM_nil, List.forall₂_nil_left_iff]
    constructor
    · intro h
      cases h
      rfl
    · rintro rfl
      rfl
  | cons a rest ih =>
    rw [List.mapM_cons, bind_eq_ok_iff]
    constructor
    · rintro ⟨b, hb, hrest⟩
      obtain ⟨others, hothers, hmade⟩ := bind_eq_ok_iff.mp hrest
      cases hmade
      exact .cons hb (ih.mp hothers)
    · intro h
      cases h with
      | @cons _ b _ others hb hothers =>
        exact ⟨b, hb, bind_eq_ok_iff.mpr ⟨others, ih.mpr hothers, rfl⟩⟩

/-- Every result is that of some element. -/
theorem exists_of_mem_mapM {α β : Type} {f : α → Option β} {l : List α} {made : List β}
    (h : l.mapM f = some made) {b : β} (hb : b ∈ made) : ∃ a ∈ l, f a = some b := by
  induction l generalizing made with
  | nil =>
    obtain rfl := Option.some.inj h
    cases hb
  | cons a rest ih =>
    rw [List.mapM_cons] at h
    obtain ⟨first, hfirst, hrest⟩ := Option.bind_eq_some_iff.mp h
    obtain ⟨others, hothers, hmade⟩ := Option.bind_eq_some_iff.mp hrest
    obtain rfl := Option.some.inj hmade
    rcases List.mem_cons.mp hb with rfl | hmem
    · exact ⟨a, by simp, hfirst⟩
    · obtain ⟨other, hother, hresult⟩ := ih hothers hmem
      exact ⟨other, List.mem_cons_of_mem _ hother, hresult⟩

theorem exists_of_mem_right {α β : Type} {r : α → β → Prop} {l : List α} {made : List β}
    (h : List.Forall₂ r l made) {b : β} (hb : b ∈ made) : ∃ a ∈ l, r a b := by
  induction h with
  | nil => cases hb
  | cons hfirst _ ih =>
    rcases List.mem_cons.mp hb with rfl | hmem
    · exact ⟨_, by simp, hfirst⟩
    · obtain ⟨a, ha, hr⟩ := ih hmem
      exact ⟨a, List.mem_cons_of_mem _ ha, hr⟩

theorem exists_error_mapM {α β ε : Type} {f : α → Except ε β} {l : List α} {a : α} {e : ε}
    (ha : a ∈ l) (h : f a = .error e) : ∃ e', l.mapM f = .error e' := by
  induction l with
  | nil => cases ha
  | cons b rest ih =>
    rw [List.mapM_cons]
    cases hb : f b with
    | error first => exact ⟨first, rfl⟩
    | ok v =>
      rcases List.mem_cons.mp ha with rfl | hrest
      · rw [hb] at h
        cases h
      · obtain ⟨e', he'⟩ := ih hrest
        rw [he']
        exact ⟨e', rfl⟩

/-- A walk over the images of elements, on each of which the function succeeds. -/
theorem mapM_map_eq_pure {m : Type → Type} [Monad m] [LawfulMonad m] {α β γ : Type} {f : α → m β}
    {key : γ → α} {value : γ → β} {l : List γ} (h : ∀ c ∈ l, f (key c) = pure (value c)) :
    (l.map key).mapM f = pure (l.map value) := by
  induction l with
  | nil => rfl
  | cons c rest ih =>
    obtain ⟨hc, hrest⟩ := List.forall_mem_cons.mp h
    rw [List.map_cons, List.mapM_cons, hc, pure_bind, ih hrest, pure_bind]
    rfl

end ColumnRoles
