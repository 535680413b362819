import ColumnRoles.Json.Fields
import ColumnRoles.Proofs.Digits
import ColumnRoles.Proofs.Tokens
import ColumnRoles.Proofs.Traversal

/-!
Structures written as records and read back. The fields of a structure have different names, and a
field without a value is left out of the record. A reader that asks for the fields in their order is
then given just these values, whichever of them are left out; so a structure is read back if each of
its fields is.
-/
namespace ColumnRoles.Json

def given (fields : List (String × Option Json)) : List (String × Json) :=
  fields.filterMap fun field => field.2.map fun value => (field.1, value)

/-- The record of some fields, in which those without a value are left out. -/
def ofFields (fields : List (String × Option Json)) : Json :=
  ofMembers (given fields)

def Slot.ofOption : Option Json → Slot
  | some value => .given value
  | none => .absent

section Records

variable {fields : List (String × Option Json)}

def namedMembers (fields : List (String × Option Json)) (name : String) :
    List (Literal × Json) :=
  ((given fields).map fun member => ((some member.1 : Literal), member.2)).filter (·.1 = some name)

theorem namedMembers_cons (field : String × Option Json) (name : String) :
    namedMembers (field :: fields) name =
      (if field.1 = name then field.2.toList.map fun value => (some name, value) else []) ++
        namedMembers fields name := by
  obtain ⟨key, value⟩ := field
  by_cases hkey : key = name
  · subst hkey
    cases value <;> simp [namedMembers, given]
  · cases value <;> simp [namedMembers, given, hkey]

theorem namedMembers_of_not_mem {name : String} (h : name ∉ fields.map Prod.fst) :
    namedMembers fields name = [] := by
  induction fields with
  | nil => rfl
  | cons field rest ih =>
    rw [List.map_cons, List.mem_cons, not_or] at h
    have hkey : ¬field.1 = name := fun heq => h.1 heq.symm
    rw [namedMembers_cons, if_neg hkey, ih h.2]
    rfl

/-- No other field has the name of a field. -/
theorem namedMembers_of_mem (h : (fields.map Prod.fst).Nodup) {field : String × Option Json}
    (hfield : field ∈ fields) :
    namedMembers fields field.1 = field.2.toList.map fun value => (some field.1, value) := by
  induction fields with
  | nil => cases hfield
  | cons first rest ih =>
    obtain ⟨hnew, hrest⟩ := List.nodup_cons.mp h
    rw [namedMembers_cons]
    rcases List.mem_cons.mp hfield with rfl | hmem
    · rw [if_pos rfl, namedMembers_of_not_mem hnew, List.append_nil]
    · have hkey : first.1 ≠ field.1 := by
        intro heq
        exact hnew (heq ▸ List.mem_map_of_mem hmem)
      rw [if_neg hkey, List.nil_append]
      exact ih hrest hmem

/-- A reader is given the values of the fields in their order. -/
theorem slots?_ofFields {names : List String} (hnames : fields.map Prod.fst = names)
    (h : names.Nodup) :
    slots? names (ofFields fields) = some (fields.map fun field => .ofOption field.2) := by
  have hkeys : ((given fields).map fun member =>
      ((some member.1 : Literal), member.2)).all (·.1.isSome) = true := by
    rw [List.all_map]
    exact List.all_eq_true.mpr fun _ _ => rfl
  rw [ofFields, ofMembers, slots?, if_pos hkeys, ← hnames]
  refine mapM_map_eq_pure fun field hfield => ?_
  have hmembers := namedMembers_of_mem (hnames ▸ h) hfield
  rw [namedMembers] at hmembers
  rw [slot?, hmembers]
  cases field.2 <;> rfl

def member? (key : String) : Json → Option Json
  | .record members => (members.find? (·.1 = some key)).map (·.2)
  | _ => none

/-- The record has a member for a field just as the field has a value. -/
theorem member?_ofFields (h : (fields.map Prod.fst).Nodup) {name : String} {value : Option Json}
    (hfield : (name, value) ∈ fields) : (ofFields fields).member? name = value := by
  have hmembers := namedMembers_of_mem h hfield
  rw [namedMembers] at hmembers
  rw [ofFields, ofMembers, member?, ← List.head?_filter, hmembers]
  cases value <;> rfl

theorem plain_ofFields (h : ∀ field ∈ fields, ∀ value, field.2 = some value → Plain value) :
    Plain (ofFields fields) := by
  refine .record fun member hmember => ?_
  obtain ⟨field, hfield, hsome⟩ := List.mem_filterMap.mp hmember
  obtain ⟨value, hvalue, rfl⟩ := Option.map_eq_some_iff.mp hsome
  exact h field hfield value hvalue

end Records

section Values

variable {α : Type} {decode : Json → Option α} {encode : α → Json}

theorem plain_list {items : List α} (h : ∀ a ∈ items, Plain (encode a)) :
    Plain (.list (items.map encode)) := by
  refine .list fun value hvalue => ?_
  obtain ⟨a, ha, rfl⟩ := List.mem_map.mp hvalue
  exact h a ha

/-- A list is read back if its items are. -/
theorem list?_map (h : ∀ a, decode (encode a) = some a) (items : List α) :
    list? decode (.list (items.map encode)) = some items := by
  have hread : (items.map encode).mapM decode = some (items.map id) :=
    mapM_map_eq_pure fun a _ => h a
  rwa [List.map_id] at hread

/-- A value that may be absent is read back, unless null is written for a value. -/
theorem Slot.optional_ofOption (h : ∀ a, decode (encode a) = some a)
    (hnull : ∀ a, encode a ≠ .null) (a : Option α) :
    (ofOption (a.map encode)).optional decode = some a := by
  cases a with
  | none => rfl
  | some a =>
    have hread : nullable decode (encode a) = (decode (encode a)).map some := by
      cases hvalue : encode a with
      | null => exact absurd hvalue (hnull a)
      | _ => rfl
    rw [Option.map_some, ofOption, optional, hread, h a]
    rfl

/-- A natural number is read as a count if it fits 64 bits. -/
theorem count?_ofNat (n : Nat) :
    count? (ofNat n) = if n < UInt64.size then some (UInt64.ofNat n) else none := by
  have hvalue : (Numeral.ofNat n).nat? = some n := by
    simp only [Numeral.nat?, Numeral.ofNat, Numeral.valueFrom]
    exact congrArg some (Text.foldl_toDigits n)
  rw [ofNat, count?, Numeral.count?, hvalue]

/-- A count is read back, however large. -/
theorem count?_ofNat_toNat (count : UInt64) : count? (ofNat count.toNat) = some count := by
  rw [count?_ofNat, if_pos count.toNat_lt]
  exact congrArg some UInt64.ofNat_toNat

end Values

end ColumnRoles.Json
