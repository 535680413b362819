import ColumnRoles.Json.Document
import ColumnRoles.Proofs.Tokens
import ColumnRoles.Proofs.Encoding

/-!
A value is put together again from its tokens, within any lists and records that are open around it.
So the text in which the library prints a value is read as this value, and so are the bytes of the
text.
-/
namespace ColumnRoles.Json

namespace Assembly

def read? (assembly : Assembly) (tokens : List Token) : Option Assembly :=
  tokens.foldlM Assembly.next? assembly

theorem read?_cons (assembly : Assembly) (token : Token) (rest : List Token) :
    assembly.read? (token :: rest) = (assembly.next? token).bind (·.read? rest) :=
  rfl

theorem read?_append (assembly : Assembly) (before behind : List Token) :
    assembly.read? (before ++ behind) = (assembly.read? before).bind (·.read? behind) := by
  rw [read?, List.foldlM_append]
  rfl

theorem read?_singleton (assembly : Assembly) (token : Token) :
    assembly.read? [token] = assembly.next? token := by
  rw [read?_cons]
  exact Option.bind_fun_some _

variable (frames : List Frame)

/-- No value begins as a list ends, so the first item of a list is read as any value is. -/
theorem read?_firstItem (value : Json) (rest : List Token) :
    read? { frames, expected := .firstItem } (tokensOf value ++ rest) =
      read? { frames, expected := .value } (tokensOf value ++ rest) := by
  cases value with
  | list items => cases items <;> rfl
  | record members => cases members <;> rfl
  | _ => rfl

/-- A list that is open takes a value as its next item. -/
theorem complete_list (read : List Json) (outer : List Frame) (value : Json) :
    complete (.list read :: outer) value =
      some { frames := .list (value :: read) :: outer, expected := .more } :=
  rfl

theorem complete_member (read : List (Literal × Json)) (key : Literal) (outer : List Frame)
    (value : Json) :
    complete (.member read key :: outer) value =
      some { frames := .record ((key, value) :: read) :: outer, expected := .more } :=
  rfl

mutual

/-- The tokens of a value are read as this value. -/
theorem read?_tokensOf : ∀ (value : Json) (frames : List Frame),
    read? { frames, expected := .value } (tokensOf value) = complete frames value
  | .null, frames => by
    rw [tokensOf, read?_singleton]
    rfl
  | .bool b, frames => by
    rw [tokensOf, read?_singleton]
    rfl
  | .number n, frames => by
    rw [tokensOf, read?_singleton]
    rfl
  | .text t, frames => by
    rw [tokensOf, read?_singleton]
    rfl
  | .list [], frames => by
    have hopen : next? { frames, expected := .value } .listStart =
        some { frames := .list [] :: frames, expected := .firstItem } := rfl
    rw [tokensOf, read?_cons, hopen, Option.bind_some, read?_singleton]
    rfl
  | .list (item :: rest), frames => by
    have hitem := read?_tokensOf item (.list [] :: frames)
    have hrest := read?_itemTokens rest [item] frames
    have hopen : next? { frames, expected := .value } .listStart =
        some { frames := .list [] :: frames, expected := .firstItem } := rfl
    rw [tokensOf, List.cons_append, read?_cons, hopen, Option.bind_some, read?_firstItem,
      read?_append, hitem, complete_list, Option.bind_some, hrest]
    rfl
  | .record [], frames => by
    have hopen : next? { frames, expected := .value } .recordStart =
        some { frames := .record [] :: frames, expected := .firstKey } := rfl
    rw [tokensOf, read?_cons, hopen, Option.bind_some, read?_singleton]
    rfl
  | .record (member :: rest), frames => by
    have hvalue := read?_tokensOf member.2 (.member [] member.1 :: frames)
    have hrest := read?_memberTokens rest [member] frames
    have hopen : read? { frames, expected := .value } [.recordStart, .text member.1, .colon] =
        some { frames := .member [] member.1 :: frames, expected := .value } := rfl
    have htokens : tokensOf (.record (member :: rest)) =
        [.recordStart, .text member.1, .colon] ++ (tokensOf member.2 ++ memberTokens rest) := by
      rw [tokensOf]
      rfl
    rw [htokens, read?_append, hopen, Option.bind_some, read?_append, hvalue, complete_member,
      Option.bind_some, hrest]
    rfl

/-- The rest of a list is read behind the items that are read already, and the list is complete. -/
theorem read?_itemTokens : ∀ (items read : List Json) (outer : List Frame),
    Assembly.read? { frames := .list read :: outer, expected := .more } (itemTokens items) =
      complete outer (.list (read.reverse ++ items))
  | [], read, outer => by
    rw [itemTokens, List.append_nil, read?_singleton]
    rfl
  | item :: rest, read, outer => by
    have hitem := read?_tokensOf item (.list read :: outer)
    have hrest := read?_itemTokens rest (item :: read) outer
    have hcomma : next? { frames := .list read :: outer, expected := .more } .comma =
        some { frames := .list read :: outer, expected := .value } := rfl
    rw [itemTokens, List.cons_append, read?_cons, hcomma, Option.bind_some, read?_append, hitem,
      complete_list, Option.bind_some, hrest]
    simp

/-- The rest of a record is read behind the members that are read already, and the record is
complete. -/
theorem read?_memberTokens : ∀ (members read : List (Literal × Json)) (outer : List Frame),
    Assembly.read? { frames := .record read :: outer, expected := .more } (memberTokens members) =
      complete outer (.record (read.reverse ++ members))
  | [], read, outer => by
    rw [memberTokens, List.append_nil, read?_singleton]
    rfl
  | member :: rest, read, outer => by
    have hvalue := read?_tokensOf member.2 (.member read member.1 :: outer)
    have hrest := read?_memberTokens rest (member :: read) outer
    have hopen : Assembly.read? { frames := .record read :: outer, expected := .more }
        [.comma, .text member.1, .colon] =
        some { frames := .member read member.1 :: outer, expected := .value } := rfl
    have htokens : memberTokens (member :: rest) =
        [.comma, .text member.1, .colon] ++ (tokensOf member.2 ++ memberTokens rest) := by
      rw [memberTokens]
      rfl
    rw [htokens, read?_append, hopen, Option.bind_some, read?_append, hvalue, complete_member,
      Option.bind_some, hrest]
    simp

end

end Assembly

/-- A printed value is read back. -/
theorem Plain.ofString?_compact {value : Json} (h : Plain value) :
    ofString? (compact value) = some value := by
  have hread := Assembly.read?_tokensOf value []
  rw [Assembly.read?] at hread
  rw [ofString?, ofSymbols?, h.tokens?_compact]
  simp only [Option.bind_eq_bind, Option.bind_some]
  rw [hread]
  rfl

theorem ofBytes?_toUTF8 (text : String) : ofBytes? text.toUTF8 = ofString? text := by
  rw [ofBytes?, ofString?, Text.symbols_toUTF8]

end ColumnRoles.Json
