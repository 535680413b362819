import ColumnRoles.Proofs.Digits
import ColumnRoles.Proofs.Encoding
import ColumnRoles.Proofs.Interleaving
import ColumnRoles.Proofs.Lines
import ColumnRoles.Proofs.Tables

/-!
Warehouses as delimited text. A line with the names of the fields comes first, and then a line for
each column in the order of the tables. The lines are read as records of texts, a record as the row
of its column, and the rows of one table stand next to each other; so grouping them by table gives
back the tables, and the checks that a table undergoes find nothing in what was in order before.
Trimming is the only thing that happens to names on the way.
-/
namespace ColumnRoles.Snapshot

open Delimited (LineEnd quoted line document)

/-- How a delimited text is laid out where its form leaves a choice. -/
structure Layout where
  lineEnd : LineEnd
  /-- The last line ends as the others do. -/
  ended : Bool
  /-- A count that is absent has quotes all the same. -/
  quotesAbsent : Bool
  types : TypeNames

namespace Layout

variable (layout : Layout)

def countField : Option UInt64 → List Char
  | some count => quoted count.toNat.repr
  | none => if layout.quotesAbsent then quoted "" else []

def recordLine (delimiter : Char) (profile : ColumnProfile) : List Char :=
  line delimiter
    [quoted profile.ref.table, quoted profile.ref.column, quoted (layout.types.declared profile),
      layout.countField profile.rows, layout.countField profile.distinct]

/-- A warehouse as delimited text: the names of the fields, and then a record for each column. -/
def text (delimiter : Char) (warehouse : Warehouse) : String :=
  String.ofList (document layout.lineEnd layout.ended
    (line delimiter (fieldNames.map String.toList) ::
      warehouse.columns.map (layout.recordLine delimiter)))

end Layout

section Counts

theorem trim_repr (n : Nat) : Text.trim n.repr = n.repr := by
  have hblank : ∀ d < 10, Text.isBlank (Nat.digitChar d) = false := by decide
  refine Text.trim_eq_self ?_
  rw [Nat.toList_repr]
  exact Text.forall_mem_toDigits hblank n

theorem digits?_toDigits {n : Nat} (h : n < UInt64.size) :
    digits? 10 (Nat.toDigits 10 n) = some (UInt64.ofNat n) := by
  have hdigit : ∀ d < 10, digitValue? 10 (Nat.digitChar d) =
      some ((Nat.digitChar d).toNat - '0'.toNat) := by decide
  have hdigits : ∀ c ∈ Nat.toDigits 10 n, digitValue? 10 c = some (c.toNat - '0'.toNat) :=
    Text.forall_mem_toDigits hdigit n
  have hvalues : ((Nat.toDigits 10 n).map id).mapM (digitValue? 10) =
      some ((Nat.toDigits 10 n).map fun c => c.toNat - '0'.toNat) := mapM_map_eq_pure hdigits
  rw [List.map_id] at hvalues
  unfold digits?
  rw [hvalues]
  simp only [Option.bind_eq_bind, Option.bind_some, Text.foldl_toDigits]
  rw [if_pos ⟨by simp, h⟩]

/-- A number in decimal digits is read as a count. -/
theorem count?_repr (count : UInt64) : count? count.toNat.repr = some count := by
  have hdigits : digits? 10 (Nat.toDigits 10 count.toNat) = some count := by
    rw [digits?_toDigits count.toNat_lt]
    exact congrArg some UInt64.ofNat_toNat
  have hmarks : ∀ c ∈ Nat.toDigits 10 count.toNat, c ≠ 'x' ∧ c ≠ '+' := by
    have hall : ∀ d < 10, Nat.digitChar d ≠ 'x' ∧ Nat.digitChar d ≠ '+' := by decide
    exact Text.forall_mem_toDigits hall count.toNat
  unfold count?
  rw [Nat.toList_repr]
  split
  · next rest heq => exact absurd rfl (hmarks 'x' (by simp [heq])).1
  · have hplus : dropPlus (Nat.toDigits 10 count.toNat) = Nat.toDigits 10 count.toNat := by
      unfold dropPlus
      split
      · next rest heq => exact absurd rfl (hmarks '+' (by simp [heq])).2
      · rfl
    rw [hplus, hdigits]

def countText : Option UInt64 → String
  | some count => count.toNat.repr
  | none => ""

theorem optionalCount?_countText (count : Option UInt64) :
    optionalCount? (some (Text.trim (countText count))) = some count := by
  cases count with
  | none => rfl
  | some count =>
    rw [countText, trim_repr]
    unfold optionalCount?
    split
    · next h => cases h
    · next h => exact absurd (Option.some.inj h) Nat.repr_ne_empty
    · next text _ h =>
      obtain rfl := Option.some.inj h
      rw [count?_repr]
      rfl

end Counts

section Rows

def Row.describing (declared : ColumnProfile → String) (profile : ColumnProfile) : Row where
  table := profile.ref.table
  column := .describing declared profile

variable {declared : ColumnProfile → String} {warehouse : Warehouse} {table : Table}

/-- Groups that each repeat one key, no two of them the same, have these keys in their order. -/
theorem eraseDups_flatMap {ι κ : Type} [DecidableEq κ] {l : List ι} {key : ι → κ}
    {group : ι → List κ} (hnodup : (l.map key).Nodup)
    (hgroup : ∀ i ∈ l, group i ≠ [] ∧ ∀ k ∈ group i, k = key i) :
    (l.flatMap group).eraseDups = l.map key := by
  -- a group leaves its key once, and takes nothing away from the groups behind it
  induction l with
  | nil => rfl
  | cons i rest ih =>
    rw [List.map_cons, List.nodup_cons] at hnodup
    obtain ⟨⟨hne, hkey⟩, hothers⟩ := List.forall_mem_cons.mp hgroup
    have hfirst : (group i).eraseDups = [key i] := by
      cases hgroupi : group i with
      | nil => exact absurd hgroupi hne
      | cons k more =>
        rw [hgroupi] at hkey
        obtain ⟨rfl, hmore⟩ := List.forall_mem_cons.mp hkey
        have hnone : more.filter (fun other => !other == key i) = [] := by
          rw [List.filter_eq_nil_iff]
          intro other hother
          simp [hmore other hother]
        rw [List.eraseDups_cons, hnone, List.eraseDups_nil]
    have hrest : (rest.flatMap group).removeAll (group i) = rest.flatMap group := by
      refine List.filter_eq_self.mpr fun k hk => ?_
      obtain ⟨j, hj, hmem⟩ := List.mem_flatMap.mp hk
      have hnot : k ∉ group i := by
        intro hki
        have hsame : key j = key i := ((hothers j hj).2 k hmem).symm.trans (hkey k hki)
        exact hnodup.1 (hsame ▸ List.mem_map_of_mem hj)
      simpa using hnot
    rw [List.flatMap_cons, List.eraseDups_append, hfirst, hrest, ih hnodup.2 hothers]
    rfl

/-- Of groups with different keys, a key singles out its own group. -/
theorem filter_flatMap_key {ι κ β : Type} [DecidableEq κ] {l : List ι} {key : ι → κ}
    {group : ι → List β} {tag : β → κ} (hnodup : (l.map key).Nodup)
    (hgroup : ∀ i ∈ l, ∀ b ∈ group i, tag b = key i) {i : ι} (hi : i ∈ l) :
    (l.flatMap group).filter (fun b => tag b = key i) = group i := by
  obtain ⟨before, behind, rfl⟩ := List.append_of_mem hi
  rw [List.map_append, List.map_cons] at hnodup
  obtain ⟨-, hcons, hdisjoint⟩ := List.nodup_append.mp hnodup
  have hnone : ∀ others : List ι, (∀ j ∈ others, j ∈ before ++ i :: behind ∧ key j ≠ key i) →
      (others.flatMap group).filter (fun b => tag b = key i) = [] := by
    intro others hothers
    refine List.filter_eq_nil_iff.mpr fun b hb => ?_
    obtain ⟨j, hj, hmem⟩ := List.mem_flatMap.mp hb
    obtain ⟨hjmem, hjkey⟩ := hothers j hj
    rw [hgroup j hjmem b hmem]
    simpa using hjkey
  have hbefore := hnone before fun j hj =>
    ⟨by simp [hj], hdisjoint (key j) (List.mem_map_of_mem hj) (key i) (by simp)⟩
  have hbehind := hnone behind fun j hj =>
    ⟨by simp [hj], fun heq => (List.nodup_cons.mp hcons).1 (heq ▸ List.mem_map_of_mem hj)⟩
  have hown : (group i).filter (fun b => tag b = key i) = group i := by
    refine List.filter_eq_self.mpr fun b hb => ?_
    simpa using hgroup i hi b hb
  rw [List.flatMap_append, List.flatMap_cons, List.filter_append, List.filter_append, hbefore, hown,
    hbehind, List.nil_append, List.append_nil]

/-- The rows of a warehouse, put together by table, are its tables. -/
theorem grouped_describing (hcolumns : ∀ table ∈ warehouse.tables, table.columns.values ≠ []) :
    grouped (warehouse.columns.map (.describing declared)) =
      warehouse.tables.map (.describing declared) := by
  have hrows : warehouse.columns.map (Row.describing declared) =
      warehouse.tables.flatMap fun table => table.columns.values.map (.describing declared) := by
    rw [Warehouse.columns, List.map_flatMap]
  have hnodup := warehouse.consistent.1
  have hnames : ∀ table ∈ warehouse.tables,
      ∀ row ∈ table.columns.values.map (Row.describing declared), row.table = table.name := by
    intro table htable row hrow
    obtain ⟨profile, hprofile, rfl⟩ := List.mem_map.mp hrow
    exact Warehouse.table_of_mem htable hprofile
  have htables : ((warehouse.columns.map (Row.describing declared)).map (·.table)).eraseDups =
      warehouse.tables.map Table.name := by
    rw [hrows, List.map_flatMap]
    refine eraseDups_flatMap hnodup fun table htable => ⟨?_, fun name hname => ?_⟩
    · simpa using hcolumns table htable
    · obtain ⟨row, hrow, rfl⟩ := List.mem_map.mp hname
      exact hnames table htable row hrow
  rw [grouped, htables, List.map_map]
  refine List.map_congr_left fun table htable => ?_
  have hown := filter_flatMap_key hnodup hnames htable
  rw [Function.comp_apply, columnsOf, hrows, hown, List.map_map]
  rfl

end Rows

section Records

def recordTexts (types : TypeNames) (profile : ColumnProfile) : List String :=
  [profile.ref.table, profile.ref.column, types.declared profile, countText profile.rows,
    countText profile.distinct]

theorem texts?_bytes (texts : List String) :
    texts? (texts.map Text.bytes) = some (texts.map Text.trim) := by
  refine mapM_map_eq_pure fun text _ => ?_
  rw [Text.ofBytes?_bytes]
  rfl

theorem ofRecord_fieldNames :
    Header.ofRecord (fieldNames.map Text.bytes) = .named fieldNames := by
  have htrim : fieldNames.map Text.trim = fieldNames := by decide +kernel
  rw [Header.ofRecord, texts?_bytes, htrim]

/-- The record of a column stands for its row, if no name has blanks around it. -/
theorem ofRecord?_recordTexts {types : TypeNames} {profile : ColumnProfile}
    (htable : Text.trim profile.ref.table = profile.ref.table)
    (hcolumn : Text.trim profile.ref.column = profile.ref.column) :
    Row.ofRecord? (.named fieldNames) ((recordTexts types profile).map Text.bytes) =
      some (.describing (fun profile => Text.trim (types.declared profile)) profile) := by
  have hvalues : ∀ a b c d e : String,
      (Header.named fieldNames).value? [a, b, c, d, e] "table" = some (some a) ∧
      (Header.named fieldNames).value? [a, b, c, d, e] "column" = some (some b) ∧
      (Header.named fieldNames).value? [a, b, c, d, e] "type" = some (some c) ∧
      (Header.named fieldNames).value? [a, b, c, d, e] "row_count" = some (some d) ∧
      (Header.named fieldNames).value? [a, b, c, d, e] "distinct_row_count" = some (some e) := by
    intro a b c d e
    simp [Header.value?, fieldNames]
  obtain ⟨htables, hcolumns, htypes, hrows, hdistincts⟩ := hvalues profile.ref.table
    profile.ref.column (Text.trim (types.declared profile)) (Text.trim (countText profile.rows))
    (Text.trim (countText profile.distinct))
  have htexts : texts? ((recordTexts types profile).map Text.bytes) =
      some [profile.ref.table, profile.ref.column, Text.trim (types.declared profile),
        Text.trim (countText profile.rows), Text.trim (countText profile.distinct)] := by
    rw [texts?_bytes, recordTexts]
    simp only [List.map_cons, List.map_nil, htable, hcolumn]
  unfold Row.ofRecord?
  simp only [htexts, Option.bind_eq_bind, Option.bind_some, htables, hcolumns, htypes, hrows,
    hdistincts, optionalCount?_countText]
  rfl

end Records

section Writing

open Delimited (Proper Writes WritesLine)

theorem delimiter_cases {format : Format} {delimiter : Char}
    (h : format.delimiter? = some delimiter) : delimiter = ',' ∨ delimiter = '\t' := by
  cases format with
  | json => cases h
  | csv => exact Or.inl (Option.some.inj h).symm
  | tsv => exact Or.inr (Option.some.inj h).symm

variable {delimiter : Char} (hdelimiter : delimiter = ',' ∨ delimiter = '\t')

include hdelimiter in
theorem proper_delimiter : Proper delimiter := by
  rcases hdelimiter with rfl | rfl <;> exact ⟨by decide, by decide, by decide, by decide⟩

include hdelimiter in
theorem writesLine_fieldNames :
    WritesLine delimiter fieldNames (line delimiter (fieldNames.map String.toList)) := by
  have hplain : ∀ name ∈ fieldNames, Writes delimiter name name.toList := by
    have hchars : fieldNames.all (fun name => name.toList.all fun c =>
        decide (c ≠ '"' ∧ c ≠ ',' ∧ c ≠ '\t' ∧ c ≠ '\n' ∧ c ≠ '\r')) = true := by decide
    intro name hname
    have hname' := List.all_eq_true.mp hchars name hname
    refine .bare fun c hc => ?_
    have hc' := List.all_eq_true.mp hname' c hc
    obtain ⟨hquote, hcomma, htab, hends⟩ := of_decide_eq_true hc'
    rcases hdelimiter with rfl | rfl
    · exact ⟨hquote, hcomma, hends⟩
    · exact ⟨hquote, htab, hends⟩
  refine ⟨by decide, _, ?_, rfl⟩
  rw [List.forall₂_map_right_iff, List.forall₂_same]
  exact hplain

variable (layout : Layout)

theorem writes_countField (count : Option UInt64) :
    Writes delimiter (countText count) (layout.countField count) := by
  cases count with
  | some count => exact .quoted
  | none =>
    by_cases hquotes : layout.quotesAbsent = true
    · rw [Layout.countField, if_pos hquotes]
      exact .quoted
    · rw [Layout.countField, if_neg hquotes]
      exact .bare (by simp [countText])

theorem writesLine_recordLine (profile : ColumnProfile) :
    WritesLine delimiter (recordTexts layout.types profile)
      (layout.recordLine delimiter profile) := by
  refine ⟨by simp [recordTexts], _, ?_, rfl⟩
  exact .cons .quoted (.cons .quoted (.cons .quoted
    (.cons (writes_countField layout _) (.cons (writes_countField layout _) .nil))))

/-- The names of the fields come first, so no mark of byte order does. -/
theorem dropByteOrderMark_text (warehouse : Warehouse) :
    Delimited.dropByteOrderMark (Text.bytes (layout.text delimiter warehouse)) =
      Text.bytes (layout.text delimiter warehouse) := by
  have hfirst : ∃ rest, (layout.text delimiter warehouse).toList = 't' :: rest := by
    unfold Layout.text document
    rw [String.toList_ofList]
    cases warehouse.columns with
    | nil => exact ⟨_, rfl⟩
    | cons profile others =>
      rw [List.map_cons, List.intercalate_cons_cons]
      exact ⟨_, rfl⟩
  obtain ⟨rest, hrest⟩ := hfirst
  rw [Text.bytes_eq_flatMap, hrest]
  rfl

include hdelimiter in
/-- The records of a written warehouse are the names of the fields and the texts of its columns. -/
theorem records_text (warehouse : Warehouse) :
    Delimited.records delimiter (layout.text delimiter warehouse).toUTF8 =
      (fieldNames :: warehouse.columns.map (recordTexts layout.types)).map
        fun texts => texts.map Text.bytes := by
  have hlines : List.Forall₂ (WritesLine delimiter)
      (fieldNames :: warehouse.columns.map (recordTexts layout.types))
      (line delimiter (fieldNames.map String.toList) ::
        warehouse.columns.map (layout.recordLine delimiter)) := by
    refine .cons (writesLine_fieldNames hdelimiter) ?_
    rw [List.forall₂_map_left_iff, List.forall₂_map_right_iff, List.forall₂_same]
    intro profile _
    exact writesLine_recordLine layout profile
  have hread := Delimited.read_document (proper_delimiter hdelimiter) layout.lineEnd layout.ended
    hlines (by simp) []
  have hstart : Delimited.dropByteOrderMark
      (layout.text delimiter warehouse).toUTF8.data.toList =
        Text.bytes (layout.text delimiter warehouse) := dropByteOrderMark_text layout warehouse
  rw [Delimited.records, hstart, Text.bytes_eq_flatMap]
  simpa [Layout.text, Delimited.Reading.read] using hread

end Writing

theorem rowsOf?_text {delimiter : Char} (hdelimiter : delimiter = ',' ∨ delimiter = '\t')
    (layout : Layout) {warehouse : Warehouse} (h : warehouse.Trimmed) :
    rowsOf? delimiter (layout.text delimiter warehouse).toUTF8 =
      some (warehouse.columns.map
        (.describing fun profile => Text.trim (layout.types.declared profile))) := by
  have hrow : ∀ profile ∈ warehouse.columns,
      Row.ofRecord? (.named fieldNames)
          ((recordTexts layout.types profile).map Text.bytes) =
        some (.describing (fun profile => Text.trim (layout.types.declared profile)) profile) := by
    intro profile hprofile
    obtain ⟨htable, hcolumn⟩ := h.of_mem_columns hprofile
    exact ofRecord?_recordTexts htable hcolumn
  unfold rowsOf?
  rw [records_text hdelimiter]
  simp only [List.map_cons, List.map_map, ofRecord_fieldNames]
  exact mapM_map_eq_pure fun profile hprofile => by
    rw [if_pos (by simp [recordTexts, fieldNames])]
    exact hrow profile hprofile

/-- Reading a delimited text loses nothing. The text of a warehouse names the fields and then has a
record for each column, everything in quotes but counts that are absent. Whatever characters names
hold, delimiters, quotes and line ends among them, and whatever the layout, the text is read as the
warehouse it was written for. Only names that trimming changes and tables without columns have no
place in such a text. -/
theorem delimited_text_is_read_back {format : Format} {delimiter : Char}
    (hformat : format.delimiter? = some delimiter) (layout : Layout) (warehouse : Warehouse)
    (hnames : warehouse.Trimmed) (hcolumns : ∀ table ∈ warehouse.tables, table.columns.keys ≠ []) :
    parse format (layout.text delimiter warehouse).toUTF8 = .ok warehouse := by
  have hdelimiter := delimiter_cases hformat
  have hdeclared : ∀ profile : ColumnProfile,
      ColumnType.ofDeclared (Text.trim (layout.types.declared profile)) = profile.type := by
    intro profile
    rw [ColumnType.ofDeclared_trim, layout.types.ofDeclared_declared]
  have hvalues : ∀ table ∈ warehouse.tables, table.columns.values ≠ [] := by
    intro table htable
    simpa [OrderedMap.keys, OrderedMap.values] using hcolumns table htable
  have htables := hnames.titled.ofTables_describing hdeclared
  have hrows := ofRows_agrees (warehouse.columns.map
    (.describing fun profile => Text.trim (layout.types.declared profile)))
  rw [grouped_describing hvalues, htables] at hrows
  rw [parse_of_delimiter hformat, ofRecords_eq_ofRows (rowsOf?_text hdelimiter layout hnames)]
  rcases hrows with hsame | ⟨fault, fault', -, hfail⟩
  · rw [hsame]
    rfl
  · cases hfail

def awkward : Warehouse where
  tables :=
    [{ name := "a,\"b\""
       columns := .ofList
        [("1\n2", ⟨⟨"a,\"b\"", "1\n2"⟩, .integer, some 18446744073709551615, some 7⟩),
          ("\"", ⟨⟨"a,\"b\"", "\""⟩, .unknown, none, none⟩)] },
      { name := "ä\tö"
        columns := .ofList [("1\r2", ⟨⟨"ä\tö", "1\r2"⟩, .dateTime, some 0, none⟩)] }]
  consistent := consistent_of_firstFault? rfl

def twoCharacterEnds : Layout where
  lineEnd := .both
  ended := true
  quotesAbsent := false
  types := { unknown := fun _ => "blob", unrecognized := fun _ => by decide +kernel }

def awkwardText : String :=
  "table,column,type,row_count,distinct_row_count\r\n" ++
  "\"a,\"\"b\"\"\",\"1\n2\",\"integer\",\"18446744073709551615\",\"7\"\r\n" ++
  "\"a,\"\"b\"\"\",\"\"\"\",\"blob\",,\r\n" ++
  "\"ä\tö\",\"1\r2\",\"datetime\",\"0\",\r\n"

theorem delimited_text_is_read_back_awkward :
    Format.csv.delimiter? = some ',' ∧ awkward.Trimmed ∧
      (∀ table ∈ awkward.tables, table.columns.keys ≠ []) ∧
      twoCharacterEnds.text ',' awkward = awkwardText ∧
      parse .csv (twoCharacterEnds.text ',' awkward).toUTF8 = .ok awkward := by
  have hnames : awkward.Trimmed := by
    unfold Warehouse.Trimmed
    decide +kernel
  have hcolumns : ∀ table ∈ awkward.tables, table.columns.keys ≠ [] := by decide +kernel
  have htext : twoCharacterEnds.text ',' awkward = awkwardText := by decide +kernel
  exact ⟨rfl, hnames, hcolumns, htext,
    delimited_text_is_read_back rfl twoCharacterEnds awkward hnames hcolumns⟩

end ColumnRoles.Snapshot
