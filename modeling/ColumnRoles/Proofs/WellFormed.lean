import ColumnRoles.Proofs.Interleaving
import ColumnRoles.Proofs.Tables

/-!
What is known of every warehouse that was read, whatever the bytes. Both ways of reading end in the
entries of tables: a document has them, and rows are grouped into them. An entry is refused if a
name in it is blank or two of its columns share one, and its table is refused if it repeats
another's name or its counts contradict each other. Names in delimited text are trimmed before any
of this, and a table is only ever made for a row.
-/
namespace ColumnRoles.Snapshot

section Entries

variable {entries : List TableEntry} {warehouse : Warehouse}

/-- The columns of a table have the names of the entry. -/
theorem TableEntry.Makes.keys_eq {entry : TableEntry} {table : Table} (h : entry.Makes table) :
    table.columns.keys = entry.columns.map (·.name) := by
  rw [OrderedMap.keys, h.entries_eq, List.map_map]
  rfl

/-- Every table of the warehouse is made of one of the entries. -/
theorem exists_makes (h : ofTables entries = .ok warehouse) {table : Table}
    (htable : table ∈ warehouse.tables) :
    ∃ entry ∈ entries, entry.Sound ∧ entry.Makes table := by
  obtain ⟨hsound, hmakes⟩ := ofTables_eq_ok_iff.mp h
  obtain ⟨entry, hentry, hmade⟩ := exists_of_mem_right hmakes htable
  exact ⟨entry, hentry, hsound entry hentry, hmade⟩

theorem titled_of_ofTables (h : ofTables entries = .ok warehouse) : warehouse.Titled := by
  intro table htable
  obtain ⟨entry, -, hsound, hmakes⟩ := exists_makes h htable
  refine ⟨?_, ?_⟩
  · rw [hmakes.name_eq]
    exact Text.allBlank_eq_false_iff.mp hsound.named
  · intro key hkey
    rw [hmakes.keys_eq] at hkey
    obtain ⟨column, hcolumn, rfl⟩ := List.mem_map.mp hkey
    exact Text.allBlank_eq_false_iff.mp (hsound.columns_named column hcolumn)

end Entries

section Rows

def Row.Trimmed (row : Row) : Prop :=
  Text.trim row.table = row.table ∧ Text.trim row.column.name = row.column.name

theorem trim_of_mem_texts? {record : Delimited.Record} {texts : List String}
    (h : texts? record = some texts) {text : String} (htext : text ∈ texts) :
    Text.trim text = text := by
  obtain ⟨field, -, hfield⟩ := exists_of_mem_mapM h htext
  obtain ⟨untrimmed, -, rfl⟩ := Option.map_eq_some_iff.mp hfield
  exact Text.trim_trim untrimmed

/-- The value of a field stands in the row. -/
theorem mem_of_value? {header : Header} {row : List String} {name text : String}
    (h : header.value? row name = some (some text)) : text ∈ row := by
  cases header with
  | positional => exact List.mem_of_getElem? (Option.some.inj h)
  | named names =>
    rw [Header.value?] at h
    split at h
    · cases h
    · next field hfields =>
      obtain rfl := Option.some.inj (Option.some.inj h)
      have hmem : field ∈ (names.zip row).filter (·.1 = name) := by simp [hfields]
      exact (List.of_mem_zip (List.mem_filter.mp hmem).1).2
    · cases h

theorem trimmed_of_ofRecord? {header : Header} {record : Delimited.Record} {row : Row}
    (h : Row.ofRecord? header record = some row) : row.Trimmed := by
  unfold Row.ofRecord? at h
  simp only [Option.bind_eq_bind, Option.bind_eq_some_iff] at h
  obtain ⟨texts, htexts, table, htable, column, hcolumn, _, -, _, -, _, -, hrow⟩ := h
  obtain ⟨name, rfl, key, rfl, _, -, _, -, hrow⟩ := hrow
  obtain rfl := Option.some.inj hrow
  exact ⟨trim_of_mem_texts? htexts (mem_of_value? htable),
    trim_of_mem_texts? htexts (mem_of_value? hcolumn)⟩

/-- Records that are taken up stand for rows. -/
theorem exists_rows_of_foldlM {header : Header} {width : Nat} {records : List Delimited.Record}
    {draft draft' : Draft} (h : records.foldlM (insertRecord header width) draft = .ok draft') :
    ∃ rows, (records.mapM fun record =>
      if record.length = width then Row.ofRecord? header record else none) = some rows := by
  induction records generalizing draft with
  | nil => exact ⟨[], rfl⟩
  | cons record rest ih =>
    rw [List.foldlM_cons] at h
    obtain ⟨next, hnext, hrest⟩ := bind_eq_ok_iff.mp h
    obtain ⟨rows, hrows⟩ := ih hrest
    unfold insertRecord at hnext
    by_cases hwidth : record.length = width
    · rw [if_neg (not_not.mpr hwidth)] at hnext
      cases hrow : Row.ofRecord? header record with
      | none =>
        rw [hrow] at hnext
        cases hnext
      | some row =>
        refine ⟨row :: rows, ?_⟩
        rw [List.mapM_cons, if_pos hwidth, hrow, hrows]
        rfl
    · rw [if_pos hwidth] at hnext
      cases hnext

/-- What was read from delimited text was read from rows. -/
theorem exists_rows_of_ofRecords {delimiter : Char} {bytes : ByteArray} {warehouse : Warehouse}
    (h : ofRecords delimiter bytes = .ok warehouse) :
    ∃ rows, rowsOf? delimiter bytes = some rows := by
  unfold ofRecords at h
  unfold rowsOf?
  cases hrecords : Delimited.records delimiter bytes with
  | nil => exact ⟨[], rfl⟩
  | cons first records =>
    rw [hrecords] at h
    obtain ⟨draft, hdraft, -⟩ := bind_eq_ok_iff.mp h
    exact exists_rows_of_foldlM hdraft

theorem trimmed_of_rowsOf? {delimiter : Char} {bytes : ByteArray} {rows : List Row}
    (h : rowsOf? delimiter bytes = some rows) {row : Row} (hrow : row ∈ rows) : row.Trimmed := by
  unfold rowsOf? at h
  cases hrecords : Delimited.records delimiter bytes with
  | nil =>
    rw [hrecords] at h
    obtain rfl := Option.some.inj h
    cases hrow
  | cons first records =>
    rw [hrecords] at h
    obtain ⟨record, -, hrecord⟩ := exists_of_mem_mapM h hrow
    split at hrecord
    · exact trimmed_of_ofRecord? hrecord
    · cases hrecord

/-- A table of the grouped rows comes from a row, and each of its columns does. -/
theorem rows_of_mem_grouped {rows : List Row} {entry : TableEntry} (h : entry ∈ grouped rows) :
    (∃ row ∈ rows, row.table = entry.name) ∧
      (∀ row ∈ rows, row.table = entry.name → row.column ∈ entry.columns) ∧
      ∀ column ∈ entry.columns, ∃ row ∈ rows, row.column = column := by
  obtain ⟨name, hname, rfl⟩ := List.mem_map.mp h
  refine ⟨?_, ?_, ?_⟩
  · exact List.mem_map.mp (List.mem_eraseDups.mp hname)
  · intro row hrow htable
    exact List.mem_map_of_mem (List.mem_filter.mpr ⟨hrow, decide_eq_true htable⟩)
  · intro column hcolumn
    obtain ⟨row, hrow, rfl⟩ := List.mem_map.mp hcolumn
    exact ⟨row, (List.mem_filter.mp hrow).1, rfl⟩

variable {rows : List Row} {warehouse : Warehouse}

/-- Tables made for trimmed rows have trimmed names and are not empty. -/
theorem trimmed_of_grouped (hrows : ∀ row ∈ rows, row.Trimmed)
    (h : ofTables (grouped rows) = .ok warehouse) :
    warehouse.Trimmed ∧ ∀ table ∈ warehouse.tables, table.columns.keys ≠ [] := by
  have htitled := titled_of_ofTables h
  have hname : ∀ name : String, Text.trim name ≠ "" → Text.trim name = name →
      name ≠ "" ∧ Text.trim name = name := by
    rintro name hne htrim
    exact ⟨htrim ▸ hne, htrim⟩
  refine ⟨fun table htable => ?_, fun table htable => ?_⟩
  · obtain ⟨entry, hentry, -, hmakes⟩ := exists_makes h htable
    obtain ⟨⟨first, hfirst, hfirstName⟩, -, hcolumns⟩ := rows_of_mem_grouped hentry
    obtain ⟨htitle, hkeys⟩ := htitled table htable
    refine ⟨hname _ htitle ?_, fun key hkey => hname _ (hkeys key hkey) ?_⟩
    · rw [hmakes.name_eq, ← hfirstName]
      exact (hrows first hfirst).1
    · rw [hmakes.keys_eq] at hkey
      obtain ⟨column, hcolumn, rfl⟩ := List.mem_map.mp hkey
      obtain ⟨row, hrow, rfl⟩ := hcolumns column hcolumn
      exact (hrows row hrow).2
  · obtain ⟨entry, hentry, -, hmakes⟩ := exists_makes h htable
    obtain ⟨⟨first, hfirst, hfirstName⟩, hhas, -⟩ := rows_of_mem_grouped hentry
    have hmem := hhas first hfirst hfirstName
    rw [hmakes.keys_eq]
    exact List.ne_nil_of_mem (List.mem_map_of_mem hmem)

end Rows

theorem eq_ok_of_mapError {α ε ε' : Type} {g : ε → ε'} {x : Except ε α} {a : α}
    (h : x.mapError g = .ok a) : x = .ok a := by
  cases x with
  | error fault => cases h
  | ok a' =>
    cases h
    rfl

/-- A document that was read has entries of which its warehouse is made. -/
theorem exists_entries_of_json {bytes : ByteArray} {warehouse : Warehouse}
    (h : parse .json bytes = .ok warehouse) : ∃ entries, ofTables entries = .ok warehouse := by
  rw [parse, ofDocument] at h
  split at h
  · next entries _ => exact ⟨entries, eq_ok_of_mapError h⟩
  · cases h

/-- Delimited text that was read has rows whose tables make its warehouse. -/
theorem exists_grouped_of_delimited {format : Format} {delimiter : Char}
    (hformat : format.delimiter? = some delimiter) {bytes : ByteArray} {warehouse : Warehouse}
    (h : parse format bytes = .ok warehouse) :
    ∃ rows : List Row, (∀ row ∈ rows, row.Trimmed) ∧ ofTables (grouped rows) = .ok warehouse := by
  rw [parse_of_delimiter hformat] at h
  obtain ⟨rows, hrows⟩ := exists_rows_of_ofRecords h
  rw [ofRecords_eq_ofRows hrows] at h
  have hmade := eq_ok_of_mapError h
  refine ⟨rows, fun row hrow => trimmed_of_rowsOf? hrows hrow, ?_⟩
  -- the rows did not fail, so they agree with their tables
  rcases ofRows_agrees rows with hsame | ⟨fault, -, hfail, -⟩
  · rw [← hsame]
    exact hmade
  · rw [hfail] at hmade
    cases hmade

/-- What is certain of a warehouse that was read in a format. -/
structure InOrder (format : Format) (warehouse : Warehouse) : Prop where
  /-- No name is blank. -/
  titled : warehouse.Titled
  /-- Names in delimited text have no blanks around them. -/
  trimmed : format ≠ .json → warehouse.Trimmed
  /-- A table of delimited text has a column. -/
  not_empty : format ≠ .json → ∀ table ∈ warehouse.tables, table.columns.keys ≠ []
  nodup_tables : (warehouse.tables.map Table.name).Nodup
  nodup_columns : ∀ table ∈ warehouse.tables, table.columns.keys.Nodup
  /-- The index that comes about as the tables are taken up is that of the warehouse. -/
  taken_up : Registry.ofTables warehouse.tables = .ok warehouse.registry
  /-- What the index has under a reference goes by this reference. -/
  own_reference : ∀ ref profile, warehouse.registry.index.get? ref = some profile →
    profile.ref = ref
  /-- The index has a column under a reference exactly when the table that is named has it under the
  name of the column. -/
  own_name : ∀ ref profile, warehouse.registry.index.get? ref = some profile ↔
    ∃ table ∈ warehouse.tables, table.name = ref.table ∧
      table.columns.get? ref.column = some profile
  /-- Where both counts were taken there are no more distinct values than rows. -/
  counts_agree : ∀ profile ∈ warehouse.columns, profile.CountsAgree

/-- Names of a warehouse that was read are in order, as far as the format goes. -/
theorem names_of_parse {format : Format} {bytes : ByteArray} {warehouse : Warehouse}
    (h : parse format bytes = .ok warehouse) :
    warehouse.Titled ∧ (format ≠ .json →
      warehouse.Trimmed ∧ ∀ table ∈ warehouse.tables, table.columns.keys ≠ []) := by
  cases hdelimiter : format.delimiter? with
  | none =>
    cases format with
    | json =>
      obtain ⟨entries, hentries⟩ := exists_entries_of_json h
      exact ⟨titled_of_ofTables hentries, fun hne => absurd rfl hne⟩
    | csv => cases hdelimiter
    | tsv => cases hdelimiter
  | some delimiter =>
    obtain ⟨rows, hrows, hgrouped⟩ := exists_grouped_of_delimited hdelimiter h
    exact ⟨titled_of_ofTables hgrouped, fun _ => trimmed_of_grouped hrows hgrouped⟩

/-- Whatever the bytes and the format, only a warehouse in good order is ever read. -/
theorem parsed_warehouse_in_order {format : Format} {bytes : ByteArray} {warehouse : Warehouse}
    (h : parse format bytes = .ok warehouse) : InOrder format warehouse := by
  obtain ⟨htitled, hdelimited⟩ := names_of_parse h
  have hacceptable := (consistent_iff_acceptable warehouse.tables).mp warehouse.consistent
  refine
    { titled := htitled
      trimmed := fun hformat => (hdelimited hformat).1
      not_empty := fun hformat => (hdelimited hformat).2
      nodup_tables := hacceptable.1
      nodup_columns := fun table _ => table.columns.nodup_keys
      taken_up := ?taken_up
      own_reference := ?own_reference
      own_name := ?own_name
      counts_agree := ?counts_agree }
  case taken_up =>
    rw [Warehouse.ofTables_eq_build, Warehouse.build_eq_ok warehouse.consistent]
    rfl
  case own_reference =>
    intro ref profile hfound
    rw [Warehouse.get?_index] at hfound
    exact (Warehouse.column?_eq_some_iff.mp hfound).2
  case own_name =>
    intro ref profile
    rw [Warehouse.get?_index, Warehouse.column?_iff_of_table?]
    simp only [Warehouse.table?_eq_some_iff, and_assoc]
    rfl
  case counts_agree =>
    intro profile hprofile
    obtain ⟨table, htable, hvalue⟩ := Warehouse.mem_columns_iff.mp hprofile
    obtain ⟨entry, hentry, rfl⟩ := List.mem_map.mp hvalue
    exact (hacceptable.2 table htable entry hentry).2

-- fields in an order of their own, one of them of no interest, blanks everywhere, and at last a
-- letter whose first byte stands in quotes and whose second one does not
def looseText : ByteArray :=
  "column, note ,table,row_count\n a ,x, t ,5\n\" b \",,\"t\t\",\n".toUTF8 ++
    ⟨#[0x22, 0xC3, 0x22, 0xA9]⟩ ++ ",,t,".toUTF8

def looseTables : Warehouse where
  tables :=
    [{ name := "t"
       columns := .ofList
        [("a", ⟨⟨"t", "a"⟩, .unknown, some 5, none⟩), ("b", ⟨⟨"t", "b"⟩, .unknown, none, none⟩),
          ("é", ⟨⟨"t", "é"⟩, .unknown, none, none⟩)] }]
  consistent := consistent_of_firstFault? rfl

theorem parsed_warehouse_in_order_loose :
    parse .csv looseText = .ok looseTables ∧ InOrder .csv looseTables := by
  have hsome : (parse .csv looseText).toOption = some looseTables := by decide +kernel
  have hread : parse .csv looseText = .ok looseTables := by
    cases hparse : parse .csv looseText with
    | error fault =>
      rw [hparse] at hsome
      cases hsome
    | ok warehouse =>
      rw [hparse] at hsome
      exact congrArg Except.ok (Option.some.inj hsome)
  exact ⟨hread, parsed_warehouse_in_order hread⟩

end ColumnRoles.Snapshot
