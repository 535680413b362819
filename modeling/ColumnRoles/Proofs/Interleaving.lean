import ColumnRoles.Snapshot.Loader
import ColumnRoles.Proofs.Registry
import ColumnRoles.Proofs.Traversal
import Mathlib.Data.List.Induction

/-!
Snapshots row by row and table by table. Rows of different tables may come in any order; each goes
to the draft of its table, which is made when the table is first met. After any number of rows the
draft of a table is what its own rows make of it when they are taken together, and a row that fails
makes its table fail. So the tables come out the same as from a document that lists each table once,
in the order of first mention, and rows fail exactly when such a document does, though not always
for the same fault: of several faults a row finds the first in the order of rows.
-/
namespace ColumnRoles

theorem foldlM_concat {α β ε : Type} (f : β → α → Except ε β) (l : List α) (a : α) (b : β) :
    (l ++ [a]).foldlM f b = l.foldlM f b >>= fun c => f c a := by
  simp

theorem mapM_keys_eq_values {α β ε : Type} [DecidableEq α] {m : OrderedMap α β}
    {f : α → Except ε β} (h : ∀ k v, m.get? k = some v → f k = .ok v) :
    m.keys.mapM f = .ok m.values :=
  mapM_map_eq_pure fun e he => h e.1 e.2 (OrderedMap.get?_eq_some_iff.mpr he)

namespace Snapshot

def columnsOf (rows : List Row) (table : String) : List ColumnEntry :=
  (rows.filter (·.table = table)).map (·.column)

/-- Every table that rows mention, once, in the order of first mention. -/
def grouped (rows : List Row) : List TableEntry :=
  (rows.map (·.table)).eraseDups.map fun table => { name := table, columns := columnsOf rows table }

section Columns

variable (rows : List Row) (row : Row)

theorem columnsOf_append_own :
    columnsOf (rows ++ [row]) row.table = columnsOf rows row.table ++ [row.column] := by
  simp [columnsOf]

theorem columnsOf_append_other {table : String} (h : row.table ≠ table) :
    columnsOf (rows ++ [row]) table = columnsOf rows table := by
  simp [columnsOf, h]

theorem columnsOf_of_not_mem {table : String} (h : table ∉ rows.map (·.table)) :
    columnsOf rows table = [] := by
  refine List.map_eq_nil_iff.mpr (List.filter_eq_nil_iff.mpr fun other hother heq => ?_)
  have htable : other.table = table := by simpa using heq
  exact h (htable ▸ List.mem_map_of_mem hother)

end Columns

theorem tableOf_concat (name : String) (columns : List ColumnEntry) (column : ColumnEntry) :
    tableOf ⟨name, columns ++ [column]⟩ =
      tableOf ⟨name, columns⟩ >>= fun table => insertColumn table column := by
  simp only [tableOf, foldlM_concat, bind_assoc]

/-- A table that failed fails no less with one more column. -/
theorem tableOf_concat_of_error {name : String} {columns : List ColumnEntry}
    {fault : StatisticsFault} (h : tableOf ⟨name, columns⟩ = .error fault)
    (column : ColumnEntry) : tableOf ⟨name, columns ++ [column]⟩ = .error fault := by
  rw [tableOf_concat, h]
  rfl

/-- The draft after `rows`: it has the tables that they mention, and of each table what its own rows
make of it. -/
structure Drafts (rows : List Row) (draft : Draft) : Prop where
  keys_eq : draft.keys = (rows.map (·.table)).eraseDups
  tableOf_eq : ∀ name table, draft.get? name = some table →
    tableOf ⟨name, columnsOf rows name⟩ = .ok table

namespace Drafts

variable {rows : List Row} {draft : Draft}

theorem empty_drafts : Drafts [] .empty where
  keys_eq := rfl
  tableOf_eq _ _ h := by cases h

/-- A row is added to what the rows before it made of its table, be it nothing yet. -/
theorem tableOf_columnsOf (h : Drafts rows draft) (name : String) :
    tableOf ⟨name, columnsOf rows name⟩ =
      match draft.get? name with
      | some table => .ok table
      | none => newTable name := by
  cases htable : draft.get? name with
  | some table => exact h.tableOf_eq name table htable
  | none =>
    have hnot : name ∉ rows.map (·.table) := by
      have hkey := OrderedMap.get?_eq_none_iff.mp htable
      rw [h.keys_eq] at hkey
      simpa using hkey
    rw [columnsOf_of_not_mem rows hnot, tableOf]
    exact bind_pure _

/-- One more row makes of its table what all its rows so far make of it. -/
theorem insertRow_eq (h : Drafts rows draft) (row : Row) :
    insertRow draft row =
      (tableOf ⟨row.table, columnsOf (rows ++ [row]) row.table⟩).map (draft.insert row.table) := by
  rw [columnsOf_append_own, tableOf_concat, h.tableOf_columnsOf, insertRow]
  have hcolumn : ∀ table, (insertColumn table row.column >>= fun table =>
      Except.ok (draft.insert row.table table)) =
      (insertColumn table row.column).map (draft.insert row.table) := by
    intro table
    cases insertColumn table row.column <;> rfl
  cases draft.get? row.table with
  | some table => exact hcolumn table
  | none =>
    cases newTable row.table with
    | error fault => rfl
    | ok table => exact hcolumn table

theorem insert_drafts (h : Drafts rows draft) {row : Row} {table : Table}
    (htable : tableOf ⟨row.table, columnsOf (rows ++ [row]) row.table⟩ = .ok table) :
    Drafts (rows ++ [row]) (draft.insert row.table table) where
  keys_eq := by
    rw [OrderedMap.insert, OrderedMap.keys_update, h.keys_eq, List.map_append, List.map_singleton,
      eraseDups_concat]
    simp only [List.mem_eraseDups]
  tableOf_eq name other hget := by
    rw [OrderedMap.insert, OrderedMap.get?_update] at hget
    by_cases hname : name = row.table
    · rw [if_pos hname] at hget
      obtain rfl := Option.some.inj hget
      rw [hname]
      exact htable
    · rw [if_neg hname] at hget
      rw [columnsOf_append_other rows row fun heq => hname heq.symm]
      exact h.tableOf_eq name other hget

/-- The tables of the draft are those of the document. -/
theorem mapM_grouped (h : Drafts rows draft) : (grouped rows).mapM tableOf = .ok draft.values := by
  rw [grouped, ← h.keys_eq, List.mapM_map]
  exact mapM_keys_eq_values h.tableOf_eq

end Drafts

/-- Rows either make a draft or fail, and then some table of the document fails. -/
theorem foldlM_insertRow (rows : List Row) :
    (∃ draft, rows.foldlM insertRow OrderedMap.empty = .ok draft ∧ Drafts rows draft) ∨
      ∃ fault, rows.foldlM insertRow OrderedMap.empty = .error fault ∧
        ∃ row ∈ rows, tableOf ⟨row.table, columnsOf rows row.table⟩ = .error fault := by
  induction rows using List.reverseRecOn with
  | nil => exact Or.inl ⟨.empty, rfl, Drafts.empty_drafts⟩
  | append_singleton rows row ih =>
    rcases ih with ⟨draft, hdraft, hdrafts⟩ | ⟨fault, hfault, failing, hmem, htable⟩
    · have hrun : (rows ++ [row]).foldlM insertRow OrderedMap.empty =
          (tableOf ⟨row.table, columnsOf (rows ++ [row]) row.table⟩).map
            (draft.insert row.table) := by
        rw [foldlM_concat, hdraft, ← hdrafts.insertRow_eq row]
        rfl
      rw [hrun]
      cases htable : tableOf ⟨row.table, columnsOf (rows ++ [row]) row.table⟩ with
      | ok table => exact Or.inl ⟨_, rfl, hdrafts.insert_drafts htable⟩
      | error fault => exact Or.inr ⟨fault, rfl, row, by simp, htable⟩
    · -- the row that failed before is still there, and its table fails all the same
      refine Or.inr ⟨fault, ?_, failing, List.mem_append_left _ hmem, ?_⟩
      · rw [foldlM_concat, hfault]
        rfl
      · by_cases hsame : row.table = failing.table
        · rw [← hsame] at htable ⊢
          rw [columnsOf_append_own]
          exact tableOf_concat_of_error htable _
        · rw [columnsOf_append_other rows row hsame]
          exact htable

/-- Rows make the warehouse of their document, or both fail. -/
theorem ofRows_agrees (rows : List Row) :
    ofRows rows = ofTables (grouped rows) ∨
      ∃ fault fault', ofRows rows = .error fault ∧ ofTables (grouped rows) = .error fault' := by
  unfold ofRows ofTables
  rcases foldlM_insertRow rows with ⟨draft, hdraft, hdrafts⟩ | ⟨fault, hfault, row, hmem, htable⟩
  · rw [hdraft, hdrafts.mapM_grouped]
    exact Or.inl rfl
  · have hentry : ⟨row.table, columnsOf rows row.table⟩ ∈ grouped rows := by
      refine List.mem_map.mpr ⟨row.table, ?_, rfl⟩
      simpa using ⟨row, hmem, rfl⟩
    obtain ⟨fault', hfault'⟩ := exists_error_mapM hentry htable
    rw [hfault, hfault']
    exact Or.inr ⟨fault, fault', rfl, rfl⟩

section Records

/-- The rows that the records of a delimited text stand for, if each of them stands for one. -/
def rowsOf? (delimiter : Char) (bytes : ByteArray) : Option (List Row) :=
  match Delimited.records delimiter bytes with
  | [] => some []
  | first :: records => records.mapM fun record =>
    if record.length = first.length then Row.ofRecord? (.ofRecord first) record else none

theorem mapError_bind {α β ε ε' : Type} (g : ε → ε') (x : Except ε α) (f : α → Except ε β) :
    (x >>= f).mapError g = x.mapError g >>= fun a => (f a).mapError g := by
  cases x <;> rfl

/-- Records that stand for rows are taken up as these rows are. -/
theorem foldlM_insertRecord {header : Header} {width : Nat} {records : List Delimited.Record}
    {rows : List Row} {draft : Draft}
    (h : (records.mapM fun record =>
      if record.length = width then Row.ofRecord? header record else none) = some rows) :
    records.foldlM (insertRecord header width) draft =
      (rows.foldlM insertRow draft).mapError .statistics := by
  induction records generalizing rows draft with
  | nil =>
    obtain rfl := Option.some.inj h
    rfl
  | cons record rest ih =>
    rw [List.mapM_cons] at h
    obtain ⟨row, hrow, hrest⟩ := Option.bind_eq_some_iff.mp h
    obtain ⟨others, hothers, heq⟩ := Option.bind_eq_some_iff.mp hrest
    obtain rfl := Option.some.inj heq
    split at hrow
    · next hwidth =>
      have hinsert : insertRecord header width draft record =
          (insertRow draft row).mapError .statistics := by
        rw [insertRecord, if_neg (not_not.mpr hwidth), hrow]
      rw [List.foldlM_cons, List.foldlM_cons, mapError_bind, hinsert]
      exact congrArg _ (funext fun draft' => ih hothers)
    · cases hrow

theorem ofRecords_eq_ofRows {delimiter : Char} {bytes : ByteArray} {rows : List Row}
    (h : rowsOf? delimiter bytes = some rows) :
    ofRecords delimiter bytes = (ofRows rows).mapError .statistics := by
  unfold rowsOf? at h
  unfold ofRecords ofRows
  rw [mapError_bind]
  cases hrecords : Delimited.records delimiter bytes with
  | nil =>
    rw [hrecords] at h
    obtain rfl := Option.some.inj h
    rfl
  | cons first records =>
    rw [hrecords] at h
    rw [← foldlM_insertRecord h]

end Records

def Format.delimiter? : Format → Option Char
  | json => none
  | csv => some ','
  | tsv => some '\t'

theorem parse_of_delimiter {format : Format} {delimiter : Char}
    (h : format.delimiter? = some delimiter) (bytes : ByteArray) :
    parse format bytes = ofRecords delimiter bytes := by
  cases format with
  | json => cases h
  | csv =>
    obtain rfl := Option.some.inj h
    rfl
  | tsv =>
    obtain rfl := Option.some.inj h
    rfl

theorem parse_json_of_tables {document : ByteArray} {tables : List TableEntry}
    (h : (Json.ofBytes? document).bind tablesOfJson? = some tables) :
    parse .json document = (ofTables tables).mapError .statistics := by
  rw [parse, ofDocument, h]

/-- It makes no difference whether a snapshot comes row by row or table by table. However the rows
of different tables are mixed, they make the same warehouse as the tables in the order of their
first mention, each with its columns in the order of its rows, or both fail. So a delimited text and
a document that stand for these rows and tables are read as the same warehouse, or both are refused
for their statistics. -/
theorem rows_agree_with_tables (rows : List Row) :
    ((∃ warehouse, ofRows rows = .ok warehouse ∧ ofTables (grouped rows) = .ok warehouse) ∨
      ∃ fault fault', ofRows rows = .error fault ∧ ofTables (grouped rows) = .error fault') ∧
    ∀ (format : Format) (delimiter : Char) (bytes document : ByteArray),
      format.delimiter? = some delimiter → rowsOf? delimiter bytes = some rows →
      (Json.ofBytes? document).bind tablesOfJson? = some (grouped rows) →
      (∃ warehouse, parse format bytes = .ok warehouse ∧ parse .json document = .ok warehouse) ∨
        ∃ fault fault', parse format bytes = .error (.statistics fault) ∧
          parse .json document = .error (.statistics fault') := by
  have hrows : (∃ warehouse, ofRows rows = .ok warehouse ∧
      ofTables (grouped rows) = .ok warehouse) ∨
      ∃ fault fault', ofRows rows = .error fault ∧ ofTables (grouped rows) = .error fault' := by
    rcases ofRows_agrees rows with hsame | hfail
    · rw [hsame]
      cases ofTables (grouped rows) with
      | ok warehouse => exact Or.inl ⟨warehouse, rfl, rfl⟩
      | error fault => exact Or.inr ⟨fault, fault, rfl, rfl⟩
    · exact Or.inr hfail
  refine ⟨hrows, ?_⟩
  intro format delimiter bytes document hformat hbytes hdocument
  rw [parse_of_delimiter hformat, ofRecords_eq_ofRows hbytes, parse_json_of_tables hdocument]
  rcases hrows with ⟨warehouse, hok, hok'⟩ | ⟨fault, fault', herror, herror'⟩
  · rw [hok, hok']
    exact Or.inl ⟨warehouse, rfl, rfl⟩
  · rw [herror, herror']
    exact Or.inr ⟨fault, fault', rfl, rfl⟩

def mixedRows : List Row :=
  [{ table := "orders", column := ⟨"id", "INT", some 9, some 9⟩ },
    { table := "users", column := ⟨"id", "", some 7, none⟩ },
    { table := "orders", column := ⟨"at", "DATE", none, none⟩ }]

def mixedText : ByteArray :=
  ("table,column,type,row_count,distinct_row_count\n" ++
    "orders,id,INT,9,9\nusers,id,,7,\norders, at ,DATE,,\n").toUTF8

def groupedText : ByteArray :=
  ("\x7b\"tables\":[\x7b\"name\":\"orders\",\"columns\":[" ++
    "\x7b\"name\":\"id\",\"type\":\"INT\",\"row_count\":9,\"distinct_row_count\":9\x7d," ++
    "\x7b\"name\":\"at\",\"type\":\"DATE\"\x7d]\x7d," ++
    "\x7b\"name\":\"users\",\"columns\":[\x7b\"name\":\"id\",\"row_count\":7\x7d]\x7d]\x7d").toUTF8

theorem rows_agree_with_tables_mixed :
    Format.csv.delimiter? = some ',' ∧ rowsOf? ',' mixedText = some mixedRows ∧
      (Json.ofBytes? groupedText).bind tablesOfJson? = some (grouped mixedRows) ∧
      ∃ warehouse, parse .csv mixedText = .ok warehouse ∧
        parse .json groupedText = .ok warehouse := by
  have htext : rowsOf? ',' mixedText = some mixedRows := by decide +kernel
  have hdocument : (Json.ofBytes? groupedText).bind tablesOfJson? = some (grouped mixedRows) := by
    decide +kernel
  refine ⟨rfl, htext, hdocument, ?_⟩
  obtain ⟨hrows, hparse⟩ := rows_agree_with_tables mixedRows
  rcases hparse .csv ',' mixedText groupedText rfl htext hdocument with hsame | ⟨fault, _, hcsv, _⟩
  · exact hsame
  · -- nothing is wrong with these rows
    have hok : (ofRows mixedRows).isOk = true := by decide +kernel
    rw [parse_of_delimiter rfl, ofRecords_eq_ofRows htext] at hcsv
    rcases hrows with ⟨warehouse, hmade, _⟩ | ⟨fault', _, herror, _⟩
    · rw [hmade] at hcsv
      cases hcsv
    · rw [herror] at hok
      cases hok

end Snapshot

end ColumnRoles
