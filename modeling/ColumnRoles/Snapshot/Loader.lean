import ColumnRoles.Digest
import ColumnRoles.Files
import ColumnRoles.Snapshot.Document
import ColumnRoles.Snapshot.Format
import ColumnRoles.Snapshot.Records

/-!
Loading snapshots: their bytes in one of three formats, or a file, whose name tells the format
unless it is given. What was loaded from a file comes with an account of that file.
-/
namespace ColumnRoles.Snapshot

/-- The warehouse that a byte sequence describes. -/
def parse (format : Format) (bytes : ByteArray) : Except Error Warehouse :=
  match format with
  | .json => ofDocument bytes
  | .csv => ofRecords ',' bytes
  | .tsv => ofRecords '\t' bytes

structure Source where
  /-- The name of the file without the way to it. -/
  file : String
  path : String
  /-- The digest of its contents. -/
  hash : String
  size : Nat
  format : Format
  tableCount : Nat
  columnCount : Nat
  /-- The moment at which it was read. -/
  loadedAt : String
deriving DecidableEq, Repr

def Source.describe (path : String) (format : Format) (bytes : ByteArray) (warehouse : Warehouse)
    (now : String) : Source :=
  let digest := Digest.sha256 bytes
  { file := String.ofList ((fileName? path).getD []), path, hash := s!"sha256:{digest}",
    size := bytes.size, format, tableCount := warehouse.tableCount,
    columnCount := warehouse.columnCount, loadedAt := now }

/-- Load a snapshot from a file. The format is settled before the file is read. -/
def load (files : Files) (now : String) (given : Option Format) (path : String) :
    Except Error (Warehouse × Source) := do
  let format ←
    match given with
    | some format => .ok format
    | none => formatOfPath path
  let bytes ← (files.read path).mapError (.file path)
  let warehouse ← parse format bytes
  .ok (warehouse, .describe path format bytes warehouse now)

end ColumnRoles.Snapshot
