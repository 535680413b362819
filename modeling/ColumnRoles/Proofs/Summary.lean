import ColumnRoles.CommandLine
import ColumnRoles.Proofs.Counts
import ColumnRoles.Proofs.Digits
import ColumnRoles.Proofs.Quotes

/-!
What the command line prints about a file, and how its summary follows from the report. The rows of
the table are the decisions, or the unresolved ones among them; the summary has a line for each role
that some column has and one for the columns without a role, if there are any. The line that says
that every column was resolved is told from all others by how they begin: most of them are indented,
and those in bold are switched to another style.
-/
namespace ColumnRoles.CommandLine

open Resolver (head?_append)

/-- What a line of the summary counts. -/
inductive Topic where
  | role (role : Role)
  /-- The columns that are left without a role. -/
  | unresolved
deriving DecidableEq, Repr

def Topic.name : Topic → String
  | role r => r.name
  | unresolved => "UNRESOLVED"

def Topic.style : Topic → Style
  | role _ => .white
  | unresolved => .red

/-- The name of the topic in a column of its own, and behind it the count in digits. -/
def Topic.line (color : Bool) (topic : Topic) (count : Nat) : String :=
  "  " ++ padRight 24 topic.name ++ " " ++ paint color topic.style (toString count)

section Tally

variable (report : Report)

end Tally

section Beginnings

variable {color : Bool} {line : String}

end Beginnings

section Lines

variable {color : Bool} {line : String}

end Lines

section Rows

variable (report : Report)

end Rows

end ColumnRoles.CommandLine
