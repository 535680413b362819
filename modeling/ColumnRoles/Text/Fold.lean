import ColumnRoles.Text.CodeSet
import ColumnRoles.Text.Table.Fold

/-!
Comparing characters without regard to case: two characters are the same letter when they fold to
the same character. What a letter folds to folds to itself.
-/
namespace ColumnRoles.Text

def foldedOf (range : CodeRange) : List CodeRange :=
  (foldRuns.flatMap (·.imagesOf range)).map .single

def unfoldedOf (range : CodeRange) : List CodeRange :=
  (foldRuns.flatMap (·.sourcesOf range)).map .single

/-- The characters that are the same letter as a member of the set: its members, what they fold
to, and all that folds to one or the other. -/
def ignoringCase (ranges : List CodeRange) : List CodeRange :=
  let folded := ranges ++ ranges.flatMap foldedOf
  unionOf (folded ++ folded.flatMap unfoldedOf)

end ColumnRoles.Text
