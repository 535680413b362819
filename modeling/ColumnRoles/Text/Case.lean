import ColumnRoles.Text.Table.Lower
import ColumnRoles.Text.Table.Cased
import ColumnRoles.Text.Table.CaseIgnorable

/-!
Lower-case forms of texts. Each character is mapped by itself, with one exception: the Greek
capital sigma becomes the final sigma where it ends a word, and the ordinary small sigma elsewhere.
-/
namespace ColumnRoles.Text

def isCased (c : Char) : Bool :=
  inRanges casedRanges c

def isCaseIgnorable (c : Char) : Bool :=
  inRanges caseIgnorableRanges c

def lowerChar (c : Char) : List Char :=
  if c.toNat < 0x80 then [c.toLower]
  else if c = '\u0130' then ['i', '\u0307']
  else [mapByRuns lowerRuns c]

def startsCased (text : List Char) : Bool :=
  match text.dropWhile isCaseIgnorable with
  | [] => false
  | c :: _ => isCased c

/-- The form of a capital sigma between `before`, read backwards, and `after`. -/
def lowerSigma (before after : List Char) : Char :=
  if startsCased before && !startsCased after then 'ς' else 'σ'

/-- The lower-case form of a text whose beginning, read backwards, is `before`. -/
def lowerAfter (before : List Char) : List Char → List Char
  | [] => []
  | c :: rest =>
    (if c = 'Σ' then [lowerSigma before rest] else lowerChar c) ++ lowerAfter (c :: before) rest

def lowerChars (text : List Char) : List Char :=
  lowerAfter [] text

def lowerCase (text : String) : String :=
  String.ofList (lowerChars text.toList)

end ColumnRoles.Text
