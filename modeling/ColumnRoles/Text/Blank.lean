import ColumnRoles.Text.CodeRange

/-!
Blank characters and trimming. Blanks are the characters with the Unicode property `White_Space`.
-/
namespace ColumnRoles.Text

def blankRanges : List CodeRange :=
  [(0x9, 0xD), (0x20, 0x20), (0x85, 0x85), (0xA0, 0xA0), (0x1680, 0x1680), (0x2000, 0x200A),
    (0x2028, 0x2029), (0x202F, 0x202F), (0x205F, 0x205F), (0x3000, 0x3000)]

def isBlank (c : Char) : Bool :=
  inRanges blankRanges c

def trimChars (text : List Char) : List Char :=
  ((text.dropWhile isBlank).reverse.dropWhile isBlank).reverse

def trim (text : String) : String :=
  String.ofList (trimChars text.toList)

def allBlank (text : String) : Bool :=
  text.toList.all isBlank

end ColumnRoles.Text
