import ColumnRoles.Text.Table.Unprintable
import ColumnRoles.Text.Table.Extender

/-!
Texts as they are shown to someone who inspects a value: in quotes, with escapes for everything
that would not be seen as itself.
-/
namespace ColumnRoles.Text

def hexDigits (code : Nat) : List Char :=
  Nat.toDigits 16 code

def codeEscape (c : Char) : List Char :=
  ['\\', 'u', '{'] ++ hexDigits c.toNat ++ ['}']

def inspectChar (c : Char) : List Char :=
  if c = '\x00' then ['\\', '0']
  else if c = '\t' then ['\\', 't']
  else if c = '\r' then ['\\', 'r']
  else if c = '\n' then ['\\', 'n']
  else if c = '"' then ['\\', '"']
  else if c = '\\' then ['\\', '\\']
  else if inRanges extenderRanges c || inRanges unprintableRanges c then codeEscape c
  else [c]

def inspect (text : String) : String :=
  String.ofList ('"' :: text.toList.flatMap inspectChar ++ ['"'])

end ColumnRoles.Text
