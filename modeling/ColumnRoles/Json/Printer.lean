import ColumnRoles.Json

/-!
JSON values as text, in one line or laid out over several. Characters are escaped only where they
must be. A literal that denotes no text is written as half a surrogate pair.
-/
namespace ColumnRoles.Json

def numeralChars (n : Numeral) : List Char :=
  (if n.negative then ['-'] else []) ++ n.whole.map Nat.digitChar ++
    (if n.fraction.isEmpty then [] else '.' :: n.fraction.map Nat.digitChar) ++
    match n.exponent with
    | none => []
    | some e => 'e' :: (if e < 0 then ['-'] else []) ++ Nat.toDigits 10 e.natAbs

def escapeChar (c : Char) : List Char :=
  if c = '"' then ['\\', '"']
  else if c = '\\' then ['\\', '\\']
  else if c = '\x08' then ['\\', 'b']
  else if c = '\x0c' then ['\\', 'f']
  else if c = '\n' then ['\\', 'n']
  else if c = '\r' then ['\\', 'r']
  else if c = '\t' then ['\\', 't']
  else if c.toNat < 0x20 then
    ['\\', 'u', '0', '0', Nat.digitChar (c.toNat / 16), Nat.digitChar (c.toNat % 16)]
  else [c]

def literalChars : Literal → List Char
  | some t => '"' :: t.toList.flatMap escapeChar ++ ['"']
  | none => "\"\\ud800\"".toList

mutual

/-- A value in one line, without blanks. -/
def compactChars : Json → List Char
  | .null => ['n', 'u', 'l', 'l']
  | .bool true => ['t', 'r', 'u', 'e']
  | .bool false => ['f', 'a', 'l', 's', 'e']
  | .number n => numeralChars n
  | .text t => literalChars t
  | .list [] => ['[', ']']
  | .list (item :: rest) => '[' :: compactChars item ++ compactItems rest
  | .record [] => ['{', '}']
  | .record (member :: rest) =>
    '{' :: literalChars member.1 ++ ':' :: compactChars member.2 ++ compactMembers rest

def compactItems : List Json → List Char
  | [] => [']']
  | item :: rest => ',' :: compactChars item ++ compactItems rest

def compactMembers : List (Literal × Json) → List Char
  | [] => ['}']
  | member :: rest =>
    ',' :: literalChars member.1 ++ ':' :: compactChars member.2 ++ compactMembers rest

end

def compact (value : Json) : String :=
  String.ofList (compactChars value)

def lineBreak (level : Nat) : List Char :=
  '\n' :: List.replicate (2 * level) ' '

mutual

/-- A value laid out over lines, every item and member on its own. -/
def prettyChars (level : Nat) : Json → List Char
  | .null => ['n', 'u', 'l', 'l']
  | .bool true => ['t', 'r', 'u', 'e']
  | .bool false => ['f', 'a', 'l', 's', 'e']
  | .number n => numeralChars n
  | .text t => literalChars t
  | .list [] => ['[', ']']
  | .list (item :: rest) =>
    '[' :: lineBreak (level + 1) ++ prettyChars (level + 1) item ++ prettyItems level rest
  | .record [] => ['{', '}']
  | .record (member :: rest) =>
    '{' :: lineBreak (level + 1) ++ literalChars member.1 ++ ':' :: ' ' ::
      prettyChars (level + 1) member.2 ++ prettyMembers level rest

def prettyItems (level : Nat) : List Json → List Char
  | [] => lineBreak level ++ [']']
  | item :: rest =>
    ',' :: lineBreak (level + 1) ++ prettyChars (level + 1) item ++ prettyItems level rest

def prettyMembers (level : Nat) : List (Literal × Json) → List Char
  | [] => lineBreak level ++ ['}']
  | member :: rest =>
    ',' :: lineBreak (level + 1) ++ literalChars member.1 ++ ':' :: ' ' ::
      prettyChars (level + 1) member.2 ++ prettyMembers level rest

end

def pretty (value : Json) : String :=
  String.ofList (prettyChars 0 value)

end ColumnRoles.Json
