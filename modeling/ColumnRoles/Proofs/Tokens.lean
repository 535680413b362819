import ColumnRoles.Json.Printer
import ColumnRoles.Json.Token
import ColumnRoles.Proofs.Digits
import Mathlib.Tactic.IntervalCases

/-!
The tokens of a printed value. Every value has its tokens, and a text in which the value was printed
is scanned into just these. A literal or a word is complete at its last character; a numeral is not,
as more digits could follow, so a scan that has read a value may still stand in its last numeral
until the comma or bracket behind it. Values are restricted to those that the library prints:
numbers are natural, and every literal denotes a text.
-/
namespace ColumnRoles.Json

/-- A value in which numbers are natural and every literal denotes a text. -/
inductive Plain : Json → Prop
  | null : Plain .null
  | bool (value : Bool) : Plain (.bool value)
  | nat (n : Nat) : Plain (ofNat n)
  | text (t : String) : Plain (ofText t)
  | list {items : List Json} (h : ∀ item ∈ items, Plain item) : Plain (.list items)
  | record {members : List (String × Json)} (h : ∀ member ∈ members, Plain member.2) :
      Plain (ofMembers members)

mutual

def tokensOf : Json → List Token
  | .null => [.scalar .null]
  | .bool b => [.scalar (.bool b)]
  | .number n => [.scalar (.number n)]
  | .text t => [.text t]
  | .list [] => [.listStart, .listEnd]
  | .list (item :: rest) => .listStart :: tokensOf item ++ itemTokens rest
  | .record [] => [.recordStart, .recordEnd]
  | .record (member :: rest) =>
    .recordStart :: .text member.1 :: .colon :: tokensOf member.2 ++ memberTokens rest

def itemTokens : List Json → List Token
  | [] => [.listEnd]
  | item :: rest => .comma :: tokensOf item ++ itemTokens rest

def memberTokens : List (Literal × Json) → List Token
  | [] => [.recordEnd]
  | member :: rest =>
    .comma :: .text member.1 :: .colon :: tokensOf member.2 ++ memberTokens rest

end

namespace Scan

def read? (scan : Scan) (chars : List Char) : Option Scan :=
  (chars.map some).foldlM Scan.next? scan

theorem read?_nil (scan : Scan) : scan.read? [] = some scan :=
  rfl

theorem read?_cons (scan : Scan) (c : Char) (rest : List Char) :
    scan.read? (c :: rest) = (scan.next? (some c)).bind (·.read? rest) := by
  rw [read?, List.map_cons, List.foldlM_cons]
  rfl

theorem read?_append (scan : Scan) (before behind : List Char) :
    scan.read? (before ++ behind) = (scan.read? before).bind (·.read? behind) := by
  rw [read?, List.map_append, List.foldlM_append]
  rfl

end Scan

section Literals

def Piece.ofChar (c : Char) : Piece :=
  if c.toNat < 0x20 ∧ c ≠ '\x08' ∧ c ≠ '\x0c' ∧ c ≠ '\n' ∧ c ≠ '\r' ∧ c ≠ '\t' then .unit c.toNat
  else .char c

theorem Piece.decodeAfter_ofChar (read chars : List Char) :
    decodeAfter read (chars.map ofChar) = some (read.reverse ++ chars) := by
  induction chars generalizing read with
  | nil => simp [decodeAfter]
  | cons c rest ih =>
    have hstep : decodeAfter read ((c :: rest).map ofChar) =
        decodeAfter (c :: read) (rest.map ofChar) := by
      rw [List.map_cons]
      by_cases hunit : c.toNat < 0x20 ∧ c ≠ '\x08' ∧ c ≠ '\x0c' ∧ c ≠ '\n' ∧ c ≠ '\r' ∧ c ≠ '\t'
      · have hhigh : isHighSurrogate c.toNat = false := by
          simp only [isHighSurrogate, Bool.and_eq_false_iff, decide_eq_false_iff_not]
          omega
        have hlow : isLowSurrogate c.toNat = false := by
          simp only [isLowSurrogate, Bool.and_eq_false_iff, decide_eq_false_iff_not]
          omega
        rw [ofChar, if_pos hunit]
        -- a unit is looked at together with a unit behind it
        cases hnext : rest.map ofChar with
        | nil => simp [decodeAfter, hhigh, hlow]
        | cons piece pieces => cases piece <;> simp [decodeAfter, hhigh, hlow]
      · rw [ofChar, if_neg hunit, decodeAfter]
    rw [hstep, ih]
    simp

theorem LiteralDraft.hexValue?_digitChar {d : Nat} (h : d < 16) :
    hexValue? (Nat.digitChar d) = some d := by
  have hall : ∀ d < 16, hexValue? (Nat.digitChar d) = some d := by decide
  exact hall d h

def Scan.inLiteral (tokens : List Token) (pieces : List Piece) : Scan :=
  { tokens, part := .literal { pieces } }

/-- A printed character is read as one piece. -/
theorem read?_escapeChar (tokens : List Token) (pieces : List Piece) (c : Char) :
    (Scan.inLiteral tokens pieces).read? (escapeChar c) =
      some (.inLiteral tokens (.ofChar c :: pieces)) := by
  unfold escapeChar
  split
  · next h => subst h; rfl
  split
  · next h => subst h; rfl
  split
  · next h => subst h; rfl
  split
  · next h => subst h; rfl
  split
  · next h => subst h; rfl
  split
  · next h => subst h; rfl
  split
  · next h => subst h; rfl
  · next hquote hbackslash hb hf hn hr ht =>
    by_cases hcontrol : c.toNat < 0x20
    · have hpiece : Piece.ofChar c = .unit c.toNat := if_pos ⟨hcontrol, hb, hf, hn, hr, ht⟩
      have hhigh := LiteralDraft.hexValue?_digitChar (d := c.toNat / 16) (by omega)
      have hlow := LiteralDraft.hexValue?_digitChar (d := c.toNat % 16) (by omega)
      have hzero : LiteralDraft.hexValue? '0' = some 0 := rfl
      have hcode : 16 * (c.toNat / 16) + c.toNat % 16 = c.toNat := by omega
      rw [if_pos hcontrol, hpiece]
      simp [Scan.read?_cons, Scan.read?_nil, Scan.inLiteral, Scan.next?, LiteralDraft.next?,
        LiteralDraft.add, hhigh, hlow, hzero, hcode]
    · have hpiece : Piece.ofChar c = .char c := if_neg fun h => hcontrol h.1
      rw [if_neg hcontrol, hpiece]
      simp [Scan.read?_cons, Scan.read?_nil, Scan.inLiteral, Scan.next?, LiteralDraft.next?,
        LiteralDraft.add, hquote, hbackslash, hcontrol]

theorem read?_escaped (tokens : List Token) (pieces : List Piece) (chars : List Char) :
    (Scan.inLiteral tokens pieces).read? (chars.flatMap escapeChar) =
      some (.inLiteral tokens ((chars.map .ofChar).reverse ++ pieces)) := by
  induction chars generalizing pieces with
  | nil => rfl
  | cons c rest ih =>
    rw [List.flatMap_cons, Scan.read?_append, read?_escapeChar, Option.bind_some, ih]
    simp

/-- A printed text is read as a literal that denotes it. -/
theorem read?_literalChars (tokens : List Token) (t : String) :
    ({ tokens } : Scan).read? (literalChars (some t)) =
      some { tokens := .text (some t) :: tokens } := by
  have hopen : ({ tokens } : Scan).next? (some '"') = some (.inLiteral tokens []) := rfl
  have hclose : ∀ pieces, (Scan.inLiteral tokens pieces).read? ['"'] =
      some { tokens := .text (Piece.decode pieces.reverse) :: tokens } := by
    intro pieces
    rw [Scan.read?_cons]
    simp [Scan.inLiteral, Scan.next?, Scan.emit, Scan.read?_nil, LiteralDraft.literal]
  have hdecode : Piece.decode (t.toList.map .ofChar) = some t := by
    rw [Piece.decode, Piece.decodeAfter_ofChar, Option.map_some]
    simp
  have hchars : literalChars (some t) = '"' :: (t.toList.flatMap escapeChar ++ ['"']) := rfl
  rw [hchars, Scan.read?_cons, hopen, Option.bind_some, Scan.read?_append, read?_escaped,
    Option.bind_some, hclose, List.append_nil, List.reverse_reverse, hdecode]

end Literals

section Numerals

def NumeralDraft.ofNat (n : Nat) : NumeralDraft :=
  { stage := if n = 0 then .zero else .whole, whole := (Numeral.ofNat n).whole.reverse }

theorem numeralChars_ofNat (n : Nat) : numeralChars (.ofNat n) = Nat.toDigits 10 n := by
  have hall : ∀ d < 10, Nat.digitChar ((Nat.digitChar d).toNat - '0'.toNat) = Nat.digitChar d := by
    decide
  have hdigit : ∀ c ∈ Nat.toDigits 10 n, Nat.digitChar (c.toNat - '0'.toNat) = c :=
    Text.forall_mem_toDigits hall n
  have hdigits : (Nat.toDigits 10 n).map (fun c => Nat.digitChar (c.toNat - '0'.toNat)) =
      Nat.toDigits 10 n := by
    rw [List.map_congr_left hdigit, List.map_id']
  simpa [numeralChars, Numeral.ofNat, Function.comp_def] using hdigits

theorem NumeralDraft.numeral?_ofNat (n : Nat) : (ofNat n).numeral? = some (.ofNat n) := by
  unfold ofNat numeral?
  by_cases hn : n = 0 <;> simp [hn, Numeral.ofNat]

/-- A digit behind a number makes it the number with that digit. -/
theorem NumeralDraft.next?_ofNat {n d : Nat} (hn : 0 < n) (hd : d < 10) :
    (ofNat n).next? (Nat.digitChar d) = some (ofNat (10 * n + d)) := by
  have hwhole : (Numeral.ofNat (10 * n + d)).whole = (Numeral.ofNat n).whole ++ [d] := by
    have hdigit : (Nat.digitChar d).toNat - '0'.toNat = d := Nat.toNat_digitChar_sub_48_of_lt_ten hd
    rw [Numeral.ofNat, ← Nat.toDigits_append_toDigits (by decide) hn hd,
      Nat.toDigits_of_lt_base hd, List.map_append, List.map_singleton, hdigit]
    rfl
  have hstage : (if n = 0 then NumeralStage.zero else .whole) = .whole := if_neg (by omega)
  have hstage' : (if 10 * n + d = 0 then NumeralStage.zero else .whole) = .whole :=
    if_neg (by omega)
  have hdigit : (Nat.digitChar d).toNat - 48 = d := Nat.toNat_digitChar_sub_48_of_lt_ten hd
  unfold ofNat next?
  rw [hwhole, hstage, hstage']
  simp [hd, hdigit]

theorem read?_toDigits (tokens : List Token) (n : Nat) :
    ({ tokens } : Scan).read? (Nat.toDigits 10 n) =
      some { tokens, part := .numeral (.ofNat n) } := by
  induction n using Nat.strong_induction_on with
  | _ n ih =>
    by_cases hsmall : n < 10
    · have hall : ∀ n < 10, ({ tokens } : Scan).next? (some (Nat.digitChar n)) =
          some { tokens, part := .numeral (.ofNat n) } := by
        intro n hn
        interval_cases n <;> rfl
      rw [Nat.toDigits_of_lt_base hsmall, Scan.read?_cons, hall n hsmall]
      rfl
    · have hfront := ih (n / 10) (by omega)
      have hnext := NumeralDraft.next?_ofNat (n := n / 10) (d := n % 10) (by omega) (by omega)
      have hvalue : 10 * (n / 10) + n % 10 = n := by omega
      rw [hvalue] at hnext
      rw [Nat.toDigits_of_base_le (by decide) (by omega), Scan.read?_append, hfront,
        Option.bind_some, Scan.read?_cons]
      simp [Scan.next?, hnext, Scan.read?_nil]

end Numerals

/-- The tokens that a scan has read, last one first. The last may be a number that is still open. -/
inductive Scan.Reads : Scan → List Token → Prop
  | complete (tokens : List Token) : Reads { tokens } tokens
  | numeral (tokens : List Token) (n : Nat) :
      Reads { tokens, part := .numeral (.ofNat n) } (.scalar (.number (.ofNat n)) :: tokens)

namespace Scan.Reads

variable {scan : Scan} {tokens : List Token}

/-- A number ends at a character that no number goes on with. -/
theorem next? (h : Reads scan tokens) {c : Char} (hc : c = ',' ∨ c = ']' ∨ c = '\x7d') :
    scan.next? (some c) = ({ tokens } : Scan).begin? c := by
  cases h with
  | complete => rfl
  | numeral tokens n =>
    have hstop : (NumeralDraft.ofNat n).next? c = none := by
      unfold NumeralDraft.ofNat NumeralDraft.next?
      by_cases hn : n = 0 <;> rcases hc with rfl | rfl | rfl <;> simp [hn]
    simp only [Scan.next?, hstop, NumeralDraft.numeral?_ofNat]
    rfl

theorem result? (h : Reads scan tokens) : scan.result? = some tokens.reverse := by
  cases h with
  | complete => rfl
  | numeral tokens n =>
    simp only [Scan.result?, NumeralDraft.numeral?_ofNat]
    rfl

end Scan.Reads

/-- The text of the value is scanned into its tokens, whatever was read before. -/
def Scanned (value : Json) : Prop :=
  ∀ tokens, ∃ scan, ({ tokens } : Scan).read? (compactChars value) = some scan ∧
    scan.Reads ((tokensOf value).reverse ++ tokens)

section Structures

variable {scan : Scan} {tokens : List Token}

theorem Scan.Reads.read?_comma (h : scan.Reads tokens) (rest : List Char) :
    scan.read? (',' :: rest) = ({ tokens := .comma :: tokens } : Scan).read? rest := by
  rw [Scan.read?_cons, h.next? (Or.inl rfl)]
  rfl

theorem read?_items {items : List Json} (hitems : ∀ item ∈ items, Scanned item)
    (h : scan.Reads tokens) :
    scan.read? (compactItems items) = some { tokens := (itemTokens items).reverse ++ tokens } := by
  -- the scan before an item may still stand in the number before it, which the comma ends
  induction items generalizing scan tokens with
  | nil =>
    rw [compactItems, Scan.read?_cons, h.next? (Or.inr (Or.inl rfl))]
    rfl
  | cons item rest ih =>
    obtain ⟨behind, hread, hreads⟩ := hitems item (by simp) (.comma :: tokens)
    have hrest := ih (fun other hother => hitems other (List.mem_cons_of_mem _ hother)) hreads
    rw [compactItems, List.cons_append, h.read?_comma, Scan.read?_append, hread, Option.bind_some,
      hrest, itemTokens]
    simp

/-- A key and its colon. -/
theorem read?_key (tokens : List Token) (key : String) (rest : List Char) :
    ({ tokens } : Scan).read? (literalChars (some key) ++ ':' :: rest) =
      ({ tokens := .colon :: .text (some key) :: tokens } : Scan).read? rest := by
  rw [Scan.read?_append, read?_literalChars, Option.bind_some, Scan.read?_cons]
  rfl

theorem read?_members {members : List (String × Json)}
    (hmembers : ∀ member ∈ members, Scanned member.2) (h : scan.Reads tokens) :
    scan.read? (compactMembers (members.map fun m => (some m.1, m.2))) =
      some
        { tokens := (memberTokens (members.map fun m => (some m.1, m.2))).reverse ++ tokens } := by
  induction members generalizing scan tokens with
  | nil =>
    rw [List.map_nil, compactMembers, Scan.read?_cons, h.next? (Or.inr (Or.inr rfl))]
    rfl
  | cons member rest ih =>
    obtain ⟨behind, hread, hreads⟩ :=
      hmembers member (by simp) (.colon :: .text (some member.1) :: .comma :: tokens)
    have hrest := ih (fun other hother => hmembers other (List.mem_cons_of_mem _ hother)) hreads
    rw [List.map_cons, compactMembers]
    simp only [List.cons_append, List.append_assoc]
    rw [h.read?_comma, read?_key, Scan.read?_append, hread, Option.bind_some, hrest, memberTokens]
    simp

end Structures

/-- A printed value is scanned into its tokens. -/
theorem Plain.scanned {value : Json} (h : Plain value) : Scanned value := by
  intro tokens
  -- the first item of a list and the first member of a record have no comma before them
  induction h generalizing tokens with
  | null => exact ⟨_, rfl, .complete _⟩
  | bool value => cases value <;> exact ⟨_, rfl, .complete _⟩
  | nat n =>
    refine ⟨_, ?_, .numeral tokens n⟩
    rw [ofNat, compactChars, numeralChars_ofNat, read?_toDigits]
  | text t =>
    refine ⟨_, ?_, .complete _⟩
    rw [ofText, compactChars, read?_literalChars]
    rfl
  | @list items _ ih =>
    cases items with
    | nil => exact ⟨_, rfl, .complete _⟩
    | cons item rest =>
      obtain ⟨scan, hread, hreads⟩ := ih item (by simp) (.listStart :: tokens)
      have hrest := read?_items
        (fun other hother => ih other (List.mem_cons_of_mem _ hother)) hreads
      have hopen : ({ tokens } : Scan).next? (some '[') = some { tokens := .listStart :: tokens } :=
        rfl
      refine ⟨_, ?_, .complete _⟩
      rw [compactChars, List.cons_append, Scan.read?_cons, hopen, Option.bind_some,
        Scan.read?_append, hread, Option.bind_some, hrest, tokensOf]
      simp
  | @record members _ ih =>
    cases members with
    | nil => exact ⟨_, rfl, .complete _⟩
    | cons member rest =>
      obtain ⟨scan, hread, hreads⟩ :=
        ih member (by simp) (.colon :: .text (some member.1) :: .recordStart :: tokens)
      have hrest := read?_members
        (fun other hother => ih other (List.mem_cons_of_mem _ hother)) hreads
      have hopen : ({ tokens } : Scan).next? (some '\x7b') =
          some { tokens := .recordStart :: tokens } := rfl
      refine ⟨_, ?_, .complete _⟩
      rw [ofMembers, List.map_cons, compactChars]
      simp only [List.cons_append, List.append_assoc]
      rw [Scan.read?_cons, hopen, Option.bind_some, read?_key, Scan.read?_append, hread,
        Option.bind_some, hrest, tokensOf]
      simp

/-- The text of a value has the tokens of the value. -/
theorem Plain.tokens?_compact {value : Json} (h : Plain value) :
    tokens? (Text.symbolsOfText (compact value)) = some (tokensOf value) := by
  obtain ⟨scan, hread, hreads⟩ := h.scanned []
  have hscan : (Text.symbolsOfText (compact value)).foldlM Scan.next? {} = some scan := by
    rw [← hread, Text.symbolsOfText, compact, String.toList_ofList]
    rfl
  rw [tokens?, hscan]
  simpa using hreads.result?

end ColumnRoles.Json
