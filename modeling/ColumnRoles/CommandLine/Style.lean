/-!
Styled text for terminals. A style is a list of codes that is switched on before the text and off
behind it.
-/
namespace ColumnRoles.CommandLine

inductive Style where
  | plain
  | bold
  | dimmed
  | red
  | green
  | yellow
  | white
  | boldRed
  | boldYellow
  | boldCyan
  | boldWhite
deriving DecidableEq, Repr

def Style.codes : Style → String
  | plain => ""
  | bold => "1"
  | dimmed => "2"
  | red => "31"
  | green => "32"
  | yellow => "33"
  | white => "37"
  | boldRed => "1;31"
  | boldYellow => "1;33"
  | boldCyan => "1;36"
  | boldWhite => "1;37"

def styleOff : String := "\x1b[0m"

/-- Whether styles are wanted, by three settings of the environment and by where the output goes. A
setting is on unless it is zero; the one that forces styles comes before the one that forbids
them. -/
def stylesWanted (forced forbidden usual : Option String) (onTerminal : Bool) : Bool :=
  forced.any (· ≠ "0") || (forbidden.isNone && usual.all (· ≠ "0") && onTerminal)

/-- The text in a style, if styles are wanted. Where the text itself switches styles off, the style
is switched on again. -/
def paint (color : Bool) (style : Style) (text : String) : String :=
  if !color || style = .plain then text
  else
    let codes := style.codes
    let on := s!"\x1b[{codes}m"
    on ++ text.replace styleOff (styleOff ++ on) ++ styleOff

def padRight (width : Nat) (text : String) : String :=
  text ++ String.ofList (List.replicate (width - text.length) ' ')

def padLeft (width : Nat) (text : String) : String :=
  String.ofList (List.replicate (width - text.length) ' ') ++ text

end ColumnRoles.CommandLine
