import DecoratorLint.Text.Pieces

/-!
# Coloured text

On a terminal parts of a report are coloured.  A style is switched on by an escape
sequence with its codes and switched off by the sequence with code zero.
-/

namespace DecoratorLint

/-- How a part of a report looks. -/
inductive Style where
  | red
  | yellow
  | brightGreen
  | brightWhite
  | dimmed
  | boldRed
  | boldYellow
  | boldBlue
  | boldCyan
  | boldWhite
deriving Repr, DecidableEq

namespace Style

/-- The codes of a style. -/
def codes : Style → String
  | .red => "31"
  | .yellow => "33"
  | .brightGreen => "92"
  | .brightWhite => "97"
  | .dimmed => "2"
  | .boldRed => "1;31"
  | .boldYellow => "1;33"
  | .boldBlue => "1;34"
  | .boldCyan => "1;36"
  | .boldWhite => "1;37"

/-- The escape sequence that starts a style. -/
def start (style : Style) : String :=
  "\x1b[" ++ style.codes ++ "m"

/-- The escape sequence that ends every style. -/
def reset : String :=
  "\x1b[0m"

/-- A text in a style.  Where the text itself ends all styles, the style is
switched on again. -/
def paint (style : Style) (coloured : Bool) (text : String) : String :=
  if coloured then
    style.start ++ Text.replaceAll text reset (reset ++ style.start) ++ reset
  else
    text

end Style

/-! ## Whether to colour -/

/-- What the surroundings of a run say about colours. -/
structure ColourWishes where
  /-- The value of `CLICOLOR_FORCE`, which asks for colours everywhere. -/
  force : Option String := none
  /-- The value of `NO_COLOR`, which asks for none. -/
  refuse : Option String := none
  /-- The value of `CLICOLOR`, which can switch them off on a terminal. -/
  allow : Option String := none
  /-- Whether the output goes to a terminal. -/
  terminal : Bool := false
deriving Repr, DecidableEq

/-- Whether a report is coloured.  Any value but `0` is a yes. -/
def ColourWishes.coloured (wishes : ColourWishes) : Bool :=
  if wishes.force.any (· ≠ "0") then
    true
  else if wishes.refuse.isSome then
    false
  else
    wishes.allow.all (· ≠ "0") && wishes.terminal

end DecoratorLint
