import ReportSegments.Text.Pieces

/-!
This module contains the styles of text on a terminal. A style starts with a control sequence and
lasts until the reset behind the text; a reset inside the text starts the style again.
-/

namespace ReportSegments

inductive Style where
  | bold
  | yellow
deriving DecidableEq, Repr

namespace Style

def start : Style → String
  | bold => "\x1b[1m"
  | yellow => "\x1b[33m"

def reset : String := "\x1b[0m"

def apply (style : Style) (coloured : Bool) (s : String) : String :=
  if coloured then
    style.start ++ String.intercalate (reset ++ style.start) (Text.splitOn reset s) ++ reset
  else
    s

end Style
end ReportSegments
